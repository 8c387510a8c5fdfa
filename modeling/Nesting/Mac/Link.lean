import Nesting.Mac.Conserve
import Nesting.Mac.Sending

/-!
# From one MAC to the next

* `waitingExpress`    the express frames that the MAC has accepted and not started;
* `Roomy`             a frame finds room, and an express frame does not drive out another one;
* `ExpressBooks`, `Completes`   the invariants for express frames and for the parts of the others;
* `link_in_order`     **the other side of the link gets what the MAC has accepted**, in order.
-/

set_option linter.unusedVariables false

namespace Nesting

namespace PhysMessage

/-- the frame of a signal -/
def signal? : PhysMessage → Option Packet
  | .ethernetSignal frame => some frame
  | .preemptedFrame _ => none

end PhysMessage

namespace EtherMac

open Lib

variable {cfg : MacConfig} {s s' : EtherMac} {e : MacEvent}

/-! ## express frames -/

def acceptedExpress (s : EtherMac) : List Packet :=
  s.history.filterMap fun r =>
    match r with
    | .accepted packet => if packet.express then some packet else none
    | _ => none

/-- the frames that were sent as a whole -/
def sentExpress (s : EtherMac) : List Packet :=
  s.history.filterMap fun r =>
    match r with
    | .express frame => some frame
    | _ => none

def waitingExpress (s : EtherMac) : List Packet :=
  s.currentExpressFrame.toList ++
    if s.transmittingExpressFrame then [] else s.curTxFrame.toList.filter Packet.express

/-- a frame finds room, a paused MAC has no frame to send yet, and no other express frame waits -/
def Roomy (s : EtherMac) (packet : Packet) : Prop :=
  s.Receptive packet ∧ (s.transmitState = .PAUSE_STATE → s.curTxFrame = none) ∧
    (packet.express = true → s.currentExpressFrame = none)

instance (s : EtherMac) (packet : Packet) : Decidable (s.Roomy packet) :=
  inferInstanceAs (Decidable (_ ∧ _ ∧ _))

def ExpressBooks (s : EtherMac) : Prop := s.acceptedExpress = s.sentExpress ++ s.waitingExpress

theorem ExpressBooks.of_frames (h : ExpressBooks s) (hc : s'.frames = s.frames) : ExpressBooks s' := by
  have hs : ExpressBooks s.frames := h
  rw [← hc] at hs
  exact hs

/-- a record that is neither an accepted nor a started express frame -/
theorem ExpressBooks.record (h : ExpressBooks s) {r : MacRecord}
    (hh : s'.history = s.history ++ [r])
    (ha : ∀ packet, r = .accepted packet → packet.express = false) (hr : ∀ frame, r ≠ .express frame)
    (hw : s'.waitingExpress = s.waitingExpress) : ExpressBooks s' := by
  have hacc : s'.acceptedExpress = s.acceptedExpress := by
    unfold acceptedExpress
    rw [hh, List.filterMap_append]
    cases r with
    | accepted packet => simp [ha packet rfl]
    | _ => simp
  have hsent : s'.sentExpress = s.sentExpress := by
    unfold sentExpress
    rw [hh, List.filterMap_append]
    cases r with
    | express frame => exact absurd rfl (hr frame)
    | _ => simp
  unfold ExpressBooks
  rw [hacc, hsent, hw]
  exact h

/-- an express frame that has waited is started -/
theorem ExpressBooks.start (h : ExpressBooks s) {frame : Packet}
    (hh : s'.history = s.history ++ [.express frame])
    (hw : s.waitingExpress = [frame]) (hw' : s'.waitingExpress = []) : ExpressBooks s' := by
  have hacc : s'.acceptedExpress = s.acceptedExpress := by
    unfold acceptedExpress
    rw [hh]
    simp
  have hsent : s'.sentExpress = s.sentExpress ++ [frame] := by
    unfold sentExpress
    rw [hh]
    simp
  unfold ExpressBooks at h ⊢
  rw [hacc, hsent, h, hw, hw', List.append_nil]

/-- an express frame is accepted -/
theorem ExpressBooks.accept (h : ExpressBooks s) {packet : Packet} (hx : packet.express = true)
    (hh : s'.history = s.history ++ [.accepted packet])
    (hw : s'.waitingExpress = s.waitingExpress ++ [packet]) : ExpressBooks s' := by
  have hacc : s'.acceptedExpress = s.acceptedExpress ++ [packet] := by
    unfold acceptedExpress
    rw [hh]
    simp [hx]
  have hsent : s'.sentExpress = s.sentExpress := by
    unfold sentExpress
    rw [hh]
    simp
  unfold ExpressBooks at h ⊢
  rw [hacc, hsent, hw, h, List.append_assoc]

theorem waitingExpress_eq (he : s.transmittingExpressFrame = false) : s.waitingExpress =
    s.currentExpressFrame.toList ++ s.curTxFrame.toList.filter Packet.express := by
  unfold waitingExpress
  rw [he]
  rfl

theorem waitingExpress_of_sending (he : s.transmittingExpressFrame = true) :
    s.waitingExpress = s.currentExpressFrame.toList := by
  unfold waitingExpress
  rw [he, if_pos rfl, List.append_nil]

/-- no express frame is about to be sent -/
theorem waitingExpress_of_cur (h : ∀ frame ∈ s.curTxFrame, frame.express = false) :
    s.waitingExpress = s.currentExpressFrame.toList := by
  cases he : s.transmittingExpressFrame with
  | true => exact waitingExpress_of_sending he
  | false =>
    rw [waitingExpress_eq he]
    cases hc : s.curTxFrame with
    | none => simp
    | some frame => simp [h frame (by rw [hc]; rfl)]

/-- what comes after a gap, a pause or a release -/
theorem nextFrame_express (henable : cfg.enablePreemptingFrames = true) (h : ExpressBooks s)
    (ht : Timing cfg s) (he : s.transmittingExpressFrame = false)
    (hn : (s.getNextFrameFromQueue cfg >>= fun s => s.beginSendFrames cfg) = .ok s') :
    ExpressBooks s' := by
  obtain ⟨hc, s1, hnext, ⟨frame, hframe, _, _, _, hstart⟩ | ⟨hnone, rfl⟩⟩ := nextFrame_ok hn
  · have hwait : s.waitingExpress = s.currentExpressFrame.toList :=
      waitingExpress_of_cur (by rw [hc]; nofun)
    cases hnext with
    | stored frame' hw =>
      cases hframe
      have hx := (ht.waiting frame hw).1
      cases hstart with
      | express =>
        refine h.start rfl ?_ (waitingExpress_of_sending rfl)
        rw [hwait, hw]
        rfl
      | new hno => exact absurd (hx.symm.trans hno.2) nofun
      | resumed hno => exact absurd (hx.symm.trans hno.2) nofun
    | resumed frame' hnone _ hf ts =>
      cases hframe
      have hx := (ht.current frame hf).1
      have hcur : ∀ f ∈ some frame, f.express = false := fun f hf => (Option.some.inj hf) ▸ hx
      cases hstart with
      | express hex =>
        rw [henable, hx] at hex
        exact hex.elim nofun nofun
      | new => exact h.record rfl nofun nofun ((waitingExpress_of_cur hcur).trans hwait.symm)
      | resumed => exact h.record rfl nofun nofun ((waitingExpress_of_cur hcur).trans hwait.symm)
    | nothing => exact absurd (hc.symm.trans hframe) nofun
  · cases hnext with
    | stored => cases hnone
    | resumed => cases hnone
    | nothing => exact h.of_frames rfl

/-- where an idle or a paused MAC keeps the new frame -/
theorem ExpressBooks.store {packet : Packet} (h : ExpressBooks s)
    (he : s.transmittingExpressFrame = false) (hc : s.curTxFrame = none)
    (hx : packet.express = true → s.currentExpressFrame = none) :
    ExpressBooks ({ s with
      history := s.history ++ [MacRecord.accepted packet]
      curTxFrame := some packet }.storeOnHold packet) := by
  have hwait : s.waitingExpress = s.currentExpressFrame.toList :=
    waitingExpress_of_cur (by rw [hc]; nofun)
  cases hpx : packet.express with
  | true =>
    rw [storeOnHold_express hpx]
    refine h.accept hpx rfl ((waitingExpress_eq ?_).trans ?_)
    · exact he
    · rw [hwait, hx hpx]
      simp [hpx]
  | false =>
    have hcur : ∀ m : EtherMac, m.currentExpressFrame = s.currentExpressFrame →
        (∀ frame ∈ m.curTxFrame, frame = packet) → m.waitingExpress = s.waitingExpress := by
      intro m hm hf
      rw [hwait, waitingExpress_of_cur fun frame hframe => hf frame hframe ▸ hpx, hm]
    have hno : ∀ p : Packet, MacRecord.accepted packet = .accepted p → p.express = false :=
      fun p hp => MacRecord.accepted.inj hp ▸ hpx
    unfold storeOnHold
    split
    · exact h.record rfl hno nofun (hcur _ rfl nofun)
    · exact h.record rfl hno nofun (hcur _ rfl fun frame hf => (Option.some.inj hf).symm)

theorem ArrivalStep.expressBooks (henable : cfg.enablePreemptingFrames = true) (h : ExpressBooks s)
    (htime : Timing cfg s) (hshape : s.Shape) {packet : Packet} (hr : s.Roomy packet)
    (ha : ArrivalStep cfg { s with history := s.history ++ [MacRecord.accepted packet] } packet s') :
    ExpressBooks s' := by
  obtain ⟨-, hpause, hx⟩ := hr
  cases ha with
  | preempting he hp hpre =>
    obtain ⟨_, _, rfl⟩ := preemptCurrentFrame_ok hpre
    have hcur : ∀ frame ∈ s.curTxFrame, frame.express = false := by
      rw [(htime.sending hp).copy]
      exact fun frame hf => (htime.current frame hf).1
    refine h.accept he rfl ?_
    rw [waitingExpress_of_cur hcur, hx he]
    exact waitingExpress_of_cur hcur
  | inGap he hs =>
    have hcur : ∀ frame ∈ s.curTxFrame, frame.express = false := by
      rw [hshape.gap hs]
      nofun
    refine h.accept he rfl ?_
    rw [waitingExpress_of_cur hcur, hx he]
    exact waitingExpress_of_cur hcur
  | paused hs =>
    have hs : s.transmitState = .PAUSE_STATE := hs
    exact h.store (hshape.flags (by rw [hs]; nofun)).1 (hpause hs) hx
  | sent hs hstart =>
    have hs : s.transmitState = .TX_IDLE_STATE := hs
    obtain ⟨hfree, hp⟩ := hshape.flags (by rw [hs]; nofun)
    obtain ⟨hc, hnone⟩ := hshape.idle hs
    have hstored : ExpressBooks ({ s with
        history := s.history ++ [MacRecord.accepted packet]
        curTxFrame := some packet }.storeOnHold packet) := h.store hfree hc hx
    obtain ⟨frame, hframe, _, _, _, hst⟩ := startFrameTransmission_ok hstart
    unfold storeOnHold at hstored hframe hst
    split at hframe
    · cases hframe
    · rename_i hstore
      rw [if_neg hstore] at hstored hst
      cases hframe
      have hidle : ∀ m : EtherMac, m.currentExpressFrame = none → m.transmittingExpressFrame = true →
          m.waitingExpress = [] := by
        intro m hm hsend
        rw [waitingExpress_of_sending hsend, hm]
        rfl
      cases hst with
      | express hex =>
        have hpx : packet.express = true := hex.resolve_left (by rw [henable]; nofun)
        refine hstored.start rfl ((waitingExpress_eq ?_).trans ?_) (hidle _ hnone rfl)
        · exact hfree
        · simp [hnone, hpx]
      | new hno =>
        have hcur : ∀ f ∈ some packet, f.express = false := fun f hf => (Option.some.inj hf) ▸ hno.2
        exact hstored.record rfl nofun nofun
          ((waitingExpress_of_cur hcur).trans (waitingExpress_of_cur hcur).symm)
      | resumed hno =>
        have hcur : ∀ f ∈ some packet, f.express = false := fun f hf => (Option.some.inj hf) ▸ hno.2
        exact hstored.record rfl nofun nofun
          ((waitingExpress_of_cur hcur).trans (waitingExpress_of_cur hcur).symm)
  | stray he hs hxf hpf =>
    exact absurd (hshape.transmitting_iff.mp hs)
      (by rw [show s.transmittingExpressFrame = _ from hxf,
        show s.transmittingPreemptableFrame = _ from hpf]; exact fun h => h.elim nofun nofun)

/-- the frame in transmission is gone; an express frame was taken off the waiting ones at its start -/
theorem handleEndTxPeriod_express (h : ExpressBooks s) (htime : Timing cfg s)
    (hsending : s.transmittingExpressFrame = true ∨ s.transmittingPreemptableFrame = true)
    (hs : { s with endTxMsg := none }.handleEndTxPeriod cfg = .ok s') : ExpressBooks s' := by
  have hwait : s.waitingExpress = s.currentExpressFrame.toList := by
    obtain he | hp := hsending
    · exact waitingExpress_of_sending he
    · refine waitingExpress_of_cur ?_
      rw [(htime.sending hp).copy]
      exact fun frame hf => (htime.current frame hf).1
  have hfinish : ∀ m : EtherMac, m.currentExpressFrame = s.currentExpressFrame →
      m.finishTransmission cfg = .ok s' → s'.waitingExpress = s.waitingExpress := by
    intro m hm hf
    obtain ⟨_, frame, _, ⟨t, rfl⟩ | ⟨t, rfl⟩⟩ := finishTransmission_ok hf
    · rw [hwait, ← hm]
      exact waitingExpress_of_cur nofun
    · rw [hwait, ← hm]
      exact waitingExpress_of_cur nofun
  unfold handleEndTxPeriod at hs
  split at hs
  · obtain ⟨m, hm, hs⟩ := bind_ok.mp hs
    obtain ⟨frame, bytes, _, _, rfl⟩ := sendPreemptedFrame_ok hm
    obtain ⟨_, _, _, hhist, _⟩ := finishTransmission_part hs
    refine h.record hhist nofun nofun (hfinish _ ?_ hs)
    rfl
  · split at hs
    · cases hs
    · obtain ⟨_, _, _, hhist, _⟩ := finishTransmission_part hs
      have hw : s'.waitingExpress = s.waitingExpress := by
        refine hfinish _ ?_ hs
        rfl
      unfold ExpressBooks acceptedExpress sentExpress at h ⊢
      rw [hhist, hw]
      exact h

theorem Roomy.of_core {packet : Packet} (hr : s.Roomy packet) (hm : s'.core = s.core)
    (hh : s'.onHold = s.onHold) : s'.Roomy packet := by
  have hm : ∀ {α : Type} (f : EtherMac → α), f s'.core = f s.core := fun f => congrArg f hm
  unfold Roomy Receptive at hr ⊢
  rw [show s'.transmitState = s.transmitState from hm transmitState,
    show s'.curTxFrame = s.curTxFrame from hm curTxFrame,
    show s'.currentPreemptableFrame = s.currentPreemptableFrame from hm currentPreemptableFrame,
    show s'.preemptedBytesSent = s.preemptedBytesSent from hm preemptedBytesSent,
    show s'.currentExpressFrame = s.currentExpressFrame from hm currentExpressFrame, hh]
  exact hr

/-- a step in which the frame that comes in finds room keeps the books of the express frames -/
theorem expressBooks_step (henable : cfg.enablePreemptingFrames = true) (h : ExpressBooks s)
    (htime : Timing cfg s) (hshape : s.Shape) (hr : Receives cfg Roomy s e)
    (hs : s.step cfg e = .ok s') : ExpressBooks s' := by
  cases step_change hshape hs with
  | quiet hc _ _ => exact h.of_frames hc
  | next hm ht _ he hp hn =>
    exact nextFrame_express henable (h.of_frames hm) (htime.of_frames hm ht.ge) he hn
  | endTx hd ht =>
    have hsending := hshape.transmitting_iff.mp (hshape.endTx_iff.mpr (by rw [hd]; nofun))
    exact handleEndTxPeriod_express h htime hsending ht
  | preempt hm _ _ hp =>
    obtain ⟨_, _, rfl⟩ := preemptCurrentFrame_ok hp
    have hb := h.of_frames hm
    exact hb
  | @arrive m t packet hm ht _ hh hup hw he ha =>
    have hf := frames_of_core hm
    exact ha.expressBooks henable (h.of_frames hf) (htime.of_frames hf ht.ge) (hshape.of_core hm)
      ((hr.delivered hup he).of_core hm hh)

/-! ## the parts of the other frames -/

/-- the frames that are complete with the parts that were sent -/
def completed (s : EtherMac) : List Packet :=
  s.preemptedFrames.flatMap fun pFrame => (PhysMessage.preemptedFrame pFrame).completes

/-- the frames that the parts make up are those that a part completes -/
def Completes (s : EtherMac) : Prop :=
  ∀ a, collect Packet.byteLength s.fragments = some a → a.done = s.completed

theorem fragments_eq : s.fragments = s.preemptedFrames.filterMap fun pFrame =>
    pFrame.completeFrame.map fun frame => (frame, pFrame.bytesInThisPart) := by
  unfold fragments preemptedFrames
  rw [List.filterMap_filterMap]
  refine List.filterMap_congr fun r _ => ?_
  cases r <;> rfl

theorem Completes.of_parts (h : Completes s) (hf : s'.preemptedFrames = s.preemptedFrames) :
    Completes s' := by
  unfold Completes completed at h ⊢
  rw [fragments_eq] at h ⊢
  rw [hf]
  exact h

theorem completes_step (h : Completes s) (hb : Books s) (htime : Timing cfg s)
    (hs : PartStep cfg s e s') : Completes s' := by
  cases hs with
  | same _ _ _ hf => exact h.of_parts hf
  | begins _ _ _ _ _ _ _ _ _ hf => exact h.of_parts hf
  | aside _ _ _ _ _ _ _ _ _ _ hf => exact h.of_parts hf
  | sends frame bytes hp hcur ht hbytes _ _ _ hf =>
    obtain ⟨⟨done, hdone, _⟩, _⟩ := conserved_iff.mp hb.conserved
    have hpart : s.partlySent = if s.preemptedBytesSent = 0 then none
        else some (frame, s.preemptedBytesSent) := by
      unfold partlySent
      rw [hcur]
    obtain ⟨n, hlet, hlast⟩ : ∃ n : ℕ,
        (framelet frame s.preemptedBytesSent (uint bytes)).1 = n ∧
        ((framelet frame s.preemptedBytesSent (uint bytes)).2 = frame.byteLength ↔
          s.preemptedBytesSent + n = frame.byteLength) := by
      obtain ⟨n, hcase⟩ := htime.framelet_cases ht hp hcur hbytes
      cases hcase with
      | last hsum _ _ hlet =>
        rw [hlet]
        exact ⟨n, rfl, iff_of_true rfl hsum⟩
      | part _ _ _ hlet =>
        rw [hlet]
        exact ⟨n, rfl, Iff.rfl⟩
      | exceeds _ _ _ _ hlet =>
        rw [hlet]
        exact ⟨n, rfl, Iff.rfl⟩
    intro a ha
    rw [fragments_eq, hf, List.filterMap_append, ← fragments_eq] at ha
    replace ha : collect Packet.byteLength (s.fragments ++ [(frame,
        (framelet frame s.preemptedBytesSent (uint bytes)).1)]) = some a := ha
    rw [collect_snoc, hdone, hlet] at ha
    have hadd := Assembly.done_add (a := ⟨done, s.partlySent⟩) ha hpart
    have hbefore : done = s.completed := h _ hdone
    unfold completed at hbefore ⊢
    rw [hf, List.flatMap_append, ← hbefore, hadd]
    congr 1
    rw [List.flatMap_singleton]
    show _ = if _ = frame.byteLength then [frame] else []
    exact if_congr hlast.symm rfl rfl

/-! ## both sides -/

theorem roomy_receptive (hr : Receives cfg Roomy s e) : Receives cfg Receptive s e := by
  cases e with
  | handleUpperPacket packet => exact fun h1 h2 => (hr h1 h2).1
  | handlePacket gateId packet =>
    intro h1 h2
    have hsel := hr h1 h2
    cases hp : s.transmissionSelection.handlePacket gateId packet with
    | ok r =>
      rw [hp] at hsel
      exact hsel.1
    | error x => trivial
  | _ => trivial

/-- what a MAC knows of the frames it has accepted -/
structure Delivering (cfg : MacConfig) (n : Nat) (s : EtherMac) : Prop where
  shape : s.Shape
  timing : Timing cfg s
  books : Books s
  expressBooks : ExpressBooks s
  completes : Completes s
  processes : Processes n s

theorem delivering_start (n preemptedBytesSent : Nat) (tGates : List GateView) :
    Delivering cfg n (start preemptedBytesSent tGates) where
  shape := shape_start _ _
  timing := timing_start _ _
  books := books_start _ _
  expressBooks := rfl
  completes a ha := by
    cases ha
    rfl
  processes messages hm := ⟨_, MacReceiver.receive_signals hm, List.nil_append _, nofun, nofun⟩

theorem delivering_step (henable : cfg.enablePreemptingFrames = true) {n : Nat}
    (h : Delivering cfg n s) (hr : Receives cfg Roomy s e) (hs : s.step cfg e = .ok s') :
    Delivering cfg n s' := by
  have hrec : Receives cfg Receptive s e := roomy_receptive hr
  have hpart : PartStep cfg s e s' := step_part h.timing.orderly h.shape hs
  exact {
    shape := shape_step h.shape hs
    timing := timing_step h.timing h.shape
      (fun p hup hw hd => (hrec.delivered hup hd).distinct hw) hs
    books := books_step henable h.books h.timing h.shape hrec hs
    expressBooks := expressBooks_step henable h.expressBooks h.timing h.shape hr hs
    completes := completes_step h.completes h.books h.timing hpart
    processes := hpart.processes h.shape h.processes }

/-- among messages, those with a whole frame are the signals and the last parts -/
theorem completes_filter {messages : List PhysMessage} (p : Packet → Bool)
    (hsignal : ∀ frame ∈ messages.filterMap PhysMessage.signal?, p frame = false) :
    (messages.flatMap PhysMessage.completes).filter p =
      ((messages.filterMap PhysMessage.pFrame?).flatMap fun pFrame =>
        (PhysMessage.preemptedFrame pFrame).completes).filter p := by
  induction messages with
  | nil => rfl
  | cons m messages ih =>
    cases m with
    | ethernetSignal frame =>
      rw [List.filterMap_cons_some (show (PhysMessage.ethernetSignal frame).signal? = some frame from rfl)]
        at hsignal
      obtain ⟨hp, hrest⟩ := List.forall_mem_cons.mp hsignal
      rw [List.filterMap_cons_none (show (PhysMessage.ethernetSignal frame).pFrame? = none from rfl),
        ← ih hrest, List.flatMap_cons, List.filter_append]
      simp [PhysMessage.completes, hp]
    | preemptedFrame pFrame =>
      rw [List.filterMap_cons_none (show (PhysMessage.preemptedFrame pFrame).signal? = none from rfl)]
        at hsignal
      rw [List.filterMap_cons_some (show (PhysMessage.preemptedFrame pFrame).pFrame? = some pFrame from
        rfl), List.flatMap_cons, List.filter_append, ih hsignal, List.flatMap_cons, List.filter_append]

/-- and the signals are the other ones -/
theorem signals_filter {messages : List PhysMessage} (p : Packet → Bool)
    (hpart : ∀ frame ∈ (messages.filterMap PhysMessage.pFrame?).flatMap fun pFrame =>
      (PhysMessage.preemptedFrame pFrame).completes, p frame = false) :
    (messages.flatMap PhysMessage.completes).filter p =
      (messages.filterMap PhysMessage.signal?).filter p := by
  induction messages with
  | nil => rfl
  | cons m messages ih =>
    cases m with
    | ethernetSignal frame =>
      rw [List.filterMap_cons_none (show (PhysMessage.ethernetSignal frame).pFrame? = none from rfl)]
        at hpart
      rw [List.filterMap_cons_some (show (PhysMessage.ethernetSignal frame).signal? = some frame from
        rfl), List.flatMap_cons, List.filter_append, ih hpart, List.filter_cons]
      cases hp : p frame <;> simp [PhysMessage.completes, hp]
    | preemptedFrame pFrame =>
      rw [List.filterMap_cons_some (show (PhysMessage.preemptedFrame pFrame).pFrame? = some pFrame from
        rfl), List.flatMap_cons] at hpart
      obtain ⟨hp, hrest⟩ := List.forall_mem_append.mp hpart
      rw [List.filterMap_cons_none (show (PhysMessage.preemptedFrame pFrame).signal? = none from rfl),
        List.flatMap_cons, List.filter_append, ih hrest, List.filter_eq_nil_iff.mpr, List.nil_append]
      exact fun frame hf => by rw [hp frame hf]; exact Bool.false_ne_true

theorem accepted_preemptable : ∀ frame ∈ s.accepted, frame.express = false := by
  intro frame hf
  obtain ⟨r, _, hr⟩ := List.mem_filterMap.mp hf
  cases r with
  | accepted packet =>
    dsimp only at hr
    split at hr
    · cases hr
    · rename_i hx
      cases hr
      exact Bool.eq_false_iff.mpr hx
  | _ => cases hr

theorem acceptedExpress_express : ∀ frame ∈ s.acceptedExpress, frame.express = true := by
  intro frame hf
  obtain ⟨r, _, hr⟩ := List.mem_filterMap.mp hf
  cases r with
  | accepted packet =>
    dsimp only at hr
    split at hr
    · rename_i hx
      cases hr
      exact hx
    · cases hr
  | _ => cases hr

/-- what the receiver passes up, with what the MAC still has, is what the MAC has accepted -/
structure Arrived (s : EtherMac) (r : MacReceiver) : Prop where
  preemptable : (r.processed.filter fun frame => !frame.express) ++ s.stored = s.accepted
  express : r.processed.filter Packet.express ++ s.waitingExpress = s.acceptedExpress

theorem Delivering.arrived {n : Nat} (h : Delivering cfg n s) {messages : List PhysMessage}
    (hparts : messages.filterMap PhysMessage.pFrame? = s.preemptedFrames)
    (hsignals : messages.filterMap PhysMessage.signal? = s.sentExpress) :
    ∃ r, run MacReceiver.receive (MacReceiver.start n) messages = .ok r ∧ Arrived s r := by
  obtain ⟨r, hr, hprocessed, _⟩ := h.processes messages hparts
  obtain ⟨⟨done, hdone, hacc⟩, _⟩ := conserved_iff.mp h.books.conserved
  have hcompleted : done = s.completed := h.completes _ hdone
  have hplain : ∀ frame ∈ s.completed, frame.express = false := by
    intro frame hf
    refine accepted_preemptable (s := s) frame ?_
    rw [hacc, hcompleted]
    exact List.mem_append_left _ hf
  have hexpress : ∀ frame ∈ s.sentExpress, frame.express = true := by
    intro frame hf
    refine acceptedExpress_express (s := s) frame ?_
    rw [h.expressBooks]
    exact List.mem_append_left _ hf
  refine ⟨r, hr, ?_, ?_⟩
  · rw [hprocessed, completes_filter, hparts]
    · change s.completed.filter _ ++ _ = _
      rw [List.filter_eq_self.mpr fun frame hf => by rw [hplain frame hf]; rfl, hacc, hcompleted]
    · intro frame hf
      rw [hsignals] at hf
      rw [hexpress frame hf]
      rfl
  · rw [hprocessed, signals_filter, hsignals, List.filter_eq_self.mpr hexpress]
    · exact h.expressBooks.symm
    · rw [hparts]
      exact hplain

/-- **A link delivers what it is given**: with preemption, in every run in which each frame finds
room, a receiver that has got all that the MAC has sent, in any order of parts and express frames,
has passed up every frame that the MAC has accepted and does not hold, the express ones and the
others each in their order. -/
theorem link_in_order (cfg : MacConfig) (henable : cfg.enablePreemptingFrames = true)
    (n preemptedBytesSent : Nat) (tGates : List GateView) (es : List MacEvent) (s : EtherMac)
    (hm : Meets (step cfg) (Receives cfg Roomy) (start preemptedBytesSent tGates) es)
    (hr : run (step cfg) (start preemptedBytesSent tGates) es = .ok s)
    (messages : List PhysMessage)
    (hparts : messages.filterMap PhysMessage.pFrame? = s.preemptedFrames)
    (hsignals : messages.filterMap PhysMessage.signal? = s.sentExpress) :
    ∃ r, run MacReceiver.receive (MacReceiver.start n) messages = .ok r ∧ Arrived s r := by
  have h : Delivering cfg n s := run_invariant_of (I := Delivering cfg n)
    (fun s e s' h hr hs => delivering_step henable h hr hs) (delivering_start n _ _) hm hr
  exact h.arrived hparts hsignals

/-- the express frame has gone up, and the frame that it has stopped goes on -/
theorem link_in_order_preemptionRun : ∃ s, run (step fastMac) (start 0 (twoGates true true true true))
    (preemptionRun ++ [.timer .endTx, .timer .endIFG]) = .ok s ∧
    (s.stored = [bulkFrame] ∧ s.waitingExpress = []) ∧
    ∃ r, run MacReceiver.receive (MacReceiver.start 0)
        [.preemptedFrame ⟨some bulkFrame, 100, 500, 100⟩, .ethernetSignal expressFrame] = .ok r ∧
      Arrived s r := by
  obtain ⟨s, hs, hparts, hsignals, hp⟩ : ∃ s, run (step fastMac)
      (start 0 (twoGates true true true true)) (preemptionRun ++ [.timer .endTx, .timer .endIFG]) =
        .ok s ∧ s.preemptedFrames = [⟨some bulkFrame, 100, 500, 100⟩] ∧
        s.sentExpress = [expressFrame] ∧ (s.stored = [bulkFrame] ∧ s.waitingExpress = []) :=
    exists_of_any (by decide +kernel)
  exact ⟨s, hs, hp, link_in_order fastMac rfl 0 0 _ _ s (by decide +kernel) hs
    [.preemptedFrame ⟨some bulkFrame, 100, 500, 100⟩, .ethernetSignal expressFrame] hparts.symm
    hsignals.symm⟩

end EtherMac

end Nesting
