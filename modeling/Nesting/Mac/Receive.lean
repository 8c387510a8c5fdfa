import Nesting.Lib.Run
import Nesting.Mac.States

/-!
# The receiving side of the MAC

* `PreemptedFrame`, `PhysMessage`   what comes in from the link;
* `receive`           `handleMessageWhenUp` for a message from there;
* `PartStep`          what a step of the sender does to the frame it sends in parts;
* `Linked`            what the receiver holds agrees with what the sender has sent;
* `processes_run`     the receiver passes a frame up at the part that completes it, and at no other.
-/

set_option linter.unusedVariables false

namespace Nesting

/-- the message `PreemptedFrame` -/
structure PreemptedFrame where
  completeFrame : Option Packet
  bytesSent : Nat
  bytesTotal : Nat
  bytesInThisPart : Nat
  deriving DecidableEq, Repr

/-- a message on `physInGate` -/
inductive PhysMessage where
  /-- with the frame that is encapsulated in it -/
  | ethernetSignal (frame : Packet)
  | preemptedFrame (pFrame : PreemptedFrame)
  deriving DecidableEq, Repr

namespace PhysMessage

/-- `pFrame`, unless it is a null pointer -/
def pFrame? : PhysMessage → Option PreemptedFrame
  | .ethernetSignal _ => none
  | .preemptedFrame pFrame => some pFrame

/-- the frame that is complete with this message -/
def completes : PhysMessage → List Packet
  | .ethernetSignal frame => [frame]
  | .preemptedFrame pFrame =>
    if pFrame.bytesSent = pFrame.bytesTotal then pFrame.completeFrame.toList else []

end PhysMessage

structure MacReceiver where
  receivedPreemptedFrame : Option Packet
  preemptedBytesReceived : Nat
  /-- the frames handed to `processMsgFromNetwork` -/
  processed : List Packet
  deriving DecidableEq

namespace MacReceiver

/-- after initialization; `preemptedBytesReceived` has no initial value -/
def start (preemptedBytesReceived : Nat) : MacReceiver := ⟨none, preemptedBytesReceived, []⟩

/-- an incoming part of a new frame replaces the old preempted frame; frames are told apart by name -/
def replaceBy (r : MacReceiver) (completeFrame : Packet) : Packet :=
  match r.receivedPreemptedFrame with
  | none => completeFrame
  | some frame => if frame.name ≠ completeFrame.name then completeFrame else frame

def receive (r : MacReceiver) : PhysMessage → Sim MacReceiver
  | .ethernetSignal frame => .ok { r with processed := r.processed ++ [frame] }
  | .preemptedFrame pFrame =>
    match pFrame.completeFrame with
    | none => .error (.runtimeError "Packet received is of unknown type!")
    | some completeFrame =>
      let frame := r.replaceBy completeFrame
      -- 8 bytes of encapsulation on either side
      if frame.byteLength + 8 = uint (pFrame.bytesSent + 8) then
        .ok ⟨none, pFrame.bytesSent, r.processed ++ [frame]⟩
      else .ok ⟨some frame, pFrame.bytesSent, r.processed⟩

variable {r : MacReceiver}

/-- express frames go up at once and leave the rest alone -/
theorem receive_signals {messages : List PhysMessage}
    (h : messages.filterMap PhysMessage.pFrame? = []) :
    Lib.run receive r messages =
      .ok { r with processed := r.processed ++ messages.flatMap PhysMessage.completes } := by
  induction messages generalizing r with
  | nil => simp
  | cons m messages ih =>
    cases m with
    | ethernetSignal frame =>
      refine Lib.run_cons_ok.mpr ⟨_, rfl, ?_⟩
      rw [ih h]
      simp [PhysMessage.completes]
    | preemptedFrame pFrame => simp [PhysMessage.pFrame?] at h

theorem replaceBy_eq {completeFrame : Packet}
    (h : ∀ frame ∈ r.receivedPreemptedFrame, frame = completeFrame ∨ frame.name ≠ completeFrame.name) :
    r.replaceBy completeFrame = completeFrame := by
  unfold replaceBy
  cases hr : r.receivedPreemptedFrame with
  | none => rfl
  | some frame =>
    obtain rfl | hname := h frame hr
    · exact ite_self _
    · exact if_pos hname

/-- a part of the frame that is held, or of one with another name -/
theorem receive_part (pFrame : PreemptedFrame) {frame : Packet}
    (hc : pFrame.completeFrame = some frame) (ht : pFrame.bytesTotal = frame.byteLength)
    (hmax : frame.byteLength < 2 ^ 31) (hsent : pFrame.bytesSent < 2 ^ 32)
    (h : ∀ f ∈ r.receivedPreemptedFrame, f = frame ∨ f.name ≠ frame.name) :
    r.receive (.preemptedFrame pFrame) = .ok {
      receivedPreemptedFrame := if pFrame.bytesSent = frame.byteLength then none else some frame
      preemptedBytesReceived := pFrame.bytesSent
      processed := r.processed ++ (PhysMessage.preemptedFrame pFrame).completes } := by
  unfold receive PhysMessage.completes
  dsimp only
  rw [hc, ht]
  dsimp only
  rw [replaceBy_eq h]
  have hlast : frame.byteLength + 8 = uint (pFrame.bytesSent + 8) ↔
      pFrame.bytesSent = frame.byteLength := by
    unfold uint
    omega
  by_cases hs : pFrame.bytesSent = frame.byteLength
  · rw [if_pos (hlast.mpr hs), if_pos hs, if_pos hs]
    rfl
  · rw [if_neg (mt hlast.mp hs), if_neg hs, if_neg hs, List.append_nil]

end MacReceiver

namespace EtherMac

open Lib

variable {cfg : MacConfig} {s s' : EtherMac} {e : MacEvent}

/-! ## what the sender puts on the link -/

/-- the message that `handleEndTxPeriod` has sent -/
def preemptedFrame? : MacRecord → Option PreemptedFrame
  | .preemptedFrame frame bytesSent bytesTotal bytesInThisPart =>
    some ⟨some frame, bytesSent, bytesTotal, bytesInThisPart⟩
  | _ => none

def preemptedFrames (s : EtherMac) : List PreemptedFrame := s.history.filterMap preemptedFrame?

theorem preemptedFrames_of_history {s t : EtherMac} (h : t.history = s.history) :
    t.preemptedFrames = s.preemptedFrames := congrArg (List.filterMap preemptedFrame?) h

theorem preemptedFrames_snoc {s t : EtherMac} {r : MacRecord} (h : t.history = s.history ++ [r]) :
    t.preemptedFrames = s.preemptedFrames ++ (preemptedFrame? r).toList := by
  unfold preemptedFrames
  rw [h, List.filterMap_append]
  cases hr : preemptedFrame? r with
  | none => simp [hr]
  | some pFrame => simp [hr]

/-- the first part of a frame has just started -/
structure FirstPart (cfg : MacConfig) (s : EtherMac) (frame : Packet) : Prop where
  enabled : cfg.enablePreemptingFrames = true
  sending : s.transmittingPreemptableFrame = true
  copy : s.curTxFrame = some frame
  current : s.currentPreemptableFrame = some frame
  sent : s.preemptedBytesSent = 0
  started : s.preemptableTransmissionStart = s.time
  ends : s.endTxMsg =
    some (s.time + calculateDuration cfg (uint (encapsulatedLength frame - (0 : Nat))))

/-- what a step does to the frame that is sent in parts -/
inductive PartStep (cfg : MacConfig) (s : EtherMac) (e : MacEvent) (s' : EtherMac) : Prop
  | same (hp : s.transmittingPreemptableFrame = true → s'.transmittingPreemptableFrame = true)
      (hc : s'.currentPreemptableFrame = s.currentPreemptableFrame)
      (hn : s'.preemptedBytesSent = s.preemptedBytesSent)
      (hf : s'.preemptedFrames = s.preemptedFrames)
  /-- the first part of a new frame starts -/
  | begins (frame : Packet) (hw : WellSized frame) (hd : s.Delivers e frame)
      (hup : cfg.connected = true ∧ cfg.disabled = false) (hx : frame.express = false)
      (hidle : s.transmitState = .TX_IDLE_STATE) (hnew : s.isNewFrame frame = true)
      (hfirst : FirstPart cfg s' frame) (hwait : s'.currentExpressFrame = s.currentExpressFrame)
      (hf : s'.preemptedFrames = s.preemptedFrames)
  /-- a frame is put aside on hold -/
  | aside (frame : Packet) (hw : WellSized frame) (hd : s.Delivers e frame)
      (hup : cfg.connected = true ∧ cfg.disabled = false) (hx : frame.express = false)
      (hold : s.onHold = true)
      (hnone : s.currentPreemptableFrame = none) (hp' : s'.transmittingPreemptableFrame = false)
      (hc : s'.currentPreemptableFrame = some frame)
      (hn : s'.preemptedBytesSent = s.preemptedBytesSent)
      (hf : s'.preemptedFrames = s.preemptedFrames)
  /-- a part is over -/
  | sends (frame : Packet) (bytes : Int) (hp : s.transmittingPreemptableFrame = true)
      (hcur : s.currentPreemptableFrame = some frame) (ht : s.endTxMsg = some s.time)
      (hb : s.calculatePreemptedPayloadBytesSent cfg s.time true = .ok bytes)
      (hp' : s'.transmittingPreemptableFrame = false)
      (hc : s'.currentPreemptableFrame =
        if (framelet frame s.preemptedBytesSent (uint bytes)).2 = frame.byteLength then none
        else some frame)
      (hn : s'.preemptedBytesSent = (framelet frame s.preemptedBytesSent (uint bytes)).2)
      (hf : s'.preemptedFrames = s.preemptedFrames ++
        [⟨some frame, (framelet frame s.preemptedBytesSent (uint bytes)).2, frame.byteLength,
          (framelet frame s.preemptedBytesSent (uint bytes)).1⟩])

/-- only an express frame waits for the end of a part, and parts are sent only if that is enabled -/
structure Orderly (cfg : MacConfig) (s : EtherMac) : Prop where
  enabled : s.transmittingPreemptableFrame = true → cfg.enablePreemptingFrames = true
  waiting : ∀ frame ∈ s.currentExpressFrame, frame.express = true

theorem Orderly.of_frames (h : Orderly cfg s) (hf : s'.frames = s.frames) : Orderly cfg s' := by
  have hs : Orderly cfg s.frames := ⟨h.1, h.2⟩
  rw [← hf] at hs
  exact ⟨hs.1, hs.2⟩

theorem StartTransmission.orderly {frame : Packet} (hst : StartTransmission cfg s frame s')
    (h : Orderly cfg s) : Orderly cfg s' := by
  cases hst with
  | express => exact ⟨h.1, h.2⟩
  | new hx => exact ⟨fun _ => hx.1, h.2⟩
  | resumed hx => exact ⟨fun _ => hx.1, h.2⟩

theorem storeOnHold_fields (packet : Packet) :
    (s.storeOnHold packet).transmittingPreemptableFrame = s.transmittingPreemptableFrame ∧
      (s.storeOnHold packet).currentExpressFrame = s.currentExpressFrame ∧
      (s.storeOnHold packet).preemptedBytesSent = s.preemptedBytesSent ∧
      (s.storeOnHold packet).history = s.history := by
  unfold storeOnHold
  split
  · exact ⟨rfl, rfl, rfl, rfl⟩
  · exact ⟨rfl, rfl, rfl, rfl⟩

theorem finishTransmission_part (h : s.finishTransmission cfg = .ok s') :
    s'.transmittingPreemptableFrame = s.transmittingPreemptableFrame ∧
      s'.currentPreemptableFrame = s.currentPreemptableFrame ∧
      s'.preemptedBytesSent = s.preemptedBytesSent ∧ s'.history = s.history ∧
      s'.currentExpressFrame = s.currentExpressFrame := by
  obtain ⟨_, _, _, ⟨t, rfl⟩ | ⟨t, rfl⟩⟩ := finishTransmission_ok h
  · exact ⟨rfl, rfl, rfl, rfl, rfl⟩
  · exact ⟨rfl, rfl, rfl, rfl, rfl⟩

/-- after the end of a transmission nothing preemptable is sent -/
theorem handleEndTxPeriod_over (h : s.handleEndTxPeriod cfg = .ok s') :
    s'.transmittingPreemptableFrame = false ∧ s'.currentExpressFrame = s.currentExpressFrame := by
  unfold handleEndTxPeriod at h
  split at h
  · obtain ⟨m, hm, h⟩ := bind_ok.mp h
    obtain ⟨_, _, _, _, rfl⟩ := sendPreemptedFrame_ok hm
    obtain ⟨h1, _, _, _, h5⟩ := finishTransmission_part h
    exact ⟨h1, h5⟩
  · split at h
    · cases h
    · obtain ⟨h1, _, _, _, h5⟩ := finishTransmission_part h
      exact ⟨h1, h5⟩

theorem orderly_step (h : Orderly cfg s) (hshape : s.Shape) (hs : s.step cfg e = .ok s') :
    Orderly cfg s' := by
  have hstore : ∀ (m : EtherMac) (packet : Packet), Orderly cfg m →
      Orderly cfg ({ m with curTxFrame := some packet }.storeOnHold packet) := by
    intro m packet hm
    obtain ⟨h1, h2, _⟩ := storeOnHold_fields (s := { m with curTxFrame := some packet }) packet
    exact ⟨fun hp => hm.1 (h1.symm.trans hp), fun f hf => hm.2 f (h2 ▸ hf)⟩
  cases step_change hshape hs with
  | quiet hc _ _ => exact h.of_frames hc
  | next hm _ _ _ _ hn =>
    have hm := h.of_frames hm
    obtain ⟨_, s1, hnext, hrest⟩ := nextFrame_ok hn
    have h1 : Orderly cfg s1 := by
      cases hnext with
      | stored => exact ⟨hm.1, nofun⟩
      | resumed => exact ⟨hm.1, hm.2⟩
      | nothing => exact ⟨hm.1, hm.2⟩
    obtain ⟨frame, _, _, _, _, hst⟩ | ⟨_, rfl⟩ := hrest
    · exact hst.orderly h1
    · exact ⟨h1.1, h1.2⟩
  | endTx _ ht =>
    have hdone := handleEndTxPeriod_over ht
    refine ⟨fun hp => absurd (hdone.1.symm.trans hp) nofun, fun f hf => ?_⟩
    rw [hdone.2] at hf
    exact h.waiting f hf
  | preempt hm _ _ hp =>
    obtain ⟨_, _, rfl⟩ := preemptCurrentFrame_ok hp
    exact ⟨(h.of_frames hm).1, (h.of_frames hm).2⟩
  | @arrive m t packet hm _ _ _ _ _ _ ha =>
    have hm := h.of_frames (frames_of_core hm)
    cases ha with
    | preempting hx _ hp =>
      obtain ⟨_, _, rfl⟩ := preemptCurrentFrame_ok hp
      exact ⟨hm.1, fun f hf => (Option.some.inj hf) ▸ hx⟩
    | inGap hx => exact ⟨hm.1, fun f hf => (Option.some.inj hf) ▸ hx⟩
    | paused =>
      refine hstore { m with history := m.history ++ [MacRecord.accepted packet] } packet ?_
      exact ⟨hm.1, hm.2⟩
    | sent _ hst =>
      obtain ⟨_, _, _, _, _, hst⟩ := startFrameTransmission_ok hst
      refine hst.orderly ?_
      refine hstore { m with history := m.history ++ [MacRecord.accepted packet] } packet ?_
      exact ⟨hm.1, hm.2⟩
    | stray => exact ⟨hm.1, hm.2⟩

/-- a frame that goes on, or an express frame -/
theorem StartTransmission.same {frame : Packet} (hst : StartTransmission cfg s frame s')
    (h : frame.express = false → s.isNewFrame frame = false) :
    (s.transmittingPreemptableFrame = true → s'.transmittingPreemptableFrame = true) ∧
      s'.currentPreemptableFrame = s.currentPreemptableFrame ∧
      s'.preemptedBytesSent = s.preemptedBytesSent ∧ s'.preemptedFrames = s.preemptedFrames := by
  cases hst with
  | express => exact ⟨id, rfl, rfl, (preemptedFrames_snoc rfl).trans (List.append_nil _)⟩
  | new hx hnew => exact absurd (hnew.symm.trans (h hx.2)) nofun
  | resumed => exact ⟨fun _ => rfl, rfl, rfl, (preemptedFrames_snoc rfl).trans (List.append_nil _)⟩

/-- `getNextFrameFromQueue` and `beginSendFrames` start no new preemptable frame -/
theorem nextFrame_same (h : ∀ frame ∈ s.currentExpressFrame, frame.express = true)
    (hn : (s.getNextFrameFromQueue cfg >>= fun s => s.beginSendFrames cfg) = .ok s') :
    (s.transmittingPreemptableFrame = true → s'.transmittingPreemptableFrame = true) ∧
      s'.currentPreemptableFrame = s.currentPreemptableFrame ∧
      s'.preemptedBytesSent = s.preemptedBytesSent ∧ s'.preemptedFrames = s.preemptedFrames := by
  obtain ⟨hcur, s1, hnext, hrest⟩ := nextFrame_ok hn
  cases hnext with
  | stored frame hf =>
    obtain ⟨_, hframe, _, _, _, hst⟩ | ⟨hnone, _⟩ := hrest
    · cases hframe
      exact hst.same fun hx => absurd ((h frame hf).symm.trans hx) nofun
    · cases hnone
  | resumed frame _ _ hf =>
    obtain ⟨_, hframe, _, _, _, hst⟩ | ⟨hnone, _⟩ := hrest
    · cases hframe
      refine hst.same fun _ => ?_
      unfold isNewFrame
      dsimp only
      rw [hf]
      simp
    · cases hnone
  | nothing =>
    obtain ⟨_, hframe, _⟩ | ⟨_, rfl⟩ := hrest
    · exact absurd (hcur.symm.trans hframe) nofun
    · exact ⟨id, rfl, rfl, rfl⟩

theorem handleEndTxPeriod_part (h : Orderly cfg s) (hd : s.endTxMsg = some s.time)
    (ht : { s with endTxMsg := none }.handleEndTxPeriod cfg = .ok s') : PartStep cfg s e s' := by
  unfold handleEndTxPeriod at ht
  split at ht
  · rename_i hp
    have hp : s.transmittingPreemptableFrame = true := by
      simp only [Bool.and_eq_true] at hp
      exact hp.2
    obtain ⟨m, hm, ht⟩ := bind_ok.mp ht
    obtain ⟨frame, bytes, hf, hb, rfl⟩ := sendPreemptedFrame_ok hm
    obtain ⟨h1, h2, h3, h4, _⟩ := finishTransmission_part ht
    exact .sends frame bytes hp hf hd hb h1 h2 h3 (preemptedFrames_snoc h4)
  · rename_i hp
    have hp : s.transmittingPreemptableFrame = true → False := by
      intro htrue
      refine hp ?_
      rw [h.enabled htrue]
      exact htrue
    split at ht
    · cases ht
    · obtain ⟨_, h2, h3, h4, _⟩ := finishTransmission_part ht
      exact .same (fun htrue => (hp htrue).elim) h2 h3 (preemptedFrames_of_history h4)

/-- every step is one of these -/
theorem step_part (h : Orderly cfg s) (hshape : s.Shape) (hs : s.step cfg e = .ok s') :
    PartStep cfg s e s' := by
  cases step_change hshape hs with
  | quiet hc _ _ =>
    have hc : ∀ {α : Type} (f : EtherMac → α), f s'.frames = f s.frames := fun f => congrArg f hc
    exact .same (fun hp => (hc transmittingPreemptableFrame).trans hp) (hc currentPreemptableFrame)
      (hc preemptedBytesSent) (preemptedFrames_of_history (hc history))
  | @next m t hm _ _ _ _ hn =>
    obtain ⟨h1, h2, h3, h4⟩ := nextFrame_same (h.of_frames hm).waiting hn
    have hm : ∀ {α : Type} (f : EtherMac → α), f m.frames = f s.frames := fun f => congrArg f hm
    exact .same (fun hp => h1 ((hm transmittingPreemptableFrame).trans hp))
      (h2.trans (hm currentPreemptableFrame)) (h3.trans (hm preemptedBytesSent))
      (h4.trans (preemptedFrames_of_history (hm history)))
  | endTx hd ht => exact handleEndTxPeriod_part h hd ht
  | @preempt m t hm _ _ hp =>
    obtain ⟨_, _, rfl⟩ := preemptCurrentFrame_ok hp
    have hm : ∀ {α : Type} (f : EtherMac → α), f m.frames = f s.frames := fun f => congrArg f hm
    exact .same (fun hp => (hm transmittingPreemptableFrame).trans hp) (hm currentPreemptableFrame)
      (hm preemptedBytesSent) (preemptedFrames_of_history (hm history))
  | @arrive m t packet hm _ _ hhold hup hw hd ha =>
    have hm : ∀ {α : Type} (f : EtherMac → α), f m.core = f s.core := fun f => congrArg f hm
    have hp : m.transmittingPreemptableFrame = s.transmittingPreemptableFrame :=
      hm transmittingPreemptableFrame
    have hc : m.currentPreemptableFrame = s.currentPreemptableFrame := hm currentPreemptableFrame
    have hn : m.preemptedBytesSent = s.preemptedBytesSent := hm preemptedBytesSent
    have hstate : m.transmitState = s.transmitState := hm transmitState
    have hh : m.history = s.history := hm history
    have hf : ∀ n : EtherMac, n.history = m.history ++ [MacRecord.accepted packet] →
        n.preemptedFrames = s.preemptedFrames := by
      intro n hn
      rw [hh] at hn
      exact (preemptedFrames_snoc hn).trans (List.append_nil _)
    cases ha with
    | preempting _ _ hpre =>
      obtain ⟨_, _, rfl⟩ := preemptCurrentFrame_ok hpre
      exact .same (fun htrue => hp.trans htrue) hc hn (hf _ rfl)
    | inGap => exact .same (fun htrue => hp.trans htrue) hc hn (hf _ rfl)
    | paused hpaused =>
      have hpaused : m.transmitState = .PAUSE_STATE := hpaused
      obtain ⟨_, hnone⟩ := hshape.flags (by rw [← hstate, hpaused]; nofun)
      unfold storeOnHold
      split
      · rename_i hstore
        have hstore : (m.onHold = true ∧ packet.express = false) ∧ m.currentPreemptableFrame = none := by
          simpa using hstore
        exact .aside packet hw hd hup hstore.1.2 (hhold.symm.trans hstore.1.1) (hc.symm.trans hstore.2)
          (hp.trans hnone) rfl hn (hf _ rfl)
      · exact .same (fun htrue => hp.trans htrue) hc hn (hf _ rfl)
    | sent hidle hst =>
      obtain ⟨frame, hframe, _, _, _, hst⟩ := startFrameTransmission_ok hst
      unfold storeOnHold at hframe hst
      split at hframe
      · cases hframe
      · rename_i hstore
        rw [if_neg hstore] at hst
        cases hframe
        cases hst with
        | express =>
          refine .same (fun htrue => hp.trans htrue) hc hn ?_
          exact (preemptedFrames_snoc rfl).trans ((List.append_nil _).trans (hf _ rfl))
        | new hx hnew =>
          refine .begins packet hw hd hup hx.2 (hstate.symm.trans hidle) ?_
            ⟨hx.1, rfl, rfl, rfl, rfl, rfl, rfl⟩ (hm currentExpressFrame) ?_
          · have hnew : m.isNewFrame packet = true := hnew
            unfold isNewFrame at hnew ⊢
            rw [hc] at hnew
            exact hnew
          · exact (preemptedFrames_snoc rfl).trans ((List.append_nil _).trans (hf _ rfl))
        | resumed =>
          refine .same (fun _ => rfl) hc hn ?_
          exact (preemptedFrames_snoc rfl).trans ((List.append_nil _).trans (hf _ rfl))
    | stray => exact .same (fun htrue => hp.trans htrue) hc hn (hf _ rfl)

/-! ## the receiver of these messages -/

/-- the receiver holds the frame of which a part has been sent; while the first part of another one is
sent it still holds the old one -/
structure Linked (s : EtherMac) (held : Option Packet) : Prop where
  sized : ∀ frame ∈ s.currentPreemptableFrame, WellSized frame
  held : ∀ f ∈ held, ∃ frame ∈ s.currentPreemptableFrame,
    f = frame ∨ (s.transmittingPreemptableFrame = true ∧ f.name ≠ frame.name)

/-- a receiver that gets the parts, between express frames from anywhere, has passed up what is complete -/
def Processes (n : Nat) (s : EtherMac) : Prop :=
  ∀ messages, messages.filterMap PhysMessage.pFrame? = s.preemptedFrames →
    ∃ r, run MacReceiver.receive (MacReceiver.start n) messages = .ok r ∧
      r.processed = messages.flatMap PhysMessage.completes ∧ Linked s r.receivedPreemptedFrame

/-- a message of the sender among signals -/
theorem split_last {messages : List PhysMessage} {parts : List PreemptedFrame}
    {pFrame : PreemptedFrame} (h : messages.filterMap PhysMessage.pFrame? = parts ++ [pFrame]) :
    ∃ before after, messages = before ++ PhysMessage.preemptedFrame pFrame :: after ∧
      before.filterMap PhysMessage.pFrame? = parts ∧ after.filterMap PhysMessage.pFrame? = [] := by
  obtain ⟨l1, l2, rfl, h1, h2⟩ := List.filterMap_eq_append_iff.mp h
  obtain ⟨signals, m, after, rfl, hsignals, hm, hafter⟩ := List.filterMap_eq_cons_iff.mp h2
  refine ⟨l1 ++ signals, after, ?_, ?_, hafter⟩
  · cases m with
    | ethernetSignal frame => cases hm
    | preemptedFrame p =>
      cases hm
      simp
  · rw [List.filterMap_append, h1, List.filterMap_eq_nil_iff.mpr hsignals, List.append_nil]

theorem framelet_lt (frame : Packet) (sent n : Nat) : (framelet frame sent n).2 < 2 ^ 32 := by
  have hu : ∀ k : Int, uint k < 2 ^ 32 := by
    intro k
    unfold uint
    omega
  unfold framelet
  dsimp only
  split
  · exact hu frame.byteLength
  · exact hu (sent + n)

theorem PartStep.processes {n : Nat} (hs : PartStep cfg s e s') (hshape : s.Shape)
    (h : Processes n s) : Processes n s' := by
  intro messages hm
  cases hs with
  | same hp hc _ hf =>
    obtain ⟨r, hr, hpr, hl⟩ := h messages (hm.trans hf)
    refine ⟨r, hr, hpr, hc ▸ hl.sized, fun f hf => ?_⟩
    obtain ⟨frame, hframe, hsame⟩ := hl.held f hf
    exact ⟨frame, hc ▸ hframe, hsame.imp_right fun ⟨htrue, hname⟩ => ⟨hp htrue, hname⟩⟩
  | begins frame hw _ _ _ hidle hnew hfirst _ hf =>
    obtain ⟨r, hr, hpr, hl⟩ := h messages (hm.trans hf)
    obtain ⟨_, hp⟩ := hshape.flags (by rw [hidle]; nofun)
    refine ⟨r, hr, hpr, fun f hf => ?_, fun f hf => ?_⟩
    · rw [hfirst.current] at hf
      exact (Option.some.inj hf) ▸ hw
    · obtain ⟨old, hold, rfl | ⟨htrue, _⟩⟩ := hl.held f hf
      · refine ⟨frame, hfirst.current, .inr ⟨hfirst.sending, ?_⟩⟩
        unfold isNewFrame at hnew
        rw [hold] at hnew
        simpa using hnew
      · exact absurd (hp.symm.trans htrue) nofun
  | aside frame hw _ _ _ _ hnone _ hc _ hf =>
    obtain ⟨r, hr, hpr, hl⟩ := h messages (hm.trans hf)
    refine ⟨r, hr, hpr, fun f hf => ?_, fun f hf => ?_⟩
    · rw [hc] at hf
      exact (Option.some.inj hf) ▸ hw
    · obtain ⟨old, hold, _⟩ := hl.held f hf
      rw [hnone] at hold
      cases hold
  | sends frame bytes hp hcur _ _ hp' hc _ hf =>
    obtain ⟨before, after, rfl, hbefore, hafter⟩ := split_last (hm.trans hf)
    obtain ⟨r, hr, hpr, hl⟩ := h before hbefore
    have hw := hl.sized frame hcur
    have hmax : frame.byteLength < 2 ^ 31 := lt_of_le_of_lt hw.2 (by norm_num)
    have hheld : ∀ f ∈ r.receivedPreemptedFrame, f = frame ∨ f.name ≠ frame.name := by
      intro f hf
      obtain ⟨old, hold, hsame⟩ := hl.held f hf
      cases hcur.symm.trans hold
      exact hsame.imp_right And.right
    have hpart := MacReceiver.receive_part (r := r)
      ⟨some frame, (framelet frame s.preemptedBytesSent (uint bytes)).2, frame.byteLength,
        (framelet frame s.preemptedBytesSent (uint bytes)).1⟩
      rfl rfl hmax (framelet_lt frame s.preemptedBytesSent (uint bytes)) hheld
    refine ⟨_, run_append_ok.mpr ⟨r, hr, run_cons_ok.mpr ⟨_, hpart, MacReceiver.receive_signals hafter⟩⟩,
      ?_, fun f hf => ?_, fun f hf => ?_⟩
    · dsimp only
      rw [hpr]
      simp
    · rw [hc] at hf
      split at hf
      · cases hf
      · exact (Option.some.inj hf) ▸ hw
    · dsimp only at hf
      split at hf
      · cases hf
      · rename_i hmore
        refine ⟨frame, ?_, .inl (Option.some.inj hf).symm⟩
        rw [hc, if_neg hmore]
        rfl

/-- **A frame goes up with the part that completes it**, whatever the sender has been through and
whatever express frames come in between. -/
theorem processes_run (cfg : MacConfig) (n preemptedBytesSent : Nat) (tGates : List GateView)
    (es : List MacEvent) (s : EtherMac)
    (hr : run (step cfg) (start preemptedBytesSent tGates) es = .ok s) : Processes n s := by
  have hinv : s.Shape ∧ Orderly cfg s ∧ Processes n s := by
    refine run_invariant (I := fun s => s.Shape ∧ Orderly cfg s ∧ Processes n s) ?_
      ⟨shape_start _ _, ⟨nofun, nofun⟩, ?_⟩ hr
    · intro s e s' ⟨hshape, horder, h⟩ hs
      exact ⟨shape_step hshape hs, orderly_step horder hshape hs,
        (step_part horder hshape hs).processes hshape h⟩
    · intro messages hm
      exact ⟨_, MacReceiver.receive_signals hm, List.nil_append _, nofun, nofun⟩
  exact hinv.2.2

end EtherMac

end Nesting
