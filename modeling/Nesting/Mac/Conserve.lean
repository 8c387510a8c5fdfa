import Nesting.Lib.Reassembly
import Nesting.Mac.Timing

/-!
# The MAC conserves frames

* `accepted`, `fragments`, `stored`   the preemptable frames that came in, the parts that went out,
                      and what the MAC holds;
* `Conserved`         the parts reassemble to whole frames, which with the stored ones are those
                      accepted; no preemptable frame is started on hold;
* `Receptive`         the states in which a frame finds room;
* `conserves`         when every frame finds room, every state conserves frames;
* `loses_frame`       a frame that arrives while another one is half sent.
-/

set_option linter.unusedVariables false

namespace Nesting

namespace EtherMac

open Lib

/-! ## what has gone in and out -/

/-- the preemptable frames that `handleUpperPacket` has accepted -/
def accepted (s : EtherMac) : List Packet :=
  s.history.filterMap fun r =>
    match r with
    | .accepted packet => if packet.express then none else some packet
    | _ => none

/-- the messages `PreemptedFrame`, each with the bytes in its part -/
def fragments (s : EtherMac) : List (Packet × ℕ) :=
  s.history.filterMap fun r =>
    match r with
    | .preemptedFrame frame _ _ bytesInThisPart => some (frame, bytesInThisPart)
    | _ => none

/-- `curTxFrame` is the copy that is being sent -/
def SendingCopy (s : EtherMac) : Prop :=
  s.transmittingPreemptableFrame = true ∧ s.curTxFrame = s.currentPreemptableFrame

instance (s : EtherMac) : Decidable s.SendingCopy := inferInstanceAs (Decidable (_ ∧ _))

/-- the preemptable frames in `currentPreemptableFrame` and `curTxFrame` -/
def stored (s : EtherMac) : List Packet :=
  s.currentPreemptableFrame.toList ++
    if s.SendingCopy then [] else s.curTxFrame.toList.filter fun frame => !frame.express

/-- `currentPreemptableFrame` with `preemptedBytesSent`, when that is not zero -/
def partlySent (s : EtherMac) : Option (Packet × ℕ) :=
  match s.currentPreemptableFrame with
  | none => none
  | some frame => if s.preemptedBytesSent = 0 then none else some (frame, s.preemptedBytesSent)

/-- no preemptable frame is started on hold -/
def OffHold : MacRecord → Prop
  | .preemptable _ onHold => onHold = false
  | _ => True

instance : DecidablePred OffHold
  | .preemptable _ onHold => inferInstanceAs (Decidable (onHold = false))
  | .accepted _ | .express _ | .preemptedFrame _ _ _ _ => isTrue trivial

/-- what a receiver of the parts has got agrees with what the MAC has sent and holds -/
def Accounted (s : EtherMac) : Option (Assembly Packet) → Prop
  | none => False
  | some a => a.partially = s.partlySent ∧ s.accepted = a.done ++ s.stored

instance (s : EtherMac) : DecidablePred s.Accounted
  | none => isFalse id
  | some _ => inferInstanceAs (Decidable (_ ∧ _))

/-- the parts make up whole frames and the bytes that have been sent of `currentPreemptableFrame`;
every accepted frame is one of the whole ones or is stored; nothing preemptable starts on hold -/
def Conserved (s : EtherMac) : Prop :=
  s.Accounted (collect Packet.byteLength s.fragments) ∧ ∀ r ∈ s.history, OffHold r

instance (s : EtherMac) : Decidable s.Conserved := inferInstanceAs (Decidable (_ ∧ _))

/-- a frame finds room: a paused MAC holds no preemptable frame in `curTxFrame`, a preemptable frame
finds no other one to take the place of, and one that is put aside finds the counter at zero -/
def Receptive (s : EtherMac) (packet : Packet) : Prop :=
  (s.transmitState = .PAUSE_STATE → ∀ frame ∈ s.curTxFrame, frame.express = true) ∧
  (packet.express = false →
    (s.transmitState = .TX_IDLE_STATE → s.currentPreemptableFrame = none) ∧
    (s.onHold = true → s.currentPreemptableFrame = none → s.preemptedBytesSent = 0))

instance (s : EtherMac) (packet : Packet) : Decidable (s.Receptive packet) :=
  inferInstanceAs (Decidable (_ ∧ (_ → _ ∧ _)))

variable {cfg : MacConfig} {s s' : EtherMac}

theorem Receptive.distinct {packet : Packet} (h : s.Receptive packet) (hw : WellSized packet) :
    s.Distinct packet := by
  intro hpx
  obtain ⟨hidle, hhold⟩ := h.2 hpx
  refine ⟨fun hs => by rw [hidle hs]; nofun, fun ho hn => ?_⟩
  rw [hhold ho hn]
  exact lt_of_lt_of_le (by decide) hw.1

/-! ## the books -/

/-- what a state knows of its frames -/
structure Books (s : EtherMac) : Prop where
  conserved : s.Conserved
  express : s.transmittingExpressFrame = true → ∀ frame ∈ s.curTxFrame, frame.express = true

theorem books_start (preemptedBytesSent : Nat) (tGates : List GateView) :
    Books (start preemptedBytesSent tGates) :=
  ⟨⟨⟨rfl, rfl⟩, nofun⟩, nofun⟩

theorem Books.of_frames (h : Books s) (hc : s'.frames = s.frames) : Books s' := by
  have hs : Books s.frames := ⟨h.1, h.2⟩
  rw [← hc] at hs
  exact ⟨hs.1, hs.2⟩

theorem conserved_iff : s.Conserved ↔
    (∃ done, collect Packet.byteLength s.fragments = some ⟨done, s.partlySent⟩ ∧
      s.accepted = done ++ s.stored) ∧ ∀ r ∈ s.history, OffHold r := by
  unfold Conserved
  refine and_congr_left fun _ => ?_
  cases collect Packet.byteLength s.fragments with
  | none => exact ⟨False.elim, fun ⟨_, h, _⟩ => absurd h nofun⟩
  | some a =>
    obtain ⟨done, partially⟩ := a
    constructor
    · rintro ⟨rfl, h⟩
      exact ⟨done, rfl, h⟩
    · rintro ⟨_, h1, h2⟩
      cases h1
      exact ⟨rfl, h2⟩

/-- a record that is neither an accepted preemptable frame nor a part -/
theorem Conserved.record (h : s.Conserved) {r : MacRecord} (hh : s'.history = s.history ++ [r])
    (hr : OffHold r) (hp : s'.partlySent = s.partlySent) (hst : s'.stored = s.stored)
    (hf : s'.fragments = s.fragments) (ha : s'.accepted = s.accepted) : s'.Conserved := by
  obtain ⟨⟨done, h1, h2⟩, h3⟩ := conserved_iff.mp h
  refine conserved_iff.mpr ⟨⟨done, ?_, ?_⟩, ?_⟩
  · rw [hf, hp, h1]
  · rw [ha, hst, h2]
  · rw [hh]
    intro r' hr'
    rcases List.mem_append.mp hr' with hr' | hr'
    · exact h3 r' hr'
    · rw [List.mem_singleton.mp hr']
      exact hr

theorem stored_eq (hp : s.transmittingPreemptableFrame = false) : s.stored =
    s.currentPreemptableFrame.toList ++ s.curTxFrame.toList.filter fun frame => !frame.express := by
  unfold stored
  rw [if_neg fun h : s.SendingCopy => absurd (hp.symm.trans h.1) nofun]

theorem stored_of_express (hp : s.transmittingPreemptableFrame = false)
    (hx : ∀ frame ∈ s.curTxFrame, frame.express = true) :
    s.stored = s.currentPreemptableFrame.toList := by
  rw [stored_eq hp]
  cases hc : s.curTxFrame with
  | none => simp
  | some frame => simp [hx frame (by rw [hc]; rfl)]

theorem stored_of_none (hp : s.transmittingPreemptableFrame = false) (hc : s.curTxFrame = none) :
    s.stored = s.currentPreemptableFrame.toList :=
  stored_of_express hp fun frame hf => by rw [hc] at hf; cases hf

theorem stored_of_sending (h : s.SendingCopy) : s.stored = s.currentPreemptableFrame.toList := by
  unfold stored
  rw [if_pos h, List.append_nil]

theorem isNewFrame_of_none {frame : Packet} (h : s.currentPreemptableFrame = none) :
    s.isNewFrame frame = true := by
  unfold isNewFrame
  rw [h]

/-! ## what keeps the books -/

/-- an express frame is started -/
theorem Books.startExpress (h : Books s) {frame : Packet} (hx : frame.express = true)
    (hc : s.curTxFrame = none) (hp : s.transmittingPreemptableFrame = false) {m : EtherMac}
    (hm : m.frames = { s with
      curTxFrame := some frame
      currentExpressFrame := m.currentExpressFrame
      transmittingExpressFrame := true
      endTxMsg := m.endTxMsg
      history := s.history ++ [MacRecord.express frame] }.frames) : Books m := by
  refine Books.of_frames ?_ hm
  refine ⟨?_, fun _ f hf => (Option.some.inj hf) ▸ hx⟩
  refine h.conserved.record rfl trivial rfl ?_ ?_ ?_
  · rw [stored_of_none hp hc]
    refine stored_of_express hp fun f hf => ?_
    cases hf
    exact hx
  · unfold fragments
    simp
  · unfold accepted
    simp

/-- a preemptable frame is started: the stored one goes on, or there was none -/
theorem Books.startPreemptable (h : Books s) (frame : Packet) (sent : ℕ) (hh : s.onHold = false)
    (he : s.transmittingExpressFrame = false) (hstored : s.stored = [frame])
    (hpart : s.partlySent = if sent = 0 then none else some (frame, sent))
    {m : EtherMac} (hm : m.frames = { s with
      curTxFrame := some frame
      currentPreemptableFrame := some frame
      transmittingPreemptableFrame := true
      preemptableTransmissionStart := m.preemptableTransmissionStart
      preemptedBytesSent := sent
      endTxMsg := m.endTxMsg
      history := s.history ++ [MacRecord.preemptable frame s.onHold] }.frames) : Books m := by
  refine Books.of_frames ?_ hm
  refine ⟨?_, fun hex => absurd (he.symm.trans hex) nofun⟩
  refine h.conserved.record rfl hh hpart.symm ?_ ?_ ?_
  · rw [hstored]
    exact stored_of_sending ⟨rfl, rfl⟩
  · unfold fragments
    simp
  · unfold accepted
    simp

/-- what comes after a gap, a pause or a release -/
theorem nextFrame_books (henable : cfg.enablePreemptingFrames = true) (h : Books s)
    (ht : Timing cfg s) (he : s.transmittingExpressFrame = false)
    (hp : s.transmittingPreemptableFrame = false)
    (hn : (s.getNextFrameFromQueue cfg >>= fun s => s.beginSendFrames cfg) = .ok s') :
    Books s' := by
  obtain ⟨hc, s1, hnext, ⟨frame, hframe, _, _, _, hstart⟩ | ⟨hnone, rfl⟩⟩ := nextFrame_ok hn
  · cases hnext with
    | stored frame' hw =>
      cases hframe
      have hx := (ht.waiting frame hw).1
      cases hstart with
      | express => exact h.startExpress hx hc hp rfl
      | new hno => exact absurd (hx.symm.trans hno.2) nofun
      | resumed hno => exact absurd (hx.symm.trans hno.2) nofun
    | resumed frame' _ hh hf ts =>
      cases hframe
      have hx := (ht.current frame hf).1
      cases hstart with
      | express hex =>
        rw [henable, hx] at hex
        exact hex.elim nofun nofun
      | new _ hnew =>
        have hnew : s.isNewFrame frame = true := hnew
        exact absurd (hnew.symm.trans (isNewFrame_eq_false.mpr ⟨frame, hf, rfl⟩)) nofun
      | resumed =>
        refine h.startPreemptable frame s.preemptedBytesSent hh he ?_ ?_ ?_
        · rw [stored_of_none hp hc, hf]
          rfl
        · unfold partlySent
          rw [hf]
        · unfold frames core
          dsimp only
          rw [hf]
    | nothing => exact absurd (hc.symm.trans hframe) nofun
  · cases hnext with
    | stored => cases hnone
    | resumed => cases hnone
    | nothing => exact h.of_frames rfl

/-- the frame in transmission is gone -/
theorem Books.finish (h : Books { s with curTxFrame := none })
    (hf : s.finishTransmission cfg = .ok s') : Books s' := by
  obtain ⟨_, frame, _, ⟨t, rfl⟩ | ⟨t, rfl⟩⟩ := finishTransmission_ok hf
  · exact h.of_frames rfl
  · exact h.of_frames rfl

theorem Books.expressSent (h : Books s) (hp : s.transmittingPreemptableFrame = false)
    (hx : ∀ frame ∈ s.curTxFrame, frame.express = true) :
    Books { s with
      endTxMsg := none
      curTxFrame := none
      transmittingExpressFrame := false
      transmittingPreemptableFrame := false } := by
  obtain ⟨⟨done, h1, h2⟩, h3⟩ := conserved_iff.mp h.conserved
  rw [stored_of_express hp hx] at h2
  refine ⟨conserved_iff.mpr ⟨⟨done, h1, ?_⟩, h3⟩, nofun⟩
  rw [stored_of_none rfl rfl]
  exact h2

/-- a part of the stored frame has gone out -/
theorem SentPart.books {frame : Packet} (h : Books s) (hf : s.currentPreemptableFrame = some frame)
    (hstored : s.stored = [frame]) (hs : SentPart cfg { s with endTxMsg := none } frame s') :
    Books { s' with
      curTxFrame := none
      transmittingExpressFrame := false
      transmittingPreemptableFrame := false } := by
  obtain ⟨⟨done, h1, h2⟩, h3⟩ := conserved_iff.mp h.conserved
  rw [hstored] at h2
  have hpart : s.partlySent = if s.preemptedBytesSent = 0 then none
      else some (frame, s.preemptedBytesSent) := by
    unfold partlySent
    rw [hf]
  -- one more part, and no more accepted frames
  have hrecord : ∀ sent n : ℕ, let m := { s with
        history := s.history ++ [MacRecord.preemptedFrame frame sent frame.byteLength n] }
      (∀ r ∈ m.history, OffHold r) ∧ m.fragments = s.fragments ++ [(frame, n)] ∧
        m.accepted = s.accepted := by
    intro sent n m
    refine ⟨?_, ?_, ?_⟩
    · intro r hr
      rcases List.mem_append.mp hr with hr | hr
      · exact h3 r hr
      · rw [List.mem_singleton.mp hr]
        trivial
    · unfold fragments
      simp [m]
    · unfold accepted
      simp [m]
  -- the frame stays, with more bytes sent
  have hstays : ∀ n, s.preemptedBytesSent + n ≠ 0 → s.preemptedBytesSent + n ≠ frame.byteLength →
      Books { s with
        endTxMsg := none
        preemptedBytesSent := s.preemptedBytesSent + n
        history := s.history ++
          [.preemptedFrame frame (s.preemptedBytesSent + n) frame.byteLength n]
        curTxFrame := none
        transmittingExpressFrame := false
        transmittingPreemptableFrame := false } := by
    intro n hpos hless
    obtain ⟨hoff, hfrag, hacc⟩ := hrecord (s.preemptedBytesSent + n) n
    refine ⟨conserved_iff.mpr ⟨⟨done, ?_, ?_⟩, hoff⟩, nofun⟩
    · refine (congrArg (collect Packet.byteLength) hfrag).trans ?_
      rw [collect_snoc, h1]
      have hnew : { s with preemptedBytesSent := s.preemptedBytesSent + n }.partlySent =
          some (frame, s.preemptedBytesSent + n) := by
        unfold partlySent
        dsimp only
        rw [hf]
        exact if_neg hpos
      refine Eq.trans ?_ (congrArg (fun p => some (Assembly.mk done p)) hnew.symm)
      show Assembly.add _ _ _ = _
      by_cases h0 : s.preemptedBytesSent = 0
      · rw [h0, Nat.zero_add] at hless ⊢
        exact Assembly.add_first (by rw [hpart, if_pos h0]) hless
      · exact Assembly.add_part (by rw [hpart, if_neg h0]) hless
    · refine (hacc.trans h2).trans ?_
      rw [stored_of_none rfl rfl]
      show _ = done ++ s.currentPreemptableFrame.toList
      rw [hf]
      rfl
  cases hs with
  | last n hn =>
    have hn : s.preemptedBytesSent + n = frame.byteLength := hn
    obtain ⟨hoff, hfrag, hacc⟩ := hrecord frame.byteLength n
    refine ⟨conserved_iff.mpr ⟨⟨done ++ [frame], ?_, ?_⟩, hoff⟩, nofun⟩
    · refine (congrArg (collect Packet.byteLength) hfrag).trans ?_
      rw [collect_snoc, h1]
      show Assembly.add _ _ _ = _
      by_cases h0 : s.preemptedBytesSent = 0
      · rw [show n = frame.byteLength by omega]
        exact Assembly.add_whole (by rw [hpart, if_pos h0])
      · exact Assembly.add_last (m := s.preemptedBytesSent) (by rw [hpart, if_neg h0]) hn
    · refine (hacc.trans h2).trans ?_
      rw [stored_of_none rfl rfl]
      exact (List.append_nil _).symm
  | part n h60 hrem =>
    have hrem : s.preemptedBytesSent + n + 60 ≤ frame.byteLength := hrem
    exact hstays n (by omega) (by omega)
  | exceeds n hn =>
    have hmore : frame.byteLength + 5 ≤ s.preemptedBytesSent + n := hn.more
    exact hstays n (by omega) (by omega)

theorem handleEndTxPeriod_books (henable : cfg.enablePreemptingFrames = true) (h : Books s)
    (htime : Timing cfg s) (hshape : s.Shape) (ht : s.endTxMsg = some s.time)
    (hs : { s with endTxMsg := none }.handleEndTxPeriod cfg = .ok s') : Books s' := by
  have hsending : s.transmitState = .TRANSMITTING_STATE :=
    hshape.endTx_iff.mpr (by rw [ht]; nofun)
  unfold handleEndTxPeriod at hs
  split at hs
  · rename_i hp
    have hp : s.transmittingPreemptableFrame = true := by simpa [henable] using hp
    obtain ⟨m, hm, hs⟩ := bind_ok.mp hs
    obtain ⟨frame, hf, hpart⟩ := sendPreemptedFrame_cases htime ht hp hm
    have hstored : s.stored = [frame] := by
      rw [stored_of_sending ⟨hp, (htime.sending hp).copy⟩, hf]
      rfl
    exact Books.finish (hpart.books h hf hstored) hs
  · rename_i hp
    have hp : s.transmittingPreemptableFrame = false := by simpa [henable] using hp
    have hx : s.transmittingExpressFrame = true :=
      (hshape.transmitting_iff.mp hsending).resolve_right (by rw [hp]; nofun)
    split at hs
    · cases hs
    · exact Books.finish (h.expressSent hp (h.express hx)) hs

/-- the new frame is put where an idle or a paused MAC keeps it -/
theorem Books.store {packet : Packet} (h : Books s) (he : s.transmittingExpressFrame = false)
    (hp : s.transmittingPreemptableFrame = false)
    (hx : ∀ frame ∈ s.curTxFrame, frame.express = true)
    (hsent : packet.express = false → s.onHold = true → s.currentPreemptableFrame = none →
      s.preemptedBytesSent = 0) :
    Books ({ s with
      history := s.history ++ [MacRecord.accepted packet]
      curTxFrame := some packet }.storeOnHold packet) := by
  obtain ⟨⟨done, h1, h2⟩, h3⟩ := conserved_iff.mp h.conserved
  rw [stored_of_express hp hx] at h2
  have hoff : ∀ r ∈ s.history ++ [MacRecord.accepted packet], OffHold r := by
    intro r hr
    rcases List.mem_append.mp hr with hr | hr
    · exact h3 r hr
    · rw [List.mem_singleton.mp hr]
      trivial
  have hacc : ∀ m : EtherMac, m.history = s.history ++ [MacRecord.accepted packet] →
      m.fragments = s.fragments ∧
        m.accepted = s.accepted ++ if packet.express then [] else [packet] := by
    intro m hm
    unfold fragments accepted
    rw [hm]
    cases hpx : packet.express with
    | true => simp [hpx]
    | false => simp [hpx]
  unfold storeOnHold
  split
  · rename_i hstore
    have hstore : (s.onHold = true ∧ packet.express = false) ∧ s.currentPreemptableFrame = none := by
      simpa using hstore
    obtain ⟨⟨hhold, hpx⟩, hnone⟩ := hstore
    have hzero := hsent hpx hhold hnone
    refine ⟨conserved_iff.mpr ⟨⟨done, ?_, ?_⟩, hoff⟩, fun hex => absurd (he.symm.trans hex) nofun⟩
    · rw [(hacc _ rfl).1, h1]
      unfold partlySent
      rw [hnone, hzero]
      rfl
    · rw [(hacc _ rfl).2, h2, hnone, hpx]
      refine Eq.trans ?_ (congrArg _ (stored_eq ?_).symm)
      · simp
      · exact hp
  · refine ⟨conserved_iff.mpr ⟨⟨done, ?_, ?_⟩, hoff⟩, fun hex => absurd (he.symm.trans hex) nofun⟩
    · rw [(hacc _ rfl).1, h1]
      rfl
    · rw [(hacc _ rfl).2, h2]
      refine Eq.trans ?_ (congrArg _ (stored_eq ?_).symm)
      · cases hpx : packet.express with
        | true => simp [hpx]
        | false => simp [hpx]
      · exact hp

/-- an accepted express frame -/
theorem Books.acceptExpress (h : Books s) {packet : Packet} (hx : packet.express = true)
    {m : EtherMac} (hm : m.frames = { s with
      history := s.history ++ [MacRecord.accepted packet]
      currentExpressFrame := m.currentExpressFrame
      endTxMsg := m.endTxMsg }.frames) : Books m := by
  refine Books.of_frames ?_ hm
  refine ⟨?_, h.express⟩
  refine h.conserved.record rfl trivial rfl rfl ?_ ?_
  · unfold fragments
    simp
  · unfold accepted
    simp [hx]

theorem ArrivalStep.books (henable : cfg.enablePreemptingFrames = true) (h : Books s)
    (hshape : s.Shape) {packet : Packet} (hr : s.Receptive packet)
    (ha : ArrivalStep cfg { s with history := s.history ++ [MacRecord.accepted packet] } packet s') :
    Books s' := by
  cases ha with
  | preempting he hp hpre =>
    obtain ⟨_, _, rfl⟩ := preemptCurrentFrame_ok hpre
    exact h.acceptExpress he rfl
  | inGap he hs => exact h.acceptExpress he rfl
  | paused hs =>
    obtain ⟨he, hp⟩ := hshape.flags (by rw [show s.transmitState = _ from hs]; nofun)
    exact h.store he hp (hr.1 hs) fun hpx => (hr.2 hpx).2
  | sent hs hstart =>
    have hs : s.transmitState = .TX_IDLE_STATE := hs
    obtain ⟨he, hp⟩ := hshape.flags (by rw [hs]; nofun)
    have hcur := (hshape.idle hs).1
    have hb : Books ({ s with
        history := s.history ++ [MacRecord.accepted packet]
        curTxFrame := some packet }.storeOnHold packet) :=
      h.store he hp (by rw [hcur]; nofun) fun hpx => (hr.2 hpx).2
    obtain ⟨frame, hframe, _, _, _, hst⟩ := startFrameTransmission_ok hstart
    unfold storeOnHold at hb hframe hst
    split at hframe
    · cases hframe
    · rename_i hstore
      rw [if_neg hstore] at hb hst
      cases hframe
      cases hst with
      | express hex =>
        have hpx : packet.express = true := hex.resolve_left (by rw [henable]; nofun)
        have hacc : Books { s with history := s.history ++ [MacRecord.accepted packet] } :=
          h.acceptExpress hpx rfl
        exact hacc.startExpress hpx hcur hp rfl
      | new hx =>
        have hnone := (hr.2 hx.2).1 hs
        have hhold : s.onHold = false := by
          cases hhold : s.onHold with
          | false => rfl
          | true => exact absurd (by simp [hhold, hx.2, hnone]) hstore
        refine hb.startPreemptable packet 0 hhold he ?_ ?_ ?_
        · refine (stored_eq ?_).trans ?_
          · exact hp
          · dsimp only
            rw [hnone]
            simp [hx.2]
        · unfold partlySent
          dsimp only
          rw [hnone]
          rfl
        · rfl
      | resumed hx hold =>
        have hold : s.isNewFrame packet = false := hold
        exact absurd (hold.symm.trans (isNewFrame_of_none ((hr.2 hx.2).1 hs))) nofun
  | stray he hs hx hp =>
    exact absurd (hshape.transmitting_iff.mp hs)
      (by rw [show s.transmittingExpressFrame = _ from hx,
        show s.transmittingPreemptableFrame = _ from hp]; exact fun h => h.elim nofun nofun)

/-- a step in which the frame that comes in finds room keeps the books -/
theorem books_step (henable : cfg.enablePreemptingFrames = true) (h : Books s)
    (htime : Timing cfg s) (hshape : s.Shape) {e : MacEvent} (hr : Receives cfg Receptive s e)
    (hs : s.step cfg e = .ok s') : Books s' := by
  cases step_change hshape hs with
  | quiet hc _ _ => exact h.of_frames hc
  | next hm ht _ he hp hn =>
    exact nextFrame_books henable (h.of_frames hm) (htime.of_frames hm ht.ge) he hp hn
  | endTx hd ht => exact handleEndTxPeriod_books henable h htime hshape hd ht
  | preempt hm ht _ hp =>
    obtain ⟨_, _, rfl⟩ := preemptCurrentFrame_ok hp
    have hb := h.of_frames hm
    exact ⟨hb.1, hb.2⟩
  | @arrive m t packet hm ht _ hh hup hw he ha =>
    have hrec := hr.delivered hup he
    refine ArrivalStep.books henable (h.of_frames (frames_of_core hm)) (hshape.of_core hm) ?_ ha
    have hm1 : m.core.transmitState = s.core.transmitState := congrArg transmitState hm
    have hm2 : m.core.currentPreemptableFrame = s.core.currentPreemptableFrame :=
      congrArg currentPreemptableFrame hm
    have hm3 : m.core.preemptedBytesSent = s.core.preemptedBytesSent :=
      congrArg preemptedBytesSent hm
    have hm4 : m.core.curTxFrame = s.core.curTxFrame := congrArg curTxFrame hm
    unfold Receptive at hrec ⊢
    rw [show m.transmitState = s.transmitState from hm1, show m.currentPreemptableFrame = _ from hm2,
      show m.preemptedBytesSent = _ from hm3, show m.curTxFrame = _ from hm4, hh]
    exact hrec

/-! ## runs -/

/-- **Frames are conserved** in every run in which each frame that comes in finds room; where the
time of a bit is not rounded, a stored frame has bytes left to send. -/
theorem conserves (cfg : MacConfig) (henable : cfg.enablePreemptingFrames = true)
    (preemptedBytesSent : Nat) (tGates : List GateView) (es : List MacEvent) (s : EtherMac)
    (hm : Meets (step cfg) (Receives cfg Receptive) (start preemptedBytesSent tGates) es)
    (hr : run (step cfg) (start preemptedBytesSent tGates) es = .ok s) :
    s.Conserved ∧ (cfg.bitTime = 1 / cfg.txrate →
      ∀ frame ∈ s.currentPreemptableFrame, s.preemptedBytesSent < frame.byteLength) := by
  have hinv : s.Shape ∧ Timing cfg s ∧ Books s := by
    refine run_invariant_of (I := fun s => s.Shape ∧ Timing cfg s ∧ Books s) ?_
      ⟨shape_start _ _, timing_start _ _, books_start _ _⟩ hm hr
    intro s e s' ⟨hshape, htime, h⟩ hrec hs
    exact ⟨shape_step hshape hs,
      timing_step htime hshape (fun p hup hw hd => (hrec.delivered hup hd).distinct hw) hs,
      books_step henable h htime hshape hrec hs⟩
  obtain ⟨_, htime, hbooks⟩ := hinv
  exact ⟨hbooks.conserved, fun hexact frame hf => (htime.current frame hf).2.2.lt hexact⟩

/-- 100 Mbit/s: a byte takes 80 ns -/
def fastMac : MacConfig :=
  ⟨100000000, by decide +kernel, true, true, false, "0A-AA-00-00-00-01"⟩

theorem fastMac_exact : fastMac.bitTime = 1 / fastMac.txrate := by decide +kernel

def byteTimes (n : ℚ) : SimTime := n / 12500000

/-- a preemptable queue at gate 0 and an express queue at gate 1 -/
def twoGates (open0 empty0 open1 empty1 : Bool) : List GateView :=
  [⟨open0, false, empty0⟩, ⟨open1, true, empty1⟩]

def bulkFrame : Packet := ⟨1, "bulk-1", 500, "0A-AA-00-00-00-02", false⟩
def expressFrame : Packet := ⟨2, "express-1", 64, "0A-AA-00-00-00-02", true⟩
def nextBulkFrame : Packet := ⟨3, "bulk-2", 300, "0A-AA-00-00-00-02", false⟩

/-- a preemptable frame is preempted after 100 bytes by an express frame -/
def preemptionRun : List MacEvent :=
  [.requestPacketMsg,
   .setGates (twoGates true false true true), .gatePacketEnqueued, .packetEnqueuedMsg,
   .handlePacket 0 bulkFrame,
   .setGates (twoGates true true true true), .advance (byteTimes 100),
   .setGates (twoGates true true true false), .gatePacketEnqueued, .packetEnqueuedMsg,
   .requestPacketMsg, .handlePacket 1 expressFrame,
   .setGates (twoGates true true true true), .advance (byteTimes 104), .timer .endTx, .timer .endIFG,
   .advance (byteTimes 176)]

/-- at the end of the express frame the MAC asks for another one, but the express gate closes before
the request is handled, and the other gate has a frame -/
def lostFrameRun : List MacEvent :=
  preemptionRun ++
    [.setGates (twoGates true false true false), .timer .endTx, .timer .endIFG,
     .setGates (twoGates true false false false), .requestPacketMsg, .handlePacket 0 nextBulkFrame]

/-- the frame that was preempted is gone after 100 of its 500 bytes -/
theorem loses_frame : ∃ s, run (step fastMac) (start 0 (twoGates true true true true)) lostFrameRun
    = .ok s ∧ (s.accepted = [bulkFrame, nextBulkFrame] ∧ s.fragments = [(bulkFrame, 100)] ∧
      s.stored = [nextBulkFrame] ∧ ¬s.Conserved) :=
  exists_of_any (by decide +kernel)

/-- the preempted frame waits, and goes on when no other frame is found -/
theorem conserves_preemptionRun : ∃ s, run (step fastMac) (start 0 (twoGates true true true true))
    (preemptionRun ++ [.timer .endTx, .timer .endIFG]) = .ok s ∧ s.Conserved ∧
      s.fragments = [(bulkFrame, 100)] ∧ s.curTxFrame = some bulkFrame := by
  obtain ⟨s, hs, hp⟩ : ∃ s, run (step fastMac) (start 0 (twoGates true true true true))
      (preemptionRun ++ [.timer .endTx, .timer .endIFG]) = .ok s ∧
        (s.fragments = [(bulkFrame, 100)] ∧ s.curTxFrame = some bulkFrame) :=
    exists_of_any (by decide +kernel)
  exact ⟨s, hs, (conserves fastMac rfl 0 _ _ s (by decide +kernel) hs).1, hp⟩

end EtherMac

end Nesting
