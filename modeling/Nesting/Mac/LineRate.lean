import Nesting.Mac.ByteCount
import Nesting.Mac.Conserve

/-!
# The rate of the line

* `wireBytes`, `sentBytes`   the bytes that a record, and all of them, put on the line;
* `busyUntil`     the instant up to which the line is taken by them;
* `spare`         the bits that the line could have carried besides;
* `line_rate`     **over any part of a run the line carries at most what its rate allows**.
-/

set_option linter.unusedVariables false

namespace Nesting

namespace EtherMac

open Lib

variable {cfg : MacConfig} {s s' : EtherMac} {e : MacEvent} {frame : Packet}

/-! ## bytes on the line -/

/-- with preamble and delimiter; a part that is not the last one has four bytes of checksum -/
def wireBytes : MacRecord → Nat
  | .accepted _ | .preemptable _ _ => 0
  | .express frame => encapsulatedLength frame
  | .preemptedFrame _ bytesSent bytesTotal bytesInThisPart =>
    if bytesSent = bytesTotal then bytesInThisPart + 8 else bytesInThisPart + 4

def sentBytes (s : EtherMac) : Nat := (s.history.map wireBytes).sum

/-- an express frame is counted from its start, a part of another frame at its end -/
def busyUntil (s : EtherMac) : SimTime :=
  if s.transmittingExpressFrame then s.endTxMsg.getD s.time
  else if s.transmittingPreemptableFrame then s.preemptableTransmissionStart
  else s.time

def spare (cfg : MacConfig) (s : EtherMac) : ℚ := cfg.txrate * s.busyUntil - 8 * s.sentBytes

theorem sentBytes_record {r : MacRecord} (h : s'.history = s.history ++ [r]) :
    s'.sentBytes = s.sentBytes + wireBytes r := by
  unfold sentBytes
  rw [h]
  simp

theorem busyUntil_express (h : s.transmittingExpressFrame = true) {t : SimTime}
    (ht : s.endTxMsg = some t) : s.busyUntil = t := by
  simp [busyUntil, h, ht]

theorem busyUntil_preemptable (he : s.transmittingExpressFrame = false)
    (hp : s.transmittingPreemptableFrame = true) :
    s.busyUntil = s.preemptableTransmissionStart := by
  simp [busyUntil, he, hp]

theorem busyUntil_free (he : s.transmittingExpressFrame = false)
    (hp : s.transmittingPreemptableFrame = false) : s.busyUntil = s.time := by
  simp [busyUntil, he, hp]

/-- the frame in transmission takes the line up to its end or from its start -/
theorem busyUntil_of_frames (hc : s'.frames = s.frames) (ht : s.time ≤ s'.time) :
    s.busyUntil ≤ s'.busyUntil := by
  have h : ∀ {α : Type} (f : EtherMac → α), f s'.frames = f s.frames := fun f => congrArg f hc
  have he : s'.transmittingExpressFrame = s.transmittingExpressFrame := h transmittingExpressFrame
  have hp : s'.transmittingPreemptableFrame = s.transmittingPreemptableFrame :=
    h transmittingPreemptableFrame
  have hx : s'.endTxMsg = s.endTxMsg := h endTxMsg
  have hs : s'.preemptableTransmissionStart = s.preemptableTransmissionStart :=
    h preemptableTransmissionStart
  unfold busyUntil
  rw [he, hp, hx, hs]
  split
  · cases s.endTxMsg with
    | none => exact ht
    | some t => exact le_rfl
  · split
    · exact le_rfl
    · exact ht

theorem sentBytes_of_frames (hc : s'.frames = s.frames) : s'.sentBytes = s.sentBytes := by
  have h : s'.frames.sentBytes = s.frames.sentBytes := congrArg sentBytes hc
  exact h

/-! ## what a step leaves over -/

theorem spare_le_iff : spare cfg s ≤ spare cfg s' ↔
    8 * ((s'.sentBytes : ℚ) - s.sentBytes) ≤ cfg.txrate * (s'.busyUntil - s.busyUntil) := by
  unfold spare
  constructor
  · intro h
    linarith
  · intro h
    linarith

theorem spare_of_frames (hc : s'.frames = s.frames) (ht : s.time ≤ s'.time) :
    spare cfg s ≤ spare cfg s' := by
  have hb := busyUntil_of_frames hc ht
  have hr := cfg.txrate_pos
  unfold spare
  rw [sentBytes_of_frames hc]
  gcongr

/-- a state with the same line and one more record that puts nothing on it -/
theorem spare_of_record {r : MacRecord} (hh : s'.history = s.history ++ [r]) (hw : wireBytes r = 0)
    (hb : s'.busyUntil = s.busyUntil) : spare cfg s' = spare cfg s := by
  unfold spare
  rw [sentBytes_record hh, hw, hb, Nat.add_zero]

theorem txrate_mul_calculateDuration (n : Nat) : cfg.txrate * calculateDuration cfg n = 8 * n := by
  have hr := ne_of_gt cfg.txrate_pos
  unfold calculateDuration
  field_simp

/-- an express frame takes the line for just its bytes, another frame takes it later -/
theorem StartTransmission.spare (hst : StartTransmission cfg s frame s')
    (he : s.transmittingExpressFrame = false) (hp : s.transmittingPreemptableFrame = false) :
    spare cfg s' = EtherMac.spare cfg s := by
  have hbusy := busyUntil_free he hp
  cases hst with
  | express =>
    unfold EtherMac.spare
    rw [sentBytes_record rfl, busyUntil_express rfl rfl, hbusy]
    have hd : cfg.txrate * calculateDuration cfg (encapsulatedLength frame) =
        8 * (encapsulatedLength frame : ℚ) := txrate_mul_calculateDuration _
    push_cast [wireBytes]
    linarith
  | new =>
    refine spare_of_record rfl rfl ((busyUntil_preemptable ?_ rfl).trans hbusy.symm)
    exact he
  | resumed =>
    refine spare_of_record rfl rfl ((busyUntil_preemptable ?_ rfl).trans hbusy.symm)
    exact he

theorem nextFrame_spare (he : s.transmittingExpressFrame = false)
    (hp : s.transmittingPreemptableFrame = false)
    (hn : (s.getNextFrameFromQueue cfg >>= fun s => s.beginSendFrames cfg) = .ok s') :
    spare cfg s' = spare cfg s := by
  obtain ⟨_, s1, hnext, hrest⟩ := nextFrame_ok hn
  have hs1 : s1.sentBytes = s.sentBytes ∧ s1.time = s.time ∧
      s1.transmittingExpressFrame = false ∧ s1.transmittingPreemptableFrame = false := by
    cases hnext with
    | stored => exact ⟨rfl, rfl, he, hp⟩
    | resumed => exact ⟨rfl, rfl, he, hp⟩
    | nothing => exact ⟨rfl, rfl, he, hp⟩
  obtain ⟨hsent, htime, he1, hp1⟩ := hs1
  have hfree : ∀ m : EtherMac, m.sentBytes = s1.sentBytes → m.busyUntil = s1.time →
      spare cfg m = spare cfg s := by
    intro m hm hb
    unfold spare
    rw [hm, hb, hsent, htime, busyUntil_free he hp]
  obtain ⟨_, _, _, _, _, hst⟩ | ⟨_, rfl⟩ := hrest
  · rw [hst.spare he1 hp1]
    exact hfree s1 rfl (busyUntil_free he1 hp1)
  · refine hfree _ rfl (busyUntil_free ?_ ?_)
    · exact he1
    · exact hp1

/-- a frame that is stopped has taken the line since it started -/
theorem preempt_spare (he : s.transmittingExpressFrame = false)
    (hp : s.preemptCurrentFrame cfg = .ok s') : spare cfg s' = spare cfg s := by
  obtain ⟨hpre, _, rfl⟩ := preemptCurrentFrame_ok hp
  have hb := busyUntil_preemptable he hpre
  unfold spare
  rw [hb, busyUntil_preemptable]
  · rfl
  · exact he
  · exact hpre

/-- the line becomes free -/
theorem finishTransmission_spare (hf : s.finishTransmission cfg = .ok s')
    (he : s.transmittingExpressFrame = false) (hp : s.transmittingPreemptableFrame = false) :
    s'.busyUntil = s.time ∧ s'.sentBytes = s.sentBytes := by
  obtain ⟨_, _, _, ⟨t, rfl⟩ | ⟨t, rfl⟩⟩ := finishTransmission_ok hf
  · exact ⟨busyUntil_free he hp, rfl⟩
  · exact ⟨busyUntil_free he hp, rfl⟩

/-- the bytes that fit into the time do not take longer -/
theorem bytesUntil_le (hexact : cfg.bitTime = 1 / cfg.txrate) (t : SimTime) :
    8 * (s.bytesUntil cfg t : ℚ) ≤ cfg.txrate * (t - s.preemptableTransmissionStart) := by
  have hr := cfg.txrate_pos
  have hfloor : (s.bytesUntil cfg t : ℚ) ≤
      (t - s.preemptableTransmissionStart) / (1 / cfg.txrate) / 8 := by
    unfold bytesUntil
    rw [hexact]
    exact Int.floor_le _
  have heq : (t - s.preemptableTransmissionStart) / (1 / cfg.txrate) / 8 * 8 =
      cfg.txrate * (t - s.preemptableTransmissionStart) := by
    field_simp
  linarith

theorem handleEndTxPeriod_spare (hexact : cfg.bitTime = 1 / cfg.txrate) (htime : Timing cfg s)
    (hshape : s.Shape) (ht : s.endTxMsg = some s.time)
    (hs : { s with endTxMsg := none }.handleEndTxPeriod cfg = .ok s') :
    spare cfg s ≤ spare cfg s' := by
  unfold handleEndTxPeriod at hs
  split at hs
  · rename_i hp
    have hp : s.transmittingPreemptableFrame = true := by
      simp only [Bool.and_eq_true] at hp
      exact hp.2
    obtain ⟨m, hm, hs⟩ := bind_ok.mp hs
    obtain ⟨frame, bytes, hf, hbytes, rfl⟩ := sendPreemptedFrame_ok hm
    obtain ⟨hbusy, hsent⟩ := finishTransmission_spare hs rfl rfl
    -- the part that has ended is as long as the bytes in it
    have hpart : (wireBytes (.preemptedFrame frame
        (framelet frame s.preemptedBytesSent (uint bytes)).2 frame.byteLength
        (framelet frame s.preemptedBytesSent (uint bytes)).1) : ℤ) = s.bytesUntil cfg s.time := by
      obtain ⟨n, hcase⟩ := htime.framelet_cases ht hp hf hbytes
      cases hcase with
      | last _ _ hn hlet =>
        rw [hlet, hn]
        simp [wireBytes]
      | part _ hrem hn hlet =>
        rw [hlet, hn]
        have hne : s.preemptedBytesSent + n ≠ frame.byteLength := by omega
        simp [wireBytes, hne]
      | exceeds _ _ _ hover _ => exact absurd hexact hover.cut
    have hle : 8 * (s.bytesUntil cfg s.time : ℚ) ≤
        cfg.txrate * (s.time - s.preemptableTransmissionStart) := bytesUntil_le hexact _
    rw [← hpart] at hle
    rw [spare_le_iff, hbusy, hsent, busyUntil_preemptable (hshape.noExpress hp) hp]
    have hrec : ∀ m : EtherMac, m.history = s.history ++ [.preemptedFrame frame
        (framelet frame s.preemptedBytesSent (uint bytes)).2 frame.byteLength
        (framelet frame s.preemptedBytesSent (uint bytes)).1] →
        8 * ((m.sentBytes : ℚ) - s.sentBytes) ≤
          cfg.txrate * (s.time - s.preemptableTransmissionStart) := by
      intro m hm
      rw [sentBytes_record hm]
      push_cast at hle ⊢
      linarith
    exact hrec _ rfl
  · rename_i hno
    split at hs
    · cases hs
    · obtain ⟨hbusy, hsent⟩ := finishTransmission_spare hs rfl rfl
      have hexpress : s.transmittingExpressFrame = true := by
        refine (hshape.transmitting_iff.mp ?_).resolve_right fun hp => hno ?_
        · exact hshape.endTx_iff.mpr (by rw [ht]; nofun)
        · exact Bool.and_eq_true_iff.mpr ⟨(htime.sending hp).enabled, hp⟩
      refine le_of_eq ?_
      unfold spare
      rw [hbusy, hsent, busyUntil_express hexpress ht]
      rfl

theorem ArrivalStep.spare (hshape : s.Shape) {packet : Packet}
    (ha : ArrivalStep cfg { s with history := s.history ++ [MacRecord.accepted packet] } packet s') :
    spare cfg s' = EtherMac.spare cfg s := by
  have hacc : ∀ m : EtherMac, m.history = s.history ++ [MacRecord.accepted packet] →
      m.busyUntil = s.busyUntil → EtherMac.spare cfg m = EtherMac.spare cfg s :=
    fun m hh hb => spare_of_record hh rfl hb
  cases ha with
  | preempting _ hp hpre =>
    refine (preempt_spare ?_ hpre).trans (hacc _ rfl rfl)
    exact hshape.noExpress hp
  | inGap => exact hacc _ rfl rfl
  | paused =>
    unfold storeOnHold
    split
    · exact hacc _ rfl rfl
    · exact hacc _ rfl rfl
  | sent hs hstart =>
    obtain ⟨he, hp⟩ := hshape.flags (by rw [show s.transmitState = _ from hs]; nofun)
    obtain ⟨frame, _, _, _, _, hst⟩ := startFrameTransmission_ok hstart
    unfold storeOnHold at hst
    split at hst
    · rw [hst.spare he hp]
      exact hacc _ rfl rfl
    · rw [hst.spare he hp]
      exact hacc _ rfl rfl
  | stray => exact hacc _ rfl rfl

/-- no step puts more on the line than the time that it takes allows -/
theorem spare_step (hexact : cfg.bitTime = 1 / cfg.txrate) (htime : Timing cfg s) (hshape : s.Shape)
    (hs : s.step cfg e = .ok s') : spare cfg s ≤ spare cfg s' := by
  cases step_change hshape hs with
  | quiet hc ht _ => exact spare_of_frames hc ht
  | next hm ht _ he hp hn =>
    rw [nextFrame_spare he hp hn]
    exact spare_of_frames hm ht.ge
  | endTx hd ht => exact handleEndTxPeriod_spare hexact htime hshape hd ht
  | @preempt m t hm ht _ hp =>
    obtain ⟨hpre, _, _⟩ := preemptCurrentFrame_ok hp
    have hflag : m.frames.transmittingPreemptableFrame = s.frames.transmittingPreemptableFrame :=
      congrArg transmittingPreemptableFrame hm
    have heq : m.frames.transmittingExpressFrame = s.frames.transmittingExpressFrame :=
      congrArg transmittingExpressFrame hm
    have he : m.transmittingExpressFrame = false :=
      heq.trans (hshape.noExpress (hflag.symm.trans hpre))
    rw [preempt_spare he hp]
    exact spare_of_frames hm ht.ge
  | arrive hm ht _ _ _ _ _ ha =>
    rw [ha.spare (hshape.of_core hm)]
    exact spare_of_frames (frames_of_core hm) ht.ge

/-! ## any part of a run -/

/-- the shape of the state, the times of the frames, and at least so much that is left over -/
structure WithinRate (cfg : MacConfig) (left : ℚ) (s : EtherMac) : Prop where
  shape : s.Shape
  timing : Timing cfg s
  left_le : left ≤ spare cfg s

theorem withinRate_step {left : ℚ} (hexact : cfg.bitTime = 1 / cfg.txrate)
    (h : WithinRate cfg left s) (hr : Receives cfg Distinct s e)
    (hs : s.step cfg e = .ok s') : WithinRate cfg left s' where
  shape := shape_step h.shape hs
  timing := timing_step h.timing h.shape (fun packet hup _ hd => hr.delivered hup hd) hs
  left_le := h.left_le.trans (spare_step hexact h.timing h.shape hs)

/-- **The line keeps its rate**: where the time of a bit is not rounded, in every run in which no
frame is taken for another one, between any two of its states the MAC has put no more bits on the
line than its rate allows in the time in between, also over holds, pauses and frames that are
stopped and go on later. -/
theorem line_rate (cfg : MacConfig) (hexact : cfg.bitTime = 1 / cfg.txrate)
    (preemptedBytesSent : Nat) (tGates : List GateView) (es es' : List MacEvent) (s s' : EtherMac)
    (hm : Meets (step cfg) (Receives cfg Distinct) (start preemptedBytesSent tGates) (es ++ es'))
    (hr : run (step cfg) (start preemptedBytesSent tGates) es = .ok s)
    (hr' : run (step cfg) s es' = .ok s') :
    8 * ((s'.sentBytes : ℚ) - s.sentBytes) ≤ cfg.txrate * (s'.busyUntil - s.busyUntil) := by
  obtain ⟨hm, hm'⟩ := meets_append.mp hm
  have hstep : ∀ left m e m', WithinRate cfg left m → Receives cfg Distinct m e →
      m.step cfg e = .ok m' → WithinRate cfg left m' :=
    fun left m e m' h hd hs => withinRate_step hexact h hd hs
  have h0 : WithinRate cfg (spare cfg (start preemptedBytesSent tGates))
      (start preemptedBytesSent tGates) := ⟨shape_start _ _, timing_start _ _, le_rfl⟩
  have h := run_invariant_of (hstep _) h0 hm hr
  have h' : WithinRate cfg (spare cfg s) s' :=
    run_invariant_of (hstep _) ⟨h.shape, h.timing, le_rfl⟩ (hm' s hr) hr'
  exact spare_le_iff.mp h'.left_le

/-- the rest of the frame after the express frame has gone out: the line is full -/
def resumedPart : List MacEvent :=
  [.timer .endTx, .timer .endIFG, .advance (byteTimes 584), .timer .endTx]

theorem line_rate_resumedPart : ∃ s s', run (step fastMac) (start 0 (twoGates true true true true))
      preemptionRun = .ok s ∧ run (step fastMac) s resumedPart = .ok s' ∧
    (s.sentBytes = 176 ∧ s'.sentBytes = 584 ∧ s'.busyUntil - s.busyUntil = byteTimes 408) ∧
    8 * ((s'.sentBytes : ℚ) - s.sentBytes) ≤ fastMac.txrate * (s'.busyUntil - s.busyUntil) := by
  obtain ⟨s, hs, s', hs', hp⟩ : ∃ s, run (step fastMac) (start 0 (twoGates true true true true))
      preemptionRun = .ok s ∧ ∃ s', run (step fastMac) s resumedPart = .ok s' ∧
        (s.sentBytes = 176 ∧ s'.sentBytes = 584 ∧ s'.busyUntil - s.busyUntil = byteTimes 408) := by
    obtain ⟨s', hrun, hp'⟩ : ∃ s', run (step fastMac) (start 0 (twoGates true true true true))
        (preemptionRun ++ resumedPart) = .ok s' ∧
          (s'.sentBytes = 584 ∧ s'.busyUntil = byteTimes 584) := exists_of_any (by decide +kernel)
    obtain ⟨s, hs, hp⟩ : ∃ s, run (step fastMac) (start 0 (twoGates true true true true))
        preemptionRun = .ok s ∧ (s.sentBytes = 176 ∧ s.busyUntil = byteTimes 176) :=
      exists_of_any (by decide +kernel)
    obtain ⟨t, ht, hs'⟩ := run_append_ok.mp hrun
    cases hs.symm.trans ht
    refine ⟨s, hs, s', hs', hp.1, hp'.1, ?_⟩
    rw [hp'.2, hp.2]
    decide +kernel
  exact ⟨s, s', hs, hs', hp, line_rate fastMac fastMac_exact 0 _ preemptionRun resumedPart s s'
    (by decide +kernel) hs hs'⟩

end EtherMac

end Nesting
