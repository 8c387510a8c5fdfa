import Nesting.Mac.Asserts
import Nesting.Mac.ByteCount
import Nesting.Mac.Sending

/-!
# The hold advance

`getHoldAdvance` is meant as the longest time between a hold and the end of the gap after the part in
transmission.  It adds 124 bytes as if they were bits.

* `CanStop`, `CanStopSoon`   the part can be stopped now, or when its first 60 bytes are through;
* `Regular`        what holds between the events;
* `HoldsInTime`    the hold comes at a byte at which 124 bits are enough;
* `plannedEnd`, `step_plan`   when the part ends, and what a step does to it;
* `hold_in_time`   then, and only then, the part and the gap are over in time;
* `late_part`      a hold ten bytes after the start of a part.
-/

set_option linter.unusedVariables false

namespace Nesting

namespace EtherMac

open Lib

variable {cfg : MacConfig} {s s' v v' w : EtherMac} {e : MacEvent} {frame : Packet} {T t u : SimTime}

/-- the end of a gap that starts at `t` -/
def gapEnd (cfg : MacConfig) (t : SimTime) : SimTime := t + INTERFRAME_GAP_BITS / cfg.txrate

/-- both parts of the frame are large enough now -/
def CanStop (cfg : MacConfig) (s : EtherMac) (frame : Packet) : Prop :=
  60 ≤ s.bytesUntil cfg s.time ∧ s.bytesUntil cfg s.time + s.preemptedBytesSent + 60 ≤ frame.byteLength

instance (cfg : MacConfig) (s : EtherMac) (frame : Packet) : Decidable (CanStop cfg s frame) :=
  inferInstanceAs (Decidable (_ ∧ _))

/-- both parts will be large enough when 60 bytes have gone through -/
def CanStopSoon (cfg : MacConfig) (s : EtherMac) (frame : Packet) : Prop :=
  s.bytesUntil cfg s.time < 60 ∧ s.preemptedBytesSent + 124 ≤ frame.byteLength

instance (cfg : MacConfig) (s : EtherMac) (frame : Packet) : Decidable (CanStopSoon cfg s frame) :=
  inferInstanceAs (Decidable (_ ∧ _))

/-- the hold comes when the part can be stopped at once, with at least 49 of the 60 bytes through, or so
close to the end that the part is over in time without it -/
def HoldsInTime (cfg : MacConfig) (s : EtherMac) : Prop :=
  s.transmittingPreemptableFrame = true → ∀ frame ∈ s.currentPreemptableFrame,
    CanStop cfg s frame ∨ (CanStopSoon cfg s frame ∧ 49 ≤ s.bytesUntil cfg s.time) ∨
    (¬CanStopSoon cfg s frame ∧
      ∀ t ∈ s.endTxMsg, gapEnd cfg t ≤ s.time + getHoldAdvance cfg)

instance (cfg : MacConfig) (s : EtherMac) : Decidable (HoldsInTime cfg s) :=
  inferInstanceAs (Decidable (_ → ∀ frame ∈ s.currentPreemptableFrame, _))

/-! ## durations -/

theorem gapEnd_duration_le (t : SimTime) (n : ℤ) :
    gapEnd cfg (t + calculateTransmissionDuration cfg n) ≤ t + getHoldAdvance cfg ↔ n ≤ 15 := by
  have hr : 0 < cfg.bitTime := cfg.bitTime_pos
  unfold gapEnd calculateTransmissionDuration getHoldAdvance INTERFRAME_GAP_BITS
    kFramePreemptionMinFinalPayloadSize kFramePreemptionMinNonFinalPayloadSize
  rw [Nat.cast_zero, zero_div, add_zero, add_le_add_iff_left, mul_assoc, mul_le_mul_iff_right₀ hr]
  norm_cast
  omega

theorem gapEnd_mono (h : t ≤ u) : gapEnd cfg t ≤ gapEnd cfg u := by
  unfold gapEnd
  exact add_le_add_left h _

theorem le_gapEnd (t : SimTime) : t ≤ gapEnd cfg t := by
  have hr := cfg.txrate_pos
  unfold gapEnd
  have hgap : (0 : ℚ) ≤ INTERFRAME_GAP_BITS / cfg.txrate := by positivity
  exact le_add_of_nonneg_right hgap

theorem gapEnd_le_holdAdvance (t : SimTime) : gapEnd cfg t ≤ t + getHoldAdvance cfg := by
  have hzero : calculateTransmissionDuration cfg 0 = 0 := by
    unfold calculateTransmissionDuration
    simp
  have h : gapEnd cfg (t + calculateTransmissionDuration cfg 0) ≤ t + getHoldAdvance cfg :=
    (gapEnd_duration_le t 0).mpr (by omega)
  rw [hzero, add_zero] at h
  exact h

/-! ## what `isPreemptionNowPossible` and `isPreemptionLaterPossible` tell -/

theorem canStop_of_possible (hen : cfg.enablePreemptingFrames = true)
    (hp : s.transmittingPreemptableFrame = true) (h : s.isPreemptionNowPossible cfg = .ok true)
    (hf : frame ∈ s.currentPreemptableFrame) : CanStop cfg s frame := by
  obtain ⟨frame', hf', h60, hrem⟩ := isPreemptionNowPossible_ok hen hp h
  cases hf.symm.trans hf'
  exact ⟨h60, hrem⟩

theorem canStop_of_not_possible (hshape : s.Shape) (h : Timing cfg s)
    (hp : s.transmittingPreemptableFrame = true) (hnow : s.isPreemptionNowPossible cfg = .ok false)
    (hf : frame ∈ s.currentPreemptableFrame) : ¬CanStop cfg s frame := by
  rintro ⟨h60, hrem⟩
  rw [isPreemptionNowPossible_eq (h.sending hp).enabled hp (hshape.noExpress hp) hf (by omega)
    (by omega)] at hnow
  exact of_decide_eq_false (Except.ok.inj hnow) ⟨h60, hrem⟩

theorem duration_pos {n : ℤ} (h : 0 < n) : 0 < calculateTransmissionDuration cfg n := by
  have hr := cfg.bitTime_pos
  have hn : (0 : ℚ) < n := by exact_mod_cast h
  unfold calculateTransmissionDuration
  positivity

theorem canStopSoon_of_zero (h : Timing cfg s) (htime : 0 ≤ s.time)
    (hp : s.transmittingPreemptableFrame = true) (hnow : s.isPreemptionNowPossible cfg = .ok false)
    (hlater : s.isPreemptionLaterPossible cfg = .ok 0) (hf : frame ∈ s.currentPreemptableFrame) :
    ¬CanStopSoon cfg s frame := by
  rintro ⟨h60, hrem⟩
  have hnonneg : 0 ≤ s.bytesUntil cfg s.time := bytesUntil_nonneg (h.sending hp).started
  obtain ⟨possible, hpos, hlater⟩ := bind_ok.mp hlater
  cases hnow.symm.trans hpos
  obtain ⟨bytes, hb, hlater⟩ := bind_ok.mp hlater
  have hb := calculatePreemptedPayloadBytesSent_ok hp hb
  simp only [Bool.false_eq_true, if_false, Int.sub_zero] at hb
  rw [max_eq_right hnonneg] at hb
  rw [show s.currentPreemptableFrame = some frame from hf] at hlater
  have hlater := Except.ok.inj hlater
  unfold kFramePreemptionMinFinalPayloadSize kFramePreemptionMinNonFinalPayloadSize at hlater
  rw [if_pos (by omega)] at hlater
  have hpos : 0 < calculateTransmissionDuration cfg (60 - bytes) := duration_pos (by omega)
  exact absurd hlater (ne_of_gt (add_pos_of_nonneg_of_pos htime hpos))

theorem Deferred.canStopSoon (hd : Deferred cfg s u) (h : Timing cfg s)
    (hf : frame ∈ s.currentPreemptableFrame) :
    CanStopSoon cfg s frame ∧
      u = s.time + calculateTransmissionDuration cfg (60 - s.bytesUntil cfg s.time) := by
  obtain ⟨frame', hf', h60, hrem, hu⟩ :=
    isPreemptionLaterPossible_ok hd (h.sending hd.sending).started
  cases hf.symm.trans hf'
  exact ⟨⟨h60, hrem⟩, hu⟩

/-! ## the gap -/

theorem NextFrame.endIFG (h : NextFrame s s') : s'.endIFGMsg = s.endIFGMsg := by
  cases h with
  | stored => rfl
  | resumed => rfl
  | nothing => rfl

theorem StartTransmission.endIFG (h : StartTransmission cfg s frame s') :
    s'.endIFGMsg = s.endIFGMsg := by
  cases h with
  | express => rfl
  | new => rfl
  | resumed => rfl

theorem nextFrame_endIFG
    (h : (s.getNextFrameFromQueue cfg >>= fun s => s.beginSendFrames cfg) = .ok s') :
    s'.endIFGMsg = s.endIFGMsg := by
  obtain ⟨_, s1, hnext, ⟨_, _, _, _, _, hstart⟩ | ⟨_, rfl⟩⟩ := nextFrame_ok h
  · exact hstart.endIFG.trans hnext.endIFG
  · exact hnext.endIFG

theorem preemptCurrentFrame_endIFG (h : s.preemptCurrentFrame cfg = .ok s') :
    s'.endIFGMsg = s.endIFGMsg := by
  obtain ⟨_, _, rfl⟩ := preemptCurrentFrame_ok h
  rfl

theorem ArrivalStep.endIFG {packet : Packet} (h : ArrivalStep cfg s packet s') :
    s'.endIFGMsg = s.endIFGMsg := by
  have hstore : ∀ m : EtherMac, (m.storeOnHold packet).endIFGMsg = m.endIFGMsg := by
    intro m
    unfold storeOnHold
    split
    · rfl
    · rfl
  cases h with
  | preempting _ _ hp =>
    have hgap := preemptCurrentFrame_endIFG hp
    exact hgap
  | inGap => rfl
  | paused => exact hstore _
  | sent _ hst =>
    obtain ⟨_, _, _, _, _, hst⟩ := startFrameTransmission_ok hst
    exact hst.endIFG.trans (hstore _)
  | stray => rfl

theorem handleUpperPacket_endIFG {packet : Packet} (h : s.handleUpperPacket cfg packet = .ok s') :
    s'.endIFGMsg = s.endIFGMsg := by
  obtain hw | ⟨_, _, _, _, _, _, ha⟩ := handleUpperPacket_ok h
  · have hcore : s'.core.endIFGMsg = s.core.endIFGMsg := congrArg endIFGMsg hw.core
    exact hcore
  · have hgap := ha.endIFG
    exact hgap

theorem hold_endIFG {delay : SimTime} (h : s.hold cfg delay = .ok s') :
    s'.endIFGMsg = s.endIFGMsg := by
  unfold hold at h
  split at h
  · cases h
    rfl
  · split at h
    · cases preemptOrRequest_ok h with
      | preempt hp =>
        have hgap := preemptCurrentFrame_endIFG hp
        exact hgap
      | later => rfl
      | idle _ hn =>
        have hgap := (getNextFrameFromQueue_ok hn).2.endIFG
        exact hgap
      | busy => rfl
    · obtain ⟨_, _, h⟩ := bind_ok.mp h
      cases h
      rfl

/-- a gap begins at the end of a transmission and is over when its timer is due -/
theorem endIFG_step (hshape : s.Shape) (hs : s.step cfg e = .ok s') :
    s'.endIFGMsg = s.endIFGMsg ∨
    (s.endIFGMsg = some s.time ∧ s'.endIFGMsg = none ∧ s'.time = s.time) ∨
    (e = .timer .endTx ∧ s.endIFGMsg = none ∧ s'.time = s.time ∧
      s'.endIFGMsg = some (gapEnd cfg s.time)) := by
  cases e with
  | timer timer =>
    have htime : s'.time = s.time := by
      obtain htime | ⟨_, he, _⟩ := step_time hs
      · exact htime
      · cases he
    change (if s.time ∈ s.scheduled timer then _ else _) = _ at hs
    split at hs
    · rename_i hd
      cases timer with
      | endTx =>
        have hend : s.endTxMsg = some s.time := Option.mem_toList.mp hd
        have hi : s.endIFGMsg = none := hshape.endIFG_of_state (by
          rw [hshape.endTx_iff.mpr (by rw [hend]; nofun)]
          nofun)
        have hs : { s with endTxMsg := none }.handleEndTxPeriod cfg = .ok s' := hs
        have hfinish : ∀ m : EtherMac, m.time = s.time → m.endIFGMsg = none →
            m.finishTransmission cfg = .ok s' →
            s'.endIFGMsg = none ∨ s'.endIFGMsg = some (gapEnd cfg s.time) := by
          intro m hm hnone hok
          rw [← hm]
          exact finishTransmission_gap hok hnone
        have hgap : s'.endIFGMsg = none ∨ s'.endIFGMsg = some (gapEnd cfg s.time) := by
          unfold handleEndTxPeriod at hs
          split at hs
          · obtain ⟨m, hm, hs⟩ := bind_ok.mp hs
            obtain ⟨_, _, _, _, rfl⟩ := sendPreemptedFrame_ok hm
            refine hfinish _ ?_ ?_ hs
            · rfl
            · exact hi
          · split at hs
            · cases hs
            · refine hfinish _ ?_ ?_ hs
              · rfl
              · exact hi
        obtain hgap | hgap := hgap
        · exact .inl (hgap.trans hi.symm)
        · exact .inr (.inr ⟨rfl, hi, htime, hgap⟩)
      | endIFG =>
        obtain ⟨_, _, hs⟩ := bind_ok.mp hs
        split at hs
        · cases hs
        · have hgap := nextFrame_endIFG hs
          exact .inr (.inl ⟨Option.mem_toList.mp hd, hgap, htime⟩)
      | endPause =>
        obtain ⟨_, _, hs⟩ := bind_ok.mp hs
        split at hs
        · cases hs
        · have hgap := nextFrame_endIFG hs
          exact .inl hgap
      | recheckForQueuedExpressFrame =>
        obtain ⟨⟨s1, requested⟩, h1, hs⟩ := bind_ok.mp hs
        obtain ⟨_, ts, rfl⟩ := checkForAndRequestExpressFrame_ok h1
        cases hs
        exact .inl rfl
      | preemptCurrentFrame =>
        have hs : { s with preemptCurrentFrameMsg := none }.preemptCurrentFrame cfg = .ok s' := hs
        have hgap := preemptCurrentFrame_endIFG hs
        exact .inl hgap
      | holdRequest =>
        have hs : { s with holdRequests := s.holdRequests.erase s.time }.hold cfg 0 = .ok s' := hs
        have hgap := hold_endIFG hs
        exact .inl hgap
    · cases hs
  | handleUpperPacket packet => exact .inl (handleUpperPacket_endIFG hs)
  | handlePacket gateId packet =>
    obtain ⟨⟨_, ts⟩, _, hs⟩ := bind_ok.mp hs
    have hgap := handleUpperPacket_endIFG hs
    exact .inl hgap
  | hold delay => exact .inl (hold_endIFG hs)
  | release =>
    change s.release cfg = _ at hs
    unfold release at hs
    split at hs
    · cases hs
      exact .inl rfl
    · dsimp only at hs
      split at hs
      · have hgap := nextFrame_endIFG hs
        exact .inl hgap
      · cases hs
        exact .inl rfl
  | processPauseCommand pauseUnits =>
    change s.processPauseCommand cfg pauseUnits = _ at hs
    unfold processPauseCommand at hs
    split at hs
    · split at hs
      · obtain ⟨_, _, rfl⟩ := scheduleEndPausePeriod_ok hs
        exact .inl rfl
      · cases hs
        exact .inl rfl
    · obtain ⟨_, _, rfl⟩ := scheduleEndPausePeriod_ok hs
      exact .inl rfl
    · cases hs
      exact .inl rfl
  | _ =>
    cases step_ok hs with
    | quiet hw =>
      have hcore : s'.core.endIFGMsg = s.core.endIFGMsg := congrArg endIFGMsg hw.core
      exact .inl hcore
    | hold hh =>
      have hgap := hold_endIFG hh
      exact .inl hgap

/-! ## between the events -/

/-- the state between two events: nothing that is due has been missed -/
structure Regular (cfg : MacConfig) (s : EtherMac) : Prop where
  shape : s.Shape
  timing : Timing cfg s
  inTime : s.InTime
  due : ∀ u, s.Due u → Deadline cfg s u
  time : 0 ≤ s.time
  gap : ∀ g ∈ s.endIFGMsg, s.time ≤ g ∧ g ≤ gapEnd cfg s.time

theorem regular_start (preemptedBytesSent : Nat) (tGates : List GateView) :
    Regular cfg (start preemptedBytesSent tGates) :=
  ⟨shape_start _ _, timing_start _ _, inTime_of_none rfl, fun u hu => hu.elim nofun nofun, le_rfl, nofun⟩

theorem regular_step (h : Regular cfg s) (hrec : Receives cfg Distinct s e)
    (hs : s.step cfg e = .ok s') : Regular cfg s' where
  shape := shape_step h.shape hs
  timing := timing_step h.timing h.shape (fun packet hup _ hd => hrec.delivered hup hd) hs
  inTime := inTime_step h.inTime h.shape hs
  due := deadline_step h.timing h.shape h.due hs
  time := by
    obtain htime | ⟨t, _, ⟨hle, _⟩, rfl⟩ := step_time hs
    · exact htime ▸ h.time
    · exact h.time.trans hle
  gap := by
    intro g hg
    obtain htime | ⟨t, _, ⟨hle, _, _, hdue⟩, rfl⟩ := step_time hs
    · rw [htime]
      obtain hsame | ⟨_, hnone, _⟩ | ⟨_, _, _, hnew⟩ := endIFG_step h.shape hs
      · exact h.gap g (hsame ▸ hg)
      · exact absurd (hnone.symm.trans hg) nofun
      · cases hnew.symm.trans hg
        exact ⟨le_gapEnd _, le_rfl⟩
    · exact ⟨hdue .endIFG (by simp) g (Option.mem_toList.mpr hg),
        (h.gap g hg).2.trans (gapEnd_mono hle)⟩

/-- a run of `Distinct` frames goes from one regular state to the next -/
theorem regular_run {es : List MacEvent} (h : Regular cfg s)
    (hm : Meets (step cfg) (Receives cfg Distinct) s es) (hr : run (step cfg) s es = .ok v) :
    Regular cfg v :=
  run_invariant_of (fun _ _ _ h hrec hs => regular_step h hrec hs) h hm hr

/-! ## the part that the hold has met -/

/-- the part that was in transmission in `s` is over -/
def PartOver (s v : EtherMac) : Prop :=
  s.transmittingPreemptableFrame = true → s.preemptedFrames.length < v.preemptedFrames.length

instance (s v : EtherMac) : Decidable (PartOver s v) := inferInstanceAs (Decidable (_ → _))

/-- the part that was in transmission in `s` still is -/
structure Still (s v : EtherMac) : Prop where
  before : s.transmittingPreemptableFrame = true
  now : v.transmittingPreemptableFrame = true
  parts : v.preemptedFrames.length = s.preemptedFrames.length

instance (s v : EtherMac) : Decidable (Still s v) :=
  decidable_of_iff (s.transmittingPreemptableFrame = true ∧ v.transmittingPreemptableFrame = true ∧
      v.preemptedFrames.length = s.preemptedFrames.length)
    ⟨fun ⟨h1, h2, h3⟩ => ⟨h1, h2, h3⟩, fun ⟨h1, h2, h3⟩ => ⟨h1, h2, h3⟩⟩

/-- the part that was in transmission in `s`, and the gap after it, are over -/
structure Freed (s v : EtherMac) : Prop where
  part : PartOver s v
  gap : v.endIFGMsg = none

instance (s v : EtherMac) : Decidable (Freed s v) :=
  decidable_of_iff (PartOver s v ∧ v.endIFGMsg = none) ⟨fun ⟨h1, h2⟩ => ⟨h1, h2⟩, fun ⟨h1, h2⟩ => ⟨h1, h2⟩⟩

theorem preemptedFrames_step (h : Regular cfg v) (hs : v.step cfg e = .ok v') :
    v.preemptedFrames.length ≤ v'.preemptedFrames.length := by
  have hsame : v'.preemptedFrames = v.preemptedFrames →
      v.preemptedFrames.length ≤ v'.preemptedFrames.length := fun heq => heq ▸ le_rfl
  cases step_part h.timing.orderly h.shape hs with
  | same _ _ _ hf => exact hsame hf
  | begins _ _ _ _ _ _ _ _ _ hf => exact hsame hf
  | aside _ _ _ _ _ _ _ _ _ _ hf => exact hsame hf
  | sends _ _ _ _ _ _ _ _ _ hf =>
    rw [hf, List.length_append]
    exact Nat.le_add_right _ _

theorem PartOver.step (hover : PartOver s v) (h : Regular cfg v) (hs : v.step cfg e = .ok v') :
    PartOver s v' :=
  fun hp => (hover hp).trans_le (preemptedFrames_step h hs)

/-- no part is over while the MAC goes on sending -/
theorem Still.step (hstill : Still s v) (h : Regular cfg v) (hs : v.step cfg e = .ok v')
    (hp' : v'.transmittingPreemptableFrame = true) : Still s v' := by
  have hsame : v'.preemptedFrames = v.preemptedFrames → Still s v' := fun heq =>
    ⟨hstill.before, hp', (congrArg List.length heq).trans hstill.parts⟩
  cases step_part h.timing.orderly h.shape hs with
  | same _ _ _ hf => exact hsame hf
  | begins _ _ _ _ _ _ _ _ _ hf => exact hsame hf
  | aside _ _ _ _ _ _ _ _ _ _ hf => exact hsame hf
  | sends _ _ _ _ _ _ hover => exact absurd (hp'.symm.trans hover) nofun

/-! ## the planned end of the part -/

/-- when the part in transmission ends, with the stop that is due -/
def plannedEnd (cfg : MacConfig) (s : EtherMac) : Option SimTime :=
  match s.preemptCurrentFrameMsg with
  | some u => some (u + calculateTransmissionDuration cfg 4)
  | none => s.endTxMsg

theorem plannedEnd_of_due (h : s.preemptCurrentFrameMsg = some u) :
    s.plannedEnd cfg = some (u + calculateTransmissionDuration cfg 4) := by
  unfold plannedEnd
  rw [h]

theorem plannedEnd_of_none (h : s.preemptCurrentFrameMsg = none) :
    s.plannedEnd cfg = s.endTxMsg := by
  unfold plannedEnd
  rw [h]

theorem plannedEnd_congr (hend : s'.endTxMsg = s.endTxMsg)
    (hmsg : s'.preemptCurrentFrameMsg = s.preemptCurrentFrameMsg) :
    s'.plannedEnd cfg = s.plannedEnd cfg := by
  unfold plannedEnd
  rw [hend, hmsg]

theorem Regular.le_plannedEnd (h : Regular cfg s) (ht : s.plannedEnd cfg = some t) : s.time ≤ t := by
  cases hmsg : s.preemptCurrentFrameMsg with
  | none =>
    rw [plannedEnd_of_none hmsg] at ht
    exact h.inTime t ht
  | some u =>
    rw [plannedEnd_of_due hmsg] at ht
    cases ht
    have hnonneg : 0 ≤ calculateTransmissionDuration cfg 4 :=
      calculateTransmissionDuration_nonneg (by omega)
    exact (h.due u (.inl hmsg)).time.trans (le_add_of_nonneg_right hnonneg)

/-- a stop that is due at an instant at which the part can be stopped anyway is less than a byte away -/
theorem Regular.due_soon (h : Regular cfg s) (hcan : CanStop cfg s frame)
    (hmsg : s.preemptCurrentFrameMsg = some u) :
    u + calculateTransmissionDuration cfg 4 ≤ s.time + calculateTransmissionDuration cfg 5 := by
  have hbytes := (h.due u (.inl hmsg)).bytes
  have hlt : u < s.time + calculateTransmissionDuration cfg 1 := by
    refine lt_of_bytesUntil_lt (show s.bytesUntil cfg u < s.bytesUntil cfg _ from ?_)
    rw [bytesUntil_add, hbytes]
    have h60 := hcan.1
    omega
  have hsum : s.time + calculateTransmissionDuration cfg 5 =
      s.time + calculateTransmissionDuration cfg 1 + calculateTransmissionDuration cfg 4 := by
    unfold calculateTransmissionDuration
    push_cast
    ring
  rw [hsum]
  exact add_le_add_left (le_of_lt hlt) _

/-- while it is too late to stop the part, no stop is due -/
theorem Regular.not_due (h : Regular cfg s) (hf : frame ∈ s.currentPreemptableFrame)
    (hcan : ¬CanStop cfg s frame) (hsoon : ¬CanStopSoon cfg s frame) :
    s.preemptCurrentFrameMsg = none := by
  cases hmsg : s.preemptCurrentFrameMsg with
  | none => rfl
  | some u =>
    obtain ⟨_, hle, hbytes, frame', t, hf', hrem, _, _⟩ := h.due u (.inl hmsg)
    cases hf.symm.trans hf'
    have hmono : s.bytesUntil cfg s.time ≤ s.bytesUntil cfg u := bytesUntil_mono hle
    by_cases h60 : 60 ≤ s.bytesUntil cfg s.time
    · exact absurd ⟨h60, by omega⟩ hcan
    · exact absurd ⟨not_le.mp h60, hrem⟩ hsoon

/-- what a step does to the planned end -/
inductive Plan (cfg : MacConfig) (v : EtherMac) (e : MacEvent) (v' : EtherMac) : Prop
  | ended (he : e = .timer .endTx) (hplan : v.plannedEnd cfg = some v.time)
      (hp' : v'.transmittingPreemptableFrame = false)
      (hf : v'.preemptedFrames.length = v.preemptedFrames.length + 1)
      (hgap : v'.endIFGMsg = none ∨ v'.endIFGMsg = some (gapEnd cfg v.time))
  | same (hp' : v'.transmittingPreemptableFrame = true) (hplan : v'.plannedEnd cfg = v.plannedEnd cfg)
      (hstop : v.Stops e → e = .timer .preemptCurrentFrame)
  /-- the part can be stopped now, but its stop is due in a moment anyway -/
  | soonDue (frame : Packet) (hf : frame ∈ v.currentPreemptableFrame) (hcan : CanStop cfg v frame)
      (hp' : v'.transmittingPreemptableFrame = true) (t : SimTime)
      (hplan : v.plannedEnd cfg = some t) (hplan' : v'.plannedEnd cfg = some t)
      (hle : t ≤ v.time + calculateTransmissionDuration cfg 5)
  /-- it is too late to stop the part -/
  | late (frame : Packet) (hf : frame ∈ v.currentPreemptableFrame) (hcan : ¬CanStop cfg v frame)
      (hsoon : ¬CanStopSoon cfg v frame) (hp' : v'.transmittingPreemptableFrame = true)
      (hplan : v.plannedEnd cfg = v.endTxMsg) (hplan' : v'.plannedEnd cfg = v.endTxMsg)
  | now (frame : Packet) (hf : frame ∈ v.currentPreemptableFrame) (hcan : CanStop cfg v frame)
      (hstop : v.Stops e) (hne : e ≠ .timer .preemptCurrentFrame)
      (hp' : v'.transmittingPreemptableFrame = true)
      (hplan' : v'.plannedEnd cfg = some (v.time + calculateTransmissionDuration cfg 4))
  | soon (frame : Packet) (hf : frame ∈ v.currentPreemptableFrame) (hsoon : CanStopSoon cfg v frame)
      (hstop : v.Stops e) (hne : e ≠ .timer .preemptCurrentFrame)
      (hp' : v'.transmittingPreemptableFrame = true)
      (hplan' : v'.plannedEnd cfg =
        some (v.time + calculateTransmissionDuration cfg (64 - v.bytesUntil cfg v.time)))

/-- every step is one of these -/
theorem step_plan (h : Regular cfg v) (hp : v.transmittingPreemptableFrame = true)
    (hs : v.step cfg e = .ok v') : Plan cfg v e v' := by
  obtain ⟨hen, _, _, frame, t, hf, ht, _⟩ := h.timing.sending hp
  cases step_course h.shape hp hen hs with
  | ended he hend hp' hlen hgap =>
    refine .ended he ?_ hp' hlen hgap
    cases hmsg : v.preemptCurrentFrameMsg with
    | none => rw [plannedEnd_of_none hmsg, hend]
    | some u =>
      -- the part does not end before its stop is due
      obtain ⟨_, hle, _, _, t', _, _, ht', hlt⟩ := h.due u (.inl hmsg)
      cases hend.symm.trans ht'
      exact absurd hlt (not_lt.mpr hle)
  | same hp' hsame hend hmsg hno =>
    by_cases hstop : v.Stops e
    · obtain ⟨hnow, hlater⟩ := hno hstop
      have hcan := canStop_of_not_possible h.shape h.timing hp hnow hf
      have hsoon := canStopSoon_of_zero h.timing h.time hp hnow hlater hf
      have hplan : v.plannedEnd cfg = v.endTxMsg := plannedEnd_of_none (h.not_due hf hcan hsoon)
      exact .late frame hf hcan hsoon hp' hplan ((plannedEnd_congr hend hmsg).trans hplan)
    · exact .same hp' (plannedEnd_congr hend hmsg) fun hs => absurd hs hstop
  | stopped hstop hnow hp' hsame hend hmsg =>
    have hcan := canStop_of_possible hen hp hnow hf
    obtain ⟨hne, hmsg⟩ | ⟨he, hdue, hmsg⟩ := hmsg
    · cases hu : v.preemptCurrentFrameMsg with
      | none =>
        exact .now frame hf hcan hstop hne hp' ((plannedEnd_of_none (hmsg.trans hu)).trans hend)
      | some u =>
        exact .soonDue frame hf hcan hp' _ (plannedEnd_of_due hu)
          (plannedEnd_of_due (hmsg.trans hu)) (h.due_soon hcan hu)
    · exact .same hp' (((plannedEnd_of_none hmsg).trans hend).trans (plannedEnd_of_due hdue).symm)
        fun _ => he
  | later u hstop hne hd hp' hsame hend hmsg =>
    obtain ⟨hsoon, hu⟩ := hd.canStopSoon h.timing hf
    refine .soon frame hf hsoon hstop hne hp' ?_
    rw [plannedEnd_of_due hmsg, hu]
    congr 1
    unfold calculateTransmissionDuration
    push_cast
    ring

theorem Still.start (h : Regular cfg s) (hp : s.transmittingPreemptableFrame = true)
    (hs : s.step cfg e = .ok s') (hp' : s'.transmittingPreemptableFrame = true) : Still s s' :=
  Still.step ⟨hp, hp, rfl⟩ h hs hp'

theorem holdsInTime_iff (hp : s.transmittingPreemptableFrame = true)
    (hf : frame ∈ s.currentPreemptableFrame) : HoldsInTime cfg s ↔
      CanStop cfg s frame ∨ (CanStopSoon cfg s frame ∧ 49 ≤ s.bytesUntil cfg s.time) ∨
      (¬CanStopSoon cfg s frame ∧
        ∀ t ∈ s.endTxMsg, gapEnd cfg t ≤ s.time + getHoldAdvance cfg) := by
  refine ⟨fun h => h hp frame hf, fun h _ frame' hf' => ?_⟩
  cases hf.symm.trans hf'
  exact h

/-- a hold that takes effect -/
def TakesHold (e : MacEvent) : Prop := e = .hold 0 ∨ e = .timer .holdRequest

theorem TakesHold.stops (h : TakesHold e) (s : EtherMac) :
    s.Stops e ∧ e ≠ .timer .preemptCurrentFrame ∧ e ≠ .timer .endTx := by
  obtain rfl | rfl := h
  · exact ⟨rfl, nofun, nofun⟩
  · exact ⟨.inr rfl, nofun, nofun⟩

/-- the hold plans an end that is early enough exactly when it comes in time -/
theorem hold_planned (h : Regular cfg s) (hp : s.transmittingPreemptableFrame = true)
    (he : TakesHold e) (hs : s.step cfg e = .ok s') :
    Still s s' ∧ ∃ t, s'.plannedEnd cfg = some t ∧
      (gapEnd cfg t ≤ s.time + getHoldAdvance cfg ↔ HoldsInTime cfg s) := by
  obtain ⟨hstops, hne, hend⟩ := he.stops s
  obtain ⟨_, _, _, _, end_, _, hendTx, _⟩ := h.timing.sending hp
  cases step_plan h hp hs with
  | ended he => exact absurd he hend
  | same _ _ hstop => exact absurd (hstop hstops) hne
  | soonDue frame hf hcan hp' t _ hplan' hle =>
    refine ⟨.start h hp hs hp', t, hplan', iff_of_true ?_ ?_⟩
    · exact (gapEnd_mono hle).trans ((gapEnd_duration_le _ 5).mpr (by omega))
    · exact (holdsInTime_iff hp hf).mpr (.inl hcan)
  | late frame hf hcan hsoon hp' _ hplan' =>
    refine ⟨.start h hp hs hp', end_, hplan'.trans hendTx, ?_⟩
    rw [holdsInTime_iff hp hf, hendTx]
    constructor
    · intro hle
      refine .inr (.inr ⟨hsoon, fun t ht => ?_⟩)
      cases ht
      exact hle
    · rintro (hc | ⟨hc, _⟩ | ⟨_, hle⟩)
      · exact absurd hc hcan
      · exact absurd hc hsoon
      · exact hle end_ rfl
  | now frame hf hcan _ _ hp' hplan' =>
    refine ⟨.start h hp hs hp', _, hplan', iff_of_true ?_ ?_⟩
    · exact (gapEnd_duration_le _ 4).mpr (by omega)
    · exact (holdsInTime_iff hp hf).mpr (.inl hcan)
  | soon frame hf hsoon _ _ hp' hplan' =>
    refine ⟨.start h hp hs hp', _, hplan', ?_⟩
    rw [holdsInTime_iff hp hf, gapEnd_duration_le]
    constructor
    · intro hle
      exact .inr (.inl ⟨hsoon, by omega⟩)
    · rintro (hc | ⟨_, hle⟩ | ⟨hc, _⟩)
      · exact absurd hsoon.1 (not_lt.mpr hc.1)
      · omega
      · exact absurd hsoon hc

/-! ## runs after the hold -/

/-- a further event that stops the part does so by `T` as well -/
def StopsBy (cfg : MacConfig) (T : SimTime) (s v : EtherMac) (e : MacEvent) : Prop :=
  v.Stops e → e ≠ .timer .preemptCurrentFrame → Still s v → ∀ frame ∈ v.currentPreemptableFrame,
    (CanStop cfg v frame → gapEnd cfg (v.time + calculateTransmissionDuration cfg 4) ≤ T) ∧
    (CanStopSoon cfg v frame → gapEnd cfg
      (v.time + calculateTransmissionDuration cfg (64 - v.bytesUntil cfg v.time)) ≤ T)

instance (cfg : MacConfig) (T : SimTime) (s v : EtherMac) (e : MacEvent) :
    Decidable (StopsBy cfg T s v e) :=
  inferInstanceAs (Decidable (_ → _ → _ → ∀ frame ∈ v.currentPreemptableFrame, _))

/-- no further event stops the part -/
def Undisturbed (s v : EtherMac) (e : MacEvent) : Prop :=
  v.Stops e → Still s v → e = .timer .preemptCurrentFrame

instance (s v : EtherMac) (e : MacEvent) : Decidable (Undisturbed s v e) :=
  inferInstanceAs (Decidable (_ → _ → _))

/-- on the way, and at `T` at the latest, the part and the gap were over -/
def FreedBy (cfg : MacConfig) (T : SimTime) (s s' : EtherMac) (after : List MacEvent) : Prop :=
  ∃ pre w, pre <+: after ∧ run (step cfg) s' pre = .ok w ∧ w.time ≤ T ∧ Freed s w

theorem freedBy_iff {after : List MacEvent} : FreedBy cfg T s s' after ↔
    ∃ pre ∈ after.inits, (run (step cfg) s' pre).toOption.any
      (fun w => decide (w.time ≤ T ∧ Freed s w)) = true := by
  constructor
  · rintro ⟨pre, w, hpre, hw, h⟩
    refine ⟨pre, (List.mem_inits _ _).mpr hpre, ?_⟩
    rw [hw]
    exact decide_eq_true h
  · rintro ⟨pre, hpre, h⟩
    obtain ⟨w, hw, h⟩ := exists_of_any h
    exact ⟨pre, w, (List.mem_inits _ _).mp hpre, hw, h⟩

instance (cfg : MacConfig) (T : SimTime) (s s' : EtherMac) (after : List MacEvent) :
    Decidable (FreedBy cfg T s s' after) :=
  decidable_of_iff _ freedBy_iff.symm

/-- the part or the gap will be over by `T` -/
structure Timely (cfg : MacConfig) (T : SimTime) (s v : EtherMac) : Prop where
  regular : Regular cfg v
  part : (Still s v ∧ ∀ t ∈ v.plannedEnd cfg, gapEnd cfg t ≤ T) ∨
    (PartOver s v ∧ ∃ g, v.endIFGMsg = some g ∧ g ≤ T)

theorem Regular.plannedEnd_exists (h : Regular cfg v) (hp : v.transmittingPreemptableFrame = true) :
    ∃ t, v.plannedEnd cfg = some t := by
  obtain ⟨_, _, _, _, t, _, ht, _⟩ := h.timing.sending hp
  cases hmsg : v.preemptCurrentFrameMsg with
  | none => exact ⟨t, (plannedEnd_of_none hmsg).trans ht⟩
  | some u => exact ⟨_, plannedEnd_of_due hmsg⟩

theorem Timely.time_le (h : Timely cfg T s v) : v.time ≤ T := by
  obtain ⟨hreg, ⟨hstill, hplan⟩ | ⟨_, g, hg, hle⟩⟩ := h
  · obtain ⟨t, ht⟩ := hreg.plannedEnd_exists hstill.now
    calc v.time ≤ t := hreg.le_plannedEnd ht
      _ ≤ gapEnd cfg t := le_gapEnd t
      _ ≤ T := hplan t ht
  · exact (hreg.gap g hg).1.trans hle

theorem PartOver.of_still (hstill : Still s v)
    (hf : v'.preemptedFrames.length = v.preemptedFrames.length + 1) : PartOver s v' := by
  intro _
  rw [hf, hstill.parts]
  exact Nat.lt_succ_self _

theorem timely_step (h : Timely cfg T s v) (ho : Receives cfg Distinct v e ∧ StopsBy cfg T s v e)
    (hs : v.step cfg e = .ok v') : Timely cfg T s v' ∨ (v'.time ≤ T ∧ Freed s v') := by
  have hreg' := regular_step h.regular ho.1 hs
  have htime := h.time_le
  obtain ⟨hreg, ⟨hstill, hplan⟩ | ⟨hover, g, hg, hle⟩⟩ := h
  · cases step_plan hreg hstill.now hs with
    | ended he hnow hp' hf hgap =>
      have hdone : PartOver s v' := .of_still hstill hf
      have hend := hplan v.time hnow
      obtain hgap | hgap := hgap
      · right
        obtain heq | ⟨_, he', _⟩ := step_time hs
        · exact ⟨heq ▸ htime, hdone, hgap⟩
        · exact absurd (he.symm.trans he') nofun
      · exact .inl ⟨hreg', .inr ⟨hdone, _, hgap, hend⟩⟩
    | same hp' heq _ => exact .inl ⟨hreg', .inl ⟨hstill.step hreg hs hp', heq ▸ hplan⟩⟩
    | soonDue _ _ _ hp' t heq heq' _ =>
      exact .inl ⟨hreg', .inl ⟨hstill.step hreg hs hp', (heq'.trans heq.symm) ▸ hplan⟩⟩
    | late _ _ _ _ hp' heq heq' =>
      exact .inl ⟨hreg', .inl ⟨hstill.step hreg hs hp', (heq'.trans heq.symm) ▸ hplan⟩⟩
    | now frame hf hcan hstop hne hp' hplan' =>
      refine .inl ⟨hreg', .inl ⟨hstill.step hreg hs hp', fun t ht => ?_⟩⟩
      cases hplan'.symm.trans ht
      exact (ho.2 hstop hne hstill frame hf).1 hcan
    | soon frame hf hsoon hstop hne hp' hplan' =>
      refine .inl ⟨hreg', .inl ⟨hstill.step hreg hs hp', fun t ht => ?_⟩⟩
      cases hplan'.symm.trans ht
      exact (ho.2 hstop hne hstill frame hf).2 hsoon
  · have hover' := hover.step hreg hs
    obtain hsame | ⟨_, hnone, heq⟩ | ⟨_, hnone, _⟩ := endIFG_step hreg.shape hs
    · exact .inl ⟨hreg', .inr ⟨hover', g, hsame.trans hg, hle⟩⟩
    · exact .inr ⟨heq ▸ htime, hover', hnone⟩
    · exact absurd (hnone.symm.trans hg) nofun

/-- the part and the gap will not be over by `T` -/
structure Belated (cfg : MacConfig) (T : SimTime) (s v : EtherMac) : Prop where
  regular : Regular cfg v
  part : (Still s v ∧ ∀ t ∈ v.plannedEnd cfg, T < gapEnd cfg t) ∨
    (PartOver s v ∧ (T < v.time ∨ ∃ g, v.endIFGMsg = some g ∧ T < g))

theorem Belated.not_freed (h : Belated cfg T s v) : ¬(v.time ≤ T ∧ Freed s v) := by
  rintro ⟨hle, hover, hgap⟩
  obtain ⟨_, ⟨hstill, _⟩ | ⟨_, hlt | ⟨g, hg, _⟩⟩⟩ := h
  · have hlen := hover hstill.before
    rw [hstill.parts] at hlen
    exact lt_irrefl _ hlen
  · exact absurd hle (not_le.mpr hlt)
  · exact absurd (hgap.symm.trans hg) nofun

theorem belated_step (h : Belated cfg T s v) (ho : Receives cfg Distinct v e ∧ Undisturbed s v e)
    (hs : v.step cfg e = .ok v') : Belated cfg T s v' := by
  have hreg' := regular_step h.regular ho.1 hs
  obtain ⟨hreg, ⟨hstill, hplan⟩ | ⟨hover, hlate⟩⟩ := h
  · cases step_plan hreg hstill.now hs with
    | ended he hnow hp' hf hgap =>
      have hdone : PartOver s v' := .of_still hstill hf
      have hend := hplan v.time hnow
      refine ⟨hreg', .inr ⟨hdone, ?_⟩⟩
      obtain hgap | hgap := hgap
      · -- a pause comes instead of the gap, which has no length
        have hzero : gapEnd cfg v.time = v.time := by
          unfold gapEnd INTERFRAME_GAP_BITS
          simp
        obtain heq | ⟨_, he', _⟩ := step_time hs
        · rw [heq]
          exact .inl (hzero ▸ hend)
        · exact absurd (he.symm.trans he') nofun
      · exact .inr ⟨_, hgap, hend⟩
    | same hp' heq _ => exact ⟨hreg', .inl ⟨hstill.step hreg hs hp', heq ▸ hplan⟩⟩
    | soonDue _ _ _ hp' t heq heq' _ =>
      exact ⟨hreg', .inl ⟨hstill.step hreg hs hp', (heq'.trans heq.symm) ▸ hplan⟩⟩
    | late _ _ _ _ hp' heq heq' =>
      exact ⟨hreg', .inl ⟨hstill.step hreg hs hp', (heq'.trans heq.symm) ▸ hplan⟩⟩
    | now _ _ _ hstop hne => exact absurd (ho.2 hstop hstill) hne
    | soon _ _ _ hstop hne => exact absurd (ho.2 hstop hstill) hne
  · refine ⟨hreg', .inr ⟨hover.step hreg hs, ?_⟩⟩
    have hmono : v.time ≤ v'.time := by
      obtain heq | ⟨t, _, ⟨hle, _⟩, rfl⟩ := step_time hs
      · exact heq.ge
      · exact hle
    obtain hlt | ⟨g, hg, hlt⟩ := hlate
    · exact .inl (hlt.trans_le hmono)
    · obtain hsame | ⟨hdue, _, heq⟩ | ⟨_, hnone, _⟩ := endIFG_step hreg.shape hs
      · exact .inr ⟨g, hsame.trans hg, hlt⟩
      · cases hg.symm.trans hdue
        exact .inl (heq ▸ hlt)
      · exact absurd (hnone.symm.trans hg) nofun

/-- where nothing preemptable is sent, the hold leaves the gap alone -/
theorem hold_gap (h : Regular cfg s) (hp : s.transmittingPreemptableFrame = false)
    (he : TakesHold e) (hrec : Receives cfg Distinct s e) (hs : s.step cfg e = .ok s') :
    Timely cfg (s.time + getHoldAdvance cfg) s s' ∨
      (s'.time ≤ s.time + getHoldAdvance cfg ∧ Freed s s') := by
  have hover : PartOver s s' := fun hp' => absurd (hp.symm.trans hp') nofun
  have htime : s'.time = s.time := by
    obtain heq | ⟨_, he', _⟩ := step_time hs
    · exact heq
    · obtain rfl | rfl := he
      · cases he'
      · cases he'
  have hnow : s'.time ≤ s.time + getHoldAdvance cfg := by
    rw [htime]
    exact (le_gapEnd _).trans (gapEnd_le_holdAdvance _)
  cases hgap : s'.endIFGMsg with
  | none => exact .inr ⟨hnow, hover, hgap⟩
  | some g =>
    have hg := (regular_step h hrec hs).gap g hgap
    rw [htime] at hg
    exact .inl ⟨regular_step h hrec hs, .inr ⟨hover, g, hgap, hg.2.trans (gapEnd_le_holdAdvance _)⟩⟩

/-- **The hold advance**: after a hold that comes in time the part and the gap are over within
`getHoldAdvance`, as long as further requests do not put the end of the part off; and where nothing else
stops the part, they are over within that time only after such a hold. -/
theorem hold_in_time (cfg : MacConfig) (preemptedBytesSent : Nat) (tGates : List GateView)
    (before after : List MacEvent) (e : MacEvent) (s s' v : EtherMac)
    (hm : Meets (step cfg) (Receives cfg Distinct) (start preemptedBytesSent tGates) before)
    (hr : run (step cfg) (start preemptedBytesSent tGates) before = .ok s)
    (he : TakesHold e) (hs : s.step cfg e = .ok s')
    (hv : run (step cfg) s' after = .ok v) :
    (Meets (step cfg) (fun v e => Receives cfg Distinct v e ∧
        StopsBy cfg (s.time + getHoldAdvance cfg) s v e) s' after → HoldsInTime cfg s →
      v.time ≤ s.time + getHoldAdvance cfg ∨
        FreedBy cfg (s.time + getHoldAdvance cfg) s s' after) ∧
    (Meets (step cfg) (fun v e => Receives cfg Distinct v e ∧ Undisturbed s v e) s' after →
      FreedBy cfg (s.time + getHoldAdvance cfg) s s' after → HoldsInTime cfg s) := by
  have hreg : Regular cfg s := regular_run (regular_start _ _) hm hr
  have hrec : Receives cfg Distinct s e := by
    obtain rfl | rfl := he
    · trivial
    · trivial
  have hreg' := regular_step hreg hrec hs
  constructor
  · intro hafter hin
    have hstart : Timely cfg (s.time + getHoldAdvance cfg) s s' ∨
        (s'.time ≤ s.time + getHoldAdvance cfg ∧ Freed s s') := by
      cases hp : s.transmittingPreemptableFrame with
      | false => exact hold_gap hreg hp he hrec hs
      | true =>
        obtain ⟨hstill, t, hplan, hiff⟩ := hold_planned hreg hp he hs
        refine .inl ⟨hreg', .inl ⟨hstill, fun t' ht' => ?_⟩⟩
        cases hplan.symm.trans ht'
        exact hiff.mpr hin
    obtain htimely | ⟨pre, w, hpre, hw, hle, hfree⟩ :=
      run_until (fun _ _ _ h ho hs => timely_step h ho hs) hstart hafter hv
    · exact .inl htimely.time_le
    · exact .inr ⟨pre, w, hpre, hw, hle, hfree⟩
  · rintro hafter ⟨pre, w, hpre, hw, hle, hfree⟩
    by_contra hin
    cases hp : s.transmittingPreemptableFrame with
    | false => exact hin fun hp' => absurd (hp.symm.trans hp') nofun
    | true =>
      obtain ⟨hstill, t, hplan, hiff⟩ := hold_planned hreg hp he hs
      have hbelated : Belated cfg (s.time + getHoldAdvance cfg) s s' := by
        refine ⟨hreg', .inl ⟨hstill, fun t' ht' => ?_⟩⟩
        cases hplan.symm.trans ht'
        exact not_le.mp fun hgap => hin (hiff.mp hgap)
      have hend := run_invariant_of (fun _ _ _ h ho hs => belated_step h ho hs) hbelated
        (hafter.of_prefix hpre) hw
      exact hend.not_freed ⟨hle, hfree⟩

/-- a preemptable frame, until so many bytes have gone through -/
def bulkUntil (n : ℚ) : List MacEvent :=
  [.requestPacketMsg,
   .setGates (twoGates true false true true), .gatePacketEnqueued, .packetEnqueuedMsg,
   .handlePacket 0 bulkFrame, .setGates (twoGates true true true true), .advance (byteTimes n)]

/-- the stop that the hold has put off, four bytes of checksum, and the gap -/
def afterEarlyHold : List MacEvent :=
  [.advance (byteTimes 60), .timer .preemptCurrentFrame, .advance (byteTimes 64), .timer .endTx,
   .timer .endIFG]

/-- a hold after ten bytes: the link is blocked for 54 byte times more, and `getHoldAdvance` is 15.5 -/
theorem late_part : ∃ s s' v,
    run (step fastMac) (start 0 (twoGates true true true true)) (bulkUntil 10) = .ok s ∧
    s.transmittingExpressFrame = false ∧ s.step fastMac (.hold 0) = .ok s' ∧
    run (step fastMac) s' afterEarlyHold = .ok v ∧
    s.time + getHoldAdvance fastMac = byteTimes 25.5 ∧ v.time = byteTimes 64 ∧
    ¬FreedBy fastMac (s.time + getHoldAdvance fastMac) s s' afterEarlyHold := by
  obtain ⟨⟨s, s', v⟩, hrun, hend⟩ : ∃ r : EtherMac × EtherMac × EtherMac, (do
      let s ← run (step fastMac) (start 0 (twoGates true true true true)) (bulkUntil 10)
      let s' ← s.step fastMac (.hold 0)
      let v ← run (step fastMac) s' afterEarlyHold
      return (s, s', v)) = .ok r ∧ (r.1.transmittingExpressFrame = false ∧
        r.1.time + getHoldAdvance fastMac = byteTimes 25.5 ∧ r.2.2.time = byteTimes 64 ∧
        ¬FreedBy fastMac (r.1.time + getHoldAdvance fastMac) r.1 r.2.1 afterEarlyHold) :=
    exists_of_any (by decide +kernel)
  obtain ⟨_, hs, hrun⟩ := bind_ok.mp hrun
  obtain ⟨_, hs', hrun⟩ := bind_ok.mp hrun
  obtain ⟨_, hv, hrun⟩ := bind_ok.mp hrun
  cases hrun
  exact ⟨s, s', v, hs, hend.1, hs', hv, hend.2⟩

/-- after 100 bytes the frame is stopped at once -/
theorem hold_in_time_bulkFrame : ∃ s s',
    run (step fastMac) (start 0 (twoGates true true true true)) (bulkUntil 100) = .ok s ∧
    s.step fastMac (.hold 0) = .ok s' ∧ HoldsInTime fastMac s ∧
    FreedBy fastMac (s.time + getHoldAdvance fastMac) s s'
      [.advance (byteTimes 104), .timer .endTx, .timer .endIFG, .requestPacketMsg,
        .advance (byteTimes 200)] := by
  obtain ⟨⟨s, s', v⟩, hrun, hlate, hstops, hundisturbed, hin⟩ :
      ∃ r : EtherMac × EtherMac × EtherMac, (do
      let s ← run (step fastMac) (start 0 (twoGates true true true true)) (bulkUntil 100)
      let s' ← s.step fastMac (.hold 0)
      let v ← run (step fastMac) s' [.advance (byteTimes 104), .timer .endTx, .timer .endIFG,
        .requestPacketMsg, .advance (byteTimes 200)]
      return (s, s', v)) = .ok r ∧ (r.1.time + getHoldAdvance fastMac < r.2.2.time ∧
        Meets (step fastMac) (fun v e => Receives fastMac Distinct v e ∧
          StopsBy fastMac (r.1.time + getHoldAdvance fastMac) r.1 v e) r.2.1
          [.advance (byteTimes 104), .timer .endTx, .timer .endIFG, .requestPacketMsg,
            .advance (byteTimes 200)] ∧
        Meets (step fastMac) (fun v e => Receives fastMac Distinct v e ∧ Undisturbed r.1 v e) r.2.1
          [.advance (byteTimes 104), .timer .endTx, .timer .endIFG, .requestPacketMsg,
            .advance (byteTimes 200)] ∧
        HoldsInTime fastMac r.1) :=
    exists_of_any (by decide +kernel)
  obtain ⟨_, hs, hrun⟩ := bind_ok.mp hrun
  obtain ⟨_, hs', hrun⟩ := bind_ok.mp hrun
  obtain ⟨_, hv, hrun⟩ := bind_ok.mp hrun
  cases hrun
  obtain ⟨hfreed, hnecessary⟩ := hold_in_time fastMac 0 (twoGates true true true true) (bulkUntil 100)
    _ (.hold 0) s s' v (by decide +kernel) hs (.inl rfl) hs' hv
  have hfree := (hfreed hstops hin).resolve_left (not_le.mpr hlate)
  exact ⟨s, s', hs, hs', hnecessary hundisturbed hfree, hfree⟩

end EtherMac

end Nesting
