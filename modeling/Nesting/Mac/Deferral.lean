import Nesting.Mac.HoldAdvance

/-!
# Preemptions that are put off

`isPreemptionLaterPossible` and `isPreemptionNowPossible` count the same bytes, but not alike.

* `PossibleAt`     the answer of `isPreemptionNowPossible` at another instant of the part;
* `Consistent`     the first function foretells the answers of the second one;
* `Foretellable`   the part has enough bytes left for both, and a whole number of them is through;
* `consistent_iff` it foretells them exactly then.
-/

set_option linter.unusedVariables false

namespace Nesting

namespace EtherMac

open Lib

variable {cfg : MacConfig} {s s' v : EtherMac} {e : MacEvent} {frame : Packet} {t : SimTime}

/-- `isPreemptionNowPossible` holds at `t`, with the same part in transmission -/
def PossibleAt (cfg : MacConfig) (s : EtherMac) (t : SimTime) : Prop :=
  { s with time := t }.isPreemptionNowPossible cfg = .ok true

instance (cfg : MacConfig) (s : EtherMac) : DecidablePred (s.PossibleAt cfg) := fun t =>
  inferInstanceAs (Decidable (_ = _))

/-- what `isPreemptionLaterPossible` returns is the first instant from now on, up to the end of the part, at
which the preemption is possible, and zero if there is none -/
structure Consistent (cfg : MacConfig) (s : EtherMac) : Prop where
  later : ∀ T, s.isPreemptionLaterPossible cfg = .ok T → s.time < T →
    (∀ u ∈ s.endTxMsg, T ≤ u → s.PossibleAt cfg T) ∧ ∀ t, s.time < t → t < T → ¬s.PossibleAt cfg t
  never : s.isPreemptionLaterPossible cfg = .ok 0 →
    ∀ t, s.time < t → (∀ u ∈ s.endTxMsg, t ≤ u) → ¬s.PossibleAt cfg t

/-- if the first 60 bytes are not through yet, and a stop after them would leave 60 bytes, it would leave
64, and now a byte has just gone through -/
def Foretellable (cfg : MacConfig) (s : EtherMac) : Prop :=
  ∀ frame ∈ s.currentPreemptableFrame, s.bytesUntil cfg s.time < 60 →
    s.preemptedBytesSent + 120 ≤ frame.byteLength →
    s.preemptedBytesSent + 124 ≤ frame.byteLength ∧
      s.time = s.preemptableTransmissionStart +
        calculateTransmissionDuration cfg (s.bytesUntil cfg s.time)

instance (cfg : MacConfig) (s : EtherMac) : Decidable (Foretellable cfg s) :=
  inferInstanceAs (Decidable (∀ frame ∈ s.currentPreemptableFrame, _))

/-! ## the instants at which bytes are through -/

/-- the instant at which `n` bytes of the part are through -/
def byteAt (cfg : MacConfig) (s : EtherMac) (n : ℤ) : SimTime :=
  s.preemptableTransmissionStart + calculateTransmissionDuration cfg n

theorem bytesUntil_byteAt (n : ℤ) : s.bytesUntil cfg (s.byteAt cfg n) = n := by
  have hzero : s.bytesUntil cfg s.preemptableTransmissionStart = 0 := by
    unfold bytesUntil
    simp
  unfold byteAt
  rw [bytesUntil_add, hzero, zero_add]

theorem byteAt_le_iff {n : ℤ} : s.byteAt cfg n ≤ t ↔ n ≤ s.bytesUntil cfg t := by
  unfold byteAt bytesUntil calculateTransmissionDuration
  rw [Int.le_floor, le_div_iff₀ (by norm_num), le_div_iff₀ cfg.bitTime_pos]
  constructor
  · intro h
    linarith
  · intro h
    linarith

theorem lt_byteAt_iff {n : ℤ} : t < s.byteAt cfg n ↔ s.bytesUntil cfg t < n :=
  not_le.symm.trans ((not_congr byteAt_le_iff).trans not_le)

theorem byteAt_add (m n : ℤ) :
    s.byteAt cfg m + calculateTransmissionDuration cfg n = s.byteAt cfg (m + n) := by
  unfold byteAt calculateTransmissionDuration
  push_cast
  ring

/-! ## the two functions -/

/-- at an instant at which the part is still sent, or later -/
theorem possibleAt_iff (h : Regular cfg s) (hp : s.transmittingPreemptableFrame = true)
    (hf : s.currentPreemptableFrame = some frame) : s.PossibleAt cfg t ↔
      60 ≤ s.bytesUntil cfg t ∧ s.bytesUntil cfg t + s.preemptedBytesSent + 60 ≤ frame.byteLength := by
  have hen := (h.timing.sending hp).enabled
  have he := h.shape.noExpress hp
  constructor
  · intro hpos
    obtain ⟨frame', hf', h60, hrem⟩ := isPreemptionNowPossible_ok (s := { s with time := t }) hen hp hpos
    cases hf.symm.trans hf'
    exact ⟨h60, hrem⟩
  · rintro ⟨h60, hrem⟩
    refine (isPreemptionNowPossible_eq (s := { s with time := t }) hen hp he hf ?_ ?_).trans
      (congrArg Except.ok (decide_eq_true ⟨h60, hrem⟩))
    · show 0 ≤ s.bytesUntil cfg t
      omega
    · show s.bytesUntil cfg t ≤ frame.byteLength + 8
      omega

/-- an answer is given only while no more bytes are counted than the frame has -/
theorem bytesUntil_le_of_later (h : Regular cfg s) (hp : s.transmittingPreemptableFrame = true)
    (hf : s.currentPreemptableFrame = some frame) (hT : s.isPreemptionLaterPossible cfg = .ok t) :
    s.bytesUntil cfg s.time ≤ frame.byteLength + 8 := by
  obtain ⟨possible, hpos, _⟩ := bind_ok.mp hT
  unfold isPreemptionNowPossible at hpos
  rw [(h.timing.sending hp).enabled, hp, h.shape.noExpress hp] at hpos
  simp only [Bool.not_true, Bool.or_self, Bool.false_eq_true, if_false] at hpos
  obtain ⟨bytes, hb, _⟩ := bind_ok.mp hpos
  have hle := calculatePreemptedPayloadBytesSent_le hp hf hb
  have hbytes := calculatePreemptedPayloadBytesSent_ok hp hb
  simp only [Bool.false_eq_true, if_false, Int.sub_zero] at hbytes
  omega

theorem isPreemptionLaterPossible_eq (h : Regular cfg s) (hp : s.transmittingPreemptableFrame = true)
    (hf : s.currentPreemptableFrame = some frame)
    (hle : s.bytesUntil cfg s.time ≤ frame.byteLength + 8) : s.isPreemptionLaterPossible cfg =
      .ok (if CanStop cfg s frame then s.time
        else if CanStopSoon cfg s frame then
          s.time + calculateTransmissionDuration cfg (60 - s.bytesUntil cfg s.time)
        else 0) := by
  have hsend := h.timing.sending hp
  have he := h.shape.noExpress hp
  have h0 : 0 ≤ s.bytesUntil cfg s.time := bytesUntil_nonneg hsend.started
  refine bind_ok.mpr ⟨_, isPreemptionNowPossible_eq hsend.enabled hp he hf h0 hle, ?_⟩
  by_cases hcan : CanStop cfg s frame
  · have hcan' := hcan
    unfold CanStop at hcan'
    rw [if_pos hcan, if_pos (decide_eq_true hcan')]
    rfl
  · have hcan' := hcan
    unfold CanStop at hcan'
    rw [if_neg hcan, if_neg (by rw [decide_eq_true_iff]; exact hcan')]
    refine bind_ok.mpr ⟨_, calculatePreemptedPayloadBytesSent_eq hp hf h0 hle, ?_⟩
    rw [hf]
    unfold kFramePreemptionMinFinalPayloadSize kFramePreemptionMinNonFinalPayloadSize
    refine congrArg Except.ok (if_congr ?_ rfl rfl)
    unfold CanStopSoon
    constructor
    · rintro ⟨h1, h2⟩
      omega
    · rintro ⟨h1, h2⟩
      omega

/-- the instant that is foretold is the one at which 60 bytes are through exactly at the end of a byte -/
theorem foretold_eq_iff : s.time + calculateTransmissionDuration cfg (60 - s.bytesUntil cfg s.time) =
    s.byteAt cfg 60 ↔ s.time = s.byteAt cfg (s.bytesUntil cfg s.time) := by
  have hsum : s.byteAt cfg (s.bytesUntil cfg s.time) +
      calculateTransmissionDuration cfg (60 - s.bytesUntil cfg s.time) = s.byteAt cfg 60 := by
    rw [byteAt_add, add_sub_cancel]
  rw [← hsum, add_left_inj]

/-! ## what is foretold -/

/-- before 60 bytes are through, a stop that leaves 64 bytes is foretold at the end of a byte only -/
theorem consistent_of_soon (h : Regular cfg s) (hp : s.transmittingPreemptableFrame = true)
    (hf : s.currentPreemptableFrame = some frame) (hsoon : CanStopSoon cfg s frame) :
    Consistent cfg s ↔ s.time = s.byteAt cfg (s.bytesUntil cfg s.time) := by
  obtain ⟨h60, hrem⟩ := hsoon
  have hlater := isPreemptionLaterPossible_eq h hp hf (by omega)
  rw [if_neg fun hcan => absurd hcan.1 (not_le.mpr h60), if_pos ⟨h60, hrem⟩] at hlater
  have hnow : s.time < s.byteAt cfg 60 := lt_byteAt_iff.mpr h60
  have hpos : s.PossibleAt cfg (s.byteAt cfg 60) := by
    refine (possibleAt_iff h hp hf).mpr ?_
    rw [bytesUntil_byteAt]
    omega
  have hle : s.byteAt cfg 60 ≤
      s.time + calculateTransmissionDuration cfg (60 - s.bytesUntil cfg s.time) := by
    refine byteAt_le_iff.mpr ?_
    rw [bytesUntil_add]
    omega
  rw [← foretold_eq_iff]
  constructor
  · intro hcons
    obtain heq | hlt := hle.eq_or_lt
    · exact heq.symm
    · -- the 60 bytes are through in the middle of the wait
      exact absurd hpos ((hcons.later _ hlater (hnow.trans_le hle)).2 _ hnow hlt)
  · intro heq
    rw [heq] at hlater
    constructor
    · intro T hT _
      cases hlater.symm.trans hT
      refine ⟨fun _ _ _ => hpos, fun t _ ht hpt => ?_⟩
      exact absurd ((possibleAt_iff h hp hf).mp hpt).1 (not_le.mpr (lt_byteAt_iff.mp ht))
    · intro hzero
      have hT : s.byteAt cfg 60 = 0 := Except.ok.inj (hlater.symm.trans hzero)
      exact absurd hnow (not_lt.mpr (hT ▸ h.time))

/-- a part of which less is left is given up, rightly if no stop after 60 bytes would leave 60 -/
theorem consistent_of_early (h : Regular cfg s) (hp : s.transmittingPreemptableFrame = true)
    (hf : s.currentPreemptableFrame = some frame) (h60 : s.bytesUntil cfg s.time < 60)
    (hrem : ¬s.preemptedBytesSent + 124 ≤ frame.byteLength) :
    Consistent cfg s ↔ ¬s.preemptedBytesSent + 120 ≤ frame.byteLength := by
  have hw := (h.timing.current frame hf).2.1
  have hmin : 64 ≤ frame.byteLength := hw.1
  have hlater := isPreemptionLaterPossible_eq h hp hf (by omega)
  rw [if_neg fun hcan => absurd hcan.1 (not_le.mpr h60), if_neg fun hsoon => hrem hsoon.2] at hlater
  constructor
  · intro hcons h120
    refine hcons.never hlater (s.byteAt cfg 60) (lt_byteAt_iff.mpr h60) ?_ ?_
    · intro u hu
      obtain ⟨_, _, _, frame', t, hf', ht, hends⟩ := h.timing.sending hp
      cases hf.symm.trans hf'
      cases ht.symm.trans hu
      refine byteAt_le_iff.mpr ?_
      obtain hlast | ⟨h64, _⟩ := hends.bytes
      · have hcounted := le_counted cfg (remaining frame s.preemptedBytesSent)
        rw [hlast]
        rw [remaining_of_le hw (by omega)] at hcounted ⊢
        omega
      · omega
    · refine (possibleAt_iff h hp hf).mpr ?_
      rw [bytesUntil_byteAt]
      omega
  · intro h120
    have hnever : ∀ t, ¬s.PossibleAt cfg t := by
      intro t hpt
      obtain ⟨h1, h2⟩ := (possibleAt_iff h hp hf).mp hpt
      omega
    refine ⟨fun T hT hlt => ?_, fun _ t _ _ => hnever t⟩
    cases hlater.symm.trans hT
    exact absurd h.time (not_le.mpr hlt)

/-- when 60 bytes are through, the preemption is possible now or not any more -/
theorem consistent_of_through (h : Regular cfg s) (hp : s.transmittingPreemptableFrame = true)
    (hf : s.currentPreemptableFrame = some frame) (hstart : 0 ≤ s.preemptableTransmissionStart)
    (h60 : 60 ≤ s.bytesUntil cfg s.time) : Consistent cfg s := by
  have hlater : ∀ T, s.isPreemptionLaterPossible cfg = .ok T →
      (if CanStop cfg s frame then s.time else 0) = T := by
    intro T hT
    have heq := isPreemptionLaterPossible_eq h hp hf (bytesUntil_le_of_later h hp hf hT)
    have hsoon : ¬CanStopSoon cfg s frame := fun hsoon => absurd hsoon.1 (not_lt.mpr h60)
    rw [if_neg hsoon] at heq
    exact Except.ok.inj (heq.symm.trans hT)
  by_cases hcan : CanStop cfg s frame
  · simp only [if_pos hcan] at hlater
    refine ⟨fun T hT hlt => absurd (hlater T hT) (ne_of_lt hlt), fun hzero => ?_⟩
    -- a part that has started cannot have sent 60 bytes by 0
    have htime : s.time = 0 := hlater 0 hzero
    have hle : s.byteAt cfg 60 ≤ s.time := byteAt_le_iff.mpr h60
    have hpos : 0 < calculateTransmissionDuration cfg 60 := duration_pos (by norm_num)
    rw [htime] at hle
    unfold byteAt at hle
    linarith
  · simp only [if_neg hcan] at hlater
    refine ⟨fun T hT hlt => ?_, fun _ t hlt _ hpt => ?_⟩
    · rw [← hlater T hT] at hlt
      exact absurd h.time (not_le.mpr hlt)
    · obtain ⟨_, h2⟩ := (possibleAt_iff h hp hf).mp hpt
      have hmono : s.bytesUntil cfg s.time ≤ s.bytesUntil cfg t := bytesUntil_mono hlt.le
      exact hcan ⟨h60, by omega⟩

theorem consistent_iff_foretellable (h : Regular cfg s) (hp : s.transmittingPreemptableFrame = true)
    (hstart : 0 ≤ s.preemptableTransmissionStart) : Consistent cfg s ↔ Foretellable cfg s := by
  obtain ⟨_, _, _, frame, _, hf, _⟩ := h.timing.sending hp
  have hforetell : Foretellable cfg s ↔ (s.bytesUntil cfg s.time < 60 →
      s.preemptedBytesSent + 120 ≤ frame.byteLength → s.preemptedBytesSent + 124 ≤ frame.byteLength ∧
        s.time = s.byteAt cfg (s.bytesUntil cfg s.time)) := by
    refine ⟨fun hall => hall frame hf, fun hframe frame' hf' => ?_⟩
    cases hf.symm.trans hf'
    exact hframe
  rw [hforetell]
  by_cases h60 : s.bytesUntil cfg s.time < 60
  · by_cases hrem : s.preemptedBytesSent + 124 ≤ frame.byteLength
    · rw [consistent_of_soon h hp hf ⟨h60, hrem⟩]
      exact ⟨fun heq _ _ => ⟨hrem, heq⟩, fun hall => (hall h60 (by omega)).2⟩
    · rw [consistent_of_early h hp hf h60 hrem]
      exact ⟨fun h120 _ hle => absurd hle h120, fun hall hle => hrem (hall h60 hle).1⟩
  · exact iff_of_true (consistent_of_through h hp hf hstart (not_lt.mp h60)) fun hlt => absurd hlt h60

/-! ## the answers along a part -/

theorem SamePart.trans (h : SamePart s s') (h' : SamePart s' v) : SamePart s v :=
  ⟨h'.current.trans h.current, h'.sent.trans h.sent, h'.started.trans h.started⟩

/-- while a part is sent, its frame, its start and the bytes before it stay -/
theorem run_samePart {es : List MacEvent} (h : Regular cfg s)
    (hp : s.transmittingPreemptableFrame = true) (hm : Meets (step cfg) (Receives cfg Distinct) s es)
    (hr : run (step cfg) s es = .ok v) (hstill : Still s v) : SamePart s v := by
  have hstep : ∀ u e u', (Regular cfg u ∧ ((Still s u ∧ SamePart s u) ∨ PartOver s u)) →
      Receives cfg Distinct u e → u.step cfg e = .ok u' →
      Regular cfg u' ∧ ((Still s u' ∧ SamePart s u') ∨ PartOver s u') := by
    rintro u e u' ⟨hreg, ⟨hu, hsame⟩ | hover⟩ hrec hs
    · refine ⟨regular_step hreg hrec hs, ?_⟩
      cases step_course hreg.shape hu.now (hreg.timing.sending hu.now).enabled hs with
      | ended _ _ _ hf => exact .inr (.of_still hu hf)
      | same hp' hsame' => exact .inl ⟨hu.step hreg hs hp', hsame.trans hsame'⟩
      | stopped _ _ hp' hsame' => exact .inl ⟨hu.step hreg hs hp', hsame.trans hsame'⟩
      | later _ _ _ _ hp' hsame' => exact .inl ⟨hu.step hreg hs hp', hsame.trans hsame'⟩
    · exact ⟨regular_step hreg hrec hs, .inr (hover.step hreg hs)⟩
  obtain ⟨_, ⟨_, hsame⟩ | hover⟩ := run_invariant_of hstep
    ⟨h, .inl ⟨⟨hp, hp, rfl⟩, ⟨rfl, rfl, rfl⟩⟩⟩ hm hr
  · exact hsame
  · have hlen := hover hp
    rw [hstill.parts] at hlen
    exact absurd hlen (lt_irrefl _)

theorem possible_of_samePart (h : Regular cfg s) (h' : Regular cfg v)
    (hp : s.transmittingPreemptableFrame = true) (hp' : v.transmittingPreemptableFrame = true)
    (hsame : SamePart s v) :
    v.isPreemptionNowPossible cfg = .ok true ↔ s.PossibleAt cfg v.time := by
  obtain ⟨_, _, _, frame, _, hf, _⟩ := h.timing.sending hp
  have hv : v.isPreemptionNowPossible cfg = .ok true ↔ v.PossibleAt cfg v.time := Iff.rfl
  rw [hv, possibleAt_iff h' hp' (hsame.current.trans hf), possibleAt_iff h hp hf, hsame.bytesUntil,
    hsame.sent]

theorem started_step (h : Regular cfg s)
    (hstart : s.transmittingPreemptableFrame = true → 0 ≤ s.preemptableTransmissionStart)
    (h' : Regular cfg s') (hs : s.step cfg e = .ok s')
    (hp' : s'.transmittingPreemptableFrame = true) : 0 ≤ s'.preemptableTransmissionStart := by
  cases step_send h.shape h.timing.orderly hs with
  | ended hp => exact absurd (hp'.symm.trans hp) nofun
  | same hp hsame => exact hsame.started ▸ hstart hp
  | stopped hp _ _ hsame => exact hsame.started ▸ hstart hp
  | started _ hst =>
    rw [hst]
    exact h'.time

/-- **Deferred preemptions**: `isPreemptionLaterPossible` foretells what `isPreemptionNowPossible` answers
along the part in transmission exactly if the part is `Foretellable`; and what that function answers in the
later states of a run depends on nothing but the time. -/
theorem consistent_iff (cfg : MacConfig) (preemptedBytesSent : Nat) (tGates : List GateView)
    (before : List MacEvent) (s : EtherMac)
    (hm : Meets (step cfg) (Receives cfg Distinct) (start preemptedBytesSent tGates) before)
    (hr : run (step cfg) (start preemptedBytesSent tGates) before = .ok s)
    (hp : s.transmittingPreemptableFrame = true) :
    (Consistent cfg s ↔ Foretellable cfg s) ∧
    ∀ after v, Meets (step cfg) (Receives cfg Distinct) s after → run (step cfg) s after = .ok v →
      Still s v → (v.isPreemptionNowPossible cfg = .ok true ↔ s.PossibleAt cfg v.time) := by
  have hstep : ∀ u e u', (Regular cfg u ∧
      (u.transmittingPreemptableFrame = true → 0 ≤ u.preemptableTransmissionStart)) →
      Receives cfg Distinct u e → u.step cfg e = .ok u' → Regular cfg u' ∧
        (u'.transmittingPreemptableFrame = true → 0 ≤ u'.preemptableTransmissionStart) := by
    rintro u e u' ⟨hreg, hstart⟩ hrec hs
    have hreg' := regular_step hreg hrec hs
    exact ⟨hreg', started_step hreg hstart hreg' hs⟩
  obtain ⟨hreg, hstart⟩ := run_invariant_of hstep ⟨regular_start _ _, nofun⟩ hm hr
  refine ⟨consistent_iff_foretellable hreg hp (hstart hp), fun after v hafter hv hstill => ?_⟩
  exact possible_of_samePart hreg (regular_run hreg hafter hv) hp hstill.now
    (run_samePart hreg hp hafter hv hstill)

/-- a preemptable frame of 122 bytes -/
def shortBulkFrame : Packet := ⟨4, "bulk-3", 122, "0A-AA-00-00-00-02", false⟩

/-- ten bytes of it are through -/
def shortBulkRun : List MacEvent :=
  [.requestPacketMsg,
   .setGates (twoGates true false true true), .gatePacketEnqueued, .packetEnqueuedMsg,
   .handlePacket 0 shortBulkFrame, .setGates (twoGates true true true true), .advance (byteTimes 10)]

/-- the short frame is given up, though it can be stopped when 60 bytes are through; of a long one the stop
is foretold half a byte too late -/
theorem foretold_wrong :
    (∃ s, run (step fastMac) (start 0 (twoGates true true true true)) shortBulkRun = .ok s ∧
      s.isPreemptionLaterPossible fastMac = .ok 0 ∧ s.PossibleAt fastMac (byteTimes 60) ∧
      ¬Consistent fastMac s) ∧
    ∃ s, run (step fastMac) (start 0 (twoGates true true true true)) (bulkUntil 10.5) = .ok s ∧
      s.isPreemptionLaterPossible fastMac = .ok (byteTimes 60.5) ∧
      s.PossibleAt fastMac (byteTimes 60) ∧ ¬Consistent fastMac s := by
  constructor
  · obtain ⟨s, hs, htime, hlater, hpos, hend⟩ : ∃ s, run (step fastMac)
        (start 0 (twoGates true true true true)) shortBulkRun = .ok s ∧ (s.time < byteTimes 60 ∧
        s.isPreemptionLaterPossible fastMac = .ok 0 ∧ s.PossibleAt fastMac (byteTimes 60) ∧
        ∀ u ∈ s.endTxMsg, byteTimes 60 ≤ u) := exists_of_any (by decide +kernel)
    exact ⟨s, hs, hlater, hpos, fun hcons => hcons.never hlater _ htime hend hpos⟩
  · obtain ⟨s, hs, htime, hlater, hpos, hlt⟩ : ∃ s, run (step fastMac)
        (start 0 (twoGates true true true true)) (bulkUntil 10.5) = .ok s ∧ (s.time < byteTimes 60 ∧
        s.isPreemptionLaterPossible fastMac = .ok (byteTimes 60.5) ∧
        s.PossibleAt fastMac (byteTimes 60) ∧ s.time < byteTimes 60.5) :=
      exists_of_any (by decide +kernel)
    refine ⟨s, hs, hlater, hpos, fun hcons => ?_⟩
    exact (hcons.later _ hlater hlt).2 _ htime (by decide +kernel) hpos

theorem consistent_bulkFrame :
    ∃ s, run (step fastMac) (start 0 (twoGates true true true true)) (bulkUntil 10) = .ok s ∧
      s.isPreemptionLaterPossible fastMac = .ok (byteTimes 60) ∧ Consistent fastMac s := by
  obtain ⟨s, hs, hp, hlater, hforetell⟩ : ∃ s, run (step fastMac)
      (start 0 (twoGates true true true true)) (bulkUntil 10) = .ok s ∧
      (s.transmittingPreemptableFrame = true ∧
        s.isPreemptionLaterPossible fastMac = .ok (byteTimes 60) ∧ Foretellable fastMac s) :=
    exists_of_any (by decide +kernel)
  obtain ⟨hiff, _⟩ := consistent_iff fastMac 0 (twoGates true true true true) (bulkUntil 10) s
    (by decide +kernel) hs hp
  exact ⟨s, hs, hlater, hiff.mpr hforetell⟩

end EtherMac

end Nesting
