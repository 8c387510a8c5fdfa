import Nesting.Lib.Grid
import Nesting.Manager.ScheduleManager

/-!
# When the next cycle and the next change come

`setCycleStartTime` and `setConfigChangeTime` look for the least time `base + N * cycle` that is not
past, for any schedule, time and state of the machines.

* `ceilQuotient_rounded`   the quotient is one of doubles: exact enough below `2 ^ 53` ticks;
* `CycleStartLeast`, `ConfigChangeLeast`   a function finds it without failing;
* `CycleStartDefined`, `ConfigChangeDefined`   what this takes;
* `cycleTimes_iff`   **it takes exactly that.**
-/

set_option linter.unusedVariables false

namespace Nesting
namespace ScheduleManager
open Lib

variable {T : Type} {m : ScheduleManager T}

/-! ## the conversion of a quotient -/

theorem ceilQuotient_ok {a b : SimTime} {n : ℕ} :
    ceilQuotient a b = .ok n ↔ b ≠ 0 ∧ -1 < a / b ∧ n = ⌈a / b⌉₊ := by
  have hneg : ⌈a / b⌉ < 0 ↔ ¬ -1 < a / b := by
    have hlt : -1 < ⌈a / b⌉ ↔ -1 < a / b := by
      rw [Int.lt_ceil]
      norm_num
    rw [← hlt]
    omega
  unfold ceilQuotient
  by_cases hb : b = 0
  · rw [if_pos (.inl hb)]
    exact iff_of_false nofun fun h => h.1 hb
  · by_cases hq : -1 < a / b
    · have hok : ¬(b = 0 ∨ ⌈a / b⌉ < 0) := not_or.mpr ⟨hb, fun h => hneg.mp h hq⟩
      rw [if_neg hok, Int.ceil_toNat]
      constructor
      · intro h
        exact ⟨hb, hq, (Except.ok.inj h).symm⟩
      · rintro ⟨_, _, rfl⟩
        rfl
    · rw [if_pos (.inr (hneg.mpr hq))]
      exact iff_of_false nofun fun h => hq h.2.1

/-- `a / b` is a quotient of doubles: for times of fewer than `2 ^ 53` ticks it is rounded up to the
same integer -/
theorem ceilQuotient_rounded {round : ℚ → ℚ} (h : RoundsQuotients 53 round) {a b : ℤ}
    (ha : |a| < 2 ^ 53) (hb : |b| < 2 ^ 53) :
    ceilQuotient (a / 10 ^ 12) (b / 10 ^ 12) =
      if b = 0 ∨ ⌈round (a / b)⌉ < 0 then
        .error (.undefinedBehaviour "static_cast<uint64_t>(std::ceil(..))")
      else .ok ⌈round (a / b)⌉.toNat := by
  have hb0 : (b / 10 ^ 12 : ℚ) = 0 ↔ b = 0 := by
    rw [div_eq_zero_iff, Int.cast_eq_zero, or_iff_left (by norm_num)]
  unfold ceilQuotient
  rw [div_div_div_cancel_right₀ (by norm_num)]
  by_cases h0 : b = 0
  · rw [if_pos (.inl (hb0.mpr h0)), if_pos (.inl h0)]
  · simp only [hb0, h0, h.ceil_eq ha hb h0]
/-- the time that is found by rounding a quotient up, cut off at `M` if it is given -/
def roundedStart (base cycle now : SimTime) (cut : ℕ → ℕ) : Sim SimTime := do
  let n ← ceilQuotient (now - base) cycle
  return base + (cut n : ℕ) * cycle

/-- a time past its base is rounded up to the least time of a cycle that is positive -/
theorem roundedStart_past_iff {base cycle now : SimTime} (h : base < now) :
    (∃ t, roundedStart base cycle now id = .ok t ∧ now ≤ t ∧ IsLeast (gridFrom base cycle now) t) ↔
      0 < cycle := by
  constructor
  · rintro ⟨t, _, hle, hl⟩
    obtain ⟨_, n, rfl⟩ := hl.1
    by_contra hneg
    have hn : (0 : ℚ) ≤ n := n.cast_nonneg
    have := mul_nonpos_of_nonneg_of_nonpos hn (not_lt.mp hneg)
    linarith
  · intro hc
    have hq : -1 < (now - base) / cycle :=
      lt_trans (by norm_num) (div_pos (sub_pos.mpr h) hc)
    have hl : IsLeast (gridFrom base cycle now) (base + ⌈(now - base) / cycle⌉₊ * cycle) :=
      isLeast_ceil hc
    exact ⟨_, bind_ok.mpr ⟨_, ceilQuotient_ok.mpr ⟨ne_of_gt hc, hq, rfl⟩, rfl⟩, hl.1.1, hl⟩

/-- a quotient of 32 bits -/
theorem roundedStart_cut_iff {base cycle now : SimTime} :
    (∃ t, roundedStart base cycle now (· % 2 ^ 32) = .ok t ∧ now ≤ t ∧
      IsLeast (gridFrom base cycle now) t) ↔
    (0 < cycle ∧ base - now < cycle ∧ now - base ≤ (2 ^ 32 - 1 : ℕ) * cycle) ∨
      (cycle < 0 ∧ ∃ n < 2 ^ 32, base + (n : ℕ) * cycle = now) := by
  have hfound : ∀ {P : SimTime → Prop}, (∃ t, roundedStart base cycle now (· % 2 ^ 32) = .ok t ∧ P t) ↔
      cycle ≠ 0 ∧ -1 < (now - base) / cycle ∧
        P (base + (⌈(now - base) / cycle⌉₊ % 2 ^ 32 : ℕ) * cycle) := by
    intro P
    constructor
    · rintro ⟨t, ht, hp⟩
      obtain ⟨n, hn, ht⟩ := bind_ok.mp ht
      obtain ⟨h0, hq, rfl⟩ := ceilQuotient_ok.mp hn
      cases ht
      exact ⟨h0, hq, hp⟩
    · rintro ⟨h0, hq, hp⟩
      exact ⟨_, bind_ok.mpr ⟨_, ceilQuotient_ok.mpr ⟨h0, hq, rfl⟩, rfl⟩, hp⟩
  rw [hfound]
  obtain hneg | rfl | hpos := lt_trichotomy cycle 0
  · rw [or_iff_right fun h => absurd h.1 (not_lt.mpr hneg.le)]
    by_cases hb : now ≤ base
    · have hq : -1 < (now - base) / cycle :=
        lt_of_lt_of_le (by norm_num) (div_nonneg_of_nonpos (sub_nonpos.mpr hb) hneg.le)
      have hiff : IsLeast (gridFrom base cycle now) _ ↔ _ :=
        isLeast_ceil_mod_neg_iff hneg (M := 2 ^ 32) (by norm_num)
      constructor
      · rintro ⟨_, _, _, hl⟩
        exact ⟨hneg, hiff.mp hl⟩
      · rintro ⟨_, hex⟩
        have hl := hiff.mpr hex
        exact ⟨ne_of_lt hneg, hq, hl.1.1, hl⟩
    · -- every time of the cycle lies before the base, which is past
      have hpast : ∀ n : ℕ, base + n * cycle < now := by
        intro n
        have hn : (0 : ℚ) ≤ n := n.cast_nonneg
        have := mul_nonpos_of_nonneg_of_nonpos hn hneg.le
        linarith [not_le.mp hb]
      constructor
      · rintro ⟨_, _, hle, _⟩
        exact absurd hle (not_le.mpr (hpast _))
      · rintro ⟨_, n, _, hn⟩
        exact absurd hn (ne_of_lt (hpast n))
  · simp
  · rw [or_iff_left fun h => absurd h.1 (not_lt.mpr hpos.le)]
    have hiff : IsLeast (gridFrom base cycle now)
        (base + (⌈(now - base) / cycle⌉₊ % 2 ^ 32 : ℕ) * cycle) ↔
          now - base ≤ (2 ^ 32 - 1 : ℕ) * cycle := isLeast_ceil_mod_iff hpos (by norm_num)
    have hq : -1 < (now - base) / cycle ↔ base - now < cycle := by
      rw [lt_div_iff₀ hpos]
      constructor <;> intro h <;> linarith
    rw [hq, hiff.symm]
    constructor
    · rintro ⟨_, hlt, _, hl⟩
      exact ⟨hpos, hlt, hl⟩
    · rintro ⟨_, hlt, hl⟩
      exact ⟨ne_of_gt hpos, hlt, hl.1.1, hl⟩

/-! ## the two functions -/

/-- the least time of the cycle, or that of the change in the case the standard prescribes -/
def CycleStartAt (m : ScheduleManager T) (t : SimTime) : Prop :=
  if m.configPending = true ∧ m.configChangeTime ≤
      m.now + m.operSchedule.cycleTime + m.operSchedule.cycleTimeExtension then
    t = m.configChangeTime
  else IsLeast (gridFrom m.operSchedule.baseTime m.operSchedule.cycleTime m.now) t

/-- the next cycle starts at that time -/
def CycleStartLeast (m : ScheduleManager T) : Prop :=
  ∃ m', m.setCycleStartTime = .ok m' ∧ CycleStartAt m m'.cycleStartTime

/-- the change comes at the least time of the cycle that it brings -/
def ConfigChangeLeast (m : ScheduleManager T) : Prop :=
  ∃ m', m.setConfigChangeTime = .ok m' ∧
    IsLeast (gridFrom m.adminSchedule.baseTime m.adminSchedule.cycleTime m.now) m'.configChangeTime

/-- a cycle that is not negative from its base on, a positive one after it -/
def LeastDefined (base cycle now : SimTime) : Prop :=
  if now ≤ base then 0 ≤ cycle ∨ base + cycle < now else 0 < cycle

/-- with a change pending: its time is not past, or the base is less than a cycle ahead and the number
of the cycle has 32 bits -/
def CycleStartDefined (m : ScheduleManager T) : Prop :=
  let base := m.operSchedule.baseTime
  let cycle := m.operSchedule.cycleTime
  if m.configPending = false then LeastDefined base cycle m.now
  else if m.configChangeTime ≤ m.now + cycle + m.operSchedule.cycleTimeExtension then
    m.now ≤ m.configChangeTime
  else (0 < cycle ∧ base - m.now < cycle ∧ m.now - base ≤ (2 ^ 32 - 1 : ℕ) * cycle) ∨
    (cycle < 0 ∧ ∃ n < 2 ^ 32, base + (n : ℕ) * cycle = m.now)

def ConfigChangeDefined (m : ScheduleManager T) : Prop :=
  LeastDefined m.adminSchedule.baseTime m.adminSchedule.cycleTime m.now

theorem leastDefined_iff {base cycle now : SimTime} :
    (∃ t, (if now ≤ base then Except.ok base else roundedStart base cycle now id : Sim SimTime) =
      .ok t ∧ now ≤ t ∧ IsLeast (gridFrom base cycle now) t) ↔ LeastDefined base cycle now := by
  unfold LeastDefined
  by_cases hb : now ≤ base
  · rw [if_pos hb, if_pos hb, ← isLeast_base_iff hb]
    constructor
    · rintro ⟨t, ht, _, hl⟩
      cases ht
      exact hl
    · intro hl
      exact ⟨base, rfl, hb, hl⟩
  · rw [if_neg hb, if_neg hb]
    exact roundedStart_past_iff (not_le.mp hb)

/-- `setCycleStartTime` with the assertion at its end -/
theorem setCycleStartTime_exists {P : SimTime → Prop} :
    (∃ m', m.setCycleStartTime = .ok m' ∧ P m'.cycleStartTime) ↔
      ∃ t, m.nextCycleStart = .ok t ∧ m.now ≤ t ∧ P t := by
  constructor
  · rintro ⟨m', hm, hp⟩
    obtain ⟨t, ht, hle, rfl⟩ := setCycleStartTime_ok.mp hm
    exact ⟨t, ht, hle, hp⟩
  · rintro ⟨t, ht, hle, hp⟩
    exact ⟨_, setCycleStartTime_ok.mpr ⟨t, ht, hle, rfl⟩, hp⟩

theorem cycleStartLeast_iff (m : ScheduleManager T) : CycleStartLeast m ↔ CycleStartDefined m := by
  refine (setCycleStartTime_exists (P := CycleStartAt m)).trans ?_
  unfold CycleStartDefined
  dsimp only
  by_cases hp : m.configPending = false
  · have hat : ∀ t, CycleStartAt m t ↔
        IsLeast (gridFrom m.operSchedule.baseTime m.operSchedule.cycleTime m.now) t := by
      intro t
      rw [CycleStartAt, if_neg (fun h => Bool.false_ne_true (hp.symm.trans h.1))]
    have hnext : m.nextCycleStart = if m.now ≤ m.operSchedule.baseTime then
        .ok m.operSchedule.baseTime
        else roundedStart m.operSchedule.baseTime m.operSchedule.cycleTime m.now id := if_pos hp
    rw [if_pos hp, ← leastDefined_iff]
    simp only [hat, hnext]
  · rw [if_neg hp]
    by_cases hd : m.configChangeTime ≤
        m.now + m.operSchedule.cycleTime + m.operSchedule.cycleTimeExtension
    · have hnext : m.nextCycleStart = .ok m.configChangeTime :=
        (if_neg hp).trans (if_neg (not_lt.mpr hd))
      rw [if_pos hd]
      constructor
      · rintro ⟨t, ht, hle, _⟩
        rw [hnext] at ht
        cases ht
        exact hle
      · intro hle
        refine ⟨_, hnext, hle, ?_⟩
        rw [CycleStartAt, if_pos ⟨Bool.eq_true_of_not_eq_false hp, hd⟩]
    · have hat : ∀ t, CycleStartAt m t ↔
          IsLeast (gridFrom m.operSchedule.baseTime m.operSchedule.cycleTime m.now) t := by
        intro t
        rw [CycleStartAt, if_neg (fun h => hd h.2)]
      have hnext : m.nextCycleStart = roundedStart m.operSchedule.baseTime m.operSchedule.cycleTime
          m.now (· % 2 ^ 32) := (if_neg hp).trans (if_pos (not_le.mp hd))
      rw [if_neg hd, ← roundedStart_cut_iff]
      simp only [hat, hnext]

theorem configChangeLeast_iff (m : ScheduleManager T) :
    ConfigChangeLeast m ↔ ConfigChangeDefined m := by
  unfold ConfigChangeDefined
  rw [← leastDefined_iff]
  unfold ConfigChangeLeast
  -- the function also tells whether the base time is past
  have hnext : ∀ t, (∃ past, m.nextConfigChange = .ok (t, past)) ↔
      (if m.now ≤ m.adminSchedule.baseTime then Except.ok m.adminSchedule.baseTime
        else roundedStart m.adminSchedule.baseTime m.adminSchedule.cycleTime m.now id) = .ok t := by
    intro t
    unfold nextConfigChange Schedule.getBaseTime Schedule.getCycleTime
    dsimp only
    by_cases hb : m.now ≤ m.adminSchedule.baseTime
    · rw [if_pos hb, if_pos hb]
      constructor
      · rintro ⟨past, h⟩
        cases h
        rfl
      · intro h
        cases h
        exact ⟨false, rfl⟩
    · rw [if_neg hb, if_neg hb]
      constructor
      · rintro ⟨past, h⟩
        obtain ⟨n, hn, h⟩ := bind_ok.mp h
        cases h
        exact bind_ok.mpr ⟨n, hn, rfl⟩
      · intro h
        obtain ⟨n, hn, h⟩ := bind_ok.mp h
        cases h
        exact ⟨true, bind_ok.mpr ⟨n, hn, rfl⟩⟩
  constructor
  · rintro ⟨m', hm, hl⟩
    obtain ⟨t, past, ht, hle, rfl⟩ := setConfigChangeTime_ok.mp hm
    exact ⟨t, (hnext t).mp ⟨past, ht⟩, hle, hl⟩
  · rintro ⟨t, ht, hle, hl⟩
    obtain ⟨past, ht⟩ := (hnext t).mpr ht
    exact ⟨_, setConfigChangeTime_ok.mpr ⟨t, past, ht, hle, rfl⟩, hl⟩

/-- **The next cycle start and the next change are found exactly under these conditions.** -/
theorem cycleTimes_iff (m : ScheduleManager T) :
    (CycleStartLeast m ↔ CycleStartDefined m) ∧ (ConfigChangeLeast m ↔ ConfigChangeDefined m) :=
  ⟨cycleStartLeast_iff m, configChangeLeast_iff m⟩

/-- the messages of one instant after a start, with a change requested -/
def startedWithChange (schedule admin : Schedule ℕ) (t0 : SimTime) : Sim (ScheduleManager ℕ) :=
  run (step ⟨1, one_pos⟩) (start 0 schedule t0)
    [.setAdminSchedule (some admin), .setConfigChange true, .handleMessage, .handleMessage,
      .handleMessage]

theorem not_cycleStartLeast {x : SimError} (h : errorOf m.setCycleStartTime = some x) :
    ¬CycleStartLeast m := by
  rintro ⟨m', hm, _⟩
  rw [hm] at h
  cases h

/-- A schedule without a cycle divides by zero, a base time more than a cycle ahead makes a negative
quotient, and the number of the cycle loses its high bits. -/
theorem cycleTimes_fail :
    run (step ⟨1, one_pos⟩) (start 0 ⟨[], 0, 0, 0, 0⟩ 1)
        [.handleMessage, .handleMessage, .handleMessage, .handleMessage] =
      .error (.undefinedBehaviour "static_cast<uint64_t>(std::ceil(..))") ∧
    (∃ m, startedWithChange ⟨[⟨1, 0⟩], 10, 1, 0, 1⟩ ⟨[⟨1, 0⟩], 100, 1, 0, 1⟩ 0 = .ok m ∧
      m.nextCycleTimerState = .SET_CYCLE_START_TIME ∧ m.agenda.messages.head? = some .CYCLE_TIMER ∧
      ¬CycleStartLeast m) ∧
    (∃ m, startedWithChange ⟨[⟨1, 0⟩], 0, 1, 0, 1⟩ ⟨[⟨1, 0⟩], 2 ^ 33, 1, 0, 1⟩ (2 ^ 32) = .ok m ∧
      m.nextCycleTimerState = .SET_CYCLE_START_TIME ∧ m.agenda.messages.head? = some .CYCLE_TIMER ∧
      ¬CycleStartLeast m) := by
  refine ⟨eq_error_of (by decide +kernel), ?_, ?_⟩
  · obtain ⟨m, hm, hn, hx, ht⟩ : ∃ m,
        startedWithChange ⟨[⟨1, 0⟩], 10, 1, 0, 1⟩ ⟨[⟨1, 0⟩], 100, 1, 0, 1⟩ 0 = .ok m ∧
        m.nextCycleTimerState = .SET_CYCLE_START_TIME ∧ m.agenda.messages.head? = some .CYCLE_TIMER ∧
        errorOf m.setCycleStartTime =
          some (.undefinedBehaviour "static_cast<uint64_t>(std::ceil(..))") :=
      exists_of_any (by decide +kernel)
    exact ⟨m, hm, hn, hx, not_cycleStartLeast ht⟩
  · obtain ⟨m, hm, hn, hx, ht⟩ : ∃ m,
        startedWithChange ⟨[⟨1, 0⟩], 0, 1, 0, 1⟩ ⟨[⟨1, 0⟩], 2 ^ 33, 1, 0, 1⟩ (2 ^ 32) = .ok m ∧
        m.nextCycleTimerState = .SET_CYCLE_START_TIME ∧ m.agenda.messages.head? = some .CYCLE_TIMER ∧
        errorOf m.setCycleStartTime = some (.assertion "cycleStartTime >= currentTime") :=
      exists_of_any (by decide +kernel)
    exact ⟨m, hm, hn, hx, not_cycleStartLeast ht⟩

end ScheduleManager
end Nesting
