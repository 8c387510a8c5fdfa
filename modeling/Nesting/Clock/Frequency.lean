import Nesting.Clock.Coherent

/-!
# What a new frequency does to the past

`setFrequency` stores the new frequency before it counts the ticks since the last update, so these
are counted, and the pending events are scheduled, as if it had been in force since then.

* `KeepsPast`    the count, the ticks and the order stay; only the intervals ahead are new;
* `Unaffected`   as many ticks as before, and none of them with an event pending;
* `keepsPast_iff`  **the past is kept exactly then.**
-/

set_option linter.unusedVariables false

namespace Nesting
namespace Oscillator

open Lib

variable {s s' : Oscillator} {f : ℚ}

/-- `setFrequency` does not fail, the count before and after it is the same, and an event `n` ticks
ahead is `n` new intervals after the last tick -/
def KeepsPast (s : Oscillator) (newFrequency : ℚ) : Prop :=
  ∃ count before s' after, s.updateAndGetTickCount = .ok (count, before) ∧
    s.setFrequency newFrequency = .ok s' ∧ s'.updateAndGetTickCount = .ok (count, after) ∧
    s'.scheduledEvents = s.scheduledEvents.map fun e => { e with
      globalSchedulingTime := before.timeOfLastTick + (e.tick - count : ℕ) * (1 / newFrequency) }

/-- as many ticks since the last update at the new frequency, and if events are pending none -/
def Unaffected (s : Oscillator) (newFrequency : ℚ) : Prop :=
  ⌊(s.time - s.timeOfLastTick) * newFrequency⌋₊ = s.elapsed ∧
    (s.scheduledEvents = [] ∨ newFrequency = s.frequency ∨ s.elapsed = 0)

instance (s : Oscillator) (newFrequency : ℚ) : Decidable (s.Unaffected newFrequency) :=
  inferInstanceAs (Decidable (_ ∧ _))

/-- a state that keeps as many ticks is unaffected if its events keep their distances -/
theorem setFrequency_unaffected (h : s.Coherent) (hf : 0 < f) (hu : s.Unaffected f) :
    s.setFrequency f = .ok { s.retuned f with
      scheduledEvents := s.scheduledEvents.map (s.retuned f).regrid
      tickMessage := (s.scheduledEvents.map (s.retuned f).regrid).head?.map
        Tick.globalSchedulingTime } := by
  have hr := h.toRunning
  obtain ⟨hcount, hpending⟩ := hu
  have hlast : (s.retuned f).lastTick = s.lastTick + s.elapsed := congrArg (s.lastTick + ·) hcount
  have hticks : ∀ e ∈ s.scheduledEvents, (s.retuned f).lastTick ≤ e.tick := by
    intro e he
    rw [hlast]
    exact (h.grid e he).count_le hr
  refine setFrequency_eq hr hf hticks fun e he => ?_
  have hge := h.grid e he
  obtain hnil | rfl | h0 := hpending
  · rw [hnil] at he
    cases he
  · -- the same frequency, the same grid
    have hset := hge.settled hr
    show s.time ≤ s.settled.timeOfLastTick + (e.tick - s.settled.lastTick : ℕ) / s.settled.frequency
    rw [← hset.scheduled]
    exact hge.ahead
  · -- no tick since the last update, and none until the next one
    have htick := hge.tick
    show s.time ≤ s.timeOfLastTick + ⌊(s.time - s.timeOfLastTick) * f⌋₊ / f +
      (e.tick - (s.lastTick + ⌊(s.time - s.timeOfLastTick) * f⌋₊) : ℕ) / f
    rw [hcount, h0, Nat.cast_zero, zero_div, add_zero, Nat.add_zero]
    obtain heq | hlt := Nat.eq_or_lt_of_le htick
    · have hahead := hge.ahead
      rw [hge.scheduled, ← heq, Nat.sub_self, Nat.cast_zero, zero_div] at hahead
      rw [← heq, Nat.sub_self, Nat.cast_zero, zero_div]
      exact hahead
    · have hfrac : (s.time - s.timeOfLastTick) * f < 1 := by
        rw [h0] at hcount
        exact Nat.floor_eq_zero.mp hcount
      have hone : (1 : ℚ) ≤ (e.tick - s.lastTick : ℕ) := by
        exact_mod_cast (by omega : 1 ≤ e.tick - s.lastTick)
      have h1 := (lt_div_iff₀ hf).mpr hfrac
      have h2 := div_le_div_of_nonneg_right hone (le_of_lt hf)
      linarith

/-- the distances ahead are new intervals from the last tick exactly if that is not moved -/
theorem regrid_eq_iff (h : s.Coherent) (hf : 0 < f)
    (hcount : ⌊(s.time - s.timeOfLastTick) * f⌋₊ = s.elapsed) :
    (s.scheduledEvents.map (s.retuned f).regrid = s.scheduledEvents.map fun e => { e with
      globalSchedulingTime := s.settled.timeOfLastTick +
        (e.tick - (s.lastTick + s.elapsed) : ℕ) * (1 / f) }) ↔
    (s.scheduledEvents = [] ∨ f = s.frequency ∨ s.elapsed = 0) := by
  have hmoved : (s.retuned f).timeOfLastTick = s.settled.timeOfLastTick ↔
      (f = s.frequency ∨ s.elapsed = 0) := by
    show s.timeOfLastTick + ⌊(s.time - s.timeOfLastTick) * f⌋₊ / f =
      s.timeOfLastTick + s.elapsed / s.frequency ↔ _
    rw [hcount, add_right_inj, div_eq_div_iff (ne_of_gt hf) (ne_of_gt h.frequency)]
    constructor
    · intro heq
      obtain heq | hz := mul_eq_mul_left_iff.mp heq
      · exact .inl heq.symm
      · exact .inr (Nat.cast_eq_zero.mp hz)
    · rintro (rfl | hz)
      · rfl
      · rw [hz, Nat.cast_zero, zero_mul, zero_mul]
  rw [List.map_inj_left]
  have heach : ∀ e : Tick, ((s.retuned f).regrid e = { e with
      globalSchedulingTime := s.settled.timeOfLastTick +
        (e.tick - (s.lastTick + s.elapsed) : ℕ) * (1 / f) }) ↔
      (s.retuned f).timeOfLastTick = s.settled.timeOfLastTick := by
    intro e
    have htime : ((s.retuned f).regrid e).globalSchedulingTime =
        (s.retuned f).timeOfLastTick + (e.tick - (s.lastTick + s.elapsed) : ℕ) * (1 / f) := by
      show _ + (e.tick - (s.lastTick + ⌊(s.time - s.timeOfLastTick) * f⌋₊) : ℕ) / f = _
      rw [hcount, mul_one_div]
    constructor
    · intro heq
      have htimes := congrArg Tick.globalSchedulingTime heq
      rw [htime] at htimes
      exact add_right_cancel htimes
    · intro heq
      rw [← heq, ← htime]
      rfl
  cases hq : s.scheduledEvents with
  | nil => exact iff_of_true nofun (.inl rfl)
  | cons e es =>
    constructor
    · intro hall
      exact .inr (hmoved.mp ((heach e).mp (hall e List.mem_cons_self)))
    · rintro (hnil | hor)
      · cases hnil
      · intro x _
        exact (heach x).mpr (hmoved.mpr hor)

theorem keepsPast_iff_unaffected (h : s.Coherent) (hf : 0 < f) :
    s.KeepsPast f ↔ s.Unaffected f := by
  have hr := h.toRunning
  obtain ⟨hret, h0⟩ := running_retuned hr hf
  have hafter : ∀ s', s' = { s.retuned f with
      scheduledEvents := s.scheduledEvents.map (s.retuned f).regrid
      tickMessage := (s.scheduledEvents.map (s.retuned f).regrid).head?.map
        Tick.globalSchedulingTime } →
      s'.updateAndGetTickCount = .ok ((s.retuned f).lastTick, s'.settled) := by
    intro s' hs'
    have hrun : s'.Running := by
      rw [hs']
      exact ⟨hret.1, hret.2⟩
    have helapsed : s'.elapsed = 0 := by
      rw [hs']
      exact h0
    rw [updateAndGetTickCount_eq hrun, helapsed, hs']
    rfl
  constructor
  · rintro ⟨count, before, s', after, hb, hs, ha, hq⟩
    rw [updateAndGetTickCount_eq hr] at hb
    cases hb
    obtain ⟨hticks, _⟩ := setFrequency_ok hr hf hs
    rw [setFrequency_eq hr hf hticks (setFrequency_ahead h hf hs)] at hs
    cases hs
    rw [hafter _ rfl] at ha
    have hcount : (s.retuned f).lastTick = s.lastTick + s.elapsed :=
      congrArg Prod.fst (Except.ok.inj ha)
    have hfloor : ⌊(s.time - s.timeOfLastTick) * f⌋₊ = s.elapsed := Nat.add_left_cancel hcount
    exact ⟨hfloor, (regrid_eq_iff h hf hfloor).mp hq⟩
  · intro hu
    have hcount : (s.retuned f).lastTick = s.lastTick + s.elapsed := congrArg (s.lastTick + ·) hu.1
    have ha := hafter _ rfl
    rw [hcount] at ha
    exact ⟨_, _, _, _, updateAndGetTickCount_eq hr, setFrequency_unaffected h hf hu, ha,
      (regrid_eq_iff h hf hu.1).mpr hu.2⟩

/-- **The past is kept exactly when it is unaffected**, in every state that is reached. -/
theorem keepsPast_iff {f0 : ℚ} {es : List OscillatorEvent} {s0 : Oscillator}
    (h0 : initializeOscillator f0 = .ok s0) (hp : ∀ e ∈ es, Positive e)
    (hr : run step s0 es = .ok s) (hf : 0 < f) : s.KeepsPast f ↔ s.Unaffected f :=
  keepsPast_iff_unaffected (coherent_run h0 hp hr) hf

/-- an event is pending when the frequency is halved right after a tick was counted -/
theorem keepsPast_iff_afterTick : ∃ s0 s, initializeOscillator 2 = .ok s0 ∧
    run step s0 [.subscribeTick 7 2 0, .advance (3 / 4), .updateAndGetTickCount] = .ok s ∧
    (s.KeepsPast 1 ↔ s.Unaffected 1) ∧ s.Unaffected 1 := by
  obtain ⟨s0, h0, s, hr, hu⟩ : ∃ s0, initializeOscillator 2 = .ok s0 ∧ ∃ s,
      run step s0 [.subscribeTick 7 2 0, .advance (3 / 4), .updateAndGetTickCount] = .ok s ∧
        s.Unaffected 1 := ⟨_, rfl, exists_of_any (by decide +kernel)⟩
  exact ⟨s0, s, h0, hr, keepsPast_iff h0 (by decide +kernel) hr (by decide +kernel), hu⟩

/-- one tick is counted before and six after a quarter of the interval, and between two ticks a
pending event falls behind the count -/
theorem past_rewritten :
    (∃ s0 s, initializeOscillator 1 = .ok s0 ∧ run step s0 [.advance (3 / 2)] = .ok s ∧
      ¬s.KeepsPast 4 ∧ Prod.fst <$> s.updateAndGetTickCount = .ok 1 ∧
      Prod.fst <$> (s.setFrequency 4 >>= updateAndGetTickCount) = .ok 6) ∧
    ∃ s0 s, initializeOscillator 1 = .ok s0 ∧
      run step s0 [.subscribeTick 7 2 0, .advance (3 / 2), .updateAndGetTickCount] = .ok s ∧
      s.setFrequency 4 = .error (.assertion "tick >= lastTick") := by
  constructor
  · obtain ⟨s, hr, h1, h2⟩ : ∃ s, run step ⟨0, false, 1, 0, 0, [], none, 0, [], [], []⟩
        [.advance (3 / 2)] = .ok s ∧ Prod.fst <$> s.updateAndGetTickCount = .ok 1 ∧
        Prod.fst <$> (s.setFrequency 4 >>= updateAndGetTickCount) = .ok 6 :=
      exists_of_any (by decide +kernel)
    refine ⟨_, s, rfl, hr, ?_, h1, h2⟩
    rintro ⟨count, before, s', after, hb, hs, ha, _⟩
    rw [hb] at h1
    rw [hs] at h2
    change Except.ok count = _ at h1
    change Prod.fst <$> s'.updateAndGetTickCount = _ at h2
    rw [ha] at h2
    cases h1
    cases h2
  · obtain ⟨s, hr, he⟩ : ∃ s, run step ⟨0, false, 1, 0, 0, [], none, 0, [], [], []⟩
        [.subscribeTick 7 2 0, .advance (3 / 2), .updateAndGetTickCount] = .ok s ∧
        errorOf (s.setFrequency 4) = some (.assertion "tick >= lastTick") :=
      exists_of_any (by decide +kernel)
    exact ⟨_, s, rfl, hr, eq_error_of he⟩

end Oscillator
end Nesting
