import Nesting.Clock.Coherent
import Nesting.Clock.RealtimeClock

/-!
# Local time is continuous

* `SameCount`     the calls of the oscillator that leave the count and the ticks where they are;
* `IdealClock`    a clock that adds up its ticks at the rates that are in force, and knows nothing of
                  reads;
* `ideal`         the ideal clock that a clock stands for;
* `Quiet`         no tick is unread when the configuration changes;
* `step_ideal`    the steps are those of the ideal clock;
* `local_time_continuous`  **the clock shows the ideal time.**
-/

set_option linter.unusedVariables false

namespace Nesting

open Lib

namespace Oscillator

variable {s s' s'' : Oscillator}

/-! ## the count does not change -/

/-- the same ticks are counted, at the same times -/
structure SameCount (s s' : Oscillator) : Prop where
  time : s'.time = s.time
  frequency : s'.frequency = s.frequency
  count : s'.lastTick + s'.elapsed = s.lastTick + s.elapsed
  phase : s'.settled.timeOfLastTick = s.settled.timeOfLastTick
  later : s.lastTick ≤ s'.lastTick

theorem SameCount.trans (h : SameCount s s') (h' : SameCount s' s'') : SameCount s s'' :=
  ⟨h'.time.trans h.time, h'.frequency.trans h.frequency, h'.count.trans h.count,
    h'.phase.trans h.phase, le_trans h.later h'.later⟩

/-- a state that differs in its events -/
theorem SameCount.of_eq (ht : s'.time = s.time) (hf : s'.frequency = s.frequency)
    (hl : s'.lastTick = s.lastTick) (hp : s'.timeOfLastTick = s.timeOfLastTick) :
    SameCount s s' := by
  have he : s'.elapsed = s.elapsed := by
    unfold elapsed
    rw [ht, hf, hp]
  refine ⟨ht, hf, ?_, ?_, le_of_eq hl.symm⟩
  · rw [hl, he]
  · show s'.timeOfLastTick + s'.elapsed / s'.frequency = s.timeOfLastTick + s.elapsed / s.frequency
    rw [he, hf, hp]

theorem sameCount_settled (h : s.Running) : SameCount s s.settled := by
  refine ⟨rfl, rfl, ?_, ?_, Nat.le_add_right _ _⟩
  · rw [settled_elapsed h]
    rfl
  · rw [settled_settled h]

/-- a state that differs in its events, with the ticks counted -/
theorem SameCount.of_settled (h : s.Running) (ht : s'.time = s.time)
    (hf : s'.frequency = s.frequency) (hl : s'.lastTick = s.settled.lastTick)
    (hp : s'.timeOfLastTick = s.settled.timeOfLastTick) : SameCount s s' :=
  (sameCount_settled h).trans (.of_eq ht hf hl hp)

theorem sameCount_scheduleNextTick (hs : s.scheduleNextTick = .ok s') (hr : s.Running)
    (hg : ∀ e ∈ s.scheduledEvents, s.OnGrid e) : SameCount s s' := by
  rw [scheduleNextTick_eq hr hg] at hs
  cases hs
  split
  · exact .of_eq rfl rfl rfl rfl
  · exact .of_settled hr rfl rfl rfl rfl

theorem sameCount_removeIf {p : Tick → Bool} (h : s.Coherent) (hs : s.removeIf p = .ok s') :
    SameCount s s' := by
  have hkept : SameCount s { s with
      scheduledEvents := s.scheduledEvents.filter fun e => !p e
      unsubscribed := s.unsubscribed ++ s.scheduledEvents.filter p } := .of_eq rfl rfl rfl rfl
  refine hkept.trans (sameCount_scheduleNextTick hs ⟨h.frequency, h.past⟩ fun x hx => ?_)
  have hge := h.grid x (List.mem_of_mem_filter hx)
  exact ⟨hge.1, hge.2, hge.3⟩

theorem sameCount_unsubscribeTick {listener tick kind : Nat} (h : s.Coherent)
    (hs : s.unsubscribeTick listener tick kind = .ok s') : s'.Coherent ∧ SameCount s s' := by
  rw [unsubscribeTick_eq h] at hs
  exact ⟨(coherent_removeIf h hs).1, sameCount_removeIf h hs⟩

theorem sameCount_subscribeTick {listener idleTicks kind : Nat} {e : Tick} (h : s.Coherent)
    (hs : s.subscribeTick listener idleTicks kind = .ok (e, s')) : SameCount s s' := by
  rw [subscribeTick_eq h listener kind (subscribeTick_timely h hs)] at hs
  split at hs
  · cases hs
    exact .of_settled h.toRunning rfl rfl rfl rfl
  · cases hs
    exact .of_settled h.toRunning rfl rfl rfl rfl

theorem sameCount_handleMessage {e : Tick} (h : s.Coherent) (hn : s.tickEventNow = false)
    (hm : s.tickMessage = some s.time) (hs : s.handleMessage = .ok (e, s')) : SameCount s s' := by
  obtain ⟨e0, rest, hq, ht⟩ := due_first h hn hm
  rw [handleMessage_eq h hq ht] at hs
  cases hs
  exact .of_settled h.toRunning rfl rfl rfl rfl

theorem sameCount_handled (h : s.Coherent) (hs : s.handled = .ok s') : SameCount s s' := by
  obtain ⟨m, hm, hs⟩ := bind_ok.mp hs
  cases hs
  exact (sameCount_scheduleNextTick hm h.toRunning h.grid).trans (.of_eq rfl rfl rfl rfl)

/-- the calls of other modules -/
theorem sameCount_foreign {e : OscillatorEvent} (h : s.Coherent) (he : RealtimeClock.Foreign e)
    (hs : s.call e = .ok s') : s'.Coherent ∧ SameCount s s' := by
  cases e with
  | advance t => exact absurd he id
  | handleMessage => exact absurd he id
  | handled => exact absurd he id
  | setFrequency newFrequency => exact absurd he id
  | updateAndGetTickCount =>
    obtain ⟨⟨n, m⟩, hm, rfl⟩ := map_ok.mp hs
    rw [updateAndGetTickCount_eq h.toRunning] at hm
    cases hm
    exact ⟨h.settled, sameCount_settled h.toRunning⟩
  | subscribeTick listener idleTicks kind =>
    obtain ⟨⟨x, m⟩, hm, rfl⟩ := map_ok.mp hs
    exact ⟨(coherent_subscribeTick h hm).1, sameCount_subscribeTick h hm⟩
  | unsubscribeTick listener tick kind => exact sameCount_unsubscribeTick h hs
  | unsubscribeTicksOfKind listener kind =>
    exact ⟨(coherent_removeIf h hs).1, sameCount_removeIf h hs⟩
  | unsubscribeTicks listener => exact ⟨(coherent_removeIf h hs).1, sameCount_removeIf h hs⟩

end Oscillator

/-! ## the ideal clock -/

/-- a clock whose ticks are counted as they go by -/
structure IdealClock where
  /-- the time of the last tick -/
  phase : SimTime
  clockRate : ℚ
  driftRate : ℚ
  localTime : SimTime

inductive Change where
  | clockRate (f : ℚ)
  | driftRate (d : ℚ)
  | localTime (t : SimTime)

namespace IdealClock

variable {c : IdealClock}

/-- the clock at the time `t` -/
def advance (c : IdealClock) (t : SimTime) : IdealClock :=
  { c with
    phase := c.phase + ⌊(t - c.phase) * c.clockRate⌋₊ / c.clockRate
    localTime := c.localTime +
      ⌊(t - c.phase) * c.clockRate⌋₊ * (1 / (c.clockRate + c.driftRate)) }

/-- a change leaves everything else as it is -/
def change (c : IdealClock) : Change → IdealClock
  | .clockRate f => { c with clockRate := f }
  | .driftRate d => { c with driftRate := d }
  | .localTime t => { c with localTime := t }

/-- changes at their times -/
def run (c : IdealClock) (changes : List (SimTime × Change)) : IdealClock :=
  changes.foldl (fun c x => (c.advance x.1).change x.2) c

/-- time may go on in two steps -/
theorem advance_advance (hf : 0 < c.clockRate) {t t' : SimTime} (htt : t ≤ t') :
    (c.advance t).advance t' = c.advance t' := by
  have hf0 := ne_of_gt hf
  have hn : ⌊(t - c.phase) * c.clockRate⌋₊ ≤ ⌊(t' - c.phase) * c.clockRate⌋₊ :=
    Nat.floor_le_floor (mul_le_mul_of_nonneg_right (by linarith) (le_of_lt hf))
  have hrest : ⌊(t' - (c.phase + ⌊(t - c.phase) * c.clockRate⌋₊ / c.clockRate)) * c.clockRate⌋₊ =
      ⌊(t' - c.phase) * c.clockRate⌋₊ - ⌊(t - c.phase) * c.clockRate⌋₊ := by
    rw [← sub_sub, sub_mul, div_mul_cancel₀ _ hf0, Nat.floor_sub_natCast]
  unfold advance
  dsimp only
  rw [hrest, Nat.cast_sub hn, IdealClock.mk.injEq]
  refine ⟨?_, rfl, rfl, ?_⟩
  · rw [sub_div]
    ring
  · ring

end IdealClock

namespace RealtimeClock

variable {s s' s'' : RealtimeClock}

/-- the local time with all ticks read -/
def shown (s : RealtimeClock) : SimTime :=
  s.localTime + (s.oscillator.lastTick + s.oscillator.elapsed - s.lastTick : ℕ) * (1 / s.rate)

def ideal (s : RealtimeClock) : IdealClock :=
  ⟨s.oscillator.settled.timeOfLastTick, s.oscillator.frequency, s.driftRate, s.shown⟩

/-- the clock does not run ahead of a coherent oscillator -/
structure Sound (s : RealtimeClock) : Prop where
  coherent : s.oscillator.Coherent
  behind : s.lastTick ≤ s.oscillator.lastTick

/-- an ideal clock has no tick left to count -/
theorem Sound.ideal_advance (h : s.Sound) : s.ideal.advance s.oscillator.time = s.ideal := by
  have h0 : ⌊(s.oscillator.time - s.oscillator.settled.timeOfLastTick) *
      s.oscillator.frequency⌋₊ = 0 := Oscillator.settled_elapsed h.coherent.toRunning
  unfold IdealClock.advance ideal
  dsimp only
  rw [h0, Nat.cast_zero, zero_div, add_zero, zero_mul, add_zero]

/-! ## steps that do not show -/

/-- nothing happens to the ideal clock -/
structure Same (s s' : RealtimeClock) : Prop where
  sound : s'.Sound
  time : s'.oscillator.time = s.oscillator.time
  ideal : s'.ideal = s.ideal

theorem Same.trans (h : Same s s') (h' : Same s' s'') : Same s s'' :=
  ⟨h'.sound, h'.time.trans h.time, h'.ideal.trans h.ideal⟩

theorem same_oscillator (h : s.Sound) {o : Oscillator} (hc : o.Coherent)
    (ho : s.oscillator.SameCount o) : Same s { s with oscillator := o } := by
  refine ⟨⟨hc, le_trans h.behind ho.later⟩, ho.time, ?_⟩
  unfold RealtimeClock.ideal shown rate
  dsimp only
  rw [ho.phase, ho.frequency, ho.count]

/-- reading the time does not change it -/
theorem updateAndGetLocalTime_ok {t : SimTime} (hs : s.updateAndGetLocalTime = .ok (t, s'))
    (h : s.Sound) :
    t = s.shown ∧ s.rate ≠ 0 ∧ Same s s' ∧ s'.rate = s.rate := by
  have hr := h.coherent.toRunning
  obtain ⟨_, hu, hs⟩ := bind_ok.mp hs
  rw [Oscillator.updateAndGetTickCount_eq hr] at hu
  cases hu
  dsimp only at hs
  have hle : s.lastTick ≤ s.oscillator.lastTick + s.oscillator.elapsed :=
    le_trans h.behind (Nat.le_add_right _ _)
  rw [if_neg (not_lt.mpr hle)] at hs
  obtain ⟨inc, hi, hs⟩ := bind_ok.mp hs
  unfold timeIncrementPerTick at hi
  split at hi
  · cases hi
  · rename_i hrate
    cases hi
    cases hs
    refine ⟨rfl, hrate, ⟨⟨h.coherent.settled, ?_⟩, rfl, ?_⟩, rfl⟩
    · show s.lastTick + (s.oscillator.lastTick + s.oscillator.elapsed - s.lastTick) ≤ _
      rw [Nat.add_sub_cancel' hle]
      exact le_refl _
    · unfold RealtimeClock.ideal
      rw [IdealClock.mk.injEq]
      refine ⟨?_, rfl, rfl, ?_⟩
      · rw [Oscillator.settled_settled hr]
      · show s.shown + (s.oscillator.settled.lastTick + s.oscillator.settled.elapsed -
          (s.lastTick + (s.oscillator.lastTick + s.oscillator.elapsed - s.lastTick)) : ℕ) *
            (1 / s.rate) = s.shown
        rw [Oscillator.settled_elapsed hr, Nat.add_sub_cancel' hle]
        show s.shown + ((s.oscillator.lastTick + s.oscillator.elapsed) + 0 -
          (s.oscillator.lastTick + s.oscillator.elapsed) : ℕ) * (1 / s.rate) = s.shown
        rw [Nat.add_zero, Nat.sub_self, Nat.cast_zero, zero_mul, add_zero]

theorem updateAndGetLocalTime_total (h : s.Sound) (hrate : s.rate ≠ 0) :
    Prod.fst <$> s.updateAndGetLocalTime = .ok s.shown := by
  have hle : s.lastTick ≤ s.oscillator.lastTick + s.oscillator.elapsed :=
    le_trans h.behind (Nat.le_add_right _ _)
  unfold updateAndGetLocalTime
  rw [Oscillator.updateAndGetTickCount_eq h.coherent.toRunning]
  show Prod.fst <$> (if _ then _ else _) = _
  rw [if_neg (not_lt.mpr hle)]
  unfold timeIncrementPerTick
  rw [if_neg hrate]
  rfl

theorem cancelNextTick_ok (h : s.Sound) (hs : s.cancelNextTick = .ok s') : Same s s' := by
  unfold cancelNextTick at hs
  split at hs
  · cases hs
    exact ⟨h, rfl, rfl⟩
  · obtain ⟨o, ho, hs⟩ := bind_ok.mp hs
    cases hs
    obtain ⟨hc, hsame⟩ := Oscillator.sameCount_unsubscribeTick h.coherent ho
    obtain ⟨h1, h2, h3⟩ := same_oscillator h hc hsame
    exact ⟨⟨h1.1, h1.2⟩, h2, h3⟩

theorem scheduleNextTimestamp_ok (hs : s.scheduleNextTimestamp = .ok s') (h : s.Sound) :
    Same s s' := by
  obtain ⟨m, hm, hs⟩ := bind_ok.mp hs
  have hsame := cancelNextTick_ok h hm
  dsimp only at hs
  split at hs
  · cases hs
    exact hsame
  · split at hs
    · cases hs
      exact hsame
    · obtain ⟨⟨now, m'⟩, hu, hs⟩ := bind_ok.mp hs
      obtain ⟨_, _, hsame', _⟩ := updateAndGetLocalTime_ok hu hsame.sound
      obtain ⟨_, _, hs⟩ := bind_ok.mp hs
      obtain ⟨_, _, hs⟩ := bind_ok.mp hs
      obtain ⟨⟨tick, o⟩, ho, hs⟩ := bind_ok.mp hs
      cases hs
      obtain ⟨h1, h2, h3⟩ := same_oscillator hsame'.sound
        (Oscillator.coherent_subscribeTick hsame'.sound.coherent ho).1
        (Oscillator.sameCount_subscribeTick hsame'.sound.coherent ho)
      exact hsame.trans (hsame'.trans ⟨⟨h1.1, h1.2⟩, h2, h3⟩)

theorem subscribeTimestamp_ok {listener kind : Nat} {eventTime : SimTime} {x : Timestamp}
    (h : s.Sound) (hs : s.subscribeTimestamp listener eventTime kind = .ok (x, s')) : Same s s' := by
  unfold subscribeTimestamp at hs
  dsimp only at hs
  split at hs
  · obtain ⟨m, hm, hs⟩ := bind_ok.mp hs
    cases hs
    obtain ⟨h1, h2, h3⟩ := scheduleNextTimestamp_ok hm ⟨h.1, h.2⟩
    exact ⟨h1, h2, h3⟩
  · obtain ⟨m, hm, hs⟩ := bind_ok.mp hs
    cases hs
    obtain ⟨h1, h2, h3⟩ := scheduleNextTimestamp_ok hm ⟨h.1, h.2⟩
    exact ⟨h1, h2, h3⟩

theorem subscribeDelta_ok {listener kind : Nat} {delta : SimTime} {x : Timestamp}
    (h : s.Sound) (hs : s.subscribeDelta listener delta kind = .ok (x, s')) : Same s s' := by
  obtain ⟨⟨t, m⟩, hm, hs⟩ := bind_ok.mp hs
  obtain ⟨_, _, hsame, _⟩ := updateAndGetLocalTime_ok hm h
  exact hsame.trans (subscribeTimestamp_ok hsame.sound hs)

theorem unsubscribeTimestamp_ok {listener kind : Nat} {localTime : SimTime} (h : s.Sound)
    (hs : s.unsubscribeTimestamp listener localTime kind = .ok s') : Same s s' := by
  obtain ⟨h1, h2, h3⟩ := scheduleNextTimestamp_ok hs ⟨h.1, h.2⟩
  exact ⟨h1, h2, h3⟩

theorem fastForward_ok (h : s.Sound) (hs : s.fastForward = .ok s') : Same s s' := by
  unfold fastForward at hs
  split at hs
  · cases hs
  · split at hs
    · cases hs
    · split at hs
      · cases hs
        exact ⟨⟨h.1, h.2⟩, rfl, rfl⟩
      · split at hs
        · cases hs
        · cases hs
          exact ⟨⟨h.1, h.2⟩, rfl, rfl⟩

theorem onTick_ok (h : s.Sound) (hs : s.onTick = .ok s') : Same s s' := by
  unfold onTick at hs
  split at hs
  · cases hs
  · obtain ⟨_, _, hs⟩ := bind_ok.mp hs
    obtain ⟨⟨t, m⟩, hm, hs⟩ := bind_ok.mp hs
    obtain ⟨m', hm', hs⟩ := bind_ok.mp hs
    cases hs
    obtain ⟨_, _, hsame, _⟩ := updateAndGetLocalTime_ok hm ⟨h.1, h.2⟩
    obtain ⟨h1, h2, h3⟩ := hsame.trans (scheduleNextTimestamp_ok hm' hsame.sound)
    exact ⟨⟨h1.1, h1.2⟩, h2, h3⟩

theorem handleMessage_ok (h : s.Sound) (hn : s.oscillator.tickEventNow = false)
    (hmsg : s.oscillator.tickMessage = some s.oscillator.time) (hs : s.handleMessage = .ok s') :
    Same s s' := by
  obtain ⟨⟨tick, o⟩, ho, hs⟩ := bind_ok.mp hs
  have hsame := same_oscillator h (Oscillator.coherent_handleMessage h.coherent hn hmsg ho)
    (Oscillator.sameCount_handleMessage h.coherent hn hmsg ho)
  dsimp only at hs
  split at hs
  · exact hsame.trans (onTick_ok hsame.sound hs)
  · cases hs
    exact hsame

theorem handled_ok (h : s.Sound) (hs : s.handled = .ok s') : Same s s' := by
  obtain ⟨o, ho, hs⟩ := bind_ok.mp hs
  cases hs
  exact same_oscillator h (Oscillator.coherent_handled h.coherent ho).1
    (Oscillator.sameCount_handled h.coherent ho)

/-! ## steps that show -/

/-- the ideal clock, counted on from the last update of the oscillator -/
theorem Sound.ideal_eq (h : s.Sound) : s.ideal =
    (IdealClock.mk s.oscillator.timeOfLastTick s.oscillator.frequency s.driftRate
      (s.localTime + (s.oscillator.lastTick - s.lastTick : ℕ) * (1 / s.rate))).advance
        s.oscillator.time := by
  have hcount : s.oscillator.lastTick + s.oscillator.elapsed - s.lastTick =
      s.oscillator.lastTick - s.lastTick + s.oscillator.elapsed := by
    have := h.behind
    omega
  refine congrArg (IdealClock.mk s.oscillator.settled.timeOfLastTick s.oscillator.frequency
    s.driftRate) ?_
  show s.localTime + (s.oscillator.lastTick + s.oscillator.elapsed - s.lastTick : ℕ) * (1 / s.rate) =
    s.localTime + (s.oscillator.lastTick - s.lastTick : ℕ) * (1 / s.rate) +
      s.oscillator.elapsed * (1 / s.rate)
  rw [hcount, Nat.cast_add]
  ring

theorem advance_ok {t : SimTime} (h : s.Sound) (ht : s.oscillator.CanAdvance t) :
    { s with oscillator := { s.oscillator with time := t } }.Sound ∧
    { s with oscillator := { s.oscillator with time := t } }.ideal = s.ideal.advance t := by
  have hsound : { s with oscillator := { s.oscillator with time := t } }.Sound :=
    ⟨Oscillator.coherent_advance h.coherent ht, h.behind⟩
  refine ⟨hsound, ?_⟩
  rw [h.ideal_eq, IdealClock.advance_advance h.coherent.frequency ht.2.1]
  exact hsound.ideal_eq

/-- the time that is set is shown if no tick is unread -/
theorem setLocalTime_ok {t : SimTime} (h : s.Sound)
    (hread : s.lastTick = s.oscillator.lastTick + s.oscillator.elapsed) :
    (s.setLocalTime t).Sound ∧ (s.setLocalTime t).oscillator = s.oscillator ∧
      (s.setLocalTime t).ideal = s.ideal.change (.localTime t) := by
  have hzero : t + (s.oscillator.lastTick + s.oscillator.elapsed - s.lastTick : ℕ) * (1 / s.rate) =
      t := by
    rw [hread, Nat.sub_self, Nat.cast_zero, zero_mul, add_zero]
  unfold setLocalTime
  split
  · refine ⟨⟨h.1, h.2⟩, rfl, ?_⟩
    exact congrArg (IdealClock.mk s.oscillator.settled.timeOfLastTick s.oscillator.frequency
      s.driftRate) hzero
  · refine ⟨⟨h.1, h.2⟩, rfl, ?_⟩
    exact congrArg (IdealClock.mk s.oscillator.settled.timeOfLastTick s.oscillator.frequency
      s.driftRate) hzero

theorem setDriftRate_ok {d : ℚ} (h : s.Sound)
    (hread : d = s.driftRate ∨ s.lastTick = s.oscillator.lastTick + s.oscillator.elapsed)
    (hs : s.setDriftRate d = .ok s') :
    s'.Sound ∧ s'.oscillator.time = s.oscillator.time ∧ s'.ideal = s.ideal.change (.driftRate d) := by
  obtain ⟨h1, h2, h3⟩ := scheduleNextTimestamp_ok hs ⟨h.1, h.2⟩
  refine ⟨h1, h2, h3.trans ?_⟩
  refine congrArg (IdealClock.mk s.oscillator.settled.timeOfLastTick s.oscillator.frequency d) ?_
  obtain rfl | hread := hread
  · rfl
  · unfold ideal shown
    dsimp only
    rw [hread, Nat.sub_self, Nat.cast_zero, zero_mul, zero_mul]

/-- the frequency changes at the last tick, or stays -/
def AtLastTick (s : RealtimeClock) (f : ℚ) : Prop :=
  f = s.oscillator.frequency ∨ s.oscillator.elapsed = 0 ∧ s.lastTick = s.oscillator.lastTick ∧
    (s.oscillator.time - s.oscillator.timeOfLastTick) * f < 1

instance (s : RealtimeClock) (f : ℚ) : Decidable (s.AtLastTick f) :=
  inferInstanceAs (Decidable (_ ∨ _ ∧ _ ∧ _))

theorem setClockRate_ok {f : ℚ} (h : s.Sound) (hf : 0 < f) (hread : s.AtLastTick f)
    (hs : s.setClockRate f = .ok s') :
    s'.Sound ∧ s'.oscillator.time = s.oscillator.time ∧ s'.ideal = s.ideal.change (.clockRate f) := by
  obtain ⟨o, ho, hs⟩ := bind_ok.mp hs
  have hr := h.coherent.toRunning
  have hc := (Oscillator.coherent_setFrequency h.coherent hf ho).1
  obtain ⟨htime, hfreq, hlast, hphase⟩ := Oscillator.setFrequency_left h.coherent hf ho
  have hset : { s with oscillator := o }.Sound ∧
      { s with oscillator := o }.ideal = s.ideal.change (.clockRate f) := by
    obtain rfl | ⟨h0, hl, hfrac⟩ := hread
    · have hsame := same_oscillator h hc (.of_settled hr htime hfreq hlast hphase)
      exact ⟨hsame.sound, hsame.ideal⟩
    · have hfloor : ⌊(s.oscillator.time - s.oscillator.timeOfLastTick) * f⌋₊ = 0 :=
        Nat.floor_eq_zero.mpr hfrac
      have hlast' : o.lastTick = s.oscillator.lastTick := by
        rw [hlast]
        show s.oscillator.lastTick + ⌊_⌋₊ = _
        rw [hfloor, Nat.add_zero]
      have hphase' : o.timeOfLastTick = s.oscillator.timeOfLastTick := by
        rw [hphase]
        show s.oscillator.timeOfLastTick + ⌊_⌋₊ / f = _
        rw [hfloor, Nat.cast_zero, zero_div, add_zero]
      have helapsed : o.elapsed = 0 := by
        unfold Oscillator.elapsed
        rw [htime, hphase', hfreq, hfloor]
      refine ⟨⟨hc, ?_⟩, ?_⟩
      · show s.lastTick ≤ o.lastTick
        rw [hlast', hl]
      · show IdealClock.mk o.settled.timeOfLastTick o.frequency s.driftRate (s.localTime +
          (o.lastTick + o.elapsed - s.lastTick : ℕ) * (1 / (o.frequency + s.driftRate))) =
          IdealClock.mk s.oscillator.settled.timeOfLastTick f s.driftRate (s.localTime +
          (s.oscillator.lastTick + s.oscillator.elapsed - s.lastTick : ℕ) * (1 / s.rate))
        rw [Oscillator.settled_of_elapsed helapsed, Oscillator.settled_of_elapsed h0, hphase',
          hlast', helapsed, h0, hl, Nat.add_zero, Nat.sub_self, hfreq, Nat.cast_zero, zero_mul,
          zero_mul]
  obtain ⟨h1, h2, h3⟩ := scheduleNextTimestamp_ok hs hset.1
  exact ⟨h1, h2.trans htime, h3.trans hset.2⟩

/-! ## runs -/

/-- the change of the configuration that an event makes -/
def changeOf : ClockEvent → Option Change
  | .setClockRate f => some (.clockRate f)
  | .setDriftRate d => some (.driftRate d)
  | .setLocalTime t => some (.localTime t)
  | _ => none

def timeAfter (now : SimTime) : ClockEvent → SimTime
  | .advance t => t
  | _ => now

/-- the changes of a run, each at its time; nothing else of the run is left -/
def changes : SimTime → List ClockEvent → List (SimTime × Change)
  | _, [] => []
  | now, e :: es => ((changeOf e).map fun x => (now, x)).toList ++ changes (timeAfter now e) es

/-- an ideal clock is changed, or goes on -/
def idealStep (now : SimTime) (c : IdealClock) (e : ClockEvent) : IdealClock :=
  match changeOf e with
  | some x => c.change x
  | none => c.advance (timeAfter now e)

/-- no tick is unread when the configuration changes, and the rates that ticks are counted at are
positive -/
def Quiet (s : RealtimeClock) (e : ClockEvent) : Prop :=
  match e with
  | .advance t => 0 < s.rate ∨
    ⌊(t - s.oscillator.timeOfLastTick) * s.oscillator.frequency⌋₊ = s.oscillator.elapsed
  | .setClockRate f => 0 < f ∧ f + s.driftRate ≠ 0 ∧ s.AtLastTick f
  | .setDriftRate d => s.oscillator.frequency + d ≠ 0 ∧
    (d = s.driftRate ∨ s.lastTick = s.oscillator.lastTick + s.oscillator.elapsed)
  | .setLocalTime _ => s.lastTick = s.oscillator.lastTick + s.oscillator.elapsed
  | _ => True

instance (s : RealtimeClock) (e : ClockEvent) : Decidable (s.Quiet e) :=
  match e with
  | .advance _ => inferInstanceAs (Decidable (_ ∨ _))
  | .setClockRate _ => inferInstanceAs (Decidable (_ ∧ _ ∧ _))
  | .setDriftRate _ => inferInstanceAs (Decidable (_ ∧ (_ ∨ _)))
  | .setLocalTime _ => inferInstanceAs (Decidable (_ = _))
  | .handleMessage | .handled | .updateAndGetLocalTime | .subscribeTimestamp .. | .subscribeDelta .. |
    .unsubscribeTimestamp .. | .fastForward | .oscillator _ => inferInstanceAs (Decidable True)

/-- the step is that of the ideal clock -/
structure Refines (s : RealtimeClock) (e : ClockEvent) (s' : RealtimeClock) : Prop where
  sound : s'.Sound
  time : s'.oscillator.time = timeAfter s.oscillator.time e
  later : s.oscillator.time ≤ s'.oscillator.time
  ideal : s'.ideal = idealStep s.oscillator.time s.ideal e

/-- a step that does not show, and that does not change the configuration -/
theorem Same.refines {e : ClockEvent} (hs : Same s s') (h : s.Sound) (hc : changeOf e = none)
    (ht : timeAfter s.oscillator.time e = s.oscillator.time) : Refines s e s' := by
  refine ⟨hs.sound, hs.time.trans ht.symm, le_of_eq hs.time.symm, ?_⟩
  unfold idealStep
  rw [hc, ht, hs.ideal]
  exact h.ideal_advance.symm

/-- **A step is that of the ideal clock.** -/
theorem step_ideal {e : ClockEvent} (h : s.Sound) (hq : s.Quiet e) (hs : s.step e = .ok s') :
    Refines s e s' := by
  cases e with
  | advance t =>
    by_cases ht : s.oscillator.CanAdvance t ∧ s.jumps = []
    · rw [step, if_pos ht] at hs
      cases hs
      obtain ⟨h1, h2⟩ := advance_ok h ht.1
      exact ⟨h1, rfl, ht.1.2.1, h2⟩
    · rw [step, if_neg ht] at hs
      cases hs
  | handleMessage =>
    by_cases hdue : s.oscillator.tickEventNow = false ∧
        s.oscillator.tickMessage = some s.oscillator.time ∧ s.jumps = []
    · rw [step, if_pos hdue] at hs
      exact (handleMessage_ok h hdue.1 hdue.2.1 hs).refines h rfl rfl
    · rw [step, if_neg hdue] at hs
      cases hs
  | handled =>
    by_cases hn : s.oscillator.tickEventNow = true ∧ s.jumps = []
    · rw [step, if_pos hn] at hs
      exact (handled_ok h hs).refines h rfl rfl
    · rw [step, if_neg hn] at hs
      cases hs
  | updateAndGetLocalTime =>
    obtain ⟨⟨t, m⟩, hm, rfl⟩ := map_ok.mp hs
    obtain ⟨_, _, hsame, _⟩ := updateAndGetLocalTime_ok hm h
    exact hsame.refines h rfl rfl
  | subscribeTimestamp listener eventTime kind =>
    obtain ⟨⟨x, m⟩, hm, rfl⟩ := map_ok.mp hs
    exact (subscribeTimestamp_ok h hm).refines h rfl rfl
  | subscribeDelta listener delta kind =>
    obtain ⟨⟨x, m⟩, hm, rfl⟩ := map_ok.mp hs
    exact (subscribeDelta_ok h hm).refines h rfl rfl
  | unsubscribeTimestamp listener localTime kind =>
    exact (unsubscribeTimestamp_ok h hs).refines h rfl rfl
  | setLocalTime t =>
    cases hs
    obtain ⟨h1, ho, h2⟩ := setLocalTime_ok h hq
    exact ⟨h1, congrArg Oscillator.time ho, le_of_eq (congrArg Oscillator.time ho).symm, h2⟩
  | fastForward => exact (fastForward_ok h hs).refines h rfl rfl
  | setClockRate f =>
    obtain ⟨h1, ht, h2⟩ := setClockRate_ok h hq.1 hq.2.2 hs
    exact ⟨h1, ht, le_of_eq ht.symm, h2⟩
  | setDriftRate d =>
    obtain ⟨h1, ht, h2⟩ := setDriftRate_ok h hq.2 hs
    exact ⟨h1, ht, le_of_eq ht.symm, h2⟩
  | oscillator e =>
    by_cases he : Foreign e
    · rw [step, if_pos he] at hs
      obtain ⟨o, ho, hs⟩ := bind_ok.mp hs
      cases hs
      obtain ⟨hc, hsame⟩ := Oscillator.sameCount_foreign h.coherent he ho
      exact (same_oscillator h hc hsame).refines h rfl rfl
    · rw [step, if_neg he] at hs
      cases hs

/-- the rate after a step can be divided by -/
theorem rate_step {e : ClockEvent} (h : s.Sound) (hrate : s.rate ≠ 0) (hq : s.Quiet e)
    (hs : s.step e = .ok s') : s'.rate ≠ 0 := by
  have hideal := (step_ideal h hq hs).ideal
  have hrate' : s'.rate = s'.ideal.clockRate + s'.ideal.driftRate := rfl
  rw [hrate', hideal]
  cases e with
  | setClockRate f => exact hq.2.1
  | setDriftRate d => exact hq.1
  | advance _ => exact hrate
  | handleMessage => exact hrate
  | handled => exact hrate
  | updateAndGetLocalTime => exact hrate
  | subscribeTimestamp _ _ _ => exact hrate
  | subscribeDelta _ _ _ => exact hrate
  | unsubscribeTimestamp _ _ _ => exact hrate
  | setLocalTime _ => exact hrate
  | fastForward => exact hrate
  | oscillator _ => exact hrate

/-- **A run is that of the ideal clock**, from the last change on. -/
theorem run_ideal {es : List ClockEvent} {c : IdealClock} (h : s.Sound) (hrate : s.rate ≠ 0)
    (hideal : c.advance s.oscillator.time = s.ideal) (hf : 0 < c.clockRate)
    (hpast : c.phase ≤ s.oscillator.time) (hm : Meets step Quiet s es)
    (hr : Lib.run step s es = .ok s') : s'.Sound ∧ s'.rate ≠ 0 ∧
      (c.run (changes s.oscillator.time es)).advance s'.oscillator.time = s'.ideal := by
  induction es generalizing s c with
  | nil =>
    cases hr
    exact ⟨h, hrate, hideal⟩
  | cons e es ih =>
    obtain ⟨m, h1, h2⟩ := run_cons_ok.mp hr
    have href := step_ideal h hm.1 h1
    have hrate' := rate_step h hrate hm.1 h1
    rw [changes, ← href.time]
    have hm' := hm.2 m h1
    have hi := href.ideal
    unfold idealStep at hi
    cases hc : changeOf e with
    | none =>
      rw [hc] at hi
      dsimp only at hi
      rw [← href.time, ← hideal, IdealClock.advance_advance hf href.later] at hi
      exact ih href.sound hrate' hi.symm hf (le_trans hpast href.later) hm' h2
    | some x =>
      rw [hc] at hi
      dsimp only at hi
      have hcr := href.sound.coherent.toRunning
      have hstart := href.sound.ideal_advance
      have := ih href.sound hrate' hstart hcr.frequency hcr.settled.past hm' h2
      rw [hi, ← hideal] at this
      exact this

/-! ## continuity -/

/-- what `initialize` leaves -/
def started (f : ℚ) : RealtimeClock :=
  ⟨⟨0, false, f, 0, 0, [], none, 0, [], [], []⟩, 0, 0, 0, [], none, [], 0, [], [], []⟩

theorem initializeClock_ok {f : ℚ} (h : initializeClock f = .ok s) : 0 < f ∧ s = started f := by
  obtain ⟨o, ho, h⟩ := bind_ok.mp h
  obtain ⟨hf, rfl⟩ := Oscillator.initializeOscillator_ok ho
  obtain ⟨_, hu, h⟩ := bind_ok.mp h
  have h0 : (Oscillator.mk 0 false f 0 0 [] none 0 [] [] []).elapsed = 0 := by
    show ⌊((0 : ℚ) - 0) * f⌋₊ = 0
    rw [sub_zero, zero_mul, Nat.floor_zero]
  rw [Oscillator.updateAndGetTickCount_eq ⟨hf, le_refl _⟩, Oscillator.settled_of_elapsed h0, h0] at hu
  cases hu
  cases h
  exact ⟨hf, rfl⟩

/-- the local time that is read -/
def read (s : RealtimeClock) : Sim SimTime := Prod.fst <$> s.updateAndGetLocalTime

/-- the rates are changed without a jump, a time that is set is shown, and otherwise time does not go
back -/
def Continuous (s : RealtimeClock) (e : ClockEvent) (s' : RealtimeClock) : Prop :=
  match e with
  | .setClockRate _ | .setDriftRate _ => s'.read = s.read
  | .setLocalTime t => s'.read = .ok t
  | _ => ∃ t t', s.read = .ok t ∧ s'.read = .ok t' ∧ t ≤ t'

/-- ticks are added at a rate that is positive -/
theorem shown_advance {t : SimTime} (h : s.Sound) (hq : s.Quiet (.advance t)) :
    s.shown ≤ (s.ideal.advance t).localTime := by
  have hr := h.coherent.toRunning
  have hsplit : ⌊(t - s.oscillator.settled.timeOfLastTick) * s.oscillator.frequency⌋₊ =
      ⌊(t - s.oscillator.timeOfLastTick) * s.oscillator.frequency⌋₊ - s.oscillator.elapsed := by
    show ⌊(t - (s.oscillator.timeOfLastTick + s.oscillator.elapsed / s.oscillator.frequency)) *
      s.oscillator.frequency⌋₊ = _
    rw [← sub_sub, sub_mul, div_mul_cancel₀ _ (ne_of_gt hr.frequency), Nat.floor_sub_natCast]
  show s.shown ≤ s.shown + ⌊(t - s.oscillator.settled.timeOfLastTick) *
    s.oscillator.frequency⌋₊ * (1 / s.rate)
  obtain hpos | hnone := hq
  · have := mul_nonneg (Nat.cast_nonneg (α := ℚ)
      ⌊(t - s.oscillator.settled.timeOfLastTick) * s.oscillator.frequency⌋₊)
      (le_of_lt (one_div_pos.mpr hpos))
    linarith
  · rw [hsplit, hnone, Nat.sub_self, Nat.cast_zero, zero_mul, add_zero]

theorem continuous_step {e : ClockEvent} (h : s.Sound) (hrate : s.rate ≠ 0) (hq : s.Quiet e)
    (hs : s.step e = .ok s') : Continuous s e s' := by
  have href := step_ideal h hq hs
  have hread : s.read = .ok s.ideal.localTime := updateAndGetLocalTime_total h hrate
  have hread' : s'.read = .ok s'.ideal.localTime :=
    updateAndGetLocalTime_total href.sound (rate_step h hrate hq hs)
  have hsame : s'.ideal = s.ideal.advance s.oscillator.time →
      ∃ t t', s.read = .ok t ∧ s'.read = .ok t' ∧ t ≤ t' := by
    intro hi
    rw [h.ideal_advance] at hi
    exact ⟨_, _, hread, hread', le_of_eq (congrArg IdealClock.localTime hi.symm)⟩
  have hi := href.ideal
  cases e with
  | advance t =>
    refine ⟨_, _, hread, hread', ?_⟩
    rw [hi]
    exact shown_advance h hq
  | setClockRate f =>
    show s'.read = s.read
    rw [hread, hread', hi]
    rfl
  | setDriftRate d =>
    show s'.read = s.read
    rw [hread, hread', hi]
    rfl
  | setLocalTime t =>
    show s'.read = .ok t
    rw [hread', hi]
    rfl
  | handleMessage => exact hsame hi
  | handled => exact hsame hi
  | updateAndGetLocalTime => exact hsame hi
  | subscribeTimestamp _ _ _ => exact hsame hi
  | subscribeDelta _ _ _ => exact hsame hi
  | unsubscribeTimestamp _ _ _ => exact hsame hi
  | fastForward => exact hsame hi
  | oscillator _ => exact hsame hi

/-- **The clock shows the time of an ideal clock with the same changes**, whenever and however often
it was read before, and no step makes it jump. -/
theorem local_time_continuous {f : ℚ} {es : List ClockEvent} {s0 : RealtimeClock}
    (h0 : initializeClock f = .ok s0) (hm : Meets step Quiet s0 es)
    (hr : Lib.run step s0 es = .ok s) :
    s.read = .ok (((IdealClock.mk 0 f 0 0).run (changes 0 es)).advance
      s.oscillator.time).localTime ∧
    ∀ e s', s.Quiet e → s.step e = .ok s' → Continuous s e s' := by
  obtain ⟨hf, rfl⟩ := initializeClock_ok h0
  have hsound : (started f).Sound :=
    ⟨⟨⟨hf, le_refl _⟩, List.Pairwise.nil, nofun, .inl rfl⟩, le_refl _⟩
  have hrate : f + 0 ≠ 0 := by
    rw [add_zero]
    exact ne_of_gt hf
  have hstart : (IdealClock.mk 0 f 0 0).advance 0 = (started f).ideal := by
    rw [hsound.ideal_eq]
    show _ = (IdealClock.mk 0 f 0 (0 + (0 - 0 : ℕ) * (1 / (f + 0)))).advance 0
    rw [Nat.sub_self, Nat.cast_zero, zero_mul, add_zero]
  obtain ⟨h1, h2, h3⟩ := run_ideal hsound hrate hstart hf (le_refl _) hm hr
  refine ⟨?_, fun e s' hq hs => continuous_step h1 h2 hq hs⟩
  change ((IdealClock.mk 0 f 0 0).run (changes 0 es)).advance _ = _ at h3
  rw [h3]
  exact updateAndGetLocalTime_total h1 h2

/-- a clock that is read before each change; the frequency is set by the listener of a timestamp -/
def quietRun : List ClockEvent :=
  [.subscribeTimestamp 1 3 0, .advance (5 / 2), .updateAndGetLocalTime, .setDriftRate 1, .advance 4,
   .handleMessage, .setClockRate 3, .handled, .advance (13 / 3), .updateAndGetLocalTime,
   .setLocalTime 10, .fastForward, .advance 5]

theorem local_time_continuous_quietRun : ∃ s0 s, initializeClock 1 = .ok s0 ∧
    Lib.run step s0 quietRun = .ok s ∧
    s.read = .ok (((IdealClock.mk 0 1 0 0).run (changes 0 quietRun)).advance
      s.oscillator.time).localTime ∧ s.read = .ok (21 / 2) := by
  have h0 : initializeClock 1 = .ok (started 1) := by decide +kernel
  have hm : Meets step Quiet (started 1) quietRun := by decide +kernel
  obtain ⟨s, hr, ht⟩ : ∃ s, Lib.run step (started 1) quietRun = .ok s ∧ s.read = .ok (21 / 2) :=
    exists_of_any (by decide +kernel)
  exact ⟨started 1, s, h0, hr, (local_time_continuous h0 hm hr).1, ht⟩

/-- two ticks that were not read are added after the time is set, and counted at the new rate -/
theorem unread_ticks_jump : ∃ s0 s, initializeClock 1 = .ok s0 ∧
    Lib.run step s0 [.advance (5 / 2)] = .ok s ∧ s.read = .ok 2 ∧
    (∃ s', s.step (.setLocalTime 100) = .ok s' ∧ s'.read = .ok 102 ∧
      ¬Continuous s (.setLocalTime 100) s') ∧
    (∃ s', s.step (.setDriftRate 1) = .ok s' ∧ s'.read = .ok 1 ∧ ¬Continuous s (.setDriftRate 1) s') ∧
    ∃ s', s.step (.setClockRate 4) = .ok s' ∧ s'.read = .ok (5 / 2) ∧
      ¬Continuous s (.setClockRate 4) s' := by
  obtain ⟨s, hr, h2, h102, h1, h52⟩ : ∃ s, Lib.run step (started 1) [.advance (5 / 2)] = .ok s ∧
      s.read = .ok 2 ∧ (s.step (.setLocalTime 100) >>= read) = .ok 102 ∧
      (s.step (.setDriftRate 1) >>= read) = .ok 1 ∧
      (s.step (.setClockRate 4) >>= read) = .ok (5 / 2) := exists_of_any (by decide +kernel)
  obtain ⟨a, ha, hra⟩ := bind_ok.mp h102
  obtain ⟨b, hb, hrb⟩ := bind_ok.mp h1
  obtain ⟨c, hc, hrc⟩ := bind_ok.mp h52
  refine ⟨_, s, by decide +kernel, hr, h2, ⟨a, ha, hra, ?_⟩, ⟨b, hb, hrb, ?_⟩, ⟨c, hc, hrc, ?_⟩⟩
  · show ¬a.read = .ok 100
    rw [hra]
    decide +kernel
  · show ¬b.read = s.read
    rw [hrb, h2]
    decide +kernel
  · show ¬c.read = s.read
    rw [hrc, h2]
    decide +kernel

end RealtimeClock

end Nesting
