import Mathlib.Algebra.Order.Floor.Ring
import Mathlib.Algebra.Order.Floor.Semiring
import Mathlib.Tactic.FieldSimp
import Mathlib.Tactic.Linarith
import Mathlib.Tactic.Ring
import Nesting.Clock.Oscillator

/-!
# What the calls of the oscillator do

* `elapsed`, `settled`   the ticks that have gone by unread, and the state that counts them;
* `OnGrid`       an event is scheduled for its tick, and not in the past;
* `Coherent`     a queue in order, on the grid, and the self-message at its first event;
* `*_eq`         the result of a call in a coherent state;
* `coherent_*`   which is coherent again.
-/

set_option linter.unusedVariables false

namespace Nesting
namespace Oscillator

open Lib

variable {s s' : Oscillator}

/-! ## ticks that have gone by -/

/-- the ticks since the last update -/
def elapsed (s : Oscillator) : ℕ := ⌊(s.time - s.timeOfLastTick) * s.frequency⌋₊

/-- the state after an update -/
def settled (s : Oscillator) : Oscillator :=
  { s with
    lastTick := s.lastTick + s.elapsed
    timeOfLastTick := s.timeOfLastTick + s.elapsed / s.frequency }

/-- a clock that runs forward -/
structure Running (s : Oscillator) : Prop where
  frequency : 0 < s.frequency
  past : s.timeOfLastTick ≤ s.time

theorem tickInterval_eq (h : 0 < s.frequency) : s.tickInterval = .ok (1 / s.frequency) :=
  if_neg (ne_of_gt h)

theorem globalTimeFromTick_eq (h : 0 < s.frequency) {tick : Nat} (ht : s.lastTick ≤ tick) :
    s.globalTimeFromTick tick =
      .ok (s.timeOfLastTick + (tick - s.lastTick : ℕ) / s.frequency) := by
  unfold globalTimeFromTick
  rw [decide_eq_true ht, tickInterval_eq h]
  show Except.ok (s.timeOfLastTick + _ * (1 / s.frequency)) = _
  rw [mul_one_div]

theorem globalTimeFromTick_ok {tick : Nat} {t : SimTime} (h : s.globalTimeFromTick tick = .ok t) :
    s.lastTick ≤ tick := by
  obtain ⟨_, ha, _⟩ := bind_ok.mp h
  exact of_decide_eq_true (ASSERT_ok.mp ha)

theorem tickFromGlobalTime_eq (h : 0 < s.frequency) {t : SimTime} (ht : s.timeOfLastTick ≤ t) :
    s.tickFromGlobalTime t = .ok (s.lastTick + ⌊(t - s.timeOfLastTick) * s.frequency⌋₊) := by
  have hpos : 0 ≤ (t - s.timeOfLastTick) * s.frequency :=
    mul_nonneg (sub_nonneg.mpr ht) (le_of_lt h)
  unfold tickFromGlobalTime
  rw [decide_eq_true ht, tickInterval_eq h]
  show (if ⌊(t - s.timeOfLastTick) / (1 / s.frequency)⌋ < 0 then _ else _) = _
  rw [div_div_eq_mul_div, div_one, if_neg (not_lt.mpr (Int.floor_nonneg.mpr hpos)), Int.floor_toNat]
  rfl

theorem elapsed_le (h : s.Running) : s.timeOfLastTick + s.elapsed / s.frequency ≤ s.time := by
  have hfl : (s.elapsed : ℚ) ≤ (s.time - s.timeOfLastTick) * s.frequency :=
    Nat.floor_le (mul_nonneg (sub_nonneg.mpr h.past) (le_of_lt h.frequency))
  have := (div_le_iff₀ h.frequency).mpr hfl
  linarith

theorem lt_elapsed_succ (h : s.Running) :
    s.time < s.timeOfLastTick + (s.elapsed + 1) / s.frequency := by
  have hfl : (s.time - s.timeOfLastTick) * s.frequency < s.elapsed + 1 := Nat.lt_floor_add_one _
  have := (lt_div_iff₀ h.frequency).mpr hfl
  linarith

theorem Running.settled (h : s.Running) : s.settled.Running := ⟨h.frequency, elapsed_le h⟩

/-- after an update no tick is unread -/
theorem settled_elapsed (h : s.Running) : s.settled.elapsed = 0 := by
  unfold elapsed
  rw [Nat.floor_eq_zero]
  have h1 := lt_elapsed_succ h
  have h2 : s.settled.time - s.settled.timeOfLastTick < 1 / s.frequency := by
    show s.time - (s.timeOfLastTick + s.elapsed / s.frequency) < 1 / s.frequency
    rw [add_div] at h1
    linarith
  exact (lt_div_iff₀ h.frequency).mp h2

theorem settled_settled (h : s.Running) : s.settled.settled = s.settled := by
  have h0 := settled_elapsed h
  show { s.settled with
    lastTick := s.settled.lastTick + s.settled.elapsed
    timeOfLastTick := s.settled.timeOfLastTick + s.settled.elapsed / s.settled.frequency } = _
  rw [h0, Nat.cast_zero, zero_div, add_zero, add_zero]

theorem settled_of_elapsed (h : s.elapsed = 0) : s.settled = s := by
  unfold Oscillator.settled
  rw [h, Nat.cast_zero, zero_div, add_zero, add_zero]

theorem updateAndGetTickCount_eq (h : s.Running) :
    s.updateAndGetTickCount = .ok (s.lastTick + s.elapsed, s.settled) := by
  unfold updateAndGetTickCount
  rw [show s.tickFromGlobalTime s.time = .ok (s.lastTick + s.elapsed) from
    tickFromGlobalTime_eq h.frequency h.past]
  show (if s.lastTick ≠ s.lastTick + s.elapsed then _ else _) = _
  by_cases h0 : s.elapsed = 0
  · rw [if_neg (by rw [h0]; exact not_not.mpr rfl), settled_of_elapsed h0]
    rfl
  · rw [if_pos (by omega), globalTimeFromTick_eq h.frequency (Nat.le_add_right _ _),
      Nat.add_sub_cancel_left]
    have hle : s.timeOfLastTick ≤ s.timeOfLastTick + s.elapsed / s.frequency := by
      have := div_nonneg (Nat.cast_nonneg (α := ℚ) s.elapsed) (le_of_lt h.frequency)
      linarith
    have hback : ⌊(s.timeOfLastTick + s.elapsed / s.frequency - s.timeOfLastTick) *
        s.frequency⌋₊ = s.elapsed := by
      rw [add_sub_cancel_left, div_mul_cancel₀ _ (ne_of_gt h.frequency), Nat.floor_natCast]
    have htick := tickFromGlobalTime_eq h.frequency hle
    rw [hback] at htick
    show (s.tickFromGlobalTime _ >>= _) = _
    rw [htick]
    show (ASSERT (decide (_ = _)) _ >>= _) = _
    rw [decide_eq_true rfl]
    rfl

/-! ## the grid of the ticks -/

/-- the event is scheduled for its tick, which has not gone by -/
structure OnGrid (s : Oscillator) (e : Tick) : Prop where
  tick : s.lastTick ≤ e.tick
  scheduled : e.globalSchedulingTime = s.timeOfLastTick + (e.tick - s.lastTick : ℕ) / s.frequency
  ahead : s.time ≤ e.globalSchedulingTime

/-- an event that is ahead has a tick that is not yet counted -/
theorem OnGrid.count_le {e : Tick} (h : s.OnGrid e) (hr : s.Running) :
    s.lastTick + s.elapsed ≤ e.tick := by
  have hahead := h.ahead
  rw [h.scheduled] at hahead
  have hle : (s.time - s.timeOfLastTick) * s.frequency ≤ (e.tick - s.lastTick : ℕ) := by
    rw [← le_div_iff₀ hr.frequency]
    linarith
  have := Nat.floor_le_of_le hle
  have := h.tick
  unfold elapsed
  omega

theorem OnGrid.settled {e : Tick} (h : s.OnGrid e) (hr : s.Running) : s.settled.OnGrid e := by
  have hcount := h.count_le hr
  refine ⟨hcount, ?_, h.ahead⟩
  rw [h.scheduled]
  show _ = s.timeOfLastTick + s.elapsed / s.frequency +
    (e.tick - (s.lastTick + s.elapsed) : ℕ) / s.frequency
  rw [add_assoc, ← add_div, ← Nat.cast_add, show s.elapsed + (e.tick - (s.lastTick + s.elapsed)) =
    e.tick - s.lastTick by omega]

/-- on a grid events come in the order of their ticks -/
theorem OnGrid.le_of_tick_le {e e' : Tick} (h : s.OnGrid e) (h' : s.OnGrid e') (hf : 0 < s.frequency)
    (ht : e.tick ≤ e'.tick) : e.globalSchedulingTime ≤ e'.globalSchedulingTime := by
  rw [h.scheduled, h'.scheduled]
  have hcast : ((e.tick - s.lastTick : ℕ) : ℚ) ≤ (e'.tick - s.lastTick : ℕ) := by
    exact_mod_cast Nat.sub_le_sub_right ht _
  have := div_le_div_of_nonneg_right hcast (le_of_lt hf)
  linarith

/-- the self-message is scheduled for the first event -/
def AtFirst (s : Oscillator) : Prop :=
  s.tickMessage = s.scheduledEvents.head?.map Tick.globalSchedulingTime

/-- **What holds of every state.** -/
structure Coherent (s : Oscillator) : Prop extends s.Running where
  ascending : Ascending Tick.key s.scheduledEvents
  grid : ∀ e ∈ s.scheduledEvents, s.OnGrid e
  /-- once `onTick` is called the message waits for the next call or for the end of the handling -/
  message : s.AtFirst ∨ (s.tickEventNow = true ∧ s.tickMessage = none)

theorem Coherent.settled (h : s.Coherent) : s.settled.Coherent :=
  ⟨h.toRunning.settled, h.ascending, fun e he => (h.grid e he).settled h.toRunning, h.message⟩

/-! ## the calls -/

theorem scheduleNextTick_eq (hr : s.Running) (hg : ∀ e ∈ s.scheduledEvents, s.OnGrid e) :
    s.scheduleNextTick = .ok { (if s.scheduledEvents = [] then s else s.settled) with
      tickMessage := s.scheduledEvents.head?.map Tick.globalSchedulingTime } := by
  have hupd : { s with tickMessage := none }.updateAndGetTickCount =
      .ok (s.lastTick + s.elapsed, { s.settled with tickMessage := none }) :=
    updateAndGetTickCount_eq (s := { s with tickMessage := none }) ⟨hr.frequency, hr.past⟩
  unfold scheduleNextTick
  split
  · rename_i hq
    rw [if_pos hq, show s.scheduledEvents.head? = none by rw [hq]; rfl]
    rfl
  · rename_i e es hq
    have he : s.OnGrid e := hg e (by rw [hq]; exact List.mem_cons_self)
    rw [hupd, if_neg (by rw [hq]; nofun),
      show s.scheduledEvents.head? = some e by rw [hq]; rfl]
    show (ASSERT (decide (e.tick ≥ s.lastTick + s.elapsed)) _ >>= _) = _
    rw [decide_eq_true (he.count_le hr)]
    show (ASSERT (decide (s.time ≤ e.globalSchedulingTime)) _ >>= _) = _
    rw [decide_eq_true he.ahead]
    rfl

/-- with no tick unread, rescheduling only moves the message -/
theorem scheduleNextTick_settled (hr : s.Running) (hg : ∀ e ∈ s.scheduledEvents, s.OnGrid e)
    (h0 : s.elapsed = 0) : s.scheduleNextTick =
      .ok { s with tickMessage := s.scheduledEvents.head?.map Tick.globalSchedulingTime } := by
  rw [scheduleNextTick_eq hr hg, settled_of_elapsed h0, ite_self]

/-- rescheduling keeps a state coherent, and puts the message at the first event -/
theorem coherent_scheduleNextTick (hs : s.scheduleNextTick = .ok s') (hr : s.Running)
    (ha : Ascending Tick.key s.scheduledEvents) (hg : ∀ e ∈ s.scheduledEvents, s.OnGrid e) :
    s'.Coherent ∧ s'.AtFirst := by
  rw [scheduleNextTick_eq hr hg] at hs
  cases hs
  have hfirst : ∀ m : Oscillator, m.scheduledEvents = s.scheduledEvents →
      { m with tickMessage := s.scheduledEvents.head?.map Tick.globalSchedulingTime }.AtFirst := by
    intro m hm
    unfold AtFirst
    rw [hm]
  split
  · have hf := hfirst s rfl
    refine ⟨⟨⟨hr.frequency, hr.past⟩, ha, fun e he => ?_, .inl hf⟩, hf⟩
    exact ⟨(hg e he).1, (hg e he).2, (hg e he).3⟩
  · have hf := hfirst s.settled rfl
    have hrs := hr.settled
    refine ⟨⟨⟨hrs.frequency, hrs.past⟩, ha, fun e he => ?_, .inl hf⟩, hf⟩
    have hge := (hg e he).settled hr
    exact ⟨hge.1, hge.2, hge.3⟩

/-- the time is that of a tick -/
def AtTick (s : Oscillator) : Prop := s.time = s.timeOfLastTick + s.elapsed / s.frequency

instance (s : Oscillator) : Decidable s.AtTick := inferInstanceAs (Decidable (_ = _))

/-- the object that `subscribeTick` makes -/
def newTick (s : Oscillator) (listener idleTicks kind : Nat) : Tick :=
  ⟨s.objects, listener, s.lastTick + s.elapsed + idleTicks, kind,
    s.timeOfLastTick + s.elapsed / s.frequency + idleTicks / s.frequency⟩

/-- a tick of this instant is subscribed at a tick, any other one lies ahead -/
theorem newTick_onGrid (hr : s.Running) (listener kind : Nat) {idleTicks : Nat}
    (hi : 1 ≤ idleTicks ∨ s.AtTick) : s.settled.OnGrid (s.newTick listener idleTicks kind) := by
  refine ⟨Nat.le_add_right _ _, ?_, ?_⟩
  · show _ = s.timeOfLastTick + s.elapsed / s.frequency +
      (s.lastTick + s.elapsed + idleTicks - (s.lastTick + s.elapsed) : ℕ) / s.frequency
    rw [Nat.add_sub_cancel_left]
    rfl
  · show s.time ≤ s.timeOfLastTick + s.elapsed / s.frequency + idleTicks / s.frequency
    obtain hi | hi := hi
    · have h1 := lt_elapsed_succ hr
      rw [add_div] at h1
      have h2 : 1 / s.frequency ≤ idleTicks / s.frequency := by
        refine div_le_div_of_nonneg_right ?_ (le_of_lt hr.frequency)
        exact_mod_cast hi
      linarith
    · unfold AtTick at hi
      have := div_nonneg (Nat.cast_nonneg (α := ℚ) idleTicks) (le_of_lt hr.frequency)
      linarith

theorem subscribeTick_eq (h : s.Coherent) (listener kind : Nat) {idleTicks : Nat}
    (hi : 1 ≤ idleTicks ∨ s.AtTick) :
    s.subscribeTick listener idleTicks kind = .ok
      (match lookup Tick.key (s.newTick listener idleTicks kind).key s.scheduledEvents with
      | some pending => (pending, { s.settled with
          objects := s.objects + 1
          tickMessage := s.scheduledEvents.head?.map Tick.globalSchedulingTime })
      | none => (s.newTick listener idleTicks kind, { s.settled with
          objects := s.objects + 1
          scheduledEvents := insertAt Tick.key (s.newTick listener idleTicks kind) s.scheduledEvents
          subscribed := s.subscribed ++ [s.newTick listener idleTicks kind]
          tickMessage := (insertAt Tick.key (s.newTick listener idleTicks kind)
            s.scheduledEvents).head?.map Tick.globalSchedulingTime })) := by
  have hr := h.toRunning
  have hnew := newTick_onGrid hr listener kind hi
  have hglobal : s.settled.globalTimeFromTick (s.lastTick + s.elapsed + idleTicks) =
      .ok (s.newTick listener idleTicks kind).globalSchedulingTime := by
    rw [hnew.scheduled]
    exact globalTimeFromTick_eq (s := s.settled) hr.frequency hnew.tick
  unfold subscribeTick
  rw [updateAndGetTickCount_eq hr]
  show (s.settled.globalTimeFromTick (s.lastTick + s.elapsed + idleTicks) >>= _) = _
  rw [hglobal]
  show (match lookup Tick.key (s.newTick listener idleTicks kind).key s.scheduledEvents with
    | some pending => _
    | none => _) = _
  have hpast := hr.settled.past
  have h0 := settled_elapsed hr
  cases hl : lookup Tick.key (s.newTick listener idleTicks kind).key s.scheduledEvents with
  | some pending =>
    refine bind_ok.mpr ⟨_, scheduleNextTick_settled ⟨hr.frequency, hpast⟩ (fun e he => ?_) h0, rfl⟩
    have hge := (h.grid e he).settled hr
    exact ⟨hge.1, hge.2, hge.3⟩
  | none =>
    refine bind_ok.mpr ⟨_, scheduleNextTick_settled ⟨hr.frequency, hpast⟩ (fun e he => ?_) h0, rfl⟩
    obtain rfl | he := mem_insertAt.mp he
    · exact ⟨hnew.1, hnew.2, hnew.3⟩
    · have hge := (h.grid e he).settled hr
      exact ⟨hge.1, hge.2, hge.3⟩

/-- the self-message is not put into the past -/
theorem scheduleNextTick_ahead {e : Tick} {es : List Tick} (hs : s.scheduleNextTick = .ok s')
    (hr : s.Running) (hq : s.scheduledEvents = e :: es) : s.time ≤ e.globalSchedulingTime := by
  unfold scheduleNextTick at hs
  rw [hq] at hs
  obtain ⟨_, hu, hs⟩ := bind_ok.mp hs
  rw [updateAndGetTickCount_eq (s := { s with scheduledEvents := e :: es, tickMessage := none })
    ⟨hr.frequency, hr.past⟩] at hu
  cases hu
  obtain ⟨_, _, hs⟩ := bind_ok.mp hs
  obtain ⟨_, ha, _⟩ := bind_ok.mp hs
  exact of_decide_eq_true (ASSERT_ok.mp ha)

/-- a subscription that does not fail is in time -/
theorem subscribeTick_timely {listener idleTicks kind : Nat} {r : Tick × Oscillator}
    (h : s.Coherent) (hs : s.subscribeTick listener idleTicks kind = .ok r) :
    1 ≤ idleTicks ∨ s.AtTick := by
  have hr := h.toRunning
  by_contra hcon
  obtain ⟨hi, hat⟩ := not_or.mp hcon
  obtain rfl : idleTicks = 0 := by omega
  have hlate : s.timeOfLastTick + s.elapsed / s.frequency < s.time :=
    lt_of_le_of_ne (elapsed_le hr) (Ne.symm hat)
  -- no event is pending at the present tick
  have hpending : ∀ e ∈ s.scheduledEvents, s.lastTick + s.elapsed < e.tick := by
    intro e he
    have hge := (h.grid e he).settled hr
    refine lt_of_le_of_ne hge.tick fun heq => ?_
    have hahead := hge.ahead
    rw [hge.scheduled, ← heq] at hahead
    change s.time ≤ s.timeOfLastTick + s.elapsed / s.frequency +
      (s.lastTick + s.elapsed - (s.lastTick + s.elapsed) : ℕ) / s.frequency at hahead
    rw [Nat.sub_self, Nat.cast_zero, zero_div] at hahead
    linarith
  unfold subscribeTick at hs
  obtain ⟨_, hu, hs⟩ := bind_ok.mp hs
  rw [updateAndGetTickCount_eq hr] at hu
  cases hu
  obtain ⟨t, ht, hs⟩ := bind_ok.mp hs
  have hnow : t = s.timeOfLastTick + s.elapsed / s.frequency := by
    have hle : s.settled.lastTick ≤ s.lastTick + s.elapsed + 0 := Nat.le_add_right _ _
    rw [globalTimeFromTick_eq (s := s.settled) hr.frequency hle] at ht
    cases ht
    show s.timeOfLastTick + s.elapsed / s.frequency +
      (s.lastTick + s.elapsed + 0 - (s.lastTick + s.elapsed) : ℕ) / s.frequency = _
    rw [Nat.add_zero, Nat.sub_self, Nat.cast_zero, zero_div, add_zero]
  dsimp only at hs
  split at hs
  · rename_i pending hl
    obtain ⟨hmem, hkey⟩ := lookup_mem hl
    have := hpending _ hmem
    rw [(Tick.key_eq.mp hkey).1] at this
    exact absurd this (lt_irrefl _)
  · obtain ⟨m, hsch, _⟩ := bind_ok.mp hs
    obtain ⟨x, xs, hq, hx⟩ := insertAt_head Tick.key
      ⟨s.settled.objects, listener, s.lastTick + s.elapsed + 0, kind, t⟩ s.settled.scheduledEvents
    have hpast := hr.settled.past
    have hahead := scheduleNextTick_ahead hsch ⟨hr.frequency, hpast⟩ hq
    obtain rfl | ⟨hx, hlt⟩ := hx
    · change s.time ≤ t at hahead
      linarith
    · have h1 := hpending x hx
      have h2 : x.tick ≤ s.lastTick + s.elapsed + 0 := Tick.tick_le_of_key_lt hlt
      omega

/-- one event is removed like those of a kind -/
theorem unsubscribeTick_eq (h : s.Coherent) (listener tick kind : Nat) :
    s.unsubscribeTick listener tick kind =
      s.removeIf fun e => decide (e.key = Tick.mkKey tick kind listener) := by
  unfold unsubscribeTick removeIf
  dsimp only
  rw [removeAt_eq h.ascending, lookup_toList h.ascending]
  simp only [decide_not, ne_eq]

theorem coherent_removeIf {p : Tick → Bool} (h : s.Coherent) (hs : s.removeIf p = .ok s') :
    s'.Coherent ∧ s'.AtFirst := by
  refine coherent_scheduleNextTick hs ?_ ?_ ?_
  · exact ⟨h.frequency, h.past⟩
  · exact h.ascending.filter _
  · intro e he
    have := h.grid e (List.mem_of_mem_filter he)
    exact ⟨this.1, this.2, this.3⟩

theorem coherent_updateAndGetTickCount {n : ℕ} (h : s.Coherent)
    (hs : s.updateAndGetTickCount = .ok (n, s')) : s'.Coherent := by
  rw [updateAndGetTickCount_eq h.toRunning] at hs
  cases hs
  exact h.settled

/-- a queue with the new event -/
theorem grid_insertAt (h : s.Coherent) {e : Tick} (he : s.settled.OnGrid e) :
    ∀ x ∈ insertAt Tick.key e s.scheduledEvents, s.settled.OnGrid x := by
  intro x hx
  obtain rfl | hx := mem_insertAt.mp hx
  · exact he
  · exact (h.grid x hx).settled h.toRunning

theorem coherent_subscribeTick {listener idleTicks kind : Nat} {e : Tick} (h : s.Coherent)
    (hs : s.subscribeTick listener idleTicks kind = .ok (e, s')) : s'.Coherent ∧ s'.AtFirst := by
  have hr := h.toRunning
  have hi := subscribeTick_timely h hs
  rw [subscribeTick_eq h listener kind hi] at hs
  have hnew := newTick_onGrid hr listener kind hi
  split at hs
  · cases hs
    refine ⟨⟨⟨hr.frequency, hr.settled.past⟩, h.ascending, fun x hx => ?_, .inl rfl⟩, rfl⟩
    have hge := (h.grid x hx).settled hr
    exact ⟨hge.1, hge.2, hge.3⟩
  · rename_i hl
    cases hs
    refine ⟨⟨⟨hr.frequency, hr.settled.past⟩, ?_, fun x hx => ?_, .inl rfl⟩, rfl⟩
    · exact h.ascending.insertAt ((lookup_eq_none h.ascending).mp hl)
    · have hge := grid_insertAt h hnew x hx
      exact ⟨hge.1, hge.2, hge.3⟩

/-! ## a new frequency -/

/-- the event with the scheduling time that its tick has now -/
def regrid (s : Oscillator) (e : Tick) : Tick :=
  { e with globalSchedulingTime := s.timeOfLastTick + (e.tick - s.lastTick : ℕ) / s.frequency }

theorem reschedule_eq (hf : 0 < s.frequency) {l : List Tick} (h : ∀ e ∈ l, s.lastTick ≤ e.tick) :
    s.reschedule l = .ok (l.map s.regrid) := by
  induction l with
  | nil => rfl
  | cons e l ih =>
    obtain ⟨he, hl⟩ := List.forall_mem_cons.mp h
    unfold reschedule
    rw [globalTimeFromTick_eq hf he, ih hl]
    rfl

theorem reschedule_ok {l l' : List Tick} (h : s.reschedule l = .ok l') :
    ∀ e ∈ l, s.lastTick ≤ e.tick := by
  induction l generalizing l' with
  | nil => nofun
  | cons e l ih =>
    obtain ⟨t, ht, h⟩ := bind_ok.mp h
    obtain ⟨l', hl, _⟩ := bind_ok.mp h
    exact List.forall_mem_cons.mpr ⟨globalTimeFromTick_ok ht, ih hl⟩

/-- the state of `setFrequency` once the ticks are counted -/
def retuned (s : Oscillator) (newFrequency : ℚ) : Oscillator :=
  { s with frequency := newFrequency }.settled

theorem running_retuned {f : ℚ} (h : s.Running) (hf : 0 < f) :
    (s.retuned f).Running ∧ (s.retuned f).elapsed = 0 := by
  have hrun : { s with frequency := f }.Running := ⟨hf, h.past⟩
  exact ⟨hrun.settled, settled_elapsed hrun⟩

theorem setFrequency_ok {f : ℚ} (hr : s.Running) (hf : 0 < f) (hs : s.setFrequency f = .ok s') :
    (∀ e ∈ s.scheduledEvents, (s.retuned f).lastTick ≤ e.tick) ∧
    { s.retuned f with
      scheduledEvents := s.scheduledEvents.map (s.retuned f).regrid }.scheduleNextTick = .ok s' := by
  unfold setFrequency at hs
  have hrun : { s with frequency := f }.Running := ⟨hf, hr.past⟩
  obtain ⟨_, hu, hs⟩ := bind_ok.mp hs
  rw [updateAndGetTickCount_eq hrun] at hu
  cases hu
  obtain ⟨l, hl, hs⟩ := bind_ok.mp hs
  have hticks := reschedule_ok hl
  rw [reschedule_eq hf hticks] at hl
  cases hl
  exact ⟨hticks, hs⟩

/-- the first event is not in the past, and the others come after it -/
theorem setFrequency_ahead {f : ℚ} (h : s.Coherent) (hf : 0 < f) (hs : s.setFrequency f = .ok s') :
    ∀ e ∈ s.scheduledEvents, s.time ≤ ((s.retuned f).regrid e).globalSchedulingTime := by
  obtain ⟨_, hs⟩ := setFrequency_ok h.toRunning hf hs
  obtain ⟨hrun, _⟩ := running_retuned h.toRunning hf
  intro e he
  cases hq : s.scheduledEvents with
  | nil =>
    rw [hq] at he
    cases he
  | cons e0 es =>
    rw [hq] at hs he
    have hahead := scheduleNextTick_ahead (e := (s.retuned f).regrid e0) hs ⟨hrun.1, hrun.2⟩ rfl
    refine le_trans hahead ?_
    have htick : e0.tick ≤ e.tick := by
      obtain rfl | he := List.mem_cons.mp he
      · exact le_refl _
      · have hasc := h.ascending
        rw [hq] at hasc
        exact Tick.tick_le_of_key_lt (hasc.head_lt he)
    have hcast : ((e0.tick - (s.retuned f).lastTick : ℕ) : ℚ) ≤
        (e.tick - (s.retuned f).lastTick : ℕ) := by
      exact_mod_cast Nat.sub_le_sub_right htick _
    have := div_le_div_of_nonneg_right hcast (le_of_lt hrun.frequency)
    show (s.retuned f).timeOfLastTick + _ ≤ (s.retuned f).timeOfLastTick + _
    linarith

/-- the result of `setFrequency`, if it does not fail -/
theorem setFrequency_eq {f : ℚ} (h : s.Running) (hf : 0 < f)
    (hticks : ∀ e ∈ s.scheduledEvents, (s.retuned f).lastTick ≤ e.tick)
    (hahead : ∀ e ∈ s.scheduledEvents, s.time ≤ ((s.retuned f).regrid e).globalSchedulingTime) :
    s.setFrequency f = .ok { s.retuned f with
      scheduledEvents := s.scheduledEvents.map (s.retuned f).regrid
      tickMessage := (s.scheduledEvents.map (s.retuned f).regrid).head?.map
        Tick.globalSchedulingTime } := by
  have hrun : { s with frequency := f }.Running := ⟨hf, h.past⟩
  obtain ⟨hret, h0⟩ := running_retuned h hf
  unfold setFrequency
  refine bind_ok.mpr ⟨_, updateAndGetTickCount_eq hrun, ?_⟩
  refine bind_ok.mpr ⟨_, reschedule_eq (s := s.retuned f) hf hticks, ?_⟩
  refine scheduleNextTick_settled ⟨hret.1, hret.2⟩ (fun x hx => ?_) h0
  obtain ⟨e, he, rfl⟩ := List.mem_map.mp hx
  exact ⟨hticks e he, rfl, hahead e he⟩

/-- the clock that `setFrequency` leaves -/
theorem setFrequency_left {f : ℚ} (h : s.Coherent) (hf : 0 < f) (hs : s.setFrequency f = .ok s') :
    s'.time = s.time ∧ s'.frequency = f ∧ s'.lastTick = (s.retuned f).lastTick ∧
      s'.timeOfLastTick = (s.retuned f).timeOfLastTick := by
  obtain ⟨hticks, _⟩ := setFrequency_ok h.toRunning hf hs
  rw [setFrequency_eq h.toRunning hf hticks (setFrequency_ahead h hf hs)] at hs
  cases hs
  exact ⟨rfl, rfl, rfl, rfl⟩

theorem coherent_setFrequency {f : ℚ} (h : s.Coherent) (hf : 0 < f)
    (hs : s.setFrequency f = .ok s') : s'.Coherent ∧ s'.AtFirst := by
  obtain ⟨hticks, _⟩ := setFrequency_ok h.toRunning hf hs
  have hahead := setFrequency_ahead h hf hs
  obtain ⟨hrun, _⟩ := running_retuned h.toRunning hf
  rw [setFrequency_eq h.toRunning hf hticks hahead] at hs
  cases hs
  refine ⟨⟨⟨hrun.1, hrun.2⟩, List.pairwise_map.mpr h.ascending, fun x hx => ?_, .inl rfl⟩, rfl⟩
  obtain ⟨e, he, rfl⟩ := List.mem_map.mp hx
  exact ⟨hticks e he, rfl, hahead e he⟩

/-! ## the self-message -/

/-- the message is due at the first event -/
theorem due_first (h : s.Coherent) (hn : s.tickEventNow = false) (hm : s.tickMessage = some s.time) :
    ∃ e rest, s.scheduledEvents = e :: rest ∧ e.globalSchedulingTime = s.time := by
  obtain hfirst | ⟨hn', _⟩ := h.message
  · unfold AtFirst at hfirst
    rw [hm] at hfirst
    cases hq : s.scheduledEvents with
    | nil =>
      rw [hq] at hfirst
      cases hfirst
    | cons e rest =>
      rw [hq] at hfirst
      exact ⟨e, rest, rfl, (Option.some.inj hfirst).symm⟩
  · rw [hn] at hn'
    cases hn'

/-- at the time of an event its tick is reached -/
theorem OnGrid.count_eq {e : Tick} (h : s.OnGrid e) (hf : 0 < s.frequency)
    (ht : e.globalSchedulingTime = s.time) : s.lastTick + s.elapsed = e.tick ∧ s.AtTick := by
  have htime := h.scheduled
  rw [ht] at htime
  have helapsed : s.elapsed = e.tick - s.lastTick := by
    unfold elapsed
    rw [htime, add_sub_cancel_left, div_mul_cancel₀ _ (ne_of_gt hf), Nat.floor_natCast]
  refine ⟨?_, ?_⟩
  · rw [helapsed, Nat.add_sub_cancel' h.tick]
  · unfold AtTick
    rw [helapsed]
    exact htime

/-- **The first event is delivered at its time.** -/
theorem handleMessage_eq (h : s.Coherent) {e : Tick} {rest : List Tick}
    (hq : s.scheduledEvents = e :: rest) (ht : e.globalSchedulingTime = s.time) :
    s.handleMessage = .ok (e, { s.settled with
      tickEventNow := true
      tickMessage := none
      scheduledEvents := rest
      delivered := s.delivered ++ [(e, s.time)] }) := by
  have hgrid : s.OnGrid e := h.grid e (by rw [hq]; exact List.mem_cons_self)
  obtain ⟨hcount, hat⟩ := hgrid.count_eq h.frequency ht
  have hlast : (if s.lastTick < e.tick then e.tick else s.lastTick) = s.lastTick + s.elapsed := by
    split
    · exact hcount.symm
    · have := hgrid.tick
      omega
  have htime : (if s.lastTick < e.tick then s.time else s.timeOfLastTick) =
      s.timeOfLastTick + s.elapsed / s.frequency := by
    split
    · exact hat
    · rw [show s.elapsed = 0 by omega, Nat.cast_zero, zero_div, add_zero]
  unfold handleMessage
  rw [hq]
  show (ASSERT (decide (s.lastTick ≤ e.tick)) _ >>= _) = _
  rw [decide_eq_true hgrid.tick]
  show (ASSERT (decide (s.timeOfLastTick ≤ s.time)) _ >>= _) = _
  rw [decide_eq_true h.past, hlast, htime]
  rfl

theorem coherent_handleMessage {e : Tick} (h : s.Coherent) (hn : s.tickEventNow = false)
    (hm : s.tickMessage = some s.time) (hs : s.handleMessage = .ok (e, s')) : s'.Coherent := by
  obtain ⟨e0, rest, hq, ht⟩ := due_first h hn hm
  rw [handleMessage_eq h hq ht] at hs
  cases hs
  have hr := h.toRunning
  refine ⟨⟨hr.frequency, hr.settled.past⟩, ?_, ?_, .inr ⟨rfl, rfl⟩⟩
  · have := h.ascending
    rw [hq] at this
    exact this.tail
  · intro x hx
    have hge := (h.grid x (by rw [hq]; exact List.mem_cons_of_mem _ hx)).settled hr
    exact ⟨hge.1, hge.2, hge.3⟩

theorem coherent_handled (h : s.Coherent) (hs : s.handled = .ok s') : s'.Coherent ∧ s'.AtFirst := by
  obtain ⟨m, hm, hs⟩ := bind_ok.mp hs
  cases hs
  obtain ⟨hc, hf⟩ := coherent_scheduleNextTick hm h.toRunning h.ascending h.grid
  refine ⟨⟨⟨hc.frequency, hc.past⟩, hc.ascending, fun x hx => ?_, .inl hf⟩, hf⟩
  have hge := hc.grid x hx
  exact ⟨hge.1, hge.2, hge.3⟩

/-- time goes on up to the first event, so to none that is pending -/
theorem coherent_advance {t : SimTime} (h : s.Coherent) (ht : s.CanAdvance t) :
    { s with time := t }.Coherent := by
  obtain ⟨hn, hle, hm⟩ := ht
  have hfirst : s.AtFirst := h.message.resolve_right fun hnow => by
    rw [hn] at hnow
    cases hnow.1
  refine ⟨⟨h.frequency, le_trans h.past hle⟩, h.ascending, fun x hx => ?_, .inl hfirst⟩
  have hge := h.grid x hx
  refine ⟨hge.1, hge.2, ?_⟩
  cases hq : s.scheduledEvents with
  | nil =>
    rw [hq] at hx
    cases hx
  | cons e rest =>
    unfold AtFirst at hfirst
    rw [hq] at hfirst hx
    have he : s.OnGrid e := h.grid e (by rw [hq]; exact List.mem_cons_self)
    refine le_trans (hm _ hfirst) (he.le_of_tick_le hge h.frequency ?_)
    obtain rfl | hx := List.mem_cons.mp hx
    · exact le_refl _
    · have hasc := h.ascending
      rw [hq] at hasc
      exact Tick.tick_le_of_key_lt (hasc.head_lt hx)

/-! ## runs -/

/-- frequencies are positive -/
def Positive (e : OscillatorEvent) : Prop :=
  match e with
  | .setFrequency newFrequency => 0 < newFrequency
  | _ => True

instance (e : OscillatorEvent) : Decidable (Positive e) :=
  match e with
  | .setFrequency newFrequency => inferInstanceAs (Decidable (0 < newFrequency))
  | .advance _ | .handleMessage | .handled | .updateAndGetTickCount | .subscribeTick .. |
    .unsubscribeTick .. | .unsubscribeTicksOfKind .. | .unsubscribeTicks _ =>
    inferInstanceAs (Decidable True)

theorem initializeOscillator_ok {f : ℚ} (hs : initializeOscillator f = .ok s) :
    0 < f ∧ s = ⟨0, false, f, 0, 0, [], none, 0, [], [], []⟩ := by
  unfold initializeOscillator at hs
  split at hs
  · cases hs
  · split at hs
    · cases hs
    · rename_i h0 h1
      exact ⟨lt_of_le_of_ne (not_lt.mp h0) (Ne.symm h1), (Except.ok.inj hs).symm⟩

theorem coherent_initializeOscillator {f : ℚ} (hs : initializeOscillator f = .ok s) : s.Coherent := by
  obtain ⟨hf, rfl⟩ := initializeOscillator_ok hs
  exact ⟨⟨hf, le_refl _⟩, List.Pairwise.nil, nofun, .inl rfl⟩

theorem coherent_step {e : OscillatorEvent} (h : s.Coherent) (he : Positive e)
    (hs : s.step e = .ok s') : s'.Coherent := by
  cases e with
  | advance t =>
    by_cases ht : s.CanAdvance t
    · rw [step, if_pos ht] at hs
      cases hs
      exact coherent_advance h ht
    · rw [step, if_neg ht] at hs
      cases hs
  | handleMessage =>
    by_cases hdue : s.tickEventNow = false ∧ s.tickMessage = some s.time
    · rw [step, if_pos hdue] at hs
      obtain ⟨⟨e, m⟩, hm, rfl⟩ := map_ok.mp hs
      exact coherent_handleMessage h hdue.1 hdue.2 hm
    · rw [step, if_neg hdue] at hs
      cases hs
  | handled =>
    by_cases hn : s.tickEventNow = true
    · rw [step, if_pos hn] at hs
      exact (coherent_handled h hs).1
    · rw [step, if_neg hn] at hs
      cases hs
  | updateAndGetTickCount =>
    obtain ⟨⟨n, m⟩, hm, rfl⟩ := map_ok.mp hs
    exact coherent_updateAndGetTickCount h hm
  | subscribeTick listener idleTicks kind =>
    obtain ⟨⟨e, m⟩, hm, rfl⟩ := map_ok.mp hs
    exact (coherent_subscribeTick h hm).1
  | unsubscribeTick listener tick kind =>
    change s.unsubscribeTick listener tick kind = .ok s' at hs
    rw [unsubscribeTick_eq h] at hs
    exact (coherent_removeIf h hs).1
  | unsubscribeTicksOfKind listener kind => exact (coherent_removeIf h hs).1
  | unsubscribeTicks listener => exact (coherent_removeIf h hs).1
  | setFrequency newFrequency => exact (coherent_setFrequency h he hs).1

/-- every state that is reached with positive frequencies is coherent -/
theorem coherent_run {f : ℚ} {es : List OscillatorEvent} {s0 : Oscillator}
    (h0 : initializeOscillator f = .ok s0) (hp : ∀ e ∈ es, Positive e)
    (hr : run step s0 es = .ok s) : s.Coherent :=
  run_invariant_of (fun _ _ _ hi he hs => coherent_step hi he hs)
    (coherent_initializeOscillator h0) (meets_of_forall hp s0) hr

end Oscillator
end Nesting
