import Mathlib.Data.Int.Cast.Lemmas
import Nesting.Clock.Timestamps

/-!
# The tick the clock aims at

The rates may change, so the tick at which a timestamp is due is counted from the last time the clock
was read.

* `own`           the ticks of the clock among those of the oscillator;
* `dueAt`         the first tick at which the local time reaches a timestamp, at the present rate;
* `Aimed`         the tick of the first timestamp is subscribed, and no other one;
* `Known`         the clock knows which of its ticks is subscribed;
* `scheduleNextTimestamp_aims`   **scheduling makes a clock aim at its first timestamp**;
* `scheduleNextTimestamp_total`  and does not fail if that can be reached.
-/

set_option linter.unusedVariables false

namespace Nesting

open Lib

namespace Oscillator

variable {s o o' : Oscillator}

/-! ## the ticks of one listener -/

/-- the ticks that the clock has subscribed -/
def own (s : Oscillator) : List Tick :=
  s.scheduledEvents.filter fun e => decide (e.listener = RealtimeClock.self)

theorem mem_own {e : Tick} : e ∈ s.own ↔ e ∈ s.scheduledEvents ∧ e.listener = RealtimeClock.self := by
  unfold own
  rw [List.mem_filter, decide_eq_true_iff]

theorem filter_insertAt {e : Tick} {l : List Tick} (he : e.listener ≠ RealtimeClock.self) :
    ((insertAt Tick.key e l).filter fun x => decide (x.listener = RealtimeClock.self)) =
      l.filter fun x => decide (x.listener = RealtimeClock.self) := by
  unfold insertAt
  rw [List.filter_append, List.filter_cons_of_neg (by simpa using he), ← List.filter_append,
    List.takeWhile_append_dropWhile]

theorem own_removeIf {p : Tick → Bool} (hc : s.Coherent) (hs : s.removeIf p = .ok o) :
    o.own = s.own.filter fun e => !p e := by
  unfold own
  rw [(removeIf_frame hc hs).1, List.filter_comm]

/-- the tick that the clock unsubscribes -/
theorem own_unsubscribeTick {tick kind : Nat} (hc : s.Coherent)
    (hs : s.unsubscribeTick RealtimeClock.self tick kind = .ok o) :
    o.own = s.own.filter fun e => !decide (e.key = Tick.mkKey tick kind RealtimeClock.self) := by
  rw [unsubscribeTick_eq hc] at hs
  exact own_removeIf hc hs

/-- a clock that has no tick subscribes one -/
theorem own_subscribeTick {idleTicks : Nat} {e : Tick} (hc : s.Coherent) (hnone : s.own = [])
    (hs : s.subscribeTick RealtimeClock.self idleTicks 0 = .ok (e, o)) :
    e = s.newTick RealtimeClock.self idleTicks 0 ∧ o.own = [e] := by
  rw [subscribeTick_eq hc RealtimeClock.self 0 (subscribeTick_timely hc hs)] at hs
  split at hs
  · rename_i p hp
    obtain ⟨hmem, hk⟩ := lookup_mem hp
    have hl : p.listener = RealtimeClock.self := (Tick.key_eq.mp hk).2.2
    have hown : p ∈ s.own := mem_own.mpr ⟨hmem, hl⟩
    rw [hnone] at hown
    cases hown
  · cases hs
    refine ⟨rfl, List.perm_singleton.mp ?_⟩
    refine ((insertAt_perm _ _).filter _).trans ?_
    rw [List.filter_cons_of_pos (by rfl)]
    exact .cons _ (.of_eq hnone)

/-- what others call does not touch the ticks of the clock -/
theorem own_foreign {e : OscillatorEvent} (hc : s.Coherent) (he : RealtimeClock.Foreign e)
    (hs : s.call e = .ok o) : o.own = s.own := by
  have hfilter : ∀ p : Tick → Bool, (∀ x ∈ s.own, p x = false) → s.removeIf p = .ok o →
      o.own = s.own := by
    intro p hp hs
    rw [own_removeIf hc hs]
    exact List.filter_eq_self.mpr fun x hx => by rw [hp x hx]; rfl
  cases e with
  | advance t => exact absurd he id
  | handleMessage => exact absurd he id
  | handled => exact absurd he id
  | setFrequency newFrequency => exact absurd he id
  | updateAndGetTickCount =>
    obtain ⟨⟨n, m⟩, hm, rfl⟩ := map_ok.mp hs
    rw [updateAndGetTickCount_eq hc.toRunning] at hm
    cases hm
    rfl
  | subscribeTick listener idleTicks kind =>
    obtain ⟨⟨y, m⟩, hm, rfl⟩ := map_ok.mp hs
    rw [subscribeTick_eq hc listener kind (subscribeTick_timely hc hm)] at hm
    split at hm
    · cases hm
      rfl
    · cases hm
      exact filter_insertAt he
  | unsubscribeTick listener tick kind =>
    change s.unsubscribeTick listener tick kind = .ok o at hs
    rw [unsubscribeTick_eq hc] at hs
    refine hfilter _ (fun x hx => decide_eq_false fun hk => ?_) hs
    have hl := (Tick.key_eq (b := ⟨0, listener, tick, kind, 0⟩)).mp hk
    exact he (hl.2.2.symm.trans (mem_own.mp hx).2)
  | unsubscribeTicksOfKind listener kind =>
    refine hfilter _ (fun x hx => ?_) hs
    have hne : x.listener ≠ listener := fun heq => he (heq.symm.trans (mem_own.mp hx).2)
    simp [hne]
  | unsubscribeTicks listener =>
    refine hfilter _ (fun x hx => ?_) hs
    have hne : x.listener ≠ listener := fun heq => he (heq.symm.trans (mem_own.mp hx).2)
    simp [hne]

theorem own_handled (hc : s.Coherent) (hs : s.handled = .ok o) : o.own = s.own := by
  obtain ⟨m, hm, hs⟩ := bind_ok.mp hs
  cases hs
  unfold own
  rw [show m.scheduledEvents = s.scheduledEvents from
    (scheduleNextTick_frame hm hc.toRunning hc.grid).1]

/-- at another frequency the ticks are the same -/
theorem own_setFrequency {f : ℚ} (hc : s.Coherent) (hf : 0 < f) (hs : s.setFrequency f = .ok o) :
    o.own.map Tick.key = s.own.map Tick.key := by
  obtain ⟨hticks, _⟩ := setFrequency_ok hc.toRunning hf hs
  rw [setFrequency_eq hc.toRunning hf hticks (setFrequency_ahead hc hf hs)] at hs
  cases hs
  show ((s.scheduledEvents.map (s.retuned f).regrid).filter _).map Tick.key = _
  rw [List.filter_map, List.map_map]
  rfl

/-- the first event is taken out of the queue -/
theorem handleMessage_takes {e : Tick} (hc : s.Coherent) (hn : s.tickEventNow = false)
    (hm : s.tickMessage = some s.time) (hs : s.handleMessage = .ok (e, o)) :
    s.scheduledEvents = e :: o.scheduledEvents ∧ o.lastTick = e.tick ∧ o.elapsed = 0 ∧ o.AtTick := by
  obtain ⟨e0, rest, hq, ht⟩ := due_first hc hn hm
  rw [handleMessage_eq hc hq ht] at hs
  cases hs
  have hgrid := hc.grid e (by rw [hq]; exact List.mem_cons_self)
  obtain ⟨hcount, hat⟩ := hgrid.count_eq hc.frequency ht
  have h0 : s.settled.elapsed = 0 := settled_elapsed hc.toRunning
  refine ⟨hq, hcount, h0, ?_⟩
  show s.time = s.settled.timeOfLastTick + s.settled.elapsed / s.frequency
  rw [h0, Nat.cast_zero, zero_div, add_zero]
  exact hat

/-- the count and the ticks tell whether the time is that of a tick -/
theorem SameCount.atTick (h : SameCount s o) : o.AtTick ↔ s.AtTick := by
  show o.time = o.settled.timeOfLastTick ↔ s.time = s.settled.timeOfLastTick
  rw [h.time, h.phase]

end Oscillator

namespace RealtimeClock

variable {s s' m : RealtimeClock}

/-! ## reading the time, at any rate -/

theorem Sound.behind_count (h : s.Sound) : s.lastTick ≤ s.tickCount :=
  le_trans h.behind (Nat.le_add_right _ _)

theorem Sound.updated (h : s.Sound) : s.updated.Sound := ⟨h.coherent.settled, le_refl _⟩

theorem Sound.read_eq (h : s.Sound) (hrate : s.rate ≠ 0) :
    s.updateAndGetLocalTime = .ok (s.shown, s.updated) := by
  have hle := h.behind_count
  unfold updateAndGetLocalTime
  rw [Oscillator.updateAndGetTickCount_eq h.coherent.toRunning]
  show (if s.tickCount < s.lastTick then _ else _) = _
  rw [if_neg (not_lt.mpr hle)]
  unfold timeIncrementPerTick
  rw [if_neg hrate]
  show Except.ok (s.shown, { s with
    oscillator := s.oscillator.settled
    localTime := s.shown
    lastTick := s.lastTick + (s.tickCount - s.lastTick) }) = _
  rw [Nat.add_sub_cancel' hle]
  rfl

theorem Sound.read_ok {t : SimTime} (h : s.Sound) (hs : s.updateAndGetLocalTime = .ok (t, s')) :
    s.rate ≠ 0 ∧ t = s.shown ∧ s' = s.updated := by
  obtain ⟨_, hrate, _, _⟩ := updateAndGetLocalTime_ok hs h
  rw [h.read_eq hrate] at hs
  cases hs
  exact ⟨hrate, rfl, rfl⟩

/-- the first tick at which the local time reaches `t` -/
def dueAt (s : RealtimeClock) (t : SimTime) : ℤ := s.lastTick + ⌈(t - s.localTime) * s.rate⌉

/-- reading the time does not change it -/
theorem Sound.dueAt_updated (h : s.Sound) (hrate : s.rate ≠ 0) (t : SimTime) :
    s.updated.dueAt t = s.dueAt t := by
  have hle := h.behind_count
  have hrest : (t - s.shown) * s.rate = (t - s.localTime) * s.rate - ((s.tickCount - s.lastTick : ℕ) : ℤ) := by
    show (t - (s.localTime + (s.tickCount - s.lastTick : ℕ) * (1 / s.rate))) * s.rate = _
    rw [← sub_sub, sub_mul, mul_one_div, div_mul_cancel₀ _ hrate]
    rfl
  show (s.tickCount : ℤ) + ⌈(t - s.shown) * s.rate⌉ = s.lastTick + ⌈(t - s.localTime) * s.rate⌉
  rw [hrest, Int.ceil_sub_intCast, Nat.cast_sub hle]
  ring

/-- the local time reaches a timestamp at the tick at which it is due -/
theorem Sound.reached_iff (h : s.Sound) (hrate : 0 < s.rate) {t : SimTime} :
    s.dueAt t ≤ s.tickCount ↔ t ≤ s.shown := by
  rw [← h.dueAt_updated (ne_of_gt hrate)]
  show (s.tickCount : ℤ) + ⌈(t - s.shown) * s.rate⌉ ≤ s.tickCount ↔ _
  have hmul : (t - s.shown) * s.rate ≤ 0 * s.rate ↔ t - s.shown ≤ 0 := mul_le_mul_iff_left₀ hrate
  rw [add_le_iff_nonpos_right, Int.ceil_le, Int.cast_zero, ← sub_nonpos (a := t), ← hmul, zero_mul]

/-- a timestamp that is due is not in the past if the clock was not read at its tick -/
theorem localTime_le_iff_unread (hrate : 0 < s.rate) {t : SimTime} {n : ℕ} (hn : s.dueAt t = n) :
    s.localTime ≤ t ↔ s.lastTick < n ∨ t = s.localTime := by
  have hceil : ⌈(t - s.localTime) * s.rate⌉ = (n : ℤ) - s.lastTick := by
    rw [← hn]
    unfold dueAt
    ring
  constructor
  · intro hle
    obtain hlt | heq := lt_or_eq_of_le hle
    · left
      have hpos : 0 < ⌈(t - s.localTime) * s.rate⌉ :=
        Int.ceil_pos.mpr (mul_pos (sub_pos.mpr hlt) hrate)
      omega
    · exact .inr heq.symm
  · rintro (hlt | rfl)
    · have hpos : 0 < ⌈(t - s.localTime) * s.rate⌉ := by omega
      have := pos_of_mul_pos_left (Int.ceil_pos.mp hpos) (le_of_lt hrate)
      linarith
    · exact le_refl _

/-! ## aiming -/

/-- the tick that should be subscribed -/
def target (s : RealtimeClock) : Option ℤ :=
  if s.isStopped then none else s.scheduledEvents.head?.map fun x => s.dueAt x.localTime

/-- the clock has subscribed the tick of its first timestamp, and no other one -/
def Aimed (s : RealtimeClock) : Prop :=
  (s.oscillator.own.map fun e => (e.tick : ℤ)) = s.target.toList

instance (s : RealtimeClock) : Decidable s.Aimed := inferInstanceAs (Decidable (_ = _))

/-- the clock knows which of its ticks is subscribed -/
def Known (s : RealtimeClock) : Prop :=
  ∀ e ∈ s.oscillator.own, s.nextTick.map Tick.key = some e.key

theorem Aimed.running (h : s.Aimed) {e : Tick} (he : e ∈ s.oscillator.own) :
    ∃ x xs, s.scheduledEvents = x :: xs ∧ s.isStopped = false ∧ s.dueAt x.localTime = e.tick ∧
      s.oscillator.own = [e] := by
  unfold Aimed target at h
  split at h
  · rw [List.map_eq_nil_iff.mp h] at he
    cases he
  · rename_i hst
    cases hq : s.scheduledEvents with
    | nil =>
      rw [hq] at h
      rw [List.map_eq_nil_iff.mp h] at he
      cases he
    | cons x xs =>
      rw [hq] at h
      obtain ⟨y, hy, hdue⟩ := List.map_eq_singleton_iff.mp h
      rw [hy, List.mem_singleton] at he
      rw [he]
      exact ⟨x, xs, rfl, Bool.eq_false_iff.mpr hst, hdue.symm, hy⟩

theorem target_ne_none (h : s.target ≠ none) :
    s.isStopped = false ∧ ∃ x xs, s.scheduledEvents = x :: xs := by
  unfold target at h
  split at h
  · exact absurd rfl h
  · rename_i hrun
    refine ⟨Bool.eq_false_iff.mpr hrun, List.exists_cons_of_ne_nil fun hnil => h ?_⟩
    rw [hnil]
    rfl

theorem isStopped_eq_false (h : s.isStopped = false) : 0 < s.rate := by
  have hle : minEffectiveClockRate ≤ s.rate := not_lt.mp (of_decide_eq_false h)
  have hpos : 0 < minEffectiveClockRate := by decide +kernel
  linarith

/-- once the clock has cancelled its tick it has none -/
theorem cancelNextTick_clears (h : s.Sound) (hk : s.Known) (hs : s.cancelNextTick = .ok m) :
    ∃ o, m = { s with oscillator := o, nextTick := none } ∧ o.own = [] := by
  unfold cancelNextTick at hs
  cases hn : s.nextTick with
  | none =>
    rw [hn] at hs
    cases hs
    refine ⟨s.oscillator, ?_, List.eq_nil_iff_forall_not_mem.mpr fun e he => ?_⟩
    · rw [← hn]
    · have hsome := hk e he
      rw [hn] at hsome
      cases hsome
  | some n =>
    rw [hn] at hs
    obtain ⟨o, ho, hs⟩ := bind_ok.mp hs
    cases hs
    refine ⟨o, rfl, ?_⟩
    rw [Oscillator.own_unsubscribeTick h.coherent ho]
    refine List.filter_eq_nil_iff.mpr fun e he => ?_
    have hkey := hk e he
    rw [hn] at hkey
    have hkey : n.key = e.key := Option.some.inj hkey
    have hnext : e.key = Tick.mkKey n.tick n.kind self := by
      obtain ⟨h1, h2, _⟩ := Tick.key_eq.mp hkey
      rw [h1, h2, ← (Oscillator.mem_own.mp he).2]
      rfl
    simp [hnext]

/-- everything but the time, the tick and the oscillator stays -/
structure Untouched (s s' : RealtimeClock) : Prop where
  driftRate : s'.driftRate = s.driftRate
  scheduledEvents : s'.scheduledEvents = s.scheduledEvents
  jumps : s'.jumps = s.jumps
  objects : s'.objects = s.objects
  subscribed : s'.subscribed = s.subscribed
  unsubscribed : s'.unsubscribed = s.unsubscribed
  delivered : s'.delivered = s.delivered

/-- what scheduling computes for a timestamp -/
theorem Sound.idle_eq (h : s.Sound) (hrate : s.rate ≠ 0) (t : SimTime) :
    ⌈(t - s.shown) / (1 / s.rate)⌉ = s.dueAt t - s.tickCount := by
  rw [div_div_eq_mul_div, div_one, ← h.dueAt_updated hrate]
  show _ = (s.tickCount : ℤ) + ⌈(t - s.shown) * s.rate⌉ - s.tickCount
  ring

theorem ceilTicks_ok {q : ℚ} {n : ℕ} : ceilTicks q = .ok n ↔ ⌈q⌉ = n := by
  unfold ceilTicks
  split
  · rename_i hneg
    refine iff_of_false nofun fun heq => ?_
    omega
  · rename_i hnonneg
    rw [Except.ok.injEq]
    omega

/-- a clock that has read the time and subscribed a tick -/
def rearmed (s : RealtimeClock) (tick : Tick) (oscillator : Oscillator) : RealtimeClock :=
  { s.updated with oscillator, nextTick := some tick }

/-- with its tick cancelled, a clock that runs subscribes the tick of its first timestamp -/
theorem scheduleNextTimestamp_eq {x : Timestamp} {xs : List Timestamp}
    (hm : s.cancelNextTick = .ok m) (h : m.Sound) (hq : m.scheduledEvents = x :: xs)
    (hrun : m.isStopped = false) : s.scheduleNextTimestamp = (do
      let idleTicks ← ceilTicks ((x.localTime - m.shown) / (1 / m.rate))
      let (tick, oscillator) ← m.oscillator.settled.subscribeTick self idleTicks 0
      return m.rearmed tick oscillator) := by
  have hrate := ne_of_gt (isStopped_eq_false hrun)
  have hinc : m.updated.timeIncrementPerTick = .ok (1 / m.rate) := if_neg hrate
  unfold scheduleNextTimestamp
  simp only [hm, bind, Except.bind, hq, hrun, Bool.false_eq_true, if_false]
  rw [h.read_eq hrate]
  show (m.updated.timeIncrementPerTick >>= _) = _
  rw [hinc]
  rfl

theorem scheduleNextTimestamp_idle (hm : s.cancelNextTick = .ok m) (ht : m.target = none) :
    s.scheduleNextTimestamp = .ok m := by
  unfold scheduleNextTimestamp
  unfold target at ht
  cases hq : m.scheduledEvents with
  | nil => simp only [hm, bind, Except.bind, hq, pure, Except.pure]
  | cons x xs =>
    rw [hq] at ht
    split at ht
    · rename_i hstop
      simp only [hm, bind, Except.bind, hq, hstop, if_true, pure, Except.pure]
    · cases ht

/-- a tick at the first tick at which the timestamp is reached -/
theorem aimed_rearmed {x : Timestamp} {xs : List Timestamp} {e : Tick} {o : Oscillator}
    (h : m.Sound) (hq : m.scheduledEvents = x :: xs) (hrun : m.isStopped = false)
    (hfreq : o.frequency = m.oscillator.frequency) (hown : o.own = [e])
    (ht : (e.tick : ℤ) = m.dueAt x.localTime) : (m.rearmed e o).Aimed := by
  have hrate := ne_of_gt (isStopped_eq_false hrun)
  have hrate' : (m.rearmed e o).rate = m.rate := by
    show o.frequency + m.driftRate = m.oscillator.frequency + m.driftRate
    rw [hfreq]
  have hstop : (m.rearmed e o).isStopped = false := by
    unfold isStopped
    rw [hrate']
    exact hrun
  have hdue : (m.rearmed e o).dueAt x.localTime = m.dueAt x.localTime := by
    rw [← h.dueAt_updated hrate]
    unfold dueAt
    rw [hrate']
    rfl
  have hq' : (m.rearmed e o).scheduledEvents = x :: xs := hq
  unfold Aimed target
  rw [hstop, if_neg Bool.false_ne_true, hq']
  show List.map _ o.own = [(m.rearmed e o).dueAt x.localTime]
  rw [hown, hdue, ← ht]
  rfl

/-- **Scheduling makes a clock aim at its first timestamp.** -/
theorem scheduleNextTimestamp_aims (h : s.Sound) (hk : s.Known)
    (hs : s.scheduleNextTimestamp = .ok s') : s'.Aimed ∧ s'.Known ∧ Untouched s s' := by
  obtain ⟨m, hm, _⟩ := bind_ok.mp hs
  have hsound := (cancelNextTick_ok h hm).sound
  obtain ⟨o, hmo, hnone⟩ := cancelNextTick_clears h hk hm
  have hkept : Untouched s m := by
    rw [hmo]
    exact ⟨rfl, rfl, rfl, rfl, rfl, rfl, rfl⟩
  have hnone : m.oscillator.own = [] := by
    rw [hmo]
    exact hnone
  clear hmo
  by_cases ht : m.target = none
  · rw [scheduleNextTimestamp_idle hm ht] at hs
    cases hs
    refine ⟨?_, fun e he => ?_, hkept⟩
    · unfold Aimed
      rw [hnone, ht]
      rfl
    · rw [hnone] at he
      cases he
  · obtain ⟨hrun, x, xs, hq⟩ := target_ne_none ht
    rw [scheduleNextTimestamp_eq hm hsound hq hrun] at hs
    obtain ⟨n, hn, hs⟩ := bind_ok.mp hs
    obtain ⟨⟨e, o'⟩, ho', hs⟩ := bind_ok.mp hs
    cases hs
    have hrate := ne_of_gt (isStopped_eq_false hrun)
    have hcoh := hsound.coherent.settled
    obtain ⟨he, hown⟩ := Oscillator.own_subscribeTick hcoh hnone ho'
    have hidle := (ceilTicks_ok.mp hn).symm.trans (hsound.idle_eq hrate x.localTime)
    have h0 : m.oscillator.settled.elapsed = 0 :=
      Oscillator.settled_elapsed hsound.coherent.toRunning
    have htick : e.tick = m.tickCount + n := by
      rw [he]
      show m.tickCount + m.oscillator.settled.elapsed + n = _
      rw [h0, Nat.add_zero]
    refine ⟨aimed_rearmed hsound hq hrun
      (Oscillator.sameCount_subscribeTick hcoh ho').frequency hown ?_, fun y hy => ?_, ?_⟩
    · rw [htick]
      push_cast
      omega
    · change y ∈ o'.own at hy
      rw [hown, List.mem_singleton] at hy
      rw [hy]
      rfl
    · exact ⟨hkept.1, hkept.2, hkept.3, hkept.4, hkept.5, hkept.6, hkept.7⟩

theorem cancelNextTick_total (h : s.Sound) :
    ∃ o, s.cancelNextTick = .ok { s with oscillator := o, nextTick := none } ∧ o.Coherent ∧
      s.oscillator.SameCount o := by
  unfold cancelNextTick
  cases hn : s.nextTick with
  | none =>
    refine ⟨s.oscillator, ?_, h.coherent, .of_eq rfl rfl rfl rfl⟩
    show Except.ok s = .ok { s with nextTick := none }
    rw [← hn]
  | some n =>
    obtain ⟨o, ho⟩ := Oscillator.removeIf_total h.coherent
      fun e => decide (e.key = Tick.mkKey n.tick n.kind self)
    refine ⟨o, ?_, (Oscillator.coherent_removeIf h.coherent ho).1,
      Oscillator.sameCount_removeIf h.coherent ho⟩
    dsimp only
    rw [Oscillator.unsubscribeTick_eq h.coherent, ho]
    rfl

/-- the clock can subscribe a tick for the timestamp: it lies ahead, or it is that of this instant -/
def Reachable (s : RealtimeClock) (t : SimTime) : Prop :=
  s.tickCount < s.dueAt t ∨ s.tickCount = s.dueAt t ∧ s.oscillator.AtTick

instance (s : RealtimeClock) (t : SimTime) : Decidable (s.Reachable t) :=
  inferInstanceAs (Decidable (_ ∨ _ ∧ _))

/-- **Scheduling does not fail** for a timestamp that can be reached. -/
theorem scheduleNextTimestamp_total (h : s.Sound)
    (hx : s.isStopped = false → ∀ x ∈ s.scheduledEvents.head?, s.Reachable x.localTime) :
    ∃ s', s.scheduleNextTimestamp = .ok s' := by
  obtain ⟨o, hm, hco, hsame⟩ := cancelNextTick_total h
  generalize hmo : ({ s with oscillator := o, nextTick := none } : RealtimeClock) = m at hm
  have hsound : m.Sound := by
    rw [← hmo]
    exact ⟨hco, le_trans h.behind hsame.later⟩
  by_cases ht : m.target = none
  · exact ⟨m, scheduleNextTimestamp_idle hm ht⟩
  · obtain ⟨hrun, x, xs, hq⟩ := target_ne_none ht
    have hrate : m.rate = s.rate := by
      rw [← hmo]
      show o.frequency + s.driftRate = s.oscillator.frequency + s.driftRate
      rw [hsame.frequency]
    have hcount : m.tickCount = s.tickCount := by
      rw [← hmo]
      exact hsame.count
    have hat : m.oscillator.AtTick ↔ s.oscillator.AtTick := by
      rw [← hmo]
      exact hsame.atTick
    have hdue : m.dueAt x.localTime = s.dueAt x.localTime := by
      unfold dueAt
      rw [hrate, ← hmo]
    have hreach : m.Reachable x.localTime := by
      unfold Reachable
      rw [hcount, hdue, hat]
      refine hx ?_ x ?_
      · unfold isStopped at hrun ⊢
        rwa [← hrate]
      · rw [← hmo] at hq
        exact Option.mem_def.mpr (congrArg List.head? hq)
    have hpos := ne_of_gt (isStopped_eq_false hrun)
    have hidle := hsound.idle_eq hpos x.localTime
    obtain ⟨n, hn⟩ : ∃ n : ℕ, m.dueAt x.localTime - m.tickCount = n := by
      refine Int.eq_ofNat_of_zero_le ?_
      obtain hlt | ⟨heq, _⟩ := hreach
      · omega
      · omega
    have htimely : 1 ≤ n ∨ m.oscillator.settled.AtTick := by
      obtain hlt | ⟨_, hat⟩ := hreach
      · left
        omega
      · exact .inr ((Oscillator.sameCount_settled hsound.coherent.toRunning).atTick.mpr hat)
    obtain ⟨⟨e, o'⟩, hsub⟩ : ∃ r, m.oscillator.settled.subscribeTick self n 0 = .ok r :=
      ⟨_, Oscillator.subscribeTick_eq hsound.coherent.settled self 0 htimely⟩
    rw [scheduleNextTimestamp_eq hm hsound hq hrun]
    refine ⟨m.rearmed e o', bind_ok.mpr ⟨n, ceilTicks_ok.mpr (hidle.trans hn), ?_⟩⟩
    exact bind_ok.mpr ⟨_, hsub, rfl⟩

/-- scheduling counts no tick twice -/
theorem scheduleNextTimestamp_count (h : s.Sound) (hs : s.scheduleNextTimestamp = .ok s') :
    s'.tickCount = s.tickCount := by
  obtain ⟨o, hm, hco, hsame⟩ := cancelNextTick_total h
  generalize hmo : ({ s with oscillator := o, nextTick := none } : RealtimeClock) = m at hm
  have hsound : m.Sound := by
    rw [← hmo]
    exact ⟨hco, le_trans h.behind hsame.later⟩
  have hcount : m.tickCount = s.tickCount := by
    rw [← hmo]
    exact hsame.count
  by_cases ht : m.target = none
  · rw [scheduleNextTimestamp_idle hm ht] at hs
    cases hs
    exact hcount
  · obtain ⟨hrun, x, xs, hq⟩ := target_ne_none ht
    rw [scheduleNextTimestamp_eq hm hsound hq hrun] at hs
    obtain ⟨n, _, hs⟩ := bind_ok.mp hs
    obtain ⟨⟨e, o'⟩, ho', hs⟩ := bind_ok.mp hs
    cases hs
    have hset := Oscillator.sameCount_settled hsound.coherent.toRunning
    have hsub := Oscillator.sameCount_subscribeTick hsound.coherent.settled ho'
    exact (hset.trans hsub).count.trans hcount

/-- at another frequency the clock knows its tick as before -/
theorem setFrequency_known {f : ℚ} {o : Oscillator} (h : s.Sound) (hk : s.Known) (hf : 0 < f)
    (ho : s.oscillator.setFrequency f = .ok o) :
    { s with oscillator := o }.Sound ∧ { s with oscillator := o }.Known := by
  obtain ⟨_, _, hlast, _⟩ := Oscillator.setFrequency_left h.coherent hf ho
  refine ⟨⟨(Oscillator.coherent_setFrequency h.coherent hf ho).1, ?_⟩, fun e he => ?_⟩
  · show s.lastTick ≤ o.lastTick
    rw [hlast]
    exact le_trans h.behind (Nat.le_add_right _ _)
  · have hkey : e.key ∈ s.oscillator.own.map Tick.key := by
      rw [← Oscillator.own_setFrequency h.coherent hf ho]
      exact List.mem_map_of_mem he
    obtain ⟨e', he', heq⟩ := List.mem_map.mp hkey
    rw [← heq]
    exact hk e' he'

/-! ## the message of the oscillator -/

section handleMessage
variable {tick : Tick} {ticks : List Tick}

/-- a tick of the clock -/
theorem handleMessage_self (h : s.Sound) (hk : s.Known) (hn : s.oscillator.tickEventNow = false)
    (hm : s.oscillator.tickMessage = some s.oscillator.time)
    (hq : s.oscillator.scheduledEvents = tick :: ticks) (hl : tick.listener = self) :
    ∃ o, s.handleMessage = { s with oscillator := o }.onTick ∧ Same s { s with oscillator := o } ∧
      { s with oscillator := o }.rate = s.rate ∧ { s with oscillator := o }.Known ∧
      { s with oscillator := o }.tickCount = tick.tick ∧ o.AtTick := by
  have hcoh := h.coherent
  obtain ⟨e, rest, hq', ht⟩ := Oscillator.due_first hcoh hn hm
  obtain rfl : tick = e := List.head_eq_of_cons_eq (hq.symm.trans hq')
  obtain ⟨o, ho⟩ : ∃ o, s.oscillator.handleMessage = .ok (tick, o) :=
    ⟨_, Oscillator.handleMessage_eq hcoh hq' ht⟩
  obtain ⟨htake, hlast, h0, hat⟩ := Oscillator.handleMessage_takes hcoh hn hm ho
  have hsame := Oscillator.sameCount_handleMessage hcoh hn hm ho
  refine ⟨o, ?_, same_oscillator h (Oscillator.coherent_handleMessage hcoh hn hm ho) hsame, ?_,
    fun y hy => hk y ?_, ?_, hat⟩
  · unfold handleMessage
    rw [ho]
    exact if_pos hl
  · unfold rate
    rw [hsame.frequency]
  · obtain ⟨hyq, hyl⟩ := Oscillator.mem_own.mp hy
    rw [Oscillator.mem_own, htake]
    exact ⟨List.mem_cons_of_mem _ hyq, hyl⟩
  · show o.lastTick + o.elapsed = tick.tick
    rw [hlast, h0, Nat.add_zero]

/-- a tick of another listener -/
theorem handleMessage_other (h : s.Sound) (hn : s.oscillator.tickEventNow = false)
    (hm : s.oscillator.tickMessage = some s.oscillator.time)
    (hq : s.oscillator.scheduledEvents = tick :: ticks) (hl : tick.listener ≠ self) :
    ∃ o, s.handleMessage = .ok { s with oscillator := o } ∧ o.Coherent ∧
      s.oscillator.SameCount o ∧ o.own = s.oscillator.own := by
  have hcoh := h.coherent
  obtain ⟨e, rest, hq', ht⟩ := Oscillator.due_first hcoh hn hm
  obtain rfl : tick = e := List.head_eq_of_cons_eq (hq.symm.trans hq')
  obtain ⟨o, ho⟩ : ∃ o, s.oscillator.handleMessage = .ok (tick, o) :=
    ⟨_, Oscillator.handleMessage_eq hcoh hq' ht⟩
  obtain ⟨htake, _, _, _⟩ := Oscillator.handleMessage_takes hcoh hn hm ho
  refine ⟨o, ?_, Oscillator.coherent_handleMessage hcoh hn hm ho,
    Oscillator.sameCount_handleMessage hcoh hn hm ho, ?_⟩
  · unfold handleMessage
    rw [ho]
    exact if_neg hl
  · unfold Oscillator.own
    rw [htake, List.filter_cons_of_neg (by simpa using hl)]

end handleMessage

end RealtimeClock

end Nesting
