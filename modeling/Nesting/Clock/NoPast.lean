import Nesting.Clock.Drift

/-!
# Nothing is scheduled into the past

* `schedulingTime`   the global time that `subscribeTick` computes for a number of idle ticks;
* `NotPast`          that time, and the one the self-message is scheduled for, are not in the past;
* `idleQuotient`     what `scheduleNextTimestamp` rounds up;
* `Prepares`         the states in which it is called;
* `schedulable`      **a tick of this instant can be subscribed only at the time of a tick.**
-/

set_option linter.unusedVariables false

namespace Nesting

open Lib

namespace Oscillator

variable {s s' : Oscillator}

/-- the global scheduling time of the event that `subscribeTick` makes -/
def schedulingTime (s : Oscillator) (idleTicks : Nat) : Sim SimTime := do
  let (currentTick, s) ← s.updateAndGetTickCount
  s.globalTimeFromTick (currentTick + idleTicks)

/-- the new event and the self-message are not scheduled into the past -/
def NotPast (s : Oscillator) (listener idleTicks kind : Nat) : Prop :=
  (∃ t, s.schedulingTime idleTicks = .ok t ∧ s.time ≤ t) ∧
    ∃ r, s.subscribeTick listener idleTicks kind = .ok r ∧ ∀ m ∈ r.2.tickMessage, s.time ≤ m

/-- a coherent oscillator has its message ahead -/
theorem Coherent.message_ahead (h : s.Coherent) : ∀ m ∈ s.tickMessage, s.time ≤ m := by
  intro m hm
  obtain hfirst | ⟨_, hnone⟩ := h.message
  · rw [hfirst] at hm
    obtain ⟨e, he, rfl⟩ := Option.map_eq_some_iff.mp hm
    exact (h.grid e (List.mem_of_mem_head? he)).ahead
  · rw [hnone] at hm
    cases hm

theorem schedulingTime_eq (h : s.Running) (idleTicks : Nat) :
    s.schedulingTime idleTicks =
      .ok (s.settled.timeOfLastTick + idleTicks / s.frequency) := by
  unfold schedulingTime
  rw [updateAndGetTickCount_eq h]
  refine (globalTimeFromTick_eq (s := s.settled) h.frequency (Nat.le_add_right _ _)).trans ?_
  show Except.ok (s.settled.timeOfLastTick + (s.lastTick + s.elapsed + idleTicks -
    (s.lastTick + s.elapsed) : ℕ) / s.frequency) = _
  rw [Nat.add_sub_cancel_left]

/-- **A tick of this instant can be subscribed only at the time of a tick.** -/
theorem notPast_iff (h : s.Coherent) (listener idleTicks kind : Nat) :
    s.NotPast listener idleTicks kind ↔ 1 ≤ idleTicks ∨ s.AtTick := by
  constructor
  · rintro ⟨_, r, hs, _⟩
    exact subscribeTick_timely h hs
  · intro hi
    have hr := h.toRunning
    have hahead := (newTick_onGrid hr listener kind hi).ahead
    refine ⟨⟨_, schedulingTime_eq hr idleTicks, hahead⟩, ?_⟩
    obtain ⟨⟨e, t⟩, hs⟩ : ∃ r, s.subscribeTick listener idleTicks kind = .ok r :=
      ⟨_, subscribeTick_eq h listener kind hi⟩
    refine ⟨(e, t), hs, fun m hm => ?_⟩
    have hc := (coherent_subscribeTick h hs).1
    have htime := (sameCount_subscribeTick h hs).time
    exact le_of_eq_of_le htime.symm (hc.message_ahead m hm)

end Oscillator

namespace RealtimeClock

variable {s s' c c' : RealtimeClock}

/-- what `scheduleNextTimestamp` rounds up to the number of idle ticks -/
def idleQuotient (s : RealtimeClock) (t : SimTime) : ℚ := (t - s.shown) / (1 / s.rate)

/-- the states of a call, up to that in which it calls `scheduleNextTimestamp` -/
inductive Prepares (s : RealtimeClock) : RealtimeClock → Prop where
  | here : Prepares s s
  | timestamps {c : RealtimeClock} (objects : Nat)
      (scheduledEvents subscribed unsubscribed : List Timestamp) : Prepares s c →
      Prepares s { c with objects, scheduledEvents, subscribed, unsubscribed }
  | driftRate {c : RealtimeClock} (driftRate : ℚ) : Prepares s c → Prepares s { c with driftRate }
  | frequency {c : RealtimeClock} {o : Oscillator} {f : ℚ} : Prepares s c → 0 < f →
      c.oscillator.setFrequency f = .ok o → Prepares s { c with oscillator := o }
  | message {c : RealtimeClock} {o : Oscillator} {tick : Tick} : Prepares s c →
      c.oscillator.tickEventNow = false → c.oscillator.tickMessage = some c.oscillator.time →
      c.oscillator.handleMessage = .ok (tick, o) → Prepares s { c with oscillator := o }
  | read {c c' : RealtimeClock} {t : SimTime} : Prepares s c →
      c.updateAndGetLocalTime = .ok (t, c') → Prepares s c'

theorem Prepares.sound (hp : s.Prepares c) (h : s.Sound) (hk : s.Known) : c.Sound ∧ c.Known := by
  induction hp with
  | here => exact ⟨h, hk⟩
  | timestamps objects scheduledEvents subscribed unsubscribed _ ih => exact ⟨⟨ih.1.1, ih.1.2⟩, ih.2⟩
  | driftRate d _ ih => exact ⟨⟨ih.1.1, ih.1.2⟩, ih.2⟩
  | frequency _ hf ho ih => exact setFrequency_known ih.1 ih.2 hf ho
  | @message c o tick _ hn hm ho ih =>
    obtain ⟨hsound, hknown⟩ := ih
    have hcoh := hsound.coherent
    refine ⟨(same_oscillator hsound (Oscillator.coherent_handleMessage hcoh hn hm ho)
      (Oscillator.sameCount_handleMessage hcoh hn hm ho)).sound, fun e he => hknown e ?_⟩
    obtain ⟨hq, hl⟩ := Oscillator.mem_own.mp he
    rw [Oscillator.mem_own, (Oscillator.handleMessage_takes hcoh hn hm ho).1]
    exact ⟨List.mem_cons_of_mem _ hq, hl⟩
  | read _ hr ih =>
    obtain ⟨_, rfl, rfl⟩ := ih.1.read_ok hr
    exact ⟨ih.1.updated, ih.2⟩

/-- the tick that scheduling subscribes and the self-message are not in the past -/
def NotPast (s : RealtimeClock) : Prop :=
  ∃ s' e, s.scheduleNextTimestamp = .ok s' ∧ s'.oscillator.own = [e] ∧
    s.oscillator.time ≤ e.globalSchedulingTime ∧
    ∀ m ∈ s'.oscillator.tickMessage, s.oscillator.time ≤ m

section
variable {x : Timestamp} {xs : List Timestamp}

/-- scheduling fails for a timestamp that cannot be reached -/
theorem scheduleNextTimestamp_reachable (h : s.Sound) (hq : s.scheduledEvents = x :: xs)
    (hrun : s.isStopped = false) (hs : s.scheduleNextTimestamp = .ok s') :
    s.Reachable x.localTime := by
  obtain ⟨o, hm, hco, hsame⟩ := cancelNextTick_total h
  have hrate : { s with oscillator := o, nextTick := none }.rate = s.rate := by
    unfold rate
    rw [hsame.frequency]
  have hsound : { s with oscillator := o, nextTick := none }.Sound :=
    ⟨hco, le_trans h.behind hsame.later⟩
  have hrun' : { s with oscillator := o, nextTick := none }.isStopped = false := by
    unfold isStopped at hrun ⊢
    rwa [hrate]
  rw [scheduleNextTimestamp_eq hm hsound hq hrun'] at hs
  obtain ⟨n, hn, hs⟩ := bind_ok.mp hs
  obtain ⟨⟨e, o'⟩, ho', _⟩ := bind_ok.mp hs
  have hdue : { s with oscillator := o, nextTick := none }.dueAt x.localTime =
      s.dueAt x.localTime := by
    unfold dueAt
    rw [hrate]
  have hcount : { s with oscillator := o, nextTick := none }.tickCount = s.tickCount := hsame.count
  have hidle := (ceilTicks_ok.mp hn).symm.trans
    (hsound.idle_eq (ne_of_gt (isStopped_eq_false hrun')) x.localTime)
  rw [hdue, hcount] at hidle
  unfold Reachable
  obtain h1 | hat := Oscillator.subscribeTick_timely hco.settled ho'
  · left
    omega
  · have hat' : s.oscillator.AtTick :=
      hsame.atTick.mp ((Oscillator.sameCount_settled hco.toRunning).atTick.mp hat)
    obtain h0 | hpos := Nat.eq_zero_or_pos n
    · right
      exact ⟨by omega, hat'⟩
    · left
      omega

/-- **The tick of a timestamp that can be reached is not in the past.** -/
theorem clock_notPast_iff (h : s.Sound) (hk : s.Known) (hq : s.scheduledEvents = x :: xs)
    (hrun : s.isStopped = false) : s.NotPast ↔ s.Reachable x.localTime := by
  constructor
  · rintro ⟨s', _, hs, _⟩
    exact scheduleNextTimestamp_reachable h hq hrun hs
  · intro hreach
    obtain ⟨s', hs⟩ := scheduleNextTimestamp_total h fun _ y hy => by
      rw [hq] at hy
      cases hy
      exact hreach
    obtain ⟨haim, _, hkept⟩ := scheduleNextTimestamp_aims h hk hs
    have hsame := scheduleNextTimestamp_ok hs h
    have hrate : s'.rate = s.rate := by
      show s'.ideal.clockRate + s'.ideal.driftRate = _
      rw [hsame.ideal]
      rfl
    obtain ⟨e, hown⟩ : ∃ e, s'.oscillator.own = [e] := by
      unfold Aimed target isStopped at haim
      unfold isStopped at hrun
      rw [hrate, hrun, if_neg Bool.false_ne_true, hkept.scheduledEvents, hq] at haim
      obtain ⟨e, he, _⟩ := List.map_eq_singleton_iff.mp haim
      exact ⟨e, he⟩
    have hmem : e ∈ s'.oscillator.own := by
      rw [hown]
      exact List.mem_singleton_self e
    have hgrid := hsame.sound.coherent.grid e (Oscillator.mem_own.mp hmem).1
    refine ⟨s', e, hs, hown, le_of_eq_of_le hsame.time.symm hgrid.ahead, fun m hm => ?_⟩
    exact le_of_eq_of_le hsame.time.symm (hsame.sound.coherent.message_ahead m hm)

/-- a timestamp that is not in the past can be reached if it lies ahead, or at a tick -/
theorem reachable_iff (h : s.Sound) (hrun : s.isStopped = false) {t : SimTime}
    (ht : s.shown ≤ t) : s.Reachable t ↔ s.shown < t ∨ s.oscillator.AtTick := by
  have hrate := isStopped_eq_false hrun
  have hlt : s.tickCount < s.dueAt t ↔ s.shown < t := by
    rw [← not_le, h.reached_iff hrate, not_le]
  have hle : (s.tickCount : ℤ) ≤ s.dueAt t := by
    obtain hlt' | rfl := lt_or_eq_of_le ht
    · exact le_of_lt (hlt.mpr hlt')
    · rw [← h.dueAt_updated (ne_of_gt hrate)]
      show (s.tickCount : ℤ) ≤ s.tickCount + ⌈(s.shown - s.shown) * s.rate⌉
      rw [sub_self, zero_mul, Int.ceil_zero, add_zero]
  unfold Reachable
  rw [hlt]
  constructor
  · rintro (hlt' | ⟨_, hat⟩)
    · exact .inl hlt'
    · exact .inr hat
  · rintro (hlt' | hat)
    · exact .inl hlt'
    · obtain hlt' | heq := lt_or_eq_of_le hle
      · exact .inl (hlt.mp hlt')
      · exact .inr ⟨heq, hat⟩

end

/-- which ticks can be subscribed, by any caller -/
structure Schedulable (s : RealtimeClock) : Prop where
  ticks : ∀ listener idleTicks kind, s.oscillator.NotPast listener idleTicks kind ↔
    1 ≤ idleTicks ∨ s.oscillator.AtTick
  /-- by `scheduleNextTimestamp`, for a timestamp equal to or after the local time -/
  timestamps : ∀ c x xs, s.Prepares c → c.scheduledEvents = x :: xs → c.isStopped = false →
    c.shown ≤ x.localTime → 0 ≤ c.idleQuotient x.localTime ∧
      (c.NotPast ↔ c.shown < x.localTime ∨ c.oscillator.AtTick)

/-- a timestamp that lies ahead, between two ticks; then one at the tick itself -/
def timelyRun : List ClockEvent :=
  [.advance (3 / 2), .subscribeDelta 1 1 0, .oscillator (.subscribeTick 7 1 0), .setClockRate 2,
   .handleMessage, .handled, .advance 2, .handleMessage, .subscribeDelta 2 0 0, .handled]

end RealtimeClock

end Nesting
