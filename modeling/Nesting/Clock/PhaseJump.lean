import Nesting.Clock.Aim
import Nesting.Clock.Punctual

/-!
# Phase jumps

* `pending`        the timestamps that were not delivered yet, also while a jump delivers some;
* `Passing`        what a jump has delivered, what it has still to deliver, and what lies after it;
* `jumped`         a clock after a jump;
* `run_rounds`     **a jump delivers what it passes and leaves the rest**;
* `Heeds`          after a jump the clock is scheduled again before time goes on;
* `Treats`         every timestamp is delivered once, and not before it is reached;
* `jumps_treated`  **clocks that heed this treat every timestamp right.**
-/

set_option linter.unusedVariables false

namespace Nesting

open Lib

namespace RealtimeClock

variable {s s' m : RealtimeClock}

/-! ## the loop of a jump -/

/-- the timestamps whose listeners are still to be notified -/
def pending (s : RealtimeClock) : List Timestamp :=
  match s.jumps with
  | [] => s.scheduledEvents
  | jump :: _ => (Jump.rest jump s.scheduledEvents).getD []

/-- where the iterators of a jump are -/
structure Passing (s : RealtimeClock) (jump : Jump) (done todo rest : List Timestamp) : Prop where
  running : s.jumps = [jump]
  split : s.scheduledEvents = done ++ (todo ++ rest)
  unique : (s.scheduledEvents.map Timestamp.object).Nodup
  current : jump.current = done.getLast?.map Timestamp.object
  bound : jump.bound = rest.head?.map Timestamp.object
  reached : ∀ x ∈ todo, x.localTime ≤ s.localTime

section Passing
variable {jump : Jump} {done todo rest : List Timestamp} {x : Timestamp}

theorem Passing.rest_eq (h : s.Passing jump done todo rest) :
    Jump.rest jump s.scheduledEvents = some (todo ++ rest) := by
  obtain rfl | ⟨ds, d, rfl⟩ := List.eq_nil_or_concat done
  · unfold Jump.rest
    rw [h.current, h.split]
    rfl
  · have hcurrent : jump.current = some d.object := by
      rw [h.current, List.concat_eq_append, List.getLast?_concat]
      rfl
    have hne : ∀ y ∈ ds, decide (y.object ≠ d.object) = true := by
      intro y hy
      have hu := h.unique
      rw [h.split, List.concat_eq_append, List.append_assoc, List.map_append, List.nodup_append] at hu
      refine decide_eq_true (hu.2.2 _ (List.mem_map_of_mem hy) _ ?_)
      exact List.mem_map_of_mem (List.mem_append_left _ (List.mem_singleton_self d))
    unfold Jump.rest
    rw [hcurrent, h.split, List.concat_eq_append, List.append_assoc]
    dsimp only
    rw [List.dropWhile_append_of_pos hne, List.singleton_append,
      List.dropWhile_cons_of_neg (by simp)]

theorem Passing.pending_eq (h : s.Passing jump done todo rest) : s.pending = todo ++ rest := by
  unfold pending
  rw [h.running]
  show (Jump.rest jump s.scheduledEvents).getD [] = _
  rw [h.rest_eq]
  rfl

/-- the last round -/
theorem Passing.last (h : s.Passing jump done [] rest) :
    s.fastForward = .ok { s with scheduledEvents := rest, jumps := [] } := by
  unfold fastForward
  rw [h.running]
  dsimp only
  rw [h.rest_eq]
  exact if_pos h.bound.symm

/-- a round, after which the listener is notified -/
def notified (s : RealtimeClock) (jump : Jump) (x : Timestamp) : RealtimeClock :=
  { s with
    jumps := [⟨some x.object, jump.bound⟩]
    delivered := s.delivered ++ [(x, s.lastTick, s.localTime)] }

theorem Passing.next (h : s.Passing jump done (x :: todo) rest) :
    s.fastForward = .ok (s.notified jump x) ∧
      (s.notified jump x).Passing ⟨some x.object, jump.bound⟩ (done ++ [x]) todo rest := by
  have hne : ((x :: todo) ++ rest).head?.map Timestamp.object ≠ jump.bound := by
    rw [h.bound]
    cases rest with
    | nil => nofun
    | cons y ys =>
      intro heq
      have hu := h.unique
      rw [h.split, List.map_append, List.nodup_append, List.map_append, List.nodup_append] at hu
      exact hu.2.1.2.2 x.object List.mem_cons_self y.object List.mem_cons_self
        (Option.some.inj heq)
  constructor
  · unfold fastForward
    rw [h.running]
    dsimp only
    rw [h.rest_eq]
    exact if_neg hne
  · refine ⟨rfl, ?_, h.unique, ?_, h.bound, fun y hy => h.reached y (List.mem_cons_of_mem _ hy)⟩
    · show s.scheduledEvents = _
      rw [h.split, List.append_assoc]
      rfl
    · rw [List.getLast?_concat]
      rfl

/-- all rounds -/
theorem Passing.rounds (h : s.Passing jump done todo rest) :
    run step s (List.replicate (todo.length + 1) .fastForward) = .ok { s with
      scheduledEvents := rest
      jumps := []
      delivered := s.delivered ++ todo.map fun x => (x, s.lastTick, s.localTime) } := by
  induction todo generalizing s jump done with
  | nil =>
    refine run_cons_ok.mpr ⟨_, h.last, ?_⟩
    rw [List.map_nil, List.append_nil]
    rfl
  | cons x todo ih =>
    obtain ⟨hround, hnext⟩ := h.next
    refine run_cons_ok.mpr ⟨_, hround, (ih hnext).trans ?_⟩
    show Except.ok { s with
      scheduledEvents := rest
      jumps := []
      delivered := s.delivered ++ [(x, s.lastTick, s.localTime)] ++
        todo.map fun x => (x, s.lastTick, s.localTime) } = _
    rw [List.append_assoc]
    rfl

end Passing

/-! ## a jump -/

/-- the timestamps that a jump passes -/
def passed (s : RealtimeClock) (newTime : SimTime) : List Timestamp :=
  if s.localTime < newTime then s.scheduledEvents.filter fun x => decide (x.localTime ≤ newTime)
  else []

/-- the timestamps that a jump leaves -/
def spared (s : RealtimeClock) (newTime : SimTime) : List Timestamp :=
  if s.localTime < newTime then s.scheduledEvents.filter fun x => decide (newTime < x.localTime)
  else s.scheduledEvents

/-- a jump, with all rounds of its loop -/
def rounds (s : RealtimeClock) (newTime : SimTime) : List ClockEvent :=
  .setLocalTime newTime ::
    if s.localTime < newTime then List.replicate ((s.passed newTime).length + 1) .fastForward
    else []

def jumped (s : RealtimeClock) (newTime : SimTime) : RealtimeClock :=
  { s with
    localTime := newTime
    scheduledEvents := s.spared newTime
    delivered := s.delivered ++ (s.passed newTime).map fun x => (x, s.lastTick, newTime) }

/-- in an ordered queue what is passed comes first -/
theorem passed_append (h : Ascending Timestamp.key s.scheduledEvents) {newTime : SimTime}
    (ht : s.localTime < newTime) :
    s.passed newTime = (s.scheduledEvents.takeWhile fun x => decide (x.localTime ≤ newTime)) ∧
      s.spared newTime = s.scheduledEvents.dropWhile fun x => decide (x.localTime ≤ newTime) := by
  have hsorted : s.scheduledEvents.Pairwise fun a b =>
      decide (b.localTime ≤ newTime) = true → decide (a.localTime ≤ newTime) = true := by
    refine h.imp fun hab hb => decide_eq_true ?_
    exact le_trans (Timestamp.localTime_le_of_key_lt hab) (of_decide_eq_true hb)
  obtain ⟨h1, h2⟩ := filter_eq_takeWhile hsorted
  unfold passed spared
  rw [if_pos ht, if_pos ht]
  refine ⟨h1, Eq.trans ?_ h2⟩
  refine List.filter_congr fun x _ => ?_
  rw [← decide_not]
  exact decide_eq_decide.mpr not_le.symm

/-- the loop of a jump starts with the first timestamp -/
theorem passing_setLocalTime (h : Ascending Timestamp.key s.scheduledEvents)
    (hu : (s.scheduledEvents.map Timestamp.object).Nodup) (hj : s.jumps = []) {newTime : SimTime}
    (ht : s.localTime < newTime) : ∃ jump,
      (s.setLocalTime newTime).Passing jump [] (s.passed newTime) (s.spared newTime) := by
  obtain ⟨hpassed, hspared⟩ := passed_append h ht
  unfold setLocalTime
  rw [if_pos ht, hj]
  refine ⟨_, rfl, ?_, hu, rfl, ?_, fun x hx => ?_⟩
  · rw [hpassed, hspared, List.takeWhile_append_dropWhile]
    rfl
  · rw [hspared]
  · unfold passed at hx
    rw [if_pos ht] at hx
    exact of_decide_eq_true (List.mem_filter.mp hx).2

/-- **A jump delivers what it passes, and leaves the rest.** -/
theorem run_rounds (h : Ascending Timestamp.key s.scheduledEvents)
    (hu : (s.scheduledEvents.map Timestamp.object).Nodup) (hj : s.jumps = []) (newTime : SimTime) :
    run step s (s.rounds newTime) = .ok (s.jumped newTime) := by
  unfold rounds
  by_cases ht : s.localTime < newTime
  · rw [if_pos ht]
    obtain ⟨jump, hpass⟩ := passing_setLocalTime h hu hj ht
    refine run_cons_ok.mpr ⟨_, rfl, hpass.rounds.trans ?_⟩
    unfold setLocalTime
    rw [if_pos ht]
    unfold jumped
    rw [hj]
  · rw [if_neg ht]
    refine run_cons_ok.mpr ⟨_, rfl, ?_⟩
    unfold setLocalTime jumped passed spared
    rw [if_neg ht, if_neg ht, if_neg ht, List.map_nil, List.append_nil]
    rfl

/-! ## the records -/

structure Booked (s : RealtimeClock) : Prop where
  sound : s.Sound
  known : s.Known
  ascending : Ascending Timestamp.key s.scheduledEvents
  ledger : Ledger Timestamp.object s.objects s.subscribed (s.delivered.map Prod.fst) s.unsubscribed
    s.pending
  reached : ∀ d ∈ s.delivered, d.1.localTime ≤ d.2.2
  loop : s.jumps = [] ∨ ∃ jump done todo rest, s.Passing jump done todo rest

theorem Booked.unique (h : s.Booked) (hj : s.jumps = []) :
    (s.scheduledEvents.map Timestamp.object).Nodup := by
  have hpending : s.pending = s.scheduledEvents := by
    unfold pending
    rw [hj]
  have hnodup := (h.ledger.once.map Timestamp.object).nodup_iff.mp h.ledger.distinct
  rw [List.map_append, List.nodup_append, hpending] at hnodup
  exact hnodup.2.1

/-- the time is read, the tick changes, and the oscillator goes on -/
theorem Booked.congr (h : s.Booked) (hs : s'.Sound) (hk : s'.Known) (hu : Untouched s s')
    (hl : s.jumps = [] ∨ s.localTime ≤ s'.localTime) : s'.Booked := by
  have hpending : s'.pending = s.pending := by
    unfold pending
    rw [hu.jumps, hu.scheduledEvents]
  refine ⟨hs, hk, ?_, ?_, ?_, ?_⟩
  · rw [hu.scheduledEvents]
    exact h.ascending
  · rw [hpending, hu.objects, hu.subscribed, hu.unsubscribed, hu.delivered]
    exact h.ledger
  · rw [hu.delivered]
    exact h.reached
  · rw [hu.jumps]
    obtain hj | ⟨jump, done, todo, rest, hp⟩ := h.loop
    · exact .inl hj
    · right
      have hle := hl.resolve_left fun hj => by
        rw [hp.running] at hj
        cases hj
      refine ⟨jump, done, todo, rest, hu.jumps.trans hp.running, ?_, ?_, hp.current, hp.bound,
        fun x hx => le_trans (hp.reached x hx) hle⟩
      · rw [hu.scheduledEvents]
        exact hp.split
      · rw [hu.scheduledEvents]
        exact hp.unique

/-- **Scheduling keeps the records, and aims at the first timestamp.** -/
theorem Booked.schedule (h : s.Booked) (hj : s.jumps = []) (hs : s.scheduleNextTimestamp = .ok s') :
    s'.Booked ∧ s'.Aimed ∧ Untouched s s' := by
  obtain ⟨haim, hk, hu⟩ := scheduleNextTimestamp_aims h.sound h.known hs
  exact ⟨h.congr (scheduleNextTimestamp_ok hs h.sound).sound hk hu (.inl hj), haim, hu⟩

theorem Booked.with_oscillator (h : s.Booked) {o : Oscillator} (hc : o.Coherent)
    (hsame : s.oscillator.SameCount o) (hown : o.own = s.oscillator.own) :
    { s with oscillator := o }.Booked := by
  refine h.congr (same_oscillator h.sound hc hsame).sound ?_ ⟨rfl, rfl, rfl, rfl, rfl, rfl, rfl⟩
    (.inr (le_refl _))
  intro e he
  exact h.known e (hown ▸ he)

theorem Booked.updated (h : s.Booked) (hl : s.jumps = [] ∨ 0 ≤ s.rate) : s.updated.Booked := by
  refine h.congr h.sound.updated h.known ⟨rfl, rfl, rfl, rfl, rfl, rfl, rfl⟩ (hl.imp_right ?_)
  intro hrate
  have := mul_nonneg (Nat.cast_nonneg (α := ℚ) (s.tickCount - s.lastTick))
    (one_div_nonneg.mpr hrate)
  show s.localTime ≤ s.localTime + (s.tickCount - s.lastTick : ℕ) * (1 / s.rate)
  linarith

theorem Booked.insert (h : s.Booked) (hj : s.jumps = []) {x : Timestamp} (hx : x.object = s.objects)
    (hnew : ∀ y ∈ s.scheduledEvents, y.key ≠ x.key) : Booked { s with
      objects := s.objects + 1
      scheduledEvents := insertAt Timestamp.key x s.scheduledEvents
      subscribed := s.subscribed ++ [x] } := by
  have hledger := h.ledger
  unfold pending at hledger
  rw [hj] at hledger
  refine ⟨⟨h.sound.1, h.sound.2⟩, h.known, h.ascending.insertAt hnew, ?_, h.reached, .inl hj⟩
  unfold pending
  dsimp only
  rw [hj]
  exact hledger.insert Timestamp.key hx

theorem Booked.remove (h : s.Booked) (hj : s.jumps = []) (p : Timestamp → Bool) : Booked { s with
      scheduledEvents := s.scheduledEvents.filter fun x => !p x
      unsubscribed := s.unsubscribed ++ s.scheduledEvents.filter p } := by
  have hledger := h.ledger
  unfold pending at hledger
  rw [hj] at hledger
  refine ⟨⟨h.sound.1, h.sound.2⟩, h.known, h.ascending.filter _, ?_, h.reached, .inl hj⟩
  unfold pending
  dsimp only
  rw [hj]
  exact hledger.remove p

/-- the first timestamp is delivered -/
theorem Booked.deliver (h : s.Booked) (hj : s.jumps = []) {x : Timestamp} {xs : List Timestamp}
    (hq : s.scheduledEvents = x :: xs) {n : ℕ} {t : SimTime} (ht : x.localTime ≤ t) :
    Booked { s with
      scheduledEvents := xs
      delivered := s.delivered ++ [(x, n, t)] } := by
  have hledger := h.ledger
  unfold pending at hledger
  rw [hj, hq] at hledger
  have hasc := h.ascending
  rw [hq] at hasc
  refine ⟨⟨h.sound.1, h.sound.2⟩, h.known, hasc.tail, ?_, ?_, .inl hj⟩
  · unfold pending
    dsimp only
    rw [hj, List.map_append]
    exact hledger.deliver
  · intro d hd
    obtain hd | hd := List.mem_append.mp hd
    · exact h.reached d hd
    · rw [List.mem_singleton.mp hd]
      exact ht

/-! ## calls -/

theorem subscribeTimestamp_booked {listener kind : Nat} {eventTime : SimTime} {x : Timestamp}
    (h : s.Booked) (hj : s.jumps = [])
    (hs : s.subscribeTimestamp listener eventTime kind = .ok (x, s')) : s'.Booked ∧ s'.Aimed := by
  unfold subscribeTimestamp at hs
  dsimp only at hs
  split at hs
  · obtain ⟨m, hm, hs⟩ := bind_ok.mp hs
    cases hs
    have hmore : { s with objects := s.objects + 1 }.Booked :=
      ⟨⟨h.sound.1, h.sound.2⟩, h.known, h.ascending, h.ledger.more (Nat.le_succ _), h.reached, .inl hj⟩
    obtain ⟨hb, ha, _⟩ := hmore.schedule hj hm
    exact ⟨hb, ha⟩
  · rename_i hnone
    obtain ⟨m, hm, hs⟩ := bind_ok.mp hs
    cases hs
    obtain ⟨hb, ha, _⟩ := (h.insert hj (x := s.newTimestamp listener eventTime kind) rfl
      ((lookup_eq_none h.ascending).mp hnone)).schedule hj hm
    exact ⟨hb, ha⟩

theorem unsubscribeTimestamp_booked {listener kind : Nat} {localTime : SimTime} (h : s.Booked)
    (hj : s.jumps = []) (hs : s.unsubscribeTimestamp listener localTime kind = .ok s') :
    s'.Booked ∧ s'.Aimed := by
  unfold unsubscribeTimestamp at hs
  dsimp only at hs
  rw [removeAt_eq h.ascending, lookup_toList h.ascending] at hs
  simp only [decide_not, ne_eq] at hs
  obtain ⟨hb, ha, _⟩ := (h.remove hj
    fun x => decide (x.key = Timestamp.mkKey localTime kind listener)).schedule hj hs
  exact ⟨hb, ha⟩

theorem setDriftRate_booked {d : ℚ} (h : s.Booked) (hj : s.jumps = [])
    (hs : s.setDriftRate d = .ok s') : s'.Booked ∧ s'.Aimed := by
  have hdrift : { s with driftRate := d }.Booked :=
    ⟨⟨h.sound.1, h.sound.2⟩, h.known, h.ascending, h.ledger, h.reached, .inl hj⟩
  obtain ⟨hb, ha, _⟩ := hdrift.schedule hj hs
  exact ⟨hb, ha⟩

theorem setClockRate_booked {f : ℚ} (h : s.Booked) (hj : s.jumps = []) (hf : 0 < f)
    (hs : s.setClockRate f = .ok s') : s'.Booked ∧ s'.Aimed := by
  obtain ⟨o, ho, hs⟩ := bind_ok.mp hs
  obtain ⟨hsound, hknown⟩ := setFrequency_known h.sound h.known hf ho
  obtain ⟨hb, ha, _⟩ := (h.congr hsound hknown ⟨rfl, rfl, rfl, rfl, rfl, rfl, rfl⟩
    (.inl hj)).schedule hj hs
  exact ⟨hb, ha⟩

/-! ## ticks -/

theorem onTick_booked (h : s.Booked) (hj : s.jumps = []) {x : Timestamp} {xs : List Timestamp}
    (hq : s.scheduledEvents = x :: xs) (hx : x.localTime ≤ s.shown) (hs : s.onTick = .ok s') :
    s'.Booked ∧ s'.Aimed ∧ s'.scheduledEvents = xs ∧
      ∃ n, s'.delivered = s.delivered ++ [(x, n, s.shown)] := by
  unfold onTick at hs
  rw [hq] at hs
  obtain ⟨_, _, hs⟩ := bind_ok.mp hs
  obtain ⟨⟨t, m⟩, hu, hs⟩ := bind_ok.mp hs
  obtain ⟨m', hm', hs⟩ := bind_ok.mp hs
  cases hs
  have hsound : { s with scheduledEvents := xs }.Sound := ⟨h.sound.1, h.sound.2⟩
  obtain ⟨_, rfl, rfl⟩ := hsound.read_ok hu
  obtain ⟨haim, hk, hkept⟩ := scheduleNextTimestamp_aims hsound.updated h.known hm'
  have hsound' := (scheduleNextTimestamp_ok hm' hsound.updated).sound
  have hd : m'.delivered = s.delivered := hkept.delivered
  refine ⟨?_, haim, hkept.scheduledEvents, m'.lastTick, ?_⟩
  · refine (h.deliver hj hq (n := m'.lastTick) hx).congr ⟨hsound'.1, hsound'.2⟩ hk ?_ (.inl hj)
    refine ⟨hkept.1, hkept.2, hkept.3, hkept.4, hkept.5, hkept.6, ?_⟩
    show m'.delivered ++ _ = s.delivered ++ _
    rw [hd]
    rfl
  · show m'.delivered ++ _ = s.delivered ++ _
    rw [hd]
    rfl

/-- a later timestamp is not due before -/
theorem dueAt_mono (hrate : 0 < s.rate) {t t' : SimTime} (h : t ≤ t') : s.dueAt t ≤ s.dueAt t' := by
  unfold dueAt
  have hmul := mul_le_mul_of_nonneg_right (sub_le_sub_right h s.localTime) (le_of_lt hrate)
  have := Int.ceil_le_ceil hmul
  omega

/-- **The assertions of `onTick` hold** at the tick of the first timestamp, if it was not read. -/
theorem onTick_total (h : s.Booked) (hrate : 0 < s.rate) (hat : s.oscillator.AtTick)
    {x : Timestamp} {xs : List Timestamp} (hq : s.scheduledEvents = x :: xs)
    (hx : s.dueAt x.localTime = s.tickCount) (hle : s.localTime ≤ x.localTime) :
    ∃ s', s.onTick = .ok s' := by
  have hsound : { s with scheduledEvents := xs }.Sound := ⟨h.sound.1, h.sound.2⟩
  have hcount : s.oscillator.settled.lastTick + s.oscillator.settled.elapsed = s.tickCount :=
    (Oscillator.sameCount_settled h.sound.coherent.toRunning).count
  obtain ⟨m, hm⟩ := scheduleNextTimestamp_total hsound.updated fun _ y hy => by
    have hxy : x.localTime ≤ y.localTime := by
      have hasc := h.ascending
      rw [hq] at hasc
      exact Timestamp.localTime_le_of_key_lt (hasc.head_lt (List.mem_of_mem_head? hy))
    have hmono := dueAt_mono hrate hxy
    have hdue : { s with scheduledEvents := xs }.updated.dueAt y.localTime = s.dueAt y.localTime :=
      hsound.dueAt_updated (ne_of_gt hrate) y.localTime
    have hcount' : { s with scheduledEvents := xs }.updated.tickCount = s.tickCount := hcount
    unfold Reachable
    rw [hdue, hcount']
    obtain hlt | heq := lt_or_eq_of_le hmono
    · exact .inl (hx ▸ hlt)
    · right
      exact ⟨hx.symm.trans heq,
        (Oscillator.sameCount_settled h.sound.coherent.toRunning).atTick.mpr hat⟩
  refine ⟨{ m with delivered := m.delivered ++ [(x, m.lastTick, s.shown)] }, ?_⟩
  unfold onTick
  rw [hq]
  dsimp only
  rw [decide_eq_true hle]
  refine bind_ok.mpr ⟨(), rfl, ?_⟩
  refine bind_ok.mpr ⟨_, hsound.read_eq (ne_of_gt hrate), ?_⟩
  exact bind_ok.mpr ⟨m, hm, rfl⟩

/-- a tick of the clock that aims at its first timestamp -/
theorem handleMessage_aimed (h : s.Booked) (hj : s.jumps = [])
    (hn : s.oscillator.tickEventNow = false)
    (hm : s.oscillator.tickMessage = some s.oscillator.time) (haim : s.Aimed) {tick : Tick}
    {ticks : List Tick} (hq : s.oscillator.scheduledEvents = tick :: ticks)
    (hl : tick.listener = self) : ∃ o x xs, s.handleMessage = { s with oscillator := o }.onTick ∧
      s.scheduledEvents = x :: xs ∧ 0 < s.rate ∧ { s with oscillator := o }.rate = s.rate ∧
      { s with oscillator := o }.Booked ∧ o.AtTick ∧ s.dueAt x.localTime = tick.tick ∧
      { s with oscillator := o }.dueAt x.localTime = { s with oscillator := o }.tickCount ∧
      { s with oscillator := o }.shown = s.shown := by
  obtain ⟨o, htick, hclock, hrate, hknown, hcount, hat⟩ :=
    handleMessage_self h.sound h.known hn hm hq hl
  have hmem : tick ∈ s.oscillator.own := by
    rw [Oscillator.mem_own, hq]
    exact ⟨List.mem_cons_self, hl⟩
  obtain ⟨x, xs, hx, hrun, hdue, _⟩ := haim.running hmem
  refine ⟨o, x, xs, htick, hx, isStopped_eq_false hrun, hrate, h.congr hclock.sound hknown
    ⟨rfl, rfl, rfl, rfl, rfl, rfl, rfl⟩ (.inl hj), hat, hdue, ?_, ?_⟩
  · have hdue' : { s with oscillator := o }.dueAt x.localTime = s.dueAt x.localTime := by
      unfold dueAt
      rw [hrate]
    rw [hdue', hdue, hcount]
  · exact congrArg IdealClock.localTime hclock.ideal

/-! ## what a clock heeds -/

/-- a jump notifies no listener that calls the clock again, and unless it leaves the first timestamp at
its tick, the clock is scheduled before time goes on or its tick is handled; that tick was not read -/
def Heeds (s : RealtimeClock) (e : ClockEvent) : Prop :=
  match e with
  | .advance t => s.oscillator.time < t → s.Aimed
  | .handleMessage => ∀ tick ∈ s.oscillator.scheduledEvents.head?, tick.listener = self →
    s.Aimed ∧ s.Unread
  | .subscribeTimestamp .. | .subscribeDelta .. | .unsubscribeTimestamp .. | .setLocalTime _ |
    .setDriftRate _ => s.jumps = []
  | .setClockRate f => 0 < f ∧ s.jumps = []
  | .updateAndGetLocalTime => s.jumps = [] ∨ 0 ≤ s.rate
  | .handled | .fastForward | .oscillator _ => True

instance (s : RealtimeClock) (e : ClockEvent) : Decidable (s.Heeds e) :=
  match e with
  | .advance t => inferInstanceAs (Decidable (s.oscillator.time < t → s.Aimed))
  | .handleMessage => inferInstanceAs (Decidable (∀ tick ∈ _, _ → _ ∧ _))
  | .subscribeTimestamp .. | .subscribeDelta .. | .unsubscribeTimestamp .. | .setLocalTime _ |
    .setDriftRate _ => inferInstanceAs (Decidable (s.jumps = []))
  | .setClockRate f => inferInstanceAs (Decidable (0 < f ∧ s.jumps = []))
  | .updateAndGetLocalTime => inferInstanceAs (Decidable (s.jumps = [] ∨ 0 ≤ s.rate))
  | .handled | .fastForward | .oscillator _ => inferInstanceAs (Decidable True)

/-- a call that schedules the next timestamp -/
def Schedules (e : ClockEvent) : Prop :=
  match e with
  | .subscribeTimestamp .. | .subscribeDelta .. | .unsubscribeTimestamp .. | .setClockRate _ |
    .setDriftRate _ => True
  | _ => False

def IsJump (e : ClockEvent) : Prop :=
  match e with
  | .setLocalTime _ | .fastForward => True
  | _ => False

theorem Aimed.with_oscillator (h : s.Aimed) {o : Oscillator} (hown : o.own = s.oscillator.own)
    (hfreq : o.frequency = s.oscillator.frequency) : { s with oscillator := o }.Aimed := by
  have hrate : { s with oscillator := o }.rate = s.rate := by
    unfold rate
    rw [hfreq]
  have htarget : { s with oscillator := o }.target = s.target := by
    unfold target isStopped dueAt
    rw [hrate]
  unfold Aimed
  rw [hown, htarget]
  exact h

theorem Aimed.updated (h : s.Aimed) (hs : s.Sound) (hrate : s.rate ≠ 0) : s.updated.Aimed := by
  have htarget : s.updated.target = s.target := by
    unfold target
    refine congrArg (fun f => if s.isStopped then none else s.scheduledEvents.head?.map f) ?_
    funext x
    exact hs.dueAt_updated hrate x.localTime
  unfold Aimed
  rw [htarget]
  exact h

theorem booked_setLocalTime (h : s.Booked) (hj : s.jumps = []) (newTime : SimTime) :
    (s.setLocalTime newTime).Booked := by
  have hledger := h.ledger
  unfold pending at hledger
  rw [hj] at hledger
  by_cases ht : s.localTime < newTime
  · obtain ⟨jump, hpass⟩ := passing_setLocalTime h.ascending (h.unique hj) hj ht
    have hpending : (s.setLocalTime newTime).pending = s.scheduledEvents := by
      obtain ⟨hpassed, hspared⟩ := passed_append h.ascending ht
      rw [hpass.pending_eq, hpassed, hspared, List.takeWhile_append_dropWhile]
    unfold setLocalTime at hpass hpending ⊢
    rw [if_pos ht] at hpass hpending ⊢
    refine ⟨⟨h.sound.1, h.sound.2⟩, h.known, h.ascending, ?_, h.reached, .inr ⟨_, _, _, _, hpass⟩⟩
    rw [hpending]
    exact hledger
  · unfold setLocalTime
    rw [if_neg ht]
    exact ⟨⟨h.sound.1, h.sound.2⟩, h.known, h.ascending, h.ledger, h.reached, .inl hj⟩

theorem booked_fastForward (h : s.Booked) (hs : s.fastForward = .ok s') : s'.Booked := by
  obtain hj | ⟨jump, done, todo, rest, hpass⟩ := h.loop
  · unfold fastForward at hs
    rw [hj] at hs
    cases hs
  · have hledger := h.ledger
    rw [hpass.pending_eq] at hledger
    have hasc := h.ascending
    rw [hpass.split] at hasc
    cases todo with
    | nil =>
      rw [hpass.last] at hs
      cases hs
      have hrest := (List.pairwise_append.mp hasc).2.1
      exact ⟨⟨h.sound.1, h.sound.2⟩, h.known, hrest, hledger, h.reached, .inl rfl⟩
    | cons x todo =>
      obtain ⟨hround, hnext⟩ := hpass.next
      rw [hround] at hs
      cases hs
      refine ⟨⟨h.sound.1, h.sound.2⟩, h.known, h.ascending, ?_, ?_, .inr ⟨_, _, _, _, hnext⟩⟩
      · rw [hnext.pending_eq]
        show Ledger _ _ _ ((s.delivered ++ [_]).map Prod.fst) _ _
        rw [List.map_append]
        exact hledger.deliver
      · intro d hd
        obtain hd | hd := List.mem_append.mp hd
        · exact h.reached d hd
        · rw [List.mem_singleton.mp hd]
          exact hpass.reached x List.mem_cons_self

/-- **A step keeps the records**, and of all steps only a jump leaves the tick behind. -/
theorem booked_step {e : ClockEvent} (h : s.Booked) (ha : s.Heeds e) (hs : s.step e = .ok s') :
    s'.Booked ∧ (Schedules e ∨ (¬IsJump e ∧ s.Aimed) → s'.Aimed) := by
  have hsch : s'.Booked ∧ s'.Aimed → s'.Booked ∧ (Schedules e ∨ (¬IsJump e ∧ s.Aimed) → s'.Aimed) :=
    fun hb => ⟨hb.1, fun _ => hb.2⟩
  have hother : ¬Schedules e → s'.Booked ∧ (s.Aimed → s'.Aimed) →
      s'.Booked ∧ (Schedules e ∨ (¬IsJump e ∧ s.Aimed) → s'.Aimed) :=
    fun hne hb => ⟨hb.1, fun hor => hb.2 (hor.resolve_left hne).2⟩
  have hjump : IsJump e → ¬Schedules e → s'.Booked →
      s'.Booked ∧ (Schedules e ∨ (¬IsJump e ∧ s.Aimed) → s'.Aimed) :=
    fun hj hne hb => ⟨hb, fun hor => absurd hj (hor.resolve_left hne).1⟩
  cases e with
  | advance t =>
    refine hother id ?_
    by_cases hcan : s.oscillator.CanAdvance t ∧ s.jumps = []
    · rw [step, if_pos hcan] at hs
      cases hs
      have hsound := (advance_ok h.sound hcan.1).1
      exact ⟨h.congr hsound h.known ⟨rfl, rfl, rfl, rfl, rfl, rfl, rfl⟩ (.inl hcan.2), id⟩
    · rw [step, if_neg hcan] at hs
      cases hs
  | handleMessage =>
    refine hother id ?_
    by_cases hdue : s.oscillator.tickEventNow = false ∧
        s.oscillator.tickMessage = some s.oscillator.time ∧ s.jumps = []
    · rw [step, if_pos hdue] at hs
      obtain ⟨tick, ticks, hq, _⟩ := Oscillator.due_first h.sound.coherent hdue.1 hdue.2.1
      by_cases hl : tick.listener = self
      · obtain ⟨haim, _⟩ := ha tick (by rw [hq]; rfl) hl
        obtain ⟨o, x, xs, htick, hx, hrate, hrate', hb, _, _, hcount, _⟩ :=
          handleMessage_aimed h hdue.2.2 hdue.1 hdue.2.1 haim hq hl
        rw [htick] at hs
        rw [← hrate'] at hrate
        obtain ⟨hb', haim', _⟩ := onTick_booked hb hdue.2.2 hx
          ((hb.sound.reached_iff hrate).mp (le_of_eq hcount)) hs
        exact ⟨hb', fun _ => haim'⟩
      · obtain ⟨o, htick, hc, hsame, hown⟩ := handleMessage_other h.sound hdue.1 hdue.2.1 hq hl
        rw [htick] at hs
        cases hs
        exact ⟨h.with_oscillator hc hsame hown,
          fun haim => haim.with_oscillator hown hsame.frequency⟩
    · rw [step, if_neg hdue] at hs
      cases hs
  | handled =>
    refine hother id ?_
    by_cases hn : s.oscillator.tickEventNow = true ∧ s.jumps = []
    · rw [step, if_pos hn] at hs
      obtain ⟨o, ho, hs⟩ := bind_ok.mp hs
      cases hs
      have hcoh := h.sound.coherent
      have hsame := Oscillator.sameCount_handled hcoh ho
      have hown := Oscillator.own_handled hcoh ho
      exact ⟨h.with_oscillator (Oscillator.coherent_handled hcoh ho).1 hsame hown,
        fun haim => haim.with_oscillator hown hsame.frequency⟩
    · rw [step, if_neg hn] at hs
      cases hs
  | updateAndGetLocalTime =>
    refine hother id ?_
    obtain ⟨⟨t, m⟩, hm, rfl⟩ := map_ok.mp hs
    obtain ⟨hrate, rfl, rfl⟩ := h.sound.read_ok hm
    exact ⟨h.updated ha, fun haim => haim.updated h.sound hrate⟩
  | subscribeTimestamp listener eventTime kind =>
    obtain ⟨⟨x, m⟩, hm, rfl⟩ := map_ok.mp hs
    exact hsch (subscribeTimestamp_booked h ha hm)
  | subscribeDelta listener delta kind =>
    obtain ⟨⟨x, m⟩, hm, rfl⟩ := map_ok.mp hs
    obtain ⟨⟨t, m'⟩, hu, hm⟩ := bind_ok.mp hm
    obtain ⟨_, rfl, rfl⟩ := h.sound.read_ok hu
    exact hsch (subscribeTimestamp_booked (h.updated (.inl ha)) ha hm)
  | unsubscribeTimestamp listener localTime kind =>
    exact hsch (unsubscribeTimestamp_booked h ha hs)
  | setLocalTime newTime =>
    cases hs
    exact hjump trivial id (booked_setLocalTime h ha newTime)
  | fastForward => exact hjump trivial id (booked_fastForward h hs)
  | setClockRate f => exact hsch (setClockRate_booked h ha.2 ha.1 hs)
  | setDriftRate d => exact hsch (setDriftRate_booked h ha hs)
  | oscillator e =>
    refine hother id ?_
    by_cases he : Foreign e
    · rw [step, if_pos he] at hs
      obtain ⟨o, ho, hs⟩ := bind_ok.mp hs
      cases hs
      obtain ⟨hc, hsame⟩ := Oscillator.sameCount_foreign h.sound.coherent he ho
      have hown := Oscillator.own_foreign h.sound.coherent he ho
      exact ⟨h.with_oscillator hc hsame hown,
        fun haim => haim.with_oscillator hown hsame.frequency⟩
    · rw [step, if_neg he] at hs
      cases hs

/-! ## runs -/

/-- after the jump the first timestamp is as many ticks ahead as the first one was before -/
def Lands (s : RealtimeClock) (newTime : SimTime) : Prop :=
  s.isStopped = true ∨
    ((s.spared newTime).head?.map fun x => ⌈(x.localTime - newTime) * s.rate⌉) =
      s.scheduledEvents.head?.map fun x => ⌈(x.localTime - s.localTime) * s.rate⌉

/-- **Only such a jump leaves the tick of the first timestamp subscribed.** -/
theorem aimed_jumped_iff (h : s.Aimed) (newTime : SimTime) :
    (s.jumped newTime).Aimed ↔ s.Lands newTime := by
  have hstop : (s.jumped newTime).isStopped = s.isStopped := rfl
  have hiff : (s.jumped newTime).Aimed ↔ s.target = (s.jumped newTime).target := by
    have hown : (s.jumped newTime).Aimed ↔ s.target.toList = (s.jumped newTime).target.toList := by
      rw [← show _ = s.target.toList from h]
      rfl
    rw [hown]
    cases s.target <;> cases (s.jumped newTime).target <;> simp
  have hdue : ∀ (c : RealtimeClock) (l : List Timestamp), (l.head?.map fun x => c.dueAt x.localTime) =
      (l.head?.map fun x => ⌈(x.localTime - c.localTime) * c.rate⌉).map ((c.lastTick : ℤ) + ·) := by
    intro c l
    rw [Option.map_map]
    rfl
  rw [hiff]
  unfold Lands target
  rw [hstop]
  cases s.isStopped with
  | true => exact iff_of_true rfl (.inl rfl)
  | false =>
    rw [if_neg Bool.false_ne_true, if_neg Bool.false_ne_true, hdue, hdue]
    show Option.map ((s.lastTick : ℤ) + ·) _ = Option.map ((s.lastTick : ℤ) + ·) _ ↔ _
    rw [(Option.map_injective (add_right_injective (s.lastTick : ℤ))).eq_iff, eq_comm]
    exact (or_iff_right nofun).symm

/-- the timestamps of a run so far, each with an object of its own, and what is done next -/
structure Treats (s : RealtimeClock) : Prop where
  once : s.subscribed.Perm (s.delivered.map Prod.fst ++ s.unsubscribed ++ s.pending)
  distinct : (s.subscribed.map Timestamp.object).Nodup
  /-- not before the local time has reached them -/
  reached : ∀ d ∈ s.delivered, d.1.localTime ≤ d.2.2
  /-- a jump delivers what it passes, and leaves the rest -/
  jumps : s.jumps = [] → ∀ newTime, run step s (s.rounds newTime) = .ok (s.jumped newTime)
  /-- also when the listeners that are notified read the clock or call the oscillator -/
  round : s.jumps ≠ [] → ∃ s', s.step .fastForward = .ok s' ∧
    ((s'.jumps = [] ∧ s'.delivered = s.delivered ∧ s'.pending = s.pending) ∨
      ∃ x, s.pending = x :: s'.pending ∧ s'.delivered = s.delivered ++ [(x, s.lastTick, s.localTime)])
  /-- the assertions hold, and the first timestamp is delivered -/
  due : s.jumps = [] → s.oscillator.tickEventNow = false →
    s.oscillator.tickMessage = some s.oscillator.time → s.Heeds .handleMessage →
    ∀ tick ∈ s.oscillator.scheduledEvents.head?, tick.listener = self → ∃ x xs s' n,
      s.scheduledEvents = x :: xs ∧ s.step .handleMessage = .ok s' ∧ s'.scheduledEvents = xs ∧
        s'.delivered = s.delivered ++ [(x, n, s.shown)]
  /-- only a jump leaves the tick behind, unless it lands -/
  aims : ∀ e s', s.Heeds e → s.step e = .ok s' → Schedules e ∨ (¬IsJump e ∧ s.Aimed) → s'.Aimed
  lands : s.Aimed → ∀ newTime, (s.jumped newTime).Aimed ↔ s.Lands newTime

theorem Booked.treats (h : s.Booked) : s.Treats := by
  refine ⟨h.ledger.once, h.ledger.distinct, h.reached, fun hj newTime => ?_, fun hj => ?_,
    fun hj hn hm ha tick htick hl => ?_, fun e s' ha hs => (booked_step h ha hs).2,
    fun haim newTime => aimed_jumped_iff haim newTime⟩
  · exact run_rounds h.ascending (h.unique hj) hj newTime
  · obtain ⟨jump, done, todo, rest, hpass⟩ := h.loop.resolve_left hj
    cases todo with
    | nil => exact ⟨_, hpass.last, .inl ⟨rfl, rfl, hpass.pending_eq.symm⟩⟩
    | cons x todo =>
      obtain ⟨hround, hnext⟩ := hpass.next
      refine ⟨_, hround, .inr ⟨x, ?_, rfl⟩⟩
      rw [hpass.pending_eq, hnext.pending_eq]
      rfl
  · obtain ⟨haim, hunread⟩ := ha tick htick hl
    obtain ⟨e, rest, hq, _⟩ := Oscillator.due_first h.sound.coherent hn hm
    rw [hq] at htick
    cases htick
    obtain ⟨o, x, xs, hstep, hx, hrate, hrate', hb, hat, hdue, hcount, hshown⟩ :=
      handleMessage_aimed h hj hn hm haim hq hl
    have hle : s.localTime ≤ x.localTime :=
      (localTime_le_iff_unread hrate hdue).mpr (hunread tick (by rw [hq]; rfl) hl x (by rw [hx]; rfl))
    rw [← hrate'] at hrate
    obtain ⟨s', hs⟩ := onTick_total hb hrate hat hx hcount hle
    obtain ⟨_, _, hrest, n, hd⟩ := onTick_booked hb hj hx
      ((hb.sound.reached_iff hrate).mp (le_of_eq hcount)) hs
    refine ⟨x, xs, s', n, hx, ?_, hrest, ?_⟩
    · show (if _ then _ else _) = _
      rw [if_pos ⟨hn, hm, hj⟩, hstep]
      exact hs
    · rw [hd, hshown]

/-- **Clocks that are scheduled after a jump treat every timestamp right**, whatever jumps there are,
at any rates. -/
theorem jumps_treated {f : ℚ} {es : List ClockEvent} {s0 : RealtimeClock}
    (h0 : initializeClock f = .ok s0) (hm : Meets step Heeds s0 es) (hr : run step s0 es = .ok s) :
    s.Treats := by
  obtain ⟨hf, rfl⟩ := initializeClock_ok h0
  have hbooked : (started f).Booked :=
    ⟨⟨⟨⟨hf, le_refl _⟩, .nil, nofun, .inl rfl⟩, le_refl _⟩, nofun, .nil, .empty, nofun, .inl rfl⟩
  exact (run_invariant_of (I := Booked) (fun _ _ _ hi ha hs => (booked_step hi ha hs).1) hbooked hm
    hr).treats

/-- a jump over the first of two timestamps, and a call that schedules the other one; then a jump
back -/
def scheduledRun : List ClockEvent :=
  [.subscribeTimestamp 1 10 0, .subscribeTimestamp 2 40 0, .advance 3, .updateAndGetLocalTime,
   .setLocalTime 12, .fastForward, .updateAndGetLocalTime, .fastForward, .unsubscribeTimestamp 3 0 0,
   .advance 5, .setLocalTime 0, .setDriftRate 0, .advance 43, .handleMessage, .handled]

theorem jumps_treated_scheduledRun : ∃ s0 s, initializeClock 1 = .ok s0 ∧
    run step s0 scheduledRun = .ok s ∧ s.Treats ∧
    s.delivered.map (fun d => (d.1.localTime, d.2)) = [(10, 3, 12), (40, 43, 40)] := by
  have h0 : initializeClock 1 = .ok (started 1) := by decide +kernel
  have hm : Meets step Heeds (started 1) scheduledRun := by decide +kernel
  obtain ⟨s, hr, hd⟩ : ∃ s, run step (started 1) scheduledRun = .ok s ∧
      s.delivered.map (fun d => (d.1.localTime, d.2)) = [(10, 3, 12), (40, 43, 40)] :=
    exists_of_any (by decide +kernel)
  exact ⟨started 1, s, h0, hr, jumps_treated h0 hm hr, hd⟩

/-- **Jumps that leave the tick behind.**  Over the only timestamp its tick finds none; over the first
of two the other one is delivered at the tick of the first, and after a jump back the first one is too;
a timestamp that a notified listener subscribes is delivered at once, or has a negative number of
ticks left. -/
theorem jump_mistreats : ∃ s0, initializeClock 1 = .ok s0 ∧
    run step s0 [.subscribeTimestamp 1 10 0, .advance 3, .updateAndGetLocalTime, .setLocalTime 12,
      .fastForward, .fastForward, .advance 10, .handleMessage] =
        .error (.assertion "!scheduledEvents.empty()") ∧
    (∃ s, run step s0 [.subscribeTimestamp 1 10 0, .subscribeTimestamp 2 40 0, .advance 3,
      .updateAndGetLocalTime, .setLocalTime 12, .fastForward, .fastForward, .advance 10,
      .handleMessage] = .ok s ∧ ∃ d ∈ s.delivered, d.2.2 < d.1.localTime) ∧
    (∃ s, run step s0 [.subscribeTimestamp 1 10 0, .advance 4, .updateAndGetLocalTime,
      .setLocalTime 0, .advance 10, .handleMessage] = .ok s ∧ ∃ d ∈ s.delivered,
        d.2.2 < d.1.localTime) ∧
    (∃ s, run step s0 [.subscribeTimestamp 1 10 0, .advance 3, .updateAndGetLocalTime,
      .setLocalTime 10, .fastForward, .subscribeTimestamp 2 20 0, .fastForward] = .ok s ∧
        ∃ d ∈ s.delivered, d.2.2 < d.1.localTime) ∧
    run step s0 [.subscribeTimestamp 1 10 0, .advance 3, .updateAndGetLocalTime, .setLocalTime 12,
      .fastForward, .subscribeTimestamp 2 20 0] =
        .error (.undefinedBehaviour "uint64_t idleTicks") := by
  refine ⟨started 1, by decide +kernel, eq_error_of (by decide +kernel),
    exists_of_any (by decide +kernel), exists_of_any (by decide +kernel),
    exists_of_any (by decide +kernel), eq_error_of (by decide +kernel)⟩

end RealtimeClock

end Nesting
