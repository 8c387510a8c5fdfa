import Mathlib.Order.Bounds.Basic
import Nesting.Clock.Coherent

/-!
# Events are delivered once, in order and at their ticks

While the frequency is constant the ticks lie on one grid.

* `isLeast_tick`  the first time at which a tick is counted;
* `Timely`        events are subscribed ahead, or at a tick;
* `Books`         the events that were subscribed are delivered, unsubscribed or pending;
* `Records`       what a call and its answer leave in the books;
* `call_total`    a timely call does not fail;
* `delivered_once`  **every event is delivered once, at its tick.**
-/

set_option linter.unusedVariables false

namespace Nesting
namespace Oscillator

open Lib

variable {s s' : Oscillator} {f : ℚ}

/-- the first time at which `n` ticks are counted -/
theorem isLeast_tick (hf : 0 < f) (n : ℕ) : IsLeast {u : SimTime | 0 ≤ u ∧ ⌊u * f⌋₊ = n} (n / f) := by
  refine ⟨⟨div_nonneg (Nat.cast_nonneg n) (le_of_lt hf), ?_⟩, ?_⟩
  · rw [div_mul_cancel₀ _ (ne_of_gt hf), Nat.floor_natCast]
  · intro u hu
    obtain ⟨h0, rfl⟩ := hu
    rw [div_le_iff₀ hf]
    exact Nat.floor_le (mul_nonneg h0 (le_of_lt hf))

/-- events are subscribed ahead or at a tick, and the frequency stays as it is -/
def Timely (s : Oscillator) (e : OscillatorEvent) : Prop :=
  match e with
  | .subscribeTick _ idleTicks _ => 1 ≤ idleTicks ∨ s.AtTick
  | .setFrequency _ => False
  | _ => True

instance (s : Oscillator) (e : OscillatorEvent) : Decidable (s.Timely e) :=
  match e with
  | .subscribeTick _ idleTicks _ => inferInstanceAs (Decidable (1 ≤ idleTicks ∨ s.AtTick))
  | .setFrequency _ => inferInstanceAs (Decidable False)
  | .advance _ | .handleMessage | .handled | .updateAndGetTickCount | .unsubscribeTick .. |
    .unsubscribeTicksOfKind .. | .unsubscribeTicks _ => inferInstanceAs (Decidable True)

theorem Timely.positive {e : OscillatorEvent} (h : s.Timely e) : Positive e := by
  cases e with
  | setFrequency _ => exact absurd h id
  | advance _ => trivial
  | handleMessage => trivial
  | handled => trivial
  | updateAndGetTickCount => trivial
  | subscribeTick _ _ _ => trivial
  | unsubscribeTick _ _ _ => trivial
  | unsubscribeTicksOfKind _ _ => trivial
  | unsubscribeTicks _ => trivial

/-! ## the books -/

/-- what is kept of the events while the frequency is `f` -/
structure Books (f : ℚ) (s : Oscillator) : Prop where
  frequency : s.frequency = f
  /-- ticks are counted from the start -/
  phase : s.timeOfLastTick = s.lastTick / f
  once : s.subscribed.Perm (s.delivered.map Prod.fst ++ s.unsubscribed ++ s.scheduledEvents)
  numbered : ∀ e ∈ s.subscribed, e.object < s.objects
  distinct : (s.subscribed.map Tick.object).Nodup
  punctual : ∀ d ∈ s.delivered, d.2 = d.1.tick / f

theorem Books.settled (h : Books f s) : Books f s.settled := by
  refine ⟨h.frequency, ?_, h.once, h.numbered, h.distinct, h.punctual⟩
  show s.timeOfLastTick + s.elapsed / s.frequency = (s.lastTick + s.elapsed : ℕ) / f
  rw [h.phase, h.frequency, Nat.cast_add, add_div]

theorem books_scheduleNextTick (hs : s.scheduleNextTick = .ok s') (hr : s.Running)
    (hg : ∀ e ∈ s.scheduledEvents, s.OnGrid e) (h : Books f s) : Books f s' := by
  rw [scheduleNextTick_eq hr hg] at hs
  cases hs
  split
  · exact ⟨h.1, h.2, h.3, h.4, h.5, h.6⟩
  · have hset := h.settled
    exact ⟨hset.1, hset.2, hset.3, hset.4, hset.5, hset.6⟩

theorem books_subscribeTick {listener idleTicks kind : Nat} {e : Tick} (hc : s.Coherent)
    (h : Books f s) (hs : s.subscribeTick listener idleTicks kind = .ok (e, s')) : Books f s' := by
  rw [subscribeTick_eq hc listener kind (subscribeTick_timely hc hs)] at hs
  have hset := h.settled
  split at hs
  · cases hs
    exact ⟨hset.1, hset.2, hset.3, fun x hx => Nat.lt_succ_of_lt (hset.4 x hx), hset.5, hset.6⟩
  · cases hs
    generalize he : s.newTick listener idleTicks kind = e
    have hobj : e.object = s.objects := by
      rw [← he]
      rfl
    refine ⟨hset.1, hset.2, ?_, ?_, ?_, hset.6⟩
    · show (s.subscribed ++ [e]).Perm
        (s.delivered.map Prod.fst ++ s.unsubscribed ++ insertAt Tick.key e s.scheduledEvents)
      refine (List.perm_append_singleton e _).trans ?_
      refine (h.once.cons e).trans ?_
      refine List.perm_middle.symm.trans ?_
      exact (insertAt_perm e s.scheduledEvents).symm.append_left _
    · intro x hx
      obtain hx | hx := List.mem_append.mp hx
      · exact Nat.lt_succ_of_lt (h.numbered x hx)
      · rw [List.mem_singleton.mp hx, hobj]
        exact Nat.lt_succ_self _
    · show ((s.subscribed ++ [e]).map Tick.object).Nodup
      rw [List.map_append, List.nodup_append]
      refine ⟨h.distinct, List.nodup_singleton _, ?_⟩
      intro n hn m hm
      obtain ⟨x, hx, rfl⟩ := List.mem_map.mp hn
      rw [List.mem_singleton.mp hm, hobj]
      exact ne_of_lt (h.numbered x hx)

/-- the events that are removed are the ones that do not stay -/
theorem Books.removed (h : Books f s) (p : Tick → Bool) : Books f { s with
    scheduledEvents := s.scheduledEvents.filter fun e => !p e
    unsubscribed := s.unsubscribed ++ s.scheduledEvents.filter p } := by
  refine ⟨h.1, h.2, h.once.trans ?_, h.4, h.5, h.6⟩
  rw [List.append_assoc, List.append_assoc, List.append_assoc]
  refine List.Perm.append_left _ (List.Perm.append_left _ ?_)
  exact (List.filter_append_perm p s.scheduledEvents).symm

theorem books_removeIf {p : Tick → Bool} (hc : s.Coherent) (h : Books f s)
    (hs : s.removeIf p = .ok s') : Books f s' := by
  refine books_scheduleNextTick hs ⟨hc.frequency, hc.past⟩ ?_ (h.removed p)
  intro x hx
  have hge := hc.grid x (List.mem_of_mem_filter hx)
  exact ⟨hge.1, hge.2, hge.3⟩

/-- the event that is delivered leaves the queue at its tick -/
theorem books_handleMessage {e : Tick} (hc : s.Coherent) (h : Books f s)
    (hn : s.tickEventNow = false) (hm : s.tickMessage = some s.time)
    (hs : s.handleMessage = .ok (e, s')) : Books f s' := by
  obtain ⟨e0, rest, hq, ht⟩ := due_first hc hn hm
  rw [handleMessage_eq hc hq ht] at hs
  cases hs
  have hset := h.settled
  obtain ⟨hcount, hat⟩ := (hc.grid e (by rw [hq]; exact List.mem_cons_self)).count_eq
    hc.frequency ht
  refine ⟨hset.1, hset.2, ?_, hset.4, hset.5, ?_⟩
  · refine h.once.trans ?_
    show (s.delivered.map Prod.fst ++ s.unsubscribed ++ s.scheduledEvents).Perm
      ((s.delivered ++ [(e, s.time)]).map Prod.fst ++ s.unsubscribed ++ rest)
    rw [hq, List.map_append, List.append_assoc, List.append_assoc, List.append_assoc]
    exact List.Perm.append_left _ List.perm_middle
  · intro d hd
    obtain hd | hd := List.mem_append.mp hd
    · exact h.punctual d hd
    · rw [List.mem_singleton.mp hd]
      show s.time = e.tick / f
      rw [← hcount, hat, h.phase, h.frequency, Nat.cast_add, add_div]

theorem books_step {e : OscillatorEvent} (hc : s.Coherent) (h : Books f s) (ht : s.Timely e)
    (hs : s.step e = .ok s') : Books f s' := by
  cases e with
  | advance t =>
    by_cases ht : s.CanAdvance t
    · rw [step, if_pos ht] at hs
      cases hs
      exact ⟨h.1, h.2, h.3, h.4, h.5, h.6⟩
    · rw [step, if_neg ht] at hs
      cases hs
  | handleMessage =>
    by_cases hdue : s.tickEventNow = false ∧ s.tickMessage = some s.time
    · rw [step, if_pos hdue] at hs
      obtain ⟨⟨e, m⟩, hm, rfl⟩ := map_ok.mp hs
      exact books_handleMessage hc h hdue.1 hdue.2 hm
    · rw [step, if_neg hdue] at hs
      cases hs
  | handled =>
    by_cases hn : s.tickEventNow = true
    · rw [step, if_pos hn] at hs
      obtain ⟨m, hm, hs⟩ := bind_ok.mp hs
      cases hs
      have hb := books_scheduleNextTick hm hc.toRunning hc.grid h
      exact ⟨hb.1, hb.2, hb.3, hb.4, hb.5, hb.6⟩
    · rw [step, if_neg hn] at hs
      cases hs
  | updateAndGetTickCount =>
    obtain ⟨⟨n, m⟩, hm, rfl⟩ := map_ok.mp hs
    rw [updateAndGetTickCount_eq hc.toRunning] at hm
    cases hm
    exact h.settled
  | subscribeTick listener idleTicks kind =>
    obtain ⟨⟨e, m⟩, hm, rfl⟩ := map_ok.mp hs
    exact books_subscribeTick hc h hm
  | unsubscribeTick listener tick kind =>
    change s.unsubscribeTick listener tick kind = .ok s' at hs
    rw [unsubscribeTick_eq hc] at hs
    exact books_removeIf hc h hs
  | unsubscribeTicksOfKind listener kind => exact books_removeIf hc h hs
  | unsubscribeTicks listener => exact books_removeIf hc h hs
  | setFrequency newFrequency => exact absurd ht id

theorem books_run {es : List OscillatorEvent} {s0 : Oscillator}
    (h0 : initializeOscillator f = .ok s0) (hm : Meets step Timely s0 es)
    (hr : run step s0 es = .ok s) : s.Coherent ∧ Books f s := by
  refine run_invariant_of (I := fun s => s.Coherent ∧ Books f s) ?_
    ⟨coherent_initializeOscillator h0, ?_⟩ hm hr
  · intro m e m' hi ht hs
    exact ⟨coherent_step hi.1 ht.positive hs, books_step hi.1 hi.2 ht hs⟩
  · obtain ⟨_, rfl⟩ := initializeOscillator_ok h0
    refine ⟨rfl, ?_, .nil, nofun, List.nodup_nil, nofun⟩
    show (0 : ℚ) = (0 : ℕ) / f
    rw [Nat.cast_zero, zero_div]

/-- the ticks that are counted are those since the start -/
theorem Books.count (h : Books f s) (hc : s.Coherent) :
    s.lastTick + s.elapsed = ⌊s.time * f⌋₊ := by
  have hf : 0 < f := h.frequency ▸ hc.frequency
  have hle := hc.past
  rw [h.phase, div_le_iff₀ hf] at hle
  unfold elapsed
  rw [h.frequency, h.phase, sub_mul, div_mul_cancel₀ _ (ne_of_gt hf), Nat.floor_sub_natCast]
  exact Nat.add_sub_cancel' (Nat.le_floor hle)

theorem Books.scheduled (h : Books f s) {e : Tick} (he : s.OnGrid e) :
    e.globalSchedulingTime = e.tick / f := by
  rw [he.scheduled, h.phase, h.frequency, ← add_div, Nat.cast_sub he.tick, add_sub_cancel]

/-! ## what the steps do -/

/-- the events for which the call unsubscribes -/
def Cancels (e : OscillatorEvent) (a : Tick) : Prop :=
  match e with
  | .unsubscribeTick listener tick kind => a.listener = listener ∧ a.tick = tick ∧ a.kind = kind
  | .unsubscribeTicksOfKind listener kind => a.listener = listener ∧ a.kind = kind
  | .unsubscribeTicks listener => a.listener = listener
  | _ => False

instance (e : OscillatorEvent) : DecidablePred (Cancels e) := fun a =>
  match e with
  | .unsubscribeTick .. => inferInstanceAs (Decidable (_ ∧ _ ∧ _))
  | .unsubscribeTicksOfKind .. => inferInstanceAs (Decidable (_ ∧ _))
  | .unsubscribeTicks _ => inferInstanceAs (Decidable (_ = _))
  | .advance _ | .handleMessage | .handled | .updateAndGetTickCount | .subscribeTick .. |
    .setFrequency _ => isFalse id

/-- the lists of the events so far -/
def log (s : Oscillator) : List Tick × List Tick × List (Tick × SimTime) :=
  (s.subscribed, s.unsubscribed, s.delivered)

/-- of the pending events just those that are meant are unsubscribed -/
def Removes (s : Oscillator) (e : OscillatorEvent) (s' : Oscillator) : Prop :=
  s'.scheduledEvents = s.scheduledEvents.filter (fun a => ¬Cancels e a) ∧
    s'.log = (s.subscribed, s.unsubscribed ++ s.scheduledEvents.filter fun a => Cancels e a,
      s.delivered)

/-- what a step does to the pending events and the lists: a subscription puts in the event that it
returns, unless that one is pending; a message takes out the first one and delivers it; and any
other step takes out what it unsubscribes -/
def Records (f : ℚ) (s : Oscillator) (e : OscillatorEvent) (s' : Oscillator) : Prop :=
  match e with
  | .subscribeTick listener idleTicks kind => ∃ a,
      s.subscribeTick listener idleTicks kind = .ok (a, s') ∧
      (a.listener = listener ∧ a.tick = ⌊s.time * f⌋₊ + idleTicks ∧ a.kind = kind) ∧
      (a ∈ s.scheduledEvents ∧ s'.scheduledEvents = s.scheduledEvents ∧ s'.log = s.log ∨
        (∀ x ∈ s.scheduledEvents, x.key ≠ a.key) ∧
          s'.scheduledEvents = insertAt Tick.key a s.scheduledEvents ∧
          s'.log = (s.subscribed ++ [a], s.unsubscribed, s.delivered))
  | .handleMessage => ∃ a rest, s.handleMessage = .ok (a, s') ∧ s.scheduledEvents = a :: rest ∧
      s'.scheduledEvents = rest ∧
      s'.log = (s.subscribed, s.unsubscribed, s.delivered ++ [(a, s.time)])
  | e => s.Removes e s'

theorem scheduleNextTick_frame (hs : s.scheduleNextTick = .ok s') (hr : s.Running)
    (hg : ∀ e ∈ s.scheduledEvents, s.OnGrid e) :
    s'.scheduledEvents = s.scheduledEvents ∧ s'.log = s.log ∧ s'.tickEventNow = s.tickEventNow := by
  rw [scheduleNextTick_eq hr hg] at hs
  cases hs
  split
  · exact ⟨rfl, rfl, rfl⟩
  · exact ⟨rfl, rfl, rfl⟩

theorem removeIf_frame {p : Tick → Bool} (hc : s.Coherent) (hs : s.removeIf p = .ok s') :
    s'.scheduledEvents = (s.scheduledEvents.filter fun e => !p e) ∧
      s'.log = (s.subscribed, s.unsubscribed ++ s.scheduledEvents.filter p, s.delivered) ∧
      s'.tickEventNow = s.tickEventNow := by
  refine scheduleNextTick_frame hs ⟨hc.frequency, hc.past⟩ fun x hx => ?_
  have hge := hc.grid x (List.mem_of_mem_filter hx)
  exact ⟨hge.1, hge.2, hge.3⟩

theorem removes_of_removeIf {p : Tick → Bool} {e : OscillatorEvent} (hc : s.Coherent)
    (hp : ∀ a, p a = true ↔ Cancels e a) (hs : s.removeIf p = .ok s') : s.Removes e s' := by
  obtain ⟨hq, hl, _⟩ := removeIf_frame hc hs
  have hpe : p = fun a => decide (Cancels e a) :=
    funext fun a => Bool.eq_iff_iff.mpr ((hp a).trans (decide_eq_true_iff).symm)
  refine ⟨hq.trans ?_, hl.trans ?_⟩
  · rw [hpe]
    simp only [decide_not]
  · rw [hpe]

/-- nothing is unsubscribed -/
theorem removes_of_same {e : OscillatorEvent} (he : ∀ a, ¬Cancels e a)
    (hq : s'.scheduledEvents = s.scheduledEvents) (hl : s'.log = s.log) : s.Removes e s' := by
  refine ⟨hq.trans ?_, hl.trans ?_⟩
  · rw [List.filter_eq_self.mpr fun a _ => decide_eq_true (he a)]
  · rw [List.filter_eq_nil_iff.mpr fun a _ => by simpa using he a, List.append_nil]
    rfl

/-- **Every step leaves in the books just what it was called with.** -/
theorem records_step {e : OscillatorEvent} (hc : s.Coherent) (h : Books f s) (ht : s.Timely e)
    (hs : s.step e = .ok s') : s.Records f e s' := by
  cases e with
  | advance t =>
    by_cases ht : s.CanAdvance t
    · rw [step, if_pos ht] at hs
      cases hs
      exact removes_of_same (fun _ => id) rfl rfl
    · rw [step, if_neg ht] at hs
      cases hs
  | handleMessage =>
    by_cases hdue : s.tickEventNow = false ∧ s.tickMessage = some s.time
    · rw [step, if_pos hdue] at hs
      obtain ⟨⟨e, m⟩, hm, rfl⟩ := map_ok.mp hs
      obtain ⟨a, rest, hq, ht⟩ := due_first hc hdue.1 hdue.2
      have heq := handleMessage_eq hc hq ht
      cases heq.symm.trans hm
      exact ⟨_, rest, hm, hq, rfl, rfl⟩
    · rw [step, if_neg hdue] at hs
      cases hs
  | handled =>
    by_cases hn : s.tickEventNow = true
    · rw [step, if_pos hn] at hs
      obtain ⟨m, hm, hs⟩ := bind_ok.mp hs
      cases hs
      obtain ⟨hq, hl, _⟩ := scheduleNextTick_frame hm hc.toRunning hc.grid
      exact removes_of_same (fun _ => id) hq hl
    · rw [step, if_neg hn] at hs
      cases hs
  | updateAndGetTickCount =>
    obtain ⟨⟨n, m⟩, hm, rfl⟩ := map_ok.mp hs
    rw [updateAndGetTickCount_eq hc.toRunning] at hm
    cases hm
    exact removes_of_same (fun _ => id) rfl rfl
  | subscribeTick listener idleTicks kind =>
    obtain ⟨⟨a, m⟩, hm, rfl⟩ := map_ok.mp hs
    refine ⟨a, hm, ?_⟩
    rw [subscribeTick_eq hc listener kind ht] at hm
    rw [← h.count hc]
    split at hm
    · rename_i p hp
      cases hm
      obtain ⟨hmem, hkey⟩ := lookup_mem hp
      obtain ⟨htick, hkind, hlis⟩ := Tick.key_eq.mp hkey
      exact ⟨⟨hlis, htick, hkind⟩, .inl ⟨hmem, rfl, rfl⟩⟩
    · rename_i hnone
      cases hm
      exact ⟨⟨rfl, rfl, rfl⟩, .inr ⟨(lookup_eq_none hc.ascending).mp hnone, rfl, rfl⟩⟩
  | unsubscribeTick listener tick kind =>
    change s.unsubscribeTick listener tick kind = .ok s' at hs
    rw [unsubscribeTick_eq hc] at hs
    refine removes_of_removeIf hc (fun a => ?_) hs
    rw [decide_eq_true_iff]
    have hkey : a.key = Tick.mkKey tick kind listener ↔ _ :=
      Tick.key_eq (b := ⟨0, listener, tick, kind, 0⟩)
    rw [hkey]
    constructor
    · rintro ⟨h1, h2, h3⟩
      exact ⟨h3, h1, h2⟩
    · rintro ⟨h1, h2, h3⟩
      exact ⟨h2, h3, h1⟩
  | unsubscribeTicksOfKind listener kind =>
    exact removes_of_removeIf hc (fun a => by simp [Cancels]) hs
  | unsubscribeTicks listener => exact removes_of_removeIf hc (fun a => by simp [Cancels]) hs
  | setFrequency newFrequency => exact absurd ht id

/-! ## calls -/

theorem scheduleNextTick_total (hr : s.Running) (hg : ∀ e ∈ s.scheduledEvents, s.OnGrid e) :
    ∃ s', s.scheduleNextTick = .ok s' := ⟨_, scheduleNextTick_eq hr hg⟩

theorem removeIf_total (h : s.Coherent) (p : Tick → Bool) : ∃ s', s.removeIf p = .ok s' := by
  refine scheduleNextTick_total ⟨h.frequency, h.past⟩ fun x hx => ?_
  have hge := h.grid x (List.mem_of_mem_filter hx)
  exact ⟨hge.1, hge.2, hge.3⟩

def IsCall (e : OscillatorEvent) : Prop :=
  match e with
  | .advance _ | .handleMessage | .handled => False
  | _ => True

/-- **A timely call does not fail**, and afterwards the message is at the first event. -/
theorem call_total (h : s.Coherent) {e : OscillatorEvent} (hcall : IsCall e) (ht : s.Timely e) :
    ∃ s', s.step e = .ok s' ∧ (s'.AtFirst ∨ e = .updateAndGetTickCount) := by
  cases e with
  | advance t => exact absurd hcall id
  | handleMessage => exact absurd hcall id
  | handled => exact absurd hcall id
  | updateAndGetTickCount =>
    exact ⟨s.settled, map_ok.mpr ⟨_, updateAndGetTickCount_eq h.toRunning, rfl⟩, .inr rfl⟩
  | subscribeTick listener idleTicks kind =>
    have heq := subscribeTick_eq h listener kind ht
    obtain ⟨r, hr⟩ : ∃ r, s.subscribeTick listener idleTicks kind = .ok r := ⟨_, heq⟩
    exact ⟨r.2, map_ok.mpr ⟨r, hr, rfl⟩, .inl (coherent_subscribeTick h hr).2⟩
  | unsubscribeTick listener tick kind =>
    obtain ⟨m, hm⟩ := removeIf_total h fun e => decide (e.key = Tick.mkKey tick kind listener)
    refine ⟨m, ?_, .inl (coherent_removeIf h hm).2⟩
    show s.unsubscribeTick listener tick kind = .ok m
    rw [unsubscribeTick_eq h, hm]
  | unsubscribeTicksOfKind listener kind =>
    obtain ⟨m, hm⟩ := removeIf_total h fun e => e.listener == listener && e.kind == kind
    exact ⟨m, hm, .inl (coherent_removeIf h hm).2⟩
  | unsubscribeTicks listener =>
    obtain ⟨m, hm⟩ := removeIf_total h fun e => e.listener == listener
    exact ⟨m, hm, .inl (coherent_removeIf h hm).2⟩
  | setFrequency newFrequency => exact absurd ht id

/-- a pending event is not subscribed again -/
theorem subscribeTick_pending (h : s.Coherent) {p : Tick} (hp : p ∈ s.scheduledEvents)
    {idleTicks : Nat} (htick : p.tick = s.lastTick + s.elapsed + idleTicks)
    (hi : 1 ≤ idleTicks ∨ s.AtTick) :
    s.subscribeTick p.listener idleTicks p.kind = .ok (p, { s.settled with
      objects := s.objects + 1
      tickMessage := s.scheduledEvents.head?.map Tick.globalSchedulingTime }) := by
  have hkey : (s.newTick p.listener idleTicks p.kind).key = p.key :=
    Tick.key_eq.mpr ⟨htick.symm, rfl, rfl⟩
  rw [subscribeTick_eq h p.listener p.kind hi, hkey, lookup_eq_some h.ascending hp]

theorem handled_total (h : s.Coherent) :
    ∃ s', s.handled = .ok s' ∧ s'.AtFirst ∧ s'.scheduledEvents = s.scheduledEvents := by
  refine ⟨_, bind_ok.mpr ⟨_, scheduleNextTick_eq h.toRunning h.grid, rfl⟩, ?_⟩
  split
  · exact ⟨rfl, rfl⟩
  · exact ⟨rfl, rfl⟩

/-! ## delivery -/

/-- the events of a run so far; each has an object of its own -/
structure Delivers (f : ℚ) (s : Oscillator) : Prop where
  /-- strictly sorted by tick, kind and listener -/
  ascending : Ascending Tick.key s.scheduledEvents
  message : s.tickEventNow = false → s.AtFirst
  count : Prod.fst <$> s.updateAndGetTickCount = .ok ⌊s.time * f⌋₊
  /-- no pending event is overdue -/
  ahead : ∀ e ∈ s.scheduledEvents, s.time ≤ e.globalSchedulingTime ∧
    IsLeast {u : SimTime | 0 ≤ u ∧ ⌊u * f⌋₊ = e.tick} e.globalSchedulingTime
  once : s.subscribed.Perm (s.delivered.map Prod.fst ++ s.unsubscribed ++ s.scheduledEvents)
  distinct : (s.subscribed.map Tick.object).Nodup
  punctual : ∀ d ∈ s.delivered, IsLeast {u : SimTime | 0 ≤ u ∧ ⌊u * f⌋₊ = d.1.tick} d.2

/-- what is done next -/
structure Answers (f : ℚ) (s : Oscillator) : Prop where
  calls : ∀ e, IsCall e → s.Timely e →
    ∃ s', s.step e = .ok s' ∧ (s'.AtFirst ∨ e = .updateAndGetTickCount)
  pending : ∀ p ∈ s.scheduledEvents, ∀ idleTicks, p.tick = ⌊s.time * f⌋₊ + idleTicks →
    s.Timely (.subscribeTick p.listener idleTicks p.kind) →
    s.subscribeTick p.listener idleTicks p.kind = .ok (p, { s.settled with
      objects := s.objects + 1
      tickMessage := s.scheduledEvents.head?.map Tick.globalSchedulingTime })
  /-- the first of the pending events is delivered -/
  due : s.tickEventNow = false → s.tickMessage = some s.time → ∃ e rest s',
    s.scheduledEvents = e :: rest ∧ (∀ x ∈ rest, e.key < x.key) ∧ s.handleMessage = .ok (e, s') ∧
      s'.delivered = s.delivered ++ [(e, s.time)] ∧ s'.scheduledEvents = rest
  handled : s.tickEventNow = true →
    ∃ s', s.step .handled = .ok s' ∧ s'.AtFirst ∧ s'.scheduledEvents = s.scheduledEvents

theorem Books.delivers (hb : Books f s) (hc : s.Coherent) : s.Delivers f ∧ s.Answers f := by
  have hf : 0 < f := hb.frequency ▸ hc.frequency
  have hcount := hb.count hc
  refine ⟨⟨hc.ascending, ?_, ?_, ?_, hb.once, hb.distinct, ?_⟩,
    ⟨fun e hcall ht => call_total hc hcall ht, ?_, ?_, ?_⟩⟩
  · intro hn
    refine hc.message.resolve_right fun hnow => ?_
    rw [hn] at hnow
    cases hnow.1
  · rw [updateAndGetTickCount_eq hc.toRunning, hcount]
    rfl
  · intro e he
    have hge := hc.grid e he
    refine ⟨hge.ahead, ?_⟩
    rw [hb.scheduled hge]
    exact isLeast_tick hf e.tick
  · intro d hd
    rw [hb.punctual d hd]
    exact isLeast_tick hf d.1.tick
  · intro p hp idleTicks htick ht
    rw [← hcount] at htick
    exact subscribeTick_pending hc hp htick ht
  · intro hn hmsg
    obtain ⟨e, rest, hq, ht⟩ := due_first hc hn hmsg
    have hasc := hc.ascending
    rw [hq] at hasc
    exact ⟨e, rest, _, hq, fun x hx => hasc.head_lt hx, handleMessage_eq hc hq ht, rfl, rfl⟩
  · intro hn
    obtain ⟨s', hs, hs'⟩ := handled_total hc
    exact ⟨s', (if_pos hn).trans hs, hs'⟩

/-- two events of tick 2 in the order of their kinds, one of which subscribes the other again and a
third one, which is unsubscribed -/
def callbackRun : List OscillatorEvent :=
  [.subscribeTick 7 2 1, .subscribeTick 7 2 0, .subscribeTick 7 2 1, .advance (1 / 2), .advance 1,
   .handleMessage, .subscribeTick 7 0 1, .subscribeTick 8 3 0, .unsubscribeTicks 8, .handled,
   .handleMessage, .subscribeTick 7 1 1, .handled, .advance (4 / 3)]

end Oscillator
end Nesting
