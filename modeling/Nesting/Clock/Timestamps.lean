import Nesting.Clock.Delivery
import Nesting.Clock.LocalTime

/-!
# The tick of the first timestamp

* `dueTick`     the first tick at which the local time has reached a timestamp;
* `Follows`     the calls of the oscillator that keep its count and its books;
* `Steady`      a clock that neither jumps nor drifts;
* `Armed`       of the ticks of the clock only that of the first timestamp is subscribed;
* `scheduleNextTimestamp_armed`  **scheduling subscribes the tick of the first timestamp.**
-/

set_option linter.unusedVariables false

namespace Nesting

open Lib

/-- the first tick at which a clock of frequency `f` has reached the local time `t` -/
def dueTick (f : ℚ) (t : SimTime) : ℕ := ⌈t * f⌉₊

section dueTick
variable {f : ℚ} {t t' : SimTime} {n : ℕ}

theorem dueTick_le (hf : 0 < f) : dueTick f t ≤ n ↔ t ≤ n / f := by
  unfold dueTick
  rw [Nat.ceil_le, le_div_iff₀ hf]

theorem lt_dueTick (hf : 0 < f) : n < dueTick f t ↔ n / f < t := by
  rw [← not_le, dueTick_le hf, not_le]

theorem isLeast_dueTick (hf : 0 < f) (t : SimTime) : IsLeast {n : ℕ | t ≤ n / f} (dueTick f t) := by
  constructor
  · exact (dueTick_le hf).mp (le_refl _)
  · intro n hn
    exact (dueTick_le hf).mpr hn

theorem dueTick_mono (hf : 0 < f) (h : t ≤ t') : dueTick f t ≤ dueTick f t' := by
  rw [dueTick_le hf]
  exact le_trans h ((dueTick_le hf).mp (le_refl _))

/-- the ticks that are left, rounded up -/
theorem ceilTicks_eq (hf : 0 < f) (ht : 0 ≤ t) (hn : n ≤ dueTick f t) :
    RealtimeClock.ceilTicks ((t - n / f) / (1 / f)) = .ok (dueTick f t - n) := by
  have hq : (t - n / f) / (1 / f) = t * f - (n : ℤ) := by
    rw [div_div_eq_mul_div, div_one, sub_mul, div_mul_cancel₀ _ (ne_of_gt hf)]
    rfl
  have hceil : ⌈t * f⌉ = (dueTick f t : ℤ) :=
    (Int.natCast_ceil_eq_ceil (mul_nonneg ht (le_of_lt hf))).symm
  unfold RealtimeClock.ceilTicks
  rw [hq, Int.ceil_sub_intCast, hceil, if_neg (by omega)]
  apply congrArg
  omega

end dueTick

namespace Oscillator

variable {s o o' : Oscillator} {f : ℚ}

/-! ## calls that keep the count -/

structure Follows (f : ℚ) (s o : Oscillator) : Prop where
  coherent : o.Coherent
  books : o.Books f
  same : SameCount s o
  logged : ∀ x ∈ s.subscribed, x ∈ o.subscribed

/-- and do not end the handling of a tick -/
structure Called (f : ℚ) (s o : Oscillator) : Prop extends Follows f s o where
  now : o.tickEventNow = s.tickEventNow

theorem Follows.trans (h : Follows f s o) (h' : Follows f o o') : Follows f s o' :=
  ⟨h'.coherent, h'.books, h.same.trans h'.same, fun x hx => h'.logged x (h.logged x hx)⟩

theorem Follows.refl (hc : s.Coherent) (hb : s.Books f) : Follows f s s :=
  ⟨hc, hb, .of_eq rfl rfl rfl rfl, fun _ hx => hx⟩

theorem Called.trans (h : Called f s o) (h' : Called f o o') : Called f s o' :=
  ⟨h.toFollows.trans h'.toFollows, h'.now.trans h.now⟩

theorem settled_follows (hc : s.Coherent) (hb : s.Books f) : Called f s s.settled :=
  ⟨⟨hc.settled, hb.settled, sameCount_settled hc.toRunning, fun _ hx => hx⟩, rfl⟩

theorem removeIf_follows (hc : s.Coherent) (hb : s.Books f) (p : Tick → Bool) :
    ∃ o, s.removeIf p = .ok o ∧ Called f s o ∧
      o.scheduledEvents = s.scheduledEvents.filter fun e => !p e := by
  obtain ⟨o, ho⟩ := removeIf_total hc p
  obtain ⟨hq, hlog, hn⟩ := removeIf_frame hc ho
  have hl : o.subscribed = s.subscribed := congrArg Prod.fst hlog
  exact ⟨o, ho, ⟨⟨(coherent_removeIf hc ho).1, books_removeIf hc hb ho, sameCount_removeIf hc ho,
    fun x hx => hl ▸ hx⟩, hn⟩, hq⟩

/-- a tick that is not pending -/
theorem subscribeTick_follows (hc : s.Coherent) (hb : s.Books f) {listener idleTicks kind : Nat}
    (hi : 1 ≤ idleTicks ∨ s.AtTick)
    (hnew : ∀ e ∈ s.scheduledEvents, e.key ≠ (s.newTick listener idleTicks kind).key) :
    ∃ o, s.subscribeTick listener idleTicks kind = .ok (s.newTick listener idleTicks kind, o) ∧
      Called f s o ∧
      o.scheduledEvents = insertAt Tick.key (s.newTick listener idleTicks kind) s.scheduledEvents := by
  have hs := subscribeTick_eq hc listener kind hi
  rw [(lookup_eq_none hc.ascending).mpr hnew] at hs
  exact ⟨_, hs, ⟨⟨(coherent_subscribeTick hc hs).1, books_subscribeTick hc hb hs,
    sameCount_subscribeTick hc hs, fun _ hx => List.mem_append_left _ hx⟩, rfl⟩, rfl⟩

/-- the tick, new or pending -/
theorem subscribeTick_called (hc : s.Coherent) (hb : s.Books f) (listener kind : Nat)
    {idleTicks : Nat} (hi : 1 ≤ idleTicks ∨ s.AtTick) :
    ∃ e o, s.subscribeTick listener idleTicks kind = .ok (e, o) ∧ Called f s o ∧
      e.listener = listener ∧ e.tick = s.lastTick + s.elapsed + idleTicks ∧ e.kind = kind ∧
      e ∈ o.subscribed ∧ (e ∈ s.scheduledEvents ∨ e.object = s.objects) ∧
      ∀ x, x ∈ o.scheduledEvents ↔ x = e ∨ x ∈ s.scheduledEvents := by
  cases hl : lookup Tick.key (s.newTick listener idleTicks kind).key s.scheduledEvents with
  | none =>
    obtain ⟨o, hs, hcall, hq⟩ :=
      subscribeTick_follows hc hb hi ((lookup_eq_none hc.ascending).mp hl)
    refine ⟨_, o, hs, hcall, rfl, rfl, rfl, ?_, .inr rfl, fun x => ?_⟩
    · apply hcall.books.once.mem_iff.mpr
      apply List.mem_append_right
      rw [hq, mem_insertAt]
      exact .inl rfl
    · rw [hq, mem_insertAt]
  | some p =>
    obtain ⟨hp, hkey⟩ := lookup_mem hl
    obtain ⟨htick, hkind, hlis⟩ := Tick.key_eq.mp hkey
    have hs := subscribeTick_eq hc listener kind hi
    rw [hl] at hs
    refine ⟨p, _, hs, ⟨⟨(coherent_subscribeTick hc hs).1, books_subscribeTick hc hb hs,
      sameCount_subscribeTick hc hs, fun _ hx => hx⟩, rfl⟩, hlis, htick, hkind, ?_, .inl hp,
      fun x => ?_⟩
    · exact hb.once.mem_iff.mpr (List.mem_append_right _ hp)
    · exact ⟨.inr, fun hx => hx.elim (fun heq => heq ▸ hp) id⟩

/-- what others call is called -/
theorem foreign_call {e : OscillatorEvent} (hc : s.Coherent) (he : RealtimeClock.Foreign e)
    (ht : s.Timely e) : ∃ o, s.call e = .ok o := by
  have hcall : IsCall e := by
    cases e <;> first | exact absurd he id | trivial
  have hstep : s.step e = s.call e := by
    cases e <;> first | exact absurd he id | rfl
  obtain ⟨o, ho, _⟩ := call_total hc hcall ht
  exact ⟨o, hstep ▸ ho⟩

/-- what others call does not touch the ticks of the clock -/
theorem foreign_follows {e : OscillatorEvent} (hc : s.Coherent) (hb : s.Books f)
    (he : RealtimeClock.Foreign e) (hs : s.call e = .ok o) : Called f s o ∧
      ∀ x : Tick, x.listener = RealtimeClock.self →
        (x ∈ o.scheduledEvents ↔ x ∈ s.scheduledEvents) := by
  obtain ⟨hc', hsame⟩ := sameCount_foreign hc he hs
  cases e with
  | advance t => exact absurd he id
  | handleMessage => exact absurd he id
  | handled => exact absurd he id
  | setFrequency newFrequency => exact absurd he id
  | updateAndGetTickCount =>
    obtain ⟨⟨n, m⟩, hm, rfl⟩ := map_ok.mp hs
    rw [updateAndGetTickCount_eq hc.toRunning] at hm
    cases hm
    exact ⟨settled_follows hc hb, fun x hx => Iff.rfl⟩
  | subscribeTick listener idleTicks kind =>
    obtain ⟨⟨y, m⟩, hm, rfl⟩ := map_ok.mp hs
    have hb' := books_subscribeTick hc hb hm
    rw [subscribeTick_eq hc listener kind (subscribeTick_timely hc hm)] at hm
    split at hm
    · cases hm
      exact ⟨⟨⟨hc', hb', hsame, fun _ hx => hx⟩, rfl⟩, fun x hx => Iff.rfl⟩
    · cases hm
      refine ⟨⟨⟨hc', hb', hsame, fun _ hx => List.mem_append_left _ hx⟩, rfl⟩, fun x hx => ?_⟩
      have hne : x ≠ s.newTick listener idleTicks kind := by
        rintro rfl
        exact he hx
      exact mem_insertAt.trans (or_iff_right hne)
  | unsubscribeTick listener tick kind =>
    change s.unsubscribeTick listener tick kind = .ok o at hs
    rw [unsubscribeTick_eq hc] at hs
    obtain ⟨hq, hlog, hn⟩ := removeIf_frame hc hs
    have hl : o.subscribed = s.subscribed := congrArg Prod.fst hlog
    refine ⟨⟨⟨hc', books_removeIf hc hb hs, hsame, fun x hx => hl ▸ hx⟩, hn⟩, fun x hx => ?_⟩
    have hne : x.key ≠ Tick.mkKey tick kind listener := by
      intro hk
      have hl := (Tick.key_eq (b := ⟨0, listener, tick, kind, 0⟩)).mp hk
      exact he (hl.2.2.symm.trans hx)
    rw [hq, List.mem_filter]
    simp [hne]
  | unsubscribeTicksOfKind listener kind =>
    obtain ⟨hq, hlog, hn⟩ := removeIf_frame hc hs
    have hl : o.subscribed = s.subscribed := congrArg Prod.fst hlog
    refine ⟨⟨⟨hc', books_removeIf hc hb hs, hsame, fun x hx => hl ▸ hx⟩, hn⟩, fun x hx => ?_⟩
    have hne : x.listener ≠ listener := fun heq => he (heq.symm.trans hx)
    rw [hq, List.mem_filter]
    simp [hne]
  | unsubscribeTicks listener =>
    obtain ⟨hq, hlog, hn⟩ := removeIf_frame hc hs
    have hl : o.subscribed = s.subscribed := congrArg Prod.fst hlog
    refine ⟨⟨⟨hc', books_removeIf hc hb hs, hsame, fun x hx => hl ▸ hx⟩, hn⟩, fun x hx => ?_⟩
    have hne : x.listener ≠ listener := fun heq => he (heq.symm.trans hx)
    rw [hq, List.mem_filter]
    simp [hne]

/-- the only tick of the clock, for a time ahead -/
theorem subscribeTick_first (hc : s.Coherent) (hb : s.Books f) {n : ℕ}
    (hnone : ∀ e ∈ s.scheduledEvents, e.listener ≠ RealtimeClock.self)
    (hn : s.lastTick + s.elapsed ≤ n) (ht : s.time ≤ n / f) :
    ∃ e o, s.subscribeTick RealtimeClock.self (n - (s.lastTick + s.elapsed)) 0 = .ok (e, o) ∧
      Called f s o ∧ e.listener = RealtimeClock.self ∧ e.kind = 0 ∧ e.tick = n ∧
      ∀ x : Tick, x.listener = RealtimeClock.self → (x ∈ o.scheduledEvents ↔ x = e) := by
  have hf : 0 < f := hb.frequency ▸ hc.frequency
  have hi : 1 ≤ n - (s.lastTick + s.elapsed) ∨ s.AtTick := by
    by_cases h1 : 1 ≤ n - (s.lastTick + s.elapsed)
    · exact .inl h1
    · right
      have heq : n = s.lastTick + s.elapsed := by omega
      have hle := elapsed_le hc.toRunning
      rw [heq, Nat.cast_add, add_div, ← hb.phase, ← hb.frequency] at ht
      exact le_antisymm ht hle
  have hnew : ∀ e ∈ s.scheduledEvents,
      e.key ≠ (s.newTick RealtimeClock.self (n - (s.lastTick + s.elapsed)) 0).key :=
    fun e he hk => hnone e he (Tick.key_eq.mp hk).2.2
  obtain ⟨o, hs, hfol, hq⟩ := subscribeTick_follows hc hb hi hnew
  refine ⟨_, o, hs, hfol, rfl, rfl, ?_, fun x hx => ?_⟩
  · show s.lastTick + s.elapsed + (n - (s.lastTick + s.elapsed)) = n
    omega
  · rw [hq, mem_insertAt]
    exact or_iff_left fun hmem => hnone x hmem hx

/-- the first event is taken out at its tick -/
theorem handleMessage_follows (hc : s.Coherent) (hb : s.Books f) (hn : s.tickEventNow = false)
    (hm : s.tickMessage = some s.time) : ∃ e rest o, s.handleMessage = .ok (e, o) ∧
      s.scheduledEvents = e :: rest ∧ o.scheduledEvents = rest ∧ Follows f s o ∧
      s.lastTick + s.elapsed = e.tick ∧ o.lastTick = e.tick ∧ o.tickEventNow = true := by
  obtain ⟨e, rest, hq, ht⟩ := due_first hc hn hm
  have hs := handleMessage_eq hc hq ht
  have hgrid := hc.grid e (by rw [hq]; exact List.mem_cons_self)
  exact ⟨e, rest, _, hs, hq, rfl, ⟨coherent_handleMessage hc hn hm hs,
    books_handleMessage hc hb hn hm hs, sameCount_handleMessage hc hn hm hs, fun _ hx => hx⟩,
    (hgrid.count_eq hc.frequency ht).1, (hgrid.count_eq hc.frequency ht).1, rfl⟩

theorem handled_follows (hc : s.Coherent) (hb : s.Books f) (hn : s.tickEventNow = true) :
    ∃ o, s.handled = .ok o ∧ Follows f s o ∧ o.scheduledEvents = s.scheduledEvents ∧
      o.tickEventNow = false := by
  obtain ⟨m, hm⟩ := scheduleNextTick_total hc.toRunning hc.grid
  have hs : s.handled = .ok { m with tickEventNow := false } := bind_ok.mpr ⟨m, hm, rfl⟩
  have hstep : s.step .handled = .ok { m with tickEventNow := false } := (if_pos hn).trans hs
  obtain ⟨hq, hlog, _⟩ := scheduleNextTick_frame hm hc.toRunning hc.grid
  have hl : m.subscribed = s.subscribed := congrArg Prod.fst hlog
  exact ⟨_, hs, ⟨(coherent_handled hc hs).1, books_step (e := .handled) hc hb trivial hstep,
    sameCount_handled hc hs, fun x hx => hl ▸ hx⟩, hq, rfl⟩

end Oscillator

namespace RealtimeClock

variable {s s' s'' : RealtimeClock} {f : ℚ}

/-! ## reading the time -/

/-- the ticks that have gone by -/
def tickCount (s : RealtimeClock) : ℕ := s.oscillator.lastTick + s.oscillator.elapsed

structure Steady (f : ℚ) (s : RealtimeClock) : Prop where
  coherent : s.oscillator.Coherent
  books : s.oscillator.Books f
  running : minEffectiveClockRate ≤ f
  drift : s.driftRate = 0
  behind : s.lastTick ≤ s.oscillator.lastTick
  localTime : s.localTime = s.lastTick / f
  jumps : s.jumps = []

theorem Steady.pos (h : s.Steady f) : 0 < f := h.books.frequency ▸ h.coherent.frequency

theorem Steady.rate_eq (h : s.Steady f) : s.rate = f := by
  unfold rate
  rw [h.books.frequency, h.drift, add_zero]

theorem Steady.isStopped_eq (h : s.Steady f) : s.isStopped = false := by
  unfold isStopped
  rw [h.rate_eq, decide_eq_false (not_lt.mpr h.running)]

theorem Steady.increment (h : s.Steady f) : s.timeIncrementPerTick = .ok (1 / f) := by
  unfold timeIncrementPerTick
  rw [h.rate_eq, if_neg (ne_of_gt h.pos)]

theorem Steady.behind_count (h : s.Steady f) : s.lastTick ≤ s.tickCount :=
  le_trans h.behind (Nat.le_add_right _ _)

theorem Steady.count_eq (h : s.Steady f) : s.tickCount = ⌊s.oscillator.time * f⌋₊ :=
  h.books.count h.coherent

theorem Steady.shown_eq (h : s.Steady f) : s.shown = s.tickCount / f := by
  show s.localTime + (s.tickCount - s.lastTick : ℕ) * (1 / s.rate) = _
  rw [h.rate_eq, h.localTime, mul_one_div, ← add_div, Nat.cast_sub h.behind_count, add_sub_cancel]

/-- the state that has read the time -/
def updated (s : RealtimeClock) : RealtimeClock :=
  { s with
    oscillator := s.oscillator.settled
    localTime := s.shown
    lastTick := s.tickCount }

theorem updateAndGetLocalTime_eq (h : s.Steady f) :
    s.updateAndGetLocalTime = .ok (s.shown, s.updated) := by
  have hle := h.behind_count
  unfold updateAndGetLocalTime
  rw [Oscillator.updateAndGetTickCount_eq h.coherent.toRunning]
  show (if s.tickCount < s.lastTick then _ else _) = _
  rw [if_neg (not_lt.mpr hle), h.increment]
  have hshown : s.localTime + (s.tickCount - s.lastTick : ℕ) * (1 / f) = s.shown := by
    rw [← h.rate_eq]
    rfl
  show Except.ok (s.localTime + (s.tickCount - s.lastTick : ℕ) * (1 / f), { s with
    oscillator := s.oscillator.settled
    localTime := s.localTime + (s.tickCount - s.lastTick : ℕ) * (1 / f)
    lastTick := s.lastTick + (s.tickCount - s.lastTick) }) = _
  rw [hshown, Nat.add_sub_cancel' hle]
  rfl

theorem Steady.updated (h : s.Steady f) : s.updated.Steady f :=
  ⟨h.coherent.settled, h.books.settled, h.running, h.drift, le_refl _, h.shown_eq, h.jumps⟩

/-- a time ahead is that of a tick that has not gone by -/
theorem Steady.count_le (h : s.Steady f) {n : ℕ} (hn : s.oscillator.time ≤ n / f) :
    s.tickCount ≤ n := by
  rw [h.count_eq]
  refine Nat.floor_le_of_le ?_
  rwa [← le_div_iff₀ h.pos]

/-! ## the ticks of the clock -/

/-- of the ticks of the clock at most the one it knows is subscribed -/
structure Own (s : RealtimeClock) : Prop where
  listener : ∀ n ∈ s.nextTick, n.listener = self
  known : ∀ e ∈ s.oscillator.scheduledEvents, e.listener = self → s.nextTick = some e

/-- the tick of the first timestamp is subscribed -/
structure Armed (f : ℚ) (s : RealtimeClock) : Prop extends s.Own where
  idle : s.scheduledEvents = [] → s.nextTick = none
  first : ∀ x xs, s.scheduledEvents = x :: xs → ∃ e ∈ s.oscillator.scheduledEvents,
    s.nextTick = some e ∧ e.kind = 0 ∧ e.tick = dueTick f x.localTime

/-- no timestamp is overdue -/
def Ahead (f : ℚ) (s : RealtimeClock) : Prop :=
  ∀ x ∈ s.scheduledEvents, 0 ≤ x.localTime ∧ s.oscillator.time ≤ dueTick f x.localTime / f

/-- nothing but the ticks changes -/
structure Kept (s s' : RealtimeClock) : Prop where
  scheduledEvents : s'.scheduledEvents = s.scheduledEvents
  objects : s'.objects = s.objects
  subscribed : s'.subscribed = s.subscribed
  unsubscribed : s'.unsubscribed = s.unsubscribed
  delivered : s'.delivered = s.delivered
  time : s'.oscillator.time = s.oscillator.time
  count : s'.tickCount = s.tickCount
  later : s.lastTick ≤ s'.lastTick

theorem cancelNextTick_eq (h : s.Steady f) (ho : s.Own) :
    ∃ o, s.cancelNextTick = .ok { s with oscillator := o, nextTick := none } ∧
      Oscillator.Follows f s.oscillator o ∧ ∀ e ∈ o.scheduledEvents, e.listener ≠ self := by
  unfold cancelNextTick
  cases hn : s.nextTick with
  | none =>
    refine ⟨s.oscillator, ?_, .refl h.coherent h.books, fun e he hl => ?_⟩
    · show Except.ok s = .ok { s with nextTick := none }
      rw [← hn]
    · have hk := ho.known e he hl
      rw [hn] at hk
      cases hk
  | some n =>
    obtain ⟨o, hs, hf, hq⟩ := Oscillator.removeIf_follows h.coherent h.books
      fun e => decide (e.key = Tick.mkKey n.tick n.kind self)
    refine ⟨o, ?_, hf.toFollows, fun e he hl => ?_⟩
    · dsimp only
      rw [Oscillator.unsubscribeTick_eq h.coherent, hs]
      rfl
    · rw [hq, List.mem_filter] at he
      have hk := ho.known e he.1 hl
      rw [hn] at hk
      cases hk
      have hkey : n.key = Tick.mkKey n.tick n.kind self := by
        unfold Tick.key
        rw [hl]
      simp [hkey] at he

/-- with no tick subscribed, that of the first timestamp is -/
theorem scheduleNextTimestamp_first {m : RealtimeClock} (hc : s.cancelNextTick = .ok m)
    (h : m.Steady f) (hnone : ∀ e ∈ m.oscillator.scheduledEvents, e.listener ≠ self)
    {x : Timestamp} {xs : List Timestamp} (hq : m.scheduledEvents = x :: xs) (hx : 0 ≤ x.localTime)
    (ht : m.oscillator.time ≤ dueTick f x.localTime / f) :
    ∃ e o, s.scheduleNextTimestamp = .ok { m.updated with oscillator := o, nextTick := some e } ∧
      Oscillator.Called f m.updated.oscillator o ∧ e.listener = self ∧ e.kind = 0 ∧
      e.tick = dueTick f x.localTime ∧
      ∀ y : Tick, y.listener = self → (y ∈ o.scheduledEvents ↔ y = e) := by
  have hle := h.count_le ht
  have hset := Oscillator.settled_follows h.coherent h.books
  have hcount : m.oscillator.settled.lastTick + m.oscillator.settled.elapsed = m.tickCount :=
    hset.same.count
  obtain ⟨e, o, hs, hfol, hl, hk, htick, honly⟩ := Oscillator.subscribeTick_first
    (n := dueTick f x.localTime) hset.coherent hset.books hnone (le_of_eq_of_le hcount hle) ht
  refine ⟨e, o, ?_, hfol, hl, hk, htick, honly⟩
  have hidle := ceilTicks_eq h.pos hx hle
  rw [← h.shown_eq] at hidle
  rw [hcount] at hs
  unfold scheduleNextTimestamp
  refine bind_ok.mpr ⟨m, hc, ?_⟩
  dsimp only
  rw [hq]
  dsimp only
  rw [h.isStopped_eq, if_neg Bool.false_ne_true]
  refine bind_ok.mpr ⟨_, updateAndGetLocalTime_eq h, ?_⟩
  refine bind_ok.mpr ⟨_, h.updated.increment, ?_⟩
  refine bind_ok.mpr ⟨_, hidle, ?_⟩
  exact bind_ok.mpr ⟨_, hs, rfl⟩

/-- **The tick of the first timestamp is subscribed, and no other one.** -/
theorem scheduleNextTimestamp_armed (h : s.Steady f) (ho : s.Own) (ha : s.Ahead f) :
    ∃ s', s.scheduleNextTimestamp = .ok s' ∧ s'.Steady f ∧ s'.Armed f ∧ Kept s s' := by
  obtain ⟨o, hcancel, hfol, hnone⟩ := cancelNextTick_eq h ho
  have hst : { s with oscillator := o, nextTick := none }.Steady f :=
    ⟨hfol.coherent, hfol.books, h.running, h.drift, le_trans h.behind hfol.same.later, h.localTime,
      h.jumps⟩
  have hcount : { s with oscillator := o, nextTick := none }.tickCount = s.tickCount :=
    hfol.same.count
  cases hq : s.scheduledEvents with
  | nil =>
    refine ⟨_, bind_ok.mpr ⟨_, hcancel, ?_⟩, hst, ⟨⟨nofun, ?_⟩, ?_, ?_⟩,
      ⟨rfl, rfl, rfl, rfl, rfl, hfol.same.time, hcount, le_refl _⟩⟩
    · dsimp only
      rw [hq]
      rfl
    · intro e he hl
      exact absurd hl (hnone e he)
    · intro _
      rfl
    · intro x xs hcons
      rw [show s.scheduledEvents = x :: xs from hcons] at hq
      cases hq
  | cons x xs =>
    obtain ⟨hx0, hxt⟩ := ha x (by rw [hq]; exact List.mem_cons_self)
    have hxt' : o.time ≤ dueTick f x.localTime / f := le_of_eq_of_le hfol.same.time hxt
    obtain ⟨e, o', hs, hfol', hl, hk, ht, honly⟩ :=
      scheduleNextTimestamp_first hcancel hst hnone hq hx0 hxt'
    have hboth := hfol.trans
      ((Oscillator.settled_follows hfol.coherent hfol.books).trans hfol').toFollows
    have hlater := hst.behind_count
    refine ⟨_, hs, ⟨hboth.coherent, hboth.books, h.running, h.drift, hfol'.same.later,
        hst.shown_eq, h.jumps⟩,
      ⟨⟨?_, ?_⟩, ?_, ?_⟩, ⟨rfl, rfl, rfl, rfl, rfl, hboth.same.time, hboth.same.count, hlater⟩⟩
    · intro n hn
      cases hn
      exact hl
    · intro y hy hly
      rw [(honly y hly).mp hy]
    · intro hnil
      rw [show s.scheduledEvents = [] from hnil] at hq
      cases hq
    · intro y ys hcons
      rw [show s.scheduledEvents = y :: ys from hcons] at hq
      cases hq
      exact ⟨e, (honly e hl).mpr rfl, rfl, hk, ht⟩

end RealtimeClock

end Nesting
