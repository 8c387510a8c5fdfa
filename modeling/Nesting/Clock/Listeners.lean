import Mathlib.Data.List.Nodup
import Nesting.Clock.LegacyClock
import Nesting.Clock.Timestamps

/-!
# Listeners that share a tick

* `Waits`, `IsDue`   who waits for a tick of the clock, and who is still to be called;
* `Tabled`      the table agrees with the subscriptions that the notices tell of;
* `Careful`     a listener that unsubscribes shares no tick, and is not just being called;
* `unsubscribe_frame`  **in careful runs every listener is called once for each of its ticks.**
-/

set_option linter.unusedVariables false

namespace Nesting

open Lib

namespace Oscillator

variable {s : Oscillator} {f : ℚ}

theorem Books.mem_subscribed (h : Books f s) {e : Tick} (he : e ∈ s.scheduledEvents) :
    e ∈ s.subscribed := h.once.mem_iff.mpr (List.mem_append_right _ he)

theorem Books.eq_of_object (h : Books f s) {e e' : Tick} (he : e ∈ s.subscribed)
    (he' : e' ∈ s.subscribed) (ho : e.object = e'.object) : e = e' :=
  List.inj_on_of_nodup_map h.distinct he he' ho

end Oscillator

namespace LegacyClock

open RealtimeClock (Foreign)

variable {s s' : LegacyClock} {f : ℚ} {table : List (Tick × List Nat)}

/-! ## the table -/

theorem mem_listenersOf_insertListener {tick x : Tick} {l m : Nat} :
    m ∈ listenersOf (insertListener tick l table) x ↔
      m ∈ listenersOf table x ∨ x.object = tick.object ∧ m = l := by
  induction table with
  | nil =>
    unfold listenersOf insertListener
    by_cases h : tick.object = x.object
    · simp [h]
    · simp [h, Ne.symm h]
  | cons entry table ih =>
    unfold insertListener
    by_cases ht : entry.1.object = tick.object
    · rw [if_pos ht]
      unfold listenersOf
      by_cases hx : entry.1.object = x.object
      · rw [List.find?_cons_of_pos (by simpa using hx), List.find?_cons_of_pos (by simpa using hx)]
        have hxt : x.object = tick.object := hx.symm.trans ht
        by_cases hl : l ∈ entry.2
        · simp only [if_pos hl, Option.map_some, Option.getD_some, hxt, true_and]
          exact ⟨.inl, fun h => h.elim id fun heq => heq ▸ hl⟩
        · simp [if_neg hl, hxt, or_comm]
      · rw [List.find?_cons_of_neg (by simpa using hx), List.find?_cons_of_neg (by simpa using hx)]
        have hxt : x.object ≠ tick.object := fun h => hx (ht.trans h.symm)
        simp [hxt]
    · rw [if_neg ht]
      unfold listenersOf at ih ⊢
      by_cases hx : entry.1.object = x.object
      · rw [List.find?_cons_of_pos (by simpa using hx), List.find?_cons_of_pos (by simpa using hx)]
        have hxt : x.object ≠ tick.object := fun h => ht (hx.trans h)
        simp [hxt]
      · rw [List.find?_cons_of_neg (by simpa using hx), List.find?_cons_of_neg (by simpa using hx)]
        exact ih

theorem listenersOf_eraseTick {tick x : Tick} (h : x.object ≠ tick.object) :
    listenersOf (eraseTick tick table) x = listenersOf table x := by
  induction table with
  | nil => rfl
  | cons entry table ih =>
    unfold listenersOf eraseTick at *
    by_cases ht : entry.1.object = tick.object
    · have hx : entry.1.object ≠ x.object := fun heq => h (heq.symm.trans ht)
      rw [List.filter_cons_of_neg (by simpa using ht), List.find?_cons_of_neg (by simpa using hx)]
      exact ih
    · rw [List.filter_cons_of_pos (by simpa using ht)]
      by_cases hx : entry.1.object = x.object
      · rw [List.find?_cons_of_pos (by simpa using hx), List.find?_cons_of_pos (by simpa using hx)]
      · rw [List.find?_cons_of_neg (by simpa using hx), List.find?_cons_of_neg (by simpa using hx)]
        exact ih

/-- the table without a listener -/
def without (l : Nat) (table : List (Tick × List Nat)) : List (Tick × List Nat) :=
  table.map fun entry => (entry.1, entry.2.filter (· ≠ l))

theorem listenersOf_without {l : Nat} {x : Tick} :
    listenersOf (without l table) x = (listenersOf table x).filter (· ≠ l) := by
  induction table with
  | nil => rfl
  | cons entry table ih =>
    unfold listenersOf without at *
    rw [List.map_cons]
    by_cases hx : entry.1.object = x.object
    · rw [List.find?_cons_of_pos (by simpa using hx), List.find?_cons_of_pos (by simpa using hx)]
      rfl
    · rw [List.find?_cons_of_neg (by simpa using hx), List.find?_cons_of_neg (by simpa using hx)]
      exact ih

theorem mem_of_mem_listenersOf {x : Tick} {l : Nat} (h : l ∈ listenersOf table x) :
    ∃ entry ∈ table, entry.1.object = x.object ∧ l ∈ entry.2 := by
  unfold listenersOf at h
  cases hf : table.find? fun entry => entry.1.object = x.object with
  | none =>
    rw [hf] at h
    cases h
  | some entry =>
    rw [hf] at h
    exact ⟨entry, List.mem_of_find?_eq_some hf, by simpa using List.find?_some hf, h⟩

theorem nodup_listenersOf (h : ∀ entry ∈ table, entry.2.Nodup) (x : Tick) :
    (listenersOf table x).Nodup := by
  unfold listenersOf
  cases hf : table.find? fun entry => entry.1.object = x.object with
  | none => exact List.nodup_nil
  | some entry => exact h entry (List.mem_of_find?_eq_some hf)

/-- the ticks of the listener are unsubscribed one after the other -/
theorem unsubscribeEach_eq {o : Oscillator} (hc : o.Coherent) (hb : o.Books f) (l : Nat)
    (table : List (Tick × List Nat)) :
    ∃ o', unsubscribeEach l o table = .ok (without l table, o') ∧ Oscillator.Called f o o' ∧
      ∀ e, e ∈ o'.scheduledEvents ↔ e ∈ o.scheduledEvents ∧
        ∀ entry ∈ table, l ∈ entry.2 → e.key ≠ Tick.mkKey entry.1.tick entry.1.kind self := by
  induction table generalizing o with
  | nil =>
    exact ⟨o, rfl, ⟨.refl hc hb, rfl⟩, fun e => by simp⟩
  | cons entry table ih =>
    unfold unsubscribeEach
    by_cases hl : l ∈ entry.2
    · obtain ⟨m, hm, hcall, hq⟩ := Oscillator.removeIf_follows hc hb
        fun e => decide (e.key = Tick.mkKey entry.1.tick entry.1.kind self)
      obtain ⟨o', ho, hcall', hq'⟩ := ih hcall.coherent hcall.books
      refine ⟨o', ?_, hcall.trans hcall', fun e => ?_⟩
      · rw [if_pos hl, Oscillator.unsubscribeTick_eq hc, hm]
        exact bind_ok.mpr ⟨m, rfl, bind_ok.mpr ⟨_, ho, rfl⟩⟩
      · rw [hq' e, hq, List.mem_filter, List.forall_mem_cons, and_assoc]
        simp [hl]
    · obtain ⟨o', ho, hcall', hq'⟩ := ih hc hb
      refine ⟨o', ?_, hcall', fun e => ?_⟩
      · rw [if_neg hl]
        refine bind_ok.mpr ⟨_, ho, ?_⟩
        have hself : entry.2.filter (· ≠ l) = entry.2 := by
          apply List.filter_eq_self.mpr
          intro m hm
          simpa using fun h : m = l => hl (h ▸ hm)
        show _ = Except.ok ((entry.1, entry.2.filter (· ≠ l)) :: without l table, o')
        rw [hself]
        rfl
      · rw [hq' e, List.forall_mem_cons]
        simp [hl]

/-! ## subscriptions -/

/-- the subscriptions that the notices tell of -/
def subscriptions (s : LegacyClock) : Subscriptions Nat (Nat × Nat) := .ofNotices s.notices

/-- the listener is in the table under a pending tick -/
def Waits (s : LegacyClock) (l t k : Nat) : Prop :=
  ∃ e ∈ s.oscillator.scheduledEvents, e.listener = self ∧ e.tick = t ∧ e.kind = k ∧
    l ∈ listenersOf s.tickToListenerTable e

/-- the listener is still to be called in the loop -/
def IsDue (s : LegacyClock) (l t k : Nat) : Prop :=
  ∃ tick ls, s.listeners = some (tick, ls) ∧ tick.tick = t ∧ tick.kind = k ∧ l ∈ ls

/-- the table and the loop agree with the subscriptions -/
structure Serves (s : LegacyClock) (a : Subscriptions Nat (Nat × Nat)) : Prop where
  waiting : ∀ l t k, (l, (t, k)) ∈ a.waiting ↔ s.Waits l t k
  due : ∀ l t k, (l, (t, k)) ∈ a.due ↔ s.IsDue l t k

theorem Serves.congr {a : Subscriptions Nat (Nat × Nat)} (h : s.Serves a)
    (hq : ∀ e : Tick, e.listener = self →
      (e ∈ s'.oscillator.scheduledEvents ↔ e ∈ s.oscillator.scheduledEvents))
    (ht : s'.tickToListenerTable = s.tickToListenerTable) (hl : s'.listeners = s.listeners) :
    s'.Serves a := by
  refine ⟨fun l t k => (h.waiting l t k).trans ?_, fun l t k => (h.due l t k).trans ?_⟩
  · unfold Waits
    rw [ht]
    apply exists_congr
    intro e
    constructor
    · rintro ⟨he, hs, hrest⟩
      exact ⟨(hq e hs).mpr he, hs, hrest⟩
    · rintro ⟨he, hs, hrest⟩
      exact ⟨(hq e hs).mp he, hs, hrest⟩
  · unfold IsDue
    rw [hl]

/-- the tick whose listeners are called was taken out of the queue at this count -/
structure InLoop (o : Oscillator) (tick : Tick) (ls : List Nat) : Prop where
  listener : tick.listener = self
  subscribed : tick ∈ o.subscribed
  gone : tick ∉ o.scheduledEvents
  nodup : ls.Nodup
  lastTick : o.lastTick = tick.tick
  count : o.lastTick + o.elapsed = tick.tick
  now : o.tickEventNow = true

theorem InLoop.called {o o' : Oscillator} {tick : Tick} {ls : List Nat} (h : InLoop o tick ls)
    (hcall : Oscillator.Called f o o') (hgone : tick ∉ o'.scheduledEvents) :
    InLoop o' tick ls := by
  have hcount : o'.lastTick + o'.elapsed = tick.tick := hcall.same.count.trans h.count
  refine ⟨h.listener, hcall.logged _ h.subscribed, hgone, h.nodup, ?_, hcount,
    hcall.now.trans h.now⟩
  have h1 := h.lastTick
  have h2 := hcall.same.later
  omega

structure Tabled (f : ℚ) (s : LegacyClock) : Prop where
  coherent : s.oscillator.Coherent
  books : s.oscillator.Books f
  behind : s.lastTick ≤ s.oscillator.lastTick
  entries : ∀ entry ∈ s.tickToListenerTable, entry.1 ∈ s.oscillator.subscribed ∧ entry.2.Nodup
  loop : ∀ tick ls, s.listeners = some (tick, ls) → InLoop s.oscillator tick ls
  orderly : Subscriptions.Orderly s.notices
  serves : s.Serves s.subscriptions

/-- the oscillator goes on, with the ticks of the clock as they are -/
theorem Tabled.with_oscillator (h : s.Tabled f) {o : Oscillator}
    (hcall : Oscillator.Called f s.oscillator o)
    (hq : ∀ e : Tick, e.listener = self →
      (e ∈ o.scheduledEvents ↔ e ∈ s.oscillator.scheduledEvents)) :
    { s with oscillator := o }.Tabled f := by
  refine ⟨hcall.coherent, hcall.books, le_trans h.behind hcall.same.later, ?_, ?_, h.orderly,
    h.serves.congr hq rfl rfl⟩
  · intro entry he
    exact ⟨hcall.logged _ (h.entries entry he).1, (h.entries entry he).2⟩
  · intro tick ls hl
    have hloop := h.loop tick ls hl
    exact hloop.called hcall fun hmem => hloop.gone ((hq tick hloop.listener).mp hmem)

/-! ## calls -/

theorem getTime_total (h : s.Tabled f) : ∃ t s', s.getTime = .ok (t, s') ∧ s'.Tabled f := by
  have hle : s.lastTick ≤ s.oscillator.lastTick + s.oscillator.elapsed :=
    le_trans h.behind (Nat.le_add_right _ _)
  have htab := h.with_oscillator (Oscillator.settled_follows h.coherent h.books) fun e _ => Iff.rfl
  refine ⟨s.time + (s.oscillator.lastTick + s.oscillator.elapsed - s.lastTick : ℕ) *
    (1 / s.oscillator.frequency), { s with
      oscillator := s.oscillator.settled
      time := s.time + (s.oscillator.lastTick + s.oscillator.elapsed - s.lastTick : ℕ) *
        (1 / s.oscillator.frequency)
      lastTick := s.lastTick + (s.oscillator.lastTick + s.oscillator.elapsed - s.lastTick) },
    bind_ok.mpr ⟨_, Oscillator.updateAndGetTickCount_eq h.coherent.toRunning, ?_⟩, ?_⟩
  · dsimp only
    rw [if_neg (not_lt.mpr hle)]
    unfold getClockRate
    rw [if_neg (ne_of_gt h.coherent.frequency)]
    rfl
  · refine ⟨htab.coherent, htab.books, ?_, htab.entries, htab.loop, htab.orderly,
      htab.serves.congr (fun e _ => Iff.rfl) rfl rfl⟩
    show s.lastTick + (s.oscillator.lastTick + s.oscillator.elapsed - s.lastTick) ≤ _
    rw [Nat.add_sub_cancel' hle]
    exact le_refl _

theorem mem_insertListener {tick : Tick} {l : Nat} {entry : Tick × List Nat}
    (h : entry ∈ insertListener tick l table) : entry = (tick, [l]) ∨
      ∃ e ∈ table, entry.1 = e.1 ∧ (entry.2 = e.2 ∨ l ∉ e.2 ∧ entry.2 = l :: e.2) := by
  induction table with
  | nil => exact .inl (List.mem_singleton.mp h)
  | cons e table ih =>
    unfold insertListener at h
    by_cases ht : e.1.object = tick.object
    · rw [if_pos ht] at h
      right
      obtain rfl | hmem := List.mem_cons.mp h
      · refine ⟨e, List.mem_cons_self, rfl, ?_⟩
        by_cases hl : l ∈ e.2
        · exact .inl (if_pos hl)
        · exact .inr ⟨hl, if_neg hl⟩
      · exact ⟨entry, List.mem_cons_of_mem _ hmem, rfl, .inl rfl⟩
    · rw [if_neg ht] at h
      obtain rfl | hmem := List.mem_cons.mp h
      · exact .inr ⟨entry, List.mem_cons_self, rfl, .inl rfl⟩
      · obtain heq | ⟨e', he', hrest⟩ := ih hmem
        · exact .inl heq
        · exact .inr ⟨e', List.mem_cons_of_mem _ he', hrest⟩

/-- **A subscription is put into the table under the pending tick.** -/
theorem subscribeTick_total (h : s.Tabled f) (l kind : Nat) {idleTicks : Nat}
    (hi : s.oscillator.Timely (.subscribeTick self idleTicks kind)) :
    ∃ s', s.subscribeTick l idleTicks kind = .ok s' ∧ s'.Tabled f := by
  obtain ⟨e, o, ho, hcall, hlis, htick, hkind, hsub, hnew, hq⟩ :=
    Oscillator.subscribeTick_called h.coherent h.books self kind hi
  have hfresh : ∀ x ∈ s.oscillator.subscribed, x.object = e.object → x = e ∧
      e ∈ s.oscillator.scheduledEvents := by
    intro x hx hobj
    obtain hold | hobj' := hnew
    · exact ⟨h.books.eq_of_object hx (h.books.mem_subscribed hold) hobj, hold⟩
    · have := h.books.numbered x hx
      omega
  refine ⟨_, bind_ok.mpr ⟨_, ho, rfl⟩, hcall.coherent, hcall.books,
    le_trans h.behind hcall.same.later, ?_, ?_, ?_, ?_, ?_⟩
  · intro entry hentry
    obtain rfl | ⟨x, hx, h1, h2⟩ := mem_insertListener hentry
    · exact ⟨hsub, List.nodup_singleton l⟩
    · obtain ⟨hxs, hxn⟩ := h.entries x hx
      refine ⟨h1 ▸ hcall.logged _ hxs, ?_⟩
      obtain h2 | ⟨hl, h2⟩ := h2
      · exact h2 ▸ hxn
      · exact h2 ▸ List.nodup_cons.mpr ⟨hl, hxn⟩
  · intro tick ls hl
    have hloop := h.loop tick ls hl
    refine hloop.called hcall fun hmem => ?_
    obtain rfl | hmem := (hq tick).mp hmem
    · exact hloop.gone (hfresh tick hloop.subscribed rfl).2
    · exact hloop.gone hmem
  · exact Subscriptions.orderly_snoc.mpr ⟨h.orderly, trivial⟩
  · intro m t k
    unfold subscriptions
    dsimp only
    rw [Subscriptions.ofNotices_snoc]
    have hold := h.serves.waiting m t k
    unfold subscriptions at hold
    simp only [Subscriptions.after, Set.mem_insert_iff, hold, Prod.mk.injEq]
    unfold Waits
    dsimp only
    constructor
    · rintro (⟨rfl, rfl, rfl⟩ | ⟨x, hx, hxl, hxt, hxk, hxm⟩)
      · exact ⟨e, (hq e).mpr (.inl rfl), hlis, rfl, hkind,
          mem_listenersOf_insertListener.mpr (.inr ⟨rfl, rfl⟩)⟩
      · exact ⟨x, (hq x).mpr (.inr hx), hxl, hxt, hxk,
          mem_listenersOf_insertListener.mpr (.inl hxm)⟩
    · rintro ⟨x, hx, hxl, hxt, hxk, hxm⟩
      obtain hold | ⟨hobj, rfl⟩ := mem_listenersOf_insertListener.mp hxm
      · right
        refine ⟨x, ?_, hxl, hxt, hxk, hold⟩
        obtain rfl | hx := (hq x).mp hx
        · obtain ⟨entry, hentry, hobj, _⟩ := mem_of_mem_listenersOf hold
          exact (hfresh entry.1 (h.entries entry hentry).1 hobj).2
        · exact hx
      · left
        have hxe : x = e := by
          obtain heq | hx := (hq x).mp hx
          · exact heq
          · exact (hfresh x (h.books.mem_subscribed hx) hobj).1
        rw [hxe] at hxt hxk
        exact ⟨rfl, hxt.symm, hxk.symm.trans hkind⟩
  · intro m t k
    unfold subscriptions
    dsimp only
    rw [Subscriptions.ofNotices_snoc]
    exact h.serves.due m t k

/-- the listener shares no pending tick with another one, and is not still to be called -/
structure Alone (s : LegacyClock) (l : Nat) : Prop where
  due : ∀ entry ∈ s.listeners, l ∉ entry.2
  waiting : ∀ entry ∈ s.tickToListenerTable, l ∈ entry.2 → ∀ e ∈ s.oscillator.scheduledEvents,
    e.key = Tick.mkKey entry.1.tick entry.1.kind self → ∀ m ∈ listenersOf s.tickToListenerTable e,
      m = l

instance (s : LegacyClock) (l : Nat) : Decidable (s.Alone l) :=
  decidable_of_iff ((∀ entry ∈ s.listeners, l ∉ entry.2) ∧
    ∀ entry ∈ s.tickToListenerTable, l ∈ entry.2 → ∀ e ∈ s.oscillator.scheduledEvents,
      e.key = Tick.mkKey entry.1.tick entry.1.kind self →
        ∀ m ∈ listenersOf s.tickToListenerTable e, m = l)
    ⟨fun h => ⟨h.1, h.2⟩, fun h => ⟨h.1, h.2⟩⟩

/-- what unsubscribing leaves of the table and the queue -/
theorem unsubscribeTicks_eq (h : s.Tabled f) (l : Nat) :
    ∃ o, s.unsubscribeTicks l = .ok { s with
        oscillator := o
        tickToListenerTable := without l s.tickToListenerTable
        notices := s.notices ++ [.unsubscribed l] } ∧
      Oscillator.Called f s.oscillator o ∧
      ∀ e, e ∈ o.scheduledEvents ↔ e ∈ s.oscillator.scheduledEvents ∧
        ∀ entry ∈ s.tickToListenerTable, l ∈ entry.2 →
          e.key ≠ Tick.mkKey entry.1.tick entry.1.kind self := by
  obtain ⟨o, ho, hcall, hq⟩ := unsubscribeEach_eq h.coherent h.books l s.tickToListenerTable
  exact ⟨o, bind_ok.mpr ⟨_, ho, rfl⟩, hcall, hq⟩

/-- **A listener leaves the others alone exactly when it is alone.** -/
theorem serves_unsubscribed_iff (h : s.Tabled f) {l : Nat} (hs : s.unsubscribeTicks l = .ok s') :
    s'.Serves s'.subscriptions ↔ s.Alone l := by
  obtain ⟨o, ho, hcall, hq⟩ := unsubscribeTicks_eq h l
  rw [ho] at hs
  cases hs
  have hafter : Subscriptions.ofNotices (s.notices ++ [.unsubscribed l]) =
      s.subscriptions.after (.unsubscribed l) := Subscriptions.ofNotices_snoc
  constructor
  · intro hserves
    refine ⟨?_, ?_⟩
    · -- who is still to be called is due no more
      intro entry hentry hl
      have hdue := (hserves.due l entry.1.tick entry.1.kind).mpr ⟨entry.1, entry.2, hentry, rfl, rfl, hl⟩
      unfold subscriptions at hdue
      rw [hafter] at hdue
      exact hdue.2 rfl
    · -- another listener of the tick waits for a tick that is gone
      intro entry hentry hl e he hk m hm
      by_contra hne
      obtain ⟨htick, hkind, hself⟩ :=
        (Tick.key_eq (b := ⟨0, self, entry.1.tick, entry.1.kind, 0⟩)).mp hk
      have hwaits : (m, (e.tick, e.kind)) ∈ (s.subscriptions.after (.unsubscribed l)).waiting :=
        ⟨(h.serves.waiting m e.tick e.kind).mpr ⟨e, he, hself, rfl, rfl, hm⟩, hne⟩
      rw [← hafter] at hwaits
      obtain ⟨x, hx, hxl, hxt, hxk, _⟩ := (hserves.waiting m e.tick e.kind).mp hwaits
      refine ((hq x).mp hx).2 entry hentry hl ?_
      rw [← hk]
      exact Tick.key_eq.mpr ⟨hxt, hxk, hxl.trans hself.symm⟩
  · intro halone
    refine ⟨fun m t k => ?_, fun m t k => ?_⟩
    · unfold subscriptions
      rw [hafter]
      refine (and_congr_left' (h.serves.waiting m t k)).trans ?_
      unfold Waits
      dsimp only
      constructor
      · rintro ⟨⟨e, he, hself, ht, hk, hm⟩, hne⟩
        refine ⟨e, (hq e).mpr ⟨he, fun entry hentry hl hkey => ?_⟩, hself, ht, hk, ?_⟩
        · exact hne (halone.waiting entry hentry hl e he hkey m hm)
        · rw [listenersOf_without]
          exact List.mem_filter.mpr ⟨hm, decide_eq_true hne⟩
      · rintro ⟨e, he, hself, ht, hk, hm⟩
        rw [listenersOf_without] at hm
        obtain ⟨hm, hne⟩ := List.mem_filter.mp hm
        exact ⟨⟨e, ((hq e).mp he).1, hself, ht, hk, hm⟩, of_decide_eq_true hne⟩
    · unfold subscriptions
      rw [hafter]
      refine (and_congr_left' (h.serves.due m t k)).trans (and_iff_left_of_imp ?_)
      rintro ⟨tick, ls, hls, _, _, hm⟩ rfl
      exact halone.due _ hls hm

theorem unsubscribeTicks_total (h : s.Tabled f) {l : Nat} (halone : s.Alone l) :
    ∃ s', s.unsubscribeTicks l = .ok s' ∧ s'.Tabled f := by
  obtain ⟨o, ho, hcall, hq⟩ := unsubscribeTicks_eq h l
  refine ⟨_, ho, hcall.coherent, hcall.books, le_trans h.behind hcall.same.later, ?_, ?_, ?_,
    (serves_unsubscribed_iff h ho).mpr halone⟩
  · intro entry hentry
    obtain ⟨x, hx, rfl⟩ := List.mem_map.mp hentry
    obtain ⟨hxs, hxn⟩ := h.entries x hx
    exact ⟨hcall.logged _ hxs, hxn.filter _⟩
  · intro tick ls hl
    have hloop := h.loop tick ls hl
    exact hloop.called hcall fun hmem => hloop.gone ((hq tick).mp hmem).1
  · exact Subscriptions.orderly_snoc.mpr ⟨h.orderly, trivial⟩

/-! ## ticks -/

theorem Tabled.listeners_none (h : s.Tabled f) (hn : s.oscillator.tickEventNow = false) :
    s.listeners = none := by
  cases hl : s.listeners with
  | none => rfl
  | some entry =>
    have hnow := (h.loop entry.1 entry.2 hl).now
    rw [hn] at hnow
    cases hnow

theorem Tabled.due_empty (h : s.Tabled f) (hl : ∀ entry ∈ s.listeners, entry.2 = []) :
    s.subscriptions.due = ∅ := by
  apply Set.eq_empty_of_forall_notMem
  rintro ⟨l, t, k⟩ hmem
  obtain ⟨tick, ls, hls, _, _, hlm⟩ := (h.serves.due l t k).mp hmem
  have hnil : ls = [] := hl _ hls
  rw [hnil] at hlm
  cases hlm

/-- **What the message of the oscillator does**: everyone who waits for a tick of the clock is due. -/
theorem handleMessage_total (h : s.Tabled f) (hn : s.oscillator.tickEventNow = false)
    (hm : s.oscillator.tickMessage = some s.oscillator.time) :
    ∃ tick ticks s', s.oscillator.scheduledEvents = tick :: ticks ∧ s.handleMessage = .ok s' ∧
      s'.Tabled f ∧ (tick.listener ≠ self → s'.notices = s.notices) ∧
      (tick.listener = self →
        s'.notices = s.notices ++ [.begun (⌊s.oscillator.time * f⌋₊, tick.kind)] ∧
        tick.tick = ⌊s.oscillator.time * f⌋₊) := by
  obtain ⟨e, rest, o, ho, hq, hqo, hfol, hcount, hlast, hnow⟩ :=
    Oscillator.handleMessage_follows h.coherent h.books hn hm
  have htime : e.tick = ⌊s.oscillator.time * f⌋₊ := hcount.symm.trans (h.books.count h.coherent)
  have hnone := h.listeners_none hn
  have hasc := h.coherent.ascending
  have hmem : e ∈ s.oscillator.scheduledEvents := by
    rw [hq]
    exact List.mem_cons_self
  have hentries : ∀ entry ∈ s.tickToListenerTable, entry.1 ∈ o.subscribed ∧ entry.2.Nodup :=
    fun entry he => ⟨hfol.logged _ (h.entries entry he).1, (h.entries entry he).2⟩
  by_cases hl : e.listener = self
  · -- no other pending tick of the clock is of the same count and kind
    have honly : ∀ x ∈ s.oscillator.scheduledEvents, x.listener = self → x.tick = e.tick →
        x.kind = e.kind → x = e := fun x hx hxl hxt hxk =>
      hasc.eq_of_key hx hmem (Tick.key_eq.mpr ⟨hxt, hxk, hxl.trans hl.symm⟩)
    have hgone : e ∉ rest := by
      rw [hq] at hasc
      exact fun hr => lt_irrefl _ (hasc.head_lt hr)
    refine ⟨e, rest, { s with oscillator := o }.onTick e, hq, ?_, ?_, fun h => absurd hl h,
      fun _ => ⟨?_, htime⟩⟩
    · refine bind_ok.mpr ⟨_, ho, ?_⟩
      dsimp only
      rw [if_pos hl]
      rfl
    · have hafter : Subscriptions.ofNotices (s.notices ++ [.begun (o.lastTick, e.kind)]) =
          s.subscriptions.after (.begun (e.tick, e.kind)) := by
        rw [hlast]
        exact Subscriptions.ofNotices_snoc
      refine ⟨hfol.coherent, hfol.books, le_trans h.behind hfol.same.later, hentries, ?_, ?_, ?_, ?_⟩
      · intro tick ls hls
        cases hls
        refine ⟨hl, hfol.logged _ (h.books.mem_subscribed hmem), hqo ▸ hgone, ?_, hlast, ?_, hnow⟩
        · exact nodup_listenersOf (fun entry he => (h.entries entry he).2) e
        · exact hfol.same.count.trans hcount
      · refine Subscriptions.orderly_snoc.mpr ⟨h.orderly, ?_⟩
        refine h.due_empty fun entry he => ?_
        rw [hnone] at he
        cases he
      · intro l t k
        unfold subscriptions onTick
        dsimp only
        rw [hafter]
        refine (and_congr_left' (h.serves.waiting l t k)).trans ?_
        constructor
        · rintro ⟨⟨x, hx, hxl, hxt, hxk, hxm⟩, hne⟩
          refine ⟨x, ?_, hxl, hxt, hxk, hxm⟩
          rw [hq] at hx
          obtain rfl | hr := List.mem_cons.mp hx
          · exact absurd (Prod.ext hxt.symm hxk.symm) hne
          · exact hqo.symm ▸ hr
        · rintro ⟨x, hx, hxl, hxt, hxk, hxm⟩
          have hr : x ∈ rest := hqo ▸ hx
          have hxq : x ∈ s.oscillator.scheduledEvents := by
            rw [hq]
            exact List.mem_cons_of_mem _ hr
          refine ⟨⟨x, hxq, hxl, hxt, hxk, hxm⟩, fun heq => ?_⟩
          cases heq
          exact hgone (honly x hxq hxl hxt hxk ▸ hr)
      · intro l t k
        unfold subscriptions onTick
        dsimp only
        rw [hafter]
        refine (and_congr_left' (h.serves.waiting l t k)).trans ?_
        constructor
        · rintro ⟨⟨x, hx, hxl, hxt, hxk, hxm⟩, heq⟩
          cases heq
          rw [honly x hx hxl hxt hxk] at hxm
          exact ⟨e, _, rfl, rfl, rfl, hxm⟩
        · rintro ⟨tick, ls, hls, htick, hkind, hm⟩
          cases hls
          exact ⟨⟨e, hmem, hl, htick, hkind, hm⟩, Prod.ext htick.symm hkind.symm⟩
    · show s.notices ++ [.begun (o.lastTick, e.kind)] = _
      rw [hlast, htime]
  · refine ⟨e, rest, { s with oscillator := o }, hq, ?_, ?_, fun _ => rfl, fun h => absurd h hl⟩
    · refine bind_ok.mpr ⟨_, ho, ?_⟩
      dsimp only
      rw [if_neg hl]
      rfl
    · refine ⟨hfol.coherent, hfol.books, le_trans h.behind hfol.same.later, hentries, ?_, h.orderly,
        h.serves.congr (fun x hx => ?_) rfl rfl⟩
      · intro tick ls hls
        rw [show s.listeners = some (tick, ls) from hls] at hnone
        cases hnone
      · have hne : x ≠ e := by
          rintro rfl
          exact hl hx
        show x ∈ o.scheduledEvents ↔ _
        rw [hqo, hq, List.mem_cons, or_iff_right hne]

/-- one of the listeners is called -/
theorem tick_total (h : s.Tabled f) {tick : Tick} {ls : List Nat}
    (hls : s.listeners = some (tick, ls)) {l : Nat} (hl : l ∈ ls) :
    ∃ s', s.tick l = .ok s' ∧ s'.Tabled f ∧
      s'.notices = s.notices ++ [.called l (⌊s.oscillator.time * f⌋₊, tick.kind)] ∧
      s'.listeners = some (tick, ls.erase l) := by
  have hloop := h.loop tick ls hls
  have htime : s.oscillator.lastTick = ⌊s.oscillator.time * f⌋₊ :=
    hloop.lastTick.trans (hloop.count.symm.trans (h.books.count h.coherent))
  have hdue : (l, (s.oscillator.lastTick, tick.kind)) ∈ s.subscriptions.due := by
    rw [hloop.lastTick]
    exact (h.serves.due l tick.tick tick.kind).mpr ⟨tick, ls, hls, rfl, rfl, hl⟩
  refine ⟨{ s with
    listeners := some (tick, ls.erase l)
    notices := s.notices ++ [.called l (s.oscillator.lastTick, tick.kind)] }, ?_, ?_, ?_, rfl⟩
  · unfold LegacyClock.tick
    rw [hls]
    exact if_pos hl
  · have hafter : Subscriptions.ofNotices (s.notices ++
        [.called l (s.oscillator.lastTick, tick.kind)]) =
        s.subscriptions.after (.called l (s.oscillator.lastTick, tick.kind)) :=
      Subscriptions.ofNotices_snoc
    refine ⟨h.coherent, h.books, h.behind, h.entries, ?_, ?_, ?_, ?_⟩
    · intro tick' ls' hls'
      cases hls'
      exact ⟨hloop.listener, hloop.subscribed, hloop.gone, hloop.nodup.erase l, hloop.lastTick,
        hloop.count, hloop.now⟩
    · exact Subscriptions.orderly_snoc.mpr ⟨h.orderly, hdue⟩
    · intro m t k
      unfold subscriptions
      dsimp only
      rw [hafter]
      exact h.serves.waiting m t k
    · intro m t k
      unfold subscriptions
      dsimp only
      rw [hafter]
      refine (and_congr_left' (h.serves.due m t k)).trans ?_
      unfold IsDue
      dsimp only
      rw [hls]
      constructor
      · rintro ⟨⟨tick', ls', hls', ht, hk, hm⟩, hne⟩
        cases hls'
        refine ⟨tick, _, rfl, ht, hk, hloop.nodup.mem_erase_iff.mpr ⟨fun heq => ?_, hm⟩⟩
        apply hne
        rw [heq, ← ht, ← hk, hloop.lastTick]
      · rintro ⟨tick', ls', hls', ht, hk, hm⟩
        cases hls'
        obtain ⟨hne, hm⟩ := hloop.nodup.mem_erase_iff.mp hm
        exact ⟨⟨tick, ls, rfl, ht, hk, hm⟩, fun heq => hne (congrArg Prod.fst heq)⟩
  · rw [htime]

/-- the tick is over when everyone was called -/
theorem handled_total (h : s.Tabled f) (hn : s.oscillator.tickEventNow = true)
    (hl : ∀ entry ∈ s.listeners, entry.2 = []) :
    ∃ s', s.handled = .ok s' ∧ s'.Tabled f ∧ s'.oscillator.tickEventNow = false := by
  obtain ⟨o, ho, hfol, hq, hnow⟩ := Oscillator.handled_follows h.coherent h.books hn
  have hentries : ∀ entry ∈ s.tickToListenerTable, entry.1 ∈ o.subscribed ∧ entry.2.Nodup :=
    fun entry he => ⟨hfol.logged _ (h.entries entry he).1, (h.entries entry he).2⟩
  cases hls : s.listeners with
  | none =>
    refine ⟨{ s with oscillator := o }, bind_ok.mpr ⟨o, ho, ?_⟩, ?_, hnow⟩
    · rw [hls]
      rfl
    · refine ⟨hfol.coherent, hfol.books, le_trans h.behind hfol.same.later, hentries, ?_, h.orderly,
        h.serves.congr (fun x _ => ?_) rfl rfl⟩
      · intro tick ls hsome
        rw [show s.listeners = some (tick, ls) from hsome] at hls
        cases hls
      · show x ∈ o.scheduledEvents ↔ _
        rw [hq]
  | some entry =>
    obtain ⟨tick, ls⟩ := entry
    have hloop := h.loop tick ls hls
    have hafter : Subscriptions.ofNotices (s.notices ++ [.finished]) =
        s.subscriptions := Subscriptions.ofNotices_snoc
    refine ⟨{ s with
      oscillator := o
      listeners := none
      tickToListenerTable := eraseTick tick s.tickToListenerTable
      notices := s.notices ++ [.finished] }, bind_ok.mpr ⟨o, ho, ?_⟩, ?_, hnow⟩
    · rw [hls]
      rfl
    · refine ⟨hfol.coherent, hfol.books, le_trans h.behind hfol.same.later, ?_, nofun, ?_, ?_, ?_⟩
      · exact fun entry he => hentries entry (List.mem_of_mem_filter he)
      · exact Subscriptions.orderly_snoc.mpr ⟨h.orderly, h.due_empty hl⟩
      · intro m t k
        unfold subscriptions
        dsimp only
        rw [hafter, h.serves.waiting m t k]
        unfold Waits
        dsimp only
        rw [hq]
        refine exists_congr fun x => and_congr_right fun hx => ?_
        have hobj : x.object ≠ tick.object := by
          intro heq
          have hxs := h.books.mem_subscribed hx
          exact hloop.gone (h.books.eq_of_object hxs hloop.subscribed heq ▸ hx)
        rw [listenersOf_eraseTick hobj]
      · intro m t k
        unfold subscriptions
        dsimp only
        rw [hafter, h.due_empty hl]
        exact iff_of_false (Set.notMem_empty _) nofun

/-! ## runs -/

/-- a listener that unsubscribes is alone -/
def Careful (s : LegacyClock) (e : LegacyEvent) : Prop :=
  match e with
  | .unsubscribeTicks listener => s.Alone listener
  | .advance _ | .handleMessage | .tick _ | .handled | .getTime | .subscribeTick .. |
    .oscillator _ => True

instance (s : LegacyClock) (e : LegacyEvent) : Decidable (s.Careful e) :=
  match e with
  | .unsubscribeTicks listener => inferInstanceAs (Decidable (s.Alone listener))
  | .advance _ | .handleMessage | .tick _ | .handled | .getTime | .subscribeTick .. |
    .oscillator _ => inferInstanceAs (Decidable True)

theorem tabled_advance (h : s.Tabled f) {t : SimTime} (ht : s.oscillator.CanAdvance t) :
    { s with oscillator := { s.oscillator with time := t } }.Tabled f := by
  have hstep : s.oscillator.step (.advance t) = .ok { s.oscillator with time := t } := if_pos ht
  have hnone := h.listeners_none ht.1
  refine ⟨Oscillator.coherent_advance h.coherent ht,
    Oscillator.books_step (e := .advance t) h.coherent h.books trivial hstep, h.behind, h.entries, ?_,
    h.orderly, h.serves.congr (fun e _ => Iff.rfl) rfl rfl⟩
  intro tick ls hls
  rw [show s.listeners = some (tick, ls) from hls] at hnone
  cases hnone

theorem tabled_step {e : LegacyEvent} (h : s.Tabled f) (hc : s.Careful e)
    (hs : s.step e = .ok s') : s'.Tabled f := by
  cases e with
  | advance t =>
    by_cases ht : s.oscillator.CanAdvance t
    · rw [step, if_pos ht] at hs
      cases hs
      exact tabled_advance h ht
    · rw [step, if_neg ht] at hs
      cases hs
  | handleMessage =>
    by_cases hdue : s.oscillator.tickEventNow = false ∧
        s.oscillator.tickMessage = some s.oscillator.time
    · rw [step, if_pos hdue] at hs
      obtain ⟨_, _, m, _, hm, htab, _⟩ := handleMessage_total h hdue.1 hdue.2
      rw [hm] at hs
      cases hs
      exact htab
    · rw [step, if_neg hdue] at hs
      cases hs
  | tick l =>
    change s.tick l = .ok s' at hs
    cases hls : s.listeners with
    | none =>
      unfold LegacyClock.tick at hs
      rw [hls] at hs
      cases hs
    | some entry =>
      by_cases hl : l ∈ entry.2
      · obtain ⟨m, hm, htab, _⟩ := tick_total h hls hl
        rw [hm] at hs
        cases hs
        exact htab
      · unfold LegacyClock.tick at hs
        rw [hls] at hs
        dsimp only at hs
        rw [if_neg hl] at hs
        cases hs
  | handled =>
    by_cases hn : s.oscillator.tickEventNow = true ∧ s.listeners.all (fun l => l.2.isEmpty)
    · rw [step, if_pos hn] at hs
      have hl : ∀ entry ∈ s.listeners, entry.2 = [] := by
        intro entry he
        have hall := hn.2
        rw [Option.mem_def.mp he] at hall
        exact List.isEmpty_iff.mp hall
      obtain ⟨m, hm, htab, _⟩ := handled_total h hn.1 hl
      rw [hm] at hs
      cases hs
      exact htab
    · rw [step, if_neg hn] at hs
      cases hs
  | getTime =>
    obtain ⟨r, hr, rfl⟩ := map_ok.mp hs
    obtain ⟨t, m, hm, htab⟩ := getTime_total h
    rw [hm] at hr
    cases hr
    exact htab
  | subscribeTick l idleTicks kind =>
    change s.subscribeTick l idleTicks kind = .ok s' at hs
    obtain ⟨r, hr, _⟩ := bind_ok.mp hs
    obtain ⟨m, hm, htab⟩ := subscribeTick_total h l kind
      (Oscillator.subscribeTick_timely h.coherent hr)
    rw [hm] at hs
    cases hs
    exact htab
  | unsubscribeTicks l =>
    change s.unsubscribeTicks l = .ok s' at hs
    obtain ⟨m, hm, htab⟩ := unsubscribeTicks_total h hc
    rw [hm] at hs
    cases hs
    exact htab
  | oscillator e =>
    by_cases he : Foreign e
    · rw [step, if_pos he] at hs
      obtain ⟨o, ho, hs⟩ := bind_ok.mp hs
      cases hs
      obtain ⟨hcall, hown⟩ := Oscillator.foreign_follows h.coherent h.books he ho
      exact h.with_oscillator hcall hown
    · rw [step, if_neg he] at hs
      cases hs

theorem tabled_initializeClock (hs : initializeClock f = .ok s) : s.Tabled f := by
  obtain ⟨o, ho, hs⟩ := bind_ok.mp hs
  cases hs
  have hnone : Meets Oscillator.step Oscillator.Timely o [] := trivial
  obtain ⟨hc, hb⟩ := Oscillator.books_run ho hnone rfl
  obtain ⟨_, rfl⟩ := Oscillator.initializeOscillator_ok ho
  refine ⟨hc, hb, le_refl _, nofun, nofun, Subscriptions.orderly_nil, fun l t k => ?_, fun l t k => ?_⟩
  · exact iff_of_false (Set.notMem_empty _) nofun
  · exact iff_of_false (Set.notMem_empty _) nofun

/-- what the notices tell, and what of it is still to come -/
structure Served (f : ℚ) (s : LegacyClock) : Prop where
  /-- a call answers one subscription, which was not withdrawn -/
  called : ∀ p l n k q, s.notices = p ++ .called l (n, k) :: q → ∃ a b c,
    p = a ++ .subscribed l (n, k) :: (b ++ .begun (n, k) :: c) ∧
      .unsubscribed l ∉ b ++ c ∧ .begun (n, k) ∉ b ++ c ∧ .called l (n, k) ∉ c
  /-- a subscription that is not withdrawn waits in the table, or its tick has begun -/
  waiting : ∀ p l n k q, s.notices = p ++ .subscribed l (n, k) :: q → .unsubscribed l ∉ q →
    .begun (n, k) ∉ q → ∃ e ∈ s.oscillator.scheduledEvents, e.listener = self ∧ e.tick = n ∧
      e.kind = k ∧ l ∈ listenersOf s.tickToListenerTable e ∧ e.globalSchedulingTime = n / f ∧
      s.oscillator.time ≤ n / f
  /-- and when the tick is finished the listener was called -/
  finished : ∀ p l n k b c q,
    s.notices = p ++ .subscribed l (n, k) :: (b ++ .begun (n, k) :: (c ++ .finished :: q)) →
    .unsubscribed l ∉ b ++ c → .begun (n, k) ∉ b → (∀ t, .begun t ∉ c) → .called l (n, k) ∈ c

/-- what is done next; notices have the count of the oscillator -/
structure Answers (f : ℚ) (s : LegacyClock) : Prop where
  subscribeTick : ∀ l idleTicks kind,
    s.oscillator.Timely (.subscribeTick self idleTicks kind) → ∃ s',
      s.subscribeTick l idleTicks kind = .ok s' ∧
      s'.notices = s.notices ++ [.subscribed l (⌊s.oscillator.time * f⌋₊ + idleTicks, kind)]
  /-- no one else loses a subscription, and the listener is not called, exactly when it is alone -/
  unsubscribeTicks : ∀ l, ∃ s', s.unsubscribeTicks l = .ok s' ∧
    (s'.Serves s'.subscriptions ↔ s.Alone l)
  handleMessage : s.oscillator.tickEventNow = false →
    s.oscillator.tickMessage = some s.oscillator.time → ∃ tick ticks s',
      s.oscillator.scheduledEvents = tick :: ticks ∧ s.handleMessage = .ok s' ∧
      (tick.listener ≠ self → s'.notices = s.notices) ∧
      (tick.listener = self →
        s'.notices = s.notices ++ [.begun (⌊s.oscillator.time * f⌋₊, tick.kind)] ∧
        tick.tick = ⌊s.oscillator.time * f⌋₊)
  tick : ∀ tick ls l, s.listeners = some (tick, ls) → l ∈ ls → ∃ s', s.tick l = .ok s' ∧
    s'.notices = s.notices ++ [.called l (⌊s.oscillator.time * f⌋₊, tick.kind)] ∧
    s'.listeners = some (tick, ls.erase l)
  handled : s.oscillator.tickEventNow = true → (∀ entry ∈ s.listeners, entry.2 = []) →
    ∃ s', s.handled = .ok s' ∧ s'.oscillator.tickEventNow = false

theorem Tabled.served (h : s.Tabled f) : s.Served f := by
  have hf : 0 < f := h.books.frequency ▸ h.coherent.frequency
  refine ⟨?_, ?_, ?_⟩
  · intro p l n k q hp
    have hdue : (l, (n, k)) ∈ (Subscriptions.ofNotices p).due := h.orderly p _ q hp
    obtain ⟨p', c, rfl, hw, huc, hcc, hbc⟩ := Subscriptions.mem_due_iff.mp hdue
    obtain ⟨a, b, rfl, hub, hbb⟩ := Subscriptions.mem_waiting_iff.mp hw
    refine ⟨a, b, c, by simp, ?_, ?_, hcc⟩
    · simp [hub, huc]
    · simp [hbb, hbc (n, k)]
  · intro p l n k q hp hu hb
    have hw : (l, (n, k)) ∈ s.subscriptions.waiting :=
      Subscriptions.mem_waiting_iff.mpr ⟨p, q, hp, hu, hb⟩
    obtain ⟨e, he, hl, ht, hk, hm⟩ := (h.serves.waiting l n k).mp hw
    have hgrid := h.coherent.grid e he
    have htime := h.books.scheduled hgrid
    rw [ht] at htime
    exact ⟨e, he, hl, ht, hk, hm, htime, htime ▸ hgrid.ahead⟩
  · intro p l n k b c q hp hu hb hbc
    rw [List.mem_append, not_or] at hu
    have hallowed : (Subscriptions.ofNotices
        (p ++ .subscribed l (n, k) :: (b ++ .begun (n, k) :: c))).due = ∅ := by
      refine h.orderly _ .finished q ?_
      rw [hp]
      simp
    by_contra hc
    have hdue : (l, (n, k)) ∈ (Subscriptions.ofNotices
        (p ++ .subscribed l (n, k) :: (b ++ .begun (n, k) :: c))).due := by
      refine Subscriptions.mem_due_iff.mpr ⟨p ++ .subscribed l (n, k) :: b, c, by simp, ?_, hu.2, hc,
        hbc⟩
      exact Subscriptions.mem_waiting_iff.mpr ⟨p, b, rfl, hu.1, hb⟩
    rw [hallowed] at hdue
    exact hdue

theorem Tabled.answers (h : s.Tabled f) : s.Answers f := by
  refine ⟨?_, ?_, ?_, ?_, ?_⟩
  · intro l idleTicks kind hi
    obtain ⟨e, o, ho, _, _, htick, _⟩ :=
      Oscillator.subscribeTick_called h.coherent h.books self kind hi
    refine ⟨_, bind_ok.mpr ⟨_, ho, rfl⟩, ?_⟩
    rw [← h.books.count h.coherent, ← htick]
  · intro l
    obtain ⟨o, ho, _⟩ := unsubscribeTicks_eq h l
    exact ⟨_, ho, serves_unsubscribed_iff h ho⟩
  · intro hn hm
    obtain ⟨tick, ticks, s', hq, hs, _, hrest⟩ := handleMessage_total h hn hm
    exact ⟨tick, ticks, s', hq, hs, hrest⟩
  · intro tick ls l hls hl
    obtain ⟨s', hs, _, hrest⟩ := tick_total h hls hl
    exact ⟨s', hs, hrest⟩
  · intro hn hl
    obtain ⟨s', hs, _, hrest⟩ := handled_total h hn hl
    exact ⟨s', hs, hrest⟩

/-- **In careful runs every listener is called once for each tick that it subscribed, and who
unsubscribes is not called.** -/
theorem unsubscribe_frame {es : List LegacyEvent} {s0 : LegacyClock}
    (h0 : initializeClock f = .ok s0) (hm : Meets step Careful s0 es)
    (hr : run step s0 es = .ok s) : s.Served f ∧ s.Answers f := by
  have htab := run_invariant_of (I := fun s => s.Tabled f)
    (fun _ _ _ hi hc hs => tabled_step hi hc hs) (tabled_initializeClock h0) hm hr
  exact ⟨htab.served, htab.answers⟩

/-- listeners 1 and 2 share tick 1; listener 3 unsubscribes a tick of its own from a call -/
def carefulRun : List LegacyEvent :=
  [.subscribeTick 1 1 0, .subscribeTick 2 1 0, .subscribeTick 3 2 1, .advance 1, .handleMessage,
   .tick 2, .subscribeTick 2 0 0, .unsubscribeTicks 3, .tick 1, .handled, .handleMessage, .tick 2,
   .handled, .advance 3]

theorem unsubscribe_frame_carefulRun : ∃ s0 s, initializeClock 1 = .ok s0 ∧
    run step s0 carefulRun = .ok s ∧ (s.Served 1 ∧ s.Answers 1) ∧
    s.notices.countP (· == .called 2 (1, 0)) = 2 ∧ .called 1 (1, 0) ∈ s.notices := by
  obtain ⟨s0, h0, hm, s, hr, hn⟩ : ∃ s0, initializeClock 1 = .ok s0 ∧
      Meets step Careful s0 carefulRun ∧ ∃ s, run step s0 carefulRun = .ok s ∧
        s.notices.countP (· == .called 2 (1, 0)) = 2 ∧ .called 1 (1, 0) ∈ s.notices := by
    refine ⟨_, rfl, by decide +kernel, exists_of_any (by decide +kernel)⟩
  exact ⟨s0, s, h0, hr, unsubscribe_frame h0 hm hr, hn⟩

/-- **A tick is lost**: listener 1 unsubscribes, and listener 2 is not called. -/
theorem unsubscribe_takes_others : ∃ s0 s, initializeClock 1 = .ok s0 ∧
    run step s0 [.subscribeTick 1 1 0, .subscribeTick 2 1 0, .unsubscribeTicks 1, .advance 5] =
      .ok s ∧
    s.notices = [.subscribed 1 (1, 0), .subscribed 2 (1, 0), .unsubscribed 1] ∧
    s.oscillator.time = 5 ∧ s.oscillator.scheduledEvents = [] := by
  obtain ⟨s0, h0, s, hr, hn⟩ : ∃ s0, initializeClock 1 = .ok s0 ∧ ∃ s,
      run step s0 [.subscribeTick 1 1 0, .subscribeTick 2 1 0, .unsubscribeTicks 1, .advance 5] =
        .ok s ∧ s.notices = [.subscribed 1 (1, 0), .subscribed 2 (1, 0), .unsubscribed 1] ∧
      s.oscillator.time = 5 ∧ s.oscillator.scheduledEvents = [] := by
    refine ⟨_, rfl, exists_of_any (by decide +kernel)⟩
  exact ⟨s0, s, h0, hr, hn⟩

end LegacyClock

end Nesting
