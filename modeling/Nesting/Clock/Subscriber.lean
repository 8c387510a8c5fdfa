import Mathlib.Tactic.Ring
import Nesting.Clock.Listeners

/-!
# One listener of a clock

A listener that asks for one tick at a time, among others that do as they like.

* `Aside`         an event of the clock in which the listener has no part;
* `Subscriber`    the clock, and the tick for which the listener waits or at which it is due;
* `subscriber_step`, `subscriber_tick`, `subscriber_getTime`, `subscriber_subscribeTick`   what the others,
                  the call of the listener and its own calls do to it.
-/

set_option linter.unusedVariables false

namespace Nesting

open Lib

namespace LegacyClock

variable {s s' : LegacyClock} {f : ℚ} {l : Nat} {o : Option (Nat × Nat)}

/-- calls of the listener and calls by it are no such events -/
def Aside (l : Nat) (e : LegacyEvent) : Prop :=
  match e with
  | .tick listener | .subscribeTick listener _ _ | .unsubscribeTicks listener => listener ≠ l
  | .advance _ | .handleMessage | .handled | .getTime | .oscillator _ => True

instance (l : Nat) (e : LegacyEvent) : Decidable (Aside l e) :=
  match e with
  | .tick listener | .subscribeTick listener _ _ | .unsubscribeTicks listener =>
    inferInstanceAs (Decidable (listener ≠ l))
  | .advance _ | .handleMessage | .handled | .getTime | .oscillator _ =>
    inferInstanceAs (Decidable True)

/-- a notice of a step is about the listener only if the step is -/
theorem step_notices {e : LegacyEvent} (ha : Aside l e) (hs : s.step e = .ok s') :
    s'.notices = s.notices ∨ ∃ n, s'.notices = s.notices ++ [n] ∧
      Subscriptions.listener? n ≠ some l := by
  cases e with
  | advance t =>
    change ite _ _ _ = _ at hs
    split at hs
    · cases hs
      exact .inl rfl
    · cases hs
  | handleMessage =>
    change ite _ _ _ = _ at hs
    split at hs
    · obtain ⟨⟨e, o⟩, _, hs⟩ := bind_ok.mp hs
      dsimp only at hs
      split at hs
      · cases hs
        exact .inr ⟨_, rfl, nofun⟩
      · cases hs
        exact .inl rfl
    · cases hs
  | tick m =>
    change s.tick m = .ok s' at hs
    unfold LegacyClock.tick at hs
    split at hs
    · cases hs
    · split at hs
      · cases hs
        exact .inr ⟨_, rfl, fun h => ha (Option.some.inj h)⟩
      · cases hs
  | handled =>
    change ite _ _ _ = _ at hs
    split at hs
    · obtain ⟨o, _, hs⟩ := bind_ok.mp hs
      split at hs
      · cases hs
        exact .inl rfl
      · cases hs
        exact .inr ⟨_, rfl, nofun⟩
    · cases hs
  | getTime =>
    obtain ⟨⟨t, m⟩, hm, rfl⟩ := map_ok.mp hs
    obtain ⟨⟨n, o⟩, _, hm⟩ := bind_ok.mp hm
    dsimp only at hm
    split at hm
    · cases hm
    · obtain ⟨_, _, hm⟩ := bind_ok.mp hm
      cases hm
      exact .inl rfl
  | subscribeTick m idleTicks kind =>
    obtain ⟨_, _, hs⟩ := bind_ok.mp hs
    cases hs
    exact .inr ⟨_, rfl, fun h => ha (Option.some.inj h)⟩
  | unsubscribeTicks m =>
    obtain ⟨_, _, hs⟩ := bind_ok.mp hs
    cases hs
    exact .inr ⟨_, rfl, fun h => ha (Option.some.inj h)⟩
  | oscillator e =>
    change ite _ _ _ = _ at hs
    split at hs
    · obtain ⟨o, _, hs⟩ := bind_ok.mp hs
      cases hs
      exact .inl rfl
    · cases hs

/-! ## the time -/

/-- the clock shows whole periods, and listeners are called at their tick -/
structure Prompt (f : ℚ) (s : LegacyClock) : Prop where
  shown : s.time = s.lastTick / f
  onTime : ∀ entry ∈ s.listeners, s.oscillator.time = entry.1.tick / f

theorem Prompt.with_oscillator (h : s.Prompt f) {oscillator : Oscillator}
    (ht : oscillator.time = s.oscillator.time) : { s with oscillator }.Prompt f :=
  ⟨h.shown, fun entry he => ht.trans (h.onTime entry he)⟩

theorem getTime_ok (htab : s.Tabled f) (h : s.Prompt f) {t : SimTime}
    (hs : s.getTime = .ok (t, s')) : t = ⌊s.oscillator.time * f⌋₊ / f ∧
      s' = { s with
        oscillator := s.oscillator.settled
        time := t
        lastTick := ⌊s.oscillator.time * f⌋₊ } := by
  have hcount := htab.books.count htab.coherent
  have hle : s.lastTick ≤ ⌊s.oscillator.time * f⌋₊ := by
    have := htab.behind
    omega
  obtain ⟨⟨n, o⟩, hn, hs⟩ := bind_ok.mp hs
  rw [Oscillator.updateAndGetTickCount_eq htab.coherent.toRunning, hcount] at hn
  cases hn
  dsimp only at hs
  rw [if_neg (not_lt.mpr hle)] at hs
  obtain ⟨rate, hrate, hs⟩ := bind_ok.mp hs
  unfold getClockRate at hrate
  rw [if_neg (ne_of_gt htab.coherent.frequency)] at hrate
  cases hrate
  cases hs
  have ht : s.time + ((⌊s.oscillator.time * f⌋₊ - s.lastTick : ℕ) : ℚ) *
      (1 / s.oscillator.frequency) = ⌊s.oscillator.time * f⌋₊ / f := by
    rw [h.shown, htab.books.frequency, Nat.cast_sub hle]
    ring
  refine ⟨ht, ?_⟩
  rw [Nat.add_sub_cancel' hle]

theorem subscribeTick_time (htab : s.Tabled f) {idleTicks kind : Nat}
    (hs : s.subscribeTick l idleTicks kind = .ok s') :
    s'.oscillator.time = s.oscillator.time ∧ s'.time = s.time ∧ s'.lastTick = s.lastTick ∧
      s'.listeners = s.listeners ∧
      s'.notices = s.notices ++ [.subscribed l (⌊s.oscillator.time * f⌋₊ + idleTicks, kind)] := by
  obtain ⟨⟨tick, o⟩, ho, hs⟩ := bind_ok.mp hs
  cases hs
  obtain ⟨e, o', ho', hcall, _, htick, _⟩ := Oscillator.subscribeTick_called htab.coherent htab.books
    self kind (Oscillator.subscribeTick_timely htab.coherent ho)
  rw [ho] at ho'
  cases ho'
  refine ⟨hcall.same.time, rfl, rfl, rfl, ?_⟩
  rw [← htab.books.count htab.coherent, ← htick]

/-- only time going on moves the time -/
theorem step_time {e : LegacyEvent} (htab : s.Tabled f) (hs : s.step e = .ok s') :
    s'.oscillator.time = s.oscillator.time ∨
      ∃ t, e = .advance t ∧ s.oscillator.time ≤ t ∧ s'.oscillator.time = t := by
  cases e with
  | advance t =>
    change ite _ _ _ = _ at hs
    split at hs
    · rename_i ht
      cases hs
      exact .inr ⟨t, rfl, ht.2.1, rfl⟩
    · cases hs
  | handleMessage =>
    change ite _ _ _ = _ at hs
    split at hs
    · rename_i hdue
      obtain ⟨e, rest, hq, ht⟩ := Oscillator.due_first htab.coherent hdue.1 hdue.2
      obtain ⟨⟨e', o⟩, ho, hs⟩ := bind_ok.mp hs
      rw [Oscillator.handleMessage_eq htab.coherent hq ht] at ho
      cases ho
      dsimp only at hs
      left
      split at hs <;>
      · cases hs
        rfl
    · cases hs
  | tick m =>
    change s.tick m = .ok s' at hs
    unfold LegacyClock.tick at hs
    split at hs
    · cases hs
    · split at hs
      · cases hs
        exact .inl rfl
      · cases hs
  | handled =>
    change ite _ _ _ = _ at hs
    split at hs
    · rename_i hnow
      obtain ⟨o, ho, hfol, _⟩ := Oscillator.handled_follows htab.coherent htab.books hnow.1
      obtain ⟨o', ho', hs⟩ := bind_ok.mp hs
      cases ho.symm.trans ho'
      have ht : o.time = s.oscillator.time := hfol.same.time
      left
      split at hs <;>
      · cases hs
        exact ht
    · cases hs
  | getTime =>
    obtain ⟨⟨t, m⟩, hm, rfl⟩ := map_ok.mp hs
    obtain ⟨⟨n, o⟩, hn, hm⟩ := bind_ok.mp hm
    rw [Oscillator.updateAndGetTickCount_eq htab.coherent.toRunning] at hn
    cases hn
    dsimp only at hm
    split at hm
    · cases hm
    · obtain ⟨_, _, hm⟩ := bind_ok.mp hm
      cases hm
      exact .inl rfl
  | subscribeTick m idleTicks kind => exact .inl (subscribeTick_time htab hs).1
  | unsubscribeTicks m =>
    obtain ⟨o, ho, hcall, _⟩ := unsubscribeTicks_eq htab m
    change s.unsubscribeTicks m = .ok s' at hs
    rw [ho] at hs
    cases hs
    exact .inl hcall.same.time
  | oscillator e =>
    change ite _ _ _ = _ at hs
    split at hs
    · rename_i he
      obtain ⟨o, ho, hs⟩ := bind_ok.mp hs
      cases hs
      obtain ⟨hcall, _⟩ := Oscillator.foreign_follows htab.coherent htab.books he ho
      exact .inl hcall.same.time
    · cases hs

theorem prompt_step {e : LegacyEvent} (htab : s.Tabled f) (h : s.Prompt f)
    (hs : s.step e = .ok s') : s'.Prompt f := by
  cases e with
  | advance t =>
    change ite _ _ _ = _ at hs
    split at hs
    · rename_i ht
      cases hs
      refine ⟨h.shown, fun entry he => ?_⟩
      have hnone := htab.listeners_none ht.1
      rw [show s.listeners = some entry from he] at hnone
      cases hnone
    · cases hs
  | handleMessage =>
    change ite _ _ _ = _ at hs
    split at hs
    · rename_i hdue
      obtain ⟨e, rest, hq, ht⟩ := Oscillator.due_first htab.coherent hdue.1 hdue.2
      have hgrid := htab.coherent.grid e (by rw [hq]; exact List.mem_cons_self)
      obtain ⟨⟨e', o⟩, ho, hs⟩ := bind_ok.mp hs
      rw [Oscillator.handleMessage_eq htab.coherent hq ht] at ho
      cases ho
      dsimp only at hs
      split at hs
      · cases hs
        refine ⟨h.shown, fun entry he => ?_⟩
        cases he
        exact ht.symm.trans (htab.books.scheduled hgrid)
      · cases hs
        refine h.with_oscillator ?_
        rfl
    · cases hs
  | tick m =>
    change s.tick m = .ok s' at hs
    unfold LegacyClock.tick at hs
    split at hs
    · cases hs
    · rename_i tick ls hls
      split at hs
      · cases hs
        refine ⟨h.shown, fun entry he => ?_⟩
        cases he
        exact h.onTime (tick, ls) hls
      · cases hs
  | handled =>
    change ite _ _ _ = _ at hs
    split at hs
    · obtain ⟨o, _, hs⟩ := bind_ok.mp hs
      split at hs
      · rename_i hnone
        cases hs
        refine ⟨h.shown, fun entry he => ?_⟩
        cases (show s.listeners = some entry from he).symm.trans hnone
      · cases hs
        exact ⟨h.shown, nofun⟩
    · cases hs
  | getTime =>
    obtain ⟨⟨t, m⟩, hm, rfl⟩ := map_ok.mp hs
    obtain ⟨ht, rfl⟩ := getTime_ok htab h hm
    exact ⟨ht, fun entry he => h.onTime entry he⟩
  | subscribeTick m idleTicks kind =>
    obtain ⟨ht, htime, hlast, hls, _⟩ := subscribeTick_time htab hs
    refine ⟨?_, fun entry he => ?_⟩
    · rw [htime, hlast]
      exact h.shown
    · rw [ht]
      exact h.onTime entry (hls ▸ he)
  | unsubscribeTicks m =>
    obtain ⟨o, ho, hcall, _⟩ := unsubscribeTicks_eq htab m
    change s.unsubscribeTicks m = .ok s' at hs
    rw [ho] at hs
    cases hs
    exact ⟨h.shown, fun entry he => hcall.same.time.trans (h.onTime entry he)⟩
  | oscillator e =>
    change ite _ _ _ = _ at hs
    split at hs
    · rename_i he
      obtain ⟨o, ho, hs⟩ := bind_ok.mp hs
      cases hs
      obtain ⟨hcall, _⟩ := Oscillator.foreign_follows htab.coherent htab.books he ho
      exact h.with_oscillator hcall.same.time
    · cases hs

/-! ## the listener -/

/-- the clock keeps its books, and the listener has this slot, or none -/
structure Subscriber (f : ℚ) (l : Nat) (o : Option (Nat × Nat)) (s : LegacyClock) : Prop where
  tabled : s.Tabled f
  prompt : s.Prompt f
  outstanding : s.subscriptions.Outstanding l o

theorem subscriber_initializeClock (hs : initializeClock f = .ok s) : Subscriber f l none s := by
  have htab := tabled_initializeClock hs
  obtain ⟨oscillator, ho, hs⟩ := bind_ok.mp hs
  cases hs
  refine ⟨htab, ⟨?_, nofun⟩, fun t => ⟨Set.notMem_empty _, Set.notMem_empty _⟩⟩
  simp

theorem Subscriber.frequency (h : Subscriber f l o s) : 0 < f :=
  h.tabled.books.frequency ▸ h.tabled.coherent.frequency

theorem Subscriber.getClockRate (h : Subscriber f l o s) : s.getClockRate = .ok (1 / f) := by
  have hf : s.oscillator.frequency = f := h.tabled.books.frequency
  unfold LegacyClock.getClockRate
  rw [if_neg (ne_of_gt h.tabled.coherent.frequency), hf]

/-- a tick is counted at its time -/
theorem Subscriber.floor_tick (h : Subscriber f l o s) (n : ℕ) : ⌊(n : ℚ) / f * f⌋₊ = n := by
  rw [div_mul_cancel₀ _ (ne_of_gt h.frequency)]
  exact Nat.floor_natCast n

/-- **What the others do** leaves the listener its slot. -/
theorem subscriber_step {e : LegacyEvent} (h : Subscriber f l o s) (ha : Aside l e)
    (hc : s.Careful e) (hs : s.step e = .ok s') : Subscriber f l o s' := by
  have htab := tabled_step h.tabled hc hs
  refine ⟨htab, prompt_step h.tabled h.prompt hs, ?_⟩
  obtain hn | ⟨n, hn, hother⟩ := step_notices ha hs
  · unfold subscriptions
    rw [hn]
    exact h.outstanding
  · have hallowed : s.subscriptions.Allowed n := (Subscriptions.orderly_snoc.mp (hn ▸ htab.orderly)).2
    unfold subscriptions
    rw [hn, Subscriptions.ofNotices_snoc]
    exact h.outstanding.after_other hallowed hother

/-- and so does a run of them, from the start on -/
theorem subscriber_run {es : List LegacyEvent} {s0 : LegacyClock} (h0 : initializeClock f = .ok s0)
    (hm : Meets step (fun s e => s.Careful e ∧ Aside l e) s0 es) (hr : run step s0 es = .ok s) :
    Subscriber f l none s :=
  run_invariant_of (I := Subscriber f l none)
    (fun _ _ _ h hc hs => subscriber_step h hc.2 hc.1 hs) (subscriber_initializeClock h0) hm hr

/-- the time does not pass the slot -/
theorem Subscriber.ahead {n kind : Nat} (h : Subscriber f l (some (n, kind)) s) :
    s.oscillator.time ≤ n / f := by
  obtain hw | hd := h.outstanding
  · obtain ⟨e, he, _, ht, _⟩ := (h.tabled.serves.waiting l n kind).mp ((hw _).1.mpr rfl)
    have hgrid := h.tabled.coherent.grid e he
    have htime := h.tabled.books.scheduled hgrid
    rw [ht] at htime
    exact htime ▸ hgrid.ahead
  · obtain ⟨tick, ls, hls, ht, _⟩ := (h.tabled.serves.due l n kind).mp ((hd _).2.mpr rfl)
    have htime := h.prompt.onTime _ hls
    rw [ht] at htime
    exact htime.le

/-- **The listener is called** at its slot, just at its time. -/
theorem subscriber_tick (h : Subscriber f l o s) (hs : s.tick l = .ok s') :
    ∃ n kind, o = some (n, kind) ∧ s.oscillator.time = n / f ∧ Subscriber f l none s' ∧
      s'.oscillator.time = s.oscillator.time := by
  cases hls : s.listeners with
  | none =>
    unfold LegacyClock.tick at hs
    rw [hls] at hs
    cases hs
  | some entry =>
    obtain ⟨tick, ls⟩ := entry
    have htab : s'.Tabled f := tabled_step (e := .tick l) h.tabled trivial hs
    have hprompt : s'.Prompt f := prompt_step (e := .tick l) h.tabled h.prompt hs
    have hlast := (h.tabled.loop tick ls hls).lastTick
    have htime := h.prompt.onTime _ hls
    unfold LegacyClock.tick at hs
    rw [hls] at hs
    dsimp only at hs
    split at hs
    · cases hs
      have horderly := htab.orderly
      obtain ⟨_, hallowed⟩ := Subscriptions.orderly_snoc.mp horderly
      obtain ⟨rfl, hnone⟩ := h.outstanding.after_called hallowed
      refine ⟨_, _, rfl, ?_, ⟨htab, hprompt, ?_⟩, rfl⟩
      · rw [hlast]
        exact htime
      · unfold subscriptions
        dsimp only
        rw [Subscriptions.ofNotices_snoc]
        exact hnone
    · cases hs

theorem subscriber_getTime (h : Subscriber f l o s) {t : SimTime} (hs : s.getTime = .ok (t, s')) :
    t = ⌊s.oscillator.time * f⌋₊ / f ∧ Subscriber f l o s' ∧
      s'.oscillator.time = s.oscillator.time := by
  have hstep : s.step .getTime = .ok s' := map_ok.mpr ⟨_, hs, rfl⟩
  obtain ⟨ht, heq⟩ := getTime_ok h.tabled h.prompt hs
  refine ⟨ht, subscriber_step (e := .getTime) h trivial trivial hstep, ?_⟩
  rw [heq]
  rfl

/-- **The listener asks for a tick**, when it has none. -/
theorem subscriber_subscribeTick (h : Subscriber f l none s) {idleTicks kind : Nat}
    (hs : s.subscribeTick l idleTicks kind = .ok s') :
    Subscriber f l (some (⌊s.oscillator.time * f⌋₊ + idleTicks, kind)) s' ∧
      s'.oscillator.time = s.oscillator.time := by
  have hstep : s.step (.subscribeTick l idleTicks kind) = .ok s' := hs
  obtain ⟨ht, _, _, _, hn⟩ := subscribeTick_time h.tabled hs
  refine ⟨⟨?_, prompt_step h.tabled h.prompt hstep, ?_⟩, ht⟩
  · exact tabled_step (e := .subscribeTick l idleTicks kind) h.tabled trivial hstep
  · unfold subscriptions
    rw [hn, Subscriptions.ofNotices_snoc]
    exact h.outstanding.after_subscribed

end LegacyClock

end Nesting
