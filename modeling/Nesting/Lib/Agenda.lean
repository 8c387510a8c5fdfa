import Mathlib.Data.Fintype.Basic
import Mathlib.Logic.Function.Basic
import Mathlib.Order.Defs.LinearOrder

/-!
# Agendas

What is still to come for a component that wakes itself up: messages for this very instant, handled
first in first out, and timestamps at which a clock will send one.

* `reschedule`    puts a message to the end, cancelling it first where it is waiting already;
* `deliver`       the clock's timestamp turns into a message;
* `advance`       time goes on when nothing is left to do, up to the next timestamp at most;
* `Wakes`, `Parked`   when `x` will be handled next, or that nobody will;
* `load`          a measure of what is left of this instant;
* `behind`        the agenda when other messages have waited before its own.
-/

set_option linter.unusedSectionVars false
set_option linter.unusedVariables false

namespace Lib

structure Agenda (ι T : Type*) where
  now : T
  /-- the messages of this instant, the next one first -/
  messages : List ι
  /-- a message waits at most once -/
  nodup : messages.Nodup
  /-- the time for which the clock is asked -/
  timestamps : ι → Option T

namespace Agenda
variable {ι T : Type*} [DecidableEq ι]

theorem nodup_reschedule {l : List ι} (h : l.Nodup) (x : ι) : (l.erase x ++ [x]).Nodup := by
  rw [List.nodup_append]
  refine ⟨h.erase x, List.nodup_singleton x, ?_⟩
  intro y hy z hz hyz
  rw [List.mem_singleton] at hz
  subst hyz
  rw [hz] at hy
  exact h.not_mem_erase hy

def reschedule (a : Agenda ι T) (x : ι) : Agenda ι T :=
  { a with messages := a.messages.erase x ++ [x], nodup := nodup_reschedule a.nodup x }

def subscribe (a : Agenda ι T) (t : T) (x : ι) : Agenda ι T :=
  { a with timestamps := Function.update a.timestamps x (some t) }

def unsubscribe (a : Agenda ι T) (x : ι) : Agenda ι T :=
  { a with timestamps := Function.update a.timestamps x none }

/-- the first message is taken out -/
def pop (a : Agenda ι T) : Agenda ι T :=
  { a with messages := a.messages.tail, nodup := a.nodup.tail }

/-- the timestamp of `x` is delivered -/
def deliver (a : Agenda ι T) (x : ι) : Agenda ι T := (a.unsubscribe x).reschedule x

/-- the first of `order` whose timestamp is due -/
def firstDue [DecidableEq T] (order : List ι) (a : Agenda ι T) : Option ι :=
  order.find? fun x => a.timestamps x = some a.now

/-- nothing is left to do at this instant -/
def Settled (a : Agenda ι T) : Prop := a.messages = [] ∧ ∀ x, a.timestamps x ≠ some a.now

instance [Fintype ι] [DecidableEq T] (a : Agenda ι T) : Decidable a.Settled :=
  inferInstanceAs (Decidable (_ ∧ _))

section time
variable [LinearOrder T]

/-- the time may go on to `t` -/
def CanAdvance (a : Agenda ι T) (t : T) : Prop :=
  a.Settled ∧ a.now < t ∧ ∀ x, ∀ w ∈ a.timestamps x, t ≤ w

instance [Fintype ι] (a : Agenda ι T) (t : T) : Decidable (a.CanAdvance t) :=
  inferInstanceAs (Decidable (_ ∧ _ ∧ _))

/-- time goes on to `t` -/
def advance (a : Agenda ι T) (t : T) : Agenda ι T := { a with now := t }

/-- `x` is handled next at time `t` -/
def Wakes (a : Agenda ι T) (x : ι) (t : T) : Prop :=
  (x ∈ a.messages ∧ a.timestamps x = none ∧ a.now = t) ∨
    (x ∉ a.messages ∧ a.timestamps x = some t ∧ a.now ≤ t)

/-- nothing will wake `x` up -/
def Parked (a : Agenda ι T) (x : ι) : Prop := x ∉ a.messages ∧ a.timestamps x = none

instance (a : Agenda ι T) (x : ι) : Decidable (a.Parked x) :=
  inferInstanceAs (Decidable (_ ∧ _))

end time

/-! ## reading an agenda after an operation -/

section fields
variable (a : Agenda ι T) (x y : ι) (t : T)

@[simp] theorem timestamps_reschedule : (a.reschedule x).timestamps = a.timestamps := rfl

@[simp] theorem mem_reschedule : y ∈ (a.reschedule x).messages ↔ y = x ∨ y ∈ a.messages := by
  show y ∈ a.messages.erase x ++ [x] ↔ _
  rw [List.mem_append, List.mem_singleton, a.nodup.mem_erase_iff]
  tauto

@[simp] theorem timestamps_subscribe :
    (a.subscribe t x).timestamps y = if y = x then some t else a.timestamps y :=
  Function.update_apply _ _ _ _

@[simp] theorem timestamps_unsubscribe :
    (a.unsubscribe x).timestamps y = if y = x then none else a.timestamps y :=
  Function.update_apply _ _ _ _

@[simp] theorem mem_deliver : y ∈ (a.deliver x).messages ↔ y = x ∨ y ∈ a.messages :=
  mem_reschedule _ _ _

@[simp] theorem timestamps_deliver :
    (a.deliver x).timestamps y = if y = x then none else a.timestamps y :=
  timestamps_unsubscribe _ _ _

end fields

theorem mem_pop {a : Agenda ι T} {x y : ι} {rest : List ι} (h : a.messages = x :: rest) :
    y ∈ a.pop.messages ↔ y ≠ x ∧ y ∈ a.messages := by
  have hn := a.nodup
  rw [h, List.nodup_cons] at hn
  show y ∈ a.messages.tail ↔ _
  rw [h, List.tail_cons, List.mem_cons]
  constructor
  · intro hy
    exact ⟨fun e => hn.1 (e ▸ hy), Or.inr hy⟩
  · rintro ⟨hne, heq | hy⟩
    · exact absurd heq hne
    · exact hy

theorem mem_of_head {a : Agenda ι T} {x : ι} {rest : List ι} (h : a.messages = x :: rest) :
    x ∈ a.messages := by
  rw [h]
  exact List.mem_cons_self

theorem notMem_pop {a : Agenda ι T} {x : ι} {rest : List ι} (h : a.messages = x :: rest) :
    x ∉ a.pop.messages := fun hx => ((mem_pop h).mp hx).1 rfl

/-! ## what an operation leaves to the others -/

/-- `b` has for `x` what `a` has -/
def Agrees (x : ι) (a b : Agenda ι T) : Prop :=
  b.now = a.now ∧ (x ∈ b.messages ↔ x ∈ a.messages) ∧ b.timestamps x = a.timestamps x

section agrees
variable {a : Agenda ι T} {x y : ι}

theorem agrees_reschedule (h : x ≠ y) : Agrees x a (a.reschedule y) := by
  refine ⟨rfl, ?_, rfl⟩
  rw [mem_reschedule]
  exact ⟨fun hm => hm.resolve_left h, .inr⟩

theorem agrees_subscribe (h : x ≠ y) (t : T) : Agrees x a (a.subscribe t y) := by
  refine ⟨rfl, Iff.rfl, ?_⟩
  rw [timestamps_subscribe, if_neg h]

theorem agrees_unsubscribe (h : x ≠ y) : Agrees x a (a.unsubscribe y) := by
  refine ⟨rfl, Iff.rfl, ?_⟩
  rw [timestamps_unsubscribe, if_neg h]

theorem agrees_pop {rest : List ι} (h : x ≠ y) (hm : a.messages = y :: rest) :
    Agrees x a a.pop := by
  refine ⟨rfl, ?_, rfl⟩
  rw [mem_pop hm]
  exact ⟨fun h => h.2, fun hx => ⟨h, hx⟩⟩

theorem Agrees.trans {b c : Agenda ι T} (h : Agrees x a b) (h' : Agrees x b c) : Agrees x a c :=
  ⟨h'.1.trans h.1, h'.2.1.trans h.2.1, h'.2.2.trans h.2.2⟩

/-- a message whose handler gives up its timestamp -/
theorem agrees_handle {rest : List ι} (h : x ≠ y) (hm : a.messages = y :: rest) :
    Agrees x a (a.pop.unsubscribe y) :=
  (agrees_pop h hm).trans (agrees_unsubscribe h)

theorem agrees_deliver (h : x ≠ y) : Agrees x a (a.deliver y) := by
  refine ⟨rfl, ?_, ?_⟩
  · rw [mem_deliver]
    exact ⟨fun hm => hm.resolve_left h, .inr⟩
  · rw [timestamps_deliver, if_neg h]

theorem Agrees.wakes [LinearOrder T] {b : Agenda ι T} {t : T} (h : Agrees x a b)
    (hw : a.Wakes x t) : b.Wakes x t := by
  unfold Wakes
  rw [h.1, h.2.1, h.2.2]
  exact hw

end agrees

/-! ## waking up -/

theorem Wakes.now_le [LinearOrder T] {a : Agenda ι T} {x : ι} {t : T} (h : a.Wakes x t) :
    a.now ≤ t := by
  rcases h with ⟨_, _, h⟩ | ⟨_, _, h⟩
  · exact h.le
  · exact h

/-- a message that waits is handled now -/
theorem Wakes.of_mem [LinearOrder T] {a : Agenda ι T} {x : ι} {t : T} (h : a.Wakes x t)
    (hm : x ∈ a.messages) : a.timestamps x = none ∧ a.now = t := by
  rcases h with ⟨_, h1, h2⟩ | ⟨h1, _, _⟩
  · exact ⟨h1, h2⟩
  · exact absurd hm h1

/-- at rest, what wakes up does so later -/
theorem Wakes.of_settled [LinearOrder T] {a : Agenda ι T} {x : ι} {t : T} (h : a.Wakes x t)
    (hs : a.Settled) : a.timestamps x = some t ∧ a.now < t := by
  rcases h with ⟨h1, _, _⟩ | ⟨_, h1, h2⟩
  · rw [hs.1] at h1
    exact absurd h1 List.not_mem_nil
  · refine ⟨h1, lt_of_le_of_ne h2 fun heq => hs.2 x ?_⟩
    rw [heq]
    exact h1

theorem Wakes.getD_eq [LinearOrder T] {a : Agenda ι T} {x : ι} {t : T} (h : a.Wakes x t) :
    (a.timestamps x).getD a.now = t := by
  rcases h with ⟨_, h1, h2⟩ | ⟨_, h1, _⟩
  · rw [h1]
    exact h2
  · rw [h1]
    rfl

/-- the clock asked for a later time -/
theorem wakes_subscribe [LinearOrder T] {a : Agenda ι T} {x : ι} {t : T} (hm : x ∉ a.messages)
    (ht : a.now ≤ t) : (a.subscribe t x).Wakes x t := by
  refine .inr ⟨hm, ?_, ht⟩
  rw [timestamps_subscribe, if_pos rfl]

/-- a timestamp that is delivered -/
theorem Wakes.deliver [LinearOrder T] {a : Agenda ι T} {x y : ι} {t : T} (h : a.Wakes x t)
    (hy : a.timestamps y = some a.now) : (a.deliver y).Wakes x t := by
  by_cases hxy : x = y
  · subst hxy
    rcases h with ⟨_, h1, _⟩ | ⟨_, h1, _⟩
    · rw [h1] at hy
      cases hy
    · rw [h1] at hy
      refine .inl ⟨(mem_deliver _ _ _).mpr (.inl rfl), ?_, (Option.some.inj hy).symm⟩
      rw [timestamps_deliver, if_pos rfl]
  · exact (agrees_deliver hxy).wakes h

/-- time goes on -/
theorem Wakes.advance [LinearOrder T] {a : Agenda ι T} {x : ι} {t s : T} (h : a.Wakes x t)
    (hs : a.CanAdvance s) : (a.advance s).Wakes x t := by
  obtain ⟨h1, _⟩ := h.of_settled hs.1
  refine .inr ⟨?_, h1, hs.2.2 x t h1⟩
  show x ∉ a.messages
  rw [hs.1.1]
  exact List.not_mem_nil

theorem firstDue_eq_some [DecidableEq T] {order : List ι} {a : Agenda ι T} {x : ι}
    (h : a.firstDue order = some x) : a.timestamps x = some a.now := by
  have := List.find?_some h
  exact of_decide_eq_true this

theorem firstDue_eq_none [DecidableEq T] {order : List ι} {a : Agenda ι T} (h : ∀ x, x ∈ order)
    (hd : a.firstDue order = none) (x : ι) : a.timestamps x ≠ some a.now := by
  have hx := List.find?_eq_none.mp hd x (h x)
  exact fun heq => hx (decide_eq_true heq)

/-! ## what is left of an instant -/

section load
variable [DecidableEq T] {a b : Agenda ι T} {x : ι} {w : ℕ}

/-- what is left for `x` at this instant, when a message of it counts `w` -/
def load (a : Agenda ι T) (x : ι) (w : ℕ) : ℕ :=
  (if x ∈ a.messages then w else 0) + (if a.timestamps x = some a.now then w + 1 else 0)

theorem Agrees.load_eq (h : Agrees x a b) (w : ℕ) : b.load x w = a.load x w := by
  obtain ⟨hnow, hmem, hts⟩ := h
  unfold load
  simp only [hnow, hmem, hts]

theorem load_of_mem (hm : x ∈ a.messages) (ht : a.timestamps x ≠ some a.now) : a.load x w = w := by
  unfold load
  rw [if_pos hm, if_neg ht, Nat.add_zero]

theorem load_of_notMem (hm : x ∉ a.messages) (ht : a.timestamps x ≠ some a.now) :
    a.load x w = 0 := by
  unfold load
  rw [if_neg hm, if_neg ht]

theorem le_load (hm : x ∈ a.messages) : w ≤ a.load x w := by
  unfold load
  rw [if_pos hm]
  exact Nat.le_add_right _ _

/-- a timestamp that comes -/
theorem load_subscribe_le (hm : x ∉ a.messages) (t : T) : (a.subscribe t x).load x w ≤ w + 1 := by
  have hm' : x ∉ (a.subscribe t x).messages := hm
  unfold load
  rw [if_neg hm', Nat.zero_add]
  split
  · exact le_rfl
  · exact Nat.zero_le _

/-- a timestamp that comes later -/
theorem load_subscribe_later (hm : x ∉ a.messages) {t : T} (ht : t ≠ a.now) :
    (a.subscribe t x).load x w = 0 := by
  have hm' : x ∉ (a.subscribe t x).messages := hm
  apply load_of_notMem hm'
  rw [timestamps_subscribe, if_pos rfl]
  exact fun heq => ht (Option.some.inj heq)

theorem load_deliver (h : a.timestamps x = some a.now) : (a.deliver x).load x w < a.load x w := by
  have hm : x ∈ (a.deliver x).messages := (mem_deliver _ _ _).mpr (.inl rfl)
  have ht : (a.deliver x).timestamps x ≠ some (a.deliver x).now := by
    rw [timestamps_deliver, if_pos rfl]
    nofun
  rw [load_of_mem hm ht, load, if_pos h]
  omega

end load

/-! ## messages that have waited before -/

section behind

theorem nodup_behind {l k : List ι} (hl : l.Nodup) (hk : k.Nodup) :
    (l.filter (fun x => x ∉ k) ++ k).Nodup := by
  rw [List.nodup_append]
  refine ⟨hl.filter _, hk, fun x hx y hy heq => ?_⟩
  have hout := (List.mem_filter.mp hx).2
  rw [heq, decide_eq_true_iff] at hout
  exact hout hy

/-- the agenda behind other messages, which are cancelled where it has them too -/
def behind (a : Agenda ι T) (l : List ι) (hl : l.Nodup) : Agenda ι T :=
  { a with
    messages := l.filter (fun x => x ∉ a.messages) ++ a.messages
    nodup := nodup_behind hl a.nodup }

/-- agendas that differ at most in their messages -/
theorem eq_of_messages {a b : Agenda ι T}
    (h : b = { a with messages := b.messages, nodup := b.nodup }) (hm : a.messages = b.messages) :
    a = b := by
  rw [h]
  cases a
  cases hm
  rfl

variable (a : Agenda ι T) {l : List ι} (hl : l.Nodup)

@[simp] theorem behind_nil (h : [].Nodup) : a.behind [] h = a := rfl

@[simp] theorem behind_subscribe (t : T) (x : ι) :
    (a.behind l hl).subscribe t x = (a.subscribe t x).behind l hl := rfl

@[simp] theorem behind_unsubscribe (x : ι) :
    (a.behind l hl).unsubscribe x = (a.unsubscribe x).behind l hl := rfl

@[simp] theorem behind_reschedule (x : ι) :
    (a.behind l hl).reschedule x = (a.reschedule x).behind l hl := by
  refine eq_of_messages rfl ?_
  show (l.filter (fun y => y ∉ a.messages) ++ a.messages).erase x ++ [x] =
    l.filter (fun y => y ∉ a.messages.erase x ++ [x]) ++ (a.messages.erase x ++ [x])
  rw [(nodup_behind hl a.nodup).erase_eq_filter, a.nodup.erase_eq_filter, List.filter_append,
    List.append_assoc, List.filter_filter]
  congr 1
  refine List.filter_congr fun y _ => ?_
  rw [Bool.eq_iff_iff]
  simp only [Bool.and_eq_true, bne_iff_ne, decide_eq_true_eq, List.mem_append, List.mem_filter,
    List.mem_singleton]
  tauto

@[simp] theorem behind_deliver (x : ι) :
    (a.behind l hl).deliver x = (a.deliver x).behind l hl := by
  unfold deliver
  rw [behind_unsubscribe, behind_reschedule]

end behind
end Agenda
end Lib
