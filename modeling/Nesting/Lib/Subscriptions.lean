import Mathlib.Data.List.Induction
import Mathlib.Data.Set.Insert

/-!
# Subscriptions

Listeners wait for slots.  When a slot begins everyone who waits for it is due, and is called once,
in any order; who unsubscribes is neither waiting nor due.

* `Notice`      what is seen from outside;
* `Subscriptions`, `after`   who is waiting and who is due, one notice after the other;
* `Orderly`     only who is due is called, and a slot finishes when no one is;
* `mem_waiting_iff`, `mem_due_iff`   where in the notices a subscription comes from;
* `Outstanding`   a listener that has at most one subscription, and what the notices do to it.
-/

set_option linter.unusedVariables false

namespace Lib

inductive Notice (L T : Type) where
  | subscribed (listener : L) (slot : T)
  | unsubscribed (listener : L)
  | begun (slot : T)
  | called (listener : L) (slot : T)
  | finished
  deriving DecidableEq, Repr

structure Subscriptions (L T : Type) where
  waiting : Set (L × T)
  due : Set (L × T)

namespace Subscriptions

variable {L T : Type} {a : Subscriptions L T} {n : Notice L T} {p ns : List (Notice L T)} {l : L}
  {t : T}

def empty : Subscriptions L T := ⟨∅, ∅⟩

def after (a : Subscriptions L T) : Notice L T → Subscriptions L T
  | .subscribed l t => ⟨insert (l, t) a.waiting, a.due⟩
  | .unsubscribed l => ⟨{x | x ∈ a.waiting ∧ x.1 ≠ l}, {x | x ∈ a.due ∧ x.1 ≠ l}⟩
  | .begun t => ⟨{x | x ∈ a.waiting ∧ x.2 ≠ t}, {x | x ∈ a.waiting ∧ x.2 = t}⟩
  | .called l t => ⟨a.waiting, {x | x ∈ a.due ∧ x ≠ (l, t)}⟩
  | .finished => a

def Allowed (a : Subscriptions L T) : Notice L T → Prop
  | .subscribed _ _ | .unsubscribed _ => True
  | .begun _ | .finished => a.due = ∅
  | .called l t => (l, t) ∈ a.due

/-- the subscriptions after some notices -/
def ofNotices (ns : List (Notice L T)) : Subscriptions L T := ns.foldl after empty

def Orderly (ns : List (Notice L T)) : Prop := ∀ p n q, ns = p ++ n :: q → (ofNotices p).Allowed n

theorem ofNotices_snoc : ofNotices (p ++ [n]) = (ofNotices p).after n := by
  unfold ofNotices
  rw [List.foldl_append]
  rfl

theorem orderly_nil : Orderly ([] : List (Notice L T)) := by
  intro p n q h
  simp at h

/-- a notice of a longer list is the last one or stands before it -/
theorem exists_split_snoc {m : Notice L T} {P : List (Notice L T) → List (Notice L T) → Prop} :
    (∃ p q, ns ++ [n] = p ++ m :: q ∧ P p q) ↔
      (n = m ∧ P ns []) ∨ ∃ p q, ns = p ++ m :: q ∧ P p (q ++ [n]) := by
  constructor
  · rintro ⟨p, q, h, hP⟩
    induction q using List.reverseRecOn with
    | nil =>
      obtain ⟨rfl, hn⟩ := List.append_inj' h rfl
      exact .inl ⟨List.singleton_inj.mp hn, hP⟩
    | append_singleton q x _ =>
      rw [← List.cons_append, ← List.append_assoc] at h
      obtain ⟨hns, hn⟩ := List.append_inj' h rfl
      cases List.singleton_inj.mp hn
      exact .inr ⟨p, q, hns, hP⟩
  · rintro (⟨rfl, hP⟩ | ⟨p, q, rfl, hP⟩)
    · exact ⟨ns, [], rfl, hP⟩
    · exact ⟨p, q ++ [n], by simp, hP⟩

theorem orderly_snoc : Orderly (ns ++ [n]) ↔ Orderly ns ∧ (ofNotices ns).Allowed n := by
  constructor
  · intro h
    refine ⟨fun p m q hq => ?_, h ns n [] rfl⟩
    apply h p m (q ++ [n])
    rw [hq, List.append_assoc, List.cons_append]
  · intro ⟨h, hn⟩ p m q hq
    obtain ⟨rfl, rfl⟩ | ⟨p', q', hns, rfl⟩ :=
      (exists_split_snoc (P := fun p' _ => p' = p)).mp ⟨p, q, hq, rfl⟩
    · exact hn
    · exact h p' m q' hns

/-- **Who is waiting** has subscribed since the slot began last, and not unsubscribed since. -/
theorem mem_waiting_iff : (l, t) ∈ (ofNotices ns).waiting ↔
    ∃ p q, ns = p ++ .subscribed l t :: q ∧ .unsubscribed l ∉ q ∧ .begun t ∉ q := by
  induction ns using List.reverseRecOn with
  | nil =>
    refine iff_of_false (Set.notMem_empty _) ?_
    rintro ⟨p, q, h, _⟩
    simp at h
  | append_singleton ns n ih =>
    have hsplit : (∃ p q, ns ++ [n] = p ++ .subscribed l t :: q ∧ .unsubscribed l ∉ q ∧
        .begun t ∉ q) ↔ n = .subscribed l t ∨
        (∃ p q, ns = p ++ .subscribed l t :: q ∧ .unsubscribed l ∉ q ∧ .begun t ∉ q) ∧
          n ≠ .unsubscribed l ∧ n ≠ .begun t := by
      rw [exists_split_snoc]
      simp only [List.mem_append, not_or, List.mem_singleton, List.not_mem_nil, not_false_eq_true,
        and_true]
      refine or_congr_right ⟨?_, ?_⟩
      · rintro ⟨p, q, rfl, hu, hb⟩
        exact ⟨⟨p, q, rfl, hu.1, hb.1⟩, fun h => hu.2 h.symm, fun h => hb.2 h.symm⟩
      · rintro ⟨⟨p, q, rfl, hu, hb⟩, hnu, hnb⟩
        exact ⟨p, q, rfl, ⟨hu, hnu.symm⟩, hb, hnb.symm⟩
    rw [hsplit, ← ih, ofNotices_snoc]
    cases n with
    | subscribed l' t' =>
      simp only [after, Set.mem_insert_iff, Prod.mk.injEq, Notice.subscribed.injEq, ne_eq,
        reduceCtorEq, not_false_eq_true, and_self, and_true]
      exact or_congr_left ⟨fun h => ⟨h.1.symm, h.2.symm⟩, fun h => ⟨h.1.symm, h.2.symm⟩⟩
    | unsubscribed l' => simp [after, eq_comm]
    | begun t' => simp [after, eq_comm]
    | called l' t' => simp [after]
    | finished => simp [after]

/-- **Who is due** was waiting when the slot began, and was neither called nor unsubscribed since. -/
theorem mem_due_iff : (l, t) ∈ (ofNotices ns).due ↔
    ∃ p q, ns = p ++ .begun t :: q ∧ (l, t) ∈ (ofNotices p).waiting ∧ .unsubscribed l ∉ q ∧
      .called l t ∉ q ∧ ∀ t', .begun t' ∉ q := by
  induction ns using List.reverseRecOn with
  | nil =>
    refine iff_of_false (Set.notMem_empty _) ?_
    rintro ⟨p, q, h, _⟩
    simp at h
  | append_singleton ns n ih =>
    have hsplit : (∃ p q, ns ++ [n] = p ++ .begun t :: q ∧ (l, t) ∈ (ofNotices p).waiting ∧
        .unsubscribed l ∉ q ∧ .called l t ∉ q ∧ ∀ t', .begun t' ∉ q) ↔
        (n = .begun t ∧ (l, t) ∈ (ofNotices ns).waiting) ∨
        (∃ p q, ns = p ++ .begun t :: q ∧ (l, t) ∈ (ofNotices p).waiting ∧ .unsubscribed l ∉ q ∧
          .called l t ∉ q ∧ ∀ t', .begun t' ∉ q) ∧
          n ≠ .unsubscribed l ∧ n ≠ .called l t ∧ ∀ t', n ≠ .begun t' := by
      rw [exists_split_snoc]
      simp only [List.mem_append, not_or, List.mem_singleton, List.not_mem_nil, not_false_eq_true,
        implies_true, and_true]
      refine or_congr_right ⟨?_, ?_⟩
      · rintro ⟨p, q, rfl, hw, hu, hc, hb⟩
        exact ⟨⟨p, q, rfl, hw, hu.1, hc.1, fun t' => (hb t').1⟩, fun h => hu.2 h.symm,
          fun h => hc.2 h.symm, fun t' h => (hb t').2 h.symm⟩
      · rintro ⟨⟨p, q, rfl, hw, hu, hc, hb⟩, hnu, hnc, hnb⟩
        exact ⟨p, q, rfl, hw, ⟨hu, hnu.symm⟩, ⟨hc, hnc.symm⟩, fun t' => ⟨hb t', (hnb t').symm⟩⟩
    rw [hsplit, ← ih, ofNotices_snoc]
    cases n with
    | subscribed l' t' => simp [after]
    | unsubscribed l' => simp [after, eq_comm]
    | begun t' => simp [after, eq_comm, and_comm]
    | called l' t' => simp [after, eq_comm]
    | finished => simp [after]

/-! ## a single subscription -/

/-- the listener that a notice is about -/
def listener? : Notice L T → Option L
  | .subscribed l _ | .unsubscribed l | .called l _ => some l
  | .begun _ | .finished => none

/-- the slot for which the listener waits or at which it is due, if there is one -/
def Outstanding (a : Subscriptions L T) (l : L) : Option T → Prop
  | none => ∀ t, (l, t) ∉ a.waiting ∧ (l, t) ∉ a.due
  | some x => (∀ t, ((l, t) ∈ a.waiting ↔ t = x) ∧ (l, t) ∉ a.due) ∨
    ∀ t, (l, t) ∉ a.waiting ∧ ((l, t) ∈ a.due ↔ t = x)

variable {o : Option T}

/-- the listener does not take part -/
theorem Outstanding.of_iff {b : Subscriptions L T} (h : a.Outstanding l o)
    (hw : ∀ t, (l, t) ∈ b.waiting ↔ (l, t) ∈ a.waiting) (hd : ∀ t, (l, t) ∈ b.due ↔ (l, t) ∈ a.due) :
    b.Outstanding l o := by
  cases o with
  | none => exact fun t => ⟨fun hm => (h t).1 ((hw t).mp hm), fun hm => (h t).2 ((hd t).mp hm)⟩
  | some x =>
    refine h.imp (fun h t => ?_) fun h t => ?_
    · rw [hw, hd]
      exact h t
    · rw [hw, hd]
      exact h t

/-- **What others do** makes the subscription due at most. -/
theorem Outstanding.after_other (h : a.Outstanding l o) (ha : a.Allowed n)
    (hn : listener? n ≠ some l) : (a.after n).Outstanding l o := by
  cases n with
  | subscribed m u =>
    have hne : l ≠ m := fun he => hn (congrArg some he.symm)
    refine h.of_iff (fun t => ?_) fun t => Iff.rfl
    simp [after, hne]
  | unsubscribed m =>
    have hne : l ≠ m := fun he => hn (congrArg some he.symm)
    refine h.of_iff (fun t => ?_) fun t => ?_
    · simp [after, hne]
    · simp [after, hne]
  | called m u =>
    have hne : l ≠ m := fun he => hn (congrArg some he.symm)
    refine h.of_iff (fun t => Iff.rfl) fun t => ?_
    simp [after, hne]
  | finished => exact h
  | begun u =>
    have hnone : ∀ t, (l, t) ∉ a.due := fun t hm => by
      rw [show a.due = ∅ from ha] at hm
      exact hm
    cases o with
    | none => exact fun t => ⟨fun hm => (h t).1 hm.1, fun hm => (h t).1 hm.1⟩
    | some x =>
      obtain h | h := h
      · by_cases hx : x = u
        · right
          intro t
          simp [after, (h t).1, hx]
        · left
          intro t
          simp only [after, Set.mem_ofPred_eq, (h t).1]
          refine ⟨⟨fun ht => ht.1, fun ht => ⟨ht, fun hu => hx (ht.symm.trans hu)⟩⟩, ?_⟩
          rintro ⟨rfl, hu⟩
          exact hx hu
      · exact absurd ((h x).2.mpr rfl) (hnone x)

/-- the call was for the subscription, which is then gone -/
theorem Outstanding.after_called (h : a.Outstanding l o) (ha : a.Allowed (.called l t)) :
    o = some t ∧ (a.after (.called l t)).Outstanding l none := by
  have ha : (l, t) ∈ a.due := ha
  cases o with
  | none => exact absurd ha (h t).2
  | some x =>
    obtain h | h := h
    · exact absurd ha (h t).2
    · obtain rfl := (h t).2.mp ha
      refine ⟨rfl, fun u => ⟨(h u).1, ?_⟩⟩
      rintro ⟨hu, hne⟩
      exact hne (Prod.ext rfl ((h u).2.mp hu))

theorem Outstanding.after_subscribed (h : a.Outstanding l none) :
    (a.after (.subscribed l t)).Outstanding l (some t) := by
  left
  intro u
  have := h u
  simp [after, this.1, this.2]

end Subscriptions

end Lib
