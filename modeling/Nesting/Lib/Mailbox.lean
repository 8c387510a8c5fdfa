import Mathlib.Data.List.Nodup

/-!
# Messages that are handled in the order in which they were posted

The messages of one instant are a list, handled from its head.  Posting a message again cancels it and
puts it at the end.

* `post`           cancels and posts;
* `Ahead a b l`    some `a` is handled before some `b`;
* `ahead_cons`, `ahead_post`, `ahead_append`   what handling and posting do to the order.
-/

set_option linter.unusedVariables false

namespace Lib

variable {μ : Type*} {a b m x : μ} {l : List μ}

/-- `a` is handled before `b` -/
def Ahead (a b : μ) (l : List μ) : Prop := [a, b].Sublist l

theorem ahead_cons : Ahead a b (m :: l) ↔ (m = a ∧ b ∈ l) ∨ Ahead a b l := by
  unfold Ahead
  rw [List.sublist_cons_iff]
  constructor
  · rintro (h | ⟨r, hr, h⟩)
    · exact .inr h
    · obtain ⟨rfl, rfl⟩ := List.cons.inj hr
      exact .inl ⟨rfl, List.singleton_sublist.mp h⟩
  · rintro (⟨rfl, h⟩ | h)
    · exact .inr ⟨[b], rfl, List.singleton_sublist.mpr h⟩
    · exact .inl h

theorem not_ahead_nil : ¬Ahead a b [] := nofun

/-- the message that is handled was ahead of the others -/
theorem Ahead.of_head (h : ¬Ahead a b (a :: l)) : b ∉ l :=
  fun hb => h (ahead_cons.mpr (.inl ⟨rfl, hb⟩))

theorem Ahead.tail (h : ¬Ahead a b (m :: l)) : ¬Ahead a b l := fun ht => h (ahead_cons.mpr (.inr ht))

theorem Ahead.mem (h : Ahead a b l) : a ∈ l ∧ b ∈ l :=
  ⟨h.subset List.mem_cons_self, h.subset (List.mem_cons_of_mem _ List.mem_cons_self)⟩

theorem ahead_append : Ahead a b (l ++ [m]) ↔ (m = b ∧ a ∈ l) ∨ Ahead a b l := by
  induction l with
  | nil =>
    rw [List.nil_append, ahead_cons]
    constructor
    · rintro (⟨_, h⟩ | h)
      · cases h
      · exact absurd h not_ahead_nil
    · rintro (⟨_, h⟩ | h)
      · cases h
      · exact absurd h not_ahead_nil
  | cons x l ih =>
    rw [List.cons_append, ahead_cons, ih, ahead_cons, List.mem_append, List.mem_singleton,
      List.mem_cons]
    constructor
    · rintro (⟨rfl, hb | rfl⟩ | ⟨rfl, ha⟩ | h)
      · exact .inr (.inl ⟨rfl, hb⟩)
      · exact .inl ⟨rfl, .inl rfl⟩
      · exact .inl ⟨rfl, .inr ha⟩
      · exact .inr (.inr h)
    · rintro (⟨rfl, rfl | ha⟩ | ⟨rfl, hb⟩ | h)
      · exact .inl ⟨rfl, .inr rfl⟩
      · exact .inr (.inl ⟨rfl, ha⟩)
      · exact .inl ⟨rfl, .inl hb⟩
      · exact .inr (.inr h)

theorem ahead_filter {p : μ → Bool} (ha : p a = true) (hb : p b = true) :
    Ahead a b (l.filter p) ↔ Ahead a b l := by
  constructor
  · exact fun h => h.trans List.filter_sublist
  · intro h
    have := h.filter p
    rwa [List.filter_cons_of_pos ha, List.filter_cons_of_pos hb, List.filter_nil] at this

variable [DecidableEq μ]

/-- `cancelEvent` and `scheduleAt` for this instant -/
def post (m : μ) (l : List μ) : List μ := (l.filter fun x => x ≠ m) ++ [m]

theorem mem_post : x ∈ post m l ↔ x = m ∨ x ∈ l := by
  unfold post
  rw [List.mem_append, List.mem_singleton, List.mem_filter, decide_eq_true_iff]
  constructor
  · rintro (⟨h, _⟩ | h)
    · exact .inr h
    · exact .inl h
  · intro h
    by_cases hx : x = m
    · exact .inr hx
    · exact .inl ⟨h.resolve_left hx, hx⟩

theorem post_of_notMem (h : m ∉ l) : post m l = l ++ [m] := by
  have hkeep : (l.filter fun x => x ≠ m) = l :=
    List.filter_eq_self.mpr fun x hx => decide_eq_true (ne_of_mem_of_not_mem hx h)
  unfold post
  rw [hkeep]

theorem nodup_post (h : l.Nodup) : (post m l).Nodup := by
  unfold post
  rw [List.nodup_append]
  refine ⟨h.filter _, List.nodup_singleton m, fun y hy z hz => ?_⟩
  rw [List.mem_singleton.mp hz]
  exact of_decide_eq_true (List.mem_filter.mp hy).2

/-- the next message stays the next -/
theorem head_post (h : l.head? = some x) (hx : x ≠ m) : (post m l).head? = some x := by
  cases l with
  | nil => cases h
  | cons a l =>
    cases h
    have hkeep : ((x :: l).filter fun y => y ≠ m) = x :: l.filter fun y => y ≠ m :=
      List.filter_cons_of_pos (decide_eq_true hx)
    unfold post
    rw [hkeep]
    rfl

/-- messages of another kind are not touched -/
theorem countP_post {p : μ → Bool} (hm : p m = false) : (post m l).countP p = l.countP p := by
  unfold post
  rw [List.countP_append, List.countP_singleton, hm, List.countP_filter, if_neg nofun, Nat.add_zero]
  refine List.countP_congr fun x hx => ?_
  rw [Bool.and_eq_true, decide_eq_true_iff, and_iff_left_iff_imp]
  rintro hp rfl
  exact absurd (hm.symm.trans hp) nofun

/-- a message that was posted is behind all others -/
theorem ahead_post (hab : a ≠ b) : Ahead a b (post m l) ↔
    (m = b ∧ a ∈ l) ∨ (m ≠ a ∧ m ≠ b ∧ Ahead a b l) := by
  unfold post
  rw [ahead_append, List.mem_filter, decide_eq_true_iff]
  by_cases hma : m = a
  · subst hma
    constructor
    · rintro (⟨rfl, _⟩ | h)
      · exact absurd rfl hab
      · have := (List.mem_filter.mp h.mem.1).2
        rw [decide_eq_true_iff] at this
        exact absurd rfl this
    · rintro (⟨rfl, _⟩ | ⟨h, _⟩)
      · exact absurd rfl hab
      · exact absurd rfl h
  · by_cases hmb : m = b
    · subst hmb
      constructor
      · rintro (⟨_, h, _⟩ | h)
        · exact .inl ⟨rfl, h⟩
        · exact .inl ⟨rfl, (List.mem_filter.mp h.mem.1).1⟩
      · rintro (⟨_, h⟩ | ⟨_, h, _⟩)
        · exact .inl ⟨rfl, h, hab⟩
        · exact absurd rfl h
    · have hkeep : Ahead a b (l.filter fun x => x ≠ m) ↔ Ahead a b l :=
        ahead_filter (p := fun x => decide (x ≠ m)) (decide_eq_true (Ne.symm hma))
          (decide_eq_true (Ne.symm hmb))
      rw [hkeep]
      constructor
      · rintro (⟨h, _⟩ | h)
        · exact absurd h hmb
        · exact .inr ⟨hma, hmb, h⟩
      · rintro (⟨h, _⟩ | ⟨_, _, h⟩)
        · exact absurd h hmb
        · exact .inr h

theorem Ahead.of_post (h : Ahead a b (post m l)) (hab : a ≠ b) :
    (m = b ∧ a ∈ l) ∨ (m ≠ a ∧ m ≠ b ∧ Ahead a b l) := (ahead_post hab).mp h

end Lib
