import Mathlib.Data.List.Basic
import Mathlib.Data.List.Nodup
import Mathlib.Data.List.TakeWhile
import Mathlib.Data.Prod.Lex
import Mathlib.Order.Defs.LinearOrder

/-!
# Queues that are kept in order

A list whose elements have keys of a linear order, strictly ascending.  Elements are found, inserted
and removed at the first place whose key is not below a given one.

* `Ascending`      the keys are strictly ascending;
* `lookup`, `insertAt`, `removeAt`   the operations at that place;
* `lookup_eq_some`, `mem_insertAt`, `removeAt_eq`   what they do to an ascending list;
* `insertAt_perm`  the elements before and after;
* `Ledger`         every element that was inserted is delivered, removed or pending;
* `lexLt`          comparing three components one after the other.
-/

namespace Lib

variable {α κ : Type*} [LinearOrder κ] {key : α → κ}

/-- the keys are strictly ascending -/
def Ascending (key : α → κ) (l : List α) : Prop := l.Pairwise fun a b => key a < key b

/-- the element with the key `k`, at the first place whose key is not below `k` -/
def lookup (key : α → κ) (k : κ) (l : List α) : Option α :=
  (l.dropWhile fun x => key x < k).head?.filter fun x => key x = k

/-- inserts the element at the first place whose key is not below its own -/
def insertAt (key : α → κ) (e : α) (l : List α) : List α :=
  (l.takeWhile fun x => key x < key e) ++ e :: l.dropWhile fun x => key x < key e

/-- removes the element with the key `k` from the first place whose key is not below `k` -/
def removeAt (key : α → κ) (k : κ) (l : List α) : List α :=
  (l.takeWhile fun x => key x < k) ++
    match l.dropWhile fun x => key x < k with
    | [] => []
    | x :: xs => if key x = k then xs else x :: xs

theorem Ascending.tail {e : α} {l : List α} (h : Ascending key (e :: l)) : Ascending key l :=
  (List.pairwise_cons.mp h).2

/-- the first element is the least -/
theorem Ascending.head_lt {e x : α} {l : List α} (h : Ascending key (e :: l)) (hx : x ∈ l) :
    key e < key x := (List.pairwise_cons.mp h).1 x hx

theorem Ascending.filter {l : List α} (h : Ascending key l) (p : α → Bool) :
    Ascending key (l.filter p) := List.Pairwise.filter p h

/-- past the first place the keys are not below `k` -/
theorem Ascending.dropWhile_le {l : List α} (h : Ascending key l) (k : κ) :
    ∀ x ∈ l.dropWhile fun x => key x < k, k ≤ key x := by
  induction l with
  | nil => nofun
  | cons y l ih =>
    intro x hx
    by_cases hy : key y < k
    · rw [List.dropWhile_cons_of_pos (by simpa using hy)] at hx
      exact ih h.tail x hx
    · rw [List.dropWhile_cons_of_neg (by simpa using hy)] at hx
      obtain rfl | hx := List.mem_cons.mp hx
      · exact not_lt.mp hy
      · exact le_of_lt (lt_of_le_of_lt (not_lt.mp hy) (h.head_lt hx))

theorem lt_of_mem_takeWhile {l : List α} {k : κ} {x : α}
    (hx : x ∈ l.takeWhile fun x => key x < k) : key x < k := by
  simpa using List.mem_takeWhile_imp hx

theorem Ascending.eq_of_key {l : List α} (h : Ascending key l) {x y : α} (hx : x ∈ l) (hy : y ∈ l)
    (hk : key x = key y) : x = y := by
  induction l with
  | nil => cases hx
  | cons z l ih =>
    obtain rfl | hxl := List.mem_cons.mp hx
    · obtain rfl | hyl := List.mem_cons.mp hy
      · rfl
      · exact absurd hk (ne_of_lt (h.head_lt hyl))
    · obtain rfl | hyl := List.mem_cons.mp hy
      · exact absurd hk (ne_of_gt (h.head_lt hxl))
      · exact ih h.tail hxl hyl

/-- if all elements that satisfy `p` come first, they are a prefix -/
theorem filter_eq_takeWhile {p : α → Bool} {l : List α}
    (h : l.Pairwise fun a b => p b = true → p a = true) :
    l.filter p = l.takeWhile p ∧ (l.filter fun x => !p x) = l.dropWhile p := by
  induction l with
  | nil => exact ⟨rfl, rfl⟩
  | cons x l ih =>
    obtain ⟨hx, hl⟩ := List.pairwise_cons.mp h
    cases hp : p x with
    | true =>
      rw [List.filter_cons_of_pos hp, List.takeWhile_cons_of_pos hp,
        List.filter_cons_of_neg (by simp [hp]), List.dropWhile_cons_of_pos hp, (ih hl).1]
      exact ⟨rfl, (ih hl).2⟩
    | false =>
      have hrest : ∀ y ∈ l, p y = false := fun y hy =>
        Bool.eq_false_iff.mpr fun hpy => by
          rw [hx y hy hpy] at hp
          cases hp
      rw [List.filter_cons_of_neg (by simp [hp]), List.takeWhile_cons_of_neg (by simp [hp]),
        List.filter_cons_of_pos (by simp [hp]), List.dropWhile_cons_of_neg (by simp [hp])]
      refine ⟨List.filter_eq_nil_iff.mpr fun y hy => by simp [hrest y hy], congrArg (x :: ·) ?_⟩
      exact List.filter_eq_self.mpr fun y hy => by simp [hrest y hy]

/-! ## lookup -/

theorem lookup_mem {l : List α} {k : κ} {x : α} (h : lookup key k l = some x) :
    x ∈ l ∧ key x = k := by
  obtain ⟨hx, hk⟩ := Option.filter_eq_some_iff.mp h
  refine ⟨?_, of_decide_eq_true hk⟩
  exact (List.dropWhile_suffix _).subset (List.mem_of_mem_head? hx)

/-- the element with the key is found -/
theorem lookup_eq_some {l : List α} (h : Ascending key l) {x : α} (hx : x ∈ l) :
    lookup key (key x) l = some x := by
  unfold lookup
  induction l with
  | nil => cases hx
  | cons y l ih =>
    obtain rfl | hx := List.mem_cons.mp hx
    · rw [List.dropWhile_cons_of_neg (by simp)]
      simp
    · rw [List.dropWhile_cons_of_pos (by simpa using h.head_lt hx)]
      exact ih h.tail hx

theorem lookup_eq_none {l : List α} (h : Ascending key l) {k : κ} :
    lookup key k l = none ↔ ∀ x ∈ l, key x ≠ k := by
  constructor
  · intro hn x hx hk
    rw [← hk, lookup_eq_some h hx] at hn
    cases hn
  · intro hall
    cases hl : lookup key k l with
    | none => rfl
    | some x =>
      obtain ⟨hx, hk⟩ := lookup_mem hl
      exact absurd hk (hall x hx)

/-- a key is found as often as it occurs -/
theorem lookup_toList {l : List α} (h : Ascending key l) (k : κ) :
    (lookup key k l).toList = l.filter fun x => key x = k := by
  cases hl : lookup key k l with
  | none =>
    rw [eq_comm]
    refine List.filter_eq_nil_iff.mpr fun x hx => ?_
    simpa using (lookup_eq_none h).mp hl x hx
  | some y =>
    obtain ⟨hy, rfl⟩ := lookup_mem hl
    clear hl
    induction l with
    | nil => cases hy
    | cons z l ih =>
      obtain rfl | hmem := List.mem_cons.mp hy
      · have hrest : ∀ x ∈ l, ¬key x = key y := fun x hx => ne_of_gt (h.head_lt hx)
        rw [List.filter_cons_of_pos (by simp), List.filter_eq_nil_iff.mpr (by simpa using hrest)]
        rfl
      · rw [List.filter_cons_of_neg (by simpa using ne_of_lt (h.head_lt hmem))]
        exact ih h.tail hmem

/-! ## insertion -/

theorem insertAt_perm (e : α) (l : List α) : (insertAt key e l).Perm (e :: l) := by
  unfold insertAt
  refine List.perm_middle.trans ?_
  rw [List.takeWhile_append_dropWhile]

theorem mem_insertAt {e x : α} {l : List α} : x ∈ insertAt key e l ↔ x = e ∨ x ∈ l := by
  rw [(insertAt_perm e l).mem_iff, List.mem_cons]

/-- the first element afterwards -/
theorem insertAt_head (key : α → κ) (e : α) (l : List α) :
    ∃ x xs, insertAt key e l = x :: xs ∧ (x = e ∨ (x ∈ l ∧ key x < key e)) := by
  unfold insertAt
  cases ht : l.takeWhile fun x => key x < key e with
  | nil => exact ⟨e, _, rfl, .inl rfl⟩
  | cons x xs =>
    have hx : x ∈ l.takeWhile fun x => key x < key e := by
      rw [ht]
      exact List.mem_cons_self
    exact ⟨x, _, rfl, .inr ⟨(List.takeWhile_sublist _).subset hx, lt_of_mem_takeWhile hx⟩⟩

theorem Ascending.insertAt {e : α} {l : List α} (h : Ascending key l)
    (hnew : ∀ x ∈ l, key x ≠ key e) : Ascending key (insertAt key e l) := by
  have hpos := h.dropWhile_le (key e)
  have hsplit : Ascending key ((l.takeWhile fun x => key x < key e) ++
      l.dropWhile fun x => key x < key e) := by
    rw [List.takeWhile_append_dropWhile]
    exact h
  obtain ⟨h1, h2, h3⟩ := List.pairwise_append.mp hsplit
  refine List.pairwise_append.mpr ⟨h1, List.pairwise_cons.mpr ⟨fun x hx => ?_, h2⟩, ?_⟩
  · refine lt_of_le_of_ne (hpos x hx) (Ne.symm (hnew x ?_))
    exact (List.dropWhile_suffix _).subset hx
  · intro x hx y hy
    obtain rfl | hy := List.mem_cons.mp hy
    · exact lt_of_mem_takeWhile hx
    · exact h3 x hx y hy

/-! ## removal -/

theorem removeAt_eq {l : List α} (h : Ascending key l) (k : κ) :
    removeAt key k l = l.filter fun x => key x ≠ k := by
  unfold removeAt
  induction l with
  | nil => rfl
  | cons y l ih =>
    by_cases hy : key y < k
    · rw [List.takeWhile_cons_of_pos (by simpa using hy),
        List.dropWhile_cons_of_pos (by simpa using hy),
        List.filter_cons_of_pos (by simpa using ne_of_lt hy), List.cons_append, ih h.tail]
    · rw [List.takeWhile_cons_of_neg (by simpa using hy),
        List.dropWhile_cons_of_neg (by simpa using hy), List.nil_append]
      have hrest : ∀ x ∈ l, key x ≠ k := fun x hx =>
        ne_of_gt (lt_of_le_of_lt (not_lt.mp hy) (h.head_lt hx))
      have hkeep : (l.filter fun x => key x ≠ k) = l :=
        List.filter_eq_self.mpr fun x hx => by simpa using hrest x hx
      by_cases hk : key y = k
      · rw [List.filter_cons_of_neg (by simpa using hk), hkeep]
        exact if_pos hk
      · rw [List.filter_cons_of_pos (by simpa using hk), hkeep]
        exact if_neg hk

/-! ## the ledger of a queue -/

/-- elements have numbers of their own, below `made`; each is delivered, removed or pending -/
structure Ledger (object : α → ℕ) (made : ℕ) (inserted delivered removed pending : List α) :
    Prop where
  once : inserted.Perm (delivered ++ removed ++ pending)
  numbered : ∀ e ∈ inserted, object e < made
  distinct : (inserted.map object).Nodup

namespace Ledger

variable {object : α → ℕ} {made made' : ℕ} {inserted delivered removed pending : List α} {e : α}

theorem empty : Ledger object 0 [] [] [] [] := ⟨.nil, nofun, List.nodup_nil⟩

theorem more (h : Ledger object made inserted delivered removed pending) (hm : made ≤ made') :
    Ledger object made' inserted delivered removed pending :=
  ⟨h.once, fun e he => lt_of_lt_of_le (h.numbered e he) hm, h.distinct⟩

theorem insert (h : Ledger object made inserted delivered removed pending) (key : α → κ)
    (he : object e = made) :
    Ledger object (made + 1) (inserted ++ [e]) delivered removed (insertAt key e pending) := by
  refine ⟨?_, ?_, ?_⟩
  · refine (List.perm_append_singleton e _).trans ?_
    refine (h.once.cons e).trans ?_
    refine List.perm_middle.symm.trans ?_
    exact (insertAt_perm e pending).symm.append_left _
  · intro x hx
    obtain hx | hx := List.mem_append.mp hx
    · exact Nat.lt_succ_of_lt (h.numbered x hx)
    · rw [List.mem_singleton.mp hx, he]
      exact Nat.lt_succ_self _
  · rw [List.map_append, List.nodup_append]
    refine ⟨h.distinct, List.nodup_singleton _, ?_⟩
    intro n hn m hm
    obtain ⟨x, hx, rfl⟩ := List.mem_map.mp hn
    rw [List.mem_singleton.mp hm, he]
    exact ne_of_lt (h.numbered x hx)

theorem remove (h : Ledger object made inserted delivered removed pending) (p : α → Bool) :
    Ledger object made inserted delivered (removed ++ pending.filter p)
      (pending.filter fun e => !p e) := by
  refine ⟨h.once.trans ?_, h.numbered, h.distinct⟩
  rw [List.append_assoc, List.append_assoc, List.append_assoc]
  apply List.Perm.append_left
  apply List.Perm.append_left
  exact (List.filter_append_perm p pending).symm

/-- the first element is delivered -/
theorem deliver (h : Ledger object made inserted delivered removed (e :: pending)) :
    Ledger object made inserted (delivered ++ [e]) removed pending := by
  refine ⟨h.once.trans ?_, h.numbered, h.distinct⟩
  rw [List.append_assoc, List.append_assoc, List.append_assoc]
  apply List.Perm.append_left
  exact List.perm_middle

end Ledger

/-! ## three components -/

/-- compares the first components, then the second ones, then the third ones -/
def lexLt {α β γ : Type*} [LinearOrder α] [LinearOrder β] [LinearOrder γ] (a a' : α) (b b' : β)
    (c c' : γ) : Bool :=
  if a < a' then true
  else if a = a' then
    if b < b' then true
    else if b = b' then decide (c < c')
    else false
  else false

theorem lexLt_iff {α β γ : Type*} [LinearOrder α] [LinearOrder β] [LinearOrder γ] {a a' : α}
    {b b' : β} {c c' : γ} : lexLt a a' b b' c c' = true ↔
      toLex (a, toLex (b, c)) < toLex (a', toLex (b', c')) := by
  rw [Prod.Lex.toLex_lt_toLex, Prod.Lex.toLex_lt_toLex]
  dsimp only
  unfold lexLt
  split
  · rename_i h
    exact iff_of_true rfl (.inl h)
  · rename_i h
    split
    · rename_i he
      rw [or_iff_right h, and_iff_right he]
      split
      · rename_i hb
        exact iff_of_true rfl (.inl hb)
      · rename_i hb
        rw [or_iff_right hb]
        split
        · rename_i hbe
          rw [and_iff_right hbe, decide_eq_true_iff]
        · rename_i hbe
          exact iff_of_false nofun fun hand => hbe hand.1
    · rename_i he
      refine iff_of_false nofun fun hor => ?_
      obtain hlt | ⟨heq, _⟩ := hor
      · exact h hlt
      · exact he heq

end Lib
