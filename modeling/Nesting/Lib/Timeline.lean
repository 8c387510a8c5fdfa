import Mathlib.Algebra.BigOperators.Group.List.Basic
import Mathlib.Algebra.Order.BigOperators.Group.List
import Mathlib.Algebra.Order.Floor.Ring
import Mathlib.Tactic.Abel
import Mathlib.Tactic.FieldSimp
import Mathlib.Tactic.Linarith
import Mathlib.Tactic.Ring

/-!
# Timelines

A timeline is a list of pieces, each with a length and a value, laid one after another from 0.

* `activeAt`       the value shown at a point, `span` the length of the whole;
* `phase`          a point of a repeated timeline, taken back to its first period;
* `extended`       the timeline with its last piece going on for ever;
* `const_of_two_periods`  a function with two periods that is constant between them is constant;
* `repeat_eq_extended_iff`  repeating a timeline with its own length shows what repeating its
                   extension with a longer period does exactly when only one value is to be seen.
-/

set_option linter.unusedSectionVars false
set_option linter.unusedVariables false

namespace Lib

/-! ## pieces in a row -/

section pieces
variable {T α : Type*} [AddCommGroup T] [LinearOrder T]

/-- the value at `x` of pieces laid one after another from 0 -/
def activeAt : List (T × α) → T → Option α
  | [], _ => none
  | (d, a) :: rest, x => if x < d then some a else activeAt rest (x - d)

/-- the length of all pieces together -/
def span (l : List (T × α)) : T := (l.map Prod.fst).sum

@[simp] theorem span_nil : span ([] : List (T × α)) = 0 := rfl

@[simp] theorem span_cons (p : T × α) (l : List (T × α)) : span (p :: l) = p.1 + span l := by
  rw [span, List.map_cons, List.sum_cons, span]

theorem span_append (l m : List (T × α)) : span (l ++ m) = span l + span m := by
  rw [span, List.map_append, List.sum_append, span, span]

variable [IsOrderedAddMonoid T]

theorem span_nonneg {l : List (T × α)} (h : ∀ p ∈ l, 0 ≤ p.1) : 0 ≤ span l := by
  apply List.sum_nonneg
  intro x hx
  obtain ⟨p, hp, rfl⟩ := List.mem_map.mp hx
  exact h p hp

/-- pieces that lie before `x` are passed over -/
theorem activeAt_append {l : List (T × α)} (h : ∀ p ∈ l, 0 ≤ p.1) (m : List (T × α)) {x : T}
    (hx : span l ≤ x) : activeAt (l ++ m) x = activeAt m (x - span l) := by
  induction l generalizing x with
  | nil => rw [List.nil_append, span_nil, sub_zero]
  | cons p l ih =>
    obtain ⟨hp, hl⟩ := List.forall_mem_cons.mp h
    rw [span_cons] at hx
    have h1 : p.1 ≤ x := (le_add_of_nonneg_right (span_nonneg hl)).trans hx
    rw [List.cons_append, activeAt, if_neg (not_lt.mpr h1), ih hl (le_sub_iff_add_le'.mpr hx),
      span_cons, sub_sub]

/-- the piece that `x` lies in -/
theorem activeAt_mid {l m : List (T × α)} (h : ∀ p ∈ l, 0 ≤ p.1) {d x : T} {a : α}
    (h1 : span l ≤ x) (h2 : x < span l + d) : activeAt (l ++ (d, a) :: m) x = some a := by
  rw [activeAt_append h _ h1, activeAt, if_pos (sub_lt_iff_lt_add'.mpr h2)]

theorem activeAt_of_span_le {l : List (T × α)} (h : ∀ p ∈ l, 0 ≤ p.1) {x : T} (hx : span l ≤ x) :
    activeAt l x = none := by
  have := activeAt_append h [] hx
  rwa [List.append_nil] at this

/-- what is shown is the value of a piece of positive length -/
theorem mem_of_activeAt {l : List (T × α)} {x : T} {a : α} (hx : 0 ≤ x)
    (h : activeAt l x = some a) : ∃ d, (d, a) ∈ l ∧ 0 < d := by
  induction l generalizing x with
  | nil => cases h
  | cons p l ih =>
    rw [activeAt] at h
    split at h
    · rename_i hlt
      cases h
      exact ⟨p.1, List.mem_cons_self, hx.trans_lt hlt⟩
    · rename_i hge
      obtain ⟨d, hd, hpos⟩ := ih (sub_nonneg.mpr (not_lt.mp hge)) h
      exact ⟨d, List.mem_cons_of_mem _ hd, hpos⟩

/-- within the span something is shown -/
theorem exists_activeAt {l : List (T × α)} {x : T} (hx : x < span l) (h0 : 0 ≤ x) :
    ∃ a, activeAt l x = some a := by
  induction l generalizing x with
  | nil => exact absurd hx (not_lt.mpr h0)
  | cons p l ih =>
    rw [activeAt]
    split
    · exact ⟨_, rfl⟩
    · rename_i hge
      rw [span_cons] at hx
      exact ih (sub_lt_iff_lt_add'.mpr hx) (sub_nonneg.mpr (not_lt.mp hge))

/-- a piece of positive length is shown somewhere -/
theorem exists_point_of_mem {l : List (T × α)} (h : ∀ p ∈ l, 0 ≤ p.1) {d : T} {a : α}
    (hm : (d, a) ∈ l) (hd : 0 < d) : ∃ x, 0 ≤ x ∧ x < span l ∧ activeAt l x = some a := by
  obtain ⟨l1, l2, rfl⟩ := List.append_of_mem hm
  have h1 : ∀ p ∈ l1, 0 ≤ p.1 := fun p hp => h p (List.mem_append_left _ hp)
  have h2 : ∀ p ∈ l2, 0 ≤ p.1 :=
    fun p hp => h p (List.mem_append_right _ (List.mem_cons_of_mem _ hp))
  refine ⟨span l1, span_nonneg h1, ?_, activeAt_mid h1 le_rfl (lt_add_of_pos_right _ hd)⟩
  rw [span_append, span_cons]
  exact lt_add_of_pos_right _ (add_pos_of_pos_of_nonneg hd (span_nonneg h2))

/-- the timeline whose last piece goes on -/
def extended (l : List (T × α)) (x : T) : Option α :=
  (activeAt l x).or (l.getLast?.map Prod.snd)

theorem exists_extended {l : List (T × α)} {p : T × α} (h : l.getLast? = some p) (x : T) :
    ∃ a, extended l x = some a := by
  rw [extended, h]
  cases activeAt l x with
  | none => exact ⟨_, rfl⟩
  | some a => exact ⟨a, rfl⟩

theorem extended_of_lt {l : List (T × α)} {x : T} (h0 : 0 ≤ x) (hx : x < span l) :
    extended l x = activeAt l x := by
  obtain ⟨a, ha⟩ := exists_activeAt hx h0
  rw [extended, ha]
  rfl

theorem extended_of_le {l : List (T × α)} (h : ∀ p ∈ l, 0 ≤ p.1) {x : T} (hx : span l ≤ x) :
    extended l x = l.getLast?.map Prod.snd := by
  rw [extended, activeAt_of_span_le h hx]
  rfl

/-- pieces that lie after `x` are not reached -/
theorem activeAt_append_left {l : List (T × α)} (m : List (T × α)) {x : T} (h0 : 0 ≤ x)
    (hx : x < span l) : activeAt (l ++ m) x = activeAt l x := by
  induction l generalizing x with
  | nil => exact absurd hx (not_lt.mpr h0)
  | cons p l ih =>
    rw [List.cons_append, activeAt, activeAt]
    split
    · rfl
    · rename_i hge
      rw [span_cons] at hx
      exact ih (sub_nonneg.mpr (not_lt.mp hge)) (sub_lt_iff_lt_add'.mpr hx)

/-- the length of the last piece does not show -/
theorem extended_snoc {l : List (T × α)} (h : ∀ p ∈ l, 0 ≤ p.1) {d : T} (hd : 0 ≤ d) {a : α} {x : T}
    (h0 : 0 ≤ x) : extended (l ++ [(d, a)]) x = if x < span l then activeAt l x else some a := by
  split
  · rename_i hx
    rw [extended_of_lt h0, activeAt_append_left _ h0 hx]
    rw [span_append, span_cons, span_nil, add_zero]
    exact lt_of_lt_of_le hx (le_add_of_nonneg_right hd)
  · rename_i hx
    by_cases hlast : x < span l + d
    · rw [extended, activeAt_mid h (not_lt.mp hx) hlast]
      rfl
    · have hall : ∀ p ∈ l ++ [(d, a)], 0 ≤ p.1 := by
        intro p hp
        obtain hp | hp := List.mem_append.mp hp
        · exact h p hp
        · rw [List.mem_singleton.mp hp]
          exact hd
      rw [extended_of_le hall, List.getLast?_concat]
      · rfl
      · rw [span_append, span_cons, span_nil, add_zero]
        exact not_lt.mp hlast

end pieces

/-! ## periods -/

section periods
variable {T : Type*} [Field T] [LinearOrder T] [IsStrictOrderedRing T] [FloorRing T]

/-- `t - b` taken back to the first period of length `c` -/
def phase (b c t : T) : T := t - b - ⌊(t - b) / c⌋ * c

theorem phase_nonneg {b c t : T} (hc : 0 < c) : 0 ≤ phase b c t := by
  have := mul_le_mul_of_nonneg_right (Int.floor_le ((t - b) / c)) hc.le
  rw [div_mul_cancel₀ _ hc.ne'] at this
  exact sub_nonneg.mpr this

theorem phase_lt {b c t : T} (hc : 0 < c) : phase b c t < c := by
  have := mul_lt_mul_of_pos_right (Int.lt_floor_add_one ((t - b) / c)) hc
  rw [div_mul_cancel₀ _ hc.ne', add_mul, one_mul] at this
  exact sub_lt_iff_lt_add'.mpr this

/-- the phase of a point in the period that starts at `b + n * c` -/
theorem phase_eq {b c t : T} (n : ℤ) (h1 : b + n * c ≤ t) (h2 : t < b + n * c + c) :
    phase b c t = t - (b + n * c) := by
  have hc : 0 < c := by linarith
  have : ⌊(t - b) / c⌋ = n := by
    rw [Int.floor_eq_iff, le_div_iff₀ hc, div_lt_iff₀ hc]
    constructor <;> linarith
  rw [phase, this]
  ring

theorem phase_of_lt {c t : T} (h0 : 0 ≤ t) (h1 : t < c) : phase 0 c t = t := by
  have := phase_eq (b := 0) (c := c) (t := t) 0 (by simpa using h0) (by simpa using h1)
  simpa using this

theorem phase_shift (b c t : T) : phase b c t = phase 0 c (t - b) := by
  rw [phase, phase, sub_zero]

theorem phase_add_period {b c : T} (hc : 0 < c) (t : T) : phase b c (t + c) = phase b c t := by
  have h1 := phase_nonneg (b := b) (t := t) hc
  have h2 := phase_lt (b := b) (t := t) hc
  have h3 : phase b c (t + c) = t + c - (b + ((⌊(t - b) / c⌋ + 1 : ℤ) : T) * c) := by
    unfold phase at h1 h2
    apply phase_eq
    · push_cast
      linarith
    · push_cast
      linarith
  rw [h3, phase]
  push_cast
  ring

/-- **Two periods**: a function on the points from 0 on that has the periods `s < c` and is
constant between them is constant. -/
theorem const_of_two_periods {β : Type*} {f : T → β} {s c : T} {a : β} (hsc : s < c)
    (h1 : ∀ t, 0 ≤ t → f (t + s) = f t) (h2 : ∀ t, 0 ≤ t → f (t + c) = f t)
    (h3 : ∀ t, s ≤ t → t < c → f t = a) {t : T} (ht : 0 ≤ t) (hts : t < s) : f t = a := by
  have hd : 0 < c - s := sub_pos.mpr hsc
  -- the difference of two periods is a period
  have h4 : ∀ t, 0 ≤ t → f (t + (c - s)) = f t := by
    intro t ht
    have h5 : t + (c - s) + s = t + c := by ring
    rw [← h1 (t + (c - s)) (add_nonneg ht hd.le), h5, h2 t ht]
  have h6 : ∀ n : ℕ, f (t + n * (c - s)) = f t := by
    intro n
    induction n with
    | zero => rw [Nat.cast_zero, zero_mul, add_zero]
    | succ n ih =>
      have h7 : t + (n + 1 : ℕ) * (c - s) = t + n * (c - s) + (c - s) := by
        push_cast
        ring
      rw [h7, h4 _ (add_nonneg ht (mul_nonneg n.cast_nonneg hd.le)), ih]
  -- the first multiple that carries `t` past `s`
  have hq : 0 < (s - t) / (c - s) := div_pos (sub_pos.mpr hts) hd
  have h8 := Nat.le_ceil ((s - t) / (c - s))
  have h9 := Nat.ceil_lt_add_one hq.le
  rw [div_le_iff₀ hd] at h8
  have h10 := mul_lt_mul_of_pos_right h9 hd
  rw [add_mul, one_mul, div_mul_cancel₀ _ hd.ne'] at h10
  rw [← h6 ⌈(s - t) / (c - s)⌉₊]
  apply h3
  · linarith
  · linarith

variable {α β : Type*}

/-- **Repeating with the wrong period.**  A timeline repeated with its own length, cut at `c`, shows
what its extension repeated with the period `c` shows, seen through `f`, exactly when the pieces
fill `c` or `f` does not tell the pieces from the last one. -/
theorem repeat_eq_extended_iff (f : α → β) {l : List (T × α)} (h : ∀ p ∈ l, 0 ≤ p.1)
    (hl : 0 < span l) {c : T} (hc : 0 < c) {last : T × α} (hlast : l.getLast? = some last) :
    (∀ t, 0 ≤ t → (activeAt l (phase 0 (min (span l) c) t)).map f
        = (extended l (phase 0 c t)).map f) ↔
      c ≤ span l ∨ ∀ p ∈ l, 0 < p.1 → f p.2 = f last.2 := by
  constructor
  · intro hall
    rcases le_or_gt c (span l) with hcl | hlc
    · exact Or.inl hcl
    right
    rw [min_eq_left hlc.le] at hall
    let g : T → Option β := fun t => (activeAt l (phase 0 (span l) t)).map f
    have hg : ∀ t, 0 ≤ t → g t = (extended l (phase 0 c t)).map f := hall
    rintro ⟨d, a⟩ hp hd
    obtain ⟨x, hx0, hxl, hxa⟩ := exists_point_of_mem h hp hd
    have hconst : g x = some (f last.2) := by
      apply const_of_two_periods hlc ?_ ?_ ?_ hx0 hxl
      · intro t _
        show (activeAt l (phase 0 (span l) (t + span l))).map f = _
        rw [phase_add_period hl]
      · intro t ht
        rw [hg _ (add_nonneg ht hc.le), phase_add_period hc, ← hg t ht]
      · intro t h1 h2
        rw [hg t (hl.le.trans h1), phase_of_lt (hl.le.trans h1) h2, extended_of_le h h1, hlast]
        rfl
    have hx : g x = some (f a) := by
      show (activeAt l (phase 0 (span l) x)).map f = _
      rw [phase_of_lt hx0 hxl, hxa]
      rfl
    rw [hx] at hconst
    exact Option.some.inj hconst
  · rintro (hcl | hall) t ht
    · rw [min_eq_right hcl, extended_of_lt (phase_nonneg hc) ((phase_lt hc).trans_le hcl)]
    · have hmin : 0 < min (span l) c := lt_min hl hc
      obtain ⟨a, ha⟩ := exists_activeAt
        ((phase_lt (b := 0) (t := t) hmin).trans_le (min_le_left _ _)) (phase_nonneg hmin)
      obtain ⟨d, hd, hpos⟩ := mem_of_activeAt (phase_nonneg hmin) ha
      rw [ha]
      show some (f a) = _
      rw [hall _ hd hpos]
      rcases lt_or_ge (phase 0 c t) (span l) with hlt | hge
      · obtain ⟨a', ha'⟩ := exists_activeAt hlt (phase_nonneg hc)
        obtain ⟨d', hd', hpos'⟩ := mem_of_activeAt (phase_nonneg hc) ha'
        rw [extended_of_lt (phase_nonneg hc) hlt, ha', ← hall _ hd' hpos']
        rfl
      · rw [extended_of_le h hge, hlast]
        rfl

end periods

end Lib
