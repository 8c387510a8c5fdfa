import Mathlib.Algebra.Order.Floor.Semiring
import Mathlib.Algebra.Order.Floor.Ring
import Mathlib.Algebra.Order.Field.Basic
import Mathlib.Order.Bounds.Basic
import Mathlib.Tactic.Linarith

/-!
# The first point of a grid

The points `base + n * step` from a point `now` on, over a field with a floor.

* `isLeast_ceil`             with a positive step the first of them is found by rounding a quotient up;
* `isLeast_ceil_mod_iff`     a quotient that is cut off at a modulus finds it when it is below it;
* `isLeast_base_iff`         when the base is the first of them;
* `isLeast_ceil_mod_neg_iff` a negative step reaches `now` itself or is rounded to the wrong side;
* `RoundsQuotients.ceil_eq`  rounding up a quotient that is rounded to `p` bits.
-/

set_option linter.unusedVariables false
set_option linter.unusedSectionVars false

namespace Lib

variable {K : Type*} [Field K] [LinearOrder K] [IsStrictOrderedRing K]
variable {base step now : K}

/-- the points of the grid that are not before `now` -/
def gridFrom (base step now : K) : Set K := {t | now ≤ t ∧ ∃ n : ℕ, t = base + n * step}

theorem mem_gridFrom {n : ℕ} (h : now ≤ base + n * step) : base + n * step ∈ gridFrom base step now :=
  ⟨h, n, rfl⟩

theorem base_mem_gridFrom (h : now ≤ base) : base ∈ gridFrom base step now :=
  ⟨h, 0, by rw [Nat.cast_zero, zero_mul, add_zero]⟩

theorem isLeast_base_iff (h : now ≤ base) :
    IsLeast (gridFrom base step now) base ↔ 0 ≤ step ∨ base + step < now := by
  constructor
  · intro hl
    by_contra! hneg
    have hmem : base + (1 : ℕ) * step ∈ gridFrom base step now :=
      mem_gridFrom (by rw [Nat.cast_one, one_mul]; exact hneg.2)
    have hle := hl.2 hmem
    rw [Nat.cast_one, one_mul] at hle
    linarith
  · intro hs
    refine ⟨base_mem_gridFrom h, ?_⟩
    rintro t ⟨ht, n, rfl⟩
    obtain hs | hs := hs
    · have := mul_nonneg n.cast_nonneg hs
      linarith
    · -- the step is negative, and one step is already too far
      cases n with
      | zero => rw [Nat.cast_zero, zero_mul, add_zero]
      | succ n =>
        have hneg : step < 0 := by linarith
        have := mul_nonpos_of_nonneg_of_nonpos n.cast_nonneg hneg.le
        rw [Nat.cast_succ, add_mul, one_mul] at ht
        linarith

variable [FloorSemiring K]

theorem isLeast_ceil (h : 0 < step) :
    IsLeast (gridFrom base step now) (base + ⌈(now - base) / step⌉₊ * step) := by
  constructor
  · apply mem_gridFrom
    have := (div_le_iff₀ h).mp (Nat.le_ceil ((now - base) / step))
    linarith
  · rintro t ⟨ht, n, rfl⟩
    have hle : ⌈(now - base) / step⌉₊ ≤ n := by
      rw [Nat.ceil_le, div_le_iff₀ h]
      linarith
    have hcast : (⌈(now - base) / step⌉₊ : K) ≤ n := by exact_mod_cast hle
    have := mul_le_mul_of_nonneg_right hcast h.le
    linarith

theorem isLeast_ceil_mod_iff (h : 0 < step) {M : ℕ} (hM : 0 < M) :
    IsLeast (gridFrom base step now) (base + (⌈(now - base) / step⌉₊ % M : ℕ) * step) ↔
      now - base ≤ (M - 1 : ℕ) * step := by
  have hlt : now - base ≤ (M - 1 : ℕ) * step ↔ ⌈(now - base) / step⌉₊ < M := by
    rw [← div_le_iff₀ h, ← Nat.ceil_le]
    omega
  rw [hlt]
  constructor
  · intro hl
    have heq := hl.unique (isLeast_ceil h)
    have hmul : ((⌈(now - base) / step⌉₊ % M : ℕ) : K) * step = ⌈(now - base) / step⌉₊ * step :=
      add_left_cancel heq
    have hmod : ⌈(now - base) / step⌉₊ % M = ⌈(now - base) / step⌉₊ := by
      exact_mod_cast mul_right_cancel₀ (ne_of_gt h) hmul
    rw [← hmod]
    exact Nat.mod_lt _ hM
  · intro hn
    rw [Nat.mod_eq_of_lt hn]
    exact isLeast_ceil h

theorem isLeast_ceil_mod_neg_iff (h : step < 0) {M : ℕ} (hM : 1 < M) :
    IsLeast (gridFrom base step now) (base + (⌈(now - base) / step⌉₊ % M : ℕ) * step) ↔
      ∃ n < M, base + (n : ℕ) * step = now := by
  constructor
  · intro hl
    generalize hn : ⌈(now - base) / step⌉₊ = n at hl
    -- the rounded point is not after `now`, the one before it is
    have hle : base + n * step ≤ now := by
      have hceil := Nat.le_ceil ((now - base) / step)
      rw [hn] at hceil
      have := (div_le_iff_of_neg h).mp hceil
      linarith
    have hmod : n % M ≤ n := Nat.mod_le n M
    by_cases hlt : n < M
    · refine ⟨n, hlt, le_antisymm hle ?_⟩
      have := hl.1.1
      rwa [Nat.mod_eq_of_lt hlt] at this
    · exfalso
      have hprev : now ≤ base + (n - 1 : ℕ) * step := by
        have hlt' : ((n - 1 : ℕ) : K) < (now - base) / step := by
          apply Nat.lt_ceil.mp
          omega
        have := (lt_div_iff_of_neg h).mp hlt'
        linarith
      have hmin := hl.2 (mem_gridFrom hprev)
      have hmul : ((n % M : ℕ) : K) * step ≤ (n - 1 : ℕ) * step := by linarith
      have hcast : ((n - 1 : ℕ) : K) ≤ (n % M : ℕ) := (mul_le_mul_right_of_neg h).mp hmul
      have hge : n - 1 ≤ n % M := by exact_mod_cast hcast
      have hmodlt := Nat.mod_lt n (lt_trans one_pos hM)
      -- so the remainder would be `n - 1` and the modulus `n`
      have hnM : n = M := by omega
      rw [hnM, Nat.mod_self] at hge
      omega
  · rintro ⟨n, hn, hnow⟩
    have hq : (now - base) / step = n := by
      rw [← hnow, add_sub_cancel_left, mul_div_cancel_right₀ _ (ne_of_lt h)]
    rw [hq, Nat.ceil_natCast, Nat.mod_eq_of_lt hn, hnow]
    exact ⟨⟨le_rfl, n, hnow.symm⟩, fun t ht => ht.1⟩

/-! ## a quotient that is rounded -/

/-- quotients of integers below `2 ^ p` are rounded: one that is an integer is kept, and none is off
by more than its `2 ^ p`th part -/
structure RoundsQuotients (p : ℕ) (round : K → K) : Prop where
  integer (n : ℤ) : |n| < 2 ^ p → round n = n
  near (i j : ℤ) : |i| < 2 ^ p → |j| < 2 ^ p →
    |round (i / j) - i / j| ≤ |(i / j : K)| / 2 ^ p

section rounded
variable [FloorRing K] {p : ℕ} {round : K → K} {i j : ℤ}

/-- a quotient that is not an integer is at least one part of its divisor away from each integer -/
theorem one_le_mul_abs_sub (hj : j ≠ 0) {n : ℤ} (h : (i / j : K) ≠ n) :
    1 ≤ |(j : K)| * |(n : K) - i / j| := by
  have hj' : (j : K) ≠ 0 := Int.cast_ne_zero.mpr hj
  have e : (j : K) * (n - i / j) = (j * n - i : ℤ) := by
    push_cast
    field_simp
  have hne : j * n - i ≠ 0 := by
    intro h0
    apply h
    rw [div_eq_iff hj']
    have : i = n * j := by linarith
    rw [this, Int.cast_mul]
  rw [← abs_mul, e, ← Int.cast_abs]
  exact_mod_cast Int.one_le_abs hne

/-- **Rounding up a rounded quotient** gives what rounding up the exact one gives. -/
theorem RoundsQuotients.ceil_eq (h : RoundsQuotients p round) (hi : |i| < 2 ^ p) (hj : |j| < 2 ^ p)
    (h0 : j ≠ 0) : ⌈round (i / j)⌉ = ⌈(i / j : K)⌉ := by
  have habs : (0 : K) < |(j : K)| := abs_pos.mpr (Int.cast_ne_zero.mpr h0)
  -- the error is less than the distance to each other integer
  have herr : |(j : K)| * |round (i / j) - i / j| < 1 := by
    have hi' : |(i : K)| < 2 ^ p := by exact_mod_cast (Int.cast_lt (R := K)).mpr hi
    calc |(j : K)| * |round (i / j) - i / j| ≤ |(j : K)| * (|(i / j : K)| / 2 ^ p) :=
          mul_le_mul_of_nonneg_left (h.near i j hi hj) habs.le
      _ = |(i : K)| / 2 ^ p := by rw [abs_div]; field_simp
      _ < 1 := (div_lt_one (by positivity)).mpr hi'
  have hfar : ∀ n : ℤ, (i / j : K) ≠ n → |round (i / j) - i / j| < |(n : K) - i / j| := fun n hn =>
    lt_of_mul_lt_mul_left (herr.trans_le (one_le_mul_abs_sub h0 hn)) habs.le
  by_cases hint : ∃ n : ℤ, (i / j : K) = n
  · obtain ⟨n, hn⟩ := hint
    have hmul : i = n * j := by
      have := (div_eq_iff (Int.cast_ne_zero.mpr h0)).mp hn
      exact_mod_cast this
    have hle : |n| ≤ |i| := by
      rw [hmul, abs_mul]
      exact le_mul_of_one_le_right (abs_nonneg n) (Int.one_le_abs h0)
    rw [hn, h.integer n (hle.trans_lt hi)]
  · have hne : ∀ n : ℤ, (i / j : K) ≠ n := fun n hn => hint ⟨n, hn⟩
    rw [Int.ceil_eq_iff]
    have hup := lt_of_le_of_ne (Int.le_ceil (i / j : K)) (hne _)
    have hlow := Int.ceil_lt_add_one (i / j : K)
    have h1 := hfar ⌈(i / j : K)⌉ (hne _)
    have h2 := hfar (⌈(i / j : K)⌉ - 1) (hne _)
    push_cast at h2
    rw [abs_of_pos (sub_pos.mpr hup), abs_lt] at h1
    rw [abs_of_neg (by linarith : ((⌈(i / j : K)⌉ : ℤ) : K) - 1 - i / j < 0), abs_lt] at h2
    constructor <;> linarith

end rounded
end Lib
