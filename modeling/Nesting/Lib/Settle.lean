import Mathlib.Algebra.Order.Group.Basic
import Nesting.Lib.Run

/-!
# Runs that come closer to a goal

Some steps of a machine are its turns.  No step leads away from the goal, and every turn shortens the
distance to it by a fixed amount, or arrives.

* `turns`         the number of turns in a run;
* `run_settles`   **the distance after a run.**
-/

namespace Lib

variable {σ ε χ K : Type*} {step : σ → ε → Except χ σ} {O : σ → ε → Prop} {I : σ → Prop}

/-- the number of turns in the run from `s` over `es` -/
def turns (step : σ → ε → Except χ σ) (T : σ → ε → Bool) : σ → List ε → ℕ
  | _, [] => 0
  | s, e :: es =>
    (if T s e then 1 else 0) +
      match step s e with
      | .ok s' => turns step T s' es
      | .error _ => 0

variable {T : σ → ε → Bool}

@[simp] theorem turns_nil (s : σ) : turns step T s [] = 0 := rfl

theorem turns_cons {s s' : σ} {e : ε} (es : List ε) (h : step s e = .ok s') :
    turns step T s (e :: es) = (if T s e then 1 else 0) + turns step T s' es := by
  rw [turns, h]

/-- turns that depend on the event alone -/
theorem turns_eq_countP {T : ε → Bool} {s t : σ} {es : List ε} (h : run step s es = .ok t) :
    turns step (fun _ e => T e) s es = es.countP T := by
  induction es generalizing s with
  | nil => rfl
  | cons e es ih =>
    obtain ⟨s', hs', h⟩ := run_cons_ok.mp h
    rw [turns_cons _ hs', ih h, List.countP_cons, Nat.add_comm]

section distance

variable [AddCommGroup K] [LinearOrder K] [IsOrderedAddMonoid K] {dist : σ → K} {δ : K}

/-- a step of at least `δ`, and then `n` more -/
theorem max_sub_nsmul_le (hδ : 0 ≤ δ) {d d' : K} (h : d' ≤ max 0 (d - δ)) (n : ℕ) :
    max 0 (d' - n • δ) ≤ max 0 (d - (1 + n) • δ) := by
  have hn : 0 ≤ n • δ := nsmul_nonneg hδ n
  refine max_le (le_max_left _ _) ?_
  rw [add_nsmul, one_nsmul, ← sub_sub]
  obtain h | h := le_max_iff.mp h
  · exact le_max_of_le_left (sub_nonpos.mpr (h.trans hn))
  · exact le_max_of_le_right (sub_le_sub_right h _)

/-- **The distance after a run** is shorter by what its turns were worth, or the run has arrived. -/
theorem run_settles (hδ : 0 ≤ δ) (hi : ∀ s e s', I s → O s e → step s e = .ok s' → I s')
    (hstay : ∀ s e s', I s → O s e → step s e = .ok s' → T s e = false → dist s' ≤ dist s)
    (hturn : ∀ s e s', I s → O s e → step s e = .ok s' → T s e = true →
      dist s' ≤ max 0 (dist s - δ))
    {s t : σ} {es : List ε} (h0 : I s) (hm : Meets step O s es) (hr : run step s es = .ok t) :
    dist t ≤ max 0 (dist s - turns step T s es • δ) := by
  induction es generalizing s with
  | nil =>
    cases hr
    rw [turns_nil, zero_nsmul, sub_zero]
    exact le_max_right _ _
  | cons e es ih =>
    obtain ⟨s', hs', hr⟩ := run_cons_ok.mp hr
    have hrest := ih (hi s e s' h0 hm.1 hs') (hm.2 s' hs') hr
    rw [turns_cons _ hs']
    cases hT : T s e with
    | true => exact hrest.trans (max_sub_nsmul_le hδ (hturn s e s' h0 hm.1 hs' hT) _)
    | false =>
      refine hrest.trans (max_le_max_left 0 ?_)
      rw [if_neg Bool.false_ne_true, Nat.zero_add]
      exact sub_le_sub_right (hstay s e s' h0 hm.1 hs' hT) _

end distance

end Lib
