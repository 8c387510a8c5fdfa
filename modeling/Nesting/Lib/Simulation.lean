import Nesting.Lib.Run

/-!
# One machine driven by another

A step of one machine is some steps of another one, or none.

* `projected`       the events that the second machine sees in a run of the first;
* `run_projected`   **a run of the first is a run of the second** over these events.
-/

namespace Lib

variable {σ τ ε φ χ ψ : Type*} {step : σ → ε → Except χ σ} {step' : τ → φ → Except ψ τ}
  {proj : σ → ε → List φ}

/-- the events that a run from `s` over `es` makes of its own -/
def projected (step : σ → ε → Except χ σ) (proj : σ → ε → List φ) : σ → List ε → List φ
  | _, [] => []
  | s, e :: es =>
    proj s e ++
      match step s e with
      | .ok s' => projected step proj s' es
      | .error _ => []

@[simp] theorem projected_nil (s : σ) : projected step proj s [] = [] := rfl

theorem projected_cons {s s' : σ} {e : ε} (es : List ε) (h : step s e = .ok s') :
    projected step proj s (e :: es) = proj s e ++ projected step proj s' es := by
  rw [projected, h]

/-- **Simulation**: if related states stay related when the second machine takes its part of a step, they
do so over a run. -/
theorem run_projected {R : σ → τ → Prop} {O : σ → ε → Prop}
    (h : ∀ s a e s', R s a → O s e → step s e = .ok s' → ∃ a', run step' a (proj s e) = .ok a' ∧ R s' a')
    {s t : σ} {a : τ} {es : List ε} (hR : R s a) (hm : Meets step O s es)
    (hr : run step s es = .ok t) :
    ∃ b, run step' a (projected step proj s es) = .ok b ∧ R t b := by
  induction es generalizing s a with
  | nil =>
    cases hr
    exact ⟨a, rfl, hR⟩
  | cons e es ih =>
    obtain ⟨s', hs', hr⟩ := run_cons_ok.mp hr
    obtain ⟨a', ha', hR'⟩ := h s a e s' hR hm.1 hs'
    obtain ⟨b, hb, hRb⟩ := ih hR' (hm.2 s' hs') hr
    rw [projected_cons _ hs']
    exact ⟨b, run_append_ok.mpr ⟨a', ha', hb⟩, hRb⟩

end Lib
