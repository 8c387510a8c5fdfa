import Mathlib.Data.List.Basic

/-!
# Runs of a fallible step function

A machine is a step function `step : σ → ε → Except χ σ`; `run step s es` feeds it the events
`es` one after another and stops at the first error.

* `Meets step O s es`   every step of the run is taken in a state and with an event that
                         satisfy `O`;
* `run_invariant`        what every step preserves, every run preserves;
* `run_invariant_of`     the same when the steps preserve it only under `O`;
* `meets_iff_of`, `meets_iff_of_run`  conditions that agree step by step agree on runs;
* `run_error_of`         errors that no step makes end no run;
* `run_iff_meets`        what is kept exactly under a condition;
* `forall_prefix_iff_meets`  the same for every state on the way;
* `run_until`            what every step keeps or ends is kept, or has ended on the way;
* `run_perm`             events that commute may come in any order;
* `run_erase`            events that leave the state alone can be taken out of a run.
-/

namespace Lib

variable {σ ε χ : Type*}

/-- feeds the events to the step function, stopping at the first error -/
def run (step : σ → ε → Except χ σ) : σ → List ε → Except χ σ
  | s, [] => .ok s
  | s, e :: es =>
    match step s e with
    | .ok s' => run step s' es
    | .error x => .error x

/-- every step of the run from `s` over `es` satisfies `O` -/
def Meets (step : σ → ε → Except χ σ) (O : σ → ε → Prop) : σ → List ε → Prop
  | _, [] => True
  | s, e :: es => O s e ∧ ∀ s', step s e = .ok s' → Meets step O s' es

variable {step : σ → ε → Except χ σ} {O : σ → ε → Prop}

theorem meets_cons_iff {s : σ} {e : ε} {es : List ε} : Meets step O s (e :: es) ↔ O s e ∧
    match step s e with
    | .ok s' => Meets step O s' es
    | .error _ => True := by
  refine and_congr_right fun _ => ?_
  cases step s e with
  | ok s' => exact ⟨fun h => h s' rfl, fun h t ht => (Except.ok.inj ht) ▸ h⟩
  | error x => exact ⟨fun _ => trivial, fun _ t ht => (by cases ht)⟩

instance decidableMeets [∀ s e, Decidable (O s e)] :
    ∀ (s : σ) (es : List ε), Decidable (Meets step O s es)
  | _, [] => isTrue trivial
  | s, e :: es =>
    have : Decidable (match step s e with
        | .ok s' => Meets step O s' es
        | .error _ => True) :=
      match step s e with
      | .ok s' => decidableMeets s' es
      | .error _ => isTrue trivial
    decidable_of_iff _ meets_cons_iff.symm

@[simp] theorem run_nil (s : σ) : run step s [] = .ok s := rfl

theorem run_cons (s : σ) (e : ε) (es : List ε) :
    run step s (e :: es) = (step s e).bind fun s' => run step s' es := by
  rw [run]
  cases step s e <;> rfl

/-- a run that succeeds takes a successful first step -/
theorem run_cons_ok {s t : σ} {e : ε} {es : List ε} :
    run step s (e :: es) = .ok t ↔ ∃ s', step s e = .ok s' ∧ run step s' es = .ok t := by
  rw [run]
  cases h : step s e with
  | ok s' => simp
  | error x => simp

theorem run_append (s : σ) (es fs : List ε) :
    run step s (es ++ fs) = (run step s es).bind fun s' => run step s' fs := by
  induction es generalizing s with
  | nil => rfl
  | cons e es ih =>
    rw [List.cons_append, run_cons, run_cons]
    cases step s e with
    | ok s' => exact ih s'
    | error x => rfl

theorem run_append_ok {s t : σ} {es fs : List ε} :
    run step s (es ++ fs) = .ok t ↔ ∃ s', run step s es = .ok s' ∧ run step s' fs = .ok t := by
  rw [run_append]
  cases run step s es with
  | ok s' => simp [Except.bind]
  | error x => simp [Except.bind]

theorem run_snoc_ok {s t : σ} {e : ε} {es : List ε} :
    run step s (es ++ [e]) = .ok t ↔ ∃ s', run step s es = .ok s' ∧ step s' e = .ok t := by
  rw [run_append_ok]
  constructor
  · rintro ⟨s', h1, h2⟩
    obtain ⟨t', h3, h4⟩ := run_cons_ok.mp h2
    cases h4
    exact ⟨s', h1, h3⟩
  · rintro ⟨s', h1, h2⟩
    exact ⟨s', h1, run_cons_ok.mpr ⟨t, h2, rfl⟩⟩

theorem meets_append {s : σ} {es fs : List ε} :
    Meets step O s (es ++ fs) ↔
      Meets step O s es ∧ ∀ s', run step s es = .ok s' → Meets step O s' fs := by
  induction es generalizing s with
  | nil => simp [Meets]
  | cons e es ih =>
    simp only [List.cons_append, Meets, run_cons_ok]
    constructor
    · rintro ⟨h1, h2⟩
      refine ⟨⟨h1, fun s' hs' => (ih.mp (h2 s' hs')).1⟩, ?_⟩
      rintro t ⟨s', hs', ht⟩
      exact (ih.mp (h2 s' hs')).2 t ht
    · rintro ⟨⟨h1, h2⟩, h3⟩
      exact ⟨h1, fun s' hs' => ih.mpr ⟨h2 s' hs', fun t ht => h3 t ⟨s', hs', ht⟩⟩⟩

/-- a condition that is weaker at every step is met by at least the same runs -/
theorem Meets.mono {O' : σ → ε → Prop} (h : ∀ s e, O s e → O' s e) {s : σ} {es : List ε}
    (hm : Meets step O s es) : Meets step O' s es := by
  induction es generalizing s with
  | nil => trivial
  | cons e es ih => exact ⟨h s e hm.1, fun s' hs' => ih (hm.2 s' hs')⟩

theorem Meets.and {P Q : σ → ε → Prop} {s : σ} {es : List ε} (hp : Meets step P s es)
    (hq : Meets step Q s es) : Meets step (fun s e => P s e ∧ Q s e) s es := by
  induction es generalizing s with
  | nil => trivial
  | cons e es ih =>
    exact ⟨⟨hp.1, hq.1⟩, fun s' hs' => ih (hp.2 s' hs') (hq.2 s' hs')⟩

/-- the condition `True` is met by every run -/
theorem meets_true (s : σ) (es : List ε) : Meets step (fun _ _ => True) s es := by
  induction es generalizing s with
  | nil => trivial
  | cons e es ih => exact ⟨trivial, fun s' _ => ih s'⟩

/-- a condition on the events alone -/
theorem meets_of_forall {P : ε → Prop} {es : List ε} (h : ∀ e ∈ es, P e) (s : σ) :
    Meets step (fun _ e => P e) s es := by
  induction es generalizing s with
  | nil => trivial
  | cons e es ih =>
    obtain ⟨he, hes⟩ := List.forall_mem_cons.mp h
    exact ⟨he, fun s' _ => ih hes s'⟩

section invariants
variable {I : σ → Prop}

/-- **Conditional run rule**: what the steps that meet `O` preserve holds at the end of every
run whose steps all meet `O`. -/
theorem run_invariant_of (h : ∀ s e s', I s → O s e → step s e = .ok s' → I s')
    {s t : σ} {es : List ε} (h0 : I s) (hm : Meets step O s es) (hr : run step s es = .ok t) :
    I t := by
  induction es generalizing s with
  | nil => cases hr; exact h0
  | cons e es ih =>
    obtain ⟨s', h1, h2⟩ := run_cons_ok.mp hr
    exact ih (h s e s' h0 hm.1 h1) (hm.2 s' h1) h2

/-- what an invariant and one condition imply is met at every step -/
theorem Meets.of_invariant {Q : σ → ε → Prop}
    (hi : ∀ s e s', I s → O s e → step s e = .ok s' → I s') (hq : ∀ s e, I s → O s e → Q s e)
    {s : σ} {es : List ε} (h0 : I s) (hm : Meets step O s es) : Meets step Q s es := by
  induction es generalizing s with
  | nil => trivial
  | cons e es ih =>
    exact ⟨hq s e h0 hm.1, fun s' hs' => ih (hi s e s' h0 hm.1 hs') (hm.2 s' hs')⟩

/-- **Run rule**: what every step preserves holds at the end of every run. -/
theorem run_invariant (h : ∀ s e s', I s → step s e = .ok s' → I s')
    {s t : σ} {es : List ε} (h0 : I s) (hr : run step s es = .ok t) : I t :=
  run_invariant_of (fun s e s' hs (_ : True) => h s e s' hs) h0 (meets_true s es) hr

/-- **Safe runs**: an error that no step from a state with the invariant makes ends no run. -/
theorem run_error_of {E : χ → Prop} (hi : ∀ s e s', I s → O s e → step s e = .ok s' → I s')
    (hE : ∀ s e x, I s → O s e → step s e = .error x → ¬E x) {s : σ} {es : List ε} {x : χ}
    (h0 : I s) (hm : Meets step O s es) (hr : run step s es = .error x) : ¬E x := by
  induction es generalizing s with
  | nil => cases hr
  | cons e es ih =>
    rw [run_cons] at hr
    cases hs : step s e with
    | ok s' =>
      rw [hs] at hr
      exact ih (hi s e s' h0 hm.1 hs) (hm.2 s' hs) hr
    | error y =>
      rw [hs] at hr
      cases hr
      exact hE s e x h0 hm.1 hs

/-- **Total runs**: if every event of a kind succeeds in the states with an invariant and keeps it,
every run of such events succeeds. -/
theorem run_total {P : ε → Prop} (h : ∀ s e, I s → P e → ∃ s', step s e = .ok s' ∧ I s')
    {s : σ} {es : List ε} (h0 : I s) (hp : ∀ e ∈ es, P e) :
    ∃ t, run step s es = .ok t ∧ I t := by
  induction es generalizing s with
  | nil => exact ⟨s, rfl, h0⟩
  | cons e es ih =>
    obtain ⟨he, hes⟩ := List.forall_mem_cons.mp hp
    obtain ⟨s', h1, h2⟩ := h s e h0 he
    obtain ⟨t, h3, h4⟩ := ih h2 hes
    exact ⟨t, run_cons_ok.mpr ⟨s', h1, h3⟩, h4⟩

/-- **Exchanging conditions**: conditions that agree in the states with an invariant, which the
steps under one of them preserve, are met by the same runs. -/
theorem meets_iff_of {P Q : σ → ε → Prop} (h : ∀ s e, I s → (P s e ↔ Q s e))
    (hi : ∀ s e s', I s → Q s e → step s e = .ok s' → I s') {s : σ} {es : List ε}
    (h0 : I s) : Meets step P s es ↔ Meets step Q s es := by
  induction es generalizing s with
  | nil => exact Iff.rfl
  | cons e es ih =>
    rw [Meets, Meets, h s e h0]
    exact and_congr_right fun hq => forall_congr' fun s' => imp_congr_right fun hs' =>
      ih (hi s e s' h0 hq hs')

/-- the same in a run that succeeds -/
theorem meets_iff_of_run {P Q : σ → ε → Prop}
    (hi : ∀ s e s', I s → step s e = .ok s' → I s')
    (h : ∀ s e s', I s → step s e = .ok s' → (P s e ↔ Q s e))
    {s t : σ} {es : List ε} (h0 : I s) (hr : run step s es = .ok t) :
    Meets step P s es ↔ Meets step Q s es := by
  induction es generalizing s with
  | nil => exact Iff.rfl
  | cons e es ih =>
    obtain ⟨s', h1, h2⟩ := run_cons_ok.mp hr
    have ih' := ih (hi s e s' h0 h1) h2
    have only : ∀ R : σ → ε → Prop, Meets step R s (e :: es) ↔ R s e ∧ Meets step R s' es := by
      intro R
      refine and_congr_right fun _ => ⟨fun hall => hall s' h1, fun hm u hu => ?_⟩
      rw [h1] at hu
      cases hu
      exact hm
    rw [only P, only Q, h s e s' h0 h1, ih']

/-- **Conditions step by step**: if every step keeps `P` exactly under `O`, a run keeps it exactly when
all its steps are taken under `O`. -/
theorem run_iff_meets {P : σ → Prop} (hi : ∀ s e s', I s → step s e = .ok s' → I s')
    (h : ∀ s e s', I s → step s e = .ok s' → (P s' ↔ P s ∧ O s e)) {s t : σ} {es : List ε}
    (h0 : I s) (hr : run step s es = .ok t) : P t ↔ P s ∧ Meets step O s es := by
  induction es generalizing s with
  | nil =>
    cases hr
    exact (and_iff_left trivial).symm
  | cons e es ih =>
    obtain ⟨s', h1, h2⟩ := run_cons_ok.mp hr
    rw [ih (hi s e s' h0 h1) h2, h s e s' h0 h1, and_assoc, meets_cons_iff, h1]

/-- **States along a run**: if a step from a state with `P` can only lead to such states exactly under
`O`, every state that a run reaches has `P` exactly when all its steps are taken under `O`. -/
theorem forall_prefix_iff_meets {P : σ → Prop} {Q : ε → Prop}
    (hi : ∀ s e s', I s → Q e → step s e = .ok s' → I s')
    (h : ∀ s e, I s → P s → Q e → ((∀ s', step s e = .ok s' → P s') ↔ O s e))
    {s : σ} {es : List ε} (hs : I s) (h0 : P s) (hq : ∀ e ∈ es, Q e) :
    (∀ pre t, pre <+: es → run step s pre = .ok t → P t) ↔ Meets step O s es := by
  induction es generalizing s with
  | nil =>
    refine iff_of_true (fun pre t hpre ht => ?_) trivial
    rw [List.prefix_nil.mp hpre] at ht
    cases ht
    exact h0
  | cons e es ih =>
    obtain ⟨he, hes⟩ := List.forall_mem_cons.mp hq
    constructor
    · intro hall
      have hstep : ∀ s', step s e = .ok s' → P s' := fun s' hs' =>
        hall [e] s' (List.prefix_append [e] es) (run_cons_ok.mpr ⟨s', hs', rfl⟩)
      refine ⟨(h s e hs h0 he).mp hstep, fun s' hs' => ?_⟩
      refine (ih (hi s e s' hs he hs') (hstep s' hs') hes).mp ?_
      intro pre t hpre ht
      exact hall (e :: pre) t (List.cons_prefix_cons.mpr ⟨rfl, hpre⟩)
        (run_cons_ok.mpr ⟨s', hs', ht⟩)
    · rintro ⟨ho, hrest⟩ pre t hpre ht
      cases pre with
      | nil =>
        cases ht
        exact h0
      | cons e' pre =>
        obtain ⟨rfl, htail⟩ := List.cons_prefix_cons.mp hpre
        obtain ⟨s', hs', ht⟩ := run_cons_ok.mp ht
        exact (ih (hi s e' s' hs he hs') ((h s e' hs h0 he).mpr ho s' hs') hes).mpr
          (hrest s' hs') pre t htail ht

/-- **Runs until**: if every step under `O` keeps `I` or leads to `F`, a run of such steps keeps `I` or has
come to `F` on the way. -/
theorem run_until {F : σ → Prop} (h : ∀ s e s', I s → O s e → step s e = .ok s' → I s' ∨ F s')
    {s t : σ} {es : List ε} (h0 : I s ∨ F s) (hm : Meets step O s es) (hr : run step s es = .ok t) :
    I t ∨ ∃ pre u, pre <+: es ∧ run step s pre = .ok u ∧ F u := by
  induction es generalizing s with
  | nil =>
    cases hr
    exact h0.imp_right fun hf => ⟨[], _, List.nil_prefix, rfl, hf⟩
  | cons e es ih =>
    obtain hs | hf := h0
    · obtain ⟨s', h1, h2⟩ := run_cons_ok.mp hr
      refine (ih (h s e s' hs hm.1 h1) (hm.2 s' h1) h2).imp_right ?_
      rintro ⟨pre, u, hpre, hu, hf⟩
      exact ⟨e :: pre, u, List.cons_prefix_cons.mpr ⟨rfl, hpre⟩, run_cons_ok.mpr ⟨s', h1, hu⟩, hf⟩
    · exact .inr ⟨[], s, List.nil_prefix, rfl, hf⟩

/-- a run on the way meets the conditions of the whole run -/
theorem Meets.of_prefix {s : σ} {pre es : List ε} (h : pre <+: es) (hm : Meets step O s es) :
    Meets step O s pre := by
  obtain ⟨rest, rfl⟩ := h
  exact (meets_append.mp hm).1

end invariants

/-- **Order of commuting events**: if any two events can be exchanged in every state with an
invariant that all steps preserve, a run depends on its events only up to their order. -/
theorem run_perm {I : σ → Prop} (hi : ∀ s e s', I s → step s e = .ok s' → I s')
    (hc : ∀ s e f, I s → run step s [e, f] = run step s [f, e]) {es fs : List ε}
    (hp : es.Perm fs) {s : σ} (h0 : I s) : run step s es = run step s fs := by
  induction hp generalizing s with
  | nil => rfl
  | cons e _ ih =>
    rw [run_cons, run_cons]
    cases h : step s e with
    | ok s' => exact ih (hi s e s' h0 h)
    | error x => rfl
  | swap e f es =>
    rw [show f :: e :: es = [f, e] ++ es from rfl, show e :: f :: es = [e, f] ++ es from rfl,
      run_append, run_append, hc s f e h0]
  | trans _ _ ih1 ih2 => rw [ih1 h0, ih2 h0]

/-- **Erasing silent events**: if the events marked by `silent` leave the state alone whenever
they are taken under `O`, a run that meets `O` ends in the same state without them. -/
theorem run_erase (silent : ε → Bool)
    (h : ∀ s e s', silent e = true → O s e → step s e = .ok s' → s' = s)
    {s t : σ} {es : List ε} (hm : Meets step O s es) (hr : run step s es = .ok t) :
    run step s (es.filter fun e => !silent e) = .ok t := by
  induction es generalizing s with
  | nil => exact hr
  | cons e es ih =>
    obtain ⟨s', h1, h2⟩ := run_cons_ok.mp hr
    have ih' := ih (hm.2 s' h1) h2
    cases hs : silent e with
    | true =>
      rw [h s e s' hs hm.1 h1] at ih'
      rw [List.filter_cons_of_neg (by simp [hs])]
      exact ih'
    | false =>
      rw [List.filter_cons_of_pos (by simp [hs])]
      exact run_cons_ok.mpr ⟨s', h1, ih'⟩

end Lib
