import Mathlib.Data.List.Basic
import Mathlib.Data.List.Induction

/-!
# Chronicles

Records of a run in the order in which they were made, the last one at the end.

* `latest f h`     the value of the last record that has one under `f`;
* `Each P h`       every record stands in the relation `P` to those before it.
-/

set_option linter.unusedVariables false

namespace Lib

variable {ρ β : Type*}

def latest (f : ρ → Option β) (h : List ρ) : Option β := h.foldl (fun b r => (f r).or b) none

variable {f : ρ → Option β} {h : List ρ} {r : ρ}

theorem latest_snoc : latest f (h ++ [r]) = (f r).or (latest f h) := by
  rw [latest, List.foldl_append]
  rfl

theorem latest_snoc_none (hr : f r = none) : latest f (h ++ [r]) = latest f h := by
  rw [latest_snoc, hr, Option.none_or]

theorem latest_snoc_some {b : β} (hr : f r = some b) : latest f (h ++ [r]) = some b := by
  rw [latest_snoc, hr, Option.some_or]

/-- the last record is one of the records -/
theorem exists_of_latest {b : β} (hb : latest f h = some b) : ∃ r ∈ h, f r = some b := by
  induction h using List.reverseRecOn with
  | nil => cases hb
  | append_singleton h r ih =>
    cases hr : f r with
    | some c =>
      rw [latest_snoc_some hr] at hb
      exact ⟨r, by simp, hr.trans hb⟩
    | none =>
      rw [latest_snoc_none hr] at hb
      obtain ⟨x, hx, hfx⟩ := ih hb
      exact ⟨x, List.mem_append_left _ hx, hfx⟩

def Each (P : List ρ → ρ → Prop) (h : List ρ) : Prop := ∀ p r q, h = p ++ r :: q → P p r

variable {P : List ρ → ρ → Prop}

theorem each_nil : Each P [] := by
  intro p r q hp
  simp at hp

theorem each_snoc : Each P (h ++ [r]) ↔ Each P h ∧ P h r := by
  constructor
  · intro he
    exact ⟨fun p x q hp => he p x (q ++ [r]) (by rw [hp]; simp), he h r [] rfl⟩
  · rintro ⟨he, hr⟩ p x q hp
    obtain rfl | ⟨q', y, rfl⟩ := List.eq_nil_or_concat' q
    · obtain ⟨rfl, hx⟩ := List.append_inj' hp rfl
      cases hx
      exact hr
    · rw [show p ++ x :: (q' ++ [y]) = (p ++ x :: q') ++ [y] by simp] at hp
      exact he p x q' (List.append_inj' hp rfl).1

end Lib
