import Nesting.Lib.Mailbox

/-!
# Items that pass from stage to stage through a mailbox

Some messages of a mailbox carry an item at one of the stages `0, …, k`.  The first message is handled,
and an item it carries is posted again one stage further on, behind all other messages.

* `carried stage j l`    the items at stage `j`, in the order of their messages;
* `pipeline stage k l`   all items at the stages up to `k`, those at later stages first;
* `pipeline_enter`, `pipeline_pass`, `pipeline_leave`   an item enters behind the others, keeps its
                         place, and leaves from the front;
* `pipeline_post`        other messages do not matter.
-/

set_option linter.unusedVariables false

namespace Lib

variable {μ β : Type*} {stage : μ → Option (ℕ × β)} {j k : ℕ} {m m' : μ} {x : β} {l : List μ}

/-- the item of a message at stage `j` -/
def itemAt (stage : μ → Option (ℕ × β)) (j : ℕ) (m : μ) : Option β :=
  match stage m with
  | some (i, x) => if i = j then some x else none
  | none => none

def carried (stage : μ → Option (ℕ × β)) (j : ℕ) (l : List μ) : List β := l.filterMap (itemAt stage j)

/-- the items in the order in which they have entered -/
def pipeline (stage : μ → Option (ℕ × β)) : ℕ → List μ → List β
  | 0, l => carried stage 0 l
  | k + 1, l => carried stage (k + 1) l ++ pipeline stage k l

theorem itemAt_self (h : stage m = some (j, x)) : itemAt stage j m = some x := by
  simp [itemAt, h]

theorem itemAt_other {i : ℕ} (h : stage m = some (i, x)) (hij : i ≠ j) : itemAt stage j m = none := by
  simp [itemAt, h, hij]

theorem itemAt_none (h : stage m = none) : itemAt stage j m = none := by
  simp [itemAt, h]

theorem carried_append (l₁ l₂ : List μ) :
    carried stage j (l₁ ++ l₂) = carried stage j l₁ ++ carried stage j l₂ := List.filterMap_append

theorem carried_cons (h : itemAt stage j m = some x) :
    carried stage j (m :: l) = x :: carried stage j l := List.filterMap_cons_some h

theorem carried_cons_none (h : itemAt stage j m = none) :
    carried stage j (m :: l) = carried stage j l := List.filterMap_cons_none h

theorem carried_snoc (h : itemAt stage j m = some x) :
    carried stage j (l ++ [m]) = carried stage j l ++ [x] := by
  rw [carried_append, carried_cons h]
  rfl

theorem carried_snoc_none (h : itemAt stage j m = none) :
    carried stage j (l ++ [m]) = carried stage j l := by
  rw [carried_append, carried_cons_none h]
  exact List.append_nil _

/-- a message that carries nothing at these stages -/
theorem pipeline_cons_none (h : ∀ j ≤ k, itemAt stage j m = none) :
    pipeline stage k (m :: l) = pipeline stage k l := by
  induction k with
  | zero => exact carried_cons_none (h 0 (Nat.le_refl 0))
  | succ k ih =>
    rw [pipeline, carried_cons_none (h (k + 1) (Nat.le_refl _)), ih fun j hj => h j (by omega)]
    rfl

theorem pipeline_snoc_none (h : ∀ j ≤ k, itemAt stage j m = none) :
    pipeline stage k (l ++ [m]) = pipeline stage k l := by
  induction k with
  | zero => exact carried_snoc_none (h 0 (Nat.le_refl 0))
  | succ k ih =>
    rw [pipeline, carried_snoc_none (h (k + 1) (Nat.le_refl _)), ih fun j hj => h j (by omega)]
    rfl

/-- an item enters behind all others -/
theorem pipeline_enter (k : ℕ) (h : stage m = some (0, x)) :
    pipeline stage k (l ++ [m]) = pipeline stage k l ++ [x] := by
  induction k with
  | zero => exact carried_snoc (itemAt_self h)
  | succ k ih =>
    rw [pipeline, carried_snoc_none (itemAt_other h (by omega)), ih, ← List.append_assoc]
    rfl

/-- the item at the last stage whose message is the next leaves first -/
theorem pipeline_leave (h : stage m = some (k, x)) :
    pipeline stage k (m :: l) = x :: pipeline stage k l := by
  cases k with
  | zero => exact carried_cons (itemAt_self h)
  | succ k =>
    rw [pipeline, carried_cons (itemAt_self h),
      pipeline_cons_none fun j hj => itemAt_other h (by omega)]
    rfl

/-- an item that is posted one stage further on keeps its place among the items -/
theorem pipeline_pass (h : stage m = some (j, x)) (h' : stage m' = some (j + 1, x)) (hj : j < k) :
    pipeline stage k (l ++ [m']) = pipeline stage k (m :: l) := by
  induction k with
  | zero => omega
  | succ k ih =>
    rw [pipeline, pipeline, carried_cons_none (itemAt_other h (by omega))]
    obtain hlt | rfl : j < k ∨ j = k := by omega
    · rw [carried_snoc_none (itemAt_other h' (by omega)), ih hlt]
    · -- the item passes the line between the two parts
      rw [carried_snoc (itemAt_self h'), pipeline_snoc_none fun i hi => itemAt_other h' (by omega),
        pipeline_leave h, List.append_assoc]
      rfl

/-- messages without an item may be posted and cancelled -/
theorem pipeline_post [DecidableEq μ] (k : ℕ) (h : stage m = none) :
    pipeline stage k (post m l) = pipeline stage k l := by
  have hfilter : ∀ j, carried stage j (l.filter fun x => x ≠ m) = carried stage j l := by
    intro j
    induction l with
    | nil => rfl
    | cons a l ih =>
      by_cases ha : a = m
      · subst ha
        rw [List.filter_cons_of_neg (by simp), ih, carried_cons_none (itemAt_none h)]
      · rw [List.filter_cons_of_pos (by simpa using ha)]
        unfold carried at ih ⊢
        rw [List.filterMap_cons, List.filterMap_cons, ih]
  rw [post, pipeline_snoc_none fun j _ => itemAt_none h]
  induction k with
  | zero => exact hfilter 0
  | succ k ih => rw [pipeline, pipeline, hfilter, ih]

end Lib
