import Mathlib.Data.List.Induction
import Mathlib.Algebra.BigOperators.Group.List.Basic

/-!
# Reassembling frames from their fragments

A frame of type `α` has a size and travels in fragments, pairs of a frame and a number of bytes.
A receiver that sees the fragments in order holds at most one incomplete frame.

* `Assembly.add`   takes a fragment in, unless it is out of place;
* `collect`        what becomes of a list of fragments;
* `add_first`, `add_part`, `add_last`   the ways in which a fragment fits.
-/

namespace Lib

variable {α : Type*}

/-- the complete frames in the order of completion, and the incomplete one with its bytes so far -/
structure Assembly (α : Type*) where
  done : List α
  partially : Option (α × ℕ)
  deriving DecidableEq

namespace Assembly

def empty : Assembly α := ⟨[], none⟩

/-- the frame in assembly has got `n` bytes; only as many as it has complete it -/
def put (size : α → ℕ) (a : Assembly α) (x : α) (n : ℕ) : Assembly α :=
  if n = size x then ⟨a.done ++ [x], none⟩ else ⟨a.done, some (x, n)⟩

/-- takes in `n` bytes of `x`; `none` if another frame is incomplete -/
def add [DecidableEq α] (size : α → ℕ) (a : Assembly α) (f : α × ℕ) : Option (Assembly α) :=
  match a.partially with
  | none => some (a.put size f.1 f.2)
  | some (y, m) => if f.1 = y then some (a.put size y (m + f.2)) else none

variable {size : α → ℕ} {a : Assembly α} {x : α} {n : ℕ}

theorem done_put : (a.put size x n).done = a.done ++ if n = size x then [x] else [] := by
  unfold put
  split
  · rfl
  · exact (List.append_nil _).symm

variable [DecidableEq α]

/-- a first fragment that is not the whole frame -/
theorem add_first (h : a.partially = none) (hn : n ≠ size x) :
    a.add size (x, n) = some ⟨a.done, some (x, n)⟩ := by
  unfold add put
  rw [h]
  exact congrArg some (if_neg hn)

/-- a fragment that continues the incomplete frame and does not complete it -/
theorem add_part {m : ℕ} (h : a.partially = some (x, m)) (hn : m + n ≠ size x) :
    a.add size (x, n) = some ⟨a.done, some (x, m + n)⟩ := by
  unfold add put
  rw [h]
  exact (if_pos rfl).trans (congrArg some (if_neg hn))

/-- a frame that comes in one piece -/
theorem add_whole (h : a.partially = none) :
    a.add size (x, size x) = some ⟨a.done ++ [x], none⟩ := by
  unfold add put
  rw [h]
  exact congrArg some (if_pos rfl)

/-- the fragment that completes the incomplete frame -/
theorem add_last {m : ℕ} (h : a.partially = some (x, m)) (hn : m + n = size x) :
    a.add size (x, n) = some ⟨a.done ++ [x], none⟩ := by
  unfold add put
  rw [h]
  exact (if_pos rfl).trans (congrArg some (if_pos hn))

/-- what a fragment completes; `m` bytes of its frame came before -/
theorem done_add {a' : Assembly α} {m : ℕ} (h : a.add size (x, n) = some a')
    (hm : a.partially = if m = 0 then none else some (x, m)) :
    a'.done = a.done ++ if m + n = size x then [x] else [] := by
  unfold add at h
  rw [hm] at h
  by_cases h0 : m = 0
  · rw [if_pos h0] at h
    rw [h0, Nat.zero_add, ← Option.some.inj h]
    exact done_put
  · rw [if_neg h0] at h
    rw [← Option.some.inj ((if_pos rfl).symm.trans h)]
    exact done_put

end Assembly

/-- what becomes of the fragments; `none` if one of them is out of place -/
def collect [DecidableEq α] (size : α → ℕ) (fs : List (α × ℕ)) : Option (Assembly α) :=
  fs.foldlM (Assembly.add size) Assembly.empty

variable [DecidableEq α] {size : α → ℕ} {fs : List (α × ℕ)}

theorem collect_snoc (f : α × ℕ) :
    collect size (fs ++ [f]) = (collect size fs).bind fun a => a.add size f := by
  unfold collect
  rw [List.foldlM_append]
  refine congrArg _ (funext fun a => ?_)
  show ((a.add size f).bind fun b => some b) = _
  cases a.add size f <;> rfl

end Lib
