import Nesting.Common.Normalize
import Nesting.Lib.Run

/-!
# Sequences of schedule operations

A schedule is built by its constructor and changed by its setters, by `addControlListEntry`, by
`normalize` and by copying.  `setTimeInterval` alone leaves the cached sum as it was, and takes any
interval.

* `ScheduleOperation`, `perform`   the operations and what they leave;
* `Represented`       the cached sum, the signs of the intervals, `isNormalized` and the copy;
* `built_perform_iff` one operation;
* `represented_iff`   **whole sequences: `setTimeInterval` must not change what it sets.**
-/

set_option linter.unusedVariables false

namespace Nesting
namespace Schedule

open Lib

variable {α : Type} {s s' : Schedule α}

def setScheduledObject (s : Schedule α) (index : ℕ) (object : α) : Sim (Schedule α) := do
  let e ← s.entry index
  return { s with controlList := s.controlList.set index { e with scheduledObject := object } }

end Schedule

inductive ScheduleOperation (α : Type) where
  | setBaseTime (t : SimTime)
  | setCycleTime (t : SimTime)
  | setCycleTimeExtension (t : SimTime)
  | addControlListEntry (timeInterval : SimTime) (scheduledObject : α)
  | setTimeInterval (index : ℕ) (t : SimTime)
  | setScheduledObject (index : ℕ) (object : α)
  | normalize
  /-- go on with the copy -/
  | copySchedule
  deriving DecidableEq

namespace Schedule

open Lib

variable {α : Type} {s s' : Schedule α}

def perform (s : Schedule α) : ScheduleOperation α → Sim (Schedule α)
  | .setBaseTime t => .ok (s.setBaseTime t)
  | .setCycleTime t => .ok (s.setCycleTime t)
  | .setCycleTimeExtension t => .ok (s.setCycleTimeExtension t)
  | .addControlListEntry t a => s.addControlListEntry t a
  | .setTimeInterval i t => s.setTimeInterval i t
  | .setScheduledObject i a => s.setScheduledObject i a
  | .normalize => s.normalize
  | .copySchedule => s.copySchedule

/-- two schedules give the same answer to every accessor -/
structure Agrees (s s' : Schedule α) : Prop where
  baseTime : s.getBaseTime = s'.getBaseTime
  cycleTime : s.getCycleTime = s'.getCycleTime
  cycleTimeExtension : s.getCycleTimeExtension = s'.getCycleTimeExtension
  length : s.getControlListLength = s'.getControlListLength
  empty : s.isEmpty = s'.isEmpty
  objects : ∀ i, s.getScheduledObject i = s'.getScheduledObject i
  intervals : ∀ i, s.getTimeInterval i = s'.getTimeInterval i
  sum : s.getSumTimeIntervals = s'.getSumTimeIntervals
  normalized : s.isNormalized = s'.isNormalized

/-- the cached sum is the sum, and what depends on it is right -/
structure Represented (s : Schedule α) : Prop where
  sum : s.getSumTimeIntervals = s.total
  nonneg : s.NonNeg
  normalized : s.isNormalized = true ↔ s.total = s.getCycleTime
  copied : ∃ s', s.copySchedule = .ok s' ∧ s.Agrees s'

/-- an interval that is set is the one that is there -/
def Keeps (s : Schedule α) : ScheduleOperation α → Prop
  | .setTimeInterval i t => ∀ e ∈ s.controlList[i]?, e.timeInterval = t
  | _ => True

theorem Agrees.refl (s : Schedule α) : s.Agrees s :=
  ⟨rfl, rfl, rfl, rfl, rfl, fun _ => rfl, fun _ => rfl, rfl, rfl⟩

/-! ## one operation -/

theorem Built.copySchedule (h : s.Built) : s.copySchedule = .ok s := by
  rw [copySchedule_eq h.nonneg, ← h.sum]

theorem represented_iff_built : s.Represented ↔ s.Built := by
  constructor
  · intro h
    exact ⟨h.sum, h.nonneg⟩
  · intro h
    refine ⟨h.sum, h.nonneg, ?_, s, h.copySchedule, Agrees.refl s⟩
    unfold isNormalized
    rw [decide_eq_true_iff, h.sum]
    rfl

theorem intervals_set (s : Schedule α) (i : ℕ) (e : ControlListEntry α) :
    (s.controlList.set i e).map (·.timeInterval) = s.intervals.set i e.timeInterval := by
  rw [intervals, List.map_set]

/-- the sum moves by as much as the interval -/
theorem setTimeInterval_total {i : ℕ} {t : SimTime} (h : s.setTimeInterval i t = .ok s') :
    ∃ e ∈ s.controlList[i]?, s'.total = s.total + (t - e.timeInterval) ∧
      s'.sumTimeIntervals = s.sumTimeIntervals := by
  obtain ⟨hi, rfl⟩ := setTimeInterval_ok h
  refine ⟨s.controlList[i], List.getElem?_eq_getElem hi, ?_, rfl⟩
  show ((s.controlList.set i _).map (·.timeInterval)).sum = _
  have hi' : i < s.intervals.length := by
    rw [intervals, List.length_map]
    exact hi
  rw [intervals_set, List.sum_set', dif_pos hi', total]
  show _ = s.intervals.sum + (t - s.controlList[i].timeInterval)
  have hget : s.intervals[i] = s.controlList[i].timeInterval := List.getElem_map _
  rw [hget, neg_add_eq_sub]

/-- an interval that stays leaves the schedule as it is -/
theorem setTimeInterval_same {i : ℕ} {t : SimTime} (hk : s.Keeps (.setTimeInterval i t))
    (h : s.setTimeInterval i t = .ok s') : s' = s := by
  obtain ⟨hi, rfl⟩ := setTimeInterval_ok h
  rw [← hk _ (List.getElem?_eq_getElem hi)]
  show { s with controlList := s.controlList.set i s.controlList[i] } = s
  rw [List.set_getElem_self]

theorem built_setTimeInterval_iff (h : s.Built) (i : ℕ) (t : SimTime) :
    (∀ s', s.setTimeInterval i t = .ok s' → s'.Built) ↔ s.Keeps (.setTimeInterval i t) := by
  constructor
  · intro hall e he
    obtain ⟨hi, hget⟩ := List.getElem?_eq_some_iff.mp he
    have hs := setTimeInterval_of_lt (t := t) hi
    have hb := hall _ hs
    obtain ⟨e', he', htotal, hsum⟩ := setTimeInterval_total hs
    cases he.symm.trans he'
    have hold := h.sum
    have hnew := hb.sum
    linarith
  · intro hk s' hs
    rw [setTimeInterval_same hk hs]
    exact h

theorem built_setScheduledObject {i : ℕ} {a : α} (h : s.Built)
    (hs : s.setScheduledObject i a = .ok s') : s'.Built := by
  obtain ⟨e, he, hs⟩ := bind_ok.mp hs
  cases hs
  obtain ⟨hi, rfl⟩ := List.getElem?_eq_some_iff.mp (entry_ok.mp he)
  -- the list of intervals is the same
  have hsame : (s.controlList.set i { s.controlList[i] with scheduledObject := a }).map
      (·.timeInterval) = s.intervals := by
    rw [intervals_set]
    apply List.ext_getElem
    · simp
    · intro j hj hj'
      rw [List.getElem_set]
      split
      · rename_i hij
        subst hij
        simp [intervals]
      · rfl
  refine ⟨?_, fun e he => ?_⟩
  · show s.sumTimeIntervals = ((s.controlList.set i _).map (·.timeInterval)).sum
    rw [hsame]
    exact h.sum
  · have hmem : e.timeInterval ∈ s.intervals := hsame ▸ List.mem_map_of_mem he
    obtain ⟨e', he', heq⟩ := List.mem_map.mp hmem
    rw [← heq]
    exact h.nonneg e' he'

theorem built_normalize (h : s.Built) (hs : s.normalize = .ok s') : s'.Built := by
  obtain ⟨hc, hne⟩ := h.normalizable_iff.mp (normalize_total_iff.mp ⟨s', hs⟩)
  obtain ⟨t, ht, hl⟩ := normalize_leaves h hc hne
  rw [ht] at hs
  cases hs
  exact hl.built

/-- **One operation** leaves a built schedule built exactly when it keeps the interval it sets. -/
theorem built_perform_iff (h : s.Built) (op : ScheduleOperation α) :
    (∀ s', s.perform op = .ok s' → s'.Built) ↔ s.Keeps op := by
  cases op with
  | setBaseTime t =>
    refine iff_of_true (fun s' hs => ?_) trivial
    cases hs
    exact ⟨h.sum, h.nonneg⟩
  | setCycleTime t =>
    refine iff_of_true (fun s' hs => ?_) trivial
    cases hs
    exact ⟨h.sum, h.nonneg⟩
  | setCycleTimeExtension t =>
    refine iff_of_true (fun s' hs => ?_) trivial
    cases hs
    exact ⟨h.sum, h.nonneg⟩
  | addControlListEntry t a => exact iff_of_true (fun _ => built_addControlListEntry h) trivial
  | setTimeInterval i t => exact built_setTimeInterval_iff h i t
  | setScheduledObject i a => exact iff_of_true (fun _ => built_setScheduledObject h) trivial
  | normalize => exact iff_of_true (fun _ => built_normalize h) trivial
  | copySchedule =>
    refine iff_of_true (fun s' hs => ?_) trivial
    have hcopy := h.copySchedule.symm.trans hs
    cases hcopy
    exact h

/-! ## sequences -/

/-- **The representation invariant** holds of every schedule that a sequence of operations reaches
exactly when none of its `setTimeInterval` changes an interval. -/
theorem represented_iff (ops : List (ScheduleOperation α)) :
    (∀ pre s, pre <+: ops → run perform (new : Schedule α) pre = .ok s → s.Represented) ↔
      Meets perform Keeps (new : Schedule α) ops := by
  refine forall_prefix_iff_meets (I := fun _ => True) (Q := fun _ => True)
    (fun _ _ _ _ _ _ => trivial) (fun s op _ hs _ => ?_) trivial
    (represented_iff_built.mpr ⟨rfl, nofun⟩) fun _ _ => trivial
  simp only [represented_iff_built] at hs ⊢
  exact built_perform_iff hs op

/-- entries of 4 and 6 s in a cycle of 10 s, of which the first is then set to 5 s: the schedule
calls itself normalized, its copy does not; set to -1 s there is no copy -/
theorem not_represented :
    (∃ s s' : Schedule ℕ, run perform new [.setCycleTime 10, .addControlListEntry 4 0,
        .addControlListEntry 6 1, .setTimeInterval 0 5] = .ok s ∧ s.getSumTimeIntervals = 10 ∧
      s.total = 11 ∧ s.isNormalized = true ∧ s.copySchedule = .ok s' ∧
      s'.getSumTimeIntervals = 11 ∧ s'.isNormalized = false) ∧
    ∃ s : Schedule ℕ, run perform new [.setCycleTime 10, .addControlListEntry 4 0,
        .addControlListEntry 6 1, .setTimeInterval 0 (-1)] = .ok s ∧ ¬s.NonNeg ∧
      s.copySchedule =
        .error (.runtimeError "Control list entries only allow positive time intervals.") := by
  constructor
  · exact ⟨⟨[⟨5, 0⟩, ⟨6, 1⟩], 0, 10, 0, 10⟩, ⟨[⟨5, 0⟩, ⟨6, 1⟩], 0, 10, 0, 11⟩, by decide +kernel,
      rfl, by decide +kernel, by decide +kernel, by decide +kernel, rfl, by decide +kernel⟩
  · refine ⟨⟨[⟨-1, 0⟩, ⟨6, 1⟩], 0, 10, 0, 10⟩, by decide +kernel, fun h => ?_, by decide +kernel⟩
    have hneg := h _ List.mem_cons_self
    norm_num at hneg

end Schedule
end Nesting
