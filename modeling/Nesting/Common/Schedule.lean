import Mathlib.Algebra.BigOperators.Group.List.Basic
import Nesting.Common.Sim
import Nesting.Lib.Timeline

/-!
# Schedule

A control list of (time interval, scheduled object) pairs with base time, cycle time, cycle time
extension and a cached sum of the intervals (`Schedule.h`).

* `Schedule.intervals`, `Schedule.content`  what the accessors let a reader see;
* `addControlListEntries_ok`   the loop that fills a schedule, over a whole list;
* `copySchedule_eq`            `ScheduleFactory::copySchedule` succeeds exactly when no interval is
                               negative, and then the copy has the content of its source.
-/

set_option linter.unusedVariables false

namespace Nesting

structure ControlListEntry (α : Type) where
  timeInterval : SimTime
  scheduledObject : α
  deriving DecidableEq, Repr

structure Schedule (α : Type) where
  controlList : List (ControlListEntry α)
  baseTime : SimTime
  cycleTime : SimTime
  cycleTimeExtension : SimTime
  sumTimeIntervals : SimTime
  deriving DecidableEq, Repr

namespace Schedule
variable {α : Type}

/-- the constructor `Schedule()` -/
def new : Schedule α := ⟨[], 0, 0, 0, 0⟩

def setBaseTime (s : Schedule α) (t : SimTime) : Schedule α := { s with baseTime := t }
def getBaseTime (s : Schedule α) : SimTime := s.baseTime
def setCycleTime (s : Schedule α) (t : SimTime) : Schedule α := { s with cycleTime := t }
def getCycleTime (s : Schedule α) : SimTime := s.cycleTime
def setCycleTimeExtension (s : Schedule α) (t : SimTime) : Schedule α :=
  { s with cycleTimeExtension := t }
def getCycleTimeExtension (s : Schedule α) : SimTime := s.cycleTimeExtension
def getControlListLength (s : Schedule α) : Nat := s.controlList.length
def isEmpty (s : Schedule α) : Bool := s.controlList.isEmpty
def getSumTimeIntervals (s : Schedule α) : SimTime := s.sumTimeIntervals

/-- `controlList[index]`, undefined behaviour outside the vector -/
def entry (s : Schedule α) (index : Nat) : Sim (ControlListEntry α) :=
  match s.controlList[index]? with
  | some e => .ok e
  | none => .error (.undefinedBehaviour "controlList[index]")

def getScheduledObject (s : Schedule α) (index : Nat) : Sim α :=
  return (← s.entry index).scheduledObject

def getTimeInterval (s : Schedule α) (index : Nat) : Sim SimTime :=
  return (← s.entry index).timeInterval

/-- does not touch the cached sum -/
def setTimeInterval (s : Schedule α) (index : Nat) (t : SimTime) : Sim (Schedule α) := do
  let e ← s.entry index
  return { s with controlList := s.controlList.set index { e with timeInterval := t } }

def addControlListEntry (s : Schedule α) (timeInterval : SimTime) (scheduledObject : α) :
    Sim (Schedule α) :=
  if timeInterval < 0 then
    .error (.runtimeError "Control list entries only allow positive time intervals.")
  else
    .ok { s with
      sumTimeIntervals := s.sumTimeIntervals + timeInterval
      controlList := s.controlList ++ [⟨timeInterval, scheduledObject⟩] }

/-- the loops that add one entry after another -/
def addControlListEntries (s : Schedule α) : List (ControlListEntry α) → Sim (Schedule α)
  | [] => .ok s
  | e :: es => do
    let s' ← s.addControlListEntry e.timeInterval e.scheduledObject
    s'.addControlListEntries es

/-- `ScheduleFactory::copySchedule` -/
def copySchedule (s : Schedule α) : Sim (Schedule α) :=
  (((new.setBaseTime s.getBaseTime).setCycleTime s.getCycleTime).setCycleTimeExtension
    s.getCycleTimeExtension).addControlListEntries s.controlList

/-! ## What a reader of a schedule sees -/

/-- everything except the cached sum -/
def content (s : Schedule α) : List (ControlListEntry α) × SimTime × SimTime × SimTime :=
  (s.controlList, s.baseTime, s.cycleTime, s.cycleTimeExtension)

/-- the time intervals in list order -/
def intervals (s : Schedule α) : List SimTime := s.controlList.map (·.timeInterval)

/-- the recomputed sum of the intervals -/
def total (s : Schedule α) : SimTime := s.intervals.sum

/-- the phase at which entry `j` starts when the entries lie one after another -/
def startOf (s : Schedule α) (j : Nat) : SimTime := (s.intervals.take j).sum

/-- no interval is negative -/
def NonNeg (s : Schedule α) : Prop := ∀ e ∈ s.controlList, 0 ≤ e.timeInterval

theorem entry_ok {s : Schedule α} {i : Nat} {e : ControlListEntry α} :
    s.entry i = .ok e ↔ s.controlList[i]? = some e := by
  unfold entry
  cases s.controlList[i]? <;> simp

theorem entry_of_lt {s : Schedule α} {i : Nat} (h : i < s.controlList.length) :
    s.entry i = .ok s.controlList[i] := entry_ok.mpr (List.getElem?_eq_getElem h)

theorem entry_of_le {s : Schedule α} {i : Nat} (h : s.controlList.length ≤ i) :
    s.entry i = .error (.undefinedBehaviour "controlList[index]") := by
  unfold entry
  rw [List.getElem?_eq_none h]

theorem getTimeInterval_of_lt {s : Schedule α} {i : Nat} (h : i < s.controlList.length) :
    s.getTimeInterval i = .ok s.controlList[i].timeInterval := by
  unfold getTimeInterval
  rw [entry_of_lt h]
  rfl

theorem getScheduledObject_of_lt {s : Schedule α} {i : Nat} (h : i < s.controlList.length) :
    s.getScheduledObject i = .ok s.controlList[i].scheduledObject := by
  unfold getScheduledObject
  rw [entry_of_lt h]
  rfl

theorem setTimeInterval_of_lt {s : Schedule α} {i : Nat} {t : SimTime}
    (h : i < s.controlList.length) :
    s.setTimeInterval i t = .ok { s with
      controlList := s.controlList.set i ⟨t, s.controlList[i].scheduledObject⟩ } := by
  unfold setTimeInterval
  rw [entry_of_lt h]
  rfl

theorem setTimeInterval_of_le {s : Schedule α} {i : Nat} {t : SimTime}
    (h : s.controlList.length ≤ i) :
    s.setTimeInterval i t = .error (.undefinedBehaviour "controlList[index]") := by
  unfold setTimeInterval
  rw [entry_of_le h]
  rfl

/-- a successful `setTimeInterval` keeps everything but one interval -/
theorem setTimeInterval_ok {s s' : Schedule α} {i : Nat} {t : SimTime}
    (h : s.setTimeInterval i t = .ok s') :
    ∃ hi : i < s.controlList.length, s' = { s with
      controlList := s.controlList.set i ⟨t, s.controlList[i].scheduledObject⟩ } := by
  rcases Nat.lt_or_ge i s.controlList.length with hi | hi
  · rw [setTimeInterval_of_lt hi] at h
    cases h
    exact ⟨hi, rfl⟩
  · rw [setTimeInterval_of_le hi] at h
    cases h

/-! ## where the entries start -/

@[simp] theorem startOf_zero (s : Schedule α) : s.startOf 0 = 0 := rfl

theorem startOf_succ {s : Schedule α} {j : Nat} {e : ControlListEntry α}
    (h : s.controlList[j]? = some e) : s.startOf (j + 1) = s.startOf j + e.timeInterval := by
  obtain ⟨hj, rfl⟩ := List.getElem?_eq_some_iff.mp h
  have hj' : j < s.intervals.length := by
    rw [intervals, List.length_map]
    exact hj
  rw [startOf, startOf, List.sum_take_succ _ _ hj']
  simp [intervals]

theorem startOf_of_le {s : Schedule α} {j : Nat} (h : s.controlList.length ≤ j) :
    s.startOf j = s.total := by
  have hj : s.intervals.length ≤ j := by
    rw [intervals, List.length_map]
    exact h
  rw [startOf, List.take_of_length_le hj, total]

theorem startOf_le_succ {s : Schedule α} (hs : s.NonNeg) (j : Nat) :
    s.startOf j ≤ s.startOf (j + 1) := by
  cases h : s.controlList[j]? with
  | none =>
    have hj := List.getElem?_eq_none_iff.mp h
    rw [startOf_of_le hj, startOf_of_le (Nat.le_succ_of_le hj)]
  | some e =>
    have := hs e (List.mem_of_getElem? h)
    rw [startOf_succ h]
    linarith

theorem startOf_mono {s : Schedule α} (hs : s.NonNeg) {i j : Nat} (h : i ≤ j) :
    s.startOf i ≤ s.startOf j := by
  induction j, h using Nat.le_induction with
  | base => exact le_rfl
  | succ j _ ih => exact ih.trans (startOf_le_succ hs j)

/-! ## a control list as a timeline -/

/-- the entries as pieces of a timeline -/
def pieces (s : Schedule α) : List (SimTime × α) :=
  s.controlList.map fun e => (e.timeInterval, e.scheduledObject)

theorem pieces_nonneg {s : Schedule α} (h : s.NonNeg) : ∀ p ∈ s.pieces, 0 ≤ p.1 := by
  intro p hp
  obtain ⟨e, he, rfl⟩ := List.mem_map.mp hp
  exact h e he

theorem span_take_pieces (s : Schedule α) (j : Nat) : Lib.span (s.pieces.take j) = s.startOf j := by
  rw [Lib.span, startOf, intervals, pieces, ← List.map_take, ← List.map_take, List.map_map]
  rfl

theorem span_pieces (s : Schedule α) : Lib.span s.pieces = s.total := by
  rw [Lib.span, total, intervals, pieces, List.map_map]
  rfl

/-- the entry that is active between its start and its end -/
theorem activeAt_pieces {s : Schedule α} (h : s.NonNeg) {j : Nat} {e : ControlListEntry α}
    (he : s.controlList[j]? = some e) {x : SimTime} (h1 : s.startOf j ≤ x)
    (h2 : x < s.startOf (j + 1)) : Lib.activeAt s.pieces x = some e.scheduledObject := by
  obtain ⟨hj, rfl⟩ := List.getElem?_eq_some_iff.mp he
  have hsplit : s.pieces = s.pieces.take j ++
      (s.controlList[j].timeInterval, s.controlList[j].scheduledObject) :: s.pieces.drop (j + 1) := by
    have hj' : j < s.pieces.length := by rwa [pieces, List.length_map]
    calc s.pieces = s.pieces.take j ++ s.pieces.drop j := (List.take_append_drop j _).symm
      _ = s.pieces.take j ++ s.pieces[j] :: s.pieces.drop (j + 1) := by
        rw [List.drop_eq_getElem_cons hj']
      _ = _ := by simp [pieces]
  rw [hsplit]
  apply Lib.activeAt_mid
  · intro p hp
    exact pieces_nonneg h p (List.mem_of_mem_take hp)
  · rwa [span_take_pieces]
  · rwa [span_take_pieces, ← startOf_succ he]

/-! ## Adding entries and copying -/

theorem addControlListEntry_of_nonneg {s : Schedule α} {t : SimTime} {a : α} (h : 0 ≤ t) :
    s.addControlListEntry t a = .ok { s with
      sumTimeIntervals := s.sumTimeIntervals + t
      controlList := s.controlList ++ [⟨t, a⟩] } :=
  if_neg (not_lt.mpr h)

theorem addControlListEntries_ok (es : List (ControlListEntry α)) (s : Schedule α)
    (h : ∀ e ∈ es, 0 ≤ e.timeInterval) :
    s.addControlListEntries es = .ok { s with
      sumTimeIntervals := s.sumTimeIntervals + (es.map (·.timeInterval)).sum
      controlList := s.controlList ++ es } := by
  induction es generalizing s with
  | nil => simp [addControlListEntries]
  | cons e es ih =>
    rw [addControlListEntries, addControlListEntry_of_nonneg (h e List.mem_cons_self)]
    show addControlListEntries _ es = _
    rw [ih _ (fun e' he' => h e' (List.mem_cons_of_mem _ he'))]
    simp [add_assoc]

theorem addControlListEntries_error (es : List (ControlListEntry α)) (s : Schedule α)
    (h : ¬ ∀ e ∈ es, 0 ≤ e.timeInterval) :
    s.addControlListEntries es =
      .error (.runtimeError "Control list entries only allow positive time intervals.") := by
  induction es generalizing s with
  | nil => exact absurd (fun e he => absurd he List.not_mem_nil) h
  | cons e es ih =>
    rw [addControlListEntries]
    by_cases he : 0 ≤ e.timeInterval
    · rw [addControlListEntry_of_nonneg he]
      exact ih _ (fun hes => h (List.forall_mem_cons.mpr ⟨he, hes⟩))
    · rw [addControlListEntry, if_pos (not_le.mp he)]
      rfl

/-- **A copy of a schedule without negative intervals has the content of its source**; only the
cached sum is computed anew. -/
theorem copySchedule_eq {s : Schedule α} (h : s.NonNeg) :
    s.copySchedule = .ok { s with sumTimeIntervals := s.total } := by
  unfold copySchedule
  rw [addControlListEntries_ok _ _ h]
  simp [new, setBaseTime, setCycleTime, setCycleTimeExtension, getBaseTime, getCycleTime,
    getCycleTimeExtension, total, intervals]

theorem copySchedule_error {s : Schedule α} (h : ¬ s.NonNeg) :
    s.copySchedule =
      .error (.runtimeError "Control list entries only allow positive time intervals.") :=
  addControlListEntries_error _ _ h

end Schedule
end Nesting
