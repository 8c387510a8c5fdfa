import Nesting.Gating.System

/-!
# VlanEtherTrafGenGCL: the adaptation of the control list

A received packet of priority 7 rewrites entries 0 and 1 of `newSchedule` from its delay, the
interval in execution and the pending one.

* `Adaptation`           parameters that `initialize` accepts;
* `targetTimeInterval`   the rule for the next interval;
* `receivePacket_eq`     what a packet does to a controller with two or more entries;
* `receivePacket_short`  with fewer entries the write of entry 1 leaves the list.

`0.9`, `0.1` and `1.1` are taken exactly.  The packet counter and the result file are left out.
-/

set_option linter.unusedVariables false

namespace Nesting

structure AdaptationParams where
  increasesteplength : SimTime
  decreasesteplength : SimTime
  maxIncreasesteplength : SimTime
  maxDecreasesteplength : SimTime
  upperLimitTime : SimTime
  lowerLimitTime : SimTime
  autoIntervalDecrease : Bool
  deriving DecidableEq

/-- the checks of `initialize(INITSTAGE_LOCAL)` -/
def AdaptationParams.initializeLocal (p : AdaptationParams) : Sim AdaptationParams :=
  if p.increasesteplength ≤ 0 ∨ p.decreasesteplength ≤ 0 then
    .error (.runtimeError "Invalid increasesteplength/decreasesteplength parameters")
  else if p.maxIncreasesteplength ≤ 0 ∨ p.maxDecreasesteplength ≤ 0 then
    .error (.runtimeError "Invalid maxIncreasesteplength/maxDecreasesteplength parameters")
  else if p.upperLimitTime ≤ 0 ∨ p.lowerLimitTime ≤ 0 then
    .error (.runtimeError "Invalid upperLimitTime/lowerLimitTime parameters")
  else if p.upperLimitTime < p.lowerLimitTime then
    .error (.runtimeError "Invalid parameters! upperLimitTime < lowerLimitTime parameters")
  else
    .ok p

/-- parameters that `initialize` accepts -/
structure Adaptation extends AdaptationParams where
  accepted : toAdaptationParams.initializeLocal = .ok toAdaptationParams

namespace Adaptation

theorem valid (p : Adaptation) :
    (0 < p.increasesteplength ∧ 0 < p.decreasesteplength) ∧
      (0 < p.maxIncreasesteplength ∧ 0 < p.maxDecreasesteplength) ∧
      (0 < p.upperLimitTime ∧ 0 < p.lowerLimitTime) ∧ p.lowerLimitTime ≤ p.upperLimitTime := by
  have h := p.accepted
  unfold AdaptationParams.initializeLocal at h
  split at h
  · cases h
  split at h
  · cases h
  split at h
  · cases h
  split at h
  · cases h
  rename_i h1 h2 h3 h4
  simp only [not_or, not_le] at h1 h2 h3
  exact ⟨h1, h2, h3, not_lt.mp h4⟩

end Adaptation

/-- what `receivePacket` reads of a packet -/
structure Arrival where
  pcp : Nat
  arrivalTime : SimTime
  /-- the creation times in the regions of its data -/
  creationTimes : List SimTime
  deriving DecidableEq

/-- the delay of the last region, zero without one -/
def Arrival.delay (a : Arrival) : SimTime :=
  match a.creationTimes.getLast? with
  | some creationTime => a.arrivalTime - creationTime
  | none => 0

namespace AdaptationParams

/-- the target of a packet above the upper limit -/
def increased (p : AdaptationParams) (schedule_cycle current_interval time_interval : SimTime) :
    SimTime :=
  let target := (if time_interval < current_interval then current_interval else time_interval)
    + p.increasesteplength
  if target ≥ schedule_cycle * (9 / 10) then schedule_cycle * (9 / 10)
  else if target - current_interval ≥ p.maxIncreasesteplength ∨
      current_interval - target ≥ p.maxIncreasesteplength then
    current_interval + p.maxIncreasesteplength
  else target

/-- the target of a packet within the lower limit -/
def decreased (p : AdaptationParams) (schedule_cycle current_interval time_interval : SimTime) :
    SimTime :=
  let target := time_interval - p.decreasesteplength
  if target ≤ schedule_cycle * (1 / 10) then schedule_cycle * (1 / 10)
  else if target - current_interval ≥ p.maxDecreasesteplength ∨
      current_interval - target ≥ p.maxDecreasesteplength then
    current_interval - p.maxDecreasesteplength
  else target

/-- a raise gives the upper bound, the limit of a step, or what it aims at -/
theorem increased_cases (p : Adaptation) (c cur t : SimTime) :
    c * (9 / 10) ≤ max cur t + p.increasesteplength ∧ p.increased c cur t = c * (9 / 10) ∨
    max cur t + p.increasesteplength < c * (9 / 10) ∧
      (cur + p.maxIncreasesteplength ≤ max cur t + p.increasesteplength ∧
          p.increased c cur t = cur + p.maxIncreasesteplength ∨
        max cur t + p.increasesteplength < cur + p.maxIncreasesteplength ∧
          p.increased c cur t = max cur t + p.increasesteplength) := by
  obtain ⟨⟨hinc, -⟩, ⟨hmax, -⟩, -⟩ := p.valid
  have hbase : (if t < cur then cur else t) = max cur t := by
    rw [max_comm, max_def_lt]
  have hle := le_max_left cur t
  unfold increased
  rw [hbase]
  dsimp only
  split
  · rename_i hclamp
    exact .inl ⟨hclamp, rfl⟩
  rename_i hclamp
  refine .inr ⟨not_le.mp hclamp, ?_⟩
  split
  · rename_i hlim
    refine .inl ⟨?_, rfl⟩
    obtain hlim | hlim := hlim
    · linarith
    · linarith
  · rename_i hlim
    obtain ⟨hlim, -⟩ := not_or.mp hlim
    exact .inr ⟨by linarith, rfl⟩

/-- lowering from below the executing interval gives the lower bound, the limit of a step, or what it
aims at -/
theorem decreased_cases (p : Adaptation) (c : SimTime) {cur t : SimTime} (h : t ≤ cur) :
    t - p.decreasesteplength ≤ c * (1 / 10) ∧ p.decreased c cur t = c * (1 / 10) ∨
    c * (1 / 10) < t - p.decreasesteplength ∧
      (t - p.decreasesteplength ≤ cur - p.maxDecreasesteplength ∧
          p.decreased c cur t = cur - p.maxDecreasesteplength ∨
        cur - p.maxDecreasesteplength < t - p.decreasesteplength ∧
          p.decreased c cur t = t - p.decreasesteplength) := by
  obtain ⟨⟨-, hdec⟩, ⟨-, hmax⟩, -⟩ := p.valid
  unfold decreased
  dsimp only
  split
  · rename_i hclamp
    exact .inl ⟨hclamp, rfl⟩
  rename_i hclamp
  refine .inr ⟨not_le.mp hclamp, ?_⟩
  split
  · rename_i hlim
    refine .inl ⟨?_, rfl⟩
    obtain hlim | hlim := hlim
    · linarith
    · linarith
  · rename_i hlim
    obtain ⟨-, hlim⟩ := not_or.mp hlim
    exact .inr ⟨by linarith, rfl⟩

/-- the target from the last transmission of a time-triggered frame -/
def autoDecreased (lastTT cycleStart : SimTime) : SimTime := (lastTT - cycleStart) * (11 / 10)

/-- `target_time_interval` before it is truncated -/
def targetTimeInterval (p : AdaptationParams) (lastTT cycleStart : SimTime) (isIncreased : Bool)
    (delay schedule_cycle current_interval time_interval : SimTime) : SimTime :=
  if delay > p.upperLimitTime then p.increased schedule_cycle current_interval time_interval
  else if p.autoIntervalDecrease = true ∧ isIncreased = false then autoDecreased lastTT cycleStart
  else if delay ≤ p.lowerLimitTime ∧ isIncreased = false then
    p.decreased schedule_cycle current_interval time_interval
  else time_interval

/-- `receivePacket`, with `MaxLastTTtransmissiontime` as `lastTT` -/
def receivePacket (p : AdaptationParams) (lastTT : SimTime) (gc : GateController) (a : Arrival) :
    Sim GateController :=
  if a.pcp = 7 then do
    let schedule_cycle := gc.newSchedule.getCycleTime
    let time_interval ← gc.newSchedule.getTimeInterval 0
    let current_interval ← gc.currentSchedule.getTimeInterval 0
    let target := p.targetTimeInterval lastTT gc.cycleStart_for_autoIntervalDecrease gc.isIncreased
      a.delay schedule_cycle current_interval time_interval
    let newSchedule ← gc.newSchedule.setTimeInterval 0 (truncUs target)
    let newSchedule ← newSchedule.setTimeInterval 1 (schedule_cycle - truncUs target)
    return { gc with
      newSchedule
      isIncreased := if a.delay > p.upperLimitTime then true else gc.isIncreased }
  else
    return gc

end AdaptationParams

/-! ## what a packet writes -/

namespace Schedule
variable {α : Type}

/-- the interval of entry `i`, zero past the end -/
def intervalAt (s : Schedule α) (i : Nat) : SimTime := s.intervals.getD i 0

theorem intervalAt_of {s : Schedule α} {i : Nat} {e : ControlListEntry α}
    (h : s.controlList[i]? = some e) : s.intervalAt i = e.timeInterval := by
  rw [intervalAt, intervals, List.getD_eq_getElem?_getD, List.getElem?_map, h]
  rfl

theorem getTimeInterval_eq {s : Schedule α} {i : Nat} (h : i < s.controlList.length) :
    s.getTimeInterval i = .ok (s.intervalAt i) := by
  rw [getTimeInterval_of_lt h, intervalAt_of (List.getElem?_eq_getElem h)]

/-- the schedule with the intervals of its first two entries replaced -/
def withFirstTwo (s : Schedule α) (t0 t1 : SimTime) : Schedule α :=
  match s.controlList with
  | e0 :: e1 :: es =>
    { s with controlList := { e0 with timeInterval := t0 } :: { e1 with timeInterval := t1 } :: es }
  | _ => s

theorem setTimeInterval_two {s : Schedule α} (t0 t1 : SimTime) (h : 2 ≤ s.controlList.length) :
    (s.setTimeInterval 0 t0 >>= fun s' => s'.setTimeInterval 1 t1)
      = .ok (s.withFirstTwo t0 t1) := by
  obtain ⟨cl, b, c, x, sum⟩ := s
  match cl, h with
  | e0 :: e1 :: es, _ => rfl

theorem withFirstTwo_length (s : Schedule α) (t0 t1 : SimTime) :
    (s.withFirstTwo t0 t1).controlList.length = s.controlList.length := by
  unfold withFirstTwo
  split
  · rename_i heq
    rw [heq]
    rfl
  · rfl

@[simp] theorem withFirstTwo_cycleTime (s : Schedule α) (t0 t1 : SimTime) :
    (s.withFirstTwo t0 t1).cycleTime = s.cycleTime := by
  unfold withFirstTwo
  split <;> rfl

/-- the second of two replacements stays -/
theorem withFirstTwo_twice (s : Schedule α) (t0 t1 u0 u1 : SimTime) :
    (s.withFirstTwo t0 t1).withFirstTwo u0 u1 = s.withFirstTwo u0 u1 := by
  obtain ⟨cl, b, c, x, sum⟩ := s
  match cl with
  | [] => rfl
  | [_] => rfl
  | e0 :: e1 :: es => rfl

theorem withFirstTwo_intervalAt {s : Schedule α} (t0 t1 : SimTime)
    (h : 2 ≤ s.controlList.length) :
    (s.withFirstTwo t0 t1).intervalAt 0 = t0 ∧ (s.withFirstTwo t0 t1).intervalAt 1 = t1 := by
  obtain ⟨cl, b, c, x, sum⟩ := s
  match cl, h with
  | e0 :: e1 :: es, _ => exact ⟨rfl, rfl⟩

theorem withFirstTwo_nonNeg {s : Schedule α} {t0 t1 : SimTime} (hs : s.NonNeg) (h0 : 0 ≤ t0)
    (h1 : 0 ≤ t1) : (s.withFirstTwo t0 t1).NonNeg := by
  obtain ⟨cl, b, c, x, sum⟩ := s
  match cl with
  | [] => exact hs
  | [_] => exact hs
  | e0 :: e1 :: es =>
    intro e he
    rcases List.mem_cons.mp he with rfl | he
    · exact h0
    rcases List.mem_cons.mp he with rfl | he
    · exact h1
    · exact hs e (List.mem_cons_of_mem _ (List.mem_cons_of_mem _ he))

end Schedule

namespace AdaptationParams
variable {p : AdaptationParams} {lastTT : SimTime} {gc : GateController} {a : Arrival}

/-- the target a packet computes from the controller -/
def target (p : AdaptationParams) (lastTT : SimTime) (gc : GateController) (a : Arrival) : SimTime :=
  p.targetTimeInterval lastTT gc.cycleStart_for_autoIntervalDecrease gc.isIncreased a.delay
    gc.newSchedule.cycleTime (gc.currentSchedule.intervalAt 0) (gc.newSchedule.intervalAt 0)

theorem receivePacket_other (h : a.pcp ≠ 7) : p.receivePacket lastTT gc a = .ok gc := if_neg h

theorem receivePacket_eq (p : AdaptationParams) (lastTT : SimTime) (h7 : a.pcp = 7) (hcur : 0 < gc.currentSchedule.controlList.length)
    (h : 2 ≤ gc.newSchedule.controlList.length) :
    p.receivePacket lastTT gc a = .ok { gc with
      newSchedule := gc.newSchedule.withFirstTwo (truncUs (p.target lastTT gc a))
        (gc.newSchedule.cycleTime - truncUs (p.target lastTT gc a))
      isIncreased := if a.delay > p.upperLimitTime then true else gc.isIncreased } := by
  unfold receivePacket
  rw [if_pos h7, Schedule.getTimeInterval_eq (by omega), Schedule.getTimeInterval_eq hcur]
  have htwo := Schedule.setTimeInterval_two (truncUs (p.target lastTT gc a))
    (gc.newSchedule.cycleTime - truncUs (p.target lastTT gc a)) h
  obtain ⟨s', h1, h2⟩ := bind_ok.mp htwo
  show (gc.newSchedule.setTimeInterval 0 (truncUs (p.target lastTT gc a)) >>= _) = _
  rw [h1]
  show (s'.setTimeInterval 1 (gc.newSchedule.cycleTime - truncUs (p.target lastTT gc a)) >>= _) = _
  rw [h2]
  rfl

/-- with fewer than two entries the index 1 is not below the length of the list -/
theorem receivePacket_short (h7 : a.pcp = 7) (h : gc.newSchedule.controlList.length < 2)
    (gc' : GateController) : p.receivePacket lastTT gc a ≠ .ok gc' := by
  intro hok
  unfold receivePacket at hok
  rw [if_pos h7] at hok
  obtain ⟨ti, -, hok⟩ := bind_ok.mp hok
  obtain ⟨cur, -, hok⟩ := bind_ok.mp hok
  obtain ⟨s1, h1, hok⟩ := bind_ok.mp hok
  obtain ⟨s2, h2, -⟩ := bind_ok.mp hok
  obtain ⟨h0, rfl⟩ := Schedule.setTimeInterval_ok h1
  obtain ⟨h3, -⟩ := Schedule.setTimeInterval_ok h2
  rw [List.length_set] at h3
  omega

end AdaptationParams
end Nesting
