import Mathlib.Data.Finset.Insert
import Nesting.Common.Schedule
import Nesting.Lib.Agenda
import Nesting.Lib.Run

/-!
# ScheduleManager

The three state machines of `ScheduleManager.h`: the cycle timer, the list execution and the list
configuration.  Each has a self-message for a step at this instant and a clock timestamp for a step
later on; `Agenda` holds both.  A step of a machine goes to the state its next-state variable names.

* `updateCycleTimerState`, `updateListExecuteState`, `updateListConfigState`   the machines;
* `ManagerEvent`, `step`   messages in FIFO order, timestamps in the order of time and kind, time
                   passing, and the public calls, in any order;
* `*_cases`        what a step of a machine can do.
-/

set_option linter.unusedVariables false

namespace Nesting

inductive CycleTimerState where
  | UNDEFINED
  | CYCLE_IDLE
  | SET_CYCLE_START_TIME
  | START_CYCLE
  deriving DecidableEq, Repr

inductive ListExecuteState where
  | UNDEFINED
  | NEW_CYCLE
  | INIT
  | EXECUTE_CYCLE
  | DELAY
  | END_OF_CYCLE
  deriving DecidableEq, Repr

inductive ListConfigState where
  | UNDEFINED
  | CONFIG_PENDING
  | UPDATE_CONFIG
  | CONFIG_IDLE
  deriving DecidableEq, Repr

/-- the kinds of the timestamps, and the owners of the self-messages -/
inductive StateMachine where
  | CYCLE_TIMER
  | LIST_EXECUTE
  | LIST_CONFIG
  deriving DecidableEq, Repr

instance : Fintype StateMachine where
  elems := {.CYCLE_TIMER, .LIST_EXECUTE, .LIST_CONFIG}
  complete x := by cases x <;> decide

/-- what an observer sees of a manager -/
inductive ManagerRecord (T : Type) where
  /-- `setCycleStart(true)` -/
  | cycleStart (t : SimTime)
  /-- `executeOperation` with this list pointer, and the states the listeners were told -/
  | execute (t : SimTime) (index : Nat) (oldState newState : T)
  /-- the INIT action -/
  | init (t : SimTime) (oldState newState : T)
  /-- `operSchedule = adminSchedule` -/
  | update (t : SimTime)
  deriving DecidableEq, Repr

/-- the clock's rate -/
structure ClockRate where
  rate : ℚ
  rate_pos : 0 < rate

/-- `SimTime(1, SIMTIME_S) / clock->getClockRate()` -/
def ClockRate.resolution (clock : ClockRate) : SimTime := 1 / clock.rate

theorem ClockRate.resolution_pos (clock : ClockRate) : 0 < clock.resolution :=
  one_div_pos.mpr clock.rate_pos

structure ScheduleManager (T : Type) where
  enabled : Bool
  adminState : T
  adminSchedule : Schedule T
  listConfigState : ListConfigState
  nextListConfigState : ListConfigState
  configPending : Bool
  configChangeTime : SimTime
  configChangeErrorCounter : Nat
  operSchedule : Schedule T
  cycleTimerState : CycleTimerState
  nextCycleTimerState : CycleTimerState
  cycleStartTime : SimTime
  listExecuteState : ListExecuteState
  nextListExecuteState : ListExecuteState
  listPointer : Nat
  exitTimer : SimTime
  operState : T
  timeInterval : SimTime
  configChange : Bool
  cycleStart : Bool
  newConfigCT : Bool
  /-- the self-messages and the clock's timestamps -/
  agenda : Lib.Agenda StateMachine SimTime
  history : List (ManagerRecord T)

inductive ManagerEvent (T : Type) where
  /-- the first self-message of this instant -/
  | handleMessage
  /-- the first timestamp that is due -/
  | onTimestamp
  /-- the local time goes on to `t` -/
  | advance (t : SimTime)
  | setAdminState (adminState : T)
  /-- `none` is the null pointer -/
  | setAdminSchedule (adminSchedule : Option (Schedule T))
  | setEnabled (enabled : Bool)
  | setConfigChange (configChange : Bool)
  deriving DecidableEq

namespace ScheduleManager
variable {T : Type}

/-- the clock's local time -/
def now (m : ScheduleManager T) : SimTime := m.agenda.now

def rescheduleAt (m : ScheduleManager T) (x : StateMachine) : ScheduleManager T :=
  { m with agenda := m.agenda.reschedule x }

def subscribeTimestamp (m : ScheduleManager T) (t : SimTime) (x : StateMachine) :
    ScheduleManager T :=
  { m with agenda := m.agenda.subscribe t x }

def subscribeDelta (m : ScheduleManager T) (delta : SimTime) (x : StateMachine) :
    ScheduleManager T :=
  m.subscribeTimestamp (m.now + delta) x

def unsubscribeTimestamp (m : ScheduleManager T) (x : StateMachine) : ScheduleManager T :=
  { m with agenda := m.agenda.unsubscribe x }

def record (m : ScheduleManager T) (r : ManagerRecord T) : ScheduleManager T :=
  { m with history := m.history ++ [r] }

/-- `static_cast<uint64_t>(std::ceil(a / b))`, undefined below 0; the quotient of two times of 63
bits is never too large, and exact: it is one of doubles, see `ceilQuotient_rounded` -/
def ceilQuotient (a b : SimTime) : Sim Nat :=
  if b = 0 ∨ ⌈a / b⌉ < 0 then
    .error (.undefinedBehaviour "static_cast<uint64_t>(std::ceil(..))")
  else .ok ⌈a / b⌉.toNat

/-! ## the functions the machines call -/

def setCycleStart (m : ScheduleManager T) (cycleStart : Bool) : ScheduleManager T :=
  let m := { m with cycleStart }
  if cycleStart then
    let m := m.record (.cycleStart m.now)
    { m with nextListExecuteState := .NEW_CYCLE }.rescheduleAt .LIST_EXECUTE
  else m

def setNewConfigCT (m : ScheduleManager T) (newConfigCT : Bool) : ScheduleManager T :=
  let m := { m with newConfigCT }
  if newConfigCT then { m with nextCycleTimerState := .CYCLE_IDLE }.rescheduleAt .CYCLE_TIMER
  else m

def setConfigChange (m : ScheduleManager T) (configChange : Bool) : ScheduleManager T :=
  let m := { m with configChange }
  if configChange && m.enabled then
    { m with nextListConfigState := .CONFIG_PENDING }.rescheduleAt .LIST_CONFIG
  else m

/-- the cases of `setCycleStartTime` -/
def nextCycleStart (m : ScheduleManager T) : Sim SimTime :=
  let base := m.operSchedule.getBaseTime
  let cycle := m.operSchedule.getCycleTime
  let extension := m.operSchedule.getCycleTimeExtension
  if m.configPending = false then
    -- case a)
    if m.now ≤ base then .ok base
    -- case b)
    else do
      let n ← ceilQuotient (m.now - base) cycle
      return base + n * cycle
  -- case c): `n` is an `unsigned`
  else if m.now + cycle + extension < m.configChangeTime then do
    let n ← ceilQuotient (m.now - base) cycle
    return base + (n % 2 ^ 32 : Nat) * cycle
  -- case d)
  else .ok m.configChangeTime

def setCycleStartTime (m : ScheduleManager T) : Sim (ScheduleManager T) := do
  let cycleStartTime ← m.nextCycleStart
  ASSERT (m.now ≤ cycleStartTime) "cycleStartTime >= currentTime"
  return { m with cycleStartTime }

/-- the cases of `setConfigChangeTime`, and whether the base time is past -/
def nextConfigChange (m : ScheduleManager T) : Sim (SimTime × Bool) :=
  let base := m.adminSchedule.getBaseTime
  let cycle := m.adminSchedule.getCycleTime
  -- case a)
  if m.now ≤ base then .ok (base, false)
  -- cases b) and c)
  else do
    let n ← ceilQuotient (m.now - base) cycle
    return (base + n * cycle, true)

def setConfigChangeTime (m : ScheduleManager T) : Sim (ScheduleManager T) := do
  let (configChangeTime, past) ← m.nextConfigChange
  ASSERT (m.now ≤ configChangeTime) "configChangeTime >= currentTime"
  -- the error is counted in case c) only
  return { m with
    configChangeTime
    configChangeErrorCounter := m.configChangeErrorCounter + (past && m.enabled).toNat }

/-- the state and the interval that `executeOperation` goes to -/
def operationAt (clock : ClockRate) (m : ScheduleManager T) : Sim (T × SimTime) :=
  if m.operSchedule.getControlListLength ≤ 0 then
    .ok (m.adminState, m.operSchedule.getCycleTime)
  else do
    ASSERT (m.listPointer < m.operSchedule.getControlListLength)
      "listPointer < operSchedule->getControlListLength()"
    let operState ← m.operSchedule.getScheduledObject m.listPointer
    let timeInterval ← m.operSchedule.getTimeInterval m.listPointer
    -- an interval of zero is one time unit
    return (operState, if timeInterval ≤ 0 then clock.resolution else timeInterval)

def executeOperation (clock : ClockRate) (m : ScheduleManager T) : Sim (ScheduleManager T) := do
  let (operState, timeInterval) ← m.operationAt clock
  return { m with operState, timeInterval }

/-- where the list execution goes after an operation, with the list pointer already moved on -/
def afterOperation (m : ScheduleManager T) : Sim ListExecuteState :=
  if m.exitTimer ≤ 0 ∧ m.listPointer < m.operSchedule.getControlListLength then
    .ok .EXECUTE_CYCLE
  else if 0 < m.exitTimer ∧ m.listPointer < m.operSchedule.getControlListLength then
    .ok .DELAY
  else do
    ASSERT (m.operSchedule.getControlListLength ≤ m.listPointer)
      "listPointer >= operSchedule->getControlListLength()"
    return .END_OF_CYCLE

/-! ## the machines -/

def updateCycleTimerState (clock : ClockRate) (m : ScheduleManager T) : Sim (ScheduleManager T) :=
  let m := m.unsubscribeTimestamp .CYCLE_TIMER
  let m := { m with cycleTimerState := m.nextCycleTimerState }
  if m.enabled then
    match m.cycleTimerState with
    | .CYCLE_IDLE =>
      let m := (m.setCycleStart false).setNewConfigCT false
      .ok ({ m with nextCycleTimerState := .SET_CYCLE_START_TIME }.rescheduleAt .CYCLE_TIMER)
    | .SET_CYCLE_START_TIME => do
      let m ← m.setCycleStartTime
      let m := { m with nextCycleTimerState := .START_CYCLE }
      return m.subscribeTimestamp m.cycleStartTime .CYCLE_TIMER
    | .START_CYCLE =>
      let m := m.setCycleStart true
      let m := { m with nextCycleTimerState := .SET_CYCLE_START_TIME }
      .ok (m.subscribeDelta clock.resolution .CYCLE_TIMER)
    | .UNDEFINED => .ok m
  else .ok m

def updateListExecuteState (clock : ClockRate) (m : ScheduleManager T) : Sim (ScheduleManager T) :=
  let m := m.unsubscribeTimestamp .LIST_EXECUTE
  let m := { m with listExecuteState := m.nextListExecuteState }
  if m.enabled then
    match m.listExecuteState with
    | .NEW_CYCLE =>
      let m := m.setCycleStart false
      .ok ({ m with listPointer := 0, nextListExecuteState := .EXECUTE_CYCLE }.rescheduleAt
        .LIST_EXECUTE)
    | .EXECUTE_CYCLE => do
      let oldState := m.operState
      let m ← m.executeOperation clock
      let m := { m with exitTimer := m.timeInterval }
      let m := m.record (.execute m.now m.listPointer oldState m.operState)
      let m := { m with listPointer := m.listPointer + 1 }
      let nextListExecuteState ← m.afterOperation
      return { m with nextListExecuteState }.rescheduleAt .LIST_EXECUTE
    | .DELAY =>
      let m := { m with nextListExecuteState := .EXECUTE_CYCLE }
      .ok (m.subscribeDelta m.exitTimer .LIST_EXECUTE)
    | .INIT =>
      let oldState := m.operState
      let m := { m with operState := m.adminState }
      let m := m.record (.init m.now oldState m.operState)
      .ok ({ m with exitTimer := 0, listPointer := 0, nextListExecuteState := .END_OF_CYCLE
        }.rescheduleAt .LIST_EXECUTE)
    | .END_OF_CYCLE => .ok m
    | .UNDEFINED => .ok m
  else .ok m

def updateListConfigState (m : ScheduleManager T) : Sim (ScheduleManager T) :=
  let m := m.unsubscribeTimestamp .LIST_CONFIG
  let m := { m with listConfigState := m.nextListConfigState }
  if m.enabled then
    match m.listConfigState with
    | .CONFIG_PENDING => do
      let m := m.setConfigChange false
      let m ← m.setConfigChangeTime
      let m := { m with configPending := true, nextListConfigState := .UPDATE_CONFIG }
      return m.subscribeTimestamp m.configChangeTime .LIST_CONFIG
    | .UPDATE_CONFIG =>
      let m := { m with operSchedule := m.adminSchedule }.record (.update m.now)
      let m := m.setNewConfigCT true
      .ok ({ m with nextListConfigState := .CONFIG_IDLE }.rescheduleAt .LIST_CONFIG)
    | .CONFIG_IDLE => .ok { m with configPending := false }
    | .UNDEFINED => .ok m
  else .ok m

/-! ## the events -/

def handleMessage (clock : ClockRate) (m : ScheduleManager T) : Sim (ScheduleManager T) :=
  match m.agenda.messages with
  | [] => .ok m
  | x :: _ =>
    let m := { m with agenda := m.agenda.pop }
    match x with
    | .CYCLE_TIMER => m.updateCycleTimerState clock
    | .LIST_EXECUTE => m.updateListExecuteState clock
    | .LIST_CONFIG => m.updateListConfigState

/-- the due timestamp of the smallest kind -/
def firstTimestamp (m : ScheduleManager T) : Option StateMachine :=
  m.agenda.firstDue [.CYCLE_TIMER, .LIST_EXECUTE, .LIST_CONFIG]

def onTimestamp (m : ScheduleManager T) : ScheduleManager T :=
  match m.firstTimestamp with
  | none => m
  | some x => { m with agenda := m.agenda.deliver x }

def advance (m : ScheduleManager T) (t : SimTime) : ScheduleManager T :=
  if m.agenda.CanAdvance t then { m with agenda := m.agenda.advance t } else m

def setAdminSchedule (m : ScheduleManager T) (adminSchedule : Option (Schedule T)) :
    Sim (ScheduleManager T) :=
  match adminSchedule with
  | none => .error (.runtimeError "adminSchedule must not be nullptr")
  | some s =>
    if s.getCycleTime ≤ 0 then
      .error (.runtimeError "Can't load schedule with cycle time of zero.")
    else .ok { m with adminSchedule := s }

def setEnabled (m : ScheduleManager T) (enabled : Bool) : ScheduleManager T :=
  let m := { m with enabled }
  if enabled = false then
    let m := { m with nextCycleTimerState := .CYCLE_IDLE }.rescheduleAt .CYCLE_TIMER
    let m := { m with nextListExecuteState := .INIT }.rescheduleAt .LIST_EXECUTE
    { m with nextListConfigState := .CONFIG_IDLE }.rescheduleAt .LIST_CONFIG
  else if m.configChange && enabled then
    { m with nextListConfigState := .CONFIG_PENDING }.rescheduleAt .LIST_CONFIG
  else m

def step (clock : ClockRate) (m : ScheduleManager T) : ManagerEvent T → Sim (ScheduleManager T)
  | .handleMessage => m.handleMessage clock
  | .onTimestamp => .ok m.onTimestamp
  | .advance t => .ok (m.advance t)
  | .setAdminState adminState => .ok { m with adminState }
  | .setAdminSchedule adminSchedule => m.setAdminSchedule adminSchedule
  | .setEnabled enabled => .ok (m.setEnabled enabled)
  | .setConfigChange configChange => .ok (m.setConfigChange configChange)

/-- the members before `begin()`, at the local time `t0` -/
def initial (adminState : T) (schedule : Schedule T) (t0 : SimTime) : ScheduleManager T where
  enabled := true
  adminState := adminState
  adminSchedule := schedule
  listConfigState := .UNDEFINED
  nextListConfigState := .UNDEFINED
  configPending := false
  configChangeTime := 0
  configChangeErrorCounter := 0
  operSchedule := schedule
  cycleTimerState := .UNDEFINED
  nextCycleTimerState := .UNDEFINED
  cycleStartTime := 0
  listExecuteState := .UNDEFINED
  nextListExecuteState := .UNDEFINED
  listPointer := 0
  exitTimer := 0
  operState := adminState
  timeInterval := 0
  configChange := false
  cycleStart := false
  newConfigCT := false
  agenda := ⟨t0, [], List.nodup_nil, fun _ => none⟩
  history := []

/-- `begin()` -/
def beginMachines (m : ScheduleManager T) : ScheduleManager T :=
  let m := { m with nextCycleTimerState := .CYCLE_IDLE }.rescheduleAt .CYCLE_TIMER
  let m := { m with nextListExecuteState := .INIT }.rescheduleAt .LIST_EXECUTE
  { m with nextListConfigState := .CONFIG_IDLE }.rescheduleAt .LIST_CONFIG

/-- the manager after `initialize()` at the local time `t0` -/
def start (adminState : T) (schedule : Schedule T) (t0 : SimTime) : ScheduleManager T :=
  (initial adminState schedule t0).beginMachines

/-! ## what a step of a machine can do -/

theorem setCycleStartTime_ok {m m' : ScheduleManager T} :
    m.setCycleStartTime = .ok m' ↔
      ∃ t, m.nextCycleStart = .ok t ∧ m.now ≤ t ∧ m' = { m with cycleStartTime := t } := by
  unfold setCycleStartTime
  rw [bind_ok]
  refine exists_congr fun t => and_congr_right fun _ => ?_
  rw [bind_ok]
  constructor
  · rintro ⟨u, h1, h2⟩
    cases h2
    exact ⟨of_decide_eq_true (ASSERT_ok.mp h1), rfl⟩
  · rintro ⟨h1, rfl⟩
    exact ⟨(), ASSERT_ok.mpr (decide_eq_true h1), rfl⟩

/-- the steps of the cycle timer -/
inductive CycleTimerStep (clock : ClockRate) (m : ScheduleManager T) : ScheduleManager T → Prop
  | rest (h : m.enabled = false ∨ m.nextCycleTimerState = .UNDEFINED) :
      CycleTimerStep clock m { m with
        cycleTimerState := m.nextCycleTimerState
        agenda := m.agenda.unsubscribe .CYCLE_TIMER }
  | idle (he : m.enabled = true) (hn : m.nextCycleTimerState = .CYCLE_IDLE) :
      CycleTimerStep clock m { m with
        cycleTimerState := m.nextCycleTimerState
        nextCycleTimerState := .SET_CYCLE_START_TIME
        cycleStart := false
        newConfigCT := false
        agenda := (m.agenda.unsubscribe .CYCLE_TIMER).reschedule .CYCLE_TIMER }
  | setStartTime (he : m.enabled = true) (hn : m.nextCycleTimerState = .SET_CYCLE_START_TIME)
      (t : SimTime) (ht : m.nextCycleStart = .ok t) (hle : m.now ≤ t) :
      CycleTimerStep clock m { m with
        cycleTimerState := m.nextCycleTimerState
        nextCycleTimerState := .START_CYCLE
        cycleStartTime := t
        agenda := (m.agenda.unsubscribe .CYCLE_TIMER).subscribe t .CYCLE_TIMER }
  | startCycle (he : m.enabled = true) (hn : m.nextCycleTimerState = .START_CYCLE) :
      CycleTimerStep clock m { m with
        cycleTimerState := m.nextCycleTimerState
        nextCycleTimerState := .SET_CYCLE_START_TIME
        nextListExecuteState := .NEW_CYCLE
        cycleStart := true
        history := m.history ++ [.cycleStart m.now]
        agenda := ((m.agenda.unsubscribe .CYCLE_TIMER).reschedule .LIST_EXECUTE).subscribe
          (m.now + clock.resolution) .CYCLE_TIMER }

theorem updateCycleTimerState_ok {clock : ClockRate} {m m' : ScheduleManager T}
    (h : m.updateCycleTimerState clock = .ok m') : CycleTimerStep clock m m' := by
  unfold updateCycleTimerState unsubscribeTimestamp at h
  dsimp only at h
  split at h
  · rename_i he
    split at h
    · rename_i hn
      cases h
      exact .idle he hn
    · rename_i hn
      obtain ⟨m1, h1, h2⟩ := bind_ok.mp h
      obtain ⟨t, ht, hle, rfl⟩ := setCycleStartTime_ok.mp h1
      cases h2
      exact .setStartTime he hn t ht hle
    · rename_i hn
      cases h
      exact .startCycle he hn
    · rename_i hn
      cases h
      exact .rest (.inr hn)
  · rename_i he
    cases h
    exact .rest (.inl (Bool.eq_false_iff.mpr he))

theorem executeOperation_ok {clock : ClockRate} {m m' : ScheduleManager T} :
    m.executeOperation clock = .ok m' ↔
      ∃ s i, m.operationAt clock = .ok (s, i) ∧ m' = { m with operState := s, timeInterval := i } := by
  unfold executeOperation
  rw [bind_ok]
  constructor
  · rintro ⟨⟨s, i⟩, h1, h2⟩
    cases h2
    exact ⟨s, i, h1, rfl⟩
  · rintro ⟨s, i, h1, rfl⟩
    exact ⟨(s, i), h1, rfl⟩

/-- the assertion in `updateListExecuteState` holds -/
theorem afterOperation_eq (m : ScheduleManager T) :
    m.afterOperation = .ok (if m.operSchedule.controlList.length ≤ m.listPointer then .END_OF_CYCLE
      else if m.exitTimer ≤ 0 then .EXECUTE_CYCLE else .DELAY) := by
  unfold afterOperation Schedule.getControlListLength
  by_cases hl : m.operSchedule.controlList.length ≤ m.listPointer
  · have hlt : ∀ c : Prop, ¬(c ∧ m.listPointer < m.operSchedule.controlList.length) :=
      fun c hc => absurd hc.2 (not_lt.mpr hl)
    rw [if_pos hl, if_neg (hlt _), if_neg (hlt _), decide_eq_true hl]
    rfl
  · by_cases he : m.exitTimer ≤ 0
    · rw [if_neg hl, if_pos he, if_pos ⟨he, not_le.mp hl⟩]
    · rw [if_neg hl, if_neg he, if_neg (fun h => he h.1), if_pos ⟨not_le.mp he, not_le.mp hl⟩]

/-- the steps of the list execution -/
inductive ListExecuteStep (clock : ClockRate) (m : ScheduleManager T) : ScheduleManager T → Prop
  | rest (h : m.enabled = false ∨ m.nextListExecuteState = .END_OF_CYCLE ∨
        m.nextListExecuteState = .UNDEFINED) :
      ListExecuteStep clock m { m with
        listExecuteState := m.nextListExecuteState
        agenda := m.agenda.unsubscribe .LIST_EXECUTE }
  | newCycle (he : m.enabled = true) (hn : m.nextListExecuteState = .NEW_CYCLE) :
      ListExecuteStep clock m { m with
        listExecuteState := m.nextListExecuteState
        nextListExecuteState := .EXECUTE_CYCLE
        listPointer := 0
        cycleStart := false
        agenda := (m.agenda.unsubscribe .LIST_EXECUTE).reschedule .LIST_EXECUTE }
  | execute (he : m.enabled = true) (hn : m.nextListExecuteState = .EXECUTE_CYCLE)
      (s : T) (i : SimTime) (hs : m.operationAt clock = .ok (s, i)) :
      ListExecuteStep clock m { m with
        listExecuteState := m.nextListExecuteState
        nextListExecuteState :=
          if m.operSchedule.controlList.length ≤ m.listPointer + 1 then .END_OF_CYCLE
          else if i ≤ 0 then .EXECUTE_CYCLE else .DELAY
        operState := s
        timeInterval := i
        exitTimer := i
        listPointer := m.listPointer + 1
        history := m.history ++ [.execute m.now m.listPointer m.operState s]
        agenda := (m.agenda.unsubscribe .LIST_EXECUTE).reschedule .LIST_EXECUTE }
  | delay (he : m.enabled = true) (hn : m.nextListExecuteState = .DELAY) :
      ListExecuteStep clock m { m with
        listExecuteState := m.nextListExecuteState
        nextListExecuteState := .EXECUTE_CYCLE
        agenda := (m.agenda.unsubscribe .LIST_EXECUTE).subscribe (m.now + m.exitTimer)
          .LIST_EXECUTE }
  | init (he : m.enabled = true) (hn : m.nextListExecuteState = .INIT) :
      ListExecuteStep clock m { m with
        listExecuteState := m.nextListExecuteState
        nextListExecuteState := .END_OF_CYCLE
        operState := m.adminState
        exitTimer := 0
        listPointer := 0
        history := m.history ++ [.init m.now m.operState m.adminState]
        agenda := (m.agenda.unsubscribe .LIST_EXECUTE).reschedule .LIST_EXECUTE }

theorem updateListExecuteState_ok {clock : ClockRate} {m m' : ScheduleManager T}
    (h : m.updateListExecuteState clock = .ok m') : ListExecuteStep clock m m' := by
  unfold updateListExecuteState unsubscribeTimestamp at h
  dsimp only at h
  split at h
  · rename_i he
    split at h
    · rename_i hn
      cases h
      exact .newCycle he hn
    · rename_i hn
      obtain ⟨m1, h1, h2⟩ := bind_ok.mp h
      obtain ⟨s, i, hs, rfl⟩ := executeOperation_ok.mp h1
      obtain ⟨next, hnext, h3⟩ := bind_ok.mp h2
      rw [afterOperation_eq] at hnext
      cases hnext
      cases h3
      exact .execute he hn s i hs
    · rename_i hn
      cases h
      exact .delay he hn
    · rename_i hn
      cases h
      exact .init he hn
    · rename_i hn
      cases h
      exact .rest (.inr (.inl hn))
    · rename_i hn
      cases h
      exact .rest (.inr (.inr hn))
  · rename_i he
    cases h
    exact .rest (.inl (Bool.eq_false_iff.mpr he))

/-- the steps of the list configuration -/
inductive ListConfigStep (m : ScheduleManager T) : ScheduleManager T → Prop
  | rest (h : m.enabled = false ∨ m.nextListConfigState = .UNDEFINED) :
      ListConfigStep m { m with
        listConfigState := m.nextListConfigState
        agenda := m.agenda.unsubscribe .LIST_CONFIG }
  | pending (he : m.enabled = true) (hn : m.nextListConfigState = .CONFIG_PENDING)
      (t : SimTime) (past : Bool) (ht : m.nextConfigChange = .ok (t, past)) (hle : m.now ≤ t) :
      ListConfigStep m { m with
        listConfigState := m.nextListConfigState
        nextListConfigState := .UPDATE_CONFIG
        configChange := false
        configPending := true
        configChangeTime := t
        configChangeErrorCounter := m.configChangeErrorCounter + (past && m.enabled).toNat
        agenda := (m.agenda.unsubscribe .LIST_CONFIG).subscribe t .LIST_CONFIG }
  | update (he : m.enabled = true) (hn : m.nextListConfigState = .UPDATE_CONFIG) :
      ListConfigStep m { m with
        listConfigState := m.nextListConfigState
        nextListConfigState := .CONFIG_IDLE
        operSchedule := m.adminSchedule
        newConfigCT := true
        nextCycleTimerState := .CYCLE_IDLE
        history := m.history ++ [.update m.now]
        agenda := ((m.agenda.unsubscribe .LIST_CONFIG).reschedule .CYCLE_TIMER).reschedule
          .LIST_CONFIG }
  | idle (he : m.enabled = true) (hn : m.nextListConfigState = .CONFIG_IDLE) :
      ListConfigStep m { m with
        listConfigState := m.nextListConfigState
        configPending := false
        agenda := m.agenda.unsubscribe .LIST_CONFIG }

theorem setConfigChangeTime_ok {m m' : ScheduleManager T} :
    m.setConfigChangeTime = .ok m' ↔ ∃ t past, m.nextConfigChange = .ok (t, past) ∧ m.now ≤ t ∧
      m' = { m with
        configChangeTime := t
        configChangeErrorCounter := m.configChangeErrorCounter + (past && m.enabled).toNat } := by
  unfold setConfigChangeTime
  rw [bind_ok]
  constructor
  · rintro ⟨⟨t, past⟩, h1, h2⟩
    obtain ⟨u, h3, h4⟩ := bind_ok.mp h2
    cases h4
    exact ⟨t, past, h1, of_decide_eq_true (ASSERT_ok.mp h3), rfl⟩
  · rintro ⟨t, past, h1, h2, rfl⟩
    exact ⟨(t, past), h1, bind_ok.mpr ⟨(), ASSERT_ok.mpr (decide_eq_true h2), rfl⟩⟩

theorem updateListConfigState_ok {m m' : ScheduleManager T}
    (h : m.updateListConfigState = .ok m') : ListConfigStep m m' := by
  unfold updateListConfigState unsubscribeTimestamp at h
  dsimp only at h
  split at h
  · rename_i he
    split at h
    · rename_i hn
      obtain ⟨m1, h1, h2⟩ := bind_ok.mp h
      obtain ⟨t, past, ht, hle, rfl⟩ := setConfigChangeTime_ok.mp h1
      cases h2
      exact .pending he hn t past ht hle
    · rename_i hn
      cases h
      exact .update he hn
    · rename_i hn
      cases h
      exact .idle he hn
    · rename_i hn
      cases h
      exact .rest (.inr hn)
  · rename_i he
    cases h
    exact .rest (.inl (Bool.eq_false_iff.mpr he))

/-! ## when a machine does not fail -/

theorem updateCycleTimerState_total {clock : ClockRate} {m : ScheduleManager T}
    (h : m.nextCycleTimerState = .SET_CYCLE_START_TIME →
      ∃ t, m.nextCycleStart = .ok t ∧ m.now ≤ t) :
    ∃ m', m.updateCycleTimerState clock = .ok m' := by
  unfold updateCycleTimerState unsubscribeTimestamp
  dsimp only
  split
  · split
    · exact ⟨_, rfl⟩
    · rename_i hn
      obtain ⟨t, ht, hle⟩ := h hn
      exact ⟨_, bind_ok.mpr ⟨_, setCycleStartTime_ok.mpr ⟨t, ht, hle, rfl⟩, rfl⟩⟩
    · exact ⟨_, rfl⟩
    · exact ⟨_, rfl⟩
  · exact ⟨_, rfl⟩

theorem updateListExecuteState_total {clock : ClockRate} {m : ScheduleManager T}
    (h : m.nextListExecuteState = .EXECUTE_CYCLE → ∃ o, m.operationAt clock = .ok o) :
    ∃ m', m.updateListExecuteState clock = .ok m' := by
  unfold updateListExecuteState unsubscribeTimestamp
  dsimp only
  split
  · split
    · exact ⟨_, rfl⟩
    · rename_i hn
      obtain ⟨⟨s, i⟩, ho⟩ := h hn
      exact ⟨_, bind_ok.mpr ⟨_, executeOperation_ok.mpr ⟨s, i, ho, rfl⟩,
        bind_ok.mpr ⟨_, afterOperation_eq _, rfl⟩⟩⟩
    · exact ⟨_, rfl⟩
    · exact ⟨_, rfl⟩
    · exact ⟨_, rfl⟩
    · exact ⟨_, rfl⟩
  · exact ⟨_, rfl⟩

theorem updateListConfigState_total {m : ScheduleManager T}
    (h : m.nextListConfigState = .CONFIG_PENDING →
      ∃ t past, m.nextConfigChange = .ok (t, past) ∧ m.now ≤ t) :
    ∃ m', m.updateListConfigState = .ok m' := by
  unfold updateListConfigState unsubscribeTimestamp
  dsimp only
  split
  · split
    · rename_i hn
      obtain ⟨t, past, ht, hle⟩ := h hn
      exact ⟨_, bind_ok.mpr ⟨_, setConfigChangeTime_ok.mpr ⟨t, past, ht, hle, rfl⟩, rfl⟩⟩
    · exact ⟨_, rfl⟩
    · exact ⟨_, rfl⟩
    · exact ⟨_, rfl⟩
  · exact ⟨_, rfl⟩

/-! ## what an event can do -/

/-- the manager with its first message taken out -/
def popped (m : ScheduleManager T) : ScheduleManager T := { m with agenda := m.agenda.pop }

/-- the step of the machine `x` -/
def MachineStep (clock : ClockRate) (m m' : ScheduleManager T) : StateMachine → Prop
  | .CYCLE_TIMER => CycleTimerStep clock m m'
  | .LIST_EXECUTE => ListExecuteStep clock m m'
  | .LIST_CONFIG => ListConfigStep m m'

theorem handleMessage_ok {clock : ClockRate} {m m' : ScheduleManager T}
    (h : m.handleMessage clock = .ok m') :
    m.agenda.messages = [] ∧ m' = m ∨
      ∃ x rest, m.agenda.messages = x :: rest ∧ MachineStep clock m.popped m' x := by
  unfold handleMessage at h
  split at h
  · rename_i hm
    cases h
    exact .inl ⟨hm, rfl⟩
  · rename_i x rest hm
    refine .inr ⟨x, rest, hm, ?_⟩
    cases x with
    | CYCLE_TIMER => exact updateCycleTimerState_ok h
    | LIST_EXECUTE => exact updateListExecuteState_ok h
    | LIST_CONFIG => exact updateListConfigState_ok h

theorem onTimestamp_cases (m : ScheduleManager T) :
    m.onTimestamp = m ∨ ∃ x, m.firstTimestamp = some x ∧ m.agenda.timestamps x = some m.now ∧
      m.onTimestamp = { m with agenda := m.agenda.deliver x } := by
  unfold onTimestamp
  split
  · exact .inl rfl
  · rename_i x hx
    exact .inr ⟨x, hx, Lib.Agenda.firstDue_eq_some hx, rfl⟩

theorem advance_cases (m : ScheduleManager T) (t : SimTime) :
    m.advance t = m ∨ m.agenda.CanAdvance t ∧
      m.advance t = { m with agenda := m.agenda.advance t } := by
  unfold advance
  split
  · rename_i h
    exact .inr ⟨h, rfl⟩
  · exact .inl rfl

end ScheduleManager
end Nesting
