import Mathlib.Tactic.DeriveFintype
import Nesting.Common.Schedule
import Nesting.Ieee8021q

/-!
# GateController

The gate controller keeps three schedules: `currentSchedule` is executed, `newSchedule` is what the
adaptation rewrites, and `nextSchedule` is the pointer the look-ahead follows.  Until the first
`updateSchedule` that pointer leads to the schedule that was loaded, from then on to the very object
`newSchedule` leads to; `NextSchedule` records which.

Clock, MAC and gates are parameters: the local time of a call, the tick length, the transmit rate and
what the controller reads of a preemptable MAC.  Log output and the result file are left out.
-/

set_option linter.unusedVariables false

namespace Nesting

/-- where the pointer `nextSchedule` leads -/
inductive NextSchedule where
  | null
  /-- to the schedule `loadScheduleOrDefault` has parsed -/
  | loaded (s : Schedule GateBitvector)
  /-- to the object `newSchedule` -/
  | newSchedule
  deriving DecidableEq

structure GateController where
  currentSchedule : Schedule GateBitvector
  nextSchedule : NextSchedule
  newSchedule : Schedule GateBitvector
  scheduleIndex : Nat
  cycleStart : SimTime
  cycleStart_for_autoIntervalDecrease : SimTime
  lastChange : SimTime
  isIncreased : Bool
  isSelected : Bool
  deriving DecidableEq

structure TransmissionGate where
  index : Nat
  isExpressQueue : Bool
  deriving DecidableEq

/-- the parameters and the constant surroundings of a controller -/
structure GateConfig where
  transmissionGates : List TransmissionGate
  enableHoldAndRelease : Bool
  /-- `mac->getTxRate()`, bits per second -/
  transmitRate : ℚ
  /-- `EtherMacBase` takes the rates of its table, which ends at 400 Gbit/s -/
  transmitRate_le : transmitRate ≤ 10 ^ 12
  /-- `IClock::getClockRate()`, the length of a tick -/
  clockRate : SimTime

/-- `SimTime(1, SIMTIME_S) / transmitRate` -/
def GateConfig.bitTime (cfg : GateConfig) : SimTime := timeForOneBit cfg.transmitRate

theorem GateConfig.bitTime_pos {cfg : GateConfig} (h : 0 < cfg.transmitRate) : 0 < cfg.bitTime :=
  timeForOneBit_pos h cfg.transmitRate_le

/-- what the controller reads of a preemptable MAC -/
structure PreemptMac where
  onHold : Bool
  holdAdvance : SimTime
  deriving DecidableEq

/-- what `updateSchedule` does to the other modules -/
structure Applied where
  /-- `preemptMacModule->release()` -/
  release : Bool
  /-- `setGateStates(bitvector, releaseNeeded)` -/
  bitvector : GateBitvector
  releaseNeeded : Bool
  /-- the argument of `clock->subscribeTick`, before its conversion to an integer -/
  idleTicks : Option ℚ
  /-- the argument of `preemptMacModule->hold` -/
  hold : Option SimTime
  deriving DecidableEq

/-- the attributes and entries of an `initialSchedule` element -/
structure GateScheduleXml where
  cycleTime : Option SimTime
  baseTime : Option SimTime
  entries : List (ControlListEntry GateBitvector)

/-- `ScheduleFactory::createGateBitvectorSchedule` -/
def createGateBitvectorSchedule (xml : GateScheduleXml) : Sim (Schedule GateBitvector) :=
  let s := match xml.cycleTime with
    | some t => (Schedule.new).setCycleTime t
    | none => Schedule.new
  let s := match xml.baseTime with
    | some t => s.setBaseTime t
    | none => s.setBaseTime 0
  s.addControlListEntries xml.entries

/-- gate `g` in entry `m`, closed past the end of the list -/
def Schedule.openAt (s : Schedule GateBitvector) (g m : Nat) : Bool :=
  s.controlList[m]?.any fun e => e.scheduledObject.test g

theorem Schedule.openAt_of {s : Schedule GateBitvector} {g m : Nat}
    {e : ControlListEntry GateBitvector} (h : s.controlList[m]? = some e) :
    s.openAt g m = e.scheduledObject.test g := by
  rw [openAt, h]
  rfl

namespace GateController

/-- the object behind the pointer `nextSchedule` -/
def next (gc : GateController) : Option (Schedule GateBitvector) :=
  match gc.nextSchedule with
  | .null => none
  | .loaded s => some s
  | .newSchedule => some gc.newSchedule

/-- `loadScheduleOrDefault` -/
def loadScheduleOrDefault (gc : GateController) (xml : GateScheduleXml) : Sim GateController := do
  let schedule ← createGateBitvectorSchedule xml
  if schedule.getControlListLength = 0 then
    .error (.runtimeError "Tried to load schedule with zero entries.")
  let copy ← schedule.copySchedule
  return { gc with nextSchedule := .loaded schedule, newSchedule := copy }

/-- the members after the assignments of `initialize`, before the schedule is loaded; the default
schedule is one second of open gates and its cycle time is left at zero -/
def constructed (simTime : SimTime) : GateController where
  currentSchedule := { (Schedule.new : Schedule GateBitvector) with
    controlList := [⟨1, .allOpen⟩], sumTimeIntervals := 1 }
  nextSchedule := .null
  newSchedule := Schedule.new
  scheduleIndex := 0
  cycleStart := 0
  cycleStart_for_autoIntervalDecrease := 0
  lastChange := simTime
  isIncreased := false
  isSelected := false

/-- `initialize(INITSTAGE_LINK_LAYER)`: the controller and the idle ticks it subscribes for -/
def initializeLinkLayer (cfg : GateConfig) (xml : GateScheduleXml) (simTime : SimTime) :
    Sim (GateController × ℚ) := do
  let gc ← (constructed simTime).loadScheduleOrDefault xml
  match gc.next with
  | some s => return (gc, s.getBaseTime / cfg.clockRate)
  | none => .error (.undefinedBehaviour "nextSchedule->getBaseTime()")

/-- `scheduleNextTickEvent`: the rest of the cycle if the entry is longer, else the entry -/
def scheduleNextTickEvent (gc : GateController) (now : SimTime) : Sim SimTime := do
  let interval ← gc.currentSchedule.getTimeInterval gc.scheduleIndex
  if now + interval > gc.cycleStart + gc.currentSchedule.getCycleTime then
    return gc.cycleStart + gc.currentSchedule.getCycleTime - now
  else
    return interval

/-! ## updateSchedule -/

/-- `scheduleIndex == 0 && nextSchedule` -/
def Loads (gc : GateController) : Prop := gc.scheduleIndex = 0 ∧ gc.nextSchedule ≠ .null

instance (gc : GateController) : Decidable gc.Loads := inferInstanceAs (Decidable (_ ∧ _))

/-- the first part of `updateSchedule`: load `newSchedule` at index 0 -/
def swapSchedule (gc : GateController) : Sim GateController :=
  if gc.Loads then do
    let copy ← gc.newSchedule.copySchedule
    return { gc with
      currentSchedule := copy
      nextSchedule := .newSchedule
      isIncreased := false
      isSelected := false }
  else
    return gc

/-- index 0 at the end of the cycle -/
def endOfCycle (gc : GateController) (now : SimTime) : GateController :=
  if gc.cycleStart + gc.currentSchedule.getCycleTime = now ∧ gc.currentSchedule.getCycleTime ≠ 0 then
    { gc with scheduleIndex := 0 }
  else
    gc

/-- index 0 starts a cycle -/
def startOfCycle (gc : GateController) (now : SimTime) : GateController :=
  if gc.scheduleIndex = 0 then
    { gc with cycleStart := now, cycleStart_for_autoIntervalDecrease := now }
  else
    gc

/-- is an express gate open in `bitvector`? -/
def someExpressGateOpen (cfg : GateConfig) (bitvector : GateBitvector) : Bool :=
  cfg.transmissionGates.any fun g => bitvector.test g.index && g.isExpressQueue

/-- the bit vector whose express gates are held for -/
def nextVector (gc : GateController) : Sim GateBitvector :=
  match gc.next with
  | some next =>
    if gc.scheduleIndex = gc.currentSchedule.getControlListLength - 1 then next.getScheduledObject 0
    else gc.currentSchedule.getScheduledObject
      ((gc.scheduleIndex + 1) % gc.currentSchedule.getControlListLength)
  | none => gc.currentSchedule.getScheduledObject
      ((gc.scheduleIndex + 1) % gc.currentSchedule.getControlListLength)

/-- the part of `updateSchedule` that applies the entry at `scheduleIndex` -/
def applyEntry (cfg : GateConfig) (mac : Option PreemptMac) (now : SimTime) (gc : GateController) :
    Sim (GateController × Applied) := do
  let bitvector ← gc.currentSchedule.getScheduledObject gc.scheduleIndex
  let currentlyOnHold := match mac with
    | some m => m.onHold
    | none => false
  let releaseNeeded := cfg.enableHoldAndRelease && !someExpressGateOpen cfg bitvector
    && currentlyOnHold
  let idle ← gc.scheduleNextTickEvent now
  let hold ← if cfg.enableHoldAndRelease then do
      let next ← gc.nextVector
      let interval ← gc.currentSchedule.getTimeInterval gc.scheduleIndex
      match mac with
      | some m => pure (if someExpressGateOpen cfg next then some (interval - m.holdAdvance) else none)
      | none => pure none
    else pure none
  let gc' := { gc with
    lastChange := now
    scheduleIndex := (gc.scheduleIndex + 1) % gc.currentSchedule.getControlListLength }
  let applied : Applied := {
    release := releaseNeeded && mac.isSome
    bitvector
    releaseNeeded
    idleTicks := some (idle / cfg.clockRate)
    hold }
  return (gc', applied)

/-- `updateSchedule` at the local time `now` -/
def updateSchedule (cfg : GateConfig) (mac : Option PreemptMac) (now : SimTime)
    (gc : GateController) : Sim (GateController × Applied) := do
  let gc1 ← gc.swapSchedule
  if gc.Loads ∧ gc1.currentSchedule.isEmpty then
    let applied : Applied := {
      release := false
      bitvector := .allOpen
      releaseNeeded := true
      idleTicks := none
      hold := none }
    return (gc1, applied)
  else
    applyEntry cfg mac now ((gc1.endOfCycle now).startOfCycle now)

/-! ## calculateMaxBit -/

/-- the locals of the look-ahead loop and the member it writes -/
structure Look where
  bits : ℚ
  touchedNextSchedule : Bool
  currentIndex : Nat
  cumSumGateLength : SimTime
  timeSinceLastChange : SimTime
  bitvector : GateBitvector
  cycleStart : SimTime
  deriving DecidableEq

/-- `static_cast<int>(bits)` read as `unsigned int` -/
def bitsToUnsigned (bits : ℚ) : Nat :=
  ((if 0 ≤ bits then ⌊bits⌋ else ⌈bits⌉) % 2 ^ 32).toNat

section lookahead
variable (cur : Schedule GateBitvector) (next : Option (Schedule GateBitvector))
  (gateIndex : Nat) (bitTime : SimTime)

/-- the branch without a next schedule -/
def lookCurrentOnly (l : Look) : Sim Look := do
  let interval ← cur.getTimeInterval l.currentIndex
  let cum := l.cumSumGateLength + interval
  if l.cycleStart + cum > l.cycleStart + cur.getCycleTime then
    let timeLeftInCycle := cur.getCycleTime - (l.timeSinceLastChange + cum - interval)
    return { l with
      bits := l.bits + timeLeftInCycle / bitTime, currentIndex := 0, cumSumGateLength := 0,
      timeSinceLastChange := 0, bitvector := ← cur.getScheduledObject 0 }
  else
    let index := (l.currentIndex + 1) % cur.getControlListLength
    return { l with
      bits := l.bits + (interval - l.timeSinceLastChange) / bitTime, currentIndex := index,
      cumSumGateLength := if index = 0 then 0 else cum,
      timeSinceLastChange := 0, bitvector := ← cur.getScheduledObject index }

/-- the branch that walks the rest of the current schedule and enters `nextSched` at its end -/
def lookCurrent (nextSched : Schedule GateBitvector) (l : Look) : Sim Look := do
  let interval ← cur.getTimeInterval l.currentIndex
  let cum := l.cumSumGateLength + interval
  let hitCycleEnd : Bool := decide (l.cycleStart + cum > l.cycleStart + cur.getCycleTime)
  let bits :=
    if hitCycleEnd then
      l.bits + (cur.getCycleTime - (l.timeSinceLastChange + cum - interval)) / bitTime
    else
      l.bits + (interval - l.timeSinceLastChange) / bitTime
  if l.currentIndex + 1 < cur.getControlListLength ∧ hitCycleEnd = false then
    let index := (l.currentIndex + 1) % cur.getControlListLength
    return { l with
      bits, currentIndex := index, cumSumGateLength := cum,
      timeSinceLastChange := 0, bitvector := ← cur.getScheduledObject index }
  else
    return { l with
      bits, touchedNextSchedule := true, currentIndex := 0, cumSumGateLength := 0,
      timeSinceLastChange := 0, bitvector := ← nextSched.getScheduledObject 0,
      -- the member `cycleStart`, not a local
      cycleStart := l.cycleStart + if hitCycleEnd then cur.getCycleTime else cum }

/-- the branch that walks the next schedule; its rule for an over-long cycle reads the cycle time
and the interval of the current one -/
def lookNext (nextSched : Schedule GateBitvector) (l : Look) : Sim Look := do
  let interval ← nextSched.getTimeInterval l.currentIndex
  let cum := l.cumSumGateLength + interval
  if l.cycleStart + cum > l.cycleStart + nextSched.getCycleTime then
    let curInterval ← cur.getTimeInterval l.currentIndex
    let timeLeftInCycle := cur.getCycleTime - (l.timeSinceLastChange + cum - curInterval)
    return { l with
      bits := l.bits + timeLeftInCycle / bitTime, currentIndex := 0, cumSumGateLength := 0,
      timeSinceLastChange := 0, bitvector := ← nextSched.getScheduledObject 0 }
  else
    let index := (l.currentIndex + 1) % nextSched.getControlListLength
    return { l with
      bits := l.bits + (interval - l.timeSinceLastChange) / bitTime, currentIndex := index,
      cumSumGateLength := if index = 0 then 0 else cum,
      timeSinceLastChange := 0, bitvector := ← nextSched.getScheduledObject index }

/-- the body of the loop after the test of the bit -/
def lookBody (l : Look) : Sim Look :=
  match next with
  | none => lookCurrentOnly cur bitTime l
  | some nextSched =>
    if l.touchedNextSchedule then lookNext cur bitTime nextSched l
    else lookCurrent cur bitTime nextSched l

/-- the loop, with the number of iterations it may take: the result and the final locals -/
def lookLoop : Nat → Look → Sim (Nat × Look)
  | 0, _ => .error .outOfFuel
  | fuel + 1, l =>
    if l.bits < kEthernet2MaximumTransmissionUnitBitLength then
      if l.bitvector.test gateIndex then do
        let l' ← lookBody cur next bitTime l
        lookLoop fuel l'
      else
        .ok (bitsToUnsigned l.bits, l)
    else
      .ok (kEthernet2MaximumTransmissionUnitBitLength, l)

end lookahead

/-- the index of the entry that is being executed -/
def executedIndex (gc : GateController) : Nat :=
  (gc.scheduleIndex + gc.currentSchedule.getControlListLength - 1)
    % gc.currentSchedule.getControlListLength

/-- the locals at the start of the loop -/
def lookStart (gc : GateController) (now : SimTime) : Sim Look := do
  let bitvector ← gc.currentSchedule.getScheduledObject gc.executedIndex
  return {
    bits := 0
    touchedNextSchedule := false
    currentIndex := gc.executedIndex
    cumSumGateLength := gc.currentSchedule.startOf gc.executedIndex
    timeSinceLastChange := now - gc.lastChange
    bitvector
    cycleStart := gc.cycleStart }

/-- `calculateMaxBit` at the local time `now`: the result and the controller afterwards -/
def calculateMaxBit (cfg : GateConfig) (fuel : Nat) (now : SimTime) (gc : GateController)
    (gateIndex : Nat) : Sim (Nat × GateController) :=
  if cfg.transmitRate ≤ 0 then
    .ok (0, gc)
  else do
    let l ← gc.lookStart now
    let (bits, l') ← lookLoop gc.currentSchedule gc.next gateIndex cfg.bitTime fuel l
    return (bits, { gc with cycleStart := l'.cycleStart })

end GateController
end Nesting
