import Nesting.Sender.HostSchedule

/-!
# VlanEtherTrafGenSched

A sender that starts its packets at the times of a `HostSchedule`, cycle after cycle.

* `scheduleNextTickEvent`   the time until the next entry, or until the end of the cycle;
* `tick`                    makes a message for an entry, and subscribes for the next one;
* `sendDelayed`             the message comes, after the jitter, and the packet is sent;
* `start`, `turn`, `turns`  the initialization, and the ticks with their messages.
-/

set_option linter.unusedVariables false

namespace Nesting

/-- the parameters, and what the clock answers -/
structure SenderConfig where
  startTime : SimTime
  /-- negative: for ever -/
  stopTime : SimTime
  /-- `clock->getClockRate()`: the time from one tick to the next -/
  clockRate : SimTime
  deriving DecidableEq, Repr

/-- a packet that is sent with its tags -/
structure ScheduledPacket where
  destAddress : MacAddress
  pcp : Nat
  de : Bool
  vlanId : Int
  flowId : Nat
  seqNum : Nat
  length : Nat
  deriving DecidableEq, Repr

/-- a self-message that is on its way, and its entry in `sendEvents` -/
structure SendEvent where
  time : SimTime
  index : Nat
  deriving DecidableEq, Repr

structure VlanEtherTrafGenSched where
  currentSchedule : HostSchedule Ieee8021QCtrl
  nextSchedule : Option (HostSchedule Ieee8021QCtrl)
  indexSchedule : Nat
  sendEvents : List SendEvent
  /-- 0 for a flow that has no number yet -/
  flowIdSeqNums : Nat → Nat
  TSNpacketsSent : Nat
  /-- the time of the subscribed tick -/
  pendingTick : Option SimTime
  /-- the idle times of all subscriptions, before they are ticks -/
  idleTimes : List SimTime
  /-- the calls of `sendPacket`: the entry and the time -/
  triggers : List (Nat × SimTime)
  /-- what was sent, and when -/
  sent : List (SimTime × ScheduledPacket)

namespace VlanEtherTrafGenSched

def scheduleNextTickEvent (s : VlanEtherTrafGenSched) : Sim SimTime :=
  let schedule := s.currentSchedule
  if schedule.size = 0 then .ok schedule.getCycle
  else if s.indexSchedule = schedule.size then do
    let time ← schedule.getTime (s.indexSchedule - 1)
    return schedule.getCycle - time
  else if s.indexSchedule % schedule.size = 0 then schedule.getTime s.indexSchedule
  else do
    let time ← schedule.getTime (s.indexSchedule % schedule.size)
    let previous ← schedule.getTime (s.indexSchedule % schedule.size - 1)
    return time - previous

/-- `clock->subscribeTick(this, idle / clock->getClockRate())`; the clock delivers on time -/
def subscribeTick (cfg : SenderConfig) (now idle : SimTime) (s : VlanEtherTrafGenSched) :
    Sim VlanEtherTrafGenSched := do
  let idleTicks ← toUnsigned (idle / cfg.clockRate)
  return { s with
    pendingTick := some (now + idleTicks * cfg.clockRate)
    idleTimes := s.idleTimes ++ [idle] }

/-! ## the initialization -/

/-- a child of the root of the schedule file -/
structure HostChild where
  tagName : String
  name : Option String
  host : HostElement
  deriving DecidableEq, Repr

/-- the first element of this host, or the empty schedule -/
def loadScheduleOrDefault (hostName : String) (emptySchedule : HostElement) :
    List HostChild → Sim (HostSchedule Ieee8021QCtrl)
  | [] => HostScheduleBuilder.createHostScheduleFromXML emptySchedule
  | hostxml :: children =>
    if hostxml.tagName = "defaultcycle" then loadScheduleOrDefault hostName emptySchedule children
    else match hostxml.name with
    | none => .error (.undefinedBehaviour "hostxml->getAttribute(\"name\") == hostName")
    | some name =>
      if name = hostName then HostScheduleBuilder.createHostScheduleFromXML hostxml.host
      else loadScheduleOrDefault hostName emptySchedule children

/-- whatever the file has, the schedule is one that the builder accepts -/
theorem loadScheduleOrDefault_ok {hostName : String} {emptySchedule : HostElement}
    {children : List HostChild} {schedule : HostSchedule Ieee8021QCtrl}
    (h : loadScheduleOrDefault hostName emptySchedule children = .ok schedule) :
    ∃ xml, HostScheduleBuilder.createHostScheduleFromXML xml = .ok schedule := by
  induction children with
  | nil => exact ⟨emptySchedule, h⟩
  | cons hostxml children ih =>
    rw [loadScheduleOrDefault] at h
    split at h
    · exact ih h
    · split at h
      · cases h
      · split at h
        · exact ⟨hostxml.host, h⟩
        · exact ih h

def initial (schedule : HostSchedule Ieee8021QCtrl) : VlanEtherTrafGenSched where
  currentSchedule := schedule
  nextSchedule := none
  indexSchedule := 0
  sendEvents := []
  flowIdSeqNums := fun _ => 0
  TSNpacketsSent := 0
  pendingTick := none
  idleTimes := []
  triggers := []
  sent := []

/-- both stages of `initialize`, at the time 0 and with this schedule -/
def start (cfg : SenderConfig) (schedule : HostSchedule Ieee8021QCtrl) : Sim VlanEtherTrafGenSched :=
  if 0 ≤ cfg.stopTime ∧ cfg.stopTime ≤ cfg.startTime then
    .error (.runtimeError "Invalid startTime/stopTime parameters")
  else do
    let next ← (initial schedule).scheduleNextTickEvent
    (initial schedule).subscribeTick cfg 0 (next + cfg.startTime)

/-! ## ticks and messages -/

/-- a new schedule is loaded at the end of a cycle -/
def loadNextSchedule (s : VlanEtherTrafGenSched) : VlanEtherTrafGenSched :=
  match s.nextSchedule with
  | some schedule => { s with
    currentSchedule := schedule
    nextSchedule := none }
  | none => s

/-- the subscribed tick, with the value of the parameter `jitter` -/
def tick (cfg : SenderConfig) (jitter : SimTime) (s : VlanEtherTrafGenSched) :
    Sim VlanEtherTrafGenSched :=
  match s.pendingTick with
  | none => .error (.undefinedBehaviour "no tick is subscribed")
  | some now =>
    if s.indexSchedule = s.currentSchedule.size then do
      let s := { s.loadNextSchedule with indexSchedule := 0 }
      let next ← s.scheduleNextTickEvent
      s.subscribeTick cfg now next
    else do
      ASSERT (0 ≤ jitter) "t >= simTime()"
      let s := { s with
        sendEvents := s.sendEvents ++ [SendEvent.mk (now + jitter) s.indexSchedule]
        indexSchedule := s.indexSchedule + 1 }
      let next ← s.scheduleNextTickEvent
      s.subscribeTick cfg now next

/-- the packet is created and sent, unless it is too late -/
def sendPacket (cfg : SenderConfig) (now : SimTime) (scheduleIndexTx : Nat)
    (s : VlanEtherTrafGenSched) : Sim VlanEtherTrafGenSched :=
  if cfg.stopTime < 0 ∨ now < cfg.stopTime then do
    let header ← s.currentSchedule.getScheduledObject (scheduleIndexTx % s.currentSchedule.size)
    let seqNum := s.flowIdSeqNums header.flowId
    let len ← s.currentSchedule.getSize (scheduleIndexTx % s.currentSchedule.size)
    let datapacket : ScheduledPacket :=
      ⟨header.destAddress, header.pcp, header.de, header.vid, header.flowId, seqNum, len⟩
    -- `insertAtBack`
    if len = 0 then .error (.runtimeError "Error: chunk is empty")
    else return { s with
      flowIdSeqNums := Function.update s.flowIdSeqNums header.flowId (seqNum + 1)
      TSNpacketsSent := s.TSNpacketsSent + 1
      sent := s.sent ++ [(now, datapacket)] }
  else .ok s

/-- the message comes at its time -/
def sendDelayed (cfg : SenderConfig) (msg : SendEvent) (s : VlanEtherTrafGenSched) :
    Sim VlanEtherTrafGenSched := do
  let s ← s.sendPacket cfg msg.time msg.index
  return { s with
    sendEvents := s.sendEvents.erase msg
    triggers := s.triggers ++ [(msg.index, msg.time)] }

def sendAll (cfg : SenderConfig) : List SendEvent → VlanEtherTrafGenSched → Sim VlanEtherTrafGenSched
  | [], s => .ok s
  | msg :: msgs, s => do
    let s ← s.sendDelayed cfg msg
    sendAll cfg msgs s

/-- a tick without jitter: its message was scheduled before the next tick, and comes before it -/
def turn (cfg : SenderConfig) (s : VlanEtherTrafGenSched) : Sim VlanEtherTrafGenSched := do
  let s ← s.tick cfg 0
  s.sendAll cfg s.sendEvents

/-- so many ticks from the initialization on -/
def turns (cfg : SenderConfig) (schedule : HostSchedule Ieee8021QCtrl) : Nat → Sim VlanEtherTrafGenSched
  | 0 => start cfg schedule
  | k + 1 => do
    let s ← turns cfg schedule k
    s.turn cfg

end VlanEtherTrafGenSched
end Nesting
