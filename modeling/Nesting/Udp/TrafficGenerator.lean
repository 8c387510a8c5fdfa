import Nesting.Lib.Mailbox
import Nesting.Manager.ScheduleManager

/-!
# UdpScheduledTrafficGenerator

An application that sends the entry which its `DatagramScheduleManager` executes.  One self-message is
there for starting, sending and stopping; its kind says what it is for.

* `AppMessage`    the messages of this instant, of both modules in one queue;
* `handleStartOperation`, `handleStopOperation`, `onOperStateChange`   what schedules the self-message;
* `processStart`, `processSend`, `processStop`   what is done when it comes;
* `asked`, `done`   what the self-message was scheduled for, and what was done.
-/

set_option linter.unusedVariables false

namespace Nesting
open Lib

/-- the two words of an address -/
abbrev L3Address := BitVec 128

/-- the numbers are of the type `int`, in which they are read and sent -/
structure SendDatagramEvent where
  destAddress : L3Address
  destPort : Int
  priorityCodePoint : Int
  dropEligible : Bool
  vlanId : Int
  /-- bits -/
  payloadSize : Int
  deriving DecidableEq, Repr

/-- a packet for the socket, with the tags of its VLAN -/
structure Datagram where
  destAddress : L3Address
  destPort : Int
  pcp : Int
  de : Bool
  vlanId : Int
  chunkLength : Int
  sequenceNumber : Nat
  deriving DecidableEq, Repr

inductive SelfMsgKinds where
  | START
  | SEND
  | STOP
  deriving DecidableEq, Repr

/-- the states between two operations -/
inductive OperationalState where
  | NOT_OPERATING
  | OPERATING
  deriving DecidableEq, Repr

inductive AppMessage where
  | scheduleManager (x : StateMachine)
  | selfMsg
  deriving DecidableEq, Repr

/-- what the self-message is scheduled for -/
inductive AppTask where
  | start
  | send (entry : SendDatagramEvent)
  | stop
  deriving DecidableEq, Repr

structure UdpScheduledTrafficApp where
  /-- its messages are in the queue -/
  scheduleManager : ScheduleManager SendDatagramEvent
  queue : List AppMessage
  operationalState : OperationalState
  /-- `selfMsg.getKind()` -/
  kind : SelfMsgKinds
  /-- `socket.setOutputGate` was called -/
  outputGate : Bool
  numSent : Nat
  sent : List Datagram
  asked : List AppTask
  done : List AppTask

inductive AppEvent where
  /-- the first message of this instant -/
  | handleMessage
  | handleStartOperation
  | handleStopOperation
  /-- the clock, and calls of the manager by others -/
  | scheduleManager (e : ManagerEvent SendDatagramEvent)
  deriving DecidableEq

namespace UdpScheduledTrafficApp

/-- no message waits in the manager -/
def silent (m : ScheduleManager SendDatagramEvent) : ScheduleManager SendDatagramEvent :=
  { m with agenda := { m.agenda with messages := [], nodup := List.nodup_nil } }

/-- what the manager has scheduled goes to the end of the queue -/
def posts (s : UdpScheduledTrafficApp) (m : ScheduleManager SendDatagramEvent) :
    UdpScheduledTrafficApp :=
  { s with
    scheduleManager := silent m
    queue := m.agenda.messages.foldl (fun q x => post (.scheduleManager x) q) s.queue }

/-! ## the self-message -/

def scheduleAt (s : UdpScheduledTrafficApp) : Sim UdpScheduledTrafficApp :=
  if .selfMsg ∈ s.queue then .error (.runtimeError "scheduleAt(): message is already scheduled")
  else .ok { s with queue := s.queue ++ [.selfMsg] }

def cancelEvent (s : UdpScheduledTrafficApp) : UdpScheduledTrafficApp :=
  { s with queue := s.queue.filter fun x => x ≠ .selfMsg }

/-- with the change of the operational state around it -/
def handleStartOperation (s : UdpScheduledTrafficApp) : Sim UdpScheduledTrafficApp := do
  let s := { s with kind := .START, asked := s.asked ++ [AppTask.start] }
  let s ← s.scheduleAt
  return { s with operationalState := .OPERATING }

/-- the operation is finished before the self-message comes -/
def handleStopOperation (s : UdpScheduledTrafficApp) : Sim UdpScheduledTrafficApp := do
  let s := s.cancelEvent
  let s := { s with kind := .STOP, asked := s.asked ++ [AppTask.stop] }
  let s ← s.scheduleAt
  return { s with operationalState := .NOT_OPERATING }

def onOperStateChange (s : UdpScheduledTrafficApp) (sendDatagramEvent : SendDatagramEvent) :
    Sim UdpScheduledTrafficApp :=
  let s := { s with kind := .SEND, asked := s.asked ++ [AppTask.send sendDatagramEvent] }
  s.scheduleAt

/-! ## what is done when it comes -/

/-- `socket.bind` and the options need the output gate, which is set first -/
def processStart (s : UdpScheduledTrafficApp) : UdpScheduledTrafficApp :=
  let s := { s with outputGate := true, done := s.done ++ [AppTask.start] }
  s.posts (s.scheduleManager.setEnabled true)

def datagram (evt : SendDatagramEvent) (numSent : Nat) : Datagram where
  destAddress := evt.destAddress
  destPort := evt.destPort
  pcp := evt.priorityCodePoint
  de := evt.dropEligible
  vlanId := evt.vlanId
  chunkLength := evt.payloadSize
  sequenceNumber := numSent

def processSend (s : UdpScheduledTrafficApp) : Sim UdpScheduledTrafficApp :=
  let evt := s.scheduleManager.operState
  if evt.payloadSize ≤ 0 then .error (.runtimeError "Error: chunk is empty")
  else if s.outputGate = false then .error (.runtimeError
    "UdpSocket: setOutputGate() must be invoked before socket can be used")
  else .ok { s with
    sent := s.sent ++ [datagram evt s.numSent]
    numSent := s.numSent + 1
    done := s.done ++ [AppTask.send evt] }

def processStop (s : UdpScheduledTrafficApp) : Sim UdpScheduledTrafficApp :=
  let s := { s with done := s.done ++ [AppTask.stop] }
  let s := s.posts (s.scheduleManager.setEnabled false)
  if s.outputGate = false then .error (.runtimeError
    "UdpSocket: setOutputGate() must be invoked before socket can be used")
  else .ok s

def handleMessageWhenUp (s : UdpScheduledTrafficApp) : Sim UdpScheduledTrafficApp :=
  match s.kind with
  | .START => .ok s.processStart
  | .STOP => s.processStop
  | .SEND => s.processSend

def handleSelfMsg (s : UdpScheduledTrafficApp) : Sim UdpScheduledTrafficApp :=
  match s.operationalState with
  | .OPERATING => s.handleMessageWhenUp
  | .NOT_OPERATING => .error (.runtimeError "Self message received when module is down")

/-! ## the manager's machines -/

/-- `DatagramScheduleManager::notifyStateChanged` tells the listener of executed entries only -/
def executes (m : ScheduleManager SendDatagramEvent) (x : StateMachine) : Bool :=
  x = .LIST_EXECUTE && m.enabled && m.nextListExecuteState = .EXECUTE_CYCLE

/-- a message of the manager; the listener is called before the machine schedules its own message -/
def handleManager (clock : ClockRate) (s : UdpScheduledTrafficApp) (x : StateMachine) :
    Sim UdpScheduledTrafficApp := do
  let m := { s.scheduleManager with agenda := s.scheduleManager.agenda.reschedule x }
  let m' ← m.handleMessage clock
  if executes s.scheduleManager x then do
    let s ← s.onOperStateChange m'.operState
    return s.posts m'
  else return s.posts m'

def handleMessage (clock : ClockRate) (s : UdpScheduledTrafficApp) : Sim UdpScheduledTrafficApp :=
  match s.queue with
  | [] => .ok s
  | .scheduleManager x :: queue => { s with queue }.handleManager clock x
  | .selfMsg :: queue => { s with queue }.handleSelfMsg

/-- time goes on when the queue is empty -/
def manage (clock : ClockRate) (s : UdpScheduledTrafficApp) :
    ManagerEvent SendDatagramEvent → Sim UdpScheduledTrafficApp
  | .advance t => .ok (if s.queue = [] then s.posts (s.scheduleManager.advance t) else s)
  | e => do
    let m ← s.scheduleManager.step clock e
    return s.posts m

def step (clock : ClockRate) (s : UdpScheduledTrafficApp) : AppEvent → Sim UdpScheduledTrafficApp
  | .handleMessage => s.handleMessage clock
  | .handleStartOperation => s.handleStartOperation
  | .handleStopOperation => s.handleStopOperation
  | .scheduleManager e => s.manage clock e

/-- `DatagramScheduleManager::initialAdminState` -/
def initialAdminState : SendDatagramEvent := ⟨0, 0, 1, false, 1, 0⟩

/-- the members before the modules are initialized -/
def created (schedule : Schedule SendDatagramEvent) (t0 : SimTime) : UdpScheduledTrafficApp where
  scheduleManager := ScheduleManager.initial initialAdminState schedule t0
  queue := []
  operationalState := .NOT_OPERATING
  kind := .START
  outputGate := false
  numSent := 0
  sent := []
  asked := []
  done := []

/-- the generator, started at once on a node that is up, and then the manager -/
def initializeApp (schedule : Schedule SendDatagramEvent) (up : Bool) (t0 : SimTime) :
    Sim UdpScheduledTrafficApp := do
  let s ← if up then (created schedule t0).handleStartOperation else .ok (created schedule t0)
  return s.posts s.scheduleManager.beginMachines

end UdpScheduledTrafficApp
end Nesting
