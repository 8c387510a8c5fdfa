import Nesting.Lib.Mailbox
import Nesting.Lib.Run
import Nesting.Mac.EtherMac
import Nesting.Queue.LengthAwareQueue

/-!
# CreditBasedShaper

A transmission selection algorithm that sends while its credit is not negative.  Credit is earned
while a packet waits and spent, all at once, when one is sent.

* `handleGateStateChangedEvent`, `handlePacketEnqueuedEvent`, `handleSendPacketEvent`,
  `handleEndSpendingCreditEvent`, `handleZeroCreditReachedEvent`   the handlers;
* `ShapedQueue`   a gate, the shaper and its queue, with the messages of the instant;
* `step`          packets, openings and closings of the gate, requests and timers in any order.

The messages of an instant are handled in the order in which they were posted, a timer that is due
before all of them.  `TransmissionSelection` asks the gate when no message is left, since its own
messages have a lower priority.
-/

set_option linter.unusedVariables false

namespace Nesting

open Lib

/-- the parameter and the port rate, which does not change -/
structure ShaperConfig where
  /-- bits per second -/
  portTransmitRate : ℚ
  idleSlopeFactor : ℚ
  rate_pos : 0 < portTransmitRate
  factor_pos : 0 < idleSlopeFactor
  factor_lt : idleSlopeFactor < 1

inductive ShaperState where
  | kIdle
  | kSpendCredit
  | kEarnCredit
  deriving DecidableEq, Repr

structure CreditBasedShaper where
  state : ShaperState
  credit : ℚ
  lastEventTimestamp : SimTime
  endSpendingCreditMessage : Option SimTime
  reachedZeroCreditMessage : Option SimTime
  deriving DecidableEq

/-- `(21 + 8 + 12) * 8` -/
def frameOverhead : Nat := 328

namespace ShaperConfig

variable (cfg : ShaperConfig)

def getIdleSlope : ℚ := cfg.idleSlopeFactor * cfg.portTransmitRate

def getSendSlope : ℚ := cfg.portTransmitRate - cfg.getIdleSlope

theorem idleSlope_pos : 0 < cfg.getIdleSlope := mul_pos cfg.factor_pos cfg.rate_pos

theorem sendSlope_pos : 0 < cfg.getSendSlope := by
  have := mul_lt_of_lt_one_left cfg.rate_pos cfg.factor_lt
  unfold getSendSlope getIdleSlope
  linarith

end ShaperConfig

/-- half of a port of 1000 bit/s -/
def halfRate : ShaperConfig := ⟨1000, 1 / 2, by norm_num, by norm_num, by norm_num⟩

namespace CreditBasedShaper

variable {cfg : ShaperConfig} {s s' : CreditBasedShaper}

/-- `initialize` -/
def start : CreditBasedShaper := ⟨.kIdle, 0, 0, none, none⟩

def creditsForTime (creditPerSecond : ℚ) (time : SimTime) : Sim ℚ := do
  ASSERT (decide (creditPerSecond > 0)) "creditPerSecond > 0"
  ASSERT (decide (time ≥ 0)) "time >= SimTime::ZERO"
  return time * creditPerSecond

def timeForCredits (creditPerSecond credit : ℚ) : Sim SimTime := do
  ASSERT (decide (creditPerSecond > 0)) "creditPerSecond > 0"
  ASSERT (decide (credit ≥ 0)) "credit >= 0"
  return credit / creditPerSecond

def zeroCreditTime (cfg : ShaperConfig) (now : SimTime) (s : CreditBasedShaper) : Sim SimTime := do
  ASSERT (decide (s.credit < 0)) "credit < 0"
  let t ← timeForCredits cfg.getIdleSlope (0 - s.credit)
  return now + t

def transmissionTime (cfg : ShaperConfig) (bitLength : Nat) : Sim SimTime :=
  timeForCredits cfg.portTransmitRate (bitLength + frameOverhead : ℕ)

def updateState (now : SimTime) (state : ShaperState) (s : CreditBasedShaper) : CreditBasedShaper :=
  { s with
    state := state
    lastEventTimestamp := now }

def spendCredit (cfg : ShaperConfig) (bitLength : Nat) (s : CreditBasedShaper) :
    Sim CreditBasedShaper := do
  let time ← transmissionTime cfg bitLength
  let spent ← creditsForTime cfg.getSendSlope time
  return { s with credit := s.credit - spent }

def earnCredits (cfg : ShaperConfig) (time : SimTime) (s : CreditBasedShaper) :
    Sim CreditBasedShaper := do
  let earned ← creditsForTime cfg.getIdleSlope time
  return { s with credit := s.credit + earned }

def resetCredit (s : CreditBasedShaper) : CreditBasedShaper := { s with credit := 0 }

def isCreditPositive (s : CreditBasedShaper) : Bool := decide (s.credit ≥ 0)

/-- `queueEmpty` is what `queue->isEmpty(maxBits)` answers -/
def isEmpty (queueEmpty : Bool) (s : CreditBasedShaper) : Bool := !s.isCreditPositive || queueEmpty

/-- `updateState(kEarnCredit)` and the message for the time when the credit is zero -/
def earnUntilZero (cfg : ShaperConfig) (now : SimTime) (s : CreditBasedShaper) :
    Sim CreditBasedShaper := do
  let s := s.updateState now .kEarnCredit
  let t ← s.zeroCreditTime cfg now
  let reachedZeroCreditMessage ← EtherMac.scheduleAt now s.reachedZeroCreditMessage t
  return { s with reachedZeroCreditMessage }

/-! ## the handlers

`gateOpen` is what `transmissionGate->isGateOpen()` answers and `ready` what
`isPacketReadyForTransmission()` does; the second result tells whether `transmissionGate->packetEnqueued()`
is called. -/

def handleGateStateChangedEvent (cfg : ShaperConfig) (now : SimTime) (gateOpen ready : Bool)
    (s : CreditBasedShaper) : Sim CreditBasedShaper :=
  if gateOpen then do
    ASSERT (decide (s.state ≠ .kEarnCredit)) "state != kEarnCredit"
    if s.state = .kIdle && !s.isCreditPositive then s.earnUntilZero cfg now
    else if s.state = .kIdle && ready then return s.updateState now .kEarnCredit
    else return s
  else if s.state = .kEarnCredit then do
    let s ← { s with reachedZeroCreditMessage := none }.earnCredits cfg (now - s.lastEventTimestamp)
    return s.updateState now .kIdle
  else .ok s

def handlePacketEnqueuedEvent (now : SimTime) (gateOpen ready : Bool) (s : CreditBasedShaper) :
    Sim (CreditBasedShaper × Bool) := do
  ASSERT ready "isPacketReadyForTransmission()"
  if s.state = .kIdle && gateOpen then do
    let s := s.updateState now .kEarnCredit
    ASSERT s.isCreditPositive "isCreditPositive()"
    return (s, true)
  else return (s, false)

def handleSendPacketEvent (cfg : ShaperConfig) (now : SimTime) (bitLength : Nat)
    (s : CreditBasedShaper) : Sim CreditBasedShaper := do
  ASSERT (decide (s.state = .kEarnCredit)) "state == kEarnCredit"
  ASSERT s.isCreditPositive "isCreditPositive()"
  ASSERT s.reachedZeroCreditMessage.isNone "!reachedZeroCreditMessage.isScheduled()"
  let s ← s.earnCredits cfg (now - s.lastEventTimestamp)
  let s ← (s.updateState now .kSpendCredit).spendCredit cfg bitLength
  let time ← transmissionTime cfg bitLength
  let endSpendingCreditMessage ← EtherMac.scheduleAt now s.endSpendingCreditMessage (now + time)
  return { s with endSpendingCreditMessage }

/-- `endSpendingCreditMessage` has been taken off the schedule -/
def handleEndSpendingCreditEvent (cfg : ShaperConfig) (now : SimTime) (gateOpen ready : Bool)
    (s : CreditBasedShaper) : Sim (CreditBasedShaper × Bool) := do
  ASSERT (decide (s.state = .kSpendCredit)) "state == kSpendCredit"
  if !gateOpen then return (s.updateState now .kIdle, false)
  else if !s.isCreditPositive then do
    let s ← s.earnUntilZero cfg now
    return (s, false)
  else if !ready then return ((s.updateState now .kIdle).resetCredit, false)
  else return (s.updateState now .kEarnCredit, true)

/-- `reachedZeroCreditMessage` has been taken off the schedule -/
def handleZeroCreditReachedEvent (cfg : ShaperConfig) (now : SimTime) (gateOpen ready : Bool)
    (s : CreditBasedShaper) : Sim (CreditBasedShaper × Bool) := do
  ASSERT (decide (s.state = .kEarnCredit)) "state == kEarnCredit"
  ASSERT gateOpen "transmissionGate->isGateOpen()"
  let s ← s.earnCredits cfg (now - s.lastEventTimestamp)
  ASSERT (decide (s.credit ≥ -1 / 10)) "credit >= - 0.1"
  let s := s.resetCredit
  if ready then return (s.updateState now .kEarnCredit, true)
  else return ((s.updateState now .kIdle).resetCredit, false)

end CreditBasedShaper

/-! ## a gate with a shaper -/

/-- the messages of an instant -/
inductive ShaperMsg where
  /-- `TransmissionGate::gateStateChangedMsg` -/
  | gateStateChanged
  /-- `TransmissionGate::requestPacketMsg` -/
  | gateRequest
  /-- `TSAlgorithm::gateStateChangedMsg` -/
  | shaperGateStateChanged
  /-- `TSAlgorithm::packetEnqueuedMsg` -/
  | packetEnqueued
  /-- `TSAlgorithm::requestPacketMsg` -/
  | requestPacket
  /-- `LengthAwareQueue::requestPacketMsg` -/
  | queueRequest
  /-- a packet on its way from the queue to the shaper -/
  | packet (bitLength : Nat)
  deriving DecidableEq

structure ShapedQueue where
  time : SimTime
  gateOpen : Bool
  /-- what `TransmissionGate::maxTransferableBits()` answers -/
  maxTransferableBits : Nat
  shaper : CreditBasedShaper
  /-- `TSAlgorithm::maxTransmittableBits` -/
  maxTransmittableBits : Nat
  queue : LengthAwareQueue
  /-- `LengthAwareQueue::maxTransmittableBits` -/
  queueMaxTransmittableBits : Nat
  messages : List ShaperMsg
  /-- the lengths of the packets that went through `handleSendPacketEvent` -/
  sent : List Nat
  deriving DecidableEq

inductive ShaperEvent where
  /-- time goes on, over nothing that is due -/
  | advance (t : SimTime)
  | enqueue (bitLength : Nat)
  | setGateState (gateOpen : Bool)
  | setMaxTransferableBits (maxBits : Nat)
  /-- `TransmissionSelection` asks the gate -/
  | request
  | handleMessage
  | endSpendingCredit
  | reachedZeroCredit
  deriving DecidableEq

namespace ShapedQueue

variable {cfg : ShaperConfig} {s s' : ShapedQueue}

def start (gateOpen : Bool) (bufferCapacity : Nat) : ShapedQueue :=
  ⟨0, gateOpen, kEthernet2MaximumTransmissionUnitBitLength, .start, 0,
    ⟨[], bufferCapacity⟩, 0, [], []⟩

/-- `isPacketReadyForTransmission` -/
def ready (s : ShapedQueue) : Bool := !s.queue.isEmpty kEthernet2MaximumTransmissionUnitBitLength

/-- `TransmissionGate::isEmpty` without a hold -/
def isEmpty (s : ShapedQueue) : Bool :=
  !s.gateOpen || s.shaper.isEmpty (s.queue.isEmpty s.maxTransferableBits)

/-- a handler of the shaper that may call the gate -/
def withShaper (s : ShapedQueue) (r : Sim (CreditBasedShaper × Bool)) : Sim ShapedQueue := do
  let (shaper, _) ← r
  return { s with shaper }

def handleMessage (cfg : ShaperConfig) (s : ShapedQueue) : ShaperMsg → Sim ShapedQueue
  | .gateStateChanged => .ok { s with messages := post .shaperGateStateChanged s.messages }
  | .gateRequest => do
    ASSERT (!s.isEmpty) "!isEmpty()"
    ASSERT (!s.shaper.isEmpty (s.queue.isEmpty s.maxTransferableBits)) "!isEmpty(maxBits)"
    return { s with
      maxTransmittableBits := s.maxTransferableBits
      messages := post .requestPacket s.messages }
  | .shaperGateStateChanged => do
    let shaper ← s.shaper.handleGateStateChangedEvent cfg s.time s.gateOpen s.ready
    return { s with shaper }
  | .packetEnqueued => s.withShaper (s.shaper.handlePacketEnqueuedEvent s.time s.gateOpen s.ready)
  | .requestPacket => .ok { s with
      queueMaxTransmittableBits := s.maxTransmittableBits
      messages := post .queueRequest s.messages }
  | .queueRequest => do
    let (bitLength, queue) ← s.queue.handleRequestPacketEvent s.queueMaxTransmittableBits
    return { s with
      queue
      messages := s.messages ++ [.packet bitLength] }
  | .packet bitLength => do
    let shaper ← s.shaper.handleSendPacketEvent cfg s.time bitLength
    return { s with
      shaper
      sent := s.sent ++ [bitLength] }

/-- a timer of the shaper is due -/
def TimerDue (s : ShapedQueue) : Prop :=
  s.shaper.endSpendingCreditMessage = some s.time ∨ s.shaper.reachedZeroCreditMessage = some s.time

instance (s : ShapedQueue) : Decidable s.TimerDue := inferInstanceAs (Decidable (_ ∨ _))

/-- nothing is due before `t` -/
def CanAdvance (s : ShapedQueue) (t : SimTime) : Prop :=
  s.time ≤ t ∧ s.messages = [] ∧ (∀ u ∈ s.shaper.endSpendingCreditMessage, t ≤ u) ∧
    ∀ u ∈ s.shaper.reachedZeroCreditMessage, t ≤ u

instance (s : ShapedQueue) (t : SimTime) : Decidable (s.CanAdvance t) :=
  inferInstanceAs (Decidable (_ ∧ _ ∧ _ ∧ _))

def step (cfg : ShaperConfig) (s : ShapedQueue) : ShaperEvent → Sim ShapedQueue
  | .advance t =>
    if s.CanAdvance t then .ok { s with time := t }
    else .error (.undefinedBehaviour "an event is due")
  | .enqueue bitLength => .ok { s with
      queue := s.queue.enqueue bitLength
      messages := post .packetEnqueued s.messages }
  | .setGateState gateOpen =>
    if s.gateOpen ≠ gateOpen then .ok { s with
      gateOpen := gateOpen
      messages := post .gateStateChanged s.messages }
    else .ok s
  | .setMaxTransferableBits maxBits => .ok { s with maxTransferableBits := maxBits }
  | .request =>
    if s.messages = [] ∧ ¬s.TimerDue ∧ s.isEmpty = false then
      .ok { s with messages := post .gateRequest s.messages }
    else .error (.undefinedBehaviour "no request")
  | .handleMessage =>
    match s.messages with
    | [] => .error (.undefinedBehaviour "no message")
    | m :: messages =>
      if s.TimerDue then .error (.undefinedBehaviour "a timer is due")
      else { s with messages }.handleMessage cfg m
  | .endSpendingCredit =>
    if s.shaper.endSpendingCreditMessage = some s.time then
      s.withShaper ({ s.shaper with
        endSpendingCreditMessage := none }.handleEndSpendingCreditEvent cfg s.time s.gateOpen s.ready)
    else .error (.undefinedBehaviour "the timer is not due")
  | .reachedZeroCredit =>
    if s.shaper.reachedZeroCreditMessage = some s.time then
      s.withShaper ({ s.shaper with
        reachedZeroCreditMessage := none }.handleZeroCreditReachedEvent cfg s.time s.gateOpen s.ready)
    else .error (.undefinedBehaviour "the timer is not due")

end ShapedQueue

end Nesting
