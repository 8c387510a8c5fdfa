import Nesting.Queue.CreditBasedShaper

/-!
# A gate, its algorithm and its queue

* `Column`          `TransmissionGate`, `TSAlgorithm` (or `CreditBasedShaper`) and
                    `LengthAwareQueue` of one traffic class;
* `ColumnMsg`       the messages of an instant that they send each other and themselves;
* `handleMessage`   what the first of them does, and whether `TransmissionSelection` is notified;
* `enqueue`, `setGateState`, `handleEndSpendingCredit`, `handleZeroCreditReached`   the other events.
-/

set_option linter.unusedVariables false

namespace Nesting

open Lib

def Packet.bitLength (packet : Packet) : Nat := 8 * packet.byteLength

inductive ColumnMsg where
  /-- `TransmissionGate::gateStateChangedMsg` -/
  | gateStateChanged
  /-- `TransmissionGate::packetEnqueuedMsg` -/
  | gatePacketEnqueued
  /-- `TransmissionGate::requestPacketMsg` -/
  | gateRequest
  /-- `TSAlgorithm::gateStateChangedMsg` -/
  | gateStateChangedMsg
  /-- `TSAlgorithm::packetEnqueuedMsg` -/
  | packetEnqueuedMsg
  /-- `TSAlgorithm::requestPacketMsg` -/
  | requestPacketMsg
  /-- `LengthAwareQueue::requestPacketMsg` -/
  | queueRequest
  /-- a packet on its way from the queue to the algorithm -/
  | packet (packet : Packet)
  /-- from the algorithm to the gate -/
  | gatePacket (packet : Packet)
  /-- from the gate to `TransmissionSelection` -/
  | selectionPacket (packet : Packet)
  /-- from `TransmissionSelection` to the MAC -/
  | macPacket (packet : Packet)
  deriving DecidableEq

structure Column where
  gateOpen : Bool
  isExpressQueue : Bool
  /-- what `TransmissionGate::maxTransferableBits()` answers -/
  maxTransferableBits : Nat
  /-- nothing for the strict priority algorithm -/
  shaper : Option CreditBasedShaper
  /-- `TSAlgorithm::maxTransmittableBits` -/
  maxTransmittableBits : Nat
  packets : List Packet
  availableBufferCapacity : Nat
  /-- `LengthAwareQueue::maxTransmittableBits` -/
  queueMaxTransmittableBits : Nat
  messages : List ColumnMsg
  deriving DecidableEq

namespace Column

variable {c c' : Column}

def start (isExpressQueue creditBased : Bool) (bufferCapacity : Nat) : Column where
  gateOpen := true
  isExpressQueue := isExpressQueue
  maxTransferableBits := kEthernet2MaximumTransmissionUnitBitLength
  shaper := if creditBased then some .start else none
  maxTransmittableBits := 0
  packets := []
  availableBufferCapacity := bufferCapacity
  queueMaxTransmittableBits := 0
  messages := []

/-- the queue as `LengthAwareQueue` counts it -/
def queue (c : Column) : LengthAwareQueue := ⟨c.packets.map Packet.bitLength, c.availableBufferCapacity⟩

/-- `tsAlgorithm->isEmpty(maxTransferableBits())` -/
def algorithmEmpty (c : Column) : Bool :=
  match c.shaper with
  | none => c.queue.isEmpty c.maxTransferableBits
  | some s => s.isEmpty (c.queue.isEmpty c.maxTransferableBits)

/-- what `TransmissionSelection` sees -/
def view (c : Column) : GateView := ⟨c.gateOpen, c.isExpressQueue, c.algorithmEmpty⟩

/-- `TransmissionGate::isEmpty` -/
def isEmpty (onHold : Bool) (c : Column) : Bool := c.view.isEmpty onHold

/-- `isPacketReadyForTransmission` -/
def ready (c : Column) : Bool := !c.queue.isEmpty kEthernet2MaximumTransmissionUnitBitLength

/-- a timer of the shaper is due -/
def TimerDue (now : SimTime) (c : Column) : Prop :=
  ∃ s ∈ c.shaper, s.endSpendingCreditMessage = some now ∨ s.reachedZeroCreditMessage = some now

instance (now : SimTime) (c : Column) : Decidable (c.TimerDue now) :=
  inferInstanceAs (Decidable (∃ s ∈ c.shaper, _ ∨ _))

/-- a handler of the shaper that may call `transmissionGate->packetEnqueued()` -/
def withShaper (c : Column) (r : Sim (CreditBasedShaper × Bool)) : Sim Column := do
  let (shaper, notify) ← r
  return { c with
    shaper := some shaper
    messages := if notify then post .gatePacketEnqueued c.messages else c.messages }

/-- `send(packet, "out")` of the algorithm, after the shaper has paid for it -/
def sendPacket (cfg : ShaperConfig) (now : SimTime) (c : Column) (packet : Packet) : Sim Column :=
  match c.shaper with
  | none => .ok { c with messages := c.messages ++ [.gatePacket packet] }
  | some s => do
    let shaper ← s.handleSendPacketEvent cfg now packet.bitLength
    return { c with
      shaper := some shaper
      messages := c.messages ++ [.gatePacket packet] }

def handleRequestPacketEvent (c : Column) : Sim Column := do
  let (_, queue) ← c.queue.handleRequestPacketEvent c.queueMaxTransmittableBits
  match c.packets with
  | [] => .error (.undefinedBehaviour "queue.pop()")
  | packet :: packets => return { c with
      packets := packets
      availableBufferCapacity := queue.availableBufferCapacity
      messages := c.messages ++ [.packet packet] }

/-- the new state, and whether `transmissionSelection->packetEnqueued(this)` is called -/
def handleMessage (cfg : ShaperConfig) (now : SimTime) (onHold : Bool) (c : Column) :
    ColumnMsg → Sim (Column × Bool)
  | .gateStateChanged => .ok ({ c with messages := post .gateStateChangedMsg c.messages },
      c.gateOpen && !c.algorithmEmpty && (c.isExpressQueue || !onHold))
  | .gatePacketEnqueued => .ok (c, c.gateOpen && (c.isExpressQueue || !onHold))
  | .gateRequest => do
    ASSERT (!c.isEmpty onHold) "!isEmpty()"
    ASSERT (!c.algorithmEmpty) "!isEmpty(maxBits)"
    return ({ c with
      maxTransmittableBits := c.maxTransferableBits
      messages := post .requestPacketMsg c.messages }, false)
  | .gateStateChangedMsg =>
    match c.shaper with
    | none => .ok (c, false)
    | some s => do
      let shaper ← s.handleGateStateChangedEvent cfg now c.gateOpen c.ready
      return ({ c with shaper := some shaper }, false)
  | .packetEnqueuedMsg =>
    match c.shaper with
    | none => .ok ({ c with messages := post .gatePacketEnqueued c.messages }, false)
    | some s => do
      let c ← c.withShaper (s.handlePacketEnqueuedEvent now c.gateOpen c.ready)
      return (c, false)
  | .requestPacketMsg => .ok ({ c with
      queueMaxTransmittableBits := c.maxTransmittableBits
      messages := post .queueRequest c.messages }, false)
  | .queueRequest => do
    let c ← c.handleRequestPacketEvent
    return (c, false)
  | .packet packet => do
    let c ← c.sendPacket cfg now packet
    return (c, false)
  | .gatePacket packet => .ok ({ c with messages := c.messages ++ [.selectionPacket packet] }, false)
  | .selectionPacket _ => .error (.undefinedBehaviour "a message of TransmissionSelection")
  | .macPacket _ => .error (.undefinedBehaviour "a message of the MAC")

/-! ## the other events -/

/-- the algorithm hears of a packet that is dropped, too -/
def enqueue (c : Column) (packet : Packet) : Column :=
  if c.availableBufferCapacity ≥ packet.bitLength then { c with
    packets := c.packets ++ [packet]
    availableBufferCapacity := c.availableBufferCapacity - packet.bitLength
    messages := post .packetEnqueuedMsg c.messages }
  else { c with messages := post .packetEnqueuedMsg c.messages }

/-- the new state, and whether `transmissionSelection->packetEnqueued(this)` is called -/
def setGateState (onHold gateOpen release : Bool) (c : Column) : Column × Bool :=
  if c.gateOpen ≠ gateOpen then
    ({ c with
      gateOpen := gateOpen
      messages := post .gateStateChanged c.messages }, false)
  else
    (c, release && gateOpen && !c.algorithmEmpty && (c.isExpressQueue || !onHold))

def handleEndSpendingCredit (cfg : ShaperConfig) (now : SimTime) (c : Column) : Sim Column :=
  match c.shaper with
  | none => .error (.undefinedBehaviour "no shaper")
  | some s =>
    if s.endSpendingCreditMessage = some now then
      c.withShaper ({ s with
        endSpendingCreditMessage := none }.handleEndSpendingCreditEvent cfg now c.gateOpen c.ready)
    else .error (.undefinedBehaviour "the timer is not due")

def handleZeroCreditReached (cfg : ShaperConfig) (now : SimTime) (c : Column) : Sim Column :=
  match c.shaper with
  | none => .error (.undefinedBehaviour "no shaper")
  | some s =>
    if s.reachedZeroCreditMessage = some now then
      c.withShaper ({ s with
        reachedZeroCreditMessage := none }.handleZeroCreditReachedEvent cfg now c.gateOpen c.ready)
    else .error (.undefinedBehaviour "the timer is not due")

/-- the queue of a column is filled as `LengthAwareQueue` fills it -/
theorem enqueue_queue (c : Column) (packet : Packet) :
    (c.enqueue packet).queue = c.queue.enqueue packet.bitLength := by
  by_cases hfit : c.availableBufferCapacity ≥ packet.bitLength
  · have hfit' : c.queue.availableBufferCapacity ≥ packet.bitLength := hfit
    rw [enqueue, if_pos hfit, LengthAwareQueue.enqueue, if_pos hfit']
    show LengthAwareQueue.mk ((c.packets ++ [packet]).map Packet.bitLength) _ = _
    rw [List.map_append]
    rfl
  · have hfit' : ¬c.queue.availableBufferCapacity ≥ packet.bitLength := hfit
    rw [enqueue, if_neg hfit, LengthAwareQueue.enqueue, if_neg hfit']
    rfl

/-- a gate has a packet when it is open and not held and its algorithm has one -/
theorem isEmpty_eq_false {onHold : Bool} : c.isEmpty onHold = false ↔
    c.gateOpen = true ∧ (c.isExpressQueue = true ∨ onHold = false) ∧ c.algorithmEmpty = false := by
  unfold isEmpty view GateView.isEmpty
  rw [Bool.or_eq_false_iff, Bool.or_eq_false_iff, Bool.not_eq_false', Bool.and_eq_false_iff,
    Bool.not_eq_false', and_assoc]

end Column
end Nesting
