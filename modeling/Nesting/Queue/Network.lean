import Mathlib.Data.Fintype.Basic
import Nesting.Queue.Column

/-!
# The queueing network and the MAC

* `Network`         the MAC with `TransmissionSelection`, and a column for every gate;
* `NetworkEvent`    arrivals, gate changes, hold and release, timers and messages;
* `step`            these in any order that keeps to the priorities.

A message without delay is handled in the instant in which it was sent: first those of the columns,
each column its own in the order in which they were sent, then those of `TransmissionSelection`, which
have a lower priority.  Time goes on when none is left.
-/

set_option linter.unusedVariables false

namespace Nesting

open Lib EtherMac

structure NetworkConfig (numGates : Nat) where
  mac : MacConfig
  isExpressQueue : Fin numGates → Bool
  /-- whether a column has a `CreditBasedShaper` -/
  creditBased : Fin numGates → Bool
  /-- its parameters -/
  shaper : Fin numGates → ShaperConfig
  bufferCapacity : Fin numGates → Nat

structure Network (numGates : Nat) where
  mac : EtherMac
  columns : Fin numGates → Column
  /-- the gates that were asked for a packet -/
  selected : List (Fin numGates)
  /-- the gates whose packets have come to `TransmissionSelection` -/
  delivered : List (Fin numGates)

inductive NetworkEvent (numGates : Nat) where
  /-- time goes on, over nothing that is due -/
  | advance (t : SimTime)
  | macTimer (timer : MacTimer)
  | hold (delay : SimTime)
  | release
  | processPauseCommand (pauseUnits : Int)
  | enqueue (i : Fin numGates) (packet : Packet)
  | setGateState (i : Fin numGates) (gateOpen release : Bool)
  /-- `calculateMaxBit` answers something else from now on -/
  | setMaxTransferableBits (i : Fin numGates) (maxBits : Nat)
  /-- the first message of a column -/
  | handleMessage (i : Fin numGates)
  | endSpendingCredit (i : Fin numGates)
  | reachedZeroCredit (i : Fin numGates)
  /-- the self-messages of `TransmissionSelection` -/
  | requestPacketMsg
  | packetEnqueuedMsg
  deriving DecidableEq

namespace Network

variable {numGates : Nat} {cfg : NetworkConfig numGates} {n n' : Network numGates} {i : Fin numGates}
  {j : Fin numGates} {c : Column}

def start (cfg : NetworkConfig numGates) (preemptedBytesSent : Nat) : Network numGates where
  mac := .start preemptedBytesSent []
  columns := fun i => .start (cfg.isExpressQueue i) (cfg.creditBased i) (cfg.bufferCapacity i)
  selected := []
  delivered := []

/-- the gates in the order of their indices -/
def tGates (n : Network numGates) : List GateView := List.ofFn fun i => (n.columns i).view

/-- `TransmissionSelection` with the gates as they are -/
def selection (n : Network numGates) : TransmissionSelection :=
  { n.mac.transmissionSelection with tGates := n.tGates }

/-- the MAC with the gates as they are -/
def macView (n : Network numGates) : EtherMac :=
  { n.mac with transmissionSelection := n.selection }

def withMac (n : Network numGates) (r : Sim EtherMac) : Sim (Network numGates) := do
  let mac ← r
  return { n with mac }

def withSelection (n : Network numGates) (ts : TransmissionSelection) : Network numGates :=
  { n with mac := { n.mac with transmissionSelection := ts } }

def setColumn (n : Network numGates) (i : Fin numGates) (c : Column) : Network numGates :=
  { n with columns := Function.update n.columns i c }

/-- `transmissionSelection->packetEnqueued(this)`, if it is called -/
def notify (n : Network numGates) (notified : Bool) : Network numGates :=
  if notified then n.withSelection n.mac.transmissionSelection.packetEnqueued else n

/-- the gate that `schedulePacket` has found is asked for a packet -/
def select (n : Network numGates) : Option Nat → Network numGates
  | none => n
  | some g =>
    if h : g < numGates then
      { n.setColumn ⟨g, h⟩ { n.columns ⟨g, h⟩ with
          messages := post .gateRequest (n.columns ⟨g, h⟩).messages } with
        selected := n.selected ++ [⟨g, h⟩] }
    else n

/-! ## priorities -/

/-- no timer is due and no column has a message: it is the turn of `TransmissionSelection` -/
def Settled (n : Network numGates) : Prop :=
  (∀ timer ∈ [MacTimer.endTx, .endIFG, .endPause, .recheckForQueuedExpressFrame,
    .preemptCurrentFrame, .holdRequest], n.mac.time ∉ n.mac.scheduled timer) ∧
  ∀ i, (n.columns i).messages = [] ∧ ¬(n.columns i).TimerDue n.mac.time

instance (n : Network numGates) : Decidable n.Settled := inferInstanceAs (Decidable (_ ∧ _))

/-- nothing is due before `t` -/
def CanAdvance (n : Network numGates) (t : SimTime) : Prop :=
  n.mac.CanAdvance t ∧ ∀ i, (n.columns i).messages = [] ∧ ∀ s ∈ (n.columns i).shaper,
    (∀ u ∈ s.endSpendingCreditMessage, t ≤ u) ∧ ∀ u ∈ s.reachedZeroCreditMessage, t ≤ u

instance (n : Network numGates) (t : SimTime) : Decidable (n.CanAdvance t) :=
  inferInstanceAs (Decidable (_ ∧ _))

/-! ## the step -/

/-- the first message of a column, which has been taken off -/
def deliver (cfg : NetworkConfig numGates) (n : Network numGates) (i : Fin numGates) :
    ColumnMsg → Sim (Network numGates)
  | .selectionPacket packet => do
    let (packet, ts) ← n.selection.handlePacket i packet
    return { (n.withSelection ts).setColumn i { n.columns i with
        messages := (n.columns i).messages ++ [.macPacket packet] } with
      delivered := n.delivered ++ [i] }
  | .macPacket packet => n.withMac (n.macView.handleUpperPacket cfg.mac packet)
  | m => do
    let (c, notified) ← (n.columns i).handleMessage (cfg.shaper i) n.mac.time n.mac.onHold m
    return (n.setColumn i c).notify notified

def handleMessage (cfg : NetworkConfig numGates) (n : Network numGates) (i : Fin numGates) :
    Sim (Network numGates) :=
  match (n.columns i).messages with
  | [] => .error (.undefinedBehaviour "no message")
  | m :: messages =>
    if (n.columns i).TimerDue n.mac.time then .error (.undefinedBehaviour "a timer is due")
    else (n.setColumn i { n.columns i with messages }).deliver cfg i m

def handleRequestPacketEvent (n : Network numGates) : Sim (Network numGates) := do
  let (ts, gate) ← n.selection.handleRequestPacketEvent n.mac.onHold
  return (n.withSelection ts).select gate

/-- the MAC is the listener -/
def handlePacketEnqueuedEvent (cfg : NetworkConfig numGates) (n : Network numGates) :
    Sim (Network numGates) :=
  let (ts, gate, notified) := n.selection.handlePacketEnqueuedEvent n.mac.onHold
  let n := (n.withSelection ts).select gate
  if notified then n.withMac (n.macView.packetEnqueued cfg.mac) else .ok n

def step (cfg : NetworkConfig numGates) (n : Network numGates) :
    NetworkEvent numGates → Sim (Network numGates)
  | .advance t =>
    if n.CanAdvance t then .ok { n with mac := { n.mac with time := t } }
    else .error (.undefinedBehaviour "an event is due")
  | .macTimer timer =>
    if n.mac.time ∈ n.mac.scheduled timer then
      n.withMac (n.macView.handleSelfMessage cfg.mac timer)
    else .error (.undefinedBehaviour "the timer is not due")
  | .hold delay => n.withMac (n.macView.hold cfg.mac delay)
  | .release => n.withMac (n.macView.release cfg.mac)
  | .processPauseCommand pauseUnits => n.withMac (n.macView.processPauseCommand cfg.mac pauseUnits)
  | .enqueue i packet => .ok (n.setColumn i ((n.columns i).enqueue packet))
  | .setGateState i gateOpen release =>
    let (c, notified) := (n.columns i).setGateState n.mac.onHold gateOpen release
    .ok ((n.setColumn i c).notify notified)
  | .setMaxTransferableBits i maxBits =>
    .ok (n.setColumn i { n.columns i with maxTransferableBits := maxBits })
  | .handleMessage i => n.handleMessage cfg i
  | .endSpendingCredit i => do
    let c ← (n.columns i).handleEndSpendingCredit (cfg.shaper i) n.mac.time
    return n.setColumn i c
  | .reachedZeroCredit i => do
    let c ← (n.columns i).handleZeroCreditReached (cfg.shaper i) n.mac.time
    return n.setColumn i c
  | .requestPacketMsg =>
    if n.mac.transmissionSelection.requestPacketMsg = true ∧ n.Settled then n.handleRequestPacketEvent
    else .error (.undefinedBehaviour "requestPacketMsg is not next")
  | .packetEnqueuedMsg =>
    if n.mac.transmissionSelection.packetEnqueuedMsg = true ∧ n.Settled then
      n.handlePacketEnqueuedEvent cfg
    else .error (.undefinedBehaviour "packetEnqueuedMsg is not next")

/-! ## columns -/

theorem setColumn_self : (n.setColumn i c).columns i = c := Function.update_self _ _ _

theorem setColumn_of_ne (h : j ≠ i) : (n.setColumn i c).columns j = n.columns j :=
  Function.update_of_ne h _ _

theorem setColumn_setColumn {c' : Column} :
    (n.setColumn i c).setColumn i c' = n.setColumn i c' := by
  unfold setColumn
  rw [Function.update_idem]

/-- what holds of the new column and of the others holds of all -/
theorem forall_setColumn {P : Fin numGates → Column → Prop} (hi : P i c)
    (hj : ∀ j, P j (n.columns j)) (j : Fin numGates) : P j ((n.setColumn i c).columns j) := by
  by_cases h : j = i
  · subst h
    rw [setColumn_self]
    exact hi
  · rw [setColumn_of_ne h]
    exact hj j

/-! ## messages -/

/-- the first message of a column goes to `TransmissionSelection`, to the MAC, or back to the column -/
theorem handleMessage_ok (hs : n.handleMessage cfg i = .ok n') :
    (∃ packet packet' l, (n.columns i).messages = .selectionPacket packet :: l ∧
      n' = { (n.withSelection { (n.setColumn i { n.columns i with messages := l }).selection with
          packetRequestedFromUs := false }).setColumn i { n.columns i with
            messages := l ++ [.macPacket packet'] } with
          delivered := n.delivered ++ [i] }) ∨
    (∃ packet l, (n.columns i).messages = .macPacket packet :: l ∧
      (n.setColumn i { n.columns i with messages := l }).withMac
        ((n.setColumn i { n.columns i with messages := l }).macView.handleUpperPacket cfg.mac packet) =
          .ok n') ∨
    ∃ m l c notified, (n.columns i).messages = m :: l ∧
      { n.columns i with messages := l }.handleMessage (cfg.shaper i) n.mac.time n.mac.onHold m =
        .ok (c, notified) ∧ n' = (n.setColumn i c).notify notified := by
  unfold handleMessage at hs
  split at hs
  · cases hs
  · rename_i m l hl
    split at hs
    · cases hs
    · have hcolumn : (n.setColumn i { n.columns i with messages := l }).columns i =
          { n.columns i with messages := l } := setColumn_self
      unfold deliver at hs
      split at hs
      · rename_i packet
        obtain ⟨⟨packet', ts⟩, hts, hs⟩ := bind_ok.mp hs
        cases hs
        obtain rfl := TransmissionSelection.handlePacket_ok hts
        have hagain : ∀ (ts : TransmissionSelection) (c c' : Column),
            ((n.setColumn i c).withSelection ts).setColumn i c' =
              (n.withSelection ts).setColumn i c' :=
          fun ts c c' => setColumn_setColumn (n := n.withSelection ts) (c := c)
        rw [hcolumn, hagain]
        exact .inl ⟨packet, packet', l, hl, rfl⟩
      · rename_i packet
        exact .inr (.inl ⟨packet, l, hl, hs⟩)
      · obtain ⟨⟨c, notified⟩, hc, hs⟩ := bind_ok.mp hs
        cases hs
        rw [hcolumn] at hc
        rw [setColumn_setColumn]
        exact .inr (.inr ⟨m, l, c, notified, hl, hc, rfl⟩)

end Network
end Nesting
