import Nesting.Lib.Pipeline
import Nesting.Lib.Run
import Nesting.Queue.ColumnSteps
import Nesting.Queue.Handshake

/-!
# The packets of a traffic class stay in order

A packet that the queue has taken in passes the algorithm, the gate and `TransmissionSelection` on its
way to the MAC, in messages of its column.

* `Column.held`         the packets of a column, those under way first;
* `SamePackets`         an event that moves packets within the column;
* `PacketLedger`, `LoggedNetwork`   what the queues have taken in and what the MAC was given;
* `InOrder`             the invariant of every column;
* `packets_in_order`    **every run**: no packet is lost, doubled or overtaken within its class.
-/

set_option linter.unusedVariables false

namespace Nesting

open Lib EtherMac

/-- the packet as `TransmissionSelection` passes it on, for a gate with or without express frames -/
def Packet.tagged (isExpressQueue : Bool) (packet : Packet) : Packet :=
  { packet with express := packet.express || isExpressQueue }

/-- how far a packet has come, and what the MAC gets of it -/
def ColumnMsg.stage (isExpressQueue : Bool) : ColumnMsg → Option (ℕ × Packet)
  | .packet p => some (0, p.tagged isExpressQueue)
  | .gatePacket p => some (1, p.tagged isExpressQueue)
  | .selectionPacket p => some (2, p.tagged isExpressQueue)
  | .macPacket p => some (3, p)
  | _ => none

namespace Column

variable {cfg : ShaperConfig} {now : SimTime} {onHold notify : Bool} {c c' : Column}
  {m : ColumnMsg} {l : List ColumnMsg}

/-- the packets that have left the queue and not reached the MAC -/
def underWay (c : Column) : List Packet := pipeline (ColumnMsg.stage c.isExpressQueue) 3 c.messages

def held (c : Column) : List Packet := c.underWay ++ c.packets.map (Packet.tagged c.isExpressQueue)

/-- the packets of the column and their order are the same -/
structure SamePackets (c c' : Column) : Prop where
  isExpressQueue : c'.isExpressQueue = c.isExpressQueue
  held : c'.held = c.held

theorem SamePackets.of_messages (hx : c'.isExpressQueue = c.isExpressQueue)
    (hp : c'.packets = c.packets)
    (hm : pipeline (ColumnMsg.stage c.isExpressQueue) 3 c'.messages =
      pipeline (ColumnMsg.stage c.isExpressQueue) 3 c.messages) : SamePackets c c' := by
  refine ⟨hx, ?_⟩
  unfold Column.held underWay
  rw [hx, hp, hm]

/-- another message is posted -/
theorem samePackets_post (hm : ∀ b, m.stage b = none) :
    SamePackets c { c with messages := post m c.messages } :=
  .of_messages rfl rfl (pipeline_post 3 (hm _))

/-- a notification is posted, or not -/
theorem samePackets_notify {shaper : Option CreditBasedShaper} {notified : Bool} :
    SamePackets c { c with
      shaper
      messages := if notified = true then post .gatePacketEnqueued c.messages else c.messages } := by
  refine .of_messages rfl rfl ?_
  cases notified with
  | false => rfl
  | true => exact pipeline_post 3 rfl

/-- a message without a packet was the next -/
theorem samePackets_pop (h : c.messages = m :: l) (hm : ∀ b, m.stage b = none) :
    SamePackets c { c with messages := l } := by
  refine .of_messages rfl rfl ?_
  rw [h, pipeline_cons_none fun j _ => itemAt_none (hm _)]

/-- the front of the queue goes behind the packets under way -/
theorem samePackets_dequeue {packet : Packet} {packets : List Packet} {availableBufferCapacity : Nat}
    (hp : c.packets = packet :: packets) : SamePackets c { c with
      packets
      availableBufferCapacity
      messages := c.messages ++ [.packet packet] } := by
  have henter : pipeline (ColumnMsg.stage c.isExpressQueue) 3 (c.messages ++ [.packet packet]) =
      c.underWay ++ [packet.tagged c.isExpressQueue] := pipeline_enter 3 rfl
  refine ⟨rfl, ?_⟩
  unfold held
  rw [hp]
  unfold underWay at henter ⊢
  dsimp only
  rw [henter, List.map_cons, List.append_assoc]
  rfl

/-- the packet that goes to the MAC was the first -/
theorem held_macPacket {packet : Packet} (hl : c.messages = .macPacket packet :: l) :
    c.held = packet :: { c with messages := l }.held := by
  have hleave : pipeline (ColumnMsg.stage c.isExpressQueue) 3 (.macPacket packet :: l) =
      packet :: pipeline (ColumnMsg.stage c.isExpressQueue) 3 l := pipeline_leave rfl
  unfold held underWay
  dsimp only
  rw [hl, hleave]
  rfl

theorem SamePackets.refl (c : Column) : SamePackets c c := ⟨rfl, rfl⟩

theorem SamePackets.trans {c'' : Column} (h : SamePackets c c') (h' : SamePackets c' c'') :
    SamePackets c c'' :=
  ⟨h'.isExpressQueue.trans h.isExpressQueue, h'.held.trans h.held⟩

/-- **A message that the column handles** moves packets at most. -/
theorem samePackets_handleMessage (hl : c.messages = m :: l)
    (hs : { c with messages := l }.handleMessage cfg now onHold m = .ok (c', notify)) :
    SamePackets c c' := by
  have hpop : (∀ b, m.stage b = none) → SamePackets c { c with messages := l } :=
    samePackets_pop hl
  cases m with
  | gateStateChanged =>
    cases hs
    exact (hpop fun _ => rfl).trans (samePackets_post fun _ => rfl)
  | gatePacketEnqueued =>
    cases hs
    exact hpop fun _ => rfl
  | gateRequest =>
    obtain ⟨_, _, _, rfl⟩ := gateRequest_ok hs
    exact (hpop fun _ => rfl).trans (.of_messages rfl rfl (pipeline_post 3 rfl))
  | gateStateChangedMsg =>
    obtain ⟨_, ⟨_, rfl⟩ | ⟨s, s', _, _, rfl⟩⟩ := gateStateChangedMsg_ok hs
    · exact hpop fun _ => rfl
    · exact (hpop fun _ => rfl).trans (.of_messages rfl rfl rfl)
  | packetEnqueuedMsg =>
    obtain ⟨_, ⟨_, rfl⟩ | ⟨s, s', notified, _, _, rfl⟩⟩ := packetEnqueuedMsg_ok hs
    · exact (hpop fun _ => rfl).trans (samePackets_post fun _ => rfl)
    · exact (hpop fun _ => rfl).trans samePackets_notify
  | requestPacketMsg =>
    cases hs
    exact (hpop fun _ => rfl).trans (.of_messages rfl rfl (pipeline_post 3 rfl))
  | queueRequest =>
    obtain ⟨_, packet, packets, capacity, hp, rfl⟩ := queueRequest_ok hs
    exact (hpop fun _ => rfl).trans (samePackets_dequeue hp)
  | packet packet =>
    obtain ⟨_, shaper, rfl⟩ := packet_ok hs
    refine .of_messages rfl rfl ?_
    rw [hl]
    exact pipeline_pass rfl rfl (by omega)
  | gatePacket packet =>
    cases hs
    refine .of_messages rfl rfl ?_
    rw [hl]
    exact pipeline_pass rfl rfl (by omega)
  | selectionPacket packet => cases hs
  | macPacket packet => cases hs

theorem samePackets_setGateState {gateOpen release : Bool} :
    SamePackets c (c.setGateState onHold gateOpen release).1 := by
  unfold setGateState
  split
  · exact .of_messages rfl rfl (pipeline_post 3 rfl)
  · exact ⟨rfl, rfl⟩

theorem samePackets_endSpendingCredit (h : c.handleEndSpendingCredit cfg now = .ok c') :
    SamePackets c c' := by
  obtain ⟨s, s', notified, _, _, _, rfl⟩ := handleEndSpendingCredit_ok h
  exact samePackets_notify

theorem samePackets_reachedZeroCredit (h : c.handleZeroCreditReached cfg now = .ok c') :
    SamePackets c c' := by
  obtain ⟨s, s', notified, _, _, _, rfl⟩ := handleZeroCreditReached_ok h
  exact samePackets_notify

/-- whether the queue takes an arriving packet in -/
def admits (c : Column) (packet : Packet) : Bool :=
  decide (c.availableBufferCapacity ≥ packet.bitLength)

/-- a packet that is taken in goes behind all others -/
theorem held_enqueue (c : Column) (packet : Packet) :
    (c.enqueue packet).isExpressQueue = c.isExpressQueue ∧
      (c.enqueue packet).held =
        c.held ++ if c.admits packet then [packet.tagged c.isExpressQueue] else [] := by
  have hpost : pipeline (ColumnMsg.stage c.isExpressQueue) 3 (post .packetEnqueuedMsg c.messages) =
      pipeline (ColumnMsg.stage c.isExpressQueue) 3 c.messages := pipeline_post 3 rfl
  unfold enqueue admits
  by_cases hfit : c.availableBufferCapacity ≥ packet.bitLength
  · rw [if_pos hfit, if_pos (decide_eq_true hfit)]
    refine ⟨rfl, ?_⟩
    unfold held underWay
    dsimp only
    rw [hpost, List.map_append, List.append_assoc]
    rfl
  · rw [if_neg hfit, if_neg (by simpa using hfit), List.append_nil]
    exact ⟨rfl, congrArg (· ++ _) hpost⟩

end Column

/-! ## the network -/

namespace Network

variable {numGates : Nat} {cfg : NetworkConfig numGates} {n n' : Network numGates}
  {i : Fin numGates} {c : Column}

/-- every column has the same packets -/
def SamePackets (n n' : Network numGates) : Prop :=
  ∀ i, Column.SamePackets (n.columns i) (n'.columns i)

theorem SamePackets.of_columns (h : n'.columns = n.columns) : SamePackets n n' := by
  intro i
  rw [h]
  exact .refl _

theorem samePackets_setColumn (h : Column.SamePackets (n.columns i) c) :
    SamePackets n (n.setColumn i c) :=
  forall_setColumn (P := fun j c => Column.SamePackets (n.columns j) c) h fun j => .refl _

theorem notify_columns (notified : Bool) : (n.notify notified).columns = n.columns := by
  cases notified with
  | false => rfl
  | true => rfl

theorem withMac_columns {r : Sim EtherMac} (h : n.withMac r = .ok n') : n'.columns = n.columns := by
  obtain ⟨mac, _, h⟩ := bind_ok.mp h
  cases h
  rfl

theorem samePackets_select (g : Option Nat) : SamePackets n (n.select g) := by
  unfold select
  cases g with
  | none => exact .of_columns rfl
  | some g =>
    dsimp only
    split
    · exact samePackets_setColumn (Column.samePackets_post fun _ => rfl)
    · exact .of_columns rfl

/-- `TransmissionSelection` tags the packet and passes it on -/
theorem handleMessage_selectionPacket {packet : Packet} {l : List ColumnMsg}
    (hl : (n.columns i).messages = .selectionPacket packet :: l)
    (hs : n.handleMessage cfg i = .ok n') :
    n'.columns = Function.update n.columns i { n.columns i with
      messages := l ++ [.macPacket (packet.tagged (n.columns i).isExpressQueue)] } := by
  unfold handleMessage at hs
  rw [hl] at hs
  dsimp only at hs
  split at hs
  · cases hs
  · obtain ⟨⟨packet', ts⟩, hts, hs⟩ := bind_ok.mp hs
    cases hs
    have hgate : (n.setColumn i { n.columns i with messages := l }).selection.tGates[i.val]? =
        some (n.columns i).view := by
      show (List.ofFn fun j => ((n.setColumn i _).columns j).view)[i.val]? = _
      rw [List.getElem?_ofFn, dif_pos i.isLt]
      show some ((n.setColumn i _).columns i).view = _
      rw [setColumn_self]
      rfl
    unfold TransmissionSelection.handlePacket at hts
    rw [hgate] at hts
    obtain ⟨_, _, hts⟩ := bind_ok.mp hts
    cases hts
    show Function.update (Function.update n.columns i _) i _ = _
    rw [Function.update_idem, setColumn_self]
    rfl

theorem samePackets_selectionPacket {packet : Packet} {l : List ColumnMsg}
    (hl : (n.columns i).messages = .selectionPacket packet :: l)
    (hs : n.handleMessage cfg i = .ok n') : SamePackets n n' := by
  have hc := handleMessage_selectionPacket hl hs
  have hsame : Column.SamePackets (n.columns i) { n.columns i with
      messages := l ++ [.macPacket (packet.tagged (n.columns i).isExpressQueue)] } := by
    refine .of_messages rfl rfl ?_
    rw [hl]
    exact pipeline_pass rfl rfl (by omega)
  exact fun j => (samePackets_setColumn hsame j).trans
    ((SamePackets.of_columns (n := n.setColumn i _) hc) j)

/-- the packet that the MAC is given was the first of its column -/
theorem held_macPacket {packet : Packet} {l : List ColumnMsg}
    (hl : (n.columns i).messages = .macPacket packet :: l)
    (hs : n.handleMessage cfg i = .ok n') :
    (∀ j, (n'.columns j).isExpressQueue = (n.columns j).isExpressQueue) ∧
      (n.columns i).held = packet :: (n'.columns i).held ∧
      ∀ j ≠ i, (n'.columns j).held = (n.columns j).held := by
  have hc : n'.columns = (n.setColumn i { n.columns i with messages := l }).columns := by
    unfold handleMessage at hs
    rw [hl] at hs
    dsimp only at hs
    split at hs
    · cases hs
    · exact withMac_columns hs
  refine ⟨fun j => ?_, ?_, fun j hj => ?_⟩
  · rw [hc]
    have hself : { n.columns i with messages := l }.isExpressQueue =
        (n.columns i).isExpressQueue := rfl
    exact forall_setColumn (P := fun j c => c.isExpressQueue = (n.columns j).isExpressQueue)
      hself (fun _ => rfl) j
  · rw [hc, setColumn_self]
    exact Column.held_macPacket hl
  · rw [hc, setColumn_of_ne hj]

end Network

/-! ## the ledger -/

structure PacketLedger (numGates : Nat) where
  /-- the packets that the queues have taken in -/
  admitted : List (Fin numGates × Packet)
  /-- the packets that the MAC was given -/
  handed : List (Fin numGates × Packet)
  deriving DecidableEq

namespace PacketLedger
variable {numGates : Nat} {i j : Fin numGates} {packet : Packet} {l : List (Fin numGates × Packet)}

/-- the entries of one gate -/
def ofGate (i : Fin numGates) (l : List (Fin numGates × Packet)) : List Packet :=
  l.filterMap fun entry => if entry.1 = i then some entry.2 else none

theorem ofGate_snoc_self : ofGate i (l ++ [(i, packet)]) = ofGate i l ++ [packet] := by
  simp [ofGate]

theorem ofGate_snoc_other (h : j ≠ i) : ofGate i (l ++ [(j, packet)]) = ofGate i l := by
  simp [ofGate, h]

/-- what an event enters in the ledger, in the state before it -/
def record (n : Network numGates) (ledger : PacketLedger numGates) :
    NetworkEvent numGates → PacketLedger numGates
  | .enqueue i packet =>
    if (n.columns i).admits packet then { ledger with admitted := ledger.admitted ++ [(i, packet)] }
    else ledger
  | .handleMessage i =>
    match (n.columns i).messages with
    | .macPacket packet :: _ => { ledger with handed := ledger.handed ++ [(i, packet)] }
    | _ => ledger
  | _ => ledger

end PacketLedger

structure LoggedNetwork (numGates : Nat) where
  network : Network numGates
  ledger : PacketLedger numGates

namespace LoggedNetwork
variable {numGates : Nat} {cfg : NetworkConfig numGates} {s s' : LoggedNetwork numGates}
  {i : Fin numGates}

def start (cfg : NetworkConfig numGates) (preemptedBytesSent : Nat) : LoggedNetwork numGates :=
  ⟨.start cfg preemptedBytesSent, ⟨[], []⟩⟩

def step (cfg : NetworkConfig numGates) (s : LoggedNetwork numGates) (e : NetworkEvent numGates) :
    Sim (LoggedNetwork numGates) := do
  let network ← s.network.step cfg e
  return ⟨network, s.ledger.record s.network e⟩

/-- what the queue of each gate has taken in was given to the MAC or is in the column, in this order -/
structure InOrder (cfg : NetworkConfig numGates) (s : LoggedNetwork numGates) : Prop where
  isExpressQueue : ∀ i, (s.network.columns i).isExpressQueue = cfg.isExpressQueue i
  inOrder : ∀ i, (PacketLedger.ofGate i s.ledger.admitted).map (Packet.tagged (cfg.isExpressQueue i)) =
    PacketLedger.ofGate i s.ledger.handed ++ (s.network.columns i).held

theorem inOrder_start (cfg : NetworkConfig numGates) (preemptedBytesSent : Nat) :
    InOrder cfg (start cfg preemptedBytesSent) := ⟨fun _ => rfl, fun _ => rfl⟩

theorem InOrder.same (h : InOrder cfg s) (hp : s.network.SamePackets s'.network)
    (hl : s'.ledger = s.ledger) : InOrder cfg s' := by
  refine ⟨fun i => (hp i).isExpressQueue.trans (h.isExpressQueue i), fun i => ?_⟩
  rw [hl, (hp i).held]
  exact h.inOrder i

theorem InOrder.enqueue (h : InOrder cfg s) (i : Fin numGates) (packet : Packet) :
    InOrder cfg ⟨s.network.setColumn i ((s.network.columns i).enqueue packet),
      s.ledger.record s.network (.enqueue i packet)⟩ := by
  obtain ⟨hx, hheld⟩ := (s.network.columns i).held_enqueue packet
  refine ⟨Network.forall_setColumn (P := fun j c => c.isExpressQueue = cfg.isExpressQueue j)
    (hx.trans (h.isExpressQueue i)) h.isExpressQueue, fun j => ?_⟩
  have hj := h.inOrder j
  unfold PacketLedger.record
  dsimp only
  by_cases hji : j = i
  · subst hji
    rw [Network.setColumn_self, hheld, h.isExpressQueue, ← List.append_assoc]
    split
    · dsimp only
      rw [PacketLedger.ofGate_snoc_self, List.map_append, hj]
      rfl
    · rw [List.append_nil]
      exact hj
  · rw [Network.setColumn_of_ne hji]
    split
    · dsimp only
      rw [PacketLedger.ofGate_snoc_other (Ne.symm hji)]
      exact hj
    · exact hj

theorem InOrder.handleMessage (h : InOrder cfg s) (i : Fin numGates) {n' : Network numGates}
    (hs : s.network.handleMessage cfg i = .ok n') :
    InOrder cfg ⟨n', s.ledger.record s.network (.handleMessage i)⟩ := by
  obtain ⟨packet, packet', l, hl, _⟩ | ⟨packet, l, hl, _⟩ | ⟨m, l, c, notified, hl, hc, hn⟩ :=
    Network.handleMessage_ok hs
  · refine h.same (Network.samePackets_selectionPacket hl hs) ?_
    unfold PacketLedger.record
    dsimp only
    rw [hl]
  · obtain ⟨hx, hself, hother⟩ := Network.held_macPacket hl hs
    refine ⟨fun j => (hx j).trans (h.isExpressQueue j), fun j => ?_⟩
    have hj := h.inOrder j
    unfold PacketLedger.record
    dsimp only
    rw [hl]
    by_cases hji : j = i
    · subst hji
      rw [hself] at hj
      dsimp only
      rw [PacketLedger.ofGate_snoc_self, hj, List.append_assoc]
      rfl
    · dsimp only
      rw [PacketLedger.ofGate_snoc_other (Ne.symm hji), hother j hji]
      exact hj
  · have hsame : s.network.SamePackets (s.network.setColumn i c) :=
      Network.samePackets_setColumn (Column.samePackets_handleMessage hl hc)
    refine h.same (fun j => ?_) ?_
    · rw [hn, Network.notify_columns]
      exact hsame j
    · -- a packet for the MAC is no message of the column
      unfold PacketLedger.record
      dsimp only
      rw [hl]
      cases m with
      | macPacket packet => cases hc
      | _ => rfl

theorem inOrder_step {e : NetworkEvent numGates} (h : InOrder cfg s) (hs : s.step cfg e = .ok s') :
    InOrder cfg s' := by
  obtain ⟨n', hn, hs⟩ := bind_ok.mp hs
  cases hs
  have hmac : ∀ {r : Sim EtherMac}, s.network.withMac r = .ok n' → s.network.SamePackets n' :=
    fun hr => .of_columns (Network.withMac_columns hr)
  cases e with
  | advance t =>
    change (if s.network.CanAdvance t then _ else _) = _ at hn
    split at hn
    · cases hn
      exact h.same (.of_columns rfl) rfl
    · cases hn
  | macTimer timer =>
    change (if _ ∈ _ then _ else _) = _ at hn
    split at hn
    · exact h.same (hmac hn) rfl
    · cases hn
  | hold delay => exact h.same (hmac hn) rfl
  | release => exact h.same (hmac hn) rfl
  | processPauseCommand pauseUnits => exact h.same (hmac hn) rfl
  | enqueue i packet =>
    cases hn
    exact h.enqueue i packet
  | setGateState i gateOpen release =>
    cases hn
    refine h.same (fun j => ?_) rfl
    rw [Network.notify_columns]
    exact Network.samePackets_setColumn Column.samePackets_setGateState j
  | setMaxTransferableBits i maxBits =>
    cases hn
    exact h.same (Network.samePackets_setColumn ⟨rfl, rfl⟩) rfl
  | handleMessage i => exact h.handleMessage i hn
  | endSpendingCredit i =>
    obtain ⟨c, hc, hn⟩ := bind_ok.mp hn
    cases hn
    exact h.same (Network.samePackets_setColumn (Column.samePackets_endSpendingCredit hc)) rfl
  | reachedZeroCredit i =>
    obtain ⟨c, hc, hn⟩ := bind_ok.mp hn
    cases hn
    exact h.same (Network.samePackets_setColumn (Column.samePackets_reachedZeroCredit hc)) rfl
  | requestPacketMsg =>
    change (if _ ∧ _ then _ else _) = _ at hn
    split at hn
    · obtain ⟨⟨ts, gate⟩, _, hn⟩ := bind_ok.mp hn
      cases hn
      exact h.same (Network.samePackets_select (n := s.network.withSelection ts) gate) rfl
    · cases hn
  | packetEnqueuedMsg =>
    change (if _ ∧ _ then _ else _) = _ at hn
    split at hn
    · unfold Network.handlePacketEnqueuedEvent at hn
      dsimp only at hn
      have hselect := Network.samePackets_select (n := s.network.withSelection
        (s.network.selection.handlePacketEnqueuedEvent s.network.mac.onHold).1)
        (s.network.selection.handlePacketEnqueuedEvent s.network.mac.onHold).2.1
      split at hn
      · refine h.same (fun i => (hselect i).trans ?_) rfl
        rw [Network.withMac_columns hn]
        exact .refl _
      · cases hn
        exact h.same hselect rfl
    · cases hn

/-- **No packet is lost, doubled or overtaken within its class**: in every run, the packets that the
queue of a gate has taken in are those the MAC was given from this gate, those under way and those in
the queue, in this order. -/
theorem packets_in_order (cfg : NetworkConfig numGates) (preemptedBytesSent : Nat)
    (es : List (NetworkEvent numGates))
    (hr : run (step cfg) (start cfg preemptedBytesSent) es = .ok s) (i : Fin numGates) :
    (PacketLedger.ofGate i s.ledger.admitted).map (Packet.tagged (cfg.isExpressQueue i)) =
      PacketLedger.ofGate i s.ledger.handed ++ (s.network.columns i).underWay ++
        (s.network.columns i).packets.map (Packet.tagged (cfg.isExpressQueue i)) := by
  have h : InOrder cfg s := run_invariant (I := InOrder cfg) (fun s e s' h hs => inOrder_step h hs)
    (inOrder_start cfg preemptedBytesSent) hr
  rw [h.inOrder i, Column.held, h.isExpressQueue i, List.append_assoc]

/-- an express packet stops a packet of the other queue, and two more packets come -/
def overtakingRun : List (NetworkEvent 2) :=
  .requestPacketMsg :: Network.arrive 0 bulkFrame ++ Network.answer 0 ++ [.advance (byteTimes 100)] ++
  Network.arrive 1 expressFrame ++ [.packetEnqueuedMsg, .requestPacketMsg] ++
  List.replicate 7 (.handleMessage 1) ++
  [.advance (byteTimes 104), .macTimer .endTx, .macTimer .endIFG, .advance (byteTimes 176),
   .macTimer .endTx, .macTimer .endIFG, .enqueue 0 nextBulkFrame, .handleMessage 0,
   .enqueue 1 expressFrame]

theorem packets_in_order_overtakingRun : ∃ s,
    run (step Network.twoQueues) (start Network.twoQueues 0) overtakingRun = .ok s ∧
    s.ledger.admitted = [(0, bulkFrame), (1, expressFrame), (0, nextBulkFrame), (1, expressFrame)] ∧
    (PacketLedger.ofGate 1 s.ledger.admitted).map (Packet.tagged true) =
      PacketLedger.ofGate 1 s.ledger.handed ++ (s.network.columns 1).underWay ++
        (s.network.columns 1).packets.map (Packet.tagged true) := by
  obtain ⟨s, hs, hp⟩ : ∃ s, run (step Network.twoQueues) (start Network.twoQueues 0) overtakingRun =
      .ok s ∧ s.ledger.admitted =
        [(0, bulkFrame), (1, expressFrame), (0, nextBulkFrame), (1, expressFrame)] :=
    exists_of_any (by decide +kernel)
  exact ⟨s, hs, hp, packets_in_order Network.twoQueues 0 overtakingRun hs 1⟩

end LoggedNetwork

end Nesting
