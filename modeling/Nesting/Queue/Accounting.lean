import Mathlib.Data.List.Perm.Basic
import Mathlib.Data.List.Infix
import Nesting.Lib.Chronicle
import Nesting.Lib.Run
import Nesting.Queue.LengthAwareQueue

/-!
# The books of a queue

`LengthAwareQueue` behind its `TSAlgorithm`, for every capacity, also a negative one, and with the
messages that the two send themselves.

* `PacketQueue`, `TSAlgorithm`   the two modules;
* `QueueSystem`, `step`          packets arrive, and requests and messages come in any order;
* `received`, `accepted`, `dropped`, `sent`   what the records of a run say;
* `RecordOk`                     when a packet may be accepted, dropped or sent;
* `Books`                        the counters and the queue agree with the records.
-/

set_option linter.unusedVariables false

namespace Nesting

open Lib

/-- what is used of a `cPacket` -/
structure CPacket where
  treeId : Nat
  bitLength : Nat
  deriving DecidableEq, Repr

/-- `LengthAwareQueue` with its counters -/
structure PacketQueue where
  queue : List CPacket
  /-- a `long` -/
  availableBufferCapacity : Int
  maxTransmittableBits : Nat
  /-- the message is scheduled -/
  requestPacketMsg : Bool
  numPacketsReceived : Nat
  numPacketsDropped : Nat
  numPacketsEnqueued : Nat
  deriving DecidableEq, Repr

structure TSAlgorithm where
  maxTransmittableBits : Nat
  /-- the message is scheduled -/
  requestPacketMsg : Bool
  /-- the message is scheduled -/
  packetEnqueuedMsg : Bool
  deriving DecidableEq, Repr

namespace PacketQueue

def initial (bufferCapacity : Int) : PacketQueue where
  queue := []
  availableBufferCapacity := bufferCapacity
  maxTransmittableBits := 0
  requestPacketMsg := false
  numPacketsReceived := 0
  numPacketsDropped := 0
  numPacketsEnqueued := 0

/-- with the overhead of the preamble -/
def isEmpty (q : PacketQueue) (maxBits : Nat) : Bool :=
  match q.queue with
  | [] => true
  | nextPacket :: _ => decide (nextPacket.bitLength + preambleSize > maxBits)

/-- the algorithm is notified in either case -/
def enqueue (q : PacketQueue) (packet : CPacket) : PacketQueue :=
  if q.availableBufferCapacity ≥ packet.bitLength then { q with
    numPacketsEnqueued := q.numPacketsEnqueued + 1
    queue := q.queue ++ [packet]
    availableBufferCapacity := q.availableBufferCapacity - packet.bitLength }
  else { q with numPacketsDropped := q.numPacketsDropped + 1 }

/-- a packet has arrived -/
def handlePacket (q : PacketQueue) (packet : CPacket) : PacketQueue :=
  { q with numPacketsReceived := q.numPacketsReceived + 1 }.enqueue packet

/-- `none` is the null pointer -/
def dequeue (q : PacketQueue) : Option CPacket × PacketQueue :=
  match q.queue with
  | [] => (none, q)
  | packet :: queue => (some packet, { q with
      queue := queue
      availableBufferCapacity := q.availableBufferCapacity + packet.bitLength })

/-- the packet that is sent -/
def handleRequestPacketEvent (q : PacketQueue) (maxBits : Nat) : Sim (CPacket × PacketQueue) := do
  ASSERT (!q.isEmpty maxBits) "!isEmpty(maxBits)"
  match q.dequeue with
  | (none, _) => .error (.undefinedBehaviour "packetToSend->getTreeId()")
  | (some packetToSend, q) => .ok (packetToSend, q)

def requestPacket (q : PacketQueue) (maxBits : Nat) : PacketQueue :=
  { q with
    maxTransmittableBits := maxBits
    requestPacketMsg := true }

end PacketQueue

/-- what happens, in the order in which it happens -/
inductive QueueRecord where
  | accepted (packet : CPacket)
  | dropped (packet : CPacket)
  | requested (maxBits : Nat)
  | sent (packet : CPacket)
  deriving DecidableEq, Repr

structure QueueSystem where
  tsAlgorithm : TSAlgorithm
  queue : PacketQueue
  history : List QueueRecord
  deriving DecidableEq, Repr

inductive QueueEvent where
  /-- a packet arrives at the queue -/
  | arrival (packet : CPacket)
  /-- `TSAlgorithm::requestPacket` -/
  | requestPacket (maxBits : Nat)
  /-- `TSAlgorithm::requestPacketMsg` -/
  | requestPacketMsg
  /-- `TSAlgorithm::packetEnqueuedMsg` -/
  | packetEnqueuedMsg
  /-- `LengthAwareQueue::requestPacketMsg` -/
  | queueRequestPacketMsg
  deriving DecidableEq, Repr

namespace QueueSystem

def start (bufferCapacity : Int) : QueueSystem where
  tsAlgorithm := ⟨0, false, false⟩
  queue := .initial bufferCapacity
  history := []

/-- a message that is not scheduled does not come -/
def arrives (scheduled : Bool) : Sim Unit :=
  if scheduled then .ok () else .error (.undefinedBehaviour "a message that is not scheduled")

def step (s : QueueSystem) : QueueEvent → Sim QueueSystem
  | .arrival packet => .ok { s with
      tsAlgorithm := { s.tsAlgorithm with packetEnqueuedMsg := true }
      queue := s.queue.handlePacket packet
      history := s.history ++ [if s.queue.availableBufferCapacity ≥ packet.bitLength then
        .accepted packet else .dropped packet] }
  | .requestPacket maxBits => do
    ASSERT (!s.queue.isEmpty maxBits) "!isEmpty(maxBits)"
    return { s with
      tsAlgorithm := { s.tsAlgorithm with
        maxTransmittableBits := maxBits
        requestPacketMsg := true }
      history := s.history ++ [.requested maxBits] }
  | .requestPacketMsg => do
    arrives s.tsAlgorithm.requestPacketMsg
    return { s with
      tsAlgorithm := { s.tsAlgorithm with requestPacketMsg := false }
      queue := s.queue.requestPacket s.tsAlgorithm.maxTransmittableBits }
  | .packetEnqueuedMsg => do
    arrives s.tsAlgorithm.packetEnqueuedMsg
    return { s with tsAlgorithm := { s.tsAlgorithm with packetEnqueuedMsg := false } }
  | .queueRequestPacketMsg => do
    arrives s.queue.requestPacketMsg
    let (packet, queue) ← { s.queue with
      requestPacketMsg := false }.handleRequestPacketEvent s.queue.maxTransmittableBits
    return { s with
      queue := queue
      history := s.history ++ [.sent packet] }

/-! ## what the records say -/

def acceptedOf : QueueRecord → Option CPacket
  | .accepted packet => some packet
  | _ => none

def droppedOf : QueueRecord → Option CPacket
  | .dropped packet => some packet
  | _ => none

def receivedOf : QueueRecord → Option CPacket
  | .accepted packet => some packet
  | .dropped packet => some packet
  | _ => none

def sentOf : QueueRecord → Option CPacket
  | .sent packet => some packet
  | _ => none

def requestOf : QueueRecord → Option Nat
  | .requested maxBits => some maxBits
  | _ => none

def bits (packets : List CPacket) : Int := (packets.map fun p => (p.bitLength : Int)).sum

/-- what was accepted and not sent yet, the packets being sent in the order of acceptance -/
def queued (h : List QueueRecord) : List CPacket :=
  (h.filterMap acceptedOf).drop (h.filterMap sentOf).length

/-- A packet is accepted if and only if it fits into the buffer; the oldest packet is sent, and it fits
into the latest request. -/
def RecordOk (bufferCapacity : Int) (h : List QueueRecord) : QueueRecord → Prop
  | .accepted packet => bits (queued h) + packet.bitLength ≤ bufferCapacity
  | .dropped packet => ¬bits (queued h) + packet.bitLength ≤ bufferCapacity
  | .requested maxBits => True
  | .sent packet => (queued h).head? = some packet ∧
      ∃ maxBits, latest requestOf h = some maxBits ∧ packet.bitLength + 64 ≤ maxBits

/-- the counters and the queue are those of the records -/
structure Books (bufferCapacity : Int) (s : QueueSystem) : Prop where
  available : s.queue.availableBufferCapacity = bufferCapacity - bits s.queue.queue
  /-- in the order of acceptance -/
  order : s.history.filterMap acceptedOf = s.history.filterMap sentOf ++ s.queue.queue
  once : (s.history.filterMap receivedOf).Perm
    (s.history.filterMap droppedOf ++ s.history.filterMap sentOf ++ s.queue.queue)
  numReceived : s.queue.numPacketsReceived = (s.history.filterMap receivedOf).length
  numDropped : s.queue.numPacketsDropped = (s.history.filterMap droppedOf).length
  numEnqueued : s.queue.numPacketsEnqueued = (s.history.filterMap acceptedOf).length
  records : Each (RecordOk bufferCapacity) s.history

end QueueSystem

/-! ## the two modules -/

namespace PacketQueue

variable {q q' : PacketQueue} {packet : CPacket} {maxBits : Nat}

theorem isEmpty_eq_false : q.isEmpty maxBits = false ↔ ∃ nextPacket rest,
    q.queue = nextPacket :: rest ∧ nextPacket.bitLength + preambleSize ≤ maxBits := by
  unfold isEmpty
  cases hq : q.queue with
  | nil => simp
  | cons nextPacket rest => simp [not_lt]

theorem enqueue_fits (h : q.availableBufferCapacity ≥ packet.bitLength) :
    q.handlePacket packet = { q with
      numPacketsReceived := q.numPacketsReceived + 1
      numPacketsEnqueued := q.numPacketsEnqueued + 1
      queue := q.queue ++ [packet]
      availableBufferCapacity := q.availableBufferCapacity - packet.bitLength } :=
  if_pos h

theorem enqueue_full (h : ¬q.availableBufferCapacity ≥ packet.bitLength) :
    q.handlePacket packet = { q with
      numPacketsReceived := q.numPacketsReceived + 1
      numPacketsDropped := q.numPacketsDropped + 1 } :=
  if_neg h

/-- only a first packet that fits is sent -/
theorem handleRequestPacketEvent_ok (h : q.handleRequestPacketEvent maxBits = .ok (packet, q')) :
    ∃ rest, q.queue = packet :: rest ∧ packet.bitLength + preambleSize ≤ maxBits ∧
      q' = { q with
        queue := rest
        availableBufferCapacity := q.availableBufferCapacity + packet.bitLength } := by
  obtain ⟨u, hne, h⟩ := bind_ok.mp h
  have hne : q.isEmpty maxBits = false := by simpa using ASSERT_ok.mp hne
  obtain ⟨nextPacket, rest, hq, hfits⟩ := isEmpty_eq_false.mp hne
  have hdequeue : q.dequeue = (some nextPacket, { q with
      queue := rest
      availableBufferCapacity := q.availableBufferCapacity + nextPacket.bitLength }) := by
    rw [dequeue, hq]
  rw [hdequeue] at h
  cases h
  exact ⟨rest, hq, hfits, rfl⟩

end PacketQueue

namespace QueueSystem

variable {bufferCapacity : Int} {s s' : QueueSystem} {packet : CPacket}

/-! ## one step -/

@[simp] theorem bits_nil : bits [] = 0 := rfl

@[simp] theorem bits_cons (p : CPacket) (packets : List CPacket) :
    bits (p :: packets) = p.bitLength + bits packets := by
  simp [bits]

@[simp] theorem bits_append (xs ys : List CPacket) : bits (xs ++ ys) = bits xs + bits ys := by
  simp [bits]

theorem filterMap_single {ρ β : Type} (f : ρ → Option β) (r : ρ) :
    [r].filterMap f = (f r).toList := by
  cases hr : f r with
  | none => rw [List.filterMap_cons_none hr, List.filterMap_nil, Option.toList_none]
  | some b => rw [List.filterMap_cons_some hr, List.filterMap_nil, Option.toList_some]

/-- the queue is what the records leave of the accepted packets -/
theorem Books.queued (hb : Books bufferCapacity s) : queued s.history = s.queue.queue := by
  rw [QueueSystem.queued, hb.order, List.drop_left]

theorem arrives_ok {scheduled : Bool} {u : Unit} (h : arrives scheduled = .ok u) :
    scheduled = true := by
  cases scheduled with
  | true => rfl
  | false => cases h

theorem Books.accept (hb : Books bufferCapacity s)
    (h : s.queue.availableBufferCapacity ≥ packet.bitLength) :
    Books bufferCapacity { s with
      tsAlgorithm := { s.tsAlgorithm with packetEnqueuedMsg := true }
      queue := s.queue.handlePacket packet
      history := s.history ++ [.accepted packet] } := by
  have havailable := hb.available
  rw [PacketQueue.enqueue_fits h]
  refine ⟨?_, ?_, ?_, ?_, ?_, ?_, each_snoc.mpr ⟨hb.records, ?_⟩⟩
  · show _ - _ = _ - bits (_ ++ _)
    rw [bits_append, bits_cons, bits_nil]
    omega
  · simp [filterMap_single, acceptedOf, sentOf, hb.order]
  · have honce := hb.once.append_right [packet]
    simpa [filterMap_single, receivedOf, droppedOf, sentOf] using honce
  · simp [receivedOf, hb.numReceived]
  · simp [filterMap_single, droppedOf, hb.numDropped]
  · simp [acceptedOf, hb.numEnqueued]
  · show bits (QueueSystem.queued s.history) + _ ≤ _
    rw [hb.queued]
    omega

theorem Books.drop (hb : Books bufferCapacity s)
    (h : ¬s.queue.availableBufferCapacity ≥ packet.bitLength) :
    Books bufferCapacity { s with
      tsAlgorithm := { s.tsAlgorithm with packetEnqueuedMsg := true }
      queue := s.queue.handlePacket packet
      history := s.history ++ [.dropped packet] } := by
  have havailable := hb.available
  rw [PacketQueue.enqueue_full h]
  refine ⟨hb.available, ?_, ?_, ?_, ?_, ?_, each_snoc.mpr ⟨hb.records, ?_⟩⟩
  · simp [filterMap_single, acceptedOf, sentOf, hb.order]
  · have honce := (hb.once.append_right [packet]).trans List.perm_append_comm
    have hmiddle : (s.history.filterMap droppedOf ++
        packet :: (s.history.filterMap sentOf ++ s.queue.queue)).Perm
        (packet :: (s.history.filterMap droppedOf ++
          (s.history.filterMap sentOf ++ s.queue.queue))) := List.perm_middle
    rw [← List.append_assoc] at hmiddle
    simpa [filterMap_single, receivedOf, droppedOf, sentOf] using honce.trans hmiddle.symm
  · simp [receivedOf, hb.numReceived]
  · simp [droppedOf, hb.numDropped]
  · simp [filterMap_single, acceptedOf, hb.numEnqueued]
  · show ¬bits (QueueSystem.queued s.history) + _ ≤ _
    rw [hb.queued]
    omega

theorem Books.request (hb : Books bufferCapacity s) (maxBits : Nat) :
    Books bufferCapacity { s with
      tsAlgorithm := { s.tsAlgorithm with
        maxTransmittableBits := maxBits
        requestPacketMsg := true }
      history := s.history ++ [.requested maxBits] } := by
  refine ⟨hb.available, ?_, ?_, ?_, ?_, ?_, each_snoc.mpr ⟨hb.records, trivial⟩⟩
  · simp [filterMap_single, acceptedOf, sentOf, hb.order]
  · simpa [filterMap_single, receivedOf, droppedOf, sentOf] using hb.once
  · simp [filterMap_single, receivedOf, hb.numReceived]
  · simp [filterMap_single, droppedOf, hb.numDropped]
  · simp [filterMap_single, acceptedOf, hb.numEnqueued]

/-- the packet fits into the latest request -/
theorem Books.send {rest : List CPacket} {maxBits : Nat} (hb : Books bufferCapacity s)
    (hq : s.queue.queue = packet :: rest) (hlatest : latest requestOf s.history = some maxBits)
    (hfits : packet.bitLength + preambleSize ≤ maxBits) :
    Books bufferCapacity { s with
      queue := { s.queue with
        requestPacketMsg := false
        queue := rest
        availableBufferCapacity := s.queue.availableBufferCapacity + packet.bitLength }
      history := s.history ++ [.sent packet] } := by
  have havailable := hb.available
  rw [hq, bits_cons] at havailable
  refine ⟨?_, ?_, ?_, ?_, ?_, ?_, each_snoc.mpr ⟨hb.records, ?_⟩⟩
  · show s.queue.availableBufferCapacity + _ = _ - bits rest
    omega
  · simp [filterMap_single, acceptedOf, sentOf, hb.order, hq]
  · have honce := hb.once
    rw [hq] at honce
    simpa [filterMap_single, receivedOf, droppedOf, sentOf] using honce
  · simp [filterMap_single, receivedOf, hb.numReceived]
  · simp [filterMap_single, droppedOf, hb.numDropped]
  · simp [filterMap_single, acceptedOf, hb.numEnqueued]
  · refine ⟨?_, maxBits, hlatest, hfits⟩
    rw [hb.queued, hq]
    rfl

/-! ## a whole run -/

/-- a request on its way is the latest one, or the first packet fits into the latest one -/
structure Kept (bufferCapacity : Int) (s : QueueSystem) : Prop where
  books : Books bufferCapacity s
  bounded : min 0 bufferCapacity ≤ s.queue.availableBufferCapacity
  algorithm : s.tsAlgorithm.requestPacketMsg = true →
    latest requestOf s.history = some s.tsAlgorithm.maxTransmittableBits
  queue : s.queue.requestPacketMsg = true →
    (s.tsAlgorithm.requestPacketMsg = false ∧
      latest requestOf s.history = some s.queue.maxTransmittableBits) ∨
    (s.tsAlgorithm.requestPacketMsg = true ∧
      s.queue.isEmpty s.tsAlgorithm.maxTransmittableBits = false)

theorem kept_start (bufferCapacity : Int) : Kept bufferCapacity (start bufferCapacity) where
  books := {
    available := (sub_zero _).symm
    order := rfl
    once := .nil
    numReceived := rfl
    numDropped := rfl
    numEnqueued := rfl
    records := each_nil }
  bounded := min_le_right _ _
  algorithm := nofun
  queue := nofun

/-- a packet behind the first one does not change what fits -/
theorem handlePacket_isEmpty {maxBits : Nat} (h : s.queue.isEmpty maxBits = false) :
    (s.queue.handlePacket packet).isEmpty maxBits = false := by
  obtain ⟨nextPacket, rest, hq, hfits⟩ := PacketQueue.isEmpty_eq_false.mp h
  by_cases hroom : s.queue.availableBufferCapacity ≥ packet.bitLength
  · rw [PacketQueue.enqueue_fits hroom]
    refine PacketQueue.isEmpty_eq_false.mpr ⟨nextPacket, rest ++ [packet], ?_, hfits⟩
    rw [hq, List.cons_append]
  · rw [PacketQueue.enqueue_full hroom]
    exact h

theorem kept_arrival (hk : Kept bufferCapacity s) (h : step s (.arrival packet) = .ok s') :
    Kept bufferCapacity s' := by
  have hqueue : s.queue.requestPacketMsg = true →
      (s.tsAlgorithm.requestPacketMsg = false ∧
        latest requestOf s.history = some s.queue.maxTransmittableBits) ∨
      (s.tsAlgorithm.requestPacketMsg = true ∧
        (s.queue.handlePacket packet).isEmpty s.tsAlgorithm.maxTransmittableBits = false) :=
    fun hm => (hk.queue hm).imp_right fun hr => ⟨hr.1, handlePacket_isEmpty hr.2⟩
  cases h
  by_cases hroom : s.queue.availableBufferCapacity ≥ packet.bitLength
  · simp only [if_pos hroom]
    refine ⟨hk.books.accept hroom, ?_, fun hm => ?_, fun hm => ?_⟩
    · rw [PacketQueue.enqueue_fits hroom]
      show _ ≤ s.queue.availableBufferCapacity - _
      omega
    · rw [latest_snoc_none rfl]
      exact hk.algorithm hm
    · rw [latest_snoc_none rfl]
      rw [PacketQueue.enqueue_fits hroom] at hm hqueue ⊢
      exact hqueue hm
  · simp only [if_neg hroom]
    refine ⟨hk.books.drop hroom, ?_, fun hm => ?_, fun hm => ?_⟩
    · rw [PacketQueue.enqueue_full hroom]
      exact hk.bounded
    · rw [latest_snoc_none rfl]
      exact hk.algorithm hm
    · rw [latest_snoc_none rfl]
      rw [PacketQueue.enqueue_full hroom] at hm hqueue ⊢
      exact hqueue hm

/-- the queue sends its first packet, which fits into the latest request -/
theorem kept_send (hk : Kept bufferCapacity s) (h : step s .queueRequestPacketMsg = .ok s') :
    Kept bufferCapacity s' := by
  obtain ⟨u, hm, h⟩ := bind_ok.mp h
  have hm := arrives_ok hm
  obtain ⟨⟨packet, queue⟩, hsend, h⟩ := bind_ok.mp h
  obtain ⟨rest, hq, hfits, rfl⟩ := PacketQueue.handleRequestPacketEvent_ok hsend
  cases h
  obtain ⟨maxBits, hlatest, hfits⟩ : ∃ maxBits, latest requestOf s.history = some maxBits ∧
      packet.bitLength + preambleSize ≤ maxBits := by
    obtain ⟨hts, hlatest⟩ | ⟨hts, hempty⟩ := hk.queue hm
    · exact ⟨_, hlatest, hfits⟩
    · obtain ⟨nextPacket, rest', hq', hfits'⟩ := PacketQueue.isEmpty_eq_false.mp hempty
      obtain rfl : packet = nextPacket := (List.cons.inj (hq.symm.trans hq')).1
      exact ⟨_, hk.algorithm hts, hfits'⟩
  refine ⟨hk.books.send hq hlatest hfits, ?_, fun hts => ?_, nofun⟩
  · have hbounded := hk.bounded
    show _ ≤ s.queue.availableBufferCapacity + _
    omega
  · rw [latest_snoc_none rfl]
    exact hk.algorithm hts

theorem kept_step {e : QueueEvent} (hk : Kept bufferCapacity s) (h : step s e = .ok s') :
    Kept bufferCapacity s' := by
  cases e with
  | arrival packet => exact kept_arrival hk h
  | requestPacket maxBits =>
    obtain ⟨u, hne, h⟩ := bind_ok.mp h
    have hne : s.queue.isEmpty maxBits = false := by simpa using ASSERT_ok.mp hne
    cases h
    exact ⟨hk.books.request maxBits, hk.bounded, fun _ => latest_snoc_some rfl,
      fun _ => .inr ⟨rfl, hne⟩⟩
  | requestPacketMsg =>
    obtain ⟨u, hm, h⟩ := bind_ok.mp h
    have hm := arrives_ok hm
    cases h
    have hb := hk.books
    refine ⟨?_, hk.bounded, nofun, fun _ => .inl ⟨rfl, hk.algorithm hm⟩⟩
    exact ⟨hb.available, hb.order, hb.once, hb.numReceived, hb.numDropped, hb.numEnqueued, hb.records⟩
  | packetEnqueuedMsg =>
    obtain ⟨u, hm, h⟩ := bind_ok.mp h
    cases h
    have hb := hk.books
    refine ⟨?_, hk.bounded, hk.algorithm, hk.queue⟩
    exact ⟨hb.available, hb.order, hb.once, hb.numReceived, hb.numDropped, hb.numEnqueued, hb.records⟩
  | queueRequestPacketMsg => exact kept_send hk h

/-- **In every run the books are right, and the capacity that is left is negative only if the buffer's
own capacity is.** -/
theorem books_kept {bufferCapacity : Int} {es : List QueueEvent} {s : QueueSystem}
    (hr : run step (start bufferCapacity) es = .ok s) :
    Books bufferCapacity s ∧ min 0 bufferCapacity ≤ s.queue.availableBufferCapacity ∧
      s.queue.numPacketsReceived = s.queue.numPacketsDropped +
        (s.history.filterMap sentOf).length + s.queue.queue.length := by
  have hk : Kept bufferCapacity s :=
    run_invariant (I := Kept bufferCapacity) (fun m e m' hi h => kept_step hi h)
      (kept_start bufferCapacity) hr
  refine ⟨hk.books, hk.bounded, ?_⟩
  rw [hk.books.numReceived, hk.books.numDropped, hk.books.once.length_eq, List.length_append,
    List.length_append]

/-- a request is replaced by a smaller one on its way, and a packet does not fit into the buffer -/
theorem books_kept_replaced :
    let es : List QueueEvent := [.arrival ⟨1, 400⟩, .requestPacket 2000, .arrival ⟨2, 500⟩,
      .requestPacketMsg, .requestPacket 464, .arrival ⟨3, 200⟩, .queueRequestPacketMsg]
    ∃ s, run step (start 1000) es = .ok s ∧
      s.history = [.accepted ⟨1, 400⟩, .requested 2000, .accepted ⟨2, 500⟩, .requested 464,
        .dropped ⟨3, 200⟩, .sent ⟨1, 400⟩] ∧
      Books 1000 s ∧ 3 = 1 + 1 + s.queue.queue.length := by
  intro es
  obtain ⟨s, hs, hhistory, hreceived, hdropped, hsent⟩ : ∃ s, run step (start 1000) es = .ok s ∧
      s.history = [.accepted ⟨1, 400⟩, .requested 2000, .accepted ⟨2, 500⟩, .requested 464,
        .dropped ⟨3, 200⟩, .sent ⟨1, 400⟩] ∧ s.queue.numPacketsReceived = 3 ∧
      s.queue.numPacketsDropped = 1 ∧ (s.history.filterMap sentOf).length = 1 :=
    exists_of_any (by decide +kernel)
  obtain ⟨hbooks, _, hcount⟩ := books_kept hs
  rw [hreceived, hdropped, hsent] at hcount
  exact ⟨s, hs, hhistory, hbooks, hcount⟩

/-- A buffer with a negative capacity has a negative capacity left. -/
theorem available_negative :
    ∃ s, run step (start (-1)) [.arrival ⟨1, 0⟩] = .ok s ∧
      ¬0 ≤ s.queue.availableBufferCapacity ∧ s.queue.numPacketsDropped = 1 :=
  exists_of_any (by decide +kernel)

end QueueSystem
end Nesting
