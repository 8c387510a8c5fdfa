import Nesting.Common.Sim

/-!
# TransmissionSelection and the gates it asks

* `GateView`           what the selection sees of a `TransmissionGate`;
* `requestPacket`, `packetEnqueued`   the calls of the MAC and of the gates, both deferred by a
                       self-message of this instant;
* `handleRequestPacketEvent`, `handlePacketEnqueuedEvent`   the self-messages;
* `handlePacket`       a frame on its way from a gate to the MAC.
-/

set_option linter.unusedVariables false

namespace Nesting

structure Packet where
  treeId : Nat
  name : String
  byteLength : Nat
  /-- `MacAddress::str` of the destination -/
  dest : String
  /-- the tag `ExpressFrameReq` -/
  express : Bool
  deriving DecidableEq, Repr

structure GateView where
  gateOpen : Bool
  isExpressQueue : Bool
  /-- `tsAlgorithm->isEmpty(maxTransferableBits())` -/
  tsAlgorithmEmpty : Bool
  deriving DecidableEq, Repr

/-- `onHold` is what `gateController->currentlyOnHold()` answers -/
def GateView.isEmpty (onHold : Bool) (g : GateView) : Bool :=
  !g.gateOpen || (!g.isExpressQueue && onHold) || g.tsAlgorithmEmpty

structure TransmissionSelection where
  tGates : List GateView
  packetRequestedFromUs : Bool
  packetRequestedFromInputs : Bool
  /-- `requestPacketMsg.isScheduled()` -/
  requestPacketMsg : Bool
  /-- `packetEnqueuedMsg.isScheduled()` -/
  packetEnqueuedMsg : Bool
  deriving DecidableEq, Repr

namespace TransmissionSelection

def start (tGates : List GateView) : TransmissionSelection :=
  ⟨tGates, false, false, false, false⟩

def isEmpty (onHold : Bool) (ts : TransmissionSelection) : Bool :=
  ts.tGates.all (GateView.isEmpty onHold)

def hasExpressPacketEnqueued (onHold : Bool) (ts : TransmissionSelection) : Bool :=
  ts.tGates.any fun g => g.isExpressQueue && !g.isEmpty onHold

def getNumPendingRequests (ts : TransmissionSelection) : Nat :=
  if ts.packetRequestedFromUs then 1 else 0

def requestPacket (ts : TransmissionSelection) : TransmissionSelection :=
  { ts with requestPacketMsg := true }

/-- called by a gate -/
def packetEnqueued (ts : TransmissionSelection) : TransmissionSelection :=
  { ts with packetEnqueuedMsg := true }

def removePendingRequests (ts : TransmissionSelection) : TransmissionSelection :=
  { ts with packetRequestedFromUs := false, packetRequestedFromInputs := false }

/-- the highest index of a gate that satisfies `p` -/
def lastIdx (p : GateView → Bool) (tGates : List GateView) : Option Nat :=
  (tGates.zipIdx.filter fun g => p g.1).getLast?.map Prod.snd

/-- the gate that is asked for a packet: the last express gate that has one, else the last gate -/
def schedulePacket (onHold : Bool) (ts : TransmissionSelection) : Option Nat :=
  match lastIdx (fun g => g.isExpressQueue && !g.isEmpty onHold) ts.tGates with
  | some i => some i
  | none => lastIdx (fun g => !g.isEmpty onHold) ts.tGates

/-- the new state and the gate that is asked -/
def handleRequestPacketEvent (onHold : Bool) (ts : TransmissionSelection) :
    Sim (TransmissionSelection × Option Nat) := do
  let ts := { ts with requestPacketMsg := false }
  if ts.packetRequestedFromUs then
    .error (.runtimeError "TransmissionSelection module only supports one packet request at a +time.")
  else do
    ASSERT (!ts.packetRequestedFromUs && !ts.packetRequestedFromInputs)
      "!packetRequestedFromUs && !packetRequestedFromInputs"
    let gate := ts.schedulePacket onHold
    return ({ ts with packetRequestedFromUs := true, packetRequestedFromInputs := gate.isNone }, gate)

/-- the new state, the gate that is asked, and whether the listeners are notified -/
def handlePacketEnqueuedEvent (onHold : Bool) (ts : TransmissionSelection) :
    TransmissionSelection × Option Nat × Bool :=
  let ts := { ts with packetEnqueuedMsg := false }
  if ts.packetRequestedFromInputs then
    let gate := ts.schedulePacket onHold
    ({ ts with packetRequestedFromInputs := gate.isNone }, gate, false)
  else (ts, none, !ts.packetRequestedFromUs)

/-- `handleMessage` for a packet that arrived at the input `gateId` -/
def handlePacket (gateId : Nat) (packet : Packet) (ts : TransmissionSelection) :
    Sim (Packet × TransmissionSelection) :=
  match ts.tGates[gateId]? with
  | none => .error (.undefinedBehaviour "tGates.at(gateId)")
  | some gate => do
    ASSERT ts.packetRequestedFromUs "packetRequestedFromUs"
    return ({ packet with express := packet.express || gate.isExpressQueue },
      { ts with packetRequestedFromUs := false })

/-! ## the gate that is asked -/

variable {ts ts' : TransmissionSelection} {onHold : Bool} {p : GateView → Bool}
  {tGates : List GateView} {i : Nat}

theorem lastIdx_some (h : lastIdx p tGates = some i) : ∃ g, tGates[i]? = some g ∧ p g = true := by
  unfold lastIdx at h
  obtain ⟨⟨g, j⟩, hg, rfl⟩ := Option.map_eq_some_iff.mp h
  obtain ⟨hmem, hp⟩ := List.mem_filter.mp (List.mem_of_getLast? hg)
  exact ⟨g, List.mem_zipIdx_iff_getElem?.mp hmem, hp⟩

theorem lastIdx_none (h : lastIdx p tGates = none) : ∀ g ∈ tGates, p g = false := by
  unfold lastIdx at h
  have hnil := List.getLast?_eq_none_iff.mp (Option.map_eq_none_iff.mp h)
  intro g hg
  obtain ⟨j, hj⟩ := List.mem_iff_getElem?.mp hg
  exact Bool.eq_false_iff.mpr (List.filter_eq_nil_iff.mp hnil (g, j) (List.mem_zipIdx_iff_getElem?.mpr hj))

/-- the gate that is asked has a packet -/
theorem schedulePacket_some (h : ts.schedulePacket onHold = some i) :
    ∃ g, ts.tGates[i]? = some g ∧ g.isEmpty onHold = false := by
  unfold schedulePacket at h
  split at h
  · rename_i j hj
    cases h
    obtain ⟨g, hg, hp⟩ := lastIdx_some hj
    rw [Bool.and_eq_true, Bool.not_eq_true'] at hp
    exact ⟨g, hg, hp.2⟩
  · obtain ⟨g, hg, hp⟩ := lastIdx_some h
    exact ⟨g, hg, Bool.not_eq_true' _ |>.mp hp⟩

/-- none is asked when none has a packet -/
theorem schedulePacket_none (h : ts.schedulePacket onHold = none) :
    ∀ g ∈ ts.tGates, g.isEmpty onHold = true := by
  unfold schedulePacket at h
  split at h
  · cases h
  · intro g hg
    exact Bool.not_eq_false' _ |>.mp (lastIdx_none h g hg)

theorem handleRequestPacketEvent_ok {gate : Option Nat}
    (h : ts.handleRequestPacketEvent onHold = .ok (ts', gate)) :
    gate = ts.schedulePacket onHold ∧ ts' = { ts with
      requestPacketMsg := false
      packetRequestedFromUs := true
      packetRequestedFromInputs := gate.isNone } := by
  unfold handleRequestPacketEvent at h
  dsimp only at h
  split at h
  · cases h
  · obtain ⟨_, _, h⟩ := bind_ok.mp h
    cases h
    exact ⟨rfl, rfl⟩

theorem handleRequestPacketEvent_eq (hu : ts.packetRequestedFromUs = false)
    (hi : ts.packetRequestedFromInputs = false) :
    ∃ r, ts.handleRequestPacketEvent onHold = .ok r := by
  unfold handleRequestPacketEvent
  dsimp only
  rw [hu, hi]
  exact ⟨_, rfl⟩

theorem handlePacket_ok {gateId : Nat} {packet packet' : Packet}
    (h : ts.handlePacket gateId packet = .ok (packet', ts')) :
    ts' = { ts with packetRequestedFromUs := false } := by
  unfold handlePacket at h
  split at h
  · cases h
  · obtain ⟨_, _, h⟩ := bind_ok.mp h
    cases h
    rfl

theorem handlePacket_eq {gateId : Nat} (hg : gateId < ts.tGates.length)
    (hu : ts.packetRequestedFromUs = true) (packet : Packet) :
    ∃ r, ts.handlePacket gateId packet = .ok r := by
  unfold handlePacket
  rw [List.getElem?_eq_getElem hg, hu]
  exact ⟨_, rfl⟩

end TransmissionSelection

end Nesting
