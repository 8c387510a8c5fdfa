import Mathlib.Data.List.TakeWhile
import Nesting.Queue.Flow
import Nesting.Queue.QueuingFrames

/-!
# A switch

What comes in at an interface goes through its VLAN module to the relay unit; the copies wait for the
processing delay, go through the VLAN module of another interface, and into its queues.

* `Switch`, `step`     the interfaces, the relay unit and the delay, with any interleaving of the ports;
* `outgoing`           what becomes of a frame at an interface, if it goes there;
* `InSequence`         the invariant of every queue;
* `switch_in_order`    **no frame is reflected, doubled or overtaken within its class** between any two
                       interfaces.
-/

set_option linter.unusedVariables false

namespace Nesting

open Lib

namespace MacAddress

/-- a digit of `%X` -/
def hexDigitChar (n : Nat) : Char := if n < 10 then Char.ofNat (48 + n) else Char.ofNat (55 + n)

def octet (a : MacAddress) (i : Nat) : Nat := a.toNat / 256 ^ (5 - i) % 256

def str (a : MacAddress) : String :=
  String.ofList (List.intercalate ['-'] ((List.range 6).map fun i =>
    [hexDigitChar (a.octet i / 16), hexDigitChar (a.octet i % 16)]))

theorem hexDigit_hexDigitChar {n : Nat} (h : n < 16) : hexDigit (hexDigitChar n) = some n := by
  have hall : ∀ n : Fin 16, hexDigit (hexDigitChar n) = some n.val := by decide
  exact hall ⟨n, h⟩

/-- the text of an address is read as the address -/
theorem tryParse_str (a : MacAddress) : tryParse a.str = some a := by
  have ho : ∀ i, a.octet i / 16 < 16 ∧ a.octet i % 16 < 16 := by
    intro i
    unfold octet
    omega
  have hchars : a.str.toList = List.intercalate ['-'] ((List.range 6).map fun i =>
      [hexDigitChar (a.octet i / 16), hexDigitChar (a.octet i % 16)]) := String.toList_ofList
  have hdash : hexDigit '-' = none := by decide
  have hdigits : a.str.toList.filterMap hexDigit = (List.range 6).flatMap fun i =>
      [a.octet i / 16, a.octet i % 16] := by
    rw [hchars]
    simp [List.range, List.range.loop, List.intercalate, hdash, hexDigit_hexDigitChar (ho _).1,
      hexDigit_hexDigitChar (ho _).2]
  have hall : (a.str.toList.all fun c => (hexDigit c).isSome ∨ c = ' ' ∨ c = ':' ∨ c = '-') = true := by
    rw [hchars]
    simp [List.range, List.range.loop, List.intercalate, hdash, hexDigit_hexDigitChar (ho _).1,
      hexDigit_hexDigitChar (ho _).2]
  have hvalue : ((List.range 6).flatMap fun i => [a.octet i / 16, a.octet i % 16]).foldl
      (fun n d => 16 * n + d) 0 = a.toNat := by
    have hlt := a.isLt
    simp only [List.range, List.range.loop, List.flatMap_cons, List.flatMap_nil, List.cons_append,
      List.nil_append, List.append_nil, List.foldl_cons, List.foldl_nil, octet]
    omega
  unfold tryParse
  dsimp only
  rw [hdigits, hvalue, if_pos ⟨hall, rfl⟩, BitVec.ofNat_toNat, BitVec.setWidth_eq]

end MacAddress

namespace ForwardingRelayUnit

instance (fdb : FilteringDatabase) (arrivalInterfaceId : Int) (sent : List Int) :
    Decidable (Excludes fdb arrivalInterfaceId sent) :=
  decidable_of_iff (sent.Nodup ∧ arrivalInterfaceId ∉ sent ∧
      ∀ i ∈ sent, fdb.isInterfaceBlocked i = .ok false)
    ⟨fun h => ⟨h.1, h.2.1, h.2.2⟩, fun h => ⟨h.once, h.arrival, h.blocked⟩⟩

theorem clear_iff {fdb : FilteringDatabase} {frame : RelayFrame} : Clear fdb frame ↔
    ∃ r ∈ (handleMessage fdb frame).toOption, Excludes fdb frame.arrivalInterfaceId r.1 := by
  rw [← forwards_iff]
  constructor
  · rintro ⟨sent, fdb', h, hex⟩
    refine ⟨(sent, fdb'), ?_, hex⟩
    rw [h]
    rfl
  · rintro ⟨⟨sent, fdb'⟩, hr, hex⟩
    refine ⟨sent, fdb', ?_, hex⟩
    cases h : handleMessage fdb frame with
    | ok r =>
      rw [h] at hr
      cases hr
      rfl
    | error x =>
      rw [h] at hr
      cases hr

instance (fdb : FilteringDatabase) (frame : RelayFrame) : Decidable (Clear fdb frame) :=
  decidable_of_iff _ clear_iff.symm

end ForwardingRelayUnit

/-- a frame with what identifies it -/
structure SwitchFrame where
  treeId : Nat
  name : String
  packet : VlanPacket
  deriving DecidableEq

/-- the frame as the queues see it -/
def SwitchFrame.toPacket (frame : SwitchFrame) : Packet where
  treeId := frame.treeId
  name := frame.name
  byteLength := frame.packet.byteLength
  dest := frame.packet.header.dest.str
  express := false

structure SwitchConfig (numPorts numGates : Nat) where
  interfaceId : Fin numPorts → Int
  distinct : Function.Injective interfaceId
  /-- `qEncap` of an interface -/
  encap : Fin numPorts → EncapConfig
  /-- the parameter of `QueuingFrames` -/
  vlanTagType : Fin numPorts → VlanTagType
  numberOfQueues : 1 ≤ numGates ∧ numGates ≤ kNumberOfPCPValues
  port : Fin numPorts → NetworkConfig numGates
  /-- the values that the parameter of `processingDelay` takes, one for each copy -/
  delay : Nat → SimTime

namespace SwitchConfig

variable {numPorts numGates : Nat}

def queuingFrames (cfg : SwitchConfig numPorts numGates) (j : Fin numPorts) : QueuingFrames :=
  ⟨numGates, cfg.vlanTagType j, cfg.numberOfQueues⟩

/-- the interface that the dispatcher has registered with the id -/
def interface? (cfg : SwitchConfig numPorts numGates) (id : Int) : Option (Fin numPorts) :=
  (List.finRange numPorts).find? fun j => cfg.interfaceId j = id

theorem interface?_iff {cfg : SwitchConfig numPorts numGates} {id : Int} {j : Fin numPorts} :
    cfg.interface? id = some j ↔ cfg.interfaceId j = id := by
  unfold interface?
  constructor
  · intro h
    simpa using List.find?_some h
  · intro h
    cases hf : (List.finRange numPorts).find? fun j => cfg.interfaceId j = id with
    | none =>
      have hnone := List.find?_eq_none.mp hf j (List.mem_finRange j)
      exact absurd (decide_eq_true h) hnone
    | some k =>
      have hk : cfg.interfaceId k = id := by simpa using List.find?_some hf
      rw [cfg.distinct (hk.trans h.symm)]

end SwitchConfig

structure Switch (numPorts numGates : Nat) where
  now : SimTime
  fdb : FilteringDatabase
  /-- the copies that have gone into `processingDelay` -/
  draws : Nat
  /-- those that are in it, in the order of the times at which they leave it -/
  delayed : List (SimTime × SwitchFrame)
  ports : Fin numPorts → LoggedNetwork numGates
  /-- the frames that have come in -/
  received : List (Fin numPorts × SwitchFrame)

inductive SwitchEvent (numPorts numGates : Nat) where
  /-- the MAC of an interface passes a frame up -/
  | receive (i : Fin numPorts) (frame : SwitchFrame)
  /-- the first copy leaves `processingDelay` -/
  | delayed
  /-- an event in the queues and the MAC of an interface -/
  | port (j : Fin numPorts) (e : NetworkEvent numGates)
  | advance (t : SimTime)
  deriving DecidableEq

namespace Switch

variable {numPorts numGates : Nat} {cfg : SwitchConfig numPorts numGates}
  {s s' : Switch numPorts numGates} {i j : Fin numPorts} {q : Fin numGates} {frame : SwitchFrame}

def start (cfg : SwitchConfig numPorts numGates) (fdb : FilteringDatabase)
    (preemptedBytesSent : Fin numPorts → Nat) : Switch numPorts numGates where
  now := 0
  fdb := fdb
  draws := 0
  delayed := []
  ports j := .start (cfg.port j) (preemptedBytesSent j)
  received := []

def setPort (s : Switch numPorts numGates) (j : Fin numPorts) (port : LoggedNetwork numGates) :
    Switch numPorts numGates :=
  { s with ports := Function.update s.ports j port }

/-- the frame with the tags of its packet, behind the VLAN module of the interface; `none` if it is dropped -/
def inbound (cfg : SwitchConfig numPorts numGates) (i : Fin numPorts) (frame : SwitchFrame) :
    Option VlanPacket :=
  Ieee8021qEncap.processPacket (cfg.encap i) .lowerLayerIn (transmit (cfg.interfaceId i) frame.packet)

/-- the same on the way out -/
def outbound (cfg : SwitchConfig numPorts numGates) (j : Fin numPorts) (frame : SwitchFrame) :
    Option SwitchFrame :=
  (Ieee8021qEncap.processPacket (cfg.encap j) .upperLayerIn frame.packet).map fun packet =>
    { frame with packet }

/-- nothing is due before `t` -/
def CanAdvance (s : Switch numPorts numGates) (t : SimTime) : Prop :=
  s.now ≤ t ∧ (∀ j, (s.ports j).network.CanAdvance t) ∧ ∀ copy ∈ s.delayed, t ≤ copy.1

instance (s : Switch numPorts numGates) (t : SimTime) : Decidable (s.CanAdvance t) :=
  inferInstanceAs (Decidable (_ ∧ _ ∧ _))

/-- an event of the queues and the MAC themselves -/
def Inside : NetworkEvent numGates → Bool
  | .enqueue _ _ => false
  | .advance _ => false
  | _ => true

/-- a copy comes behind those that leave no later -/
def insertDue (copy : SimTime × SwitchFrame) (delayed : List (SimTime × SwitchFrame)) :
    List (SimTime × SwitchFrame) :=
  (delayed.takeWhile fun c => c.1 ≤ copy.1) ++ copy :: delayed.dropWhile fun c => c.1 ≤ copy.1

/-- `Delayer::handleMessage` for a copy from the relay unit -/
def delayCopy (cfg : SwitchConfig numPorts numGates) (s : Switch numPorts numGates)
    (frame : SwitchFrame) : Sim (Switch numPorts numGates) := do
  let due := s.now + cfg.delay s.draws
  ASSERT (decide (s.now ≤ due)) "t >= simTime()"
  return { s with draws := s.draws + 1, delayed := insertDue (due, frame) s.delayed }

/-- the frame comes into the switch -/
def receive (cfg : SwitchConfig numPorts numGates) (s : Switch numPorts numGates) (i : Fin numPorts)
    (frame : SwitchFrame) : Sim (Switch numPorts numGates) :=
  let s := { s with received := s.received ++ [(i, frame)] }
  match inbound cfg i frame with
  | none => .ok s
  | some arrived => do
    let (copies, fdb) ← relay s.fdb s.now arrived
    copies.foldlM (fun s packet => s.delayCopy cfg { frame with packet }) { s with fdb }

/-- the queue that a copy comes to -/
def enqueue (cfg : SwitchConfig numPorts numGates) (s : Switch numPorts numGates) (j : Fin numPorts)
    (frame : SwitchFrame) : Sim (Switch numPorts numGates) := do
  let queueIndex ← (cfg.queuingFrames j).handleMessage frame.packet.header
  if h : queueIndex < numGates then do
    let port ← (s.ports j).step (cfg.port j) (.enqueue ⟨queueIndex, h⟩ frame.toPacket)
    return s.setPort j port
  else .error (.runtimeError "gate index out of range")

/-- the dispatcher, and the VLAN module of the interface -/
def dispatch (cfg : SwitchConfig numPorts numGates) (s : Switch numPorts numGates)
    (frame : SwitchFrame) : Sim (Switch numPorts numGates) := do
  let interfaceId ← getTag "inet::InterfaceReq" frame.packet.tags.interfaceReq
  match cfg.interface? interfaceId with
  | none => .error (.runtimeError ("handlePacket(): Unknown interface: id = " ++ toString interfaceId))
  | some j =>
    match outbound cfg j frame with
    | none => .ok s
    | some frame => s.enqueue cfg j frame

def step (cfg : SwitchConfig numPorts numGates) (s : Switch numPorts numGates) :
    SwitchEvent numPorts numGates → Sim (Switch numPorts numGates)
  | .receive i frame => s.receive cfg i frame
  | .delayed =>
    match s.delayed with
    | [] => .error (.undefinedBehaviour "no copy is delayed")
    | (due, frame) :: delayed =>
      if due = s.now then { s with delayed }.dispatch cfg frame
      else .error (.undefinedBehaviour "the copy is not due")
  | .port j e =>
    if Inside e then do
      let port ← (s.ports j).step (cfg.port j) e
      return s.setPort j port
    else .error (.undefinedBehaviour "not an event of the port")
  | .advance t =>
    if s.CanAdvance t then .ok { s with
        now := t
        ports := fun j => { s.ports j with network := { (s.ports j).network with
          mac := { (s.ports j).network.mac with time := t } } } }
    else .error (.undefinedBehaviour "an event is due")

/-! ## what becomes of a frame -/

/-- the copy for an interface -/
def copy (arrived : VlanPacket) (interfaceId : Int) : VlanPacket :=
  { arrived with tags := {
      packetProtocolTag := arrived.tags.packetProtocolTag
      vlanReq := arrived.tags.vlanInd
      interfaceReq := some interfaceId } }

/-- the packet that a copy is in queue `q` of interface `j`, if it comes there -/
def queued (cfg : SwitchConfig numPorts numGates) (j : Fin numPorts) (q : Fin numGates)
    (frame : SwitchFrame) : Option Packet :=
  (outbound cfg j frame).bind fun frame =>
    if (cfg.queuingFrames j).handleMessage frame.packet.header = .ok q.val then some frame.toPacket
    else none

/-- a copy that is for interface `j` -/
def heading (cfg : SwitchConfig numPorts numGates) (j : Fin numPorts) (q : Fin numGates)
    (frame : SwitchFrame) : Option Packet :=
  if frame.packet.tags.interfaceReq = some (cfg.interfaceId j) then queued cfg j q frame else none

/-- the packet in queue `q` of interface `j` that comes of a frame from another interface -/
def outgoing (cfg : SwitchConfig numPorts numGates) (j : Fin numPorts) (q : Fin numGates)
    (entry : Fin numPorts × SwitchFrame) : Option Packet :=
  if entry.1 = j then none
  else (inbound cfg entry.1 entry.2).bind fun arrived =>
    queued cfg j q { entry.2 with packet := copy arrived (cfg.interfaceId j) }

/-- the relay unit sends a frame that comes in where it may go -/
def Selective (cfg : SwitchConfig numPorts numGates) (s : Switch numPorts numGates) :
    SwitchEvent numPorts numGates → Prop
  | .receive i frame => ∀ arrived ∈ inbound cfg i frame, ForwardingRelayUnit.Clear s.fdb
      ⟨arrived.header.dest, arrived.header.src, cfg.interfaceId i, s.now⟩
  | _ => True

instance (cfg : SwitchConfig numPorts numGates) (s : Switch numPorts numGates)
    (e : SwitchEvent numPorts numGates) : Decidable (s.Selective cfg e) :=
  match e with
  | .receive i frame => inferInstanceAs (Decidable (∀ arrived ∈ inbound cfg i frame, _))
  | .delayed | .port _ _ | .advance _ => isTrue trivial

theorem inbound_interfaceInd {arrived : VlanPacket} (h : inbound cfg i frame = some arrived) :
    arrived.tags.interfaceInd = some (cfg.interfaceId i) := by
  unfold inbound Ieee8021qEncap.processPacket at h
  dsimp only at h
  split at h
  · cases h
    rfl
  · cases h

theorem relay_ok {fdb fdb' : FilteringDatabase} {time : SimTime} {arrived : VlanPacket}
    {copies : List VlanPacket} (h : relay fdb time arrived = .ok (copies, fdb')) :
    ∃ a ids, arrived.tags.interfaceInd = some a ∧ ForwardingRelayUnit.handleMessage fdb
      ⟨arrived.header.dest, arrived.header.src, a, time⟩ = .ok (ids, fdb') ∧
      copies = ids.map (copy arrived) := by
  have hget : ∀ {β : Type} {name : String} {tag : Option β} {b : β}, getTag name tag = .ok b →
      tag = some b := by
    intro β name tag b hb
    cases tag with
    | none => cases hb
    | some x => exact congrArg some (Except.ok.inj hb)
  obtain ⟨a, ha, h⟩ := bind_ok.mp h
  obtain ⟨protocol, hprotocol, h⟩ := bind_ok.mp h
  obtain ⟨vlanInd, hvlan, h⟩ := bind_ok.mp h
  obtain ⟨⟨ids, fdb''⟩, hids, h⟩ := bind_ok.mp h
  cases h
  refine ⟨a, ids, hget ha, hids, List.map_congr_left fun id _ => ?_⟩
  unfold copy
  rw [hget hprotocol, hget hvlan]

/-- among different ids, one is for the interface at most -/
theorem heading_copies (arrived : VlanPacket) (frame : SwitchFrame) {ids : List Int} (hids : ids.Nodup) :
    ((ids.map fun id => { frame with packet := copy arrived id }).filterMap (heading cfg j q)) =
      if cfg.interfaceId j ∈ ids then
        (queued cfg j q { frame with packet := copy arrived (cfg.interfaceId j) }).toList
      else [] := by
  induction ids with
  | nil => rfl
  | cons id ids ih =>
    obtain ⟨hnot, hids⟩ := List.nodup_cons.mp hids
    have hhead : heading cfg j q { frame with packet := copy arrived id } =
        if id = cfg.interfaceId j then
          queued cfg j q { frame with packet := copy arrived (cfg.interfaceId j) }
        else none := by
      unfold heading
      by_cases h : id = cfg.interfaceId j
      · rw [h]
        exact (if_pos rfl).trans (if_pos rfl).symm
      · exact (if_neg fun he => h (Option.some.inj he)).trans (if_neg h).symm
    rw [List.map_cons, List.filterMap_cons, hhead, ih hids]
    by_cases h : id = cfg.interfaceId j
    · rw [if_pos h, if_neg (h ▸ hnot), if_pos (List.mem_cons.mpr (.inl h.symm))]
      cases queued cfg j q _ <;> rfl
    · have hmem : cfg.interfaceId j ∈ id :: ids ↔ cfg.interfaceId j ∈ ids :=
        ⟨fun hm => (List.mem_cons.mp hm).resolve_left fun he => h he.symm, List.mem_cons_of_mem _⟩
      rw [if_neg h]
      exact if_congr hmem.symm rfl rfl

/-! ## the invariant -/

/-- what the queues have taken in and what is delayed for them comes from other interfaces, in this
order; and no copy is delayed for longer than the first one -/
structure InSequence (cfg : SwitchConfig numPorts numGates) (s : Switch numPorts numGates) : Prop where
  inOrder : ∀ j, LoggedNetwork.InOrder (cfg.port j) (s.ports j)
  due : ∀ copy ∈ s.delayed, copy.1 ≤ s.now + cfg.delay 0
  sequence : ∀ j q, List.Sublist (PacketLedger.ofGate q (s.ports j).ledger.admitted ++
    (s.delayed.map Prod.snd).filterMap (heading cfg j q)) (s.received.filterMap (outgoing cfg j q))

theorem inSequence_start (cfg : SwitchConfig numPorts numGates) (fdb : FilteringDatabase)
    (preemptedBytesSent : Fin numPorts → Nat) : InSequence cfg (start cfg fdb preemptedBytesSent) :=
  ⟨fun j => LoggedNetwork.inOrder_start _ _, fun _ hc => absurd hc List.not_mem_nil,
    fun j q => List.Sublist.refl _⟩

theorem setPort_self (port : LoggedNetwork numGates) : (s.setPort j port).ports j = port :=
  Function.update_self _ _ _

theorem setPort_of_ne {port : LoggedNetwork numGates} (h : i ≠ j) :
    (s.setPort j port).ports i = s.ports i := Function.update_of_ne h _ _

/-- with the same delay for all, copies leave in the order in which they came -/
theorem delayCopies_eq (hconst : ∀ n, cfg.delay n = cfg.delay 0) {copies : List VlanPacket}
    (hdue : ∀ copy ∈ s.delayed, copy.1 ≤ s.now + cfg.delay 0)
    (hs : copies.foldlM (fun s packet => s.delayCopy cfg { frame with packet }) s = .ok s') :
    s' = { s with
      draws := s.draws + copies.length
      delayed := s.delayed ++
        copies.map fun packet => (s.now + cfg.delay 0, { frame with packet }) } := by
  induction copies generalizing s with
  | nil =>
    cases hs
    simp
  | cons packet copies ih =>
    rw [List.foldlM_cons] at hs
    obtain ⟨m, hm, hs⟩ := bind_ok.mp hs
    obtain ⟨_, _, hm⟩ := bind_ok.mp hm
    have hlast : insertDue (s.now + cfg.delay 0, { frame with packet }) s.delayed =
        s.delayed ++ [(s.now + cfg.delay 0, { frame with packet })] := by
      have hall : ∀ c ∈ s.delayed, decide (c.1 ≤ s.now + cfg.delay 0) = true :=
        fun c hc => decide_eq_true (hdue c hc)
      unfold insertDue
      rw [List.takeWhile_eq_self_iff.mpr hall, List.dropWhile_eq_nil_iff.mpr hall]
    rw [hconst, hlast] at hm
    cases hm
    have hdue' : ∀ copy ∈ s.delayed ++ [(s.now + cfg.delay 0, { frame with packet })],
        copy.1 ≤ s.now + cfg.delay 0 := by
      intro copy hcopy
      obtain hcopy | hcopy := List.mem_append.mp hcopy
      · exact hdue copy hcopy
      · rw [List.mem_singleton.mp hcopy]
    rw [ih hdue' hs]
    simp [Nat.add_comm, Nat.add_left_comm]

theorem inSequence_receive (hconst : ∀ n, cfg.delay n = cfg.delay 0) (h : InSequence cfg s)
    (hclear : s.Selective cfg (.receive i frame)) (hs : s.receive cfg i frame = .ok s') :
    InSequence cfg s' := by
  unfold receive at hs
  dsimp only at hs
  split at hs
  · rename_i hin
    cases hs
    refine ⟨h.inOrder, h.due, fun j q => (h.sequence j q).trans ?_⟩
    rw [List.filterMap_append]
    exact List.sublist_append_left _ _
  · rename_i arrived hin
    obtain ⟨⟨copies, fdb⟩, hrelay, hs⟩ := bind_ok.mp hs
    obtain ⟨a, ids, ha, hids, rfl⟩ := relay_ok hrelay
    cases ha.symm.trans (inbound_interfaceInd hin)
    obtain ⟨sent, fdb', hsent, hex⟩ := (ForwardingRelayUnit.forwards_iff _ _).mpr (hclear arrived hin)
    cases hids.symm.trans hsent
    rw [delayCopies_eq (s := { s with fdb, received := s.received ++ [(i, frame)] }) hconst h.due
      hs]
    refine ⟨h.inOrder, ?_, fun j q => ?_⟩
    · intro c hc
      obtain hc | hc := List.mem_append.mp hc
      · exact h.due c hc
      · obtain ⟨packet, _, rfl⟩ := List.mem_map.mp hc
        exact le_rfl
    have hcopies : (ids.map fun id => { frame with packet := copy arrived id }).filterMap
      (heading cfg j q) = _ := heading_copies arrived frame hex.once
    have hdelayed : (((ids.map (copy arrived)).map fun packet =>
        (s.now + cfg.delay 0, { frame with packet })).map Prod.snd) =
        ids.map fun id => { frame with packet := copy arrived id } := by
      rw [List.map_map, List.map_map]
      rfl
    dsimp only
    rw [List.map_append, hdelayed, List.filterMap_append, ← List.append_assoc, List.filterMap_append,
      hcopies]
    refine (h.sequence j q).append ?_
    split
    · rename_i hmem
      -- the interface is not the one that the frame came from
      have hne : i ≠ j := fun he => hex.arrival (he ▸ hmem)
      have hout : outgoing cfg j q (i, frame) =
          queued cfg j q { frame with packet := copy arrived (cfg.interfaceId j) } := by
        unfold outgoing
        rw [if_neg hne, hin]
        rfl
      rw [List.filterMap_cons, List.filterMap_nil, hout]
      cases queued cfg j q _ <;> exact List.Sublist.refl _
    · exact List.nil_sublist _

/-- a packet that comes to a queue may be taken in -/
theorem admitted_enqueue {port port' : LoggedNetwork numGates} {pcfg : NetworkConfig numGates}
    {packet : Packet} (hs : port.step pcfg (.enqueue q packet) = .ok port') (q' : Fin numGates) :
    List.Sublist (PacketLedger.ofGate q' port'.ledger.admitted)
      (PacketLedger.ofGate q' port.ledger.admitted ++ if q' = q then [packet] else []) := by
  obtain ⟨network, _, hs⟩ := bind_ok.mp hs
  cases hs
  unfold PacketLedger.record
  dsimp only
  split
  · dsimp only
    by_cases h : q' = q
    · subst h
      rw [PacketLedger.ofGate_snoc_self, if_pos rfl]
    · rw [PacketLedger.ofGate_snoc_other (Ne.symm h), if_neg h, List.append_nil]
  · exact List.sublist_append_left _ _

/-- the other events of a port take no packet in -/
theorem admitted_inside {port port' : LoggedNetwork numGates} {pcfg : NetworkConfig numGates}
    {e : NetworkEvent numGates} (he : Inside e = true) (hs : port.step pcfg e = .ok port') :
    port'.ledger.admitted = port.ledger.admitted := by
  obtain ⟨network, _, hs⟩ := bind_ok.mp hs
  cases hs
  cases e with
  | enqueue i packet => cases he
  | handleMessage i =>
    unfold PacketLedger.record
    dsimp only
    split <;> rfl
  | _ => rfl

theorem inSequence_dispatch {due : SimTime} {rest : List (SimTime × SwitchFrame)}
    (h : InSequence cfg s) (hd : s.delayed = (due, frame) :: rest)
    (hs : { s with delayed := rest }.dispatch cfg frame = .ok s') : InSequence cfg s' := by
  -- without the copy the sequence is still one
  have hdrop : InSequence cfg { s with delayed := rest } := by
    refine ⟨h.inOrder, fun c hc => h.due c (by rw [hd]; exact List.mem_cons_of_mem _ hc),
      fun j q => ?_⟩
    have hseq := h.sequence j q
    rw [hd] at hseq
    refine List.Sublist.trans ?_ hseq
    rw [List.map_cons]
    exact (List.Sublist.refl _).append ((List.sublist_cons_self _ _).filterMap _)
  obtain ⟨id, hid, hs⟩ := bind_ok.mp hs
  split at hs
  · cases hs
  · rename_i k hk
    have hreq : frame.packet.tags.interfaceReq = some (cfg.interfaceId k) := by
      rw [SwitchConfig.interface?_iff.mp hk]
      unfold getTag at hid
      split at hid
      · cases hid
      · rename_i heq
        cases hid
        exact heq
    split at hs
    · cases hs
      exact hdrop
    · rename_i out hout
      obtain ⟨queueIndex, hq, hs⟩ := bind_ok.mp hs
      split at hs
      · rename_i hlt
        obtain ⟨port, hport, hs⟩ := bind_ok.mp hs
        cases hs
        refine ⟨fun j => ?_, hdrop.due, fun j q => ?_⟩
        · by_cases hj : j = k
          · subst hj
            rw [setPort_self]
            exact LoggedNetwork.inOrder_step (h.inOrder j) hport
          · rw [setPort_of_ne hj]
            exact h.inOrder j
        · by_cases hj : j = k
          · subst hj
            rw [setPort_self]
            have hseq := h.sequence j q
            rw [hd, List.map_cons, List.filterMap_cons] at hseq
            have hqueued : heading cfg j q frame =
                if q = ⟨queueIndex, hlt⟩ then some out.toPacket else none := by
              unfold heading queued
              rw [if_pos hreq, hout, Option.bind_some, hq]
              refine if_congr ?_ rfl rfl
              rw [Except.ok.injEq, Fin.ext_iff]
              exact eq_comm
            dsimp only at hseq
            rw [hqueued] at hseq
            refine List.Sublist.trans ((admitted_enqueue hport q).append (List.Sublist.refl _)) ?_
            rw [List.append_assoc]
            refine List.Sublist.trans ?_ hseq
            split <;> exact List.Sublist.refl _
          · rw [setPort_of_ne hj]
            exact hdrop.sequence j q
      · cases hs

theorem inSequence_step {e : SwitchEvent numPorts numGates}
    (hconst : ∀ n, cfg.delay n = cfg.delay 0) (h : InSequence cfg s) (hclear : s.Selective cfg e)
    (hs : s.step cfg e = .ok s') : InSequence cfg s' := by
  cases e with
  | receive i frame => exact inSequence_receive hconst h hclear hs
  | delayed =>
    unfold step at hs
    dsimp only at hs
    split at hs
    · cases hs
    · rename_i due frame rest hd
      split at hs
      · exact inSequence_dispatch h hd hs
      · cases hs
  | port j e =>
    change (if Inside e = true then _ else _) = _ at hs
    split at hs
    · rename_i he
      obtain ⟨port, hport, hs⟩ := bind_ok.mp hs
      cases hs
      refine ⟨fun k => ?_, h.due, fun k q => ?_⟩
      · by_cases hk : k = j
        · subst hk
          rw [setPort_self]
          exact LoggedNetwork.inOrder_step (h.inOrder k) hport
        · rw [setPort_of_ne hk]
          exact h.inOrder k
      · by_cases hk : k = j
        · subst hk
          rw [setPort_self, admitted_inside he hport]
          exact h.sequence k q
        · rw [setPort_of_ne hk]
          exact h.sequence k q
    · cases hs
  | advance t =>
    change (if s.CanAdvance t then _ else _) = _ at hs
    split at hs
    · rename_i hadv
      cases hs
      refine ⟨fun j => (h.inOrder j).same (.of_columns rfl) rfl, fun c hc => ?_, h.sequence⟩
      exact (h.due c hc).trans (by dsimp only; gcongr; exact hadv.1)
    · cases hs

/-- **A switch keeps the order of a class**: if all copies are delayed alike, in every run in which
the relay unit sends each frame where it may go, what interface `j` has given its MAC from queue
`q`, what is on its way there and what is in the queue comes, in this order, of frames that have
come in at other interfaces, each at most once. -/
theorem switch_in_order (cfg : SwitchConfig numPorts numGates)
    (hconst : ∀ n, cfg.delay n = cfg.delay 0) (fdb : FilteringDatabase)
    (preemptedBytesSent : Fin numPorts → Nat) (es : List (SwitchEvent numPorts numGates))
    (hm : Meets (step cfg) (Selective cfg) (start cfg fdb preemptedBytesSent) es)
    (hr : run (step cfg) (start cfg fdb preemptedBytesSent) es = .ok s) (j : Fin numPorts)
    (q : Fin numGates) :
    List.Sublist (PacketLedger.ofGate q (s.ports j).ledger.handed ++ ((s.ports j).network.columns q).held)
      ((s.received.filterMap (outgoing cfg j q)).map
        (Packet.tagged ((cfg.port j).isExpressQueue q))) := by
  have h : InSequence cfg s := run_invariant_of (I := InSequence cfg)
    (fun s e s' h hc hs => inSequence_step hconst h hc hs)
    (inSequence_start cfg fdb preemptedBytesSent) hm hr
  rw [← (h.inOrder j).inOrder q]
  exact (((List.sublist_append_left _ _).trans (h.sequence j q))).map _

/-- interfaces 100 and 101, with a shaped queue for low priorities and an express queue each -/
def twoInterfaces : SwitchConfig 2 2 where
  interfaceId j := 100 + j
  distinct := by decide
  encap _ := ⟨.c, [], [], [], [], false⟩
  vlanTagType _ := .c
  numberOfQueues := by decide
  port _ := Network.twoQueues
  delay _ := 5 / 1000000

def emptyTable : FilteringDatabase := .new false 0 ⟨[⟨100, 0⟩, ⟨101, 1⟩], by decide⟩

/-- from station 1 to station 2 -/
def taggedFrame (treeId : Nat) (pcp : BitVec 8) : SwitchFrame :=
  ⟨treeId, "frame", ⟨⟨2, 1, some ⟨pcp, false, 1⟩, none, 18⟩, 200, {}⟩⟩

/-- the second frame overtakes the first one, which is in another queue -/
def crossing (i j low high : Fin 2) : List (SwitchEvent 2 2) :=
  [.port i .requestPacketMsg, .port j .requestPacketMsg, .receive i (taggedFrame 1 0),
   .receive i (taggedFrame 2 7), .advance (5 / 1000000), .delayed, .delayed,
   .port j (.handleMessage high), .port j (.handleMessage high), .port j (.handleMessage low),
   .port j (.handleMessage low), .port j .packetEnqueuedMsg] ++
  List.replicate 7 (.port j (.handleMessage high)) ++ [.receive i (taggedFrame 3 7)]

theorem switch_in_order_crossing : ∃ s,
    run (step twoInterfaces) (start twoInterfaces emptyTable fun _ => 0) (crossing 0 1 0 1) = .ok s ∧
    ((s.ports 1).ledger.handed.map fun entry => entry.2.treeId) = [2] ∧
    List.Sublist (PacketLedger.ofGate 1 (s.ports 1).ledger.handed ++ ((s.ports 1).network.columns 1).held)
      ((s.received.filterMap (outgoing twoInterfaces 1 1)).map (Packet.tagged true)) := by
  obtain ⟨s, hs, hp⟩ : ∃ s,
      run (step twoInterfaces) (start twoInterfaces emptyTable fun _ => 0) (crossing 0 1 0 1) = .ok s ∧
      ((s.ports 1).ledger.handed.map fun entry => entry.2.treeId) = [2] :=
    exists_of_any (by decide +kernel)
  exact ⟨s, hs, hp, switch_in_order twoInterfaces (fun _ => rfl) emptyTable (fun _ => 0)
    (crossing 0 1 0 1) (by decide +kernel) hs 1 1⟩

end Switch

end Nesting
