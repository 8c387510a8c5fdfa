import Nesting.Relay.ForwardingRelayUnit

/-!
# VLAN tags of frames and of packets

The interfaces of hosts and switches write the VLAN tag of a frame as the tags of its packet say, and
say it in the tags of the packet.

* `VlanPacket`                 a frame with the tags of its packet;
* `EnhancedIeee8021qEncap`     the module of the hosts, for both directions;
* `Ieee8021qEncap`             the one of the switches, which only knows the VLAN id;
* `transmit`                   what is left of the tags behind a link;
* `relay`, `SwitchVisit.hop`   `ForwardingRelayUnit` with the tags, and a switch as a whole.
-/

set_option linter.unusedVariables false

namespace Nesting

inductive VlanTagType where
  | c
  | s
  deriving DecidableEq, Repr

/-- with the widths of its fields in the frame's header -/
structure Ieee8021qHeader where
  pcp : BitVec 8
  de : Bool
  vid : BitVec 16
  deriving DecidableEq, Repr

structure EthernetMacHeader where
  dest : MacAddress
  src : MacAddress
  cTag : Option Ieee8021qHeader
  sTag : Option Ieee8021qHeader
  /-- in bytes -/
  chunkLength : Nat
  deriving DecidableEq, Repr

/-- `EnhancedVlanReq` and `EnhancedVlanInd` with their defaults -/
structure EnhancedVlanTag where
  vlanId : Int := -1
  pcp : Int := 0
  de : Bool := false
  deriving DecidableEq, Repr

/-- the tags of a packet, each at most once -/
structure PacketTags where
  packetProtocolTag : Option String := none
  interfaceInd : Option Int := none
  interfaceReq : Option Int := none
  /-- `inet::VlanReq` and `inet::VlanInd` -/
  vlanReq : Option Int := none
  vlanInd : Option Int := none
  enhancedVlanReq : Option EnhancedVlanTag := none
  enhancedVlanInd : Option EnhancedVlanTag := none
  /-- the destination port of the header, if it is one of TCP -/
  transportProtocolInd : Option (Option Nat) := none
  deriving DecidableEq, Repr

structure VlanPacket where
  header : EthernetMacHeader
  /-- behind the header, the FCS included -/
  dataLength : Nat
  tags : PacketTags
  deriving DecidableEq, Repr

def VlanPacket.byteLength (packet : VlanPacket) : Nat := packet.header.chunkLength + packet.dataLength

namespace EthernetMacHeader

/-- `findVlanTag` -/
def tag (header : EthernetMacHeader) : VlanTagType → Option Ieee8021qHeader
  | .c => header.cTag
  | .s => header.sTag

def setTag (header : EthernetMacHeader) (tag : Option Ieee8021qHeader) :
    VlanTagType → EthernetMacHeader
  | .c => { header with cTag := tag }
  | .s => { header with sTag := tag }

/-- `addVlanTag`; the fields are written afterwards -/
def addVlanTag (header : EthernetMacHeader) (vlanTagType : VlanTagType) : EthernetMacHeader :=
  { header with chunkLength := header.chunkLength + 4 }.setTag (some ⟨0, false, 0⟩) vlanTagType

def removeVlanTag (header : EthernetMacHeader) (vlanTagType : VlanTagType) : EthernetMacHeader :=
  { header with chunkLength := header.chunkLength - 4 }.setTag none vlanTagType

end EthernetMacHeader

/-- the parameters of either module -/
structure EncapConfig where
  vlanTagType : VlanTagType
  inboundVlanIdFilter : List Int
  inboundVlanIdMap : List (Int × Int)
  outboundVlanIdFilter : List Int
  outboundVlanIdMap : List (Int × Int)
  tagTcpTraffic : Bool
  deriving DecidableEq, Repr

inductive EncapGate where
  | upperLayerIn
  | lowerLayerIn
  deriving DecidableEq, Repr

namespace EncapConfig

def filter (cfg : EncapConfig) : EncapGate → List Int
  | .upperLayerIn => cfg.outboundVlanIdFilter
  | .lowerLayerIn => cfg.inboundVlanIdFilter

def map (cfg : EncapConfig) : EncapGate → List (Int × Int)
  | .upperLayerIn => cfg.outboundVlanIdMap
  | .lowerLayerIn => cfg.inboundVlanIdMap

def accepts (cfg : EncapConfig) (gate : EncapGate) (vlanId : Int) : Bool :=
  (cfg.filter gate).isEmpty || (cfg.filter gate).contains vlanId

def translate (cfg : EncapConfig) (gate : EncapGate) (vlanId : Int) : Int :=
  ((cfg.map gate).lookup vlanId).getD vlanId

end EncapConfig

/-! ## the module of the hosts -/

namespace EnhancedIeee8021qEncap

/-- `oldVlanId`, `oldPcp` and `oldDe` -/
def oldValues (vlanTag : Option Ieee8021qHeader) : EnhancedVlanTag :=
  match vlanTag with
  | none => ⟨-1, 0, false⟩
  | some tag => ⟨tag.vid.toNat, tag.pcp.toNat, tag.de⟩

/-- whether there is a request in the end, and `newVlanId`, `newPcp` and `newDe` -/
def newValues (cfg : EncapConfig) (gate : EncapGate) (packet : VlanPacket) (old : EnhancedVlanTag) :
    Sim (Bool × EnhancedVlanTag) :=
  match packet.tags.enhancedVlanReq with
  | some vlanReq => .ok (true, vlanReq)
  | none =>
    if cfg.tagTcpTraffic && gate = .upperLayerIn then
      match packet.tags.transportProtocolInd with
      | none => .ok (false, old)
      | some none => .error (.undefinedBehaviour "tcpHeader->getDestPort()")
      | some (some destPort) => .ok (true, { old with pcp := destPort % 8 })
    else .ok (false, old)

/-- the values are cut off to the widths of the header -/
def writtenTag (values : EnhancedVlanTag) : Ieee8021qHeader :=
  ⟨BitVec.ofInt 8 values.pcp, values.de, BitVec.ofInt 16 values.vlanId⟩

/-- the header with its tag, which is added if it is requested or comes from the translation -/
def tagHeader (cfg : EncapConfig) (header : EthernetMacHeader) (vlanReq : Bool)
    (old new : EnhancedVlanTag) : EthernetMacHeader :=
  let vlanTag := header.tag cfg.vlanTagType
  let header :=
    if (vlanReq && vlanTag.isNone) ||
        (vlanTag.isNone && old.vlanId = -1 && new.vlanId ≠ -1) then header.addVlanTag cfg.vlanTagType
    else header
  match header.tag cfg.vlanTagType with
  | none => header
  | some _ => header.setTag (some (writtenTag new)) cfg.vlanTagType

/-- `none` if the packet is dropped -/
def processPacket (cfg : EncapConfig) (gate : EncapGate) (packet : VlanPacket) :
    Sim (Option VlanPacket) := do
  let old := oldValues (packet.header.tag cfg.vlanTagType)
  let (vlanReq, new) ← newValues cfg gate packet old
  if cfg.accepts gate new.vlanId then
    let new := { new with vlanId := cfg.translate gate new.vlanId }
    let vlanInd := packet.tags.enhancedVlanInd.getD {}
    return some { packet with
      header := tagHeader cfg packet.header vlanReq old new
      tags := { packet.tags with
        enhancedVlanReq := none
        enhancedVlanInd := some { vlanInd with
          vlanId := new.vlanId
          pcp := new.pcp } } }
  else return none

end EnhancedIeee8021qEncap

/-! ## the module of the switches -/

namespace Ieee8021qEncap

def oldVlanId (vlanTag : Option Ieee8021qHeader) : Int :=
  match vlanTag with
  | none => -1
  | some tag => tag.vid.toNat

def setVid (header : EthernetMacHeader) (vlanTagType : VlanTagType) (vlanId : Int) :
    EthernetMacHeader :=
  header.setTag ((header.tag vlanTagType).map fun tag => { tag with vid := BitVec.ofInt 16 vlanId })
    vlanTagType

/-- the header with the new id -/
def tagHeader (cfg : EncapConfig) (header : EthernetMacHeader) (old new : Int) : EthernetMacHeader :=
  if new ≠ old then
    if old = -1 ∧ new ≠ -1 then setVid (header.addVlanTag cfg.vlanTagType) cfg.vlanTagType new
    else if old ≠ -1 ∧ new = -1 then header.removeVlanTag cfg.vlanTagType
    else setVid header cfg.vlanTagType new
  else header

/-- `none` if the packet is dropped -/
def processPacket (cfg : EncapConfig) (gate : EncapGate) (packet : VlanPacket) : Option VlanPacket :=
  let old := oldVlanId (packet.header.tag cfg.vlanTagType)
  let new := packet.tags.vlanReq.getD old
  if cfg.accepts gate new then
    let new := cfg.translate gate new
    some { packet with
      header := tagHeader cfg packet.header old new
      tags := { packet.tags with
        vlanReq := none
        vlanInd := some new } }
  else none

end Ieee8021qEncap

/-! ## links and switches -/

/-- the MAC clears the tags of what it sends, and the next one adds its own -/
def transmit (interfaceId : Int) (packet : VlanPacket) : VlanPacket :=
  { packet with tags := {
      packetProtocolTag := some "ethernetmac"
      interfaceInd := some interfaceId } }

/-- `packet->getTag<T>()` -/
def getTag {β : Type} (name : String) (tag : Option β) : Sim β :=
  match tag with
  | none => .error (.runtimeError ("Tag '" ++ name ++ "' is absent"))
  | some value => .ok value

/-- `ForwardingRelayUnit::handleMessage` with the tags; a copy for each interface -/
def relay (fdb : FilteringDatabase) (time : SimTime) (packet : VlanPacket) :
    Sim (List VlanPacket × FilteringDatabase) := do
  let arrivalInterfaceId ← getTag "inet::InterfaceInd" packet.tags.interfaceInd
  let oldPacketProtocolTag ← getTag "inet::PacketProtocolTag" packet.tags.packetProtocolTag
  let vlanInd ← getTag "inet::VlanInd" packet.tags.vlanInd
  let tags : PacketTags := {
    packetProtocolTag := some oldPacketProtocolTag
    vlanReq := some vlanInd }
  let (interfaceIds, fdb) ← ForwardingRelayUnit.handleMessage fdb
    ⟨packet.header.dest, packet.header.src, arrivalInterfaceId, time⟩
  return (interfaceIds.map fun interfaceId => { packet with
    tags := { tags with interfaceReq := some interfaceId } }, fdb)

/-- a frame at a switch: the interface it comes in by, the table and the time -/
structure SwitchVisit where
  interfaceId : Int
  fdb : FilteringDatabase
  time : SimTime
  /-- the modules of the interfaces -/
  encap : Int → EncapConfig

/-- the outbound processing of a copy, at the interface that it is for -/
def SwitchVisit.send (visit : SwitchVisit) (packet : VlanPacket) : Option VlanPacket :=
  Ieee8021qEncap.processPacket (visit.encap (packet.tags.interfaceReq.getD 0)) .upperLayerIn packet

/-- inbound processing, the relay unit, and outbound processing -/
def SwitchVisit.hop (visit : SwitchVisit) (packet : VlanPacket) : Sim (List VlanPacket) :=
  match Ieee8021qEncap.processPacket (visit.encap visit.interfaceId) .lowerLayerIn
      (transmit visit.interfaceId packet) with
  | none => .ok []
  | some arrived => do
    let (copies, _) ← relay visit.fdb visit.time arrived
    return copies.filterMap visit.send

end Nesting
