import Nesting.Relay.VlanEncap

/-!
# From the VLAN request to the indication

A host tags a frame as it is requested, switches forward it, and the host at the other end indicates
the tag.

* `Transparent`, `Plain`   modules without filters and translations, of one type of tag;
* `Travels`                the frame goes through any number of switches;
* `Survives`               the receiver indicates what was requested.
-/

set_option linter.unusedVariables false

namespace Nesting

/-- no filters and no translations -/
structure EncapConfig.Transparent (cfg : EncapConfig) (vlanTagType : VlanTagType) : Prop where
  type : cfg.vlanTagType = vlanTagType
  filters : cfg.inboundVlanIdFilter = [] ∧ cfg.outboundVlanIdFilter = []
  maps : cfg.inboundVlanIdMap = [] ∧ cfg.outboundVlanIdMap = []

def SwitchVisit.Plain (visit : SwitchVisit) (vlanTagType : VlanTagType) : Prop :=
  ∀ interfaceId, (visit.encap interfaceId).Transparent vlanTagType

/-- one of the copies goes from switch to switch -/
inductive Travels (vlanTagType : VlanTagType) : VlanPacket → VlanPacket → Prop where
  | arrived (packet : VlanPacket) : Travels vlanTagType packet packet
  | hop {packet next last : VlanPacket} {copies : List VlanPacket} (visit : SwitchVisit)
      (plain : visit.Plain vlanTagType) (forwarded : visit.hop packet = .ok copies)
      (copy : next ∈ copies) (rest : Travels vlanTagType next last) : Travels vlanTagType packet last

/-- no switch fails on the frame, and wherever the receiver is, it indicates these values and leaves the
tag as it is -/
def Indicated (vlanTagType : VlanTagType) (receiver : EncapConfig) (sent : VlanPacket)
    (values : EnhancedVlanTag → Prop) : Prop :=
  ∀ last, Travels vlanTagType sent last →
    (∀ visit : SwitchVisit, visit.Plain vlanTagType → ∃ copies, visit.hop last = .ok copies) ∧
    ∀ interfaceId, ∃ received vlanInd,
      EnhancedIeee8021qEncap.processPacket receiver .lowerLayerIn (transmit interfaceId last) =
        .ok (some received) ∧
      received.tags.enhancedVlanInd = some vlanInd ∧ values vlanInd ∧
      received.header.tag vlanTagType = sent.header.tag vlanTagType

/-- the frame has this tag and no other one -/
def OnlyTag (vlanTagType : VlanTagType) (header : EthernetMacHeader) (tag : Ieee8021qHeader) : Prop :=
  ∀ other, header.tag other = if other = vlanTagType then some tag else none

/-- what is to hold of a frame with a request -/
def RequestSurvives (vlanTagType : VlanTagType) (sender receiver : EncapConfig)
    (packet : VlanPacket) (vlanReq : EnhancedVlanTag) : Prop :=
  ∃ sent tag, EnhancedIeee8021qEncap.processPacket sender .upperLayerIn packet = .ok (some sent) ∧
    OnlyTag vlanTagType sent.header tag ∧
    (tag.vid.toNat : Int) = vlanReq.vlanId ∧ (tag.pcp.toNat : Int) = vlanReq.pcp ∧
    tag.de = vlanReq.de ∧ sent.byteLength = packet.byteLength + 4 ∧
    Indicated vlanTagType receiver sent fun vlanInd => vlanInd = vlanReq

/-- what is to hold of a frame that the rule for TCP tags -/
def TcpSurvives (vlanTagType : VlanTagType) (sender receiver : EncapConfig)
    (packet : VlanPacket) : Prop :=
  ∃ sent tag, EnhancedIeee8021qEncap.processPacket sender .upperLayerIn packet = .ok (some sent) ∧
    sent.header.tag vlanTagType = some tag ∧ tag.vid.toNat ≤ 4095 ∧
    Indicated vlanTagType receiver sent fun vlanInd => vlanInd.vlanId = tag.vid.toNat

def Survives (vlanTagType : VlanTagType) (sender receiver : EncapConfig) (packet : VlanPacket) : Prop :=
  match packet.tags.enhancedVlanReq with
  | some vlanReq => RequestSurvives vlanTagType sender receiver packet vlanReq
  | none => TcpSurvives vlanTagType sender receiver packet

/-! ## switches -/

section
variable {cfg : EncapConfig} {vlanTagType : VlanTagType} {gate : EncapGate} {packet : VlanPacket}

theorem EncapConfig.Transparent.accepts (h : cfg.Transparent vlanTagType) (vlanId : Int) :
    cfg.accepts gate vlanId = true := by
  cases gate with
  | upperLayerIn => simp [EncapConfig.accepts, EncapConfig.filter, h.filters.2]
  | lowerLayerIn => simp [EncapConfig.accepts, EncapConfig.filter, h.filters.1]

theorem EncapConfig.Transparent.translate (h : cfg.Transparent vlanTagType) (vlanId : Int) :
    cfg.translate gate vlanId = vlanId := by
  cases gate with
  | upperLayerIn => simp [EncapConfig.translate, EncapConfig.map, h.maps.2]
  | lowerLayerIn => simp [EncapConfig.translate, EncapConfig.map, h.maps.1]

/-- a request for the id that the frame has changes nothing -/
theorem processPacket_same (gate : EncapGate) (packet : VlanPacket)
    (h : cfg.Transparent vlanTagType)
    (hreq : packet.tags.vlanReq.getD (Ieee8021qEncap.oldVlanId (packet.header.tag vlanTagType)) =
      Ieee8021qEncap.oldVlanId (packet.header.tag vlanTagType)) :
    Ieee8021qEncap.processPacket cfg gate packet = some { packet with tags := { packet.tags with
      vlanReq := none
      vlanInd := some (Ieee8021qEncap.oldVlanId (packet.header.tag vlanTagType)) } } := by
  unfold Ieee8021qEncap.processPacket
  simp only [h.type, hreq, h.accepts, h.translate, if_true, Ieee8021qEncap.tagHeader, ne_eq,
    not_true_eq_false, if_false]

end

namespace ForwardingRelayUnit
open FilteringDatabase

variable {fdb : FilteringDatabase}

theorem processBroadcast_total (fdb : FilteringDatabase) (arrival : Int) :
    ∃ sent, processBroadcast fdb arrival = .ok sent := by
  obtain ⟨sent, hs, _⟩ := processBroadcast_excludes fdb arrival
  exact ⟨sent, hs⟩

/-- **The relay unit forwards every frame.** -/
theorem handleMessage_total (fdb : FilteringDatabase) (frame : RelayFrame) :
    ∃ r, handleMessage fdb frame = .ok r := by
  unfold handleMessage
  split
  · obtain ⟨sent, hs⟩ := processBroadcast_total fdb frame.arrivalInterfaceId
    exact ⟨(sent, fdb), bind_ok.mpr ⟨sent, hs, rfl⟩⟩
  · split
    · rename_i hmulti
      have hget : ∃ r, fdb.getDestInterfaceIds frame.dest frame.time = .ok r := by
        obtain ⟨_, ports, _, _, hr⟩ | ⟨_, ports, _, _, hr⟩ | ⟨_, hr⟩ :=
          getDestInterfaceIds_cases (d := fdb) hmulti frame.time
        · exact ⟨_, hr⟩
        · exact ⟨_, hr⟩
        · exact ⟨_, hr⟩
      obtain ⟨⟨destInterfaces, fdb'⟩, hget⟩ := hget
      unfold processMulticast
      by_cases hempty : destInterfaces.length = 0
      · obtain ⟨sent, hs⟩ := processBroadcast_total fdb' frame.arrivalInterfaceId
        refine ⟨(sent, fdb'), bind_ok.mpr ⟨_, hget, ?_⟩⟩
        exact (if_pos hempty).trans (bind_ok.mpr ⟨sent, hs, rfl⟩)
      · exact ⟨_, bind_ok.mpr ⟨_, hget, if_neg hempty⟩⟩
    · unfold processUnicast
      by_cases hnone : ((learn fdb frame.src frame.arrivalInterfaceId frame.time).getDestInterfaceId
          frame.dest frame.time).1 = -1
      · obtain ⟨sent, hs⟩ := processBroadcast_total
          ((learn fdb frame.src frame.arrivalInterfaceId frame.time).getDestInterfaceId frame.dest
            frame.time).2 frame.arrivalInterfaceId
        exact ⟨_, (if_pos hnone).trans (bind_ok.mpr ⟨sent, hs, rfl⟩)⟩
      · exact ⟨_, if_neg hnone⟩

end ForwardingRelayUnit

section
variable {vlanTagType : VlanTagType} {visit : SwitchVisit} {packet last : VlanPacket}

/-- **A switch forwards every frame, and its copies have the header of the frame.** -/
theorem hop_ok (h : visit.Plain vlanTagType) (packet : VlanPacket) :
    ∃ copies, visit.hop packet = .ok copies ∧ ∀ copy ∈ copies, copy.header = packet.header := by
  have hin := processPacket_same .lowerLayerIn (transmit visit.interfaceId packet)
    (h visit.interfaceId) rfl
  obtain ⟨⟨interfaceIds, fdb⟩, hforward⟩ := ForwardingRelayUnit.handleMessage_total visit.fdb
    ⟨packet.header.dest, packet.header.src, visit.interfaceId, visit.time⟩
  have hrelay : ∃ copies, relay visit.fdb visit.time { packet with tags := {
      packetProtocolTag := some "ethernetmac"
      interfaceInd := some visit.interfaceId
      vlanInd := some (Ieee8021qEncap.oldVlanId (packet.header.tag vlanTagType)) } } =
      .ok (copies, fdb) ∧ ∀ copy ∈ copies, copy.header = packet.header ∧
        copy.tags.vlanReq = some (Ieee8021qEncap.oldVlanId (packet.header.tag vlanTagType)) := by
    refine ⟨_, bind_ok.mpr ⟨_, rfl, bind_ok.mpr ⟨_, rfl, bind_ok.mpr ⟨_, rfl, bind_ok.mpr
      ⟨_, hforward, rfl⟩⟩⟩⟩, fun copy hcopy => ?_⟩
    obtain ⟨interfaceId, _, rfl⟩ := List.mem_map.mp hcopy
    exact ⟨rfl, rfl⟩
  obtain ⟨copies, hrelay, hcopies⟩ := hrelay
  refine ⟨copies.filterMap visit.send, ?_, fun copy hcopy => ?_⟩
  · rw [SwitchVisit.hop, hin]
    exact bind_ok.mpr ⟨_, hrelay, rfl⟩
  · obtain ⟨c, hc, hsend⟩ := List.mem_filterMap.mp hcopy
    obtain ⟨hheader, hreq⟩ := hcopies c hc
    have hout := processPacket_same .upperLayerIn c
      (h (c.tags.interfaceReq.getD 0)) (by rw [hreq, hheader]; rfl)
    rw [SwitchVisit.send, hout] at hsend
    cases hsend
    exact hheader

theorem travels_header (h : Travels vlanTagType packet last) : last.header = packet.header := by
  induction h with
  | arrived packet => rfl
  | hop visit plain forwarded copy rest ih =>
    obtain ⟨copies, hhop, hheaders⟩ := hop_ok plain _
    cases forwarded.symm.trans hhop
    exact ih.trans (hheaders _ copy)

end

/-! ## the receiver -/

section
variable {vlanTagType : VlanTagType} {sender receiver : EncapConfig} {packet sent : VlanPacket}
  {header : EthernetMacHeader} {tag : Ieee8021qHeader}

theorem setTag_same (h : header.tag vlanTagType = some tag) :
    header.setTag (some tag) vlanTagType = header := by
  cases vlanTagType with
  | c => exact congrArg (fun t => { header with cTag := t }) h.symm
  | s => exact congrArg (fun t => { header with sTag := t }) h.symm

theorem tag_setTag (vlanTagType : VlanTagType) (header : EthernetMacHeader) (t : Option Ieee8021qHeader) :
    (header.setTag t vlanTagType).tag vlanTagType = t := by
  cases vlanTagType with
  | c => rfl
  | s => rfl

/-- the values of a tag are written as they are -/
theorem writtenTag_old (tag : Ieee8021qHeader) :
    EnhancedIeee8021qEncap.writtenTag (EnhancedIeee8021qEncap.oldValues (some tag)) = tag := by
  obtain ⟨pcp, de, vid⟩ := tag
  simp [EnhancedIeee8021qEncap.writtenTag, EnhancedIeee8021qEncap.oldValues]

/-- **The indication has the VLAN id and the priority of the tag; `de` is never written into it.** -/
theorem receive_eq (h : receiver.Transparent vlanTagType) (interfaceId : Int)
    (ht : packet.header.tag vlanTagType = some tag) :
    EnhancedIeee8021qEncap.processPacket receiver .lowerLayerIn (transmit interfaceId packet) =
      .ok (some { packet with tags := {
        packetProtocolTag := some "ethernetmac"
        interfaceInd := some interfaceId
        enhancedVlanInd := some ⟨tag.vid.toNat, tag.pcp.toNat, false⟩ } }) := by
  have hnew : EnhancedIeee8021qEncap.newValues receiver .lowerLayerIn (transmit interfaceId packet)
      (EnhancedIeee8021qEncap.oldValues (some tag)) =
        .ok (false, EnhancedIeee8021qEncap.oldValues (some tag)) := by
    unfold EnhancedIeee8021qEncap.newValues
    exact if_neg (by simp)
  have hheader : EnhancedIeee8021qEncap.tagHeader receiver packet.header false
      (EnhancedIeee8021qEncap.oldValues (some tag)) (EnhancedIeee8021qEncap.oldValues (some tag)) =
        packet.header := by
    unfold EnhancedIeee8021qEncap.tagHeader
    simp only [h.type, ht, Option.isNone_some, Bool.and_false, Bool.false_and, Bool.or_self,
      Bool.false_eq_true, if_false]
    rw [writtenTag_old, setTag_same ht]
  have hold : (transmit interfaceId packet).header.tag receiver.vlanTagType = some tag := by
    rw [h.type]
    exact ht
  unfold EnhancedIeee8021qEncap.processPacket
  rw [hold]
  refine bind_ok.mpr ⟨_, hnew, ?_⟩
  simp only [h.accepts, h.translate, if_true]
  show Except.ok (some { packet with
    header := EnhancedIeee8021qEncap.tagHeader receiver packet.header false
      (EnhancedIeee8021qEncap.oldValues (some tag)) (EnhancedIeee8021qEncap.oldValues (some tag))
    tags := _ }) = _
  rw [hheader]
  rfl

/-- the receiver indicates what is in the tag, and only that -/
theorem indicated_iff (h : receiver.Transparent vlanTagType) {values : EnhancedVlanTag → Prop}
    (ht : sent.header.tag vlanTagType = some tag) :
    Indicated vlanTagType receiver sent values ↔
      values ⟨tag.vid.toNat, tag.pcp.toNat, false⟩ := by
  constructor
  · intro hi
    obtain ⟨received, vlanInd, hreceived, hind, hvalues, _⟩ := (hi sent (.arrived sent)).2 0
    rw [receive_eq h 0 ht] at hreceived
    cases hreceived
    cases hind
    exact hvalues
  · intro hvalues last hlast
    have hheader := travels_header hlast
    have hlastTag : last.header.tag vlanTagType = some tag := by
      rw [hheader, ht]
    refine ⟨fun visit hplain => ?_, fun interfaceId => ?_⟩
    · obtain ⟨copies, hcopies, _⟩ := hop_ok hplain last
      exact ⟨copies, hcopies⟩
    · exact ⟨_, _, receive_eq h interfaceId hlastTag, rfl, hvalues, hlastTag.trans ht.symm⟩

/-! ## the sender -/

/-- a frame without any tag -/
def Untagged (header : EthernetMacHeader) : Prop := ∀ vlanTagType, header.tag vlanTagType = none

theorem onlyTag_added (hu : Untagged header) (tag : Ieee8021qHeader) :
    OnlyTag vlanTagType ((header.addVlanTag vlanTagType).setTag (some tag) vlanTagType) tag := by
  intro other
  have hc : header.cTag = none := hu .c
  have hs : header.sTag = none := hu .s
  cases vlanTagType with
  | c =>
    cases other with
    | c => rfl
    | s => exact hs
  | s =>
    cases other with
    | c => exact hc
    | s => rfl

/-- the header of an untagged frame that is to be tagged -/
theorem tagHeader_added (h : sender.Transparent vlanTagType) (hu : Untagged header)
    (old new : EnhancedVlanTag) : EnhancedIeee8021qEncap.tagHeader sender header true old new =
      (header.addVlanTag vlanTagType).setTag (some (EnhancedIeee8021qEncap.writtenTag new))
        vlanTagType := by
  have hadded : (header.addVlanTag vlanTagType).tag vlanTagType = some ⟨0, false, 0⟩ := tag_setTag _ _ _
  unfold EnhancedIeee8021qEncap.tagHeader
  simp only [h.type, hu vlanTagType, Option.isNone_none, Bool.and_self, Bool.true_or, if_true, hadded]

theorem send_ok (h : sender.Transparent vlanTagType) (hu : Untagged packet.header)
    {new : EnhancedVlanTag} (hnew : EnhancedIeee8021qEncap.newValues sender .upperLayerIn packet
      (EnhancedIeee8021qEncap.oldValues none) = .ok (true, new)) :
    ∃ tags, EnhancedIeee8021qEncap.processPacket sender .upperLayerIn packet = .ok (some { packet with
      header := (packet.header.addVlanTag vlanTagType).setTag
        (some (EnhancedIeee8021qEncap.writtenTag new)) vlanTagType
      tags := tags }) := by
  have hold : packet.header.tag sender.vlanTagType = none := hu sender.vlanTagType
  unfold EnhancedIeee8021qEncap.processPacket
  rw [hold]
  refine ⟨{ packet.tags with
    enhancedVlanReq := none
    enhancedVlanInd := some { packet.tags.enhancedVlanInd.getD {} with
      vlanId := new.vlanId
      pcp := new.pcp } }, bind_ok.mpr ⟨_, hnew, ?_⟩⟩
  simp only [h.accepts, h.translate, if_true, tagHeader_added h hu]
  rfl

theorem byteLength_added (tag : Option Ieee8021qHeader) (tags : PacketTags) :
    VlanPacket.byteLength { packet with
      header := (packet.header.addVlanTag vlanTagType).setTag tag vlanTagType
      tags := tags } = packet.byteLength + 4 := by
  have hlength : ((packet.header.addVlanTag vlanTagType).setTag tag vlanTagType).chunkLength =
      packet.header.chunkLength + 4 := by
    cases vlanTagType <;> rfl
  show ((packet.header.addVlanTag vlanTagType).setTag tag vlanTagType).chunkLength + packet.dataLength =
    packet.header.chunkLength + packet.dataLength + 4
  rw [hlength]
  omega

/-! ## from end to end -/

/-- a VLAN id and a priority -/
def EnhancedVlanTag.Valid (tag : EnhancedVlanTag) : Prop :=
  (0 ≤ tag.vlanId ∧ tag.vlanId ≤ 4095) ∧ 0 ≤ tag.pcp ∧ tag.pcp ≤ 7

instance {tag : EnhancedVlanTag} : Decidable tag.Valid := inferInstanceAs (Decidable (_ ∧ _ ∧ _))

/-- a frame of TCP that has no request and is tagged by the rule -/
def TcpTagged (sender : EncapConfig) (packet : VlanPacket) : Prop :=
  sender.tagTcpTraffic = true ∧ packet.tags.enhancedVlanReq = none ∧
    ∃ destPort, packet.tags.transportProtocolInd = some (some destPort)

theorem requestSurvives_iff {vlanReq : EnhancedVlanTag} (hs : sender.Transparent vlanTagType)
    (hr : receiver.Transparent vlanTagType) (hu : Untagged packet.header)
    (hreq : packet.tags.enhancedVlanReq = some vlanReq) (hvalid : vlanReq.Valid) :
    RequestSurvives vlanTagType sender receiver packet vlanReq ↔ vlanReq.de = false := by
  obtain ⟨⟨hv0, hv⟩, hp0, hp⟩ := hvalid
  have hvid : ((BitVec.ofInt 16 vlanReq.vlanId).toNat : Int) = vlanReq.vlanId := by
    rw [BitVec.toNat_ofInt]
    omega
  have hpcp : ((BitVec.ofInt 8 vlanReq.pcp).toNat : Int) = vlanReq.pcp := by
    rw [BitVec.toNat_ofInt]
    omega
  have hnew : EnhancedIeee8021qEncap.newValues sender .upperLayerIn packet
      (EnhancedIeee8021qEncap.oldValues none) = .ok (true, vlanReq) := by
    rw [EnhancedIeee8021qEncap.newValues, hreq]
  obtain ⟨tags, hsend⟩ := send_ok hs hu hnew
  have htag := tag_setTag vlanTagType (packet.header.addVlanTag vlanTagType)
    (some (EnhancedIeee8021qEncap.writtenTag vlanReq))
  have hind : ∀ values, Indicated vlanTagType receiver { packet with
      header := (packet.header.addVlanTag vlanTagType).setTag
        (some (EnhancedIeee8021qEncap.writtenTag vlanReq)) vlanTagType
      tags := tags } values ↔ values ⟨vlanReq.vlanId, vlanReq.pcp, false⟩ := by
    intro values
    refine (indicated_iff hr htag).trans ?_
    show values ⟨((BitVec.ofInt 16 vlanReq.vlanId).toNat : Int),
      ((BitVec.ofInt 8 vlanReq.pcp).toNat : Int), false⟩ ↔ _
    rw [hvid, hpcp]
  constructor
  · rintro ⟨sent, tag, hsent, _, _, _, _, _, hi⟩
    cases hsend.symm.trans hsent
    have hsame := (hind fun vlanInd => vlanInd = vlanReq).mp hi
    exact (congrArg EnhancedVlanTag.de hsame).symm
  · intro hde
    refine ⟨_, _, hsend, onlyTag_added hu _, hvid, hpcp, rfl, byteLength_added _ tags, ?_⟩
    refine (hind _).mpr ?_
    rw [← hde]

theorem not_tcpSurvives (hs : sender.Transparent vlanTagType) (hu : Untagged packet.header)
    (ht : TcpTagged sender packet) : ¬TcpSurvives vlanTagType sender receiver packet := by
  obtain ⟨htcp, hreq, destPort, hport⟩ := ht
  have hnew : EnhancedIeee8021qEncap.newValues sender .upperLayerIn packet
      (EnhancedIeee8021qEncap.oldValues none) = .ok (true, ⟨-1, destPort % 8, false⟩) := by
    rw [EnhancedIeee8021qEncap.newValues, hreq, hport, htcp]
    rfl
  obtain ⟨tags, hsend⟩ := send_ok hs hu hnew
  rintro ⟨sent, tag, hsent, htag, hvid, _⟩
  cases hsend.symm.trans hsent
  rw [tag_setTag] at htag
  cases htag
  -- the id -1 of an untagged frame, in 16 bits
  have hwritten : (BitVec.ofInt 16 (-1)).toNat ≤ 4095 := hvid
  exact absurd hwritten (by decide)

/-- **A VLAN request survives if and only if it does not ask for `de`; the tag of the rule for TCP never
does.** -/
theorem survives_iff (hs : sender.Transparent vlanTagType) (hr : receiver.Transparent vlanTagType)
    (hu : Untagged packet.header)
    (htag : (∃ vlanReq, packet.tags.enhancedVlanReq = some vlanReq ∧ vlanReq.Valid) ∨
      TcpTagged sender packet) :
    Survives vlanTagType sender receiver packet ↔
      ∃ vlanReq, packet.tags.enhancedVlanReq = some vlanReq ∧ vlanReq.de = false := by
  unfold Survives
  obtain ⟨vlanReq, hreq, hvalid⟩ | htcp := htag
  · rw [hreq]
    refine (requestSurvives_iff hs hr hu hreq hvalid).trans ?_
    constructor
    · intro hde
      exact ⟨vlanReq, rfl, hde⟩
    · rintro ⟨same, hsame, hde⟩
      rw [Option.some.inj hsame]
      exact hde
  · rw [htcp.2.1]
    constructor
    · intro h
      exact absurd h (not_tcpSurvives hs hu htcp)
    · rintro ⟨_, hnone, _⟩
      cases hnone

end

/-- an interface of a host -/
def hostEncap (tagTcpTraffic : Bool) : EncapConfig := ⟨.c, [], [], [], [], tagTcpTraffic⟩

theorem hostEncap_transparent (tagTcpTraffic : Bool) : (hostEncap tagTcpTraffic).Transparent .c :=
  ⟨rfl, ⟨rfl, rfl⟩, ⟨rfl, rfl⟩⟩

/-- 64 bytes with these tags -/
def untaggedFrame (tags : PacketTags) : VlanPacket := ⟨⟨4, 9, none, none, 14⟩, 50, tags⟩

theorem untaggedFrame_untagged (tags : PacketTags) : Untagged (untaggedFrame tags).header := by
  intro vlanTagType
  cases vlanTagType <;> rfl

theorem survives_plain : Survives .c (hostEncap false) (hostEncap false)
    (untaggedFrame { enhancedVlanReq := some ⟨42, 7, false⟩ }) :=
  (survives_iff (hostEncap_transparent false) (hostEncap_transparent false)
    (untaggedFrame_untagged _) (.inl ⟨_, rfl, by decide⟩)).mpr ⟨_, rfl, rfl⟩

/-- A request with `de` is indicated without it, and a TCP frame is tagged with the id 65535. -/
theorem survives_violated :
    ¬Survives .c (hostEncap false) (hostEncap false)
      (untaggedFrame { enhancedVlanReq := some ⟨42, 7, true⟩ }) ∧
    ¬Survives .c (hostEncap true) (hostEncap true)
      (untaggedFrame { transportProtocolInd := some (some 80) }) := by
  constructor
  · intro h
    have hde := (requestSurvives_iff (hostEncap_transparent false) (hostEncap_transparent false)
      (untaggedFrame_untagged _) rfl (by decide)).mp h
    exact absurd hde (by decide)
  · exact not_tcpSurvives (hostEncap_transparent true) (untaggedFrame_untagged _) ⟨rfl, rfl, 80, rfl⟩

end Nesting
