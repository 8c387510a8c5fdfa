import Mathlib.Data.BitVec
import Mathlib.Logic.Function.Basic
import Nesting.Common.Text

/-!
# FilteringDatabase

The table of a switch from addresses to interfaces: static rules from a file, with the stamp 0, and
entries that are learned and age.

* `MacAddress`, `InterfaceTable`   what is used of them;
* `parseEntries`, `parseBlockedPorts`, `loadDatabase`   how the file is read;
* `insert`, `getDestInterfaceId`, `getDestInterfaceIds`, `isInterfaceBlocked`   the operations.
-/

set_option linter.unusedVariables false

namespace Nesting

/-- six octets, the first one in the highest bits -/
abbrev MacAddress := BitVec 48

namespace MacAddress

def isBroadcast (a : MacAddress) : Bool := a = BitVec.allOnes 48

/-- the lowest bit of the first octet -/
def isMulticast (a : MacAddress) : Bool := a.getLsbD 40

/-- the value of a hexadecimal digit -/
def hexDigit (c : Char) : Option Nat :=
  if c.isDigit then some (c.toNat - '0'.toNat)
  else if 'a' ≤ c ∧ c ≤ 'f' then some (c.toNat - 'a'.toNat + 10)
  else if 'A' ≤ c ∧ c ≤ 'F' then some (c.toNat - 'A'.toNat + 10)
  else none

/-- twelve hexadecimal digits, with spaces, colons and hyphens anywhere -/
def tryParse (hexstr : String) : Option MacAddress :=
  let digits := hexstr.toList.filterMap hexDigit
  if hexstr.toList.all (fun c => (hexDigit c).isSome ∨ c = ' ' ∨ c = ':' ∨ c = '-') ∧
      digits.length = 12 then
    some (BitVec.ofNat 48 (digits.foldl (fun n d => 16 * n + d) 0))
  else none

end MacAddress

structure InterfaceEntry where
  interfaceId : Int
  /-- `getIndex()`: the port -/
  index : Int
  deriving DecidableEq, Repr

/-- the interfaces in the order of their ids, which are different -/
structure InterfaceTable where
  interfaces : List InterfaceEntry
  distinct : (interfaces.map (·.interfaceId)).Nodup

theorem threeInterfaces_distinct : (([⟨100, 0⟩, ⟨101, 1⟩, ⟨102, 2⟩] : List InterfaceEntry).map
    (·.interfaceId)).Nodup := by
  decide

namespace InterfaceTable

def getInterface (ifTable : InterfaceTable) (pos : Int) : Sim InterfaceEntry :=
  if pos < 0 then .error (.runtimeError "getInterface(): interface index out of range")
  else match ifTable.interfaces[pos.toNat]? with
    | some entry => .ok entry
    | none => .error (.runtimeError "getInterface(): interface index out of range")

/-- `none` is the null pointer -/
def getInterfaceById (ifTable : InterfaceTable) (id : Int) : Option InterfaceEntry :=
  ifTable.interfaces.find? fun entry => entry.interfaceId = id

end InterfaceTable

/-! ## the elements of the file, their attributes as texts -/

structure IndividualAddressElement where
  macAddress : Option String
  port : Option String
  vid : Option String
  deriving DecidableEq, Repr

structure MulticastAddressElement where
  macAddress : Option String
  ports : Option String
  vid : Option String
  deriving DecidableEq, Repr

structure ForwardElement where
  individualAddress : List IndividualAddressElement
  multicastAddress : List MulticastAddressElement
  deriving DecidableEq, Repr

structure BlockedPortsElement where
  ports : Option String
  deriving DecidableEq, Repr

structure StaticElement where
  forward : Option ForwardElement
  blockedPorts : Option BlockedPortsElement
  deriving DecidableEq, Repr

/-- the element of the switch in the file -/
structure DatabaseElement where
  static : Option StaticElement
  deriving DecidableEq, Repr

/-- `std::unordered_map<MacAddress, std::pair<simtime_t, std::vector<int>>>` -/
abbrev Fdb := MacAddress → Option (SimTime × List Int)

structure FilteringDatabase where
  adminFdb : Fdb
  operFdb : Fdb
  /-- a set -/
  blockedPorts : List Int
  agingActive : Bool
  agingThreshold : SimTime
  ifTable : InterfaceTable

namespace FilteringDatabase

/-- the constructor, and the interface table of `initialize()` -/
def new (agingActive : Bool) (agingThreshold : SimTime) (ifTable : InterfaceTable) :
    FilteringDatabase where
  adminFdb := fun _ => none
  operFdb := fun _ => none
  blockedPorts := []
  agingActive := agingActive
  agingThreshold := agingThreshold
  ifTable := ifTable

/-- `std::unordered_map::insert`, which keeps an entry that is there -/
def insertStatic (fdb : Fdb) (macAddress : MacAddress) (interfaceIds : List Int) : Fdb :=
  match fdb macAddress with
  | some _ => fdb
  | none => Function.update fdb macAddress (some (0, interfaceIds))

/-- `static_cast<uint8_t>(atoi(vid))`, and 0 without the attribute -/
def vidOf (vid : Option String) : Sim Int :=
  match vid with
  | none => .ok 0
  | some text => do
    let n ← atoi text
    return n % 256

/-- `std::string(getAttribute("macAddress"))`, which must not be empty -/
def macAddressText (tag : String) (macAddress : Option String) : Sim String :=
  match macAddress with
  | none => .error (.undefinedBehaviour "std::string(nullptr)")
  | some text =>
    if text.isEmpty then .error (.runtimeError
      (tag ++ " tag in forwarding database XML must have an macAddress attribute"))
    else .ok text

def parseMacAddress (text : String) : Sim MacAddress :=
  match MacAddress.tryParse text with
  | some macAddress => .ok macAddress
  | none => .error (.runtimeError "Cannot parse invalid Mac address.")

def parseIndividualAddress (ifTable : InterfaceTable) (adminFdb : Fdb)
    (individualAddress : IndividualAddressElement) : Sim Fdb := do
  let text ← macAddressText "individualAddress" individualAddress.macAddress
  match individualAddress.port with
  | none => .error (.runtimeError
      "individualAddress tag in forwarding database XML must have an port attribute")
  | some portText => do
    let port ← atoi portText
    let entry ← ifTable.getInterface port
    let vid ← vidOf individualAddress.vid
    if vid = 0 then do
      let macAddress ← parseMacAddress text
      return insertStatic adminFdb macAddress [entry.interfaceId]
    else .error (.runtimeError "Individual address rules with VIDs aren't supported yet")

/-- the loop over the ports of a rule -/
def interfaceIdsOf (ifTable : InterfaceTable) : List Int → Sim (List Int)
  | [] => .ok []
  | port :: ports => do
    let entry ← ifTable.getInterface port
    let interfaceIds ← interfaceIdsOf ifTable ports
    return entry.interfaceId :: interfaceIds

def parseMulticastAddress (ifTable : InterfaceTable) (adminFdb : Fdb)
    (multicastAddress : MulticastAddressElement) : Sim Fdb := do
  let text ← macAddressText "multicastAddress" multicastAddress.macAddress
  match multicastAddress.ports with
  | none => .error (.runtimeError
      "multicastAddress tag in forwarding database XML must have an ports attribute")
  | some portsString => do
    let destInterfaces ← interfaceIdsOf ifTable (extractInts portsString)
    let vid ← vidOf multicastAddress.vid
    if vid = 0 then do
      let macAddress ← parseMacAddress text
      if macAddress.isMulticast then return insertStatic adminFdb macAddress destInterfaces
      else .error (.runtimeError "Mac address is not a Multicast address.")
    else .error (.runtimeError "Multicast address rules with VIDs aren't supported yet")

/-- a loop over the rules of one kind -/
def parseAll {ρ : Type} (parse : Fdb → ρ → Sim Fdb) : Fdb → List ρ → Sim Fdb
  | adminFdb, [] => .ok adminFdb
  | adminFdb, rule :: rules => do
    let adminFdb ← parse adminFdb rule
    parseAll parse adminFdb rules

def parseEntries (d : FilteringDatabase) (xml : ForwardElement) : Sim FilteringDatabase := do
  let adminFdb ← parseAll (parseIndividualAddress d.ifTable) d.adminFdb xml.individualAddress
  let adminFdb ← parseAll (parseMulticastAddress d.ifTable) adminFdb xml.multicastAddress
  return { d with adminFdb }

/-- `atoi` of each piece of a text -/
def atoiAll : List (List Char) → Sim (List Int)
  | [] => .ok []
  | piece :: pieces => do
    let n ← atoi (String.ofList piece)
    let ns ← atoiAll pieces
    return n :: ns

def parseBlockedPorts (d : FilteringDatabase) (xml : BlockedPortsElement) :
    Sim FilteringDatabase :=
  match xml.ports with
  | none => .error (.undefinedBehaviour "std::string(nullptr)")
  | some portsString => do
    let ports ← atoiAll (portsString.toList.splitOn ',')
    return { d with blockedPorts := ports }

def clearAdminFdb (d : FilteringDatabase) : FilteringDatabase :=
  { d with adminFdb := fun _ => none }

/-- the rules of `static` -/
def loadStatic (d : FilteringDatabase) (staticRules : StaticElement) : Sim FilteringDatabase := do
  let d := d.clearAdminFdb
  let d ← match staticRules.forward with
    | some forwardingXml => d.parseEntries forwardingXml
    | none => .ok d
  match staticRules.blockedPorts with
  | some blockedPortsXml => d.parseBlockedPorts blockedPortsXml
  | none => .ok d

/-- `none` if the file has no element of this switch -/
def loadDatabase (d : FilteringDatabase) (xml : Option DatabaseElement) : Sim FilteringDatabase :=
  match xml with
  | none => .ok d
  | some fdb => do
    let d ← match fdb.static with
      | some staticRules => d.loadStatic staticRules
      | none => .ok d
    return { d with operFdb := d.adminFdb, adminFdb := d.operFdb }.clearAdminFdb

def insert (d : FilteringDatabase) (macAddress : MacAddress) (curTS : SimTime) (interfaceId : Int) :
    FilteringDatabase :=
  { d with operFdb := Function.update d.operFdb macAddress (some (curTS, [interfaceId])) }

/-- an entry that does not age or is young enough -/
def live (d : FilteringDatabase) (ts curTS : SimTime) : Bool :=
  !d.agingActive || (ts = 0 || curTS - ts < d.agingThreshold)

/-- the entry is used at this time -/
def refresh (d : FilteringDatabase) (macAddress : MacAddress) (curTS : SimTime) (ports : List Int) :
    FilteringDatabase :=
  { d with operFdb := Function.update d.operFdb macAddress (some (curTS, ports)) }

def erase (d : FilteringDatabase) (macAddress : MacAddress) : FilteringDatabase :=
  { d with operFdb := Function.update d.operFdb macAddress none }

/-- -1 without an entry, or if it has not one interface -/
def getDestInterfaceId (d : FilteringDatabase) (macAddress : MacAddress) (curTS : SimTime) :
    Int × FilteringDatabase :=
  match d.operFdb macAddress with
  | none => (-1, d)
  | some (ts, [port]) =>
    if d.live ts curTS then (port, d.refresh macAddress curTS [port])
    else (-1, d.erase macAddress)
  | some (ts, _) => (-1, d)

/-- an expired entry is erased, and its interfaces are returned nevertheless -/
def getDestInterfaceIds (d : FilteringDatabase) (macAddress : MacAddress) (curTS : SimTime) :
    Sim (List Int × FilteringDatabase) :=
  if !macAddress.isMulticast then .error (.runtimeError "Expected multicast MAC address!")
  else match d.operFdb macAddress with
    | none => .ok ([], d)
    | some (ts, ports) =>
      if d.live ts curTS then .ok (ports, d.refresh macAddress curTS ports)
      else .ok (ports, d.erase macAddress)

def isInterfaceBlocked (d : FilteringDatabase) (interfaceId : Int) : Sim Bool :=
  match d.ifTable.getInterfaceById interfaceId with
  | none => .error (.undefinedBehaviour "interfaceEntry->getIndex()")
  | some interfaceEntry => .ok (d.blockedPorts.contains interfaceEntry.index)

variable {d d' : FilteringDatabase}

/-! ## what loading does -/

theorem parseBlockedPorts_ok {xml : BlockedPortsElement} (h : d.parseBlockedPorts xml = .ok d') :
    d' = { d with blockedPorts := d'.blockedPorts } := by
  unfold parseBlockedPorts at h
  split at h
  · cases h
  · obtain ⟨_, _, h⟩ := bind_ok.mp h
    cases h
    rfl

/-- the rules are read into a cleared staging table, and then the blocked ports -/
theorem loadStatic_ok {staticRules : StaticElement} (h : d.loadStatic staticRules = .ok d') :
    ∃ m, (match staticRules.forward with
      | some forwardingXml => d.clearAdminFdb.parseEntries forwardingXml = .ok m
      | none => m = d.clearAdminFdb) ∧ d' = { m with blockedPorts := d'.blockedPorts } := by
  obtain ⟨forward, blockedPorts⟩ := staticRules
  have hblocked : ∀ m : FilteringDatabase, (match blockedPorts with
      | some blockedPortsXml => m.parseBlockedPorts blockedPortsXml
      | none => .ok m) = .ok d' → d' = { m with blockedPorts := d'.blockedPorts } := by
    intro m hm
    cases blockedPorts with
    | none =>
      cases hm
      rfl
    | some blockedPortsXml => exact parseBlockedPorts_ok hm
  cases forward with
  | none => exact ⟨_, rfl, hblocked d.clearAdminFdb h⟩
  | some forwardingXml =>
    obtain ⟨m, hm, h⟩ := bind_ok.mp h
    exact ⟨m, hm, hblocked m h⟩

/-! ## what a lookup can do -/

theorem getDestInterfaceId_cases (d : FilteringDatabase) (a : MacAddress) (t : SimTime) :
    (∃ ts port, d.operFdb a = some (ts, [port]) ∧ d.live ts t = true ∧
      d.getDestInterfaceId a t = (port, d.refresh a t [port])) ∨
    (∃ ts port, d.operFdb a = some (ts, [port]) ∧ d.live ts t = false ∧
      d.getDestInterfaceId a t = (-1, d.erase a)) ∨
    (∀ ts port, d.operFdb a ≠ some (ts, [port])) ∧ d.getDestInterfaceId a t = (-1, d) := by
  unfold getDestInterfaceId
  split
  · rename_i he
    refine .inr (.inr ⟨fun ts port h => ?_, rfl⟩)
    rw [he] at h
    cases h
  · rename_i ts port he
    cases hl : d.live ts t with
    | true => exact .inl ⟨ts, port, he, hl, rfl⟩
    | false => exact .inr (.inl ⟨ts, port, he, hl, rfl⟩)
  · rename_i ts ports hne he
    refine .inr (.inr ⟨fun ts' port h => ?_, rfl⟩)
    rw [he] at h
    cases h
    exact hne port rfl

theorem getDestInterfaceIds_cases {a : MacAddress} (ha : a.isMulticast = true) (t : SimTime) :
    (∃ ts ports, d.operFdb a = some (ts, ports) ∧ d.live ts t = true ∧
      d.getDestInterfaceIds a t = .ok (ports, d.refresh a t ports)) ∨
    (∃ ts ports, d.operFdb a = some (ts, ports) ∧ d.live ts t = false ∧
      d.getDestInterfaceIds a t = .ok (ports, d.erase a)) ∨
    d.operFdb a = none ∧ d.getDestInterfaceIds a t = .ok ([], d) := by
  unfold getDestInterfaceIds
  rw [ha, Bool.not_true, if_neg Bool.false_ne_true]
  cases he : d.operFdb a with
  | none => exact .inr (.inr ⟨rfl, rfl⟩)
  | some entry =>
    obtain ⟨ts, ports⟩ := entry
    dsimp only
    cases hl : d.live ts t with
    | true => exact .inl ⟨ts, ports, rfl, hl, if_pos rfl⟩
    | false => exact .inr (.inl ⟨ts, ports, rfl, hl, if_neg Bool.false_ne_true⟩)

/-- a lookup that answers was not asked for an individual address -/
theorem isMulticast_of_getDestInterfaceIds {d' : FilteringDatabase} {a : MacAddress} {t : SimTime}
    {answer : List Int} (h : d.getDestInterfaceIds a t = .ok (answer, d')) :
    a.isMulticast = true := by
  by_contra hm
  unfold getDestInterfaceIds at h
  rw [Bool.not_eq_true] at hm
  rw [hm, Bool.not_false, if_pos rfl] at h
  cases h

end FilteringDatabase
end Nesting
