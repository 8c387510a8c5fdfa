import Nesting.Common.Text
import Nesting.Relay.FilteringDatabase

/-!
# HostSchedule

The schedule of a sender: when in a cycle which packet is sent.

* `Ieee8021QCtrl`                the addresses and tags of a packet;
* `HostSchedule`                 the entries in the order of the file;
* `createHostScheduleFromXML`    reads them; an entry that starts after the cycle is an error.
-/

set_option linter.unusedVariables false

namespace Nesting

/-- `VLANTagReq`, `MacAddressReq` and the flow -/
structure Ieee8021QCtrl where
  /-- a `uint8_t` -/
  pcp : Nat
  de : Bool
  /-- a `short` -/
  vid : Int
  destAddress : MacAddress
  /-- a `uint64_t` -/
  flowId : Nat
  deriving DecidableEq, Repr

structure HostEntry (α : Type) where
  time : SimTime
  size : Nat
  scheduledObject : α
  deriving DecidableEq, Repr

structure HostSchedule (α : Type) where
  entries : List (HostEntry α)
  cycle : SimTime
  deriving DecidableEq, Repr

namespace HostSchedule

variable {α : Type}

def new : HostSchedule α := ⟨[], 0⟩

def size (schedule : HostSchedule α) : Nat := schedule.entries.length
def setCycle (schedule : HostSchedule α) (cycleLength : SimTime) : HostSchedule α :=
  { schedule with cycle := cycleLength }
def getCycle (schedule : HostSchedule α) : SimTime := schedule.cycle

/-- `entries[index]` -/
def entry (schedule : HostSchedule α) (index : Nat) : Sim (HostEntry α) :=
  match schedule.entries[index]? with
  | some e => .ok e
  | none => .error (.undefinedBehaviour "entries[index]")

def getScheduledObject (schedule : HostSchedule α) (index : Nat) : Sim α :=
  (·.scheduledObject) <$> schedule.entry index

def getTime (schedule : HostSchedule α) (index : Nat) : Sim SimTime :=
  (·.time) <$> schedule.entry index

def getSize (schedule : HostSchedule α) (index : Nat) : Sim Nat :=
  (·.size) <$> schedule.entry index

def addEntry (schedule : HostSchedule α) (time : SimTime) (size : Nat) (scheduledObject : α) :
    HostSchedule α :=
  { schedule with entries := schedule.entries ++ [⟨time, size, scheduledObject⟩] }

theorem entry_ok {schedule : HostSchedule α} {index : Nat} {e : HostEntry α} :
    schedule.entry index = .ok e ↔ schedule.entries[index]? = some e := by
  unfold entry
  cases schedule.entries[index]? with
  | none => exact ⟨fun h => (by cases h), fun h => (by cases h)⟩
  | some e' => exact ⟨fun h => congrArg some (Except.ok.inj h), fun h => congrArg _ (Option.some.inj h)⟩

end HostSchedule

/-! ## the file, its times and quantities parsed -/

structure HostEntryElement where
  start : Option SimTime
  /-- in bytes -/
  size : Option ℚ
  queue : Option String
  dest : Option String
  flowId : Option String
  deriving DecidableEq, Repr

structure HostElement where
  cycle : Option SimTime
  entries : List HostEntryElement
  deriving DecidableEq, Repr

namespace HostScheduleBuilder

/-- `getFirstChildWithTag(tag)->getNodeValue()` -/
def nodeValue {β : Type} (tag : String) (child : Option β) : Sim β :=
  match child with
  | none => .error (.undefinedBehaviour ("getFirstChildWithTag(\"" ++ tag ++ "\")->getNodeValue()"))
  | some value => .ok value

/-- `MacAddress(addressCString)` -/
def setAddress (hexstr : String) : Sim MacAddress :=
  match MacAddress.tryParse hexstr with
  | some address => .ok address
  | none => .error (.runtimeError "MacAddress: wrong address syntax")

/-- an `int` as a `uint8_t`, a `short` and a `uint64_t` -/
def header (queue flowId : Int) (destination : MacAddress) : Ieee8021QCtrl where
  pcp := (queue % 2 ^ 8).toNat
  de := false
  vid := flowId.bmod (2 ^ 16)
  destAddress := destination
  flowId := (flowId % 2 ^ 64).toNat

def addEntryFromXML (schedule : HostSchedule Ieee8021QCtrl) (entry : HostEntryElement) :
    Sim (HostSchedule Ieee8021QCtrl) := do
  let time ← nodeValue "start" entry.start
  if time > schedule.getCycle then
    .error (.runtimeError "Frame is scheduled after its host cycle ends!")
  else do
    let quantity ← nodeValue "size" entry.size
    let size ← toUnsigned ⌈quantity⌉
    let queueCString ← nodeValue "queue" entry.queue
    let queue ← atoi queueCString
    let addressCString ← nodeValue "dest" entry.dest
    let destination ← setAddress addressCString
    let flowIdCString ← nodeValue "flowId" entry.flowId
    let flowId ← atoi flowIdCString
    return schedule.addEntry time size (header queue flowId destination)

/-- the loop over the entries -/
def addEntries (schedule : HostSchedule Ieee8021QCtrl) :
    List HostEntryElement → Sim (HostSchedule Ieee8021QCtrl)
  | [] => .ok schedule
  | entry :: entries => do
    let schedule ← addEntryFromXML schedule entry
    addEntries schedule entries

def createHostScheduleFromXML (xml : HostElement) : Sim (HostSchedule Ieee8021QCtrl) := do
  let cycle ← nodeValue "cycle" xml.cycle
  addEntries (HostSchedule.new.setCycle cycle) xml.entries

/-! ## what is accepted -/

variable {schedule schedule' : HostSchedule Ieee8021QCtrl}

theorem addEntryFromXML_ok {entry : HostEntryElement}
    (h : addEntryFromXML schedule entry = .ok schedule') : ∃ e, e.time ≤ schedule.cycle ∧
      entry.start = some e.time ∧ schedule' = { schedule with entries := schedule.entries ++ [e] } := by
  obtain ⟨time, htime, h⟩ := bind_ok.mp h
  have hstart : entry.start = some time := by
    unfold nodeValue at htime
    split at htime
    · cases htime
    · rename_i value hvalue
      rw [hvalue, Except.ok.inj htime]
  split at h
  · cases h
  · rename_i hle
    obtain ⟨quantity, _, h⟩ := bind_ok.mp h
    obtain ⟨size, _, h⟩ := bind_ok.mp h
    obtain ⟨queueCString, _, h⟩ := bind_ok.mp h
    obtain ⟨queue, _, h⟩ := bind_ok.mp h
    obtain ⟨addressCString, _, h⟩ := bind_ok.mp h
    obtain ⟨destination, _, h⟩ := bind_ok.mp h
    obtain ⟨flowIdCString, _, h⟩ := bind_ok.mp h
    obtain ⟨flowId, _, h⟩ := bind_ok.mp h
    cases h
    exact ⟨⟨time, size, header queue flowId destination⟩, not_lt.mp hle, hstart, rfl⟩

theorem addEntries_ok {entries : List HostEntryElement}
    (h : addEntries schedule entries = .ok schedule')
    (hle : ∀ e ∈ schedule.entries, e.time ≤ schedule.cycle) :
    schedule'.cycle = schedule.cycle ∧ ∀ e ∈ schedule'.entries, e.time ≤ schedule'.cycle := by
  induction entries generalizing schedule with
  | nil =>
    cases h
    exact ⟨rfl, hle⟩
  | cons entry entries ih =>
    obtain ⟨next, hnext, h⟩ := bind_ok.mp h
    obtain ⟨e, he, _, rfl⟩ := addEntryFromXML_ok hnext
    have hnew : ∀ x ∈ schedule.entries ++ [e], x.time ≤ schedule.cycle := by
      intro x hx
      obtain hx | hx := List.mem_append.mp hx
      · exact hle x hx
      · rw [List.mem_singleton.mp hx]
        exact he
    have hrest := ih h hnew
    exact hrest

/-- **No entry starts after the cycle.** -/
theorem createHostScheduleFromXML_ok {xml : HostElement}
    (h : createHostScheduleFromXML xml = .ok schedule) :
    xml.cycle = some schedule.cycle ∧ ∀ e ∈ schedule.entries, e.time ≤ schedule.cycle := by
  obtain ⟨cycle, hcycle, h⟩ := bind_ok.mp h
  obtain ⟨hc, hle⟩ := addEntries_ok h nofun
  refine ⟨?_, hle⟩
  unfold nodeValue at hcycle
  split at hcycle
  · cases hcycle
  · rename_i value hvalue
    rw [hvalue, Except.ok.inj hcycle, hc]
    rfl

end HostScheduleBuilder
end Nesting
