import Nesting.Lib.Run
import Nesting.Relay.FilteringDatabase

/-!
# ForwardingRelayUnit

A frame goes to the interfaces of its destination, or to all of them.

* `processBroadcast`, `processMulticast`, `processUnicast`, `handleMessage`   the functions; they return
                       the interfaces that copies of the frame are sent to;
* `Forwards`           no interface twice, not the one the frame came from, no blocked one;
* `forwarding_rule`    **which frames are forwarded so, over runs.**
-/

set_option linter.unusedVariables false

namespace Nesting
open Lib

/-- a frame at the relay unit -/
structure RelayFrame where
  dest : MacAddress
  src : MacAddress
  arrivalInterfaceId : Int
  /-- `simTime()` -/
  time : SimTime
  deriving DecidableEq, Repr

namespace ForwardingRelayUnit
open FilteringDatabase

/-- the test in the loop of `processBroadcast` -/
def sendsTo (fdb : FilteringDatabase) (arrivalInterfaceId destInterfaceId : Int) : Sim Bool :=
  if destInterfaceId = arrivalInterfaceId then .ok false
  else do
    let blocked ← fdb.isInterfaceBlocked destInterfaceId
    return !blocked

/-- the loop over the interfaces -/
def broadcastTo (fdb : FilteringDatabase) (arrivalInterfaceId : Int) :
    List InterfaceEntry → Sim (List Int)
  | [] => .ok []
  | destInterface :: interfaces => do
    let sends ← sendsTo fdb arrivalInterfaceId destInterface.interfaceId
    let sent ← broadcastTo fdb arrivalInterfaceId interfaces
    return if sends then destInterface.interfaceId :: sent else sent

def processBroadcast (fdb : FilteringDatabase) (arrivalInterfaceId : Int) : Sim (List Int) :=
  broadcastTo fdb arrivalInterfaceId fdb.ifTable.interfaces

def processMulticast (fdb : FilteringDatabase) (dest : MacAddress) (arrivalInterfaceId : Int)
    (time : SimTime) : Sim (List Int × FilteringDatabase) := do
  let (destInterfaces, fdb) ← fdb.getDestInterfaceIds dest time
  if destInterfaces.length = 0 then do
    let sent ← processBroadcast fdb arrivalInterfaceId
    return (sent, fdb)
  else return (destInterfaces.filter fun destInterfaceId => destInterfaceId ≠ arrivalInterfaceId, fdb)

def learn (fdb : FilteringDatabase) (srcAddr : MacAddress) (arrivalInterfaceId : Int)
    (time : SimTime) : FilteringDatabase :=
  fdb.insert srcAddr time arrivalInterfaceId

def processUnicast (fdb : FilteringDatabase) (dest src : MacAddress) (arrivalInterfaceId : Int)
    (time : SimTime) : Sim (List Int × FilteringDatabase) :=
  let (destInterfaceId, fdb) :=
    (learn fdb src arrivalInterfaceId time).getDestInterfaceId dest time
  if destInterfaceId = -1 then do
    let sent ← processBroadcast fdb arrivalInterfaceId
    return (sent, fdb)
  else .ok ([destInterfaceId], fdb)

def handleMessage (fdb : FilteringDatabase) (frame : RelayFrame) :
    Sim (List Int × FilteringDatabase) :=
  if frame.dest.isBroadcast then do
    let sent ← processBroadcast fdb frame.arrivalInterfaceId
    return (sent, fdb)
  else if frame.dest.isMulticast then
    processMulticast fdb frame.dest frame.arrivalInterfaceId frame.time
  else processUnicast fdb frame.dest frame.src frame.arrivalInterfaceId frame.time

def step (fdb : FilteringDatabase) (frame : RelayFrame) : Sim FilteringDatabase := do
  let (_, fdb) ← handleMessage fdb frame
  return fdb

/-! ## the exclusions -/

/-- an interface that is not blocked -/
def Open (fdb : FilteringDatabase) (interfaceId : Int) : Prop :=
  fdb.isInterfaceBlocked interfaceId = .ok false

/-- where a frame may go -/
structure Excludes (fdb : FilteringDatabase) (arrivalInterfaceId : Int) (sent : List Int) :
    Prop where
  once : sent.Nodup
  arrival : arrivalInterfaceId ∉ sent
  blocked : ∀ i ∈ sent, Open fdb i

variable {fdb : FilteringDatabase}

theorem getInterfaceById_mem {ifTable : InterfaceTable} {e : InterfaceEntry}
    (he : e ∈ ifTable.interfaces) : ifTable.getInterfaceById e.interfaceId = some e := by
  obtain ⟨l, hl⟩ := ifTable
  unfold InterfaceTable.getInterfaceById
  dsimp only at he ⊢
  induction l with
  | nil => cases he
  | cons x l ih =>
    rw [List.map_cons, List.nodup_cons] at hl
    obtain rfl | he := List.mem_cons.mp he
    · rw [List.find?_cons_of_pos (by simp)]
    · have hne : x.interfaceId ≠ e.interfaceId :=
        fun h => hl.1 (h ▸ List.mem_map_of_mem he)
      rw [List.find?_cons_of_neg (by simp [hne])]
      exact ih hl.2 he

theorem isInterfaceBlocked_mem {e : InterfaceEntry} (he : e ∈ fdb.ifTable.interfaces) :
    fdb.isInterfaceBlocked e.interfaceId = .ok (fdb.blockedPorts.contains e.index) := by
  unfold isInterfaceBlocked
  rw [getInterfaceById_mem he]

theorem sendsTo_mem (arrival : Int) {e : InterfaceEntry} (he : e ∈ fdb.ifTable.interfaces) :
    ∃ b, sendsTo fdb arrival e.interfaceId = .ok b ∧
      (b = true → e.interfaceId ≠ arrival ∧ Open fdb e.interfaceId) := by
  unfold sendsTo Open
  by_cases ha : e.interfaceId = arrival
  · rw [if_pos ha]
    exact ⟨false, rfl, nofun⟩
  · rw [if_neg ha, isInterfaceBlocked_mem he]
    refine ⟨_, rfl, fun hb => ⟨ha, ?_⟩⟩
    rw [Bool.not_eq_true'] at hb
    rw [hb]

/-- the loop, over any part of the table -/
theorem broadcastTo_excludes {arrival : Int} {l : List InterfaceEntry}
    (hl : l.Sublist fdb.ifTable.interfaces) : ∃ sent, broadcastTo fdb arrival l = .ok sent ∧
      Excludes fdb arrival sent ∧ ∀ i ∈ sent, i ∈ l.map (·.interfaceId) := by
  induction l with
  | nil => exact ⟨[], rfl, ⟨List.nodup_nil, List.not_mem_nil, nofun⟩, nofun⟩
  | cons e l ih =>
    obtain ⟨sent, hs, hex, hsub⟩ := ih ((List.sublist_cons_self e l).trans hl)
    obtain ⟨b, hb, hopen⟩ := sendsTo_mem arrival (hl.subset List.mem_cons_self)
    have hrun : broadcastTo fdb arrival (e :: l) =
        .ok (if b = true then e.interfaceId :: sent else sent) := by
      rw [broadcastTo, hb, hs]
      rfl
    refine ⟨_, hrun, ?_⟩
    cases b with
    | false => exact ⟨hex, fun i hi => List.mem_cons_of_mem _ (hsub i hi)⟩
    | true =>
      obtain ⟨hne, ho⟩ := hopen rfl
      have hnodup : ((e :: l).map (·.interfaceId)).Nodup :=
        (hl.map (·.interfaceId)).nodup fdb.ifTable.distinct
      rw [List.map_cons, List.nodup_cons] at hnodup
      refine ⟨⟨List.nodup_cons.mpr ⟨fun hi => hnodup.1 (hsub _ hi), hex.once⟩, fun hi => ?_,
        fun i hi => ?_⟩, fun i hi => ?_⟩
      · obtain h | h := List.mem_cons.mp hi
        · exact hne h.symm
        · exact hex.arrival h
      · obtain rfl | h := List.mem_cons.mp hi
        · exact ho
        · exact hex.blocked i h
      · obtain rfl | h := List.mem_cons.mp hi
        · exact List.mem_cons_self
        · exact List.mem_cons_of_mem _ (hsub i h)

/-- **A broadcast keeps to the exclusions.** -/
theorem processBroadcast_excludes (fdb : FilteringDatabase) (arrival : Int) :
    ∃ sent, processBroadcast fdb arrival = .ok sent ∧ Excludes fdb arrival sent := by
  obtain ⟨sent, hs, hex, _⟩ := broadcastTo_excludes (List.Sublist.refl fdb.ifTable.interfaces)
  exact ⟨sent, hs, hex⟩

/-! ## one frame -/

/-- the frame is forwarded within the exclusions -/
def Forwards (fdb : FilteringDatabase) (frame : RelayFrame) : Prop :=
  ∃ sent fdb', handleMessage fdb frame = .ok (sent, fdb') ∧
    Excludes fdb frame.arrivalInterfaceId sent

/-- the entry of a multicast address, live or not: no interface twice and none that is blocked, but for
the one the frame came from -/
def ClearMulticast (fdb : FilteringDatabase) (frame : RelayFrame) : Prop :=
  ∀ ts ports, fdb.operFdb frame.dest = some (ts, ports) →
    (ports.filter fun i => i ≠ frame.arrivalInterfaceId).Nodup ∧
      ∀ i ∈ ports, i ≠ frame.arrivalInterfaceId → Open fdb i

/-- the entry of an address that is not its own source, if it is live and has one interface: neither the
one the frame came from nor a blocked one -/
def ClearUnicast (fdb : FilteringDatabase) (frame : RelayFrame) : Prop :=
  (frame.dest = frame.src → fdb.live frame.time frame.time = true →
    frame.arrivalInterfaceId = -1) ∧
  (frame.dest ≠ frame.src → ∀ ts port, fdb.operFdb frame.dest = some (ts, [port]) →
    fdb.live ts frame.time = true → port ≠ -1 → port ≠ frame.arrivalInterfaceId ∧ Open fdb port)

/-- the table sends the frame where it may go -/
def Clear (fdb : FilteringDatabase) (frame : RelayFrame) : Prop :=
  frame.dest.isBroadcast = false →
    (frame.dest.isMulticast = true → ClearMulticast fdb frame) ∧
    (frame.dest.isMulticast = false → ClearUnicast fdb frame)

theorem excludes_single {arrival port : Int} :
    Excludes fdb arrival [port] ↔ port ≠ arrival ∧ Open fdb port := by
  constructor
  · rintro ⟨_, ha, hb⟩
    exact ⟨fun h => ha (h ▸ List.mem_cons_self), hb port List.mem_cons_self⟩
  · rintro ⟨hne, ho⟩
    refine ⟨List.nodup_singleton port, fun h => hne (List.mem_singleton.mp h).symm, fun i hi => ?_⟩
    rw [List.mem_singleton.mp hi]
    exact ho

theorem excludes_filter {arrival : Int} {ports : List Int} :
    Excludes fdb arrival (ports.filter fun i => i ≠ arrival) ↔
      (ports.filter fun i => i ≠ arrival).Nodup ∧ ∀ i ∈ ports, i ≠ arrival → Open fdb i := by
  constructor
  · rintro ⟨hn, _, hb⟩
    exact ⟨hn, fun i hi hne => hb i (List.mem_filter.mpr ⟨hi, decide_eq_true hne⟩)⟩
  · rintro ⟨hn, ho⟩
    refine ⟨hn, fun h => ?_, fun i hi => ?_⟩
    · exact of_decide_eq_true (List.mem_filter.mp h).2 rfl
    · obtain ⟨hmem, hne⟩ := List.mem_filter.mp hi
      exact ho i hmem (of_decide_eq_true hne)

/-- the fallback never sends a frame where it may not go -/
theorem broadcast_forwards {d : FilteringDatabase} (hi : d.ifTable = fdb.ifTable)
    (hb : d.blockedPorts = fdb.blockedPorts) (arrival : Int) :
    ∃ sent, processBroadcast d arrival = .ok sent ∧ Excludes fdb arrival sent := by
  obtain ⟨sent, hs, hex⟩ := processBroadcast_excludes d arrival
  refine ⟨sent, hs, hex.once, hex.arrival, fun i hmem => ?_⟩
  have ho := hex.blocked i hmem
  unfold Open isInterfaceBlocked at ho ⊢
  rw [← hi, ← hb]
  exact ho

/-- the exclusions of what was sent, over the outcome of a function -/
def Sends (fdb : FilteringDatabase) (arrival : Int) (r : Sim (List Int × FilteringDatabase)) : Prop :=
  ∃ sent fdb', r = .ok (sent, fdb') ∧ Excludes fdb arrival sent

theorem sends_ok {arrival : Int} {sent : List Int} {d : FilteringDatabase} :
    Sends fdb arrival (.ok (sent, d)) ↔ Excludes fdb arrival sent := by
  constructor
  · rintro ⟨sent', d', h, hex⟩
    cases h
    exact hex
  · intro hex
    exact ⟨sent, d, rfl, hex⟩

theorem sends_broadcast {d : FilteringDatabase} (hi : d.ifTable = fdb.ifTable)
    (hb : d.blockedPorts = fdb.blockedPorts) (arrival : Int) :
    Sends fdb arrival (do
      let sent ← processBroadcast d arrival
      return (sent, d)) := by
  obtain ⟨sent, hs, hex⟩ := broadcast_forwards hi hb arrival
  exact ⟨sent, d, bind_ok.mpr ⟨sent, hs, rfl⟩, hex⟩

theorem processMulticast_iff {frame : RelayFrame} (hm : frame.dest.isMulticast = true) :
    Sends fdb frame.arrivalInterfaceId
        (processMulticast fdb frame.dest frame.arrivalInterfaceId frame.time) ↔
      ClearMulticast fdb frame := by
  -- the interfaces are the same whether the entry is live or erased
  have hsame : ∀ (ports : List Int) (d : FilteringDatabase), d.ifTable = fdb.ifTable →
      d.blockedPorts = fdb.blockedPorts → (Sends fdb frame.arrivalInterfaceId
        (if ports.length = 0 then do
            let sent ← processBroadcast d frame.arrivalInterfaceId
            return (sent, d)
          else return (ports.filter fun i => i ≠ frame.arrivalInterfaceId, d)) ↔
      (ports.filter fun i => i ≠ frame.arrivalInterfaceId).Nodup ∧
        ∀ i ∈ ports, i ≠ frame.arrivalInterfaceId → Open fdb i) := by
    intro ports d hi hb
    by_cases hl : ports.length = 0
    · rw [if_pos hl, List.length_eq_zero_iff.mp hl]
      exact iff_of_true (sends_broadcast hi hb _) ⟨List.nodup_nil, nofun⟩
    · rw [if_neg hl]
      exact sends_ok.trans excludes_filter
  have hclear : ∀ {ts ports}, fdb.operFdb frame.dest = some (ts, ports) →
      (ClearMulticast fdb frame ↔ (ports.filter fun i => i ≠ frame.arrivalInterfaceId).Nodup ∧
        ∀ i ∈ ports, i ≠ frame.arrivalInterfaceId → Open fdb i) := by
    intro ts ports he
    constructor
    · intro h
      exact h ts ports he
    · intro h ts' ports' he'
      rw [he] at he'
      cases he'
      exact h
  unfold processMulticast
  obtain ⟨ts, ports, he, _, hget⟩ | ⟨ts, ports, he, _, hget⟩ | ⟨he, hget⟩ :=
    getDestInterfaceIds_cases (d := fdb) hm frame.time
  · rw [hget, hclear he]
    exact hsame ports (fdb.refresh frame.dest frame.time ports) rfl rfl
  · rw [hget, hclear he]
    exact hsame ports (fdb.erase frame.dest) rfl rfl
  · rw [hget]
    refine iff_of_true (sends_broadcast rfl rfl _) fun ts ports h => ?_
    rw [he] at h
    cases h

theorem processUnicast_iff {frame : RelayFrame} :
    Sends fdb frame.arrivalInterfaceId
        (processUnicast fdb frame.dest frame.src frame.arrivalInterfaceId frame.time) ↔
      ClearUnicast fdb frame := by
  generalize hd : learn fdb frame.src frame.arrivalInterfaceId frame.time = d
  have hi : d.ifTable = fdb.ifTable := by rw [← hd]; rfl
  have hb : d.blockedPorts = fdb.blockedPorts := by rw [← hd]; rfl
  have hlive : ∀ ts t, d.live ts t = fdb.live ts t := fun ts t => by rw [← hd]; rfl
  -- what is found after learning
  have hfound : ClearUnicast fdb frame ↔ ∀ ts port, d.operFdb frame.dest = some (ts, [port]) →
      d.live ts frame.time = true → port ≠ -1 → port ≠ frame.arrivalInterfaceId ∧ Open fdb port := by
    unfold ClearUnicast
    by_cases heq : frame.dest = frame.src
    · have he : d.operFdb frame.dest = some (frame.time, [frame.arrivalInterfaceId]) := by
        rw [← hd, heq]
        exact Function.update_self _ _ _
      rw [he]
      constructor
      · rintro ⟨h, _⟩ ts port hs hl hne
        cases hs
        exact absurd (h heq ((hlive _ _).symm.trans hl)) hne
      · intro h
        refine ⟨fun _ hl => ?_, fun hne => absurd heq hne⟩
        by_contra hne
        exact (h _ _ rfl ((hlive _ _).trans hl) hne).1 rfl
    · have he : d.operFdb frame.dest = fdb.operFdb frame.dest := by
        rw [← hd]
        exact Function.update_of_ne heq _ _
      rw [he]
      constructor
      · rintro ⟨_, h⟩ ts port hs hl
        exact h heq ts port hs ((hlive _ _).symm.trans hl)
      · intro h
        exact ⟨fun h' => absurd h' heq, fun _ ts port hs hl =>
          h ts port hs ((hlive _ _).trans hl)⟩
  rw [hfound]
  unfold processUnicast
  rw [hd]
  have hnone : ∀ d' : FilteringDatabase, d'.ifTable = d.ifTable → d'.blockedPorts = d.blockedPorts →
      Sends fdb frame.arrivalInterfaceId (do
        let sent ← processBroadcast d' frame.arrivalInterfaceId
        return (sent, d')) := fun d' h1 h2 => sends_broadcast (h1.trans hi) (h2.trans hb) _
  obtain ⟨ts, port, he, hl, hget⟩ | ⟨ts, port, he, hl, hget⟩ | ⟨hne, hget⟩ :=
    getDestInterfaceId_cases d frame.dest frame.time
  · rw [hget]
    dsimp only
    by_cases hp : port = -1
    · rw [if_pos hp]
      refine iff_of_true (hnone _ rfl rfl) fun ts' port' he' _ hne => ?_
      rw [he] at he'
      cases he'
      exact absurd hp hne
    · rw [if_neg hp, sends_ok, excludes_single]
      constructor
      · intro h ts' port' he' _ _
        rw [he] at he'
        cases he'
        exact h
      · intro h
        exact h ts port he hl hp
  · rw [hget]
    refine iff_of_true (hnone _ rfl rfl) fun ts' port' he' hl' _ => ?_
    rw [he] at he'
    cases he'
    exact absurd hl' (Bool.eq_false_iff.mp hl)
  · rw [hget]
    exact iff_of_true (hnone _ rfl rfl) fun ts' port' he' => absurd he' (hne ts' port')

theorem forwards_iff (fdb : FilteringDatabase) (frame : RelayFrame) :
    Forwards fdb frame ↔ Clear fdb frame := by
  unfold Forwards Clear handleMessage
  cases hbroad : frame.dest.isBroadcast with
  | true =>
    rw [if_pos rfl]
    exact iff_of_true (sends_broadcast rfl rfl _) nofun
  | false =>
    rw [if_neg Bool.false_ne_true]
    cases hmulti : frame.dest.isMulticast with
    | true =>
      rw [if_pos rfl]
      refine (processMulticast_iff hmulti).trans ⟨fun h _ => ⟨fun _ => h, nofun⟩, fun h => ?_⟩
      exact (h rfl).1 rfl
    | false =>
      rw [if_neg Bool.false_ne_true]
      refine processUnicast_iff.trans ⟨fun h _ => ⟨nofun, fun _ => h⟩, fun h => ?_⟩
      exact (h rfl).2 rfl

/-- **Every frame of a run is forwarded within the exclusions exactly if the table sends every one
where it may go.** -/
theorem forwarding_rule (fdb : FilteringDatabase) (frames : List RelayFrame) :
    Meets step Forwards fdb frames ↔ Meets step Clear fdb frames := by
  constructor
  · exact Meets.mono fun d frame => (forwards_iff d frame).mp
  · exact Meets.mono fun d frame => (forwards_iff d frame).mpr

theorem not_forwards {frame : RelayFrame} {sent : List Int}
    (h : (handleMessage fdb frame).map Prod.fst = .ok sent)
    (hn : ¬Excludes fdb frame.arrivalInterfaceId sent) : ¬Forwards fdb frame := by
  rintro ⟨sent', fdb', hs, hex⟩
  rw [hs] at h
  cases h
  exact hn hex

/-- three ports, the last one blocked, and rules for two stations and a group -/
def threePorts : Sim FilteringDatabase :=
  (new false 0 ⟨[⟨100, 0⟩, ⟨101, 1⟩, ⟨102, 2⟩], threeInterfaces_distinct⟩).loadDatabase (some ⟨some
    ⟨some ⟨[⟨some "00-00-00-00-00-04", some "1", none⟩,
        ⟨some "00-00-00-00-00-05", some "2", none⟩],
      [⟨some "01:00:00:00:00:01", some "1 1 2", none⟩]⟩, some ⟨some "2"⟩⟩⟩)

/-- A frame goes back to where it came from, one goes to a blocked port, and one goes to a port twice. -/
theorem forwarding_violated : ∃ d, threePorts = .ok d ∧ ¬Forwards d ⟨4, 9, 101, 0⟩ ∧
    ¬Forwards d ⟨5, 9, 100, 0⟩ ∧ ¬Forwards d ⟨0x010000000001, 9, 100, 0⟩ := by
  obtain ⟨d, hd, hback, hblocked, hport, htwice⟩ : ∃ d, threePorts = .ok d ∧
      (handleMessage d ⟨4, 9, 101, 0⟩).map Prod.fst = .ok [101] ∧
      (handleMessage d ⟨5, 9, 100, 0⟩).map Prod.fst = .ok [102] ∧
      d.isInterfaceBlocked 102 = .ok true ∧
      (handleMessage d ⟨0x010000000001, 9, 100, 0⟩).map Prod.fst = .ok [101, 101, 102] :=
    exists_of_any (by decide +kernel)
  refine ⟨d, hd, not_forwards hback fun h => ?_, not_forwards hblocked fun h => ?_,
    not_forwards htwice fun h => ?_⟩
  · exact h.arrival List.mem_cons_self
  · have hopen : d.isInterfaceBlocked 102 = .ok false := h.blocked 102 List.mem_cons_self
    rw [hport] at hopen
    cases hopen
  · exact absurd h.once (by decide)

end ForwardingRelayUnit
end Nesting
