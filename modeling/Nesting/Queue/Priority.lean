import Mathlib.Data.Prod.Lex
import Nesting.Queue.Flow

/-!
# The packets go out by priority

* `lastIdx_le`, `schedulePacket_le`   the gate that is asked is the greatest of those that have a packet;
* `Column.tickets`    the requests under way in a column, and the packets that they lead to;
* `Choice`            a gate that was asked, in view of all gates, and the packet at the front of its queue;
* `ServedNetwork`     the network with its choices;
* `ByPriority`        the invariant;
* `served_by_priority`   **every run**: the MAC gets the packets that were chosen, in this order.
-/

set_option linter.unusedVariables false

namespace Nesting

open Lib EtherMac

/-! ## the gate that is asked -/

namespace GateView

/-- express before preemptable, then the higher index -/
def priority (g : GateView) (i : Nat) : Bool ×ₗ Nat := toLex (g.isExpressQueue, i)

end GateView

namespace TransmissionSelection

variable {ts : TransmissionSelection} {onHold : Bool} {p : GateView → Bool}
  {tGates : List GateView} {i j : Nat} {g x : GateView}

theorem pairwise_zipIdx (tGates : List GateView) :
    tGates.zipIdx.Pairwise fun a b => a.2 < b.2 := by
  have h : (tGates.zipIdx.map Prod.snd).Pairwise (· < ·) := by
    rw [List.zipIdx_map_snd]
    exact List.pairwise_lt_range'
  exact List.pairwise_map.mp h

/-- the last gate with a property has the greatest index -/
theorem lastIdx_le (h : lastIdx p tGates = some i) (hj : tGates[j]? = some g) (hp : p g = true) :
    j ≤ i := by
  unfold lastIdx at h
  obtain ⟨⟨x, k⟩, hx, rfl⟩ := Option.map_eq_some_iff.mp h
  obtain ⟨front, hfront⟩ := List.getLast?_eq_some_iff.mp hx
  have hmem : (g, j) ∈ tGates.zipIdx.filter fun g => p g.1 :=
    List.mem_filter.mpr ⟨List.mem_zipIdx_iff_getElem?.mpr hj, hp⟩
  have hsorted := (pairwise_zipIdx tGates).filter fun g => p g.1
  rw [hfront] at hmem hsorted
  obtain hmem | hmem := List.mem_append.mp hmem
  · exact le_of_lt ((List.pairwise_append.mp hsorted).2.2 _ hmem _ (List.mem_singleton_self _))
  · cases List.mem_singleton.mp hmem
    exact le_rfl

/-- **The gate that is asked comes first** among those that have a packet. -/
theorem schedulePacket_le (h : ts.schedulePacket onHold = some i) (hx : ts.tGates[i]? = some x)
    (hj : ts.tGates[j]? = some g) (hg : g.isEmpty onHold = false) :
    g.priority j ≤ x.priority i := by
  unfold GateView.priority
  rw [Prod.Lex.toLex_le_toLex]
  unfold schedulePacket at h
  split at h
  · rename_i k hk
    cases h
    obtain ⟨x', hx', hp⟩ := lastIdx_some hk
    cases hx.symm.trans hx'
    have hexpress : x.isExpressQueue = true := (Bool.and_eq_true_iff.mp hp).1
    rw [hexpress]
    cases he : g.isExpressQueue with
    | true => exact .inr ⟨rfl, lastIdx_le hk hj (by simp [he, hg])⟩
    | false => exact .inl Bool.false_lt_true
  · rename_i hnone
    have hplain : ∀ y ∈ ts.tGates, y.isEmpty onHold = false → y.isExpressQueue = false := by
      intro y hy hne
      have := lastIdx_none hnone y hy
      simpa [hne] using this
    obtain ⟨x', hx', hp⟩ := lastIdx_some h
    cases hx.symm.trans hx'
    rw [hplain x (List.mem_of_getElem? hx) (by simpa using hp),
      hplain g (List.mem_of_getElem? hj) hg]
    exact .inr ⟨rfl, lastIdx_le h hj (by simp [hg])⟩

end TransmissionSelection

/-! ## requests and packets on their way to the MAC -/

/-- a request, or the packet that it leads to until the MAC has it -/
def ColumnMsg.ticket : ColumnMsg → Bool
  | .macPacket _ => true
  | m => m.token

namespace Column

variable {cfg : ShaperConfig} {now : SimTime} {onHold notify : Bool} {c c' : Column}
  {m : ColumnMsg} {l : List ColumnMsg}

def tickets (c : Column) : Nat := c.messages.countP ColumnMsg.ticket

theorem tickets_cons (h : c.messages = m :: l) :
    c.tickets = l.countP ColumnMsg.ticket + if m.ticket = true then 1 else 0 := by
  unfold tickets
  rw [h, List.countP_cons]

/-- what is posted at the end of a list without tickets -/
theorem countP_ticket_post (h : l.countP ColumnMsg.ticket = 0) :
    (post m l).countP ColumnMsg.ticket = if m.ticket = true then 1 else 0 := by
  have hfilter : (l.filter fun x => x ≠ m).countP ColumnMsg.ticket = 0 :=
    Nat.le_zero.mp (h ▸ List.filter_sublist.countP_le)
  unfold post
  rw [List.countP_append, List.countP_singleton, hfilter, Nat.zero_add]

theorem countP_ticket_notify (notified : Bool) :
    (if notified = true then post .gatePacketEnqueued l else l).countP ColumnMsg.ticket =
      l.countP ColumnMsg.ticket := by
  cases notified with
  | true => exact countP_post rfl
  | false => rfl

/-- **A message that the column handles** passes its ticket on, if it has one. -/
theorem tickets_handleMessage (hl : c.messages = m :: l) (hone : c.tickets ≤ 1)
    (hs : { c with messages := l }.handleMessage cfg now onHold m = .ok (c', notify)) :
    c'.tickets = c.tickets := by
  rw [tickets_cons hl] at hone ⊢
  have hpost : ∀ {t : ColumnMsg}, m.ticket = true → t.ticket = true →
      (post t l).countP ColumnMsg.ticket = l.countP ColumnMsg.ticket + 1 := by
    intro t hm ht
    rw [if_pos hm] at hone
    rw [countP_ticket_post (by omega), if_pos ht]
    omega
  have hsent : ∀ {t : ColumnMsg}, t.ticket = true →
      (l ++ [t]).countP ColumnMsg.ticket = l.countP ColumnMsg.ticket + 1 := by
    intro t ht
    simp [ht]
  cases m with
  | gateStateChanged =>
    cases hs
    exact countP_post rfl
  | gatePacketEnqueued =>
    cases hs
    rfl
  | gateRequest =>
    obtain ⟨_, _, _, rfl⟩ := gateRequest_ok hs
    exact hpost rfl rfl
  | gateStateChangedMsg =>
    obtain ⟨_, ⟨_, rfl⟩ | ⟨s, s', _, _, rfl⟩⟩ := gateStateChangedMsg_ok hs
    · rfl
    · rfl
  | packetEnqueuedMsg =>
    obtain ⟨_, ⟨_, rfl⟩ | ⟨s, s', notified, _, _, rfl⟩⟩ := packetEnqueuedMsg_ok hs
    · exact countP_post rfl
    · exact countP_ticket_notify notified
  | requestPacketMsg =>
    cases hs
    exact hpost rfl rfl
  | queueRequest =>
    obtain ⟨_, packet, packets, capacity, _, rfl⟩ := queueRequest_ok hs
    exact hsent rfl
  | packet packet =>
    obtain ⟨_, shaper, rfl⟩ := packet_ok hs
    exact hsent rfl
  | gatePacket packet =>
    cases hs
    exact hsent rfl
  | selectionPacket packet => cases hs
  | macPacket packet => cases hs

/-- the same tickets, and packets only behind the others -/
structure Keeps (c c' : Column) : Prop where
  tickets : c'.tickets = c.tickets
  held : c.held <+: c'.held

theorem Keeps.refl (c : Column) : Keeps c c := ⟨rfl, List.prefix_refl _⟩

theorem SamePackets.keeps (h : SamePackets c c') (ht : c'.tickets = c.tickets) : Keeps c c' :=
  ⟨ht, by rw [h.held]⟩

theorem keeps_enqueue (c : Column) (packet : Packet) : Keeps c (c.enqueue packet) := by
  refine ⟨?_, ?_⟩
  · unfold tickets
    rw [(enqueue_same c packet).2, countP_post rfl]
  · rw [(held_enqueue c packet).2]
    exact List.prefix_append _ _

theorem keeps_setGateState {gateOpen release : Bool} :
    Keeps c (c.setGateState onHold gateOpen release).1 := by
  refine samePackets_setGateState.keeps ?_
  unfold setGateState
  split
  · exact countP_post rfl
  · rfl

/-- a gate that is not empty has a packet in its queue -/
theorem packets_of_isEmpty (h : c.isEmpty onHold = false) :
    ∃ packet packets, c.packets = packet :: packets := by
  have hq := queue_of_algorithm (isEmpty_eq_false.mp h).2.2
  cases hp : c.packets with
  | nil =>
    unfold queue at hq
    rw [hp] at hq
    cases hq
  | cons packet packets => exact ⟨packet, packets, rfl⟩

/-- nothing is under way: the front of the queue is the next -/
theorem held_of_quiet (h : c.messages = []) :
    c.held = c.packets.map (Packet.tagged c.isExpressQueue) := by
  unfold held underWay
  rw [h]
  rfl

end Column

/-! ## choices -/

/-- a gate is asked for a packet -/
structure Choice (numGates : Nat) where
  /-- the gates as `schedulePacket` sees them -/
  tGates : List GateView
  onHold : Bool
  gate : Fin numGates
  /-- the packet at the front of its queue, as it will be passed on -/
  packet : Packet
  deriving DecidableEq

namespace Choice

variable {numGates : Nat}

def entry (c : Choice numGates) : Fin numGates × Packet := (c.gate, c.packet)

/-- the gate has a packet, and every gate that has one comes behind it -/
def Best (c : Choice numGates) : Prop :=
  ∃ x, c.tGates[c.gate.val]? = some x ∧ x.isEmpty c.onHold = false ∧
    ∀ j (g : GateView), c.tGates[j]? = some g → g.isEmpty c.onHold = false → g.priority j ≤ x.priority c.gate

end Choice

namespace Network

variable {numGates : Nat} {cfg : NetworkConfig numGates} {n n' : Network numGates}
  {i : Fin numGates} {c : Column}

/-- the gates that a step has asked, with what it saw -/
def choices (n n' : Network numGates) : List (Choice numGates) :=
  (n'.selected.drop n.selected.length).filterMap fun g =>
    (n.columns g).packets.head?.map fun packet =>
      ⟨n.tGates, n.mac.onHold, g, packet.tagged (n.columns g).isExpressQueue⟩

theorem choices_of_selected (h : n'.selected = n.selected) : choices n n' = [] := by
  unfold choices
  rw [h, List.drop_length]
  rfl

/-- no gate is asked -/
structure Keeps (n n' : Network numGates) : Prop where
  columns : ∀ i, Column.Keeps (n.columns i) (n'.columns i)
  selected : n'.selected = n.selected

theorem Keeps.of_columns (hc : n'.columns = n.columns) (hs : n'.selected = n.selected) :
    Keeps n n' := by
  refine ⟨fun i => ?_, hs⟩
  rw [hc]
  exact .refl _

theorem keeps_setColumn (h : Column.Keeps (n.columns i) c) : Keeps n (n.setColumn i c) :=
  ⟨forall_setColumn (P := fun j c => Column.Keeps (n.columns j) c) h fun j => .refl _, rfl⟩

theorem Keeps.notify (h : Keeps n n') (notified : Bool) : Keeps n (n'.notify notified) := by
  cases notified with
  | true => exact ⟨h.columns, h.selected⟩
  | false => exact h

theorem keeps_withMac {r : Sim EtherMac} (h : n.withMac r = .ok n') : Keeps n n' := by
  obtain ⟨mac, _, h⟩ := bind_ok.mp h
  cases h
  exact .of_columns rfl rfl

/-- the tickets under way: none, or one, for a packet that is the next of its column -/
def Awaits (n : Network numGates) : Option (Fin numGates × Packet) → Prop
  | none => ∀ i, (n.columns i).tickets = 0
  | some (i, packet) => (n.columns i).tickets = 1 ∧ (n.columns i).held.head? = some packet ∧
    ∀ j ≠ i, (n.columns j).tickets = 0

theorem Awaits.tickets_le {awaited : Option (Fin numGates × Packet)} (h : n.Awaits awaited)
    (i : Fin numGates) : (n.columns i).tickets ≤ 1 := by
  cases awaited with
  | none => exact (h i).trans_le (by omega)
  | some entry =>
    obtain ⟨g, packet⟩ := entry
    obtain ⟨hone, _, hother⟩ := h
    by_cases hi : i = g
    · subst hi
      exact hone.le
    · exact (hother i hi).trans_le (by omega)

/-- without messages nothing is under way -/
theorem Awaits.of_quiet {awaited : Option (Fin numGates × Packet)} (h : n.Awaits awaited)
    (hempty : ∀ i, (n.columns i).messages = []) : awaited = none := by
  cases awaited with
  | none => rfl
  | some entry =>
    have hone : (n.columns entry.1).tickets = 1 := h.1
    unfold Column.tickets at hone
    rw [hempty entry.1] at hone
    cases hone

theorem Awaits.keeps {awaited : Option (Fin numGates × Packet)} (h : n.Awaits awaited)
    (hk : Keeps n n') : n'.Awaits awaited := by
  cases awaited with
  | none =>
    intro i
    rw [(hk.columns i).tickets]
    exact h i
  | some entry =>
    obtain ⟨g, packet⟩ := entry
    obtain ⟨hone, hhead, hother⟩ := h
    refine ⟨?_, ?_, fun j hj => ?_⟩
    · rw [(hk.columns g).tickets]
      exact hone
    · obtain ⟨rest, hrest⟩ := (hk.columns g).held
      rw [← hrest, List.head?_append, hhead]
      rfl
    · rw [(hk.columns j).tickets]
      exact hother j hj

/-- what a choice leaves -/
structure Chooses (n : Network numGates) (c : Choice numGates) (n' : Network numGates) : Prop where
  best : c.Best
  choices : choices n n' = [c]
  selected : n'.selected = n.selected ++ [c.gate]
  awaits : n'.Awaits (some c.entry)

/-- `schedulePacket` asks the first of the gates that have a packet, if there is one -/
theorem select_chooses {ts : TransmissionSelection} (hempty : ∀ i, (n.columns i).messages = []) :
    Keeps n ((n.withSelection ts).select (n.selection.schedulePacket n.mac.onHold)) ∨
      ∃ c, Chooses n c ((n.withSelection ts).select (n.selection.schedulePacket n.mac.onHold)) := by
  cases hgate : n.selection.schedulePacket n.mac.onHold with
  | none => exact .inl (.of_columns rfl rfl)
  | some k =>
    right
    obtain ⟨x, hx, hne⟩ := TransmissionSelection.schedulePacket_some hgate
    obtain ⟨hlt, hview⟩ := List.getElem?_eq_some_iff.mp (show n.tGates[k]? = some x from hx)
    have hlt : k < numGates := by
      rw [tGates, List.length_ofFn] at hlt
      exact hlt
    have hnonempty : (n.columns ⟨k, hlt⟩).isEmpty n.mac.onHold = false := by
      simp only [tGates, List.getElem_ofFn] at hview
      rw [← hview] at hne
      exact hne
    obtain ⟨packet, packets, hp⟩ := Column.packets_of_isEmpty hnonempty
    have hsel : (n.withSelection ts).select (some k) = { (n.withSelection ts).setColumn ⟨k, hlt⟩
        { n.columns ⟨k, hlt⟩ with messages := post .gateRequest (n.columns ⟨k, hlt⟩).messages } with
        selected := n.selected ++ [⟨k, hlt⟩] } := dif_pos hlt
    have hcolumns : ∀ c, ((n.withSelection ts).setColumn ⟨k, hlt⟩ c).columns =
        (n.setColumn ⟨k, hlt⟩ c).columns := fun c => rfl
    refine ⟨⟨n.tGates, n.mac.onHold, ⟨k, hlt⟩,
      packet.tagged (n.columns ⟨k, hlt⟩).isExpressQueue⟩, ?_, ?_, ?_, ?_⟩
    · exact ⟨x, hx, hne, fun j g hj hg => TransmissionSelection.schedulePacket_le hgate hx hj hg⟩
    · rw [hsel]
      unfold choices
      rw [List.drop_left, List.filterMap_cons, hp]
      rfl
    · rw [hsel]
    · have htickets : ∀ j, (n.columns j).tickets = 0 := by
        intro j
        unfold Column.tickets
        rw [hempty j]
        rfl
      rw [hsel]
      refine ⟨?_, ?_, fun j hj => ?_⟩
      · show (((n.withSelection ts).setColumn _ _).columns ⟨k, hlt⟩).tickets = 1
        rw [hcolumns, setColumn_self]
        exact Column.countP_ticket_post (htickets _)
      · show (((n.withSelection ts).setColumn _ _).columns ⟨k, hlt⟩).held.head? = some _
        rw [hcolumns, setColumn_self, ((Column.samePackets_post fun _ => rfl).held),
          Column.held_of_quiet (hempty _), hp]
        rfl
      · show (((n.withSelection ts).setColumn _ _).columns j).tickets = 0
        rw [hcolumns, setColumn_of_ne hj]
        exact htickets j

theorem handleMessage_macPacket {packet : Packet} {l : List ColumnMsg}
    (hl : (n.columns i).messages = .macPacket packet :: l) (hs : n.handleMessage cfg i = .ok n') :
    n'.columns = (n.setColumn i { n.columns i with messages := l }).columns ∧
      n'.selected = n.selected := by
  unfold handleMessage at hs
  rw [hl] at hs
  dsimp only at hs
  split at hs
  · cases hs
  · exact ⟨withMac_columns hs, (keeps_withMac hs).selected⟩

/-- the MAC is given the packet that is awaited -/
theorem hands_awaited {awaited : Option (Fin numGates × Packet)} {packet : Packet}
    {l : List ColumnMsg} (h : n.Awaits awaited) (hl : (n.columns i).messages = .macPacket packet :: l)
    (hs : n.handleMessage cfg i = .ok n') :
    awaited = some (i, packet) ∧ n'.Awaits none := by
  have hticket : (n.columns i).tickets = l.countP ColumnMsg.ticket + 1 := Column.tickets_cons hl
  obtain ⟨_, hheld, _⟩ := held_macPacket hl hs
  obtain ⟨hcolumns, _⟩ := handleMessage_macPacket hl hs
  cases awaited with
  | none =>
    have := h i
    omega
  | some entry =>
    obtain ⟨g, packet'⟩ := entry
    obtain ⟨hone, hhead, hother⟩ := h
    obtain rfl : g = i := by
      by_contra hne
      have := hother i (Ne.symm hne)
      omega
    rw [hheld] at hhead
    cases hhead
    refine ⟨rfl, fun j => ?_⟩
    rw [hcolumns]
    by_cases hj : j = g
    · subst hj
      rw [setColumn_self]
      show l.countP ColumnMsg.ticket = 0
      omega
    · rw [setColumn_of_ne hj]
      exact hother j hj

/-- `TransmissionSelection` passes the packet on to the MAC -/
theorem keeps_selectionPacket {packet : Packet} {l : List ColumnMsg}
    (hl : (n.columns i).messages = .selectionPacket packet :: l)
    (hs : n.handleMessage cfg i = .ok n') : Keeps n n' := by
  have hsame := samePackets_selectionPacket hl hs
  have hc := handleMessage_selectionPacket hl hs
  have hticket : (n'.columns i).tickets = (n.columns i).tickets := by
    rw [hc, Function.update_self, Column.tickets_cons hl]
    unfold Column.tickets
    dsimp only
    rw [List.countP_append]
    rfl
  refine ⟨fun j => (hsame j).keeps ?_, ?_⟩
  · by_cases hj : j = i
    · subst hj
      exact hticket
    · rw [hc, Function.update_of_ne hj]
  · obtain ⟨packet, packet', l', _, rfl⟩ | ⟨packet, l', hl', _⟩ | ⟨m, l', c, notified, hl', hc', _⟩ :=
      handleMessage_ok hs
    · rfl
    · cases hl.symm.trans hl'
    · cases hl.symm.trans hl'
      cases hc'

/-- what a step does to the choices and to what the MAC is given -/
inductive Serves (n : Network numGates) (e : NetworkEvent numGates) (n' : Network numGates) : Prop
  | keeps (h : Keeps n n')
      (he : ∀ i packet l, e = .handleMessage i → (n.columns i).messages ≠ .macPacket packet :: l)
  | chooses (c : Choice numGates) (h : Chooses n c n') (hempty : ∀ i, (n.columns i).messages = [])
      (he : ∀ i, e ≠ .handleMessage i)
  | hands (i : Fin numGates) (packet : Packet) (l : List ColumnMsg) (he : e = .handleMessage i)
      (hl : (n.columns i).messages = .macPacket packet :: l)
      (h : ∀ awaited, n.Awaits awaited → awaited = some (i, packet) ∧ n'.Awaits none)
      (hsel : n'.selected = n.selected)

theorem serves_handleMessage (hone : (n.columns i).tickets ≤ 1)
    (hs : n.handleMessage cfg i = .ok n') : Serves n (.handleMessage i) n' := by
  obtain ⟨packet, packet', l, hl, _⟩ | ⟨packet, l, hl, _⟩ | ⟨m, l, c, notified, hl, hc, rfl⟩ :=
    handleMessage_ok hs
  · refine .keeps (keeps_selectionPacket hl hs) fun j packet' l' he hl' => ?_
    cases he
    cases hl.symm.trans hl'
  · exact .hands i packet l rfl hl (fun awaited h => hands_awaited h hl hs)
      (handleMessage_macPacket hl hs).2
  · have hkeeps : Column.Keeps (n.columns i) c :=
      (Column.samePackets_handleMessage hl hc).keeps (Column.tickets_handleMessage hl hone hc)
    refine .keeps ((keeps_setColumn hkeeps).notify notified) fun j packet l' he hl' => ?_
    cases he
    cases hl.symm.trans hl'
    cases hc

theorem serves_step {e : NetworkEvent numGates} (hone : ∀ i, (n.columns i).tickets ≤ 1)
    (hs : n.step cfg e = .ok n') : Serves n e n' := by
  cases e with
  | advance t =>
    change ite _ _ _ = _ at hs
    split at hs
    · cases hs
      exact .keeps (.of_columns rfl rfl) nofun
    · cases hs
  | macTimer timer =>
    change ite _ _ _ = _ at hs
    split at hs
    · exact .keeps (keeps_withMac hs) nofun
    · cases hs
  | hold delay => exact .keeps (keeps_withMac hs) nofun
  | release => exact .keeps (keeps_withMac hs) nofun
  | processPauseCommand pauseUnits => exact .keeps (keeps_withMac hs) nofun
  | enqueue i packet =>
    cases hs
    exact .keeps (keeps_setColumn (Column.keeps_enqueue _ packet)) nofun
  | setGateState i gateOpen release =>
    cases hs
    exact .keeps ((keeps_setColumn Column.keeps_setGateState).notify _) nofun
  | setMaxTransferableBits i maxBits =>
    cases hs
    exact .keeps (keeps_setColumn ⟨rfl, List.prefix_refl _⟩) nofun
  | handleMessage i => exact serves_handleMessage (hone i) hs
  | endSpendingCredit i =>
    obtain ⟨c, hc, hs⟩ := bind_ok.mp hs
    cases hs
    refine .keeps (keeps_setColumn ((Column.samePackets_endSpendingCredit hc).keeps ?_)) nofun
    obtain ⟨s, s', notified, _, _, _, rfl⟩ := Column.handleEndSpendingCredit_ok hc
    exact Column.countP_ticket_notify notified
  | reachedZeroCredit i =>
    obtain ⟨c, hc, hs⟩ := bind_ok.mp hs
    cases hs
    refine .keeps (keeps_setColumn ((Column.samePackets_reachedZeroCredit hc).keeps ?_)) nofun
    obtain ⟨s, s', notified, _, _, _, rfl⟩ := Column.handleZeroCreditReached_ok hc
    exact Column.countP_ticket_notify notified
  | requestPacketMsg =>
    change ite _ _ _ = _ at hs
    split at hs
    · rename_i hq
      obtain ⟨⟨ts, gate⟩, hts, hs⟩ := bind_ok.mp hs
      cases hs
      obtain ⟨rfl, _⟩ := TransmissionSelection.handleRequestPacketEvent_ok hts
      have hempty : ∀ i, (n.columns i).messages = [] := fun i => (hq.2.2 i).1
      obtain hk | ⟨c, hc⟩ : Keeps n _ ∨ ∃ c, Chooses n c _ := select_chooses hempty
      · exact .keeps hk nofun
      · exact .chooses c hc hempty nofun
    · cases hs
  | packetEnqueuedMsg =>
    change ite _ _ _ = _ at hs
    split at hs
    · rename_i hq
      have hempty : ∀ i, (n.columns i).messages = [] := fun i => (hq.2.2 i).1
      unfold Network.handlePacketEnqueuedEvent TransmissionSelection.handlePacketEnqueuedEvent at hs
      dsimp only at hs
      split at hs
      · cases hs
        obtain hk | ⟨c, hc⟩ := select_chooses (n := n) hempty
        · exact .keeps hk nofun
        · exact .chooses c hc hempty nofun
      · have hk : Keeps n (n.withSelection { n.selection with packetEnqueuedMsg := false }) :=
          .of_columns rfl rfl
        split at hs
        · have hmac := keeps_withMac hs
          exact .keeps ⟨hmac.columns, hmac.selected⟩ nofun
        · cases hs
          exact .keeps hk nofun
    · cases hs

end Network

/-! ## the network with its choices -/

structure ServedNetwork (numGates : Nat) where
  logged : LoggedNetwork numGates
  choices : List (Choice numGates)

namespace ServedNetwork

variable {numGates : Nat} {cfg : NetworkConfig numGates} {s s' : ServedNetwork numGates}

def start (cfg : NetworkConfig numGates) (preemptedBytesSent : Nat) : ServedNetwork numGates :=
  ⟨.start cfg preemptedBytesSent, []⟩

def step (cfg : NetworkConfig numGates) (s : ServedNetwork numGates) (e : NetworkEvent numGates) :
    Sim (ServedNetwork numGates) := do
  let logged ← s.logged.step cfg e
  return ⟨logged, s.choices ++ s.logged.network.choices logged.network⟩

/-- every gate that was asked was the first, and the MAC was given what was chosen, but for one packet -/
structure ByPriority (s : ServedNetwork numGates) : Prop where
  best : ∀ c ∈ s.choices, c.Best
  selected : s.choices.map Choice.gate = s.logged.network.selected
  answered : ∃ awaited, s.choices.map Choice.entry = s.logged.ledger.handed ++ awaited.toList ∧
    s.logged.network.Awaits awaited

theorem byPriority_start (cfg : NetworkConfig numGates) (preemptedBytesSent : Nat) :
    ByPriority (start cfg preemptedBytesSent) := ⟨nofun, rfl, none, rfl, fun _ => rfl⟩

/-- the packets given to the MAC, but for the step that gives it one -/
theorem handed_record {n : Network numGates} {ledger : PacketLedger numGates}
    {e : NetworkEvent numGates}
    (he : ∀ i packet l, e = .handleMessage i → (n.columns i).messages ≠ .macPacket packet :: l) :
    (ledger.record n e).handed = ledger.handed := by
  unfold PacketLedger.record
  split
  · split
    · rfl
    · rfl
  · split
    · rename_i i _ packet l hl
      exact absurd hl (he i packet l rfl)
    · rfl
  · rfl

theorem byPriority_step {e : NetworkEvent numGates} (h : ByPriority s) (hs : s.step cfg e = .ok s') :
    ByPriority s' := by
  obtain ⟨logged, hlogged, hs⟩ := bind_ok.mp hs
  cases hs
  obtain ⟨n', hn, hlogged⟩ := bind_ok.mp hlogged
  cases hlogged
  obtain ⟨hbest, hselected, awaited, hanswered, hawaits⟩ := h
  cases Network.serves_step hawaits.tickets_le hn with
  | keeps hk he =>
    refine ⟨?_, ?_, awaited, ?_, hawaits.keeps hk⟩ <;> dsimp only <;>
      rw [Network.choices_of_selected hk.selected, List.append_nil]
    · exact hbest
    · exact hselected.trans hk.selected.symm
    · rw [handed_record he]
      exact hanswered
  | chooses c hc hempty he =>
    obtain rfl := hawaits.of_quiet hempty
    refine ⟨?_, ?_, some c.entry, ?_, hc.awaits⟩ <;> dsimp only <;> rw [hc.choices]
    · intro c' hc'
      obtain hc' | hc' := List.mem_append.mp hc'
      · exact hbest c' hc'
      · rw [List.mem_singleton.mp hc']
        exact hc.best
    · rw [List.map_append, hselected, hc.selected]
      rfl
    · rw [List.map_append, hanswered, handed_record fun i _ _ hi => absurd hi (he i)]
      simp
  | hands i packet l he hl hawaited hsel =>
    subst he
    obtain ⟨rfl, hnone⟩ := hawaited awaited hawaits
    refine ⟨?_, ?_, none, ?_, hnone⟩ <;> dsimp only <;>
      rw [Network.choices_of_selected hsel, List.append_nil]
    · exact hbest
    · exact hselected.trans hsel.symm
    · unfold PacketLedger.record
      dsimp only
      rw [hl, hanswered]
      simp

/-- **The packets go out by priority**: in every run, whatever arrives, opens, closes, holds and releases,
each gate that is asked is the first of those that have a packet, express gates before the others and
higher ones before lower ones, and what the MAC is given are, one after another, the packets that were
then at the front of the queues of these gates; only the last one may still be under way. -/
theorem served_by_priority (cfg : NetworkConfig numGates) (preemptedBytesSent : Nat)
    (es : List (NetworkEvent numGates))
    (hr : run (step cfg) (start cfg preemptedBytesSent) es = .ok s) :
    (∀ c ∈ s.choices, c.Best) ∧ s.choices.map Choice.gate = s.logged.network.selected ∧
    ∃ awaited : Option (Fin numGates × Packet),
      s.choices.map Choice.entry = s.logged.ledger.handed ++ awaited.toList ∧
      ((∀ i, (s.logged.network.columns i).messages = []) → awaited = none) := by
  have h : ByPriority s := run_invariant (I := ByPriority)
    (fun s e s' h hs => byPriority_step h hs) (byPriority_start cfg preemptedBytesSent) hr
  obtain ⟨hbest, hselected, awaited, hanswered, hawaits⟩ := h
  exact ⟨hbest, hselected, awaited, hanswered, fun hempty => hawaits.of_quiet hempty⟩

/-- both queues have a packet when the MAC asks -/
def contendingRun (low high : Fin 2) : List (NetworkEvent 2) :=
  Network.arrive low bulkFrame ++ Network.arrive high expressFrame ++ [.requestPacketMsg] ++
  List.replicate 7 (.handleMessage high)

theorem served_by_priority_contendingRun : ∃ s,
    run (step Network.twoQueues) (start Network.twoQueues 0) (contendingRun 0 1) = .ok s ∧
    s.choices.map Choice.entry = [(1, expressFrame)] ∧
    ∃ awaited : Option (Fin 2 × Packet),
      s.choices.map Choice.entry = s.logged.ledger.handed ++ awaited.toList ∧
      ((∀ i, (s.logged.network.columns i).messages = []) → awaited = none) := by
  obtain ⟨s, hs, hp⟩ : ∃ s,
      run (step Network.twoQueues) (start Network.twoQueues 0) (contendingRun 0 1) = .ok s ∧
      s.choices.map Choice.entry = [(1, expressFrame)] := exists_of_any (by decide +kernel)
  exact ⟨s, hs, hp, (served_by_priority Network.twoQueues 0 (contendingRun 0 1) hs).2.2⟩

end ServedNetwork

end Nesting
