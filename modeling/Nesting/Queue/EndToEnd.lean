import Nesting.Mac.Link
import Nesting.Queue.Flow

/-!
# From the queues to the other side of the link

* `SameButSelection`, `macEvent`   the network moves its MAC as the MAC moves, whatever the state of
                       `TransmissionSelection`;
* `step_mac`, `mac_keeps`          so what the MAC keeps by itself it keeps in the network;
* `acceptedFrames`     the frames that the MAC has accepted are those it was given;
* `end_to_end`         **every frame that a queue has taken in** is in its column, in the MAC, or has come up
                       on the other side, in order.
-/

set_option linter.unusedVariables false

namespace Nesting

open Lib

namespace EtherMac

variable {cfg : MacConfig} {s s' t : EtherMac} {e : MacEvent} {packet : Packet}

/-! ## the frames that a MAC accepts -/

def acceptedFrames (s : EtherMac) : List Packet :=
  s.history.filterMap fun r =>
    match r with
    | .accepted packet => some packet
    | _ => none

theorem acceptedFrames_of_history (h : s'.history = s.history) :
    s'.acceptedFrames = s.acceptedFrames := by
  unfold acceptedFrames
  rw [h]

theorem acceptedFrames_snoc {r : MacRecord} (h : s'.history = s.history ++ [r])
    (hr : ∀ packet, r ≠ .accepted packet) : s'.acceptedFrames = s.acceptedFrames := by
  unfold acceptedFrames
  rw [h, List.filterMap_append]
  cases r with
  | accepted packet => exact absurd rfl (hr packet)
  | _ => simp

theorem accepted_eq : s.accepted = s.acceptedFrames.filter fun frame => !frame.express := by
  unfold accepted acceptedFrames
  induction s.history with
  | nil => rfl
  | cons r rs ih =>
    cases r with
    | accepted packet => cases hx : packet.express <;> simp [hx, ih]
    | _ => simpa using ih

theorem acceptedExpress_eq : s.acceptedExpress = s.acceptedFrames.filter Packet.express := by
  unfold acceptedExpress acceptedFrames
  induction s.history with
  | nil => rfl
  | cons r rs ih =>
    cases r with
    | accepted packet => cases hx : packet.express <;> simp [hx, ih]
    | _ => simpa using ih

theorem StartTransmission.acceptedFrames {frame : Packet} (h : StartTransmission cfg s frame s') :
    s'.acceptedFrames = s.acceptedFrames := by
  cases h with
  | express => exact acceptedFrames_snoc rfl nofun
  | new => exact acceptedFrames_snoc rfl nofun
  | resumed => exact acceptedFrames_snoc rfl nofun

theorem ArrivalStep.acceptedFrames (h : ArrivalStep cfg s packet s') :
    s'.acceptedFrames = s.acceptedFrames := by
  have hstore : ({ s with curTxFrame := some packet }.storeOnHold packet).history = s.history :=
    (storeOnHold_fields (s := { s with curTxFrame := some packet }) packet).2.2.2
  cases h with
  | preempting _ _ hp =>
    obtain ⟨_, _, rfl⟩ := preemptCurrentFrame_ok hp
    exact acceptedFrames_of_history rfl
  | inGap => exact acceptedFrames_of_history rfl
  | paused => exact acceptedFrames_of_history hstore
  | sent _ hst =>
    obtain ⟨_, _, _, _, _, hst⟩ := startFrameTransmission_ok hst
    exact hst.acceptedFrames.trans (acceptedFrames_of_history hstore)
  | stray => exact acceptedFrames_of_history rfl

/-- an interface that is up accepts every frame that it does not refuse with an error -/
theorem handleUpperPacket_accepts (hup : cfg.connected = true ∧ cfg.disabled = false)
    (h : s.handleUpperPacket cfg packet = .ok s') :
    s'.acceptedFrames = s.acceptedFrames ++ [packet] := by
  obtain ⟨_, _, h⟩ := bind_ok.mp h
  rw [hup.1, hup.2, if_neg nofun] at h
  obtain ⟨m, hm, h⟩ := bind_ok.mp h
  obtain ⟨msg, rfl, _⟩ := cancelRecheck_ok hm
  rw [(takeUpperPacket_ok h).acceptedFrames]
  unfold acceptedFrames
  simp

theorem handleEndTxPeriod_acceptedFrames (h : s.handleEndTxPeriod cfg = .ok s') :
    s'.acceptedFrames = s.acceptedFrames := by
  unfold handleEndTxPeriod at h
  split at h
  · obtain ⟨m, hm, h⟩ := bind_ok.mp h
    obtain ⟨frame, bytes, _, _, rfl⟩ := sendPreemptedFrame_ok hm
    obtain ⟨_, _, _, hhist, _⟩ := finishTransmission_part h
    exact acceptedFrames_snoc hhist nofun
  · split at h
    · cases h
    · obtain ⟨_, _, _, hhist, _⟩ := finishTransmission_part h
      exact acceptedFrames_of_history hhist

/-- no other event makes the MAC accept a frame -/
theorem step_acceptedFrames (hshape : s.Shape) (hno : ∀ packet, ¬s.Delivers e packet)
    (hs : s.step cfg e = .ok s') : s'.acceptedFrames = s.acceptedFrames := by
  have hframes : ∀ m t : EtherMac, t.frames = m.frames → t.acceptedFrames = m.acceptedFrames := by
    intro m t h
    have hhist : t.frames.history = m.frames.history := congrArg history h
    exact acceptedFrames_of_history hhist
  cases step_change hshape hs with
  | quiet hc _ _ => exact hframes _ _ hc
  | @next m _ hm _ _ _ _ hn =>
    rw [← hframes _ _ hm]
    obtain ⟨_, s1, hnext, hrest⟩ := nextFrame_ok hn
    have h1 : s1.acceptedFrames = m.acceptedFrames := by
      cases hnext with
      | stored => exact acceptedFrames_of_history rfl
      | resumed => exact acceptedFrames_of_history rfl
      | nothing => exact acceptedFrames_of_history rfl
    obtain ⟨_, _, _, _, _, hst⟩ | ⟨_, rfl⟩ := hrest
    · exact hst.acceptedFrames.trans h1
    · exact (acceptedFrames_of_history (s := s1) rfl).trans h1
  | endTx _ ht => exact (handleEndTxPeriod_acceptedFrames ht).trans (acceptedFrames_of_history rfl)
  | @preempt m _ hm _ _ hp =>
    obtain ⟨_, _, rfl⟩ := preemptCurrentFrame_ok hp
    exact (acceptedFrames_of_history (s := m) rfl).trans (hframes _ _ hm)
  | arrive _ _ _ _ _ _ hd _ => exact absurd hd (hno _)

/-! ## the MAC beside another `TransmissionSelection` -/

/-- the states differ in `TransmissionSelection` at most -/
def SameButSelection (s t : EtherMac) : Prop :=
  t = { s with transmissionSelection := t.transmissionSelection }

theorem SameButSelection.refl (s : EtherMac) : SameButSelection s s := rfl

theorem SameButSelection.withSelection (h : SameButSelection s t) (ts : TransmissionSelection) :
    SameButSelection s { t with transmissionSelection := ts } := by
  unfold SameButSelection at h ⊢
  rw [h]

theorem SameButSelection.acceptedFrames (h : SameButSelection s t) :
    t.acceptedFrames = s.acceptedFrames := by
  rw [h]
  exact acceptedFrames_of_history rfl

theorem Delivering.of_same {n : Nat} (h : Delivering cfg n s) (hst : SameButSelection s t) :
    Delivering cfg n t := by
  rw [hst]
  have hcore : { s with transmissionSelection := t.transmissionSelection }.core = s.core := rfl
  have hframes : { s with transmissionSelection := t.transmissionSelection }.frames = s.frames := rfl
  refine ⟨h.shape.of_core hcore, h.timing.of_frames hframes le_rfl, h.books.of_frames hframes,
    h.expressBooks.of_frames hframes, h.completes.of_parts rfl, fun messages hm => ?_⟩
  obtain ⟨r, hr, hp, hl⟩ := h.processes messages hm
  exact ⟨r, hr, hp, hl.sized, hl.held⟩

theorem Roomy.of_same (h : s.Roomy packet) (hst : SameButSelection s t) : t.Roomy packet := by
  rw [hst]
  exact h

end EtherMac

open EtherMac

namespace Network

variable {numGates : Nat} {cfg : NetworkConfig numGates} {n n' : Network numGates}
  {e : NetworkEvent numGates}

/-! ## the network as a run of the MAC -/

/-- what an event is for the MAC -/
def macEvent (n : Network numGates) : NetworkEvent numGates → Option MacEvent
  | .advance t => some (.advance t)
  | .macTimer timer => some (.timer timer)
  | .hold delay => some (.hold delay)
  | .release => some .release
  | .processPauseCommand pauseUnits => some (.processPauseCommand pauseUnits)
  | .handleMessage i =>
    match (n.columns i).messages with
    | .macPacket packet :: _ => some (.handleUpperPacket packet)
    | _ => none
  | .packetEnqueuedMsg =>
    if (n.selection.handlePacketEnqueuedEvent n.mac.onHold).2.2 then some .packetEnqueued else none
  | _ => none

/-- a step of the MAC, or none, whatever the state of `TransmissionSelection` -/
def MacMoves (cfg : NetworkConfig numGates) (s t : EtherMac) : Option MacEvent → Prop
  | none => SameButSelection s t
  | some e => ∃ m m', SameButSelection s m ∧ m.step cfg.mac e = .ok m' ∧ SameButSelection m' t

theorem MacMoves.of_withMac {e : MacEvent} {r : Sim EtherMac} {m : EtherMac}
    (hm : SameButSelection n.mac m) (hr : r = m.step cfg.mac e) {k : Network numGates}
    (h : k.withMac r = .ok n') : MacMoves cfg n.mac n'.mac (some e) := by
  obtain ⟨t, ht, h⟩ := bind_ok.mp h
  cases h
  exact ⟨m, t, hm, hr ▸ ht, .refl t⟩

theorem notify_mac (notified : Bool) : SameButSelection n.mac (n.notify notified).mac := by
  cases notified with
  | false => exact .refl _
  | true => rfl

theorem select_mac (ts : TransmissionSelection) (gate : Option Nat) :
    SameButSelection n.mac ((n.withSelection ts).select gate).mac := by
  unfold select
  cases gate with
  | none => rfl
  | some g =>
    dsimp only
    split <;> rfl

theorem handleMessage_mac {i : Fin numGates} (hs : n.handleMessage cfg i = .ok n') :
    MacMoves cfg n.mac n'.mac (n.macEvent (.handleMessage i)) := by
  obtain ⟨packet, packet', l, hl, rfl⟩ | ⟨packet, l, hl, hn⟩ | ⟨m, l, c, notified, hl, hc, rfl⟩ :=
    handleMessage_ok hs
  · unfold macEvent
    dsimp only
    rw [hl]
    rfl
  · unfold macEvent
    dsimp only
    rw [hl]
    refine .of_withMac (m := (n.setColumn i { n.columns i with messages := l }).macView) ?_ rfl hn
    rfl
  · have hnone : n.macEvent (.handleMessage i) = none := by
      unfold macEvent
      dsimp only
      rw [hl]
      cases m with
      | macPacket packet => cases hc
      | _ => rfl
    rw [hnone]
    exact notify_mac (n := n.setColumn i c) notified

/-- **The network moves its MAC as the MAC moves.** -/
theorem step_mac (hs : n.step cfg e = .ok n') : MacMoves cfg n.mac n'.mac (n.macEvent e) := by
  cases e with
  | advance t =>
    change (if n.CanAdvance t then _ else _) = _ at hs
    split at hs
    · rename_i hadvance
      cases hs
      exact ⟨n.mac, _, .refl _, if_pos hadvance.1, .refl _⟩
    · cases hs
  | macTimer timer =>
    change (if n.mac.time ∈ n.mac.scheduled timer then _ else _) = _ at hs
    split at hs
    · rename_i hdue
      refine .of_withMac (m := n.macView) rfl ?_ hs
      exact (if_pos (show n.macView.time ∈ n.macView.scheduled timer by cases timer <;> exact hdue)).symm
    · cases hs
  | hold delay => exact .of_withMac (m := n.macView) rfl rfl hs
  | release => exact .of_withMac (m := n.macView) rfl rfl hs
  | processPauseCommand pauseUnits => exact .of_withMac (m := n.macView) rfl rfl hs
  | enqueue i packet =>
    cases hs
    exact .refl _
  | setGateState i gateOpen release =>
    cases hs
    exact notify_mac (n := n.setColumn i _) _
  | setMaxTransferableBits i maxBits =>
    cases hs
    exact .refl _
  | handleMessage i => exact handleMessage_mac hs
  | endSpendingCredit i =>
    obtain ⟨c, _, hs⟩ := bind_ok.mp hs
    cases hs
    exact .refl _
  | reachedZeroCredit i =>
    obtain ⟨c, _, hs⟩ := bind_ok.mp hs
    cases hs
    exact .refl _
  | requestPacketMsg =>
    change (if _ ∧ _ then _ else _) = _ at hs
    split at hs
    · obtain ⟨⟨ts, gate⟩, _, hs⟩ := bind_ok.mp hs
      cases hs
      exact select_mac ts gate
    · cases hs
  | packetEnqueuedMsg =>
    change (if _ ∧ _ then _ else _) = _ at hs
    split at hs
    · unfold handlePacketEnqueuedEvent at hs
      dsimp only at hs
      unfold macEvent
      dsimp only
      split at hs
      · rename_i hnotified
        rw [if_pos hnotified]
        refine .of_withMac ?_ rfl hs
        have hsame := select_mac (n := n) (n.selection.handlePacketEnqueuedEvent n.mac.onHold).1
          (n.selection.handlePacketEnqueuedEvent n.mac.onHold).2.1
        exact hsame.withSelection _
      · rename_i hnotified
        rw [if_neg hnotified]
        cases hs
        exact select_mac (n := n) _ _
    · cases hs

/-- the packets of the gates come to the MAC as `macPacket` only -/
theorem macEvent_ne {e' : MacEvent} (he : n.macEvent e = some e') (gateId : Nat) (packet : Packet) :
    e' ≠ .handlePacket gateId packet := by
  rintro rfl
  unfold macEvent at he
  split at he <;> first | cases he | skip
  · split at he <;> cases he
  · split at he <;> cases he

section keeps

variable {P : EtherMac → Prop} {O : EtherMac → MacEvent → Prop}

/-- **What the MAC keeps, it keeps in the network**, if it does not depend on
`TransmissionSelection`. -/
theorem mac_keeps (hP : ∀ s t, P s → SameButSelection s t → P t)
    (hO : ∀ s t e, (∀ gateId packet, e ≠ .handlePacket gateId packet) → O s e →
      SameButSelection s t → O t e)
    (hstep : ∀ s e s', P s → O s e → s.step cfg.mac e = .ok s' → P s') (h : P n.mac)
    (ho : ∀ e' ∈ n.macEvent e, O n.mac e') (hs : n.step cfg e = .ok n') : P n'.mac := by
  have hmoves := step_mac hs
  cases he : n.macEvent e with
  | none =>
    rw [he] at hmoves
    exact hP _ _ h hmoves
  | some e' =>
    rw [he] at hmoves
    obtain ⟨m, m', hm, hstep', hm'⟩ := hmoves
    exact hP _ _ (hstep m e' m' (hP _ _ h hm) (hO _ _ _ (macEvent_ne he) (ho e' he) hm) hstep') hm'

end keeps

/-- the frame that an event gives to the MAC -/
def given (n : Network numGates) (e : NetworkEvent numGates) : List Packet :=
  match n.macEvent e with
  | some (.handleUpperPacket packet) => [packet]
  | _ => []

theorem macEvent_delivers {m : EtherMac} {e' : MacEvent} {packet : Packet} (he : n.macEvent e = some e')
    (hd : m.Delivers e' packet) : e' = .handleUpperPacket packet := by
  obtain rfl | ⟨gateId, packet', ts, rfl, _⟩ := hd
  · rfl
  · exact absurd rfl (macEvent_ne he gateId packet')

/-- the frame that it finds room for -/
theorem given_accepted (hup : cfg.mac.connected = true ∧ cfg.mac.disabled = false)
    (hshape : n.mac.Shape) (hs : n.step cfg e = .ok n') :
    n'.mac.acceptedFrames = n.mac.acceptedFrames ++ n.given e := by
  have hmoves := step_mac hs
  unfold given
  cases he : n.macEvent e with
  | none =>
    rw [he] at hmoves
    rw [List.append_nil]
    exact hmoves.acceptedFrames
  | some e' =>
    rw [he] at hmoves
    obtain ⟨m, m', hm, hstep, hm'⟩ := hmoves
    rw [hm'.acceptedFrames, ← hm.acceptedFrames]
    by_cases hd : ∃ packet, m.Delivers e' packet
    · obtain ⟨packet, hd⟩ := hd
      obtain rfl := macEvent_delivers he hd
      exact handleUpperPacket_accepts hup hstep
    · have hshape' : m.Shape := by
        rw [hm]
        exact hshape.of_core rfl
      rw [step_acceptedFrames hshape' (fun packet hp => hd ⟨packet, hp⟩) hstep]
      cases e' with
      | handleUpperPacket packet => exact absurd ⟨packet, .inl rfl⟩ hd
      | _ => exact (List.append_nil _).symm

/-- a frame that the MAC is given finds room -/
def Rooms (cfg : NetworkConfig numGates) (n : Network numGates) (e : NetworkEvent numGates) : Prop :=
  ∀ e' ∈ n.macEvent e, Receives cfg.mac Roomy n.mac e'

instance (n : Network numGates) (e : NetworkEvent numGates) : Decidable (n.Rooms cfg e) :=
  inferInstanceAs (Decidable (∀ e' ∈ n.macEvent e, Receives cfg.mac Roomy n.mac e'))

end Network

/-! ## the whole way -/

namespace LoggedNetwork

open Network

variable {numGates : Nat} {cfg : NetworkConfig numGates} {s s' : LoggedNetwork numGates}
  {e : NetworkEvent numGates}

theorem record_handed (n : Network numGates) (ledger : PacketLedger numGates) :
    (ledger.record n e).handed.map Prod.snd = ledger.handed.map Prod.snd ++ n.given e := by
  cases e with
  | handleMessage i =>
    unfold PacketLedger.record Network.given macEvent
    dsimp only
    split <;> simp_all
  | enqueue i packet =>
    unfold PacketLedger.record
    dsimp only
    split <;> exact (List.append_nil _).symm
  | packetEnqueuedMsg =>
    have hnone : n.given (.packetEnqueuedMsg) = [] := by
      unfold Network.given macEvent
      dsimp only
      by_cases h : (n.selection.handlePacketEnqueuedEvent n.mac.onHold).2.2 = true
      · rw [if_pos h]
      · rw [if_neg h]
    rw [hnone, List.append_nil]
    rfl
  | _ => exact (List.append_nil _).symm

/-- the columns, the ledger and the MAC agree -/
structure Linked (cfg : NetworkConfig numGates) (k : Nat) (s : LoggedNetwork numGates) : Prop where
  inOrder : InOrder cfg s
  delivering : Delivering cfg.mac k s.network.mac
  handed : s.ledger.handed.map Prod.snd = s.network.mac.acceptedFrames

theorem linked_start (cfg : NetworkConfig numGates) (k preemptedBytesSent : Nat) :
    Linked cfg k (start cfg preemptedBytesSent) :=
  ⟨inOrder_start cfg preemptedBytesSent, delivering_start k preemptedBytesSent [], rfl⟩

theorem linked_step (henable : cfg.mac.enablePreemptingFrames = true)
    (hup : cfg.mac.connected = true ∧ cfg.mac.disabled = false) {k : Nat} (h : Linked cfg k s)
    (hr : s.network.Rooms cfg e) (hs : s.step cfg e = .ok s') : Linked cfg k s' := by
  have hin := inOrder_step h.inOrder hs
  obtain ⟨n', hn, hs⟩ := bind_ok.mp hs
  cases hs
  refine ⟨hin, ?_, ?_⟩
  · refine mac_keeps (fun m t => Delivering.of_same) (fun m t e' hne ho hsame => ?_)
      (fun m e' m' hd ho hs => delivering_step henable hd ho hs) h.delivering hr hn
    cases e' with
    | handleUpperPacket packet => exact fun h1 h2 => (ho h1 h2).of_same hsame
    | handlePacket gateId packet => exact absurd rfl (hne gateId packet)
    | _ => trivial
  · rw [record_handed, h.handed]
    exact (given_accepted hup h.delivering.shape hn).symm

/-- **From the queues to the other side of the link**: with preemption and an interface that is up,
in every run in which each frame finds room in the MAC, a receiver that has got all that the MAC has
sent, in any order of parts and express frames, has passed up every packet that a queue has taken in
and that is not in its column or in the MAC, in the order of its class on the way to the MAC, and in
the order of the express frames or of the others after. -/
theorem end_to_end (cfg : NetworkConfig numGates) (henable : cfg.mac.enablePreemptingFrames = true)
    (hup : cfg.mac.connected = true ∧ cfg.mac.disabled = false) (k preemptedBytesSent : Nat)
    (es : List (NetworkEvent numGates))
    (hm : Meets (step cfg) (fun s e => s.network.Rooms cfg e) (start cfg preemptedBytesSent) es)
    (hr : run (step cfg) (start cfg preemptedBytesSent) es = .ok s) (messages : List PhysMessage)
    (hparts : messages.filterMap PhysMessage.pFrame? = s.network.mac.preemptedFrames)
    (hsignals : messages.filterMap PhysMessage.signal? = s.network.mac.sentExpress) :
    ∃ r, run MacReceiver.receive (MacReceiver.start k) messages = .ok r ∧
      (∀ i, (PacketLedger.ofGate i s.ledger.admitted).map (Packet.tagged (cfg.isExpressQueue i)) =
        PacketLedger.ofGate i s.ledger.handed ++ (s.network.columns i).held) ∧
      (s.ledger.handed.map Prod.snd).filter (fun frame => !frame.express) =
        r.processed.filter (fun frame => !frame.express) ++ s.network.mac.stored ∧
      (s.ledger.handed.map Prod.snd).filter Packet.express =
        r.processed.filter Packet.express ++ s.network.mac.waitingExpress := by
  have h : Linked cfg k s := run_invariant_of (I := Linked cfg k)
    (fun s e s' h hr hs => linked_step henable hup h hr hs) (linked_start cfg k preemptedBytesSent) hm hr
  obtain ⟨r, hr, harrived⟩ := h.delivering.arrived hparts hsignals
  refine ⟨r, hr, h.inOrder.inOrder, ?_, ?_⟩
  · rw [h.handed, ← accepted_eq]
    exact harrived.preemptable.symm
  · rw [h.handed, ← acceptedExpress_eq]
    exact harrived.express.symm

/-- the packet that was stopped is in the MAC, and the last two are in their queues -/
theorem end_to_end_overtakingRun : ∃ s,
    run (step twoQueues) (start twoQueues 0) overtakingRun = .ok s ∧
    s.network.mac.stored = [bulkFrame] ∧
    ∃ r, run MacReceiver.receive (MacReceiver.start 0)
        [.preemptedFrame ⟨some bulkFrame, 100, 500, 100⟩, .ethernetSignal expressFrame] = .ok r ∧
      (s.ledger.handed.map Prod.snd).filter Packet.express =
        r.processed.filter Packet.express ++ s.network.mac.waitingExpress := by
  obtain ⟨s, hs, hparts, hsignals, hp⟩ : ∃ s,
      run (step twoQueues) (start twoQueues 0) overtakingRun = .ok s ∧
        s.network.mac.preemptedFrames = [⟨some bulkFrame, 100, 500, 100⟩] ∧
        s.network.mac.sentExpress = [expressFrame] ∧ s.network.mac.stored = [bulkFrame] :=
    exists_of_any (by decide +kernel)
  obtain ⟨r, hr, _, _, hexpress⟩ := end_to_end twoQueues rfl ⟨rfl, rfl⟩ 0 0 overtakingRun
    (by decide +kernel) hs [.preemptedFrame ⟨some bulkFrame, 100, 500, 100⟩, .ethernetSignal expressFrame]
    hparts.symm hsignals.symm
  exact ⟨s, hs, hp, r, hr, hexpress⟩

end LoggedNetwork

end Nesting
