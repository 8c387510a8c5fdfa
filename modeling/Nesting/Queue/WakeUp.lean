import Nesting.Queue.Handshake
import Nesting.Queue.Notices

/-!
# A MAC that waits is told of a packet

* `Awake`           the invariant: while a request is unanswered, a gate with a packet is noticed;
* `Attentive`       the events that keep it;
* `awake_step`      they do;
* `wakeUp_sound`    **no packet waits behind an open gate for a MAC that waits for a packet.**
-/

set_option linter.unusedVariables false

namespace Nesting

open Lib EtherMac

namespace Network

variable {numGates : Nat} {cfg : NetworkConfig numGates} {n n' : Network numGates}
  {i j : Fin numGates} {c : Column}

/-- how a column is heard of in the state `n` -/
def Noticed (n : Network numGates) (c : Column) : Prop :=
  c.Noticed n.mac.transmissionSelection.packetEnqueuedMsg n.mac.onHold n.mac.time

def Announced (n : Network numGates) (c : Column) : Prop :=
  c.Announced n.mac.transmissionSelection.packetEnqueuedMsg n.mac.time

instance (n : Network numGates) (c : Column) : Decidable (n.Announced c) :=
  inferInstanceAs (Decidable (c.Announced _ _))

structure Awake (n : Network numGates) : Prop where
  bits : ∀ i, (n.columns i).maxTransferableBits ≤ kEthernet2MaximumTransmissionUnitBitLength
  waits : n.mac.transmissionSelection.packetRequestedFromInputs = true →
    ∀ i, (n.columns i).tokens = 0 ∧ n.Noticed (n.columns i)

/-- while a request is unanswered, the algorithm listens when a packet arrives, and a gate that may send
more than before is heard of -/
def Attentive (n : Network numGates) : NetworkEvent numGates → Prop
  | .enqueue i packet => n.mac.transmissionSelection.packetRequestedFromInputs = true →
    ((n.columns i).enqueue packet).isEmpty n.mac.onHold = false →
      n.Announced (n.columns i) ∨ (n.columns i).Listens
  | .setMaxTransferableBits i maxBits =>
    maxBits ≤ kEthernet2MaximumTransmissionUnitBitLength ∧
    (n.mac.transmissionSelection.packetRequestedFromInputs = true →
      (n.columns i).isEmpty n.mac.onHold = true →
      { n.columns i with maxTransferableBits := maxBits }.isEmpty n.mac.onHold = false →
        n.Announced (n.columns i) ∨ (n.columns i).Expected)
  | _ => True

instance (n : Network numGates) : ∀ e, Decidable (n.Attentive e)
  | .advance _ => isTrue trivial
  | .macTimer _ => isTrue trivial
  | .hold _ => isTrue trivial
  | .release => isTrue trivial
  | .processPauseCommand _ => isTrue trivial
  | .enqueue _ _ => inferInstanceAs (Decidable (_ → _ → _ ∨ _))
  | .setGateState _ _ _ => isTrue trivial
  | .setMaxTransferableBits _ _ => inferInstanceAs (Decidable (_ ∧ (_ → _ → _ → _ ∨ _)))
  | .handleMessage _ => isTrue trivial
  | .endSpendingCredit _ => isTrue trivial
  | .reachedZeroCredit _ => isTrue trivial
  | .requestPacketMsg => isTrue trivial
  | .packetEnqueuedMsg => isTrue trivial

namespace Awake

/-! ## calls of the MAC -/

/-- the flags are as before, and a hold may begin -/
theorem of_mac {mac : EtherMac} (h : Awake n)
    (hsel : mac.transmissionSelection = n.selection ∨
      mac.transmissionSelection = n.selection.requestPacket)
    (hh : mac.onHold = n.mac.onHold ∨ mac.onHold = true) (ht : mac.time = n.mac.time) :
    Awake { n with mac } := by
  have hflags : mac.transmissionSelection.packetRequestedFromInputs =
      n.mac.transmissionSelection.packetRequestedFromInputs ∧
      mac.transmissionSelection.packetEnqueuedMsg = n.mac.transmissionSelection.packetEnqueuedMsg := by
    obtain hsel | hsel := hsel
    · rw [hsel]
      exact ⟨rfl, rfl⟩
    · rw [hsel]
      exact ⟨rfl, rfl⟩
  refine ⟨h.bits, fun hin i => ?_⟩
  obtain ⟨htokens, hnoticed⟩ := h.waits (hflags.1.symm.trans hin) i
  refine ⟨htokens, fun hne => ?_⟩
  show (n.columns i).Announced mac.transmissionSelection.packetEnqueuedMsg mac.time ∨ _
  rw [hflags.2, ht]
  refine hnoticed ?_
  obtain hh | hh := hh
  · rw [← hh]
    exact hne
  · refine Column.isEmpty_of_hold ?_
    rw [← hh]
    exact hne

/-- a call that asks the selection at most, from a state that differs in the hold only -/
theorem of_asks {s mac : EtherMac} {free : Prop} (h : Awake n) (hasks : Asks free s mac)
    (hs : s.transmissionSelection = n.selection ∧ s.time = n.mac.time ∧
      (s.onHold = n.mac.onHold ∨ s.onHold = true)) : Awake { n with mac } := by
  obtain ⟨hsel, ht, hh⟩ := hs
  refine h.of_mac ?_ ?_ (hasks.time.trans ht)
  · rw [← hsel]
    exact hasks.selection.imp_right And.left
  · rw [hasks.onHold]
    exact hh

/-- nobody waits -/
theorem of_answered (h : Awake n)
    (hbits : ∀ i, (n'.columns i).maxTransferableBits = (n.columns i).maxTransferableBits)
    (hin : n'.mac.transmissionSelection.packetRequestedFromInputs = false) : Awake n' := by
  refine ⟨fun i => ?_, fun hin' => ?_⟩
  · rw [hbits]
    exact h.bits i
  · cases hin.symm.trans hin'

/-! ## columns -/

theorem setColumn (h : Awake n)
    (hb : c.maxTransferableBits ≤ kEthernet2MaximumTransmissionUnitBitLength)
    (hc : n.mac.transmissionSelection.packetRequestedFromInputs = true →
      c.tokens = 0 ∧ n.Noticed c) : Awake (n.setColumn i c) := by
  refine ⟨forall_setColumn (P := fun _ c => c.maxTransferableBits ≤ _) hb h.bits, fun hin => ?_⟩
  exact forall_setColumn (P := fun _ c => c.tokens = 0 ∧ n.Noticed c) (hc hin) (h.waits hin)

/-- the selection hears of a gate, and perhaps another gate calls for it -/
theorem notify (h : Awake n) (notified : Bool) : Awake (n.notify notified) := by
  cases notified with
  | false => exact h
  | true =>
    refine ⟨h.bits, fun hin i => ?_⟩
    obtain ⟨htokens, _⟩ := h.waits hin i
    exact ⟨htokens, fun _ => .inl (.inl rfl)⟩

/-- a message between the gate and the queue -/
theorem columnMsg {m : ColumnMsg} {l : List ColumnMsg} {notified : Bool} (h : Awake n)
    (hl : (n.columns i).messages = m :: l)
    (hs : { n.columns i with messages := l }.handleMessage (cfg.shaper i) n.mac.time n.mac.onHold m =
      .ok (c, notified)) : Awake ((n.setColumn i c).notify notified) := by
  have hbits : c.maxTransferableBits ≤ kEthernet2MaximumTransmissionUnitBitLength :=
    le_of_eq_of_le (Column.maxTransferableBits_handleMessage hs) (h.bits i)
  have hc : n.mac.transmissionSelection.packetRequestedFromInputs = true → c.tokens = 0 ∧
      c.Noticed (notified || n.mac.transmissionSelection.packetEnqueuedMsg) n.mac.onHold
        n.mac.time := by
    intro hin
    obtain ⟨htokens, hnoticed⟩ := h.waits hin i
    have hquiet : (m :: l).countP ColumnMsg.token = 0 := by
      rw [← hl]
      exact htokens
    have hm : m.token = false := Column.not_token_of_countP hquiet m List.mem_cons_self
    have hcons : Column.Noticed n.mac.transmissionSelection.packetEnqueuedMsg n.mac.onHold n.mac.time
        { n.columns i with messages := m :: l } := by
      rw [← hl]
      exact hnoticed
    refine ⟨?_, Column.noticed_handleMessage hm hcons hs⟩
    rw [(Column.untouched_handleMessage hm hs).tokens, ← Column.tokens_cons_false hl hm, htokens]
  cases notified with
  | false => exact h.setColumn hbits hc
  | true =>
    refine ⟨?_, fun hin j => ⟨?_, fun _ => .inl (.inl rfl)⟩⟩
    · exact forall_setColumn (P := fun _ c => c.maxTransferableBits ≤ _) hbits h.bits
    · exact forall_setColumn (P := fun _ c => c.tokens = 0) (hc hin).1 (fun k => (h.waits hin k).1) j

theorem handleMessage (h : Awake n) (hs : n.handleMessage cfg i = .ok n') : Awake n' := by
  obtain ⟨packet, packet', l, hl, rfl⟩ | ⟨packet, l, hl, hs⟩ | ⟨m, l, c, notified, hl, hc, rfl⟩ :=
    handleMessage_ok hs
  · -- the request was answered
    refine h.of_answered (fun j => ?_) ?_
    · exact forall_setColumn (n := n) (c := { n.columns i with messages := l ++ [.macPacket packet'] })
        (P := fun j c => c.maxTransferableBits = (n.columns j).maxTransferableBits) rfl (fun _ => rfl) j
    · refine Bool.eq_false_iff.mpr fun hin => ?_
      have htokens := (h.waits hin i).1
      rw [Column.tokens_cons_true hl rfl] at htokens
      cases htokens
  · obtain ⟨mac, hmac, hs⟩ := bind_ok.mp hs
    cases hs
    refine of_asks (n := n.setColumn i { n.columns i with messages := l }) ?_
      (handleUpperPacket_asks hmac) ⟨rfl, rfl, .inl rfl⟩
    refine h.setColumn (h.bits i) fun hin => ?_
    obtain ⟨htokens, hnoticed⟩ := h.waits hin i
    refine ⟨(Column.tokens_cons_false hl rfl).symm.trans htokens, ?_⟩
    refine Column.Noticed.of_cons (m := .macPacket packet) ?_ ⟨nofun, nofun⟩ nofun
    rw [← hl]
    exact hnoticed
  · exact columnMsg h hl hc

/-! ## TransmissionSelection -/

/-- `schedulePacket`, when it is the turn of `TransmissionSelection`: without a gate that has a packet
the request stays unanswered -/
theorem select {ts : TransmissionSelection} (h : Awake n)
    (hempty : ∀ i, (n.columns i).messages = [])
    (hin : ts.packetRequestedFromInputs = (n.selection.schedulePacket n.mac.onHold).isNone) :
    Awake ((n.withSelection ts).select (n.selection.schedulePacket n.mac.onHold)) := by
  cases hgate : n.selection.schedulePacket n.mac.onHold with
  | none =>
    refine ⟨h.bits, fun _ i => ⟨Handshake.tokens_of_empty (hempty i), fun hne => ?_⟩⟩
    have hall := TransmissionSelection.schedulePacket_none hgate
    have hview : (n.columns i).isEmpty n.mac.onHold = true :=
      hall (n.columns i).view (List.mem_ofFn.mpr ⟨i, rfl⟩)
    cases hview.symm.trans hne
  | some g =>
    rw [hgate] at hin
    unfold Network.select
    dsimp only
    split
    · rename_i hlt
      refine h.of_answered (fun j => ?_) hin
      exact forall_setColumn (n := n.withSelection ts) (i := ⟨g, hlt⟩)
        (c := { n.columns ⟨g, hlt⟩ with
          messages := post .gateRequest (n.columns ⟨g, hlt⟩).messages })
        (P := fun j c => c.maxTransferableBits = (n.columns j).maxTransferableBits) rfl
        (fun _ => rfl) j
    · exact h.of_answered (fun j => rfl) hin

theorem handleRequestPacketEvent (h : Awake n) (hq : n.Settled)
    (hs : n.handleRequestPacketEvent = .ok n') : Awake n' := by
  obtain ⟨⟨ts, gate⟩, hts, hs⟩ := bind_ok.mp hs
  cases hs
  obtain ⟨rfl, rfl⟩ := TransmissionSelection.handleRequestPacketEvent_ok hts
  exact h.select (fun i => (hq.2 i).1) rfl

theorem handlePacketEnqueuedEvent (h : Awake n) (hq : n.Settled)
    (hs : n.handlePacketEnqueuedEvent cfg = .ok n') : Awake n' := by
  unfold Network.handlePacketEnqueuedEvent TransmissionSelection.handlePacketEnqueuedEvent at hs
  dsimp only at hs
  split at hs
  · cases hs
    exact h.select (fun i => (hq.2 i).1) rfl
  · rename_i hin
    have hsame : Awake (n.withSelection { n.selection with packetEnqueuedMsg := false }) :=
      h.of_answered (fun i => rfl) (Bool.not_eq_true _ |>.mp hin)
    split at hs
    · obtain ⟨mac, hmac, hs⟩ := bind_ok.mp hs
      cases hs
      exact hsame.of_asks (packetEnqueued_asks hmac) ⟨rfl, rfl, .inl rfl⟩
    · cases hs
      exact hsame

end Awake

theorem awake_step {e : NetworkEvent numGates} (h : Awake n) (hc : n.Attentive e)
    (hs : n.step cfg e = .ok n') : Awake n' := by
  cases e with
  | advance t =>
    rw [step] at hs
    split at hs
    · rename_i hadvance
      cases hs
      refine ⟨h.bits, fun hin i => ?_⟩
      obtain ⟨htokens, hnoticed⟩ := h.waits hin i
      refine ⟨htokens, fun hne => ?_⟩
      obtain ⟨⟨hle, _, hflag, _⟩, hcolumns⟩ := hadvance
      obtain ⟨hempty, htimers⟩ := hcolumns i
      obtain (hpe | hpe | hsc | ⟨s, hshaper, hend⟩) | ⟨hmsg, _⟩ := hnoticed hne
      · cases hflag.symm.trans hpe
      · rw [hempty] at hpe
        cases hpe
      · rw [hempty] at hsc
        cases hsc
      · -- the instant goes on
        have ht : t = n.mac.time := le_antisymm ((htimers s hshaper).1 _ hend) hle
        exact .inl (.inr (.inr (.inr ⟨s, hshaper, ht ▸ hend⟩)))
      · rw [hempty] at hmsg
        cases hmsg
    · cases hs
  | macTimer timer =>
    rw [step] at hs
    split at hs
    · obtain ⟨mac, hmac, hs⟩ := bind_ok.mp hs
      cases hs
      exact h.of_asks (handleSelfMessage_asks hmac) (heldAfterTimer_keeps n.macView cfg.mac timer)
    · cases hs
  | hold delay =>
    obtain ⟨mac, hmac, hs⟩ := bind_ok.mp hs
    cases hs
    exact h.of_asks (hold_asks hmac) (heldAfter_keeps n.macView cfg.mac delay)
  | release =>
    obtain ⟨mac, hmac, hs⟩ := bind_ok.mp hs
    cases hs
    obtain ⟨_, rfl⟩ | ⟨_, hasks⟩ := release_asks hmac
    · exact h.of_mac (.inl rfl) (.inl rfl) rfl
    · refine h.of_answered (fun i => rfl) ?_
      show mac.transmissionSelection.packetRequestedFromInputs = false
      obtain hsel | ⟨hsel, _⟩ := hasks.selection
      · rw [hsel]
        rfl
      · rw [hsel]
        rfl
  | processPauseCommand pauseUnits =>
    obtain ⟨mac, hmac, hs⟩ := bind_ok.mp hs
    cases hs
    exact h.of_asks (processPauseCommand_asks hmac) ⟨rfl, rfl, .inl rfl⟩
  | enqueue i packet =>
    cases hs
    refine h.setColumn ?_ fun hin => ?_
    · rw [(Column.enqueue_same _ packet).1.maxTransferableBits]
      exact h.bits i
    · rw [Column.tokens_enqueue]
      exact ⟨(h.waits hin i).1, Column.noticed_enqueue (hc hin)⟩
  | setGateState i gateOpen release =>
    cases hs
    obtain ⟨hbits, htokens⟩ := Column.setGateState_keeps (n.columns i) n.mac.onHold gateOpen release
    refine Awake.notify (h.setColumn (le_of_eq_of_le hbits (h.bits i)) fun hin => ?_) _
    obtain ⟨hnone, hnoticed⟩ := h.waits hin i
    exact ⟨htokens.trans hnone, Column.noticed_setGateState hnoticed⟩
  | setMaxTransferableBits i maxBits =>
    cases hs
    refine h.setColumn hc.1 fun hin => ?_
    obtain ⟨htokens, hnoticed⟩ := h.waits hin i
    refine ⟨htokens, fun hne => ?_⟩
    cases hbefore : (n.columns i).isEmpty n.mac.onHold with
    | false => exact hnoticed hbefore
    | true => exact hc.2 hin hbefore hne
  | handleMessage i => exact h.handleMessage hs
  | endSpendingCredit i =>
    obtain ⟨c, hcolumn, hs⟩ := bind_ok.mp hs
    cases hs
    have hnoticed : n.Noticed c := Column.noticed_endSpendingCredit (h.bits i) hcolumn
    obtain ⟨s, s', notified, _, _, _, rfl⟩ := Column.handleEndSpendingCredit_ok hcolumn
    refine h.setColumn (h.bits i) fun hin => ⟨?_, hnoticed⟩
    exact (Column.tokens_notify _ notified).trans (h.waits hin i).1
  | reachedZeroCredit i =>
    obtain ⟨c, hcolumn, hs⟩ := bind_ok.mp hs
    cases hs
    have hnoticed : n.Noticed c := Column.noticed_reachedZeroCredit (h.bits i) hcolumn
    obtain ⟨s, s', notified, _, _, _, rfl⟩ := Column.handleZeroCreditReached_ok hcolumn
    refine h.setColumn (h.bits i) fun hin => ⟨?_, hnoticed⟩
    exact (Column.tokens_notify _ notified).trans (h.waits hin i).1
  | requestPacketMsg =>
    rw [step] at hs
    split at hs
    · rename_i hq
      exact h.handleRequestPacketEvent hq.2 hs
    · cases hs
  | packetEnqueuedMsg =>
    rw [step] at hs
    split at hs
    · rename_i hq
      exact h.handlePacketEnqueuedEvent hq.2 hs
    · cases hs

/-- when it is the turn of `TransmissionSelection`, it has heard of the gate -/
theorem Awake.heard (h : Awake n) (hq : n.Settled)
    (hin : n.mac.transmissionSelection.packetRequestedFromInputs = true)
    (hne : (n.columns i).isEmpty n.mac.onHold = false) :
    n.mac.transmissionSelection.packetEnqueuedMsg = true := by
  obtain ⟨hempty, hdue⟩ := hq.2 i
  obtain (hpe | hmem | hmem | ⟨s, hs, hend⟩) | ⟨hmem, _⟩ := (h.waits hin i).2 hne
  · exact hpe
  · rw [hempty] at hmem
    cases hmem
  · rw [hempty] at hmem
    cases hmem
  · exact absurd ⟨s, hs, .inl hend⟩ hdue
  · rw [hempty] at hmem
    cases hmem

/-- time goes on over nothing that is due now -/
theorem CanAdvance.settled {t : SimTime} (h : n.CanAdvance t) (ht : n.mac.time < t) : n.Settled := by
  obtain ⟨⟨_, _, _, hmac⟩, hcolumns⟩ := h
  refine ⟨fun timer hm hdue => ?_, fun i => ⟨(hcolumns i).1, ?_⟩⟩
  · exact absurd (hmac timer hm _ hdue) (not_le.mpr ht)
  · rintro ⟨s, hs, hend | hzero⟩
    · exact absurd (((hcolumns i).2 s hs).1 _ hend) (not_le.mpr ht)
    · exact absurd (((hcolumns i).2 s hs).2 _ hzero) (not_le.mpr ht)

/-- **No packet waits for a MAC that waits for a packet**: `TransmissionSelection` hears of a gate with a
packet in that instant, and between two instants there is none. -/
theorem wakeUp_sound (cfg : NetworkConfig numGates) (preemptedBytesSent : Nat)
    (es : List (NetworkEvent numGates))
    (hm : Meets (step cfg) Attentive (start cfg preemptedBytesSent) es)
    (hr : run (step cfg) (start cfg preemptedBytesSent) es = .ok n)
    (hin : n.mac.transmissionSelection.packetRequestedFromInputs = true) :
    (n.Settled → ∀ i, (n.columns i).isEmpty n.mac.onHold = false →
      n.mac.transmissionSelection.packetEnqueuedMsg = true) ∧
    ∀ t, n.mac.time < t → n.CanAdvance t → ∀ i, (n.columns i).isEmpty n.mac.onHold = true := by
  have h : Awake n := by
    refine run_invariant_of (fun _ _ _ hi hc hs => awake_step hi hc hs) ?_ hm hr
    exact ⟨fun i => le_refl _, nofun⟩
  refine ⟨fun hq i hne => h.heard hq hin hne, fun t ht hadvance i => ?_⟩
  refine Bool.not_eq_false _ |>.mp fun hne => ?_
  cases hadvance.1.2.2.1.symm.trans (h.heard (hadvance.settled ht) hin hne)

/-! ## runs -/

/-- the second packet arrives while the shaper earns credit, and is too long for the look-ahead when it
has earned it -/
def attentiveRun : List (NetworkEvent 2) :=
  .requestPacketMsg :: arrive 0 bulkFrame ++ answer 0 ++
  [.advance (byteTimes 508), .macTimer .endTx, .macTimer .endIFG, .requestPacketMsg,
   .advance (byteTimes 541), .endSpendingCredit 0, .setMaxTransferableBits 0 1000,
   .enqueue 0 nextBulkFrame, .handleMessage 0, .advance (byteTimes 1082), .reachedZeroCredit 0,
   .handleMessage 0, .packetEnqueuedMsg]

theorem wakeUp_sound_attentiveRun : ∃ n,
    run (step twoQueues) (start twoQueues 0) attentiveRun = .ok n ∧
    (n.mac.transmissionSelection.packetRequestedFromInputs = true ∧ n.CanAdvance 1 ∧
      (n.columns 0).packets = [nextBulkFrame]) ∧ ∀ i, (n.columns i).isEmpty n.mac.onHold = true := by
  obtain ⟨n, hn, hp⟩ : ∃ n, run (step twoQueues) (start twoQueues 0) attentiveRun = .ok n ∧
      n.mac.time < 1 ∧ (n.mac.transmissionSelection.packetRequestedFromInputs = true ∧
        n.CanAdvance 1 ∧ (n.columns 0).packets = [nextBulkFrame]) :=
    exists_of_any (by decide +kernel)
  exact ⟨n, hn, hp.2, (wakeUp_sound twoQueues 0 attentiveRun (by decide +kernel) hn hp.2.1).2 1 hp.1
    hp.2.2.1⟩

/-- between two instants a packet waits for a MAC that waits for it -/
def Overslept (n : Network numGates) (t : SimTime) : Prop :=
  (n.mac.time < t ∧ n.CanAdvance t) ∧
    n.mac.transmissionSelection.packetRequestedFromInputs = true ∧
    ∃ i, (n.columns i).isEmpty n.mac.onHold = false

instance (n : Network numGates) (t : SimTime) : Decidable (n.Overslept t) :=
  inferInstanceAs (Decidable (_ ∧ _ ∧ _))

def longFrame : Packet := ⟨4, "express-2", 1000, "0A-AA-00-00-00-02", true⟩
def shortFrame : Packet := ⟨5, "bulk-3", 64, "0A-AA-00-00-00-02", false⟩

/-- a packet arrives after the gate has opened, and before the shaper hears of it -/
def arrivesInBetween : List (NetworkEvent 2) :=
  [.requestPacketMsg, .setGateState 0 false false, .handleMessage 0, .handleMessage 0, .advance 1,
   .setGateState 0 true false, .handleMessage 0, .enqueue 0 bulkFrame, .handleMessage 0,
   .handleMessage 0]

/-- the shaped queue waits for a long packet of the other and earns credit; its own packet does not use it
up, and the next one arrives while the shaper still spends -/
def arrivesWhileSpending : List (NetworkEvent 2) :=
  .requestPacketMsg :: arrive 1 longFrame ++ answer 1 ++ arrive 0 shortFrame ++ [.packetEnqueuedMsg,
   .advance (byteTimes 1008), .macTimer .endTx, .macTimer .endIFG, .requestPacketMsg] ++
  List.replicate 7 (.handleMessage 0) ++
  [.advance (byteTimes 1080), .macTimer .endTx, .macTimer .endIFG, .requestPacketMsg,
   .enqueue 0 bulkFrame, .handleMessage 0]

/-- a packet is too long for the look-ahead until a schedule is loaded -/
def lookAheadGrows : List (NetworkEvent 2) :=
  [.requestPacketMsg, .setMaxTransferableBits 0 1000] ++ arrive 0 bulkFrame ++
  [.packetEnqueuedMsg, .setMaxTransferableBits 0 kEthernet2MaximumTransmissionUnitBitLength]

/-- in the first of these runs nothing will ever happen by itself -/
theorem wakeUp_unsound :
    (∃ n, run (step twoQueues) (start twoQueues 0) arrivesInBetween = .ok n ∧ n.Overslept 1000000) ∧
    (∃ n, run (step twoQueues) (start twoQueues 0) arrivesWhileSpending = .ok n ∧
      n.Overslept (byteTimes 1113)) ∧
    ∃ n, run (step twoQueues) (start twoQueues 0) lookAheadGrows = .ok n ∧ n.Overslept 1 :=
  ⟨exists_of_any (by decide +kernel), exists_of_any (by decide +kernel),
    exists_of_any (by decide +kernel)⟩

end Network
end Nesting
