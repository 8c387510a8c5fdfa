import Nesting.Mac.Conserve
import Nesting.Mac.Requests
import Nesting.Queue.Network
import Nesting.Queue.Tokens

/-!
# The handshake between the MAC and the queueing network

* `Handshake`       the invariant: the flags of `TransmissionSelection` and what is under way agree;
* `Uninterrupted`   the events that keep it;
* `handshake_step`  they do;
* `passes`          a request or a packet under way is handled without an error;
* `handshake_sound` **one request at a time, and one packet for each.**
-/

set_option linter.unusedVariables false

namespace Nesting

open Lib EtherMac

namespace Network

variable {numGates : Nat} {cfg : NetworkConfig numGates} {n n' : Network numGates}
  {i j : Fin numGates} {c : Column}

/-! ## the invariant -/

structure Handshake (n : Network numGates) : Prop where
  /-- the MAC asks when no request is outstanding -/
  fresh : n.mac.transmissionSelection.requestPacketMsg = true →
    n.mac.transmissionSelection.packetRequestedFromUs = false
  inputs : n.mac.transmissionSelection.packetRequestedFromInputs = true →
    n.mac.transmissionSelection.packetRequestedFromUs = true
  underWay : ∀ i, 0 < (n.columns i).tokens →
    n.mac.transmissionSelection.packetRequestedFromUs = true ∧
    n.mac.transmissionSelection.packetRequestedFromInputs = false
  single : ∀ i j, 0 < (n.columns i).tokens → 0 < (n.columns j).tokens → i = j
  atMost : ∀ i, (n.columns i).tokens ≤ 1
  counts : ∀ i, n.selected.count i = n.delivered.count i + (n.columns i).tokens
  granted : ∀ i, (n.columns i).Granted n.mac.onHold

namespace Handshake

theorem start (cfg : NetworkConfig numGates) (preemptedBytesSent : Nat) :
    Handshake (.start cfg preemptedBytesSent) := by
  have htokens : ∀ i, ((Network.start cfg preemptedBytesSent).columns i).tokens = 0 := fun i => rfl
  refine ⟨fun _ => rfl, nofun, fun i hi => ?_, fun i j hi => ?_, fun i => Nat.zero_le 1, fun i => rfl,
    fun i => .of_tokens rfl⟩
  · exact absurd (htokens i) (Nat.ne_of_gt hi)
  · exact absurd (htokens i) (Nat.ne_of_gt hi)

/-- a call of the MAC -/
theorem of_mac {mac : EtherMac} (h : Handshake n)
    (hsel : mac.transmissionSelection = n.selection ∨
      (mac.transmissionSelection = n.selection.requestPacket ∧
        n.mac.transmissionSelection.packetRequestedFromUs = false))
    (hgranted : ∀ i, (n.columns i).Granted mac.onHold) : Handshake { n with mac } := by
  obtain hsel | ⟨hsel, hfree⟩ := hsel
  · refine ⟨?_, ?_, ?_, h.single, h.atMost, h.counts, hgranted⟩ <;>
      dsimp only <;> rw [hsel]
    · exact h.fresh
    · exact h.inputs
    · exact h.underWay
  · refine ⟨?_, ?_, ?_, h.single, h.atMost, h.counts, hgranted⟩ <;>
      dsimp only <;> rw [hsel]
    · exact fun _ => hfree
    · exact h.inputs
    · exact h.underWay

/-- a column with as many tokens as before -/
theorem setColumn (h : Handshake n) (ht : c.tokens = (n.columns i).tokens)
    (hg : c.Granted n.mac.onHold) : Handshake (n.setColumn i c) := by
  have htokens : ∀ j, ((n.setColumn i c).columns j).tokens = (n.columns j).tokens := by
    intro j
    by_cases hj : j = i
    · subst hj
      rw [setColumn_self, ht]
    · rw [setColumn_of_ne hj]
  refine ⟨h.fresh, h.inputs, fun j hj => ?_, fun j k hj hk => ?_, fun j => ?_, fun j => ?_,
    forall_setColumn hg h.granted⟩
  · rw [htokens] at hj
    exact h.underWay j hj
  · rw [htokens] at hj hk
    exact h.single j k hj hk
  · rw [htokens]
    exact h.atMost j
  · rw [htokens]
    exact h.counts j

theorem notify (h : Handshake n) (notified : Bool) : Handshake (n.notify notified) := by
  cases notified with
  | false => exact h
  | true => exact ⟨h.1, h.2, h.3, h.4, h.5, h.6, h.7⟩

/-- between two instants nothing is under way -/
theorem tokens_of_empty (hempty : (n.columns i).messages = []) : (n.columns i).tokens = 0 := by
  unfold Column.tokens
  rw [hempty]
  rfl

/-- `schedulePacket`, when it is the turn of `TransmissionSelection` -/
theorem select {ts : TransmissionSelection} (h : Handshake n)
    (hempty : ∀ i, (n.columns i).messages = [])
    (hmsg : ts.requestPacketMsg = false) (hus : ts.packetRequestedFromUs = true)
    (hin : ts.packetRequestedFromInputs = (n.selection.schedulePacket n.mac.onHold).isNone) :
    Handshake ((n.withSelection ts).select (n.selection.schedulePacket n.mac.onHold)) := by
  have htokens : ∀ i, (n.columns i).tokens = 0 := fun i => tokens_of_empty (hempty i)
  have hnone : ∀ i, ¬0 < (n.columns i).tokens := fun i => by rw [htokens]; exact lt_irrefl 0
  have hfresh : ts.requestPacketMsg = true → ts.packetRequestedFromUs = false := by
    rw [hmsg]
    nofun
  cases hgate : n.selection.schedulePacket n.mac.onHold with
  | none =>
    exact ⟨hfresh, fun _ => hus, fun i hi => absurd hi (hnone i), fun i j hi => absurd hi (hnone i),
      h.atMost, h.counts, h.granted⟩
  | some g =>
    obtain ⟨view, hview, hne⟩ := TransmissionSelection.schedulePacket_some hgate
    change n.tGates[g]? = some view at hview
    obtain ⟨hlt, hview⟩ := List.getElem?_eq_some_iff.mp hview
    have hlt : g < numGates := by
      rw [tGates, List.length_ofFn] at hlt
      exact hlt
    have hne : (n.columns ⟨g, hlt⟩).isEmpty n.mac.onHold = false := by
      simp only [tGates, List.getElem_ofFn] at hview
      rw [← hview] at hne
      exact hne
    rw [hgate] at hin
    rw [Network.select, dif_pos hlt]
    have hposted : post ColumnMsg.gateRequest (n.columns ⟨g, hlt⟩).messages = [.gateRequest] := by
      rw [hempty]
      rfl
    have hone : Column.tokens { n.columns ⟨g, hlt⟩ with
        messages := post .gateRequest (n.columns ⟨g, hlt⟩).messages } = 1 := by
      unfold Column.tokens
      rw [hposted]
      rfl
    have hother : ∀ j, 0 < (((n.withSelection ts).setColumn ⟨g, hlt⟩ { n.columns ⟨g, hlt⟩ with
        messages := post .gateRequest (n.columns ⟨g, hlt⟩).messages }).columns j).tokens →
        j = ⟨g, hlt⟩ := by
      intro j hj
      by_contra hne
      rw [setColumn_of_ne hne] at hj
      exact hnone j hj
    refine ⟨hfresh, fun _ => hus, fun _ _ => ⟨hus, hin⟩, fun i j hi hj => ?_, ?_, ?_, ?_⟩
    · exact (hother i hi).trans (hother j hj).symm
    · refine forall_setColumn (P := fun _ c => c.tokens ≤ 1) ?_ h.atMost
      exact le_of_eq hone
    · intro j
      show (n.selected ++ [(⟨g, hlt⟩ : Fin numGates)]).count j = n.delivered.count j + _
      rw [List.count_append, h.counts j, htokens j]
      by_cases hj : j = ⟨g, hlt⟩
      · subst hj
        rw [setColumn_self, List.count_singleton_self]
        exact congrArg _ hone.symm
      · have hne : ¬((⟨g, hlt⟩ : Fin numGates) == j) = true := fun he => hj (eq_of_beq he).symm
        rw [setColumn_of_ne hj, List.count_singleton, if_neg hne]
        exact congrArg _ (htokens j).symm
    · refine forall_setColumn (P := fun _ c => c.Granted n.mac.onHold) ?_ h.granted
      refine ⟨fun _ => hne, fun hm => ?_, fun hm => ?_⟩
      · change ColumnMsg.requestPacketMsg ∈ post .gateRequest (n.columns ⟨g, hlt⟩).messages at hm
        rw [hposted] at hm
        cases List.mem_singleton.mp hm
      · change ColumnMsg.queueRequest ∈ post .gateRequest (n.columns ⟨g, hlt⟩).messages at hm
        rw [hposted] at hm
        cases List.mem_singleton.mp hm

end Handshake

/-! ## the events that do not interrupt a request -/

/-- the gate that was asked still has its packet when the MAC is on hold as in `s` -/
def KeepsSelected (n : Network numGates) (s : EtherMac) : Prop :=
  ∀ i, .gateRequest ∈ (n.columns i).messages → (n.columns i).isEmpty s.onHold = false

instance (n : Network numGates) (s : EtherMac) : Decidable (n.KeepsSelected s) :=
  inferInstanceAs (Decidable (∀ _, _))

/-- no request is outstanding when the MAC finds an express frame to ask for, nothing is under way at a
release, and no gate runs empty between being asked and passing the request on -/
def Uninterrupted (cfg : NetworkConfig numGates) (n : Network numGates) : NetworkEvent numGates → Prop
  | .macTimer timer =>
    (n.macView.TimerWantsExpress cfg.mac timer →
      n.mac.transmissionSelection.packetRequestedFromUs = false) ∧
    n.KeepsSelected (n.macView.heldAfterTimer cfg.mac timer)
  | .hold delay =>
    (delay = 0 ∧ n.macView.HoldWantsExpress cfg.mac →
      n.mac.transmissionSelection.packetRequestedFromUs = false) ∧
    n.KeepsSelected (n.macView.heldAfter cfg.mac delay)
  | .release => cfg.mac.enablePreemptingFrames = true →
    n.mac.transmissionSelection.packetRequestedFromUs = true →
      n.mac.transmissionSelection.packetRequestedFromInputs = true
  | .setGateState i gateOpen _ => .gateRequest ∈ (n.columns i).messages → gateOpen = true
  | .setMaxTransferableBits i maxBits => .gateRequest ∈ (n.columns i).messages →
    (n.columns i).queue.isEmpty maxBits = false
  | _ => True

instance (cfg : NetworkConfig numGates) (n : Network numGates) :
    ∀ e, Decidable (n.Uninterrupted cfg e)
  | .advance _ => isTrue trivial
  | .macTimer _ => inferInstanceAs (Decidable ((_ → _) ∧ _))
  | .hold _ => inferInstanceAs (Decidable ((_ ∧ _ → _) ∧ _))
  | .release => inferInstanceAs (Decidable (_ → _ → _))
  | .processPauseCommand _ => isTrue trivial
  | .enqueue _ _ => isTrue trivial
  | .setGateState _ _ _ => inferInstanceAs (Decidable (_ → _))
  | .setMaxTransferableBits _ _ => inferInstanceAs (Decidable (_ → _))
  | .handleMessage _ => isTrue trivial
  | .endSpendingCredit _ => isTrue trivial
  | .reachedZeroCredit _ => isTrue trivial
  | .requestPacketMsg => isTrue trivial
  | .packetEnqueuedMsg => isTrue trivial

namespace Handshake

/-! ## calls of the MAC -/

theorem granted_of_keeps (h : Handshake n) {mac s : EtherMac} (hkeep : n.KeepsSelected s)
    (hh : mac.onHold = s.onHold) (i : Fin numGates) : (n.columns i).Granted mac.onHold :=
  ⟨fun hm => hh ▸ hkeep i hm, (h.granted i).algorithm, (h.granted i).queue⟩

theorem macTimer {timer : MacTimer} (h : Handshake n) (hc : n.Uninterrupted cfg (.macTimer timer))
    (hs : n.withMac (n.macView.handleSelfMessage cfg.mac timer) = .ok n') : Handshake n' := by
  obtain ⟨mac, hmac, hs⟩ := bind_ok.mp hs
  cases hs
  have hasks := handleSelfMessage_asks hmac
  obtain ⟨hsel, _, _⟩ := heldAfterTimer_keeps n.macView cfg.mac timer
  have hsel : (n.macView.heldAfterTimer cfg.mac timer).transmissionSelection = n.selection := hsel
  refine h.of_mac ?_ (h.granted_of_keeps hc.2 hasks.onHold)
  have hcases := hasks.selection
  rw [hsel] at hcases
  exact hcases.imp_right fun ⟨hreq, hfree⟩ => ⟨hreq, hfree.elim id hc.1⟩

theorem hold {delay : SimTime} (h : Handshake n) (hc : n.Uninterrupted cfg (.hold delay))
    (hs : n.withMac (n.macView.hold cfg.mac delay) = .ok n') : Handshake n' := by
  obtain ⟨mac, hmac, hs⟩ := bind_ok.mp hs
  cases hs
  have hasks := hold_asks hmac
  refine h.of_mac ?_ (h.granted_of_keeps hc.2 hasks.onHold)
  have hcases := hasks.selection
  rw [(heldAfter_keeps n.macView cfg.mac delay).1] at hcases
  exact hcases.imp_right fun ⟨hreq, hfree⟩ => ⟨hreq, hfree.elim id hc.1⟩

/-- a release takes back a request that no gate has answered yet -/
theorem release (h : Handshake n) (hc : n.Uninterrupted cfg .release)
    (hs : n.withMac (n.macView.release cfg.mac) = .ok n') : Handshake n' := by
  obtain ⟨mac, hmac, hs⟩ := bind_ok.mp hs
  cases hs
  obtain ⟨_, rfl⟩ | ⟨henable, hasks⟩ := release_asks hmac
  · exact h.of_mac (.inl rfl) h.granted
  · have hnone : ∀ i, (n.columns i).tokens = 0 := by
      intro i
      refine Nat.eq_zero_of_not_pos fun hi => ?_
      obtain ⟨hus, hin⟩ := h.underWay i hi
      cases hin.symm.trans (hc henable hus)
    have hflags : mac.transmissionSelection.packetRequestedFromUs = false ∧
        mac.transmissionSelection.packetRequestedFromInputs = false := by
      obtain hsel | ⟨hsel, _⟩ := hasks.selection
      · rw [hsel]
        exact ⟨rfl, rfl⟩
      · rw [hsel]
        exact ⟨rfl, rfl⟩
    refine ⟨fun _ => hflags.1, fun hin => ?_, fun i hi => ?_, h.single, h.atMost, h.counts,
      fun i => .of_tokens (hnone i)⟩
    · cases hflags.2.symm.trans hin
    · exact absurd (hnone i) (Nat.ne_of_gt hi)

/-! ## messages -/

theorem macPacket {packet : Packet} (h : Handshake n)
    (hs : n.withMac (n.macView.handleUpperPacket cfg.mac packet) = .ok n') : Handshake n' := by
  obtain ⟨mac, hmac, hs⟩ := bind_ok.mp hs
  cases hs
  have hasks := handleUpperPacket_asks hmac
  refine h.of_mac hasks.selection fun i => ?_
  have hh : mac.onHold = n.mac.onHold := hasks.onHold
  rw [hh]
  exact h.granted i

/-- the packet has come to `TransmissionSelection` -/
theorem selectionPacket {packet packet' : Packet} {ts : TransmissionSelection} {l : List ColumnMsg}
    (h : Handshake n) (hl : (n.columns i).messages = .selectionPacket packet :: l)
    (hfree : ts.packetRequestedFromUs = false)
    (hkeep : ts.packetRequestedFromInputs = n.mac.transmissionSelection.packetRequestedFromInputs) :
    Handshake { (n.withSelection ts).setColumn i { n.columns i with
        messages := l ++ [.macPacket packet'] } with
      delivered := n.delivered ++ [i] } := by
  have htokens := Column.tokens_cons_true hl rfl
  have hrest : l.countP ColumnMsg.token = 0 := by
    have := h.atMost i
    omega
  have hone : (n.columns i).tokens = 1 := by rw [htokens, hrest]
  obtain ⟨hus, hin⟩ := h.underWay i (by rw [hone]; exact Nat.one_pos)
  have hother : ∀ j, j ≠ i → (n.columns j).tokens = 0 := fun j hj =>
    Nat.eq_zero_of_not_pos fun hpos => hj (h.single j i hpos (by rw [hone]; exact Nat.one_pos))
  have hzero : ∀ j, (((n.withSelection ts).setColumn i { n.columns i with
      messages := l ++ [.macPacket packet'] }).columns j).tokens = 0 := by
    intro j
    by_cases hj : j = i
    · subst hj
      rw [setColumn_self]
      show (l ++ [ColumnMsg.macPacket packet']).countP ColumnMsg.token = 0
      rw [List.countP_append, hrest]
      rfl
    · rw [setColumn_of_ne hj]
      exact hother j hj
  refine ⟨fun _ => hfree, fun hi => ?_, fun j hj => ?_, fun j k hj => ?_, fun j => ?_, fun j => ?_,
    fun j => .of_tokens (hzero j)⟩
  · cases hin.symm.trans (hkeep.symm.trans hi)
  · exact absurd (hzero j) (Nat.ne_of_gt hj)
  · exact absurd (hzero j) (Nat.ne_of_gt hj)
  · exact le_of_eq_of_le (hzero j) (Nat.zero_le 1)
  · show n.selected.count j = (n.delivered ++ [i]).count j + _
    rw [hzero j, List.count_append, h.counts j, Nat.add_zero]
    by_cases hj : j = i
    · subst hj
      rw [hone, List.count_singleton_self]
    · have hne : ¬(i == j) = true := fun he => hj (eq_of_beq he).symm
      rw [hother j hj, List.count_singleton, if_neg hne]

/-- a message between the gate and the queue -/
theorem columnMsg {m : ColumnMsg} {l : List ColumnMsg} {notified : Bool} (h : Handshake n)
    (hl : (n.columns i).messages = m :: l)
    (hs : { n.columns i with messages := l }.handleMessage (cfg.shaper i) n.mac.time n.mac.onHold m =
      .ok (c, notified)) : Handshake ((n.setColumn i c).notify notified) := by
  have hgranted : Column.Granted n.mac.onHold { n.columns i with messages := m :: l } := by
    rw [← hl]
    exact h.granted i
  refine Handshake.notify ?_ notified
  cases hm : m.token with
  | true =>
    have htokens := Column.tokens_cons_true hl hm
    have hrest : l.countP ColumnMsg.token = 0 := by
      have := h.atMost i
      omega
    obtain ⟨_, hg, hone⟩ := Column.granted_pass hm hgranted hrest hs
    refine h.setColumn ?_ hg
    rw [hone, htokens, hrest]
  | false =>
    have htokens := Column.tokens_cons_false hl hm
    obtain ⟨hg, htok⟩ := Column.untouched_handleMessage hm hs
    refine h.setColumn (htok.trans htokens.symm) (hg ?_)
    exact hgranted.of_messages fun x hx _ => List.mem_cons_of_mem _ hx

theorem handleMessage (h : Handshake n) (hs : n.handleMessage cfg i = .ok n') : Handshake n' := by
  obtain ⟨packet, packet', l, hl, rfl⟩ | ⟨packet, l, hl, hs⟩ | ⟨m, l, c, notified, hl, hc, rfl⟩ :=
    handleMessage_ok hs
  · exact selectionPacket h hl rfl rfl
  · refine macPacket ?_ hs
    refine h.setColumn ?_ ?_
    · exact (Column.tokens_cons_false hl rfl).symm
    · refine Column.Granted.of_messages (l := (n.columns i).messages) (h.granted i) ?_
      intro x hx _
      rw [hl]
      exact List.mem_cons_of_mem _ hx
  · exact columnMsg h hl hc

/-! ## gates and timers -/

/-- a timer of the shaper, which leaves the credit not negative if it was so -/
theorem shaperTimer {s s' : CreditBasedShaper} {notified : Bool} (h : Handshake n)
    (hs : (n.columns i).shaper = some s) (hc : 0 ≤ s.credit → 0 ≤ s'.credit) :
    Handshake (n.setColumn i { n.columns i with
      shaper := some s'
      messages := if notified = true then post .gatePacketEnqueued (n.columns i).messages
        else (n.columns i).messages }) := by
  refine h.setColumn (Column.tokens_notify _ notified) ?_
  refine Column.Granted.of_shaper (c := n.columns i) (l := (n.columns i).messages) (s := s) ?_ hc
    fun x hx ht => Column.mem_of_notify hx ht
  rw [← hs]
  exact h.granted i

theorem setGateState {gateOpen release : Bool} (h : Handshake n)
    (hc : n.Uninterrupted cfg (.setGateState i gateOpen release)) :
    Handshake (n.setColumn i ((n.columns i).setGateState n.mac.onHold gateOpen release).1) := by
  unfold Column.setGateState
  split
  · rename_i hne
    refine h.setColumn (countP_post rfl) ⟨fun hm => ?_, fun hm => ?_, fun hm => ?_⟩
    · -- the gate that was asked is open, so this would close it
      have hm := (mem_post.mp hm).resolve_left nofun
      obtain ⟨hopen, _⟩ := Column.isEmpty_eq_false.mp ((h.granted i).gate hm)
      exact absurd (hopen.trans (hc hm).symm) hne
    · exact (h.granted i).algorithm ((mem_post.mp hm).resolve_left nofun)
    · exact (h.granted i).queue ((mem_post.mp hm).resolve_left nofun)
  · exact h.setColumn rfl (h.granted i)

theorem setMaxTransferableBits {maxBits : Nat} (h : Handshake n)
    (hc : n.Uninterrupted cfg (.setMaxTransferableBits i maxBits)) :
    Handshake (n.setColumn i { n.columns i with maxTransferableBits := maxBits }) := by
  refine h.setColumn rfl ⟨fun hm => ?_, (h.granted i).algorithm, (h.granted i).queue⟩
  obtain ⟨hopen, hhold, ha⟩ := Column.isEmpty_eq_false.mp ((h.granted i).gate hm)
  refine Column.isEmpty_eq_false.mpr ⟨hopen, hhold, ?_⟩
  have hq : (n.columns i).queue.isEmpty maxBits = false := hc hm
  unfold Column.algorithmEmpty at ha ⊢
  dsimp only
  split at ha
  · rename_i hs
    rw [hs]
    exact hq
  · rename_i s hs
    rw [hs]
    exact Bool.or_eq_false_iff.mpr ⟨(Bool.or_eq_false_iff.mp ha).1, hq⟩

/-! ## TransmissionSelection -/

theorem handleRequestPacketEvent (h : Handshake n) (hq : n.Settled)
    (hs : n.handleRequestPacketEvent = .ok n') : Handshake n' := by
  obtain ⟨⟨ts, gate⟩, hts, hs⟩ := bind_ok.mp hs
  cases hs
  obtain ⟨rfl, rfl⟩ := TransmissionSelection.handleRequestPacketEvent_ok hts
  exact h.select (fun i => (hq.2 i).1) rfl rfl rfl

theorem handlePacketEnqueuedEvent (h : Handshake n) (hq : n.Settled)
    (hs : n.handlePacketEnqueuedEvent cfg = .ok n') : Handshake n' := by
  unfold Network.handlePacketEnqueuedEvent TransmissionSelection.handlePacketEnqueuedEvent at hs
  dsimp only at hs
  split at hs
  · rename_i hin
    cases hs
    have hus := h.inputs hin
    have hmsg : n.mac.transmissionSelection.requestPacketMsg = false :=
      Bool.eq_false_iff.mpr fun hm => absurd (hus.symm.trans (h.fresh hm)) nofun
    exact h.select (fun i => (hq.2 i).1) hmsg hus rfl
  · have hsame : Handshake (n.withSelection { n.selection with packetEnqueuedMsg := false }) :=
      ⟨h.1, h.2, h.3, h.4, h.5, h.6, h.7⟩
    split at hs
    · rename_i hus
      obtain ⟨mac, hmac, hs⟩ := bind_ok.mp hs
      cases hs
      have hasks := packetEnqueued_asks hmac
      have hus : n.mac.transmissionSelection.packetRequestedFromUs = false :=
        Bool.not_eq_true' _ |>.mp hus
      refine hsame.of_mac (hasks.selection.imp_right fun ⟨hreq, _⟩ => ⟨hreq, hus⟩) fun i => ?_
      have hh : mac.onHold = n.mac.onHold := hasks.onHold
      rw [hh]
      exact h.granted i
    · cases hs
      exact hsame

end Handshake

theorem handshake_step {e : NetworkEvent numGates} (h : Handshake n) (hc : n.Uninterrupted cfg e)
    (hs : n.step cfg e = .ok n') : Handshake n' := by
  cases e with
  | advance t =>
    rw [step] at hs
    split at hs
    · cases hs
      exact ⟨h.1, h.2, h.3, h.4, h.5, h.6, h.7⟩
    · cases hs
  | macTimer timer =>
    rw [step] at hs
    split at hs
    · exact h.macTimer hc hs
    · cases hs
  | hold delay => exact h.hold hc hs
  | release => exact h.release hc hs
  | processPauseCommand pauseUnits =>
    obtain ⟨mac, hmac, hs⟩ := bind_ok.mp hs
    cases hs
    have hasks := processPauseCommand_asks hmac
    refine h.of_mac (hasks.selection.imp_right fun ⟨_, hf⟩ => hf.elim) fun i => ?_
    have hh : mac.onHold = n.mac.onHold := hasks.onHold
    rw [hh]
    exact h.granted i
  | enqueue i packet =>
    cases hs
    exact h.setColumn (Column.tokens_enqueue _ packet) (h.granted i).enqueue
  | setGateState i gateOpen release =>
    cases hs
    exact (h.setGateState hc).notify _
  | setMaxTransferableBits i maxBits =>
    cases hs
    exact h.setMaxTransferableBits hc
  | handleMessage i => exact h.handleMessage hs
  | endSpendingCredit i =>
    obtain ⟨c, hc, hs⟩ := bind_ok.mp hs
    cases hs
    obtain ⟨s, s', notified, hshaper, _, hs', rfl⟩ := Column.handleEndSpendingCredit_ok hc
    exact h.shaperTimer hshaper (Column.credit_endSpendingCredit hs')
  | reachedZeroCredit i =>
    obtain ⟨c, hc, hs⟩ := bind_ok.mp hs
    cases hs
    obtain ⟨s, s', notified, hshaper, _, hs', rfl⟩ := Column.handleZeroCreditReached_ok hc
    exact h.shaperTimer hshaper fun _ => Column.credit_zeroCreditReached hs'
  | requestPacketMsg =>
    rw [step] at hs
    split at hs
    · rename_i hq
      exact h.handleRequestPacketEvent hq.2 hs
    · cases hs
  | packetEnqueuedMsg =>
    rw [step] at hs
    split at hs
    · rename_i hq
      exact h.handlePacketEnqueuedEvent hq.2 hs
    · cases hs

/-! ## requests are answered -/

/-- a request to `TransmissionSelection`, or one that is passed on, or its packet -/
def Passes (n : Network numGates) : NetworkEvent numGates → Prop
  | .requestPacketMsg => n.mac.transmissionSelection.requestPacketMsg = true ∧ n.Settled
  | .handleMessage i => ¬(n.columns i).TimerDue n.mac.time ∧
    ∃ m ∈ (n.columns i).messages.head?, m.token = true ∧ ∀ packet, m ≠ .packet packet
  | _ => False

/-- no error branch and no `ASSERT` on the way is reached -/
theorem passes {e : NetworkEvent numGates} (h : Handshake n) (hp : n.Passes e) :
    ∃ n', n.step cfg e = .ok n' := by
  cases e with
  | requestPacketMsg =>
    have hus := h.fresh hp.1
    have hin : n.mac.transmissionSelection.packetRequestedFromInputs = false :=
      Bool.eq_false_iff.mpr fun hin => absurd (hus.symm.trans (h.inputs hin)) nofun
    obtain ⟨r, hr⟩ : ∃ r, n.selection.handleRequestPacketEvent n.mac.onHold = .ok r :=
      TransmissionSelection.handleRequestPacketEvent_eq hus hin
    rw [step, if_pos (show _ ∧ _ from hp)]
    exact ⟨_, bind_ok.mpr ⟨r, hr, rfl⟩⟩
  | handleMessage i =>
    obtain ⟨hdue, m, hhead, hm, hpacket⟩ := hp
    obtain ⟨l, hl⟩ : ∃ l, (n.columns i).messages = m :: l := List.head?_eq_some_iff.mp hhead
    have hgranted : Column.Granted n.mac.onHold { n.columns i with messages := m :: l } := by
      rw [← hl]
      exact h.granted i
    have hcolumn : (n.setColumn i { n.columns i with messages := l }).columns i =
        { n.columns i with messages := l } := setColumn_self
    rw [step, Network.handleMessage, hl]
    dsimp only
    rw [if_neg hdue]
    unfold deliver
    split
    · rename_i packet
      obtain ⟨hus, _⟩ := h.underWay i (by rw [Column.tokens_cons_true hl rfl]; exact Nat.succ_pos _)
      have hasked : (n.setColumn i { n.columns i with
          messages := l }).selection.packetRequestedFromUs = true := hus
      have hgate : (i : Nat) <
          (n.setColumn i { n.columns i with messages := l }).selection.tGates.length := by
        show _ < (List.ofFn _).length
        rw [List.length_ofFn]
        exact i.isLt
      obtain ⟨r, hr⟩ := TransmissionSelection.handlePacket_eq hgate hasked packet
      exact ⟨_, bind_ok.mpr ⟨r, hr, rfl⟩⟩
    · cases hm
    · rename_i hsel _
      rw [hcolumn]
      obtain ⟨r, hr⟩ : ∃ r, { n.columns i with messages := l }.handleMessage (cfg.shaper i) n.mac.time
          n.mac.onHold m = .ok r := Column.passes_handleMessage hm ⟨hpacket, hsel⟩ hgranted
      exact ⟨_, bind_ok.mpr ⟨r, hr, rfl⟩⟩
  | _ => exact hp.elim

/-- **One request at a time, and one packet for each**: in every state that a run without interruptions
reaches. -/
theorem handshake_sound (cfg : NetworkConfig numGates) (preemptedBytesSent : Nat)
    (es : List (NetworkEvent numGates))
    (hm : Meets (step cfg) (Uninterrupted cfg) (start cfg preemptedBytesSent) es)
    (hr : run (step cfg) (start cfg preemptedBytesSent) es = .ok n) :
    (∀ e, n.Passes e → ∃ n', n.step cfg e = .ok n') ∧
    (n.mac.transmissionSelection.requestPacketMsg = true →
      n.mac.transmissionSelection.packetRequestedFromUs = false) ∧
    (n.mac.transmissionSelection.packetRequestedFromInputs = true →
      n.mac.transmissionSelection.packetRequestedFromUs = true) ∧
    (∀ i, n.selected.count i = n.delivered.count i + (n.columns i).tokens) ∧
    (∀ t, n.CanAdvance t → ∀ i, n.selected.count i = n.delivered.count i) ∧
    (∀ i j, 0 < (n.columns i).tokens → 0 < (n.columns j).tokens → i = j) ∧
    (∀ i, (n.columns i).tokens ≤ 1 ∧ (0 < (n.columns i).tokens →
      n.mac.transmissionSelection.packetRequestedFromUs = true)) := by
  have h : Handshake n := run_invariant_of (fun _ _ _ hi hc hs => handshake_step hi hc hs)
    (.start cfg preemptedBytesSent) hm hr
  refine ⟨fun e hp => passes h hp, h.fresh, h.inputs, h.counts, fun t ht i => ?_, h.single,
    fun i => ⟨h.atMost i, fun hi => (h.underWay i hi).1⟩⟩
  have htokens : (n.columns i).tokens = 0 := Handshake.tokens_of_empty (ht.2 i).1
  have hcounts := h.counts i
  omega

/-! ## runs -/

/-- a number of a queue below 2 -/
scoped instance : NeZero 2 := ⟨two_ne_zero⟩

/-- a shaped queue at gate 0 and an express queue at gate 1 -/
def twoQueues : NetworkConfig 2 where
  mac := fastMac
  isExpressQueue := fun i => i = 1
  creditBased := fun i => i = 0
  shaper := fun _ => ⟨100000000, 1 / 2, fastMac.txrate_pos, halfRate.factor_pos, halfRate.factor_lt⟩
  bufferCapacity := fun _ => 100000

/-- a packet arrives, and `TransmissionSelection` hears of it -/
def arrive (i : Fin 2) (packet : Packet) : List (NetworkEvent 2) :=
  [.enqueue i packet, .handleMessage i, .handleMessage i]

/-- the request goes to the queue, and the packet to the MAC -/
def answer (i : Fin 2) : List (NetworkEvent 2) :=
  .packetEnqueuedMsg :: List.replicate 7 (.handleMessage i)

/-- after the first packet the MAC waits, is put on hold and released again -/
def uninterruptedRun : List (NetworkEvent 2) :=
  .requestPacketMsg :: arrive 0 bulkFrame ++ answer 0 ++
  [.advance (byteTimes 508), .macTimer .endTx, .macTimer .endIFG, .requestPacketMsg,
   .advance (byteTimes 541), .endSpendingCredit 0, .advance (byteTimes 600), .hold 0,
   .enqueue 0 nextBulkFrame, .handleMessage 0, .advance (byteTimes 700), .release, .requestPacketMsg,
   .advance (byteTimes 1082), .reachedZeroCredit 0, .handleMessage 0] ++
  arrive 1 expressFrame ++ answer 1

theorem handshake_sound_uninterruptedRun : ∃ n,
    run (step twoQueues) (start twoQueues 0) uninterruptedRun = .ok n ∧
    (n.selected = [0, 1] ∧ n.delivered = [0, 1]) ∧
    ∀ e, n.Passes e → ∃ n', n.step twoQueues e = .ok n' := by
  obtain ⟨n, hn, hp⟩ : ∃ n, run (step twoQueues) (start twoQueues 0) uninterruptedRun = .ok n ∧
      (n.selected = [0, 1] ∧ n.delivered = [0, 1]) := exists_of_any (by decide +kernel)
  exact ⟨n, hn, hp, (handshake_sound twoQueues 0 uninterruptedRun (by decide +kernel) hn).1⟩

/-- an express packet waits behind its gate, and the MAC for an answer, when the gate opens and the MAC
is put on hold -/
def secondRequest : List (NetworkEvent 2) :=
  [.requestPacketMsg, .setGateState 1 false false, .handleMessage 1, .handleMessage 1] ++
  arrive 1 expressFrame ++
  [.advance 1, .setGateState 1 true false, .hold 0, .handleMessage 1, .handleMessage 1,
   .requestPacketMsg]

/-- `checkForAndRequestExpressFrame` does not ask whether a request is outstanding -/
theorem handshake_unsound : run (step twoQueues) (start twoQueues 0) secondRequest =
    .error (.runtimeError
      "TransmissionSelection module only supports one packet request at a +time.") :=
  eq_error_of (by decide +kernel)

end Network
end Nesting
