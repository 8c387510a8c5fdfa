import Nesting.Queue.ColumnSteps

/-!
# Requests and packets under way in a column

* `token`, `tokens`   a request on its way to the queue, or the packet on its way back;
* `Granted`         what a request relies on when it is passed on;
* `untouched_handleMessage`   the other messages leave the tokens alone;
* `granted_pass`    a token that is handled is passed on, and finds what it relies on.
-/

set_option linter.unusedVariables false

namespace Nesting

open Lib

/-- a request, or the packet it leads to -/
def ColumnMsg.token : ColumnMsg → Bool
  | .gateRequest => true
  | .requestPacketMsg => true
  | .queueRequest => true
  | .packet _ => true
  | .gatePacket _ => true
  | .selectionPacket _ => true
  | _ => false

namespace Column

variable {c c' : Column} {m : ColumnMsg} {l : List ColumnMsg} {onHold : Bool}

def tokens (c : Column) : Nat := c.messages.countP ColumnMsg.token

/-- a request that is passed on finds a packet -/
structure Granted (onHold : Bool) (c : Column) : Prop where
  gate : .gateRequest ∈ c.messages → c.isEmpty onHold = false
  algorithm : .requestPacketMsg ∈ c.messages → c.queue.isEmpty c.maxTransmittableBits = false
  queue : .queueRequest ∈ c.messages → c.queue.isEmpty c.queueMaxTransmittableBits = false

theorem tokens_cons_true (h : c.messages = m :: l) (hm : m.token = true) :
    c.tokens = l.countP ColumnMsg.token + 1 := by
  unfold tokens
  rw [h, List.countP_cons, if_pos hm]

theorem tokens_cons_false (h : c.messages = m :: l) (hm : m.token = false) :
    c.tokens = l.countP ColumnMsg.token := by
  unfold tokens
  rw [h, List.countP_cons, hm, if_neg nofun, Nat.add_zero]

theorem not_token_of_countP (h : l.countP ColumnMsg.token = 0) : ∀ x ∈ l, x.token = false :=
  fun x hx => Bool.eq_false_iff.mpr (List.countP_eq_zero.mp h x hx)

/-- nobody relies on a column without requests -/
theorem Granted.of_quiet (h : ∀ x ∈ c.messages, x ≠ .gateRequest ∧ x ≠ .requestPacketMsg ∧
    x ≠ .queueRequest) : Granted onHold c :=
  ⟨fun hm => absurd rfl (h _ hm).1, fun hm => absurd rfl (h _ hm).2.1,
    fun hm => absurd rfl (h _ hm).2.2⟩

theorem Granted.of_tokens (h : c.tokens = 0) : Granted onHold c := by
  refine .of_quiet fun x hx => ?_
  have hx := not_token_of_countP h x hx
  refine ⟨?_, ?_, ?_⟩ <;> rintro rfl <;> cases hx

/-- the algorithm has a packet, so the queue has one -/
theorem queue_of_algorithm (h : c.algorithmEmpty = false) :
    c.queue.isEmpty c.maxTransferableBits = false := by
  unfold algorithmEmpty at h
  split at h
  · exact h
  · exact (Bool.or_eq_false_iff.mp h).2

/-! ## the queue grows at its end -/

theorem isEmpty_append {q : LengthAwareQueue} {maxBits b capacity : Nat}
    (h : q.isEmpty maxBits = false) :
    LengthAwareQueue.isEmpty ⟨q.queue ++ [b], capacity⟩ maxBits = false := by
  unfold LengthAwareQueue.isEmpty at h ⊢
  cases hq : q.queue with
  | nil =>
    rw [hq] at h
    cases h
  | cons a rest =>
    rw [hq] at h
    exact h

theorem isEmpty_enqueue {q : LengthAwareQueue} {maxBits b : Nat} (h : q.isEmpty maxBits = false) :
    (q.enqueue b).isEmpty maxBits = false := by
  unfold LengthAwareQueue.enqueue
  split
  · exact isEmpty_append h
  · exact h

/-- an arrival changes the packets and the messages only -/
structure SameButQueue (c c' : Column) : Prop where
  gateOpen : c'.gateOpen = c.gateOpen
  isExpressQueue : c'.isExpressQueue = c.isExpressQueue
  maxTransferableBits : c'.maxTransferableBits = c.maxTransferableBits
  shaper : c'.shaper = c.shaper
  maxTransmittableBits : c'.maxTransmittableBits = c.maxTransmittableBits
  queueMaxTransmittableBits : c'.queueMaxTransmittableBits = c.queueMaxTransmittableBits

theorem enqueue_same (c : Column) (packet : Packet) : SameButQueue c (c.enqueue packet) ∧
    (c.enqueue packet).messages = post .packetEnqueuedMsg c.messages := by
  unfold enqueue
  split
  · exact ⟨⟨rfl, rfl, rfl, rfl, rfl, rfl⟩, rfl⟩
  · exact ⟨⟨rfl, rfl, rfl, rfl, rfl, rfl⟩, rfl⟩

theorem algorithmEmpty_enqueue {packet : Packet} (h : c.algorithmEmpty = false) :
    (c.enqueue packet).algorithmEmpty = false := by
  have hsame := (enqueue_same c packet).1
  unfold algorithmEmpty at h ⊢
  rw [hsame.shaper, hsame.maxTransferableBits, enqueue_queue]
  split
  · rename_i hs
    rw [hs] at h
    exact isEmpty_enqueue h
  · rename_i s hs
    rw [hs] at h
    obtain ⟨hc, hq⟩ := Bool.or_eq_false_iff.mp h
    exact Bool.or_eq_false_iff.mpr ⟨hc, isEmpty_enqueue hq⟩

theorem isEmpty_enqueue_column {packet : Packet} (h : c.isEmpty onHold = false) :
    (c.enqueue packet).isEmpty onHold = false := by
  have hsame := (enqueue_same c packet).1
  obtain ⟨hg, hh, ha⟩ := isEmpty_eq_false.mp h
  refine isEmpty_eq_false.mpr ⟨?_, ?_, algorithmEmpty_enqueue ha⟩
  · rw [hsame.gateOpen]
    exact hg
  · rw [hsame.isExpressQueue]
    exact hh

theorem Granted.enqueue {packet : Packet} (h : Granted onHold c) :
    Granted onHold (c.enqueue packet) := by
  obtain ⟨hsame, hm⟩ := enqueue_same c packet
  refine ⟨fun hmem => ?_, fun hmem => ?_, fun hmem => ?_⟩
  · rw [hm] at hmem
    exact isEmpty_enqueue_column (h.gate ((mem_post.mp hmem).resolve_left nofun))
  · rw [hm] at hmem
    rw [enqueue_queue, hsame.maxTransmittableBits]
    exact isEmpty_enqueue (h.algorithm ((mem_post.mp hmem).resolve_left nofun))
  · rw [hm] at hmem
    rw [enqueue_queue, hsame.queueMaxTransmittableBits]
    exact isEmpty_enqueue (h.queue ((mem_post.mp hmem).resolve_left nofun))

theorem Granted.of_messages {l' : List ColumnMsg} (h : Granted onHold { c with messages := l })
    (hsub : ∀ x ∈ l', x.token = true → x ∈ l) : Granted onHold { c with messages := l' } :=
  ⟨fun hm => h.gate (hsub _ hm rfl), fun hm => h.algorithm (hsub _ hm rfl),
    fun hm => h.queue (hsub _ hm rfl)⟩

/-- the shaper does not lose what it has earned -/
theorem Granted.of_shaper {l' : List ColumnMsg} {s s' : CreditBasedShaper}
    (h : Granted onHold { c with
      messages := l
      shaper := some s }) (hc : 0 ≤ s.credit → 0 ≤ s'.credit)
    (hsub : ∀ x ∈ l', x.token = true → x ∈ l) : Granted onHold { c with
      messages := l'
      shaper := some s' } := by
  refine ⟨fun hm => ?_, fun hm => h.algorithm (hsub _ hm rfl), fun hm => h.queue (hsub _ hm rfl)⟩
  obtain ⟨hg, hh, ha⟩ := isEmpty_eq_false.mp (h.gate (hsub _ hm rfl))
  refine isEmpty_eq_false.mpr ⟨hg, hh, ?_⟩
  obtain ⟨hpos, hq⟩ := Bool.or_eq_false_iff.mp ha
  refine Bool.or_eq_false_iff.mpr ⟨?_, hq⟩
  rw [Bool.not_eq_false'] at hpos ⊢
  exact CreditBasedShaper.isCreditPositive_iff.mpr (hc (CreditBasedShaper.isCreditPositive_iff.mp hpos))

theorem tokens_enqueue (c : Column) (packet : Packet) : (c.enqueue packet).tokens = c.tokens := by
  unfold tokens
  rw [(enqueue_same c packet).2, countP_post rfl]

/-! ## credit that is not negative stays so while a request is under way -/

section credit
open CreditBasedShaper
variable {cfg : ShaperConfig} {s s' : CreditBasedShaper} {now : SimTime} {gateOpen ready notify : Bool}

theorem credit_gateStateChanged
    (h : s.handleGateStateChangedEvent cfg now gateOpen ready = .ok s') (hc : 0 ≤ s.credit) :
    0 ≤ s'.credit := by
  obtain ⟨_, _, _, _, rfl⟩ | ⟨_, _, _, _, rfl⟩ | ⟨_, _, hle, rfl⟩ | ⟨rfl, _⟩ :=
    handleGateStateChangedEvent_ok h
  · exact hc
  · exact hc
  · have := mul_nonneg (sub_nonneg.mpr hle) (le_of_lt cfg.idleSlope_pos)
    show 0 ≤ s.credit + (now - s.lastEventTimestamp) * cfg.getIdleSlope
    linarith
  · exact hc

theorem credit_packetEnqueued
    (h : s.handlePacketEnqueuedEvent now gateOpen ready = .ok (s', notify)) (hc : 0 ≤ s.credit) :
    0 ≤ s'.credit := by
  obtain ⟨_, ⟨_, _, _, _, rfl⟩ | ⟨_, _, rfl⟩⟩ := handlePacketEnqueuedEvent_ok h
  · exact hc
  · exact hc

theorem credit_endSpendingCredit
    (h : { s with endSpendingCreditMessage := none }.handleEndSpendingCreditEvent cfg now gateOpen
      ready = .ok (s', notify)) (hc : 0 ≤ s.credit) : 0 ≤ s'.credit := by
  obtain ⟨_, ⟨_, _, rfl⟩ | ⟨_, _, _, _, rfl⟩ | ⟨_, _, _, _, rfl⟩ | ⟨_, _, _, _, rfl⟩⟩ :=
    handleEndSpendingCreditEvent_ok h
  · exact hc
  · exact hc
  · exact le_refl _
  · exact hc

theorem credit_zeroCreditReached
    (h : { s with reachedZeroCreditMessage := none }.handleZeroCreditReachedEvent cfg now gateOpen
      ready = .ok (s', notify)) : 0 ≤ s'.credit := by
  obtain ⟨_, _, _, _, rfl⟩ := handleZeroCreditReachedEvent_ok h
  exact le_refl _

end credit

/-! ## the messages of a column -/

section messages
variable {cfg : ShaperConfig} {now : SimTime}

/-- a token is passed on where no other is -/
theorem countP_pass (h : l.countP ColumnMsg.token = 0) (hm : m.token = true) :
    (l ++ [m]).countP ColumnMsg.token = 1 ∧ (post m l).countP ColumnMsg.token = 1 := by
  have hfilter : (l.filter fun x => x ≠ m).countP ColumnMsg.token = 0 :=
    Nat.le_zero.mp (h ▸ List.filter_sublist.countP_le)
  unfold post
  rw [List.countP_append, List.countP_append, List.countP_singleton, hm, h, hfilter]
  exact ⟨rfl, rfl⟩

theorem tokens_notify (l : List ColumnMsg) (notify : Bool) :
    (if notify = true then post .gatePacketEnqueued l else l).countP ColumnMsg.token =
      l.countP ColumnMsg.token := by
  split
  · exact countP_post rfl
  · rfl

theorem mem_of_notify {notify : Bool}
    (h : m ∈ if notify = true then post .gatePacketEnqueued l else l) (hm : m.token = true) :
    m ∈ l := by
  split at h
  · obtain rfl | h := mem_post.mp h
    · cases hm
    · exact h
  · exact h

/-- a message that is no token leaves the tokens and what they rely on -/
structure Untouched (onHold : Bool) (l : List ColumnMsg) (c c' : Column) : Prop where
  granted : Granted onHold { c with messages := l } → Granted onHold c'
  tokens : c'.tokens = l.countP ColumnMsg.token

theorem Untouched.of_sub {l' : List ColumnMsg} (hsub : ∀ x ∈ l', x.token = true → x ∈ l)
    (ht : l'.countP ColumnMsg.token = l.countP ColumnMsg.token) :
    Untouched onHold l c { c with messages := l' } := ⟨fun h => h.of_messages hsub, ht⟩

theorem untouched_post (hm : m.token = false) :
    Untouched onHold l c { c with messages := post m l } := by
  refine .of_sub (fun x hx ht => ?_) (countP_post hm)
  obtain rfl | hx := mem_post.mp hx
  · cases hm.symm.trans ht
  · exact hx

theorem untouched_handleMessage {notify : Bool} (hm : m.token = false)
    (hs : { c with messages := l }.handleMessage cfg now onHold m = .ok (c', notify)) :
    Untouched onHold l c c' := by
  cases m with
  | gateStateChanged =>
    cases hs
    exact untouched_post rfl
  | gatePacketEnqueued =>
    cases hs
    exact .of_sub (fun x hx _ => hx) rfl
  | gateStateChangedMsg =>
    obtain ⟨_, ⟨_, rfl⟩ | ⟨s, s', hshaper, hs', rfl⟩⟩ := gateStateChangedMsg_ok hs
    · exact .of_sub (fun x hx _ => hx) rfl
    · refine ⟨fun hg => ?_, rfl⟩
      refine Granted.of_shaper (c := c) (l := l) (s := s) ?_ (credit_gateStateChanged hs')
        fun x hx _ => hx
      rw [← hshaper]
      exact hg
  | packetEnqueuedMsg =>
    obtain ⟨_, ⟨_, rfl⟩ | ⟨s, s', notified, hshaper, hs', rfl⟩⟩ := packetEnqueuedMsg_ok hs
    · exact untouched_post (m := .gatePacketEnqueued) rfl
    · refine ⟨fun hg => ?_, tokens_notify l notified⟩
      refine Granted.of_shaper (c := c) (l := l) (s := s) ?_ (credit_packetEnqueued hs')
        fun x hx ht => mem_of_notify hx ht
      rw [← hshaper]
      exact hg
  | macPacket packet => cases hs
  | _ => cases hm

/-- a token that is passed on relies on what the last step has found -/
theorem granted_pass {notify : Bool} (hm : m.token = true)
    (h : Granted onHold { c with messages := m :: l }) (hl : l.countP ColumnMsg.token = 0)
    (hs : { c with messages := l }.handleMessage cfg now onHold m = .ok (c', notify)) :
    notify = false ∧ Granted onHold c' ∧ c'.tokens = 1 := by
  have hquiet := not_token_of_countP hl
  have hposted : ∀ x t : ColumnMsg, x ∈ post t l → x.token = true → x = t := by
    intro x t hx ht
    obtain rfl | hx := mem_post.mp hx
    · rfl
    · cases (hquiet x hx).symm.trans ht
  have hsent : ∀ {c1 : Column} (t : ColumnMsg), c1.messages = l ++ [t] → t.token = true →
      t ≠ .gateRequest ∧ t ≠ .requestPacketMsg ∧ t ≠ .queueRequest →
      Granted onHold c1 ∧ c1.tokens = 1 := by
    intro c1 t hc ht hne
    refine ⟨.of_quiet fun x hx => ?_, ?_⟩
    · rw [hc] at hx
      obtain hx | hx := List.mem_append.mp hx
      · have hx := hquiet x hx
        refine ⟨?_, ?_, ?_⟩ <;> rintro rfl <;> cases hx
      · rw [List.mem_singleton.mp hx]
        exact hne
    · unfold tokens
      rw [hc]
      exact (countP_pass hl ht).1
  cases m with
  | gateRequest =>
    obtain ⟨_, hne, rfl, rfl⟩ := gateRequest_ok hs
    refine ⟨rfl, ⟨fun hx => ?_, fun _ => queue_of_algorithm hne, fun hx => ?_⟩,
      (countP_pass hl rfl).2⟩
    · cases hposted _ _ hx rfl
    · cases hposted _ _ hx rfl
  | requestPacketMsg =>
    cases hs
    refine ⟨rfl, ⟨fun hx => ?_, fun hx => ?_, fun _ => h.algorithm List.mem_cons_self⟩,
      (countP_pass hl rfl).2⟩
    · cases hposted _ _ hx rfl
    · cases hposted _ _ hx rfl
  | queueRequest =>
    obtain ⟨rfl, packet, _, _, _, rfl⟩ := queueRequest_ok hs
    exact ⟨rfl, hsent (.packet packet) rfl rfl ⟨nofun, nofun, nofun⟩⟩
  | packet packet =>
    obtain ⟨rfl, _, rfl⟩ := packet_ok hs
    exact ⟨rfl, hsent (.gatePacket packet) rfl rfl ⟨nofun, nofun, nofun⟩⟩
  | gatePacket packet =>
    cases hs
    exact ⟨rfl, hsent (.selectionPacket packet) rfl rfl ⟨nofun, nofun, nofun⟩⟩
  | selectionPacket packet => cases hs
  | _ => cases hm

/-- no `ASSERT` on the way fails -/
theorem passes_handleMessage (hm : m.token = true)
    (hother : (∀ packet, m ≠ .packet packet) ∧ ∀ packet, m ≠ .selectionPacket packet)
    (h : Granted onHold { c with messages := m :: l }) :
    ∃ r, { c with messages := l }.handleMessage cfg now onHold m = .ok r := by
  cases m with
  | gateRequest =>
    have hne := h.gate List.mem_cons_self
    obtain ⟨_, _, ha⟩ := isEmpty_eq_false.mp hne
    exact ⟨_, bind_ok.mpr ⟨(), ASSERT_ok.mpr (Bool.not_eq_true' _ |>.mpr hne), bind_ok.mpr ⟨(),
      ASSERT_ok.mpr (Bool.not_eq_true' _ |>.mpr ha), rfl⟩⟩⟩
  | requestPacketMsg => exact ⟨_, rfl⟩
  | queueRequest =>
    have hne : c.queue.isEmpty c.queueMaxTransmittableBits = false := h.queue List.mem_cons_self
    obtain ⟨packet, packets, hp⟩ : ∃ packet packets, c.packets = packet :: packets := by
      cases hp : c.packets with
      | nil =>
        unfold queue at hne
        rw [hp] at hne
        cases hne
      | cons packet packets => exact ⟨packet, packets, rfl⟩
    have hqueue : c.queue.queue = packet.bitLength :: packets.map Packet.bitLength := by
      unfold queue
      rw [hp]
      rfl
    have hrelease : ∃ r, c.queue.handleRequestPacketEvent c.queueMaxTransmittableBits = .ok r := by
      unfold LengthAwareQueue.handleRequestPacketEvent
      rw [hne, hqueue]
      exact ⟨_, rfl⟩
    obtain ⟨r, hr⟩ := hrelease
    have hpop : ∃ c1, { c with messages := l }.handleRequestPacketEvent = .ok c1 := by
      unfold handleRequestPacketEvent
      dsimp only
      unfold queue at hr
      rw [hp] at hr ⊢
      exact ⟨_, bind_ok.mpr ⟨r, hr, rfl⟩⟩
    obtain ⟨c1, h1⟩ := hpop
    exact ⟨_, bind_ok.mpr ⟨c1, h1, rfl⟩⟩
  | packet packet => exact absurd rfl (hother.1 packet)
  | gatePacket packet => exact ⟨_, rfl⟩
  | selectionPacket packet => exact absurd rfl (hother.2 packet)
  | _ => cases hm

end messages

end Column

end Nesting
