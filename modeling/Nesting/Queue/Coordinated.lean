import Nesting.Queue.ShaperSteps

/-!
# When the shaper is told in time

The gate, the queue and the credit change at once, the shaper hears of it by a message of the same
instant.  Its state therefore lags behind; what it still has to hear is among the messages.

* `Posted`, `Stocked`, `Ledger`   the messages, the queue and the timers;
* `Idle`, `Closing`    what is on its way while the shaper is idle, or earns before a closed gate;
* `Coordinated`        the invariant;
* `Careful`            the events that keep it.
-/

set_option linter.unusedVariables false

namespace Nesting

open Lib CreditBasedShaper

/-- a request or a packet on its way -/
def ShaperMsg.Token : ShaperMsg → Prop
  | .gateRequest => True
  | .requestPacket => True
  | .queueRequest => True
  | .packet _ => True
  | _ => False

def ShaperMsg.Apart (x y : ShaperMsg) : Prop := x ≠ y ∧ ¬(x.Token ∧ y.Token)

variable {m : ShaperMsg} {l : List ShaperMsg} {queue : List Nat} {b : Nat} {credit : ℚ}

/-! ## the messages -/

/-- no message twice, and at most one request; a request to the gate is the next message -/
structure Posted (l : List ShaperMsg) : Prop where
  apart : l.Pairwise ShaperMsg.Apart
  first : .gateRequest ∈ l → l.head? = some .gateRequest

namespace Posted

theorem notMem (h : Posted (m :: l)) : m ∉ l :=
  fun hm => ((List.pairwise_cons.mp h.apart).1 m hm).1 rfl

/-- behind a request there is no other -/
theorem quiet (h : Posted (m :: l)) (hm : m.Token) : ∀ x ∈ l, ¬x.Token :=
  fun x hx ht => ((List.pairwise_cons.mp h.apart).1 x hx).2 ⟨hm, ht⟩

theorem noRequest (h : Posted (m :: l)) : .gateRequest ∉ l := by
  intro hg
  have hm := Option.some.inj (h.first (List.mem_cons_of_mem _ hg))
  rw [← hm] at hg
  exact h.notMem hg

theorem tail (h : Posted (m :: l)) : Posted l :=
  ⟨h.apart.of_cons, fun hg => absurd hg h.noRequest⟩

theorem apart_post (h : l.Pairwise ShaperMsg.Apart) (hm : ∀ x ∈ l, ¬(x.Token ∧ m.Token)) :
    (Lib.post m l).Pairwise ShaperMsg.Apart := by
  refine List.pairwise_append.mpr ⟨h.filter _, List.pairwise_singleton _ _, fun x hx y hy => ?_⟩
  cases List.mem_singleton.mp hy
  obtain ⟨hx, hne⟩ := List.mem_filter.mp hx
  exact ⟨of_decide_eq_true hne, hm x hx⟩

theorem post (h : Posted l) (hm : ¬m.Token) : Posted (Lib.post m l) := by
  refine ⟨apart_post h.apart fun x _ ht => hm ht.2, fun hg => ?_⟩
  obtain rfl | hg := mem_post.mp hg
  · exact absurd trivial hm
  · refine head_post (h.first hg) ?_
    rintro rfl
    exact hm trivial

/-- a request is passed on -/
theorem answer {t : ShaperMsg} (h : Posted (t :: l)) (ht : t.Token) (hm : m ≠ .gateRequest) :
    Posted (Lib.post m l) := by
  refine ⟨apart_post h.apart.of_cons fun x hx hxt => h.quiet ht x hx hxt.1, fun hg => ?_⟩
  obtain rfl | hg := mem_post.mp hg
  · exact absurd rfl hm
  · exact absurd hg h.noRequest

end Posted

/-! ## the queue -/

/-- all packets are ready, and there is one for everyone who was told so -/
structure Stocked (l : List ShaperMsg) (queue : List Nat) : Prop where
  sizes : ∀ b ∈ queue, b + preambleSize ≤ kEthernet2MaximumTransmissionUnitBitLength
  arrival : .packetEnqueued ∈ l → queue ≠ [] ∧
    (Ahead .queueRequest .packetEnqueued l → 2 ≤ queue.length)
  wanted : .requestPacket ∈ l ∨ .queueRequest ∈ l → queue ≠ []

namespace Stocked

theorem tail (h : Stocked (m :: l) queue) : Stocked l queue := by
  refine ⟨h.sizes, fun he => ?_, fun hw => h.wanted ?_⟩
  · obtain ⟨hne, hlen⟩ := h.arrival (List.mem_cons_of_mem _ he)
    exact ⟨hne, fun ha => hlen (ahead_cons.mpr (.inr ha))⟩
  · exact hw.imp (List.mem_cons_of_mem _) (List.mem_cons_of_mem _)

/-- a message that is not about the queue -/
theorem post (h : Stocked l queue) (he : m ≠ .packetEnqueued)
    (hw : m = .requestPacket ∨ m = .queueRequest → queue ≠ []) : Stocked (Lib.post m l) queue := by
  refine ⟨h.sizes, fun hmem => ?_, fun hmem => ?_⟩
  · obtain ⟨hne, hlen⟩ := h.arrival ((mem_post.mp hmem).resolve_left (Ne.symm he))
    refine ⟨hne, fun ha => ?_⟩
    obtain ⟨rfl, _⟩ | ⟨_, _, ha⟩ := ha.of_post nofun
    · exact absurd rfl he
    · exact hlen ha
  · obtain hmem | hmem := hmem
    · obtain rfl | hmem := mem_post.mp hmem
      · exact hw (.inl rfl)
      · exact h.wanted (.inl hmem)
    · obtain rfl | hmem := mem_post.mp hmem
      · exact hw (.inr rfl)
      · exact h.wanted (.inr hmem)

end Stocked

/-- the timers of the shaper and its state -/
structure Ledger (cfg : ShaperConfig) (now : SimTime) (s : CreditBasedShaper) : Prop where
  past : s.lastEventTimestamp ≤ now
  earning : ∀ t ∈ s.reachedZeroCreditMessage, s.state = .kEarnCredit ∧ s.credit < 0 ∧
    s.credit + (t - s.lastEventTimestamp) * cfg.getIdleSlope = 0
  spending : ∀ t ∈ s.endSpendingCreditMessage, s.state = .kSpendCredit

/-! ## what the shaper has not heard of yet -/

/-- what is on its way to an idle shaper behind an open gate -/
structure Idle (l : List ShaperMsg) (credit : ℚ) (queue : List Nat) : Prop where
  owed : credit < 0 → .gateStateChanged ∈ l ∨ .shaperGateStateChanged ∈ l
  waiting : queue ≠ [] →
    .gateStateChanged ∈ l ∨ .shaperGateStateChanged ∈ l ∨ .packetEnqueued ∈ l
  arrival : .packetEnqueued ∈ l →
    .gateStateChanged ∉ l ∧ ¬Ahead .packetEnqueued .shaperGateStateChanged l
  twice : .gateStateChanged ∈ l → .shaperGateStateChanged ∈ l → 0 ≤ credit ∧ queue = []

/-- what is on its way to a shaper that earns behind a closed gate -/
structure Closing (l : List ShaperMsg) : Prop where
  told : .gateStateChanged ∈ l ∨ .shaperGateStateChanged ∈ l
  request : .requestPacket ∉ l
  packet : ∀ b, ¬Ahead .shaperGateStateChanged (.packet b) l
  queue : .queueRequest ∈ l →
    .shaperGateStateChanged ∉ l ∧ ¬Ahead .gateStateChanged .queueRequest l

namespace ShapedQueue

variable {cfg : ShaperConfig} {s s' : ShapedQueue}

structure Coordinated (cfg : ShaperConfig) (s : ShapedQueue) : Prop where
  posted : Posted s.messages
  stocked : Stocked s.messages s.queue.queue
  ledger : Ledger cfg s.time s.shaper
  token : ∀ m ∈ s.messages, m.Token → 0 ≤ s.shaper.credit ∧ s.shaper.state = .kEarnCredit
  idle : s.gateOpen = true → s.shaper.state = .kIdle →
    Idle s.messages s.shaper.credit s.queue.queue
  earning : s.gateOpen = true → s.shaper.state = .kEarnCredit →
    .gateStateChanged ∉ s.messages ∧ .shaperGateStateChanged ∉ s.messages
  closing : s.gateOpen = false → s.shaper.state = .kEarnCredit →
    Closing s.messages ∧ s.shaper.reachedZeroCreditMessage ≠ some s.time
  spending : s.gateOpen = true → s.shaper.endSpendingCreditMessage = some s.time →
    .gateStateChanged ∈ s.messages ∨ .shaperGateStateChanged ∈ s.messages →
    0 ≤ s.shaper.credit ∧ s.queue.queue = []

/-! ## the events with which the shaper is told in time -/

/-- a packet that does not fit into the buffer leaves others behind, one that does is not too long,
and it does not come together with an opening that the shaper has to hear of -/
def CarefulArrival (s : ShapedQueue) (bitLength : Nat) : Prop :=
  (s.queue.availableBufferCapacity ≥ bitLength →
    bitLength + preambleSize ≤ kEthernet2MaximumTransmissionUnitBitLength) ∧
  (s.queue.availableBufferCapacity < bitLength →
    s.queue.queue ≠ [] ∧ (.queueRequest ∈ s.messages → 2 ≤ s.queue.queue.length)) ∧
  (s.gateOpen = true →
    (s.shaper.state = .kIdle → .gateStateChanged ∉ s.messages) ∧
    (s.shaper.endSpendingCreditMessage = some s.time →
      .gateStateChanged ∉ s.messages ∧ .shaperGateStateChanged ∉ s.messages))

/-- the gate opens when the shaper has heard of its closing and of all arrivals, and not at the end of
a spending period after which credit is earned -/
def CarefulOpening (s : ShapedQueue) : Prop :=
  s.shaper.state ≠ .kEarnCredit ∧
  (s.shaper.state = .kIdle → .packetEnqueued ∉ s.messages ∧
    (.shaperGateStateChanged ∈ s.messages → 0 ≤ s.shaper.credit ∧ s.queue.queue = [])) ∧
  (s.shaper.endSpendingCreditMessage = some s.time →
    0 ≤ s.shaper.credit ∧ s.queue.queue = [])

/-- the gate closes before the credit is zero or after the shaper has heard of it, and not while a
request is on its way to the queue -/
def CarefulClosing (s : ShapedQueue) : Prop :=
  s.shaper.reachedZeroCreditMessage ≠ some s.time ∧ .requestPacket ∉ s.messages

def Careful (s : ShapedQueue) : ShaperEvent → Prop
  | .enqueue bitLength => s.CarefulArrival bitLength
  | .setGateState true => s.gateOpen = false → s.CarefulOpening
  | .setGateState false => s.gateOpen = true → s.CarefulClosing
  | .request => s.shaper.state ≠ .kSpendCredit
  | _ => True

instance (s : ShapedQueue) (bitLength : Nat) : Decidable (s.CarefulArrival bitLength) :=
  inferInstanceAs (Decidable (_ ∧ _ ∧ _))

instance (s : ShapedQueue) : Decidable s.CarefulOpening := inferInstanceAs (Decidable (_ ∧ _ ∧ _))

instance (s : ShapedQueue) : Decidable s.CarefulClosing := inferInstanceAs (Decidable (_ ∧ _))

instance (s : ShapedQueue) : ∀ e, Decidable (s.Careful e)
  | .advance _ => isTrue trivial
  | .enqueue bitLength => inferInstanceAs (Decidable (s.CarefulArrival bitLength))
  | .setGateState true => inferInstanceAs (Decidable (_ → s.CarefulOpening))
  | .setGateState false => inferInstanceAs (Decidable (_ → s.CarefulClosing))
  | .setMaxTransferableBits _ => isTrue trivial
  | .request => inferInstanceAs (Decidable (_ ≠ _))
  | .handleMessage => isTrue trivial
  | .endSpendingCredit => isTrue trivial
  | .reachedZeroCredit => isTrue trivial

/-- a packet is ready exactly when one is stored -/
theorem ready_iff (h : Stocked l s.queue.queue) : s.ready = true ↔ s.queue.queue ≠ [] := by
  unfold ready LengthAwareQueue.isEmpty
  cases hq : s.queue.queue with
  | nil => exact ⟨nofun, fun hne => absurd rfl hne⟩
  | cons b queue =>
    have hsize := h.sizes b (by rw [hq]; exact List.mem_cons_self)
    show (!decide _) = true ↔ _
    rw [decide_eq_false (not_lt.mpr hsize)]
    exact ⟨fun _ => nofun, fun _ => rfl⟩

/-! ## the messages are handled -/

/-- the shaper starts to earn credit -/
theorem Coordinated.begin {shaper : CreditBasedShaper}
    (h : Coordinated cfg { s with messages := m :: l }) (hg : s.gateOpen = true)
    (hi : s.shaper.state = .kIdle) (hG : .gateStateChanged ∉ l) (hA : .shaperGateStateChanged ∉ l)
    (hl : Ledger cfg s.time shaper) (he : shaper.state = .kEarnCredit) :
    Coordinated cfg { s with
      messages := l
      shaper := shaper } := by
  refine ⟨h.posted.tail, h.stocked.tail, hl, ?_, ?_, fun _ _ => ⟨hG, hA⟩, ?_, ?_⟩
  · intro x hx ht
    have := (h.token x (List.mem_cons_of_mem _ hx) ht).2
    cases hi.symm.trans this
  · intro _ hidle
    cases he.symm.trans hidle
  · intro hclosed
    cases hg.symm.trans hclosed
  · intro _ hend
    have := hl.spending s.time hend
    cases he.symm.trans this

theorem coordinated_gateStateChanged
    (h : Coordinated cfg { s with messages := .gateStateChanged :: l }) :
    Coordinated cfg { s with messages := post .shaperGateStateChanged l } := by
  have hG : ShaperMsg.gateStateChanged ∉ l := h.posted.notMem
  have hnew : ShaperMsg.shaperGateStateChanged ∈ post .shaperGateStateChanged l :=
    mem_post.mpr (.inl rfl)
  refine ⟨h.posted.tail.post nofun, h.stocked.tail.post nofun nofun, h.ledger, ?_, ?_, ?_, ?_, ?_⟩
  · intro x hx ht
    obtain rfl | hx := mem_post.mp hx
    · cases ht
    · exact h.token x (List.mem_cons_of_mem _ hx) ht
  · intro hg hi
    refine ⟨fun _ => .inr hnew, fun _ => .inr (.inl hnew), fun he => ?_, fun hmem => ?_⟩
    · have he := (mem_post.mp he).resolve_left nofun
      have := ((h.idle hg hi).arrival (List.mem_cons_of_mem _ he)).1
      exact absurd List.mem_cons_self this
    · exact absurd ((mem_post.mp hmem).resolve_left nofun) hG
  · intro hg he
    exact absurd List.mem_cons_self (h.earning hg he).1
  · intro hg he
    obtain ⟨hc, hz⟩ := h.closing hg he
    refine ⟨⟨.inr hnew, fun hr => ?_, fun b ha => ?_, fun hq => ?_⟩, hz⟩
    · exact hc.request (List.mem_cons_of_mem _ ((mem_post.mp hr).resolve_left nofun))
    · obtain ⟨heq, _⟩ | ⟨hne, _⟩ := ha.of_post nofun
      · cases heq
      · exact hne rfl
    · have hq := (mem_post.mp hq).resolve_left nofun
      exact absurd hq (Ahead.of_head (hc.queue (List.mem_cons_of_mem _ hq)).2)
  · intro hg hend _
    exact h.spending hg hend (.inl List.mem_cons_self)

theorem coordinated_shaperGateStateChanged {shaper : CreditBasedShaper}
    (h : Coordinated cfg { s with messages := .shaperGateStateChanged :: l })
    (hs : s.shaper.handleGateStateChangedEvent cfg s.time s.gateOpen s.ready = .ok shaper) :
    Coordinated cfg { s with
      messages := l
      shaper := shaper } := by
  have hA : ShaperMsg.shaperGateStateChanged ∉ l := h.posted.notMem
  have hready : s.ready = true ↔ s.queue.queue ≠ [] := ready_iff h.stocked
  obtain ⟨hg, hi, hc, hz, rfl⟩ | ⟨hg, hi, hc, hr, rfl⟩ | ⟨hg, he, hle, rfl⟩ | ⟨rfl, hopen, hclosed⟩ :=
    handleGateStateChangedEvent_ok hs
  · have hend := h.ledger.spending
    refine h.begin hg hi (fun hG => ?_) hA ⟨le_refl _, ?_, ?_⟩ rfl
    · have := ((h.idle hg hi).twice (List.mem_cons_of_mem _ hG) List.mem_cons_self).1
      exact absurd hc (not_lt.mpr this)
    · intro t ht
      cases ht
      exact ⟨rfl, hc, zeroTime_credit cfg s.time s.shaper⟩
    · intro t ht
      cases hi.symm.trans (hend t ht)
  · have hend := h.ledger.spending
    have hzero := h.ledger.earning
    refine h.begin hg hi (fun hG => ?_) hA ⟨le_refl _, ?_, ?_⟩ rfl
    · have := ((h.idle hg hi).twice (List.mem_cons_of_mem _ hG) List.mem_cons_self).2
      exact absurd this (hready.mp hr)
    · intro t ht
      cases hi.symm.trans (hzero t ht).1
    · intro t ht
      cases hi.symm.trans (hend t ht)
  · -- no request or packet is left
    have hend := h.ledger.spending
    obtain ⟨hc, _⟩ := h.closing hg he
    have hnone : ∀ x ∈ l, ¬x.Token := by
      intro x hx ht
      cases x with
      | gateRequest => exact h.posted.noRequest hx
      | requestPacket => exact hc.request (List.mem_cons_of_mem _ hx)
      | queueRequest =>
        exact absurd List.mem_cons_self (hc.queue (List.mem_cons_of_mem _ hx)).1
      | packet b => exact Ahead.of_head (hc.packet b) hx
      | _ => exact ht
    refine ⟨h.posted.tail, h.stocked.tail, ⟨le_refl _, nofun, ?_⟩, ?_, ?_, nofun, nofun, ?_⟩
    · intro t ht
      cases he.symm.trans (hend t ht)
    · intro x hx ht
      exact absurd ht (hnone x hx)
    · intro hopen
      cases hg.symm.trans hopen
    · intro hopen
      cases hg.symm.trans hopen
  · refine ⟨h.posted.tail, h.stocked.tail, h.ledger, ?_, ?_, ?_, ?_, ?_⟩
    · intro x hx
      exact h.token x (List.mem_cons_of_mem _ hx)
    · intro hg hi
      obtain ⟨_, hcases⟩ := hopen hg
      obtain ⟨hc, hr⟩ := hcases hi
      have hq : s.queue.queue = [] := by
        by_contra hne
        rw [hready.mpr hne] at hr
        cases hr
      refine ⟨fun hneg => absurd hneg (not_lt.mpr hc), fun hne => absurd hq hne, fun he => ?_,
        fun _ _ => ⟨hc, hq⟩⟩
      obtain ⟨hG, ha⟩ := (h.idle hg hi).arrival (List.mem_cons_of_mem _ he)
      exact ⟨fun hmem => hG (List.mem_cons_of_mem _ hmem), Ahead.tail ha⟩
    · intro hg he
      exact absurd he (hopen hg).1
    · intro hg he
      exact absurd he (hclosed hg)
    · intro hg hend hmem
      exact h.spending hg hend (.inr List.mem_cons_self)

theorem coordinated_packetEnqueued {shaper : CreditBasedShaper} {notify : Bool}
    (h : Coordinated cfg { s with messages := .packetEnqueued :: l })
    (hs : s.shaper.handlePacketEnqueuedEvent s.time s.gateOpen s.ready = .ok (shaper, notify)) :
    Coordinated cfg { s with
      messages := l
      shaper := shaper } := by
  obtain ⟨_, ⟨hi, hg, _, _, rfl⟩ | ⟨hn, _, rfl⟩⟩ := handlePacketEnqueuedEvent_ok hs
  · have hend := h.ledger.spending
    have hzero := h.ledger.earning
    obtain ⟨hG, ha⟩ := (h.idle hg hi).arrival List.mem_cons_self
    refine h.begin hg hi (fun hmem => hG (List.mem_cons_of_mem _ hmem)) (Ahead.of_head ha)
      ⟨le_refl _, ?_, ?_⟩ rfl
    · intro t ht
      cases hi.symm.trans (hzero t ht).1
    · intro t ht
      cases hi.symm.trans (hend t ht)
  · refine ⟨h.posted.tail, h.stocked.tail, h.ledger, ?_, ?_, ?_, ?_, ?_⟩
    · intro x hx
      exact h.token x (List.mem_cons_of_mem _ hx)
    · intro hg hi
      exact absurd ⟨hi, hg⟩ hn
    · intro hg he
      obtain ⟨hG, hA⟩ := h.earning hg he
      exact ⟨fun hmem => hG (List.mem_cons_of_mem _ hmem), fun hmem => hA (List.mem_cons_of_mem _ hmem)⟩
    · intro hg he
      obtain ⟨hc, hz⟩ := h.closing hg he
      refine ⟨⟨?_, fun hr => hc.request (List.mem_cons_of_mem _ hr), fun b => Ahead.tail (hc.packet b),
        fun hq => ?_⟩, hz⟩
      · obtain hG | hA := hc.told
        · exact .inl ((List.mem_cons.mp hG).resolve_left nofun)
        · exact .inr ((List.mem_cons.mp hA).resolve_left nofun)
      · obtain ⟨hA, ha⟩ := hc.queue (List.mem_cons_of_mem _ hq)
        exact ⟨fun hmem => hA (List.mem_cons_of_mem _ hmem), Ahead.tail ha⟩
    · intro hg hend hmem
      exact h.spending hg hend (hmem.imp (List.mem_cons_of_mem _) (List.mem_cons_of_mem _))

/-- a request is passed on -/
theorem Coordinated.forward {t : ShaperMsg} {queue : LengthAwareQueue} {a c : Nat}
    (h : Coordinated cfg { s with messages := t :: l }) (ht : t.Token) (hm : m.Token)
    (hne : m ≠ .gateRequest) (hs : Stocked (post m l) queue.queue)
    (hc : s.gateOpen = false → Closing (post m l)) : Coordinated cfg { s with
      messages := post m l
      maxTransmittableBits := a
      queueMaxTransmittableBits := c
      queue := queue } := by
  obtain ⟨hcredit, he⟩ := h.token t List.mem_cons_self ht
  have hkeep : ∀ x, ¬x.Token → x ∈ post m l → x ∈ t :: l := by
    intro x hx hmem
    obtain rfl | hmem := mem_post.mp hmem
    · exact absurd hm hx
    · exact List.mem_cons_of_mem _ hmem
  refine ⟨h.posted.answer ht hne, hs, h.ledger, fun _ _ _ => ⟨hcredit, he⟩, ?_, ?_, ?_, ?_⟩
  · intro _ hi
    cases he.symm.trans hi
  · intro hg _
    obtain ⟨hG, hA⟩ := h.earning hg he
    exact ⟨fun hmem => hG (hkeep _ nofun hmem), fun hmem => hA (hkeep _ nofun hmem)⟩
  · intro hg _
    exact ⟨hc hg, (h.closing hg he).2⟩
  · intro _ hend
    cases he.symm.trans (h.ledger.spending s.time hend)

theorem coordinated_gateRequest {a : Nat}
    (h : Coordinated cfg { s with messages := .gateRequest :: l }) (hg : s.gateOpen = true)
    (hq : s.queue.queue ≠ []) : Coordinated cfg { s with
      messages := post .requestPacket l
      maxTransmittableBits := a } := by
  refine h.forward trivial trivial nofun (h.stocked.tail.post nofun fun _ => hq) fun hclosed => ?_
  cases hg.symm.trans hclosed

theorem coordinated_requestPacket {a : Nat}
    (h : Coordinated cfg { s with messages := .requestPacket :: l }) : Coordinated cfg { s with
      messages := post .queueRequest l
      queueMaxTransmittableBits := a } := by
  have hq := h.stocked.wanted (.inl List.mem_cons_self)
  refine h.forward trivial trivial nofun (h.stocked.tail.post nofun fun _ => hq) fun hclosed => ?_
  have he := (h.token _ List.mem_cons_self trivial).2
  exact absurd List.mem_cons_self (h.closing hclosed he).1.request

theorem coordinated_queueRequest {queue : LengthAwareQueue}
    (h : Coordinated cfg { s with messages := .queueRequest :: l })
    (hs : s.queue.handleRequestPacketEvent s.queueMaxTransmittableBits = .ok (b, queue)) :
    Coordinated cfg { s with
      messages := l ++ [.packet b]
      queue := queue } := by
  have hquiet := h.posted.quiet trivial
  have hQ : ShaperMsg.queueRequest ∉ l := h.posted.notMem
  obtain ⟨rest, hrest, hqueue⟩ : ∃ rest, s.queue.queue = b :: rest ∧ queue.queue = rest := by
    obtain ⟨_, _, hs⟩ := bind_ok.mp hs
    cases hq : s.queue.queue with
    | nil =>
      rw [hq] at hs
      cases hs
    | cons b' rest =>
      rw [hq] at hs
      cases hs
      exact ⟨rest, rfl, rfl⟩
  have hstock : Stocked (.queueRequest :: l) (b :: rest) := by
    have hstock := h.stocked
    rw [show ({ s with messages := ShaperMsg.queueRequest :: l } : ShapedQueue).queue.queue = b :: rest
      from hrest] at hstock
    exact hstock
  have hP : ShaperMsg.packet b ∉ l := fun hmem => hquiet _ hmem trivial
  rw [← post_of_notMem hP]
  refine h.forward trivial trivial nofun ?_ ?_
  · rw [hqueue]
    refine ⟨fun x hx => hstock.sizes x (List.mem_cons_of_mem _ hx), fun hmem => ?_, fun hmem => ?_⟩
    · have hmem := (mem_post.mp hmem).resolve_left nofun
      have hlen := (hstock.arrival (List.mem_cons_of_mem _ hmem)).2 (ahead_cons.mpr (.inl ⟨rfl, hmem⟩))
      refine ⟨?_, fun ha => ?_⟩
      · rintro rfl
        exact absurd hlen (Nat.not_succ_le_self 1)
      · obtain ⟨heq, _⟩ | ⟨_, _, ha⟩ := ha.of_post nofun
        · cases heq
        · exact absurd ha.mem.1 hQ
    · obtain hmem | hmem := hmem
      · exact absurd trivial (hquiet _ ((mem_post.mp hmem).resolve_left nofun))
      · exact absurd ((mem_post.mp hmem).resolve_left nofun) hQ
  · intro hclosed
    have he := (h.token _ List.mem_cons_self trivial).2
    obtain ⟨hc, _⟩ := h.closing hclosed he
    obtain ⟨hA, _⟩ := hc.queue List.mem_cons_self
    have hA : ShaperMsg.shaperGateStateChanged ∉ l := fun hmem => hA (List.mem_cons_of_mem _ hmem)
    have hG : ShaperMsg.gateStateChanged ∈ l := by
      obtain hG | hmem := hc.told
      · exact (List.mem_cons.mp hG).resolve_left nofun
      · exact absurd ((List.mem_cons.mp hmem).resolve_left nofun) hA
    refine ⟨.inl (mem_post.mpr (.inr hG)), fun hr => ?_, fun b' ha => ?_, fun hmem => ?_⟩
    · exact hc.request (List.mem_cons_of_mem _ ((mem_post.mp hr).resolve_left nofun))
    · obtain ⟨_, hmem⟩ | ⟨_, _, ha⟩ := ha.of_post nofun
      · exact hA hmem
      · exact hA ha.mem.1
    · exact absurd ((mem_post.mp hmem).resolve_left nofun) hQ

theorem coordinated_packet {shaper : CreditBasedShaper} {sent : List Nat}
    (h : Coordinated cfg { s with messages := .packet b :: l })
    (hs : s.shaper.handleSendPacketEvent cfg s.time b = .ok shaper) : Coordinated cfg { s with
      messages := l
      shaper := shaper
      sent := sent } := by
  obtain ⟨_, _, hz, _, _, rfl⟩ := handleSendPacketEvent_ok hs
  have hquiet := h.posted.quiet trivial
  have hpos := sendTime_pos cfg b
  refine ⟨h.posted.tail, h.stocked.tail, ⟨le_refl _, ?_, fun _ _ => rfl⟩, ?_, nofun, nofun, nofun, ?_⟩
  · intro t ht
    change t ∈ s.shaper.reachedZeroCreditMessage at ht
    rw [hz] at ht
    cases ht
  · intro x hx ht
    exact absurd ht (hquiet x hx)
  · intro _ hend
    have hend : s.time + sendTime cfg b = s.time := Option.some.inj hend
    linarith

/-- what a request finds -/
theorem of_isEmpty (h : s.isEmpty = false) :
    s.gateOpen = true ∧ 0 ≤ s.shaper.credit ∧ s.queue.queue ≠ [] := by
  unfold isEmpty CreditBasedShaper.isEmpty at h
  obtain ⟨hg, h⟩ := Bool.or_eq_false_iff.mp h
  obtain ⟨hc, hq⟩ := Bool.or_eq_false_iff.mp h
  rw [Bool.not_eq_false'] at hg hc
  refine ⟨hg, isCreditPositive_iff.mp hc, fun hnil => ?_⟩
  unfold LengthAwareQueue.isEmpty at hq
  rw [hnil] at hq
  cases hq

theorem coordinated_handleMessage (h : Coordinated cfg { s with messages := m :: l })
    (hs : { s with messages := l }.handleMessage cfg m = .ok s') : Coordinated cfg s' := by
  cases m with
  | gateStateChanged =>
    cases hs
    exact coordinated_gateStateChanged h
  | gateRequest =>
    obtain ⟨_, hne, hs⟩ := bind_ok.mp hs
    obtain ⟨_, _, hs⟩ := bind_ok.mp hs
    cases hs
    have hne : s.isEmpty = false := Bool.not_eq_true' _ |>.mp (ASSERT_ok.mp hne)
    obtain ⟨hg, hq⟩ := of_isEmpty hne
    exact coordinated_gateRequest h hg hq.2
  | shaperGateStateChanged =>
    obtain ⟨shaper, hm, hs⟩ := bind_ok.mp hs
    cases hs
    exact coordinated_shaperGateStateChanged h hm
  | packetEnqueued =>
    obtain ⟨⟨shaper, notify⟩, hm, hs⟩ := bind_ok.mp hs
    cases hs
    exact coordinated_packetEnqueued h hm
  | requestPacket =>
    cases hs
    exact coordinated_requestPacket h
  | queueRequest =>
    obtain ⟨⟨b, queue⟩, hm, hs⟩ := bind_ok.mp hs
    cases hs
    exact coordinated_queueRequest h hm
  | packet bitLength =>
    obtain ⟨shaper, hm, hs⟩ := bind_ok.mp hs
    cases hs
    exact coordinated_packet h hm

end ShapedQueue
end Nesting
