import Nesting.Queue.Tokens

/-!
# How TransmissionSelection hears of a packet

* `Announced`       the gate will call `packetEnqueued` of `TransmissionSelection` in this instant, or has;
* `Expected`, `Listens`   the algorithm passes an arrival on, or would;
* `Noticed`         a gate with a packet is heard of;
* `noticed_handleMessage`, `noticed_endSpendingCredit`, ...   the events of a column keep it so.
-/

set_option linter.unusedVariables false

namespace Nesting

open Lib CreditBasedShaper

namespace Column

variable {c c' : Column} {m : ColumnMsg} {l l' : List ColumnMsg} {s s' : CreditBasedShaper}
  {packetEnqueued onHold notify : Bool} {now : SimTime} {cfg : ShaperConfig}

/-- the shaper has finished sending in this instant -/
def SpendingEnds (now : SimTime) (c : Column) : Prop :=
  ∃ s ∈ c.shaper, s.endSpendingCreditMessage = some now

instance (now : SimTime) (c : Column) : Decidable (c.SpendingEnds now) :=
  inferInstanceAs (Decidable (∃ s ∈ c.shaper, _))

/-- `packetEnqueued` is the message of `TransmissionSelection` -/
def Announced (packetEnqueued : Bool) (now : SimTime) (c : Column) : Prop :=
  packetEnqueued = true ∨ .gatePacketEnqueued ∈ c.messages ∨ .gateStateChanged ∈ c.messages ∨
    c.SpendingEnds now

instance (packetEnqueued : Bool) (now : SimTime) (c : Column) :
    Decidable (c.Announced packetEnqueued now) := inferInstanceAs (Decidable (_ ∨ _ ∨ _ ∨ _))

/-- a shaper passes an arrival on when it is idle and does not hear of the gate first -/
def Expected (c : Column) : Prop :=
  .packetEnqueuedMsg ∈ c.messages ∧ ∀ s ∈ c.shaper, s.state = .kIdle ∧
    ¬Ahead .gateStateChangedMsg .packetEnqueuedMsg c.messages

instance (c : Column) : Decidable c.Expected :=
  have : Decidable (Ahead ColumnMsg.gateStateChangedMsg .packetEnqueuedMsg c.messages) :=
    inferInstanceAs (Decidable (List.Sublist _ _))
  inferInstanceAs (Decidable (_ ∧ ∀ s ∈ c.shaper, _ ∧ ¬_))

def Listens (c : Column) : Prop :=
  ∀ s ∈ c.shaper, s.state = .kIdle ∧ .gateStateChangedMsg ∉ c.messages

instance (c : Column) : Decidable c.Listens := inferInstanceAs (Decidable (∀ s ∈ c.shaper, _ ∧ _))

def Noticed (packetEnqueued onHold : Bool) (now : SimTime) (c : Column) : Prop :=
  c.isEmpty onHold = false → c.Announced packetEnqueued now ∨ c.Expected

/-! ## gates with a packet -/

theorem isEmpty_shaper (hs : c.shaper = some s) : c.isEmpty onHold = false ↔
    c.gateOpen = true ∧ (c.isExpressQueue = true ∨ onHold = false) ∧ 0 ≤ s.credit ∧
      c.queue.isEmpty c.maxTransferableBits = false := by
  rw [isEmpty_eq_false]
  unfold algorithmEmpty
  rw [hs]
  dsimp only
  unfold CreditBasedShaper.isEmpty
  rw [Bool.or_eq_false_iff, Bool.not_eq_false', CreditBasedShaper.isCreditPositive_iff]

/-- the gate calls `packetEnqueued` when it handles a message -/
theorem calls_of_isEmpty (h : c.isEmpty onHold = false) : c.gateOpen = true ∧
    (c.isExpressQueue || !onHold) = true ∧ c.algorithmEmpty = false := by
  obtain ⟨hg, hh, ha⟩ := isEmpty_eq_false.mp h
  refine ⟨hg, ?_, ha⟩
  rw [Bool.or_eq_true, Bool.not_eq_true']
  exact hh

/-- a hold takes packets from the gates, and gives none -/
theorem isEmpty_of_hold (h : c.isEmpty true = false) : c.isEmpty onHold = false := by
  obtain ⟨hg, hh, ha⟩ := isEmpty_eq_false.mp h
  exact isEmpty_eq_false.mpr ⟨hg, .inl (hh.resolve_right nofun), ha⟩

/-- what the gate may send is ready for transmission -/
theorem ready_of_queue (hb : c.maxTransferableBits ≤ kEthernet2MaximumTransmissionUnitBitLength)
    (h : c.queue.isEmpty c.maxTransferableBits = false) : c.ready = true := by
  unfold ready
  rw [Bool.not_eq_true']
  unfold LengthAwareQueue.isEmpty at h ⊢
  cases hq : c.queue.queue with
  | nil =>
    rw [hq] at h
    cases h
  | cons bitLength rest =>
    rw [hq] at h
    have hle := of_decide_eq_false h
    show decide (bitLength + preambleSize > kEthernet2MaximumTransmissionUnitBitLength) = false
    refine decide_eq_false ?_
    omega

/-! ## the events of a column -/

theorem Announced.of_sub {packetEnqueued' : Bool} (h : c.Announced packetEnqueued now)
    (hp : packetEnqueued = true → packetEnqueued' = true)
    (hsub : ∀ x ∈ c.messages, x = .gatePacketEnqueued ∨ x = .gateStateChanged → x ∈ c'.messages)
    (hs : c.SpendingEnds now → c'.SpendingEnds now) : c'.Announced packetEnqueued' now := by
  obtain h | h | h | h := h
  · exact .inl (hp h)
  · exact .inr (.inl (hsub _ h (.inl rfl)))
  · exact .inr (.inr (.inl (hsub _ h (.inr rfl))))
  · exact .inr (.inr (.inr (hs h)))

/-- the message that was handled was another one -/
theorem Announced.of_cons (h : Announced packetEnqueued now { c with messages := m :: l })
    (hm : m ≠ .gatePacketEnqueued ∧ m ≠ .gateStateChanged) :
    Announced packetEnqueued now { c with messages := l } := by
  refine h.of_sub id (fun x hx hkind => ?_) id
  obtain rfl | hx := List.mem_cons.mp hx
  · exact absurd hkind (not_or.mpr hm)
  · exact hx

theorem Noticed.of_cons (h : Noticed packetEnqueued onHold now { c with messages := m :: l })
    (hm : m ≠ .gatePacketEnqueued ∧ m ≠ .gateStateChanged) (hq : m ≠ .packetEnqueuedMsg) :
    Noticed packetEnqueued onHold now { c with messages := l } := by
  intro hne
  refine (h hne).imp (fun ha => ha.of_cons hm) fun ⟨hmem, hidle⟩ => ⟨?_, fun s hs => ?_⟩
  · exact (List.mem_cons.mp hmem).resolve_left (Ne.symm hq)
  · obtain ⟨hi, hno⟩ := hidle s hs
    exact ⟨hi, Ahead.tail hno⟩

theorem noticed_enqueue {packet : Packet}
    (h : (c.enqueue packet).isEmpty onHold = false → c.Announced packetEnqueued now ∨ c.Listens) :
    (c.enqueue packet).Noticed packetEnqueued onHold now := by
  intro hne
  obtain ⟨hsame, hm⟩ := enqueue_same c packet
  refine (h hne).imp (fun ha => ?_) (fun hl => ⟨?_, fun s hs => ?_⟩)
  · refine ha.of_sub id (fun x hx _ => ?_) fun ⟨s, hs, hend⟩ => ⟨s, ?_, hend⟩
    · rw [hm]
      exact mem_post.mpr (.inr hx)
    · rw [hsame.shaper]
      exact hs
  · rw [hm]
    exact mem_post.mpr (.inl rfl)
  · rw [hsame.shaper] at hs
    obtain ⟨hidle, hno⟩ := hl s hs
    refine ⟨hidle, fun hahead => hno ?_⟩
    rw [hm] at hahead
    obtain ⟨_, hmem⟩ | ⟨_, hne, _⟩ := hahead.of_post nofun
    · exact hmem
    · exact absurd rfl hne

theorem noticed_setGateState {gateOpen release : Bool} (h : c.Noticed packetEnqueued onHold now) :
    (c.setGateState onHold gateOpen release).1.Noticed packetEnqueued onHold now := by
  unfold setGateState
  split
  · exact fun _ => .inl (.inr (.inr (.inl (mem_post.mpr (.inl rfl)))))
  · exact h

theorem setGateState_keeps (c : Column) (onHold gateOpen release : Bool) :
    (c.setGateState onHold gateOpen release).1.maxTransferableBits = c.maxTransferableBits ∧
    (c.setGateState onHold gateOpen release).1.tokens = c.tokens := by
  unfold setGateState
  split
  · exact ⟨rfl, countP_post rfl⟩
  · exact ⟨rfl, rfl⟩

/-- the shaper has called the gate -/
theorem noticed_notify {packetEnqueued' : Bool}
    (hm : c.messages = if notify = true then post .gatePacketEnqueued l else l)
    (h : c.isEmpty onHold = false → notify = true) :
    c.Noticed packetEnqueued' onHold now := by
  intro hne
  refine .inl (.inr (.inl ?_))
  rw [hm, if_pos (h hne)]
  exact mem_post.mpr (.inl rfl)

theorem spendingEnds_shaper (hs : c.shaper = some s) :
    c.SpendingEnds now ↔ s.endSpendingCreditMessage = some now := by
  constructor
  · rintro ⟨s1, hs1, hend⟩
    cases hs.symm.trans hs1
    exact hend
  · exact fun hend => ⟨s, hs, hend⟩

/-- an open gate whose credit is not negative afterwards -/
theorem gateStateChanged_keeps {gateOpen ready : Bool}
    (h : s.handleGateStateChangedEvent cfg now gateOpen ready = .ok s') (hg : gateOpen = true)
    (hc : 0 ≤ s'.credit) :
    0 ≤ s.credit ∧ s'.endSpendingCreditMessage = s.endSpendingCreditMessage := by
  obtain ⟨_, _, hneg, _, rfl⟩ | ⟨_, _, hpos, _, rfl⟩ | ⟨hclosed, _⟩ | ⟨rfl, _⟩ :=
    CreditBasedShaper.handleGateStateChangedEvent_ok h
  · exact absurd hc (not_le.mpr hneg)
  · exact ⟨hpos, rfl⟩
  · cases hg.symm.trans hclosed
  · exact ⟨hc, rfl⟩

theorem noticed_handleMessage (hm : m.token = false)
    (h : Noticed packetEnqueued onHold now { c with messages := m :: l })
    (hs : { c with messages := l }.handleMessage cfg now onHold m = .ok (c', notify)) :
    c'.Noticed (notify || packetEnqueued) onHold now := by
  intro hne
  cases m with
  | gateStateChanged =>
    cases hs
    obtain ⟨hg, hh, ha⟩ := calls_of_isEmpty (c := c) hne
    refine .inl (.inl ?_)
    show (c.gateOpen && !c.algorithmEmpty && (c.isExpressQueue || !onHold) || packetEnqueued) = true
    rw [hg, hh, ha]
    rfl
  | gatePacketEnqueued =>
    cases hs
    obtain ⟨hg, hh, _⟩ := calls_of_isEmpty (c := c) hne
    refine .inl (.inl ?_)
    show (c.gateOpen && (c.isExpressQueue || !onHold) || packetEnqueued) = true
    rw [hg, hh]
    rfl
  | gateStateChangedMsg =>
    obtain ⟨rfl, ⟨hnone, rfl⟩ | ⟨s, s', hshaper, hs', rfl⟩⟩ := gateStateChangedMsg_ok hs
    · refine (h hne).imp (fun ha => ha.of_cons ⟨nofun, nofun⟩) (fun he => ⟨?_, fun s hs => ?_⟩)
      · exact (List.mem_cons.mp he.1).resolve_left nofun
      · cases hnone.symm.trans hs
    · obtain ⟨hg, hh, hc, hq⟩ := (isEmpty_shaper rfl).mp hne
      obtain ⟨hcredit, hend⟩ := gateStateChanged_keeps hs' hg hc
      obtain ha | ⟨hmem, hidle⟩ := h ((isEmpty_shaper hshaper).mpr ⟨hg, hh, hcredit, hq⟩)
      · refine .inl ((ha.of_cons ⟨nofun, nofun⟩).of_sub id (fun x hx _ => hx) fun hends => ?_)
        exact ⟨s', rfl, hend.trans ((spendingEnds_shaper hshaper).mp hends)⟩
      · -- the arrival would be handled after this message
        have hmem := (List.mem_cons.mp hmem).resolve_left nofun
        exact absurd hmem (Ahead.of_head (hidle s hshaper).2)
  | packetEnqueuedMsg =>
    obtain ⟨rfl, ⟨hnone, rfl⟩ | ⟨s, s', notified, hshaper, hs', rfl⟩⟩ := packetEnqueuedMsg_ok hs
    · exact .inl (.inr (.inl (mem_post.mpr (.inl rfl))))
    · obtain ⟨_, ⟨_, _, _, rfl, rfl⟩ | ⟨hbusy, rfl, rfl⟩⟩ := handlePacketEnqueuedEvent_ok hs'
      · exact .inl (.inr (.inl (mem_post.mpr (.inl rfl))))
      · obtain ⟨hg, hh, hc, hq⟩ := (isEmpty_shaper rfl).mp hne
        obtain ha | ⟨_, hidle⟩ := h ((isEmpty_shaper hshaper).mpr ⟨hg, hh, hc, hq⟩)
        · refine .inl ((ha.of_cons ⟨nofun, nofun⟩).of_sub id (fun x hx _ => hx) fun hends => ?_)
          exact ⟨s', rfl, (spendingEnds_shaper hshaper).mp hends⟩
        · exact absurd ⟨(hidle s' hshaper).1, hg⟩ hbusy
  | macPacket packet => cases hs
  | _ => cases hm

/-- messages do not change what may be sent -/
theorem maxTransferableBits_handleMessage (hs : c.handleMessage cfg now onHold m = .ok (c', notify)) :
    c'.maxTransferableBits = c.maxTransferableBits := by
  cases m with
  | gateStateChanged => cases hs; rfl
  | gatePacketEnqueued => cases hs; rfl
  | gateRequest =>
    obtain ⟨_, _, _, rfl⟩ := gateRequest_ok hs
    rfl
  | gateStateChangedMsg =>
    obtain ⟨_, ⟨_, rfl⟩ | ⟨_, _, _, _, rfl⟩⟩ := gateStateChangedMsg_ok hs
    · rfl
    · rfl
  | packetEnqueuedMsg =>
    obtain ⟨_, ⟨_, rfl⟩ | ⟨_, _, _, _, _, rfl⟩⟩ := packetEnqueuedMsg_ok hs
    · rfl
    · rfl
  | requestPacketMsg => cases hs; rfl
  | queueRequest =>
    obtain ⟨_, _, _, _, _, rfl⟩ := queueRequest_ok hs
    rfl
  | packet packet =>
    obtain ⟨_, _, rfl⟩ := packet_ok hs
    rfl
  | gatePacket packet => cases hs; rfl
  | selectionPacket packet => cases hs
  | macPacket packet => cases hs

/-! ## the timers of the shaper -/

theorem noticed_endSpendingCredit
    (hb : c.maxTransferableBits ≤ kEthernet2MaximumTransmissionUnitBitLength)
    (hs : c.handleEndSpendingCredit cfg now = .ok c') : c'.Noticed packetEnqueued onHold now := by
  obtain ⟨s, s', notified, _, _, hs', rfl⟩ := handleEndSpendingCredit_ok hs
  refine noticed_notify rfl fun hne => ?_
  obtain ⟨hg, _, hc, hq⟩ := (isEmpty_shaper rfl).mp hne
  obtain ⟨_, ⟨hclosed, _⟩ | ⟨_, hneg, _, _, rfl⟩ | ⟨_, _, hready, _⟩ | ⟨_, _, _, hn, _⟩⟩ :=
    CreditBasedShaper.handleEndSpendingCreditEvent_ok hs'
  · cases hg.symm.trans hclosed
  · exact absurd hc (not_le.mpr hneg)
  · cases hready.symm.trans (ready_of_queue hb hq)
  · exact hn

theorem noticed_reachedZeroCredit
    (hb : c.maxTransferableBits ≤ kEthernet2MaximumTransmissionUnitBitLength)
    (hs : c.handleZeroCreditReached cfg now = .ok c') : c'.Noticed packetEnqueued onHold now := by
  obtain ⟨s, s', notified, _, _, hs', rfl⟩ := handleZeroCreditReached_ok hs
  refine noticed_notify rfl fun hne => ?_
  obtain ⟨_, _, _, hq⟩ := (isEmpty_shaper rfl).mp hne
  obtain ⟨_, _, _, hn, _⟩ := CreditBasedShaper.handleZeroCreditReachedEvent_ok hs'
  exact hn.trans (ready_of_queue hb hq)

end Column
end Nesting
