import Nesting.Queue.ShaperSteps

/-!
# The bandwidth of the credit based shaper

What was sent and the credit that is left are paid for by the idle slope: while a packet is sent the
credit falls with the send slope, which is the port rate less the idle slope, and otherwise it rises
with the idle slope at most.

* `total`, `largest`   the bits that were sent, and those of the largest packet;
* `Accounted`     the invariant;
* `accounted_step`, `bandwidth_bound`   **the bound.**
-/

set_option linter.unusedVariables false

namespace Nesting

open Lib CreditBasedShaper

/-- the bits that a packet is counted with -/
def sentSize (bitLength : Nat) : Nat := bitLength + frameOverhead

def total (sent : List Nat) : Nat := (sent.map sentSize).sum

def largest (sent : List Nat) : Nat := (sent.map sentSize).foldr max 0

theorem total_append (sent : List Nat) (b : Nat) : total (sent ++ [b]) = total sent + sentSize b := by
  unfold total
  rw [List.map_append, List.sum_append]
  rfl

theorem largest_append (sent : List Nat) (b : Nat) :
    largest (sent ++ [b]) = max (largest sent) (sentSize b) := by
  induction sent with
  | nil =>
    show max (sentSize b) 0 = max 0 (sentSize b)
    exact max_comm _ _
  | cons a sent ih =>
    show max (sentSize a) (largest (sent ++ [b])) = max (max (sentSize a) (largest sent)) (sentSize b)
    rw [ih, max_assoc]

namespace CreditBasedShaper

variable {cfg : ShaperConfig} {s s' : CreditBasedShaper} {now : SimTime} {sent : List Nat}
  {gateOpen ready : Bool}

/-- the time of the largest packet -/
def largestTime (cfg : ShaperConfig) (sent : List Nat) : SimTime := largest sent / cfg.portTransmitRate

/-- what was sent is paid for up to the end of the spending period, or up to the last event -/
structure Accounted (cfg : ShaperConfig) (sent : List Nat) (now : SimTime) (s : CreditBasedShaper) :
    Prop where
  credit : -(cfg.getSendSlope * largestTime cfg sent) ≤ s.credit
  account : total sent + s.credit ≤
    cfg.getIdleSlope * s.endSpendingCreditMessage.getD s.lastEventTimestamp
  past : s.lastEventTimestamp ≤ now
  earning : ∀ t ∈ s.reachedZeroCreditMessage, s.state = .kEarnCredit ∧
    s.credit + (t - s.lastEventTimestamp) * cfg.getIdleSlope = 0
  spending : ∀ t ∈ s.endSpendingCreditMessage, s.state = .kSpendCredit ∧ now ≤ t ∧
    t ≤ s.lastEventTimestamp + largestTime cfg sent

theorem Accounted.of_state (h : Accounted cfg sent now s) (hs : s.state ≠ .kSpendCredit) :
    s.endSpendingCreditMessage = none := by
  cases he : s.endSpendingCreditMessage with
  | none => rfl
  | some t => exact absurd (h.spending t he).1 hs

/-- a state whose spending period is over, with at most the credit that was earned since -/
theorem Accounted.settle (h : Accounted cfg sent now s)
    (hpaid : (s.endSpendingCreditMessage = none ∧
        s'.credit ≤ s.credit + (now - s.lastEventTimestamp) * cfg.getIdleSlope) ∨
      (s.endSpendingCreditMessage = some now ∧ s'.credit ≤ s.credit))
    (hlast : s'.lastEventTimestamp = now) (hend : s'.endSpendingCreditMessage = none)
    (hcredit : -(cfg.getSendSlope * largestTime cfg sent) ≤ s'.credit)
    (hzero : ∀ t ∈ s'.reachedZeroCreditMessage, s'.state = .kEarnCredit ∧
      s'.credit + (t - now) * cfg.getIdleSlope = 0) : Accounted cfg sent now s' := by
  refine ⟨hcredit, ?_, le_of_eq hlast, ?_, ?_⟩
  · have hacc := h.account
    rw [hend, hlast]
    show total sent + s'.credit ≤ cfg.getIdleSlope * now
    obtain ⟨hnone, hle⟩ | ⟨hnow, hle⟩ := hpaid
    · rw [hnone] at hacc
      change total sent + s.credit ≤ cfg.getIdleSlope * s.lastEventTimestamp at hacc
      have : (now - s.lastEventTimestamp) * cfg.getIdleSlope =
        cfg.getIdleSlope * now - cfg.getIdleSlope * s.lastEventTimestamp := by ring
      linarith
    · rw [hnow] at hacc
      change total sent + s.credit ≤ cfg.getIdleSlope * now at hacc
      linarith
  · rw [hlast]
    exact hzero
  · rw [hend]
    nofun

theorem largestTime_nonneg (cfg : ShaperConfig) (sent : List Nat) : 0 ≤ largestTime cfg sent :=
  div_nonneg (Nat.cast_nonneg _) (le_of_lt cfg.rate_pos)

theorem bound_nonpos (cfg : ShaperConfig) (sent : List Nat) :
    -(cfg.getSendSlope * largestTime cfg sent) ≤ 0 := by
  have := mul_nonneg (le_of_lt cfg.sendSlope_pos) (largestTime_nonneg cfg sent)
  linarith

/-- the credit that is earned does not lower it -/
theorem earned_nonneg (cfg : ShaperConfig) {last : SimTime} (h : last ≤ now) :
    0 ≤ (now - last) * cfg.getIdleSlope :=
  mul_nonneg (sub_nonneg.mpr h) (le_of_lt cfg.idleSlope_pos)

/-- earning up to zero, from the present credit -/
theorem Accounted.earnUntilZero (h : Accounted cfg sent now s)
    (hend : s.endSpendingCreditMessage = none ∨ s.endSpendingCreditMessage = some now) :
    Accounted cfg sent now { s.updateState now .kEarnCredit with
      endSpendingCreditMessage := none
      reachedZeroCreditMessage := some (zeroTime cfg now s) } := by
  refine h.settle ?_ rfl rfl h.credit ?_
  · refine hend.imp (fun hnone => ⟨hnone, ?_⟩) (fun hnow => ⟨hnow, le_refl _⟩)
    have := earned_nonneg cfg h.past
    show s.credit ≤ _
    linarith
  · intro t ht
    cases ht
    exact ⟨rfl, zeroTime_credit cfg now s⟩

/-- a change of the state without a message -/
theorem Accounted.updateState (h : Accounted cfg sent now s) {state : ShaperState} {credit : ℚ}
    (hend : s.endSpendingCreditMessage = some now) (hz : s.reachedZeroCreditMessage = none)
    (hle : credit ≤ s.credit) (hlow : -(cfg.getSendSlope * largestTime cfg sent) ≤ credit) :
    Accounted cfg sent now { s.updateState now state with
      endSpendingCreditMessage := none
      credit := credit } := by
  refine h.settle (.inr ⟨hend, hle⟩) rfl rfl hlow ?_
  intro t ht
  change t ∈ s.reachedZeroCreditMessage at ht
  rw [hz] at ht
  cases ht

/-- an idle shaper starts to earn -/
theorem Accounted.leaveIdle (h : Accounted cfg sent now s) (hi : s.state = .kIdle) :
    Accounted cfg sent now (s.updateState now .kEarnCredit) := by
  have hend := h.of_state (by rw [hi]; nofun)
  refine h.settle (.inl ⟨hend, ?_⟩) rfl hend h.credit ?_
  · have := earned_nonneg cfg h.past
    show s.credit ≤ _
    linarith
  · intro t ht
    have := (h.earning t ht).1
    rw [hi] at this
    cases this

theorem accounted_gateStateChanged (h : Accounted cfg sent now s)
    (hs : s.handleGateStateChangedEvent cfg now gateOpen ready = .ok s') :
    Accounted cfg sent now s' := by
  obtain ⟨_, hi, _, _, rfl⟩ | ⟨_, hi, _, _, rfl⟩ | ⟨_, he, hle, rfl⟩ | ⟨rfl, _⟩ :=
    handleGateStateChangedEvent_ok hs
  · have hend := h.of_state (by rw [hi]; nofun)
    have hacc := h.earnUntilZero (.inl hend)
    rw [← hend] at hacc
    exact hacc
  · exact h.leaveIdle hi
  · have hend := h.of_state (by rw [he]; nofun)
    refine h.settle (.inl ⟨hend, le_refl _⟩) rfl hend ?_ nofun
    have := earned_nonneg cfg h.past
    have := h.credit
    show _ ≤ s.credit + (now - s.lastEventTimestamp) * cfg.getIdleSlope
    linarith
  · exact h

theorem accounted_packetEnqueued {notify : Bool} (h : Accounted cfg sent now s)
    (hs : s.handlePacketEnqueuedEvent now gateOpen ready = .ok (s', notify)) :
    Accounted cfg sent now s' := by
  obtain ⟨_, ⟨hi, _, _, _, rfl⟩ | ⟨_, _, rfl⟩⟩ := handlePacketEnqueuedEvent_ok hs
  · exact h.leaveIdle hi
  · exact h

/-- a packet is sent with a credit that is not negative -/
theorem accounted_sendPacket {bitLength : Nat} (h : Accounted cfg sent now s)
    (hs : s.handleSendPacketEvent cfg now bitLength = .ok s') :
    Accounted cfg (sent ++ [bitLength]) now s' := by
  obtain ⟨he, hc, hz, hle, hend, rfl⟩ := handleSendPacketEvent_ok hs
  have hearned := earned_nonneg cfg hle
  have htime : sendTime cfg bitLength ≤ largestTime cfg (sent ++ [bitLength]) := by
    refine div_le_div_of_nonneg_right ?_ (le_of_lt cfg.rate_pos)
    rw [largest_append]
    exact_mod_cast le_max_right _ _
  have hpos := sendTime_pos cfg bitLength
  refine ⟨?_, ?_, le_refl _, ?_, ?_⟩
  · have := mul_le_mul_of_nonneg_left htime (le_of_lt cfg.sendSlope_pos)
    show _ ≤ s.credit + (now - s.lastEventTimestamp) * cfg.getIdleSlope -
      sendTime cfg bitLength * cfg.getSendSlope
    linarith
  · have hacc := h.account
    rw [hend] at hacc
    change total sent + s.credit ≤ cfg.getIdleSlope * s.lastEventTimestamp at hacc
    have hsize : (sentSize bitLength : ℚ) = sendTime cfg bitLength * cfg.portTransmitRate :=
      (div_mul_cancel₀ _ (ne_of_gt cfg.rate_pos)).symm
    show (total (sent ++ [bitLength]) : ℚ) + (s.credit + (now - s.lastEventTimestamp) *
      cfg.getIdleSlope - sendTime cfg bitLength * cfg.getSendSlope) ≤
        cfg.getIdleSlope * (now + sendTime cfg bitLength)
    rw [total_append, Nat.cast_add, hsize]
    unfold ShaperConfig.getSendSlope
    linarith
  · intro t ht
    change t ∈ s.reachedZeroCreditMessage at ht
    rw [hz] at ht
    cases ht
  · intro t ht
    cases ht
    refine ⟨rfl, ?_, ?_⟩
    · linarith
    · show now + sendTime cfg bitLength ≤ now + _
      linarith

theorem accounted_endSpendingCredit {notify : Bool} (h : Accounted cfg sent now s)
    (hdue : s.endSpendingCreditMessage = some now)
    (hs : { s with endSpendingCreditMessage := none }.handleEndSpendingCreditEvent cfg now gateOpen
      ready = .ok (s', notify)) : Accounted cfg sent now s' := by
  obtain ⟨hst, hcases⟩ := handleEndSpendingCreditEvent_ok hs
  have hz : s.reachedZeroCreditMessage = none := by
    cases hz : s.reachedZeroCreditMessage with
    | none => rfl
    | some t =>
      have := (h.earning t hz).1
      rw [show s.state = .kSpendCredit from hst] at this
      cases this
  obtain ⟨_, _, rfl⟩ | ⟨_, _, _, _, rfl⟩ | ⟨_, hc, _, _, rfl⟩ | ⟨_, _, _, _, rfl⟩ := hcases
  · exact h.updateState hdue hz (le_refl _) h.credit
  · exact h.earnUntilZero (.inr hdue)
  · exact h.updateState hdue hz hc (bound_nonpos cfg sent)
  · exact h.updateState hdue hz (le_refl _) h.credit

theorem accounted_zeroCreditReached {notify : Bool} (h : Accounted cfg sent now s)
    (hdue : s.reachedZeroCreditMessage = some now)
    (hs : { s with reachedZeroCreditMessage := none }.handleZeroCreditReachedEvent cfg now gateOpen
      ready = .ok (s', notify)) : Accounted cfg sent now s' := by
  obtain ⟨he, _, _, _, rfl⟩ := handleZeroCreditReachedEvent_ok hs
  have hend := h.of_state (by rw [show s.state = .kEarnCredit from he]; nofun)
  refine h.settle (.inl ⟨hend, ?_⟩) rfl hend (bound_nonpos cfg sent) nofun
  rw [(h.earning now hdue).2]
  exact le_refl _

end CreditBasedShaper

namespace ShapedQueue

variable {cfg : ShaperConfig} {s s' : ShapedQueue}

theorem accounted_handleMessage {m : ShaperMsg} (h : Accounted cfg s.sent s.time s.shaper)
    (hs : s.handleMessage cfg m = .ok s') : Accounted cfg s'.sent s'.time s'.shaper := by
  cases m with
  | gateStateChanged =>
    cases hs
    exact h
  | gateRequest =>
    obtain ⟨_, _, hs⟩ := bind_ok.mp hs
    obtain ⟨_, _, hs⟩ := bind_ok.mp hs
    cases hs
    exact h
  | shaperGateStateChanged =>
    obtain ⟨m, hm, hs⟩ := bind_ok.mp hs
    cases hs
    exact accounted_gateStateChanged h hm
  | packetEnqueued =>
    obtain ⟨⟨m, notify⟩, hm, hs⟩ := bind_ok.mp hs
    cases hs
    exact accounted_packetEnqueued h hm
  | requestPacket =>
    cases hs
    exact h
  | queueRequest =>
    obtain ⟨⟨b, q⟩, _, hs⟩ := bind_ok.mp hs
    cases hs
    exact h
  | packet bitLength =>
    obtain ⟨m, hm, hs⟩ := bind_ok.mp hs
    cases hs
    exact accounted_sendPacket h hm

theorem accounted_step {e : ShaperEvent} (h : Accounted cfg s.sent s.time s.shaper)
    (hs : s.step cfg e = .ok s') : Accounted cfg s'.sent s'.time s'.shaper := by
  cases e with
  | advance t =>
    by_cases ht : s.CanAdvance t
    · rw [step, if_pos ht] at hs
      cases hs
      obtain ⟨hle, _, hend, _⟩ := ht
      refine ⟨h.credit, h.account, le_trans h.past hle, h.earning, fun u hu => ?_⟩
      exact ⟨(h.spending u hu).1, hend u hu, (h.spending u hu).2.2⟩
    · rw [step, if_neg ht] at hs
      cases hs
  | enqueue bitLength =>
    cases hs
    exact h
  | setGateState gateOpen =>
    rw [step] at hs
    split at hs
    · cases hs
      exact h
    · cases hs
      exact h
  | setMaxTransferableBits maxBits =>
    cases hs
    exact h
  | request =>
    rw [step] at hs
    split at hs
    · cases hs
      exact h
    · cases hs
  | handleMessage =>
    rw [step] at hs
    split at hs
    · cases hs
    · split at hs
      · cases hs
      · exact accounted_handleMessage (by exact h) hs
  | endSpendingCredit =>
    rw [step] at hs
    split at hs
    · rename_i hdue
      obtain ⟨⟨m, notify⟩, hm, hs⟩ := bind_ok.mp hs
      cases hs
      exact accounted_endSpendingCredit h hdue hm
    · cases hs
  | reachedZeroCredit =>
    rw [step] at hs
    split at hs
    · rename_i hdue
      obtain ⟨⟨m, notify⟩, hm, hs⟩ := bind_ok.mp hs
      cases hs
      exact accounted_zeroCreditReached h hdue hm
    · cases hs

/-- **At most the idle slope and one packet more is sent**, and the credit is bounded from below. -/
theorem bandwidth_bound (cfg : ShaperConfig) (gateOpen : Bool) (bufferCapacity : Nat)
    {es : List ShaperEvent} (hr : run (step cfg) (start gateOpen bufferCapacity) es = .ok s) :
    (total s.sent : ℚ) ≤ cfg.getIdleSlope * s.time + largest s.sent ∧
    -(cfg.getSendSlope * (largest s.sent / cfg.portTransmitRate)) ≤ s.shaper.credit := by
  have hacc : Accounted cfg s.sent s.time s.shaper := by
    refine run_invariant (I := fun s => Accounted cfg s.sent s.time s.shaper)
      (fun _ _ _ hi hs => accounted_step hi hs) ?_ hr
    refine ⟨bound_nonpos cfg [], ?_, le_refl _, nofun, nofun⟩
    show ((0 : ℕ) : ℚ) + 0 ≤ cfg.getIdleSlope * 0
    rw [Nat.cast_zero, mul_zero, add_zero]
  refine ⟨?_, hacc.credit⟩
  have hhorizon : s.shaper.endSpendingCreditMessage.getD s.shaper.lastEventTimestamp ≤
      s.shaper.lastEventTimestamp + largestTime cfg s.sent := by
    cases hend : s.shaper.endSpendingCreditMessage with
    | none =>
      have := largestTime_nonneg cfg s.sent
      show s.shaper.lastEventTimestamp ≤ _
      linarith
    | some t => exact (hacc.spending t hend).2.2
  have hidle := mul_le_mul_of_nonneg_left hhorizon (le_of_lt cfg.idleSlope_pos)
  have hpast := mul_le_mul_of_nonneg_left hacc.past (le_of_lt cfg.idleSlope_pos)
  have hsize : (largest s.sent : ℚ) =
      (cfg.getIdleSlope + cfg.getSendSlope) * largestTime cfg s.sent := by
    unfold ShaperConfig.getSendSlope largestTime
    rw [add_sub_cancel, mul_div_cancel₀ _ (ne_of_gt cfg.rate_pos)]
  have hlow := hacc.credit
  have hacc := hacc.account
  rw [hsize]
  linarith

/-- two packets, the second when the credit is zero again -/
def twoPackets : List ShaperEvent :=
  [.enqueue 672, .enqueue 1672, .handleMessage, .request, .handleMessage, .handleMessage,
   .handleMessage, .handleMessage, .advance 1, .endSpendingCredit, .advance 2, .reachedZeroCredit,
   .request, .handleMessage, .handleMessage, .handleMessage, .handleMessage, .advance 3]

theorem bandwidth_bound_twoPackets : ∃ s, run (step halfRate) (start true 100000) twoPackets = .ok s ∧
    s.sent = [672, 1672] ∧ s.shaper.credit = -1000 ∧
    (total s.sent : ℚ) ≤ halfRate.getIdleSlope * s.time + largest s.sent ∧
    -(halfRate.getSendSlope * (largest s.sent / halfRate.portTransmitRate)) ≤ s.shaper.credit := by
  obtain ⟨s, hr, hs⟩ : ∃ s, run (step halfRate) (start true 100000) twoPackets = .ok s ∧
      s.sent = [672, 1672] ∧ s.shaper.credit = -1000 := exists_of_any (by decide +kernel)
  exact ⟨s, hr, hs.1, hs.2, bandwidth_bound halfRate true 100000 hr⟩

end ShapedQueue
end Nesting
