import Nesting.Queue.CreditBasedShaper

/-!
# What the handlers of the shaper do

For every handler the assertions it passes and the state it leaves.
-/

set_option linter.unusedVariables false

namespace Nesting
namespace CreditBasedShaper

variable {cfg : ShaperConfig} {s s' : CreditBasedShaper} {now : SimTime} {gateOpen ready : Bool}

/-! ## credits and times -/

theorem creditsForTime_ok {c r : ℚ} {time : SimTime} (h : creditsForTime c time = .ok r) :
    0 ≤ time ∧ r = time * c := by
  obtain ⟨_, _, h⟩ := bind_ok.mp h
  obtain ⟨_, ht, h⟩ := bind_ok.mp h
  cases h
  exact ⟨of_decide_eq_true (ASSERT_ok.mp ht), rfl⟩

theorem creditsForTime_eq {c : ℚ} {time : SimTime} (hc : 0 < c) (ht : 0 ≤ time) :
    creditsForTime c time = .ok (time * c) := by
  unfold creditsForTime
  rw [decide_eq_true (show c > 0 from hc), decide_eq_true (show time ≥ 0 from ht)]
  rfl

theorem timeForCredits_ok {c credit : ℚ} {time : SimTime} (h : timeForCredits c credit = .ok time) :
    time = credit / c := by
  obtain ⟨_, _, h⟩ := bind_ok.mp h
  obtain ⟨_, _, h⟩ := bind_ok.mp h
  cases h
  rfl

theorem timeForCredits_eq {c credit : ℚ} (hc : 0 < c) (h : 0 ≤ credit) :
    timeForCredits c credit = .ok (credit / c) := by
  unfold timeForCredits
  rw [decide_eq_true (show c > 0 from hc), decide_eq_true (show credit ≥ 0 from h)]
  rfl

/-- the time that a packet is sent for -/
def sendTime (cfg : ShaperConfig) (bitLength : Nat) : SimTime :=
  (bitLength + frameOverhead : ℕ) / cfg.portTransmitRate

theorem sendTime_pos (cfg : ShaperConfig) (bitLength : Nat) : 0 < sendTime cfg bitLength := by
  refine div_pos ?_ cfg.rate_pos
  exact_mod_cast Nat.add_pos_right bitLength (by decide)

theorem transmissionTime_eq (cfg : ShaperConfig) (bitLength : Nat) :
    transmissionTime cfg bitLength = .ok (sendTime cfg bitLength) :=
  timeForCredits_eq cfg.rate_pos (Nat.cast_nonneg _)

theorem earnCredits_ok {time : SimTime} (h : s.earnCredits cfg time = .ok s') :
    0 ≤ time ∧ s' = { s with credit := s.credit + time * cfg.getIdleSlope } := by
  obtain ⟨r, hr, h⟩ := bind_ok.mp h
  obtain ⟨ht, rfl⟩ := creditsForTime_ok hr
  cases h
  exact ⟨ht, rfl⟩

theorem earnCredits_eq {time : SimTime} (ht : 0 ≤ time) :
    s.earnCredits cfg time = .ok { s with credit := s.credit + time * cfg.getIdleSlope } := by
  unfold earnCredits
  rw [creditsForTime_eq cfg.idleSlope_pos ht]
  rfl

/-- the credit is not negative -/
theorem isCreditPositive_iff : s.isCreditPositive = true ↔ 0 ≤ s.credit := decide_eq_true_iff

theorem isCreditPositive_false : s.isCreditPositive = false ↔ s.credit < 0 := by
  unfold isCreditPositive
  rw [decide_eq_false_iff_not, not_le]

/-- when the credit will be zero -/
def zeroTime (cfg : ShaperConfig) (now : SimTime) (s : CreditBasedShaper) : SimTime :=
  now + (0 - s.credit) / cfg.getIdleSlope

theorem zeroTime_credit (cfg : ShaperConfig) (now : SimTime) (s : CreditBasedShaper) :
    s.credit + (zeroTime cfg now s - now) * cfg.getIdleSlope = 0 := by
  unfold zeroTime
  rw [add_sub_cancel_left, div_mul_cancel₀ _ (ne_of_gt cfg.idleSlope_pos)]
  ring

theorem lt_zeroTime (h : s.credit < 0) : now < zeroTime cfg now s := by
  have := div_pos (show 0 < 0 - s.credit by linarith) cfg.idleSlope_pos
  unfold zeroTime
  linarith

theorem earnUntilZero_ok (h : s.earnUntilZero cfg now = .ok s') :
    s.credit < 0 ∧ s.reachedZeroCreditMessage = none ∧
      s' = { s.updateState now .kEarnCredit with
        reachedZeroCreditMessage := some (zeroTime cfg now s) } := by
  obtain ⟨t, ht, h⟩ := bind_ok.mp h
  obtain ⟨_, hc, ht⟩ := bind_ok.mp ht
  obtain ⟨d, hd, ht⟩ := bind_ok.mp ht
  cases ht
  obtain rfl := timeForCredits_ok hd
  obtain ⟨m, hm, h⟩ := bind_ok.mp h
  cases h
  obtain ⟨_, hnone, rfl⟩ := EtherMac.scheduleAt_ok hm
  exact ⟨of_decide_eq_true (ASSERT_ok.mp hc), hnone, rfl⟩

theorem scheduleAt_eq {t : SimTime} (h : now ≤ t) : EtherMac.scheduleAt now none t = .ok (some t) := by
  unfold EtherMac.scheduleAt
  rw [decide_eq_true h]
  rfl

theorem earnUntilZero_eq (hc : s.credit < 0) (hz : s.reachedZeroCreditMessage = none) :
    s.earnUntilZero cfg now = .ok { s.updateState now .kEarnCredit with
      reachedZeroCreditMessage := some (zeroTime cfg now s) } := by
  have hzero : (s.updateState now .kEarnCredit).zeroCreditTime cfg now =
      .ok (zeroTime cfg now s) := by
    unfold zeroCreditTime
    rw [decide_eq_true (show (s.updateState now .kEarnCredit).credit < 0 from hc),
      timeForCredits_eq cfg.idleSlope_pos (show 0 ≤ 0 - (s.updateState now .kEarnCredit).credit by
        show 0 ≤ 0 - s.credit
        linarith)]
    rfl
  unfold earnUntilZero
  refine bind_ok.mpr ⟨_, hzero, bind_ok.mpr ⟨some (zeroTime cfg now s), ?_, rfl⟩⟩
  show EtherMac.scheduleAt now s.reachedZeroCreditMessage _ = _
  rw [hz]
  exact scheduleAt_eq (le_of_lt (lt_zeroTime hc))

/-! ## the handlers -/

theorem handleGateStateChangedEvent_ok
    (h : s.handleGateStateChangedEvent cfg now gateOpen ready = .ok s') :
    (gateOpen = true ∧ s.state = .kIdle ∧ s.credit < 0 ∧ s.reachedZeroCreditMessage = none ∧
      s' = { s.updateState now .kEarnCredit with
        reachedZeroCreditMessage := some (zeroTime cfg now s) }) ∨
    (gateOpen = true ∧ s.state = .kIdle ∧ 0 ≤ s.credit ∧ ready = true ∧
      s' = s.updateState now .kEarnCredit) ∨
    (gateOpen = false ∧ s.state = .kEarnCredit ∧ s.lastEventTimestamp ≤ now ∧
      s' = { s.updateState now .kIdle with
        reachedZeroCreditMessage := none
        credit := s.credit + (now - s.lastEventTimestamp) * cfg.getIdleSlope }) ∨
    (s' = s ∧ (gateOpen = true → s.state ≠ .kEarnCredit ∧ (s.state = .kIdle → 0 ≤ s.credit ∧
      ready = false)) ∧ (gateOpen = false → s.state ≠ .kEarnCredit)) := by
  unfold handleGateStateChangedEvent at h
  cases gateOpen with
  | true =>
    rw [if_pos rfl] at h
    obtain ⟨_, hne, h⟩ := bind_ok.mp h
    have hne := of_decide_eq_true (ASSERT_ok.mp hne)
    split at h
    · rename_i hc
      rw [Bool.and_eq_true, decide_eq_true_iff, Bool.not_eq_true', isCreditPositive_false] at hc
      obtain ⟨_, hz, rfl⟩ := earnUntilZero_ok h
      exact .inl ⟨rfl, hc.1, hc.2, hz, rfl⟩
    · rename_i hn
      rw [Bool.and_eq_true, decide_eq_true_iff, Bool.not_eq_true', isCreditPositive_false, not_and,
        not_lt] at hn
      split at h
      · rename_i hc
        rw [Bool.and_eq_true, decide_eq_true_iff] at hc
        cases h
        exact .inr (.inl ⟨rfl, hc.1, hn hc.1, hc.2, rfl⟩)
      · rename_i hr
        rw [Bool.and_eq_true, decide_eq_true_iff, not_and, Bool.not_eq_true] at hr
        cases h
        exact .inr (.inr (.inr ⟨rfl, fun _ => ⟨hne, fun hi => ⟨hn hi, hr hi⟩⟩, nofun⟩))
  | false =>
    rw [if_neg nofun] at h
    split at h
    · rename_i he
      obtain ⟨m, hm, h⟩ := bind_ok.mp h
      obtain ⟨ht, rfl⟩ := earnCredits_ok hm
      cases h
      exact .inr (.inr (.inl ⟨rfl, he, sub_nonneg.mp ht, rfl⟩))
    · rename_i he
      cases h
      exact .inr (.inr (.inr ⟨rfl, nofun, fun _ => he⟩))

theorem handlePacketEnqueuedEvent_ok {notify : Bool}
    (h : s.handlePacketEnqueuedEvent now gateOpen ready = .ok (s', notify)) : ready = true ∧
    ((s.state = .kIdle ∧ gateOpen = true ∧ 0 ≤ s.credit ∧ notify = true ∧
      s' = s.updateState now .kEarnCredit) ∨
    (¬(s.state = .kIdle ∧ gateOpen = true) ∧ notify = false ∧ s' = s)) := by
  obtain ⟨_, hr, h⟩ := bind_ok.mp h
  refine ⟨ASSERT_ok.mp hr, ?_⟩
  split at h
  · rename_i hc
    rw [Bool.and_eq_true, decide_eq_true_iff] at hc
    obtain ⟨_, hp, h⟩ := bind_ok.mp h
    cases h
    exact .inl ⟨hc.1, hc.2, isCreditPositive_iff.mp (ASSERT_ok.mp hp), rfl, rfl⟩
  · rename_i hc
    rw [Bool.and_eq_true, decide_eq_true_iff] at hc
    cases h
    exact .inr ⟨hc, rfl, rfl⟩

theorem handleSendPacketEvent_ok {bitLength : Nat}
    (h : s.handleSendPacketEvent cfg now bitLength = .ok s') :
    s.state = .kEarnCredit ∧ 0 ≤ s.credit ∧ s.reachedZeroCreditMessage = none ∧
      s.lastEventTimestamp ≤ now ∧ s.endSpendingCreditMessage = none ∧
      s' = { s.updateState now .kSpendCredit with
        credit := s.credit + (now - s.lastEventTimestamp) * cfg.getIdleSlope -
          sendTime cfg bitLength * cfg.getSendSlope
        endSpendingCreditMessage := some (now + sendTime cfg bitLength) } := by
  obtain ⟨_, h1, h⟩ := bind_ok.mp h
  obtain ⟨_, h2, h⟩ := bind_ok.mp h
  obtain ⟨_, h3, h⟩ := bind_ok.mp h
  obtain ⟨m, hm, h⟩ := bind_ok.mp h
  obtain ⟨ht, rfl⟩ := earnCredits_ok hm
  obtain ⟨m', hm', h⟩ := bind_ok.mp h
  obtain ⟨d, hd, hm'⟩ := bind_ok.mp hm'
  rw [transmissionTime_eq] at hd
  cases hd
  obtain ⟨r, hr, hm'⟩ := bind_ok.mp hm'
  obtain ⟨_, rfl⟩ := creditsForTime_ok hr
  cases hm'
  obtain ⟨d, hd, h⟩ := bind_ok.mp h
  rw [transmissionTime_eq] at hd
  cases hd
  obtain ⟨e, he, h⟩ := bind_ok.mp h
  cases h
  obtain ⟨_, hnone, rfl⟩ := EtherMac.scheduleAt_ok he
  exact ⟨of_decide_eq_true (ASSERT_ok.mp h1), isCreditPositive_iff.mp (ASSERT_ok.mp h2),
    Option.isNone_iff_eq_none.mp (ASSERT_ok.mp h3), sub_nonneg.mp ht, hnone, rfl⟩

theorem handleEndSpendingCreditEvent_ok {notify : Bool}
    (h : s.handleEndSpendingCreditEvent cfg now gateOpen ready = .ok (s', notify)) :
    s.state = .kSpendCredit ∧
    ((gateOpen = false ∧ notify = false ∧ s' = s.updateState now .kIdle) ∨
    (gateOpen = true ∧ s.credit < 0 ∧ s.reachedZeroCreditMessage = none ∧ notify = false ∧
      s' = { s.updateState now .kEarnCredit with
        reachedZeroCreditMessage := some (zeroTime cfg now s) }) ∨
    (gateOpen = true ∧ 0 ≤ s.credit ∧ ready = false ∧ notify = false ∧
      s' = (s.updateState now .kIdle).resetCredit) ∨
    (gateOpen = true ∧ 0 ≤ s.credit ∧ ready = true ∧ notify = true ∧
      s' = s.updateState now .kEarnCredit)) := by
  obtain ⟨_, hs, h⟩ := bind_ok.mp h
  refine ⟨of_decide_eq_true (ASSERT_ok.mp hs), ?_⟩
  cases gateOpen with
  | false =>
    cases h
    exact .inl ⟨rfl, rfl, rfl⟩
  | true =>
    rw [if_neg nofun] at h
    split at h
    · rename_i hc
      rw [Bool.not_eq_true', isCreditPositive_false] at hc
      obtain ⟨m, hm, h⟩ := bind_ok.mp h
      cases h
      obtain ⟨_, hz, rfl⟩ := earnUntilZero_ok hm
      exact .inr (.inl ⟨rfl, hc, hz, rfl, rfl⟩)
    · rename_i hc
      rw [Bool.not_eq_true', isCreditPositive_false, not_lt] at hc
      cases ready with
      | false =>
        cases h
        exact .inr (.inr (.inl ⟨rfl, hc, rfl, rfl, rfl⟩))
      | true =>
        cases h
        exact .inr (.inr (.inr ⟨rfl, hc, rfl, rfl, rfl⟩))

theorem handleZeroCreditReachedEvent_ok {notify : Bool}
    (h : s.handleZeroCreditReachedEvent cfg now gateOpen ready = .ok (s', notify)) :
    s.state = .kEarnCredit ∧ gateOpen = true ∧ s.lastEventTimestamp ≤ now ∧ notify = ready ∧
    s' = (s.updateState now (if ready = true then .kEarnCredit else .kIdle)).resetCredit := by
  obtain ⟨_, hs, h⟩ := bind_ok.mp h
  obtain ⟨_, hg, h⟩ := bind_ok.mp h
  obtain ⟨m, hm, h⟩ := bind_ok.mp h
  obtain ⟨ht, rfl⟩ := earnCredits_ok hm
  obtain ⟨_, _, h⟩ := bind_ok.mp h
  cases ready with
  | true =>
    cases h
    exact ⟨of_decide_eq_true (ASSERT_ok.mp hs), ASSERT_ok.mp hg, sub_nonneg.mp ht, rfl, rfl⟩
  | false =>
    cases h
    exact ⟨of_decide_eq_true (ASSERT_ok.mp hs), ASSERT_ok.mp hg, sub_nonneg.mp ht, rfl, rfl⟩

end CreditBasedShaper
end Nesting
