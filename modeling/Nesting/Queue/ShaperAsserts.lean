import Nesting.Queue.Coordinated

/-!
# The assertions of the shaper

* `IsShaperError`     an assertion of the shaper, or a timer that is scheduled twice;
* `coordinated_step`  what the careful events keep;
* `shaper_sound`      **with careful events no assertion of the shaper fails**;
* `shaper_unsound`    how it fails with others.
-/

set_option linter.unusedVariables false

namespace Nesting

open Lib CreditBasedShaper

/-- the conditions that the handlers of the shaper and `scheduleAt` check -/
def shaperAsserts : List String :=
  ["state != kEarnCredit", "isPacketReadyForTransmission()", "isCreditPositive()",
   "state == kEarnCredit", "!reachedZeroCreditMessage.isScheduled()", "state == kSpendCredit",
   "transmissionGate->isGateOpen()", "credit >= - 0.1", "creditPerSecond > 0",
   "time >= SimTime::ZERO", "credit >= 0", "credit < 0", "t >= simTime()", "!msg->isScheduled()"]

def IsShaperError (x : SimError) : Prop := ∃ cond ∈ shaperAsserts, x = .assertion cond

theorem not_isShaperError_undefined (what : String) : ¬IsShaperError (.undefinedBehaviour what) := by
  rintro ⟨_, _, h⟩
  cases h

theorem not_isShaperError_assertion {cond : String} (h : cond ∉ shaperAsserts) :
    ¬IsShaperError (.assertion cond) := by
  rintro ⟨_, hmem, heq⟩
  cases heq
  exact h hmem

namespace ShapedQueue

variable {cfg : ShaperConfig} {s s' : ShapedQueue} {m : ShaperMsg} {l : List ShaperMsg} {b : Nat}

/-! ## the other events -/

theorem enqueue_queue (q : LengthAwareQueue) (b : Nat) :
    (q.availableBufferCapacity ≥ b ∧ (q.enqueue b).queue = q.queue ++ [b]) ∨
    (q.availableBufferCapacity < b ∧ (q.enqueue b).queue = q.queue) := by
  unfold LengthAwareQueue.enqueue
  split
  · rename_i hfit
    exact .inl ⟨hfit, rfl⟩
  · rename_i hfit
    exact .inr ⟨not_le.mp hfit, rfl⟩

theorem CarefulArrival.stocked (hc : s.CarefulArrival b) (h : Stocked s.messages s.queue.queue) :
    Stocked (post .packetEnqueued s.messages) (s.queue.enqueue b).queue := by
  obtain ⟨hsize, hdrop, _⟩ := hc
  have hbehind : Ahead .queueRequest .packetEnqueued (post .packetEnqueued s.messages) →
      .queueRequest ∈ s.messages := by
    intro ha
    obtain ⟨_, hmem⟩ | ⟨_, hne, _⟩ := ha.of_post nofun
    · exact hmem
    · exact absurd rfl hne
  obtain ⟨hfit, hq⟩ | ⟨hfit, hq⟩ := enqueue_queue s.queue b
  · rw [hq]
    have hne : s.queue.queue ++ [b] ≠ [] := List.append_ne_nil_of_right_ne_nil _ nofun
    refine ⟨fun x hx => ?_, fun _ => ⟨hne, fun ha => ?_⟩, fun _ => hne⟩
    · obtain hx | hx := List.mem_append.mp hx
      · exact h.sizes x hx
      · rw [List.mem_singleton.mp hx]
        exact hsize hfit
    · have hpos := List.length_pos_of_ne_nil (h.wanted (.inr (hbehind ha)))
      rw [List.length_append, List.length_singleton]
      omega
  · obtain ⟨hne, hlen⟩ := hdrop hfit
    rw [hq]
    exact ⟨h.sizes, fun _ => ⟨hne, fun ha => hlen (hbehind ha)⟩, fun _ => hne⟩

theorem coordinated_enqueue (h : Coordinated cfg s) (hc : s.CarefulArrival b) :
    Coordinated cfg { s with
      queue := s.queue.enqueue b
      messages := post .packetEnqueued s.messages } := by
  have hstocked := hc.stocked h.stocked
  obtain ⟨_, _, hopen⟩ := hc
  refine ⟨h.posted.post nofun, hstocked, h.ledger, ?_, ?_, ?_, ?_, ?_⟩
  · intro x hx ht
    obtain rfl | hx := mem_post.mp hx
    · cases ht
    · exact h.token x hx ht
  · intro hg hi
    have hG := (hopen hg).1 hi
    have hidle := h.idle hg hi
    refine ⟨fun hneg => ?_, fun _ => .inr (.inr (mem_post.mpr (.inl rfl))), fun _ => ⟨?_, ?_⟩,
      fun hmem _ => ?_⟩
    · exact (hidle.owed hneg).imp (fun hm => mem_post.mpr (.inr hm)) (fun hm => mem_post.mpr (.inr hm))
    · exact fun hmem => hG ((mem_post.mp hmem).resolve_left nofun)
    · intro ha
      obtain ⟨heq, _⟩ | ⟨hne, _⟩ := ha.of_post nofun
      · cases heq
      · exact hne rfl
    · exact absurd ((mem_post.mp hmem).resolve_left nofun) hG
  · intro hg he
    obtain ⟨hG, hA⟩ := h.earning hg he
    exact ⟨fun hmem => hG ((mem_post.mp hmem).resolve_left nofun),
      fun hmem => hA ((mem_post.mp hmem).resolve_left nofun)⟩
  · intro hg he
    obtain ⟨hclosing, hz⟩ := h.closing hg he
    refine ⟨⟨?_, fun hr => ?_, fun b' ha => ?_, fun hq => ⟨fun hmem => ?_, fun ha => ?_⟩⟩, hz⟩
    · exact hclosing.told.imp (fun hm => mem_post.mpr (.inr hm)) (fun hm => mem_post.mpr (.inr hm))
    · exact hclosing.request ((mem_post.mp hr).resolve_left nofun)
    · obtain ⟨heq, _⟩ | ⟨_, _, ha⟩ := ha.of_post nofun
      · cases heq
      · exact hclosing.packet b' ha
    · have hq := (mem_post.mp hq).resolve_left nofun
      exact (hclosing.queue hq).1 ((mem_post.mp hmem).resolve_left nofun)
    · have hq := (mem_post.mp hq).resolve_left nofun
      obtain ⟨heq, _⟩ | ⟨_, _, ha⟩ := ha.of_post nofun
      · cases heq
      · exact (hclosing.queue hq).2 ha
  · intro hg hend hmem
    obtain ⟨hG, hA⟩ := (hopen hg).2 hend
    obtain hmem | hmem := hmem
    · exact absurd ((mem_post.mp hmem).resolve_left nofun) hG
    · exact absurd ((mem_post.mp hmem).resolve_left nofun) hA

theorem coordinated_opening (h : Coordinated cfg s) (hc : s.CarefulOpening) :
    Coordinated cfg { s with
      gateOpen := true
      messages := post .gateStateChanged s.messages } := by
  obtain ⟨hne, hidle, hspend⟩ := hc
  have hnew : ShaperMsg.gateStateChanged ∈ post .gateStateChanged s.messages :=
    mem_post.mpr (.inl rfl)
  refine ⟨h.posted.post nofun, h.stocked.post nofun nofun, h.ledger, ?_, ?_, ?_, nofun, ?_⟩
  · intro x hx ht
    obtain rfl | hx := mem_post.mp hx
    · cases ht
    · exact h.token x hx ht
  · intro _ hi
    obtain ⟨hE, hA⟩ := hidle hi
    refine ⟨fun _ => .inl hnew, fun _ => .inl hnew, fun hmem => ?_, fun _ hmem => ?_⟩
    · exact absurd ((mem_post.mp hmem).resolve_left nofun) hE
    · exact hA ((mem_post.mp hmem).resolve_left nofun)
  · intro _ he
    exact absurd he hne
  · intro _ hend _
    exact hspend hend

theorem coordinated_closing (h : Coordinated cfg s) (hg : s.gateOpen = true)
    (hc : s.CarefulClosing) : Coordinated cfg { s with
      gateOpen := false
      messages := post .gateStateChanged s.messages } := by
  obtain ⟨hz, hr⟩ := hc
  refine ⟨h.posted.post nofun, h.stocked.post nofun nofun, h.ledger, ?_, nofun, nofun, ?_, nofun⟩
  · intro x hx ht
    obtain rfl | hx := mem_post.mp hx
    · cases ht
    · exact h.token x hx ht
  · intro _ he
    obtain ⟨_, hA⟩ := h.earning hg he
    refine ⟨⟨.inl (mem_post.mpr (.inl rfl)), fun hmem => ?_, fun b ha => ?_,
      fun _ => ⟨fun hmem => ?_, fun ha => ?_⟩⟩, hz⟩
    · exact hr ((mem_post.mp hmem).resolve_left nofun)
    · obtain ⟨heq, _⟩ | ⟨_, _, ha⟩ := ha.of_post nofun
      · cases heq
      · exact hA ha.mem.1
    · exact hA ((mem_post.mp hmem).resolve_left nofun)
    · obtain ⟨heq, _⟩ | ⟨hne, _⟩ := ha.of_post nofun
      · cases heq
      · exact hne rfl

/-- between two instants nothing is on its way -/
theorem Coordinated.quiet (h : Coordinated cfg s) (hl : s.messages = []) :
    (s.gateOpen = true → s.shaper.state = .kIdle → 0 ≤ s.shaper.credit ∧ s.queue.queue = []) ∧
    (s.gateOpen = false → s.shaper.state ≠ .kEarnCredit) := by
  refine ⟨fun hg hi => ?_, fun hg he => ?_⟩
  · have hidle := h.idle hg hi
    rw [hl] at hidle
    refine ⟨not_lt.mp fun hneg => ?_, by_contra fun hne => ?_⟩
    · obtain hmem | hmem := hidle.owed hneg
      · cases hmem
      · cases hmem
    · obtain hmem | hmem | hmem := hidle.waiting hne
      · cases hmem
      · cases hmem
      · cases hmem
  · obtain ⟨hc, _⟩ := h.closing hg he
    rw [hl] at hc
    obtain hmem | hmem := hc.told
    · cases hmem
    · cases hmem

theorem coordinated_advance {t : SimTime} (h : Coordinated cfg s) (ht : s.CanAdvance t) :
    Coordinated cfg { s with time := t } := by
  obtain ⟨hle, hl, _, _⟩ := ht
  refine ⟨h.posted, h.stocked, ⟨le_trans h.ledger.past hle, h.ledger.earning, h.ledger.spending⟩,
    h.token, h.idle, h.earning, ?_, ?_⟩
  · intro hg he
    exact absurd he ((h.quiet hl).2 hg)
  · intro _ _ hmem
    change .gateStateChanged ∈ s.messages ∨ .shaperGateStateChanged ∈ s.messages at hmem
    rw [hl] at hmem
    obtain hmem | hmem := hmem
    · cases hmem
    · cases hmem

theorem coordinated_request (h : Coordinated cfg s) (hl : s.messages = [])
    (hne : s.isEmpty = false) (hc : s.shaper.state ≠ .kSpendCredit) :
    Coordinated cfg { s with messages := post .gateRequest s.messages } := by
  obtain ⟨hg, hcredit, hq⟩ := of_isEmpty hne
  have he : s.shaper.state = .kEarnCredit := by
    cases hst : s.shaper.state with
    | kIdle => exact absurd ((h.quiet hl).1 hg hst).2 hq
    | kSpendCredit => exact absurd hst hc
    | kEarnCredit => rfl
  rw [hl]
  refine ⟨⟨List.pairwise_singleton _ _, fun _ => rfl⟩, ⟨h.stocked.sizes, nofun, fun _ => hq⟩, h.ledger,
    fun _ _ _ => ⟨hcredit, he⟩, ?_, fun _ _ => ⟨nofun, nofun⟩, ?_, ?_⟩
  · intro _ hi
    cases he.symm.trans hi
  · intro hclosed
    cases hg.symm.trans hclosed
  · intro _ hend
    cases he.symm.trans (h.ledger.spending s.time hend)

/-- a timer has fired, or the credit was settled otherwise -/
theorem Coordinated.settled {shaper : CreditBasedShaper} (h : Coordinated cfg s)
    (hnone : ∀ x ∈ s.messages, ¬x.Token) (hl : Ledger cfg s.time shaper)
    (hend : shaper.endSpendingCreditMessage = none)
    (hidle : s.gateOpen = true → shaper.state = .kIdle → 0 ≤ shaper.credit ∧ s.queue.queue = [] ∧
      (.packetEnqueued ∈ s.messages → False))
    (hearn : shaper.state = .kEarnCredit → s.gateOpen = true ∧
      .gateStateChanged ∉ s.messages ∧ .shaperGateStateChanged ∉ s.messages) :
    Coordinated cfg { s with shaper := shaper } := by
  refine ⟨h.posted, h.stocked, hl, fun x hx ht => absurd ht (hnone x hx), ?_,
    fun _ he => (hearn he).2, ?_, ?_⟩
  · intro hg hi
    obtain ⟨hc, hq, hE⟩ := hidle hg hi
    exact ⟨fun hneg => absurd hneg (not_lt.mpr hc), fun hne => absurd hq hne, fun hmem => (hE hmem).elim,
      fun _ _ => ⟨hc, hq⟩⟩
  · intro hclosed he
    cases hclosed.symm.trans (hearn he).1
  · intro _ ht
    cases hend.symm.trans ht

theorem Coordinated.noArrival (h : Coordinated cfg s) (hq : s.queue.queue = []) :
    .packetEnqueued ∈ s.messages → False := fun hmem => (h.stocked.arrival hmem).1 hq

theorem not_ready (h : Coordinated cfg s) (hr : s.ready = false) : s.queue.queue = [] := by
  by_contra hne
  cases hr.symm.trans ((ready_iff h.stocked).mpr hne)

theorem coordinated_endSpendingCredit {shaper : CreditBasedShaper} {notify : Bool}
    (h : Coordinated cfg s) (hdue : s.shaper.endSpendingCreditMessage = some s.time)
    (hs : { s.shaper with endSpendingCreditMessage := none }.handleEndSpendingCreditEvent cfg s.time
      s.gateOpen s.ready = .ok (shaper, notify)) : Coordinated cfg { s with shaper := shaper } := by
  have hst := h.ledger.spending s.time hdue
  have hnone : ∀ x ∈ s.messages, ¬x.Token := by
    intro x hx ht
    cases hst.symm.trans (h.token x hx ht).2
  have hzero : s.shaper.reachedZeroCreditMessage = none := by
    cases hz : s.shaper.reachedZeroCreditMessage with
    | none => rfl
    | some t => cases hst.symm.trans (h.ledger.earning t hz).1
  have hledger : ∀ (state : ShaperState) (credit : ℚ), Ledger cfg s.time
      ⟨state, credit, s.time, none, s.shaper.reachedZeroCreditMessage⟩ := by
    rw [hzero]
    exact fun _ _ => ⟨le_refl _, nofun, nofun⟩
  obtain ⟨_, ⟨hg, _, rfl⟩ | ⟨hg, hc, _, _, rfl⟩ | ⟨hg, hc, hr, _, rfl⟩ | ⟨hg, hc, hr, _, rfl⟩⟩ :=
    handleEndSpendingCreditEvent_ok hs
  · refine h.settled hnone (hledger _ _) rfl (fun hopen => ?_) nofun
    cases hg.symm.trans hopen
  · have hquiet : ∀ x, x = .gateStateChanged ∨ x = .shaperGateStateChanged → x ∉ s.messages := by
      intro x hx hmem
      refine absurd (h.spending hg hdue ?_).1 (not_le.mpr hc)
      obtain rfl | rfl := hx
      · exact .inl hmem
      · exact .inr hmem
    refine h.settled hnone ⟨le_refl _, ?_, nofun⟩ rfl nofun
      fun _ => ⟨hg, hquiet _ (.inl rfl), hquiet _ (.inr rfl)⟩
    intro t ht
    cases ht
    exact ⟨rfl, hc, zeroTime_credit cfg s.time s.shaper⟩
  · have hq := not_ready h hr
    exact h.settled hnone (hledger _ _) rfl (fun _ _ => ⟨le_refl _, hq, h.noArrival hq⟩) nofun
  · have hne := (ready_iff h.stocked).mp hr
    refine h.settled hnone (hledger _ _) rfl nofun fun _ => ⟨hg, fun hmem => ?_, fun hmem => ?_⟩
    · exact hne (h.spending hg hdue (.inl hmem)).2
    · exact hne (h.spending hg hdue (.inr hmem)).2

theorem coordinated_reachedZeroCredit {shaper : CreditBasedShaper} {notify : Bool}
    (h : Coordinated cfg s) (hdue : s.shaper.reachedZeroCreditMessage = some s.time)
    (hs : { s.shaper with reachedZeroCreditMessage := none }.handleZeroCreditReachedEvent cfg s.time
      s.gateOpen s.ready = .ok (shaper, notify)) : Coordinated cfg { s with shaper := shaper } := by
  obtain ⟨he, hneg, _⟩ := h.ledger.earning s.time hdue
  obtain ⟨_, hg, _, _, rfl⟩ := handleZeroCreditReachedEvent_ok hs
  have hnone : ∀ x ∈ s.messages, ¬x.Token := by
    intro x hx ht
    exact absurd (h.token x hx ht).1 (not_le.mpr hneg)
  have hend : s.shaper.endSpendingCreditMessage = none := by
    cases ht : s.shaper.endSpendingCreditMessage with
    | none => rfl
    | some t => cases he.symm.trans (h.ledger.spending t ht)
  refine h.settled hnone ⟨le_refl _, nofun, ?_⟩ hend (fun _ hi => ?_) fun _ => ⟨hg, h.earning hg he⟩
  · intro t ht
    change t ∈ s.shaper.endSpendingCreditMessage at ht
    rw [hend] at ht
    cases ht
  · have hr : s.ready = false := by
      cases hr : s.ready with
      | false => rfl
      | true =>
        rw [hr] at hi
        cases hi
    have hq := not_ready h hr
    exact ⟨le_refl _, hq, h.noArrival hq⟩

theorem coordinated_step {e : ShaperEvent} (h : Coordinated cfg s) (hc : s.Careful e)
    (hs : s.step cfg e = .ok s') : Coordinated cfg s' := by
  cases e with
  | advance t =>
    by_cases ht : s.CanAdvance t
    · rw [step, if_pos ht] at hs
      cases hs
      exact coordinated_advance h ht
    · rw [step, if_neg ht] at hs
      cases hs
  | enqueue bitLength =>
    cases hs
    exact coordinated_enqueue h hc
  | setGateState gateOpen =>
    rw [step] at hs
    split at hs
    · rename_i hne
      cases hs
      cases gateOpen with
      | true => exact coordinated_opening h (hc (Bool.eq_false_iff.mpr hne))
      | false =>
        have hg := Bool.ne_false_iff.mp hne
        exact coordinated_closing h hg (hc hg)
    · cases hs
      exact h
  | setMaxTransferableBits maxBits =>
    cases hs
    exact ⟨h.1, h.2, h.3, h.4, h.5, h.6, h.7, h.8⟩
  | request =>
    rw [step] at hs
    split at hs
    · rename_i hr
      cases hs
      exact coordinated_request h hr.1 hr.2.2 hc
    · cases hs
  | handleMessage =>
    rw [step] at hs
    split at hs
    · cases hs
    · rename_i m l hl
      split at hs
      · cases hs
      · refine coordinated_handleMessage (m := m) (l := l) ?_ hs
        rw [← hl]
        exact h
  | endSpendingCredit =>
    rw [step] at hs
    split at hs
    · rename_i hdue
      obtain ⟨⟨shaper, notify⟩, hm, hs⟩ := bind_ok.mp hs
      cases hs
      exact coordinated_endSpendingCredit h hdue hm
    · cases hs
  | reachedZeroCredit =>
    rw [step] at hs
    split at hs
    · rename_i hdue
      obtain ⟨⟨shaper, notify⟩, hm, hs⟩ := bind_ok.mp hs
      cases hs
      exact coordinated_reachedZeroCredit h hdue hm
    · cases hs

/-! ## the assertions -/

theorem avoids_earnCredits {shaper : CreditBasedShaper} {time : SimTime} (ht : 0 ≤ time) :
    Avoids IsShaperError (shaper.earnCredits cfg time) := by
  rw [earnCredits_eq ht]
  exact .ok _

theorem avoids_earnUntilZero {shaper : CreditBasedShaper} {now : SimTime} (hc : shaper.credit < 0)
    (hz : shaper.reachedZeroCreditMessage = none) :
    Avoids IsShaperError (shaper.earnUntilZero cfg now) := by
  rw [earnUntilZero_eq hc hz]
  exact .ok _

/-- no timer for the zero credit in another state -/
theorem Coordinated.noZero (h : Coordinated cfg s) (hs : s.shaper.state ≠ .kEarnCredit) :
    s.shaper.reachedZeroCreditMessage = none := by
  cases hz : s.shaper.reachedZeroCreditMessage with
  | none => rfl
  | some t => exact absurd (h.ledger.earning t hz).1 hs

theorem avoids_gateStateChanged
    (h : Coordinated cfg { s with messages := .shaperGateStateChanged :: l }) :
    Avoids IsShaperError
      (s.shaper.handleGateStateChangedEvent cfg s.time s.gateOpen s.ready) := by
  unfold handleGateStateChangedEvent
  split
  · rename_i hg
    have hne : s.shaper.state ≠ .kEarnCredit :=
      fun he => (h.earning hg he).2 List.mem_cons_self
    refine .bind (.assert (decide_eq_true hne)) fun _ _ => ?_
    split
    · rename_i hc
      rw [Bool.and_eq_true, Bool.not_eq_true', isCreditPositive_false] at hc
      exact avoids_earnUntilZero hc.2 (h.noZero hne)
    · split
      · exact .ok _
      · exact .ok _
  · split
    · exact .bind (avoids_earnCredits (sub_nonneg.mpr h.ledger.past)) fun _ _ => .ok _
    · exact .ok _

theorem avoids_packetEnqueued (h : Coordinated cfg { s with messages := .packetEnqueued :: l }) :
    Avoids IsShaperError
      (s.shaper.handlePacketEnqueuedEvent s.time s.gateOpen s.ready) := by
  have hne := (h.stocked.arrival List.mem_cons_self).1
  refine .bind (.assert ((ready_iff h.stocked).mpr hne)) fun _ _ => ?_
  split
  · rename_i hc
    rw [Bool.and_eq_true, decide_eq_true_iff] at hc
    have hidle := h.idle hc.2 hc.1
    obtain ⟨hG, hA⟩ := hidle.arrival List.mem_cons_self
    refine .bind (.assert (isCreditPositive_iff.mpr (not_lt.mp fun hneg => ?_))) fun _ _ => .ok _
    -- a gate message is on its way to a shaper that owes credit, and it is not behind this one
    obtain hmem | hmem := hidle.owed hneg
    · exact hG hmem
    · exact Ahead.of_head hA ((List.mem_cons.mp hmem).resolve_left nofun)
  · exact .ok _

theorem avoids_packet (h : Coordinated cfg { s with messages := .packet b :: l }) :
    Avoids IsShaperError (s.shaper.handleSendPacketEvent cfg s.time b) := by
  obtain ⟨hc, he⟩ := h.token _ List.mem_cons_self trivial
  have hzero : s.shaper.reachedZeroCreditMessage = none := by
    cases hz : s.shaper.reachedZeroCreditMessage with
    | none => rfl
    | some t => exact absurd (h.ledger.earning t hz).2.1 (not_lt.mpr hc)
  have hend : s.shaper.endSpendingCreditMessage = none := by
    cases ht : s.shaper.endSpendingCreditMessage with
    | none => rfl
    | some t => cases he.symm.trans (h.ledger.spending t ht)
  have hpos := sendTime_pos cfg b
  refine .bind (.assert (decide_eq_true he)) fun _ _ => ?_
  refine .bind (.assert (isCreditPositive_iff.mpr hc)) fun _ _ => ?_
  refine .bind (.assert (Option.isNone_iff_eq_none.mpr hzero)) fun _ _ => ?_
  refine .bind (avoids_earnCredits (sub_nonneg.mpr h.ledger.past)) fun s1 h1 => ?_
  obtain ⟨_, rfl⟩ := earnCredits_ok h1
  refine .bind ?_ fun s2 h2 => ?_
  · unfold spendCredit
    rw [transmissionTime_eq]
    refine .bind (.ok _) fun d hd => .bind ?_ fun _ _ => .ok _
    cases hd
    rw [creditsForTime_eq cfg.sendSlope_pos (le_of_lt hpos)]
    exact .ok _
  · obtain ⟨_, _, h2⟩ := bind_ok.mp h2
    obtain ⟨_, _, h2⟩ := bind_ok.mp h2
    cases h2
    rw [transmissionTime_eq]
    refine .bind (.ok _) fun d hd => ?_
    cases hd
    refine .bind ?_ fun _ _ => .ok _
    show Avoids IsShaperError (EtherMac.scheduleAt s.time s.shaper.endSpendingCreditMessage _)
    rw [hend, scheduleAt_eq (le_of_lt (lt_add_of_pos_right _ hpos))]
    exact .ok _

theorem avoids_endSpendingCredit (h : Coordinated cfg s)
    (hdue : s.shaper.endSpendingCreditMessage = some s.time) : Avoids IsShaperError
      ({ s.shaper with endSpendingCreditMessage := none }.handleEndSpendingCreditEvent cfg s.time
        s.gateOpen s.ready) := by
  have hst := h.ledger.spending s.time hdue
  refine .bind (.assert (decide_eq_true hst)) fun _ _ => ?_
  split
  · exact .ok _
  · split
    · rename_i hc
      rw [Bool.not_eq_true', isCreditPositive_false] at hc
      refine .bind (avoids_earnUntilZero hc (h.noZero ?_)) fun _ _ => .ok _
      rw [hst]
      nofun
    · split
      · exact .ok _
      · exact .ok _

theorem avoids_reachedZeroCredit (h : Coordinated cfg s)
    (hdue : s.shaper.reachedZeroCreditMessage = some s.time) : Avoids IsShaperError
      ({ s.shaper with reachedZeroCreditMessage := none }.handleZeroCreditReachedEvent cfg s.time
        s.gateOpen s.ready) := by
  obtain ⟨he, _, hzero⟩ := h.ledger.earning s.time hdue
  have hg : s.gateOpen = true := by
    cases hg : s.gateOpen with
    | true => rfl
    | false => exact absurd hdue (h.closing hg he).2
  refine .bind (.assert (decide_eq_true he)) fun _ _ => ?_
  refine .bind (.assert hg) fun _ _ => ?_
  refine .bind (avoids_earnCredits (sub_nonneg.mpr h.ledger.past)) fun s1 h1 => ?_
  obtain ⟨_, rfl⟩ := earnCredits_ok h1
  have hcredit : s.shaper.credit + (s.time - s.shaper.lastEventTimestamp) * cfg.getIdleSlope ≥
      -1 / 10 := by
    rw [hzero]
    norm_num
  refine .bind (.assert (decide_eq_true hcredit)) fun _ _ => ?_
  split
  · exact .ok _
  · exact .ok _

theorem avoids_withShaper {r : Sim (CreditBasedShaper × Bool)} (h : Avoids IsShaperError r) :
    Avoids IsShaperError (s.withShaper r) := .bind h fun _ _ => .ok _

theorem avoids_handleMessage (h : Coordinated cfg { s with messages := m :: l }) :
    Avoids IsShaperError ({ s with messages := l }.handleMessage cfg m) := by
  have hother : ∀ cond ∈ ["!isEmpty()", "!isEmpty(maxBits)"], ¬IsShaperError (.assertion cond) := by
    intro cond hmem
    refine not_isShaperError_assertion ?_
    revert cond
    decide
  cases m with
  | gateStateChanged => exact .ok _
  | gateRequest =>
    refine .bind (.assertOther (hother _ (by decide))) fun _ _ => ?_
    exact .bind (.assertOther (hother _ (by decide))) fun _ _ => .ok _
  | shaperGateStateChanged => exact .bind (avoids_gateStateChanged h) fun _ _ => .ok _
  | packetEnqueued => exact avoids_withShaper (avoids_packetEnqueued h)
  | requestPacket => exact .ok _
  | queueRequest =>
    refine .bind (.bind (.assertOther (hother _ (by decide))) fun _ _ => ?_) fun _ _ => .ok _
    split
    · exact .error (not_isShaperError_undefined _)
    · exact .ok _
  | packet bitLength => exact .bind (avoids_packet h) fun _ _ => .ok _

theorem avoids_step (h : Coordinated cfg s) (e : ShaperEvent) :
    Avoids IsShaperError (s.step cfg e) := by
  cases e with
  | advance t =>
    rw [step]
    split
    · exact .ok _
    · exact .error (not_isShaperError_undefined _)
  | enqueue bitLength => exact .ok _
  | setGateState gateOpen =>
    rw [step]
    split
    · exact .ok _
    · exact .ok _
  | setMaxTransferableBits maxBits => exact .ok _
  | request =>
    rw [step]
    split
    · exact .ok _
    · exact .error (not_isShaperError_undefined _)
  | handleMessage =>
    rw [step]
    split
    · exact .error (not_isShaperError_undefined _)
    · rename_i m l hl
      split
      · exact .error (not_isShaperError_undefined _)
      · refine avoids_handleMessage (m := m) (l := l) ?_
        rw [← hl]
        exact h
  | endSpendingCredit =>
    rw [step]
    split
    · rename_i hdue
      exact avoids_withShaper (avoids_endSpendingCredit h hdue)
    · exact .error (not_isShaperError_undefined _)
  | reachedZeroCredit =>
    rw [step]
    split
    · rename_i hdue
      exact avoids_withShaper (avoids_reachedZeroCredit h hdue)
    · exact .error (not_isShaperError_undefined _)

/-- **The shaper keeps its own protocol** as long as it is told in time. -/
theorem shaper_sound (cfg : ShaperConfig) (gateOpen : Bool) (bufferCapacity : Nat)
    (es : List ShaperEvent) (hm : Meets (step cfg) Careful (start gateOpen bufferCapacity) es) :
    Avoids IsShaperError (run (step cfg) (start gateOpen bufferCapacity) es) := by
  intro x hx
  refine run_error_of (I := Coordinated cfg) (fun _ _ _ hi hc hs => coordinated_step hi hc hs)
    (fun _ e x hi _ hx => avoids_step hi e x hx) ?_ hm hx
  refine ⟨⟨.nil, nofun⟩, ⟨nofun, nofun, nofun⟩, ⟨le_refl _, nofun, nofun⟩, nofun, fun _ _ => ?_, nofun,
    nofun, nofun⟩
  exact ⟨fun h => absurd h (lt_irrefl _), fun h => absurd rfl h, nofun, nofun⟩

/-- packets before and after the gate opens, one that does not fit into the buffer, and a gate that
closes and opens while a packet is sent -/
def carefulRun : List ShaperEvent :=
  [.enqueue 672, .handleMessage, .setGateState true, .handleMessage, .handleMessage, .enqueue 672,
   .enqueue 2000, .handleMessage, .request, .handleMessage, .handleMessage, .handleMessage,
   .setGateState false, .handleMessage, .handleMessage, .handleMessage, .setGateState true,
   .handleMessage, .handleMessage, .advance 1, .endSpendingCredit, .advance 2, .reachedZeroCredit,
   .request, .handleMessage, .handleMessage, .handleMessage, .handleMessage, .advance 3,
   .endSpendingCredit, .advance 4, .reachedZeroCredit]

theorem shaper_sound_carefulRun :
    Avoids IsShaperError (run (step halfRate) (start false 2000) carefulRun) ∧
    ∃ s, run (step halfRate) (start false 2000) carefulRun = .ok s ∧ s.sent = [672, 672] ∧
      s.shaper = ⟨.kIdle, 0, 4, none, none⟩ :=
  ⟨shaper_sound halfRate false 2000 carefulRun (by decide +kernel), exists_of_any (by decide +kernel)⟩

/-- a packet is sent at the time zero, and the credit will be zero at the time two -/
def sendOne : List ShaperEvent :=
  [.enqueue 672, .handleMessage, .request, .handleMessage, .handleMessage, .handleMessage,
   .handleMessage, .advance 1, .endSpendingCredit, .advance 2]

/-- credit for ten seconds, and a request at the time at which the packet has been sent -/
def requestEarly : List ShaperEvent :=
  [.enqueue 672, .enqueue 672, .handleMessage, .advance 10, .request, .handleMessage, .handleMessage,
   .handleMessage, .handleMessage, .advance (10 + 832 / 1000), .request, .handleMessage,
   .handleMessage, .handleMessage, .handleMessage]

/-- a packet is dropped at an empty queue; it arrives as the gate opens; the gate closes and opens at
once; it closes as the credit is zero; the MAC is faster than the shaper thinks -/
theorem shaper_unsound :
    run (step halfRate) (start true 100) [.enqueue 672, .handleMessage] =
      .error (.assertion "isPacketReadyForTransmission()") ∧
    run (step halfRate) (start false 2000)
      [.setGateState true, .enqueue 672, .handleMessage, .handleMessage, .handleMessage] =
      .error (.assertion "state != kEarnCredit") ∧
    run (step halfRate) (start true 2000)
      [.enqueue 672, .handleMessage, .setGateState false, .setGateState true, .handleMessage,
       .handleMessage] = .error (.assertion "state != kEarnCredit") ∧
    run (step halfRate) (start true 2000) (sendOne ++ [.setGateState false, .reachedZeroCredit]) =
      .error (.assertion "transmissionGate->isGateOpen()") ∧
    run (step halfRate) (start true 2000) requestEarly =
      .error (.assertion "state == kEarnCredit") :=
  ⟨eq_error_of (by decide +kernel), eq_error_of (by decide +kernel), eq_error_of (by decide +kernel),
    eq_error_of (by decide +kernel), eq_error_of (by decide +kernel)⟩

end ShapedQueue
end Nesting
