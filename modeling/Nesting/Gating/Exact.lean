import Mathlib.Algebra.Order.Archimedean.Basic
import Nesting.Gating.Closings
import Nesting.Gating.Foresight

/-!
# The look-ahead is exact when it foresees

`Foretold` says what a query should return: the bits up to the first time at which ticks alone close
the gate, at most a maximum frame.

* `Tells`        a result that is right for the ticks that follow;
* `answers_next`, `answers_current`   each step of the walk is matched by the tick that applies the
                 entry it goes to, up to the rounds in which nothing closes the gate;
* `Onward`       what every run whose queries foresee keeps;
* `calculateMaxBit_exact`  **in such a run every query that foresees is answered exactly.**
-/

set_option linter.unusedVariables false

namespace Nesting
namespace GateSystem
open GateController (Look Ends Reaches Standing SwapsAt TurnsAt bitsToUnsigned)

/-- the query for gate `g` at `now` ends; it returns 0 if the gate is closed, and otherwise the whole
bits that fit before the first time at which ticks alone, after the query, close the gate -/
def Foretold (cfg : GateConfig) (now : SimTime) (g : Nat) (s : GateSystem) : Prop :=
  ∃ b gc', (∃ fuel, ∀ more, s.gc.calculateMaxBit cfg (fuel + more) now g = .ok (b, gc')) ∧
    (s.gateOpen g = false → b = 0) ∧
    (s.gateOpen g = true →
      closings cfg g { s with gc := gc' } = ∅ ∧ b = kEthernet2MaximumTransmissionUnitBitLength ∨
      ∃ t, IsLeast (closings cfg g { s with gc := gc' }) t ∧
        b = min kEthernet2MaximumTransmissionUnitBitLength ⌊(t - now) * cfg.transmitRate⌋₊)

/-! ## results -/

section
variable {cfg : GateConfig} {g : Nat} {bitTime now : SimTime} {s s' : GateSystem} {c : SimTime}
  {i j b : Nat} {l l1 : Look} {cur N : Schedule GateBitvector}

/-- the result `b` is right: a full frame, and the gate stays open for it, or the bits up to the
first closing -/
def Tells (cfg : GateConfig) (g : Nat) (bitTime now : SimTime) (s : GateSystem) (b : Nat) : Prop :=
  b = kEthernet2MaximumTransmissionUnitBitLength ∧
    OpenUntil cfg g (now + kEthernet2MaximumTransmissionUnitBitLength * bitTime) s ∨
    ∃ t, IsLeast (closings cfg g s) t ∧
      (t - now) / bitTime < kEthernet2MaximumTransmissionUnitBitLength ∧
      b = bitsToUnsigned ((t - now) / bitTime)

/-- the result `b` of a walk that stands at the entry `s` is executing -/
def Answers (cfg : GateConfig) (g : Nat) (bitTime now : SimTime) (l : Look) (s : GateSystem)
    (b : Nat) : Prop :=
  ¬ l.bits < kEthernet2MaximumTransmissionUnitBitLength ∧
    b = kEthernet2MaximumTransmissionUnitBitLength ∨
    l.bits < kEthernet2MaximumTransmissionUnitBitLength ∧ l.bitvector.test g = false ∧
      b = bitsToUnsigned l.bits ∨
    l.bits < kEthernet2MaximumTransmissionUnitBitLength ∧ l.bitvector.test g = true ∧
      Tells cfg g bitTime now s b

/-- the bits that were collected up to the time `t` -/
theorem bits_of_reached (hbt : 0 < bitTime) {t : SimTime} (h : reached now bitTime l = t) :
    l.bits = (t - now) / bitTime := by
  rw [eq_div_iff hbt.ne', ← h, reached]
  ring

/-- a frame that is full before the next tick -/
theorem tells_full (hbt : 0 < bitTime) (h : Underway cfg c j s)
    (hr : reached now bitTime l1 = dueTime c j s)
    (hb : ¬ l1.bits < kEthernet2MaximumTransmissionUnitBitLength) :
    Tells cfg g bitTime now s kEthernet2MaximumTransmissionUnitBitLength := by
  refine Or.inl ⟨rfl, h.openUntil_due.mono ?_⟩
  have hmul := mul_le_mul_of_nonneg_right (not_lt.mp hb) hbt.le
  rw [← hr, reached]
  linarith

/-- **One step of the walk against one tick.** -/
theorem tells_of_answers (hbt : 0 < bitTime) (h : Underway cfg c j s)
    {mac : Option PreemptMac} (hs : s.step cfg (.tick mac) = .ok s')
    (hr : reached now bitTime l1 = dueTime c j s) (ho : s'.gateOpen g = l1.bitvector.test g)
    (ha : Answers cfg g bitTime now l1 s' b) : Tells cfg g bitTime now s b := by
  have ht := h.ticked_of_step hs
  rcases ha with ⟨hb, rfl⟩ | ⟨hb, hclosed, rfl⟩ | ⟨hb, hopen, ⟨rfl, hn⟩ | ⟨t, hl, hlt, rfl⟩⟩
  · exact tells_full hbt h hr hb
  · have hbits := bits_of_reached hbt hr
    refine Or.inr ⟨_, isLeast_closings_of_closed h hs (ho.trans hclosed), ?_, ?_⟩
    · rw [← hbits]
      exact hb
    · rw [← hbits]
  · exact Or.inl ⟨rfl, h.openUntil_of_ticked ht (fun _ => ho.trans hopen) hn⟩
  · exact Or.inr ⟨t, isLeast_closings_of_open h hs (ho.trans hopen) hl, hlt, rfl⟩

/-! ## the walk through the next list -/

/-- what is asked of the entries of the next list that are looked at, when its round starts at `c` -/
def NextClear (cfg : GateConfig) (cur N : Schedule GateBitvector) (g : Nat)
    (bitTime now c : SimTime) : Prop :=
  ∀ m e, N.controlList[m]? = some e → Reaches N g bitTime now c 0 m →
    N.startOf m < N.cycleTime ∧ N.heldFor m / cfg.clockRate < 2 ^ 32 ∧
      (e.scheduledObject.test g = true → N.cycleTime < N.startOf (m + 1) →
        ∃ e', cur.controlList[m]? = some e' ∧ e.timeInterval < cur.cycleTime + e'.timeInterval)

/-- where a round that keeps the gate open ends -/
theorem exists_turnsAt (hpos : 0 < N.total) (hclear : NextClear cfg cur N g bitTime now c)
    (hr : Reaches N g bitTime now c 0 i) (ho : N.openAt g i = true)
    (hend : N.cycleTime < N.startOf (i + 1) ∨ i + 1 = N.controlList.length) :
    ∃ gain, 0 < gain ∧ TurnsAt cur N bitTime i gain := by
  have he := List.getElem?_eq_getElem hr.lt_length
  by_cases hcut : N.cycleTime < N.startOf (i + 1)
  · have htest := (Schedule.openAt_of he).symm.trans ho
    obtain ⟨e', he', hlt⟩ := (hclear i _ he hr).2.2 htest hcut
    exact ⟨_, by linarith, GateController.turnsAt_cut he he' hcut⟩
  · exact ⟨_, hpos, GateController.turnsAt_last (hend.resolve_left hcut) (not_lt.mp hcut)⟩

/-- a round that has kept the gate open up to its end -/
theorem answers_turn (hbt : 0 < bitTime) (hpos : 0 < N.total)
    (hclear : NextClear cfg cur N g bitTime now c) (hex : Executing cfg c i s) (hl : Loaded N s)
    (hst : Standing N l i) (hb : l.bits < kEthernet2MaximumTransmissionUnitBitLength)
    (hr : Reaches N g bitTime now c 0 i)
    (ho : N.openAt g i = true)
    (hend : N.cycleTime < N.startOf (i + 1) ∨ i + 1 = N.controlList.length) :
    ∃ b l', Ends cur (some N) g bitTime l b l' ∧ Answers cfg g bitTime now l s b := by
  have hNw : N.WholeTicks cfg := hl.new ▸ hex.new
  have hall : ∀ m, m ≤ i → N.openAt g m = true := by
    intro m hm
    rcases hm.lt_or_eq with hlt | rfl
    · exact hr.isOpen m (Nat.zero_le m) hlt
    · exact ho
  obtain ⟨gain, hgain, hturn⟩ := exists_turnsAt hpos hclear hr ho hend
  -- as many rounds as fill the frame
  obtain ⟨n, hn⟩ :=
    exists_nat_ge ((kEthernet2MaximumTransmissionUnitBitLength - (l.bits - N.startOf i / bitTime)) /
      (gain / bitTime))
  rw [div_le_iff₀ (div_pos hgain hbt)] at hn
  obtain ⟨l', hl'⟩ := GateController.ends_rounds hNw.nonNeg hbt hturn hr.lt_length hall
    (fun m hm => hr.uncut m (Nat.zero_le m) hm) n l i (l.bits - N.startOf i / bitTime) hst le_rfl
    (by ring) (by linarith)
  refine ⟨kEthernet2MaximumTransmissionUnitBitLength, l', hl',
    Or.inr (Or.inr ⟨hb, hst.test.trans ho, Or.inl ⟨rfl, ?_⟩⟩)⟩
  exact openUntil_allOpen ⟨hr.lt_length, hend.imp_left le_of_lt, hall⟩ hex hl _

theorem heldFor_congr {a b : Schedule GateBitvector} (h : a.controlList = b.controlList)
    (hc : a.cycleTime = b.cycleTime) (j : Nat) : a.heldFor j = b.heldFor j := by
  rw [Schedule.heldFor, Schedule.heldFor, startOf_congr h, startOf_congr h, hc]

/-- **The walk through the next list**, which `s` has loaded at `c`. -/
theorem answers_next (hbt : 0 < bitTime) (hpos : 0 < N.total)
    (hclear : NextClear cfg cur N g bitTime now c) (n : Nat) :
    ∀ (i : Nat) (s : GateSystem) (l : Look), N.controlList.length - i = n →
      Executing cfg c i s → Loaded N s → Standing N l i →
      reached now bitTime l = c + N.startOf i →
      (l.bits < kEthernet2MaximumTransmissionUnitBitLength → Reaches N g bitTime now c 0 i) →
      ∃ b l', Ends cur (some N) g bitTime l b l' ∧ Answers cfg g bitTime now l s b := by
  induction n with
  | zero =>
    intro i s l hd hex hl hst hreached hreach
    have hlt := hex.lt_length
    rw [hl.list] at hlt
    omega
  | succ n ih =>
    intro i s l hd hex hl hst hreached hreach
    by_cases hb : l.bits < kEthernet2MaximumTransmissionUnitBitLength
    swap
    · exact ⟨kEthernet2MaximumTransmissionUnitBitLength, l, Ends.full hb, Or.inl ⟨hb, rfl⟩⟩
    cases hopen : l.bitvector.test g with
    | false => exact ⟨_, l, Ends.closed hb hopen, Or.inr (Or.inl ⟨hb, hopen, rfl⟩)⟩
    | true =>
      have hr := hreach hb
      have ho : N.openAt g i = true := hst.test.symm.trans hopen
      by_cases hend : N.cycleTime < N.startOf (i + 1) ∨ i + 1 = N.controlList.length
      · exact answers_turn hbt hpos hclear hex hl hst hb hr ho hend
      -- the next entry of the round
      obtain ⟨hc, hlen⟩ := not_or.mp hend
      have hlt : i + 1 < N.controlList.length := by
        have := hr.lt_length
        omega
      obtain ⟨l1, hbody, hst1, hbits1⟩ := hst.succ cur bitTime hlt (not_lt.mp hc)
      have hdue : dueTime c i s = c + N.startOf (i + 1) := by
        rw [dueTime, startOf_congr hl.list, hl.cycle, min_eq_left (not_lt.mp hc)]
      have hreached1 : reached now bitTime l1 = c + N.startOf (i + 1) := by
        rw [reached, hbits1, reached_add hbt, hreached]
        ring
      by_cases hb1 : l1.bits < kEthernet2MaximumTransmissionUnitBitLength
      swap
      · exact ⟨kEthernet2MaximumTransmissionUnitBitLength, l1,
        Ends.step hb hopen hbody (Ends.full hb1), Or.inr (Or.inr ⟨hb, hopen,
          tells_full hbt (Or.inl hex) (hreached1.trans hdue.symm) hb1⟩)⟩
      have hr1 := hr.succ hlt (not_lt.mp hc) ho
        (by rw [← bits_of_reached hbt hreached1]; exact hb1)
      obtain ⟨hin, hcount, -⟩ := hclear _ _ (List.getElem?_eq_getElem hlt) hr1
      obtain ⟨hsome, hall⟩ := tick_executing hex none
      obtain ⟨s', hs'⟩ := hsome (by
        unfold NextCounted
        rw [hl.list, startOf_congr hl.list, hl.cycle, if_neg hlen, if_pos hin,
          heldFor_congr hl.list hl.cycle]
        exact hcount)
      have ht := hall s' hs'
      have hl1 := hl.ticked ht
      cases ht with
      | stay before executing gc entry trace =>
        obtain ⟨b, l', hends, ha⟩ := ih (i + 1) s' l1 (by omega) executing hl1 hst1 hreached1
          fun _ => hr1
        refine ⟨b, l', Ends.step hb hopen hbody hends, Or.inr (Or.inr ⟨hb, hopen, ?_⟩)⟩
        refine tells_of_answers hbt (Or.inl hex) hs' (hreached1.trans hdue.symm) ?_ ha
        rw [hl.list] at entry
        rw [gateOpen_of_trace trace, hst1.test, Schedule.openAt_of entry]
      | load last executing gc entry trace =>
        rw [hl.list] at last
        exact absurd last hlen
      | reset before cut executing gc entry trace =>
        rw [startOf_congr hl.list, hl.cycle] at cut
        exact absurd hin (not_lt.mpr cut)

/-! ## the walk through the current list -/

/-- the walk stands in entry `i` of the current list -/
structure AtCurrent (cur : Schedule GateBitvector) (l : Look) (i : Nat) : Prop where
  touched : l.touchedNextSchedule = false
  index : l.currentIndex = i
  cum : l.cumSumGateLength = cur.startOf i
  entry : ∃ e, cur.controlList[i]? = some e ∧ l.bitvector = e.scheduledObject

theorem AtCurrent.test (h : AtCurrent cur l i) : l.bitvector.test g = cur.openAt g i := by
  obtain ⟨e, he, hv⟩ := h.entry
  rw [Schedule.openAt_of he, hv]

theorem AtCurrent.lookBody_eq (h : AtCurrent cur l i) :
    GateController.lookBody cur (some N) bitTime l = GateController.lookCurrent cur bitTime N l := by
  rw [GateController.lookBody, h.touched]
  rfl

/-- the next entry of the current list -/
theorem AtCurrent.succ (h : AtCurrent cur l i) (N : Schedule GateBitvector) (bitTime : SimTime)
    (hlt : i + 1 < cur.controlList.length)
    (hc : cur.startOf (i + 1) ≤ cur.cycleTime) :
    ∃ l1, GateController.lookBody cur (some N) bitTime l = .ok l1 ∧ AtCurrent cur l1 (i + 1) ∧
      l1.timeSinceLastChange = 0 ∧ l1.bits = l.bits +
        (cur.startOf (i + 1) - cur.startOf i - l.timeSinceLastChange) / bitTime := by
  obtain ⟨e, he, -⟩ := h.entry
  have hend := Schedule.startOf_succ he
  have he' := List.getElem?_eq_getElem hlt
  refine ⟨_, h.lookBody_eq.trans (GateController.lookCurrent_stay (by rw [h.index]; exact he)
    (by rw [h.index]; exact he') (by rw [h.cum, ← hend]; exact hc)), ⟨h.touched, ?_, ?_, _, he', rfl⟩,
    rfl, ?_⟩
  · exact congrArg (· + 1) h.index
  · dsimp only
    rw [h.cum, hend]
  · dsimp only
    rw [hend]
    ring

/-- at the end of the current list the walk goes to the next one -/
theorem AtCurrent.swap (h : AtCurrent cur l i) (bitTime : SimTime) (hN : 0 < N.controlList.length)
    (hend : cur.cycleTime < cur.startOf (i + 1) ∨ i + 1 = cur.controlList.length) :
    ∃ l1, GateController.lookBody cur (some N) bitTime l = .ok l1 ∧ Standing N l1 0 ∧
      l1.bits = l.bits + (min (cur.startOf (i + 1)) cur.cycleTime - cur.startOf i
        - l.timeSinceLastChange) / bitTime := by
  obtain ⟨e, he, -⟩ := h.entry
  have hsucc := Schedule.startOf_succ he
  have he0 := List.getElem?_eq_getElem hN
  have hleave : ¬ (i + 1 < cur.getControlListLength ∧
      decide (l.cycleStart + (l.cumSumGateLength + e.timeInterval)
        > l.cycleStart + cur.getCycleTime) = false) := by
    rintro ⟨hlt, hin⟩
    have hin := of_decide_eq_false hin
    rcases hend with hcut | hlast
    · apply hin
      show l.cycleStart + _ > l.cycleStart + cur.cycleTime
      rw [h.cum, ← hsucc]
      linarith
    · exact absurd hlt (by show ¬ i + 1 < cur.controlList.length; omega)
  obtain ⟨l1, hl1⟩ : ∃ l1, GateController.lookCurrent cur bitTime N l = .ok l1 := by
    unfold GateController.lookCurrent Schedule.getTimeInterval Schedule.getScheduledObject
    rw [h.index, Schedule.entry_ok.mpr he, Schedule.entry_ok.mpr he0]
    simp only [bind, Except.bind, pure, Except.pure]
    rw [if_neg hleave]
    exact ⟨_, rfl⟩
  obtain ⟨e0, he0', heq⟩ := GateController.lookCurrent_swap (by rw [h.index]; exact he)
    (by rw [h.index, h.cum, ← hsucc]; exact hend) hl1
  refine ⟨l1, h.lookBody_eq.trans hl1, ?_, ?_⟩
  · rw [heq]
    exact ⟨rfl, rfl, (Schedule.startOf_zero N).symm, rfl, e0, he0', rfl⟩
  · rw [heq]
    dsimp only
    rw [h.cum, ← hsucc]
    split
    · rename_i hcut
      rw [min_eq_right hcut.le]
      ring
    · rename_i hcut
      rw [min_eq_left (not_lt.mp hcut), hsucc]
      ring

/-- **The walk through the current list**, whose round began at `c`. -/
theorem answers_current (hbt : 0 < bitTime) (hpos : 0 < N.total)
    (hin : ∀ m, j < m → Reaches cur g bitTime now c j m →
      cur.startOf m < cur.cycleTime ∧ cur.heldFor m / cfg.clockRate < 2 ^ 32)
    (hleave : ∀ k, Reaches cur g bitTime now c j k → cur.openAt g k = true →
      (cur.cycleTime < cur.startOf (k + 1) ∨ k + 1 = cur.controlList.length) →
      k + 1 = cur.controlList.length ∧
        NextClear cfg cur N g bitTime now (c + min (cur.startOf (k + 1)) cur.cycleTime)) (n : Nat) :
    ∀ (i : Nat) (s : GateSystem) (l : Look), cur.controlList.length - i = n →
      Underway cfg c i s → s.gc.currentSchedule = cur → s.gc.newSchedule = N → AtCurrent cur l i →
      reached now bitTime l = c + cur.startOf i + l.timeSinceLastChange →
      (l.bits < kEthernet2MaximumTransmissionUnitBitLength → Reaches cur g bitTime now c j i) →
      ∃ b l', Ends cur (some N) g bitTime l b l' ∧ Answers cfg g bitTime now l s b := by
  induction n with
  | zero =>
    intro i s l hd hrun hcur hnew hat hreached hreach
    have hlt : i < s.gc.currentSchedule.controlList.length := hrun.base.lt_length
    rw [hcur] at hlt
    omega
  | succ n ih =>
    intro i s l hd hrun hcur hnew hat hreached hreach
    by_cases hb : l.bits < kEthernet2MaximumTransmissionUnitBitLength
    swap
    · exact ⟨kEthernet2MaximumTransmissionUnitBitLength, l, Ends.full hb, Or.inl ⟨hb, rfl⟩⟩
    cases hopen : l.bitvector.test g with
    | false => exact ⟨_, l, Ends.closed hb hopen, Or.inr (Or.inl ⟨hb, hopen, rfl⟩)⟩
    | true =>
      have hr := hreach hb
      have ho : cur.openAt g i = true := hat.test.symm.trans hopen
      obtain ⟨hsome, hall⟩ := hrun.ticked none
      have hdue : dueTime c i s = c + min (cur.startOf (i + 1)) cur.cycleTime := by
        rw [dueTime, hcur]
      by_cases hend : cur.cycleTime < cur.startOf (i + 1) ∨ i + 1 = cur.controlList.length
      · -- the walk goes to the next list, and so does the tick
        obtain ⟨hlast, hclear⟩ := hleave i hr ho hend
        have hN : N.WholeTicks cfg := hnew ▸ hrun.base.new
        obtain ⟨l1, hbody, hst1, hbits1⟩ := hat.swap bitTime hN.nonempty (Or.inr hlast)
        have hreached1 : reached now bitTime l1 = dueTime c i s := by
          rw [reached, hbits1, reached_add hbt, hreached, hdue]
          ring
        have hat0 : reached now bitTime l1 = dueTime c i s + N.startOf 0 := by
          rw [hreached1, Schedule.startOf_zero, add_zero]
        rw [← hdue] at hclear
        by_cases hb1 : l1.bits < kEthernet2MaximumTransmissionUnitBitLength
        swap
        · exact ⟨kEthernet2MaximumTransmissionUnitBitLength, l1,
            Ends.step hb hopen hbody (Ends.full hb1), Or.inr (Or.inr ⟨hb, hopen,
              tells_full hbt hrun hreached1 hb1⟩)⟩
        have hr1 : Reaches N g bitTime now (dueTime c i s) 0 0 :=
          ⟨le_rfl, hN.nonempty, fun k _ hk => absurd hk (Nat.not_lt_zero k),
            fun k _ hk => absurd hk (Nat.not_lt_zero k), by
            rw [← bits_of_reached hbt hat0]
            exact hb1⟩
        obtain ⟨-, hcount, -⟩ := hclear 0 _ (List.getElem?_eq_getElem hN.nonempty) hr1
        obtain ⟨s', hs'⟩ := hsome (by
          unfold NextCounted
          rw [hcur, hnew, if_pos hlast]
          exact hcount)
        have ht := hall s' hs'
        cases ht with
        | stay before executing gc entry trace =>
          rw [hcur] at entry
          exact absurd hlast (List.getElem?_eq_some_iff.mp entry).1.ne
        | load last executing gc entry trace =>
          have hl1 : Loaded N s' := by
            refine ⟨?_, ?_, ?_⟩
            · rw [gc, ← hnew]
              rfl
            · rw [gc, ← hnew]
              rfl
            · rw [gc]
              exact hnew
          obtain ⟨b, l', hends, ha⟩ := answers_next hbt hpos hclear _ 0 s' l1 rfl executing hl1 hst1
            hat0 fun _ => hr1
          refine ⟨b, l', Ends.step hb hopen hbody hends, Or.inr (Or.inr ⟨hb, hopen, ?_⟩)⟩
          refine tells_of_answers hbt hrun hs' hreached1 ?_ ha
          rw [hnew] at entry
          rw [gateOpen_of_trace trace, hst1.test, Schedule.openAt_of entry]
        | reset before cut executing gc entry trace =>
          rw [hcur] at before
          exact absurd hlast before.ne
      -- the next entry of the current list
      obtain ⟨hc, hlen⟩ := not_or.mp hend
      have hlt : i + 1 < cur.controlList.length := by
        have := hr.lt_length
        omega
      obtain ⟨l1, hbody, hat1, hsince1, hbits1⟩ := hat.succ N bitTime hlt (not_lt.mp hc)
      rw [min_eq_left (not_lt.mp hc)] at hdue
      have hreached1 : reached now bitTime l1 = c + cur.startOf (i + 1) := by
        rw [reached, hbits1, reached_add hbt, hreached]
        ring
      by_cases hb1 : l1.bits < kEthernet2MaximumTransmissionUnitBitLength
      swap
      · exact ⟨kEthernet2MaximumTransmissionUnitBitLength, l1,
        Ends.step hb hopen hbody (Ends.full hb1), Or.inr (Or.inr ⟨hb, hopen,
          tells_full hbt hrun (hreached1.trans hdue.symm) hb1⟩)⟩
      have hr1 := hr.succ hlt (not_lt.mp hc) ho
        (by rw [← bits_of_reached hbt hreached1]; exact hb1)
      obtain ⟨hin1, hcount⟩ := hin (i + 1) (Nat.lt_succ_of_le hr.from_le) hr1
      obtain ⟨s', hs'⟩ := hsome (by
        unfold NextCounted
        rw [hcur, if_neg hlen, if_pos hin1]
        exact hcount)
      have ht := hall s' hs'
      cases ht with
      | stay before executing gc entry trace =>
        obtain ⟨b, l', hends, ha⟩ := ih (i + 1) s' l1 (by omega) (Or.inl executing)
          (by rw [gc]; exact hcur) (by rw [gc]; exact hnew) hat1
          (by rw [hreached1, hsince1, add_zero]) fun _ => hr1
        refine ⟨b, l', Ends.step hb hopen hbody hends, Or.inr (Or.inr ⟨hb, hopen, ?_⟩)⟩
        refine tells_of_answers hbt hrun hs' (hreached1.trans hdue.symm) ?_ ha
        rw [hcur] at entry
        rw [gateOpen_of_trace trace, hat1.test, Schedule.openAt_of entry]
      | load last executing gc entry trace =>
        rw [hcur] at last
        exact absurd last hlen
      | reset before cut executing gc entry trace =>
        rw [hcur] at cut
        exact absurd hin1 (not_lt.mpr cut)

end

/-! ## queries of an executing system -/

section
variable {cfg : GateConfig} {g fuel b : Nat} {now : SimTime} {s s' : GateSystem} {c : SimTime}
  {j : Nat} {gc' : GateController}

theorem Underway.executedIndex_eq (h : Underway cfg c j s) : s.gc.executedIndex = j := by
  have hindex : (s.moved c).gc.executedIndex = j := GateSystem.executedIndex_eq h.base
  exact hindex

theorem Underway.roundStart_eq (h : Underway cfg c j s) : s.gc.roundStart = c := by
  have hlast : s.gc.lastChange = c + s.gc.currentSchedule.startOf j := h.base.lastChange
  rw [GateController.roundStart, h.executedIndex_eq, hlast]
  ring

/-- a query that leaves `cycleStart` to the ticks -/
theorem Underway.query (h : Underway cfg c j s) (hf : s.gc.Foresees cfg now g)
    (hq : s.gc.calculateMaxBit cfg fuel now g = .ok (b, gc')) :
    Underway cfg c j { s with gc := gc' } := by
  by_cases hd : s.gc.Disturbs cfg now g
  · have hcw : s.gc.currentSchedule.WholeTicks cfg := h.base.current
    have hle := GateController.calculateMaxBit_le hcw.nonNeg hcw.cycle_pos.le hq
    obtain ⟨x, rfl⟩ := GateController.calculateMaxBit_writes hq
    obtain ⟨-, -, k, hk, -⟩ := hd
    refine h.moved ?_
    rcases hf.keeps k hk with hfits | hlast
    · exact Or.inl ⟨hfits, hle⟩
    · rw [h.executedIndex_eq] at hlast
      exact Or.inr hlast
  · rw [(GateController.calculateMaxBit_eq_iff hq).mpr hd]
    exact h

theorem lookStart_eq (now : SimTime) {gc : GateController} {e : ControlListEntry GateBitvector}
    (he : gc.currentSchedule.controlList[gc.executedIndex]? = some e) :
    gc.lookStart now = .ok {
      bits := 0
      touchedNextSchedule := false
      currentIndex := gc.executedIndex
      cumSumGateLength := gc.currentSchedule.startOf gc.executedIndex
      timeSinceLastChange := now - gc.lastChange
      bitvector := e.scheduledObject
      cycleStart := gc.cycleStart } := by
  unfold GateController.lookStart Schedule.getScheduledObject
  rw [Schedule.entry_ok.mpr he]
  rfl

/-- the walk of a query that foresees, whatever `cycleStart` the ticks go on with -/
theorem answers_query (hrate : 0 < cfg.transmitRate) (h : Underway cfg c j s) {x : SimTime}
    (h' : Underway cfg c j (s.moved x)) (hpos : 0 < s.gc.newSchedule.total) (h1 : s.gc.lastChange ≤ now)
    (hf : s.gc.Foresees cfg now g) {l : Look} (hl : s.gc.lookStart now = .ok l) :
    ∃ b l', Ends s.gc.currentSchedule (some s.gc.newSchedule) g cfg.bitTime l b l' ∧
      Answers cfg g cfg.bitTime now l (s.moved x) b := by
  have hbt : 0 < cfg.bitTime := cfg.bitTime_pos hrate
  have hlast : s.gc.lastChange = c + s.gc.currentSchedule.startOf j := h.base.lastChange
  have hcw : s.gc.currentSchedule.WholeTicks cfg := h.base.current
  have hlt : j < s.gc.currentSchedule.controlList.length := h.base.lt_length
  have hindex := h.executedIndex_eq
  obtain ⟨e, he, rfl⟩ := GateController.lookStart_ok hl
  rw [hindex] at he
  have hin := hf.inCycle
  have hkeeps := hf.keeps
  have hnext := hf.next
  rw [hindex, h.roundStart_eq] at hin
  rw [hindex] at hkeeps hnext
  refine answers_current (j := j) (c := c) hbt hpos hin (fun k hk ho hend => ?_) _ j (s.moved x) _ rfl
    h' rfl rfl ⟨rfl, hindex, by rw [hindex], e, he, rfl⟩ ?_ fun _ => ⟨le_rfl, hlt, ?_, ?_, ?_⟩
  · -- the walk leaves the list with its last entry
    have hswap := hk.swapsAt hcw.nonNeg hbt ho hend
      (show c + s.gc.currentSchedule.startOf j + (now - s.gc.lastChange) = now by
        rw [hlast]
        ring)
    have hklast : k + 1 = s.gc.currentSchedule.controlList.length := by
      rcases hkeeps k hswap with hfits | hj
      · exact hend.resolve_left (not_lt.mpr (hfits.startOf_le hcw _))
      · have := hk.from_le
        have := hk.lt_length
        omega
    refine ⟨hklast, ?_⟩
    have hclear := hnext k hswap
    rw [GateController.roundEnd, h.roundStart_eq,
      ← Schedule.startOf_of_le (s := s.gc.currentSchedule) (j := k + 1) hklast.ge] at hclear
    exact hclear
  · rw [reached]
    dsimp only
    rw [hlast]
    ring
  · intro i h3 h4
    omega
  · intro i h3 h4
    omega
  · rw [div_lt_iff₀ hbt]
    have hpos := mul_pos mtuBitLength_pos hbt
    linarith

theorem bitsToUnsigned_eq {bits : ℚ} (h0 : 0 ≤ bits)
    (h : bits < kEthernet2MaximumTransmissionUnitBitLength) :
    bitsToUnsigned bits = ⌊bits⌋₊ := by
  have hfloor := Int.floor_nonneg.mpr h0
  have hlt : ⌊bits⌋ < kEthernet2MaximumTransmissionUnitBitLength :=
    Int.floor_lt.mpr (by exact_mod_cast h)
  have hmtu : ((kEthernet2MaximumTransmissionUnitBitLength : ℕ) : ℤ) < 2 ^ 32 := by decide
  rw [GateController.bitsToUnsigned, if_pos h0, Int.emod_eq_of_lt hfloor (hlt.trans hmtu),
    Int.floor_toNat]

/-- what a right result is -/
theorem Tells.eq (hrate : 0 < cfg.transmitRate) (hexact : cfg.bitTime = 1 / cfg.transmitRate)
    (h : Underway cfg c j s) (h2 : now ≤ dueTime c j s) (ht : Tells cfg g cfg.bitTime now s b) :
    closings cfg g s = ∅ ∧ b = kEthernet2MaximumTransmissionUnitBitLength ∨
      ∃ t, IsLeast (closings cfg g s) t ∧
      b = min kEthernet2MaximumTransmissionUnitBitLength ⌊(t - now) * cfg.transmitRate⌋₊ := by
  have hmul : ∀ t : SimTime, (t - now) / cfg.bitTime = (t - now) * cfg.transmitRate := by
    intro t
    rw [hexact, div_div_eq_mul_div, div_one]
  rcases ht with ⟨rfl, hopen⟩ | ⟨t, hl, hlt, rfl⟩
  · rcases (closings cfg g s).eq_empty_or_nonempty with hempty | ⟨t, ht⟩
    · exact Or.inl ⟨hempty, rfl⟩
    · obtain ⟨t0, hl⟩ := exists_isLeast_closings h ht
      refine Or.inr ⟨t0, hl, (min_eq_left ?_).symm⟩
      have hle := hopen.le_of_closes hl.1
      rw [← hmul]
      refine Nat.le_floor ?_
      rw [le_div_iff₀ (cfg.bitTime_pos hrate)]
      linarith
  · have hle := h.openUntil_due.le_of_closes hl.1
    rw [hmul] at hlt ⊢
    have hnonneg : 0 ≤ (t - now) * cfg.transmitRate :=
      mul_nonneg (by linarith) hrate.le
    refine Or.inr ⟨t, hl, ?_⟩
    rw [bitsToUnsigned_eq hnonneg hlt, min_eq_right]
    exact Nat.le_of_lt ((Nat.floor_lt hnonneg).mpr hlt)

/-- **A query that foresees** is answered exactly. -/
theorem foretold_of_underway (hrate : 0 < cfg.transmitRate)
    (hexact : cfg.bitTime = 1 / cfg.transmitRate) (h : Underway cfg c j s)
    (hshown : s.gateOpen g = s.gc.currentSchedule.openAt g j) (hpos : 0 < s.gc.newSchedule.total)
    (h1 : s.gc.lastChange ≤ now) (h2 : now ≤ dueTime c j s) (hf : s.gc.Foresees cfg now g) :
    s.Foretold cfg now g := by
  have hlt : s.gc.executedIndex < s.gc.currentSchedule.controlList.length := by
    rw [h.executedIndex_eq]
    exact h.base.lt_length
  have he := List.getElem?_eq_getElem hlt
  have hl := lookStart_eq now he
  have hnext : s.gc.next = some s.gc.newSchedule := by
    rw [GateController.next, show s.gc.nextSchedule = .newSchedule from h.base.next]
  obtain ⟨b, l', ⟨fuel, hends⟩, -⟩ := answers_query hrate h (x := s.gc.cycleStart) h hpos h1 hf hl
  have hq : ∀ more, s.gc.calculateMaxBit cfg (fuel + more) now g =
      .ok (b, { s.gc with cycleStart := l'.cycleStart }) := by
    intro more
    have hloop := GateController.lookLoop_add more hends
    rw [← hnext] at hloop
    exact GateController.calculateMaxBit_of_loop hrate hl hloop
  -- the ticks go on from what the query leaves
  have h' := h.query hf (hq 0)
  obtain ⟨b', l2, hends', ha⟩ := answers_query hrate h h' hpos h1 hf hl
  obtain ⟨rfl, -⟩ := GateController.Ends.unique ⟨fuel, hends⟩ hends'
  have htest : s.gateOpen g =
      s.gc.currentSchedule.controlList[s.gc.executedIndex].scheduledObject.test g := by
    rw [hshown, ← h.executedIndex_eq, Schedule.openAt_of he]
  refine ⟨b, _, ⟨fuel, hq⟩, fun hclosed => ?_, fun hopen => ?_⟩
  · rcases ha with ⟨hb, -⟩ | ⟨-, -, rfl⟩ | ⟨-, ho, -⟩
    · exact absurd mtuBitLength_pos hb
    · simp [GateController.bitsToUnsigned]
    · exact absurd (hclosed.symm.trans (htest.trans ho)) Bool.false_ne_true
  · rcases ha with ⟨hb, -⟩ | ⟨-, hc, -⟩ | ⟨-, -, ht⟩
    · exact absurd mtuBitLength_pos hb
    · exact absurd ((htest.trans hc).symm.trans hopen) Bool.false_ne_true
    · exact ht.eq hrate hexact h' h2

end

/-! ## runs -/

/-- the queries of a run foresee, and rewritten intervals are whole ticks -/
def Foreseen (cfg : GateConfig) (s : GateSystem) : GateEvent → Prop
  -- before the first tick the default schedule is executed, whose cycle time is 0
  | .calculateMaxBit _ now g => 0 < s.gc.currentSchedule.cycleTime → s.gc.Foresees cfg now g
  | .setTimeInterval _ t => OnTick cfg t
  | _ => True

/-- the first tick is waited for, or an entry has been applied and is shown -/
def Onward (cfg : GateConfig) (s : GateSystem) : Prop :=
  (∃ p, Waiting cfg p s) ∨
    ∃ c j, Underway cfg c j s ∧ ∀ g, s.gateOpen g = s.gc.currentSchedule.openAt g j

section
variable {cfg : GateConfig} {xml : GateScheduleXml} {s s' s0 : GateSystem} {c : SimTime} {j : Nat}
  {e : GateEvent} {es : List GateEvent} {N : Schedule GateBitvector}

/-- what the executed entry does not depend on -/
theorem Underway.rewritten (h : Underway cfg c j s) (hN : N.WholeTicks cfg) (a b : Bool) :
    Underway cfg c j { s with gc := { s.gc with
      newSchedule := N
      isIncreased := a
      isSelected := b } } := by
  refine h.imp (fun h => ?_) fun ⟨hlast, h⟩ => ⟨hlast, ?_⟩
  · exact ⟨h.current, hN, h.next, h.lt_length, h.index, h.cycleStart, h.lastChange, h.within,
      h.counted, h.pending⟩
  · exact ⟨h.current, hN, h.next, h.lt_length, h.index, h.cycleStart, h.lastChange, h.within,
      h.counted, h.pending⟩

theorem onward_tick (h : Onward cfg s) {mac : Option PreemptMac}
    (hs : s.step cfg (.tick mac) = .ok s') : Onward cfg s' := by
  right
  rcases h with ⟨p, hw⟩ | ⟨c, j, hrun, -⟩
  · obtain ⟨hex, hgc, e, he, htr⟩ := (tick_load cfg mac hw.loads hw.new hw.pending).2 s' hs
    refine ⟨p, 0, Or.inl hex, fun g => ?_⟩
    rw [gateOpen_of_trace htr, hgc, ← Schedule.openAt_of he]
    rfl
  · obtain ⟨c', j', e, hex, he, htr, -⟩ := (hrun.ticked_of_step hs).applied
    refine ⟨c', j', Or.inl hex, fun g => ?_⟩
    rw [gateOpen_of_trace htr, Schedule.openAt_of he]

theorem onward_step (s : GateSystem) (e : GateEvent) (s' : GateSystem) (h : Onward cfg s)
    (hf : Foreseen cfg s e) (hs : s.step cfg e = .ok s') : Onward cfg s' := by
  cases e with
  | tick mac => exact onward_tick h hs
  | calculateMaxBit fuel now g =>
    obtain ⟨⟨b, gc'⟩, hq, h2⟩ := bind_ok.mp hs
    cases h2
    rcases h with ⟨p, hw⟩ | ⟨c, j, hrun, hshown⟩
    · obtain ⟨x, rfl⟩ := GateController.calculateMaxBit_writes hq
      exact Or.inl ⟨p, hw.current, hw.loaded, hw.index, hw.lastChange, hw.new, hw.pending,
        hw.nonneg, hw.trace⟩
    · have hcw : s.gc.currentSchedule.WholeTicks cfg := hrun.base.current
      have hrun' := hrun.query (hf hcw.cycle_pos) hq
      obtain ⟨x, rfl⟩ := GateController.calculateMaxBit_writes hq
      exact Or.inr ⟨c, j, hrun', hshown⟩
  | setTimeInterval i t =>
    obtain ⟨N, hN, h2⟩ := bind_ok.mp hs
    cases h2
    rcases h with ⟨p, hw⟩ | ⟨c, j, hrun, hshown⟩
    · exact Or.inl ⟨p, hw.current, hw.loaded, hw.index, hw.lastChange,
        PortSystem.wholeTicks_setTimeInterval hw.new hf hN, hw.pending, hw.nonneg, hw.trace⟩
    · exact Or.inr ⟨c, j, hrun.rewritten (PortSystem.wholeTicks_setTimeInterval hrun.base.new hf hN)
        s.gc.isIncreased s.gc.isSelected, hshown⟩
  | setisIncreased b =>
    cases hs
    rcases h with ⟨p, hw⟩ | ⟨c, j, hrun, hshown⟩
    · exact Or.inl ⟨p, hw.current, hw.loaded, hw.index, hw.lastChange, hw.new, hw.pending,
        hw.nonneg, hw.trace⟩
    · exact Or.inr ⟨c, j, hrun.rewritten hrun.base.new b s.gc.isSelected, hshown⟩
  | setisSelected b =>
    cases hs
    rcases h with ⟨p, hw⟩ | ⟨c, j, hrun, hshown⟩
    · exact Or.inl ⟨p, hw.current, hw.loaded, hw.index, hw.lastChange, hw.new, hw.pending,
        hw.nonneg, hw.trace⟩
    · exact Or.inr ⟨c, j, hrun.rewritten hrun.base.new s.gc.isIncreased b, hshown⟩

/-- **The look-ahead is exact where it foresees.**  In a run whose queries foresee, with intervals of
whole ticks, every query that foresees is answered exactly, at every time up to the next tick. -/
theorem calculateMaxBit_exact (hx : xml.schedule.WholeTicks cfg) (hrate : 0 < cfg.transmitRate)
    (hexact : cfg.bitTime = 1 / cfg.transmitRate)
    (h0 : start cfg xml = .ok s0) (hm : Lib.Meets (step cfg) (Foreseen cfg) s0 es)
    (hr : Lib.run (step cfg) s0 es = .ok s) (hcycle : 0 < s.gc.currentSchedule.cycleTime)
    (hpos : 0 < s.gc.newSchedule.total) (now : SimTime) (h1 : s.gc.lastChange ≤ now)
    (h2 : ∀ p ∈ s.pendingTick, now ≤ p) (g : Nat) (hf : s.gc.Foresees cfg now g) :
    s.Foretold cfg now g := by
  have h := Lib.run_invariant_of onward_step (Or.inl ⟨_, waiting_start hx h0⟩) hm hr
  rcases h with ⟨p, hw⟩ | ⟨c, j, hrun, hshown⟩
  · -- the default schedule
    rw [hw.current] at hcycle
    exact absurd hcycle (lt_irrefl 0)
  · exact foretold_of_underway hrate hexact hrun (hshown g) hpos h1 (h2 _ hrun.pending) hf

end

/-- what a query returned, if it was foretold -/
theorem Foretold.result {cfg : GateConfig} {now : SimTime} {g fuel b : Nat} {s : GateSystem}
    {gc' : GateController} (h : s.Foretold cfg now g)
    (hq : s.gc.calculateMaxBit cfg fuel now g = .ok (b, gc')) :
    (s.gateOpen g = false → b = 0) ∧ (s.gateOpen g = true →
      closings cfg g { s with gc := gc' } = ∅ ∧ b = kEthernet2MaximumTransmissionUnitBitLength ∨
      ∃ t, IsLeast (closings cfg g { s with gc := gc' }) t ∧
        b = min kEthernet2MaximumTransmissionUnitBitLength ⌊(t - now) * cfg.transmitRate⌋₊) := by
  obtain ⟨b', gc2, ⟨fuel', hends⟩, hresult⟩ := h
  have heq := hends fuel
  rw [Nat.add_comm, GateController.calculateMaxBit_add fuel' hq] at heq
  cases heq
  exact hresult

theorem Foretold.le_full {cfg : GateConfig} {now : SimTime} {g fuel b : Nat} {s : GateSystem}
    {gc' : GateController} (h : s.Foretold cfg now g)
    (hq : s.gc.calculateMaxBit cfg fuel now g = .ok (b, gc')) :
    b ≤ kEthernet2MaximumTransmissionUnitBitLength := by
  obtain ⟨hclosed, hopen⟩ := h.result hq
  cases ho : s.gateOpen g with
  | false =>
    rw [hclosed ho]
    exact Nat.zero_le _
  | true =>
    rcases hopen ho with ⟨-, rfl⟩ | ⟨t, -, rfl⟩
    · exact le_rfl
    · exact min_le_left _ _

/-- the system of `splitCycle` after its first tick -/
def splitRunning : GateSystem where
  gc := {
    currentSchedule := PortSystem.splitCycle.schedule, nextSchedule := .newSchedule,
    newSchedule := PortSystem.splitCycle.schedule, scheduleIndex := 1, cycleStart := 0,
    cycleStart_for_autoIntervalDecrease := 0, lastChange := 0, isIncreased := false,
    isSelected := false }
  pendingTick := some (1 / 10000)
  trace := [(0, 1)]

/-- gate 0 closes at 100 us; at 95 us 500 bits fit -/
theorem calculateMaxBit_exact_splitCycle : ∃ s0, start .plain PortSystem.splitCycle = .ok s0 ∧
    Lib.run (step .plain) s0 [.tick none] = .ok splitRunning ∧
    (splitRunning.gc.calculateMaxBit .plain 40 (95 / 1000000) 0).map (·.1) = .ok 500 ∧
    splitRunning.Foretold .plain (95 / 1000000) 0 := by
  have h0 : start .plain PortSystem.splitCycle =
      .ok ⟨.initial PortSystem.splitCycle 0, some 0, []⟩ := by decide +kernel
  have hr : Lib.run (step .plain) ⟨.initial PortSystem.splitCycle 0, some 0, []⟩ [.tick none] =
      .ok splitRunning := by decide +kernel
  have hm : Lib.Meets (step .plain) (Foreseen .plain)
      ⟨.initial PortSystem.splitCycle 0, some 0, []⟩ [.tick none] := ⟨trivial, fun _ _ => trivial⟩
  have hx := PortSystem.splitCycle_wholeTicks
  have hfits : PortSystem.splitCycle.schedule.Fits := ⟨by decide +kernel, by decide +kernel⟩
  have hcount : PortSystem.splitCycle.schedule.Subscribable .plain := by decide +kernel
  refine ⟨_, h0, hr, by decide +kernel, calculateMaxBit_exact hx (by decide +kernel)
    (by decide +kernel) h0 hm hr (by decide +kernel) (by decide +kernel) _ (by decide +kernel)
    (fun p hp => ?_) 0 (GateController.foresees_of_fits hx hx hfits hfits hcount hcount)⟩
  cases hp
  decide +kernel

/-! ## queries that do not foresee -/

/-- entries of 50 us in a cycle of 100 us; gate 0 is closed in the last, which is never applied -/
def edgeList : GateScheduleXml :=
  ⟨some (1 / 10000), none, [⟨5 / 100000, 1⟩, ⟨5 / 100000, 1⟩, ⟨5 / 100000, 2⟩]⟩

/-- the system after its first tick -/
def edgeRunning : GateSystem where
  gc := {
    currentSchedule := edgeList.schedule, nextSchedule := .newSchedule,
    newSchedule := edgeList.schedule, scheduleIndex := 1, cycleStart := 0,
    cycleStart_for_autoIntervalDecrease := 0, lastChange := 0, isIncreased := false,
    isSelected := false }
  pendingTick := some (5 / 100000)
  trace := [(0, 1)]

theorem edgeList_wholeTicks : edgeList.schedule.WholeTicks .plain := by
  refine ⟨by decide +kernel, by decide +kernel, fun e he => ?_, ⟨100, by decide +kernel⟩,
    by decide +kernel⟩
  simp only [edgeList, GateScheduleXml.schedule, List.mem_cons, List.not_mem_nil, or_false] at he
  rcases he with rfl | rfl | rfl
  · exact ⟨50, by decide +kernel⟩
  · exact ⟨50, by decide +kernel⟩
  · exact ⟨50, by decide +kernel⟩

/-- the ticks never close gate 0, and the walk looks at the third entry at the end of the cycle -/
theorem not_foretold_edge : ¬ edgeRunning.Foretold .plain (1 / 100000) 0 := by
  have hex : Executing .plain 0 0 edgeRunning := by
    refine ⟨edgeList_wholeTicks, edgeList_wholeTicks, rfl, ?_, rfl, Or.inl rfl, ?_, ?_, ?_, ?_⟩
    · decide +kernel
    · decide +kernel
    · decide +kernel
    · decide +kernel
    · decide +kernel
  have hall : AllOpen edgeList.schedule 0 1 := by
    refine ⟨?_, Or.inl ?_, ?_⟩
    · decide +kernel
    · decide +kernel
    · decide +kernel
  have hnever : closings .plain 0 edgeRunning = ∅ :=
    closings_eq_empty (openUntil_allOpen hall hex ⟨rfl, rfl, rfl⟩)
  have hq : edgeRunning.gc.calculateMaxBit .plain 40 (1 / 100000) 0 =
      .ok (9000, edgeRunning.gc) := by decide +kernel
  intro h
  rcases (h.result hq).2 (by decide +kernel) with ⟨-, hb⟩ | ⟨t, ht, -⟩
  · exact absurd hb (by decide)
  · have hmem : t ∈ closings .plain 0 edgeRunning := ht.1
    rw [hnever] at hmem
    exact hmem

/-- entries of 10 us and 150 us in a cycle of 100 us, with gate 0 open -/
def cutList : GateScheduleXml :=
  ⟨some (1 / 10000), none, [⟨1 / 100000, 1⟩, ⟨15 / 100000, 1⟩]⟩

/-- the pending second entry has been set to 300 us, and the second tick has come -/
def cutRunning : GateSystem where
  gc := {
    currentSchedule := cutList.schedule, nextSchedule := .newSchedule,
    newSchedule := { cutList.schedule with
      controlList := [⟨1 / 100000, 1⟩, ⟨3 / 10000, 1⟩] }
    scheduleIndex := 0, cycleStart := 0, cycleStart_for_autoIntervalDecrease := 0,
    lastChange := 1 / 100000, isIncreased := false, isSelected := false }
  pendingTick := some (1 / 10000)
  trace := [(0, 1), (1 / 100000, 1)]

/-- the walk at the start of the next list, 5 us after the query -/
def cutWalk : Look where
  bits := 500
  touchedNextSchedule := true
  currentIndex := 0
  cumSumGateLength := 0
  timeSinceLastChange := 0
  bitvector := 1
  cycleStart := 1 / 10000

/-- each round of the next list is counted for -50 us -/
theorem calculateMaxBit_cutRunning (fuel : Nat) :
    cutRunning.gc.calculateMaxBit .plain fuel (95 / 1000000) 0 = .error .outOfFuel := by
  have hnext : cutRunning.gc.newSchedule.controlList[1]? = some ⟨3 / 10000, 1⟩ := rfl
  have hcurrent : cutRunning.gc.currentSchedule.controlList[1]? = some ⟨15 / 100000, 1⟩ := rfl
  have hcut : cutRunning.gc.newSchedule.cycleTime < cutRunning.gc.newSchedule.startOf 2 := by
    decide +kernel
  have hturn : TurnsAt cutRunning.gc.currentSchedule cutRunning.gc.newSchedule
      GateConfig.plain.bitTime 1 _ := GateController.turnsAt_cut hnext hcurrent hcut
  have hnever := GateController.lookLoop_never (g := 0) hturn (by decide +kernel)
    (by decide +kernel) (by decide +kernel) (by decide +kernel) (by decide +kernel)
    (show ∀ m, m ≤ 1 →
      500 + cutRunning.gc.newSchedule.startOf m / GateConfig.plain.bitTime <
        kEthernet2MaximumTransmissionUnitBitLength by
      decide +kernel)
  have hstart : cutRunning.gc.lookStart (95 / 1000000) = .ok
      ⟨0, false, 1, 1 / 100000, 85 / 1000000, 1, 0⟩ := by decide +kernel
  have hbody : GateController.lookBody cutRunning.gc.currentSchedule cutRunning.gc.next
      GateConfig.plain.bitTime ⟨0, false, 1, 1 / 100000, 85 / 1000000, 1, 0⟩ =
      .ok cutWalk := by decide +kernel
  refine GateController.calculateMaxBit_never (by norm_num [GateConfig.plain]) hstart
    (by decide +kernel) (by decide +kernel) hbody (fun fuel => ?_) fuel
  exact hnever fuel cutWalk 0 ⟨rfl, rfl, (Schedule.startOf_zero _).symm, rfl, _, rfl, rfl⟩
    (Nat.zero_le 1) (by decide +kernel)

/-- **Queries that are not exact.**  At 110 us gate 1 is granted 2^32 - 1000 bits, since a query has
moved `cycleStart` and the second entry is not cut any more; at 10 us gate 0 is granted 9000 bits for
an entry that is never applied, although it never closes; at 95 us the loop does not end, since each
round of the next list is counted for less than nothing. -/
theorem calculateMaxBit_inexact :
    (∃ s, (start .plain overlong).bind (fun s => Lib.run (step .plain) s
        [.tick none, .calculateMaxBit 40 (1 / 100000) 0, .tick none]) = .ok s ∧
      (s.gateOpen 1 = true ∧ s.gc.calculateMaxBit .plain 40 (11 / 100000) 1 =
        .ok (4294966296, { s.gc with cycleStart := 2 / 10000 })) ∧
      ¬ s.Foretold .plain (11 / 100000) 1) ∧
    ((start .plain edgeList).bind (fun s => Lib.run (step .plain) s [.tick none]) = .ok edgeRunning ∧
      edgeRunning.gc.calculateMaxBit .plain 40 (1 / 100000) 0 = .ok (9000, edgeRunning.gc) ∧
      ¬ edgeRunning.Foretold .plain (1 / 100000) 0) ∧
    (start .plain cutList).bind (fun s => Lib.run (step .plain) s
        [.tick none, .setTimeInterval 1 (3 / 10000), .tick none]) = .ok cutRunning ∧
      (∀ fuel, cutRunning.gc.calculateMaxBit .plain fuel (95 / 1000000) 0 = .error .outOfFuel) ∧
      ¬ cutRunning.Foretold .plain (95 / 1000000) 0 := by
  refine ⟨?_, ⟨by decide +kernel, by decide +kernel, not_foretold_edge⟩, by decide +kernel,
    calculateMaxBit_cutRunning, ?_⟩
  · obtain ⟨s, hs, hp⟩ := exists_of_any (x := (start .plain overlong).bind (fun s =>
      Lib.run (step .plain) s [.tick none, .calculateMaxBit 40 (1 / 100000) 0, .tick none]))
      (p := fun s => s.gateOpen 1 = true ∧ s.gc.calculateMaxBit .plain 40 (11 / 100000) 1 =
        .ok (4294966296, { s.gc with cycleStart := 2 / 10000 })) (by decide +kernel)
    exact ⟨s, hs, hp, fun h => absurd (h.le_full hp.2) (by decide)⟩
  · rintro ⟨b, gc', ⟨fuel, hq⟩, -⟩
    cases (calculateMaxBit_cutRunning fuel).symm.trans (hq 0)

end GateSystem
end Nesting
