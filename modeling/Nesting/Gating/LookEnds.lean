import Nesting.Gating.Exact
import Nesting.Gating.Pace

/-!
# The look-ahead loop ends

* `EndsRising`      the loop ends from some locals on, reads inside the lists and never lessens `bits`;
* `Visits`          the walk that enters the next list with `base` bits looks at entry `m` of it;
* `Advances`        what is asked of such an entry: nothing negative is counted for it, and something
                    for the round that it ends;
* `next_iff`, `current_iff`   the walk through the next list and the one through the current list;
* `lookAhead_ends_iff`  **in every state that is reached, for every query, the loop ends like this
                    exactly when the query comes in time and the entries it looks at advance.**

After an entry that does not advance, the loop reads outside of the current list, lessens `bits`, or
goes round the next list for ever.
-/

set_option linter.unusedVariables false

namespace Nesting
namespace GateController
open GateSystem (AtCurrent)

/-! ## loops that end -/

/-- the loop ends after finitely many rounds, each of which reads inside the lists and keeps or raises
the number of bits -/
inductive EndsRising (cur : Schedule GateBitvector) (next : Option (Schedule GateBitvector)) (g : Nat)
    (bitTime : SimTime) : Look → Prop where
  | full {l : Look} (h : ¬ l.bits < kEthernet2MaximumTransmissionUnitBitLength) :
      EndsRising cur next g bitTime l
  | closed {l : Look} (h : l.bits < kEthernet2MaximumTransmissionUnitBitLength)
      (hc : l.bitvector.test g = false) :
      EndsRising cur next g bitTime l
  | round {l l1 : Look} (h : l.bits < kEthernet2MaximumTransmissionUnitBitLength)
      (ho : l.bitvector.test g = true)
      (hbody : lookBody cur next bitTime l = .ok l1) (hle : l.bits ≤ l1.bits)
      (rest : EndsRising cur next g bitTime l1) : EndsRising cur next g bitTime l

/-- the query at `now` for gate `g` ends like this -/
def LooksAhead (cfg : GateConfig) (now : SimTime) (g : Nat) (gc : GateController) : Prop :=
  ∃ l, gc.lookStart now = .ok l ∧
    EndsRising gc.currentSchedule gc.next g cfg.bitTime l

section
variable {cur N : Schedule GateBitvector} {next : Option (Schedule GateBitvector)} {g : Nat}
  {bitTime : SimTime} {l l1 : Look}

theorem EndsRising.ends (h : EndsRising cur next g bitTime l) :
    ∃ b l', Ends cur next g bitTime l b l' := by
  induction h with
  | full h => exact ⟨_, _, Ends.full h⟩
  | closed h hc => exact ⟨_, _, Ends.closed h hc⟩
  | round h ho hbody hle rest ih =>
    obtain ⟨b, l', hends⟩ := ih
    exact ⟨b, l', Ends.step h ho hbody hends⟩

theorem EndsRising.round_inv (h : EndsRising cur next g bitTime l)
    (hb : l.bits < kEthernet2MaximumTransmissionUnitBitLength)
    (ho : l.bitvector.test g = true) :
    ∃ l1, lookBody cur next bitTime l = .ok l1 ∧ l.bits ≤ l1.bits ∧
      EndsRising cur next g bitTime l1 := by
  cases h with
  | full h => exact absurd hb h
  | closed h hc =>
    rw [ho] at hc
    cases hc
  | round h ho hbody hle rest => exact ⟨_, hbody, hle, rest⟩

/-- the round that is known to come next -/
theorem EndsRising.rest (h : EndsRising cur next g bitTime l)
    (hb : l.bits < kEthernet2MaximumTransmissionUnitBitLength)
    (ho : l.bitvector.test g = true) (hbody : lookBody cur next bitTime l = .ok l1) :
    l.bits ≤ l1.bits ∧ EndsRising cur next g bitTime l1 := by
  obtain ⟨l2, hbody2, hle, hrest⟩ := h.round_inv hb ho
  rw [hbody] at hbody2
  cases hbody2
  exact ⟨hle, hrest⟩

/-- then the query returns, however many more rounds it is allowed -/
theorem LooksAhead.returns {cfg : GateConfig} {now : SimTime} {gc : GateController}
    (hrate : 0 < cfg.transmitRate) (h : gc.LooksAhead cfg now g) :
    ∃ fuel r, ∀ more, gc.calculateMaxBit cfg (fuel + more) now g = .ok r := by
  obtain ⟨l, hl, hends⟩ := h
  obtain ⟨b, l', fuel, hloop⟩ := hends.ends
  refine ⟨fuel, (b, { gc with cycleStart := l'.cycleStart }), fun more => ?_⟩
  exact calculateMaxBit_of_loop hrate hl (lookLoop_add more hloop)

/-! ## the walk through the next list -/

/-- a walk that enters the next list with `base` bits looks at entry `m` of it -/
structure Visits (N : Schedule GateBitvector) (g : Nat) (bitTime : SimTime) (base : ℚ) (m : Nat) :
    Prop where
  lt_length : m < N.controlList.length
  uncut : ∀ i, i < m → N.startOf (i + 1) ≤ N.cycleTime
  isOpen : ∀ i, i < m → N.openAt g i = true
  short : ∀ i, i ≤ m → base + N.startOf i / bitTime < kEthernet2MaximumTransmissionUnitBitLength

/-- what is asked of entry `m` of the next list: it is not negative, and a list that ends with it is
longer than 0; if the end of the cycle cuts it, what is counted for it instead is not negative, nor
zero for the whole round -/
def Advances (cur N : Schedule GateBitvector) (m : Nat) (e : ControlListEntry GateBitvector) : Prop :=
  (N.startOf (m + 1) ≤ N.cycleTime →
    0 ≤ e.timeInterval ∧ (m + 1 = N.controlList.length → 0 < N.total)) ∧
  (N.cycleTime < N.startOf (m + 1) → ∃ e', cur.controlList[m]? = some e' ∧
    N.startOf (m + 1) ≤ cur.cycleTime + e'.timeInterval ∧
    e.timeInterval < cur.cycleTime + e'.timeInterval)

def NextAdvances (cur N : Schedule GateBitvector) (g : Nat) (bitTime : SimTime) (base : ℚ) : Prop :=
  ∀ m e, N.controlList[m]? = some e → Visits N g bitTime base m → e.scheduledObject.test g = true →
    Advances cur N m e

theorem Visits.of_le {base base' : ℚ} {m : Nat} (h : Visits N g bitTime base' m)
    (hle : base ≤ base') : Visits N g bitTime base m :=
  ⟨h.lt_length, h.uncut, h.isOpen, fun i hi => by linarith [h.short i hi]⟩

theorem NextAdvances.of_le {base base' : ℚ} (h : NextAdvances cur N g bitTime base)
    (hle : base ≤ base') : NextAdvances cur N g bitTime base' :=
  fun m e he hv ho => h m e he (hv.of_le hle) ho

theorem Visits.prev {base : ℚ} {m : Nat} (h : Visits N g bitTime base (m + 1)) :
    Visits N g bitTime base m :=
  ⟨Nat.lt_of_succ_lt h.lt_length, fun i hi => h.uncut i (Nat.lt_succ_of_lt hi),
    fun i hi => h.isOpen i (Nat.lt_succ_of_lt hi), fun i hi => h.short i (Nat.le_succ_of_le hi)⟩

theorem Visits.succ {base : ℚ} {m : Nat} (h : Visits N g bitTime base m)
    (hlt : m + 1 < N.controlList.length) (hc : N.startOf (m + 1) ≤ N.cycleTime)
    (ho : N.openAt g m = true)
    (hb : base + N.startOf (m + 1) / bitTime < kEthernet2MaximumTransmissionUnitBitLength) :
    Visits N g bitTime base (m + 1) := by
  refine ⟨hlt, fun i hi => ?_, fun i hi => ?_, fun i hi => ?_⟩
  · rcases (Nat.le_of_lt_succ hi).lt_or_eq with hi | rfl
    · exact h.uncut i hi
    · exact hc
  · rcases (Nat.le_of_lt_succ hi).lt_or_eq with hi | rfl
    · exact h.isOpen i hi
    · exact ho
  · rcases hi.lt_or_eq with hi | rfl
    · exact h.short i (Nat.le_of_lt_succ hi)
    · exact hb

theorem Visits.start {base : ℚ} (hN : 0 < N.controlList.length)
    (hb : base < kEthernet2MaximumTransmissionUnitBitLength) :
    Visits N g bitTime base 0 := by
  refine ⟨hN, fun i hi => absurd hi (Nat.not_lt_zero i), fun i hi => absurd hi (Nat.not_lt_zero i),
    fun i hi => ?_⟩
  rw [Nat.le_zero.mp hi, Schedule.startOf_zero, zero_div, add_zero]
  exact hb

/-- the entries that the walk looks at are reached -/
theorem EndsRising.walk_next {m : Nat} (hst : Standing N l 0)
    (h : EndsRising cur (some N) g bitTime l) (hv : Visits N g bitTime l.bits m) :
    ∃ lm, Standing N lm m ∧ EndsRising cur (some N) g bitTime lm ∧
      lm.bits = l.bits + N.startOf m / bitTime := by
  induction m with
  | zero => exact ⟨l, hst, h, by rw [Schedule.startOf_zero, zero_div, add_zero]⟩
  | succ m ih =>
    obtain ⟨lm, hm, hends, hbits⟩ := ih hv.prev
    have hb : lm.bits < kEthernet2MaximumTransmissionUnitBitLength := by
      rw [hbits]
      exact hv.short m (Nat.le_succ m)
    obtain ⟨l1, hbody, h1, hbits1⟩ := hm.succ cur bitTime hv.lt_length (hv.uncut m (Nat.lt_succ_self m))
    obtain ⟨-, hrest⟩ := hends.rest hb (hm.test.trans (hv.isOpen m (Nat.lt_succ_self m))) hbody
    refine ⟨l1, h1, hrest, ?_⟩
    rw [hbits1, hbits]
    ring

/-- rounds that count for nothing would not end -/
theorem EndsRising.gain_pos {m : Nat} {gain : SimTime} (hbt : 0 < bitTime) (hst : Standing N l 0)
    (h : EndsRising cur (some N) g bitTime l) (hv : Visits N g bitTime l.bits m)
    (ho : N.openAt g m = true) (hturn : TurnsAt cur N bitTime m gain) : 0 < gain := by
  by_contra hgain
  obtain ⟨b, l', fuel, hloop⟩ := h.ends
  have hopen : ∀ i, i ≤ m → N.openAt g i = true := by
    intro i hi
    rcases hi.lt_or_eq with hlt | rfl
    · exact hv.isOpen i hlt
    · exact ho
  have hnever := lookLoop_never hturn hbt (not_lt.mp hgain) hv.lt_length hopen hv.uncut hv.short fuel
    l 0 hst (Nat.zero_le m) (by rw [Schedule.startOf_zero, zero_div, add_zero])
  rw [hloop] at hnever
  cases hnever

theorem nonneg_of_add_div {x y : ℚ} (hbt : 0 < bitTime) (h : x ≤ x + y / bitTime) : 0 ≤ y := by
  have hdiv : 0 ≤ y / bitTime := by linarith
  have hmul := mul_nonneg hdiv hbt.le
  rwa [div_mul_cancel₀ _ hbt.ne'] at hmul

theorem EndsRising.advances {m : Nat} {e : ControlListEntry GateBitvector} (hbt : 0 < bitTime)
    (hst : Standing N l 0) (h : EndsRising cur (some N) g bitTime l)
    (he : N.controlList[m]? = some e) (hv : Visits N g bitTime l.bits m)
    (ho : e.scheduledObject.test g = true) : Advances cur N m e := by
  have hopen : N.openAt g m = true := (Schedule.openAt_of he).trans ho
  have hsucc := Schedule.startOf_succ he
  obtain ⟨lm, hm, hends, hbits⟩ := h.walk_next hst hv
  have hb : lm.bits < kEthernet2MaximumTransmissionUnitBitLength := by
    rw [hbits]
    exact hv.short m le_rfl
  have htest := hm.test.trans hopen
  refine ⟨fun hc => ?_, fun hcut => ?_⟩
  · rcases (Nat.succ_le_of_lt hv.lt_length).lt_or_eq with hlt | hlast
    · obtain ⟨l1, hbody, -, hbits1⟩ := hm.succ cur bitTime hlt hc
      have hle := (hends.rest hb htest hbody).1
      rw [hbits1] at hle
      have := nonneg_of_add_div hbt hle
      exact ⟨by linarith, fun hlast => absurd hlast hlt.ne⟩
    · have hturn : TurnsAt cur N bitTime m N.total := turnsAt_last hlast hc
      obtain ⟨l1, hbody, -, hbits1⟩ := hturn lm hm
      have hle := (hends.rest hb htest hbody).1
      rw [hbits1, ← Schedule.startOf_of_le (s := N) (j := m + 1) hlast.ge] at hle
      have := nonneg_of_add_div hbt hle
      exact ⟨by linarith, fun _ => h.gain_pos hbt hst hv hopen hturn⟩
  · obtain ⟨l1, hbody, hle, -⟩ := hends.round_inv hb htest
    have hgt : lm.cycleStart + (lm.cumSumGateLength + e.timeInterval)
        > lm.cycleStart + N.getCycleTime := by
      show lm.cycleStart + N.cycleTime < _
      rw [hm.cum, ← hsucc]
      linarith
    obtain ⟨e', he'⟩ : ∃ e', cur.controlList[m]? = some e' := by
      have hnext := hm.lookBody_eq.symm.trans hbody
      unfold lookNext Schedule.getTimeInterval at hnext
      rw [hm.index, Schedule.entry_ok.mpr he] at hnext
      simp only [bind, Except.bind, pure, Except.pure] at hnext
      rw [if_pos hgt] at hnext
      cases hcur : cur.controlList[m]? with
      | some e' => exact ⟨e', rfl⟩
      | none =>
        rw [Schedule.entry_of_le (List.getElem?_eq_none_iff.mp hcur)] at hnext
        cases hnext
    have hturn : TurnsAt cur N bitTime m _ := turnsAt_cut he he' hcut
    obtain ⟨l2, hbody2, -, hbits2⟩ := hturn lm hm
    rw [hbody] at hbody2
    cases hbody2
    rw [hbits2] at hle
    have hcount := nonneg_of_add_div hbt hle
    have hgain := h.gain_pos hbt hst hv hopen hturn
    exact ⟨e', he', by linarith, by linarith⟩

/-- the entry with which a round of the next list ends -/
structure TurnEntry (N : Schedule GateBitvector) (k : Nat) : Prop where
  lt_length : k < N.controlList.length
  before : ∀ m, m < k → N.startOf (m + 1) ≤ N.cycleTime
  ends : N.cycleTime < N.startOf (k + 1) ∨ k + 1 = N.controlList.length

theorem exists_turnEntry (hN : 0 < N.controlList.length) : ∃ k, TurnEntry N k := by
  have hex : ∃ k, N.cycleTime < N.startOf (k + 1) ∨ k + 1 = N.controlList.length :=
    ⟨N.controlList.length - 1, Or.inr (by omega)⟩
  classical
  have hlast : Nat.find hex ≤ N.controlList.length - 1 := Nat.find_min' hex (Or.inr (by omega))
  refine ⟨Nat.find hex, by omega, fun m hm => ?_, Nat.find_spec hex⟩
  exact not_lt.mp fun hcut => Nat.find_min hex hm (Or.inl hcut)

/-- a round that ends with an entry that advances counts for something -/
theorem Advances.turnsAt {k : Nat} {e : ControlListEntry GateBitvector} (bitTime : SimTime)
    (h : Advances cur N k e) (hk : TurnEntry N k) (he : N.controlList[k]? = some e) :
    ∃ gain, 0 < gain ∧ N.startOf k ≤ gain ∧ TurnsAt cur N bitTime k gain := by
  have hsucc := Schedule.startOf_succ he
  by_cases hcut : N.cycleTime < N.startOf (k + 1)
  · obtain ⟨e', he', hcount, hgain⟩ := h.2 hcut
    exact ⟨_, by linarith, by linarith, turnsAt_cut he he' hcut⟩
  · have hlast := hk.ends.resolve_left hcut
    obtain ⟨hnonneg, htotal⟩ := h.1 (not_lt.mp hcut)
    refine ⟨N.total, htotal hlast, ?_, turnsAt_last hlast (not_lt.mp hcut)⟩
    rw [← Schedule.startOf_of_le (s := N) (j := k + 1) hlast.ge, hsucc]
    linarith

/-- one round of the next list, up to the entry with which it ends -/
theorem endsRising_round {k : Nat} {base : ℚ} (hbt : 0 < bitTime) (hk : TurnEntry N k)
    (hadv : NextAdvances cur N g bitTime base)
    (hturn : ∀ l : Look, Standing N l k → l.bits = base + N.startOf k / bitTime →
      Visits N g bitTime base k → N.openAt g k = true → EndsRising cur (some N) g bitTime l)
    (n : Nat) :
    ∀ (i : Nat) (l : Look), k - i = n → i ≤ k → Standing N l i →
      l.bits = base + N.startOf i / bitTime →
        (l.bits < kEthernet2MaximumTransmissionUnitBitLength → Visits N g bitTime base i) →
      EndsRising cur (some N) g bitTime l := by
  induction n with
  | zero =>
    intro i l hd hi hst hbits hv
    obtain rfl : i = k := by omega
    by_cases hb : l.bits < kEthernet2MaximumTransmissionUnitBitLength
    swap
    · exact .full hb
    cases ho : l.bitvector.test g with
    | false => exact .closed hb ho
    | true => exact hturn l hst hbits (hv hb) (hst.test.symm.trans ho)
  | succ n ih =>
    intro i l hd hi hst hbits hv
    by_cases hb : l.bits < kEthernet2MaximumTransmissionUnitBitLength
    swap
    · exact .full hb
    cases ho : l.bitvector.test g with
    | false => exact .closed hb ho
    | true =>
      have hik : i < k := by omega
      have hlt : i + 1 < N.controlList.length := by
        have := hk.lt_length
        omega
      have hc := hk.before i hik
      have hopen := hst.test.symm.trans ho
      have he := List.getElem?_eq_getElem (show i < N.controlList.length by omega)
      obtain ⟨hnonneg, -⟩ := (hadv i _ he (hv hb) ((Schedule.openAt_of he).symm.trans hopen)).1 hc
      obtain ⟨l1, hbody, h1, hbits1⟩ := hst.succ cur bitTime hlt hc
      have hsum : l1.bits = base + N.startOf (i + 1) / bitTime := by
        rw [hbits1, hbits]
        ring
      have hle : l.bits ≤ l1.bits := by
        have hdiv := div_nonneg hnonneg hbt.le
        rw [hbits1, Schedule.startOf_succ he, add_sub_cancel_left]
        linarith
      refine .round hb ho hbody hle (ih (i + 1) l1 (by omega) hik h1 hsum fun hb1 => ?_)
      rw [hsum] at hb1
      exact (hv hb).succ hlt hc hopen hb1

/-- rounds that count for something fill a maximum frame: `n` of them are enough -/
theorem endsRising_rounds {k : Nat} {gain : SimTime} (hbt : 0 < bitTime) (hk : TurnEntry N k)
    (hgain : 0 < gain) (hstart : N.startOf k ≤ gain) (hturn : TurnsAt cur N bitTime k gain) (n : ℕ) :
    ∀ l : Look, Standing N l 0 → NextAdvances cur N g bitTime l.bits →
      kEthernet2MaximumTransmissionUnitBitLength - l.bits ≤ n * (gain / bitTime) →
        EndsRising cur (some N) g bitTime l := by
  induction n with
  | zero =>
    intro l hst h hn
    refine .full ?_
    rw [Nat.cast_zero, zero_mul] at hn
    linarith
  | succ n ih =>
    intro l hst h hn
    refine endsRising_round hbt hk h (fun lk hlk hbits _ ho => ?_) _ 0 l rfl (Nat.zero_le k) hst
      (by rw [Schedule.startOf_zero, zero_div, add_zero])
      fun hb => .start (Nat.zero_lt_of_lt hk.lt_length) hb
    by_cases hb : lk.bits < kEthernet2MaximumTransmissionUnitBitLength
    swap
    · exact .full hb
    obtain ⟨l1, hbody, h1, hbits1⟩ := hturn lk hlk
    have hsum : l1.bits = l.bits + gain / bitTime := by
      rw [hbits1, hbits]
      ring
    have hraise := div_pos hgain hbt
    refine .round hb (hlk.test.trans ho) hbody ?_ (ih l1 h1 (h.of_le (by linarith)) ?_)
    · have := div_le_div_of_nonneg_right hstart hbt.le
      rw [hsum, hbits]
      linarith
    · rw [hsum]
      push_cast at hn
      linarith

/-- **The walk through the next list** ends like this exactly when the entries it looks at advance. -/
theorem next_iff (hbt : 0 < bitTime) (hst : Standing N l 0) :
    EndsRising cur (some N) g bitTime l ↔ NextAdvances cur N g bitTime l.bits := by
  refine ⟨fun h m e he hv ho => h.advances hbt hst he hv ho, fun h => ?_⟩
  obtain ⟨e0, he0, -⟩ := hst.entry
  obtain ⟨k, hk⟩ := exists_turnEntry (Nat.zero_lt_of_lt (List.getElem?_eq_some_iff.mp he0).1)
  have he := List.getElem?_eq_getElem hk.lt_length
  by_cases hfull : Visits N g bitTime l.bits k ∧ N.openAt g k = true
  · obtain ⟨hv, ho⟩ := hfull
    obtain ⟨gain, hgain, hstart, hturn⟩ :=
      (h k _ he hv ((Schedule.openAt_of he).symm.trans ho)).turnsAt bitTime hk he
    obtain ⟨n, hn⟩ :=
      exists_nat_ge ((kEthernet2MaximumTransmissionUnitBitLength - l.bits) / (gain / bitTime))
    rw [div_le_iff₀ (div_pos hgain hbt)] at hn
    exact endsRising_rounds hbt hk hgain hstart hturn n l hst h hn
  · -- the loop ends in the first round
    exact endsRising_round hbt hk h (fun _ _ _ hv ho => absurd ⟨hv, ho⟩ hfull) _ 0 l rfl
      (Nat.zero_le k) hst (by rw [Schedule.startOf_zero, zero_div, add_zero])
      fun hb => .start (Nat.zero_lt_of_lt hk.lt_length) hb

/-! ## the walk through the current list -/

/-- a walk that was `since` into entry `j` has come to entry `i` -/
structure Come (cur : Schedule GateBitvector) (bitTime : SimTime) (j : Nat) (since : SimTime) (i : Nat)
    (l : Look) : Prop where
  at_entry : AtCurrent cur l i
  bits : l.bits = (cur.startOf i + l.timeSinceLastChange - cur.startOf j - since) / bitTime
  later : j < i → l.timeSinceLastChange = 0

/-- the bits with which the walk enters the next list from entry `k` -/
def swapBits (cur : Schedule GateBitvector) (bitTime : SimTime) (j : Nat) (since : SimTime) (k : Nat) :
    ℚ := (min (cur.startOf (k + 1)) cur.cycleTime - cur.startOf j - since) / bitTime

variable {i j k : Nat} {since : SimTime}

theorem Come.succ (h : Come cur bitTime j since i l) (N : Schedule GateBitvector)
    (hlt : i + 1 < cur.controlList.length) (hc : cur.startOf (i + 1) ≤ cur.cycleTime) :
    ∃ l1, lookBody cur (some N) bitTime l = .ok l1 ∧ Come cur bitTime j since (i + 1) l1 ∧
      l1.bits = l.bits + (cur.startOf (i + 1) - cur.startOf i - l.timeSinceLastChange) / bitTime := by
  obtain ⟨l1, hbody, hat, hsince, hbits⟩ := h.at_entry.succ N bitTime hlt hc
  refine ⟨l1, hbody, ⟨hat, ?_, fun _ => hsince⟩, hbits⟩
  rw [hbits, h.bits, hsince]
  ring

theorem Come.swap (h : Come cur bitTime j since i l) (hN : 0 < N.controlList.length)
    (hend : cur.cycleTime < cur.startOf (i + 1) ∨ i + 1 = cur.controlList.length) :
    ∃ l1, lookBody cur (some N) bitTime l = .ok l1 ∧ Standing N l1 0 ∧
      l1.bits = swapBits cur bitTime j since i ∧
      l1.bits = l.bits + (min (cur.startOf (i + 1)) cur.cycleTime - cur.startOf i
        - l.timeSinceLastChange) / bitTime := by
  obtain ⟨l1, hbody, hst, hbits⟩ := h.at_entry.swap bitTime hN hend
  refine ⟨l1, hbody, hst, ?_, hbits⟩
  rw [hbits, h.bits, swapBits]
  ring

/-- what is asked of a query for gate `g` that is `since` into entry `j`: if the gate is open, it comes
no later than the end of the entry and of the cycle; and the entries of the next list advance -/
structure Prospect (cur N : Schedule GateBitvector) (g : Nat) (bitTime : SimTime) (j : Nat)
    (since : SimTime) : Prop where
  inTime : cur.openAt g j = true → since ≤ min (cur.startOf (j + 1)) cur.cycleTime - cur.startOf j
  next : ∀ k, SwapsAt cur g bitTime j 0 since k →
    NextAdvances cur N g bitTime (swapBits cur bitTime j since k)

/-- the walk gets to the entry from which it leaves the current list -/
theorem EndsRising.walk_current {m : Nat} (hj : Come cur bitTime j since j l) (hb : l.bits = 0)
    (h : EndsRising cur (some N) g bitTime l) (hs : SwapsAt cur g bitTime j 0 since k) (hjm : j ≤ m)
    (hmk : m ≤ k) : ∃ lm, Come cur bitTime j since m lm ∧ EndsRising cur (some N) g bitTime lm ∧
      lm.bits < kEthernet2MaximumTransmissionUnitBitLength := by
  induction m, hjm using Nat.le_induction with
  | base => exact ⟨l, hj, h, by rw [hb]; exact hs.short⟩
  | succ m hjm ih =>
    obtain ⟨lm, hm, hends, hbm⟩ := ih (by omega)
    have hlt := hs.lt_length
    obtain ⟨l1, hbody, h1, -⟩ := hm.succ N (by omega) (hs.uncut m hjm (by omega))
    have htest := hm.at_entry.test.trans (hs.isOpen m hjm (by omega))
    refine ⟨l1, h1, (hends.rest hbm htest hbody).2, ?_⟩
    have hahead := hs.ahead (m + 1) (by omega) hmk
    rw [h1.bits, h1.later (by omega), add_zero]
    linarith

theorem EndsRising.prospect (hbt : 0 < bitTime) (hN : 0 < N.controlList.length)
    (hj : Come cur bitTime j since j l) (hb : l.bits = 0) (hsince : l.timeSinceLastChange = since)
    (h : EndsRising cur (some N) g bitTime l) : Prospect cur N g bitTime j since := by
  refine ⟨fun ho => ?_, fun k hs => ?_⟩
  · have hb0 : l.bits < kEthernet2MaximumTransmissionUnitBitLength := by
      rw [hb]
      exact mtuBitLength_pos
    have htest := hj.at_entry.test.trans ho
    obtain ⟨e, he, -⟩ := hj.at_entry.entry
    have hlt := (List.getElem?_eq_some_iff.mp he).1
    by_cases hend : cur.cycleTime < cur.startOf (j + 1) ∨ j + 1 = cur.controlList.length
    · obtain ⟨l1, hbody, -, -, hbits⟩ := hj.swap hN hend
      have hle := (h.rest hb0 htest hbody).1
      rw [hbits, hsince] at hle
      linarith [nonneg_of_add_div hbt hle]
    · obtain ⟨hc, hlast⟩ := not_or.mp hend
      obtain ⟨l1, hbody, -, hbits⟩ := hj.succ N (by omega) (not_lt.mp hc)
      have hle := (h.rest hb0 htest hbody).1
      rw [hbits, hsince] at hle
      rw [min_eq_left (not_lt.mp hc)]
      linarith [nonneg_of_add_div hbt hle]
  · obtain ⟨lk, hk, hends, hbk⟩ := h.walk_current hj hb hs hs.from_le le_rfl
    obtain ⟨l1, hbody, hst, hbits, -⟩ := hk.swap hN hs.last
    have htest := hk.at_entry.test.trans (hs.isOpen k hs.from_le le_rfl)
    have hrest := (hends.rest hbk htest hbody).2
    rw [← hbits]
    exact (next_iff hbt hst).mp hrest

/-- the walk from entry `i` on -/
theorem Prospect.endsRising (hbt : 0 < bitTime) (hcur : cur.NonNeg) (hN : 0 < N.controlList.length)
    (hp : Prospect cur N g bitTime j since) (n : Nat) :
    ∀ (i : Nat) (l : Look), cur.controlList.length - i = n → j ≤ i → Come cur bitTime j since i l →
      (i = j → l.timeSinceLastChange = since) →
      (∀ m, j ≤ m → m < i → cur.startOf (m + 1) ≤ cur.cycleTime) →
      (∀ m, j ≤ m → m < i → cur.openAt g m = true) →
      (∀ m, j < m → m < i →
        0 + (cur.startOf m - cur.startOf j - since) / bitTime <
          kEthernet2MaximumTransmissionUnitBitLength) →
      EndsRising cur (some N) g bitTime l := by
  induction n with
  | zero =>
    intro i l hd hji hl hsince huncut hopen hahead
    obtain ⟨e, he, -⟩ := hl.at_entry.entry
    have := (List.getElem?_eq_some_iff.mp he).1
    omega
  | succ n ih =>
    intro i l hd hji hl hsince huncut hopen hahead
    obtain ⟨e, he, -⟩ := hl.at_entry.entry
    have hlt := (List.getElem?_eq_some_iff.mp he).1
    by_cases hb : l.bits < kEthernet2MaximumTransmissionUnitBitLength
    swap
    · exact .full hb
    cases ho : l.bitvector.test g with
    | false => exact .closed hb ho
    | true =>
      have hoi := hl.at_entry.test.symm.trans ho
      have hopen' : ∀ m, j ≤ m → m ≤ i → cur.openAt g m = true := by
        intro m h1 h2
        rcases h2.lt_or_eq with h2 | rfl
        · exact hopen m h1 h2
        · exact hoi
      have hahead' : ∀ m, j < m → m ≤ i →
          0 + (cur.startOf m - cur.startOf j - since) / bitTime <
            kEthernet2MaximumTransmissionUnitBitLength := by
        intro m h1 h2
        rcases h2.lt_or_eq with h2 | rfl
        · exact hahead m h1 h2
        · rw [hl.bits, hl.later h1, add_zero] at hb
          linarith
      -- nothing negative is counted for the entry
      have hcount : l.timeSinceLastChange ≤ min (cur.startOf (i + 1)) cur.cycleTime - cur.startOf i := by
        rcases hji.lt_or_eq with hlt | rfl
        · rw [hl.later hlt]
          have hstart := huncut (i - 1) (by omega) (by omega)
          rw [Nat.sub_add_cancel (by omega)] at hstart
          have := le_min (Schedule.startOf_le_succ hcur i) hstart
          linarith
        · rw [hsince rfl]
          exact hp.inTime hoi
      by_cases hend : cur.cycleTime < cur.startOf (i + 1) ∨ i + 1 = cur.controlList.length
      · obtain ⟨l1, hbody, hst, hbits, hbits'⟩ := hl.swap hN hend
        have hdiv := div_nonneg (sub_nonneg.mpr hcount) hbt.le
        refine .round hb ho hbody (by rw [hbits']; linarith) ((next_iff hbt hst).mpr ?_)
        rw [hbits]
        exact hp.next i ⟨hji, hlt, huncut, hend, hopen', mtuBitLength_pos, hahead'⟩
      · obtain ⟨hc, hlast⟩ := not_or.mp hend
        have hc := not_lt.mp hc
        rw [min_eq_left hc] at hcount
        obtain ⟨l1, hbody, h1, hbits⟩ := hl.succ N (by omega) hc
        have hdiv := div_nonneg (sub_nonneg.mpr hcount) hbt.le
        refine .round hb ho hbody (by rw [hbits]; linarith) (ih (i + 1) l1 (by omega) (by omega) h1
          (fun heq => absurd heq (by omega)) (fun m h2 h3 => ?_)
          (fun m h2 h3 => hopen' m h2 (Nat.le_of_lt_succ h3))
          fun m h2 h3 => hahead' m h2 (Nat.le_of_lt_succ h3))
        rcases (Nat.le_of_lt_succ h3).lt_or_eq with h3 | rfl
        · exact huncut m h2 h3
        · exact hc

/-- **The walk from the executed entry** ends like this exactly when it has the prospect to. -/
theorem current_iff (hbt : 0 < bitTime) (hcur : cur.NonNeg) (hN : 0 < N.controlList.length)
    (hl : AtCurrent cur l j) (hb : l.bits = 0) (hsince : l.timeSinceLastChange = since) :
    EndsRising cur (some N) g bitTime l ↔ Prospect cur N g bitTime j since := by
  have hj : Come cur bitTime j since j l := by
    refine ⟨hl, ?_, fun hlt => absurd hlt (lt_irrefl j)⟩
    rw [hb, hsince]
    ring
  refine ⟨fun h => h.prospect hbt hN hj hb hsince, fun h => ?_⟩
  exact h.endsRising hbt hcur hN _ j l rfl le_rfl hj (fun _ => hsince)
    (fun m h1 h2 => absurd h1 (by omega)) (fun m h1 h2 => absurd h1 (by omega))
    fun m h1 h2 => absurd h1 (by omega)

end

/-! ## reached states -/

/-- the condition on a query -/
def HasProspect (cfg : GateConfig) (now : SimTime) (g : Nat) (gc : GateController) : Prop :=
  ∀ N, gc.next = some N → Prospect gc.currentSchedule N g cfg.bitTime gc.executedIndex
    (now - gc.lastChange)

/-- what every initialized controller keeps -/
structure Listed (gc : GateController) : Prop where
  nonNeg : gc.currentSchedule.NonNeg
  index : gc.scheduleIndex < gc.currentSchedule.controlList.length
  new : 0 < gc.newSchedule.controlList.length
  notNull : gc.nextSchedule ≠ .null
  loaded : ∀ N, gc.nextSchedule = .loaded N → 0 < N.controlList.length

theorem Listed.exists_next {gc : GateController} (h : Listed gc) :
    ∃ N, gc.next = some N ∧ 0 < N.controlList.length := by
  unfold next
  cases hn : gc.nextSchedule with
  | null => exact absurd hn h.notNull
  | loaded N => exact ⟨N, rfl, h.loaded N hn⟩
  | newSchedule => exact ⟨gc.newSchedule, rfl, h.new⟩

theorem Listed.executedIndex_lt {gc : GateController} (h : Listed gc) :
    gc.executedIndex < gc.currentSchedule.controlList.length :=
  Nat.mod_lt _ (Nat.zero_lt_of_lt h.index)

theorem Listed.looksAhead_iff {cfg : GateConfig} {now : SimTime} {g : Nat} {gc : GateController}
    (h : Listed gc) (hrate : 0 < cfg.transmitRate) :
    gc.LooksAhead cfg now g ↔ gc.HasProspect cfg now g := by
  obtain ⟨N, hnext, hN⟩ := h.exists_next
  have he := List.getElem?_eq_getElem h.executedIndex_lt
  have hstart := GateSystem.lookStart_eq now he
  have hiff : ∀ l : Look, AtCurrent gc.currentSchedule l gc.executedIndex → l.bits = 0 →
      l.timeSinceLastChange = now - gc.lastChange →
      (EndsRising gc.currentSchedule (some N) g cfg.bitTime l ↔
        Prospect gc.currentSchedule N g cfg.bitTime gc.executedIndex
          (now - gc.lastChange)) :=
    fun l => current_iff (cfg.bitTime_pos hrate) h.nonNeg hN
  constructor
  · rintro ⟨l, hl, hends⟩ N' hN'
    rw [hstart] at hl
    cases hl
    rw [hnext] at hN' hends
    cases hN'
    exact (hiff _ ⟨rfl, rfl, rfl, _, he, rfl⟩ rfl rfl).mp hends
  · intro hp
    refine ⟨_, hstart, ?_⟩
    rw [hnext]
    exact (hiff _ ⟨rfl, rfl, rfl, _, he, rfl⟩ rfl rfl).mpr (hp N hnext)

theorem Listed.updateSchedule {cfg : GateConfig} {mac : Option PreemptMac} {now : SimTime}
    {gc gc' : GateController} {ap : Applied} (h : Listed gc)
    (hu : GateController.updateSchedule cfg mac now gc = .ok (gc', ap)) : Listed gc' := by
  have hload := (updateSchedule_cases hu).1
  obtain ⟨e, he, rfl, -, -⟩ := applyEntry_ok (updateSchedule_applies (fun _ => h.new) hu)
  have hlt := (List.getElem?_eq_some_iff.mp he).1
  refine ⟨?_, Nat.mod_lt _ (Nat.zero_lt_of_lt hlt), ?_, ?_, fun N hN => ?_⟩
  · show (gc.prepared now).currentSchedule.NonNeg
    rw [prepared_currentSchedule]
    by_cases hl : gc.Loads
    · rw [if_pos hl]
      exact hload hl
    · rw [if_neg hl]
      exact h.nonNeg
  · show 0 < (gc.prepared now).newSchedule.controlList.length
    rw [prepared_newSchedule]
    exact h.new
  · show (gc.prepared now).nextSchedule ≠ .null
    rw [prepared_nextSchedule]
    by_cases hl : gc.Loads
    · rw [if_pos hl]
      exact nofun
    · rw [if_neg hl]
      exact h.notNull
  · have hN' : (gc.prepared now).nextSchedule = .loaded N := hN
    rw [prepared_nextSchedule] at hN'
    by_cases hl : gc.Loads
    · rw [if_pos hl] at hN'
      cases hN'
    · rw [if_neg hl] at hN'
      exact h.loaded N hN'

end GateController

namespace GateSystem
open GateController (Listed TurnsAt)

section
variable {cfg : GateConfig} {s s' : GateSystem}

theorem listed_start {xml : GateScheduleXml} (h : GateSystem.start cfg xml = .ok s) : Listed s.gc := by
  obtain ⟨-, hne, -, rfl⟩ := GateSystem.start_iff.mp h
  have hpos : 0 < xml.entries.length := List.length_pos_iff.mpr hne
  refine ⟨fun e he => ?_, Nat.one_pos, hpos, nofun, fun N hN => ?_⟩
  · rw [List.mem_singleton.mp he]
    exact zero_le_one
  · cases hN
    exact hpos

theorem listed_step (s : GateSystem) (e : GateEvent) (s' : GateSystem) (h : Listed s.gc)
    (hs : s.step cfg e = .ok s') : Listed s'.gc := by
  cases e with
  | tick mac =>
    obtain ⟨now, ap, -, hu, -, -⟩ := step_tick_ok hs
    exact h.updateSchedule hu
  | calculateMaxBit fuel now g =>
    obtain ⟨⟨b, gc'⟩, hquery, hs⟩ := bind_ok.mp hs
    cases hs
    obtain ⟨c, rfl⟩ := GateController.calculateMaxBit_writes hquery
    exact ⟨h.nonNeg, h.index, h.new, h.notNull, h.loaded⟩
  | setTimeInterval i t =>
    obtain ⟨N, hset, hs⟩ := bind_ok.mp hs
    cases hs
    exact ⟨h.nonNeg, h.index, by rw [length_setTimeInterval hset]; exact h.new, h.notNull, h.loaded⟩
  | setisIncreased b =>
    cases hs
    exact ⟨h.nonNeg, h.index, h.new, h.notNull, h.loaded⟩
  | setisSelected b =>
    cases hs
    exact ⟨h.nonNeg, h.index, h.new, h.notNull, h.loaded⟩

/-- **When the look-ahead loop ends.**  In every state that is reached, for every gate, time and
positive rate, the loop ends inside the lists and without lessening `bits` exactly when the query has
the prospect to; and then the query returns. -/
theorem lookAhead_ends_iff {xml : GateScheduleXml} {s0 : GateSystem} {es : List GateEvent}
    (hstart : GateSystem.start cfg xml = .ok s0) (hrun : Lib.run (step cfg) s0 es = .ok s)
    (hrate : 0 < cfg.transmitRate) (now : SimTime) (g : Nat) :
    (s.gc.LooksAhead cfg now g ↔ s.gc.HasProspect cfg now g) ∧
      (s.gc.LooksAhead cfg now g →
        ∃ fuel r, ∀ more, s.gc.calculateMaxBit cfg (fuel + more) now g = .ok r) := by
  have h : Listed s.gc :=
    Lib.run_invariant (I := fun s => Listed s.gc) listed_step (listed_start hstart) hrun
  exact ⟨h.looksAhead_iff hrate, fun hl => hl.returns hrate⟩

end

/-- 50 us of the first entry, the 40 us that are left of the cycle, and the first entry again -/
theorem overlong_looksAhead : overlongRunning.gc.LooksAhead .gigabit (1 / 100000) 0 := by
  have hstart : overlongRunning.gc.lookStart (1 / 100000) = .ok ⟨0, false, 0, 0, 1 / 100000, 1, 0⟩ := by
    decide +kernel
  have h1 : GateController.lookBody overlongRunning.gc.currentSchedule overlongRunning.gc.next
      GateConfig.gigabit.bitTime ⟨0, false, 0, 0, 1 / 100000, 1, 0⟩ =
      .ok ⟨50000, false, 1, 6 / 100000, 0, 3, 0⟩ := by decide +kernel
  have h2 : GateController.lookBody overlongRunning.gc.currentSchedule overlongRunning.gc.next
      GateConfig.gigabit.bitTime ⟨50000, false, 1, 6 / 100000, 0, 3, 0⟩ =
      .ok ⟨90000, true, 0, 0, 0, 1, 1 / 10000⟩ := by decide +kernel
  have h3 : GateController.lookBody overlongRunning.gc.currentSchedule overlongRunning.gc.next
      GateConfig.gigabit.bitTime ⟨90000, true, 0, 0, 0, 1, 1 / 10000⟩ =
      .ok ⟨150000, true, 1, 6 / 100000, 0, 3, 1 / 10000⟩ := by decide +kernel
  refine ⟨_, hstart, .round (by decide +kernel) (by decide +kernel) h1 (by decide +kernel) ?_⟩
  refine .round (by decide +kernel) (by decide +kernel) h2 (by decide +kernel) ?_
  refine .round (by decide +kernel) (by decide +kernel) h3 (by decide +kernel) ?_
  exact .full (by decide +kernel)

/-- a query for the gate that is open in both entries has the prospect to end -/
theorem lookAhead_ends_overlong : ∃ s0, start .gigabit overlong = .ok s0 ∧
    Lib.run (step .gigabit) s0 [.tick none] = .ok overlongRunning ∧
    overlongRunning.gc.HasProspect .gigabit (1 / 100000) 0 ∧
    ∃ fuel r, ∀ more,
      overlongRunning.gc.calculateMaxBit .gigabit (fuel + more) (1 / 100000) 0 = .ok r := by
  have hreached : (start .gigabit overlong).bind (fun s => Lib.run (step .gigabit) s [.tick none])
      = .ok overlongRunning := by decide +kernel
  obtain ⟨s0, hstart, hrun⟩ := bind_ok.mp hreached
  obtain ⟨hiff, hreturns⟩ :=
    lookAhead_ends_iff hstart hrun (by norm_num [GateConfig.gigabit]) (1 / 100000) 0
  exact ⟨s0, hstart, hrun, hiff.mp overlong_looksAhead, hreturns overlong_looksAhead⟩

/-- the look-ahead goes round the list of a millisecond whose cycle time is zero -/
theorem calculateMaxBit_endless (fuel : Nat) :
    endlessRunning.calculateMaxBit .plain fuel 0 0 = .error .outOfFuel := by
  have hentry : endlessRunning.newSchedule.controlList[0]? = some ⟨1 / 1000, .allOpen⟩ := rfl
  have hcurrent : endlessRunning.currentSchedule.controlList[0]? = some ⟨1 / 1000, .allOpen⟩ := rfl
  have hcut : endlessRunning.newSchedule.cycleTime < endlessRunning.newSchedule.startOf 1 := by
    decide +kernel
  have hturn : TurnsAt endlessRunning.currentSchedule endlessRunning.newSchedule
      GateConfig.plain.bitTime 0 _ := GateController.turnsAt_cut hentry hcurrent hcut
  have hnever := GateController.lookLoop_never (g := 0) hturn (by decide +kernel)
    (by decide +kernel) (by decide +kernel) (by decide +kernel) (by decide +kernel)
    (show ∀ m, m ≤ 0 →
      0 + endlessRunning.newSchedule.startOf m / GateConfig.plain.bitTime <
        kEthernet2MaximumTransmissionUnitBitLength by
      decide +kernel)
  have hstart : endlessRunning.lookStart 0 = .ok ⟨0, false, 0, 0, 0, .allOpen, 0⟩ := by decide +kernel
  have hbody : GateController.lookBody endlessRunning.currentSchedule endlessRunning.next
      GateConfig.plain.bitTime ⟨0, false, 0, 0, 0, .allOpen, 0⟩ =
      .ok ⟨0, true, 0, 0, 0, .allOpen, 0⟩ := by decide +kernel
  refine GateController.calculateMaxBit_never (by norm_num [GateConfig.plain]) hstart
    (by decide +kernel) (by decide +kernel) hbody (fun fuel => ?_) fuel
  exact hnever fuel ⟨0, true, 0, 0, 0, .allOpen, 0⟩ 0
    ⟨rfl, rfl, (Schedule.startOf_zero _).symm, rfl, _, rfl, rfl⟩ le_rfl (by decide +kernel)

/-- an entry without length, and no cycle time -/
def pastEnd : GateScheduleXml := ⟨none, none, [⟨0, 1⟩, ⟨1 / 1000, 1⟩]⟩

/-- the first tick comes after a second, and closes gate 0 -/
def lateStart : GateScheduleXml := ⟨some (1 / 1000), some 1, [⟨1 / 1000, 2⟩]⟩

/-- **Look-aheads that fail.**  Without a cycle time the loop does not end; before the first tick it
reads entry 1 of the default schedule, which has one entry, and half a second after the start it counts
-50000000 bits for that schedule. -/
theorem lookAhead_fails :
    (∃ s, (start .plain endless).bind (fun s => Lib.run (step .plain) s [.tick none]) = .ok s ∧
      ∀ fuel, s.gc.calculateMaxBit .plain fuel 0 0 = .error .outOfFuel) ∧
    (∃ s, start .plain pastEnd = .ok s ∧ s.gc.calculateMaxBit .plain 9 0 0 =
      .error (.undefinedBehaviour "controlList[index]")) ∧
    ∃ s l l', start .plain lateStart = .ok s ∧ s.gc.lookStart (1 / 2) = .ok l ∧ l.bits = 0 ∧
      GateController.lookBody s.gc.currentSchedule s.gc.next GateConfig.plain.bitTime l
        = .ok l' ∧ l'.bits = -50000000 := by
  refine ⟨⟨⟨endlessRunning, some 0, [(0, .allOpen)]⟩, by decide +kernel, calculateMaxBit_endless⟩,
    ?_, ?_⟩
  · obtain ⟨s, hs, he⟩ : ∃ s, start .plain pastEnd = .ok s ∧
        errorOf (s.gc.calculateMaxBit .plain 9 0 0) =
          some (.undefinedBehaviour "controlList[index]") := exists_of_any (by decide +kernel)
    exact ⟨s, hs, eq_error_of he⟩
  · obtain ⟨s, hs, hbits⟩ : ∃ s, start .plain lateStart = .ok s ∧
        ((s.gc.lookStart (1 / 2)).bind fun l => (GateController.lookBody s.gc.currentSchedule s.gc.next
          GateConfig.plain.bitTime l).map fun l' => (l.bits, l'.bits)) =
          .ok (0, -50000000) := exists_of_any (by decide +kernel)
    obtain ⟨l, hl, hbits⟩ := bind_ok.mp hbits
    obtain ⟨l', hl', hpair⟩ := map_ok.mp hbits
    obtain ⟨h0, hlost⟩ := Prod.mk.inj hpair
    exact ⟨s, l, l', hs, hl, h0, hl', hlost⟩

end GateSystem
end Nesting
