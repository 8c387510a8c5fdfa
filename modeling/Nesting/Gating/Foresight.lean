import Nesting.Gating.LookAhead
import Nesting.Gating.Promise

/-!
# How far the look-ahead sees

* `Ends`         the look-ahead loop ends with this result;
* `Reaches`      the walk looks at entry `m` of a round;
* `TurnsAt`      where a round of the next list ends, and the time that is counted for the round;
* `ends_rounds`, `lookLoop_never`  rounds that keep the gate open fill a maximum frame if they are
                 counted at all, and never end if not;
* `Foresees`     no round is looked at beyond the end of its cycle, each entry that is looked at can
                 be subscribed for, the query leaves `cycleStart` to the ticks, and a cut entry of
                 the next list is counted;
* `foresees_of_fits`  **it holds of lists that fit their cycles.**
-/

set_option linter.unusedVariables false

namespace Nesting
namespace GateController

/-! ## the loop -/

section loop
variable {cur : Schedule GateBitvector} {next : Option (Schedule GateBitvector)} {g : Nat}
  {bitTime : SimTime} {l l' l1 : Look} {b b' fuel : Nat}

theorem lookLoop_full (h : ¬ l.bits < kEthernet2MaximumTransmissionUnitBitLength) :
    lookLoop cur next g bitTime (fuel + 1) l =
      .ok (kEthernet2MaximumTransmissionUnitBitLength, l) := by
  rw [lookLoop]
  exact if_neg h

theorem lookLoop_closed (hb : l.bits < kEthernet2MaximumTransmissionUnitBitLength)
    (hc : l.bitvector.test g = false) :
    lookLoop cur next g bitTime (fuel + 1) l = .ok (bitsToUnsigned l.bits, l) := by
  rw [lookLoop, hc]
  exact if_pos hb

theorem lookLoop_open (hb : l.bits < kEthernet2MaximumTransmissionUnitBitLength)
    (ho : l.bitvector.test g = true)
    (hbody : lookBody cur next bitTime l = .ok l1) :
    lookLoop cur next g bitTime (fuel + 1) l = lookLoop cur next g bitTime fuel l1 := by
  rw [lookLoop, ho, hbody]
  exact if_pos hb

/-- more iterations change nothing -/
theorem lookLoop_add (more : Nat) (h : lookLoop cur next g bitTime fuel l = .ok (b, l')) :
    lookLoop cur next g bitTime (fuel + more) l = .ok (b, l') := by
  induction fuel generalizing l with
  | zero => cases h
  | succ fuel ih =>
    rw [Nat.succ_add]
    rcases lookLoop_succ_ok h with ⟨hb, rfl, rfl⟩ | ⟨hb, hc, rfl, rfl⟩ | ⟨hb, ho, l1, hbody, hrest⟩
    · exact lookLoop_full hb
    · exact lookLoop_closed hb hc
    · rw [lookLoop_open hb ho hbody]
      exact ih hrest

/-- the loop ends with the result `b` -/
def Ends (cur : Schedule GateBitvector) (next : Option (Schedule GateBitvector)) (g : Nat)
    (bitTime : SimTime) (l : Look) (b : Nat) (l' : Look) : Prop :=
  ∃ fuel, lookLoop cur next g bitTime fuel l = .ok (b, l')

theorem Ends.full (h : ¬ l.bits < kEthernet2MaximumTransmissionUnitBitLength) :
    Ends cur next g bitTime l kEthernet2MaximumTransmissionUnitBitLength l :=
  ⟨1, lookLoop_full h⟩

theorem Ends.closed (hb : l.bits < kEthernet2MaximumTransmissionUnitBitLength)
    (hc : l.bitvector.test g = false) :
    Ends cur next g bitTime l (bitsToUnsigned l.bits) l := ⟨1, lookLoop_closed hb hc⟩

theorem Ends.step (hb : l.bits < kEthernet2MaximumTransmissionUnitBitLength)
    (ho : l.bitvector.test g = true)
    (hbody : lookBody cur next bitTime l = .ok l1) (h : Ends cur next g bitTime l1 b l') :
    Ends cur next g bitTime l b l' := by
  obtain ⟨fuel, h⟩ := h
  exact ⟨fuel + 1, (lookLoop_open hb ho hbody).trans h⟩

theorem Ends.unique {l2 : Look} (h : Ends cur next g bitTime l b l')
    (h' : Ends cur next g bitTime l b' l2) : b = b' ∧ l' = l2 := by
  obtain ⟨fuel, h⟩ := h
  obtain ⟨fuel', h'⟩ := h'
  have h1 := lookLoop_add fuel' h
  rw [Nat.add_comm, lookLoop_add fuel h'] at h1
  cases h1
  exact ⟨rfl, rfl⟩

end loop

theorem calculateMaxBit_add {cfg : GateConfig} {now : SimTime} {g fuel b : Nat}
    {gc gc' : GateController} (more : Nat) (h : gc.calculateMaxBit cfg fuel now g = .ok (b, gc')) :
    gc.calculateMaxBit cfg (fuel + more) now g = .ok (b, gc') := by
  unfold calculateMaxBit at h ⊢
  split
  · rename_i hr
    rw [if_pos hr] at h
    exact h
  · rename_i hr
    rw [if_neg hr] at h
    obtain ⟨l, hl, h⟩ := bind_ok.mp h
    obtain ⟨r, hloop, h⟩ := bind_ok.mp h
    exact bind_ok.mpr ⟨l, hl, bind_ok.mpr ⟨r, lookLoop_add more hloop, h⟩⟩

/-! ## the walk through one round -/

/-- a walk that stands at entry `j` of a round of `L` that starts at `c` looks at entry `m` of it -/
structure Reaches (L : Schedule GateBitvector) (g : Nat) (bitTime now c : SimTime) (j m : Nat) :
    Prop where
  from_le : j ≤ m
  lt_length : m < L.controlList.length
  uncut : ∀ i, j ≤ i → i < m → L.startOf (i + 1) ≤ L.cycleTime
  isOpen : ∀ i, j ≤ i → i < m → L.openAt g i = true
  short : (c + L.startOf m - now) / bitTime < kEthernet2MaximumTransmissionUnitBitLength

section round
variable {L cur N : Schedule GateBitvector} {g : Nat} {bitTime now c : SimTime} {j k m : Nat}

theorem Reaches.succ (h : Reaches L g bitTime now c j m) (hlt : m + 1 < L.controlList.length)
    (hc : L.startOf (m + 1) ≤ L.cycleTime) (ho : L.openAt g m = true)
    (hs : (c + L.startOf (m + 1) - now) / bitTime < kEthernet2MaximumTransmissionUnitBitLength) :
    Reaches L g bitTime now c j (m + 1) := by
  refine ⟨Nat.le_succ_of_le h.from_le, hlt, fun i h1 h2 => ?_, fun i h1 h2 => ?_, hs⟩
  · rcases (Nat.le_of_lt_succ h2).lt_or_eq with hlt | rfl
    · exact h.uncut i h1 hlt
    · exact hc
  · rcases (Nat.le_of_lt_succ h2).lt_or_eq with hlt | rfl
    · exact h.isOpen i h1 hlt
    · exact ho

/-- the walk leaves the list at an open entry that it looks at and that ends the cycle -/
theorem Reaches.swapsAt (hL : L.NonNeg) (hbt : 0 < bitTime) {since : SimTime}
    (h : Reaches L g bitTime now c j k) (ho : L.openAt g k = true)
    (hlast : L.cycleTime < L.startOf (k + 1) ∨ k + 1 = L.controlList.length)
    (hsince : c + L.startOf j + since = now) : SwapsAt L g bitTime j 0 since k := by
  refine ⟨h.from_le, h.lt_length, h.uncut, hlast, fun i h1 h2 => ?_, mtuBitLength_pos,
    fun i h1 h2 => ?_⟩
  · rcases h2.lt_or_eq with hlt | rfl
    · exact h.isOpen i h1 hlt
    · exact ho
  · have hmono := Schedule.startOf_mono hL h2
    have heq : L.startOf i - L.startOf j - since ≤ c + L.startOf k - now := by linarith
    rw [zero_add]
    exact (div_le_div_of_nonneg_right heq hbt.le).trans_lt h.short

/-- the walk stands at the start of entry `i` of the next list -/
structure Standing (N : Schedule GateBitvector) (l : Look) (i : Nat) : Prop where
  touched : l.touchedNextSchedule = true
  index : l.currentIndex = i
  cum : l.cumSumGateLength = N.startOf i
  since : l.timeSinceLastChange = 0
  entry : ∃ e, N.controlList[i]? = some e ∧ l.bitvector = e.scheduledObject

theorem Standing.test {l : Look} {i : Nat} (h : Standing N l i) :
    l.bitvector.test g = N.openAt g i := by
  obtain ⟨e, he, hv⟩ := h.entry
  rw [Schedule.openAt_of he, hv]

theorem Standing.lookBody_eq {l : Look} {i : Nat} (h : Standing N l i) :
    lookBody cur (some N) bitTime l = lookNext cur bitTime N l := by
  rw [lookBody, h.touched]
  rfl

/-- an entry that ends within the cycle is followed by the next one, or by entry 0 -/
theorem Standing.stay {l : Look} {i : Nat} (h : Standing N l i) (cur : Schedule GateBitvector)
    (bitTime : SimTime) (hc : N.startOf (i + 1) ≤ N.cycleTime) :
    ∃ l1, lookBody cur (some N) bitTime l = .ok l1 ∧
      Standing N l1 ((i + 1) % N.controlList.length) ∧
      l1.bits = l.bits + (N.startOf (i + 1) - N.startOf i) / bitTime := by
  obtain ⟨e, he, -⟩ := h.entry
  have hend := Schedule.startOf_succ he
  have hlt := (List.getElem?_eq_some_iff.mp he).1
  have he' := List.getElem?_eq_getElem (Nat.mod_lt (i + 1) (Nat.zero_lt_of_lt hlt))
  refine ⟨_, h.lookBody_eq.trans (GateSystem.lookNext_stay (l := l) (by rw [h.index]; exact he)
    (by rw [h.index]; exact he') (by rw [h.cum, ← hend]; exact hc)), ⟨h.touched, ?_, ?_, rfl,
    _, he', rfl⟩, ?_⟩
  · dsimp only
    rw [h.index]
  · dsimp only
    rw [h.index]
    split
    · rename_i hzero
      rw [hzero, Schedule.startOf_zero]
    · rename_i hne
      have hsucc : i + 1 < N.controlList.length := by
        refine lt_of_le_of_ne hlt fun heq => hne ?_
        rw [heq, Nat.mod_self]
      rw [Nat.mod_eq_of_lt hsucc, h.cum, hend]
  · dsimp only
    rw [h.since, hend]
    ring

/-- the next entry of the round -/
theorem Standing.succ {l : Look} {i : Nat} (h : Standing N l i) (cur : Schedule GateBitvector)
    (bitTime : SimTime) (hlt : i + 1 < N.controlList.length) (hc : N.startOf (i + 1) ≤ N.cycleTime) :
    ∃ l1, lookBody cur (some N) bitTime l = .ok l1 ∧ Standing N l1 (i + 1) ∧
      l1.bits = l.bits + (N.startOf (i + 1) - N.startOf i) / bitTime := by
  have hstay := h.stay cur bitTime hc
  rwa [Nat.mod_eq_of_lt hlt] at hstay

/-! ## rounds of the next list -/

/-- a round of the next list ends with entry `k`, and the walk counts `gain` for it -/
def TurnsAt (cur N : Schedule GateBitvector) (bitTime : SimTime) (k : Nat) (gain : SimTime) : Prop :=
  ∀ l : Look, Standing N l k → ∃ l1, lookBody cur (some N) bitTime l = .ok l1 ∧ Standing N l1 0 ∧
    l1.bits = l.bits + (gain - N.startOf k) / bitTime

theorem turnsAt_last (hlast : k + 1 = N.controlList.length)
    (hc : N.startOf (k + 1) ≤ N.cycleTime) : TurnsAt cur N bitTime k N.total := by
  intro l h
  obtain ⟨l1, hbody, hst, hbits⟩ := h.stay cur bitTime hc
  rw [hlast, Nat.mod_self] at hst
  rw [Schedule.startOf_of_le hlast.ge] at hbits
  exact ⟨l1, hbody, hst, hbits⟩

/-- what is counted for a cut entry comes from the current schedule -/
theorem turnsAt_cut {e e' : ControlListEntry GateBitvector} (he : N.controlList[k]? = some e)
    (he' : cur.controlList[k]? = some e') (hcut : N.cycleTime < N.startOf (k + 1)) :
    TurnsAt cur N bitTime k (cur.cycleTime + e'.timeInterval - e.timeInterval) := by
  intro l h
  have hend := Schedule.startOf_succ he
  have hlt := (List.getElem?_eq_some_iff.mp he).1
  have he0 : N.controlList[0]? = some _ := List.getElem?_eq_getElem (by omega)
  have hgt : l.cycleStart + (l.cumSumGateLength + e.timeInterval)
      > l.cycleStart + N.getCycleTime := by
    show l.cycleStart + N.cycleTime < _
    rw [h.cum, ← hend]
    linarith
  refine ⟨{ l with
    bits := l.bits + (cur.getCycleTime -
      (l.timeSinceLastChange + (l.cumSumGateLength + e.timeInterval) - e'.timeInterval)) / bitTime
    currentIndex := 0
    cumSumGateLength := 0
    timeSinceLastChange := 0
    bitvector := N.controlList[0].scheduledObject }, h.lookBody_eq.trans ?_,
    ⟨h.touched, rfl, (Schedule.startOf_zero N).symm, rfl, _, he0, rfl⟩, ?_⟩
  · unfold lookNext Schedule.getTimeInterval Schedule.getScheduledObject
    rw [h.index, Schedule.entry_ok.mpr he, Schedule.entry_ok.mpr he', Schedule.entry_ok.mpr he0]
    simp only [bind, Except.bind, pure, Except.pure]
    exact if_pos hgt
  · show l.bits + (cur.cycleTime - _) / bitTime = _
    rw [h.since, h.cum]
    ring

/-- **Rounds that keep the gate open** fill a maximum frame: `base` bits were collected when the
round began, and `n` rounds are enough. -/
theorem ends_rounds (hN : N.NonNeg) (hbt : 0 < bitTime) {gain : SimTime}
    (hturn : TurnsAt cur N bitTime k gain) (hlt : k < N.controlList.length)
    (hopen : ∀ m, m ≤ k → N.openAt g m = true)
    (huncut : ∀ m, m < k → N.startOf (m + 1) ≤ N.cycleTime) (n : ℕ) :
    ∀ (l : Look) (i : Nat) (base : ℚ), Standing N l i → i ≤ k →
      l.bits = base + N.startOf i / bitTime →
        kEthernet2MaximumTransmissionUnitBitLength ≤ base + n * (gain / bitTime) →
      ∃ l', Ends cur (some N) g bitTime l kEthernet2MaximumTransmissionUnitBitLength l' := by
  induction n with
  | zero =>
    intro l i base h hi hbits hbase
    have hstart := Schedule.startOf_mono hN (Nat.zero_le i)
    rw [Schedule.startOf_zero] at hstart
    have hnonneg := div_nonneg hstart hbt.le
    refine ⟨l, Ends.full ?_⟩
    rw [Nat.cast_zero, zero_mul] at hbase
    linarith
  | succ n ih =>
    intro l i base h hi hbits hbase
    induction hd : k - i generalizing l i with
    | zero =>
      by_cases hb : l.bits < kEthernet2MaximumTransmissionUnitBitLength
      · obtain rfl : i = k := by omega
        obtain ⟨l1, hbody, h1, hbits1⟩ := hturn l h
        obtain ⟨l', hl'⟩ := ih l1 0 (base + gain / bitTime) h1 (Nat.zero_le i)
          (by rw [hbits1, hbits, Schedule.startOf_zero]; ring)
          (by push_cast at hbase; linarith)
        exact ⟨l', Ends.step hb (h.test.trans (hopen i le_rfl)) hbody hl'⟩
      · exact ⟨l, Ends.full hb⟩
    | succ d ihd =>
      by_cases hb : l.bits < kEthernet2MaximumTransmissionUnitBitLength
      · obtain ⟨l1, hbody, h1, hbits1⟩ := h.succ cur bitTime (by omega)
          (huncut i (by omega))
        obtain ⟨l', hl'⟩ := ihd l1 (i + 1) h1 (by omega)
          (by rw [hbits1, hbits]; ring) (by omega)
        exact ⟨l', Ends.step hb (h.test.trans (hopen i hi)) hbody hl'⟩
      · exact ⟨l, Ends.full hb⟩

/-- **Rounds that count for nothing** never end the loop. -/
theorem lookLoop_never {gain : SimTime} (hturn : TurnsAt cur N bitTime k gain)
    (hbt : 0 < bitTime) (hgain : gain ≤ 0) (hlt : k < N.controlList.length)
    (hopen : ∀ m, m ≤ k → N.openAt g m = true)
    (huncut : ∀ m, m < k → N.startOf (m + 1) ≤ N.cycleTime) {base : ℚ}
    (hshort : ∀ m, m ≤ k →
      base + N.startOf m / bitTime < kEthernet2MaximumTransmissionUnitBitLength) (fuel : Nat) :
    ∀ (l : Look) (i : Nat), Standing N l i → i ≤ k → l.bits ≤ base + N.startOf i / bitTime →
      lookLoop cur (some N) g bitTime fuel l = .error .outOfFuel := by
  induction fuel with
  | zero =>
    intro l i h hi hbits
    rfl
  | succ fuel ih =>
    intro l i h hi hbits
    have hb := hbits.trans_lt (hshort i hi)
    have ho := h.test.trans (hopen i hi)
    rcases hi.lt_or_eq with hik | rfl
    · obtain ⟨l1, hbody, h1, hbits1⟩ := h.succ cur bitTime (by omega) (huncut i hik)
      rw [lookLoop_open hb ho hbody]
      refine ih l1 (i + 1) h1 hik ?_
      rw [hbits1, sub_div]
      linarith
    · obtain ⟨l1, hbody, h1, hbits1⟩ := hturn l h
      rw [lookLoop_open hb ho hbody]
      refine ih l1 0 h1 (Nat.zero_le i) ?_
      have hloss := div_nonpos_of_nonpos_of_nonneg hgain hbt.le
      rw [hbits1, sub_div, Schedule.startOf_zero, zero_div]
      linarith

end round

/-- a query whose walk never ends after its first round -/
theorem calculateMaxBit_never {cfg : GateConfig} {gc : GateController} {now : SimTime} {g : Nat}
    {l l1 : Look} (hrate : 0 < cfg.transmitRate) (hstart : gc.lookStart now = .ok l)
    (hb : l.bits < kEthernet2MaximumTransmissionUnitBitLength) (ho : l.bitvector.test g = true)
    (hbody : lookBody gc.currentSchedule gc.next cfg.bitTime l = .ok l1)
    (hnever : ∀ fuel, lookLoop gc.currentSchedule gc.next g cfg.bitTime fuel l1 =
      .error .outOfFuel) (fuel : Nat) :
    gc.calculateMaxBit cfg fuel now g = .error .outOfFuel := by
  have hloop : lookLoop gc.currentSchedule gc.next g cfg.bitTime fuel l =
      .error .outOfFuel := by
    cases fuel with
    | zero => rfl
    | succ fuel =>
      rw [lookLoop_open hb ho hbody]
      exact hnever fuel
  rw [calculateMaxBit, if_neg (not_le.mpr hrate), hstart]
  show (lookLoop _ _ g _ fuel l >>= _) = _
  rw [hloop]
  rfl

/-! ## what is foreseen -/

/-- when the round that is executed began -/
def roundStart (gc : GateController) : SimTime :=
  gc.lastChange - gc.currentSchedule.startOf gc.executedIndex

def roundEnd (gc : GateController) : SimTime :=
  gc.roundStart + min gc.currentSchedule.total gc.currentSchedule.cycleTime

/-- a query that sees what the ticks will do -/
structure Foresees (cfg : GateConfig) (now : SimTime) (g : Nat) (gc : GateController) : Prop where
  /-- no later entry of the current list is looked at that starts when its cycle is over, or whose
  ticks do not fit an `unsigned` -/
  inCycle : ∀ m, gc.executedIndex < m → Reaches gc.currentSchedule g cfg.bitTime now
    gc.roundStart gc.executedIndex m →
    gc.currentSchedule.startOf m < gc.currentSchedule.cycleTime ∧
      gc.currentSchedule.heldFor m / cfg.clockRate < 2 ^ 32
  /-- a list that does not fit its cycle is left from its last entry only -/
  keeps : ∀ k, SwapsAt gc.currentSchedule g cfg.bitTime gc.executedIndex 0
    (now - gc.lastChange) k → gc.currentSchedule.Fits ∨
      gc.executedIndex + 1 = gc.currentSchedule.controlList.length
  /-- no entry of the next list is looked at that starts when its cycle is over or whose ticks do
  not fit, and a cut entry that keeps the gate open is shorter than the current cycle and the
  current entry of its index -/
  next : ∀ k, SwapsAt gc.currentSchedule g cfg.bitTime gc.executedIndex 0
    (now - gc.lastChange) k → ∀ m e, gc.newSchedule.controlList[m]? = some e →
      Reaches gc.newSchedule g cfg.bitTime now gc.roundEnd 0 m →
      gc.newSchedule.startOf m < gc.newSchedule.cycleTime ∧
        gc.newSchedule.heldFor m / cfg.clockRate < 2 ^ 32 ∧
        (e.scheduledObject.test g = true →
          gc.newSchedule.cycleTime < gc.newSchedule.startOf (m + 1) →
          ∃ e', gc.currentSchedule.controlList[m]? = some e' ∧
            e.timeInterval < gc.currentSchedule.cycleTime + e'.timeInterval)

/-- **Lists that fit their cycles** are foreseen. -/
theorem foresees_of_fits {cfg : GateConfig} {now : SimTime} {g : Nat} {gc : GateController}
    (hc : gc.currentSchedule.WholeTicks cfg) (hn : gc.newSchedule.WholeTicks cfg)
    (hcf : gc.currentSchedule.Fits) (hnf : gc.newSchedule.Fits)
    (hcs : gc.currentSchedule.Subscribable cfg) (hns : gc.newSchedule.Subscribable cfg) :
    gc.Foresees cfg now g := by
  refine ⟨fun m hm h => ?_, fun k hk => Or.inl hcf, fun k hk m e he h => ?_⟩
  · have hlt := hcf.startOf_lt hc h.lt_length
    exact ⟨hlt, hcs m h.lt_length hlt⟩
  · have hlt := hnf.startOf_lt hn h.lt_length
    refine ⟨hlt, hns m h.lt_length hlt, fun ho hcut => ?_⟩
    exact absurd hcut (not_lt.mpr (hnf.startOf_le hn (m + 1)))

end GateController
end Nesting
