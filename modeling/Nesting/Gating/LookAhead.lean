import Nesting.Gating.System

/-!
# The look-ahead and the gate schedule

`calculateMaxBit` walks from the executed entry to the end of the cycle and enters the next schedule
there.  At that point it moves `cycleStart`, which is a member: a query is not silent.

* `SwapsAt`      the walk reaches the end of the cycle at entry `k` with the gate open so far and
                 less than a maximum frame collected;
* `Disturbs`     a query does so, and the move is not zero;
* `calculateMaxBit_frame`  a query leaves the controller alone exactly when it does not disturb it,
                 and runs that differ only in such queries apply the same vectors at the same times;
* `calculateMaxBit_disturbs`  a run in which one query moves the next entry.
-/

set_option linter.unusedVariables false

namespace Nesting
namespace GateController

/-! ## one round of the loop -/

section
variable {cur next : Schedule GateBitvector} {g : Nat} {bitTime : SimTime}

/-- the three ways through the head of the loop -/
theorem lookLoop_succ_ok {next : Option (Schedule GateBitvector)} {fuel b : Nat} {l l' : Look}
    (h : lookLoop cur next g bitTime (fuel + 1) l = .ok (b, l')) :
    (¬ l.bits < kEthernet2MaximumTransmissionUnitBitLength ∧
        b = kEthernet2MaximumTransmissionUnitBitLength ∧ l' = l) ∨
      (l.bits < kEthernet2MaximumTransmissionUnitBitLength ∧ l.bitvector.test g = false ∧
        b = bitsToUnsigned l.bits ∧ l' = l) ∨
      (l.bits < kEthernet2MaximumTransmissionUnitBitLength ∧ l.bitvector.test g = true ∧
        ∃ l1, lookBody cur next bitTime l = .ok l1 ∧
        lookLoop cur next g bitTime fuel l1 = .ok (b, l')) := by
  unfold lookLoop at h
  by_cases hb : l.bits < (kEthernet2MaximumTransmissionUnitBitLength : ℚ)
  · rw [if_pos hb] at h
    right
    cases ho : l.bitvector.test g with
    | false =>
      rw [ho] at h
      cases h
      exact Or.inl ⟨hb, rfl, rfl, rfl⟩
    | true =>
      rw [ho] at h
      obtain ⟨l1, h1, h2⟩ := bind_ok.mp h
      exact Or.inr ⟨hb, rfl, l1, h1, h2⟩
  · rw [if_neg hb] at h
    cases h
    exact Or.inl ⟨hb, rfl, rfl⟩

/-- the entry is followed by another one of the current schedule -/
theorem lookCurrent_stay {l : Look} {e e' : ControlListEntry GateBitvector}
    (he : cur.controlList[l.currentIndex]? = some e)
    (he' : cur.controlList[l.currentIndex + 1]? = some e')
    (hc : l.cumSumGateLength + e.timeInterval ≤ cur.cycleTime) :
    lookCurrent cur bitTime next l = .ok { l with
      bits := l.bits + (e.timeInterval - l.timeSinceLastChange) / bitTime
      currentIndex := l.currentIndex + 1
      cumSumGateLength := l.cumSumGateLength + e.timeInterval
      timeSinceLastChange := 0
      bitvector := e'.scheduledObject } := by
  have hlt : l.currentIndex + 1 < cur.controlList.length := (List.getElem?_eq_some_iff.mp he').1
  have hhit : ¬ (l.cycleStart + (l.cumSumGateLength + e.timeInterval)
      > l.cycleStart + cur.getCycleTime) := by
    show ¬ (_ > l.cycleStart + cur.cycleTime)
    linarith
  unfold lookCurrent Schedule.getTimeInterval Schedule.getScheduledObject
  rw [Schedule.entry_ok.mpr he]
  simp only [bind, Except.bind, pure, Except.pure, hhit, decide_false, and_true]
  rw [if_pos (show l.currentIndex + 1 < cur.getControlListLength from hlt),
    show (l.currentIndex + 1) % cur.getControlListLength = l.currentIndex + 1 from
      Nat.mod_eq_of_lt hlt, Schedule.entry_ok.mpr he']
  rfl

/-- the entry is the last one, or the cycle ends in it -/
theorem lookCurrent_swap {l l' : Look} {e : ControlListEntry GateBitvector}
    (he : cur.controlList[l.currentIndex]? = some e)
    (hc : cur.cycleTime < l.cumSumGateLength + e.timeInterval ∨
      l.currentIndex + 1 = cur.controlList.length)
    (h : lookCurrent cur bitTime next l = .ok l') :
    ∃ e0, next.controlList[0]? = some e0 ∧ l' = {
      bits := l.bits + (if cur.cycleTime < l.cumSumGateLength + e.timeInterval then
          cur.cycleTime - (l.timeSinceLastChange + l.cumSumGateLength)
        else e.timeInterval - l.timeSinceLastChange) / bitTime
      touchedNextSchedule := true
      currentIndex := 0
      cumSumGateLength := 0
      timeSinceLastChange := 0
      bitvector := e0.scheduledObject
      cycleStart := l.cycleStart + min cur.cycleTime (l.cumSumGateLength + e.timeInterval) } := by
  unfold lookCurrent Schedule.getTimeInterval at h
  rw [Schedule.entry_ok.mpr he] at h
  have hnot : ¬ (l.currentIndex + 1 < cur.getControlListLength ∧
      decide (l.cycleStart + (l.cumSumGateLength + e.timeInterval)
        > l.cycleStart + cur.getCycleTime) = false) := by
    rintro ⟨h1, h2⟩
    have h2' := of_decide_eq_false h2
    rcases hc with hc | hc
    · apply h2'
      show l.cycleStart + _ > l.cycleStart + cur.cycleTime
      linarith
    · exact absurd h1 (by show ¬ (_ < cur.controlList.length); omega)
  simp only [bind, Except.bind, pure, Except.pure] at h
  rw [if_neg hnot] at h
  cases h0 : next.controlList[0]? with
  | none =>
    rw [Schedule.getScheduledObject, Schedule.entry_of_le (List.getElem?_eq_none_iff.mp h0)] at h
    cases h
  | some e0 =>
    rw [Schedule.getScheduledObject, Schedule.entry_ok.mpr h0] at h
    refine ⟨e0, rfl, ?_⟩
    have hgt : (l.cycleStart + (l.cumSumGateLength + e.timeInterval)
        > l.cycleStart + cur.getCycleTime) ↔
        cur.cycleTime < l.cumSumGateLength + e.timeInterval := by
      show _ > l.cycleStart + cur.cycleTime ↔ _
      constructor <;> intro _ <;> linarith
    cases h
    by_cases hlt : cur.cycleTime < l.cumSumGateLength + e.timeInterval
    · have e1 : l.timeSinceLastChange + (l.cumSumGateLength + e.timeInterval) - e.timeInterval
          = l.timeSinceLastChange + l.cumSumGateLength := by ring
      simp only [hgt, hlt, decide_true, if_true, min_eq_left hlt.le, e1]
      rfl
    · simp only [hgt, hlt, decide_false, if_false, min_eq_right (not_lt.mp hlt)]
      rfl

/-- past the swap no round touches `cycleStart` -/
theorem lookNext_cycleStart {l l' : Look} (h : lookNext cur bitTime next l = .ok l') :
    l'.cycleStart = l.cycleStart ∧ l'.touchedNextSchedule = l.touchedNextSchedule := by
  unfold lookNext at h
  obtain ⟨i, -, h⟩ := bind_ok.mp h
  by_cases hc : l.cycleStart + (l.cumSumGateLength + i) > l.cycleStart + next.getCycleTime
  · rw [if_pos hc] at h
    obtain ⟨c, -, h⟩ := bind_ok.mp h
    obtain ⟨v, -, h⟩ := bind_ok.mp h
    cases h
    exact ⟨rfl, rfl⟩
  · rw [if_neg hc] at h
    obtain ⟨v, -, h⟩ := bind_ok.mp h
    cases h
    exact ⟨rfl, rfl⟩

end

/-- rounds that keep `cycleStart` -/
theorem lookLoop_keeps {cur : Schedule GateBitvector} {next : Option (Schedule GateBitvector)}
    {g : Nat} {bitTime : SimTime} {I : Look → Prop}
    (hround : ∀ l l1, I l → lookBody cur next bitTime l = .ok l1 →
      I l1 ∧ l1.cycleStart = l.cycleStart) (fuel : Nat) {l l' : Look} {b : Nat} (hl : I l)
    (h : lookLoop cur next g bitTime fuel l = .ok (b, l')) : l'.cycleStart = l.cycleStart := by
  induction fuel generalizing l with
  | zero => cases h
  | succ fuel ih =>
    rcases lookLoop_succ_ok h with ⟨-, rfl, rfl⟩ | ⟨-, -, rfl, rfl⟩ | ⟨-, -, l1, h1, h2⟩
    · rfl
    · rfl
    · obtain ⟨hl1, hc⟩ := hround l l1 hl h1
      rw [ih hl1 h2, hc]

/-- all the rounds past the swap -/
theorem lookLoop_touched {cur next : Schedule GateBitvector} {g : Nat} {bitTime : SimTime}
    (fuel : Nat) {l l' : Look} {b : Nat} (ht : l.touchedNextSchedule = true)
    (h : lookLoop cur (some next) g bitTime fuel l = .ok (b, l')) :
    l'.cycleStart = l.cycleStart := by
  refine lookLoop_keeps (I := fun l => l.touchedNextSchedule = true) ?_ fuel ht h
  intro l l1 ht h1
  have h1' : lookNext cur bitTime next l = .ok l1 := by
    rw [← h1, lookBody, ht]
    rfl
  obtain ⟨hc, ht'⟩ := lookNext_cycleStart h1'
  exact ⟨ht'.trans ht, hc⟩

/-! ## the walk to the swap point -/

section
variable (cur : Schedule GateBitvector) (g : Nat) (bitTime : SimTime)

/-- the walk that stands at the start of entry `j` less `since`, with `bits` collected, enters the
next schedule at the end of entry `k` -/
structure SwapsAt (j : Nat) (bits : ℚ) (since : SimTime) (k : Nat) : Prop where
  from_le : j ≤ k
  lt_length : k < cur.controlList.length
  uncut : ∀ m, j ≤ m → m < k → cur.startOf (m + 1) ≤ cur.cycleTime
  last : cur.cycleTime < cur.startOf (k + 1) ∨ k + 1 = cur.controlList.length
  isOpen : ∀ m, j ≤ m → m ≤ k → cur.openAt g m = true
  short : bits < kEthernet2MaximumTransmissionUnitBitLength
  ahead : ∀ m, j < m → m ≤ k →
    bits + (cur.startOf m - cur.startOf j - since) / bitTime <
      kEthernet2MaximumTransmissionUnitBitLength

end

section
variable {cur next : Schedule GateBitvector} {g : Nat} {bitTime : SimTime}

/-- at an entry that ends the cycle the walk goes no further -/
theorem SwapsAt.eq_of_last {j k : Nat} {b : ℚ} {t : SimTime} (h : SwapsAt cur g bitTime j b t k)
    (hl : cur.cycleTime < cur.startOf (j + 1) ∨ j + 1 = cur.controlList.length) : k = j := by
  by_contra hne
  have hjk : j < k := lt_of_le_of_ne h.from_le (Ne.symm hne)
  rcases hl with hl | hl
  · exact absurd (h.uncut j le_rfl hjk) (not_le.mpr hl)
  · have := h.lt_length
    omega

/-- at another entry it goes on with the next one -/
theorem swapsAt_succ {j k : Nat} {b : ℚ} {t : SimTime} {e : ControlListEntry GateBitvector}
    (he : cur.controlList[j]? = some e) (hc : cur.startOf (j + 1) ≤ cur.cycleTime)
    (hj : j + 1 < cur.controlList.length) (ho : cur.openAt g j = true)
    (hb : b < kEthernet2MaximumTransmissionUnitBitLength) :
    SwapsAt cur g bitTime j b t k ↔
      SwapsAt cur g bitTime (j + 1) (b + (e.timeInterval - t) / bitTime) 0 k := by
  have hs : cur.startOf (j + 1) - cur.startOf j - t = e.timeInterval - t := by
    rw [Schedule.startOf_succ he]
    ring
  have hm : ∀ m, b + (e.timeInterval - t) / bitTime
      + (cur.startOf m - cur.startOf (j + 1) - 0) / bitTime
      = b + (cur.startOf m - cur.startOf j - t) / bitTime := by
    intro m
    rw [← hs, add_assoc, ← add_div]
    congr 2
    ring
  constructor
  · intro h
    have hjk : j < k := by
      rcases h.last with hl | hl
      · rcases h.from_le.lt_or_eq with hlt | rfl
        · exact hlt
        · exact absurd hc (not_le.mpr hl)
      · have := h.from_le
        omega
    refine ⟨hjk, h.lt_length, fun m h1 h2 => h.uncut m (by omega) h2, h.last,
      fun m h1 h2 => h.isOpen m (by omega) h2, ?_, fun m h1 h2 => ?_⟩
    · have := h.ahead (j + 1) (by omega) hjk
      rwa [hs] at this
    · rw [hm]
      exact h.ahead m (by omega) h2
  · intro h
    have hjk : j < k := h.from_le
    refine ⟨hjk.le, h.lt_length, fun m h1 h2 => ?_, h.last, fun m h1 h2 => ?_, hb,
      fun m h1 h2 => ?_⟩
    · rcases h1.lt_or_eq with hlt | rfl
      · exact h.uncut m hlt h2
      · exact hc
    · rcases h1.lt_or_eq with hlt | rfl
      · exact h.isOpen m hlt h2
      · exact ho
    · rcases (Nat.succ_le_of_lt h1).lt_or_eq with hlt | rfl
      · rw [← hm]
        exact h.ahead m hlt h2
      · rw [hs]
        exact h.short

/-- **Where the loop leaves `cycleStart`**: moved by the rest of the cycle if the walk enters the
next schedule, and as it was otherwise. -/
theorem lookLoop_cycleStart (fuel : Nat) {l l' : Look} {b : Nat}
    {e : ControlListEntry GateBitvector} (ht : l.touchedNextSchedule = false)
    (he : cur.controlList[l.currentIndex]? = some e) (hv : l.bitvector = e.scheduledObject)
    (hs : l.cumSumGateLength = cur.startOf l.currentIndex)
    (h : lookLoop cur (some next) g bitTime fuel l = .ok (b, l')) :
    (∀ k, SwapsAt cur g bitTime l.currentIndex l.bits l.timeSinceLastChange k →
        l'.cycleStart = l.cycleStart + min cur.cycleTime (cur.startOf (k + 1))) ∧
      ((∀ k, ¬ SwapsAt cur g bitTime l.currentIndex l.bits l.timeSinceLastChange k) →
        l'.cycleStart = l.cycleStart) := by
  induction fuel generalizing l e with
  | zero => cases h
  | succ fuel ih =>
    have hopen : cur.openAt g l.currentIndex = l.bitvector.test g := by
      rw [Schedule.openAt_of he, hv]
    have hend : l.cumSumGateLength + e.timeInterval = cur.startOf (l.currentIndex + 1) := by
      rw [hs, Schedule.startOf_succ he]
    rcases lookLoop_succ_ok h with ⟨hb, rfl, rfl⟩ | ⟨-, hclosed, rfl, rfl⟩ | ⟨hb, ho, l1, h1, h2⟩
    · exact ⟨fun k hk => absurd hk.short hb, fun _ => rfl⟩
    · refine ⟨fun k hk => ?_, fun _ => rfl⟩
      have := hk.isOpen _ le_rfl hk.from_le
      rw [hopen, hclosed] at this
      cases this
    · have h1' : lookCurrent cur bitTime next l = .ok l1 := by
        rw [← h1, lookBody, ht]
        rfl
      by_cases hl : cur.cycleTime < cur.startOf (l.currentIndex + 1) ∨
          l.currentIndex + 1 = cur.controlList.length
      · -- the walk enters the next schedule here
        obtain ⟨e0, -, rfl⟩ := lookCurrent_swap he (by rwa [hend]) h1'
        have hc := lookLoop_touched fuel rfl h2
        have here : SwapsAt cur g bitTime l.currentIndex l.bits l.timeSinceLastChange
            l.currentIndex := by
          refine ⟨le_rfl, (List.getElem?_eq_some_iff.mp he).1, fun m h3 h4 => absurd h3 (by omega),
            hl, fun m h3 h4 => ?_, hb, fun m h3 h4 => absurd h3 (by omega)⟩
          rw [show m = l.currentIndex by omega, hopen, ho]
        refine ⟨fun k hk => ?_, fun hno => absurd here (hno _)⟩
        rw [hk.eq_of_last hl, hc]
        show l.cycleStart + min cur.cycleTime (l.cumSumGateLength + e.timeInterval) = _
        rw [hend]
      · -- it goes on in the current one
        obtain ⟨hc, hlen⟩ := not_or.mp hl
        have hlt : l.currentIndex + 1 < cur.controlList.length := by
          have := (List.getElem?_eq_some_iff.mp he).1
          omega
        have he' := List.getElem?_eq_getElem hlt
        rw [lookCurrent_stay he he' (by rw [hend]; exact not_lt.mp hc)] at h1'
        cases h1'
        have ih' := ih (by exact ht) (by exact he') (by rfl) (by exact hend) h2
        have hiff : ∀ k, SwapsAt cur g bitTime l.currentIndex l.bits l.timeSinceLastChange k ↔
            SwapsAt cur g bitTime (l.currentIndex + 1)
              (l.bits + (e.timeInterval - l.timeSinceLastChange) / bitTime) 0 k :=
          fun k => swapsAt_succ he (not_lt.mp hc) hlt (hopen.trans ho) hb
        exact ⟨fun k hk => ih'.1 k ((hiff k).mp hk),
          fun hno => ih'.2 fun k hk => hno k ((hiff k).mpr hk)⟩

end

/-! ## queries -/

/-- a query at `now` for gate `g` moves the start of the cycle: the walk from the executed entry
enters the next schedule, by an amount that is not zero -/
def Disturbs (cfg : GateConfig) (now : SimTime) (g : Nat) (gc : GateController) : Prop :=
  0 < cfg.transmitRate ∧ gc.nextSchedule ≠ .null ∧
    ∃ k, SwapsAt gc.currentSchedule g cfg.bitTime gc.executedIndex 0
      (now - gc.lastChange) k ∧
      min gc.currentSchedule.cycleTime (gc.currentSchedule.startOf (k + 1)) ≠ 0

theorem lookStart_ok {gc : GateController} {now : SimTime} {l : Look}
    (h : gc.lookStart now = .ok l) :
    ∃ e, gc.currentSchedule.controlList[gc.executedIndex]? = some e ∧ l = {
      bits := 0
      touchedNextSchedule := false
      currentIndex := gc.executedIndex
      cumSumGateLength := gc.currentSchedule.startOf gc.executedIndex
      timeSinceLastChange := now - gc.lastChange
      bitvector := e.scheduledObject
      cycleStart := gc.cycleStart } := by
  obtain ⟨v, hv, h⟩ := bind_ok.mp h
  obtain ⟨e, he, h'⟩ := bind_ok.mp hv
  cases h
  cases h'
  exact ⟨e, Schedule.entry_ok.mp he, rfl⟩

/-- without a next schedule no round touches `cycleStart` -/
theorem lookLoop_none {cur : Schedule GateBitvector} {g : Nat} {bitTime : SimTime} (fuel : Nat)
    {l l' : Look} {b : Nat} (h : lookLoop cur none g bitTime fuel l = .ok (b, l')) :
    l'.cycleStart = l.cycleStart := by
  refine lookLoop_keeps (I := fun _ => True) ?_ fuel trivial h
  intro l l1 _ h1
  refine ⟨trivial, ?_⟩
  obtain ⟨i, -, h1⟩ := bind_ok.mp h1
  by_cases hc : l.cycleStart + (l.cumSumGateLength + i) > l.cycleStart + cur.getCycleTime
  · rw [if_pos hc] at h1
    obtain ⟨v, -, h1⟩ := bind_ok.mp h1
    cases h1
    rfl
  · rw [if_neg hc] at h1
    obtain ⟨v, -, h1⟩ := bind_ok.mp h1
    cases h1
    rfl

theorem calculateMaxBit_eq_iff {cfg : GateConfig} {fuel g b : Nat} {now : SimTime}
    {gc gc' : GateController} (h : gc.calculateMaxBit cfg fuel now g = .ok (b, gc')) :
    gc' = gc ↔ ¬ gc.Disturbs cfg now g := by
  obtain ⟨hr, -, rfl⟩ | ⟨hr, l, l', hl, hloop, rfl⟩ := calculateMaxBit_ok h
  · exact iff_of_true rfl fun hd => absurd hd.1 (not_lt.mpr hr)
  obtain ⟨e, he, rfl⟩ := lookStart_ok hl
  have heq : { gc with cycleStart := l'.cycleStart } = gc ↔ l'.cycleStart = gc.cycleStart :=
    ⟨fun h => congrArg cycleStart h, fun h => by rw [h]⟩
  rw [heq]
  cases hn : gc.next with
  | none =>
    have hnull : gc.nextSchedule = .null := by
      unfold next at hn
      cases hg : gc.nextSchedule with
      | null => rfl
      | loaded s =>
        rw [hg] at hn
        cases hn
      | newSchedule =>
        rw [hg] at hn
        cases hn
    rw [hn] at hloop
    exact iff_of_true (lookLoop_none fuel hloop) fun hd => hd.2.1 hnull
  | some ns =>
    have hnull : gc.nextSchedule ≠ .null := by
      intro hg
      rw [next, hg] at hn
      cases hn
    rw [hn] at hloop
    obtain ⟨hswap, hstay⟩ := lookLoop_cycleStart fuel rfl he rfl rfl hloop
    constructor
    · rintro hc ⟨-, -, k, hk, hne⟩
      have := hswap k hk
      rw [hc] at this
      exact hne (by linarith [show l'.cycleStart = gc.cycleStart from hc,
        show gc.cycleStart = gc.cycleStart + _ from this])
    · intro hd
      by_cases hex : ∃ k, SwapsAt gc.currentSchedule g cfg.bitTime gc.executedIndex 0
          (now - gc.lastChange) k
      · obtain ⟨k, hk⟩ := hex
        have h0 : min gc.currentSchedule.cycleTime (gc.currentSchedule.startOf (k + 1)) = 0 := by
          by_contra hne
          exact hd ⟨hr, hnull, k, hk, hne⟩
        have := hswap k hk
        rw [h0] at this
        exact this.trans (add_zero _)
      · exact hstay fun k hk => hex ⟨k, hk⟩

end GateController

namespace GateEvent

/-- is the event a look-ahead query? -/
def isQuery : GateEvent → Bool
  | .calculateMaxBit _ _ _ => true
  | _ => false

end GateEvent

namespace GateSystem

/-- the event is no query, or one that does not disturb the controller -/
def Undisturbed (cfg : GateConfig) (s : GateSystem) : GateEvent → Prop
  | .calculateMaxBit _ now g => ¬ s.gc.Disturbs cfg now g
  | _ => True

theorem step_query {cfg : GateConfig} {s s' : GateSystem} {e : GateEvent}
    (hq : e.isQuery = true) (hu : s.Undisturbed cfg e) (h : s.step cfg e = .ok s') : s' = s := by
  cases e with
  | calculateMaxBit fuel now g =>
    obtain ⟨⟨b, gc'⟩, h1, h2⟩ := bind_ok.mp h
    cases h2
    show { s with gc := gc' } = s
    rw [(GateController.calculateMaxBit_eq_iff h1).mpr hu]
  | tick m => cases hq
  | setTimeInterval i t => cases hq
  | setisIncreased b => cases hq
  | setisSelected b => cases hq

/-- **Queries and the gate schedule.**  A query leaves the controller as it is exactly when it does
not disturb it; two runs from one state whose other events are the same, and whose queries do not
disturb the controller, end in the same state and have applied the same vectors at the same times. -/
theorem calculateMaxBit_frame (cfg : GateConfig) :
    (∀ (gc gc' : GateController) (fuel g b : Nat) (now : SimTime),
        gc.calculateMaxBit cfg fuel now g = .ok (b, gc') →
        (gc' = gc ↔ ¬ gc.Disturbs cfg now g)) ∧
      ∀ (s t u : GateSystem) (es fs : List GateEvent),
        Lib.run (step cfg) s es = .ok t → Lib.run (step cfg) s fs = .ok u →
        (es.filter fun e => !e.isQuery) = (fs.filter fun e => !e.isQuery) →
        Lib.Meets (step cfg) (Undisturbed cfg) s es → Lib.Meets (step cfg) (Undisturbed cfg) s fs →
        t = u ∧ t.trace = u.trace := by
  refine ⟨fun gc gc' fuel g b now h => GateController.calculateMaxBit_eq_iff h, ?_⟩
  intro s t u es fs ht hu hef hes hfs
  have silent : ∀ s e s', e.isQuery = true → Undisturbed cfg s e → step cfg s e = .ok s' → s' = s :=
    fun s e s' hq hud h => step_query hq hud h
  have h1 := Lib.run_erase GateEvent.isQuery silent hes ht
  have h2 := Lib.run_erase GateEvent.isQuery silent hfs hu
  rw [hef, h2] at h1
  cases h1
  exact ⟨rfl, rfl⟩

/-- two entries of 60 us in a cycle of 100 us; gate 0 is open in both, gate 1 in the second -/
def overlong : GateScheduleXml := ⟨some (1 / 10000), none, [⟨6 / 100000, 1⟩, ⟨6 / 100000, 3⟩]⟩

/-- the system after its first tick -/
def overlongRunning : GateSystem where
  gc := {
    currentSchedule := overlong.schedule, nextSchedule := .newSchedule,
    newSchedule := overlong.schedule, scheduleIndex := 1, cycleStart := 0,
    cycleStart_for_autoIntervalDecrease := 0, lastChange := 0, isIncreased := false,
    isSelected := false }
  pendingTick := some (6 / 100000)
  trace := [(0, 1)]

theorem overlongRunning_reached :
    (start .plain overlong).bind (fun s => Lib.run (step .plain) s [.tick none])
      = .ok overlongRunning := by
  decide +kernel

/-- **A query moves the next entry.**  At 10 us a query for gate 0 moves the start of the cycle to
100 us; the entry applied at 60 us is then not cut at 100 us but runs to 120 us. -/
theorem calculateMaxBit_disturbs :
    (start .plain overlong).bind (fun s => Lib.run (step .plain) s [.tick none])
        = .ok overlongRunning ∧
      (overlongRunning.gc.calculateMaxBit .plain 40 (1 / 100000) 0).map (fun r => r.2.cycleStart)
        = .ok (1 / 10000) ∧
      overlongRunning.gc.cycleStart = 0 ∧
      (Lib.run (step .plain) overlongRunning [.tick none, .tick none]).map (·.trace)
        = .ok [(0, 1), (6 / 100000, 3), (10 / 100000, 1)] ∧
      (Lib.run (step .plain) overlongRunning
          [.calculateMaxBit 40 (1 / 100000) 0, .tick none, .tick none]).map (·.trace)
        = .ok [(0, 1), (6 / 100000, 3), (12 / 100000, 1)] := by
  refine ⟨overlongRunning_reached, ?_, rfl, ?_, ?_⟩
  · decide +kernel
  · decide +kernel
  · decide +kernel

/-- gate 1 is closed at 10 us: a query for it changes nothing -/
theorem calculateMaxBit_frame_closed :
    overlongRunning.gc.calculateMaxBit .plain 40 (1 / 100000) 1 = .ok (0, overlongRunning.gc) ∧
      ∃ t u, Lib.run (step .plain) overlongRunning [.calculateMaxBit 40 (1 / 100000) 1, .tick none]
          = .ok t ∧
        Lib.run (step .plain) overlongRunning [.tick none] = .ok u ∧ t.trace = u.trace := by
  have hq : overlongRunning.gc.calculateMaxBit .plain 40 (1 / 100000) 1
      = .ok (0, overlongRunning.gc) := by decide +kernel
  have hd : ¬ overlongRunning.gc.Disturbs .plain (1 / 100000) 1 :=
    ((calculateMaxBit_frame .plain).1 _ _ _ _ _ _ hq).mp rfl
  refine ⟨hq, ?_⟩
  obtain ⟨u, hu⟩ : ∃ u, Lib.run (step .plain) overlongRunning [.tick none] = .ok u := by
    apply exists_of_isOk
    decide +kernel
  have hs : overlongRunning.step .plain (.calculateMaxBit 40 (1 / 100000) 1) =
      .ok overlongRunning := by
    rw [step, hq]
    rfl
  have ht : Lib.run (step .plain) overlongRunning [.calculateMaxBit 40 (1 / 100000) 1, .tick none]
      = .ok u := Lib.run_cons_ok.mpr ⟨_, hs, hu⟩
  have hm : Lib.Meets (step .plain) (Undisturbed .plain) overlongRunning
      [.calculateMaxBit 40 (1 / 100000) 1, .tick none] :=
    ⟨hd, fun _ _ => ⟨trivial, fun _ _ => trivial⟩⟩
  have hm' : Lib.Meets (step .plain) (Undisturbed .plain) overlongRunning [.tick none] :=
    ⟨trivial, fun _ _ => trivial⟩
  exact ⟨u, u, ht, hu, ((calculateMaxBit_frame .plain).2 _ _ _ _ _ ht hu rfl hm hm').2⟩

end GateSystem
end Nesting
