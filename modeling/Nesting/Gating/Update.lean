import Nesting.Gating.GateController

/-!
# What updateSchedule does

`updateSchedule` is inverted once: a successful call loads `newSchedule` if the index is 0
(`Loaded`), resets the index at the end of a cycle, remembers the start of a cycle and applies the
entry at the index (`updateSchedule_ok`).  `updateSchedule_total` says when it succeeds.
-/

set_option linter.unusedVariables false

namespace Nesting
namespace GateController

/-- how long the entry of length `len` stays applied when it is applied at `now` -/
def tickLength (gc : GateController) (now len : SimTime) : SimTime :=
  if now + len > gc.cycleStart + gc.currentSchedule.getCycleTime then
    gc.cycleStart + gc.currentSchedule.getCycleTime - now
  else len

/-- the controller after `newSchedule` has been loaded -/
def loadNew (gc : GateController) : GateController :=
  { gc with
    currentSchedule := { gc.newSchedule with sumTimeIntervals := gc.newSchedule.total }
    nextSchedule := .newSchedule
    isIncreased := false
    isSelected := false }

/-- the controller after `newSchedule` has been loaded at the start of a cycle -/
def loadedAt (gc : GateController) (now : SimTime) : GateController :=
  { gc.loadNew with cycleStart := now, cycleStart_for_autoIntervalDecrease := now }

/-- the controller that starts a cycle without loading -/
def restartedAt (gc : GateController) (now : SimTime) : GateController :=
  { gc with scheduleIndex := 0, cycleStart := now, cycleStart_for_autoIntervalDecrease := now }

/-- the controller after the entry at its index has been applied -/
def advance (gc : GateController) (now : SimTime) : GateController :=
  { gc with
    lastChange := now
    scheduleIndex := (gc.scheduleIndex + 1) % gc.currentSchedule.controlList.length }

/-- the controller whose entry `updateSchedule` applies at `now` -/
def prepared (gc : GateController) (now : SimTime) : GateController :=
  ((if gc.Loads then gc.loadNew else gc).endOfCycle now).startOfCycle now

theorem swapSchedule_eq (gc : GateController) (h : gc.Loads → gc.newSchedule.NonNeg) :
    gc.swapSchedule = .ok (if gc.Loads then gc.loadNew else gc) := by
  unfold swapSchedule
  by_cases hl : gc.Loads
  · rw [if_pos hl, if_pos hl, Schedule.copySchedule_eq (h hl)]
    rfl
  · rw [if_neg hl, if_neg hl]
    rfl

theorem swapSchedule_error (gc : GateController) (hl : gc.Loads) (h : ¬ gc.newSchedule.NonNeg) :
    gc.swapSchedule =
      .error (.runtimeError "Control list entries only allow positive time intervals.") := by
  unfold swapSchedule
  rw [if_pos hl, Schedule.copySchedule_error h]
  rfl

theorem swapSchedule_ok {gc gc1 : GateController} (h : gc.swapSchedule = .ok gc1) :
    (gc.Loads → gc.newSchedule.NonNeg) ∧ gc1 = if gc.Loads then gc.loadNew else gc := by
  by_cases hn : gc.Loads → gc.newSchedule.NonNeg
  · rw [swapSchedule_eq gc hn] at h
    cases h
    exact ⟨hn, rfl⟩
  · obtain ⟨hl, hneg⟩ := Classical.not_imp.mp hn
    rw [swapSchedule_error gc hl hneg] at h
    cases h

/-! ## the applied entry -/

theorem scheduleNextTickEvent_eq {gc : GateController} {now : SimTime}
    {e : ControlListEntry GateBitvector} (he : gc.currentSchedule.controlList[gc.scheduleIndex]? = some e) :
    gc.scheduleNextTickEvent now = .ok (gc.tickLength now e.timeInterval) := by
  unfold scheduleNextTickEvent Schedule.getTimeInterval tickLength
  rw [Schedule.entry_ok.mpr he]
  show (if now + e.timeInterval > _ then _ else _) = _
  split <;> rfl

theorem applyEntry_ok {cfg : GateConfig} {mac : Option PreemptMac} {now : SimTime}
    {gc gc' : GateController} {ap : Applied} (h : applyEntry cfg mac now gc = .ok (gc', ap)) :
    ∃ e, gc.currentSchedule.controlList[gc.scheduleIndex]? = some e ∧ gc' = gc.advance now ∧
      ap.bitvector = e.scheduledObject ∧
      ap.idleTicks = some (gc.tickLength now e.timeInterval / cfg.clockRate) := by
  unfold applyEntry at h
  cases he : gc.currentSchedule.controlList[gc.scheduleIndex]? with
  | none =>
    have h1 : gc.currentSchedule.entry gc.scheduleIndex = .error _ :=
      Schedule.entry_of_le (List.getElem?_eq_none_iff.mp he)
    simp only [Schedule.getScheduledObject, h1, bind, Except.bind] at h
    cases h
  | some e =>
    refine ⟨e, rfl, ?_⟩
    simp only [Schedule.getScheduledObject, Schedule.entry_ok.mpr he, scheduleNextTickEvent_eq he,
      bind, Except.bind, pure, Except.pure] at h
    cases hh : cfg.enableHoldAndRelease with
    | false =>
      rw [hh] at h
      cases h
      exact ⟨rfl, rfl, rfl⟩
    | true =>
      rw [hh] at h
      cases hv : gc.nextVector with
      | error x =>
        rw [hv] at h
        cases h
      | ok v =>
        rw [hv, Schedule.getTimeInterval, Schedule.entry_ok.mpr he] at h
        cases mac with
        | none =>
          cases h
          exact ⟨rfl, rfl, rfl⟩
        | some m =>
          cases h
          exact ⟨rfl, rfl, rfl⟩

/-- a successful call has no negative interval to load, and either finds an empty schedule or goes on
with the prepared controller -/
theorem updateSchedule_cases {cfg : GateConfig} {mac : Option PreemptMac} {now : SimTime}
    {gc gc' : GateController} {ap : Applied} (h : updateSchedule cfg mac now gc = .ok (gc', ap)) :
    (gc.Loads → gc.newSchedule.NonNeg) ∧
      ((gc.Loads ∧ gc.newSchedule.controlList = [] ∧ gc' = gc.loadNew) ∨
        applyEntry cfg mac now (gc.prepared now) = .ok (gc', ap)) := by
  unfold updateSchedule at h
  cases hs : gc.swapSchedule with
  | error x =>
    rw [hs] at h
    cases h
  | ok gc1 =>
    obtain ⟨hn, rfl⟩ := swapSchedule_ok hs
    refine ⟨hn, ?_⟩
    rw [hs] at h
    simp only [bind, Except.bind] at h
    by_cases hc : gc.Loads ∧ (if gc.Loads then gc.loadNew else gc).currentSchedule.isEmpty = true
    · rw [if_pos hc] at h
      obtain ⟨hl, he⟩ := hc
      rw [if_pos hl] at h he
      cases h
      exact Or.inl ⟨hl, List.isEmpty_iff.mp he, rfl⟩
    · rw [if_neg hc] at h
      exact Or.inr h

/-- **Inversion of updateSchedule.**  A successful call has no negative interval to load, and
either finds an empty schedule or applies the entry of the prepared controller. -/
theorem updateSchedule_ok {cfg : GateConfig} {mac : Option PreemptMac} {now : SimTime}
    {gc gc' : GateController} {ap : Applied} (h : updateSchedule cfg mac now gc = .ok (gc', ap)) :
    (gc.Loads → gc.newSchedule.NonNeg) ∧
      ((gc.Loads ∧ gc.newSchedule.controlList = [] ∧ gc' = gc.loadNew) ∨
        ∃ e, (gc.prepared now).currentSchedule.controlList[(gc.prepared now).scheduleIndex]? = some e ∧
          gc' = (gc.prepared now).advance now ∧ ap.bitvector = e.scheduledObject ∧
          ap.idleTicks = some ((gc.prepared now).tickLength now e.timeInterval / cfg.clockRate)) := by
  obtain ⟨hn, hempty | happly⟩ := updateSchedule_cases h
  · exact ⟨hn, Or.inl hempty⟩
  · exact ⟨hn, Or.inr (applyEntry_ok happly)⟩

/-- a list with entries is applied if it is loaded -/
theorem updateSchedule_applies {cfg : GateConfig} {mac : Option PreemptMac} {now : SimTime}
    {gc gc' : GateController} {ap : Applied} (hpos : gc.Loads → 0 < gc.newSchedule.controlList.length)
    (h : updateSchedule cfg mac now gc = .ok (gc', ap)) :
    applyEntry cfg mac now (gc.prepared now) = .ok (gc', ap) := by
  obtain ⟨-, ⟨hl, hempty, -⟩ | happly⟩ := updateSchedule_cases h
  · have hlt := hpos hl
    rw [hempty] at hlt
    exact absurd hlt (Nat.lt_irrefl 0)
  · exact happly

/-- the schedule whose entry 0 the hold may look at -/
def HoldReadable (gc : GateController) : Prop :=
  ∀ next, gc.next = some next → 0 < next.controlList.length

theorem nextVector_total {gc : GateController} (hi : gc.scheduleIndex < gc.currentSchedule.controlList.length)
    (hn : gc.HoldReadable) : ∃ v, gc.nextVector = .ok v := by
  have h0 : (gc.scheduleIndex + 1) % gc.currentSchedule.controlList.length
      < gc.currentSchedule.controlList.length := Nat.mod_lt _ (by omega)
  have hcur : ∃ v, gc.currentSchedule.getScheduledObject
      ((gc.scheduleIndex + 1) % gc.currentSchedule.getControlListLength) = .ok v :=
    ⟨_, Schedule.getScheduledObject_of_lt h0⟩
  unfold nextVector
  cases h : gc.next with
  | none => exact hcur
  | some next =>
    by_cases hl : gc.scheduleIndex = gc.currentSchedule.getControlListLength - 1
    · simp only [if_pos hl]
      exact ⟨_, Schedule.getScheduledObject_of_lt (hn next h)⟩
    · simp only [if_neg hl]
      exact hcur

theorem applyEntry_total (cfg : GateConfig) (mac : Option PreemptMac) (now : SimTime)
    {gc : GateController} (hi : gc.scheduleIndex < gc.currentSchedule.controlList.length)
    (hn : gc.HoldReadable) :
    ∃ ap, applyEntry cfg mac now gc = .ok (gc.advance now, ap) := by
  have he := List.getElem?_eq_getElem hi
  obtain ⟨v, hv⟩ := nextVector_total hi hn
  unfold applyEntry
  simp only [Schedule.getScheduledObject, Schedule.getTimeInterval, Schedule.entry_ok.mpr he,
    scheduleNextTickEvent_eq he, hv, bind, Except.bind, pure, Except.pure]
  cases cfg.enableHoldAndRelease with
  | false => exact ⟨_, rfl⟩
  | true => cases mac <;> exact ⟨_, rfl⟩

/-! ## queries -/

section query
variable {cfg : GateConfig} {fuel g b : Nat} {now : SimTime} {gc gc' : GateController} {l l' : Look}

/-- **Inversion of calculateMaxBit.**  At a positive rate it is the loop. -/
theorem calculateMaxBit_ok (h : gc.calculateMaxBit cfg fuel now g = .ok (b, gc')) :
    (cfg.transmitRate ≤ 0 ∧ b = 0 ∧ gc' = gc) ∨
      0 < cfg.transmitRate ∧ ∃ l l', gc.lookStart now = .ok l ∧
        lookLoop gc.currentSchedule gc.next g cfg.bitTime fuel l = .ok (b, l') ∧
        gc' = { gc with cycleStart := l'.cycleStart } := by
  unfold calculateMaxBit at h
  by_cases hr : cfg.transmitRate ≤ 0
  · rw [if_pos hr] at h
    cases h
    exact Or.inl ⟨hr, rfl, rfl⟩
  · rw [if_neg hr] at h
    obtain ⟨l, hl, h⟩ := bind_ok.mp h
    obtain ⟨⟨b', l'⟩, hloop, h⟩ := bind_ok.mp h
    cases h
    exact Or.inr ⟨not_le.mp hr, l, l', hl, hloop, rfl⟩

theorem calculateMaxBit_of_loop (hr : 0 < cfg.transmitRate) (hl : gc.lookStart now = .ok l)
    (hloop : lookLoop gc.currentSchedule gc.next g cfg.bitTime fuel l = .ok (b, l')) :
    gc.calculateMaxBit cfg fuel now g = .ok (b, { gc with cycleStart := l'.cycleStart }) := by
  unfold calculateMaxBit
  rw [if_neg (not_le.mpr hr)]
  exact bind_ok.mpr ⟨l, hl, bind_ok.mpr ⟨(b, l'), hloop, rfl⟩⟩

/-- a query writes at most `cycleStart` -/
theorem calculateMaxBit_writes (h : gc.calculateMaxBit cfg fuel now g = .ok (b, gc')) :
    ∃ c, gc' = { gc with cycleStart := c } := by
  obtain ⟨-, -, rfl⟩ | ⟨-, l, l', -, -, rfl⟩ := calculateMaxBit_ok h
  · exact ⟨gc'.cycleStart, rfl⟩
  · exact ⟨l'.cycleStart, rfl⟩

end query

/-! ## the prepared controller -/

/-- beyond what is loaded, only the index and the starts of the cycle are written -/
theorem prepared_fields (gc : GateController) (now : SimTime) : ∃ index start start',
    gc.prepared now = { (if gc.Loads then gc.loadNew else gc) with
      scheduleIndex := index
      cycleStart := start
      cycleStart_for_autoIntervalDecrease := start' } := by
  unfold prepared
  generalize (if gc.Loads then gc.loadNew else gc) = loaded
  unfold endOfCycle startOfCycle
  split
  · exact ⟨_, _, _, rfl⟩
  · split
    · exact ⟨_, _, _, rfl⟩
    · exact ⟨_, _, _, rfl⟩

theorem prepared_currentSchedule (gc : GateController) (now : SimTime) :
    (gc.prepared now).currentSchedule
      = (if gc.Loads then gc.loadNew else gc).currentSchedule := by
  obtain ⟨_, _, _, h⟩ := gc.prepared_fields now
  rw [h]

theorem prepared_newSchedule (gc : GateController) (now : SimTime) :
    (gc.prepared now).newSchedule = gc.newSchedule := by
  obtain ⟨_, _, _, h⟩ := gc.prepared_fields now
  rw [h]
  split <;> rfl

theorem prepared_nextSchedule (gc : GateController) (now : SimTime) :
    (gc.prepared now).nextSchedule = (if gc.Loads then gc.loadNew else gc).nextSchedule := by
  obtain ⟨_, _, _, h⟩ := gc.prepared_fields now
  rw [h]

theorem prepared_flags (gc : GateController) (now : SimTime) :
    (gc.prepared now).isIncreased = (if gc.Loads then gc.loadNew else gc).isIncreased ∧
      (gc.prepared now).isSelected = (if gc.Loads then gc.loadNew else gc).isSelected := by
  obtain ⟨_, _, _, h⟩ := gc.prepared_fields now
  rw [h]
  exact ⟨rfl, rfl⟩

/-- the prepared list has an entry at the index, so it had entries when it was loaded -/
theorem length_pos_of_loads {gc : GateController} {now : SimTime}
    (hi : (gc.prepared now).scheduleIndex < (gc.prepared now).currentSchedule.controlList.length)
    (hl : gc.Loads) : 0 < gc.newSchedule.controlList.length := by
  rw [prepared_currentSchedule, if_pos hl] at hi
  exact Nat.zero_lt_of_lt hi

theorem updateSchedule_total (cfg : GateConfig) (mac : Option PreemptMac) (now : SimTime)
    {gc : GateController} (hn : gc.Loads → gc.newSchedule.NonNeg)
    (hi : (gc.prepared now).scheduleIndex < (gc.prepared now).currentSchedule.controlList.length)
    (hr : (gc.prepared now).HoldReadable) :
    ∃ ap, updateSchedule cfg mac now gc = .ok ((gc.prepared now).advance now, ap) := by
  have hne : ¬ (gc.Loads ∧ (if gc.Loads then gc.loadNew else gc).currentSchedule.isEmpty = true) := by
    rintro ⟨hl, he⟩
    rw [if_pos hl] at he
    exact absurd (List.isEmpty_iff.mp he) (List.length_pos_iff.mp (length_pos_of_loads hi hl))
  unfold updateSchedule
  rw [swapSchedule_eq gc hn]
  simp only [bind, Except.bind]
  rw [if_neg hne]
  exact applyEntry_total cfg mac now hi hr

/-- the entry that has been applied is the executed one -/
theorem executedIndex_of_index {gc : GateController} {j : Nat}
    (hlt : j < gc.currentSchedule.controlList.length)
    (h : gc.scheduleIndex = (j + 1) % gc.currentSchedule.controlList.length) :
    gc.executedIndex = j := by
  rw [executedIndex, h]
  show ((j + 1) % _ + gc.currentSchedule.controlList.length - 1) % _ = j
  rcases (Nat.succ_le_of_lt hlt).lt_or_eq with h1 | h1
  · rw [Nat.mod_eq_of_lt h1, show j + 1 + gc.currentSchedule.controlList.length - 1
      = j + gc.currentSchedule.controlList.length by omega]
    exact (Nat.add_mod_right _ _).trans (Nat.mod_eq_of_lt hlt)
  · rw [show j + 1 = _ from h1, Nat.mod_self]
    show (0 + gc.currentSchedule.controlList.length - 1) % gc.currentSchedule.controlList.length = j
    rw [show 0 + gc.currentSchedule.controlList.length - 1 = j by omega, Nat.mod_eq_of_lt hlt]

/-- at index 0 the prepared controller has loaded `newSchedule` and starts a cycle -/
theorem prepared_of_loads {gc : GateController} (now : SimTime) (h : gc.Loads) :
    gc.prepared now = gc.loadedAt now := by
  have h0 : gc.loadNew.scheduleIndex = 0 := h.1
  unfold prepared
  rw [if_pos h]
  unfold endOfCycle
  split
  · unfold startOfCycle
    rw [if_pos rfl, ← h0]
    rfl
  · unfold startOfCycle
    rw [if_pos h0]
    rfl

/-- at another index the prepared controller starts a cycle exactly at the end of the old one -/
theorem prepared_of_index_ne {gc : GateController} (now : SimTime) (h : gc.scheduleIndex ≠ 0) :
    gc.prepared now =
      if gc.cycleStart + gc.currentSchedule.getCycleTime = now ∧ gc.currentSchedule.getCycleTime ≠ 0 then
        gc.restartedAt now
      else gc := by
  have hl : ¬ gc.Loads := fun hl => h hl.1
  unfold prepared
  rw [if_neg hl]
  unfold endOfCycle
  split
  · unfold startOfCycle
    rw [if_pos rfl]
    rfl
  · unfold startOfCycle
    rw [if_neg h]

end GateController
end Nesting
