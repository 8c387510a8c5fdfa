import Nesting.Manager.GateSchedule
import Nesting.Manager.Progress

/-!
# When a gate closes next

`GateScheduleManager::nextGateCloseEvent` reads off the list execution how long the running state lasts,
and then goes round the list of the running schedule up to an entry that closes the gate.

* `nextGateCloseEvent`, `notified`   the function, and the state in which listeners can call it;
* `Exact`        no error, and the time up to the first state that is set with the gate closed;
* `Answerable`   the states in which it is exact;
* `exact_iff`    **in a run that executes its schedule it is exact in those states only.**
-/

set_option linter.unusedVariables false

namespace Nesting
open Lib

namespace GateScheduleManager
open ScheduleManager (start Executing Upcoming settings)

/-! ## the function -/

/-- the loop over the entries from `listPointerStart` on, of which `left` are left -/
def openIntervals (schedule : Schedule GateBitvector) (gateIndex listPointerStart : Nat) :
    (listPointerOffset left : Nat) → SimTime → Sim (Option SimTime)
  -- the gate is open in all entries
  | _, 0, _ => .ok none
  | listPointerOffset, left + 1, timeUntilGateCloseEvent => do
    let listPointer := (listPointerStart + listPointerOffset) % schedule.getControlListLength
    let gateBitvector ← schedule.getScheduledObject listPointer
    let timeInterval ← schedule.getTimeInterval listPointer
    if gateBitvector.test gateIndex then
      openIntervals schedule gateIndex listPointerStart (listPointerOffset + 1) left
        (timeUntilGateCloseEvent + timeInterval)
    else return some timeUntilGateCloseEvent

/-- `none` is `SimTime::getMaxTime()` -/
def nextGateCloseEventInSchedule (gateIndex listPointerStart : Nat)
    (schedule : Schedule GateBitvector) : Sim (Option SimTime) := do
  ASSERT schedule.isNormalized "schedule.isNormalized()"
  ASSERT (gateIndex < 8) "gateIndex >= 0 && gateIndex < 8"
  if schedule.getControlListLength = 0 then return none
  else openIntervals schedule gateIndex listPointerStart 0 schedule.getControlListLength 0

/-- `nextListExecuteTimestamp->getLocalTime()` in the state DELAY: once it is delivered, it was due at
this instant -/
def nextListExecuteTimestamp (m : GateScheduleManager) : SimTime :=
  (m.agenda.timestamps .LIST_EXECUTE).getD m.now

/-- how long the running state lasts, and the list pointer to look from -/
def lookahead (m : GateScheduleManager) : Sim (SimTime × Nat) :=
  let currentTime := m.now
  let operControlListLength := m.operSchedule.getControlListLength
  let untilCycleStart : Sim (SimTime × Nat) := do
    ASSERT (currentTime ≤ m.cycleStartTime) "cycleStartTime >= currentTime"
    return (m.cycleStartTime - currentTime, 0)
  match m.listExecuteState with
  | .INIT => untilCycleStart
  | .END_OF_CYCLE => untilCycleStart
  | .NEW_CYCLE => .ok (0, 0)
  | .EXECUTE_CYCLE => do
    ASSERT (m.listPointer < operControlListLength) "listPointer < operControlListLength"
    return (0, m.listPointer)
  | .DELAY => do
    let timeOfNextExecuteCycleEvent := m.nextListExecuteTimestamp
    ASSERT (currentTime ≤ timeOfNextExecuteCycleEvent)
      "timeOfNextExecuteCycleEvent >= currentTime"
    if operControlListLength = 0 then
      .error (.undefinedBehaviour "listPointer % operControlListLength")
    else return (timeOfNextExecuteCycleEvent - currentTime, m.listPointer % operControlListLength)
  | .UNDEFINED => .error (.runtimeError "ListExecute state machine is in invalid state!")

def nextGateCloseEvent (m : GateScheduleManager) (gateIndex : Nat) : Sim (Option SimTime) := do
  ASSERT (gateIndex < 8) "gateIndex >= 0 && gateIndex < 8"
  ASSERT m.operSchedule.isNormalized "operSchedule->isNormalized()"
  if m.enabled = false then
    return if m.operState.test gateIndex then none else some 0
  else if m.operState.test gateIndex = false then return some 0
  else do
    let (timeUntilGateCloseEvent, lookaheadListPointer) ← m.lookahead
    if m.configPending = false then do
      let gateOpeningTime ← nextGateCloseEventInSchedule gateIndex lookaheadListPointer m.operSchedule
      return gateOpeningTime.map fun t => timeUntilGateCloseEvent + t
    else .error (.runtimeError
      "Length-aware scheduling not implemented yet in combination with schedule swaps!")

/-- the manager when it calls its listeners, if the next message makes it do so -/
def notified (clock : ClockRate) (m : GateScheduleManager) : Sim (Option GateScheduleManager) :=
  if m.agenda.messages.head? = some .LIST_EXECUTE ∧ m.enabled = true then
    let m := ScheduleManager.unsubscribeTimestamp { m with agenda := m.agenda.pop } .LIST_EXECUTE
    let m := { m with listExecuteState := m.nextListExecuteState }
    match m.listExecuteState with
    | .EXECUTE_CYCLE => do
      let m ← ScheduleManager.executeOperation clock m
      return some { m with exitTimer := m.timeInterval }
    | .INIT => .ok (some { m with operState := m.adminState })
    | _ => .ok none
  else .ok none

/-! ## round the list -/

/-- every entry has the gate open -/
def AlwaysOpen (g : Nat) (s : Schedule GateBitvector) : Prop :=
  ∀ e ∈ s.controlList, e.scheduledObject.test g = true

instance (g : Nat) (s : Schedule GateBitvector) : Decidable (AlwaysOpen g s) :=
  inferInstanceAs (Decidable (∀ e ∈ s.controlList, e.scheduledObject.test g = true))

def Closed (g : Nat) (b : GateBitvector) : Prop := b.test g = false

section scan
variable {clock : ClockRate} {S : Schedule GateBitvector} {g q i : Nat}

/-- operation `q` finds the gate open -/
def OpenAt (S : Schedule GateBitvector) (g q : Nat) : Prop :=
  ∀ e ∈ S.operationEntry q, e.scheduledObject.test g = true

/-- operation `q + d` is the first from operation `q` on that closes the gate -/
structure ClosesAfter (S : Schedule GateBitvector) (g q d : Nat) : Prop where
  closed : ∃ e ∈ S.operationEntry (q + d), Closed g e.scheduledObject
  opened : ∀ i, i < d → OpenAt S g (q + i)

/-- `n` operations in a row come to every entry -/
theorem exists_operation (hS : S.Executable clock) (q : Nat) {j : Nat}
    (hj : j < S.controlList.length) : ∃ i, i < S.controlList.length ∧
      (q + i) % S.controlList.length = j := by
  have hn := hS.length_pos
  have hlt := Nat.mod_lt q hn
  refine ⟨(j + (S.controlList.length - q % S.controlList.length)) % S.controlList.length,
    Nat.mod_lt _ hn, ?_⟩
  have hq := Nat.div_add_mod q S.controlList.length
  have hsum : q + (j + (S.controlList.length - q % S.controlList.length)) =
      S.controlList.length * (q / S.controlList.length + 1) + j := by
    rw [Nat.mul_add, Nat.mul_one]
    omega
  rw [Nat.add_mod_mod, hsum, Nat.mul_add_mod, Nat.mod_eq_of_lt hj]

theorem alwaysOpen_iff (hS : S.Executable clock) (q : Nat) :
    AlwaysOpen g S ↔ ∀ i, i < S.controlList.length → OpenAt S g (q + i) := by
  constructor
  · intro h i _ e he
    exact h e (List.mem_of_getElem? he)
  · intro h e he
    obtain ⟨j, hj, rfl⟩ := List.mem_iff_getElem.mp he
    obtain ⟨i, hi, hmod⟩ := exists_operation hS q hj
    refine h i hi _ ?_
    show S.controlList[(q + i) % S.controlList.length]? = _
    rw [hmod]
    exact List.getElem?_eq_getElem hj

/-- the loop counts the intervals of the operations up to the first that closes the gate -/
theorem openIntervals_spec (hS : S.Executable clock) {listPointerStart : Nat}
    (hq : q % S.controlList.length = listPointerStart % S.controlList.length) (left : Nat) :
    ∀ offset, offset + left = S.controlList.length → (∀ i, i < offset → OpenAt S g (q + i)) →
    ∃ r, openIntervals S g listPointerStart offset left
        (S.operationTime (q + offset) - S.operationTime q) = .ok r ∧
      (r = none ∧ AlwaysOpen g S ∨
        ∃ d, r = some (S.operationTime (q + d) - S.operationTime q) ∧ ClosesAfter S g q d) := by
  induction left with
  | zero =>
    intro offset hlen hopen
    refine ⟨none, rfl, .inl ⟨rfl, (alwaysOpen_iff hS q).mpr fun i hi => hopen i ?_⟩⟩
    omega
  | succ left ih =>
    intro offset hlen hopen
    obtain ⟨e, he, _, hnext⟩ := hS.operationEntry_exists (q + offset)
    have hpointer : (listPointerStart + offset) % S.getControlListLength =
        (q + offset) % S.controlList.length := by
      show (listPointerStart + offset) % S.controlList.length = _
      rw [Nat.add_mod, ← hq, ← Nat.add_mod]
    have hlt : (q + offset) % S.controlList.length < S.controlList.length :=
      Nat.mod_lt _ hS.length_pos
    have hentry : S.controlList[(q + offset) % S.controlList.length] = e :=
      Option.some.inj ((List.getElem?_eq_getElem hlt).symm.trans he)
    have hstep : openIntervals S g listPointerStart offset (left + 1)
        (S.operationTime (q + offset) - S.operationTime q) =
        if e.scheduledObject.test g then openIntervals S g listPointerStart (offset + 1) left
          (S.operationTime (q + offset) - S.operationTime q + e.timeInterval)
        else .ok (some (S.operationTime (q + offset) - S.operationTime q)) := by
      rw [openIntervals, hpointer, Schedule.getScheduledObject_of_lt hlt,
        Schedule.getTimeInterval_of_lt hlt, hentry]
      rfl
    rw [hstep]
    by_cases hg : e.scheduledObject.test g = true
    · rw [if_pos hg]
      have htime : S.operationTime (q + offset) - S.operationTime q + e.timeInterval =
          S.operationTime (q + (offset + 1)) - S.operationTime q := by
        rw [← Nat.add_assoc, hnext]
        ring
      rw [htime]
      refine ih (offset + 1) (by omega) fun i hi => ?_
      obtain hlt | rfl := Nat.lt_or_eq_of_le (Nat.le_of_lt_succ hi)
      · exact hopen i hlt
      · intro e' he'
        rw [he] at he'
        cases he'
        exact hg
    · rw [if_neg hg]
      exact ⟨_, rfl, .inr ⟨offset, rfl, ⟨e, he, (Bool.not_eq_true _).mp hg⟩, hopen⟩⟩

/-- **Round the list**: never, or up to the first operation that closes the gate -/
theorem nextGateCloseEventInSchedule_spec (hS : S.Executable clock) (hn : S.isNormalized = true)
    (hg : g < 8) {listPointerStart : Nat}
    (hq : q % S.controlList.length = listPointerStart % S.controlList.length) :
    ∃ r, nextGateCloseEventInSchedule g listPointerStart S = .ok r ∧
      (r = none ∧ AlwaysOpen g S ∨
        ∃ d, r = some (S.operationTime (q + d) - S.operationTime q) ∧ ClosesAfter S g q d) := by
  obtain ⟨r, hr, hspec⟩ := openIntervals_spec (g := g) hS hq S.controlList.length 0 (Nat.zero_add _)
    nofun
  refine ⟨r, ?_, hspec⟩
  have hne : S.getControlListLength ≠ 0 := hS.length_pos.ne'
  refine bind_ok.mpr ⟨(), ASSERT_ok.mpr hn, bind_ok.mpr ⟨(), ASSERT_ok.mpr (decide_eq_true hg), ?_⟩⟩
  rw [if_neg hne]
  rw [Nat.add_zero, sub_self] at hr
  exact hr

end scan

/-! ## what is claimed and what is asked for -/

/-- the query at `queried` is answered exactly: 0 with the gate closed, the largest time with the gate
open in every entry, and otherwise the time up to the first state with the gate closed that the
manager, which goes on from `goesOn`, sets -/
def Exact (clock : ClockRate) (queried goesOn : GateScheduleManager) (g : Nat) : Prop :=
  ∃ r, queried.nextGateCloseEvent g = .ok r ∧
    (queried.operState.test g = false → r = some 0) ∧
    (queried.operState.test g = true → AlwaysOpen g queried.operSchedule → r = none) ∧
    (queried.operState.test g = true → ¬AlwaysOpen g queried.operSchedule →
      ∃ d, r = some d ∧ IsLeast (settings clock goesOn (Closed g)) (queried.now + d))

/-- when the next cycle starts that is not under way -/
def nextStart (m : GateScheduleManager) : SimTime :=
  if m.nextListExecuteState = .NEW_CYCLE then m.now
  else if m.nextCycleTimerState = .START_CYCLE then m.cycleStartTime
  else m.operSchedule.cycleAt
    (m.operSchedule.firstCycle ((m.agenda.timestamps .CYCLE_TIMER).getD m.now))

/-- `cycleStartTime` is not past, and it is the next start if this matters -/
def StartKnown (m : GateScheduleManager) (g : Nat) : Prop :=
  m.now ≤ m.cycleStartTime ∧ (AlwaysOpen g m.operSchedule ∨ m.cycleStartTime = m.nextStart)

instance (m : GateScheduleManager) (g : Nat) : Decidable (m.StartKnown g) :=
  inferInstanceAs (Decidable (_ ∧ (_ ∨ _)))

/-- the state of the list execution tells, to a listener or to another module, how long the gate stays
open -/
def Tells (listener : Bool) (m : GateScheduleManager) (g : Nat) : ListExecuteState → Prop
  | .UNDEFINED => False
  | .INIT => m.StartKnown g
  | .END_OF_CYCLE => m.StartKnown g
  | .NEW_CYCLE => True
  -- the list pointer has moved on, but for listeners
  | .EXECUTE_CYCLE => listener = true ∨
      AlwaysOpen g m.operSchedule ∧ m.listPointer < m.operSchedule.controlList.length
  | .DELAY => True

instance (listener : Bool) (m : GateScheduleManager) (g : Nat) :
    ∀ s, Decidable (Tells listener m g s)
  | .UNDEFINED => inferInstanceAs (Decidable False)
  | .INIT => inferInstanceAs (Decidable (m.StartKnown g))
  | .END_OF_CYCLE => inferInstanceAs (Decidable (m.StartKnown g))
  | .NEW_CYCLE => inferInstanceAs (Decidable True)
  | .EXECUTE_CYCLE => inferInstanceAs (Decidable (listener = true ∨
      AlwaysOpen g m.operSchedule ∧ m.listPointer < m.operSchedule.controlList.length))
  | .DELAY => inferInstanceAs (Decidable True)

/-- the gate is closed, or the state tells -/
def Answerable (listener : Bool) (m : GateScheduleManager) (g : Nat) : Prop :=
  m.operState.test g = true → Tells listener m g m.listExecuteState

instance (listener : Bool) (m : GateScheduleManager) (g : Nat) :
    Decidable (Answerable listener m g) :=
  inferInstanceAs (Decidable (_ → _))

/-! ## from the lookahead to the answer -/

section answer
variable {clock : ClockRate} {S : Schedule GateBitvector} {t0 : SimTime}
  {m m' : GateScheduleManager} {g q q0 listPointer : Nat} {time : SimTime}

theorem nextGateCloseEvent_closed (hu : ScheduleManager.Undisturbed S m) (hn : S.isNormalized = true)
    (hg : g < 8) (hc : m.operState.test g = false) : m.nextGateCloseEvent g = .ok (some 0) := by
  have hn' : m.operSchedule.isNormalized = true := hu.operSchedule.symm ▸ hn
  refine bind_ok.mpr ⟨(), ASSERT_ok.mpr (decide_eq_true hg), bind_ok.mpr ⟨(), ASSERT_ok.mpr hn', ?_⟩⟩
  rw [hu.enabled, if_neg nofun, if_pos hc]
  rfl

/-- with the gate open the lookahead decides -/
theorem nextGateCloseEvent_open (hu : ScheduleManager.Undisturbed S m) (hn : S.isNormalized = true)
    (hg : g < 8) (ho : m.operState.test g = true) : m.nextGateCloseEvent g =
      m.lookahead >>= fun l => nextGateCloseEventInSchedule g l.2 S >>= fun r =>
        .ok (r.map fun t => l.1 + t) := by
  unfold nextGateCloseEvent
  rw [hu.operSchedule, hn, hu.enabled, ho, hu.configPending, decide_eq_true hg]
  rfl

theorem nextGateCloseEvent_of_lookahead (hS : S.Executable clock)
    (hu : ScheduleManager.Undisturbed S m) (hn : S.isNormalized = true) (hg : g < 8)
    (ho : m.operState.test g = true) (hl : m.lookahead = .ok (time, listPointer))
    (hq : q % S.controlList.length = listPointer % S.controlList.length) :
    ∃ r, m.nextGateCloseEvent g = .ok r ∧ (r = none ∧ AlwaysOpen g S ∨
      ∃ d, r = some (time + (S.operationTime (q + d) - S.operationTime q)) ∧ ClosesAfter S g q d) := by
  obtain ⟨r, hr, hspec⟩ := nextGateCloseEventInSchedule_spec (g := g) hS hn hg hq
  refine ⟨r.map fun t => time + t, ?_, ?_⟩
  · rw [nextGateCloseEvent_open hu hn hg ho, hl]
    exact bind_ok.mpr ⟨(time, listPointer), rfl, bind_ok.mpr ⟨r, hr, rfl⟩⟩
  · obtain ⟨rfl, halways⟩ | ⟨d, rfl, hd⟩ := hspec
    · exact .inl ⟨rfl, halways⟩
    · exact .inr ⟨d, rfl, hd⟩

theorem ClosesAfter.not_alwaysOpen {d : Nat} (h : ClosesAfter S g q d) : ¬AlwaysOpen g S := by
  intro halways
  obtain ⟨e, he, hc⟩ := h.closed
  have hopen := halways e (List.mem_of_getElem? he)
  exact absurd (hopen.symm.trans hc) nofun

/-- when the manager closes the gate -/
theorem ClosesAfter.isLeast (hS : S.Executable clock) (h : Executing clock S t0 m)
    (hnext : m.nextListExecuteState ≠ .INIT) (hq0 : Upcoming clock S t0 m q0)
    (hq : q = q0 ∨ q + 1 = q0 ∧ OpenAt S g q) {d : Nat} (hd : ClosesAfter S g q d) :
    IsLeast (settings clock m (Closed g)) (S.operationTime (q + d)) := by
  have hle : q0 ≤ q + d := by
    obtain rfl | ⟨rfl, hopen⟩ := hq
    · exact Nat.le_add_right _ _
    · obtain _ | d := d
      · obtain ⟨e, he, hc⟩ := hd.closed
        exact absurd ((hopen e he).symm.trans hc) nofun
      · omega
  refine ScheduleManager.isLeast_settings hS h hnext hq0 hle hd.closed fun i hi hlt e he hc => ?_
  obtain ⟨j, rfl⟩ : ∃ j, i = q + j := Nat.exists_eq_add_of_le (by omega)
  have hopen := hd.opened j (by omega) e he
  exact absurd (hopen.symm.trans hc) nofun

/-- the lookahead leads to operation `q`, which is the next one, or the one that is under way -/
theorem exact_of_lookahead (hS : S.Executable clock) (hu : ScheduleManager.Undisturbed S m)
    (hn : S.isNormalized = true) (hg : g < 8) (ho : m.operState.test g = true)
    (hl : m.lookahead = .ok (time, listPointer))
    (hpointer : q % S.controlList.length = listPointer % S.controlList.length)
    (htime : m.now + time = S.operationTime q) (h : Executing clock S t0 m')
    (hnext : m'.nextListExecuteState ≠ .INIT) (hq0 : Upcoming clock S t0 m' q0)
    (hq : q = q0 ∨ q + 1 = q0 ∧ OpenAt S g q) : Exact clock m m' g := by
  obtain ⟨r, hr, hspec⟩ := nextGateCloseEvent_of_lookahead hS hu hn hg ho hl hpointer
  refine ⟨r, hr, fun hc => absurd (ho.symm.trans hc) nofun, ?_, ?_⟩
  · intro _ halways
    rw [hu.operSchedule] at halways
    obtain ⟨hr, _⟩ | ⟨d, _, hd⟩ := hspec
    · exact hr
    · exact absurd halways hd.not_alwaysOpen
  · intro _ hnot
    rw [hu.operSchedule] at hnot
    obtain ⟨_, halways⟩ | ⟨d, hr, hd⟩ := hspec
    · exact absurd halways hnot
    · refine ⟨_, hr, ?_⟩
      have hsum : m.now + (time + (S.operationTime (q + d) - S.operationTime q)) =
          S.operationTime (q + d) := by
        rw [← htime]
        ring
      rw [hsum]
      exact hd.isLeast hS h hnext hq0 hq

/-- a gate that never closes needs no time -/
theorem exact_of_alwaysOpen (hS : S.Executable clock) (hu : ScheduleManager.Undisturbed S m)
    (hn : S.isNormalized = true) (hg : g < 8) (ho : m.operState.test g = true)
    (hl : m.lookahead = .ok (time, listPointer)) (halways : AlwaysOpen g S) : Exact clock m m' g := by
  obtain ⟨r, hr, hspec⟩ := nextGateCloseEvent_of_lookahead hS hu hn hg ho hl rfl
  refine ⟨r, hr, fun hc => absurd (ho.symm.trans hc) nofun, fun _ _ => ?_, fun _ hnot => ?_⟩
  · obtain ⟨hr, _⟩ | ⟨d, _, hd⟩ := hspec
    · exact hr
    · exact absurd halways hd.not_alwaysOpen
  · rw [hu.operSchedule] at hnot
    exact absurd halways hnot

/-- the lookahead leads elsewhere -/
theorem not_exact_of_lookahead (hS : S.Executable clock) (hu : ScheduleManager.Undisturbed S m)
    (hn : S.isNormalized = true) (hg : g < 8) (ho : m.operState.test g = true)
    (hl : m.lookahead = .ok (time, listPointer))
    (hpointer : q0 % S.controlList.length = listPointer % S.controlList.length)
    (htime : m.now + time ≠ S.operationTime q0) (h : Executing clock S t0 m')
    (hnext : m'.nextListExecuteState ≠ .INIT) (hq0 : Upcoming clock S t0 m' q0)
    (hnot : ¬AlwaysOpen g S) : ¬Exact clock m m' g := by
  rintro ⟨r, hr, _, _, hexact⟩
  obtain ⟨r', hr', hspec⟩ := nextGateCloseEvent_of_lookahead hS hu hn hg ho hl hpointer
  cases hr.symm.trans hr'
  obtain ⟨_, halways⟩ | ⟨d, rfl, hd⟩ := hspec
  · exact hnot halways
  · obtain ⟨d', hd', hleast⟩ := hexact ho (hu.operSchedule.symm ▸ hnot)
    cases hd'
    have heq := hleast.unique (hd.isLeast hS h hnext hq0 (.inl rfl))
    apply htime
    linarith

theorem not_exact_of_eq_error {x : SimError} (h : m.nextGateCloseEvent g = .error x) :
    ¬Exact clock m m' g := by
  rintro ⟨r, hr, _⟩
  cases h.symm.trans hr

theorem not_exact_of_lookahead_error (hu : ScheduleManager.Undisturbed S m) (hn : S.isNormalized = true)
    (hg : g < 8) (ho : m.operState.test g = true) {x : SimError} (hl : m.lookahead = .error x) :
    ¬Exact clock m m' g := by
  have herror : m.nextGateCloseEvent g = .error x := by
    rw [nextGateCloseEvent_open hu hn hg ho, hl]
    rfl
  exact not_exact_of_eq_error herror

end answer

/-! ## where the next operation is -/

section states
variable {clock : ClockRate} {S : Schedule GateBitvector} {t0 : SimTime}
  {m m' : GateScheduleManager} {g q : Nat}

/-- while the list execution waits for a cycle, the next operation is its first -/
theorem upcoming_nextStart (hS : S.Executable clock) (h : Executing clock S t0 m)
    (hs : m.listExecuteState = .INIT ∨ m.listExecuteState = .END_OF_CYCLE) :
    ∃ q, Upcoming clock S t0 m q ∧ q % S.controlList.length = 0 ∧
      S.operationTime q = m.nextStart := by
  obtain ⟨⟨hu, hb | ⟨k, p, hc⟩⟩, ht⟩ := h
  · refine ⟨_, .booting hb rfl, Nat.mul_mod_left _ _, ?_⟩
    have hnew : m.nextListExecuteState ≠ .NEW_CYCLE := by
      intro hn
      exact hb.list.elim (fun h => absurd (h.symm.trans hn) nofun)
        fun h => absurd (h.symm.trans hn) nofun
    rw [hS.operationTime_cycle, nextStart, if_neg hnew]
    cases hb.timer with
    | boot hn hw =>
      have hstart : m.nextCycleTimerState ≠ .START_CYCLE := by
        intro hn'
        exact hn.elim (fun h => absurd (h.symm.trans hn') nofun)
          fun h => absurd (h.symm.trans hn') nofun
      have hget : (m.agenda.timestamps .CYCLE_TIMER).getD (ScheduleManager.now m) = t0 := hw.getD_eq
      rw [if_neg hstart, hu.operSchedule, hget]
    | start hn hw =>
      rw [if_pos hn, ← hw.getD_eq]
      exact (ht.timer hn).getD_eq
  · have hnext := ht.waiting hs
    have hwaits : ∀ {next}, m.nextListExecuteState = next → next = .END_OF_CYCLE ∨
        next = .NEW_CYCLE := by
      rintro next rfl
      exact hnext
    refine ⟨_, .inCycle k p hc rfl, ?_⟩
    cases hc.list with
    | new hn _ _ hnow =>
      refine ⟨Nat.mul_mod_left _ _, ?_⟩
      rw [Nat.add_zero, hS.operationTime_cycle, nextStart, if_pos hn]
      exact hnow.symm
    | execute hn => exact (hwaits hn).elim nofun nofun
    | delay hn => exact (hwaits hn).elim nofun nofun
    | done hn =>
      have hnew : m.nextListExecuteState ≠ .NEW_CYCLE := fun h => absurd (hn.symm.trans h) nofun
      refine ⟨by rw [Nat.add_mod_right, Nat.mul_mod_left], ?_⟩
      rw [hS.operationTime_add k le_rfl, Schedule.startOf_of_le le_rfl, hS.total,
        ← Schedule.cycleAt_succ, nextStart, if_neg hnew]
      cases hc.timer with
      | tick hn' hw =>
        have hstart : m.nextCycleTimerState ≠ .START_CYCLE := fun h => absurd (hn'.symm.trans h) nofun
        have hget : (m.agenda.timestamps .CYCLE_TIMER).getD (ScheduleManager.now m) =
            S.cycleAt k + clock.resolution := hw.getD_eq
        rw [if_neg hstart, hu.operSchedule, hget, ScheduleManager.firstCycle_tick hS]
      | start hn' hw =>
        rw [if_pos hn', ← hw.getD_eq]
        exact (ht.timer hn').getD_eq

/-- an entry is executed at this instant, or when the timestamp is due -/
theorem upcoming_execute (hS : S.Executable clock) (h : Executing clock S t0 m)
    (hn : m.nextListExecuteState = .EXECUTE_CYCLE) : m.listPointer < S.controlList.length ∧
      ∃ q, Upcoming clock S t0 m q ∧ q % S.controlList.length = m.listPointer ∧
        m.agenda.Wakes .LIST_EXECUTE (S.operationTime q) := by
  obtain ⟨⟨_, hb | ⟨k, p, hc⟩⟩, _⟩ := h
  · exact hb.list.elim (fun h => absurd (h.symm.trans hn) nofun)
      fun h => absurd (h.symm.trans hn) nofun
  · have hup : Upcoming clock S t0 m (k * S.controlList.length + p) := .inCycle k p hc rfl
    cases hc.list with
    | new h => exact absurd (h.symm.trans hn) nofun
    | execute _ hlt hw =>
      refine ⟨hlt, _, hup, ?_, ?_⟩
      · rw [Nat.mul_comm, Nat.mul_add_mod, Nat.mod_eq_of_lt hlt]
      · rw [hS.operationTime_add k hlt.le]
        exact hw
    | delay h => exact absurd (h.symm.trans hn) nofun
    | done h => exact absurd (h.symm.trans hn) nofun

/-- an entry was executed at this instant, and the next one follows after its interval -/
theorem upcoming_delay (hS : S.Executable clock) (h : Executing clock S t0 m)
    (hn : m.nextListExecuteState = .DELAY) : m.listPointer < S.controlList.length ∧
      ∃ q, Upcoming clock S t0 m q ∧ q % S.controlList.length = m.listPointer ∧
        m.now < S.operationTime q := by
  obtain ⟨⟨_, hb | ⟨k, p, hc⟩⟩, _⟩ := h
  · exact hb.list.elim (fun h => absurd (h.symm.trans hn) nofun)
      fun h => absurd (h.symm.trans hn) nofun
  · have hup : Upcoming clock S t0 m (k * S.controlList.length + p) := .inCycle k p hc rfl
    cases hc.list with
    | new h => exact absurd (h.symm.trans hn) nofun
    | execute h => exact absurd (h.symm.trans hn) nofun
    | delay _ hlt _ _ hexit hpos =>
      refine ⟨hlt, _, hup, ?_, ?_⟩
      · rw [Nat.mul_comm, Nat.mul_add_mod, Nat.mod_eq_of_lt hlt]
      · rw [hS.operationTime_add k hlt.le, ← hexit]
        exact lt_add_of_pos_right _ hpos
    | done h => exact absurd (h.symm.trans hn) nofun

/-! ## one query from another module -/

/-- while the list execution waits for a cycle -/
theorem exact_start_iff (hS : S.Executable clock) (hn : S.isNormalized = true) (hg : g < 8)
    (hu : ScheduleManager.Undisturbed S m) (ho : m.operState.test g = true)
    (hs : m.listExecuteState = .INIT ∨ m.listExecuteState = .END_OF_CYCLE)
    (h : Executing clock S t0 m') (hnext : m'.nextListExecuteState ≠ .INIT)
    (hq : Upcoming clock S t0 m' q) (hmod : q % S.controlList.length = 0)
    (htime : S.operationTime q = m.nextStart) : Exact clock m m' g ↔ m.StartKnown g := by
  have hl : m.lookahead = (ASSERT (m.now ≤ m.cycleStartTime) "cycleStartTime >= currentTime" >>=
      fun _ => .ok (m.cycleStartTime - m.now, 0)) := by
    unfold lookahead
    obtain hs | hs := hs
    · rw [hs]
      rfl
    · rw [hs]
      rfl
  have hpointer : q % S.controlList.length = 0 % S.controlList.length := by
    rw [hmod, Nat.zero_mod]
  unfold StartKnown
  rw [hu.operSchedule]
  by_cases hle : m.now ≤ m.cycleStartTime
  · have hl : m.lookahead = .ok (m.cycleStartTime - m.now, 0) := by
      rw [hl, decide_eq_true hle]
      rfl
    rw [and_iff_right hle]
    by_cases halways : AlwaysOpen g S
    · exact iff_of_true (exact_of_alwaysOpen hS hu hn hg ho hl halways) (.inl halways)
    · rw [or_iff_right halways, ← htime]
      have hsum : m.now + (m.cycleStartTime - m.now) = m.cycleStartTime := by ring
      constructor
      · intro hexact
        by_contra hne
        refine not_exact_of_lookahead hS hu hn hg ho hl hpointer ?_ h hnext hq halways hexact
        rw [hsum]
        exact hne
      · intro heq
        exact exact_of_lookahead hS hu hn hg ho hl hpointer (hsum.trans heq) h hnext hq (.inl rfl)
  · have hl : m.lookahead = .error (.assertion "cycleStartTime >= currentTime") := by
      rw [hl, decide_eq_false hle]
      rfl
    exact iff_of_false (not_exact_of_lookahead_error hu hn hg ho hl) fun hk => hle hk.1

theorem exact_waiting_iff (hS : S.Executable clock) (hn : S.isNormalized = true) (hg : g < 8)
    (h : Executing clock S t0 m) (ho : m.operState.test g = true)
    (hs : m.listExecuteState = .INIT ∨ m.listExecuteState = .END_OF_CYCLE) :
    Exact clock m m g ↔ m.StartKnown g := by
  have hnext : m.nextListExecuteState ≠ .INIT := by
    intro hi
    exact (h.2.waiting hs).elim (fun h => absurd (hi.symm.trans h) nofun)
      fun h => absurd (hi.symm.trans h) nofun
  obtain ⟨q, hq, hmod, htime⟩ := upcoming_nextStart hS h hs
  exact exact_start_iff hS hn hg h.1.1 ho hs h hnext hq hmod htime

/-- between an executed entry and the next step -/
theorem exact_executed_iff (hS : S.Executable clock) (hn : S.isNormalized = true) (hg : g < 8)
    (h : Executing clock S t0 m) (ho : m.operState.test g = true)
    (hs : m.listExecuteState = .EXECUTE_CYCLE) : Exact clock m m g ↔
      AlwaysOpen g m.operSchedule ∧ m.listPointer < m.operSchedule.controlList.length := by
  have hu := h.1.1
  rw [hu.operSchedule]
  have hl : m.lookahead = (ASSERT (m.listPointer < S.controlList.length)
      "listPointer < operControlListLength" >>= fun _ => .ok (0, m.listPointer)) := by
    unfold lookahead
    rw [hs, hu.operSchedule]
    rfl
  obtain ⟨_, _, hnext⟩ := h.2.executed hs
  obtain hdelay | ⟨_, hlast⟩ := hnext
  · obtain ⟨hlt, q, hq, hmod, hlater⟩ := upcoming_delay hS h hdelay
    have hl : m.lookahead = .ok (0, m.listPointer) := by
      rw [hl, decide_eq_true hlt]
      rfl
    have hinit : m.nextListExecuteState ≠ .INIT := fun h => absurd (hdelay.symm.trans h) nofun
    rw [and_iff_left hlt]
    constructor
    · intro hexact
      by_contra hnot
      refine not_exact_of_lookahead hS hu hn hg ho hl ?_ ?_ h hinit hq hnot hexact
      · rw [hmod, Nat.mod_eq_of_lt hlt]
      · rw [add_zero]
        exact hlater.ne
    · exact exact_of_alwaysOpen hS hu hn hg ho hl
  · have hnot : ¬m.listPointer < S.controlList.length := by omega
    have hl : m.lookahead = .error (.assertion "listPointer < operControlListLength") := by
      rw [hl, decide_eq_false hnot]
      rfl
    exact iff_of_false (not_exact_of_lookahead_error hu hn hg ho hl) fun hk => hnot hk.2

/-- at a cycle start and between two entries -/
theorem exact_of_execute (hS : S.Executable clock) (hn : S.isNormalized = true) (hg : g < 8)
    (h : Executing clock S t0 m) (ho : m.operState.test g = true)
    (hs : m.listExecuteState = .NEW_CYCLE ∨ m.listExecuteState = .DELAY) : Exact clock m m g := by
  have hu := h.1.1
  have hnext : m.nextListExecuteState = .EXECUTE_CYCLE :=
    hs.elim (fun hs => (h.2.begun hs).1) h.2.delayed
  have hinit : m.nextListExecuteState ≠ .INIT := fun h => absurd (hnext.symm.trans h) nofun
  obtain ⟨hlt, q, hq, hmod, hw⟩ := upcoming_execute hS h hnext
  obtain hs | hs := hs
  · obtain ⟨_, hzero, hmem⟩ := h.2.begun hs
    have hl : m.lookahead = .ok (0, 0) := by
      unfold lookahead
      rw [hs]
    refine exact_of_lookahead hS hu hn hg ho hl ?_ ?_ h hinit hq (.inl rfl)
    · rw [hmod, hzero, Nat.zero_mod]
    · rw [add_zero]
      exact (hw.of_mem hmem).2
  · have htime : m.nextListExecuteTimestamp = S.operationTime q := hw.getD_eq
    have hle : m.now ≤ S.operationTime q := hw.now_le
    have hlen : ¬S.controlList.length = 0 := hS.length_pos.ne'
    have hl : m.lookahead = .ok (S.operationTime q - m.now, m.listPointer % S.controlList.length) := by
      unfold lookahead
      rw [hs, hu.operSchedule, htime]
      exact bind_ok.mpr ⟨(), ASSERT_ok.mpr (decide_eq_true hle), if_neg hlen⟩
    refine exact_of_lookahead hS hu hn hg ho hl ?_ ?_ h hinit hq (.inl rfl)
    · rw [hmod, Nat.mod_mod, Nat.mod_eq_of_lt hlt]
    · ring

/-- **A query from another module** is answered exactly in the states that tell. -/
theorem exact_outside_iff (hS : S.Executable clock) (hn : S.isNormalized = true) (hg : g < 8)
    (h : Executing clock S t0 m) : Exact clock m m g ↔ Answerable false m g := by
  unfold Answerable
  cases ho : m.operState.test g with
  | false =>
    refine iff_of_true ⟨some 0, nextGateCloseEvent_closed h.1.1 hn hg ho, fun _ => rfl, ?_, ?_⟩ nofun
    · intro ho'
      exact absurd (ho.symm.trans ho') nofun
    · intro ho'
      exact absurd (ho.symm.trans ho') nofun
  | true =>
    rw [imp_iff_right rfl]
    cases hs : m.listExecuteState with
    | UNDEFINED =>
      have hl : m.lookahead =
          .error (.runtimeError "ListExecute state machine is in invalid state!") := by
        unfold lookahead
        rw [hs]
      exact iff_of_false (not_exact_of_lookahead_error h.1.1 hn hg ho hl) id
    | INIT => exact exact_waiting_iff hS hn hg h ho (.inl hs)
    | END_OF_CYCLE => exact exact_waiting_iff hS hn hg h ho (.inr hs)
    | NEW_CYCLE => exact iff_of_true (exact_of_execute hS hn hg h ho (.inl hs)) trivial
    | DELAY => exact iff_of_true (exact_of_execute hS hn hg h ho (.inr hs)) trivial
    | EXECUTE_CYCLE =>
      rw [exact_executed_iff hS hn hg h ho hs]
      exact (or_iff_right nofun).symm

/-! ## one query from a listener -/

/-- the listeners are told of the INIT action or of an executed entry -/
theorem notified_some {mid : GateScheduleManager} (h : notified clock m = .ok (some mid)) :
    (∃ rest, m.agenda.messages = .LIST_EXECUTE :: rest) ∧
    (m.nextListExecuteState = .INIT ∧ mid = { m with
        listExecuteState := .INIT
        operState := m.adminState
        agenda := m.agenda.pop.unsubscribe .LIST_EXECUTE } ∨
      m.nextListExecuteState = .EXECUTE_CYCLE ∧
        ∃ s i, ScheduleManager.operationAt clock m = .ok (s, i) ∧ mid = { m with
          listExecuteState := .EXECUTE_CYCLE
          operState := s
          timeInterval := i
          exitTimer := i
          agenda := m.agenda.pop.unsubscribe .LIST_EXECUTE }) := by
  unfold notified at h
  split at h
  · rename_i hc
    have hm := List.head?_eq_some_iff.mp hc.1
    dsimp only at h
    split at h
    · rename_i hs
      have hn : m.nextListExecuteState = .EXECUTE_CYCLE := hs
      obtain ⟨m1, hm1, h⟩ := bind_ok.mp h
      obtain ⟨⟨s, i⟩, ho, h1⟩ := bind_ok.mp hm1
      cases h1
      cases h
      refine ⟨hm, .inr ⟨hn, s, i, ho, ?_⟩⟩
      rw [← hn]
      rfl
    · rename_i hs
      have hn : m.nextListExecuteState = .INIT := hs
      cases h
      refine ⟨hm, .inl ⟨hn, ?_⟩⟩
      rw [← hn]
      rfl
    · cases h
  · cases h

/-- after the INIT action the list execution waits for the start that was known before -/
theorem init_nextStart (he : m.enabled = true) (hi : m.nextListExecuteState = .INIT)
    (hs : ScheduleManager.ListExecuteStep clock (ScheduleManager.popped m) m') :
    m'.listExecuteState = .INIT ∧ m'.nextListExecuteState = .END_OF_CYCLE ∧
      m'.nextStart = m.nextStart := by
  cases hs with
  | rest hr =>
    obtain hr | hr | hr := hr
    · exact absurd (he.symm.trans hr) nofun
    · exact absurd (hi.symm.trans hr) nofun
    · exact absurd (hi.symm.trans hr) nofun
  | newCycle _ h => exact absurd (hi.symm.trans h) nofun
  | execute _ h => exact absurd (hi.symm.trans h) nofun
  | delay _ h => exact absurd (hi.symm.trans h) nofun
  | init =>
    refine ⟨hi, rfl, ?_⟩
    have hnew : m.nextListExecuteState ≠ .NEW_CYCLE := fun h => absurd (hi.symm.trans h) nofun
    unfold nextStart
    rw [if_neg hnew, if_neg nofun]
    rfl

/-- after an entry one operation more is recorded -/
theorem execute_recorded (hn : m.nextListExecuteState = .EXECUTE_CYCLE) (he : m.enabled = true)
    (hs : ScheduleManager.ListExecuteStep clock (ScheduleManager.popped m) m') :
    m'.nextListExecuteState ≠ .INIT ∧
      ∃ t i s s', m'.history = m.history ++ [.execute t i s s'] := by
  cases hs with
  | rest hr =>
    obtain hr | hr | hr := hr
    · exact absurd (he.symm.trans hr) nofun
    · exact absurd (hn.symm.trans hr) nofun
    · exact absurd (hn.symm.trans hr) nofun
  | newCycle _ h => exact absurd (hn.symm.trans h) nofun
  | execute =>
    refine ⟨?_, _, _, _, _, rfl⟩
    dsimp only
    split
    · nofun
    · split
      · nofun
      · nofun
  | delay _ h => exact absurd (hn.symm.trans h) nofun
  | init _ h => exact absurd (hn.symm.trans h) nofun

/-- a listener that is told of an entry: it is under way -/
theorem exact_listener_execute {mid : GateScheduleManager} (hS : S.Executable clock)
    (hn : S.isNormalized = true) (hg : g < 8) (h : Executing clock S t0 m)
    (hu : ScheduleManager.Undisturbed S mid) (hnow : mid.now = m.now)
    (hstate : mid.listExecuteState = .EXECUTE_CYCLE) (hpointer : mid.listPointer = m.listPointer)
    (hmem : .LIST_EXECUTE ∈ m.agenda.messages) (he : m.nextListExecuteState = .EXECUTE_CYCLE)
    (hop : ∃ i, ScheduleManager.operationAt clock m = .ok (mid.operState, i))
    (hs : ScheduleManager.ListExecuteStep clock (ScheduleManager.popped m) m')
    (h' : Executing clock S t0 m') (ho : mid.operState.test g = true) : Exact clock mid m' g := by
  obtain ⟨hlt, q, hq, hmod, hw⟩ := upcoming_execute hS h he
  obtain ⟨hnext, t, i, s, s', hhistory⟩ := execute_recorded he h.1.1.enabled hs
  obtain ⟨q1, hq1⟩ := h'.1.upcoming
  -- the entry is the operation `q`, and the manager goes on with the next one
  have hsucc : q + 1 = q1 := by
    obtain ⟨hle, hnew⟩ := ScheduleManager.new_operations hS hq hq1 hhistory
    have hlen := congrArg List.length hnew
    rw [List.length_map, List.length_map, List.length_range'] at hlen
    have hone : ([ManagerRecord.execute t i s s'].filterMap ManagerRecord.operation).length = 1 := rfl
    omega
  have hl : mid.lookahead = .ok (0, m.listPointer) := by
    unfold lookahead
    rw [hstate, hu.operSchedule, hpointer]
    exact bind_ok.mpr ⟨(), ASSERT_ok.mpr (decide_eq_true hlt), rfl⟩
  refine exact_of_lookahead hS hu hn hg ho hl ?_ ?_ h' hnext hq1 (.inr ⟨hsucc, fun e he => ?_⟩)
  · rw [hmod, Nat.mod_eq_of_lt hlt]
  · rw [add_zero, hnow]
    exact (hw.of_mem hmem).2
  · obtain ⟨i, hop⟩ := hop
    rw [ScheduleManager.operationAt_entry hS h.1.1.operSchedule hlt] at hop
    have hentry : S.controlList[m.listPointer]? = some e := by
      rw [← hmod]
      exact he
    have heq : e = S.controlList[m.listPointer] :=
      Option.some.inj (hentry.symm.trans (List.getElem?_eq_getElem hlt))
    have hshown : S.controlList[m.listPointer].scheduledObject = mid.operState :=
      congrArg Prod.fst (Except.ok.inj hop)
    rw [heq, hshown]
    exact ho

/-- **A query from a listener** is answered exactly, but for the INIT action in the states that tell. -/
theorem exact_listener_iff {mid : GateScheduleManager} (hS : S.Executable clock)
    (hn : S.isNormalized = true) (hg : g < 8) (h : Executing clock S t0 m)
    (hmid : notified clock m = .ok (some mid))
    (hs : ScheduleManager.handleMessage clock m = .ok m') :
    Exact clock mid m' g ↔ Answerable true mid g := by
  have h' : Executing clock S t0 m' :=
    ScheduleManager.tracked_step hS m .handleMessage m' h trivial hs
  have hu := h.1.1
  obtain ⟨⟨rest, hm⟩, hcases⟩ := notified_some hmid
  have hmem := Lib.Agenda.mem_of_head hm
  have hstep : ScheduleManager.ListExecuteStep clock (ScheduleManager.popped m) m' := by
    obtain ⟨hnil, _⟩ | ⟨x, rest', hx, hstep⟩ := ScheduleManager.handleMessage_ok hs
    · exact absurd (hm.symm.trans hnil) nofun
    · cases hm.symm.trans hx
      exact hstep
  have hu' : ScheduleManager.Undisturbed S mid := by
    obtain ⟨_, rfl⟩ | ⟨_, s, i, _, rfl⟩ := hcases
    · exact ⟨hu.1, hu.2, hu.3, hu.4, hu.5⟩
    · exact ⟨hu.1, hu.2, hu.3, hu.4, hu.5⟩
  unfold Answerable
  cases ho : mid.operState.test g with
  | false =>
    refine iff_of_true ⟨some 0, nextGateCloseEvent_closed hu' hn hg ho, fun _ => rfl, ?_, ?_⟩ nofun
    · intro ho'
      exact absurd (ho.symm.trans ho') nofun
    · intro ho'
      exact absurd (ho.symm.trans ho') nofun
  | true =>
    rw [imp_iff_right rfl]
    obtain ⟨hi, rfl⟩ | ⟨he, s, i, hop, rfl⟩ := hcases
    · obtain ⟨hinit, hend, hstart⟩ := init_nextStart hu.enabled hi hstep
      obtain ⟨q, hq, hmod, htime⟩ := upcoming_nextStart hS h' (.inl hinit)
      have hnext : m'.nextListExecuteState ≠ .INIT := fun h => absurd (hend.symm.trans h) nofun
      refine exact_start_iff hS hn hg hu' ho (.inl rfl) h' hnext hq hmod ?_
      rw [htime, hstart]
      have hnew : m.nextListExecuteState ≠ .NEW_CYCLE := fun h => absurd (hi.symm.trans h) nofun
      unfold nextStart
      rw [if_neg hnew]
      dsimp only
      rw [if_neg hnew]
      rfl
    · exact iff_of_true (exact_listener_execute hS hn hg h hu' rfl rfl rfl hmem he ⟨i, hop⟩ hstep h' ho)
        (.inl rfl)

/-! ## runs -/

/-- the events of a run in which the manager stays enabled and no configuration change is asked for -/
def Calm : ManagerEvent GateBitvector → Prop
  | .setEnabled enabled => enabled = true
  | .setConfigChange configChange => configChange = false
  | _ => True

instance : ∀ e, Decidable (Calm e)
  | .handleMessage => inferInstanceAs (Decidable True)
  | .onTimestamp => inferInstanceAs (Decidable True)
  | .advance _ => inferInstanceAs (Decidable True)
  | .setAdminState _ => inferInstanceAs (Decidable True)
  | .setAdminSchedule _ => inferInstanceAs (Decidable True)
  | .setEnabled enabled => inferInstanceAs (Decidable (enabled = true))
  | .setConfigChange configChange => inferInstanceAs (Decidable (configChange = false))

/-- the administrative schedule waits for a change -/
theorem executing_admin (h : Executing clock S t0 m) (s : Schedule GateBitvector) :
    Executing clock S t0 { m with adminSchedule := s } := by
  obtain ⟨⟨hu, hstage⟩, ht⟩ := h
  refine ⟨⟨⟨hu.1, hu.2, hu.3, hu.4, hu.5⟩, ?_⟩, ht.call m.adminState s m.enabled m.configChange⟩
  exact hstage.imp (fun hb => ⟨hb.1, hb.2, hb.3, hb.4⟩)
    fun ⟨k, p, hc⟩ => ⟨k, p, hc.1, hc.2, hc.3, hc.4, hc.5, hc.6⟩

theorem calm_step (hS : S.Executable clock) (m : GateScheduleManager)
    (e : ManagerEvent GateBitvector) (m' : GateScheduleManager) (h : Executing clock S t0 m)
    (hc : Calm e) (hs : step clock m e = .ok m') : Executing clock S t0 m' := by
  cases e with
  | setAdminSchedule a =>
    rw [step] at hs
    obtain ⟨s, s', _, _, _, heq⟩ | ⟨_, _, _, _, _, heq⟩ | ⟨_, x, hx, heq⟩ := setAdminSchedule_cases m a
    · rw [heq] at hs
      cases hs
      exact executing_admin h s'
    · rw [heq] at hs
      cases hs
      exact h
    · rw [heq] at hs
      cases x with
      | runtimeError msg => exact absurd rfl (hx msg)
      | assertion => cases hs
      | undefinedBehaviour => cases hs
      | outOfFuel => cases hs
  | handleMessage => exact ScheduleManager.tracked_step hS m .handleMessage m' h trivial hs
  | onTimestamp => exact ScheduleManager.tracked_step hS m .onTimestamp m' h trivial hs
  | advance t => exact ScheduleManager.tracked_step hS m (.advance t) m' h trivial hs
  | setAdminState s => exact ScheduleManager.tracked_step hS m (.setAdminState s) m' h trivial hs
  | setEnabled b => exact ScheduleManager.tracked_step hS m (.setEnabled b) m' h hc hs
  | setConfigChange b => exact ScheduleManager.tracked_step hS m (.setConfigChange b) m' h hc hs

/-- a normalized schedule of whole clock ticks fills its cycles -/
theorem executable_of_normalized (hb : S.Built) (hn : S.isNormalized = true)
    (hne : S.controlList ≠ [])
    (ht : ∀ e ∈ S.controlList, ∃ n : ℕ, 0 < n ∧ e.timeInterval = n * clock.resolution) :
    S.Executable clock := by
  have htotal : S.total = S.cycleTime := hb.sum.symm.trans (of_decide_eq_true hn)
  refine ⟨hne, ?_, ht, htotal⟩
  have hlen := List.length_pos_iff.mpr hne
  obtain ⟨n, hpos, heq⟩ := ht _ (List.getElem_mem hlen)
  have hfirst := Schedule.startOf_succ (List.getElem?_eq_getElem hlen)
  have hmono := Schedule.startOf_mono hb.nonneg hlen
  have hn : (0 : ℚ) < n := by exact_mod_cast hpos
  have hinterval := mul_pos hn clock.resolution_pos
  rw [Schedule.startOf_of_le le_rfl, htotal] at hmono
  rw [S.startOf_zero] at hfirst
  linarith

theorem executing_run (hS : S.Executable clock) (a : GateBitvector)
    {es : List (ManagerEvent GateBitvector)} (hc : ∀ e ∈ es, Calm e)
    (hr : run (step clock) (start a S t0) es = .ok m) : Executing clock S t0 m :=
  run_invariant_of (calm_step hS)
    ⟨ScheduleManager.executes_start S a t0, ScheduleManager.tracked_start S a t0⟩
    (meets_of_forall hc _) hr

/-- **The closing time is exact in the states that tell**: at every moment of a run that executes a
normalized schedule, a query from another module, and one from a listener that the next message makes
the manager call, is answered exactly if and only if the state tells. -/
theorem exact_iff (hb : S.Built) (hn : S.isNormalized = true) (hne : S.controlList ≠ [])
    (ht : ∀ e ∈ S.controlList, ∃ n : ℕ, 0 < n ∧ e.timeInterval = n * clock.resolution)
    (a : GateBitvector) (t0 : SimTime) (es : List (ManagerEvent GateBitvector))
    (hc : ∀ e ∈ es, Calm e) (hr : run (step clock) (start a S t0) es = .ok m) (g : Nat) (hg : g < 8) :
    (Exact clock m m g ↔ Answerable false m g) ∧
    ∀ mid m', notified clock m = .ok (some mid) → step clock m .handleMessage = .ok m' →
      (Exact clock mid m' g ↔ Answerable true mid g) := by
  have hS := executable_of_normalized hb hn hne ht
  have h := executing_run hS a hc hr
  exact ⟨exact_outside_iff hS hn hg h, fun mid m' hmid hs => exact_listener_iff hS hn hg h hmid hs⟩

end states

/-! ## the schedule of the test -/

/-- 10 us, 20 us and 30 us -/
def threeIntervals : Schedule GateBitvector :=
  ⟨[⟨10 / 1000000, 3⟩, ⟨20 / 1000000, 5⟩, ⟨30 / 1000000, 7⟩], 0, 60 / 1000000, 0, 60 / 1000000⟩

/-- 10 us, with gate 0 open -/
def oneInterval : Schedule GateBitvector :=
  ⟨[⟨10 / 1000000, 3⟩], 0, 10 / 1000000, 0, 10 / 1000000⟩

/-- the clock goes on to `t`, and all that is due then is done -/
def goOn (t : SimTime) : List (ManagerEvent GateBitvector) :=
  [.advance t, .onTimestamp] ++ List.replicate 3 .handleMessage

/-- from the start at 0 to the first entry, of which `n` messages are handled -/
def toFirst (n : Nat) : List (ManagerEvent GateBitvector) :=
  List.replicate 6 .handleMessage ++ [.onTimestamp] ++ List.replicate n .handleMessage

/-- the run to the third entry, whose step is done and whose last message is not handled -/
def toThird : List (ManagerEvent GateBitvector) :=
  toFirst 4 ++ goOn (1 / 1000000) ++ goOn (10 / 1000000) ++
    [.advance (30 / 1000000), .onTimestamp, .handleMessage]

theorem threeIntervals_built : threeIntervals.Built := by
  refine ⟨by decide +kernel, ?_⟩
  intro e he
  simp only [threeIntervals, List.mem_cons, List.not_mem_nil, or_false] at he
  rcases he with rfl | rfl | rfl
  · norm_num
  · norm_num
  · norm_num

theorem threeIntervals_ticks : ∀ e ∈ threeIntervals.controlList, ∃ n : ℕ, 0 < n ∧
    e.timeInterval = n * ScheduleManager.microClock.resolution := by
  intro e he
  simp only [threeIntervals, List.mem_cons, List.not_mem_nil, or_false] at he
  rcases he with rfl | rfl | rfl
  · exact ⟨10, by omega, by norm_num [ScheduleManager.microClock, ClockRate.resolution]⟩
  · exact ⟨20, by omega, by norm_num [ScheduleManager.microClock, ClockRate.resolution]⟩
  · exact ⟨30, by omega, by norm_num [ScheduleManager.microClock, ClockRate.resolution]⟩

/-- gate 1, which the second entry closes, is asked for when the first entry is shown and the list
execution waits for the end of its interval: 10 us -/
theorem exact_iff_threeIntervals : ∃ m, run (step ScheduleManager.microClock)
      (start 15 threeIntervals 0) (toFirst 4) = .ok m ∧
    (m.nextGateCloseEvent 1 = .ok (some (10 / 1000000)) ∧ Answerable false m 1) ∧
    (Exact ScheduleManager.microClock m m 1 ↔ Answerable false m 1) ∧
    ∀ mid m', notified ScheduleManager.microClock m = .ok (some mid) →
      step ScheduleManager.microClock m .handleMessage = .ok m' →
      (Exact ScheduleManager.microClock mid m' 1 ↔ Answerable true mid 1) := by
  obtain ⟨m, hr, ha⟩ := exists_of_any (x := run (step ScheduleManager.microClock)
    (start 15 threeIntervals 0) (toFirst 4)) (p := fun m =>
      m.nextGateCloseEvent 1 = .ok (some (10 / 1000000)) ∧ Answerable false m 1) (by decide +kernel)
  exact ⟨m, hr, ha, exact_iff threeIntervals_built (by decide +kernel) (by decide)
    threeIntervals_ticks 15 0 (toFirst 4) (by decide +kernel) hr 1 (by omega)⟩

/-- before the INIT action there is an error; after the step of the first entry the gate that closes
10 us later is said to close at once; after the step of the last entry the assertion of the list
pointer fails; and in a list of one entry that of the cycle start, one tick after it -/
theorem not_exact_runs :
    nextGateCloseEvent (start 15 threeIntervals 0) 1 =
      .error (.runtimeError "ListExecute state machine is in invalid state!") ∧
    ¬Exact ScheduleManager.microClock (start 15 threeIntervals 0) (start 15 threeIntervals 0) 1 ∧
    (∃ m, run (step ScheduleManager.microClock) (start 15 threeIntervals 0) (toFirst 3) = .ok m ∧
      (m.operState.test 1 = true ∧ m.nextGateCloseEvent 1 = .ok (some 0)) ∧
      ¬Exact ScheduleManager.microClock m m 1) ∧
    (∃ m, run (step ScheduleManager.microClock) (start 15 threeIntervals 0) toThird = .ok m ∧
      m.nextGateCloseEvent 1 = .error (.assertion "listPointer < operControlListLength") ∧
      ¬Exact ScheduleManager.microClock m m 1) ∧
    ∃ m, run (step ScheduleManager.microClock) (start 15 oneInterval 0)
        (toFirst 4 ++ [.advance (1 / 1000000)]) = .ok m ∧
      m.nextGateCloseEvent 0 = .error (.assertion "cycleStartTime >= currentTime") ∧
      ¬Exact ScheduleManager.microClock m m 0 := by
  have hstart : nextGateCloseEvent (start 15 threeIntervals 0) 1 =
      .error (.runtimeError "ListExecute state machine is in invalid state!") :=
    eq_error_of (by decide +kernel)
  refine ⟨hstart, not_exact_of_eq_error hstart, ?_, ?_, ?_⟩
  · obtain ⟨m, hr, ha, hnot⟩ := exists_of_any (x := run (step ScheduleManager.microClock)
      (start 15 threeIntervals 0) (toFirst 3)) (p := fun m =>
        (m.operState.test 1 = true ∧ m.nextGateCloseEvent 1 = .ok (some 0)) ∧
          ¬Answerable false m 1) (by decide +kernel)
    have hS := executable_of_normalized threeIntervals_built (by decide +kernel) (by decide)
      threeIntervals_ticks
    have h := executing_run hS 15 (by decide +kernel) hr
    exact ⟨m, hr, ha, fun he =>
      hnot ((exact_outside_iff hS (by decide +kernel) (by omega) h).mp he)⟩
  · obtain ⟨m, hr, he⟩ := exists_of_any (x := run (step ScheduleManager.microClock)
      (start 15 threeIntervals 0) toThird) (p := fun m => errorOf (m.nextGateCloseEvent 1) =
        some (.assertion "listPointer < operControlListLength")) (by decide +kernel)
    exact ⟨m, hr, eq_error_of he, not_exact_of_eq_error (eq_error_of he)⟩
  · obtain ⟨m, hr, he⟩ := exists_of_any (x := run (step ScheduleManager.microClock)
      (start 15 oneInterval 0) (toFirst 4 ++ [.advance (1 / 1000000)])) (p := fun m =>
        errorOf (m.nextGateCloseEvent 0) =
          some (.assertion "cycleStartTime >= currentTime")) (by decide +kernel)
    exact ⟨m, hr, eq_error_of he, not_exact_of_eq_error (eq_error_of he)⟩

end GateScheduleManager
end Nesting
