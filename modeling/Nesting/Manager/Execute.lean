import Mathlib.Algebra.Order.Archimedean.Basic
import Nesting.Manager.ScheduleManager

/-!
# Executing a schedule

A manager that is enabled and gets no configuration change executes its schedule.  The cycles of a
schedule start at base time + k * cycle time; the first one that is executed is the first that does
not start before the manager does.

* `Executable`     the schedules this is about;
* `Booting`, `InCycle`   before the first cycle start, and within cycle `k` with `p` entries executed;
* `executes_schedule`   at rest the operative state is the entry active at this phase, and the
                   operations so far are the entries that were due, each once and in list order.
-/

set_option linter.unusedVariables false

namespace Nesting

/-! ## the schedule -/

namespace Schedule
variable {T : Type}

/-- entries of whole clock ticks that fill the cycle -/
structure Executable (clock : ClockRate) (s : Schedule T) : Prop where
  nonempty : s.controlList ≠ []
  cycle_pos : 0 < s.cycleTime
  ticks : ∀ e ∈ s.controlList, ∃ n : ℕ, 0 < n ∧ e.timeInterval = n * clock.resolution
  total : s.total = s.cycleTime

/-- where cycle `k` starts -/
def cycleAt (s : Schedule T) (k : ℕ) : SimTime := s.baseTime + k * s.cycleTime

/-- the first cycle that does not start before `t` -/
def firstCycle (s : Schedule T) (t : SimTime) : ℕ := ⌈(t - s.baseTime) / s.cycleTime⌉.toNat

/-- the operations of cycle `k`: time, list pointer and state -/
def cycleOperations (s : Schedule T) (k : ℕ) : List (SimTime × ℕ × T) :=
  s.controlList.mapIdx fun j e => (s.cycleAt k + s.startOf j, j, e.scheduledObject)

/-- the operations of the cycles from `k0` on that are due by `t` -/
def operationsBy (s : Schedule T) (k0 : ℕ) (t : SimTime) : List (SimTime × ℕ × T) :=
  ((List.range' k0 (⌊(t - s.baseTime) / s.cycleTime⌋.toNat + 1 - k0)).flatMap
    s.cycleOperations).filter fun o => o.1 ≤ t

theorem cycleAt_succ (s : Schedule T) (k : ℕ) :
    s.cycleAt (k + 1) = s.cycleAt k + s.cycleTime := by
  unfold cycleAt
  push_cast
  ring

theorem length_cycleOperations (s : Schedule T) (k : ℕ) :
    (s.cycleOperations k).length = s.controlList.length := by
  rw [cycleOperations, List.length_mapIdx]

theorem getElem?_cycleOperations {s : Schedule T} {j : ℕ} {e : ControlListEntry T}
    (h : s.controlList[j]? = some e) (k : ℕ) :
    (s.cycleOperations k)[j]? = some (s.cycleAt k + s.startOf j, j, e.scheduledObject) := by
  rw [cycleOperations, List.getElem?_mapIdx, h]
  rfl

namespace Executable
variable {clock : ClockRate} {s : Schedule T} (h : s.Executable clock)
include h

theorem length_pos : 0 < s.controlList.length := List.length_pos_iff.mpr h.nonempty

/-- an entry takes at least one tick -/
theorem resolution_le {e : ControlListEntry T} (he : e ∈ s.controlList) :
    clock.resolution ≤ e.timeInterval := by
  obtain ⟨n, hn, heq⟩ := h.ticks e he
  have h1 : (1 : ℚ) ≤ n := by exact_mod_cast hn
  rw [heq]
  exact le_mul_of_one_le_left clock.resolution_pos.le h1

theorem nonNeg : s.NonNeg := fun e he => clock.resolution_pos.le.trans (h.resolution_le he)

theorem startOf_lt_succ {j : ℕ} (hj : j < s.controlList.length) :
    s.startOf j < s.startOf (j + 1) := by
  have h1 := clock.resolution_pos.trans_le (h.resolution_le (List.getElem_mem hj))
  rw [startOf_succ (List.getElem?_eq_getElem hj)]
  linarith

theorem startOf_lt_cycle {j : ℕ} (hj : j < s.controlList.length) : s.startOf j < s.cycleTime := by
  rw [← h.total, ← startOf_of_le (le_refl s.controlList.length)]
  exact (h.startOf_lt_succ hj).trans_le (startOf_mono h.nonNeg hj)

theorem startOf_nonneg (j : ℕ) : 0 ≤ s.startOf j := by
  rw [← s.startOf_zero]
  exact startOf_mono h.nonNeg (Nat.zero_le j)

/-- a cycle takes at least one tick -/
theorem resolution_le_cycle : clock.resolution ≤ s.cycleTime := by
  have h1 := h.resolution_le (List.getElem_mem h.length_pos)
  have h2 := startOf_succ (List.getElem?_eq_getElem h.length_pos)
  have h3 := startOf_mono h.nonNeg h.length_pos
  rw [startOf_of_le le_rfl, h.total] at h3
  rw [s.startOf_zero] at h2
  linarith

theorem cycleAt_mono {j k : ℕ} (hjk : j ≤ k) : s.cycleAt j ≤ s.cycleAt k := by
  have h1 : (j : ℚ) ≤ k := by exact_mod_cast hjk
  have h2 := mul_le_mul_of_nonneg_right h1 h.cycle_pos.le
  unfold cycleAt
  linarith

/-- the first cycle is not early -/
theorem le_firstCycle (t : SimTime) : t ≤ s.cycleAt (s.firstCycle t) := by
  have h1 : (t - s.baseTime) / s.cycleTime ≤ s.firstCycle t := by
    have h2 := Int.le_ceil ((t - s.baseTime) / s.cycleTime)
    have h3 : (⌈(t - s.baseTime) / s.cycleTime⌉ : ℚ) ≤ s.firstCycle t := by
      exact_mod_cast Int.self_le_toNat _
    exact h2.trans h3
  rw [div_le_iff₀ h.cycle_pos] at h1
  unfold cycleAt
  linarith

end Executable
end Schedule

namespace ScheduleManager
variable {T : Type}

/-! ## the cycle start times -/

section cycleStart
variable {clock : ClockRate} {S : Schedule T}

theorem ceilQuotient_of_pos {a b : SimTime} (ha : 0 ≤ a) (hb : 0 < b) :
    ceilQuotient a b = .ok ⌈a / b⌉.toNat := by
  have h1 : 0 ≤ ⌈a / b⌉ := Int.ceil_nonneg (div_nonneg ha hb.le)
  unfold ceilQuotient
  rw [if_neg]
  rintro (h | h)
  · exact hb.ne' h
  · omega

/-- without a pending change the next cycle is the first that does not start before now -/
theorem nextCycleStart_eq {m : ScheduleManager T} (hS : S.Executable clock)
    (ho : m.operSchedule = S) (hp : m.configPending = false) :
    m.nextCycleStart = .ok (S.cycleAt (S.firstCycle m.now)) := by
  subst ho
  unfold nextCycleStart Schedule.getBaseTime Schedule.getCycleTime
  rw [if_pos hp]
  split
  · rename_i hle
    have h1 : ⌈(m.now - m.operSchedule.baseTime) / m.operSchedule.cycleTime⌉ ≤ 0 := by
      rw [Int.ceil_le]
      exact div_nonpos_of_nonpos_of_nonneg (sub_nonpos.mpr hle) hS.cycle_pos.le
    have h2 : m.operSchedule.firstCycle m.now = 0 := Int.toNat_of_nonpos h1
    rw [h2, Schedule.cycleAt, Nat.cast_zero, zero_mul, add_zero]
  · rename_i hlt
    rw [ceilQuotient_of_pos (sub_nonneg.mpr (not_le.mp hlt).le) hS.cycle_pos]
    rfl

/-- one tick into a cycle, the next cycle is the next one -/
theorem firstCycle_tick (hS : S.Executable clock) (k : ℕ) :
    S.firstCycle (S.cycleAt k + clock.resolution) = k + 1 := by
  have hc := hS.cycle_pos
  have h1 := clock.resolution_pos
  have h2 := hS.resolution_le_cycle
  have h3 : ⌈(S.cycleAt k + clock.resolution - S.baseTime) / S.cycleTime⌉ = (k + 1 : ℕ) := by
    unfold Schedule.cycleAt
    rw [Int.ceil_eq_iff, lt_div_iff₀ hc, div_le_iff₀ hc]
    push_cast
    constructor <;> linarith
  unfold Schedule.firstCycle
  rw [h3]
  rfl

end cycleStart
/-! ## the invariant -/

/-- the events of a run without configuration change and disabling -/
def Quiet : ManagerEvent T → Prop
  | .setAdminSchedule (some s) => 0 < s.cycleTime
  | .setAdminSchedule none => False
  | .setEnabled enabled => enabled = true
  | .setConfigChange configChange => configChange = false
  | _ => True

/-- the operations so far: time, list pointer and state -/
def operations (m : ScheduleManager T) : List (SimTime × ℕ × T) :=
  m.history.filterMap fun
    | .execute t i _ s => some (t, i, s)
    | _ => none

/-- what no quiet event touches -/
structure Undisturbed (S : Schedule T) (m : ScheduleManager T) : Prop where
  enabled : m.enabled = true
  configPending : m.configPending = false
  configChange : m.configChange = false
  operSchedule : m.operSchedule = S
  nextListConfigState : m.nextListConfigState = .CONFIG_IDLE

/-- the cycle timer within cycle `k` -/
inductive TimerAt (clock : ClockRate) (S : Schedule T) (k : ℕ)
    (a : Lib.Agenda StateMachine SimTime) (next : CycleTimerState) : Prop
  | tick (hn : next = .SET_CYCLE_START_TIME)
      (hw : a.Wakes .CYCLE_TIMER (S.cycleAt k + clock.resolution))
  | start (hn : next = .START_CYCLE) (hw : a.Wakes .CYCLE_TIMER (S.cycleAt (k + 1)))

/-- the list execution within cycle `k`, with `p` entries executed -/
inductive ListAt (S : Schedule T) (k : ℕ) (a : Lib.Agenda StateMachine SimTime)
    (next : ListExecuteState) (listPointer : ℕ) (exitTimer : SimTime) : ℕ → Prop
  | new (hn : next = .NEW_CYCLE) (hm : .LIST_EXECUTE ∈ a.messages)
      (ht : a.timestamps .LIST_EXECUTE = none) (hnow : a.now = S.cycleAt k) :
      ListAt S k a next listPointer exitTimer 0
  | execute (hn : next = .EXECUTE_CYCLE) (hlt : listPointer < S.controlList.length)
      (hw : a.Wakes .LIST_EXECUTE (S.cycleAt k + S.startOf listPointer)) :
      ListAt S k a next listPointer exitTimer listPointer
  | delay (hn : next = .DELAY) (hlt : listPointer < S.controlList.length)
      (hm : .LIST_EXECUTE ∈ a.messages) (ht : a.timestamps .LIST_EXECUTE = none)
      (hexit : a.now + exitTimer = S.cycleAt k + S.startOf listPointer) (hpos : 0 < exitTimer) :
      ListAt S k a next listPointer exitTimer listPointer
  | done (hn : next = .END_OF_CYCLE) (ht : a.timestamps .LIST_EXECUTE = none) :
      ListAt S k a next listPointer exitTimer S.controlList.length

/-- the cycle timer before the first cycle start -/
inductive BootTimerAt (S : Schedule T) (t0 : SimTime) (a : Lib.Agenda StateMachine SimTime)
    (next : CycleTimerState) : Prop
  | boot (hn : next = .CYCLE_IDLE ∨ next = .SET_CYCLE_START_TIME) (hw : a.Wakes .CYCLE_TIMER t0)
  | start (hn : next = .START_CYCLE) (hw : a.Wakes .CYCLE_TIMER (S.cycleAt (S.firstCycle t0)))

/-- before the first cycle start -/
structure Booting (S : Schedule T) (t0 : SimTime) (m : ScheduleManager T) : Prop where
  timer : BootTimerAt S t0 m.agenda m.nextCycleTimerState
  noTimestamp : m.agenda.timestamps .LIST_EXECUTE = none
  list : m.nextListExecuteState = .INIT ∨ m.nextListExecuteState = .END_OF_CYCLE
  executed : m.operations = []

/-- cycle `k` is under way and `p` of its entries are executed -/
structure InCycle (clock : ClockRate) (S : Schedule T) (t0 : SimTime) (m : ScheduleManager T)
    (k p : ℕ) : Prop where
  first : S.firstCycle t0 ≤ k
  timer : TimerAt clock S k m.agenda m.nextCycleTimerState
  list : ListAt S k m.agenda m.nextListExecuteState m.listPointer m.exitTimer p
  started : S.cycleAt k ≤ m.now
  shown : ∀ j e, p = j + 1 → S.controlList[j]? = some e →
    m.operState = e.scheduledObject ∧ S.cycleAt k + S.startOf j ≤ m.now
  executed : m.operations = (List.range' (S.firstCycle t0) (k - S.firstCycle t0)).flatMap
    S.cycleOperations ++ (S.cycleOperations k).take p

/-- what every quiet run keeps -/
def Executes (clock : ClockRate) (S : Schedule T) (t0 : SimTime) (m : ScheduleManager T) : Prop :=
  Undisturbed S m ∧ (Booting S t0 m ∨ ∃ k p, InCycle clock S t0 m k p)

section agenda
variable {clock : ClockRate} {S : Schedule T} {k p : ℕ} {a b : Lib.Agenda StateMachine SimTime}

theorem BootTimerAt.agrees {t0 : SimTime} {next : CycleTimerState} (h : BootTimerAt S t0 a next)
    (hab : Lib.Agenda.Agrees .CYCLE_TIMER a b) : BootTimerAt S t0 b next := by
  cases h with
  | boot hn hw => exact .boot hn (hab.wakes hw)
  | start hn hw => exact .start hn (hab.wakes hw)

theorem BootTimerAt.deliver {t0 : SimTime} {next : CycleTimerState} (h : BootTimerAt S t0 a next)
    {x : StateMachine} (hx : a.timestamps x = some a.now) :
    BootTimerAt S t0 (a.deliver x) next := by
  cases h with
  | boot hn hw => exact .boot hn (hw.deliver hx)
  | start hn hw => exact .start hn (hw.deliver hx)

theorem BootTimerAt.advance {t0 : SimTime} {next : CycleTimerState} (h : BootTimerAt S t0 a next)
    {t : SimTime} (ht : a.CanAdvance t) : BootTimerAt S t0 (a.advance t) next := by
  cases h with
  | boot hn hw => exact .boot hn (hw.advance ht)
  | start hn hw => exact .start hn (hw.advance ht)

theorem TimerAt.agrees {next : CycleTimerState} (h : TimerAt clock S k a next)
    (hab : Lib.Agenda.Agrees .CYCLE_TIMER a b) : TimerAt clock S k b next := by
  cases h with
  | tick hn hw => exact .tick hn (hab.wakes hw)
  | start hn hw => exact .start hn (hab.wakes hw)

theorem TimerAt.deliver {next : CycleTimerState} (h : TimerAt clock S k a next) {x : StateMachine}
    (hx : a.timestamps x = some a.now) : TimerAt clock S k (a.deliver x) next := by
  cases h with
  | tick hn hw => exact .tick hn (hw.deliver hx)
  | start hn hw => exact .start hn (hw.deliver hx)

theorem TimerAt.advance {next : CycleTimerState} (h : TimerAt clock S k a next) {t : SimTime}
    (ht : a.CanAdvance t) : TimerAt clock S k (a.advance t) next := by
  cases h with
  | tick hn hw => exact .tick hn (hw.advance ht)
  | start hn hw => exact .start hn (hw.advance ht)

variable {next : ListExecuteState} {listPointer : ℕ} {exitTimer : SimTime}

theorem ListAt.agrees (h : ListAt S k a next listPointer exitTimer p)
    (hab : Lib.Agenda.Agrees .LIST_EXECUTE a b) : ListAt S k b next listPointer exitTimer p := by
  cases h with
  | new hn hm ht hnow => exact .new hn (hab.2.1.mpr hm) (hab.2.2.trans ht) (hab.1.trans hnow)
  | execute hn hlt hw => exact .execute hn hlt (hab.wakes hw)
  | delay hn hlt hm ht hexit hpos =>
    refine .delay hn hlt (hab.2.1.mpr hm) (hab.2.2.trans ht) ?_ hpos
    rw [hab.1]
    exact hexit
  | done hn ht => exact .done hn (hab.2.2.trans ht)

theorem ListAt.deliver (h : ListAt S k a next listPointer exitTimer p) {x : StateMachine}
    (hx : a.timestamps x = some a.now) : ListAt S k (a.deliver x) next listPointer exitTimer p := by
  by_cases hne : .LIST_EXECUTE = x
  · subst hne
    cases h with
    | execute hn hlt hw => exact .execute hn hlt (hw.deliver hx)
    | new hn hm ht hnow => rw [ht] at hx; cases hx
    | delay hn hlt hm ht hexit hpos => rw [ht] at hx; cases hx
    | done hn ht => rw [ht] at hx; cases hx
  · exact h.agrees (Lib.Agenda.agrees_deliver hne)

theorem ListAt.advance (h : ListAt S k a next listPointer exitTimer p) {t : SimTime}
    (ht : a.CanAdvance t) : ListAt S k (a.advance t) next listPointer exitTimer p := by
  have hmem : .LIST_EXECUTE ∉ a.messages := by
    rw [ht.1.1]
    exact List.not_mem_nil
  cases h with
  | new hn hm _ hnow => exact absurd hm hmem
  | execute hn hlt hw => exact .execute hn hlt (hw.advance ht)
  | delay hn hlt hm _ hexit hpos => exact absurd hm hmem
  | done hn hts => exact .done hn hts

/-- at the start of the next cycle the list is through -/
theorem ListAt.through (hS : S.Executable clock) (h : ListAt S k a next listPointer exitTimer p)
    (hnow : S.cycleAt (k + 1) ≤ a.now) :
    p = S.controlList.length ∧ a.timestamps .LIST_EXECUTE = none := by
  have hc := hS.cycle_pos
  rw [Schedule.cycleAt_succ] at hnow
  cases h with
  | new _ _ _ h1 => linarith
  | execute _ hlt hw =>
    have h1 := hw.now_le
    have h2 := hS.startOf_lt_cycle hlt
    linarith
  | delay _ hlt _ _ hexit hpos =>
    have h2 := hS.startOf_lt_cycle hlt
    linarith
  | done _ ht => exact ⟨rfl, ht⟩

end agenda

/-! ## one event -/

section step
variable {clock : ClockRate} {S : Schedule T} {t0 : SimTime} {m m' : ScheduleManager T}
  {rest : List StateMachine}
open Lib.Agenda

theorem operations_record (m : ScheduleManager T) (t : SimTime) (i : ℕ) (s s' : T) :
    (m.history ++ [ManagerRecord.execute t i s s']).filterMap (fun
      | .execute t i _ s => some (t, i, s)
      | _ => none) = m.operations ++ [(t, i, s')] := by
  rw [List.filterMap_append]
  rfl

theorem operations_silent (m : ScheduleManager T) {r : ManagerRecord T}
    (h : ∀ t i s s', r ≠ .execute t i s s') :
    (m.history ++ [r]).filterMap (fun
      | .execute t i _ s => some (t, i, s)
      | _ => none) = m.operations := by
  rw [List.filterMap_append, operations]
  cases r with
  | execute t i s s' => exact absurd rfl (h t i s s')
  | cycleStart t => exact List.append_nil _
  | init t s s' => exact List.append_nil _
  | update t => exact List.append_nil _

/-- the timestamp that the start of a cycle asks for -/
theorem wakes_nextTick (hm : m.agenda.messages = .CYCLE_TIMER :: rest) :
    (((m.agenda.pop.unsubscribe .CYCLE_TIMER).reschedule .LIST_EXECUTE).subscribe
      (m.now + clock.resolution) .CYCLE_TIMER).Wakes .CYCLE_TIMER (m.now + clock.resolution) := by
  apply wakes_subscribe
  · rw [mem_reschedule]
    exact fun h => h.elim (by decide) (notMem_pop hm)
  · show m.now ≤ _
    have := clock.resolution_pos
    linarith

/-- the cycle timer's step before the first cycle -/
theorem booting_timer (hS : S.Executable clock) (hu : Undisturbed S m) (hb : Booting S t0 m)
    (hm : m.agenda.messages = .CYCLE_TIMER :: rest) (hs : CycleTimerStep clock m.popped m') :
    Executes clock S t0 m' := by
  have hmem := mem_of_head hm
  have hout := notMem_pop hm
  have hlist : Agrees .LIST_EXECUTE m.agenda (m.agenda.pop.unsubscribe .CYCLE_TIMER) :=
    agrees_handle (by decide) hm
  cases hs with
  | rest h =>
    rcases h with h | h
    · exact absurd (hu.enabled.symm.trans h) (by decide)
    · rcases hb.timer with ⟨h1 | h1, _⟩ | ⟨h1, _⟩ <;> exact absurd (h1.symm.trans h) (by decide)
  | idle he hn =>
    refine ⟨⟨hu.1, hu.2, hu.3, hu.4, hu.5⟩, .inl ⟨.boot (.inr rfl) (.inl ⟨?_, ?_, ?_⟩), ?_, hb.list,
      hb.executed⟩⟩
    · exact (mem_reschedule _ _ _).mpr (.inl rfl)
    · show (m.agenda.pop.unsubscribe .CYCLE_TIMER).timestamps .CYCLE_TIMER = none
      rw [timestamps_unsubscribe, if_pos rfl]
    · rcases hb.timer with ⟨_, hw⟩ | ⟨h1, _⟩
      · exact (hw.of_mem hmem).2
      · exact absurd (h1.symm.trans hn) (by decide)
    · exact (hlist.trans (agrees_reschedule (by decide))).2.2.trans hb.noTimestamp
  | setStartTime he hn t ht hle =>
    rcases hb.timer with ⟨_, hw⟩ | ⟨h1, _⟩
    · have hnow : m.now = t0 := (hw.of_mem hmem).2
      rw [nextCycleStart_eq (m := m.popped) hS hu.operSchedule hu.configPending] at ht
      cases ht
      change m.now ≤ S.cycleAt (S.firstCycle m.now) at hle
      rw [hnow] at hle
      refine ⟨⟨hu.1, hu.2, hu.3, hu.4, hu.5⟩, .inl ⟨.start rfl ?_, ?_, hb.list, hb.executed⟩⟩
      · show (Lib.Agenda.subscribe _ (S.cycleAt (S.firstCycle m.now)) _).Wakes _ _
        rw [hnow]
        apply wakes_subscribe hout
        show m.now ≤ _
        rw [hnow]
        exact hle
      · exact (hlist.trans (agrees_subscribe (by decide) _)).2.2.trans hb.noTimestamp
    · exact absurd (h1.symm.trans hn) (by decide)
  | startCycle he hn =>
    rcases hb.timer with ⟨h1 | h1, _⟩ | ⟨_, hw⟩
    · exact absurd (h1.symm.trans hn) (by decide)
    · exact absurd (h1.symm.trans hn) (by decide)
    have hnow : m.now = S.cycleAt (S.firstCycle t0) := (hw.of_mem hmem).2
    refine ⟨⟨hu.1, hu.2, hu.3, hu.4, hu.5⟩, .inr ⟨S.firstCycle t0, 0, le_rfl, .tick rfl ?_,
      .new rfl ?_ ?_ hnow, hnow.ge, fun j e h => by omega, ?_⟩⟩
    · rw [← hnow]
      exact wakes_nextTick hm
    · exact (mem_reschedule _ _ _).mpr (.inl rfl)
    · exact (hlist.trans (agrees_subscribe (by decide) _)).2.2.trans hb.noTimestamp
    · rw [Nat.sub_self, List.take_zero]
      exact (operations_silent m (by nofun)).trans hb.executed

/-- the cycle timer's step within a cycle -/
theorem inCycle_timer (hS : S.Executable clock) (hu : Undisturbed S m) {k p : ℕ}
    (hc : InCycle clock S t0 m k p) (hm : m.agenda.messages = .CYCLE_TIMER :: rest)
    (hs : CycleTimerStep clock m.popped m') : Executes clock S t0 m' := by
  have hmem := mem_of_head hm
  have hout := notMem_pop hm
  have hlist : Agrees .LIST_EXECUTE m.agenda (m.agenda.pop.unsubscribe .CYCLE_TIMER) :=
    agrees_handle (by decide) hm
  cases hs with
  | rest h =>
    rcases h with h | h
    · exact absurd (hu.enabled.symm.trans h) (by decide)
    · cases hc.timer with
      | tick hn _ => exact absurd (hn.symm.trans h) (by decide)
      | start hn _ => exact absurd (hn.symm.trans h) (by decide)
  | idle _ h =>
    cases hc.timer with
    | tick hn _ => exact absurd (hn.symm.trans h) (by decide)
    | start hn _ => exact absurd (hn.symm.trans h) (by decide)
  | setStartTime _ h t ht hle =>
    cases hc.timer with
    | start hn _ => exact absurd (hn.symm.trans h) (by decide)
    | tick hn hw =>
      have hnow : m.now = S.cycleAt k + clock.resolution := (hw.of_mem hmem).2
      rw [nextCycleStart_eq (m := m.popped) hS hu.operSchedule hu.configPending] at ht
      cases ht
      change m.now ≤ S.cycleAt (S.firstCycle m.now) at hle
      refine ⟨⟨hu.1, hu.2, hu.3, hu.4, hu.5⟩, .inr ⟨k, p, hc.first, .start rfl ?_,
        hc.list.agrees (hlist.trans (agrees_subscribe (by decide) _)), hc.started, hc.shown,
        hc.executed⟩⟩
      have hnext : S.firstCycle m.now = k + 1 := by
        rw [hnow]
        exact firstCycle_tick hS k
      rw [hnext] at hle
      show (Lib.Agenda.subscribe _ (S.cycleAt (S.firstCycle m.now)) _).Wakes _ _
      rw [hnext]
      exact wakes_subscribe hout hle
  | startCycle _ h =>
    cases hc.timer with
    | tick hn _ => exact absurd (hn.symm.trans h) (by decide)
    | start hn hw =>
      have hnow : m.now = S.cycleAt (k + 1) := (hw.of_mem hmem).2
      obtain ⟨hp, hts⟩ := hc.list.through hS hnow.ge
      refine ⟨⟨hu.1, hu.2, hu.3, hu.4, hu.5⟩, .inr ⟨k + 1, 0, hc.first.trans (Nat.le_succ k),
        .tick rfl ?_, .new rfl ?_ ?_ hnow, hnow.ge, fun j e h => by omega, ?_⟩⟩
      · rw [← hnow]
        exact wakes_nextTick hm
      · exact (mem_reschedule _ _ _).mpr (.inl rfl)
      · exact (hlist.trans (agrees_subscribe (by decide) _)).2.2.trans hts
      · -- the cycle that ends is complete
        have hall : (S.cycleOperations k).take p = S.cycleOperations k := by
          apply List.take_of_length_le
          rw [S.length_cycleOperations, hp]
        have hsplit : k + 1 - S.firstCycle t0 = k - S.firstCycle t0 + 1 := by
          have := hc.first
          omega
        have hlast : S.firstCycle t0 + (k - S.firstCycle t0) = k := by
          have := hc.first
          omega
        refine (operations_silent m (by nofun)).trans ?_
        rw [hc.executed, hall, List.take_zero, List.append_nil, hsplit, List.range'_concat,
          List.flatMap_append, one_mul, hlast, List.flatMap_singleton]

/-- the list execution's step before the first cycle -/
theorem booting_list (hu : Undisturbed S m) (hb : Booting S t0 m)
    (hm : m.agenda.messages = .LIST_EXECUTE :: rest) (hs : ListExecuteStep clock m.popped m') :
    Executes clock S t0 m' := by
  have htimer : Agrees .CYCLE_TIMER m.agenda (m.agenda.pop.unsubscribe .LIST_EXECUTE) :=
    agrees_handle (by decide) hm
  have hts : (m.agenda.pop.unsubscribe .LIST_EXECUTE).timestamps .LIST_EXECUTE = none := by
    rw [timestamps_unsubscribe, if_pos rfl]
  cases hs with
  | rest h =>
    exact ⟨⟨hu.1, hu.2, hu.3, hu.4, hu.5⟩, .inl ⟨hb.timer.agrees htimer, hts, hb.list, hb.executed⟩⟩
  | init he hn =>
    refine ⟨⟨hu.1, hu.2, hu.3, hu.4, hu.5⟩, .inl ⟨hb.timer.agrees (htimer.trans
      (agrees_reschedule (by decide))), hts, .inr rfl, ?_⟩⟩
    exact (operations_silent m (by nofun)).trans hb.executed
  | newCycle he hn => rcases hb.list with h | h <;> exact absurd (h.symm.trans hn) (by decide)
  | execute he hn => rcases hb.list with h | h <;> exact absurd (h.symm.trans hn) (by decide)
  | delay he hn => rcases hb.list with h | h <;> exact absurd (h.symm.trans hn) (by decide)

/-- the operation of entry `p` -/
theorem operationAt_entry (hS : S.Executable clock) (ho : m.operSchedule = S)
    (hp : m.listPointer < S.controlList.length) :
    m.operationAt clock = .ok (S.controlList[m.listPointer].scheduledObject,
      S.controlList[m.listPointer].timeInterval) := by
  subst ho
  have h1 := clock.resolution_pos.trans_le (hS.resolution_le (List.getElem_mem hp))
  have h2 : ¬ m.operSchedule.getControlListLength ≤ 0 := by
    show ¬ m.operSchedule.controlList.length ≤ 0
    omega
  unfold operationAt
  rw [if_neg h2]
  refine bind_ok.mpr ⟨(), ASSERT_ok.mpr (decide_eq_true hp), ?_⟩
  refine bind_ok.mpr ⟨_, Schedule.getScheduledObject_of_lt hp, ?_⟩
  refine bind_ok.mpr ⟨_, Schedule.getTimeInterval_of_lt hp, ?_⟩
  rw [if_neg (not_le.mpr h1)]
  rfl

/-- the list execution's step within a cycle -/
theorem inCycle_list (hS : S.Executable clock) (hu : Undisturbed S m) {k p : ℕ}
    (hc : InCycle clock S t0 m k p) (hm : m.agenda.messages = .LIST_EXECUTE :: rest)
    (hs : ListExecuteStep clock m.popped m') : Executes clock S t0 m' := by
  have hmem := mem_of_head hm
  have hout := notMem_pop hm
  have htimer : Agrees .CYCLE_TIMER m.agenda (m.agenda.pop.unsubscribe .LIST_EXECUTE) :=
    agrees_handle (by decide) hm
  have hts : (m.agenda.pop.unsubscribe .LIST_EXECUTE).timestamps .LIST_EXECUTE = none := by
    rw [timestamps_unsubscribe, if_pos rfl]
  have hin : ∀ a : Lib.Agenda StateMachine SimTime, .LIST_EXECUTE ∈ (a.reschedule
      .LIST_EXECUTE).messages := fun a => (mem_reschedule _ _ _).mpr (.inl rfl)
  cases hs with
  | rest h =>
    rcases h with h | h
    · exact absurd (hu.enabled.symm.trans h) (by decide)
    cases hc.list with
    | new hn => rcases h with h | h <;> exact absurd (hn.symm.trans h) (by decide)
    | execute hn => rcases h with h | h <;> exact absurd (hn.symm.trans h) (by decide)
    | delay hn => rcases h with h | h <;> exact absurd (hn.symm.trans h) (by decide)
    | done hn _ =>
      exact ⟨⟨hu.1, hu.2, hu.3, hu.4, hu.5⟩, .inr ⟨k, _, hc.first, hc.timer.agrees htimer,
        .done hn hts, hc.started, hc.shown, hc.executed⟩⟩
  | newCycle he h =>
    cases hc.list with
    | execute hn => exact absurd (hn.symm.trans h) (by decide)
    | delay hn => exact absurd (hn.symm.trans h) (by decide)
    | done hn => exact absurd (hn.symm.trans h) (by decide)
    | new _ _ _ hnow =>
      refine ⟨⟨hu.1, hu.2, hu.3, hu.4, hu.5⟩, .inr ⟨k, 0, hc.first,
        hc.timer.agrees (htimer.trans (agrees_reschedule (by decide))),
        .execute rfl hS.length_pos (.inl ⟨hin _, hts, ?_⟩), hc.started, hc.shown, hc.executed⟩⟩
      rw [S.startOf_zero, add_zero]
      exact hnow
  | execute he h t i ho =>
    cases hc.list with
    | new hn => exact absurd (hn.symm.trans h) (by decide)
    | delay hn => exact absurd (hn.symm.trans h) (by decide)
    | done hn => exact absurd (hn.symm.trans h) (by decide)
    | execute _ hlt hw =>
      have hnow : m.now = S.cycleAt k + S.startOf m.listPointer := (hw.of_mem hmem).2
      have hentry := List.getElem?_eq_getElem hlt
      rw [operationAt_entry (m := m.popped) hS hu.operSchedule hlt] at ho
      cases ho
      have hnext : ListAt S k
          ((m.agenda.pop.unsubscribe .LIST_EXECUTE).reschedule .LIST_EXECUTE)
          (if m.operSchedule.controlList.length ≤ m.listPointer + 1 then .END_OF_CYCLE
            else if S.controlList[m.listPointer].timeInterval ≤ 0 then .EXECUTE_CYCLE else .DELAY)
          (m.listPointer + 1) S.controlList[m.listPointer].timeInterval (m.listPointer + 1) := by
        have hpos := clock.resolution_pos.trans_le (hS.resolution_le (List.getElem_mem hlt))
        rw [hu.operSchedule]
        by_cases hlast : S.controlList.length ≤ m.listPointer + 1
        · rw [if_pos hlast, show m.listPointer + 1 = S.controlList.length by omega]
          exact .done rfl hts
        · rw [if_neg hlast, if_neg (not_le.mpr hpos)]
          refine .delay rfl (not_le.mp hlast) (hin _) hts ?_ hpos
          rw [Schedule.startOf_succ hentry, ← add_assoc, ← hnow]
          rfl
      refine ⟨⟨hu.1, hu.2, hu.3, hu.4, hu.5⟩, .inr ⟨k, m.listPointer + 1, hc.first,
        hc.timer.agrees (htimer.trans (agrees_reschedule (by decide))), hnext, hc.started, ?_, ?_⟩⟩
      · intro j e hj hje
        obtain rfl : m.listPointer = j := by omega
        rw [hentry] at hje
        cases hje
        exact ⟨rfl, hnow.ge⟩
      · refine (operations_record m _ _ _ _).trans ?_
        have hop : (S.cycleOperations k).take (m.listPointer + 1) =
            (S.cycleOperations k).take m.listPointer ++ [(m.now, m.listPointer,
              S.controlList[m.listPointer].scheduledObject)] := by
          rw [List.take_add_one, Schedule.getElem?_cycleOperations hentry, hnow]
          rfl
        rw [hc.executed, List.append_assoc, hop]
        rfl
  | delay he h =>
    cases hc.list with
    | new hn => exact absurd (hn.symm.trans h) (by decide)
    | execute hn => exact absurd (hn.symm.trans h) (by decide)
    | done hn => exact absurd (hn.symm.trans h) (by decide)
    | delay _ hlt _ _ hexit hpos =>
      have hle : m.now ≤ m.now + m.exitTimer := by linarith
      refine ⟨⟨hu.1, hu.2, hu.3, hu.4, hu.5⟩, .inr ⟨k, _, hc.first,
        hc.timer.agrees (htimer.trans (agrees_subscribe (by decide) _)),
        .execute rfl hlt ?_, hc.started, hc.shown, hc.executed⟩⟩
      show (Lib.Agenda.subscribe _ (m.now + m.exitTimer) _).Wakes _ (S.cycleAt k +
        S.startOf m.listPointer)
      rw [← hexit]
      exact wakes_subscribe hout hle
  | init he h =>
    cases hc.list with
    | new hn => exact absurd (hn.symm.trans h) (by decide)
    | execute hn => exact absurd (hn.symm.trans h) (by decide)
    | delay hn => exact absurd (hn.symm.trans h) (by decide)
    | done hn => exact absurd (hn.symm.trans h) (by decide)

/-- the list configuration stays idle -/
theorem executes_config (h : Executes clock S t0 m)
    (hm : m.agenda.messages = .LIST_CONFIG :: rest) (hs : ListConfigStep m.popped m') :
    Executes clock S t0 m' := by
  obtain ⟨hu, h⟩ := h
  have hagrees : ∀ x, x ≠ .LIST_CONFIG →
      Agrees x m.agenda (m.agenda.pop.unsubscribe .LIST_CONFIG) := fun x hx => agrees_handle hx hm
  have htimer := hagrees .CYCLE_TIMER (by decide)
  have hlist := hagrees .LIST_EXECUTE (by decide)
  cases hs with
  | rest hr =>
    rcases hr with hr | hr
    · exact absurd (hu.enabled.symm.trans hr) (by decide)
    · exact absurd (hu.nextListConfigState.symm.trans hr) (by decide)
  | pending _ hn => exact absurd (hu.nextListConfigState.symm.trans hn) (by decide)
  | update _ hn => exact absurd (hu.nextListConfigState.symm.trans hn) (by decide)
  | idle _ hn =>
    refine ⟨⟨hu.1, rfl, hu.3, hu.4, hu.5⟩, ?_⟩
    rcases h with hb | ⟨k, p, hc⟩
    · exact .inl ⟨hb.timer.agrees htimer, hlist.2.2.trans hb.noTimestamp, hb.list, hb.executed⟩
    · exact .inr ⟨k, p, hc.first, hc.timer.agrees htimer, hc.list.agrees hlist, hc.started,
        hc.shown, hc.executed⟩

theorem executes_handleMessage (hS : S.Executable clock) (h : Executes clock S t0 m) :
    ∃ m', m.handleMessage clock = .ok m' ∧ Executes clock S t0 m' := by
  have hkeep : ∀ m', m.handleMessage clock = .ok m' → Executes clock S t0 m' := by
    intro m' hm'
    rcases handleMessage_ok hm' with ⟨_, rfl⟩ | ⟨x, rest, hm, hs⟩
    · exact h
    cases x with
    | LIST_CONFIG => exact executes_config h hm hs
    | CYCLE_TIMER =>
      obtain ⟨hu, hb | ⟨k, p, hc⟩⟩ := h
      · exact booting_timer hS hu hb hm hs
      · exact inCycle_timer hS hu hc hm hs
    | LIST_EXECUTE =>
      obtain ⟨hu, hb | ⟨k, p, hc⟩⟩ := h
      · exact booting_list hu hb hm hs
      · exact inCycle_list hS hu hc hm hs
  obtain ⟨m', hm'⟩ : ∃ m', m.handleMessage clock = .ok m' := by
    obtain ⟨hu, hstage⟩ := h
    unfold handleMessage
    split
    · exact ⟨m, rfl⟩
    rename_i x rest hm
    cases x with
    | LIST_CONFIG =>
      apply updateListConfigState_total
      intro hn
      exact absurd (hu.nextListConfigState.symm.trans hn) (by decide)
    | CYCLE_TIMER =>
      apply updateCycleTimerState_total
      intro _
      exact ⟨_, nextCycleStart_eq (m := m.popped) hS hu.operSchedule hu.configPending,
        hS.le_firstCycle _⟩
    | LIST_EXECUTE =>
      apply updateListExecuteState_total
      intro hn
      rcases hstage with hb | ⟨k, p, hc⟩
      · rcases hb.list with h | h <;> exact absurd (h.symm.trans hn) (by decide)
      cases hc.list with
      | execute _ hlt _ => exact ⟨_, operationAt_entry (m := m.popped) hS hu.operSchedule hlt⟩
      | new h => exact absurd (h.symm.trans hn) (by decide)
      | delay h => exact absurd (h.symm.trans hn) (by decide)
      | done h => exact absurd (h.symm.trans hn) (by decide)
  exact ⟨m', hm', hkeep m' hm'⟩

theorem executes_onTimestamp (h : Executes clock S t0 m) : Executes clock S t0 m.onTimestamp := by
  rcases onTimestamp_cases m with heq | ⟨x, _, hx, heq⟩
  · rw [heq]
    exact h
  rw [heq]
  obtain ⟨hu, hb | ⟨k, p, hc⟩⟩ := h
  · refine ⟨⟨hu.1, hu.2, hu.3, hu.4, hu.5⟩, .inl ⟨hb.timer.deliver hx, ?_, hb.list,
      hb.executed⟩⟩
    · show (m.agenda.deliver x).timestamps .LIST_EXECUTE = none
      rw [timestamps_deliver]
      split
      · rfl
      · exact hb.noTimestamp
  · exact ⟨⟨hu.1, hu.2, hu.3, hu.4, hu.5⟩, .inr ⟨k, p, hc.first, hc.timer.deliver hx,
      hc.list.deliver hx, hc.started, hc.shown, hc.executed⟩⟩

theorem executes_advance (h : Executes clock S t0 m) (t : SimTime) :
    Executes clock S t0 (m.advance t) := by
  rcases advance_cases m t with heq | ⟨ht, heq⟩
  · rw [heq]
    exact h
  rw [heq]
  have hlt : m.now < t := ht.2.1
  obtain ⟨hu, hb | ⟨k, p, hc⟩⟩ := h
  · exact ⟨⟨hu.1, hu.2, hu.3, hu.4, hu.5⟩, .inl ⟨hb.timer.advance ht, hb.noTimestamp, hb.list,
      hb.executed⟩⟩
  · refine ⟨⟨hu.1, hu.2, hu.3, hu.4, hu.5⟩, .inr ⟨k, p, hc.first, hc.timer.advance ht,
      hc.list.advance ht, hc.started.trans hlt.le, ?_, hc.executed⟩⟩
    intro j e hj he
    obtain ⟨h1, h2⟩ := hc.shown j e hj he
    exact ⟨h1, h2.trans hlt.le⟩

/-- **One event** of a quiet run succeeds and keeps the schedule executing. -/
theorem executes_step (hS : S.Executable clock) (m : ScheduleManager T) (e : ManagerEvent T)
    (h : Executes clock S t0 m) (hq : Quiet e) :
    ∃ m', step clock m e = .ok m' ∧ Executes clock S t0 m' := by
  cases e with
  | handleMessage => exact executes_handleMessage hS h
  | onTimestamp => exact ⟨_, rfl, executes_onTimestamp h⟩
  | advance t => exact ⟨_, rfl, executes_advance h t⟩
  | setAdminState a =>
    obtain ⟨hu, hstage⟩ := h
    refine ⟨_, rfl, ⟨hu.1, hu.2, hu.3, hu.4, hu.5⟩, ?_⟩
    exact hstage.imp (fun hb => ⟨hb.1, hb.2, hb.3, hb.4⟩)
      fun ⟨k, p, hc⟩ => ⟨k, p, hc.1, hc.2, hc.3, hc.4, hc.5, hc.6⟩
  | setAdminSchedule s =>
    cases s with
    | none => exact absurd hq id
    | some s =>
      obtain ⟨hu, hstage⟩ := h
      refine ⟨_, if_neg (not_le.mpr hq), ⟨hu.1, hu.2, hu.3, hu.4, hu.5⟩, ?_⟩
      exact hstage.imp (fun hb => ⟨hb.1, hb.2, hb.3, hb.4⟩)
        fun ⟨k, p, hc⟩ => ⟨k, p, hc.1, hc.2, hc.3, hc.4, hc.5, hc.6⟩
  | setEnabled b =>
    obtain rfl : b = true := hq
    obtain ⟨hu, hstage⟩ := h
    have heq : m.setEnabled true = { m with enabled := true } := by
      unfold setEnabled
      dsimp only
      rw [hu.configChange]
      rfl
    refine ⟨_, congrArg Except.ok heq, ⟨rfl, hu.2, hu.3, hu.4, hu.5⟩, ?_⟩
    exact hstage.imp (fun hb => ⟨hb.1, hb.2, hb.3, hb.4⟩)
      fun ⟨k, p, hc⟩ => ⟨k, p, hc.1, hc.2, hc.3, hc.4, hc.5, hc.6⟩
  | setConfigChange b =>
    obtain rfl : b = false := hq
    obtain ⟨hu, hstage⟩ := h
    refine ⟨_, rfl, ⟨hu.1, hu.2, rfl, hu.4, hu.5⟩, ?_⟩
    exact hstage.imp (fun hb => ⟨hb.1, hb.2, hb.3, hb.4⟩)
      fun ⟨k, p, hc⟩ => ⟨k, p, hc.1, hc.2, hc.3, hc.4, hc.5, hc.6⟩

/-! ## at rest -/

theorem executes_start (S : Schedule T) (a : T) (t0 : SimTime) :
    Executes clock S t0 (start a S t0) := by
  have hm : .CYCLE_TIMER ∈ (start a S t0).agenda.messages := List.mem_cons_self
  exact ⟨⟨rfl, rfl, rfl, rfl, rfl⟩, .inl ⟨.boot (.inl rfl) (.inl ⟨hm, rfl, rfl⟩), rfl, .inl rfl,
    rfl⟩⟩

/-- before the first cycle nothing is due -/
theorem booting_settled (hS : S.Executable clock) (hb : Booting S t0 m)
    (hs : m.agenda.Settled) : m.now < S.cycleAt (S.firstCycle t0) := by
  rcases hb.timer with ⟨_, hw⟩ | ⟨_, hw⟩
  · exact (hw.of_settled hs).2.trans_le (hS.le_firstCycle t0)
  · exact (hw.of_settled hs).2

/-- within a cycle an entry is active -/
theorem inCycle_settled (hS : S.Executable clock) {k p : ℕ} (hc : InCycle clock S t0 m k p)
    (hs : m.agenda.Settled) : m.now < S.cycleAt (k + 1) ∧ ∃ j, p = j + 1 ∧
      j < S.controlList.length ∧ m.now < S.cycleAt k + S.startOf (j + 1) := by
  have hnext : m.now < S.cycleAt (k + 1) := by
    cases hc.timer with
    | tick _ hw =>
      have h1 : m.now < _ := (hw.of_settled hs).2
      have h2 := hS.resolution_le_cycle
      rw [Schedule.cycleAt_succ]
      linarith
    | start _ hw => exact (hw.of_settled hs).2
  have hempty : ∀ x, x ∉ m.agenda.messages := by
    intro x
    rw [hs.1]
    exact List.not_mem_nil
  refine ⟨hnext, ?_⟩
  have hstarted := hc.started
  cases hc.list with
  | new _ hm => exact absurd hm (hempty _)
  | delay _ _ hm => exact absurd hm (hempty _)
  | execute _ hlt hw =>
    have hnow : m.now < _ := (hw.of_settled hs).2
    obtain ⟨j, hj⟩ : ∃ j, m.listPointer = j + 1 := by
      apply Nat.exists_eq_succ_of_ne_zero
      intro h0
      rw [h0, S.startOf_zero] at hnow
      linarith
    rw [hj] at hnow
    exact ⟨j, hj, by omega, hnow⟩
  | done =>
    have hn := hS.length_pos
    refine ⟨S.controlList.length - 1, by omega, by omega, ?_⟩
    rw [Nat.sub_add_cancel hn, Schedule.startOf_of_le le_rfl, hS.total, ← S.cycleAt_succ]
    exact hnext

/-- the operations of the cycles before `k` are due when cycle `k` starts -/
theorem due_before (hS : S.Executable clock) {k i : ℕ} (hi : i < k) {o : SimTime × ℕ × T}
    (ho : o ∈ S.cycleOperations i) : o.1 ≤ S.cycleAt k := by
  obtain ⟨j, hj, rfl⟩ := List.mem_iff_getElem.mp ho
  rw [S.length_cycleOperations] at hj
  have h1 := Schedule.getElem?_cycleOperations (List.getElem?_eq_getElem hj) i
  rw [List.getElem?_eq_getElem (by rwa [S.length_cycleOperations])] at h1
  rw [Option.some.inj h1]
  have h2 := hS.startOf_lt_cycle hj
  have h3 := hS.cycleAt_mono (Nat.succ_le_of_lt hi)
  rw [Schedule.cycleAt_succ] at h3
  show S.cycleAt i + S.startOf j ≤ _
  linarith

/-- the operations of a cycle that are due, when entry `j` is active -/
theorem due_within (hS : S.Executable clock) {k j : ℕ} {t : SimTime}
    (h1 : S.cycleAt k + S.startOf j ≤ t) (h2 : t < S.cycleAt k + S.startOf (j + 1)) :
    (S.cycleOperations k).filter (fun o => o.1 ≤ t) = (S.cycleOperations k).take (j + 1) := by
  have htime : ∀ i (hi : i < (S.cycleOperations k).length),
      ((S.cycleOperations k)[i]).1 = S.cycleAt k + S.startOf i := by
    intro i hi
    have hi' : i < S.controlList.length := by rwa [S.length_cycleOperations] at hi
    have h := Schedule.getElem?_cycleOperations (List.getElem?_eq_getElem hi') k
    rw [List.getElem?_eq_getElem hi] at h
    rw [Option.some.inj h]
  conv_lhs => rw [← List.take_append_drop (j + 1) (S.cycleOperations k)]
  rw [List.filter_append]
  have hfirst : ((S.cycleOperations k).take (j + 1)).filter (fun o => o.1 ≤ t) =
      (S.cycleOperations k).take (j + 1) := by
    apply List.filter_eq_self.mpr
    intro o ho
    obtain ⟨i, hi, rfl⟩ := List.mem_take_iff_getElem.mp ho
    have h3 := Schedule.startOf_mono hS.nonNeg (show i ≤ j by omega)
    rw [decide_eq_true_iff, htime]
    linarith
  have hlast : ((S.cycleOperations k).drop (j + 1)).filter (fun o => o.1 ≤ t) = [] := by
    apply List.filter_eq_nil_iff.mpr
    intro o ho
    obtain ⟨i, hi, rfl⟩ := List.mem_drop_iff_getElem.mp ho
    have h3 := Schedule.startOf_mono hS.nonNeg (show j + 1 ≤ j + 1 + i by omega)
    rw [decide_eq_true_iff, htime]
    linarith
  rw [hfirst, hlast, List.append_nil]

/-- the cycle that `t` lies in -/
theorem cycle_of_mem (hS : S.Executable clock) {k : ℕ} {t : SimTime} (h1 : S.cycleAt k ≤ t)
    (h2 : t < S.cycleAt (k + 1)) : ⌊(t - S.baseTime) / S.cycleTime⌋ = (k : ℤ) := by
  have hc := hS.cycle_pos
  unfold Schedule.cycleAt at h1 h2
  push_cast at h2
  rw [Int.floor_eq_iff, le_div_iff₀ hc, div_lt_iff₀ hc]
  push_cast
  constructor <;> linarith

theorem operations_settled (hS : S.Executable clock) (h : Executes clock S t0 m)
    (hs : m.agenda.Settled) : m.operations = S.operationsBy (S.firstCycle t0) m.now := by
  rcases h.2 with hb | ⟨k, p, hc⟩
  · have hlt := booting_settled hS hb hs
    rw [hb.executed, Schedule.operationsBy, eq_comm, List.filter_eq_nil_iff]
    intro o ho
    obtain ⟨i, hi, hoi⟩ := List.mem_flatMap.mp ho
    obtain ⟨j, hj, rfl⟩ := List.mem_iff_getElem.mp hoi
    have hj' : j < S.controlList.length := by rwa [S.length_cycleOperations] at hj
    have h1 := Schedule.getElem?_cycleOperations (List.getElem?_eq_getElem hj') i
    rw [List.getElem?_eq_getElem hj] at h1
    have h2 := hS.cycleAt_mono (List.mem_range'_1.mp hi).1
    have h3 := hS.startOf_nonneg j
    rw [Option.some.inj h1, decide_eq_true_iff]
    show ¬ S.cycleAt i + S.startOf j ≤ m.now
    linarith
  · obtain ⟨hnext, j, rfl, hj, hlt⟩ := inCycle_settled hS hc hs
    obtain ⟨_, hge⟩ := hc.shown j _ rfl (List.getElem?_eq_getElem hj)
    have hfirst := hc.first
    have hcount : k + 1 - S.firstCycle t0 = k - S.firstCycle t0 + 1 := by omega
    have hlast : S.firstCycle t0 + (k - S.firstCycle t0) = k := by omega
    rw [hc.executed, Schedule.operationsBy, cycle_of_mem hS hc.started hnext, Int.toNat_natCast,
      hcount, List.range'_concat, one_mul, hlast, List.flatMap_append, List.flatMap_singleton,
      List.filter_append, due_within hS hge hlt]
    congr 1
    rw [eq_comm, List.filter_eq_self]
    intro o ho
    obtain ⟨i, hi, hoi⟩ := List.mem_flatMap.mp ho
    have hik : i < k := by
      have := (List.mem_range'_1.mp hi).2
      omega
    rw [decide_eq_true_iff]
    exact (due_before hS hik hoi).trans hc.started

theorem operState_settled (hS : S.Executable clock) (h : Executes clock S t0 m)
    (hs : m.agenda.Settled) (ht : S.cycleAt (S.firstCycle t0) ≤ m.now) :
    Lib.activeAt S.pieces (Lib.phase S.baseTime S.cycleTime m.now) = some m.operState := by
  rcases h.2 with hb | ⟨k, p, hc⟩
  · exact absurd ht (not_le.mpr (booting_settled hS hb hs))
  · obtain ⟨hnext, j, rfl, hj, hlt⟩ := inCycle_settled hS hc hs
    have hentry := List.getElem?_eq_getElem hj
    obtain ⟨hshown, hge⟩ := hc.shown j _ rfl hentry
    have hphase : Lib.phase S.baseTime S.cycleTime m.now = m.now - S.cycleAt k := by
      have h1 := hc.started
      rw [Schedule.cycleAt_succ] at hnext
      exact Lib.phase_eq (k : ℤ) h1 hnext
    rw [hphase, hshown]
    apply Schedule.activeAt_pieces hS.nonNeg hentry <;> linarith

/-- **The schedule is executed.**  At rest the operations so far are those that were due since the
first cycle start, each once and in list order, and from then on the operative state is the entry
active at the phase of the local time. -/
theorem executes_schedule (hS : S.Executable clock) (a : T) (t0 : SimTime)
    (es : List (ManagerEvent T)) (hq : ∀ e ∈ es, Quiet e) :
    ∃ m, Lib.run (step clock) (start a S t0) es = .ok m ∧ (m.agenda.Settled →
      m.operations = S.operationsBy (S.firstCycle t0) m.now ∧
      (S.cycleAt (S.firstCycle t0) ≤ m.now →
        Lib.activeAt S.pieces (Lib.phase S.baseTime S.cycleTime m.now) = some m.operState)) := by
  obtain ⟨m, hrun, hm⟩ := Lib.run_total (executes_step hS) (executes_start S a t0) hq
  exact ⟨m, hrun, fun hs => ⟨operations_settled hS hm hs, operState_settled hS hm hs⟩⟩

end step

/-- a clock of one microsecond -/
def microClock : ClockRate := ⟨1000000, by norm_num⟩

/-- two entries of 1 us, with a base time 1 us before the start of the clock -/
def earlyBase : Schedule ℕ :=
  ⟨[⟨1 / 1000000, 1⟩, ⟨1 / 1000000, 2⟩], -1 / 1000000, 2 / 1000000, 0, 2 / 1000000⟩

theorem earlyBase_executable : earlyBase.Executable microClock := by
  refine ⟨by decide, by decide +kernel, ?_, by decide +kernel⟩
  intro e he
  refine ⟨1, Nat.one_pos, ?_⟩
  have h1 : e.timeInterval = 1 / 1000000 := by
    rcases List.mem_pair.mp he with rfl | rfl <;> rfl
  rw [h1]
  norm_num [microClock, ClockRate.resolution]

/-- at the local time 0 the cycle that began at -1 us shows its second entry, but nothing is
executed before 1 us -/
theorem executes_schedule_earlyBase : earlyBase.Executable microClock ∧
    ∃ m, Lib.run (step microClock) (start 0 earlyBase 0) (List.replicate 6 .handleMessage) = .ok m ∧
      m.agenda.Settled ∧ earlyBase.baseTime ≤ m.now ∧ m.operState = 0 ∧
      Lib.activeAt earlyBase.pieces
        (Lib.phase earlyBase.baseTime earlyBase.cycleTime m.now) = some 2 :=
  ⟨earlyBase_executable, exists_of_any (by decide +kernel)⟩

/-- the run to 1 us, with the timestamp for the first cycle start -/
theorem executes_schedule_first : ∃ m, Lib.run (step microClock) (start 0 earlyBase 0)
    (List.replicate 6 .handleMessage ++ [.advance (1 / 1000000), .onTimestamp] ++
      List.replicate 4 .handleMessage) = .ok m ∧ (m.agenda.Settled →
      m.operations = earlyBase.operationsBy (earlyBase.firstCycle 0) m.now ∧
      (earlyBase.cycleAt (earlyBase.firstCycle 0) ≤ m.now →
        Lib.activeAt earlyBase.pieces (Lib.phase earlyBase.baseTime earlyBase.cycleTime m.now) =
          some m.operState)) := by
  apply executes_schedule earlyBase_executable
  intro e he
  rcases List.mem_append.mp he with he | he
  · rcases List.mem_append.mp he with he | he
    · rw [List.eq_of_mem_replicate he]
      trivial
    · rcases List.mem_pair.mp he with rfl | rfl <;> trivial
  · rw [List.eq_of_mem_replicate he]
    trivial

end ScheduleManager
end Nesting
