import Nesting.Manager.Execute

/-!
# The states that are shown

`listExecuteState` is the state of the last step of the list execution; the invariants of the execution
are about the next one.  While a schedule is executed the two belong together, and so do `cycleStartTime`
and the cycle timer.

* `Tracked`       how they do;
* `tracked_step`  every quiet event keeps it.
-/

set_option linter.unusedVariables false

namespace Nesting
open Lib

namespace ScheduleManager
variable {T : Type} {clock : ClockRate} {S : Schedule T} {t0 : SimTime} {m m' : ScheduleManager T}
  {rest : List StateMachine}
open Lib.Agenda

structure Tracked (S : Schedule T) (t0 : SimTime) (m : ScheduleManager T) : Prop where
  since : t0 ≤ m.now
  config : m.agenda.timestamps .LIST_CONFIG = none
  timer : m.nextCycleTimerState = .START_CYCLE → m.agenda.Wakes .CYCLE_TIMER m.cycleStartTime
  waiting : m.listExecuteState = .INIT ∨ m.listExecuteState = .END_OF_CYCLE →
    m.nextListExecuteState = .END_OF_CYCLE ∨ m.nextListExecuteState = .NEW_CYCLE
  begun : m.listExecuteState = .NEW_CYCLE → m.nextListExecuteState = .EXECUTE_CYCLE ∧
    m.listPointer = 0 ∧ .LIST_EXECUTE ∈ m.agenda.messages
  /-- the entry was executed at this instant -/
  executed : m.listExecuteState = .EXECUTE_CYCLE → .LIST_EXECUTE ∈ m.agenda.messages ∧
    (∃ o, m.operations.getLast? = some o ∧ o.1 = m.now) ∧
    (m.nextListExecuteState = .DELAY ∨
      m.nextListExecuteState = .END_OF_CYCLE ∧ m.listPointer = S.controlList.length)
  delayed : m.listExecuteState = .DELAY → m.nextListExecuteState = .EXECUTE_CYCLE

theorem tracked_start (S : Schedule T) (a : T) (t0 : SimTime) : Tracked S t0 (start a S t0) where
  since := le_rfl
  config := rfl
  timer := nofun
  waiting h := h.elim nofun nofun
  begun := nofun
  executed := nofun
  delayed := nofun

/-- what no list execution does -/
theorem Tracked.frame (h : Tracked S t0 m) (hnow : m'.now = m.now)
    (hconfig : m'.agenda.timestamps .LIST_CONFIG = none)
    (htimer : m'.nextCycleTimerState = .START_CYCLE →
      m'.agenda.Wakes .CYCLE_TIMER m'.cycleStartTime)
    (hmem : .LIST_EXECUTE ∈ m.agenda.messages → .LIST_EXECUTE ∈ m'.agenda.messages)
    (hstate : m'.listExecuteState = m.listExecuteState)
    (hnext : m'.nextListExecuteState = m.nextListExecuteState)
    (hpointer : m'.listPointer = m.listPointer) (hops : m'.operations = m.operations) :
    Tracked S t0 m' := by
  refine ⟨h.since.trans_eq hnow.symm, hconfig, htimer, ?_, ?_, ?_, ?_⟩
  · rw [hstate, hnext]
    exact h.waiting
  · rw [hstate, hnext, hpointer]
    exact fun hs => (h.begun hs).imp_right fun hb => hb.imp_right hmem
  · rw [hstate, hnext, hpointer, hops, hnow]
    exact fun hs => (h.executed hs).imp_left hmem
  · rw [hstate, hnext]
    exact h.delayed

/-! ## the cycle timer -/

/-- the last entry of a cycle is executed before the next cycle starts -/
theorem InCycle.last_lt (hS : S.Executable clock) {k p : ℕ} (hc : InCycle clock S t0 m k p)
    (hp : p = S.controlList.length) {o : SimTime × ℕ × T} (ho : m.operations.getLast? = some o) :
    o.1 < S.cycleAt (k + 1) := by
  have hn := hS.length_pos
  have hlast : S.controlList.length - 1 < S.controlList.length := by omega
  have hentry := List.getElem?_eq_getElem hlast
  have hall : (S.cycleOperations k).take p = S.cycleOperations k := by
    apply List.take_of_length_le
    rw [S.length_cycleOperations, hp]
  have hop : (S.cycleOperations k).getLast? = some (S.cycleAt k +
      S.startOf (S.controlList.length - 1), S.controlList.length - 1,
      S.controlList[S.controlList.length - 1].scheduledObject) := by
    rw [List.getLast?_eq_getElem?, S.length_cycleOperations]
    exact Schedule.getElem?_cycleOperations hentry k
  rw [hc.executed, hall, List.getLast?_append, hop] at ho
  cases ho
  have hlt := hS.startOf_lt_cycle hlast
  rw [Schedule.cycleAt_succ]
  show S.cycleAt k + S.startOf (S.controlList.length - 1) < _
  linarith

/-- when a cycle starts, the list execution waits for it -/
theorem Tracked.waits (hS : S.Executable clock) (h : Executes clock S t0 m) (ht : Tracked S t0 m)
    (hm : .CYCLE_TIMER ∈ m.agenda.messages) (hn : m.nextCycleTimerState = .START_CYCLE) :
    m.listExecuteState = .UNDEFINED ∨ m.listExecuteState = .INIT ∨
      m.listExecuteState = .END_OF_CYCLE := by
  -- the next state is INIT or END_OF_CYCLE, and the last operation is over
  have hnext : (m.nextListExecuteState = .INIT ∨ m.nextListExecuteState = .END_OF_CYCLE) ∧
      ∀ o, m.operations.getLast? = some o → o.1 < m.now := by
    obtain ⟨_, hb | ⟨k, p, hc⟩⟩ := h
    · refine ⟨hb.list, fun o ho => ?_⟩
      rw [hb.executed] at ho
      cases ho
    · cases hc.timer with
      | tick hn' _ => exact absurd (hn'.symm.trans hn) nofun
      | start _ hw =>
        have hnow : m.now = S.cycleAt (k + 1) := (hw.of_mem hm).2
        obtain ⟨hp, _⟩ := hc.list.through hS hnow.ge
        refine ⟨?_, fun o ho => ?_⟩
        · cases hc.list with
          | new => exact absurd hp hS.length_pos.ne
          | execute _ hlt => exact absurd hp hlt.ne
          | delay _ hlt => exact absurd hp hlt.ne
          | done hd => exact .inr hd
        · rw [hnow]
          exact hc.last_lt hS hp ho
  cases hs : m.listExecuteState with
  | UNDEFINED => exact .inl rfl
  | INIT => exact .inr (.inl rfl)
  | END_OF_CYCLE => exact .inr (.inr rfl)
  | NEW_CYCLE =>
    have h1 := (ht.begun hs).1
    exact hnext.1.elim (fun h => absurd (h.symm.trans h1) nofun)
      fun h => absurd (h.symm.trans h1) nofun
  | EXECUTE_CYCLE =>
    obtain ⟨_, ⟨o, ho, hnow⟩, _⟩ := ht.executed hs
    exact absurd hnow (hnext.2 o ho).ne
  | DELAY =>
    have h1 := ht.delayed hs
    exact hnext.1.elim (fun h => absurd (h.symm.trans h1) nofun)
      fun h => absurd (h.symm.trans h1) nofun

theorem tracked_timer (hS : S.Executable clock) (h : Executes clock S t0 m) (ht : Tracked S t0 m)
    (hm : m.agenda.messages = .CYCLE_TIMER :: rest) (hs : CycleTimerStep clock m.popped m') :
    Tracked S t0 m' := by
  have hmem := mem_of_head hm
  have hout := notMem_pop hm
  have hlist : Agrees .LIST_EXECUTE m.agenda (m.agenda.pop.unsubscribe .CYCLE_TIMER) :=
    agrees_handle (by decide) hm
  have hconfig : Agrees .LIST_CONFIG m.agenda (m.agenda.pop.unsubscribe .CYCLE_TIMER) :=
    agrees_handle (by decide) hm
  cases hs with
  | rest hr =>
    have hundefined := hr.resolve_left fun he => absurd (h.1.enabled.symm.trans he) nofun
    exact ht.frame rfl (hconfig.2.2.trans ht.config) (fun hn => absurd (hn.symm.trans hundefined) nofun)
      hlist.2.1.mpr rfl rfl rfl rfl
  | idle =>
    exact ht.frame rfl ((hconfig.trans (agrees_reschedule (by decide))).2.2.trans ht.config) nofun
      (hlist.trans (agrees_reschedule (by decide))).2.1.mpr rfl rfl rfl rfl
  | setStartTime _ _ t _ hle =>
    exact ht.frame rfl ((hconfig.trans (agrees_subscribe (by decide) _)).2.2.trans ht.config)
      (fun _ => wakes_subscribe hout hle) (hlist.trans (agrees_subscribe (by decide) _)).2.1.mpr
      rfl rfl rfl rfl
  | startCycle _ hn =>
    have hwaits := ht.waits hS h hmem hn
    refine ⟨ht.since, ?_, nofun, fun _ => .inr rfl, ?_, ?_, ?_⟩
    · exact (hconfig.trans ((agrees_reschedule (by decide)).trans
        (agrees_subscribe (by decide) _))).2.2.trans ht.config
    all_goals
      intro hstate
      have hstate : m.listExecuteState = _ := hstate
      rw [hstate] at hwaits
      obtain h | h | h := hwaits
      all_goals cases h

/-! ## the list execution -/

/-- the delays within a cycle are positive -/
theorem Executes.delay_pos (h : Executes clock S t0 m) (hn : m.nextListExecuteState = .DELAY) :
    0 < m.exitTimer := by
  obtain ⟨_, hb | ⟨k, p, hc⟩⟩ := h
  · exact hb.list.elim (fun h => absurd (h.symm.trans hn) nofun) fun h => absurd (h.symm.trans hn) nofun
  · cases hc.list with
    | new h => exact absurd (h.symm.trans hn) nofun
    | execute h => exact absurd (h.symm.trans hn) nofun
    | delay _ _ _ _ _ hpos => exact hpos
    | done h => exact absurd (h.symm.trans hn) nofun

/-- the entry that is executed next -/
theorem Executes.pointer_lt (h : Executes clock S t0 m)
    (hn : m.nextListExecuteState = .EXECUTE_CYCLE) : m.listPointer < S.controlList.length := by
  obtain ⟨_, hb | ⟨k, p, hc⟩⟩ := h
  · exact hb.list.elim (fun h => absurd (h.symm.trans hn) nofun) fun h => absurd (h.symm.trans hn) nofun
  · cases hc.list with
    | new h => exact absurd (h.symm.trans hn) nofun
    | execute _ hlt => exact hlt
    | delay h => exact absurd (h.symm.trans hn) nofun
    | done h => exact absurd (h.symm.trans hn) nofun

theorem tracked_list (hS : S.Executable clock) (h : Executes clock S t0 m) (ht : Tracked S t0 m)
    (hm : m.agenda.messages = .LIST_EXECUTE :: rest) (hs : ListExecuteStep clock m.popped m') :
    Tracked S t0 m' := by
  have htimer : Agrees .CYCLE_TIMER m.agenda (m.agenda.pop.unsubscribe .LIST_EXECUTE) :=
    agrees_handle (by decide) hm
  have hconfig : Agrees .LIST_CONFIG m.agenda (m.agenda.pop.unsubscribe .LIST_EXECUTE) :=
    agrees_handle (by decide) hm
  have hmem : ∀ a : Agenda StateMachine SimTime, .LIST_EXECUTE ∈ (a.reschedule
      .LIST_EXECUTE).messages := fun a => (mem_reschedule _ _ _).mpr (.inl rfl)
  -- what is kept when a message is scheduled
  have hconfig' := (hconfig.trans (agrees_reschedule (y := .LIST_EXECUTE) (by decide))).2.2.trans
    ht.config
  have htimer' := fun hn => (htimer.trans (agrees_reschedule (y := .LIST_EXECUTE) (by decide))).wakes
    (ht.timer hn)
  cases hs with
  | rest hr =>
    have hnext := hr.resolve_left fun he => absurd (h.1.enabled.symm.trans he) nofun
    refine ⟨ht.since, hconfig.2.2.trans ht.config, fun hn => htimer.wakes (ht.timer hn), ?_, ?_, ?_, ?_⟩
    all_goals
      intro hstate
      have hstate : _ := hstate
    · obtain he | hu := hnext
      · exact .inl he
      · have hu : m.nextListExecuteState = .UNDEFINED := hu
        exact hstate.elim (fun h => absurd (h.symm.trans hu) nofun)
          fun h => absurd (h.symm.trans hu) nofun
    all_goals
      exact hnext.elim (fun h => absurd (hstate.symm.trans h) nofun)
        fun h => absurd (hstate.symm.trans h) nofun
  | newCycle _ hn =>
    have hn : m.nextListExecuteState = .NEW_CYCLE := hn
    refine ⟨ht.since, hconfig', htimer', ?_, fun _ => ⟨rfl, rfl, hmem _⟩, ?_, ?_⟩
    · exact fun hs => hs.elim (fun h => absurd (hn.symm.trans h) nofun)
        fun h => absurd (hn.symm.trans h) nofun
    · exact fun hs => absurd (hn.symm.trans hs) nofun
    · exact fun hs => absurd (hn.symm.trans hs) nofun
  | execute _ hn s i hop =>
    have hn : m.nextListExecuteState = .EXECUTE_CYCLE := hn
    have hlt := h.pointer_lt hn
    rw [operationAt_entry (m := m.popped) hS h.1.operSchedule hlt] at hop
    cases hop
    have hpos := clock.resolution_pos.trans_le (hS.resolution_le (List.getElem_mem hlt))
    refine ⟨ht.since, hconfig', htimer', ?_, ?_, fun _ => ⟨hmem _, ⟨(m.now, m.listPointer,
      S.controlList[m.listPointer].scheduledObject), ?_, rfl⟩, ?_⟩, ?_⟩
    · exact fun hs => hs.elim (fun h => absurd (hn.symm.trans h) nofun)
        fun h => absurd (hn.symm.trans h) nofun
    · exact fun hs => absurd (hn.symm.trans hs) nofun
    · refine (congrArg List.getLast? (operations_record m m.now m.listPointer m.operState
        S.controlList[m.listPointer].scheduledObject)).trans ?_
      rw [List.getLast?_append]
      rfl
    · show (if m.operSchedule.controlList.length ≤ m.listPointer + 1 then ListExecuteState.END_OF_CYCLE
        else if S.controlList[m.listPointer].timeInterval ≤ 0 then .EXECUTE_CYCLE else .DELAY) =
          .DELAY ∨ (if m.operSchedule.controlList.length ≤ m.listPointer + 1 then
            ListExecuteState.END_OF_CYCLE else if S.controlList[m.listPointer].timeInterval ≤ 0 then
            .EXECUTE_CYCLE else .DELAY) = .END_OF_CYCLE ∧ m.listPointer + 1 = S.controlList.length
      rw [h.1.operSchedule, if_neg (not_le.mpr hpos)]
      split
      · rename_i hlast
        exact .inr ⟨rfl, Nat.le_antisymm hlt hlast⟩
      · exact .inl rfl
    · exact fun hs => absurd (hn.symm.trans hs) nofun
  | delay _ hn =>
    have hn : m.nextListExecuteState = .DELAY := hn
    refine ⟨ht.since, (hconfig.trans (agrees_subscribe (by decide) _)).2.2.trans ht.config,
      fun hc => (htimer.trans (agrees_subscribe (by decide) _)).wakes (ht.timer hc), ?_, ?_, ?_,
      fun _ => rfl⟩
    · exact fun hs => hs.elim (fun h => absurd (hn.symm.trans h) nofun)
        fun h => absurd (hn.symm.trans h) nofun
    · exact fun hs => absurd (hn.symm.trans hs) nofun
    · exact fun hs => absurd (hn.symm.trans hs) nofun
  | init _ hn =>
    have hn : m.nextListExecuteState = .INIT := hn
    refine ⟨ht.since, hconfig', htimer', fun _ => .inl rfl, ?_, ?_, ?_⟩
    all_goals exact fun hs => absurd (hn.symm.trans hs) nofun

/-! ## the other events -/

theorem tracked_config (h : Executes clock S t0 m) (ht : Tracked S t0 m)
    (hm : m.agenda.messages = .LIST_CONFIG :: rest) (hs : ListConfigStep m.popped m') :
    Tracked S t0 m' := by
  have hagrees : ∀ x, x ≠ .LIST_CONFIG →
      Agrees x m.agenda (m.agenda.pop.unsubscribe .LIST_CONFIG) := fun x hx => agrees_handle hx hm
  have hnone : (m.agenda.pop.unsubscribe .LIST_CONFIG).timestamps .LIST_CONFIG = none := by
    rw [timestamps_unsubscribe, if_pos rfl]
  have htimer := fun hn => (hagrees .CYCLE_TIMER (by decide)).wakes (ht.timer hn)
  have hlist := (hagrees .LIST_EXECUTE (by decide)).2.1.mpr
  cases hs with
  | rest => exact ht.frame rfl hnone htimer hlist rfl rfl rfl rfl
  | pending _ hn => exact absurd (h.1.nextListConfigState.symm.trans hn) nofun
  | update _ hn => exact absurd (h.1.nextListConfigState.symm.trans hn) nofun
  | idle => exact ht.frame rfl hnone htimer hlist rfl rfl rfl rfl

theorem tracked_handleMessage (hS : S.Executable clock) (h : Executes clock S t0 m)
    (ht : Tracked S t0 m) (hs : m.handleMessage clock = .ok m') : Tracked S t0 m' := by
  obtain ⟨_, rfl⟩ | ⟨x, rest, hm, hstep⟩ := handleMessage_ok hs
  · exact ht
  · cases x with
    | CYCLE_TIMER => exact tracked_timer hS h ht hm hstep
    | LIST_EXECUTE => exact tracked_list hS h ht hm hstep
    | LIST_CONFIG => exact tracked_config h ht hm hstep

theorem tracked_onTimestamp (ht : Tracked S t0 m) : Tracked S t0 m.onTimestamp := by
  obtain heq | ⟨x, _, hx, heq⟩ := onTimestamp_cases m
  · rw [heq]
    exact ht
  · rw [heq]
    refine ht.frame rfl ?_ (fun hn => (ht.timer hn).deliver hx) (fun hl => ?_) rfl rfl rfl rfl
    · show (m.agenda.deliver x).timestamps .LIST_CONFIG = none
      rw [timestamps_deliver, ht.config, ite_self]
    · exact (mem_deliver _ _ _).mpr (.inr hl)

theorem tracked_advance (ht : Tracked S t0 m) (t : SimTime) : Tracked S t0 (m.advance t) := by
  obtain heq | ⟨hadv, heq⟩ := advance_cases m t
  · rw [heq]
    exact ht
  · rw [heq]
    have hempty : .LIST_EXECUTE ∉ m.agenda.messages := by
      rw [hadv.1.1]
      exact List.not_mem_nil
    refine ⟨ht.since.trans hadv.2.1.le, ht.config, fun hn => (ht.timer hn).advance hadv, ht.waiting,
      fun hs => ?_, fun hs => ?_, ht.delayed⟩
    · exact absurd (ht.begun hs).2.2 hempty
    · exact absurd (ht.executed hs).1 hempty

theorem setEnabled_true (hc : m.configChange = false) :
    m.setEnabled true = { m with enabled := true } := by
  unfold setEnabled
  dsimp only
  rw [hc]
  rfl

/-- what the calls of a quiet run change -/
theorem Tracked.call (ht : Tracked S t0 m) (a : T) (schedule : Schedule T)
    (enabled configChange : Bool) : Tracked S t0 { m with
      adminState := a
      adminSchedule := schedule
      enabled := enabled
      configChange := configChange } := ⟨ht.1, ht.2, ht.3, ht.4, ht.5, ht.6, ht.7⟩

theorem tracked_step (hS : S.Executable clock) (m : ScheduleManager T) (e : ManagerEvent T)
    (m' : ScheduleManager T) (h : Executes clock S t0 m ∧ Tracked S t0 m) (hq : Quiet e)
    (hs : step clock m e = .ok m') : Executes clock S t0 m' ∧ Tracked S t0 m' := by
  obtain ⟨h, ht⟩ := h
  have hkeeps : Executes clock S t0 m' := by
    obtain ⟨m'', hs', h'⟩ := executes_step hS m e h hq
    cases hs.symm.trans hs'
    exact h'
  refine ⟨hkeeps, ?_⟩
  cases e with
  | handleMessage => exact tracked_handleMessage hS h ht hs
  | onTimestamp =>
    cases hs
    exact tracked_onTimestamp ht
  | advance t =>
    cases hs
    exact tracked_advance ht t
  | setAdminState a =>
    cases hs
    exact ht.call a m.adminSchedule m.enabled m.configChange
  | setAdminSchedule s =>
    cases s with
    | none => exact absurd hq id
    | some s =>
      change (if s.getCycleTime ≤ 0 then _ else _) = _ at hs
      rw [if_neg (show ¬s.getCycleTime ≤ 0 from not_le.mpr hq)] at hs
      cases hs
      exact ht.call m.adminState s m.enabled m.configChange
  | setEnabled b =>
    obtain rfl : b = true := hq
    cases hs
    show Tracked S t0 (m.setEnabled true)
    rw [setEnabled_true h.1.configChange]
    exact ht.call m.adminState m.adminSchedule true m.configChange
  | setConfigChange b =>
    obtain rfl : b = false := hq
    cases hs
    exact ht.call m.adminState m.adminSchedule m.enabled false

end ScheduleManager
end Nesting
