import Nesting.Manager.Operations
import Nesting.Manager.Tracked

/-!
# The manager goes on

A manager that executes its schedule comes to rest at every instant, and at rest it waits for a clock
tick.  So every time is reached by its own events.

* `load`          what is left of this instant, less with every message and every timestamp;
* `drain`         the rest is reached;
* `progress`      **every time is passed**;
* `isLeast_settings`   when a state of some kind is set next.
-/

set_option linter.unusedVariables false

namespace Nesting
open Lib

namespace ScheduleManager
variable {T : Type} {clock : ClockRate} {S : Schedule T} {t0 : SimTime} {m m' : ScheduleManager T}
  {rest : List StateMachine}
open Lib.Agenda

/-! ## an instant ends -/

def timerWeight : CycleTimerState → ℕ
  | .CYCLE_IDLE => 7
  | .SET_CYCLE_START_TIME => 6
  | .START_CYCLE => 4
  | .UNDEFINED => 1

def listWeight : ListExecuteState → ℕ
  | .NEW_CYCLE => 3
  | .EXECUTE_CYCLE => 2
  | .INIT => 2
  | .DELAY => 1
  | .END_OF_CYCLE => 1
  | .UNDEFINED => 1

theorem timerWeight_pos (x : CycleTimerState) : 0 < timerWeight x := by
  cases x <;> decide

theorem listWeight_pos (x : ListExecuteState) : 0 < listWeight x := by
  cases x <;> decide

/-- what is left of this instant -/
def load (m : ScheduleManager T) : ℕ :=
  m.agenda.load .CYCLE_TIMER (timerWeight m.nextCycleTimerState) +
    m.agenda.load .LIST_EXECUTE (listWeight m.nextListExecuteState) +
    m.agenda.load .LIST_CONFIG 1

/-- a step of the cycle timer may leave `l` more to the list execution -/
theorem load_lt_timer {l : ℕ} (htimer : m'.agenda.load .CYCLE_TIMER
      (timerWeight m'.nextCycleTimerState) + l <
      m.agenda.load .CYCLE_TIMER (timerWeight m.nextCycleTimerState))
    (hlist : m'.agenda.load .LIST_EXECUTE (listWeight m'.nextListExecuteState) ≤
      m.agenda.load .LIST_EXECUTE (listWeight m.nextListExecuteState) + l)
    (hconfig : m'.agenda.load .LIST_CONFIG 1 ≤ m.agenda.load .LIST_CONFIG 1) :
    m'.load < m.load := by
  unfold load
  omega

theorem load_lt_list (htimer : m'.agenda.load .CYCLE_TIMER (timerWeight m'.nextCycleTimerState) ≤
      m.agenda.load .CYCLE_TIMER (timerWeight m.nextCycleTimerState))
    (hlist : m'.agenda.load .LIST_EXECUTE (listWeight m'.nextListExecuteState) <
      m.agenda.load .LIST_EXECUTE (listWeight m.nextListExecuteState))
    (hconfig : m'.agenda.load .LIST_CONFIG 1 ≤ m.agenda.load .LIST_CONFIG 1) :
    m'.load < m.load := by
  unfold load
  omega

theorem load_lt_config (htimer : m'.agenda.load .CYCLE_TIMER (timerWeight m'.nextCycleTimerState) ≤
      m.agenda.load .CYCLE_TIMER (timerWeight m.nextCycleTimerState))
    (hlist : m'.agenda.load .LIST_EXECUTE (listWeight m'.nextListExecuteState) ≤
      m.agenda.load .LIST_EXECUTE (listWeight m.nextListExecuteState))
    (hconfig : m'.agenda.load .LIST_CONFIG 1 < m.agenda.load .LIST_CONFIG 1) :
    m'.load < m.load := by
  unfold load
  omega

/-- no timestamp of the list execution waits when a cycle starts -/
theorem Executes.noTimestamp (hS : S.Executable clock) (h : Executes clock S t0 m)
    (hm : .CYCLE_TIMER ∈ m.agenda.messages) (hn : m.nextCycleTimerState = .START_CYCLE) :
    m.agenda.timestamps .LIST_EXECUTE = none := by
  obtain ⟨_, hb | ⟨k, p, hc⟩⟩ := h
  · exact hb.noTimestamp
  · cases hc.timer with
    | tick hn' _ => exact absurd (hn'.symm.trans hn) nofun
    | start _ hw => exact (hc.list.through hS (hw.of_mem hm).2.ge).2

theorem load_timer (hS : S.Executable clock) (h : Executes clock S t0 m)
    (hm : m.agenda.messages = .CYCLE_TIMER :: rest) (hs : CycleTimerStep clock m.popped m') :
    m'.load < m.load := by
  have hmem := mem_of_head hm
  have hout := notMem_pop hm
  have hagrees : ∀ x, x ≠ .CYCLE_TIMER →
      Agrees x m.agenda (m.agenda.pop.unsubscribe .CYCLE_TIMER) := fun x hx => agrees_handle hx hm
  have hlist := hagrees .LIST_EXECUTE nofun
  have hconfig := hagrees .LIST_CONFIG nofun
  have hnone : (m.agenda.pop.unsubscribe .CYCLE_TIMER).timestamps .CYCLE_TIMER ≠ some m.now := by
    rw [timestamps_unsubscribe, if_pos rfl]
    nofun
  have hweight : ∀ {next}, m.nextCycleTimerState = next → timerWeight next ≤
      m.agenda.load .CYCLE_TIMER (timerWeight m.nextCycleTimerState) := by
    rintro next rfl
    exact le_load hmem
  cases hs with
  | rest =>
    refine load_lt_timer (l := 0) ?_ (Nat.le_of_eq ?_) (Nat.le_of_eq ?_)
    · have hzero : (m.agenda.pop.unsubscribe .CYCLE_TIMER).load .CYCLE_TIMER
          (timerWeight m.nextCycleTimerState) = 0 := load_of_notMem hout hnone
      exact hzero.trans_lt ((timerWeight_pos _).trans_le (hweight rfl))
    · exact hlist.load_eq _
    · exact hconfig.load_eq _
  | idle _ hn =>
    refine load_lt_timer (l := 0) ?_ (Nat.le_of_eq ?_) (Nat.le_of_eq ?_)
    · have hsix : ((m.agenda.pop.unsubscribe .CYCLE_TIMER).reschedule .CYCLE_TIMER).load .CYCLE_TIMER
          6 = 6 := load_of_mem ((mem_reschedule _ _ _).mpr (.inl rfl)) hnone
      exact hsix.trans_lt (hweight hn)
    · exact (hlist.trans (agrees_reschedule (by decide))).load_eq _
    · exact (hconfig.trans (agrees_reschedule (by decide))).load_eq _
  | setStartTime _ hn t =>
    refine load_lt_timer (l := 0) ?_ (Nat.le_of_eq ?_) (Nat.le_of_eq ?_)
    · have hle := load_subscribe_le (a := m.agenda.pop.unsubscribe .CYCLE_TIMER) (w := 4) hout t
      exact (Nat.lt_succ_of_le hle).trans_le (hweight hn)
    · exact (hlist.trans (agrees_subscribe (by decide) _)).load_eq _
    · exact (hconfig.trans (agrees_subscribe (by decide) _)).load_eq _
  | startCycle _ hn =>
    have hout' : .CYCLE_TIMER ∉ ((m.agenda.pop.unsubscribe .CYCLE_TIMER).reschedule
        .LIST_EXECUTE).messages := by
      rw [mem_reschedule]
      exact fun h => h.elim nofun hout
    have hlater : m.now + clock.resolution ≠ m.now := by
      have hpos := clock.resolution_pos
      intro heq
      linarith
    refine load_lt_timer (l := 3) ?_ ?_ (Nat.le_of_eq ?_)
    · have hzero : (((m.agenda.pop.unsubscribe .CYCLE_TIMER).reschedule .LIST_EXECUTE).subscribe
          (m.now + clock.resolution) .CYCLE_TIMER).load .CYCLE_TIMER 6 = 0 :=
        load_subscribe_later hout' hlater
      exact (congrArg (· + 3) hzero).trans_lt (hweight hn)
    · have hthree : (((m.agenda.pop.unsubscribe .CYCLE_TIMER).reschedule .LIST_EXECUTE).subscribe
          (m.now + clock.resolution) .CYCLE_TIMER).load .LIST_EXECUTE 3 = 3 := by
        apply load_of_mem
        · exact (mem_reschedule _ _ _).mpr (.inl rfl)
        · rw [timestamps_subscribe, if_neg (by decide), timestamps_reschedule, hlist.2.2,
            h.noTimestamp hS hmem hn]
          nofun
      exact hthree.trans_le (Nat.le_add_left _ _)
    · exact (hconfig.trans ((agrees_reschedule (by decide)).trans
        (agrees_subscribe (by decide) _))).load_eq _

theorem load_list (hS : S.Executable clock) (h : Executes clock S t0 m)
    (hm : m.agenda.messages = .LIST_EXECUTE :: rest) (hs : ListExecuteStep clock m.popped m') :
    m'.load < m.load := by
  have hmem := mem_of_head hm
  have hout := notMem_pop hm
  have hagrees : ∀ x, x ≠ .LIST_EXECUTE →
      Agrees x m.agenda (m.agenda.pop.unsubscribe .LIST_EXECUTE) := fun x hx => agrees_handle hx hm
  have htimer := hagrees .CYCLE_TIMER nofun
  have hconfig := hagrees .LIST_CONFIG nofun
  have hnone : (m.agenda.pop.unsubscribe .LIST_EXECUTE).timestamps .LIST_EXECUTE ≠ some m.now := by
    rw [timestamps_unsubscribe, if_pos rfl]
    nofun
  have hweight : ∀ {next}, m.nextListExecuteState = next → listWeight next ≤
      m.agenda.load .LIST_EXECUTE (listWeight m.nextListExecuteState) := by
    rintro next rfl
    exact le_load hmem
  -- a message for the state `next` is scheduled
  have hagain : ∀ w, ((m.agenda.pop.unsubscribe .LIST_EXECUTE).reschedule .LIST_EXECUTE).load
      .LIST_EXECUTE w = w := fun w => load_of_mem ((mem_reschedule _ _ _).mpr (.inl rfl)) hnone
  have htimer' := (htimer.trans (agrees_reschedule (y := .LIST_EXECUTE) (by decide))).load_eq
    (timerWeight m.nextCycleTimerState)
  have hconfig' := (hconfig.trans (agrees_reschedule (y := .LIST_EXECUTE) (by decide))).load_eq 1
  cases hs with
  | rest =>
    refine load_lt_list (Nat.le_of_eq ?_) ?_ (Nat.le_of_eq ?_)
    · exact htimer.load_eq _
    · have hzero : (m.agenda.pop.unsubscribe .LIST_EXECUTE).load .LIST_EXECUTE
          (listWeight m.nextListExecuteState) = 0 := load_of_notMem hout hnone
      exact hzero.trans_lt ((listWeight_pos _).trans_le (hweight rfl))
    · exact hconfig.load_eq _
  | newCycle _ hn => exact load_lt_list htimer'.le ((hagain 2).trans_lt (hweight hn)) hconfig'.le
  | execute _ hn s i hop =>
    have hlt := h.pointer_lt hn
    rw [operationAt_entry (m := m.popped) hS h.1.operSchedule hlt] at hop
    cases hop
    have hpos := clock.resolution_pos.trans_le (hS.resolution_le (List.getElem_mem hlt))
    have hone : listWeight (if m.operSchedule.controlList.length ≤ m.listPointer + 1 then .END_OF_CYCLE
        else if S.controlList[m.listPointer].timeInterval ≤ 0 then .EXECUTE_CYCLE else .DELAY) = 1 := by
      split
      · rfl
      · rw [if_neg (not_le.mpr hpos)]
        rfl
    refine load_lt_list htimer'.le ?_ hconfig'.le
    exact ((hagain _).trans hone).trans_lt (hweight hn)
  | delay _ hn =>
    refine load_lt_list (Nat.le_of_eq ?_) ?_ (Nat.le_of_eq ?_)
    · exact (htimer.trans (agrees_subscribe (by decide) _)).load_eq _
    · have hpos := h.delay_pos hn
      have hzero : ((m.agenda.pop.unsubscribe .LIST_EXECUTE).subscribe (m.now + m.exitTimer)
          .LIST_EXECUTE).load .LIST_EXECUTE 2 = 0 := by
        apply load_subscribe_later hout
        show m.now + m.exitTimer ≠ m.now
        intro heq
        linarith
      exact hzero.trans_lt (Nat.one_pos.trans_le (hweight hn))
    · exact (hconfig.trans (agrees_subscribe (by decide) _)).load_eq _
  | init _ hn => exact load_lt_list htimer'.le ((hagain 1).trans_lt (hweight hn)) hconfig'.le

theorem load_config (h : Executes clock S t0 m) (hm : m.agenda.messages = .LIST_CONFIG :: rest)
    (hs : ListConfigStep m.popped m') : m'.load < m.load := by
  have hmem := mem_of_head hm
  have hout := notMem_pop hm
  have hagrees : ∀ x, x ≠ .LIST_CONFIG →
      Agrees x m.agenda (m.agenda.pop.unsubscribe .LIST_CONFIG) := fun x hx => agrees_handle hx hm
  have hnone : (m.agenda.pop.unsubscribe .LIST_CONFIG).timestamps .LIST_CONFIG ≠ some m.now := by
    rw [timestamps_unsubscribe, if_pos rfl]
    nofun
  have hzero : (m.agenda.pop.unsubscribe .LIST_CONFIG).load .LIST_CONFIG 1 = 0 :=
    load_of_notMem hout hnone
  have hless := hzero.trans_lt (Nat.one_pos.trans_le (le_load hmem))
  have htimer := ((hagrees .CYCLE_TIMER nofun).load_eq (timerWeight m.nextCycleTimerState)).le
  have hlist := ((hagrees .LIST_EXECUTE nofun).load_eq (listWeight m.nextListExecuteState)).le
  cases hs with
  | rest => exact load_lt_config htimer hlist hless
  | pending _ hn => exact absurd (h.1.nextListConfigState.symm.trans hn) nofun
  | update _ hn => exact absurd (h.1.nextListConfigState.symm.trans hn) nofun
  | idle => exact load_lt_config htimer hlist hless

/-- a message is handled -/
theorem load_handleMessage (hS : S.Executable clock) (h : Executes clock S t0 m)
    (hm : m.agenda.messages ≠ []) (hs : m.handleMessage clock = .ok m') : m'.load < m.load := by
  obtain ⟨hnil, _⟩ | ⟨x, rest, hx, hstep⟩ := handleMessage_ok hs
  · exact absurd hnil hm
  · cases x with
    | CYCLE_TIMER => exact load_timer hS h hx hstep
    | LIST_EXECUTE => exact load_list hS h hx hstep
    | LIST_CONFIG => exact load_config h hx hstep

/-- a timestamp is delivered -/
theorem load_onTimestamp {x : StateMachine} (hx : m.agenda.timestamps x = some m.now)
    (h : m' = { m with agenda := m.agenda.deliver x }) : m'.load < m.load := by
  subst h
  cases x with
  | CYCLE_TIMER =>
    refine load_lt_timer (l := 0) (load_deliver hx) (Nat.le_of_eq ?_) (Nat.le_of_eq ?_)
    · exact (agrees_deliver (by decide)).load_eq _
    · exact (agrees_deliver (by decide)).load_eq _
  | LIST_EXECUTE =>
    refine load_lt_list (Nat.le_of_eq ?_) (load_deliver hx) (Nat.le_of_eq ?_)
    · exact (agrees_deliver (by decide)).load_eq _
    · exact (agrees_deliver (by decide)).load_eq _
  | LIST_CONFIG =>
    refine load_lt_config (Nat.le_of_eq ?_) (Nat.le_of_eq ?_) (load_deliver hx)
    · exact (agrees_deliver (by decide)).load_eq _
    · exact (agrees_deliver (by decide)).load_eq _

/-! ## at rest -/

/-- the schedule is executed, and the states that are shown belong to it -/
def Executing (clock : ClockRate) (S : Schedule T) (t0 : SimTime) (m : ScheduleManager T) : Prop :=
  Executes clock S t0 m ∧ Tracked S t0 m

theorem Own.quiet {e : ManagerEvent T} (h : Own e) : Quiet e := by
  cases e with
  | handleMessage => trivial
  | onTimestamp => trivial
  | advance => trivial
  | setAdminState => exact absurd h id
  | setAdminSchedule => exact absurd h id
  | setEnabled => exact absurd h id
  | setConfigChange => exact absurd h id

theorem Leads.executing (hS : S.Executable clock) (h : Leads clock m m') (hg : Executing clock S t0 m) :
    Executing clock S t0 m' := by
  obtain ⟨es, hes, hr⟩ := h
  exact run_invariant_of (tracked_step hS) hg (meets_of_forall (fun e he => (hes e he).quiet) m) hr

theorem now_handleMessage (h : m.handleMessage clock = .ok m') : m'.now = m.now := by
  obtain ⟨_, rfl⟩ | ⟨x, rest, _, hs⟩ := handleMessage_ok h
  · rfl
  · cases x with
    | CYCLE_TIMER =>
      change CycleTimerStep clock m.popped m' at hs
      cases hs <;> rfl
    | LIST_EXECUTE =>
      change ListExecuteStep clock m.popped m' at hs
      cases hs <;> rfl
    | LIST_CONFIG =>
      change ListConfigStep m.popped m' at hs
      cases hs <;> rfl

/-- while something is left, there is an event that leaves less -/
theorem load_lt_exists (hS : S.Executable clock) (h : Executes clock S t0 m)
    (hs : ¬m.agenda.Settled) :
    ∃ m', Leads clock m m' ∧ m'.now = m.now ∧ m'.load < m.load := by
  by_cases hm : m.agenda.messages = []
  · obtain heq | ⟨x, hx, hts, heq⟩ := onTimestamp_cases m
    · exfalso
      refine hs ⟨hm, fun x hx => ?_⟩
      have hfirst : m.firstTimestamp = none := by
        cases hf : m.firstTimestamp with
        | none => rfl
        | some y =>
          have hy : m.agenda.timestamps y = some m.now := firstDue_eq_some hf
          have hagenda : m.agenda.deliver y = m.agenda := by
            rw [onTimestamp, hf] at heq
            exact congrArg ScheduleManager.agenda heq
          have hmem : y ∈ m.agenda.messages := by
            rw [← hagenda]
            exact (mem_deliver _ _ _).mpr (.inl rfl)
          rw [hm] at hmem
          exact absurd hmem List.not_mem_nil
      exact firstDue_eq_none (by decide) hfirst x hx
    · exact ⟨m.onTimestamp, .of_step (e := .onTimestamp) trivial rfl, by rw [heq]; rfl,
        load_onTimestamp hts heq⟩
  · obtain ⟨m', hm', _⟩ := executes_handleMessage hS h
    exact ⟨m', .of_step (e := .handleMessage) trivial hm', now_handleMessage hm',
      load_handleMessage hS h hm hm'⟩

/-- **Every instant ends**. -/
theorem drain (hS : S.Executable clock) (h : Executing clock S t0 m) :
    ∃ m', Leads clock m m' ∧ m'.now = m.now ∧ m'.agenda.Settled := by
  induction hn : m.load using Nat.strong_induction_on generalizing m with
  | _ n ih =>
    by_cases hs : m.agenda.Settled
    · exact ⟨m, .refl m, rfl, hs⟩
    · obtain ⟨m1, hl, hnow, hless⟩ := load_lt_exists hS h.1 hs
      obtain ⟨m2, hl2, hnow2, hs2⟩ := ih m1.load (hn ▸ hless) (hl.executing hS h) rfl
      exact ⟨m2, hl.trans hl2, hnow2.trans hnow, hs2⟩

/-! ## time goes on -/

/-- a whole number of clock ticks from the base time -/
def AtTick (clock : ClockRate) (S : Schedule T) (t : SimTime) : Prop :=
  ∃ i : ℤ, t = S.baseTime + i * clock.resolution

theorem startOf_ticks (hS : S.Executable clock) (j : ℕ) :
    ∃ n : ℕ, S.startOf j = n * clock.resolution := by
  induction j with
  | zero => exact ⟨0, by rw [S.startOf_zero, Nat.cast_zero, zero_mul]⟩
  | succ j ih =>
    obtain ⟨n, hn⟩ := ih
    by_cases hj : j < S.controlList.length
    · obtain ⟨i, _, hi⟩ := hS.ticks _ (List.getElem_mem hj)
      refine ⟨n + i, ?_⟩
      rw [Schedule.startOf_succ (List.getElem?_eq_getElem hj), hn, hi]
      push_cast
      ring
    · have hle := not_lt.mp hj
      refine ⟨n, ?_⟩
      rw [Schedule.startOf_of_le (hle.trans (Nat.le_succ j)), ← Schedule.startOf_of_le hle]
      exact hn

theorem atTick_add (hS : S.Executable clock) (k j : ℕ) :
    AtTick clock S (S.cycleAt k + S.startOf j) := by
  obtain ⟨n, hn⟩ := startOf_ticks hS j
  obtain ⟨c, hc⟩ := startOf_ticks hS S.controlList.length
  rw [Schedule.startOf_of_le le_rfl, hS.total] at hc
  refine ⟨k * c + n, ?_⟩
  unfold Schedule.cycleAt
  rw [hn, hc]
  push_cast
  ring

theorem atTick_cycle (hS : S.Executable clock) (k : ℕ) : AtTick clock S (S.cycleAt k) := by
  have h := atTick_add hS k 0
  rw [S.startOf_zero, add_zero] at h
  exact h

/-- two ticks are at least one tick apart -/
theorem AtTick.add_le {s t : SimTime} (hs : AtTick clock S s) (ht : AtTick clock S t)
    (h : s < t) : s + clock.resolution ≤ t := by
  obtain ⟨i, rfl⟩ := hs
  obtain ⟨j, rfl⟩ := ht
  have hpos := clock.resolution_pos
  have hij : i < j := by
    by_contra hle
    have hle : (j : ℚ) ≤ i := by exact_mod_cast not_lt.mp hle
    have := mul_le_mul_of_nonneg_right hle hpos.le
    linarith
  have hsucc : (i : ℚ) + 1 ≤ j := by exact_mod_cast hij
  have := mul_le_mul_of_nonneg_right hsucc hpos.le
  linarith

/-- at rest the cycle timer waits for a tick, and so does the list execution if it waits at all -/
theorem waits_for_tick (hS : S.Executable clock) (h : Executing clock S t0 m) (hs : m.agenda.Settled) :
    (∃ t, m.agenda.timestamps .CYCLE_TIMER = some t ∧ m.now < t ∧ AtTick clock S t) ∧
    ∀ t ∈ m.agenda.timestamps .LIST_EXECUTE, m.now < t ∧ AtTick clock S t := by
  have hempty : .LIST_EXECUTE ∉ m.agenda.messages := by
    rw [hs.1]
    exact List.not_mem_nil
  obtain ⟨⟨_, hb | ⟨k, p, hc⟩⟩, ht⟩ := h
  · constructor
    · cases hb.timer with
      | boot _ hw => exact absurd (hw.of_settled hs).2 (not_lt.mpr ht.since)
      | start _ hw =>
        obtain ⟨h1, h2⟩ := hw.of_settled hs
        exact ⟨_, h1, h2, atTick_cycle hS _⟩
    · rw [hb.noTimestamp]
      nofun
  · constructor
    · cases hc.timer with
      | tick _ hw =>
        obtain ⟨h1, h2⟩ := hw.of_settled hs
        obtain ⟨i, hi⟩ := atTick_cycle hS k
        refine ⟨_, h1, h2, i + 1, ?_⟩
        rw [hi]
        push_cast
        ring
      | start _ hw =>
        obtain ⟨h1, h2⟩ := hw.of_settled hs
        exact ⟨_, h1, h2, atTick_cycle hS _⟩
    · cases hc.list with
      | new _ hm => exact absurd hm hempty
      | execute _ _ hw =>
        obtain ⟨h1, h2⟩ := hw.of_settled hs
        rw [h1]
        intro t hto
        cases hto
        exact ⟨h2, atTick_add hS _ _⟩
      | delay _ _ hm => exact absurd hm hempty
      | done _ hts =>
        rw [hts]
        nofun

/-- time goes on to the next tick that is waited for -/
theorem canAdvance_exists (hS : S.Executable clock) (h : Executing clock S t0 m)
    (hs : m.agenda.Settled) : ∃ t, m.agenda.CanAdvance t ∧ AtTick clock S t := by
  obtain ⟨⟨c, hc, hclt, hctick⟩, hlist⟩ := waits_for_tick hS h hs
  have hconfig := h.2.config
  cases hl : m.agenda.timestamps .LIST_EXECUTE with
  | none =>
    refine ⟨c, ⟨hs, hclt, fun x w hw => ?_⟩, hctick⟩
    cases x with
    | CYCLE_TIMER => exact (Option.some.inj (hc.symm.trans hw)).le
    | LIST_EXECUTE => exact absurd (hl.symm.trans hw) nofun
    | LIST_CONFIG => exact absurd (hconfig.symm.trans hw) nofun
  | some l =>
    obtain ⟨hllt, hltick⟩ := hlist l hl
    refine ⟨min c l, ⟨hs, lt_min hclt hllt, fun x w hw => ?_⟩, ?_⟩
    · cases x with
      | CYCLE_TIMER => exact (min_le_left c l).trans (Option.some.inj (hc.symm.trans hw)).le
      | LIST_EXECUTE => exact (min_le_right c l).trans (Option.some.inj (hl.symm.trans hw)).le
      | LIST_CONFIG => exact absurd (hconfig.symm.trans hw) nofun
    · obtain hmin | hmin := min_choice c l
      · rw [hmin]
        exact hctick
      · rw [hmin]
        exact hltick

/-- from rest to the next rest, at a tick -/
theorem next_rest (hS : S.Executable clock) (h : Executing clock S t0 m) (hs : m.agenda.Settled) :
    ∃ m', Leads clock m m' ∧ m.now < m'.now ∧ AtTick clock S m'.now ∧ m'.agenda.Settled := by
  obtain ⟨t, hadv, htick⟩ := canAdvance_exists hS h hs
  have hstep : m.advance t = { m with agenda := m.agenda.advance t } := if_pos hadv
  have hl : Leads clock m (m.advance t) := .of_step (e := .advance t) trivial rfl
  have hnow : (m.advance t).now = t := by
    rw [hstep]
    rfl
  obtain ⟨m', hl', hnow', hs'⟩ := drain hS (hl.executing hS h)
  rw [hnow] at hnow'
  exact ⟨m', hl.trans hl', hnow' ▸ hadv.2.1, hnow' ▸ htick, hs'⟩

/-- from a tick on, `n` ticks -/
theorem ticks_pass (hS : S.Executable clock) (h : Executing clock S t0 m) (hs : m.agenda.Settled)
    (ht : AtTick clock S m.now) (n : ℕ) :
    ∃ m', Leads clock m m' ∧ m.now + n * clock.resolution ≤ m'.now ∧ AtTick clock S m'.now ∧
      m'.agenda.Settled := by
  induction n with
  | zero =>
    refine ⟨m, .refl m, ?_, ht, hs⟩
    rw [Nat.cast_zero, zero_mul, add_zero]
  | succ n ih =>
    obtain ⟨m1, hl, hnow, htick, hs1⟩ := ih
    obtain ⟨m2, hl2, hlt, htick2, hs2⟩ := next_rest hS (hl.executing hS h) hs1
    refine ⟨m2, hl.trans hl2, ?_, htick2, hs2⟩
    have hstep := htick.add_le htick2 hlt
    push_cast
    linarith

/-- **Every time is passed**, and the manager comes to rest there. -/
theorem progress (hS : S.Executable clock) (h : Executing clock S t0 m) (t : SimTime) :
    ∃ m', Leads clock m m' ∧ t ≤ m'.now ∧ m'.agenda.Settled := by
  obtain ⟨m1, hl1, _, hs1⟩ := drain hS h
  have h1 := hl1.executing hS h
  obtain ⟨m2, hl2, _, htick, hs2⟩ := next_rest hS h1 hs1
  have h2 := hl2.executing hS h1
  obtain ⟨n, hn⟩ := exists_nat_ge ((t - m2.now) / clock.resolution)
  obtain ⟨m3, hl3, hnow, _, hs3⟩ := ticks_pass hS h2 hs2 htick n
  refine ⟨m3, (hl1.trans hl2).trans hl3, ?_, hs3⟩
  rw [div_le_iff₀ clock.resolution_pos] at hn
  linarith

/-! ## what is set next -/

/-- **The next setting**: left alone, the manager first sets a state of the kind `P` with the first
operation of this kind from the next one on. -/
theorem isLeast_settings (hS : S.Executable clock) (h : Executing clock S t0 m)
    (hn : m.nextListExecuteState ≠ .INIT) {q0 q : ℕ} (hq0 : Upcoming clock S t0 m q0) (hq : q0 ≤ q)
    {P : T → Prop} (hp : ∃ e ∈ S.operationEntry q, P e.scheduledObject)
    (hfirst : ∀ i, q0 ≤ i → i < q → ∀ e ∈ S.operationEntry i, ¬P e.scheduledObject) :
    IsLeast (settings clock m P) (S.operationTime q) := by
  constructor
  · obtain ⟨m', hl, hnow, hs⟩ := progress hS h (S.operationTime q)
    obtain ⟨q1, hq1⟩ := (hl.executing hS h).1.upcoming
    have hlt : q < q1 := hS.operationTime_strictMono.lt_iff_lt.mp (hnow.trans_lt (hq1.settled hS hs))
    exact ⟨m', hl, (setting_operation hS hq0 hq1 (hl.grown hn)).mpr ⟨q, hq, hlt, rfl, hp⟩⟩
  · rintro t ⟨m', hl, hset⟩
    obtain ⟨q1, hq1⟩ := (hl.executing hS h).1.upcoming
    obtain ⟨i, hi, _, rfl, e, he, hpe⟩ := (setting_operation hS hq0 hq1 (hl.grown hn)).mp hset
    have hle : q ≤ i := by
      by_contra hlt
      exact hfirst i hi (not_le.mp hlt) e he hpe
    exact hS.operationTime_strictMono.monotone hle

end ScheduleManager
end Nesting
