import Nesting.Manager.Execute
import Nesting.Udp.Served

/-!
# Datagrams on schedule

The queue of the generator holds the messages of its manager and the self-message.  Without the
self-message it is the agenda of a manager of its own, and this one executes the schedule.

* `whole`              the manager with its messages in the queue;
* `MachineStep.behind` a machine takes the same step when other messages have waited before;
* `Scheduled`          what every run keeps;
* `sends_on_schedule`  **each entry is sent when it is due**, once and in list order.
-/

set_option linter.unusedVariables false

namespace Nesting
open Lib

namespace ScheduleManager

variable {T : Type} {clock : ClockRate} {S : Schedule T} {t0 : SimTime} {m m' : ScheduleManager T}
  {l rest : List StateMachine} {hl : l.Nodup} {x : StateMachine}

/-! ## a manager behind other messages -/

def behind (m : ScheduleManager T) (l : List StateMachine) (hl : l.Nodup) : ScheduleManager T :=
  { m with agenda := m.agenda.behind l hl }

theorem CycleTimerStep.behind (h : CycleTimerStep clock m m') :
    CycleTimerStep clock (m.behind l hl) (m'.behind l hl) := by
  unfold ScheduleManager.behind
  cases h with
  | rest h => exact .rest h
  | idle he hn =>
    rw [← Agenda.behind_reschedule]
    exact .idle he hn
  | setStartTime he hn t ht hle =>
    refine .setStartTime ?_ ?_ t ?_ ?_
    exacts [he, hn, ht, hle]
  | startCycle he hn =>
    rw [← Agenda.behind_subscribe, ← Agenda.behind_reschedule]
    exact .startCycle he hn

theorem ListExecuteStep.behind (h : ListExecuteStep clock m m') :
    ListExecuteStep clock (m.behind l hl) (m'.behind l hl) := by
  unfold ScheduleManager.behind
  cases h with
  | rest h => exact .rest h
  | newCycle he hn =>
    rw [← Agenda.behind_reschedule]
    exact .newCycle he hn
  | execute he hn s i hs =>
    rw [← Agenda.behind_reschedule]
    refine .execute ?_ ?_ s i ?_
    exacts [he, hn, hs]
  | delay he hn => exact .delay he hn
  | init he hn =>
    rw [← Agenda.behind_reschedule]
    exact .init he hn

theorem ListConfigStep.behind (h : ListConfigStep m m') :
    ListConfigStep (m.behind l hl) (m'.behind l hl) := by
  unfold ScheduleManager.behind
  cases h with
  | rest h => exact .rest h
  | pending he hn t past ht hle =>
    refine .pending ?_ ?_ t past ?_ ?_
    exacts [he, hn, ht, hle]
  | update he hn =>
    rw [← Agenda.behind_reschedule, ← Agenda.behind_reschedule]
    exact .update he hn
  | idle he hn => exact .idle he hn

/-- **A machine** does not see the messages that have waited before its own. -/
theorem MachineStep.behind (h : MachineStep clock m m' x) :
    MachineStep clock (m.behind l hl) (m'.behind l hl) x := by
  cases x with
  | CYCLE_TIMER => exact CycleTimerStep.behind h
  | LIST_EXECUTE => exact ListExecuteStep.behind h
  | LIST_CONFIG => exact ListConfigStep.behind h

/-- the calls and the timestamps do not see them either -/
theorem step_behind {e : ManagerEvent T} (hmsg : e ≠ .handleMessage) (htime : ∀ t, e ≠ .advance t)
    (h : step clock (m.behind l hl) e = .ok m') :
    ∃ n, step clock m e = .ok n ∧ m' = n.behind l hl := by
  cases e with
  | handleMessage => exact absurd rfl hmsg
  | advance t => exact absurd rfl (htime t)
  | onTimestamp =>
    cases h
    refine ⟨_, rfl, ?_⟩
    have hfirst : (m.behind l hl).firstTimestamp = m.firstTimestamp := rfl
    unfold onTimestamp
    rw [hfirst]
    split
    · rfl
    · unfold ScheduleManager.behind
      rw [← Agenda.behind_deliver]
  | setAdminState adminState =>
    cases h
    exact ⟨_, rfl, rfl⟩
  | setAdminSchedule a =>
    change (m.behind l hl).setAdminSchedule a = _ at h
    unfold setAdminSchedule at h
    split at h
    · cases h
    · rename_i s
      split at h
      · cases h
      · rename_i hpos
        cases h
        exact ⟨_, if_neg hpos, rfl⟩
  | setEnabled enabled =>
    cases h
    refine ⟨_, rfl, ?_⟩
    unfold setEnabled ScheduleManager.behind rescheduleAt
    dsimp only
    split
    · rw [← Agenda.behind_reschedule, ← Agenda.behind_reschedule, ← Agenda.behind_reschedule]
    · split
      · rw [← Agenda.behind_reschedule]
      · rfl
  | setConfigChange configChange =>
    cases h
    refine ⟨_, rfl, ?_⟩
    unfold setConfigChange ScheduleManager.behind rescheduleAt
    dsimp only
    split
    · rw [← Agenda.behind_reschedule]
    · rfl

/-! ## executing managers -/

/-- an entry that is executed next is in the list -/
theorem Executes.listPointer_lt (h : Executes clock S t0 m)
    (hn : m.nextListExecuteState = .EXECUTE_CYCLE) : m.listPointer < S.controlList.length := by
  obtain hb | ⟨k, p, hc⟩ := h.2
  · obtain hi | hi := hb.list
    · exact absurd (hi.symm.trans hn) nofun
    · exact absurd (hi.symm.trans hn) nofun
  · cases hc.list with
    | execute _ hlt _ => exact hlt
    | new hi => exact absurd (hi.symm.trans hn) nofun
    | delay hi => exact absurd (hi.symm.trans hn) nofun
    | done hi => exact absurd (hi.symm.trans hn) nofun

theorem executes_machineStep (hS : S.Executable clock) (h : Executes clock S t0 m)
    (hm : m.agenda.messages = x :: rest) (hs : MachineStep clock m.popped m' x) :
    Executes clock S t0 m' := by
  cases x with
  | LIST_CONFIG => exact executes_config h hm hs
  | CYCLE_TIMER =>
    obtain ⟨hu, hb | ⟨k, p, hc⟩⟩ := h
    · exact booting_timer hS hu hb hm hs
    · exact inCycle_timer hS hu hc hm hs
  | LIST_EXECUTE =>
    obtain ⟨hu, hb | ⟨k, p, hc⟩⟩ := h
    · exact booting_list hu hb hm hs
    · exact inCycle_list hS hu hc hm hs

/-- no machine fails -/
theorem handleMessage_undisturbed (hS : S.Executable clock) (hu : Undisturbed S m)
    (hlist : m.nextListExecuteState = .EXECUTE_CYCLE → m.listPointer < S.controlList.length) :
    ∃ m', m.handleMessage clock = .ok m' := by
  unfold handleMessage
  split
  · exact ⟨m, rfl⟩
  · rename_i x rest hm
    cases x with
    | LIST_CONFIG =>
      apply updateListConfigState_total
      intro hn
      exact absurd (hu.nextListConfigState.symm.trans hn) nofun
    | CYCLE_TIMER =>
      apply updateCycleTimerState_total
      intro _
      exact ⟨_, nextCycleStart_eq (m := m.popped) hS hu.operSchedule hu.configPending,
        hS.le_firstCycle _⟩
    | LIST_EXECUTE =>
      apply updateListExecuteState_total
      intro hn
      exact ⟨_, operationAt_entry (m := m.popped) hS hu.operSchedule (hlist hn)⟩

/-- the states of the operations -/
theorem executed_eq (m : ScheduleManager T) : m.executed = m.operations.map fun o => o.2.2 := by
  unfold executed operations
  rw [List.map_filterMap]
  refine List.filterMap_congr fun r _ => ?_
  cases r <;> rfl

end ScheduleManager

namespace UdpScheduledTrafficApp

open ScheduleManager (Executes behind)

variable {clock : ClockRate} {S : Schedule SendDatagramEvent} {t0 : SimTime}
  {s s' : UdpScheduledTrafficApp} {m m' : ScheduleManager SendDatagramEvent}
  {q queue : List AppMessage} {x : StateMachine}

/-! ## the manager's messages -/

def managerMessages (q : List AppMessage) : List StateMachine :=
  q.filterMap fun
    | .scheduleManager x => some x
    | .selfMsg => none

theorem nodup_managerMessages (h : q.Nodup) : (managerMessages q).Nodup := by
  refine h.filterMap fun a b x ha hb => ?_
  cases a with
  | selfMsg => cases ha
  | scheduleManager y =>
    cases b with
    | selfMsg => cases hb
    | scheduleManager z =>
      cases ha
      cases hb
      rfl

@[simp] theorem managerMessages_cons (x : StateMachine) (q : List AppMessage) :
    managerMessages (.scheduleManager x :: q) = x :: managerMessages q := rfl

@[simp] theorem managerMessages_selfMsg (q : List AppMessage) :
    managerMessages (.selfMsg :: q) = managerMessages q := rfl

theorem managerMessages_post :
    managerMessages (post (.scheduleManager x) q) =
      (managerMessages q).filter (fun y => y ≠ x) ++ [x] := by
  have hfilter : managerMessages (q.filter fun y => y ≠ .scheduleManager x) =
      (managerMessages q).filter fun y => y ≠ x := by
    induction q with
    | nil => rfl
    | cons y q ih =>
      cases y with
      | selfMsg => exact ih
      | scheduleManager y => by_cases hy : y = x <;> simp_all
  unfold post
  rw [← hfilter]
  exact List.filterMap_append

theorem managerMessages_foldl {l : List StateMachine} (hl : l.Nodup) :
    managerMessages (l.foldl (fun q x => post (.scheduleManager x) q) q) =
      (managerMessages q).filter (fun y => y ∉ l) ++ l := by
  induction l generalizing q with
  | nil =>
    rw [List.append_nil]
    exact (List.filter_eq_self.mpr fun _ _ => rfl).symm
  | cons x l ih =>
    obtain ⟨hx, hl⟩ := List.nodup_cons.mp hl
    rw [List.foldl_cons, ih hl, managerMessages_post, List.filter_append, List.filter_filter,
      List.filter_cons_of_pos (by simpa using hx), List.filter_nil, List.append_assoc]
    refine congrArg (fun k => k ++ x :: l) (List.filter_congr fun y _ => ?_)
    rw [Bool.eq_iff_iff]
    simp only [Bool.and_eq_true, decide_eq_true_eq, List.mem_cons]
    tauto

/-- the manager with its messages in the queue -/
def whole (s : UdpScheduledTrafficApp) (h : s.queue.Nodup) : ScheduleManager SendDatagramEvent :=
  s.scheduleManager.behind (managerMessages s.queue) (nodup_managerMessages h)

theorem whole_posts (h : s.queue.Nodup) (m : ScheduleManager SendDatagramEvent) :
    (s.posts m).whole (nodup_foldl h) =
      m.behind (managerMessages s.queue) (nodup_managerMessages h) := by
  have hagenda : ((s.posts m).whole (nodup_foldl h)).agenda =
      (m.behind (managerMessages s.queue) (nodup_managerMessages h)).agenda := by
    refine Agenda.eq_of_messages rfl ?_
    show (managerMessages (m.agenda.messages.foldl (fun q x => post (.scheduleManager x) q)
      s.queue)).filter (fun y => y ∉ []) ++ [] =
        (managerMessages s.queue).filter (fun y => y ∉ m.agenda.messages) ++ m.agenda.messages
    rw [managerMessages_foldl m.agenda.nodup, List.append_nil]
    exact List.filter_eq_self.mpr fun _ _ => rfl
  exact congrArg (fun a => { m with agenda := a }) hagenda

/-- the next message of the queue is the next one of the manager -/
theorem whole_messages (hquiet : s.scheduleManager.agenda.messages = []) (h : s.queue.Nodup)
    (hq : s.queue = .scheduleManager x :: queue) :
    (s.whole h).agenda.messages = x :: managerMessages queue := by
  show (managerMessages s.queue).filter (fun y => y ∉ s.scheduleManager.agenda.messages) ++
    s.scheduleManager.agenda.messages = _
  rw [hquiet, hq, List.append_nil]
  exact List.filter_eq_self.mpr fun _ _ => rfl

theorem whole_popped (hquiet : s.scheduleManager.agenda.messages = []) (h : s.queue.Nodup)
    (hq : s.queue = .scheduleManager x :: queue) (h' : queue.Nodup) :
    (s.whole h).popped = (waking s.scheduleManager x).popped.behind (managerMessages queue)
      (nodup_managerMessages h') := by
  have hagenda : (s.whole h).popped.agenda = ((waking s.scheduleManager x).popped.behind
      (managerMessages queue) (nodup_managerMessages h')).agenda := by
    refine Agenda.eq_of_messages rfl ?_
    show (s.whole h).agenda.messages.tail = (managerMessages queue).filter
      (fun y => y ∉ (s.scheduleManager.agenda.messages.erase x ++ [x]).tail) ++
        (s.scheduleManager.agenda.messages.erase x ++ [x]).tail
    rw [whole_messages hquiet h hq, hquiet]
    show managerMessages queue = (managerMessages queue).filter (fun y => y ∉ []) ++ []
    rw [List.append_nil]
    exact (List.filter_eq_self.mpr fun _ _ => rfl).symm
  exact congrArg (fun a => { s.scheduleManager with agenda := a }) hagenda

theorem behind_congr {k l : List StateMachine} (h : k = l) (hk : k.Nodup) (hl : l.Nodup) :
    m.behind k hk = m.behind l hl := by
  subst h
  rfl

/-! ## what a run keeps -/

/-- the self-message of the start is the next message, or there is none -/
inductive Begun (s : UdpScheduledTrafficApp) : Prop
  | starting (hk : s.kind = .START) (hq : s.queue.head? = some .selfMsg)
  | started (hk : .selfMsg ∈ s.queue → s.kind ≠ .START)

theorem head_foldl {l : List StateMachine} (h : q.head? = some .selfMsg) :
    (l.foldl (fun q x => post (.scheduleManager x) q) q).head? = some .selfMsg := by
  induction l generalizing q with
  | nil => exact h
  | cons x l ih => exact ih (head_post h nofun)

theorem Begun.posts (h : Begun s) (m : ScheduleManager SendDatagramEvent) : Begun (s.posts m) := by
  cases h with
  | starting hk hq => exact .starting hk (head_foldl hq)
  | started hk => exact .started fun hq => hk (selfMsg_mem_foldl.mp hq)

/-- the generator serves its manager, and the manager executes the schedule -/
structure Scheduled (clock : ClockRate) (S : Schedule SendDatagramEvent) (t0 : SimTime)
    (s : UdpScheduledTrafficApp) : Prop where
  serving : Serving s
  up : s.operationalState = .OPERATING
  begun : Begun s
  manager : Executes clock S t0 (s.whole serving.once)

theorem Scheduled.posts (h : Scheduled clock S t0 s) (hserving : Serving (s.posts m))
    (hm : Executes clock S t0
      (m.behind (managerMessages s.queue) (nodup_managerMessages h.serving.once))) :
    Scheduled clock S t0 (s.posts m) where
  serving := hserving
  up := h.up
  begun := h.begun.posts m
  manager := by
    rw [whole_posts h.serving.once]
    exact hm

/-- messages of the manager, the clock, and calls that leave its schedule alone -/
def Quiet : AppEvent → Prop
  | .handleMessage => True
  | .scheduleManager e => ScheduleManager.Quiet e
  | _ => False

theorem scheduled_manage (hS : S.Executable clock) (h : Scheduled clock S t0 s)
    {e : ManagerEvent SendDatagramEvent} (hq : ScheduleManager.Quiet e) :
    ∃ s', s.manage clock e = .ok s' ∧ Scheduled clock S t0 s' := by
  have hcall : e ≠ .handleMessage → (∀ t, e ≠ .advance t) →
      ∃ m, s.scheduleManager.step clock e = .ok m ∧ Scheduled clock S t0 (s.posts m) := by
    intro hmsg htime
    obtain ⟨_, hm', hexec⟩ := ScheduleManager.executes_step hS _ e h.manager hq
    obtain ⟨m, hm, rfl⟩ := ScheduleManager.step_behind hmsg htime hm'
    exact ⟨m, hm, h.posts (h.serving.manage clock hmsg hm) hexec⟩
  cases e with
  | advance t =>
    unfold UdpScheduledTrafficApp.manage
    dsimp only
    split
    · rename_i hempty
      have hnil : managerMessages s.queue = [] := by
        rw [hempty]
        rfl
      have hadvance := ScheduleManager.executes_advance h.manager t
      unfold whole at hadvance
      rw [behind_congr hnil _ List.nodup_nil] at hadvance
      refine ⟨_, rfl, h.posts (h.serving.manage clock (e := .advance t) nofun rfl) ?_⟩
      rw [behind_congr hnil _ List.nodup_nil]
      exact hadvance
    · exact ⟨s, rfl, h⟩
  | handleMessage =>
    have hsame : s.scheduleManager.handleMessage clock = .ok s.scheduleManager := by
      unfold ScheduleManager.handleMessage
      rw [h.serving.quiet]
    exact ⟨_, bind_ok.mpr ⟨_, hsame, rfl⟩, h.posts (h.serving.posts (fun _ _ => rfl) rfl) h.manager⟩
  | _ =>
    obtain ⟨m, hm, hs⟩ := hcall nofun nofun
    exact ⟨_, bind_ok.mpr ⟨m, hm, rfl⟩, hs⟩

/-- nothing stands in the way of the next entry -/
theorem Scheduled.undisturbed (hS : S.Executable clock)
    (hpay : ∀ e ∈ S.controlList, 0 < e.scheduledObject.payloadSize) (h : Scheduled clock S t0 s) :
    Undisturbed clock s .handleMessage := by
  intro hex
  unfold executesNext at hex
  split at hex
  · rename_i x queue hq
    unfold executes at hex
    simp only [Bool.and_eq_true, decide_eq_true_eq] at hex
    refine ⟨h.up, ?_, fun o ho => ?_⟩
    · cases h.begun with
      | starting _ hhead =>
        rw [hq] at hhead
        cases hhead
      | started hk => exact hk
    · have hlt := h.manager.listPointer_lt hex.2
      have hentry : s.scheduleManager.operationAt clock = _ := ScheduleManager.operationAt_entry
        (m := s.whole h.serving.once) hS h.manager.1.operSchedule hlt
      rw [hentry] at ho
      cases ho
      exact hpay _ (List.getElem_mem hlt)
  · cases hex

/-- a message of the manager -/
theorem scheduled_handleManager (hS : S.Executable clock)
    (hpay : ∀ e ∈ S.controlList, 0 < e.scheduledObject.payloadSize) (h : Scheduled clock S t0 s)
    (hq : s.queue = .scheduleManager x :: queue) :
    ∃ s', { s with queue }.handleManager clock x = .ok s' ∧ Scheduled clock S t0 s' := by
  have hkeeps := keeps_handleManager h.serving hq (h.undisturbed hS hpay)
  have honce : queue.Nodup := by
    have hall := h.serving.once
    rw [hq] at hall
    exact hall.of_cons
  obtain ⟨m', hm'⟩ := ScheduleManager.handleMessage_undisturbed
    (m := waking s.scheduleManager x) hS ⟨h.manager.1.1, h.manager.1.2, h.manager.1.3, h.manager.1.4,
      h.manager.1.5⟩ fun hn => h.manager.listPointer_lt hn
  have hexec : Executes clock S t0 (m'.behind (managerMessages queue) (nodup_managerMessages honce)) := by
    refine ScheduleManager.executes_machineStep hS h.manager
      (whole_messages h.serving.quiet h.serving.once hq) ?_
    rw [whole_popped h.serving.quiet h.serving.once hq honce]
    exact (machineStep_waking h.serving.quiet hm').behind
  have hbegun : .selfMsg ∈ queue → s.kind ≠ .START := by
    intro hself
    cases h.begun with
    | starting _ hhead =>
      rw [hq] at hhead
      cases hhead
    | started hk =>
      refine hk ?_
      rw [hq]
      exact List.mem_cons_of_mem _ hself
  have hstep : { s with queue }.handleManager clock x =
      if executes s.scheduleManager x then
        { s with queue }.onOperStateChange m'.operState >>= fun s1 => .ok (s1.posts m')
      else .ok ({ s with queue }.posts m') := by
    unfold handleManager
    have hm : ScheduleManager.handleMessage clock
      { s.scheduleManager with agenda := s.scheduleManager.agenda.reschedule x } = .ok m' := hm'
    dsimp only
    rw [hm]
    rfl
  by_cases hex : executes s.scheduleManager x = true
  · rw [if_pos hex] at hstep
    by_cases hself : AppMessage.selfMsg ∈ queue
    · have herror : { s with queue }.handleManager clock x =
          .error (.runtimeError "scheduleAt(): message is already scheduled") := by
        rw [hstep]
        unfold onOperStateChange scheduleAt
        dsimp only
        rw [if_pos hself]
        rfl
      exact absurd (.inl rfl) (hkeeps.2 _ herror)
    · have hok := hstep.trans (bind_ok.mpr ⟨_, scheduleAt_ok.mpr ⟨hself, rfl⟩, rfl⟩)
      refine ⟨_, hok, hkeeps.1 _ hok, h.up, ?_, ?_⟩
      · refine Begun.posts (.started fun _ hk => ?_) m'
        cases hk
      · rw [whole_posts (nodup_scheduled honce hself)]
        have hmessages : managerMessages (queue ++ [.selfMsg]) = managerMessages queue := by
          unfold managerMessages
          rw [List.filterMap_append]
          exact List.append_nil _
        rw [behind_congr hmessages _ (nodup_managerMessages honce)]
        exact hexec
  · rw [if_neg hex] at hstep
    refine ⟨_, hstep, hkeeps.1 _ hstep, h.up, (Begun.started hbegun).posts m', ?_⟩
    rw [whole_posts honce]
    exact hexec

/-- the self-message: the start, or a datagram -/
theorem scheduled_handleSelfMsg (hS : S.Executable clock) (h : Scheduled clock S t0 s)
    (hq : s.queue = .selfMsg :: queue) :
    ∃ s', { s with queue }.handleSelfMsg = .ok s' ∧ Scheduled clock S t0 s' := by
  have hmem : AppMessage.selfMsg ∈ s.queue := by
    rw [hq]
    exact List.mem_cons_self
  have honce := h.serving.once
  rw [hq, List.nodup_cons] at honce
  have hmessages : managerMessages s.queue = managerMessages queue := by
    rw [hq]
    rfl
  have hbegun : ∀ {kind : SelfMsgKinds}, .selfMsg ∈ queue → kind ≠ .START :=
    fun hself => absurd hself honce.1
  have hrun : { s with queue }.handleSelfMsg = { s with queue }.handleMessageWhenUp := by
    unfold handleSelfMsg
    dsimp only
    rw [h.up]
  rw [hrun]
  unfold handleMessageWhenUp
  dsimp only
  split
  · rename_i hk
    refine ⟨_, rfl, ⟨h.serving.processStart hq hk, h.up, Begun.posts (.started hbegun) _, ?_⟩⟩
    obtain ⟨_, hm', hexec⟩ := ScheduleManager.executes_step hS _ (.setEnabled true) h.manager rfl
    obtain ⟨m, hm, rfl⟩ := ScheduleManager.step_behind (m := s.scheduleManager)
      (e := .setEnabled true) nofun nofun hm'
    cases hm
    rw [behind_congr hmessages _ (nodup_managerMessages honce.2)] at hexec
    have hwhole := whole_posts (s := { s with
      queue := queue
      outputGate := true
      done := s.done ++ [AppTask.start] }) honce.2 (s.scheduleManager.setEnabled true)
    exact (congrArg (Executes clock S t0) hwhole).mpr hexec
  · rename_i hk
    exact absurd hk (h.serving.stopping hmem)
  · rename_i hk
    obtain ⟨s', hs', hserving⟩ := h.serving.processSend hq hk
    obtain ⟨_, _, rfl⟩ := processSend_ok.mp hs'
    refine ⟨_, hs', ⟨hserving, h.up, .started hbegun, ?_⟩⟩
    have hexec := h.manager
    unfold whole at hexec
    rw [behind_congr hmessages _ (nodup_managerMessages honce.2)] at hexec
    exact hexec

theorem scheduled_step (hS : S.Executable clock)
    (hpay : ∀ e ∈ S.controlList, 0 < e.scheduledObject.payloadSize) (s : UdpScheduledTrafficApp)
    (e : AppEvent) (h : Scheduled clock S t0 s) (hq : Quiet e) :
    ∃ s', s.step clock e = .ok s' ∧ Scheduled clock S t0 s' := by
  cases e with
  | handleStartOperation => exact absurd hq id
  | handleStopOperation => exact absurd hq id
  | scheduleManager e => exact scheduled_manage hS h hq
  | handleMessage =>
    show ∃ s', s.handleMessage clock = .ok s' ∧ _
    unfold handleMessage
    split
    · exact ⟨s, rfl, h⟩
    · rename_i x queue hqueue
      exact scheduled_handleManager hS hpay h hqueue
    · rename_i queue hqueue
      exact scheduled_handleSelfMsg hS h hqueue

theorem scheduled_start (clock : ClockRate) (S : Schedule SendDatagramEvent) (t0 : SimTime) :
    ∃ s, initializeApp S true t0 = .ok s ∧ Scheduled clock S t0 s := by
  obtain ⟨s, hs⟩ : ∃ s, initializeApp S true t0 = .ok s := ⟨_, rfl⟩
  have hserving := serving_initializeApp hs
  cases hs
  exact ⟨_, rfl, ⟨hserving, rfl, Begun.posts (.starting rfl rfl) _,
    ScheduleManager.executes_start S initialAdminState t0⟩⟩

/-! ## at rest -/

/-- nothing is left to do at this instant -/
def AtRest (s : UdpScheduledTrafficApp) : Prop := s.queue = [] ∧ s.scheduleManager.agenda.Settled

instance (s : UdpScheduledTrafficApp) : Decidable s.AtRest := inferInstanceAs (Decidable (_ ∧ _))

/-- **Datagrams are sent on schedule**: on a node that is up, for every executable schedule without
empty datagrams, no step of the generator or of its manager fails, in whatever order messages and
timestamps come, and at rest the datagrams that were sent are those of the entries that were due,
each once, in list order and numbered. -/
theorem sends_on_schedule (clock : ClockRate) (S : Schedule SendDatagramEvent)
    (hS : S.Executable clock) (hpay : ∀ e ∈ S.controlList, 0 < e.scheduledObject.payloadSize)
    (t0 : SimTime) (es : List AppEvent) (hq : ∀ e ∈ es, Quiet e) :
    ∃ s0 s, initializeApp S true t0 = .ok s0 ∧ run (step clock) s0 es = .ok s ∧
      (s.AtRest → s.sent = ((S.operationsBy (S.firstCycle t0) s.scheduleManager.now).map
        fun o => o.2.2).mapIdx fun i entry => datagram entry i) := by
  obtain ⟨s0, hs0, h0⟩ := scheduled_start clock S t0
  obtain ⟨s, hs, h⟩ := run_total (scheduled_step hS hpay) h0 hq
  refine ⟨s0, s, hs0, hs, ?_⟩
  rintro ⟨hempty, hsettled⟩
  have hexec := h.manager
  unfold whole at hexec
  rw [behind_congr (show managerMessages s.queue = [] by rw [hempty]; rfl) _ List.nodup_nil] at hexec
  have hoperations := ScheduleManager.operations_settled hS hexec hsettled
  have hasked : s.asked = s.done := h.serving.idle (by rw [hempty]; nofun)
  rw [h.serving.sent]
  unfold datagrams
  rw [← hasked, h.serving.entries, ScheduleManager.executed_eq]
  exact congrArg (fun l : List (SimTime × ℕ × SendDatagramEvent) =>
    (l.map fun o => o.2.2).mapIdx fun i entry => datagram entry i) hoperations

instance : ∀ e : AppEvent, Decidable (Quiet e)
  | .handleMessage => isTrue trivial
  | .handleStartOperation => isFalse id
  | .handleStopOperation => isFalse id
  | .scheduleManager (.setAdminSchedule (some s)) => inferInstanceAs (Decidable (0 < s.cycleTime))
  | .scheduleManager (.setAdminSchedule none) => isFalse id
  | .scheduleManager (.setEnabled b) => inferInstanceAs (Decidable (b = true))
  | .scheduleManager (.setConfigChange b) => inferInstanceAs (Decidable (b = false))
  | .scheduleManager .handleMessage => isTrue trivial
  | .scheduleManager .onTimestamp => isTrue trivial
  | .scheduleManager (.advance _) => isTrue trivial
  | .scheduleManager (.setAdminState _) => isTrue trivial

theorem twoDatagrams_executable : twoDatagrams.Executable kiloHertz := by
  refine ⟨by decide, by decide +kernel, ?_, by decide +kernel⟩
  intro e he
  refine ⟨1000, by decide, ?_⟩
  have h1 : e.timeInterval = 1 := by
    obtain rfl | rfl := List.mem_pair.mp he
    · rfl
    · rfl
  rw [h1]
  norm_num [kiloHertz, ClockRate.resolution]

/-- both entries of a cycle, at 1 s and 2 s -/
theorem sends_on_schedule_oneCycle : ∃ s0 s, initializeApp twoDatagrams true 0 = .ok s0 ∧
    run (step kiloHertz) s0 oneCycle = .ok s ∧ s.AtRest ∧ s.sent.length = 2 ∧
    s.sent = ((twoDatagrams.operationsBy (twoDatagrams.firstCycle 0) s.scheduleManager.now).map
      fun o => o.2.2).mapIdx fun i entry => datagram entry i := by
  obtain ⟨s0, s, h0, hs, hsent⟩ := sends_on_schedule kiloHertz twoDatagrams twoDatagrams_executable
    (by decide) 0 oneCycle (by decide +kernel)
  obtain ⟨_, hrun, hrest⟩ : ∃ t, (initializeApp twoDatagrams true 0 >>= fun s0 =>
      run (step kiloHertz) s0 oneCycle) = .ok t ∧ (t.AtRest ∧ t.sent.length = 2) :=
    exists_of_any (by decide +kernel)
  obtain ⟨_, h0', hs'⟩ := bind_ok.mp hrun
  cases h0.symm.trans h0'
  cases hs.symm.trans hs'
  exact ⟨s0, s, h0, hs, hrest.1, hrest.2, hsent hrest.1⟩

end UdpScheduledTrafficApp

end Nesting
