import Mathlib.Data.List.Lemmas
import Nesting.Lib.Run
import Nesting.Udp.TrafficGenerator

/-!
# What the generator was asked for and what it did

* `Serving`        the self-message stands for the last task, and all others are done;
* `Undisturbed`    no stop, no start while the self-message is scheduled, and entries only while the
                   application is started;
* `tasks_served`   **then every task is done as such, once and in order.**
-/

set_option linter.unusedVariables false

namespace Nesting
open Lib

def ManagerRecord.entry {T : Type} : ManagerRecord T → Option T
  | .execute _ _ _ newState => some newState
  | _ => none

namespace ScheduleManager

variable {T : Type} {clock : ClockRate} {m m' : ScheduleManager T}

/-! ## who changes the running state -/

theorem operState_machineStep {x : StateMachine} (hx : x ≠ .LIST_EXECUTE)
    (h : MachineStep clock m m' x) : m'.operState = m.operState := by
  cases x with
  | CYCLE_TIMER =>
    change CycleTimerStep clock m m' at h
    cases h <;> rfl
  | LIST_EXECUTE => exact absurd rfl hx
  | LIST_CONFIG =>
    change ListConfigStep m m' at h
    cases h <;> rfl

/-- the entries that were executed -/
def executed (m : ScheduleManager T) : List T := m.history.filterMap ManagerRecord.entry

theorem executed_append {r : ManagerRecord T} (h : m'.history = m.history ++ [r]) :
    m'.executed = m.executed ++ [r].filterMap ManagerRecord.entry := by
  unfold executed
  rw [h, List.filterMap_append]

theorem frame_setEnabled (m : ScheduleManager T) (enabled : Bool) :
    (m.setEnabled enabled).operState = m.operState ∧
    (m.setEnabled enabled).executed = m.executed := by
  unfold setEnabled
  dsimp only
  split
  · exact ⟨rfl, rfl⟩
  · split
    · exact ⟨rfl, rfl⟩
    · exact ⟨rfl, rfl⟩

/-- the calls and the clock execute nothing and leave the running state alone -/
theorem frame_step {e : ManagerEvent T} (he : e ≠ .handleMessage) (h : step clock m e = .ok m') :
    m'.operState = m.operState ∧ m'.executed = m.executed := by
  cases e with
  | handleMessage => exact absurd rfl he
  | onTimestamp =>
    cases h
    obtain heq | ⟨x, _, _, heq⟩ := onTimestamp_cases m
    · rw [heq]
      exact ⟨rfl, rfl⟩
    · rw [heq]
      exact ⟨rfl, rfl⟩
  | advance t =>
    cases h
    obtain heq | ⟨_, heq⟩ := advance_cases m t
    · rw [heq]
      exact ⟨rfl, rfl⟩
    · rw [heq]
      exact ⟨rfl, rfl⟩
  | setAdminState adminState =>
    cases h
    exact ⟨rfl, rfl⟩
  | setAdminSchedule a =>
    rw [step] at h
    unfold setAdminSchedule at h
    split at h
    · cases h
    · split at h
      · cases h
      · cases h
        exact ⟨rfl, rfl⟩
  | setEnabled enabled =>
    cases h
    exact frame_setEnabled m enabled
  | setConfigChange configChange =>
    cases h
    unfold setConfigChange
    dsimp only
    split
    · exact ⟨rfl, rfl⟩
    · exact ⟨rfl, rfl⟩

/-- an executed entry becomes the running state -/
theorem operState_execute (he : m.enabled = true) (hn : m.nextListExecuteState = .EXECUTE_CYCLE)
    (h : ListExecuteStep clock m m') :
    (∃ i, m.operationAt clock = .ok (m'.operState, i)) ∧
    m'.executed = m.executed ++ [m'.operState] := by
  cases h with
  | rest h =>
    obtain h | h | h := h
    · exact absurd (he.symm.trans h) nofun
    · exact absurd (hn.symm.trans h) nofun
    · exact absurd (hn.symm.trans h) nofun
  | newCycle _ h => exact absurd (hn.symm.trans h) nofun
  | execute _ _ s i hs =>
    refine ⟨⟨i, hs⟩, ?_⟩
    exact executed_append (r := .execute m.now m.listPointer m.operState s) rfl
  | delay _ h => exact absurd (hn.symm.trans h) nofun
  | init _ h => exact absurd (hn.symm.trans h) nofun

/-- the other steps execute nothing -/
theorem executed_machineStep {x : StateMachine} (hx : x = .LIST_EXECUTE → m.enabled = true →
    m.nextListExecuteState ≠ .EXECUTE_CYCLE) (h : MachineStep clock m m' x) :
    m'.executed = m.executed := by
  cases x with
  | CYCLE_TIMER =>
    change CycleTimerStep clock m m' at h
    cases h with
    | rest => rfl
    | idle => rfl
    | setStartTime => rfl
    | startCycle => exact (executed_append rfl).trans (List.append_nil _)
  | LIST_EXECUTE =>
    change ListExecuteStep clock m m' at h
    cases h with
    | rest => rfl
    | newCycle => rfl
    | execute he hn => exact absurd hn (hx rfl he)
    | delay => rfl
    | init => exact (executed_append rfl).trans (List.append_nil _)
  | LIST_CONFIG =>
    change ListConfigStep m m' at h
    cases h with
    | rest => rfl
    | pending => rfl
    | update => exact (executed_append rfl).trans (List.append_nil _)
    | idle => rfl

/-! ## the errors of the machines -/

/-- a run-time error -/
def Thrown (x : SimError) : Prop := ∃ msg, x = .runtimeError msg

theorem not_thrown_assertion (cond : String) : ¬Thrown (.assertion cond) := by
  rintro ⟨msg, h⟩
  cases h

theorem not_thrown_undefined (what : String) : ¬Thrown (.undefinedBehaviour what) := by
  rintro ⟨msg, h⟩
  cases h

theorem ceilQuotient_avoids (a b : SimTime) : Avoids Thrown (ceilQuotient a b) := by
  unfold ceilQuotient
  split
  · exact .error (not_thrown_undefined _)
  · exact .ok _

theorem setCycleStartTime_avoids (m : ScheduleManager T) : Avoids Thrown m.setCycleStartTime := by
  refine .bind ?_ fun t _ => .bind (.assertOther (not_thrown_assertion _)) fun _ _ => .ok _
  unfold nextCycleStart
  dsimp only
  split
  · split
    · exact .ok _
    · exact .bind (ceilQuotient_avoids _ _) fun n _ => .ok _
  · split
    · exact .bind (ceilQuotient_avoids _ _) fun n _ => .ok _
    · exact .ok _

theorem setConfigChangeTime_avoids (m : ScheduleManager T) :
    Avoids Thrown m.setConfigChangeTime := by
  refine .bind ?_ fun t _ => .bind (.assertOther (not_thrown_assertion _)) fun _ _ => .ok _
  unfold nextConfigChange
  dsimp only
  split
  · exact .ok _
  · exact .bind (ceilQuotient_avoids _ _) fun n _ => .ok _

theorem entry_avoids {s : Schedule T} (i : ℕ) : Avoids Thrown (s.entry i) := by
  unfold Schedule.entry
  split
  · exact .ok _
  · exact .error (not_thrown_undefined _)

theorem executeOperation_avoids (clock : ClockRate) (m : ScheduleManager T) :
    Avoids Thrown (m.executeOperation clock) := by
  refine .bind ?_ fun o _ => .ok _
  unfold operationAt
  split
  · exact .ok _
  · exact .bind (.assertOther (not_thrown_assertion _)) fun _ _ =>
      .bind (.bind (entry_avoids _) fun _ _ => .ok _) fun _ _ =>
        .bind (.bind (entry_avoids _) fun _ _ => .ok _) fun _ _ => .ok _

/-- no machine throws a run-time error -/
theorem handleMessage_avoids (clock : ClockRate) (m : ScheduleManager T) :
    Avoids Thrown (m.handleMessage clock) := by
  unfold handleMessage
  split
  · exact .ok _
  · rename_i x _ _
    cases x with
    | CYCLE_TIMER =>
      unfold updateCycleTimerState
      dsimp only
      split
      · split
        · exact .ok _
        · exact .bind (setCycleStartTime_avoids _) fun _ _ => .ok _
        · exact .ok _
        · exact .ok _
      · exact .ok _
    | LIST_EXECUTE =>
      unfold updateListExecuteState
      dsimp only
      split
      · split
        · exact .ok _
        · refine .bind (executeOperation_avoids clock _) fun m' _ => ?_
          rw [afterOperation_eq]
          exact .ok _
        · exact .ok _
        · exact .ok _
        · exact .ok _
        · exact .ok _
      · exact .ok _
    | LIST_CONFIG =>
      unfold updateListConfigState
      dsimp only
      split
      · split
        · exact .bind (setConfigChangeTime_avoids _) fun _ _ => .ok _
        · exact .ok _
        · exact .ok _
        · exact .ok _
      · exact .ok _

end ScheduleManager

namespace UdpScheduledTrafficApp

variable {clock : ClockRate} {s s' : UdpScheduledTrafficApp}
  {m : ScheduleManager SendDatagramEvent}

/-! ## what the manager posts -/

theorem selfMsg_mem_foldl {l : List StateMachine} {q : List AppMessage} :
    .selfMsg ∈ l.foldl (fun q x => post (.scheduleManager x) q) q ↔ .selfMsg ∈ q := by
  induction l generalizing q with
  | nil => exact Iff.rfl
  | cons x l ih =>
    rw [List.foldl_cons, ih, mem_post]
    exact or_iff_right nofun

theorem nodup_foldl {l : List StateMachine} {q : List AppMessage} (h : q.Nodup) :
    (l.foldl (fun q x => post (.scheduleManager x) q) q).Nodup := by
  induction l generalizing q with
  | nil => exact h
  | cons x l ih => exact ih (nodup_post h)

/-- nothing is put ahead of the self-message -/
theorem ahead_foldl {x : StateMachine} {l : List StateMachine} {q : List AppMessage}
    (h : ¬Ahead (.scheduleManager x) .selfMsg q) :
    ¬Ahead (.scheduleManager x) .selfMsg (l.foldl (fun q x => post (.scheduleManager x) q) q) := by
  induction l generalizing q with
  | nil => exact h
  | cons y l ih =>
    rw [List.foldl_cons]
    refine ih fun ha => ?_
    obtain ⟨heq, _⟩ | ⟨_, _, ha⟩ := ha.of_post nofun
    · cases heq
    · exact h ha

/-! ## the tasks -/

def entryOf : AppTask → Option SendDatagramEvent
  | .send entry => some entry
  | _ => none

/-- the datagrams of the tasks that are done, numbered -/
def datagrams (tasks : List AppTask) : List Datagram :=
  (tasks.filterMap entryOf).mapIdx fun i entry => datagram entry i

theorem datagrams_send (tasks : List AppTask) (entry : SendDatagramEvent) :
    datagrams (tasks ++ [.send entry]) =
      datagrams tasks ++ [datagram entry (tasks.filterMap entryOf).length] := by
  unfold datagrams
  rw [List.filterMap_append, show [AppTask.send entry].filterMap entryOf = [entry] from rfl,
    List.mapIdx_concat]

theorem entries_start (tasks : List AppTask) :
    (tasks ++ [AppTask.start]).filterMap entryOf = tasks.filterMap entryOf := by
  rw [List.filterMap_append]
  exact List.append_nil _

theorem datagrams_start (tasks : List AppTask) :
    datagrams (tasks ++ [AppTask.start]) = datagrams tasks := by
  unfold datagrams
  rw [entries_start]

theorem processSend_ok : s.processSend = .ok s' ↔
    0 < s.scheduleManager.operState.payloadSize ∧ s.outputGate = true ∧ s' = { s with
      sent := s.sent ++ [datagram s.scheduleManager.operState s.numSent]
      numSent := s.numSent + 1
      done := s.done ++ [AppTask.send s.scheduleManager.operState] } := by
  unfold processSend
  dsimp only
  split
  · rename_i hpay
    exact iff_of_false nofun fun h => absurd h.1 (not_lt.mpr hpay)
  · rename_i hpay
    split
    · rename_i hgate
      exact iff_of_false nofun fun h => absurd (hgate.symm.trans h.2.1) nofun
    · rename_i hgate
      constructor
      · intro h
        cases h
        exact ⟨not_le.mp hpay, (Bool.not_eq_false _).mp hgate, rfl⟩
      · rintro ⟨_, _, rfl⟩
        rfl

/-- the self-message stands for the last task that was asked for -/
structure Serving (s : UdpScheduledTrafficApp) : Prop where
  quiet : s.scheduleManager.agenda.messages = []
  once : s.queue.Nodup
  up : .selfMsg ∈ s.queue → s.operationalState = .OPERATING
  gate : s.operationalState = .OPERATING →
    s.outputGate = true ∨ (.selfMsg ∈ s.queue ∧ s.kind = .START)
  idle : .selfMsg ∉ s.queue → s.asked = s.done
  starting : .selfMsg ∈ s.queue → s.kind = .START → s.asked = s.done ++ [.start]
  /-- no machine comes between an executed entry and its datagram -/
  sending : .selfMsg ∈ s.queue → s.kind = .SEND →
    s.asked = s.done ++ [.send s.scheduleManager.operState] ∧
    0 < s.scheduleManager.operState.payloadSize ∧ s.outputGate = true ∧
    ¬Ahead (.scheduleManager .LIST_EXECUTE) .selfMsg s.queue
  stopping : .selfMsg ∈ s.queue → s.kind ≠ .STOP
  entries : s.asked.filterMap entryOf = s.scheduleManager.executed
  sent : s.sent = datagrams s.done
  numSent : s.numSent = (s.done.filterMap entryOf).length

/-- the manager has scheduled messages and its running state is needed no more or still the same -/
theorem Serving.posts (h : Serving s)
    (hm : .selfMsg ∈ s.queue → s.kind = .SEND → m.operState = s.scheduleManager.operState)
    (he : m.executed = s.scheduleManager.executed) : Serving (s.posts m) := by
  refine ⟨rfl, nodup_foldl h.once, fun hq => h.up (selfMsg_mem_foldl.mp hq), fun ho => ?_, fun hq => ?_,
    fun hq => h.starting (selfMsg_mem_foldl.mp hq), fun hq hk => ?_,
    fun hq => h.stopping (selfMsg_mem_foldl.mp hq), h.entries.trans he.symm, h.sent, h.numSent⟩
  · obtain hg | ⟨hq, hk⟩ := h.gate ho
    · exact .inl hg
    · exact .inr ⟨selfMsg_mem_foldl.mpr hq, hk⟩
  · exact h.idle fun hq' => hq (selfMsg_mem_foldl.mpr hq')
  · have hq' := selfMsg_mem_foldl.mp hq
    obtain ⟨hasked, hpay, hgate, hahead⟩ := h.sending hq' hk
    have hstate : (silent m).operState = s.scheduleManager.operState := hm hq' hk
    refine ⟨?_, ?_, hgate, ahead_foldl hahead⟩
    · show s.asked = s.done ++ [AppTask.send (silent m).operState]
      rw [hstate]
      exact hasked
    · show 0 < (silent m).operState.payloadSize
      rw [hstate]
      exact hpay

/-- a message of the manager is taken out -/
theorem Serving.pop (h : Serving s) {x : StateMachine} {queue : List AppMessage}
    (hq : s.queue = .scheduleManager x :: queue) : Serving { s with queue } := by
  have hmem : AppMessage.selfMsg ∈ queue ↔ .selfMsg ∈ s.queue := by
    rw [hq, List.mem_cons]
    exact (or_iff_right nofun).symm
  refine ⟨h.quiet, ?_, fun hs => h.up (hmem.mp hs), fun ho => ?_, fun hs => ?_,
    fun hs => h.starting (hmem.mp hs), fun hs hk => ?_, fun hs => h.stopping (hmem.mp hs),
    h.entries, h.sent, h.numSent⟩
  · have honce := h.once
    rw [hq] at honce
    exact honce.of_cons
  · exact (h.gate ho).imp_right fun hg => ⟨hmem.mpr hg.1, hg.2⟩
  · exact h.idle fun hs' => hs (hmem.mpr hs')
  · obtain ⟨hasked, hpay, hgate, hahead⟩ := h.sending (hmem.mp hs) hk
    rw [hq] at hahead
    exact ⟨hasked, hpay, hgate, Ahead.tail hahead⟩

/-- the self-message is scheduled -/
theorem scheduleAt_ok : s.scheduleAt = .ok s' ↔
    .selfMsg ∉ s.queue ∧ s' = { s with queue := s.queue ++ [.selfMsg] } := by
  unfold scheduleAt
  split
  · rename_i hq
    exact iff_of_false nofun fun h => h.1 hq
  · rename_i hq
    constructor
    · intro h
      cases h
      exact ⟨hq, rfl⟩
    · rintro ⟨_, rfl⟩
      rfl

/-- the self-message is the last -/
theorem nodup_scheduled {q : List AppMessage} (h : q.Nodup) (hq : AppMessage.selfMsg ∉ q) :
    (q ++ [AppMessage.selfMsg]).Nodup := by
  rw [List.nodup_append]
  refine ⟨h, List.nodup_singleton _, fun y hy z hz heq => hq ?_⟩
  rw [← List.mem_singleton.mp hz, ← heq]
  exact hy

theorem Serving.handleStartOperation (h : Serving s) (hq : .selfMsg ∉ s.queue) :
    ∃ s', s.handleStartOperation = .ok s' ∧ Serving s' := by
  refine ⟨_, bind_ok.mpr ⟨_, scheduleAt_ok.mpr ⟨hq, rfl⟩, rfl⟩, h.quiet, nodup_scheduled h.once hq,
    fun _ => rfl, fun _ => .inr ⟨by simp, rfl⟩, fun hs => absurd (by simp) hs, fun _ _ => ?_,
    fun _ hk => (nomatch hk), fun _ => nofun, ?_, h.sent, h.numSent⟩
  · show s.asked ++ [AppTask.start] = s.done ++ [AppTask.start]
    rw [h.idle hq]
  · show (s.asked ++ [AppTask.start]).filterMap entryOf = s.scheduleManager.executed
    rw [entries_start]
    exact h.entries

/-- an executed entry, before the manager's own message is scheduled -/
theorem Serving.onOperStateChange (h : Serving s) (hq : .selfMsg ∉ s.queue)
    (hx : .scheduleManager .LIST_EXECUTE ∉ s.queue) (ho : s.operationalState = .OPERATING)
    (hm : 0 < m.operState.payloadSize)
    (he : m.executed = s.scheduleManager.executed ++ [m.operState]) :
    ∃ s1, s.onOperStateChange m.operState = .ok s1 ∧ Serving (s1.posts m) := by
  have hgate : s.outputGate = true := (h.gate ho).resolve_right fun hg => hq hg.1
  refine ⟨_, scheduleAt_ok.mpr ⟨hq, rfl⟩, rfl, nodup_foldl (nodup_scheduled h.once hq), fun _ => ho,
    fun _ => .inl hgate, fun hs => absurd ?_ hs, fun _ hk => (nomatch hk),
    fun _ _ => ⟨?_, hm, hgate, ?_⟩, fun _ => nofun, ?_, h.sent, h.numSent⟩
  · exact selfMsg_mem_foldl.mpr (by simp)
  · show s.asked ++ [AppTask.send m.operState] = s.done ++ [AppTask.send m.operState]
    rw [h.idle hq]
  · refine ahead_foldl fun ha => ?_
    obtain ⟨_, hmem⟩ | ha := ahead_append.mp ha
    · exact hx hmem
    · exact hq ha.mem.2
  · show (s.asked ++ [AppTask.send m.operState]).filterMap entryOf = m.executed
    rw [he, List.filterMap_append, h.entries]
    rfl

/-! ## one step -/

/-- the next message makes the manager execute an entry -/
def executesNext (s : UdpScheduledTrafficApp) : Bool :=
  match s.queue with
  | .scheduleManager x :: _ => executes s.scheduleManager x
  | _ => false

/-- no stop, no start while the self-message is scheduled, and entries that are not empty while the
application is operating and not about to be started -/
def Undisturbed (clock : ClockRate) (s : UdpScheduledTrafficApp) : AppEvent → Prop
  | .handleStopOperation => False
  | .handleStartOperation => .selfMsg ∉ s.queue
  | .handleMessage => executesNext s = true → s.operationalState = .OPERATING ∧
    (.selfMsg ∈ s.queue → s.kind ≠ .START) ∧
    ∀ o ∈ (s.scheduleManager.operationAt clock).toOption, 0 < o.1.payloadSize
  | .scheduleManager _ => True

/-- the errors of the application -/
def AppError (x : SimError) : Prop :=
  x = .runtimeError "scheduleAt(): message is already scheduled" ∨
  x = .runtimeError "Self message received when module is down" ∨
  x = .runtimeError "Error: chunk is empty" ∨
  x = .runtimeError "UdpSocket: setOutputGate() must be invoked before socket can be used"

/-- the outcome keeps to the tasks -/
def Keeps (r : Sim UdpScheduledTrafficApp) : Prop :=
  (∀ s', r = .ok s' → Serving s') ∧ Avoids AppError r

theorem Keeps.ok (h : Serving s) : Keeps (.ok s) := by
  refine ⟨fun s' hs => ?_, .ok s⟩
  cases hs
  exact h

theorem Keeps.error {x : SimError} (h : ¬AppError x) : Keeps (.error x) :=
  ⟨fun s' hs => (nomatch hs), .error h⟩

theorem Keeps.of_exists {r : Sim UdpScheduledTrafficApp} (h : ∃ s', r = .ok s' ∧ Serving s') :
    Keeps r := by
  obtain ⟨s', rfl, hs⟩ := h
  exact .ok hs

/-- a step of the manager that does not fail for the application's reasons -/
theorem Keeps.bind {α : Type} {r : Sim α} {f : α → Sim UdpScheduledTrafficApp}
    (hr : Avoids AppError r) (hf : ∀ a, r = .ok a → Keeps (f a)) : Keeps (r >>= f) := by
  cases r with
  | ok a => exact hf a rfl
  | error x => exact .error (hr x rfl)

theorem avoids_of_thrown {α : Type} {r : Sim α} (h : Avoids ScheduleManager.Thrown r) :
    Avoids AppError r := by
  intro x hx happ
  apply h x hx
  obtain rfl | rfl | rfl | rfl := happ
  all_goals exact ⟨_, rfl⟩

/-- the manager's own errors -/
theorem setAdminSchedule_avoids (a : Option (Schedule SendDatagramEvent)) :
    Avoids AppError (m.setAdminSchedule a) := by
  unfold ScheduleManager.setAdminSchedule
  split
  · exact .error (by unfold AppError; simp)
  · split
    · exact .error (by unfold AppError; simp)
    · exact .ok _

/-- the application starts -/
theorem Serving.processStart (h : Serving s) {queue : List AppMessage}
    (hq : s.queue = .selfMsg :: queue) (hk : s.kind = .START) :
    Serving { s with queue }.processStart := by
  have hmem : AppMessage.selfMsg ∈ s.queue := by rw [hq]; exact List.mem_cons_self
  have honce := h.once
  rw [hq, List.nodup_cons] at honce
  have hserving : Serving { s with
      queue := queue
      outputGate := true
      done := s.done ++ [AppTask.start] } := by
    refine ⟨h.quiet, honce.2, fun hs => absurd hs honce.1, fun _ => .inl rfl,
      fun _ => h.starting hmem hk, fun hs => absurd hs honce.1, fun hs => absurd hs honce.1,
      fun hs => absurd hs honce.1, h.entries, ?_, ?_⟩
    · show s.sent = datagrams (s.done ++ [AppTask.start])
      rw [datagrams_start]
      exact h.sent
    · show s.numSent = ((s.done ++ [AppTask.start]).filterMap entryOf).length
      rw [entries_start]
      exact h.numSent
  have hframe := ScheduleManager.frame_setEnabled s.scheduleManager true
  exact hserving.posts (fun hs => absurd hs honce.1) hframe.2

/-- the datagram of the executed entry is sent -/
theorem Serving.processSend (h : Serving s) {queue : List AppMessage}
    (hq : s.queue = .selfMsg :: queue) (hk : s.kind = .SEND) :
    ∃ s', { s with queue }.processSend = .ok s' ∧ Serving s' := by
  have hmem : AppMessage.selfMsg ∈ s.queue := by rw [hq]; exact List.mem_cons_self
  have honce := h.once
  rw [hq, List.nodup_cons] at honce
  obtain ⟨hasked, hpay, hgate, _⟩ := h.sending hmem hk
  refine ⟨_, processSend_ok.mpr ⟨hpay, hgate, rfl⟩, h.quiet, honce.2, fun hs => absurd hs honce.1,
    fun _ => .inl hgate, fun _ => hasked, fun hs => absurd hs honce.1, fun hs => absurd hs honce.1,
    fun hs => absurd hs honce.1, h.entries, ?_, ?_⟩
  · show s.sent ++ [datagram s.scheduleManager.operState s.numSent] =
      datagrams (s.done ++ [AppTask.send s.scheduleManager.operState])
    rw [datagrams_send, h.sent, h.numSent]
  · show s.numSent + 1 = ((s.done ++ [AppTask.send _]).filterMap entryOf).length
    rw [h.numSent, List.filterMap_append, List.length_append]
    rfl

theorem keeps_handleSelfMsg (h : Serving s) {queue : List AppMessage}
    (hq : s.queue = .selfMsg :: queue) : Keeps { s with queue }.handleSelfMsg := by
  have hmem : AppMessage.selfMsg ∈ s.queue := by rw [hq]; exact List.mem_cons_self
  have hup := h.up hmem
  have hrun : { s with queue }.handleSelfMsg = { s with queue }.handleMessageWhenUp := by
    unfold handleSelfMsg
    dsimp only
    rw [hup]
  rw [hrun]
  unfold handleMessageWhenUp
  dsimp only
  split
  · rename_i hk
    exact .ok (h.processStart hq hk)
  · rename_i hk
    exact absurd hk (h.stopping hmem)
  · rename_i hk
    exact .of_exists (h.processSend hq hk)

/-- the manager with the message of the machine `x` alone -/
def waking (m : ScheduleManager SendDatagramEvent) (x : StateMachine) :
    ScheduleManager SendDatagramEvent :=
  { m with agenda := m.agenda.reschedule x }

/-- the machine `x` takes its step -/
theorem machineStep_waking {x : StateMachine} {m' : ScheduleManager SendDatagramEvent}
    (hm : m.agenda.messages = []) (h : (waking m x).handleMessage clock = .ok m') :
    ScheduleManager.MachineStep clock (waking m x).popped m' x := by
  have hmess : (waking m x).agenda.messages = [x] := by
    show m.agenda.messages.erase x ++ [x] = [x]
    rw [hm]
    rfl
  obtain ⟨hnil, _⟩ | ⟨y, rest, hy, hstep⟩ := ScheduleManager.handleMessage_ok h
  · rw [hmess] at hnil
    cases hnil
  · rw [hmess] at hy
    cases hy
    exact hstep

theorem keeps_handleManager (h : Serving s) {x : StateMachine} {queue : List AppMessage}
    (hq : s.queue = .scheduleManager x :: queue)
    (hu : Undisturbed clock s .handleMessage) : Keeps ({ s with queue }.handleManager clock x) := by
  have hpop := h.pop hq
  have honce := h.once
  rw [hq, List.nodup_cons] at honce
  have hmem : AppMessage.selfMsg ∈ queue ↔ .selfMsg ∈ s.queue := by
    rw [hq, List.mem_cons]
    exact (or_iff_right nofun).symm
  refine .bind (avoids_of_thrown (ScheduleManager.handleMessage_avoids clock _)) fun m' hm => ?_
  have hstep := machineStep_waking h.quiet hm
  by_cases hex : executes s.scheduleManager x = true
  · rw [if_pos hex]
    have hexec : executesNext s = true := by
      rw [executesNext, hq]
      exact hex
    unfold executes at hex
    simp only [Bool.and_eq_true, decide_eq_true_eq] at hex
    obtain ⟨⟨rfl, hen⟩, hnext⟩ := hex
    obtain ⟨hop, hstart, hpay⟩ := hu hexec
    have hlist : ScheduleManager.ListExecuteStep clock
        (waking s.scheduleManager .LIST_EXECUTE).popped m' := hstep
    obtain ⟨⟨i, hi⟩, hentry⟩ := ScheduleManager.operState_execute
      (m := (waking s.scheduleManager .LIST_EXECUTE).popped) hen hnext hlist
    have hself : AppMessage.selfMsg ∉ queue := by
      intro hs
      have hs' := hmem.mp hs
      cases hk : s.kind with
      | START => exact hstart hs' hk
      | SEND =>
        obtain ⟨_, _, _, hahead⟩ := h.sending hs' hk
        rw [hq] at hahead
        exact Ahead.of_head hahead hs
      | STOP => exact h.stopping hs' hk
    have hpos : 0 < m'.operState.payloadSize := by
      have hat : s.scheduleManager.operationAt clock = .ok (m'.operState, i) := hi
      exact hpay (m'.operState, i) (by rw [hat]; rfl)
    obtain ⟨s1, hs1, hserving⟩ := hpop.onOperStateChange hself honce.1 hop hpos hentry
    exact .of_exists ⟨_, bind_ok.mpr ⟨s1, hs1, rfl⟩, hserving⟩
  · rw [if_neg hex]
    refine .ok (hpop.posts (fun hs hk => ?_) ?_)
    · have hx : x ≠ .LIST_EXECUTE := by
        rintro rfl
        obtain ⟨_, _, _, hahead⟩ := h.sending (hmem.mp hs) hk
        rw [hq] at hahead
        exact Ahead.of_head hahead hs
      exact ScheduleManager.operState_machineStep (m := (waking s.scheduleManager x).popped) hx hstep
    · refine ScheduleManager.executed_machineStep (m := (waking s.scheduleManager x).popped) ?_ hstep
      rintro rfl hen hnext
      have hen' : s.scheduleManager.enabled = true := hen
      have hnext' : s.scheduleManager.nextListExecuteState = .EXECUTE_CYCLE := hnext
      apply hex
      unfold executes
      rw [hen', hnext']
      rfl

/-- a call of the manager, or the clock -/
theorem Serving.manage (h : Serving s) (clock : ClockRate) {e : ManagerEvent SendDatagramEvent}
    (he : e ≠ .handleMessage) (hm : s.scheduleManager.step clock e = .ok m) :
    Serving (s.posts m) := by
  have hframe := ScheduleManager.frame_step he hm
  exact h.posts (fun _ _ => hframe.1) hframe.2

theorem keeps_manage (h : Serving s) (e : ManagerEvent SendDatagramEvent) :
    Keeps (s.manage clock e) := by
  cases e with
  | advance t =>
    unfold UdpScheduledTrafficApp.manage
    dsimp only
    split
    · exact .ok (h.manage clock (e := .advance t) nofun rfl)
    · exact .ok h
  | handleMessage =>
    have hsame : s.scheduleManager.handleMessage clock = .ok s.scheduleManager := by
      unfold ScheduleManager.handleMessage
      rw [h.quiet]
    refine .bind (avoids_of_thrown (ScheduleManager.handleMessage_avoids clock _)) fun m hm => ?_
    have hmm : s.scheduleManager = m := Except.ok.inj (hsame.symm.trans hm)
    rw [← hmm]
    exact .ok (h.posts (fun _ _ => rfl) rfl)
  | onTimestamp => exact .ok (h.manage clock (e := .onTimestamp) nofun rfl)
  | setAdminState adminState =>
    exact .ok (h.manage clock (e := .setAdminState adminState) nofun rfl)
  | setAdminSchedule adminSchedule =>
    refine .bind (setAdminSchedule_avoids adminSchedule) fun m hm => ?_
    exact .ok (h.manage clock (e := .setAdminSchedule adminSchedule) nofun hm)
  | setEnabled enabled =>
    exact .ok (h.manage clock (e := .setEnabled enabled) nofun rfl)
  | setConfigChange configChange =>
    exact .ok (h.manage clock (e := .setConfigChange configChange) nofun rfl)

theorem keeps_step (h : Serving s) {e : AppEvent} (hu : Undisturbed clock s e) :
    Keeps (s.step clock e) := by
  cases e with
  | handleMessage =>
    show Keeps (s.handleMessage clock)
    unfold handleMessage
    split
    · exact .ok h
    · rename_i x queue hq
      exact keeps_handleManager h hq hu
    · rename_i queue hq
      exact keeps_handleSelfMsg h hq
  | handleStartOperation => exact .of_exists (h.handleStartOperation hu)
  | handleStopOperation => exact absurd hu id
  | scheduleManager e => exact keeps_manage h e

/-! ## runs -/

theorem serving_created (schedule : Schedule SendDatagramEvent) (t0 : SimTime) :
    Serving (created schedule t0) := by
  refine ⟨rfl, List.nodup_nil, ?_, nofun, fun _ => rfl, ?_, ?_, ?_, rfl, rfl, rfl⟩
  all_goals
    intro hs
    cases hs

theorem serving_initializeApp {schedule : Schedule SendDatagramEvent} {up : Bool} {t0 : SimTime}
    (h : initializeApp schedule up t0 = .ok s) : Serving s := by
  have hcreated := serving_created schedule t0
  cases up with
  | true =>
    obtain ⟨s1, hs1, hs⟩ := bind_ok.mp h
    cases hs
    obtain ⟨s2, hs2, hserving⟩ := hcreated.handleStartOperation nofun
    cases hs2.symm.trans hs1
    exact hserving.posts (fun _ _ => rfl) rfl
  | false =>
    cases h
    exact hcreated.posts (fun _ _ => rfl) rfl

/-- what the self-message is there for now -/
def pending (s : UdpScheduledTrafficApp) : List AppTask :=
  if .selfMsg ∈ s.queue then
    match s.kind with
    | .START => [.start]
    | .SEND => [.send s.scheduleManager.operState]
    | .STOP => [.stop]
  else []

/-- every task but the one that waits is done as such, every executed entry was a task, and its
datagram is sent -/
def Served (s : UdpScheduledTrafficApp) : Prop :=
  s.asked = s.done ++ s.pending ∧
  s.asked.filterMap entryOf = s.scheduleManager.executed ∧
  s.sent = datagrams s.done

theorem Serving.served (h : Serving s) : Served s := by
  refine ⟨?_, h.entries, h.sent⟩
  unfold pending
  split
  · rename_i hq
    split
    · rename_i hk
      exact h.starting hq hk
    · rename_i hk
      exact (h.sending hq hk).1
    · rename_i hk
      exact absurd hk (h.stopping hq)
  · rename_i hq
    rw [List.append_nil]
    exact h.idle hq

/-- **The generator serves every event**: in a run without stops, in which the application starts while
the self-message is free and entries are executed while it is started, no step fails for the
self-message, every task is done as such, and every executed entry is sent. -/
theorem tasks_served (clock : ClockRate) (schedule : Schedule SendDatagramEvent) (up : Bool)
    (t0 : SimTime) (s0 : UdpScheduledTrafficApp) (es : List AppEvent)
    (h0 : initializeApp schedule up t0 = .ok s0)
    (hm : Meets (step clock) (Undisturbed clock) s0 es) :
    (∀ x, run (step clock) s0 es = .error x → ¬AppError x) ∧
    ∀ s, run (step clock) s0 es = .ok s → Served s := by
  have hserving := serving_initializeApp h0
  have hkeeps : ∀ s e s', Serving s → Undisturbed clock s e → s.step clock e = .ok s' →
      Serving s' := fun s e s' hs hu hstep => (keeps_step hs hu).1 s' hstep
  constructor
  · intro x hx
    exact run_error_of hkeeps (fun s e x hs hu => (keeps_step hs hu).2 x) hserving hm hx
  · intro s hs
    exact (run_invariant_of hkeeps hserving hm hs).served

instance (clock : ClockRate) (s : UdpScheduledTrafficApp) :
    ∀ e, Decidable (Undisturbed clock s e)
  | .handleStopOperation => inferInstanceAs (Decidable False)
  | .handleStartOperation => inferInstanceAs (Decidable (AppMessage.selfMsg ∉ s.queue))
  | .handleMessage => inferInstanceAs (Decidable (executesNext s = true →
      s.operationalState = .OPERATING ∧ (AppMessage.selfMsg ∈ s.queue → s.kind ≠ .START) ∧
      ∀ o ∈ (s.scheduleManager.operationAt clock).toOption, 0 < o.1.payloadSize))
  | .scheduleManager _ => inferInstanceAs (Decidable True)

/-- two entries of 1 s, from the time 1 s on -/
def twoDatagrams : Schedule SendDatagramEvent where
  controlList := [⟨1, ⟨5, 7, 3, false, 2, 64⟩⟩, ⟨1, ⟨6, 8, 4, true, 3, 128⟩⟩]
  baseTime := 1
  cycleTime := 2
  cycleTimeExtension := 0
  sumTimeIntervals := 2

/-- a clock of 1 kHz -/
theorem kiloHertz_pos : (0 : ℚ) < 1000 := by norm_num

def kiloHertz : ClockRate := ⟨1000, kiloHertz_pos⟩

def messages (n : Nat) : List AppEvent := List.replicate n .handleMessage

/-- the clock goes on to `t` -/
def tick (t : SimTime) : List AppEvent :=
  [.scheduleManager (.advance t), .scheduleManager .onTimestamp]

/-- the application starts with its node and sends the entries of one cycle -/
def oneCycle : List AppEvent :=
  messages 6 ++ tick 1 ++ messages 5 ++ tick (1001 / 1000) ++ messages 1 ++ tick 2 ++ messages 5

theorem tasks_served_twoDatagrams : ∃ s0, initializeApp twoDatagrams true 0 = .ok s0 ∧
    Meets (step kiloHertz) (Undisturbed kiloHertz) s0 oneCycle ∧
    ((∀ x, run (step kiloHertz) s0 oneCycle = .error x → ¬AppError x) ∧
      ∀ s, run (step kiloHertz) s0 oneCycle = .ok s → Served s) ∧
    ∃ s, run (step kiloHertz) s0 oneCycle = .ok s ∧ s.done.length = 3 ∧
      s.sent = [⟨5, 7, 3, false, 2, 64, 0⟩, ⟨6, 8, 4, true, 3, 128, 1⟩] := by
  obtain ⟨s0, h0, hm, hs⟩ : ∃ s0, initializeApp twoDatagrams true 0 = .ok s0 ∧
      Meets (step kiloHertz) (Undisturbed kiloHertz) s0 oneCycle ∧
      (run (step kiloHertz) s0 oneCycle).toOption.any (fun s => s.done.length = 3 ∧
        s.sent = [⟨5, 7, 3, false, 2, 64, 0⟩, ⟨6, 8, 4, true, 3, 128, 1⟩]) = true :=
    exists_of_any (by decide +kernel)
  exact ⟨s0, h0, hm, tasks_served kiloHertz twoDatagrams true 0 s0 oneCycle h0 hm,
    exists_of_any hs⟩

/-- the stop is finished before its message comes; a start comes while an entry waits; and a stop takes
the datagram of an executed entry away -/
theorem tasks_unserved :
    (∃ s0, initializeApp twoDatagrams true 0 = .ok s0 ∧
      run (step kiloHertz) s0 (messages 6 ++ [.handleStopOperation, .handleMessage]) =
        .error (.runtimeError "Self message received when module is down")) ∧
    (∃ s0, initializeApp twoDatagrams false 0 = .ok s0 ∧
      run (step kiloHertz) s0 (messages 6 ++ tick 1 ++ messages 3 ++ [.handleStartOperation]) =
        .error (.runtimeError "scheduleAt(): message is already scheduled")) ∧
    ∃ s0, initializeApp twoDatagrams true 0 = .ok s0 ∧
      ∃ s, run (step kiloHertz) s0 (messages 6 ++ tick 1 ++ messages 3 ++ [.handleStopOperation]) =
        .ok s ∧ ¬Served s := by
  refine ⟨?_, ?_, ?_⟩
  · obtain ⟨s0, h0, he⟩ : ∃ s0, initializeApp twoDatagrams true 0 = .ok s0 ∧
        errorOf (run (step kiloHertz) s0 (messages 6 ++ [.handleStopOperation, .handleMessage])) =
          some (.runtimeError "Self message received when module is down") :=
      exists_of_any (by decide +kernel)
    exact ⟨s0, h0, eq_error_of he⟩
  · obtain ⟨s0, h0, he⟩ : ∃ s0, initializeApp twoDatagrams false 0 = .ok s0 ∧
        errorOf (run (step kiloHertz) s0
          (messages 6 ++ tick 1 ++ messages 3 ++ [.handleStartOperation])) =
          some (.runtimeError "scheduleAt(): message is already scheduled") :=
      exists_of_any (by decide +kernel)
    exact ⟨s0, h0, eq_error_of he⟩
  · obtain ⟨s0, h0, hs⟩ : ∃ s0, initializeApp twoDatagrams true 0 = .ok s0 ∧
        (run (step kiloHertz) s0
          (messages 6 ++ tick 1 ++ messages 3 ++ [.handleStopOperation])).toOption.any
          (fun s => s.asked ≠ s.done ++ s.pending) = true :=
      exists_of_any (by decide +kernel)
    obtain ⟨s, hrun, hne⟩ := exists_of_any hs
    exact ⟨s0, h0, s, hrun, fun h => hne h.1⟩

end UdpScheduledTrafficApp
end Nesting
