import Nesting.Manager.Execute

/-!
# Changing the schedule

A configuration change takes the administrative schedule over at `configChangeTime`.  The list
execution is not told: its list pointer and its timestamp stay what they were for the old list until
the next cycle starts.

* `Clean`          a step that does not execute outside the list, not the old schedule once its time
                   is over, and from a cycle start on the entries 0, 1, 2, ..;
* `Undisputed`     nothing of the running schedule is due at `configChangeTime`, and the schedule
                   that is taken over starts a cycle there if the list pointer lies outside its list;
* `Changing`       the invariant;
* `change_clean`   runs whose steps are undisputed have clean steps only.
-/

set_option linter.unusedVariables false

namespace Nesting

/-- a cycle of the schedule starts at `t` -/
def Schedule.StartsAt {T : Type} (s : Schedule T) (t : SimTime) : Prop :=
  s.baseTime ≤ t ∧ s.cycleAt (s.firstCycle t) = t

instance {T : Type} (s : Schedule T) (t : SimTime) : Decidable (s.StartsAt t) :=
  inferInstanceAs (Decidable (_ ∧ _))

namespace ScheduleManager
variable {T : Type}

/-! ## what is claimed and what is asked for -/

/-- the list pointer that is executed next, when a cycle has started since the last update -/
def nextIndex (h : List (ManagerRecord T)) : Option ℕ :=
  h.foldl (fun i r =>
    match r with
    | .cycleStart _ => some 0
    | .update _ => none
    | .execute _ _ _ _ => i.map (· + 1)
    | .init _ _ _ => i) none

/-- a change waits whose time has come -/
def ChangeDue (m : ScheduleManager T) : Prop :=
  m.listConfigState = .CONFIG_PENDING ∧ m.configChangeTime ≤ m.now

instance (m : ScheduleManager T) : Decidable m.ChangeDue := inferInstanceAs (Decidable (_ ∧ _))

/-- the list pointer lies outside the list -/
def Stale (m : ScheduleManager T) : Prop :=
  0 < m.operSchedule.controlList.length ∧ m.operSchedule.controlList.length ≤ m.listPointer

instance (m : ScheduleManager T) : Decidable m.Stale := inferInstanceAs (Decidable (_ ∧ _))

/-- the step is not an operation, or one that a clean change allows -/
def Clean (m : ScheduleManager T) : ManagerEvent T → Prop
  | .handleMessage => m.agenda.messages.head? = some .LIST_EXECUTE →
      m.nextListExecuteState = .EXECUTE_CYCLE →
      ¬ m.Stale ∧ ¬ m.ChangeDue ∧ ∀ i ∈ nextIndex m.history, m.listPointer = i
  | _ => True

instance (m : ScheduleManager T) : ∀ e, Decidable (m.Clean e)
  | .handleMessage => inferInstanceAs (Decidable (_ → _ → _ ∧ _ ∧ ∀ i ∈ nextIndex m.history, _))
  | .onTimestamp => inferInstanceAs (Decidable True)
  | .advance _ => inferInstanceAs (Decidable True)
  | .setAdminState _ => inferInstanceAs (Decidable True)
  | .setAdminSchedule _ => inferInstanceAs (Decidable True)
  | .setEnabled _ => inferInstanceAs (Decidable True)
  | .setConfigChange _ => inferInstanceAs (Decidable True)

/-- the step of a machine does not find the running schedule busy at the time of a change -/
def UndisputedStep (m : ScheduleManager T) : StateMachine → Prop
  -- a next start is looked for: it is now, if a list pointer is left over from a longer list
  | .CYCLE_TIMER => m.nextCycleTimerState = .SET_CYCLE_START_TIME → m.Stale →
      m.nextListExecuteState = .EXECUTE_CYCLE ∨ m.nextListExecuteState = .DELAY →
      (m.configPending = false ∧ m.operSchedule.StartsAt m.now) ∨
      (m.configPending = true ∧ m.configChangeTime = m.now ∧
        0 ≤ m.operSchedule.cycleTime + m.operSchedule.cycleTimeExtension)
  | .LIST_EXECUTE => True
  -- a change is planned: if it is for now, no cycle and no entry is about to start
  | .LIST_CONFIG => m.nextListConfigState = .CONFIG_PENDING → m.adminSchedule.StartsAt m.now →
      (.LIST_EXECUTE ∈ m.agenda.messages → m.nextListExecuteState ≠ .NEW_CYCLE ∧
        m.nextListExecuteState ≠ .EXECUTE_CYCLE) ∧
      (.CYCLE_TIMER ∈ m.agenda.messages → m.nextCycleTimerState ≠ .START_CYCLE)

instance (m : ScheduleManager T) : ∀ x, Decidable (m.UndisputedStep x)
  | .CYCLE_TIMER => inferInstanceAs (Decidable (_ → _ → _ → _ ∨ _))
  | .LIST_EXECUTE => inferInstanceAs (Decidable True)
  | .LIST_CONFIG => inferInstanceAs (Decidable (_ → _ → _ ∧ _))

/-- neither a cycle start nor an entry of the running schedule is due at the time of the change -/
def UndisputedTimestamp (m : ScheduleManager T) : StateMachine → Prop
  | .CYCLE_TIMER => m.nextCycleTimerState = .START_CYCLE → ¬ m.ChangeDue
  | .LIST_EXECUTE => ¬ m.ChangeDue
  | .LIST_CONFIG => True

instance (m : ScheduleManager T) : ∀ x, Decidable (m.UndisputedTimestamp x)
  | .CYCLE_TIMER => inferInstanceAs (Decidable (_ → _))
  | .LIST_EXECUTE => inferInstanceAs (Decidable (¬ _))
  | .LIST_CONFIG => inferInstanceAs (Decidable True)

def Undisputed (m : ScheduleManager T) : ManagerEvent T → Prop
  | .handleMessage => ∀ x ∈ m.agenda.messages.head?, m.UndisputedStep x
  | .onTimestamp => ∀ x ∈ m.firstTimestamp, m.UndisputedTimestamp x
  | _ => True

instance (m : ScheduleManager T) : ∀ e, Decidable (m.Undisputed e)
  | .handleMessage => inferInstanceAs (Decidable (∀ x ∈ m.agenda.messages.head?, _))
  | .onTimestamp => inferInstanceAs (Decidable (∀ x ∈ m.firstTimestamp, _))
  | .advance _ => inferInstanceAs (Decidable True)
  | .setAdminState _ => inferInstanceAs (Decidable True)
  | .setAdminSchedule _ => inferInstanceAs (Decidable True)
  | .setEnabled _ => inferInstanceAs (Decidable True)
  | .setConfigChange _ => inferInstanceAs (Decidable True)

/-! ## the invariant -/

/-- the cycle timer will start a cycle at this instant -/
def Rescued (a : Lib.Agenda StateMachine SimTime) (next : CycleTimerState) : Prop :=
  (.CYCLE_TIMER ∈ a.messages ∧ next ≠ .UNDEFINED) ∨
    (a.timestamps .CYCLE_TIMER = some a.now ∧ next = .START_CYCLE)

structure Changing (m : ScheduleManager T) : Prop where
  enabled : m.enabled = true
  future : ∀ w ∈ m.agenda.timestamps .LIST_EXECUTE, m.now ≤ w
  delay : m.nextListExecuteState = .DELAY → 0 < m.exitTimer
  /-- the change takes place at `configChangeTime`, after the entries that are due then -/
  waiting : m.nextListConfigState = .UPDATE_CONFIG → m.listConfigState = .CONFIG_PENDING ∧
    (∀ w ∈ m.agenda.timestamps .LIST_CONFIG, w = m.configChangeTime) ∧
    (.LIST_CONFIG ∈ m.agenda.messages → m.configChangeTime ≤ m.now ∧
      ∀ w ∈ m.agenda.timestamps .LIST_EXECUTE, m.now < w)
  /-- when it is time for the change, no cycle and no entry is about to start -/
  due : m.ChangeDue → (.LIST_EXECUTE ∈ m.agenda.messages →
      m.nextListExecuteState ≠ .NEW_CYCLE ∧ m.nextListExecuteState ≠ .EXECUTE_CYCLE) ∧
    (.CYCLE_TIMER ∈ m.agenda.messages → m.nextCycleTimerState ≠ .START_CYCLE)
  /-- a left over list pointer is used later only, and a cycle starts before -/
  stale : m.Stale →
    (m.nextListExecuteState = .EXECUTE_CYCLE → .LIST_EXECUTE ∉ m.agenda.messages ∧
      ∀ w ∈ m.agenda.timestamps .LIST_EXECUTE, m.now < w) ∧
    (m.nextListExecuteState = .EXECUTE_CYCLE ∨ m.nextListExecuteState = .DELAY →
      Rescued m.agenda m.nextCycleTimerState)
  index : ∀ i ∈ nextIndex m.history, (m.nextListExecuteState = .NEW_CYCLE ∧ i = 0) ∨
    (m.nextListExecuteState ≠ .NEW_CYCLE ∧ m.nextListExecuteState ≠ .INIT ∧ m.listPointer = i)

theorem changing_start (S : Schedule T) (a : T) (t0 : SimTime) : Changing (start a S t0) where
  enabled := rfl
  future := nofun
  delay := nofun
  waiting := nofun
  due := nofun
  stale _ := ⟨nofun, fun h => h.elim nofun nofun⟩
  index := nofun

section step
variable {clock : ClockRate} {m m' : ScheduleManager T} {rest : List StateMachine}
open Lib.Agenda

theorem firstTimestamp_config (h : m.firstTimestamp = some .LIST_CONFIG) :
    m.agenda.timestamps .LIST_EXECUTE ≠ some m.now := by
  intro hts
  unfold firstTimestamp firstDue at h
  rw [List.find?_cons] at h
  split at h
  · cases h
  rw [List.find?_cons] at h
  split at h
  · cases h
  · rename_i hf
    exact of_decide_eq_false hf hts

theorem nextIndex_append (h : List (ManagerRecord T)) (r : ManagerRecord T) :
    nextIndex (h ++ [r]) =
      match r with
      | .cycleStart _ => some 0
      | .update _ => none
      | .execute _ _ _ _ => (nextIndex h).map (· + 1)
      | .init _ _ _ => nextIndex h := by
  unfold nextIndex
  rw [List.foldl_append]
  cases r <;> rfl

/-- a change for a time that has come was planned for a cycle start at this very time -/
theorem startsAt_of_nextConfigChange {t : SimTime} {past : Bool}
    (h : m.nextConfigChange = .ok (t, past)) (ht : t ≤ m.now) (hle : m.now ≤ t) :
    m.adminSchedule.StartsAt m.now := by
  obtain rfl : m.now = t := le_antisymm hle ht
  unfold nextConfigChange Schedule.getBaseTime Schedule.getCycleTime at h
  dsimp only at h
  split at h
  · have hb : m.adminSchedule.baseTime = m.now := congrArg Prod.fst (Except.ok.inj h)
    refine ⟨hb.le, ?_⟩
    unfold Schedule.cycleAt Schedule.firstCycle
    rw [hb, sub_self, zero_div, Int.ceil_zero]
    simp
  · rename_i hlt
    obtain ⟨n, hn, h2⟩ := bind_ok.mp h
    unfold ceilQuotient at hn
    split at hn
    · cases hn
    · cases hn
      exact ⟨(not_le.mp hlt).le, congrArg Prod.fst (Except.ok.inj h2)⟩

/-- what the condition on the cycle timer says: the next start is now -/
theorem nextCycleStart_now {t : SimTime} (h : m.nextCycleStart = .ok t)
    (hc : (m.configPending = false ∧ m.operSchedule.StartsAt m.now) ∨
      (m.configPending = true ∧ m.configChangeTime = m.now ∧
        0 ≤ m.operSchedule.cycleTime + m.operSchedule.cycleTimeExtension)) : t = m.now := by
  unfold nextCycleStart Schedule.getBaseTime Schedule.getCycleTime
    Schedule.getCycleTimeExtension at h
  dsimp only at h
  rcases hc with ⟨hp, hb, hs⟩ | ⟨hp, ht, hext⟩
  · rw [if_pos hp] at h
    split at h
    · rename_i hle
      cases h
      exact le_antisymm hb hle
    · obtain ⟨n, hn, h2⟩ := bind_ok.mp h
      unfold ceilQuotient at hn
      split at hn
      · cases hn
      · cases hn
        cases h2
        exact hs
  · rw [if_neg (by rw [hp]; decide), if_neg (by rw [ht]; linarith)] at h
    cases h
    exact ht

theorem Rescued.agrees {a b : Lib.Agenda StateMachine SimTime} {next : CycleTimerState}
    (h : Rescued a next) (hab : Agrees .CYCLE_TIMER a b) : Rescued b next := by
  unfold Rescued
  rw [hab.2.1, hab.2.2, hab.1]
  exact h

/-- what the cycle timer and the administrative side may change freely -/
theorem Changing.frame (h : Changing m) (he : m'.enabled = true)
    (hx : m'.exitTimer = m.exitTimer) (hn : m'.nextListExecuteState = m.nextListExecuteState)
    (hp : m'.listPointer = m.listPointer) (ho : m'.operSchedule = m.operSchedule)
    (hh : m'.history = m.history) (hl : m'.listConfigState = m.listConfigState)
    (hct : m'.configChangeTime = m.configChangeTime)
    (hlist : Agrees .LIST_EXECUTE m.agenda m'.agenda)
    (hconfig : m'.nextListConfigState = .UPDATE_CONFIG → m.nextListConfigState = .UPDATE_CONFIG ∧
      Agrees .LIST_CONFIG m.agenda m'.agenda)
    (htimer : m.ChangeDue → .CYCLE_TIMER ∈ m'.agenda.messages →
      m'.nextCycleTimerState ≠ .START_CYCLE)
    (hrescued : Rescued m.agenda m.nextCycleTimerState → m.Stale →
      m.nextListExecuteState = .EXECUTE_CYCLE ∨ m.nextListExecuteState = .DELAY →
      Rescued m'.agenda m'.nextCycleTimerState) : Changing m' := by
  have hnow : m'.now = m.now := hlist.1
  have hdue : m'.ChangeDue → m.ChangeDue := by
    unfold ChangeDue
    rw [hl, hct, hnow]
    exact id
  have hstale : m'.Stale → m.Stale := by
    unfold Stale
    rw [ho, hp]
    exact id
  refine ⟨he, ?_, ?_, fun hu => ?_, fun hd => ⟨fun hmem => ?_, htimer (hdue hd)⟩,
    fun hs => ⟨fun hne => ?_, fun hne => ?_⟩, ?_⟩
  · rw [hlist.2.2, hnow]
    exact h.future
  · rw [hn, hx]
    exact h.delay
  · obtain ⟨hu', hc⟩ := hconfig hu
    obtain ⟨h1, h2, h3⟩ := h.waiting hu'
    rw [hl, hct, hc.2.2, hc.2.1, hnow, hlist.2.2]
    exact ⟨h1, h2, h3⟩
  · rw [hn]
    exact (h.due (hdue hd)).1 (hlist.2.1.mp hmem)
  · rw [hn] at hne
    rw [hlist.2.1, hlist.2.2, hnow]
    exact (h.stale (hstale hs)).1 hne
  · rw [hn] at hne
    exact hrescued ((h.stale (hstale hs)).2 hne) (hstale hs) hne
  · rw [hh, hn, hp]
    exact h.index

/-- the cycle timer's step -/
theorem changing_timer (h : Changing m) (hm : m.agenda.messages = .CYCLE_TIMER :: rest)
    (hc : m.UndisputedStep .CYCLE_TIMER) (hs : CycleTimerStep clock m.popped m') :
    Changing m' := by
  have hmem := mem_of_head hm
  have hout := notMem_pop hm
  have hothers : ∀ x, x ≠ .CYCLE_TIMER →
      Agrees x m.agenda (m.agenda.pop.unsubscribe .CYCLE_TIMER) := fun x hx => agrees_handle hx hm
  have hlist := hothers .LIST_EXECUTE (by decide)
  have hconfig := hothers .LIST_CONFIG (by decide)
  cases hs with
  | rest hr =>
    rcases hr with hr | hr
    · exact absurd (h.enabled.symm.trans hr) (by decide)
    refine h.frame h.enabled rfl rfl rfl rfl rfl rfl rfl hlist (fun hu => ⟨hu, hconfig⟩)
      (fun _ hin => absurd hin hout) fun hres _ _ => ?_
    rcases hres with ⟨_, hne⟩ | ⟨_, heq⟩
    · exact absurd hr hne
    · exact absurd (heq.symm.trans hr) (by decide)
  | idle _ _ =>
    refine h.frame h.enabled rfl rfl rfl rfl rfl rfl rfl
      (hlist.trans (agrees_reschedule (by decide)))
      (fun hu => ⟨hu, hconfig.trans (agrees_reschedule (by decide))⟩) (fun _ _ => nofun)
      fun _ _ _ => .inl ⟨(mem_reschedule _ _ _).mpr (.inl rfl), nofun⟩
  | setStartTime _ hn t ht _ =>
    refine h.frame h.enabled rfl rfl rfl rfl rfl rfl rfl
      (hlist.trans (agrees_subscribe (by decide) _))
      (fun hu => ⟨hu, hconfig.trans (agrees_subscribe (by decide) _)⟩)
      (fun _ hin => absurd hin hout) fun _ hst hne => .inr ⟨?_, rfl⟩
    have hnow : t = m.now := nextCycleStart_now (m := m.popped) ht (hc hn hst hne)
    rw [timestamps_subscribe, if_pos rfl, hnow]
    rfl
  | startCycle _ hn =>
    have hts : (((m.agenda.pop.unsubscribe .CYCLE_TIMER).reschedule .LIST_EXECUTE).subscribe
        (m.now + clock.resolution) .CYCLE_TIMER).timestamps .LIST_EXECUTE =
        m.agenda.timestamps .LIST_EXECUTE := by
      rw [timestamps_subscribe, if_neg (by decide), timestamps_reschedule, hlist.2.2]
    have hconfig' : Agrees .LIST_CONFIG m.agenda (((m.agenda.pop.unsubscribe
        .CYCLE_TIMER).reschedule .LIST_EXECUTE).subscribe (m.now + clock.resolution)
        .CYCLE_TIMER) :=
      (hconfig.trans (agrees_reschedule (by decide))).trans (agrees_subscribe (by decide) _)
    refine ⟨h.enabled, fun w hw => h.future w (hts ▸ hw), nofun, fun hu => ?_, fun hd => ?_,
      fun _ => ⟨nofun, ?_⟩, ?_⟩
    · obtain ⟨h1, h2, h3⟩ := h.waiting hu
      refine ⟨h1, fun w hw => h2 w (hconfig'.2.2 ▸ hw), fun hin => ?_⟩
      obtain ⟨h4, h5⟩ := h3 (hconfig'.2.1.mp hin)
      exact ⟨h4, fun w hw => h5 w (hts ▸ hw)⟩
    · exact absurd hn ((h.due hd).2 hmem)
    · exact fun hne => hne.elim nofun nofun
    · show ∀ i ∈ nextIndex (m.history ++ [_]), _
      rw [nextIndex_append]
      intro i hi
      exact .inl ⟨rfl, (Option.some.inj hi).symm⟩

/-- the list configuration's step -/
theorem changing_config (h : Changing m) (hm : m.agenda.messages = .LIST_CONFIG :: rest)
    (hc : m.UndisputedStep .LIST_CONFIG) (hs : ListConfigStep m.popped m') : Changing m' := by
  have hmem := mem_of_head hm
  have hout := notMem_pop hm
  have hothers : ∀ x, x ≠ .LIST_CONFIG →
      Agrees x m.agenda (m.agenda.pop.unsubscribe .LIST_CONFIG) := fun x hx => agrees_handle hx hm
  have hlist := hothers .LIST_EXECUTE (by decide)
  have htimer := hothers .CYCLE_TIMER (by decide)
  -- a step that neither plans nor makes a change
  have hrest : ∀ m' : ScheduleManager T, m'.enabled = true → m'.exitTimer = m.exitTimer →
      m'.nextListExecuteState = m.nextListExecuteState → m'.listPointer = m.listPointer →
      m'.operSchedule = m.operSchedule → m'.history = m.history →
      m'.nextCycleTimerState = m.nextCycleTimerState →
      m'.agenda = m.agenda.pop.unsubscribe .LIST_CONFIG → m'.listConfigState ≠ .CONFIG_PENDING →
      m'.nextListConfigState ≠ .UPDATE_CONFIG → Changing m' := by
    intro m' he hx hn hp ho hh ht ha hl hu
    have hnow : m'.now = m.now := (congrArg Lib.Agenda.now ha).trans rfl
    have hstale : m'.Stale → m.Stale := by
      unfold Stale
      rw [ho, hp]
      exact id
    refine ⟨he, ?_, ?_, fun hu' => absurd hu' hu, fun hd => absurd hd.1 hl,
      fun hs => ⟨fun hne => ?_, fun hne => ?_⟩, ?_⟩
    · rw [ha, hlist.2.2, hnow]
      exact h.future
    · rw [hn, hx]
      exact h.delay
    · rw [hn] at hne
      rw [ha, hlist.2.1, hlist.2.2, hnow]
      exact (h.stale (hstale hs)).1 hne
    · rw [hn] at hne
      rw [ha, ht]
      exact ((h.stale (hstale hs)).2 hne).agrees htimer
    · rw [hh, hn, hp]
      exact h.index
  cases hs with
  | rest hr =>
    rcases hr with hr | hr
    · exact absurd (h.enabled.symm.trans hr) (by decide)
    have hr' : m.nextListConfigState = .UNDEFINED := hr
    refine hrest _ h.enabled rfl rfl rfl rfl rfl rfl rfl ?_ ?_
    · show m.nextListConfigState ≠ _
      rw [hr']
      nofun
    · show m.nextListConfigState ≠ _
      rw [hr']
      nofun
  | idle _ hn =>
    have hn' : m.nextListConfigState = .CONFIG_IDLE := hn
    refine hrest _ h.enabled rfl rfl rfl rfl rfl rfl rfl ?_ ?_
    · show m.nextListConfigState ≠ _
      rw [hn']
      nofun
    · show m.nextListConfigState ≠ _
      rw [hn']
      nofun
  | pending _ hn t past ht hle =>
    have hlist' : Agrees .LIST_EXECUTE m.agenda ((m.agenda.pop.unsubscribe .LIST_CONFIG).subscribe t
        .LIST_CONFIG) := hlist.trans (agrees_subscribe (by decide) _)
    have htimer' : Agrees .CYCLE_TIMER m.agenda ((m.agenda.pop.unsubscribe .LIST_CONFIG).subscribe t
        .LIST_CONFIG) := htimer.trans (agrees_subscribe (by decide) _)
    refine ⟨h.enabled, fun w hw => h.future w (hlist'.2.2 ▸ hw), h.delay,
      fun _ => ⟨hn, ?_, fun hin => absurd hin hout⟩, fun hd => ?_,
      fun hst => ⟨fun hne => ?_, fun hne => ?_⟩, h.index⟩
    · have hts : ((m.agenda.pop.unsubscribe .LIST_CONFIG).subscribe t .LIST_CONFIG).timestamps
          .LIST_CONFIG = some t := by
        rw [timestamps_subscribe, if_pos rfl]
      exact fun w hw => (Option.some.inj (hts.symm.trans hw)).symm
    · have hstarts := startsAt_of_nextConfigChange (m := m.popped) ht hd.2 hle
      obtain ⟨h1, h2⟩ := hc hn hstarts
      exact ⟨fun hin => h1 (hlist'.2.1.mp hin), fun hin => h2 (htimer'.2.1.mp hin)⟩
    · obtain ⟨h1, h2⟩ := (h.stale hst).1 hne
      exact ⟨fun hin => h1 (hlist'.2.1.mp hin), fun w hw => h2 w (hlist'.2.2 ▸ hw)⟩
    · exact ((h.stale hst).2 hne).agrees htimer'
  | update _ hn =>
    obtain ⟨hpending, _, hdue⟩ := h.waiting hn
    obtain ⟨hle, hlater⟩ := hdue hmem
    have hidle := (h.due ⟨hpending, hle⟩).1
    have hlist' : Agrees .LIST_EXECUTE m.agenda (((m.agenda.pop.unsubscribe
        .LIST_CONFIG).reschedule .CYCLE_TIMER).reschedule .LIST_CONFIG) :=
      (hlist.trans (agrees_reschedule (by decide))).trans (agrees_reschedule (by decide))
    have hnot : m.nextListConfigState ≠ .CONFIG_PENDING := by
      show m.popped.nextListConfigState ≠ _
      rw [hn]
      nofun
    refine ⟨h.enabled, fun w hw => h.future w (hlist'.2.2 ▸ hw), h.delay, nofun,
      fun hd => absurd hd.1 hnot, fun _ => ⟨fun hne => ⟨fun hin => ?_, fun w hw => ?_⟩,
      fun _ => .inl ⟨?_, nofun⟩⟩, ?_⟩
    · exact (hidle (hlist'.2.1.mp hin)).2 hne
    · exact hlater w (hlist'.2.2 ▸ hw)
    · exact (mem_reschedule _ _ _).mpr (.inr ((mem_reschedule _ _ _).mpr (.inl rfl)))
    · show ∀ i ∈ nextIndex (m.history ++ [_]), _
      rw [nextIndex_append]
      nofun

/-- the interval of an operation that is followed by a delay -/
theorem delay_pos {i : SimTime}
    (h : (if m.operSchedule.controlList.length ≤ m.listPointer + 1 then
      ListExecuteState.END_OF_CYCLE else if i ≤ 0 then .EXECUTE_CYCLE else .DELAY) = .DELAY) :
    0 < i := by
  split at h
  · cases h
  split at h
  · cases h
  · exact not_le.mp ‹_›

/-- the list execution's step -/
theorem changing_list (h : Changing m) (hm : m.agenda.messages = .LIST_EXECUTE :: rest)
    (hs : ListExecuteStep clock m.popped m') : Changing m' := by
  have hmem := mem_of_head hm
  have hout := notMem_pop hm
  have hothers : ∀ x, x ≠ .LIST_EXECUTE →
      Agrees x m.agenda (m.agenda.pop.unsubscribe .LIST_EXECUTE) := fun x hx => agrees_handle hx hm
  have hconfig := hothers .LIST_CONFIG (by decide)
  have htimer := hothers .CYCLE_TIMER (by decide)
  have hnone : (m.agenda.pop.unsubscribe .LIST_EXECUTE).timestamps .LIST_EXECUTE = none := by
    rw [timestamps_unsubscribe, if_pos rfl]
  -- without a timestamp of the list execution the change still comes after what is due
  have hwaiting : ∀ a : Lib.Agenda StateMachine SimTime, Agrees .LIST_CONFIG m.agenda a →
      (∀ w ∈ a.timestamps .LIST_EXECUTE, m.now < w) → m.nextListConfigState = .UPDATE_CONFIG →
      m.listConfigState = .CONFIG_PENDING ∧
        (∀ w ∈ a.timestamps .LIST_CONFIG, w = m.configChangeTime) ∧
        (.LIST_CONFIG ∈ a.messages → m.configChangeTime ≤ m.now ∧
          ∀ w ∈ a.timestamps .LIST_EXECUTE, m.now < w) := by
    intro a ha hlater hu
    obtain ⟨h1, h2, h3⟩ := h.waiting hu
    rw [ha.2.2, ha.2.1]
    exact ⟨h1, h2, fun hin => ⟨(h3 hin).1, hlater⟩⟩
  have hnever : ∀ w ∈ (m.agenda.pop.unsubscribe .LIST_EXECUTE).timestamps .LIST_EXECUTE,
      m.now < w := by
    rw [hnone]
    nofun
  cases hs with
  | rest hr =>
    have hr' : m.nextListExecuteState = .END_OF_CYCLE ∨ m.nextListExecuteState = .UNDEFINED :=
      hr.resolve_left fun he => absurd (h.enabled.symm.trans he) (by decide)
    have hne : m.nextListExecuteState ≠ .EXECUTE_CYCLE ∧ m.nextListExecuteState ≠ .DELAY := by
      rcases hr' with hr' | hr' <;> rw [hr'] <;> exact ⟨nofun, nofun⟩
    refine ⟨h.enabled, fun w hw => (hnever w hw).le, h.delay, hwaiting _ hconfig hnever,
      fun hd => ⟨fun hin => absurd hin hout, fun hin => (h.due hd).2 (htimer.2.1.mp hin)⟩,
      fun _ => ⟨fun h1 => absurd h1 hne.1, fun h1 => ?_⟩, h.index⟩
    exact absurd h1 fun h1 => h1.elim hne.1 hne.2
  | newCycle _ hn =>
    refine ⟨h.enabled, fun w hw => (hnever w hw).le, nofun,
      hwaiting _ (hconfig.trans (agrees_reschedule (by decide))) hnever,
      fun hd => absurd hn ((h.due hd).1 hmem).1,
      fun hst => absurd hst.1 (not_lt.mpr hst.2), fun i hi => .inr ⟨nofun, nofun, ?_⟩⟩
    rcases h.index i hi with ⟨_, h0⟩ | ⟨h0, _⟩
    · exact h0.symm
    · exact absurd hn h0
  | execute _ hn t i ho =>
    refine ⟨h.enabled, fun w hw => (hnever w hw).le, delay_pos,
      hwaiting _ (hconfig.trans (agrees_reschedule (by decide))) hnever,
      fun hd => absurd hn ((h.due hd).1 hmem).2, fun hst => ?_, ?_⟩
    · have hend : m.operSchedule.controlList.length ≤ m.listPointer + 1 := hst.2
      exact ⟨fun hne => absurd ((if_pos hend).symm.trans hne) (by decide), fun hne =>
        hne.elim (fun hne => absurd ((if_pos hend).symm.trans hne) (by decide))
          fun hne => absurd ((if_pos hend).symm.trans hne) (by decide)⟩
    · show ∀ j ∈ nextIndex (m.history ++ [_]), _
      rw [nextIndex_append]
      intro j hj
      obtain ⟨k, hk, rfl⟩ := Option.map_eq_some_iff.mp hj
      right
      rcases h.index k hk with ⟨h0, _⟩ | ⟨_, _, h0⟩
      · exact absurd (h0.symm.trans hn) (by decide)
      · refine ⟨?_, ?_, congrArg (· + 1) h0⟩
        · dsimp only
          split
          · nofun
          split <;> nofun
        · dsimp only
          split
          · nofun
          split <;> nofun
  | delay _ hn =>
    have hpos : 0 < m.exitTimer := h.delay hn
    have hlater : ∀ w ∈ ((m.agenda.pop.unsubscribe .LIST_EXECUTE).subscribe (m.now + m.exitTimer)
        .LIST_EXECUTE).timestamps .LIST_EXECUTE, m.now < w := by
      rw [timestamps_subscribe, if_pos rfl]
      intro w hw
      cases hw
      linarith
    refine ⟨h.enabled, fun w hw => (hlater w hw).le, nofun,
      hwaiting _ (hconfig.trans (agrees_subscribe (by decide) _)) hlater,
      fun hd => ⟨fun hin => absurd hin hout, fun hin => (h.due hd).2 (htimer.2.1.mp hin)⟩,
      fun hst => ⟨fun _ => ⟨hout, hlater⟩, fun _ => ?_⟩, fun i hi => .inr ⟨nofun, nofun, ?_⟩⟩
    · exact ((h.stale hst).2 (.inr hn)).agrees (htimer.trans (agrees_subscribe (by decide) _))
    · rcases h.index i hi with ⟨h0, _⟩ | ⟨_, _, h0⟩
      · exact absurd (h0.symm.trans hn) (by decide)
      · exact h0
  | init _ hn =>
    refine ⟨h.enabled, fun w hw => (hnever w hw).le, nofun,
      hwaiting _ (hconfig.trans (agrees_reschedule (by decide))) hnever,
      fun hd => ⟨fun _ => ⟨nofun, nofun⟩, fun hin => (h.due hd).2 (htimer.2.1.mp ?_)⟩,
      fun _ => ⟨nofun, fun hne => hne.elim nofun nofun⟩, ?_⟩
    · exact ((mem_reschedule _ _ _).mp hin).resolve_left (by decide)
    · show ∀ i ∈ nextIndex (m.history ++ [_]), _
      rw [nextIndex_append]
      intro i hi
      rcases h.index i hi with ⟨h0, _⟩ | ⟨_, h0, _⟩
      · exact absurd (h0.symm.trans hn) (by decide)
      · exact absurd hn h0

/-- a timestamp -/
theorem changing_onTimestamp (h : Changing m) (hc : m.Undisputed .onTimestamp) :
    Changing m.onTimestamp := by
  rcases onTimestamp_cases m with heq | ⟨x, hfirst, hx, heq⟩
  · rw [heq]
    exact h
  rw [heq]
  have hcx := hc x hfirst
  cases x with
  | CYCLE_TIMER =>
    refine h.frame h.enabled rfl rfl rfl rfl rfl rfl rfl (agrees_deliver (by decide))
      (fun hu => ⟨hu, agrees_deliver (by decide)⟩) (fun hd _ hn => hcx hn hd) fun hr _ _ => .inl ?_
    refine ⟨(mem_deliver _ _ _).mpr (.inl rfl), ?_⟩
    rcases hr with ⟨_, hr⟩ | ⟨_, hr⟩
    · exact hr
    · show m.nextCycleTimerState ≠ _
      rw [hr]
      nofun
  | LIST_EXECUTE =>
    have htimer : Agrees .CYCLE_TIMER m.agenda (m.agenda.deliver .LIST_EXECUTE) :=
      agrees_deliver (by decide)
    have hconfig : Agrees .LIST_CONFIG m.agenda (m.agenda.deliver .LIST_EXECUTE) :=
      agrees_deliver (by decide)
    have hnever : ∀ w ∈ (m.agenda.deliver .LIST_EXECUTE).timestamps .LIST_EXECUTE, m.now < w := by
      rw [timestamps_deliver, if_pos rfl]
      nofun
    refine ⟨h.enabled, fun w hw => (hnever w hw).le, h.delay, fun hu => ?_,
      fun hd => absurd hd hcx, fun hst => ⟨fun hne => ?_, fun hne => ?_⟩, h.index⟩
    · obtain ⟨h1, h2, h3⟩ := h.waiting hu
      exact ⟨h1, fun w hw => h2 w (hconfig.2.2 ▸ hw),
        fun hin => ⟨(h3 (hconfig.2.1.mp hin)).1, hnever⟩⟩
    · exact absurd ((h.stale hst).1 hne |>.2 _ hx) (lt_irrefl _)
    · exact ((h.stale hst).2 hne).agrees htimer
  | LIST_CONFIG =>
    have hlist : Agrees .LIST_EXECUTE m.agenda (m.agenda.deliver .LIST_CONFIG) :=
      agrees_deliver (by decide)
    have htimer : Agrees .CYCLE_TIMER m.agenda (m.agenda.deliver .LIST_CONFIG) :=
      agrees_deliver (by decide)
    refine ⟨h.enabled, fun w hw => h.future w (hlist.2.2 ▸ hw), h.delay, fun hu => ?_, fun hd => ?_,
      fun hst => ⟨fun hne => ?_, fun hne => ?_⟩, h.index⟩
    · obtain ⟨h1, h2, _⟩ := h.waiting hu
      refine ⟨h1, ?_, fun _ => ⟨(h2 _ hx).ge, fun w hw => ?_⟩⟩
      · show ∀ w ∈ (m.agenda.deliver .LIST_CONFIG).timestamps .LIST_CONFIG, _
        rw [timestamps_deliver, if_pos rfl]
        nofun
      · have hw' : m.agenda.timestamps .LIST_EXECUTE = some w := hlist.2.2 ▸ hw
        refine lt_of_le_of_ne (h.future w hw') fun heq => firstTimestamp_config hfirst ?_
        change m.now = w at heq
        rw [hw', heq]
    · obtain ⟨h1, h2⟩ := h.due hd
      exact ⟨fun hin => h1 (hlist.2.1.mp hin), fun hin => h2 (htimer.2.1.mp hin)⟩
    · obtain ⟨h1, h2⟩ := (h.stale hst).1 hne
      exact ⟨fun hin => h1 (hlist.2.1.mp hin), fun w hw => h2 w (hlist.2.2 ▸ hw)⟩
    · exact ((h.stale hst).2 hne).agrees htimer

/-- time passing -/
theorem changing_advance (h : Changing m) (t : SimTime) : Changing (m.advance t) := by
  rcases advance_cases m t with heq | ⟨ht, heq⟩
  · rw [heq]
    exact h
  rw [heq]
  have hempty : ∀ x, x ∉ m.agenda.messages := by
    intro x
    rw [ht.1.1]
    exact List.not_mem_nil
  -- the time does not go on before a cycle that is about to start
  have hcalm : ¬ Rescued m.agenda m.nextCycleTimerState := by
    rintro (⟨hin, _⟩ | ⟨hts, _⟩)
    · exact hempty _ hin
    · exact ht.1.2 _ hts
  refine ⟨h.enabled, fun w hw => ht.2.2 _ w hw, h.delay, fun hu => ?_,
    fun _ => ⟨fun hin => absurd hin (hempty _), fun hin => absurd hin (hempty _)⟩,
    fun hst => ⟨fun hne => ?_, fun hne => ?_⟩, h.index⟩
  · obtain ⟨h1, h2, _⟩ := h.waiting hu
    exact ⟨h1, h2, fun hin => absurd hin (hempty _)⟩
  · exact absurd ((h.stale hst).2 (.inl hne)) hcalm
  · exact absurd ((h.stale hst).2 hne) hcalm

/-- the list configuration is told to plan a change -/
theorem changing_plan (h : Changing m) (he : m'.enabled = true)
    (hx : m'.exitTimer = m.exitTimer) (hn : m'.nextListExecuteState = m.nextListExecuteState)
    (hp : m'.listPointer = m.listPointer) (ho : m'.operSchedule = m.operSchedule)
    (hh : m'.history = m.history) (hl : m'.listConfigState = m.listConfigState)
    (hct : m'.configChangeTime = m.configChangeTime)
    (ht : m'.nextCycleTimerState = m.nextCycleTimerState)
    (hu : m'.nextListConfigState = .CONFIG_PENDING)
    (ha : m'.agenda = m.agenda.reschedule .LIST_CONFIG) : Changing m' := by
  have hlist : Agrees .LIST_EXECUTE m.agenda m'.agenda := ha ▸ agrees_reschedule (by decide)
  have htimer : Agrees .CYCLE_TIMER m.agenda m'.agenda := ha ▸ agrees_reschedule (by decide)
  refine h.frame he hx hn hp ho hh hl hct hlist (fun hu' => ?_) (fun hd hin => ?_) fun hr _ _ => ?_
  · exact absurd (hu.symm.trans hu') (by decide)
  · rw [ht]
    exact (h.due hd).2 (htimer.2.1.mp hin)
  · rw [ht]
    exact hr.agrees htimer

/-- **One event** of an undisputed run keeps the invariant. -/
theorem changing_step (m : ScheduleManager T) (e : ManagerEvent T) (m' : ScheduleManager T)
    (h : Changing m) (hc : e ≠ .setEnabled false ∧ m.Undisputed e)
    (hs : step clock m e = .ok m') : Changing m' := by
  obtain ⟨hen, hc⟩ := hc
  cases e with
  | handleMessage =>
    rcases handleMessage_ok hs with ⟨_, rfl⟩ | ⟨x, rest, hm, hx⟩
    · exact h
    have hcx := hc x (by rw [hm]; rfl)
    cases x with
    | CYCLE_TIMER => exact changing_timer h hm hcx hx
    | LIST_EXECUTE => exact changing_list h hm hx
    | LIST_CONFIG => exact changing_config h hm hcx hx
  | onTimestamp =>
    cases hs
    exact changing_onTimestamp h hc
  | advance t =>
    cases hs
    exact changing_advance h t
  | setAdminState a =>
    cases hs
    exact ⟨h.1, h.2, h.3, h.4, h.5, h.6, h.7⟩
  | setAdminSchedule a =>
    cases a with
    | none => cases hs
    | some a =>
      change (if a.getCycleTime ≤ 0 then _ else _) = _ at hs
      split at hs
      · cases hs
      · cases hs
        exact ⟨h.1, h.2, h.3, h.4, h.5, h.6, h.7⟩
  | setEnabled b =>
    cases b with
    | false => exact absurd rfl hen
    | true =>
      cases hs
      show Changing (m.setEnabled true)
      unfold setEnabled
      dsimp only
      split
      · exact absurd ‹true = false› (by decide)
      split
      · exact changing_plan h rfl rfl rfl rfl rfl rfl rfl rfl rfl rfl rfl
      · exact ⟨rfl, h.2, h.3, h.4, h.5, h.6, h.7⟩
  | setConfigChange b =>
    cases hs
    show Changing (m.setConfigChange b)
    unfold setConfigChange
    dsimp only
    split
    · exact changing_plan h h.enabled rfl rfl rfl rfl rfl rfl rfl rfl rfl rfl
    · exact ⟨h.1, h.2, h.3, h.4, h.5, h.6, h.7⟩

/-- the invariant makes the next step clean -/
theorem Changing.clean (h : Changing m) (e : ManagerEvent T) : m.Clean e := by
  cases e with
  | handleMessage =>
    intro hhead hn
    have hmem : .LIST_EXECUTE ∈ m.agenda.messages := List.mem_of_head? hhead
    refine ⟨fun hst => ((h.stale hst).1 hn).1 hmem, fun hd => ((h.due hd).1 hmem).2 hn,
      fun i hi => ?_⟩
    rcases h.index i hi with ⟨h0, _⟩ | ⟨_, _, h0⟩
    · exact absurd (h0.symm.trans hn) (by decide)
    · exact h0
  | _ => trivial

/-- **Undisputed changes are clean.**  However often schedules are set and changes asked for, and in
whatever order the events of an instant come: as long as nothing of the running schedule is due at
the time of a change, and the schedule taken over starts a cycle there when the list pointer lies
outside its list, no operation runs outside the list, none of the old schedule runs when its time is
over, and from a cycle start on the entries run from the first one in list order. -/
theorem change_clean (S : Schedule T) (a : T) (t0 : SimTime) {es : List (ManagerEvent T)}
    (hen : ∀ e ∈ es, e ≠ .setEnabled false)
    (hm : Lib.Meets (step clock) Undisputed (start a S t0) es) :
    Lib.Meets (step clock) Clean (start a S t0) es :=
  Lib.Meets.of_invariant changing_step (fun _ e h _ => h.clean e) (changing_start S a t0)
    ((Lib.meets_of_forall hen _).and hm)

end step

/-! ## three runs -/

/-- whatever is to be done at an instant -/
def instant : List (ManagerEvent ℕ) :=
  List.replicate 3 .onTimestamp ++ List.replicate 9 .handleMessage ++ [.onTimestamp] ++
    List.replicate 6 .handleMessage

/-- entries of 3, 5 and 2 us -/
def threeEntries : Schedule ℕ :=
  ⟨[⟨3 / 1000000, 1⟩, ⟨5 / 1000000, 2⟩, ⟨2 / 1000000, 3⟩], 0, 10 / 1000000, 0, 10 / 1000000⟩

/-- a single entry, from the base time on -/
def oneEntry (baseTime : SimTime) : Schedule ℕ :=
  ⟨[⟨10 / 1000000, 4⟩], baseTime, 10 / 1000000, 0, 10 / 1000000⟩

/-- a change to `oneEntry baseTime` is asked for at 2 us -/
def changeAt (baseTime : SimTime) : List (ManagerEvent ℕ) :=
  instant ++ [.advance (1 / 1000000)] ++ instant ++ [.advance (2 / 1000000),
    .setAdminSchedule (some (oneEntry baseTime)), .setConfigChange true] ++ instant ++
    [.advance (3 / 1000000)] ++ instant

/-- the run that is changed at 7 us, in the middle of the second entry -/
def changeMid : List (ManagerEvent ℕ) :=
  changeAt (7 / 1000000) ++ [.advance (7 / 1000000)] ++ instant ++ [.advance (8 / 1000000)] ++ instant

/-- the same with another schedule set at 3 us, whose base time is 100 us -/
def changeReplaced : List (ManagerEvent ℕ) :=
  changeAt (7 / 1000000) ++ [.setAdminSchedule (some (oneEntry (100 / 1000000))),
    .advance (7 / 1000000)] ++ instant ++ [.advance (8 / 1000000)] ++ instant

/-- the run that is changed at 8 us, where the third entry starts -/
def changeEdge : List (ManagerEvent ℕ) :=
  changeAt (8 / 1000000) ++ [.advance (8 / 1000000)] ++ instant

theorem change_clean_mid :
    Lib.Meets (step microClock) Clean (start 0 threeEntries 0) changeMid :=
  change_clean threeEntries 0 0 (by decide +kernel) (by decide +kernel)

/-- with the schedule replaced, the old list pointer is used for the new list; with the change at the
edge, the third entry of the old schedule is executed at `configChangeTime` -/
theorem change_outside : Lib.run (step microClock) (start 0 threeEntries 0) changeReplaced =
      .error (.assertion "listPointer < operSchedule->getControlListLength()") ∧
    ¬ Lib.Meets (step microClock) Clean (start 0 threeEntries 0) changeReplaced ∧
    ¬ Lib.Meets (step microClock) Clean (start 0 threeEntries 0) changeEdge := by
  refine ⟨eq_error_of ?_, ?_, ?_⟩
  · decide +kernel
  · decide +kernel
  · decide +kernel

end ScheduleManager
end Nesting
