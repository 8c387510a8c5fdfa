import Nesting.Manager.Execute

/-!
# Disabling and enabling again

`setEnabled(false)` sends every machine back to its first state, but a machine does nothing while
the manager is disabled: it takes its message, drops its timestamp and asks for no other.
`setEnabled(true)` then wakes up at most the list configuration.

* `Winding`        what holds while the manager is disabled;
* `disabled_parks` once the messages are handled, the cycle timer and the list execution are never
                   woken up by enabling, and the operative state is what it was;
* `resumes_never`  so the execution does not come back, from no state at all;
* `pending_of_enabled`  as long as no message is handled while disabled the cycle timer goes on.
-/

set_option linter.unusedVariables false

namespace Nesting
namespace ScheduleManager
variable {T : Type} {clock : ClockRate} {m m' : ScheduleManager T}
open Lib.Agenda

/-- the first message, when it is handled while the manager is disabled -/
theorem disabled_step {x : StateMachine} (he : m.enabled = false) (h : MachineStep clock m m' x) :
    m'.enabled = false ∧ m'.operState = m.operState ∧ m'.configChange = m.configChange ∧
      m'.agenda = m.agenda.unsubscribe x := by
  cases x with
  | CYCLE_TIMER =>
    cases h with
    | rest => exact ⟨he, rfl, rfl, rfl⟩
    | idle he' => exact absurd (he'.symm.trans he) (by decide)
    | setStartTime he' => exact absurd (he'.symm.trans he) (by decide)
    | startCycle he' => exact absurd (he'.symm.trans he) (by decide)
  | LIST_EXECUTE =>
    cases h with
    | rest => exact ⟨he, rfl, rfl, rfl⟩
    | newCycle he' => exact absurd (he'.symm.trans he) (by decide)
    | execute he' => exact absurd (he'.symm.trans he) (by decide)
    | delay he' => exact absurd (he'.symm.trans he) (by decide)
    | init he' => exact absurd (he'.symm.trans he) (by decide)
  | LIST_CONFIG =>
    cases h with
    | rest => exact ⟨he, rfl, rfl, rfl⟩
    | pending he' => exact absurd (he'.symm.trans he) (by decide)
    | update he' => exact absurd (he'.symm.trans he) (by decide)
    | idle he' => exact absurd (he'.symm.trans he) (by decide)

/-- a disabled manager: whoever has a timestamp also has a message that will drop it -/
structure Winding (s : T) (m : ScheduleManager T) : Prop where
  enabled : m.enabled = false
  operState : m.operState = s
  messages : ∀ x, x ∈ m.agenda.messages ∨ m.agenda.timestamps x = none

theorem winding_start (m : ScheduleManager T) : Winding m.operState (m.setEnabled false) := by
  refine ⟨rfl, rfl, fun x => .inl ?_⟩
  show x ∈ (((m.agenda.reschedule .CYCLE_TIMER).reschedule .LIST_EXECUTE).reschedule
    .LIST_CONFIG).messages
  rw [mem_reschedule, mem_reschedule, mem_reschedule]
  cases x <;> simp

theorem winding_step {s : T} (m : ScheduleManager T) (e : ManagerEvent T) (m' : ScheduleManager T)
    (h : Winding s m) (he : e ≠ .setEnabled true) (hs : step clock m e = .ok m') :
    Winding s m' := by
  cases e with
  | handleMessage =>
    rcases handleMessage_ok hs with ⟨_, rfl⟩ | ⟨x, rest, hm, hx⟩
    · exact h
    obtain ⟨h1, h2, _, h4⟩ := disabled_step (m := m.popped) h.enabled hx
    refine ⟨h1, h2.trans h.operState, fun y => ?_⟩
    rw [h4]
    by_cases hy : y = x
    · right
      rw [timestamps_unsubscribe, if_pos hy]
    · rw [timestamps_unsubscribe, if_neg hy]
      exact (h.messages y).imp (fun hm' => (mem_pop hm).mpr ⟨hy, hm'⟩) id
  | onTimestamp =>
    cases hs
    rcases onTimestamp_cases m with heq | ⟨x, _, _, heq⟩
    · rw [heq]
      exact h
    rw [heq]
    refine ⟨h.enabled, h.operState, fun y => ?_⟩
    show y ∈ (m.agenda.deliver x).messages ∨ _
    rw [mem_deliver, timestamps_deliver]
    split
    · exact .inr rfl
    · exact (h.messages y).imp .inr id
  | advance t =>
    cases hs
    rcases advance_cases m t with heq | ⟨_, heq⟩
    · rw [heq]
      exact h
    · rw [heq]
      exact ⟨h.enabled, h.operState, h.messages⟩
  | setAdminState a =>
    cases hs
    exact ⟨h.enabled, h.operState, h.messages⟩
  | setAdminSchedule a =>
    cases a with
    | none => cases hs
    | some a =>
      change (if a.getCycleTime ≤ 0 then _ else _) = _ at hs
      split at hs
      · cases hs
      · cases hs
        exact ⟨h.enabled, h.operState, h.messages⟩
  | setEnabled b =>
    cases b with
    | true => exact absurd rfl he
    | false =>
      cases hs
      rw [← h.operState]
      exact winding_start m
  | setConfigChange b =>
    cases hs
    have heq : m.setConfigChange b = { m with configChange := b } := by
      unfold setConfigChange
      dsimp only
      rw [h.enabled, Bool.and_false]
      rfl
    show Winding s (m.setConfigChange b)
    rw [heq]
    exact ⟨h.enabled, h.operState, h.messages⟩

/-- the events of an instant can be handled while disabled -/
theorem disabled_drain (clock : ClockRate) (n : ℕ) (m : ScheduleManager T) (he : m.enabled = false)
    (hn : m.agenda.messages.length = n) :
    ∃ m', Lib.run (step clock) m (List.replicate n .handleMessage) = .ok m' ∧
      m'.agenda.messages = [] := by
  induction n generalizing m with
  | zero => exact ⟨m, rfl, List.length_eq_zero_iff.mp hn⟩
  | succ n ih =>
    obtain ⟨x, rest, hm⟩ := List.exists_of_length_succ _ hn
    obtain ⟨m', hm'⟩ : ∃ m', m.handleMessage clock = .ok m' := by
      unfold handleMessage
      rw [hm]
      cases x with
      | CYCLE_TIMER =>
        unfold updateCycleTimerState unsubscribeTimestamp
        dsimp only
        rw [he]
        exact ⟨_, rfl⟩
      | LIST_EXECUTE =>
        unfold updateListExecuteState unsubscribeTimestamp
        dsimp only
        rw [he]
        exact ⟨_, rfl⟩
      | LIST_CONFIG =>
        unfold updateListConfigState unsubscribeTimestamp
        dsimp only
        rw [he]
        exact ⟨_, rfl⟩
    rcases handleMessage_ok hm' with ⟨h0, _⟩ | ⟨y, rest', hm'', hy⟩
    · rw [hm] at h0
      cases h0
    obtain ⟨h1, _, _, h4⟩ := disabled_step (m := m.popped) he hy
    have hlen : m'.agenda.messages.length = n := by
      rw [h4]
      show m.agenda.messages.tail.length = n
      rw [List.length_tail, hn]
      rfl
    obtain ⟨m'', hrun, hempty⟩ := ih m' h1 hlen
    exact ⟨m'', Lib.run_cons_ok.mpr ⟨m', hm', hrun⟩, hempty⟩

/-- **Parked for good.**  When the manager has been disabled and the messages are handled, enabling
it wakes up neither the cycle timer nor the list execution, and not even the list configuration
unless a change was asked for; the INIT action has not taken place. -/
theorem disabled_parks {es : List (ManagerEvent T)} (he : ∀ e ∈ es, e ≠ .setEnabled true)
    (hr : Lib.run (step clock) (m.setEnabled false) es = .ok m') (hd : m'.agenda.messages = []) :
    m'.operState = m.operState ∧
      ∀ x, (x = .LIST_CONFIG → m'.configChange = false) → (m'.setEnabled true).agenda.Parked x := by
  have h : Winding m.operState m' := Lib.run_invariant_of winding_step (winding_start m)
    (Lib.meets_of_forall he _) hr
  refine ⟨h.operState, fun x hx => ?_⟩
  have hempty : ∀ y, y ∉ m'.agenda.messages := by
    intro y
    rw [hd]
    exact List.not_mem_nil
  have hts : m'.agenda.timestamps x = none := (h.messages x).resolve_left (hempty x)
  cases hc : m'.configChange with
  | false =>
    have heq : (m'.setEnabled true).agenda = m'.agenda := by
      unfold setEnabled
      dsimp only
      rw [hc]
      rfl
    rw [heq]
    exact ⟨hempty x, hts⟩
  | true =>
    have hne : x ≠ .LIST_CONFIG := fun hxc => absurd ((hx hxc).symm.trans hc) (by decide)
    have heq : (m'.setEnabled true).agenda = m'.agenda.reschedule .LIST_CONFIG := by
      unfold setEnabled
      dsimp only
      rw [hc]
      rfl
    rw [heq]
    refine ⟨?_, hts⟩
    rw [mem_reschedule]
    exact fun hm => hm.elim hne (hempty x)

/-- what disabling and enabling should do in `m`: after the events of the instant of the disabling
the INIT action has taken place, and a later enabling leaves the cycle timer something to do -/
def Resumes (clock : ClockRate) (m : ScheduleManager T) : Prop :=
  ∀ es m₁, (∀ e ∈ es, e = .handleMessage ∨ e = .onTimestamp) →
    Lib.run (step clock) (m.setEnabled false) es = .ok m₁ → m₁.agenda.Settled →
    m₁.operState = m₁.adminState ∧
      ∀ fs m₂, (∀ f ∈ fs, f ≠ .setEnabled true) → Lib.run (step clock) m₁ fs = .ok m₂ →
        ¬ (m₂.setEnabled true).agenda.Parked .CYCLE_TIMER

/-- **The execution does not resume**, whatever the state in which the manager is disabled. -/
theorem resumes_never (clock : ClockRate) (m : ScheduleManager T) : ¬ Resumes clock m := by
  intro h
  obtain ⟨m₁, hr, hd⟩ := disabled_drain clock _ (m.setEnabled false) rfl rfl
  have hdrain : ∀ e ∈ List.replicate (m.setEnabled false).agenda.messages.length
      (ManagerEvent.handleMessage : ManagerEvent T), e = .handleMessage := fun e =>
    List.eq_of_mem_replicate
  have hoff : ∀ e ∈ List.replicate (m.setEnabled false).agenda.messages.length
      (ManagerEvent.handleMessage : ManagerEvent T), e ≠ .setEnabled true := by
    intro e he
    rw [hdrain e he]
    nofun
  have hw : Winding m.operState m₁ := Lib.run_invariant_of winding_step (winding_start m)
    (Lib.meets_of_forall hoff _) hr
  have hsettled : m₁.agenda.Settled := by
    refine ⟨hd, fun x hx => ?_⟩
    rcases hw.messages x with hmem | hts
    · rw [hd] at hmem
      exact absurd hmem List.not_mem_nil
    · rw [hts] at hx
      cases hx
  obtain ⟨_, hpark⟩ := h _ m₁ (fun e he => .inl (hdrain e he)) hr hsettled
  refine hpark [] m₁ (fun f hf => absurd hf List.not_mem_nil) rfl ?_
  exact (disabled_parks hoff hr hd).2 .CYCLE_TIMER (by nofun)

/-- the run of `earlyBase` until its first entry has been executed, then disabled and enabled again:
the manager is enabled and has nothing to do at all, while the entry is still shown -/
theorem resumes_never_earlyBase : ∃ m, Lib.run (step microClock) (start 0 earlyBase 0)
    (List.replicate 6 .handleMessage ++ [.advance (1 / 1000000), .onTimestamp] ++
      List.replicate 4 .handleMessage ++ [.setEnabled false] ++ List.replicate 3 .handleMessage ++
      [.setEnabled true]) = .ok m ∧
    m.enabled = true ∧ (∀ x, m.agenda.Parked x) ∧ m.operState = 1 ∧ m.adminState = 0 :=
  exists_of_any (by decide +kernel)

/-! ## as long as no message is handled while disabled -/

/-- no message is handled while the manager is disabled -/
def HandledEnabled (m : ScheduleManager T) : ManagerEvent T → Prop
  | .handleMessage => m.enabled = true
  | _ => True

/-- the cycle timer has something to do -/
structure Going (m : ScheduleManager T) : Prop where
  pending : .CYCLE_TIMER ∈ m.agenda.messages ∨ m.agenda.timestamps .CYCLE_TIMER ≠ none
  next : m.nextCycleTimerState ≠ .UNDEFINED

theorem Going.agrees (h : Going m) (hn : m'.nextCycleTimerState = m.nextCycleTimerState)
    (ha : Agrees .CYCLE_TIMER m.agenda m'.agenda) : Going m' := by
  refine ⟨?_, hn.trans_ne h.next⟩
  rw [ha.2.1, ha.2.2]
  exact h.pending

theorem Going.of_mem (hn : m.nextCycleTimerState ≠ .UNDEFINED)
    (hm : .CYCLE_TIMER ∈ m.agenda.messages) : Going m := ⟨.inl hm, hn⟩

theorem Going.of_subscribe (hn : m.nextCycleTimerState ≠ .UNDEFINED)
    {a : Lib.Agenda StateMachine SimTime} {t : SimTime} (ha : m.agenda = a.subscribe t .CYCLE_TIMER) :
    Going m := by
  refine ⟨.inr ?_, hn⟩
  rw [ha, timestamps_subscribe, if_pos rfl]
  exact Option.some_ne_none t

theorem going_handleMessage (h : Going m) (he : m.enabled = true)
    (hs : m.handleMessage clock = .ok m') : Going m' := by
  rcases handleMessage_ok hs with ⟨_, rfl⟩ | ⟨x, rest, hm, hx⟩
  · exact h
  cases x with
  | CYCLE_TIMER =>
    cases hx with
    | rest hr =>
      rcases hr with hr | hr
      · exact absurd (he.symm.trans hr) (by decide)
      · exact absurd hr h.next
    | idle _ _ => exact .of_mem (by nofun) ((mem_reschedule _ _ _).mpr (.inl rfl))
    | setStartTime _ _ t _ _ => exact .of_subscribe (by nofun) rfl
    | startCycle _ _ => exact .of_subscribe (by nofun) rfl
  | LIST_EXECUTE =>
    have ha : Agrees .CYCLE_TIMER m.agenda (m.agenda.pop.unsubscribe .LIST_EXECUTE) :=
      agrees_handle (by decide) hm
    cases hx with
    | rest _ => exact h.agrees rfl ha
    | newCycle _ _ => exact h.agrees rfl (ha.trans (agrees_reschedule (by decide)))
    | execute _ _ s i _ => exact h.agrees rfl (ha.trans (agrees_reschedule (by decide)))
    | delay _ _ => exact h.agrees rfl (ha.trans (agrees_subscribe (by decide) _))
    | init _ _ => exact h.agrees rfl (ha.trans (agrees_reschedule (by decide)))
  | LIST_CONFIG =>
    have ha : Agrees .CYCLE_TIMER m.agenda (m.agenda.pop.unsubscribe .LIST_CONFIG) :=
      agrees_handle (by decide) hm
    cases hx with
    | rest _ => exact h.agrees rfl ha
    | pending _ _ t past _ _ => exact h.agrees rfl (ha.trans (agrees_subscribe (by decide) _))
    | update _ _ =>
      refine .of_mem (by nofun) ((mem_reschedule _ _ _).mpr (.inr ?_))
      exact (mem_reschedule _ _ _).mpr (.inl rfl)
    | idle _ _ => exact h.agrees rfl ha

theorem going_step (m : ScheduleManager T) (e : ManagerEvent T) (m' : ScheduleManager T)
    (h : Going m) (he : HandledEnabled m e) (hs : step clock m e = .ok m') : Going m' := by
  cases e with
  | handleMessage => exact going_handleMessage h he hs
  | onTimestamp =>
    cases hs
    rcases onTimestamp_cases m with heq | ⟨x, _, _, heq⟩
    · rw [heq]
      exact h
    rw [heq]
    by_cases hx : .CYCLE_TIMER = x
    · exact .of_mem h.next ((mem_deliver _ _ _).mpr (.inl hx))
    · exact h.agrees rfl (agrees_deliver hx)
  | advance t =>
    cases hs
    rcases advance_cases m t with heq | ⟨_, heq⟩
    · rw [heq]
      exact h
    · rw [heq]
      exact ⟨h.pending, h.next⟩
  | setAdminState a =>
    cases hs
    exact ⟨h.pending, h.next⟩
  | setAdminSchedule a =>
    cases a with
    | none => cases hs
    | some a =>
      change (if a.getCycleTime ≤ 0 then _ else _) = _ at hs
      split at hs
      · cases hs
      · cases hs
        exact ⟨h.pending, h.next⟩
  | setEnabled b =>
    cases hs
    cases b with
    | false =>
      refine .of_mem (by nofun) ?_
      show _ ∈ (((m.agenda.reschedule .CYCLE_TIMER).reschedule .LIST_EXECUTE).reschedule
        .LIST_CONFIG).messages
      rw [mem_reschedule, mem_reschedule, mem_reschedule]
      exact .inr (.inr (.inl rfl))
    | true =>
      show Going (m.setEnabled true)
      unfold setEnabled
      dsimp only
      split
      · exact absurd ‹true = false› (by decide)
      split
      · exact h.agrees rfl (agrees_reschedule (by decide))
      · exact ⟨h.pending, h.next⟩
  | setConfigChange b =>
    cases hs
    show Going (m.setConfigChange b)
    unfold setConfigChange
    dsimp only
    split
    · exact h.agrees rfl (agrees_reschedule (by decide))
    · exact ⟨h.pending, h.next⟩

/-- **The cycle timer goes on** in every run in which no message is handled while the manager is
disabled: a `setEnabled(false)` that is taken back within its instant does no harm. -/
theorem pending_of_enabled {S : Schedule T} {a : T} {t0 : SimTime} {es : List (ManagerEvent T)}
    (hm : Lib.Meets (step clock) HandledEnabled (start a S t0) es)
    (hr : Lib.run (step clock) (start a S t0) es = .ok m) : ¬ m.agenda.Parked .CYCLE_TIMER := by
  have h0 : Going (start a S t0) := .of_mem (by nofun) List.mem_cons_self
  have h := Lib.run_invariant_of going_step h0 hm hr
  rintro ⟨h1, h2⟩
  exact h.pending.elim h1 fun hne => hne h2

end ScheduleManager
end Nesting
