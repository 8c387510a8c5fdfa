import Nesting.Common.Normalize
import Nesting.Ieee8021q
import Nesting.Manager.ScheduleManager

/-!
# GateScheduleManager

A `ScheduleManager` of gate vectors whose schedules are to be normalized: the schedule it starts with
is read by `ScheduleFactory::createGateSchedule`, later ones come through `setAdminSchedule`.

* `createGateSchedule`, `initialAdminSchedule`, `setAdminSchedule`   the functions;
* `Valid`       both schedules are normalized and have a positive cycle time;
* `Answered`    a call accepts its argument, normalized, or rejects it and changes nothing;
* `schedules_valid`   **which starts and which calls keep to that, over runs.**
-/

set_option linter.unusedVariables false

namespace Nesting
open Lib

/-- an `event` element, its attributes parsed -/
structure GateEventElement where
  gateStates : Option GateBitvector
  timeInterval : Option SimTime
  deriving DecidableEq, Repr

/-- the element with the attributes of the schedule -/
structure GateScheduleElement where
  baseTime : Option SimTime
  cycleTime : Option SimTime
  cycleTimeExtension : Option SimTime
  events : List GateEventElement
  deriving DecidableEq, Repr

namespace ScheduleFactory

def getBaseTimeAttribute (xml : GateScheduleElement) : SimTime := xml.baseTime.getD 0

def getCycleTimeAttribute (xml : GateScheduleElement) : Sim SimTime :=
  match xml.cycleTime with
  | some cycleTime => .ok cycleTime
  | none => .error (.runtimeError "No \"CycleTime\" attribute defined in XML element!")

def getCycleTimeExtensionAttribute (xml : GateScheduleElement) : SimTime :=
  xml.cycleTimeExtension.getD 0

def getGateBitvectorAttribute (xml : GateEventElement) : Sim GateBitvector :=
  match xml.gateStates with
  | some gateStates => .ok gateStates
  | none => .error (.runtimeError "No \"GateStates\" attribute defined in XML element!")

def getTimeIntervalAttribute (xml : GateEventElement) : Sim SimTime :=
  match xml.timeInterval with
  | some timeInterval => .ok timeInterval
  | none => .error (.runtimeError "No \"TimeInterval\" attribute defined in XML element!")

/-- the loop over the `event` elements -/
def addGateEvents (schedule : Schedule GateBitvector) :
    List GateEventElement → Sim (Schedule GateBitvector)
  | [] => .ok schedule
  | entry :: entries => do
    let gateBitvector ← getGateBitvectorAttribute entry
    let timeInterval ← getTimeIntervalAttribute entry
    let schedule ← schedule.addControlListEntry timeInterval gateBitvector
    addGateEvents schedule entries

def createGateSchedule (xml : GateScheduleElement) : Sim (Schedule GateBitvector) := do
  let schedule := Schedule.new.setBaseTime (getBaseTimeAttribute xml)
  let cycleTime ← getCycleTimeAttribute xml
  let schedule := schedule.setCycleTime cycleTime
  let schedule := schedule.setCycleTimeExtension (getCycleTimeExtensionAttribute xml)
  addGateEvents schedule xml.events

/-- what is read is built entry by entry -/
theorem built_addGateEvents {s s' : Schedule GateBitvector} {entries : List GateEventElement}
    (h : s.Built) (hs : addGateEvents s entries = .ok s') : s'.Built := by
  induction entries generalizing s with
  | nil =>
    cases hs
    exact h
  | cons entry entries ih =>
    obtain ⟨g, _, hs⟩ := bind_ok.mp hs
    obtain ⟨t, _, hs⟩ := bind_ok.mp hs
    obtain ⟨m, hm, hs⟩ := bind_ok.mp hs
    exact ih (Schedule.built_addControlListEntry h hm) hs

theorem built_createGateSchedule {xml : GateScheduleElement} {s : Schedule GateBitvector}
    (hs : createGateSchedule xml = .ok s) : s.Built := by
  obtain ⟨c, _, hs⟩ := bind_ok.mp hs
  exact built_addGateEvents (Schedule.built_new _ c _) hs

end ScheduleFactory

abbrev GateScheduleManager := ScheduleManager GateBitvector

namespace GateScheduleManager
open ScheduleManager (CycleTimerStep ListExecuteStep ListConfigStep MachineStep)

def initialAdminSchedule (xml : GateScheduleElement) : Sim (Schedule GateBitvector) := do
  let schedule ← ScheduleFactory.createGateSchedule xml
  schedule.normalize

/-- `initialize()` at the local time `t0` -/
def initializeManager (initialAdminState : GateBitvector) (xml : GateScheduleElement) (t0 : SimTime) :
    Sim GateScheduleManager := do
  let operSchedule ← initialAdminSchedule xml
  let adminSchedule ← initialAdminSchedule xml
  return ({ ScheduleManager.initial initialAdminState operSchedule t0 with
    adminSchedule }).beginMachines

/-- how a call ended, and the manager after it -/
abbrev Outcome := Sim Unit × GateScheduleManager

/-- the function of the base class -/
def setAdminScheduleOfBase (m : GateScheduleManager) : Option (Schedule GateBitvector) → Outcome
  | none => (.error (.runtimeError "adminSchedule must not be nullptr"), m)
  | some adminSchedule =>
    if adminSchedule.getCycleTime ≤ 0 then
      (.error (.runtimeError "Can't load schedule with cycle time of zero."), m)
    else (.ok (), { m with adminSchedule })

/-- the override; the null pointer is not tested before it is used -/
def setAdminSchedule (m : GateScheduleManager) : Option (Schedule GateBitvector) → Outcome
  | none => (.error (.undefinedBehaviour "adminSchedule->getControlListLength()"), m)
  | some adminSchedule =>
    match adminSchedule.normalize with
    | .error x => (.error x, m)
    | .ok adminSchedule => m.setAdminScheduleOfBase (some adminSchedule)

/-- the caller goes on after a run-time error -/
def step (clock : ClockRate) (m : GateScheduleManager) :
    ManagerEvent GateBitvector → Sim GateScheduleManager
  | .setAdminSchedule adminSchedule =>
    match m.setAdminSchedule adminSchedule with
    | (.ok _, m') => .ok m'
    | (.error (.runtimeError _), m') => .ok m'
    | (.error x, _) => .error x
  | e => ScheduleManager.step clock m e

variable {clock : ClockRate} {m m' : GateScheduleManager}

/-- the base class does the same to any schedule manager -/
theorem setAdminScheduleOfBase_ok {a : Option (Schedule GateBitvector)} :
    m.setAdminScheduleOfBase a = (.ok (), m') ↔ ScheduleManager.setAdminSchedule m a = .ok m' := by
  cases a with
  | none => simp [setAdminScheduleOfBase, ScheduleManager.setAdminSchedule]
  | some s =>
    unfold setAdminScheduleOfBase ScheduleManager.setAdminSchedule
    dsimp only
    split
    · simp
    · simp

/-! ## one call -/

/-- both schedules are normalized and have a positive cycle time -/
structure Valid (m : GateScheduleManager) : Prop where
  adminSchedule : m.adminSchedule.isNormalized = true ∧ 0 < m.adminSchedule.cycleTime
  operSchedule : m.operSchedule.isNormalized = true ∧ 0 < m.operSchedule.cycleTime

/-- a normalized schedule with a positive cycle time is loaded, or an error is raised and both
schedules stay -/
def Answered (m : GateScheduleManager) (a : Option (Schedule GateBitvector)) : Prop :=
  ∃ m', m'.operSchedule = m.operSchedule ∧
    ((∃ s s', a = some s ∧ s.normalize = .ok s' ∧ m.setAdminSchedule a = (.ok (), m') ∧
        m'.adminSchedule = s' ∧ s'.isNormalized = true ∧ 0 < s'.cycleTime) ∨
      (∃ msg, m.setAdminSchedule a = (.error (.runtimeError msg), m') ∧
        m'.adminSchedule = m.adminSchedule))

/-- a schedule that `normalize` has an answer for -/
def Loadable (a : Option (Schedule GateBitvector)) : Prop := ∃ s, a = some s ∧ s.Normalizable

/-- what a call can do -/
theorem setAdminSchedule_cases (m : GateScheduleManager) (a : Option (Schedule GateBitvector)) :
    (∃ s s', a = some s ∧ s.normalize = .ok s' ∧ 0 < s'.cycleTime ∧
      m.setAdminSchedule a = (.ok (), { m with adminSchedule := s' })) ∨
    (∃ s s', a = some s ∧ s.normalize = .ok s' ∧ s'.cycleTime ≤ 0 ∧ m.setAdminSchedule a =
      (.error (.runtimeError "Can't load schedule with cycle time of zero."), m)) ∨
    ¬Loadable a ∧ ∃ x, (∀ msg, x ≠ .runtimeError msg) ∧ m.setAdminSchedule a = (.error x, m) := by
  cases a with
  | none =>
    refine .inr (.inr ⟨?_, .undefinedBehaviour "adminSchedule->getControlListLength()", ?_, rfl⟩)
    · rintro ⟨s, hs, _⟩
      cases hs
    · intro msg hmsg
      cases hmsg
  | some s =>
    by_cases hfits : s.Normalizable
    · obtain ⟨s', hs⟩ := Schedule.normalize_total_iff.mpr hfits
      have heq : m.setAdminSchedule (some s) = m.setAdminScheduleOfBase (some s') := by
        rw [setAdminSchedule, hs]
      by_cases hc : 0 < s'.cycleTime
      · refine .inl ⟨s, s', rfl, hs, hc, ?_⟩
        rw [heq, setAdminScheduleOfBase, Schedule.getCycleTime, if_neg (not_le.mpr hc)]
      · refine .inr (.inl ⟨s, s', rfl, hs, not_lt.mp hc, ?_⟩)
        rw [heq, setAdminScheduleOfBase, Schedule.getCycleTime, if_pos (not_lt.mp hc)]
    · have hload : ¬Loadable (some s) := by
        rintro ⟨s1, hs1, hf⟩
        exact hfits (Option.some.inj hs1 ▸ hf)
      refine .inr (.inr ⟨hload, ?_⟩)
      cases hs : s.normalize with
      | ok s' => exact absurd (Schedule.normalize_total_iff.mp ⟨s', hs⟩) hfits
      | error x =>
        refine ⟨x, fun msg hx => ?_, by rw [setAdminSchedule, hs]⟩
        obtain ⟨h1, _⟩ | ⟨h1, _⟩ := Schedule.normalize_error hs
        · cases h1.symm.trans hx
        · cases h1.symm.trans hx

/-- **A call is answered exactly if `normalize` has an answer for its argument.** -/
theorem answered_iff (m : GateScheduleManager) (a : Option (Schedule GateBitvector)) :
    Answered m a ↔ Loadable a := by
  obtain ⟨s, s', rfl, hs, hc, hm⟩ | ⟨s, s', rfl, hs, _, hm⟩ | ⟨hload, x, hx, hm⟩ :=
    setAdminSchedule_cases m a
  · refine iff_of_true ⟨{ m with adminSchedule := s' }, rfl, .inl ⟨s, s', rfl, hs, hm, rfl, ?_, hc⟩⟩
      ⟨s, rfl, Schedule.normalize_total_iff.mp ⟨s', hs⟩⟩
    exact decide_eq_true (Schedule.normalize_cycleTime hs).1
  · exact iff_of_true ⟨m, rfl, .inr ⟨_, hm, rfl⟩⟩
      ⟨s, rfl, Schedule.normalize_total_iff.mp ⟨s', hs⟩⟩
  · refine iff_of_false ?_ hload
    rintro ⟨m', _, ⟨s, s', _, _, hm', _⟩ | ⟨msg, hm', _⟩⟩
    · rw [hm] at hm'
      cases congrArg Prod.fst hm'
    · rw [hm] at hm'
      exact hx msg (Except.error.inj (congrArg Prod.fst hm'))

/-! ## the start, and runs -/

theorem initializeManager_ok {gates : GateBitvector} {xml : GateScheduleElement} {t0 : SimTime} :
    initializeManager gates xml t0 = .ok m ↔
      ∃ p s, ScheduleFactory.createGateSchedule xml = .ok p ∧ p.normalize = .ok s ∧
        m = ScheduleManager.start gates s t0 := by
  unfold initializeManager
  constructor
  · intro h
    obtain ⟨s, hs, h⟩ := bind_ok.mp h
    obtain ⟨s', hs', h⟩ := bind_ok.mp h
    rw [hs] at hs'
    cases hs'
    obtain ⟨p, hp, hn⟩ := bind_ok.mp hs
    cases h
    exact ⟨p, s, hp, hn, rfl⟩
  · rintro ⟨p, s, hp, hn, rfl⟩
    have hs : initialAdminSchedule xml = .ok s := bind_ok.mpr ⟨p, hp, hn⟩
    exact bind_ok.mpr ⟨s, hs, bind_ok.mpr ⟨s, hs, rfl⟩⟩

/-- **The first schedules are valid exactly if the one that is read has entries and a cycle.** -/
theorem initializeManager_valid_iff {gates : GateBitvector} {xml : GateScheduleElement} {t0 : SimTime}
    {p : Schedule GateBitvector} (hp : ScheduleFactory.createGateSchedule xml = .ok p) :
    (∃ m, initializeManager gates xml t0 = .ok m ∧ Valid m) ↔ p.controlList ≠ [] ∧ 0 < p.cycleTime := by
  have hfits := (ScheduleFactory.built_createGateSchedule hp).normalizable_iff
  constructor
  · rintro ⟨m, hm, hv⟩
    obtain ⟨p', s, hp', hs, rfl⟩ := initializeManager_ok.mp hm
    rw [hp] at hp'
    cases hp'
    have hc : 0 < p.cycleTime := by
      rw [← (Schedule.normalize_cycleTime hs).2]
      exact hv.adminSchedule.2
    have hne := (hfits.mp (Schedule.normalize_total_iff.mp ⟨s, hs⟩)).2
    exact ⟨hne.resolve_right (ne_of_gt hc), hc⟩
  · rintro ⟨hne, hc⟩
    obtain ⟨s, hs⟩ := Schedule.normalize_total_iff.mpr (hfits.mpr ⟨le_of_lt hc, .inl hne⟩)
    obtain ⟨hn, hcycle⟩ := Schedule.normalize_cycleTime hs
    have hvalid : s.isNormalized = true ∧ 0 < s.cycleTime := ⟨decide_eq_true hn, hcycle.symm ▸ hc⟩
    exact ⟨_, initializeManager_ok.mpr ⟨p, s, hp, hs, rfl⟩, hvalid, hvalid⟩

/-- the machines only swap the schedules -/
theorem machineStep_schedules {x : StateMachine} (h : MachineStep clock m m' x) :
    m'.adminSchedule = m.adminSchedule ∧
      (m'.operSchedule = m.operSchedule ∨ m'.operSchedule = m.adminSchedule) := by
  cases x with
  | CYCLE_TIMER =>
    change CycleTimerStep clock m m' at h
    cases h <;> exact ⟨rfl, .inl rfl⟩
  | LIST_EXECUTE =>
    change ListExecuteStep clock m m' at h
    cases h <;> exact ⟨rfl, .inl rfl⟩
  | LIST_CONFIG =>
    change ListConfigStep m m' at h
    cases h with
    | update => exact ⟨rfl, .inr rfl⟩
    | rest => exact ⟨rfl, .inl rfl⟩
    | pending => exact ⟨rfl, .inl rfl⟩
    | idle => exact ⟨rfl, .inl rfl⟩

theorem step_schedules {e : ManagerEvent GateBitvector} (he : ∀ a, e ≠ .setAdminSchedule a)
    (h : step clock m e = .ok m') : m'.adminSchedule = m.adminSchedule ∧
      (m'.operSchedule = m.operSchedule ∨ m'.operSchedule = m.adminSchedule) := by
  cases e with
  | handleMessage =>
    obtain ⟨_, rfl⟩ | ⟨x, _, _, hx⟩ := ScheduleManager.handleMessage_ok h
    · exact ⟨rfl, .inl rfl⟩
    · exact machineStep_schedules (m := ScheduleManager.popped m) hx
  | onTimestamp =>
    cases h
    obtain heq | ⟨x, _, _, heq⟩ := ScheduleManager.onTimestamp_cases m
    · rw [heq]
      exact ⟨rfl, .inl rfl⟩
    · rw [heq]
      exact ⟨rfl, .inl rfl⟩
  | advance t =>
    cases h
    obtain heq | ⟨_, heq⟩ := ScheduleManager.advance_cases m t
    · rw [heq]
      exact ⟨rfl, .inl rfl⟩
    · rw [heq]
      exact ⟨rfl, .inl rfl⟩
  | setAdminState adminState =>
    cases h
    exact ⟨rfl, .inl rfl⟩
  | setAdminSchedule a => exact absurd rfl (he a)
  | setEnabled enabled =>
    cases h
    unfold ScheduleManager.setEnabled
    dsimp only
    split
    · exact ⟨rfl, .inl rfl⟩
    · split <;> exact ⟨rfl, .inl rfl⟩
  | setConfigChange configChange =>
    cases h
    unfold ScheduleManager.setConfigChange
    dsimp only
    split <;> exact ⟨rfl, .inl rfl⟩

/-- **Valid schedules stay valid in every step that does not fail.** -/
theorem valid_step {e : ManagerEvent GateBitvector} (h : Valid m) (hs : step clock m e = .ok m') :
    Valid m' := by
  by_cases he : ∃ a, e = .setAdminSchedule a
  · obtain ⟨a, rfl⟩ := he
    rw [step] at hs
    obtain ⟨s, s', _, hn, hc, heq⟩ | ⟨_, _, _, _, _, heq⟩ | ⟨_, x, hx, heq⟩ :=
      setAdminSchedule_cases m a
    · rw [heq] at hs
      cases hs
      exact ⟨⟨decide_eq_true (Schedule.normalize_cycleTime hn).1, hc⟩, h.operSchedule⟩
    · rw [heq] at hs
      cases hs
      exact h
    · rw [heq] at hs
      cases x with
      | runtimeError msg => exact absurd rfl (hx msg)
      | assertion cond => cases hs
      | undefinedBehaviour what => cases hs
      | outOfFuel => cases hs
  · obtain ⟨hadmin, hoper⟩ := step_schedules (not_exists.mp he) hs
    refine ⟨hadmin.symm ▸ h.adminSchedule, ?_⟩
    obtain hoper | hoper := hoper
    · rw [hoper]
      exact h.operSchedule
    · rw [hoper]
      exact h.adminSchedule

/-- a call of `setAdminSchedule` is answered -/
def Answers (m : GateScheduleManager) (e : ManagerEvent GateBitvector) : Prop :=
  ∀ a, e = .setAdminSchedule a → Answered m a

/-- a call of `setAdminSchedule` has an argument that `normalize` has an answer for -/
def Loads (m : GateScheduleManager) (e : ManagerEvent GateBitvector) : Prop :=
  ∀ a, e = .setAdminSchedule a → Loadable a

theorem answers_iff (m : GateScheduleManager) (e : ManagerEvent GateBitvector) :
    Answers m e ↔ Loads m e :=
  forall_congr' fun a => imp_congr_right fun _ => answered_iff m a

/-- **The gate schedules are valid over every run of a manager that starts with entries and a cycle,
and `setAdminSchedule` answers exactly the arguments that can be normalized.** -/
theorem schedules_valid (clock : ClockRate) (gates : GateBitvector) (t0 : SimTime)
    {xml : GateScheduleElement} {p : Schedule GateBitvector}
    (hp : ScheduleFactory.createGateSchedule xml = .ok p) :
    ((∃ m, initializeManager gates xml t0 = .ok m ∧ Valid m) ↔
      p.controlList ≠ [] ∧ 0 < p.cycleTime) ∧
    (p.controlList ≠ [] ∧ 0 < p.cycleTime → ∀ m0, initializeManager gates xml t0 = .ok m0 →
      ∀ es, (Meets (step clock) Answers m0 es ↔ Meets (step clock) Loads m0 es) ∧
        ∀ m, run (step clock) m0 es = .ok m → Valid m) := by
  refine ⟨initializeManager_valid_iff hp, fun hc m0 hm0 es => ⟨?_, fun m hr => ?_⟩⟩
  · constructor
    · exact Meets.mono fun m e => (answers_iff m e).mp
    · exact Meets.mono fun m e => (answers_iff m e).mpr
  · obtain ⟨m1, hm1, hv⟩ := (initializeManager_valid_iff hp).mpr hc
    rw [hm0] at hm1
    cases hm1
    exact run_invariant (fun m e m' hi hs => valid_step hi hs) hv hr

/-- the manager starts with a list longer than its cycle and is given one that is too short, after
it was given an empty one for no cycle -/
theorem schedules_valid_longAndShort :
    let xml : GateScheduleElement := ⟨none, some 2, none, [⟨some 1, some 1⟩, ⟨some 3, some 4⟩]⟩
    let short : Schedule GateBitvector := ⟨[⟨1, 5⟩], 0, 3, 0, 1⟩
    let es : List (ManagerEvent GateBitvector) := [.setAdminSchedule (some .new),
      .setAdminSchedule (some short), .setConfigChange true, .handleMessage, .handleMessage,
      .handleMessage, .handleMessage, .handleMessage, .handleMessage, .onTimestamp, .onTimestamp,
      .handleMessage, .handleMessage]
    ∃ m0 m, initializeManager 0 xml 0 = .ok m0 ∧ run (step ⟨1, one_pos⟩) m0 es = .ok m ∧
      m.operSchedule.controlList = [⟨3, 5⟩] ∧ Valid m ∧ Meets (step ⟨1, one_pos⟩) Answers m0 es := by
  intro xml short es
  obtain ⟨p, hp, hne, hc⟩ : ∃ p, ScheduleFactory.createGateSchedule xml = .ok p ∧
      p.controlList ≠ [] ∧ 0 < p.cycleTime := exists_of_any (by decide +kernel)
  obtain ⟨m0, hm0⟩ : ∃ m0, initializeManager 0 xml 0 = .ok m0 := exists_of_isOk (by decide +kernel)
  have hvalid := (schedules_valid ⟨1, one_pos⟩ 0 0 hp).2 ⟨hne, hc⟩ m0 hm0 es
  have hrun : ∃ m, (initializeManager 0 xml 0 >>= fun m0 => run (step ⟨1, one_pos⟩) m0 es) = .ok m ∧
      m.operSchedule.controlList = [⟨3, 5⟩] := exists_of_any (by decide +kernel)
  rw [hm0] at hrun
  obtain ⟨m, hm, hlist⟩ := hrun
  refine ⟨m0, m, hm0, hm, hlist, hvalid.2 m hm, hvalid.1.mpr (meets_of_forall ?_ m0)⟩
  have hnew : Schedule.Normalizable (Schedule.new : Schedule GateBitvector) :=
    ⟨fun h => absurd h (lt_irrefl _), fun h => absurd h (lt_irrefl _)⟩
  have hshort : short.Normalizable :=
    ⟨fun _ => List.cons_ne_nil _ _, fun h => absurd h (by decide +kernel)⟩
  intro e he a ha
  subst ha
  simp only [es, List.mem_cons, List.not_mem_nil, or_false, ManagerEvent.setAdminSchedule.injEq,
    reduceCtorEq] at he
  obtain rfl | rfl := he
  · exact ⟨_, rfl, hnew⟩
  · exact ⟨_, rfl, hshort⟩

/-- A manager starts with a schedule without a cycle; one that starts well uses a null pointer, or an
index outside the list for an empty list with a cycle. -/
theorem schedules_invalid :
    (∃ m, initializeManager 0 ⟨none, some 0, none, []⟩ 0 = .ok m ∧ ¬Valid m) ∧
    ∃ m, initializeManager 0 ⟨none, some 1, none, [⟨some 1, some 1⟩]⟩ 0 = .ok m ∧ Valid m ∧
      m.setAdminSchedule none =
        (.error (.undefinedBehaviour "adminSchedule->getControlListLength()"), m) ∧
      m.setAdminSchedule (some (Schedule.new.setCycleTime 1)) =
        (.error (.undefinedBehaviour "controlList[controlList.size() - 1]"), m) := by
  constructor
  · obtain ⟨m, hm, hc⟩ : ∃ m, initializeManager 0 ⟨none, some 0, none, []⟩ 0 = .ok m ∧
        m.adminSchedule.cycleTime = 0 := exists_of_any (by decide +kernel)
    exact ⟨m, hm, fun hv => absurd hc (ne_of_gt hv.adminSchedule.2)⟩
  · obtain ⟨p, hp, hc⟩ : ∃ p, ScheduleFactory.createGateSchedule
        ⟨none, some 1, none, [⟨some 1, some 1⟩]⟩ = .ok p ∧ p.controlList ≠ [] ∧ 0 < p.cycleTime :=
      exists_of_any (by decide +kernel)
    obtain ⟨m, hm, hv⟩ : ∃ m, initializeManager 0 ⟨none, some 1, none, [⟨some 1, some 1⟩]⟩ 0 = .ok m ∧
        Valid m := (initializeManager_valid_iff hp).mpr hc
    refine ⟨m, hm, hv, rfl, ?_⟩
    have hn : (Schedule.new.setCycleTime 1 : Schedule GateBitvector).normalize =
        .error (.undefinedBehaviour "controlList[controlList.size() - 1]") := eq_error_of (by
      decide +kernel)
    rw [setAdminSchedule, hn]

end GateScheduleManager
end Nesting
