import Mathlib.Order.Bounds.Basic
import Mathlib.Order.Monotone.Basic
import Nesting.Manager.Execute

/-!
# The operations, one after another

The operations of all cycles of a schedule are numbered from its base time on.  A manager that executes
the schedule has executed those from its first cycle start up to some number.

* `operation`     time, list pointer and state of operation `q`;
* `Upcoming`      operation `q` is the next one;
* `settings`      when a manager that is left alone sets a state of some kind;
* `setting_operation`   **what it sets from now on are the operations from the next one on.**
-/

set_option linter.unusedVariables false

namespace Nesting
open Lib

/-! ## numbers -/

namespace Schedule
variable {T : Type} {s : Schedule T}

/-- entry `q % n` of cycle `q / n` -/
def operationTime (s : Schedule T) (q : ℕ) : SimTime :=
  s.cycleAt (q / s.controlList.length) + s.startOf (q % s.controlList.length)

def operationEntry (s : Schedule T) (q : ℕ) : Option (ControlListEntry T) :=
  s.controlList[q % s.controlList.length]?

def operation (s : Schedule T) (q : ℕ) : Option (SimTime × ℕ × T) :=
  (s.operationEntry q).map fun e =>
    (s.operationTime q, q % s.controlList.length, e.scheduledObject)

theorem operation_some {q : ℕ} {o : SimTime × ℕ × T} (h : s.operation q = some o) :
    ∃ e, s.operationEntry q = some e ∧ o = (s.operationTime q, q % s.controlList.length,
      e.scheduledObject) := by
  obtain ⟨e, he, heq⟩ := Option.map_eq_some_iff.mp h
  exact ⟨e, he, heq.symm⟩

namespace Executable
variable {clock : ClockRate} (h : s.Executable clock)
include h

theorem operationTime_add (k : ℕ) {p : ℕ} (hp : p ≤ s.controlList.length) :
    s.operationTime (k * s.controlList.length + p) = s.cycleAt k + s.startOf p := by
  have hn := h.length_pos
  unfold operationTime
  rw [Nat.mul_comm, Nat.mul_add_div hn, Nat.mul_add_mod]
  obtain hlt | rfl := Nat.lt_or_eq_of_le hp
  · rw [Nat.div_eq_of_lt hlt, Nat.mod_eq_of_lt hlt, Nat.add_zero]
  · rw [Nat.div_self hn, Nat.mod_self, cycleAt_succ, s.startOf_zero, startOf_of_le le_rfl, h.total,
      add_zero]

theorem operationTime_cycle (k : ℕ) :
    s.operationTime (k * s.controlList.length) = s.cycleAt k := by
  have hk := h.operationTime_add k (Nat.zero_le _)
  rw [Nat.add_zero, s.startOf_zero, add_zero] at hk
  exact hk

/-- an operation takes the interval of its entry -/
theorem operationEntry_exists (q : ℕ) : ∃ e, s.operationEntry q = some e ∧ e ∈ s.controlList ∧
    s.operationTime (q + 1) = s.operationTime q + e.timeInterval := by
  have hn := h.length_pos
  have hlt := Nat.mod_lt q hn
  have hentry : s.operationEntry q = some s.controlList[q % s.controlList.length] :=
    List.getElem?_eq_getElem hlt
  refine ⟨_, hentry, List.getElem_mem hlt, ?_⟩
  have hq : q / s.controlList.length * s.controlList.length + q % s.controlList.length = q :=
    Nat.div_add_mod' q _
  have hnext := h.operationTime_add (q / s.controlList.length) (Nat.succ_le_of_lt hlt)
  rw [Nat.add_succ, hq, startOf_succ hentry, ← add_assoc] at hnext
  exact hnext

theorem operationTime_strictMono : StrictMono s.operationTime := by
  apply strictMono_nat_of_lt_succ
  intro q
  obtain ⟨e, _, he, hq⟩ := h.operationEntry_exists q
  have hpos := clock.resolution_pos.trans_le (h.resolution_le he)
  rw [hq]
  linarith

/-- the operations of a cycle, by their numbers -/
theorem map_cycleOperations (k : ℕ) : (s.cycleOperations k).map some =
    (List.range' (k * s.controlList.length) s.controlList.length).map s.operation := by
  apply List.ext_getElem?
  intro j
  rw [List.getElem?_map, List.getElem?_map]
  by_cases hj : j < s.controlList.length
  · have hentry := List.getElem?_eq_getElem hj
    have hlen : j < (List.range' (k * s.controlList.length) s.controlList.length).length := by
      rw [List.length_range']
      exact hj
    rw [getElem?_cycleOperations hentry, List.getElem?_eq_getElem hlen, List.getElem_range', one_mul]
    have hop : s.operation (k * s.controlList.length + j) = some (s.cycleAt k + s.startOf j, j,
        s.controlList[j].scheduledObject) := by
      unfold operation operationEntry
      rw [h.operationTime_add k hj.le, Nat.mul_comm, Nat.mul_add_mod, Nat.mod_eq_of_lt hj, hentry]
      rfl
    rw [Option.map_some, Option.map_some, hop]
  · have h1 : (s.cycleOperations k).length ≤ j := by
      rw [s.length_cycleOperations]
      exact not_lt.mp hj
    have h2 : (List.range' (k * s.controlList.length) s.controlList.length).length ≤ j := by
      rw [List.length_range']
      exact not_lt.mp hj
    rw [List.getElem?_eq_none h1, List.getElem?_eq_none h2]
    rfl

theorem map_cycles (k c : ℕ) : ((List.range' k c).flatMap s.cycleOperations).map some =
    (List.range' (k * s.controlList.length) (c * s.controlList.length)).map s.operation := by
  induction c with
  | zero =>
    rw [Nat.zero_mul]
    rfl
  | succ c ih =>
    rw [List.range'_concat, List.flatMap_append, List.map_append, ih, one_mul, List.flatMap_singleton,
      h.map_cycleOperations, ← List.map_append, Nat.add_mul, List.range'_append_1, Nat.succ_mul]

end Executable
end Schedule

namespace ScheduleManager
variable {T : Type} {clock : ClockRate} {S : Schedule T} {t0 : SimTime} {m m' : ScheduleManager T}

/-! ## the next one -/

theorem ListAt.le_length {k p listPointer : ℕ} {a : Agenda StateMachine SimTime}
    {next : ListExecuteState} {exitTimer : SimTime} (h : ListAt S k a next listPointer exitTimer p) :
    p ≤ S.controlList.length := by
  cases h with
  | new => exact Nat.zero_le _
  | execute _ hlt => exact hlt.le
  | delay _ hlt => exact hlt.le
  | done => exact le_rfl

/-- operation `q` is the next one -/
inductive Upcoming (clock : ClockRate) (S : Schedule T) (t0 : SimTime) (m : ScheduleManager T) (q : ℕ) :
    Prop
  | booting (hb : Booting S t0 m) (hq : q = S.firstCycle t0 * S.controlList.length)
  | inCycle (k p : ℕ) (hc : InCycle clock S t0 m k p) (hq : q = k * S.controlList.length + p)

theorem Executes.upcoming (h : Executes clock S t0 m) : ∃ q, Upcoming clock S t0 m q := by
  obtain ⟨_, hb | ⟨k, p, hc⟩⟩ := h
  · exact ⟨_, .booting hb rfl⟩
  · exact ⟨_, .inCycle k p hc rfl⟩

theorem Upcoming.first_le {q : ℕ} (h : Upcoming clock S t0 m q) :
    S.firstCycle t0 * S.controlList.length ≤ q := by
  cases h with
  | booting hb hq => exact hq.ge
  | inCycle k p hc hq =>
    have hk := Nat.mul_le_mul_right S.controlList.length hc.first
    omega

/-- those before it are executed -/
theorem Upcoming.operations (hS : S.Executable clock) {q : ℕ} (h : Upcoming clock S t0 m q) :
    m.operations.map some = (List.range' (S.firstCycle t0 * S.controlList.length)
      (q - S.firstCycle t0 * S.controlList.length)).map S.operation := by
  cases h with
  | booting hb hq =>
    rw [hb.executed, hq, Nat.sub_self]
    rfl
  | inCycle k p hc hq =>
    have hp := hc.list.le_length
    obtain ⟨c, hk⟩ := Nat.exists_eq_add_of_le hc.first
    have hlen : q - S.firstCycle t0 * S.controlList.length = c * S.controlList.length + p := by
      rw [hq, hk, Nat.add_mul]
      omega
    have htake : ((S.cycleOperations k).take p).map some =
        (List.range' (k * S.controlList.length) p).map S.operation := by
      rw [List.map_take, hS.map_cycleOperations, ← List.map_take,
        List.take_range'_of_length_ge hp]
    rw [hc.executed, List.map_append, hS.map_cycles, htake, ← List.map_append, hlen, hk,
      Nat.add_sub_cancel_left, Nat.add_mul, List.range'_append_1]

/-- at rest its time has not come -/
theorem Upcoming.settled (hS : S.Executable clock) {q : ℕ} (h : Upcoming clock S t0 m q)
    (hs : m.agenda.Settled) : m.now < S.operationTime q := by
  cases h with
  | booting hb hq =>
    rw [hq, hS.operationTime_cycle]
    exact booting_settled hS hb hs
  | inCycle k p hc hq =>
    obtain ⟨_, j, rfl, hj, hlt⟩ := inCycle_settled hS hc hs
    rw [hq, hS.operationTime_add k hj]
    exact hlt

end ScheduleManager

/-! ## what a manager sets when it is left alone -/

namespace ManagerRecord
variable {T : Type}

/-- the operation that is recorded -/
def operation : ManagerRecord T → Option (SimTime × ℕ × T)
  | .execute t i _ s => some (t, i, s)
  | _ => none

/-- the running state is set at `t`, to one of the kind `P` -/
def Sets (P : T → Prop) (t : SimTime) : ManagerRecord T → Prop
  | .execute t' _ _ s => t' = t ∧ P s
  | .init t' _ s => t' = t ∧ P s
  | _ => False

/-- not the INIT action -/
def Scheduled : ManagerRecord T → Prop
  | .init _ _ _ => False
  | _ => True

theorem sets_iff {P : T → Prop} {t : SimTime} {r : ManagerRecord T} (h : r.Scheduled) :
    r.Sets P t ↔ ∃ o, r.operation = some o ∧ o.1 = t ∧ P o.2.2 := by
  cases r with
  | execute t' i s s' =>
    constructor
    · intro hs
      exact ⟨_, rfl, hs⟩
    · rintro ⟨o, ho, hs⟩
      cases ho
      exact hs
  | init => exact absurd h id
  | cycleStart => exact iff_of_false id fun ⟨o, ho, _⟩ => (nomatch ho)
  | update => exact iff_of_false id fun ⟨o, ho, _⟩ => (nomatch ho)

end ManagerRecord

namespace ScheduleManager
variable {T : Type} {clock : ClockRate} {S : Schedule T} {t0 : SimTime} {m m' : ScheduleManager T}

theorem operations_eq (m : ScheduleManager T) :
    m.operations = m.history.filterMap ManagerRecord.operation := rfl

/-- the manager's own events -/
def Own : ManagerEvent T → Prop
  | .handleMessage => True
  | .onTimestamp => True
  | .advance _ => True
  | _ => False

/-- left alone, the manager comes from `m` to `m'` -/
def Leads (clock : ClockRate) (m m' : ScheduleManager T) : Prop :=
  ∃ es, (∀ e ∈ es, Own e) ∧ run (step clock) m es = .ok m'

theorem Leads.refl (m : ScheduleManager T) : Leads clock m m := ⟨[], nofun, rfl⟩

theorem Leads.trans {m'' : ScheduleManager T} (h : Leads clock m m') (h' : Leads clock m' m'') :
    Leads clock m m'' := by
  obtain ⟨es, hes, hr⟩ := h
  obtain ⟨fs, hfs, hr'⟩ := h'
  refine ⟨es ++ fs, fun e he => ?_, run_append_ok.mpr ⟨m', hr, hr'⟩⟩
  exact (List.mem_append.mp he).elim (hes e) (hfs e)

theorem Leads.of_step {e : ManagerEvent T} (he : Own e) (hs : step clock m e = .ok m') :
    Leads clock m m' := by
  refine ⟨[e], fun f hf => ?_, run_cons_ok.mpr ⟨m', hs, rfl⟩⟩
  rw [List.mem_singleton.mp hf]
  exact he

/-- the times at which the manager, left alone, sets a state of the kind `P` -/
def settings (clock : ClockRate) (m : ScheduleManager T) (P : T → Prop) : Set SimTime :=
  {t | ∃ m', Leads clock m m' ∧ ∃ r ∈ m'.history.drop m.history.length, r.Sets P t}

/-- what is recorded after `m`, with the INIT action behind -/
def Grown (m m' : ScheduleManager T) : Prop :=
  m'.nextListExecuteState ≠ .INIT ∧
    ∃ l, m'.history = m.history ++ l ∧ ∀ r ∈ l, r.Scheduled

theorem Grown.refl (h : m.nextListExecuteState ≠ .INIT) : Grown m m :=
  ⟨h, [], (List.append_nil _).symm, nofun⟩

theorem Grown.same {m'' : ScheduleManager T} (h : Grown m m')
    (hn : m''.nextListExecuteState ≠ .INIT) (hh : m''.history = m'.history) : Grown m m'' := by
  obtain ⟨_, l, hl, hall⟩ := h
  exact ⟨hn, l, hh.trans hl, hall⟩

theorem Grown.record {m'' : ScheduleManager T} (h : Grown m m')
    (hn : m''.nextListExecuteState ≠ .INIT) {r : ManagerRecord T}
    (hh : m''.history = m'.history ++ [r]) (hr : r.Scheduled) : Grown m m'' := by
  obtain ⟨_, l, hl, hall⟩ := h
  refine ⟨hn, l ++ [r], ?_, fun r' hr' => ?_⟩
  · rw [hh, hl, List.append_assoc]
  · obtain hr' | hr' := List.mem_append.mp hr'
    · exact hall r' hr'
    · rw [List.mem_singleton.mp hr']
      exact hr

theorem grown_machineStep {m0 : ScheduleManager T} {x : StateMachine} (h : Grown m0 m)
    (hs : MachineStep clock m.popped m' x) : Grown m0 m' := by
  have hn : m.nextListExecuteState ≠ .INIT := h.1
  cases x with
  | CYCLE_TIMER =>
    change CycleTimerStep clock m.popped m' at hs
    cases hs with
    | rest => exact h.same hn rfl
    | idle => exact h.same hn rfl
    | setStartTime => exact h.same hn rfl
    | startCycle => exact h.record nofun rfl trivial
  | LIST_EXECUTE =>
    change ListExecuteStep clock m.popped m' at hs
    cases hs with
    | rest => exact h.same hn rfl
    | newCycle => exact h.same nofun rfl
    | execute =>
      refine h.record ?_ rfl trivial
      dsimp only
      split
      · nofun
      · split
        · nofun
        · nofun
    | delay => exact h.same nofun rfl
    | init _ hi => exact absurd hi hn
  | LIST_CONFIG =>
    change ListConfigStep m.popped m' at hs
    cases hs with
    | rest => exact h.same hn rfl
    | pending => exact h.same hn rfl
    | update => exact h.record hn rfl trivial
    | idle => exact h.same hn rfl

theorem grown_step {m0 : ScheduleManager T} (m : ScheduleManager T) (e : ManagerEvent T)
    (m' : ScheduleManager T) (h : Grown m0 m) (he : Own e) (hs : step clock m e = .ok m') :
    Grown m0 m' := by
  cases e with
  | handleMessage =>
    obtain ⟨_, rfl⟩ | ⟨x, rest, _, hstep⟩ := handleMessage_ok hs
    · exact h
    · exact grown_machineStep h hstep
  | onTimestamp =>
    cases hs
    obtain heq | ⟨x, _, _, heq⟩ := onTimestamp_cases m
    · rw [heq]
      exact h
    · rw [heq]
      exact h.same h.1 rfl
  | advance t =>
    cases hs
    obtain heq | ⟨_, heq⟩ := advance_cases m t
    · rw [heq]
      exact h
    · rw [heq]
      exact h.same h.1 rfl
  | setAdminState => exact absurd he id
  | setAdminSchedule => exact absurd he id
  | setEnabled => exact absurd he id
  | setConfigChange => exact absurd he id

theorem Leads.grown (h : Leads clock m m') (hn : m.nextListExecuteState ≠ .INIT) : Grown m m' := by
  obtain ⟨es, hes, hr⟩ := h
  exact run_invariant_of grown_step (.refl hn) (meets_of_forall hes m) hr

/-- the operations that are recorded are those from the next one on -/
theorem new_operations (hS : S.Executable clock) {q q' : ℕ} (h : Upcoming clock S t0 m q)
    (h' : Upcoming clock S t0 m' q') {l : List (ManagerRecord T)}
    (hl : m'.history = m.history ++ l) : q ≤ q' ∧
    (l.filterMap ManagerRecord.operation).map some = (List.range' q (q' - q)).map S.operation := by
  have hfirst := h.first_le
  have hops := h.operations hS
  have hops' := h'.operations hS
  have hall : m'.operations = m.operations ++ l.filterMap ManagerRecord.operation := by
    rw [operations_eq, operations_eq, hl, List.filterMap_append]
  rw [hall, List.map_append, hops] at hops'
  have hlen := congrArg List.length hops'
  rw [List.length_append, List.length_map, List.length_map, List.length_range', List.length_map,
    List.length_range'] at hlen
  have hle : q ≤ q' := by
    have hfirst' := h'.first_le
    omega
  refine ⟨hle, ?_⟩
  have hsplit : List.range' (S.firstCycle t0 * S.controlList.length)
      (q' - S.firstCycle t0 * S.controlList.length) =
      List.range' (S.firstCycle t0 * S.controlList.length)
        (q - S.firstCycle t0 * S.controlList.length) ++ List.range' q (q' - q) := by
    have hstart : q = S.firstCycle t0 * S.controlList.length +
        (q - S.firstCycle t0 * S.controlList.length) := by omega
    have hcount : q' - S.firstCycle t0 * S.controlList.length =
        q - S.firstCycle t0 * S.controlList.length + (q' - q) := by omega
    rw [hcount, ← List.range'_append_1, ← hstart]
  rw [hsplit, List.map_append] at hops'
  exact List.append_cancel_left hops'

/-- **What is set is what is scheduled**: between `m` and `m'` the operations from the next one of `m`
up to the next one of `m'`. -/
theorem setting_operation (hS : S.Executable clock) {q0 q1 : ℕ} (h : Upcoming clock S t0 m q0)
    (h' : Upcoming clock S t0 m' q1) (hg : Grown m m') {P : T → Prop} {t : SimTime} :
    (∃ r ∈ m'.history.drop m.history.length, r.Sets P t) ↔ ∃ q, q0 ≤ q ∧ q < q1 ∧
      t = S.operationTime q ∧ ∃ e ∈ S.operationEntry q, P e.scheduledObject := by
  obtain ⟨_, l, hl, hscheduled⟩ := hg
  obtain ⟨hle, hnew⟩ := new_operations hS h h' hl
  rw [hl, List.drop_left]
  constructor
  · rintro ⟨r, hr, hsets⟩
    obtain ⟨o, ho, ht, hp⟩ := (ManagerRecord.sets_iff (hscheduled r hr)).mp hsets
    have hmem : some o ∈ (List.range' q0 (q1 - q0)).map S.operation := by
      rw [← hnew]
      exact List.mem_map_of_mem (List.mem_filterMap.mpr ⟨r, hr, ho⟩)
    obtain ⟨q, hq, hop⟩ := List.mem_map.mp hmem
    obtain ⟨e, he, rfl⟩ := Schedule.operation_some hop
    have hrange := List.mem_range'_1.mp hq
    exact ⟨q, hrange.1, by omega, ht.symm, e, he, hp⟩
  · rintro ⟨q, hge, hlt, rfl, e, he, hp⟩
    have hop : S.operation q = some (S.operationTime q, q % S.controlList.length,
        e.scheduledObject) := by
      rw [Schedule.operation, Option.mem_def.mp he]
      rfl
    have hmem : some (S.operationTime q, q % S.controlList.length, e.scheduledObject) ∈
        (l.filterMap ManagerRecord.operation).map some := by
      rw [hnew, ← hop]
      exact List.mem_map_of_mem (List.mem_range'_1.mpr ⟨hge, by omega⟩)
    obtain ⟨o, ho, heq⟩ := List.mem_map.mp hmem
    cases heq
    obtain ⟨r, hr, hrop⟩ := List.mem_filterMap.mp ho
    exact ⟨r, hr, (ManagerRecord.sets_iff (hscheduled r hr)).mpr ⟨_, hrop, rfl, hp⟩⟩

end ScheduleManager
end Nesting
