import Mathlib.Algebra.Order.Archimedean.Basic
import Nesting.Gating.Rounds

/-!
# The cyclic schedule

Without adaptation and queries only ticks happen.  The controller then runs through its list again
and again, and a round is as long as the shorter of the list and the cycle.

* `Running`            after the tick that applied entry `j` of the round that started at `c`;
* `gateState_iff`      the gates show the list repeated with its own length, cut at the cycle time;
* `gateState_cyclic_iff`  that is the cyclic schedule exactly when the ticks fit their `unsigned`
                       parameter, and the list fills the cycle or the gate cannot tell its last
                       entry from the others.
-/

set_option linter.unusedVariables false

namespace Nesting

/-- the lists the results below are about: an accepted list with a positive cycle time and a
positive length, everything in whole ticks -/
structure Ticking (cfg : GateConfig) (xml : GateScheduleXml) : Prop where
  clock : 0 < cfg.clockRate
  lengths : ∀ e ∈ xml.entries, OnTick cfg e.timeInterval
  base : OnTick cfg xml.schedule.baseTime
  cycle : OnTick cfg xml.schedule.cycleTime
  cycle_pos : 0 < xml.schedule.cycleTime
  some_pos : ∃ e ∈ xml.entries, 0 < e.timeInterval

namespace Ticking
variable {cfg : GateConfig} {xml : GateScheduleXml}

theorem entries_pos (h : Ticking cfg xml) : 0 < xml.entries.length := by
  obtain ⟨e, he, -⟩ := h.some_pos
  exact List.length_pos_of_mem he

theorem whole (h : Ticking cfg xml) : xml.schedule.WholeTicks cfg :=
  ⟨h.clock, h.entries_pos, h.lengths, h.cycle, h.cycle_pos⟩

theorem nonNeg (h : Ticking cfg xml) : xml.schedule.NonNeg := h.whole.nonNeg

theorem total_pos (h : Ticking cfg xml) : 0 < xml.schedule.total := by
  obtain ⟨e, he, hpos⟩ := h.some_pos
  apply hpos.trans_le
  apply List.single_le_sum
  · intro t ht
    obtain ⟨e', he', rfl⟩ := List.mem_map.mp ht
    exact h.nonNeg e' he'
  · exact List.mem_map_of_mem he

end Ticking

/-- the ticks up to the base time, and those of each entry that is executed, fit an `unsigned` -/
def GateScheduleXml.Countable (cfg : GateConfig) (xml : GateScheduleXml) : Prop :=
  xml.schedule.baseTime / cfg.clockRate < 2 ^ 32 ∧ xml.schedule.Subscribable cfg

namespace GateSystem

/-! ## rounds -/

/-- the length of a round: the list, cut at the end of the cycle -/
def roundLength (xml : GateScheduleXml) : SimTime := min xml.schedule.total xml.schedule.cycleTime

/-- entry `j` of the round of the loaded list that started at `c` was applied last -/
structure Running (cfg : GateConfig) (xml : GateScheduleXml) (c : SimTime) (j : Nat)
    (s : GateSystem) : Prop where
  executing : Executing cfg c j s
  current : s.gc.currentSchedule = xml.schedule
  new : s.gc.newSchedule = xml.schedule
  applied : ∃ e, xml.entries[j]? = some e ∧
    s.trace.getLast? = some (c + xml.schedule.startOf j, e.scheduledObject)

section
variable {cfg : GateConfig} {xml : GateScheduleXml}

theorem Running.lt_length {s : GateSystem} {c : SimTime} {j : Nat} (hr : Running cfg xml c j s) :
    j < xml.entries.length := by
  obtain ⟨e, he, -⟩ := hr.applied
  exact (List.getElem?_eq_some_iff.mp he).1

theorem Running.dueTime_eq {s : GateSystem} {c : SimTime} {j : Nat} (hr : Running cfg xml c j s) :
    dueTime c j s = c + min (xml.schedule.startOf (j + 1)) xml.schedule.cycleTime := by
  rw [dueTime, hr.current]

/-- the first tick applies entry 0 at the base time -/
theorem first_tick (h : Ticking cfg xml) {s : GateSystem} (hs : GateSystem.start cfg xml = .ok s)
    (mac : Option PreemptMac) :
    (xml.schedule.Subscribable cfg → ∃ s', s.step cfg (.tick mac) = .ok s') ∧
      ∀ s', s.step cfg (.tick mac) = .ok s' → Running cfg xml xml.schedule.baseTime 0 s' := by
  obtain ⟨-, -, -, rfl⟩ := start_iff.mp hs
  have hl : (GateController.initial xml 0).Loads := ⟨rfl, nofun⟩
  rw [h.base.floor_mul h.clock]
  obtain ⟨hsome, hall⟩ := tick_load cfg
    (s := ⟨.initial xml 0, some xml.schedule.baseTime, []⟩) mac hl h.whole rfl
  constructor
  · intro hsub
    refine hsome (hsub 0 h.entries_pos ?_)
    rw [Schedule.startOf_zero]
    exact h.cycle_pos
  · intro s' hs'
    obtain ⟨hex, hgc, e, he, htr⟩ := hall s' hs'
    refine ⟨hex, ?_, ?_, e, he, ?_⟩
    · rw [hgc]
      rfl
    · rw [hgc]
      rfl
    · rw [htr, Schedule.startOf_zero, add_zero]
      exact List.getLast?_concat

/-- **One tick**: the next entry of the round, or entry 0 of the next round. -/
theorem tick_running (h : Ticking cfg xml) {s s' : GateSystem} {c : SimTime} {j : Nat}
    (hr : Running cfg xml c j s) {mac : Option PreemptMac}
    (hs : s.step cfg (.tick mac) = .ok s') :
    (Running cfg xml c (j + 1) s' ∧ dueTime c j s = c + xml.schedule.startOf (j + 1)) ∨
      (Running cfg xml (c + roundLength xml) 0 s' ∧ dueTime c j s = c + roundLength xml) := by
  have hdue := hr.dueTime_eq
  cases ticked_of_step hr.executing hs with
  | stay before executing gc entry trace =>
    left
    rw [hr.current] at before entry
    rw [min_eq_left before.le] at hdue
    refine ⟨⟨executing, ?_, ?_, _, entry, ?_⟩, hdue⟩
    · rw [gc]
      exact hr.current
    · rw [gc]
      exact hr.new
    · rw [trace, hdue]
      exact List.getLast?_concat
  | load last executing gc entry trace =>
    right
    have hlen : j + 1 = xml.entries.length := by
      rw [last, hr.current]
      rfl
    have hround : min (xml.schedule.startOf (j + 1)) xml.schedule.cycleTime = roundLength xml := by
      rw [hlen, Schedule.startOf_of_le (by rfl)]
      rfl
    rw [hround] at hdue
    rw [hdue] at executing gc trace
    rw [hr.new] at entry
    refine ⟨⟨executing, ?_, ?_, _, entry, ?_⟩, hdue⟩
    · rw [gc]
      show { s.gc.newSchedule with sumTimeIntervals := s.gc.newSchedule.total } = xml.schedule
      rw [hr.new]
      rfl
    · rw [gc]
      exact hr.new
    · rw [trace, Schedule.startOf_zero, add_zero]
      exact List.getLast?_concat
  | reset before cut executing gc entry trace =>
    right
    rw [hr.current] at cut entry
    have hround : min (xml.schedule.startOf (j + 1)) xml.schedule.cycleTime = roundLength xml := by
      rw [min_eq_right cut, roundLength, min_eq_right (cut.trans (h.whole.startOf_le_total _))]
    rw [hround] at hdue
    rw [hdue] at executing gc trace
    refine ⟨⟨executing, ?_, ?_, _, entry, ?_⟩, hdue⟩
    · rw [gc]
      exact hr.current
    · rw [gc]
      exact hr.new
    · rw [trace, Schedule.startOf_zero, add_zero]
      exact List.getLast?_concat

/-! ## runs of ticks -/

/-- a run that only ticks -/
def TickRun (cfg : GateConfig) (xml : GateScheduleXml) (s : GateSystem) : Prop :=
  ∃ (s0 : GateSystem) (macs : List (Option PreemptMac)), start cfg xml = .ok s0 ∧
    Lib.run (step cfg) s0 (macs.map GateEvent.tick) = .ok s

/-- after the first tick a run of ticks is in some round -/
theorem tickRun_running (h : Ticking cfg xml) {s : GateSystem} (ht : TickRun cfg xml s) :
    s.trace = [] ∨
      ∃ (n : ℕ) (j : Nat), Running cfg xml (xml.schedule.baseTime + n * roundLength xml) j s := by
  obtain ⟨s0, macs, hs0, hrun⟩ := ht
  induction macs using List.reverseRecOn generalizing s with
  | nil =>
    cases hrun
    obtain ⟨-, -, -, rfl⟩ := start_iff.mp hs0
    exact Or.inl rfl
  | append_singleton macs mac ih =>
    rw [List.map_append] at hrun
    obtain ⟨s1, hrun1, hstep⟩ := Lib.run_snoc_ok.mp hrun
    right
    rcases List.eq_nil_or_concat macs with rfl | ⟨macs', mac', rfl⟩
    · cases hrun1
      have hr := (first_tick h hs0 mac).2 s hstep
      exact ⟨0, 0, by simpa using hr⟩
    · rcases ih hrun1 with hnil | ⟨n, j, hr⟩
      · rw [List.concat_eq_append, List.map_append] at hrun1
        obtain ⟨s2, -, hstep2⟩ := Lib.run_snoc_ok.mp hrun1
        obtain ⟨now, ap, -, -, -, htr⟩ := step_tick_ok hstep2
        rw [htr] at hnil
        exact absurd hnil (by simp)
      · rcases tick_running h hr hstep with ⟨hr', -⟩ | ⟨hr', -⟩
        · exact ⟨n, j + 1, hr'⟩
        · refine ⟨n + 1, 0, ?_⟩
          have hc : xml.schedule.baseTime + (n + 1 : ℕ) * roundLength xml
              = xml.schedule.baseTime + n * roundLength xml + roundLength xml := by
            push_cast
            ring
          rw [hc]
          exact hr'

theorem TickRun.snoc {s s' : GateSystem} {mac : Option PreemptMac} (ht : TickRun cfg xml s)
    (hs : s.step cfg (.tick mac) = .ok s') : TickRun cfg xml s' := by
  obtain ⟨s0, macs, hs0, hrun⟩ := ht
  refine ⟨s0, macs ++ [mac], hs0, ?_⟩
  rw [List.map_append]
  exact Lib.run_snoc_ok.mpr ⟨s, hrun, hs⟩

/-- all events up to `t` are processed, and the vector applied last is `v` -/
def Settled (t : SimTime) (v : GateBitvector) (s : GateSystem) : Prop :=
  ∃ u p, s.trace.getLast? = some (u, v) ∧ u ≤ t ∧ s.pendingTick = some p ∧ t < p

theorem roundLength_pos (h : Ticking cfg xml) : 0 < roundLength xml := lt_min h.total_pos h.cycle_pos

/-- a settled state shows the list, repeated with the length of a round -/
theorem settled_active (h : Ticking cfg xml) {s : GateSystem} {t : SimTime} {v : GateBitvector}
    (ht : TickRun cfg xml s) (hs : Settled t v s) :
    Lib.activeAt xml.schedule.pieces
      (Lib.phase xml.schedule.baseTime (roundLength xml) t) = some v := by
  obtain ⟨u, p, hlast, hut, hp, htp⟩ := hs
  rcases tickRun_running h ht with hnil | ⟨n, j, hr⟩
  · rw [hnil] at hlast
    cases hlast
  obtain ⟨e, he, hlast'⟩ := hr.applied
  rw [hlast] at hlast'
  cases hlast'
  have hpe : p = dueTime _ j s := Option.some.inj (hp.symm.trans hr.executing.pending)
  rw [hr.dueTime_eq] at hpe
  have h0 := h.whole.startOf_nonneg j
  have hround : min (xml.schedule.startOf (j + 1)) xml.schedule.cycleTime ≤ roundLength xml :=
    min_le_min_right _ (h.whole.startOf_le_total _)
  have hphase := Lib.phase_eq (b := xml.schedule.baseTime) (c := roundLength xml) (t := t) n
    (by push_cast; linarith) (by push_cast; linarith)
  rw [hphase]
  apply Schedule.activeAt_pieces h.nonNeg he
  · push_cast
    linarith
  · have := min_le_left (xml.schedule.startOf (j + 1)) xml.schedule.cycleTime
    push_cast
    linarith

/-- **Progress**: from a round that has started, ticks lead to a state that is settled at `t`. -/
theorem exists_settled_of_running (h : Ticking cfg xml) (hsub : xml.schedule.Subscribable cfg)
    {t : SimTime} (N : ℕ) :
    ∀ (k : Nat) {s : GateSystem} {c : SimTime} {j : Nat}, xml.entries.length - j ≤ k →
      TickRun cfg xml s → Running cfg xml c j s → c + xml.schedule.startOf j ≤ t →
      t < c + N * roundLength xml → ∃ s' v, TickRun cfg xml s' ∧ Settled t v s' := by
  -- over the rounds up to `t`, and in a round over the entries that are left
  induction N with
  | zero =>
    intro k s c j _ _ _ h1 h2
    have := h.whole.startOf_nonneg j
    rw [Nat.cast_zero, zero_mul] at h2
    linarith
  | succ N ihN =>
    intro k
    induction k with
    | zero =>
      intro s c j hk ht hr h1 h2
      have := hr.lt_length
      omega
    | succ k ihk =>
      intro s c j hk ht hr h1 h2
      by_cases hset : t < dueTime c j s
      · obtain ⟨e, -, hlast⟩ := hr.applied
        exact ⟨s, _, ht, _, _, hlast, h1, hr.executing.pending, hset⟩
      · have hle := not_lt.mp hset
        obtain ⟨s', hs'⟩ := (tick_executing hr.executing none).1
          (hr.executing.nextCounted (by rw [hr.current]; exact hsub) (by rw [hr.new]; exact hsub))
        rcases tick_running h hr hs' with ⟨hr', hp⟩ | ⟨hr', hp⟩
        · exact ihk (by omega) (ht.snoc hs') hr' (hp.symm.trans_le hle) h2
        · refine ihN _ le_rfl (ht.snoc hs') hr' ?_ ?_
          · rw [Schedule.startOf_zero, add_zero]
            exact hp.symm.trans_le hle
          · push_cast at h2
            linarith

theorem exists_settled (h : Ticking cfg xml) (hc : xml.Countable cfg) {t : SimTime}
    (ht : xml.schedule.baseTime ≤ t) : ∃ s v, TickRun cfg xml s ∧ Settled t v s := by
  obtain ⟨N, hN⟩ := exists_nat_gt ((t - xml.schedule.baseTime) / roundLength xml)
  rw [div_lt_iff₀ (roundLength_pos h)] at hN
  have hne : xml.entries ≠ [] := List.ne_nil_of_length_pos h.entries_pos
  obtain ⟨s0, hs0⟩ : ∃ s0, start cfg xml = .ok s0 :=
    ⟨_, start_iff.mpr ⟨h.nonNeg, hne, (h.base.counted_iff h.clock).mpr hc.1, rfl⟩⟩
  obtain ⟨hsome, hall⟩ := first_tick h hs0 none
  obtain ⟨s1, hs1⟩ := hsome hc.2
  have htick : TickRun cfg xml s1 := TickRun.snoc ⟨_, [], hs0, rfl⟩ hs1
  refine exists_settled_of_running h hc.2 N _ le_rfl htick (hall s1 hs1) ?_ (by linarith)
  rw [Schedule.startOf_zero, add_zero]
  exact ht

/-! ## the state of a gate -/

/-- gate `g` is in the state `b` when all events up to `t` are processed -/
def GateStateAt (cfg : GateConfig) (xml : GateScheduleXml) (t : SimTime) (g : Nat) (b : Bool) :
    Prop :=
  ∃ s v, TickRun cfg xml s ∧ Settled t v s ∧ v.test g = b

/-- the gates show the list, repeated with its own length and cut at the end of the cycle -/
theorem gateState_iff (h : Ticking cfg xml) (hc : xml.Countable cfg) {t : SimTime}
    (ht : xml.schedule.baseTime ≤ t) (g : Nat) (b : Bool) : GateStateAt cfg xml t g b ↔
      (Lib.activeAt xml.schedule.pieces (Lib.phase xml.schedule.baseTime (roundLength xml) t)).map
        (·.test g) = some b := by
  constructor
  · rintro ⟨s, v, hrun, hset, rfl⟩
    rw [settled_active h hrun hset]
    rfl
  · intro hact
    obtain ⟨s, v, hrun, hset⟩ := exists_settled h hc ht
    rw [settled_active h hrun hset] at hact
    exact ⟨s, v, hrun, hset, Option.some.inj hact⟩

/-- when every time has a settled state, the subscriptions on the way to it have succeeded -/
theorem countable_of_settled (h : Ticking cfg xml)
    (hset : ∀ t, xml.schedule.baseTime ≤ t → ∃ s v, TickRun cfg xml s ∧ Settled t v s) :
    xml.Countable cfg := by
  refine ⟨?_, fun j hj hwithin => ?_⟩
  · obtain ⟨s, v, ⟨s0, macs, hs0, -⟩, -⟩ := hset _ le_rfl
    exact (start_iff.mp hs0).2.2.1.2
  · have hmono := @Schedule.startOf_mono _ xml.schedule h.nonNeg
    rcases (h.whole.heldFor_onTick hwithin.le).nonneg h.clock |>.eq_or_lt with h0 | hpos
    · rw [← h0, zero_div]
      norm_num
    -- at its start only entry `j` of the first round can have been applied last
    obtain ⟨s, v, hrun, u, p, hlast, hut, hp, htp⟩ :=
      hset (xml.schedule.baseTime + xml.schedule.startOf j)
        (le_add_of_nonneg_right (h.whole.startOf_nonneg j))
    rcases tickRun_running h hrun with hnil | ⟨n, k, hr⟩
    · rw [hnil] at hlast
      cases hlast
    obtain ⟨e, he, hlast'⟩ := hr.applied
    rw [hlast] at hlast'
    cases hlast'
    have hpe : p = dueTime _ k s := Option.some.inj (hp.symm.trans hr.executing.pending)
    rw [hr.dueTime_eq] at hpe
    have hheld : xml.schedule.startOf j <
        min (xml.schedule.startOf (j + 1)) xml.schedule.cycleTime := sub_pos.mp hpos
    have hlt : xml.schedule.startOf j < roundLength xml :=
      hheld.trans_le (min_le_min_right _ (h.whole.startOf_le_total _))
    have hn : n = 0 := by
      by_contra hne
      have h1 : (1 : ℚ) ≤ n := by exact_mod_cast Nat.one_le_iff_ne_zero.mpr hne
      have := le_mul_of_one_le_left (roundLength_pos h).le h1
      have := h.whole.startOf_nonneg k
      linarith
    rw [hn, Nat.cast_zero, zero_mul, add_zero] at hut hpe
    have hkj : k = j := by
      have hle := min_le_left (xml.schedule.startOf (k + 1)) xml.schedule.cycleTime
      have hle' := min_le_left (xml.schedule.startOf (j + 1)) xml.schedule.cycleTime
      rcases lt_trichotomy k j with hlt | heq | hgt
      · have := hmono (show k + 1 ≤ j from hlt)
        linarith
      · exact heq
      · have := hmono (show j + 1 ≤ k from hgt)
        linarith
    have hcount := hr.executing.counted
    rw [hr.current, hkj] at hcount
    exact hcount

end
/-- two entries of 40 us in a cycle of 100 us: gate 0, then gate 1 -/
def shortList : GateScheduleXml := ⟨some (1 / 10000), none, [⟨4 / 100000, 1⟩, ⟨4 / 100000, 2⟩]⟩

/-- two entries of 60 us in a cycle of 100 us -/
def longList : GateScheduleXml := ⟨some (1 / 10000), none, [⟨6 / 100000, 1⟩, ⟨6 / 100000, 2⟩]⟩

theorem shortList_ticking : Ticking .plain shortList where
  clock := by decide +kernel
  lengths := by
    intro e he
    rcases List.mem_pair.mp he with rfl | rfl
    · exact ⟨40, by decide +kernel⟩
    · exact ⟨40, by decide +kernel⟩
  base := ⟨0, by decide +kernel⟩
  cycle := ⟨100, by decide +kernel⟩
  cycle_pos := by decide +kernel
  some_pos := ⟨_, List.mem_cons_self, by decide +kernel⟩

theorem longList_ticking : Ticking .plain longList where
  clock := by decide +kernel
  lengths := by
    intro e he
    rcases List.mem_pair.mp he with rfl | rfl
    · exact ⟨60, by decide +kernel⟩
    · exact ⟨60, by decide +kernel⟩
  base := ⟨0, by decide +kernel⟩
  cycle := ⟨100, by decide +kernel⟩
  cycle_pos := by decide +kernel
  some_pos := ⟨_, List.mem_cons_self, by decide +kernel⟩

theorem shortList_countable : shortList.Countable .plain :=
  ⟨by decide +kernel, by decide +kernel⟩

theorem longList_countable : longList.Countable .plain :=
  ⟨by decide +kernel, by decide +kernel⟩

end GateSystem
end Nesting
