import Nesting.Gating.System

/-!
# Loading the adapted schedule

`updateSchedule` loads `newSchedule` when it finds the index 0, and only then sets the index to 0 at
the end of a cycle.  A cycle that is cut short of its last entry is therefore followed by one that
still runs the old schedule.

* `StartsCycle`          the tick applies entry 0 and sets `cycleStart`;
* `LoadsAtStart`         it finds the index 0 already, or there is nothing to load;
* `cycleStart_loads_iff` over every run, each cycle starts with what `newSchedule` held exactly when
                         each tick that starts a cycle does so.
-/

set_option linter.unusedVariables false

namespace Nesting
namespace GateController

/-- the call at `now` finds the start of a cycle -/
def AtCycleStart (gc : GateController) (now : SimTime) : Prop :=
  gc.scheduleIndex = 0 ∨
    gc.cycleStart + gc.currentSchedule.getCycleTime = now ∧ gc.currentSchedule.getCycleTime ≠ 0

theorem prepared_cycleStart {gc : GateController} {now : SimTime} (h : gc.AtCycleStart now) :
    (gc.prepared now).cycleStart = now := by
  by_cases hl : gc.Loads
  · rw [prepared_of_loads now hl]
    rfl
  · have h0 : (gc.endOfCycle now).scheduleIndex = 0 := by
      unfold endOfCycle
      split
      · rfl
      · rename_i hc
        exact h.resolve_right hc
    unfold prepared startOfCycle
    rw [if_neg hl, if_pos h0]

/-- nothing is lost by not loading -/
def UpToDate (gc : GateController) : Prop :=
  gc.currentSchedule.content = gc.newSchedule.content ∧ gc.isIncreased = false ∧
    gc.isSelected = false

/-- what a call that does not load leaves of the schedules and the flags -/
theorem prepared_of_not_loads {gc : GateController} (now : SimTime) (h : ¬ gc.Loads) :
    (gc.prepared now).currentSchedule = gc.currentSchedule ∧
      (gc.prepared now).newSchedule = gc.newSchedule ∧
      (gc.prepared now).isIncreased = gc.isIncreased ∧
      (gc.prepared now).isSelected = gc.isSelected := by
  have hcur := gc.prepared_currentSchedule now
  have hflags := gc.prepared_flags now
  rw [if_neg h] at hcur hflags
  exact ⟨hcur, gc.prepared_newSchedule now, hflags⟩

/-- a call that loads leaves the controller up to date -/
theorem updateSchedule_of_loads {cfg : GateConfig} {mac : Option PreemptMac} {now : SimTime}
    {gc gc' : GateController} {ap : Applied} (h : updateSchedule cfg mac now gc = .ok (gc', ap))
    (hl : gc.Loads) : gc'.newSchedule = gc.newSchedule ∧ gc'.UpToDate := by
  obtain ⟨-, ⟨-, -, rfl⟩ | ⟨e, -, rfl, -, -⟩⟩ := updateSchedule_ok h
  · exact ⟨rfl, rfl, rfl, rfl⟩
  · rw [prepared_of_loads now hl]
    exact ⟨rfl, rfl, rfl, rfl⟩

/-- one that does not load leaves the schedules and the flags alone -/
theorem updateSchedule_of_not_loads {cfg : GateConfig} {mac : Option PreemptMac} {now : SimTime}
    {gc gc' : GateController} {ap : Applied} (h : updateSchedule cfg mac now gc = .ok (gc', ap))
    (hl : ¬ gc.Loads) : gc'.newSchedule = gc.newSchedule ∧ (gc'.UpToDate ↔ gc.UpToDate) := by
  obtain ⟨-, ⟨hl', -, -⟩ | ⟨e, -, rfl, -, -⟩⟩ := updateSchedule_ok h
  · exact absurd hl' hl
  · obtain ⟨h1, h2, h3, h4⟩ := prepared_of_not_loads now hl
    refine ⟨h2, ?_⟩
    show (_ ∧ _ ∧ _) ↔ _
    rw [UpToDate]
    show ((gc.prepared now).currentSchedule.content = (gc.prepared now).newSchedule.content ∧
      (gc.prepared now).isIncreased = false ∧ (gc.prepared now).isSelected = false) ↔ _
    rw [h1, h2, h3, h4]

end GateController

namespace GateSystem

/-- the tick starts a cycle -/
def StartsCycle (s : GateSystem) : GateEvent → Prop
  | .tick _ => ∃ now, s.pendingTick = some now ∧ s.gc.AtCycleStart now
  | _ => False

/-- the cycle it starts runs what `newSchedule` held, with the flags cleared -/
def NothingLost (cfg : GateConfig) (s : GateSystem) (e : GateEvent) : Prop :=
  s.StartsCycle e → ∀ s', s.step cfg e = .ok s' →
    s'.gc.currentSchedule.content = s.gc.newSchedule.content ∧ s'.gc.isIncreased = false ∧
      s'.gc.isSelected = false

/-- the index is 0 before the tick, or there is nothing to load -/
def LoadsAtStart (s : GateSystem) (e : GateEvent) : Prop :=
  s.StartsCycle e → s.gc.scheduleIndex = 0 ∨ s.gc.UpToDate

/-- from its initialization on a controller has a next schedule -/
def HasNext (s : GateSystem) : Prop := s.gc.nextSchedule ≠ .null

theorem hasNext_start {cfg : GateConfig} {xml : GateScheduleXml} {s : GateSystem}
    (h : start cfg xml = .ok s) : s.HasNext := by
  obtain ⟨-, -, -, rfl⟩ := start_iff.mp h
  exact fun h => by cases h

theorem hasNext_step {cfg : GateConfig} {s s' : GateSystem} {e : GateEvent} (hn : s.HasNext)
    (h : s.step cfg e = .ok s') : s'.HasNext := by
  cases e with
  | tick mac =>
    obtain ⟨now, ap, -, hu, -, -⟩ := step_tick_ok h
    obtain ⟨-, ⟨-, -, he⟩ | ⟨e, -, he, -, -⟩⟩ := GateController.updateSchedule_ok hu
    · unfold HasNext
      rw [he]
      exact fun h => by cases h
    · unfold HasNext
      rw [he]
      show (s.gc.prepared now).nextSchedule ≠ .null
      rw [GateController.prepared_nextSchedule]
      split
      · exact fun h => by cases h
      · exact hn
  | calculateMaxBit fuel now g =>
    obtain ⟨⟨b, gc'⟩, h1, h2⟩ := bind_ok.mp h
    obtain ⟨c, rfl⟩ := GateController.calculateMaxBit_writes h1
    cases h2
    exact hn
  | setTimeInterval i t =>
    obtain ⟨n, -, h2⟩ := bind_ok.mp h
    cases h2
    exact hn
  | setisIncreased b =>
    cases h
    exact hn
  | setisSelected b =>
    cases h
    exact hn

/-- one tick: the cycle starts with what `newSchedule` held exactly when it loads or need not -/
theorem nothingLost_iff {cfg : GateConfig} {s s' : GateSystem} {e : GateEvent} (hn : s.HasNext)
    (h : s.step cfg e = .ok s') : s.NothingLost cfg e ↔ s.LoadsAtStart e := by
  refine forall_congr' fun hs => ?_
  have only : (∀ u, s.step cfg e = .ok u → u.gc.currentSchedule.content = s.gc.newSchedule.content ∧
      u.gc.isIncreased = false ∧ u.gc.isSelected = false) ↔
      s'.gc.currentSchedule.content = s.gc.newSchedule.content ∧ s'.gc.isIncreased = false ∧
        s'.gc.isSelected = false := by
    refine ⟨fun hall => hall s' h, fun hp u hu => ?_⟩
    rw [h] at hu
    cases hu
    exact hp
  rw [only]
  cases e with
  | tick mac =>
    obtain ⟨now, ap, -, hu, -, -⟩ := step_tick_ok h
    by_cases h0 : s.gc.scheduleIndex = 0
    · obtain ⟨hnew, hup⟩ := GateController.updateSchedule_of_loads hu ⟨h0, hn⟩
      refine iff_of_true ?_ (Or.inl h0)
      rw [← hnew]
      exact hup
    · have hl : ¬ s.gc.Loads := fun hl => h0 hl.1
      obtain ⟨hnew, hup⟩ := GateController.updateSchedule_of_not_loads hu hl
      rw [or_iff_right h0, ← hup, ← hnew]
      exact Iff.rfl
  | calculateMaxBit fuel now g => exact hs.elim
  | setTimeInterval i t => exact hs.elim
  | setisIncreased b => exact hs.elim
  | setisSelected b => exact hs.elim

/-- **No adaptation is lost** in a run exactly when every tick that starts a cycle finds the index 0
or nothing to load. -/
theorem cycleStart_loads_iff {cfg : GateConfig} {xml : GateScheduleXml} {s t : GateSystem}
    {es : List GateEvent} (hs : start cfg xml = .ok s) (hr : Lib.run (step cfg) s es = .ok t) :
    Lib.Meets (step cfg) (NothingLost cfg) s es ↔ Lib.Meets (step cfg) LoadsAtStart s es :=
  Lib.meets_iff_of_run (fun _ _ _ hn h => hasNext_step hn h) (fun _ _ _ hn h => nothingLost_iff hn h)
    (hasNext_start hs) hr

/-- three entries of 60 us in a cycle of 100 us -/
def threeEntries : GateScheduleXml :=
  ⟨some (1 / 10000), none, [⟨6 / 100000, 1⟩, ⟨6 / 100000, 2⟩, ⟨6 / 100000, 4⟩]⟩

/-- **An adaptation that is lost.**  Entry 0 of `newSchedule` is set to 50 us at 70 us; the cycle
that starts at 100 us executes the old 60 us, with `isIncreased` still set. -/
theorem cycleStart_keeps_old :
    (start .plain threeEntries).bind (fun s => (Lib.run (step .plain) s
        [.tick none, .tick none, .setTimeInterval 0 (5 / 100000), .setisIncreased true]).map
          (fun t => (t.pendingTick, t.gc.newSchedule.intervals, t.gc.scheduleIndex)))
      = .ok (some (1 / 10000), [5 / 100000, 6 / 100000, 6 / 100000], 2) ∧
    (start .plain threeEntries).bind (fun s => (Lib.run (step .plain) s
        [.tick none, .tick none, .setTimeInterval 0 (5 / 100000), .setisIncreased true,
          .tick none]).map
          (fun t => (t.gc.cycleStart, t.gc.currentSchedule.intervals, t.gc.isIncreased)))
      = .ok (1 / 10000, [6 / 100000, 6 / 100000, 6 / 100000], true) := by
  constructor
  · decide +kernel
  · decide +kernel

/-- the first cycle of the same list starts with what was loaded -/
theorem cycleStart_loads_first :
    ∃ s t, start .plain threeEntries = .ok s ∧
      Lib.run (step .plain) s [.tick none, .setTimeInterval 0 (5 / 100000)] = .ok t ∧
      Lib.Meets (step .plain) (NothingLost .plain) s [.tick none, .setTimeInterval 0 (5 / 100000)] := by
  have hstart : start .plain threeEntries = .ok
      ⟨.initial threeEntries 0, some 0, []⟩ := by
    decide +kernel
  obtain ⟨t, ht⟩ : ∃ t, Lib.run (step .plain) ⟨.initial threeEntries 0, some 0, []⟩
      [.tick none, .setTimeInterval 0 (5 / 100000)] = .ok t := by
    apply exists_of_isOk
    decide +kernel
  refine ⟨_, t, hstart, ht, (cycleStart_loads_iff hstart ht).mpr ?_⟩
  exact ⟨fun _ => Or.inl rfl, fun _ _ => ⟨fun h => h.elim, fun _ _ => trivial⟩⟩

end GateSystem
end Nesting
