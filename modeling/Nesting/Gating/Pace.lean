import Nesting.Gating.LookAhead
import Nesting.Gating.Rounds
import Nesting.Gating.Swap

/-!
# The pace of the ticks

Each tick subscribes for the next one, `scheduleNextTickEvent()` later and in whole clock periods.

* `Paced`          a schedule with a positive cycle time and a positive interval, whose boundaries
                   fall on clock ticks as far as its cycle goes;
* `Paces`          a tick that loads such schedules only, and applies an entry that is a whole number
                   of clock periods, unless the end of the cycle cuts it, and of fewer than 2^32;
* `InPass`         what is known between two ticks: where the pass through the list started, and how
                   many entries it has applied;
* `faithful_ticks` **each tick subscribes for the time it computes, each pass takes time, and no
                   instant has more than two ticks for each entry.**

Queries and changes of `newSchedule` come in between as they like.
-/

set_option linter.unusedVariables false

namespace Nesting

/-- a schedule that can be run in whole ticks -/
structure Schedule.Paced (cfg : GateConfig) (s : Schedule GateBitvector) : Prop where
  clock : 0 < cfg.clockRate
  nonNeg : s.NonNeg
  cycle_pos : 0 < s.cycleTime
  total_pos : 0 < s.total
  boundaries : ∀ j, OnTick cfg (min (s.startOf j) s.cycleTime)

namespace Schedule.Paced

variable {cfg : GateConfig} {s : Schedule GateBitvector}

/-- a cycle that cuts the list ends on a clock tick -/
theorem cycle_onTick (h : s.Paced cfg) (hcut : s.cycleTime < s.total) : OnTick cfg s.cycleTime := by
  have hlast := h.boundaries s.controlList.length
  rwa [startOf_of_le le_rfl, min_eq_right hcut.le] at hlast

theorem startOf_le_total (h : s.Paced cfg) {j : Nat} (hj : j ≤ s.controlList.length) :
    s.startOf j ≤ s.total := by
  rw [← startOf_of_le (s := s) (j := s.controlList.length) le_rfl]
  exact startOf_mono h.nonNeg hj

/-- only the content of a schedule counts -/
theorem loaded (h : s.Paced cfg) : Paced cfg { s with sumTimeIntervals := s.total } :=
  ⟨h.clock, h.nonNeg, h.cycle_pos, h.total_pos, h.boundaries⟩

end Schedule.Paced

namespace GateController

/-- a query moves the start of the cycle to a later boundary, if at all -/
theorem calculateMaxBit_cycleStart {cfg : GateConfig} {fuel g b : Nat} {now : SimTime}
    {gc gc' : GateController} (h : gc.calculateMaxBit cfg fuel now g = .ok (b, gc')) :
    ∃ c, gc' = { gc with cycleStart := c } ∧ (c = gc.cycleStart ∨
      ∃ j, c = gc.cycleStart + min gc.currentSchedule.cycleTime (gc.currentSchedule.startOf j)) := by
  by_cases hd : gc.Disturbs cfg now g
  swap
  · exact ⟨gc.cycleStart, (calculateMaxBit_eq_iff h).mpr hd, Or.inl rfl⟩
  obtain ⟨hrate, hnext, k, hk, -⟩ := hd
  obtain ⟨ns, hns⟩ : ∃ ns, gc.next = some ns := by
    unfold next
    cases hg : gc.nextSchedule with
    | null => exact absurd hg hnext
    | loaded s => exact ⟨s, rfl⟩
    | newSchedule => exact ⟨gc.newSchedule, rfl⟩
  obtain ⟨hrate', -, -⟩ | ⟨-, l, l', hl, hloop, rfl⟩ := calculateMaxBit_ok h
  · exact absurd hrate (not_lt.mpr hrate')
  obtain ⟨e, he, rfl⟩ := lookStart_ok hl
  rw [hns] at hloop
  exact ⟨l'.cycleStart, rfl, Or.inr ⟨k + 1, (lookLoop_cycleStart fuel rfl he rfl rfl hloop).1 k hk⟩⟩

/-- what the call at `now` subscribes for lies between 0 and the interval, and its conversion to
`unsigned` clock periods denotes the same time -/
def SubscribesFaithfully (cfg : GateConfig) (gc : GateController) (now : SimTime) : Prop :=
  ∃ interval rest idleTicks,
    gc.currentSchedule.getTimeInterval gc.scheduleIndex = .ok interval ∧
      gc.scheduleNextTickEvent now = .ok rest ∧ 0 ≤ rest ∧ rest ≤ interval ∧
      toUnsigned (rest / cfg.clockRate) = .ok idleTicks ∧ idleTicks * cfg.clockRate = rest

/-- the entry that is applied at `now`, or the rest of its cycle, is shorter than 2^32 clock periods,
and it is a whole number of them unless the end of the cycle cuts it -/
def EntryPaced (cfg : GateConfig) (gc : GateController) (now : SimTime) : Prop :=
  ∀ e, gc.currentSchedule.controlList[gc.scheduleIndex]? = some e →
    (now + e.timeInterval ≤ gc.cycleStart + gc.currentSchedule.cycleTime →
        OnTick cfg e.timeInterval) ∧
      (e.timeInterval < 2 ^ 32 * cfg.clockRate ∨
        gc.cycleStart + gc.currentSchedule.cycleTime - now < 2 ^ 32 * cfg.clockRate)

end GateController

namespace GateSystem

/-- the condition on a step -/
def Paces (cfg : GateConfig) (s : GateSystem) : GateEvent → Prop
  | .tick _ => (s.gc.Loads → s.gc.newSchedule.Paced cfg) ∧
      ∀ now, s.pendingTick = some now → (s.gc.prepared now).EntryPaced cfg now
  | _ => True

/-- the number of `updateSchedule` events at one instant -/
def updatesAt (s : GateSystem) (t : SimTime) : Nat := s.trace.countP fun x => x.1 = t

/-- the next tick succeeds and subscribes faithfully, and if it starts a pass, the one before has
taken some time -/
def Progresses (cfg : GateConfig) (s : GateSystem) (mac : Option PreemptMac) : Prop :=
  ∃ now s', s.pendingTick = some now ∧ s.step cfg (.tick mac) = .ok s' ∧
    (s.gc.prepared now).SubscribesFaithfully cfg now ∧
    (s.trace ≠ [] → s.gc.AtCycleStart now → s.gc.cycleStart_for_autoIntervalDecrease < now)

/-! ## ticks of a pass -/

/-- how many entries the pass has applied -/
def applied (s : GateSystem) : Nat :=
  if s.gc.scheduleIndex = 0 then s.gc.currentSchedule.controlList.length else s.gc.scheduleIndex

/-- the ticks so far, of which the last pass started at `start` and has had `k` -/
structure Spread (L k : Nat) (start due : SimTime) (s : GateSystem) : Prop where
  past : ∀ x ∈ s.trace, x.1 ≤ due
  after : ∀ t, start < t → s.updatesAt t ≤ k
  at_start : s.updatesAt start ≤ L + k
  always : ∀ t, s.updatesAt t ≤ 2 * L

/-- between two ticks, the next one due at `due`; the lists have `L` entries -/
structure InPass (cfg : GateConfig) (L : Nat) (due : SimTime) (s : GateSystem) : Prop where
  next : s.gc.nextSchedule = .newSchedule
  length : s.gc.currentSchedule.controlList.length = L
  length_new : s.gc.newSchedule.controlList.length = L
  paced : s.gc.currentSchedule.Paced cfg
  index : s.gc.scheduleIndex < L
  pending : s.pendingTick = some due
  due_onTick : OnTick cfg due
  start_onTick : OnTick cfg s.gc.cycleStart
  start_le : s.gc.cycleStart_for_autoIntervalDecrease ≤ s.gc.cycleStart
  within : due ≤ s.gc.cycleStart + s.gc.currentSchedule.cycleTime
  due_le : due ≤ s.gc.cycleStart_for_autoIntervalDecrease + s.gc.currentSchedule.startOf s.applied
  begun : s.gc.cycleStart_for_autoIntervalDecrease < due ∨
    s.gc.cycleStart_for_autoIntervalDecrease = due ∧ s.gc.currentSchedule.startOf s.applied = 0
  spread : Spread L s.applied s.gc.cycleStart_for_autoIntervalDecrease due s

/-- before the first tick -/
structure BeforeFirst (cfg : GateConfig) (L : Nat) (due : SimTime) (s : GateSystem) : Prop where
  loads : s.gc.Loads
  length_new : s.gc.newSchedule.controlList.length = L
  pending : s.pendingTick = some due
  due_onTick : OnTick cfg due
  trace : s.trace = []

section
variable {cfg : GateConfig} {s s' : GateSystem} {L k : Nat} {start due now : SimTime}

theorem updatesAt_of_trace {v : GateBitvector} (h : s'.trace = s.trace ++ [(now, v)]) (t : SimTime) :
    s'.updatesAt t = s.updatesAt t + if now = t then 1 else 0 := by
  rw [updatesAt, h, List.countP_append, updatesAt]
  by_cases ht : now = t <;> simp [ht]

theorem Spread.updatesAt_future (h : Spread L k start due s) {t : SimTime} (ht : due < t) :
    s.updatesAt t = 0 := by
  apply List.countP_eq_zero.mpr
  intro x hx
  have := h.past x hx
  simp only [decide_eq_true_eq]
  intro heq
  linarith

theorem Spread.of_trace (h : Spread L k start due s) (htrace : s'.trace = s.trace) :
    Spread L k start due s' := by
  have hcount : ∀ t, s'.updatesAt t = s.updatesAt t := by
    intro t
    rw [updatesAt, htrace, updatesAt]
  refine ⟨fun x hx => h.past x (htrace ▸ hx), fun t ht => ?_, ?_, fun t => ?_⟩
  · rw [hcount]
    exact h.after t ht
  · rw [hcount]
    exact h.at_start
  · rw [hcount]
    exact h.always t

/-- one more tick of the pass -/
theorem Spread.succ {v : GateBitvector} (h : Spread L k start now s) (hk : k < L)
    (hstart : start ≤ now) (hdue : now ≤ due) (htrace : s'.trace = s.trace ++ [(now, v)]) :
    Spread L (k + 1) start due s' := by
  have hcount := updatesAt_of_trace htrace
  refine ⟨fun x hx => ?_, fun t ht => ?_, ?_, fun t => ?_⟩
  · rw [htrace] at hx
    rcases List.mem_append.mp hx with hx | hx
    · exact (h.past x hx).trans hdue
    · rw [List.mem_singleton.mp hx]
      exact hdue
  · have := h.after t ht
    rw [hcount]
    split <;> omega
  · have := h.at_start
    rw [hcount]
    split <;> omega
  · rw [hcount]
    split
    · rename_i heq
      subst heq
      rcases hstart.lt_or_eq with hlt | rfl
      · have := h.after now hlt
        omega
      · have := h.at_start
        omega
    · exact h.always t

/-- a new pass at a later time -/
theorem Spread.restart (h : Spread L k start now s) (hk : k ≤ L) (hstart : start < now) :
    Spread L 0 now now s := by
  refine ⟨h.past, fun t ht => (h.updatesAt_future ht).le, ?_, h.always⟩
  have := h.after now hstart
  omega

theorem spread_nil (L : Nat) (now : SimTime) (h : s.trace = []) : Spread L 0 now now s := by
  have hcount : ∀ t, s.updatesAt t = 0 := by
    intro t
    rw [updatesAt, h]
    rfl
  refine ⟨fun x hx => ?_, fun t _ => (hcount t).le, ?_, fun t => ?_⟩
  · rw [h] at hx
    exact absurd hx List.not_mem_nil
  · rw [hcount]
    omega
  · rw [hcount]
    omega

theorem applied_of_advance {gp : GateController} (hgc : s'.gc = gp.advance now)
    (hj : gp.scheduleIndex < gp.currentSchedule.controlList.length) :
    s'.applied = gp.scheduleIndex + 1 := by
  rw [applied, hgc]
  show (if (gp.scheduleIndex + 1) % _ = 0 then gp.currentSchedule.controlList.length
    else (gp.scheduleIndex + 1) % _) = _
  rcases (Nat.succ_le_of_lt hj).lt_or_eq with hlt | heq
  · rw [Nat.mod_eq_of_lt hlt, if_neg (Nat.succ_ne_zero _)]
  · rw [show gp.scheduleIndex + 1 = _ from heq, Nat.mod_self, if_pos rfl]

/-! ## one tick -/

/-- the prepared controller: its pass started at `start` and has had the entries before its index -/
structure Prepared (cfg : GateConfig) (L : Nat) (start now : SimTime) (s : GateSystem)
    (gp : GateController) : Prop where
  next : gp.nextSchedule = .newSchedule
  length : gp.currentSchedule.controlList.length = L
  length_new : gp.newSchedule.controlList.length = L
  paced : gp.currentSchedule.Paced cfg
  index : gp.scheduleIndex < L
  now_onTick : OnTick cfg now
  start_onTick : OnTick cfg gp.cycleStart
  passStart : gp.cycleStart_for_autoIntervalDecrease = start
  start_le : start ≤ gp.cycleStart
  within : now ≤ gp.cycleStart + gp.currentSchedule.cycleTime
  now_le : now ≤ start + gp.currentSchedule.startOf gp.scheduleIndex
  begun : start < now ∨ start = now ∧ gp.currentSchedule.startOf gp.scheduleIndex = 0
  spread : Spread L gp.scheduleIndex start now s

/-- the rest of the cycle or the entry, whichever is shorter, in whole ticks -/
theorem Prepared.tickLength_spec {gp : GateController} {e : ControlListEntry GateBitvector}
    (h : Prepared cfg L start now s gp) (hp : gp.EntryPaced cfg now)
    (he : gp.currentSchedule.controlList[gp.scheduleIndex]? = some e) :
    0 ≤ gp.tickLength now e.timeInterval ∧ gp.tickLength now e.timeInterval ≤ e.timeInterval ∧
      OnTick cfg (gp.tickLength now e.timeInterval) ∧
      gp.tickLength now e.timeInterval < 2 ^ 32 * cfg.clockRate ∧
      now + gp.tickLength now e.timeInterval ≤ gp.cycleStart + gp.currentSchedule.cycleTime ∧
      (start < now + gp.tickLength now e.timeInterval ∨
        start = now + gp.tickLength now e.timeInterval ∧
          gp.currentSchedule.startOf (gp.scheduleIndex + 1) = 0) := by
  have hend := Schedule.startOf_succ he
  have hlen : 0 ≤ e.timeInterval := h.paced.nonNeg e (List.mem_of_getElem? he)
  have hcycle := h.paced.cycle_pos
  have hnow := h.now_le
  have hstart := h.start_le
  have hwithin := h.within
  obtain ⟨hwhole, hshort⟩ := hp e he
  by_cases hcut : now + e.timeInterval > gp.cycleStart + gp.currentSchedule.cycleTime
  · -- a list that does not exceed its cycle is never cut
    have hlong : gp.currentSchedule.cycleTime < gp.currentSchedule.total := by
      have htotal := h.paced.startOf_le_total (show gp.scheduleIndex + 1 ≤ _ by
        rw [h.length]
        exact h.index)
      linarith
    have hon : OnTick cfg (gp.cycleStart + gp.currentSchedule.cycleTime - now) :=
      OnTick.sub h.paced.clock (h.start_onTick.add (h.paced.cycle_onTick hlong)) h.now_onTick
        h.within
    have hrest : gp.tickLength now e.timeInterval =
        gp.cycleStart + gp.currentSchedule.cycleTime - now := if_pos hcut
    rw [hrest]
    refine ⟨by linarith, by linarith, hon, ?_, by linarith, Or.inl (by linarith)⟩
    rcases hshort with hshort | hshort <;> linarith
  · have hrest : gp.tickLength now e.timeInterval = e.timeInterval := if_neg hcut
    have hfits := not_lt.mp hcut
    rw [hrest]
    refine ⟨hlen, le_rfl, hwhole hfits, ?_, hfits, ?_⟩
    · rcases hshort with hshort | hshort <;> linarith
    · rcases h.begun with hlt | ⟨heq, hzero⟩
      · exact Or.inl (by linarith)
      · rcases hlen.lt_or_eq with hpos | hnone
        · exact Or.inl (by linarith)
        · exact Or.inr ⟨by linarith, by linarith⟩

theorem Prepared.subscribes {gp : GateController} (h : Prepared cfg L start now s gp)
    (hp : gp.EntryPaced cfg now) : gp.SubscribesFaithfully cfg now := by
  have hj : gp.scheduleIndex < gp.currentSchedule.controlList.length := by
    rw [h.length]
    exact h.index
  have he := List.getElem?_eq_getElem hj
  obtain ⟨hnonneg, hle, ⟨n, hn⟩, hshort, -, -⟩ := h.tickLength_spec hp he
  refine ⟨_, _, n, Schedule.getTimeInterval_of_lt hj, GateController.scheduleNextTickEvent_eq he,
    hnonneg, hle, ?_, hn.symm⟩
  have hdiv : gp.tickLength now gp.currentSchedule.controlList[gp.scheduleIndex].timeInterval
      / cfg.clockRate = n := by
    rw [hn, mul_div_cancel_right₀ _ h.paced.clock.ne']
  have hlt : (n : ℚ) < 2 ^ 32 := by
    rw [hn] at hshort
    exact lt_of_mul_lt_mul_right hshort h.paced.clock.le
  refine toUnsigned_ok.mpr ⟨?_, ?_, ?_⟩
  · rw [hdiv]
    have : (0 : ℚ) ≤ n := Nat.cast_nonneg n
    linarith
  · rw [hdiv]
    exact hlt
  · rw [hdiv, Nat.floor_natCast]

/-- **The tick of a prepared controller.** -/
theorem Prepared.tick {gp : GateController} (h : Prepared cfg L start now s gp)
    (hprep : s.gc.prepared now = gp) (hp : gp.EntryPaced cfg now) (hpending : s.pendingTick = some now)
    (hload : s.gc.Loads → s.gc.newSchedule.NonNeg) (mac : Option PreemptMac) :
    ∃ s' due, s.step cfg (.tick mac) = .ok s' ∧ InPass cfg L due s' := by
  have hj : gp.scheduleIndex < gp.currentSchedule.controlList.length := by
    rw [h.length]
    exact h.index
  have he := List.getElem?_eq_getElem hj
  have hi : (s.gc.prepared now).scheduleIndex
      < (s.gc.prepared now).currentSchedule.controlList.length := by
    rw [hprep]
    exact hj
  obtain ⟨ap, hu⟩ := GateController.updateSchedule_total cfg mac now hload hi (by
    intro next hn
    rw [hprep, GateController.next, h.next] at hn
    cases hn
    rw [h.length_new, ← h.length]
    omega)
  obtain ⟨e, he', -, -, hidle⟩ := GateController.applyEntry_ok
    (GateController.updateSchedule_applies (GateController.length_pos_of_loads hi) hu)
  rw [hprep, he] at he'
  cases he'
  rw [hprep] at hidle hu
  obtain ⟨hnonneg, hle, hon, hshort, hwithin, hbegun⟩ := h.tickLength_spec hp he
  have hend := Schedule.startOf_succ he
  have hclock := h.paced.clock
  have hnow := h.now_le
  have hstart : start ≤ now := by
    rcases h.begun with hlt | ⟨heq, -⟩
    · exact hlt.le
    · exact heq.le
  let s' : GateSystem := ⟨gp.advance now,
    ap.idleTicks.map fun q => now + ⌊q⌋₊ * cfg.clockRate, s.trace ++ [(now, ap.bitvector)]⟩
  have happlied : s'.applied = gp.scheduleIndex + 1 := applied_of_advance rfl hj
  refine ⟨s', now + gp.tickLength now gp.currentSchedule.controlList[gp.scheduleIndex].timeInterval,
    ?_, h.next, h.length, h.length_new, h.paced, ?_, ?_, h.now_onTick.add hon, h.start_onTick, ?_,
    hwithin, ?_, ?_, ?_⟩
  · refine step_tick_iff.mpr ⟨now, ap, hpending, hu, ?_, rfl, rfl⟩
    rw [hidle]
    intro q hq
    cases hq
    exact (hon.counted_iff hclock).mpr ((div_lt_iff₀ hclock).mpr hshort)
  · rw [← h.length]
    exact Nat.mod_lt _ (by omega)
  · show ap.idleTicks.map _ = _
    rw [hidle, Option.map_some, hon.floor_mul hclock]
  · show gp.cycleStart_for_autoIntervalDecrease ≤ gp.cycleStart
    rw [h.passStart]
    exact h.start_le
  · show _ ≤ gp.cycleStart_for_autoIntervalDecrease + gp.currentSchedule.startOf s'.applied
    rw [happlied, h.passStart, hend]
    linarith
  · show gp.cycleStart_for_autoIntervalDecrease < _ ∨ gp.cycleStart_for_autoIntervalDecrease = _ ∧
      gp.currentSchedule.startOf s'.applied = 0
    rw [happlied, h.passStart]
    exact hbegun
  · show Spread L s'.applied gp.cycleStart_for_autoIntervalDecrease _ s'
    rw [happlied, h.passStart]
    exact h.spread.succ h.index hstart (by linarith) rfl

/-- the first entry of `newSchedule` -/
theorem prepared_load (hl : s.gc.Loads) (hlen : s.gc.newSchedule.controlList.length = L)
    (hnew : s.gc.newSchedule.Paced cfg) (hon : OnTick cfg now) (hspread : Spread L 0 now now s) :
    Prepared cfg L now now s (s.gc.prepared now) := by
  have hprep := GateController.prepared_of_loads now hl
  have hindex : (s.gc.prepared now).scheduleIndex = 0 := by
    rw [hprep]
    exact hl.1
  have hpos : 0 < L := by
    rw [← hlen]
    refine List.length_pos_iff.mpr fun hnil => hnew.total_pos.ne' ?_
    rw [Schedule.total, Schedule.intervals, hnil]
    rfl
  have hcycle := hnew.cycle_pos
  rw [hprep] at hindex ⊢
  refine ⟨rfl, hlen, hlen, hnew.loaded, by omega, hon, hon, rfl, le_rfl, ?_, ?_, Or.inr ⟨rfl, ?_⟩, ?_⟩
  · show now ≤ now + s.gc.newSchedule.cycleTime
    linarith
  · rw [hindex, Schedule.startOf_zero, add_zero]
  · rw [hindex, Schedule.startOf_zero]
  · rw [hindex]
    exact hspread

/-- a pass that is over has taken some time -/
theorem InPass.start_lt (h : InPass cfg L due s) (hc : s.gc.AtCycleStart due) :
    s.gc.cycleStart_for_autoIntervalDecrease < due := by
  rcases hc with hzero | ⟨hend, -⟩
  · refine h.begun.resolve_right fun hb => ?_
    obtain ⟨-, hzero'⟩ := hb
    rw [applied, if_pos hzero, Schedule.startOf_of_le le_rfl] at hzero'
    exact h.paced.total_pos.ne' hzero'
  · have hstart := h.start_le
    have hcycle := h.paced.cycle_pos
    have : s.gc.cycleStart + s.gc.currentSchedule.cycleTime = due := hend
    linarith

theorem InPass.applied_le (h : InPass cfg L due s) : s.applied ≤ L := by
  have := h.index
  rw [applied, h.length]
  split <;> omega

/-- the next tick goes on in the pass or starts a new one -/
theorem InPass.prepared (h : InPass cfg L due s) (hload : s.gc.Loads → s.gc.newSchedule.Paced cfg) :
    ∃ start, Prepared cfg L start due s (s.gc.prepared due) := by
  by_cases hindex : s.gc.scheduleIndex = 0
  · have hl : s.gc.Loads := ⟨hindex, by rw [h.next]; exact nofun⟩
    exact ⟨due, prepared_load hl h.length_new (hload hl) h.due_onTick
      (h.spread.restart h.applied_le (h.start_lt (Or.inl hindex)))⟩
  · have hprep := GateController.prepared_of_index_ne due hindex
    have happlied : s.applied = s.gc.scheduleIndex := if_neg hindex
    by_cases hc : s.gc.cycleStart + s.gc.currentSchedule.getCycleTime = due ∧
        s.gc.currentSchedule.getCycleTime ≠ 0
    · -- the cycle ends before the last entry
      rw [if_pos hc] at hprep
      rw [hprep]
      have hcycle := h.paced.cycle_pos
      have hpos : 0 < L := Nat.zero_lt_of_lt h.index
      refine ⟨due, h.next, h.length, h.length_new, h.paced, hpos, h.due_onTick, h.due_onTick, rfl,
        le_rfl, ?_, ?_, Or.inr ⟨rfl, Schedule.startOf_zero _⟩, ?_⟩
      · show due ≤ due + s.gc.currentSchedule.cycleTime
        linarith
      · show due ≤ due + s.gc.currentSchedule.startOf 0
        rw [Schedule.startOf_zero, add_zero]
      · exact h.spread.restart h.applied_le (h.start_lt (Or.inr hc))
    · rw [if_neg hc] at hprep
      rw [hprep]
      refine ⟨_, h.next, h.length, h.length_new, h.paced, h.index, h.due_onTick, h.start_onTick, rfl,
        h.start_le, h.within, ?_, ?_, ?_⟩
      · rw [← happlied]
        exact h.due_le
      · rw [← happlied]
        exact h.begun
      · rw [← happlied]
        exact h.spread

theorem Prepared.progresses (h : Prepared cfg L start now s (s.gc.prepared now))
    (hpending : s.pendingTick = some now)
    (hover : s.trace ≠ [] → s.gc.AtCycleStart now → s.gc.cycleStart_for_autoIntervalDecrease < now)
    {mac : Option PreemptMac} (hp : s.Paces cfg (.tick mac)) :
    s.Progresses cfg mac ∧ ∀ s', s.step cfg (.tick mac) = .ok s' → ∃ due, InPass cfg L due s' := by
  obtain ⟨hload, hentry⟩ := hp
  have hpaced := hentry now hpending
  obtain ⟨t, due, hstep, ht⟩ := h.tick rfl hpaced hpending (fun hl => (hload hl).nonNeg) mac
  refine ⟨⟨now, t, hpending, hstep, h.subscribes hpaced, hover⟩, ?_⟩
  intro s' hs'
  rw [hstep] at hs'
  cases hs'
  exact ⟨due, ht⟩

theorem InPass.progresses (h : InPass cfg L due s) {mac : Option PreemptMac}
    (hp : s.Paces cfg (.tick mac)) :
    s.Progresses cfg mac ∧ ∀ s', s.step cfg (.tick mac) = .ok s' → ∃ due, InPass cfg L due s' := by
  obtain ⟨start, hprep⟩ := h.prepared hp.1
  exact hprep.progresses h.pending (fun _ hc => h.start_lt hc) hp

theorem BeforeFirst.progresses (h : BeforeFirst cfg L due s) {mac : Option PreemptMac}
    (hp : s.Paces cfg (.tick mac)) :
    s.Progresses cfg mac ∧ ∀ s', s.step cfg (.tick mac) = .ok s' → ∃ due, InPass cfg L due s' := by
  have hprep := prepared_load h.loads h.length_new (hp.1 h.loads) h.due_onTick
    (spread_nil L due h.trace)
  exact hprep.progresses h.pending (fun hne _ => absurd h.trace hne) hp

/-! ## between the ticks -/

/-- a query -/
theorem InPass.moved (h : InPass cfg L due s) {c : SimTime} (hc : c = s.gc.cycleStart ∨
    ∃ j, c = s.gc.cycleStart +
      min s.gc.currentSchedule.cycleTime (s.gc.currentSchedule.startOf j)) :
    InPass cfg L due { s with gc := { s.gc with cycleStart := c } } := by
  have hle : s.gc.cycleStart ≤ c ∧ OnTick cfg c := by
    rcases hc with rfl | ⟨j, rfl⟩
    · exact ⟨le_rfl, h.start_onTick⟩
    · rw [min_comm]
      have hon := h.paced.boundaries j
      have := hon.nonneg h.paced.clock
      exact ⟨by linarith, h.start_onTick.add hon⟩
  refine ⟨h.next, h.length, h.length_new, h.paced, h.index, h.pending, h.due_onTick, hle.2,
    h.start_le.trans hle.1, ?_, h.due_le, h.begun, h.spread.of_trace rfl⟩
  show due ≤ c + s.gc.currentSchedule.cycleTime
  have := h.within
  linarith

/-- a change of `newSchedule` or of the flags -/
theorem InPass.rewritten (h : InPass cfg L due s) {N : Schedule GateBitvector}
    (hN : N.controlList.length = L) (increased selected : Bool) :
    InPass cfg L due { s with gc := { s.gc with
      newSchedule := N
      isIncreased := increased
      isSelected := selected } } :=
  ⟨h.next, h.length, hN, h.paced, h.index, h.pending, h.due_onTick, h.start_onTick, h.start_le,
    h.within, h.due_le, h.begun, h.spread.of_trace rfl⟩

theorem BeforeFirst.rewritten (h : BeforeFirst cfg L due s) {N : Schedule GateBitvector}
    (hN : N.controlList.length = L) (c : SimTime) (increased selected : Bool) :
    BeforeFirst cfg L due { s with gc := { s.gc with
      newSchedule := N
      cycleStart := c
      isIncreased := increased
      isSelected := selected } } :=
  ⟨h.loads, hN, h.pending, h.due_onTick, h.trace⟩

theorem length_setTimeInterval {N N' : Schedule GateBitvector} {i : Nat} {t : SimTime}
    (h : N.setTimeInterval i t = .ok N') : N'.controlList.length = N.controlList.length := by
  obtain ⟨hi, rfl⟩ := Schedule.setTimeInterval_ok h
  exact List.length_set

/-- what holds in every state of a run -/
def Pacing (cfg : GateConfig) (L : Nat) (s : GateSystem) : Prop :=
  ∃ due, BeforeFirst cfg L due s ∨ InPass cfg L due s

theorem pacing_step (s : GateSystem) (e : GateEvent) (s' : GateSystem) (h : Pacing cfg L s)
    (hp : s.Paces cfg e) (hs : s.step cfg e = .ok s') : Pacing cfg L s' := by
  obtain ⟨due, h⟩ := h
  cases e with
  | tick mac =>
    rcases h with h | h
    · obtain ⟨due', h'⟩ := (h.progresses hp).2 s' hs
      exact ⟨due', Or.inr h'⟩
    · obtain ⟨due', h'⟩ := (h.progresses hp).2 s' hs
      exact ⟨due', Or.inr h'⟩
  | calculateMaxBit fuel now g =>
    obtain ⟨⟨b, gc'⟩, hquery, hs⟩ := bind_ok.mp hs
    cases hs
    obtain ⟨c, rfl, hc⟩ := GateController.calculateMaxBit_cycleStart hquery
    rcases h with h | h
    · exact ⟨due, Or.inl (h.rewritten h.length_new c s.gc.isIncreased s.gc.isSelected)⟩
    · exact ⟨due, Or.inr (h.moved hc)⟩
  | setTimeInterval i t =>
    obtain ⟨N, hset, hs⟩ := bind_ok.mp hs
    cases hs
    have hN := length_setTimeInterval hset
    rcases h with h | h
    · exact ⟨due, Or.inl (h.rewritten (hN.trans h.length_new) s.gc.cycleStart s.gc.isIncreased
        s.gc.isSelected)⟩
    · exact ⟨due, Or.inr (h.rewritten (hN.trans h.length_new) s.gc.isIncreased s.gc.isSelected)⟩
  | setisIncreased b =>
    cases hs
    rcases h with h | h
    · exact ⟨due, Or.inl (h.rewritten h.length_new s.gc.cycleStart b s.gc.isSelected)⟩
    · exact ⟨due, Or.inr (h.rewritten h.length_new b s.gc.isSelected)⟩
  | setisSelected b =>
    cases hs
    rcases h with h | h
    · exact ⟨due, Or.inl (h.rewritten h.length_new s.gc.cycleStart s.gc.isIncreased b)⟩
    · exact ⟨due, Or.inr (h.rewritten h.length_new s.gc.isIncreased b)⟩

theorem pacing_start {xml : GateScheduleXml} (h : GateSystem.start cfg xml = .ok s) :
    Pacing cfg xml.entries.length s := by
  obtain ⟨-, -, -, rfl⟩ := start_iff.mp h
  exact ⟨_, Or.inl ⟨⟨rfl, nofun⟩, rfl, rfl, ⟨_, rfl⟩, rfl⟩⟩

theorem Pacing.progresses (h : Pacing cfg L s) {mac : Option PreemptMac}
    (hp : s.Paces cfg (.tick mac)) : s.Progresses cfg mac := by
  obtain ⟨due, h | h⟩ := h
  · exact (h.progresses hp).1
  · exact (h.progresses hp).1

theorem Pacing.updatesAt_le (h : Pacing cfg L s) (t : SimTime) : s.updatesAt t ≤ 2 * L := by
  obtain ⟨due, h | h⟩ := h
  · exact (spread_nil L due h.trace).always t
  · exact h.spread.always t

/-- **Faithful ticks and progress.**  In every run whose ticks load paced schedules and apply paced
entries, the next such tick succeeds, subscribes for exactly what it computes, and comes later than
the start of the pass that it ends; no instant has more than two ticks for each entry. -/
theorem faithful_ticks {xml : GateScheduleXml} {s0 : GateSystem} {es : List GateEvent}
    (hstart : GateSystem.start cfg xml = .ok s0) (hrun : Lib.run (step cfg) s0 es = .ok s)
    (hpaces : Lib.Meets (step cfg) (Paces cfg) s0 es) :
    (∀ mac, s.Paces cfg (.tick mac) → s.Progresses cfg mac) ∧
      ∀ t, s.updatesAt t ≤ 2 * xml.entries.length := by
  have h : Pacing cfg xml.entries.length s :=
    Lib.run_invariant_of pacing_step (pacing_start hstart) hpaces hrun
  exact ⟨fun mac hp => h.progresses hp, h.updatesAt_le⟩

/-- lists whose entries are all whole and short are paced -/
theorem paces_of_wholeTicks (hnew : s.gc.newSchedule.WholeTicks cfg)
    (htotal : 0 < s.gc.newSchedule.total)
    (hshort : ∀ e ∈ s.gc.newSchedule.controlList, e.timeInterval < 2 ^ 32 * cfg.clockRate)
    (hcur : ¬ s.gc.Loads → ∀ e ∈ s.gc.currentSchedule.controlList,
      OnTick cfg e.timeInterval ∧ e.timeInterval < 2 ^ 32 * cfg.clockRate)
    (mac : Option PreemptMac) : s.Paces cfg (.tick mac) := by
  refine ⟨fun _ => ⟨hnew.clock, hnew.nonNeg, hnew.cycle_pos, htotal,
    fun j => (hnew.startOf_onTick j).min hnew.cycle⟩, fun now _ e he => ?_⟩
  have hmem := List.mem_of_getElem? he
  rw [GateController.prepared_currentSchedule] at hmem
  by_cases hl : s.gc.Loads
  · rw [if_pos hl] at hmem
    exact ⟨fun _ => hnew.lengths e hmem, Or.inl (hshort e hmem)⟩
  · rw [if_neg hl] at hmem
    obtain ⟨hon, hlt⟩ := hcur hl e hmem
    exact ⟨fun _ => hon, Or.inl hlt⟩

end

theorem overlong_wholeTicks : overlong.schedule.WholeTicks .plain := by
  refine ⟨by norm_num [GateConfig.plain], by decide, ?_, ⟨100, ?_⟩, ?_⟩
  · intro e he
    refine ⟨60, ?_⟩
    rcases List.mem_cons.mp he with rfl | he
    · norm_num [GateConfig.plain]
    · rw [List.mem_singleton.mp he]
      norm_num [GateConfig.plain]
  · norm_num [overlong, GateScheduleXml.schedule, GateConfig.plain]
  · norm_num [overlong, GateScheduleXml.schedule]

theorem overlong_short : ∀ e ∈ overlong.schedule.controlList,
    e.timeInterval < 2 ^ 32 * GateConfig.plain.clockRate := by
  decide +kernel

/-- after two ticks and a query that moves the start of the cycle -/
theorem faithful_ticks_overlong : ∃ s0 s, start .plain overlong = .ok s0 ∧
    Lib.run (step .plain) s0 [.tick none, .calculateMaxBit 40 (1 / 100000) 0, .tick none] = .ok s ∧
    s.Progresses .plain none ∧ ∀ t, s.updatesAt t ≤ 2 * overlong.entries.length := by
  obtain ⟨s0, hstart, hfirst⟩ := bind_ok.mp overlongRunning_reached
  obtain ⟨-, -, -, hs0⟩ := start_iff.mp hstart
  have htotal : 0 < overlong.schedule.total := by decide +kernel
  -- the query and the second tick
  let moved : GateSystem :=
    { overlongRunning with gc := { overlongRunning.gc with cycleStart := 1 / 10000 } }
  have hquery : step .plain overlongRunning (.calculateMaxBit 40 (1 / 100000) 0) = .ok moved := by
    decide +kernel
  obtain ⟨s, hsecond⟩ : ∃ s, step .plain moved (.tick none) = .ok s ∧
      s.gc.newSchedule = overlong.schedule ∧ s.gc.Loads := exists_of_any (by decide +kernel)
  obtain ⟨hsecond, hnew, hl⟩ := hsecond
  have hcur : ∀ e ∈ moved.gc.currentSchedule.controlList,
      OnTick .plain e.timeInterval ∧ e.timeInterval < 2 ^ 32 * GateConfig.plain.clockRate :=
    fun e he => ⟨overlong_wholeTicks.lengths e he, overlong_short e he⟩
  have hrest : Lib.run (step .plain) overlongRunning
      [.calculateMaxBit 40 (1 / 100000) 0, .tick none] = .ok s :=
    Lib.run_cons_ok.mpr ⟨moved, hquery, Lib.run_cons_ok.mpr ⟨s, hsecond, rfl⟩⟩
  have hfirst' := hfirst
  obtain ⟨t, ht, hnil⟩ := Lib.run_cons_ok.mp hfirst'
  cases hnil
  have hrun := Lib.run_cons_ok.mpr ⟨overlongRunning, ht, hrest⟩
  have hloads : GateController.Loads (GateController.initial overlong 0) := ⟨rfl, nofun⟩
  have hmeets : Lib.Meets (step .plain) (Paces .plain) s0
      [.tick none, .calculateMaxBit 40 (1 / 100000) 0, .tick none] := by
    refine ⟨?_, fun u hu => ?_⟩
    · rw [hs0]
      exact paces_of_wholeTicks overlong_wholeTicks htotal overlong_short
        (fun h => absurd hloads h) none
    rw [ht] at hu
    cases hu
    refine ⟨trivial, fun u hu => ?_⟩
    rw [hquery] at hu
    cases hu
    exact ⟨paces_of_wholeTicks overlong_wholeTicks htotal overlong_short (fun _ => hcur) none,
      fun _ _ => trivial⟩
  have hpaces : s.Paces .plain (.tick none) := by
    refine paces_of_wholeTicks ?_ ?_ ?_ (fun h => absurd hl h) none
    · rw [hnew]
      exact overlong_wholeTicks
    · rw [hnew]
      exact htotal
    · rw [hnew]
      exact overlong_short
  obtain ⟨hprogress, hcount⟩ := faithful_ticks hstart hrun hmeets
  exact ⟨_, s, hstart, hrun, hprogress none hpaces, hcount⟩

/-- one entry of a millisecond, and no cycle time -/
def endless : GateScheduleXml := ⟨none, none, [⟨1 / 1000, .allOpen⟩]⟩

/-- the controller after a tick -/
def endlessRunning : GateController where
  currentSchedule := endless.schedule
  nextSchedule := .newSchedule
  newSchedule := endless.schedule
  scheduleIndex := 0
  cycleStart := 0
  cycleStart_for_autoIntervalDecrease := 0
  lastChange := 0
  isIncreased := false
  isSelected := false

theorem endless_step (trace : List (SimTime × GateBitvector)) :
    step .plain ⟨endlessRunning, some 0, trace⟩ (.tick none)
      = .ok ⟨endlessRunning, some 0, trace ++ [(0, .allOpen)]⟩ := by
  have hu : GateController.updateSchedule .plain none 0 endlessRunning = .ok (endlessRunning,
      ⟨false, .allOpen, false, some 0, none⟩) := by decide +kernel
  refine step_tick_iff.mpr ⟨0, _, rfl, hu, ?_, ?_, rfl⟩
  · intro q hq
    cases hq
    exact ⟨by norm_num, by norm_num⟩
  · rw [Option.map_some, Nat.floor_zero, Nat.cast_zero, zero_mul, add_zero]

/-- an entry of one and a half microseconds -/
def halfTick : GateScheduleXml := ⟨some (1 / 1000), none, [⟨3 / 2000000, .allOpen⟩]⟩

/-- **Ticks that do not advance.**  Without a cycle time every tick comes at 0 and starts a pass
there; an entry of one and a half clock periods is subscribed for with one. -/
theorem ticks_stand_still :
    (∀ n, ∃ s0 s, start .plain endless = .ok s0 ∧
        Lib.run (step .plain) s0 (List.replicate (n + 1) (.tick none)) = .ok s ∧
        s.pendingTick = some 0 ∧ s.updatesAt 0 = n + 1 ∧
        s.gc.AtCycleStart 0 ∧ s.gc.cycleStart_for_autoIntervalDecrease = 0) ∧
      ∃ s0, start .plain halfTick = .ok s0 ∧ s0.pendingTick = some 0 ∧
        ¬ (s0.gc.prepared 0).SubscribesFaithfully .plain 0 := by
  refine ⟨fun n => ?_, ?_⟩
  · have hfirst : (start .plain endless).bind (fun s => s.step .plain (.tick none))
        = .ok ⟨endlessRunning, some 0, [(0, .allOpen)]⟩ := by decide +kernel
    obtain ⟨s0, hstart, hstep⟩ := bind_ok.mp hfirst
    have hrun : ∀ n trace, Lib.run (step .plain) ⟨endlessRunning, some 0, trace⟩
        (List.replicate n (.tick none))
          = .ok ⟨endlessRunning, some 0, trace ++ List.replicate n (0, .allOpen)⟩ := by
      intro n
      induction n with
      | zero => simp
      | succ n ih =>
        intro trace
        rw [List.replicate_succ]
        refine Lib.run_cons_ok.mpr ⟨_, endless_step trace, ?_⟩
        rw [ih, List.append_assoc]
        rfl
    refine ⟨s0, _, hstart, Lib.run_cons_ok.mpr ⟨_, hstep, hrun n _⟩, rfl, ?_, Or.inl rfl, rfl⟩
    show List.countP _ ((0, GateBitvector.allOpen) :: List.replicate n (0, GateBitvector.allOpen)) = _
    rw [← List.replicate_succ, List.countP_replicate]
    simp
  · obtain ⟨s0, hstart, hpending, hfraction⟩ : ∃ s0, start .plain halfTick = .ok s0 ∧
        s0.pendingTick = some 0 ∧
        (s0.gc.prepared 0).scheduleNextTickEvent 0 = .ok (3 / 2000000) :=
      exists_of_any (by decide +kernel)
    refine ⟨s0, hstart, hpending, ?_⟩
    rintro ⟨interval, rest, idleTicks, -, hrest, -, -, -, hsame⟩
    rw [hfraction] at hrest
    cases hrest
    -- a number of microseconds is not one and a half
    have htwice : (2 * idleTicks : ℚ) = 3 := by
      have : (idleTicks : ℚ) * (1 / 1000000) = 3 / 2000000 := hsame
      linarith
    have : 2 * idleTicks = 3 := by exact_mod_cast htwice
    omega

end GateSystem
end Nesting
