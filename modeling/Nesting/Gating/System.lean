import Nesting.Lib.Run
import Nesting.Gating.Update

/-!
# The gate controller and its clock

`GateSystem` closes the loop between `updateSchedule` and the clock: a tick is delivered exactly at
the time it was subscribed for, `updateSchedule` runs then, and the ticks it subscribes for say when
the next one comes.  Between two ticks the look-ahead is queried, `newSchedule` is rewritten and the
flags are set, in any order.
-/

set_option linter.unusedVariables false

namespace Nesting

structure GateSystem where
  gc : GateController
  /-- the time of the subscribed tick -/
  pendingTick : Option SimTime
  /-- what `updateSchedule` has applied, and when -/
  trace : List (SimTime × GateBitvector)
  deriving DecidableEq

inductive GateEvent where
  /-- the subscribed tick is delivered -/
  | tick (mac : Option PreemptMac)
  /-- `calculateMaxBit(gateIndex)` at the local time `now` -/
  | calculateMaxBit (fuel : Nat) (now : SimTime) (gateIndex : Nat)
  /-- `getnewSchedule()->setTimeInterval(index, t)` -/
  | setTimeInterval (index : Nat) (t : SimTime)
  | setisIncreased (b : Bool)
  | setisSelected (b : Bool)
  deriving DecidableEq

/-- 100 Mbit/s, a clock of one microsecond, no hold and release -/
def GateConfig.plain : GateConfig := ⟨[], false, 100000000, by norm_num, 1 / 1000000⟩

/-- the same with 1 Gbit/s -/
def GateConfig.gigabit : GateConfig :=
  { GateConfig.plain with transmitRate := 1000000000, transmitRate_le := by norm_num }

namespace GateSystem

/-- `subscribeTick(this, idleTicks)` at `now`: the parameter is an `unsigned`, the clock delivers on
time -/
def subscribeTick (cfg : GateConfig) (now : SimTime) (idleTicks : ℚ) : Sim SimTime := do
  let n ← toUnsigned idleTicks
  return now + n * cfg.clockRate

/-- the tick that `updateSchedule` has subscribed for, if it has -/
def subscribeNext (cfg : GateConfig) (now : SimTime) : Option ℚ → Sim (Option SimTime)
  | none => .ok none
  | some idleTicks => some <$> subscribeTick cfg now idleTicks

/-- the system after the initialization at time 0 -/
def start (cfg : GateConfig) (xml : GateScheduleXml) : Sim GateSystem := do
  let (gc, idle) ← GateController.initializeLinkLayer cfg xml 0
  let tick ← subscribeTick cfg 0 idle
  return { gc, pendingTick := some tick, trace := [] }

def step (cfg : GateConfig) (s : GateSystem) : GateEvent → Sim GateSystem
  | .tick mac =>
    match s.pendingTick with
    | none => .error (.undefinedBehaviour "no tick is subscribed")
    | some now => do
      let (gc, ap) ← GateController.updateSchedule cfg mac now s.gc
      let pendingTick ← subscribeNext cfg now ap.idleTicks
      return { gc, pendingTick, trace := s.trace ++ [(now, ap.bitvector)] }
  | .calculateMaxBit fuel now gateIndex => do
    let (_, gc) ← GateController.calculateMaxBit cfg fuel now s.gc gateIndex
    return { s with gc }
  | .setTimeInterval index t => do
    let newSchedule ← s.gc.newSchedule.setTimeInterval index t
    return { s with gc := { s.gc with newSchedule } }
  | .setisIncreased b => .ok { s with gc := { s.gc with isIncreased := b } }
  | .setisSelected b => .ok { s with gc := { s.gc with isSelected := b } }

/-- a number of ticks that an `unsigned` holds -/
def Counted (idleTicks : ℚ) : Prop := -1 < idleTicks ∧ idleTicks < 2 ^ 32

theorem subscribeTick_ok {cfg : GateConfig} {now t : SimTime} {idleTicks : ℚ} :
    subscribeTick cfg now idleTicks = .ok t ↔
      Counted idleTicks ∧ t = now + ⌊idleTicks⌋₊ * cfg.clockRate := by
  constructor
  · intro h
    obtain ⟨n, hn, h⟩ := bind_ok.mp h
    obtain ⟨h1, h2, rfl⟩ := toUnsigned_ok.mp hn
    cases h
    exact ⟨⟨h1, h2⟩, rfl⟩
  · rintro ⟨⟨h1, h2⟩, rfl⟩
    exact bind_ok.mpr ⟨_, toUnsigned_ok.mpr ⟨h1, h2, rfl⟩, rfl⟩

theorem subscribeNext_ok {cfg : GateConfig} {now : SimTime} {idle : Option ℚ}
    {p : Option SimTime} : subscribeNext cfg now idle = .ok p ↔
      (∀ q ∈ idle, Counted q) ∧ p = idle.map fun q => now + ⌊q⌋₊ * cfg.clockRate := by
  cases idle with
  | none => exact ⟨fun h => ⟨nofun, (Except.ok.inj h).symm⟩, fun h => congrArg Except.ok h.2.symm⟩
  | some q =>
    constructor
    · intro h
      obtain ⟨t, ht, rfl⟩ := map_ok.mp h
      obtain ⟨hq, rfl⟩ := subscribeTick_ok.mp ht
      refine ⟨fun q' hq' => ?_, rfl⟩
      cases hq'
      exact hq
    · rintro ⟨hq, rfl⟩
      exact map_ok.mpr ⟨_, subscribeTick_ok.mpr ⟨hq q rfl, rfl⟩, rfl⟩

/-- a tick that succeeds -/
theorem step_tick_iff {cfg : GateConfig} {s s' : GateSystem} {mac : Option PreemptMac} :
    s.step cfg (.tick mac) = .ok s' ↔
      ∃ now ap, s.pendingTick = some now ∧
        s.gc.updateSchedule cfg mac now = .ok (s'.gc, ap) ∧
        (∀ q ∈ ap.idleTicks, Counted q) ∧
        s'.pendingTick = (ap.idleTicks.map fun q => now + ⌊q⌋₊ * cfg.clockRate) ∧
        s'.trace = s.trace ++ [(now, ap.bitvector)] := by
  constructor
  · intro h
    unfold step at h
    cases hp : s.pendingTick with
    | none =>
      rw [hp] at h
      cases h
    | some now =>
      rw [hp] at h
      obtain ⟨⟨gc, ap⟩, h1, h2⟩ := bind_ok.mp h
      obtain ⟨p, hsub, h3⟩ := bind_ok.mp h2
      obtain ⟨hq, rfl⟩ := subscribeNext_ok.mp hsub
      cases h3
      exact ⟨now, ap, rfl, h1, hq, rfl, rfl⟩
  · rintro ⟨now, ap, hp, hu, hq, hnext, htr⟩
    obtain ⟨gc', p', tr'⟩ := s'
    unfold step
    rw [hp]
    refine bind_ok.mpr ⟨(gc', ap), hu, bind_ok.mpr ⟨_, subscribeNext_ok.mpr ⟨hq, rfl⟩, ?_⟩⟩
    rw [show p' = _ from hnext, show tr' = _ from htr]
    rfl

theorem step_tick_ok {cfg : GateConfig} {s s' : GateSystem} {mac : Option PreemptMac}
    (h : s.step cfg (.tick mac) = .ok s') :
    ∃ now ap, s.pendingTick = some now ∧
      s.gc.updateSchedule cfg mac now = .ok (s'.gc, ap) ∧
      s'.pendingTick = (ap.idleTicks.map fun q => now + ⌊q⌋₊ * cfg.clockRate) ∧
      s'.trace = s.trace ++ [(now, ap.bitvector)] := by
  obtain ⟨now, ap, hp, hu, -, hnext, htr⟩ := step_tick_iff.mp h
  exact ⟨now, ap, hp, hu, hnext, htr⟩

/-- the states the system reaches -/
def Reachable (cfg : GateConfig) (s : GateSystem) : Prop :=
  ∃ xml s0 es, start cfg xml = .ok s0 ∧ Lib.run (step cfg) s0 es = .ok s

end GateSystem

/-! ## what the start leaves -/

/-- the schedule that a parsed element stands for -/
def GateScheduleXml.schedule (xml : GateScheduleXml) : Schedule GateBitvector where
  controlList := xml.entries
  baseTime := xml.baseTime.getD 0
  cycleTime := xml.cycleTime.getD 0
  cycleTimeExtension := 0
  sumTimeIntervals := (xml.entries.map (·.timeInterval)).sum

theorem createGateBitvectorSchedule_ok {xml : GateScheduleXml} {s : Schedule GateBitvector}
    (h : createGateBitvectorSchedule xml = .ok s) : s = xml.schedule ∧ s.NonNeg := by
  unfold createGateBitvectorSchedule at h
  by_cases hn : ∀ e ∈ xml.entries, 0 ≤ e.timeInterval
  · cases hc : xml.cycleTime <;> cases hb : xml.baseTime <;>
      rw [hc, hb] at h <;>
      simp only [Schedule.addControlListEntries_ok _ _ hn, Except.ok.injEq] at h <;>
      subst h <;>
      exact ⟨by simp [GateScheduleXml.schedule, hc, hb, Schedule.new, Schedule.setBaseTime,
        Schedule.setCycleTime], hn⟩
  · have := Schedule.addControlListEntries_error xml.entries
    cases hc : xml.cycleTime <;> cases hb : xml.baseTime <;>
      rw [hc, hb] at h <;>
      simp [Schedule.addControlListEntries_error _ _ hn] at h

/-- the controller a successful initialization leaves -/
def GateController.initial (xml : GateScheduleXml) (simTime : SimTime) : GateController :=
  { GateController.constructed simTime with
    nextSchedule := .loaded xml.schedule
    newSchedule := xml.schedule }

theorem initializeLinkLayer_ok {cfg : GateConfig} {xml : GateScheduleXml} {t : SimTime}
    {gc : GateController} {q : ℚ} (h : GateController.initializeLinkLayer cfg xml t = .ok (gc, q)) :
    xml.schedule.NonNeg ∧ xml.entries ≠ [] ∧ gc = GateController.initial xml t ∧
      q = xml.schedule.baseTime / cfg.clockRate := by
  unfold GateController.initializeLinkLayer GateController.loadScheduleOrDefault at h
  cases hc : createGateBitvectorSchedule xml with
  | error x =>
    rw [hc] at h
    cases h
  | ok s =>
    obtain ⟨rfl, hn⟩ := createGateBitvectorSchedule_ok hc
    rw [hc] at h
    simp only [bind, Except.bind, Schedule.copySchedule_eq hn] at h
    by_cases h0 : xml.entries = []
    · rw [if_pos (show xml.schedule.getControlListLength = 0 by
        show xml.entries.length = 0; rw [h0]; rfl)] at h
      cases h
    · rw [if_neg (show xml.schedule.getControlListLength ≠ 0 from
        fun he => h0 (List.length_eq_zero_iff.mp he))] at h
      cases h
      exact ⟨hn, h0, rfl, rfl⟩

theorem initializeLinkLayer_total (cfg : GateConfig) {xml : GateScheduleXml} (t : SimTime)
    (hn : ∀ e ∈ xml.entries, 0 ≤ e.timeInterval) (h0 : xml.entries ≠ []) :
    GateController.initializeLinkLayer cfg xml t
      = .ok (GateController.initial xml t, xml.schedule.baseTime / cfg.clockRate) := by
  have hc : createGateBitvectorSchedule xml = .ok xml.schedule := by
    unfold createGateBitvectorSchedule
    cases hc : xml.cycleTime <;> cases hb : xml.baseTime <;>
      simp [Schedule.addControlListEntries_ok _ _ hn, GateScheduleXml.schedule, hc, hb,
        Schedule.new, Schedule.setBaseTime, Schedule.setCycleTime]
  have hlen : xml.schedule.getControlListLength ≠ 0 :=
    fun he => h0 (List.length_eq_zero_iff.mp he)
  unfold GateController.initializeLinkLayer GateController.loadScheduleOrDefault
  simp only [hc, bind, Except.bind, Schedule.copySchedule_eq (show xml.schedule.NonNeg from hn)]
  rw [if_neg hlen]
  rfl

/-- a start that succeeds: the base time fits the ticks of a subscription -/
theorem GateSystem.start_iff {cfg : GateConfig} {xml : GateScheduleXml} {s : GateSystem} :
    start cfg xml = .ok s ↔ xml.schedule.NonNeg ∧ xml.entries ≠ [] ∧
      Counted (xml.schedule.baseTime / cfg.clockRate) ∧
      s = ⟨.initial xml 0,
        some (⌊xml.schedule.baseTime / cfg.clockRate⌋₊ * cfg.clockRate), []⟩ := by
  constructor
  · intro h
    obtain ⟨⟨gc, q⟩, h1, h2⟩ := bind_ok.mp h
    obtain ⟨hn, h0, rfl, rfl⟩ := initializeLinkLayer_ok h1
    obtain ⟨t, ht, h3⟩ := bind_ok.mp h2
    obtain ⟨hq, rfl⟩ := subscribeTick_ok.mp ht
    cases h3
    exact ⟨hn, h0, hq, by rw [zero_add]⟩
  · rintro ⟨hn, h0, hq, rfl⟩
    refine bind_ok.mpr ⟨_, initializeLinkLayer_total cfg 0 hn h0,
      bind_ok.mpr ⟨_, subscribeTick_ok.mpr ⟨hq, rfl⟩, ?_⟩⟩
    rw [zero_add]
    rfl

end Nesting
