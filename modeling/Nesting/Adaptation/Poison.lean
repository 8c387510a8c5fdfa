import Nesting.Adaptation.TrafGenGCL
import Nesting.Gating.Swap

/-!
# Values that poison the schedule

`AdaptSystem` puts receivers beside the gate controller: packets rewrite `newSchedule`, transmissions
of time-triggered frames are recorded, and ticks load what was written.  A negative interval is
noticed one load later, by the copy.

* `Unpoisoned`     the update or the packet succeeds, and a packet uses indices of the list and
                   writes intervals between 0 and the cycle time;
* `HarmlessTo`     the condition on the packet, the parameters and the controller;
* `unpoisoned_iff` one step;
* `adaptation_harmless_iff`  whole runs.
-/

set_option linter.unusedVariables false

namespace Nesting

structure AdaptSystem where
  gates : GateSystem
  /-- `TransmissionSelection::MaxLastTTtransmissiontime` -/
  maxLastTTtransmissiontime : SimTime
  deriving DecidableEq

inductive AdaptEvent where
  /-- the gate controller's tick: `updateSchedule` -/
  | tick (mac : Option PreemptMac)
  /-- a frame leaves gate 7 -/
  | ttTransmitted (simTime : SimTime)
  /-- a generator with these parameters receives a packet -/
  | received (p : Adaptation) (a : Arrival)

namespace AdaptSystem

def start (cfg : GateConfig) (xml : GateScheduleXml) : Sim AdaptSystem := do
  let gates ← GateSystem.start cfg xml
  return { gates, maxLastTTtransmissiontime := 0 }

def step (cfg : GateConfig) (s : AdaptSystem) : AdaptEvent → Sim AdaptSystem
  | .tick mac => do
    let gates ← s.gates.step cfg (.tick mac)
    return { s with gates }
  | .ttTransmitted simTime => .ok { s with maxLastTTtransmissiontime := simTime }
  | .received p a => do
    let gc ← p.receivePacket s.maxLastTTtransmissiontime s.gates.gc a
    return { s with gates := { s.gates with gc } }

/-- entry `i` of `newSchedule` exists and its interval lies within the cycle -/
def InCycle (gc : GateController) (i : Nat) : Prop :=
  i < gc.newSchedule.controlList.length ∧ 0 ≤ gc.newSchedule.intervalAt i ∧
    gc.newSchedule.intervalAt i ≤ gc.newSchedule.cycleTime

/-- `updateSchedule` succeeds, and a packet succeeds and, if it adapts the schedule, leaves both
entries within the cycle -/
def Unpoisoned (cfg : GateConfig) (s : AdaptSystem) : AdaptEvent → Prop
  | .tick mac => ∃ now gc ap, s.gates.pendingTick = some now ∧
      s.gates.gc.updateSchedule cfg mac now = .ok (gc, ap)
  | .ttTransmitted _ => True
  | .received p a => ∃ s', s.step cfg (.received p a) = .ok s' ∧
      (a.pcp = 7 → InCycle s'.gates.gc 0 ∧ InCycle s'.gates.gc 1)

end AdaptSystem

namespace AdaptationParams

/-- the packet finds a second entry and a cycle that is not negative, and the branch it takes stays
within that cycle; raising always does -/
def HarmlessTo (p : AdaptationParams) (lastTT : SimTime) (gc : GateController) (a : Arrival) :
    Prop :=
  let c := gc.newSchedule.cycleTime
  let cur := gc.currentSchedule.intervalAt 0
  let t := gc.newSchedule.intervalAt 0
  2 ≤ gc.newSchedule.controlList.length ∧ 0 ≤ c ∧
    (a.delay ≤ p.upperLimitTime →
      if p.autoIntervalDecrease = true ∧ gc.isIncreased = false then
        -oneUs < autoDecreased lastTT gc.cycleStart_for_autoIntervalDecrease ∧
          truncUs (autoDecreased lastTT gc.cycleStart_for_autoIntervalDecrease) ≤ c
      else if a.delay ≤ p.lowerLimitTime ∧ gc.isIncreased = false then
        c * (1 / 10) < t - p.decreasesteplength →
          if t - p.decreasesteplength - cur ≥ p.maxDecreasesteplength ∨
              cur - (t - p.decreasesteplength) ≥ p.maxDecreasesteplength then
            -oneUs < cur - p.maxDecreasesteplength ∧ truncUs (cur - p.maxDecreasesteplength) ≤ c
          else truncUs (t - p.decreasesteplength) ≤ c
      else truncUs t ≤ c)

/-- the truncated target lies within the cycle -/
def Within (c t : SimTime) : Prop := 0 ≤ truncUs t ∧ truncUs t ≤ c

theorem within_of_nonneg {c t : SimTime} (h0 : 0 ≤ t) (h1 : t ≤ c) : Within c t :=
  ⟨truncUs_nonneg h0, (truncUs_le h0).trans h1⟩

theorem Within.cycle_nonneg {c t : SimTime} (h : Within c t) : 0 ≤ c := h.1.trans h.2

theorem within_iff {c t : SimTime} : Within c t ↔ 0 ≤ c ∧ -oneUs < t ∧ truncUs t ≤ c := by
  rw [← truncUs_nonneg_iff]
  exact ⟨fun h => ⟨h.cycle_nonneg, h.1, h.2⟩, fun h => ⟨h.2.1, h.2.2⟩⟩

theorem within_iff_of_nonneg {c t : SimTime} (h : 0 ≤ t) : Within c t ↔ 0 ≤ c ∧ truncUs t ≤ c :=
  ⟨fun hw => ⟨hw.cycle_nonneg, hw.2⟩, fun hw => ⟨truncUs_nonneg h, hw.2⟩⟩

section
variable (p : Adaptation) {c cur t : SimTime}

/-- a raise stays within the cycle -/
theorem within_increased (hcur : 0 ≤ cur) : Within c (p.increased c cur t) ↔ 0 ≤ c := by
  refine ⟨Within.cycle_nonneg, fun hc => ?_⟩
  obtain ⟨⟨hinc, -⟩, ⟨hmax, -⟩, -⟩ := p.valid
  have hbase := le_max_left cur t
  rcases increased_cases p c cur t with ⟨-, heq⟩ | ⟨hlt, ⟨hlim, heq⟩ | ⟨-, heq⟩⟩ <;> rw [heq]
  · exact within_of_nonneg (by linarith) (by linarith)
  · exact within_of_nonneg (by linarith) (by linarith)
  · exact within_of_nonneg (by linarith) (by linarith)

/-- lowering stays within the cycle when its clamp or its limiter does -/
theorem within_decreased : Within c (p.decreased c cur t) ↔
    0 ≤ c ∧ (c * (1 / 10) < t - p.decreasesteplength →
      if t - p.decreasesteplength - cur ≥ p.maxDecreasesteplength ∨
          cur - (t - p.decreasesteplength) ≥ p.maxDecreasesteplength then
        -oneUs < cur - p.maxDecreasesteplength ∧ truncUs (cur - p.maxDecreasesteplength) ≤ c
      else truncUs (t - p.decreasesteplength) ≤ c) := by
  unfold decreased
  show Within c (if t - p.decreasesteplength ≤ c * (1 / 10) then _ else
    if t - p.decreasesteplength - cur ≥ p.maxDecreasesteplength ∨
      cur - (t - p.decreasesteplength) ≥ p.maxDecreasesteplength then _ else _) ↔ _
  by_cases hclamp : t - p.decreasesteplength ≤ c * (1 / 10)
  · rw [if_pos hclamp]
    refine ⟨fun h => ⟨h.cycle_nonneg, fun hlt => absurd hclamp (not_le.mpr hlt)⟩, fun h => ?_⟩
    exact within_of_nonneg (by linarith [h.1]) (by linarith [h.1])
  rw [if_neg hclamp, imp_iff_right (not_le.mp hclamp)]
  split
  · exact within_iff
  · constructor
    · exact fun h => ⟨h.cycle_nonneg, h.2⟩
    · exact fun h => ⟨truncUs_nonneg (by linarith [h.1]), h.2⟩

end

/-- **The target of a packet** lies within the cycle exactly when the packet is harmless. -/
theorem within_target_iff (p : Adaptation) (lastTT : SimTime) {gc : GateController} (a : Arrival)
    (hcur : 0 ≤ gc.currentSchedule.intervalAt 0) (ht : 0 ≤ gc.newSchedule.intervalAt 0)
    (h2 : 2 ≤ gc.newSchedule.controlList.length) :
    Within gc.newSchedule.cycleTime (p.target lastTT gc a) ↔ p.HarmlessTo lastTT gc a := by
  rw [HarmlessTo, and_iff_right h2, target, targetTimeInterval]
  by_cases hup : a.delay > p.upperLimitTime
  · rw [if_pos hup, within_increased p hcur]
    exact ⟨fun h => ⟨h, fun hle => absurd hup (not_lt.mpr hle)⟩, fun h => h.1⟩
  rw [if_neg hup, imp_iff_right (not_lt.mp hup)]
  split
  · exact within_iff
  split
  · exact within_decreased p
  · exact within_iff_of_nonneg ht

end AdaptationParams

namespace AdaptSystem

/-- a packet that adapts the schedule is harmless -/
def Harmless (s : AdaptSystem) : AdaptEvent → Prop
  | .received p a => a.pcp = 7 → p.HarmlessTo s.maxLastTTtransmissiontime s.gates.gc a
  | _ => True

/-- what every load and every harmless packet keeps -/
structure Sound (s : AdaptSystem) : Prop where
  new : s.gates.gc.newSchedule.NonNeg
  new_pos : 0 < s.gates.gc.newSchedule.controlList.length
  current : s.gates.gc.currentSchedule.NonNeg
  index : s.gates.gc.scheduleIndex < s.gates.gc.currentSchedule.controlList.length
  hasNext : s.gates.gc.nextSchedule ≠ .null
  readable : s.gates.gc.HoldReadable
  pending : s.gates.pendingTick ≠ none

end AdaptSystem

theorem Schedule.NonNeg.intervalAt {α : Type} {s : Schedule α} (h : s.NonNeg) (i : Nat) :
    0 ≤ s.intervalAt i := by
  cases he : s.controlList[i]? with
  | none =>
    rw [Schedule.intervalAt, Schedule.intervals, List.getD_eq_getElem?_getD, List.getElem?_map, he]
    exact le_rfl
  | some e =>
    rw [Schedule.intervalAt_of he]
    exact h e (List.mem_of_getElem? he)

namespace AdaptSystem
variable {cfg : GateConfig} {xml : GateScheduleXml} {s s' : AdaptSystem}

theorem sound_start (h : start cfg xml = .ok s) : s.Sound := by
  obtain ⟨g, h1, h2⟩ := bind_ok.mp h
  obtain ⟨hn, hne, -, rfl⟩ := GateSystem.start_iff.mp h1
  cases h2
  have hlen : 0 < xml.entries.length := List.length_pos_iff.mpr hne
  refine ⟨hn, hlen, ?_, Nat.zero_lt_one, nofun, ?_, nofun⟩
  · intro e he
    rw [List.mem_singleton.mp he]
    exact zero_le_one
  · intro next hnext
    cases hnext
    exact hlen

/-- the update of a sound system succeeds and leaves it sound, whatever tick it subscribes for -/
theorem sound_update (cfg : GateConfig) (hs : s.Sound) (mac : Option PreemptMac) : ∃ now e ap,
    s.gates.pendingTick = some now ∧
      s.gates.gc.updateSchedule cfg mac now = .ok ((s.gates.gc.prepared now).advance now, ap) ∧
      e ∈ (s.gates.gc.prepared now).currentSchedule.controlList ∧ 0 ≤ e.timeInterval ∧
      ap.idleTicks =
        some ((s.gates.gc.prepared now).tickLength now e.timeInterval / cfg.clockRate) ∧
      ∀ p tr tt, p ≠ none → Sound ⟨⟨(s.gates.gc.prepared now).advance now, p, tr⟩, tt⟩ := by
  obtain ⟨now, hp⟩ := Option.ne_none_iff_exists'.mp hs.pending
  -- the prepared controller runs a list without negative intervals at an index of it
  have hprep : (s.gates.gc.prepared now).newSchedule = s.gates.gc.newSchedule ∧
      (s.gates.gc.prepared now).currentSchedule.NonNeg ∧
      (s.gates.gc.prepared now).scheduleIndex
        < (s.gates.gc.prepared now).currentSchedule.controlList.length ∧
      (s.gates.gc.prepared now).nextSchedule ≠ .null ∧
      (s.gates.gc.prepared now).HoldReadable := by
    by_cases h0 : s.gates.gc.scheduleIndex = 0
    · rw [GateController.prepared_of_loads now ⟨h0, hs.hasNext⟩]
      refine ⟨rfl, hs.new, ?_, nofun, ?_⟩
      · show s.gates.gc.scheduleIndex < _
        rw [h0]
        exact hs.new_pos
      · intro next hnext
        cases hnext
        exact hs.new_pos
    · rw [GateController.prepared_of_index_ne now h0]
      split
      · exact ⟨rfl, hs.current, (Nat.zero_le _).trans_lt hs.index, hs.hasNext, hs.readable⟩
      · exact ⟨rfl, hs.current, hs.index, hs.hasNext, hs.readable⟩
  obtain ⟨hnew, hcur, hidx, hnext, hread⟩ := hprep
  obtain ⟨ap, hu⟩ := GateController.updateSchedule_total cfg mac now (fun _ => hs.new) hidx hread
  obtain ⟨e, he, -, -, hidle⟩ := GateController.applyEntry_ok
    (GateController.updateSchedule_applies (GateController.length_pos_of_loads hidx) hu)
  have hmem := List.mem_of_getElem? he
  refine ⟨now, e, ap, hp, hu, hmem, hcur e hmem, hidle, fun p tr tt hne => ?_⟩
  refine ⟨?_, ?_, hcur, Nat.mod_lt _ (Nat.zero_lt_of_lt hidx), hnext, hread, hne⟩
  · show (s.gates.gc.prepared now).newSchedule.NonNeg
    rw [hnew]
    exact hs.new
  · show 0 < (s.gates.gc.prepared now).newSchedule.controlList.length
    rw [hnew]
    exact hs.new_pos

/-- a tick leaves a sound system sound -/
theorem sound_tick (hs : s.Sound) {mac : Option PreemptMac}
    (h : s.step cfg (.tick mac) = .ok s') : s'.Sound := by
  obtain ⟨gates, h1, h2⟩ := bind_ok.mp h
  cases h2
  obtain ⟨now, ap, hp, hu, hnext, -⟩ := GateSystem.step_tick_ok h1
  obtain ⟨now', e, ap', hp', hu', -, -, hidle, hsound⟩ := sound_update cfg hs mac
  cases hp.symm.trans hp'
  obtain ⟨hgc, rfl⟩ := Prod.mk.inj (Except.ok.inj (hu.symm.trans hu'))
  have hsome : gates.pendingTick ≠ none := by
    rw [hnext, hidle]
    exact nofun
  have := hsound gates.pendingTick gates.trace s.maxLastTTtransmissiontime hsome
  rw [← hgc] at this
  exact this

/-- what a packet that adapts the schedule leaves in its first two entries -/
theorem received_iff (hs : s.Sound) (p : Adaptation) {a : Arrival} (h7 : a.pcp = 7) :
    s.Unpoisoned cfg (.received p a) ↔
      p.HarmlessTo s.maxLastTTtransmissiontime s.gates.gc a := by
  by_cases h2 : 2 ≤ s.gates.gc.newSchedule.controlList.length
  swap
  · refine iff_of_false ?_ fun h => h2 h.1
    rintro ⟨s', hs', -⟩
    obtain ⟨gc, h1, -⟩ := bind_ok.mp hs'
    exact AdaptationParams.receivePacket_short h7 (not_le.mp h2) gc h1
  have hrec := AdaptationParams.receivePacket_eq p.toAdaptationParams
    s.maxLastTTtransmissiontime h7 (Nat.zero_lt_of_lt hs.index) h2
  rw [← AdaptationParams.within_target_iff p _ a (hs.current.intervalAt 0) (hs.new.intervalAt 0) h2]
  obtain ⟨h0, h1⟩ := Schedule.withFirstTwo_intervalAt
    (truncUs (p.target s.maxLastTTtransmissiontime s.gates.gc a))
    (s.gates.gc.newSchedule.cycleTime
      - truncUs (p.target s.maxLastTTtransmissiontime s.gates.gc a)) h2
  obtain ⟨gc', hgc⟩ : ∃ gc', gc' = { s.gates.gc with
      newSchedule := s.gates.gc.newSchedule.withFirstTwo
        (truncUs (p.target s.maxLastTTtransmissiontime s.gates.gc a))
        (s.gates.gc.newSchedule.cycleTime
          - truncUs (p.target s.maxLastTTtransmissiontime s.gates.gc a))
      isIncreased := if a.delay > p.upperLimitTime then true else s.gates.gc.isIncreased } :=
    ⟨_, rfl⟩
  have hstep : s.step cfg (.received p a) = .ok { s with gates := { s.gates with gc := gc' } } := by
    rw [step, hrec, ← hgc]
    rfl
  constructor
  · rintro ⟨s', hs', hin⟩
    rw [hstep] at hs'
    cases hs'
    obtain ⟨⟨-, h3, h4⟩, -⟩ := hin h7
    rw [hgc] at h3 h4
    rw [Schedule.withFirstTwo_cycleTime] at h4
    rw [h0] at h3 h4
    exact ⟨h3, h4⟩
  · intro hw
    refine ⟨_, hstep, fun _ => ?_⟩
    rw [hgc]
    refine ⟨⟨?_, ?_, ?_⟩, ?_, ?_, ?_⟩
    · show 0 < (Schedule.withFirstTwo _ _ _).controlList.length
      rw [Schedule.withFirstTwo_length]
      omega
    · show 0 ≤ Schedule.intervalAt _ 0
      rw [h0]
      exact hw.1
    · show Schedule.intervalAt _ 0 ≤ (Schedule.withFirstTwo _ _ _).cycleTime
      rw [h0, Schedule.withFirstTwo_cycleTime]
      exact hw.2
    · show 1 < (Schedule.withFirstTwo _ _ _).controlList.length
      rw [Schedule.withFirstTwo_length]
      omega
    · show 0 ≤ Schedule.intervalAt _ 1
      rw [h1]
      linarith [hw.2]
    · show Schedule.intervalAt _ 1 ≤ (Schedule.withFirstTwo _ _ _).cycleTime
      rw [h1, Schedule.withFirstTwo_cycleTime]
      linarith [hw.1]

/-- **One step** of a sound system. -/
theorem unpoisoned_iff (hs : s.Sound) (e : AdaptEvent) : s.Unpoisoned cfg e ↔ s.Harmless e := by
  cases e with
  | tick mac =>
    obtain ⟨now, -, ap, hp, hu, -⟩ := sound_update cfg hs mac
    exact iff_of_true ⟨now, _, ap, hp, hu⟩ trivial
  | ttTransmitted t => exact iff_of_true trivial trivial
  | received p a =>
    by_cases h7 : a.pcp = 7
    · rw [received_iff hs p h7, Harmless, imp_iff_right h7]
    · refine iff_of_true ⟨s, ?_, fun h => absurd h h7⟩ fun h => absurd h h7
      rw [step, AdaptationParams.receivePacket_other h7]
      rfl

/-- a harmless step leaves the system sound -/
theorem sound_step (hs : s.Sound) {e : AdaptEvent} (he : s.Harmless e)
    (h : s.step cfg e = .ok s') : s'.Sound := by
  cases e with
  | tick mac => exact sound_tick hs h
  | ttTransmitted t =>
    cases h
    exact ⟨hs.new, hs.new_pos, hs.current, hs.index, hs.hasNext, hs.readable, hs.pending⟩
  | received p a =>
    obtain ⟨gc, h1, h2⟩ := bind_ok.mp h
    cases h2
    by_cases h7 : a.pcp = 7
    · have hh := he h7
      have hw := (AdaptationParams.within_target_iff p _ a (hs.current.intervalAt 0)
        (hs.new.intervalAt 0) hh.1).mpr hh
      rw [AdaptationParams.receivePacket_eq _ _ h7 (Nat.zero_lt_of_lt hs.index) hh.1] at h1
      cases h1
      refine ⟨Schedule.withFirstTwo_nonNeg hs.new hw.1 (sub_nonneg.mpr hw.2), ?_, hs.current,
        hs.index, hs.hasNext, ?_, hs.pending⟩
      · show 0 < (Schedule.withFirstTwo _ _ _).controlList.length
        rw [Schedule.withFirstTwo_length]
        exact hs.new_pos
      · intro next hnext
        cases hn : s.gates.gc.nextSchedule with
        | null => exact absurd hn hs.hasNext
        | loaded ns =>
          rw [GateController.next, hn] at hnext
          apply hs.readable
          rw [GateController.next, hn]
          exact hnext
        | newSchedule =>
          rw [GateController.next, hn] at hnext
          cases hnext
          show 0 < (Schedule.withFirstTwo _ _ _).controlList.length
          rw [Schedule.withFirstTwo_length]
          exact hs.new_pos
    · rw [AdaptationParams.receivePacket_other h7] at h1
      cases h1
      exact hs

/-- **The adaptation does not poison the schedule** in a run exactly when each of its packets is
harmless to the controller that receives it. -/
theorem adaptation_harmless_iff (hs : start cfg xml = .ok s) (es : List AdaptEvent) :
    Lib.Meets (step cfg) (Unpoisoned cfg) s es ↔ Lib.Meets (step cfg) Harmless s es :=
  Lib.meets_iff_of (I := Sound) (fun _ e h => unpoisoned_iff h e)
    (fun _ _ _ h he hst => sound_step h he hst) (sound_start hs)

/-- automatic lowering, with limits of 2 ms and 50 us -/
def automatic : Adaptation where
  increasesteplength := 1 / 100000
  decreasesteplength := 1 / 100000
  maxIncreasesteplength := 2 / 100000
  maxDecreasesteplength := 2 / 100000
  upperLimitTime := 2 / 1000
  lowerLimitTime := 5 / 100000
  autoIntervalDecrease := true
  accepted := by decide +kernel

/-- one entry of 1 ms -/
def oneEntry : GateScheduleXml := ⟨some (1 / 1000), none, [⟨1 / 1000, 255⟩]⟩

/-- 400 us of 1 ms for the time-triggered traffic -/
def twoEntries : GateScheduleXml := ⟨some (1 / 1000), none, [⟨4 / 10000, 128⟩, ⟨6 / 10000, 127⟩]⟩

/-- **Poisoned schedules.**  With one entry a packet writes past the list.  With two, a frame is
transmitted at 100 us and its packet received at 1050 us, in the next cycle: the interval becomes
`(100 - 1000) * 1.1 = -990` us, and the load at 2 ms throws. -/
theorem adaptation_poisons :
    (start .plain oneEntry).bind (fun s => Lib.run (step .plain) s
        [.tick none, .received automatic ⟨7, 1 / 1000, [9 / 10000]⟩])
      = .error (.undefinedBehaviour "controlList[index]") ∧
    (start .plain twoEntries).bind (fun s => (Lib.run (step .plain) s
        [.tick none, .ttTransmitted (1 / 10000), .tick none, .tick none,
          .received automatic ⟨7, 105 / 100000, [9 / 100000]⟩]).map
            (fun t => t.gates.gc.newSchedule.intervals))
      = .ok [-990 / 1000000, 1990 / 1000000] ∧
    (start .plain twoEntries).bind (fun s => Lib.run (step .plain) s
        [.tick none, .ttTransmitted (1 / 10000), .tick none, .tick none,
          .received automatic ⟨7, 105 / 100000, [9 / 100000]⟩, .tick none, .tick none])
      = .error (.runtimeError "Control list entries only allow positive time intervals.") := by
  refine ⟨?_, ?_, ?_⟩
  · decide +kernel
  · decide +kernel
  · decide +kernel

/-- a packet above the upper limit, received in the first cycle, is harmless -/
theorem adaptation_harmless_raise : ∃ s, start .plain twoEntries = .ok s ∧
    Lib.Meets (step .plain) (Unpoisoned .plain) s
      [.received automatic ⟨7, 3 / 1000, [0]⟩, .tick none] := by
  have hs : start .plain twoEntries = .ok ⟨⟨.initial twoEntries 0, some 0, []⟩, 0⟩ := by
    decide +kernel
  refine ⟨_, hs, (adaptation_harmless_iff hs _).mpr ⟨fun _ => ?_, fun _ _ => ⟨trivial,
    fun _ _ => trivial⟩⟩⟩
  refine ⟨le_rfl, ?_, fun h => ?_⟩
  · show (0 : ℚ) ≤ 1 / 1000
    norm_num
  · exact absurd h (by decide +kernel)

end AdaptSystem
end Nesting
