import Nesting.Adaptation.Order
import Nesting.Adaptation.Poison

/-!
# The ten percent reserve

Without automatic lowering a packet keeps the interval for the time-triggered traffic between a tenth
and nine tenths of the cycle, up to the truncation of the lower end.

* `InReserve`          the two bounds;
* `Adapted`            what a packet of priority 7 leaves in the controller;
* `Reserved`           the invariant: as long as nothing was raised, the pending interval is not above
                       the executing one;
* `updateSchedule_adapts`  what a tick does to the two schedules;
* `reserve`            whole runs.
-/

set_option linter.unusedVariables false

namespace Nesting

/-- a tenth of the cycle `c` is left at both ends -/
def InReserve (c t : SimTime) : Prop := truncUs (c * (1 / 10)) ≤ t ∧ t ≤ c * (9 / 10)

namespace InReserve
variable {c t : SimTime}

theorem cycle_nonneg (h : InReserve c t) : 0 ≤ c := by
  by_contra hneg
  have hc : ¬0 ≤ c * (1 / 10) := fun h0 => hneg (by linarith)
  have hlow := h.1.trans h.2
  rw [truncUs, if_neg hc] at hlow
  have := Int.le_ceil (c * (1 / 10) * 1000000)
  linarith

theorem nonneg (h : InReserve c t) : 0 ≤ t := by
  have hc := h.cycle_nonneg
  have h0 : 0 ≤ truncUs (c * (1 / 10)) := truncUs_nonneg (by linarith)
  exact h0.trans h.1

theorem le_cycle (h : InReserve c t) : t ≤ c := by
  have hc := h.cycle_nonneg
  have hhigh := h.2
  linarith

theorem trunc (h : InReserve c t) : InReserve c (truncUs t) := by
  refine ⟨?_, (truncUs_le h.nonneg).trans h.2⟩
  rw [← truncUs_idem]
  exact truncUs_mono h.1

/-- a tenth of the cycle itself -/
theorem tenth (hc : 0 ≤ c) : InReserve c (c * (1 / 10)) :=
  ⟨truncUs_le (by linarith), by linarith⟩

end InReserve

namespace AdaptationParams

section
variable (p : Adaptation) {c cur t : SimTime}

/-- a raise stays in the reserve -/
theorem inReserve_increased (h : InReserve c cur) (t : SimTime) :
    InReserve c (p.increased c cur t) := by
  refine ⟨h.1.trans (le_increased p h.2 t), ?_⟩
  obtain ⟨-, heq⟩ | ⟨hlt, ⟨hlim, heq⟩ | ⟨-, heq⟩⟩ := increased_cases p c cur t
  · exact heq.le
  · linarith
  · linarith

/-- so does lowering from below the executing interval -/
theorem inReserve_decreased (h : InReserve c cur) (ht : t ≤ cur) :
    InReserve c (p.decreased c cur t) := by
  have hc := h.cycle_nonneg
  have htenth := InReserve.tenth hc
  have hlow : c * (1 / 10) ≤ p.decreased c cur t := by
    obtain ⟨-, heq⟩ | ⟨hlt, ⟨hlim, heq⟩ | ⟨-, heq⟩⟩ := decreased_cases p c ht
    · exact heq.ge
    · linarith
    · linarith
  refine ⟨htenth.1.trans hlow, ?_⟩
  obtain hle | heq := decreased_le (c := c) p ht
  · exact hle.trans h.2
  · rw [heq]
    exact htenth.2

end

/-! ## a packet -/

/-- the controller after a packet of priority 7 -/
structure Adapted (p : AdaptationParams) (lastTT : SimTime) (gc : GateController) (a : Arrival)
    (gc' : GateController) : Prop where
  current : gc'.currentSchedule = gc.currentSchedule
  nextSchedule : gc'.nextSchedule = gc.nextSchedule
  cycle : gc'.newSchedule.cycleTime = gc.newSchedule.cycleTime
  length : gc'.newSchedule.controlList.length = gc.newSchedule.controlList.length
  first : gc'.newSchedule.intervalAt 0 = truncUs (p.target lastTT gc a)
  second : gc'.newSchedule.intervalAt 1 = gc.newSchedule.cycleTime - truncUs (p.target lastTT gc a)
  flag : gc'.isIncreased = if a.delay > p.upperLimitTime then true else gc.isIncreased

theorem receivePacket_adapted {p : AdaptationParams} {lastTT : SimTime} {gc gc' : GateController}
    {a : Arrival} (h7 : a.pcp = 7) (hcur : 0 < gc.currentSchedule.controlList.length)
    (h2 : gc.newSchedule.controlList.length = 2) (h : p.receivePacket lastTT gc a = .ok gc') :
    Adapted p lastTT gc a gc' := by
  rw [receivePacket_eq p lastTT h7 hcur h2.ge] at h
  cases h
  obtain ⟨h0, h1⟩ := Schedule.withFirstTwo_intervalAt (truncUs (p.target lastTT gc a))
    (gc.newSchedule.cycleTime - truncUs (p.target lastTT gc a)) h2.ge
  exact ⟨rfl, rfl, Schedule.withFirstTwo_cycleTime _ _ _, Schedule.withFirstTwo_length _ _ _, h0, h1,
    rfl⟩

/-- the branches that are left without automatic lowering -/
theorem target_cases {p : AdaptationParams} (hoff : p.autoIntervalDecrease = false)
    (lastTT : SimTime) (gc : GateController) (a : Arrival) :
    (a.delay > p.upperLimitTime ∧ p.target lastTT gc a = p.increased gc.newSchedule.cycleTime
      (gc.currentSchedule.intervalAt 0) (gc.newSchedule.intervalAt 0)) ∨
    (¬a.delay > p.upperLimitTime ∧ (a.delay ≤ p.lowerLimitTime ∧ gc.isIncreased = false) ∧
      p.target lastTT gc a = p.decreased gc.newSchedule.cycleTime
        (gc.currentSchedule.intervalAt 0) (gc.newSchedule.intervalAt 0)) ∨
    (¬a.delay > p.upperLimitTime ∧ ¬(a.delay ≤ p.lowerLimitTime ∧ gc.isIncreased = false) ∧
      p.target lastTT gc a = gc.newSchedule.intervalAt 0) := by
  unfold target targetTimeInterval
  rw [hoff]
  by_cases hup : a.delay > p.upperLimitTime
  · exact .inl ⟨hup, if_pos hup⟩
  · rw [if_neg hup, if_neg (fun h => absurd h.1 Bool.false_ne_true)]
    by_cases hlow : a.delay ≤ p.lowerLimitTime ∧ gc.isIncreased = false
    · exact .inr (.inl ⟨hup, hlow, if_pos hlow⟩)
    · exact .inr (.inr ⟨hup, hlow, if_neg hlow⟩)

/-- a controller with two entries whose pending interval is in the reserve -/
structure Pending (c : SimTime) (gc : GateController) : Prop where
  cycle : gc.newSchedule.cycleTime = c
  two : gc.newSchedule.controlList.length = 2
  pending : InReserve c (gc.newSchedule.intervalAt 0)

/-- the executing interval is in the reserve as well, and not below the pending one until that is
raised -/
structure Reserved (c : SimTime) (gc : GateController) : Prop extends Pending c gc where
  running : 0 < gc.currentSchedule.controlList.length
  executing : InReserve c (gc.currentSchedule.intervalAt 0)
  kept : gc.isIncreased = false →
    gc.newSchedule.intervalAt 0 ≤ gc.currentSchedule.intervalAt 0

section
variable {p : Adaptation} {c lastTT : SimTime} {gc gc' : GateController} {a : Arrival}

/-- **The target of a packet** is in the reserve. -/
theorem Reserved.target (h : Reserved c gc) (hoff : p.autoIntervalDecrease = false)
    (lastTT : SimTime) (a : Arrival) : InReserve c (p.target lastTT gc a) := by
  obtain ⟨-, heq⟩ | ⟨-, hlow, heq⟩ | ⟨-, -, heq⟩ := target_cases hoff lastTT gc a
  · rw [heq, h.cycle]
    exact inReserve_increased p h.executing _
  · rw [heq, h.cycle]
    exact inReserve_decreased p h.executing (h.kept hlow.2)
  · rw [heq]
    exact h.pending

theorem Reserved.harmless (h : Reserved c gc) (hoff : p.autoIntervalDecrease = false)
    (lastTT : SimTime) (a : Arrival) : p.HarmlessTo lastTT gc a := by
  have htarget := (h.target hoff lastTT a).trunc
  rw [← within_target_iff p _ a h.executing.nonneg h.pending.nonneg h.two.ge, h.cycle]
  exact ⟨htarget.nonneg, htarget.le_cycle⟩

/-- a packet keeps the invariant -/
theorem Reserved.receive (h : Reserved c gc) (hoff : p.autoIntervalDecrease = false)
    (hr : p.receivePacket lastTT gc a = .ok gc') : Reserved c gc' := by
  by_cases h7 : a.pcp = 7
  swap
  · rw [receivePacket_other h7] at hr
    cases hr
    exact h
  have had := receivePacket_adapted h7 h.running h.two hr
  have htarget := (h.target hoff lastTT a).trunc
  refine ⟨⟨had.cycle.trans h.cycle, had.length.trans h.two, ?_⟩, ?_, ?_, fun hflag => ?_⟩
  · rw [had.first]
    exact htarget
  · rw [had.current]
    exact h.running
  · rw [had.current]
    exact h.executing
  · rw [had.first, had.current]
    rw [had.flag] at hflag
    obtain ⟨hup, -⟩ | ⟨hup, hlow, heq⟩ | ⟨hup, -, heq⟩ := target_cases hoff lastTT gc a
    · rw [if_pos hup] at hflag
      cases hflag
    · -- the clamp at a tenth of the cycle is not above the executing interval either
      rw [heq, h.cycle]
      obtain hle | hclamp := decreased_le (c := c) p (h.kept hlow.2)
      · have h0 := (inReserve_decreased p h.executing (h.kept hlow.2)).nonneg
        exact (truncUs_le h0).trans hle
      · rw [hclamp]
        exact h.executing.1
    · rw [if_neg hup] at hflag
      rw [heq]
      exact (truncUs_le h.pending.nonneg).trans (h.kept hflag)

end

end AdaptationParams

/-! ## a tick -/

namespace GateController
variable {cfg : GateConfig} {mac : Option PreemptMac} {now : SimTime} {gc gc' : GateController}
  {ap : Applied}

/-- a tick keeps what is pending, and loads it or keeps what is executed -/
theorem updateSchedule_adapts (h : updateSchedule cfg mac now gc = .ok (gc', ap)) :
    gc'.newSchedule = gc.newSchedule ∧
      gc'.currentSchedule = (if gc.Loads then gc.loadNew else gc).currentSchedule ∧
      gc'.nextSchedule = (if gc.Loads then gc.loadNew else gc).nextSchedule ∧
      gc'.isIncreased = (if gc.Loads then gc.loadNew else gc).isIncreased := by
  obtain ⟨-, ⟨hl, -, rfl⟩ | ⟨e, -, rfl, -⟩⟩ := updateSchedule_ok h
  · rw [if_pos hl]
    exact ⟨rfl, rfl, rfl, rfl⟩
  · exact ⟨gc.prepared_newSchedule now, gc.prepared_currentSchedule now,
      gc.prepared_nextSchedule now, (gc.prepared_flags now).1⟩

end GateController

namespace AdaptationParams
variable {c now : SimTime} {cfg : GateConfig} {mac : Option PreemptMac} {gc gc' : GateController}
  {ap : Applied}

theorem Pending.update (h : Pending c gc) (hu : gc.updateSchedule cfg mac now = .ok (gc', ap)) :
    Pending c gc' := by
  obtain ⟨hnew, -⟩ := GateController.updateSchedule_adapts hu
  refine ⟨?_, ?_, ?_⟩
  · rw [hnew]
    exact h.cycle
  · rw [hnew]
    exact h.two
  · rw [hnew]
    exact h.pending

/-- a load makes the pending interval the executing one -/
theorem Pending.load (h : Pending c gc) (hl : gc.Loads)
    (hu : gc.updateSchedule cfg mac now = .ok (gc', ap)) : Reserved c gc' := by
  obtain ⟨hnew, hcur, -, -⟩ := GateController.updateSchedule_adapts hu
  rw [if_pos hl] at hcur
  have hexec : gc'.currentSchedule.intervalAt 0 = gc.newSchedule.intervalAt 0 := by
    rw [hcur]
    rfl
  refine ⟨h.update hu, ?_, ?_, fun _ => ?_⟩
  · rw [hcur]
    exact h.two.symm ▸ Nat.zero_lt_two
  · rw [hexec]
    exact h.pending
  · rw [hnew, hexec]

/-- a tick keeps the invariant -/
theorem Reserved.update (h : Reserved c gc)
    (hu : gc.updateSchedule cfg mac now = .ok (gc', ap)) : Reserved c gc' := by
  by_cases hl : gc.Loads
  · exact h.toPending.load hl hu
  obtain ⟨hnew, hcur, -, hflag⟩ := GateController.updateSchedule_adapts hu
  rw [if_neg hl] at hcur hflag
  refine ⟨h.toPending.update hu, ?_, ?_, fun hf => ?_⟩
  · rw [hcur]
    exact h.running
  · rw [hcur]
    exact h.executing
  · rw [hnew, hcur]
    exact h.kept (hflag.symm.trans hf)

end AdaptationParams

/-! ## runs -/

namespace AdaptEvent

/-- a received packet comes to a generator without automatic lowering -/
def AutoOff : AdaptEvent → Prop
  | .received p _ => p.autoIntervalDecrease = false
  | _ => True

/-- a packet that rewrites the pending intervals -/
def Adapts : AdaptEvent → Prop
  | .received _ a => a.pcp = 7
  | _ => False

end AdaptEvent

namespace AdaptSystem

open AdaptationParams

/-- the interval for the time-triggered traffic that the next load executes -/
def pendingTT (s : AdaptSystem) : SimTime := s.gates.gc.newSchedule.intervalAt 0

def executingTT (s : AdaptSystem) : SimTime := s.gates.gc.currentSchedule.intervalAt 0

/-- the two pending intervals fill the cycle -/
def Filled (c : SimTime) (s : AdaptSystem) : Prop :=
  s.gates.gc.newSchedule.intervalAt 0 + s.gates.gc.newSchedule.intervalAt 1 = c

variable {cfg : GateConfig} {xml : GateScheduleXml} {c : SimTime} {s s' t : AdaptSystem}

/-- a tick of the system is one of its controller -/
theorem step_tick {mac : Option PreemptMac} (h : s.step cfg (.tick mac) = .ok s') :
    ∃ now ap, s.gates.gc.updateSchedule cfg mac now = .ok (s'.gates.gc, ap) := by
  obtain ⟨gates, h1, h2⟩ := bind_ok.mp h
  cases h2
  obtain ⟨now, ap, -, hu, -⟩ := GateSystem.step_tick_ok h1
  exact ⟨now, ap, hu⟩

/-- every event keeps the invariant -/
theorem reserved_step (h : Reserved c s.gates.gc) {e : AdaptEvent} (he : e.AutoOff)
    (hs : s.step cfg e = .ok s') : Reserved c s'.gates.gc := by
  cases e with
  | tick mac =>
    obtain ⟨now, ap, hu⟩ := step_tick hs
    exact h.update hu
  | ttTransmitted simTime =>
    cases hs
    exact h
  | received p a =>
    obtain ⟨gc, h1, h2⟩ := bind_ok.mp hs
    cases h2
    exact h.receive he h1

/-- what is not a tick succeeds -/
theorem reserved_packet (cfg : GateConfig) (hsound : s.Sound) (h : Reserved c s.gates.gc)
    {e : AdaptEvent} (he : e.AutoOff) (hnot : ∀ mac, e ≠ .tick mac) :
    ∃ s', s.step cfg e = .ok s' := by
  cases e with
  | tick mac => exact absurd rfl (hnot mac)
  | ttTransmitted simTime => exact ⟨_, rfl⟩
  | received p a =>
    obtain ⟨s', hs', -⟩ : s.Unpoisoned cfg (.received p a) :=
      (unpoisoned_iff hsound _).mpr fun _ => h.harmless he _ a
    exact ⟨s', hs'⟩

theorem reserved_sound (hsound : s.Sound) (h : Reserved c s.gates.gc) {e : AdaptEvent}
    (he : e.AutoOff) (hs : s.step cfg e = .ok s') : s'.Sound := by
  refine sound_step hsound ?_ hs
  cases e with
  | tick mac => trivial
  | ttTransmitted simTime => trivial
  | received p a => exact fun _ => h.harmless he _ a

/-! ## ticks that can be subscribed for -/

/-- the tick is due within the running cycle, and a cycle's ticks fit an `unsigned` -/
structure InTime (cfg : GateConfig) (c : SimTime) (s : AdaptSystem) : Prop where
  clock : 0 < cfg.clockRate
  counted : c / cfg.clockRate < 2 ^ 32
  nonneg : 0 ≤ c
  pending : s.gates.gc.newSchedule.cycleTime = c
  due : s.gates.gc.scheduleIndex = 0 ∨ s.gates.gc.currentSchedule.cycleTime = c ∧
    ∀ t ∈ s.gates.pendingTick, s.gates.gc.cycleStart ≤ t ∧ t ≤ s.gates.gc.cycleStart + c

/-- the tick finds a cycle that has not ended before -/
theorem InTime.prepared (ht : InTime cfg c s) (hsound : s.Sound) {now : SimTime}
    (hp : s.gates.pendingTick = some now) :
    (s.gates.gc.prepared now).currentSchedule.cycleTime = c ∧
      (s.gates.gc.prepared now).cycleStart ≤ now ∧
      now ≤ (s.gates.gc.prepared now).cycleStart + c := by
  by_cases h0 : s.gates.gc.scheduleIndex = 0
  · rw [GateController.prepared_cycleStart (.inl h0),
      GateController.prepared_of_loads now ⟨h0, hsound.hasNext⟩]
    exact ⟨ht.pending, le_rfl, le_add_of_nonneg_right ht.nonneg⟩
  obtain ⟨hcycle, hdue⟩ := ht.due.resolve_left h0
  obtain ⟨h1, h2⟩ := hdue now hp
  rw [GateController.prepared_of_index_ne now h0]
  split
  · exact ⟨hcycle, le_rfl, le_add_of_nonneg_right ht.nonneg⟩
  · exact ⟨hcycle, h1, h2⟩

/-- the tick that an entry subscribes for is counted and comes within the cycle -/
theorem InTime.tick (ht : InTime cfg c s) (hsound : s.Sound) (mac : Option PreemptMac) :
    ∃ s', s.step cfg (.tick mac) = .ok s' ∧ InTime cfg c s' := by
  obtain ⟨now, e, ap, hp, hu, -, hpos, hidle, -⟩ := sound_update cfg hsound mac
  obtain ⟨hcycle, hstart, hend⟩ := ht.prepared hsound hp
  have hclock := ht.clock
  obtain ⟨gp, hgp⟩ : ∃ gp, s.gates.gc.prepared now = gp := ⟨_, rfl⟩
  rw [hgp] at hu hidle hcycle hstart hend
  obtain ⟨len, hlen⟩ : ∃ len, gp.tickLength now e.timeInterval = len := ⟨_, rfl⟩
  rw [hlen] at hidle
  have hle : 0 ≤ len ∧ len ≤ gp.cycleStart + c - now := by
    rw [← hlen, GateController.tickLength, show gp.currentSchedule.getCycleTime = c from hcycle]
    split
    · exact ⟨by linarith, le_rfl⟩
    · exact ⟨hpos, by linarith⟩
  have h0 : 0 ≤ len / cfg.clockRate := div_nonneg hle.1 hclock.le
  have hcounted : GateSystem.Counted (len / cfg.clockRate) := by
    refine ⟨by linarith, lt_of_le_of_lt ?_ ht.counted⟩
    exact div_le_div_of_nonneg_right (by linarith) hclock.le
  have hfloor : (⌊len / cfg.clockRate⌋₊ : ℚ) * cfg.clockRate ≤ len :=
    (le_div_iff₀ hclock).mp (Nat.floor_le h0)
  have hticks : (0 : ℚ) ≤ ⌊len / cfg.clockRate⌋₊ * cfg.clockRate := by positivity
  obtain ⟨g, hg⟩ : ∃ g : GateSystem, g = ⟨gp.advance now,
      some (now + ⌊len / cfg.clockRate⌋₊ * cfg.clockRate),
      s.gates.trace ++ [(now, ap.bitvector)]⟩ := ⟨_, rfl⟩
  have hstep : s.gates.step cfg (.tick mac) = .ok g := by
    refine GateSystem.step_tick_iff.mpr ⟨now, ap, hp, ?_, ?_, ?_, ?_⟩
    · rw [hg]
      exact hu
    · rw [hidle]
      intro q hq
      cases hq
      exact hcounted
    · rw [hg, hidle]
      rfl
    · rw [hg]
  refine ⟨_, bind_ok.mpr ⟨g, hstep, rfl⟩, hclock, ht.counted, ht.nonneg, ?_, .inr ⟨?_, ?_⟩⟩
  · show g.gc.newSchedule.cycleTime = c
    rw [hg]
    show gp.newSchedule.cycleTime = c
    rw [← hgp, GateController.prepared_newSchedule]
    exact ht.pending
  · show g.gc.currentSchedule.cycleTime = c
    rw [hg]
    exact hcycle
  · show ∀ t ∈ g.pendingTick, g.gc.cycleStart ≤ t ∧ t ≤ g.gc.cycleStart + c
    rw [hg]
    intro t hmem
    cases hmem
    show gp.cycleStart ≤ _ ∧ _ ≤ gp.cycleStart + c
    exact ⟨by linarith, by linarith⟩

/-- **No event fails** while the ticks of a cycle can be subscribed for. -/
theorem reserved_total (hsound : s.Sound) (h : Reserved c s.gates.gc) (ht : InTime cfg c s)
    {e : AdaptEvent} (he : e.AutoOff) :
    ∃ s', s.step cfg e = .ok s' ∧ s'.Sound ∧ InTime cfg c s' := by
  cases e with
  | tick mac =>
    obtain ⟨s', hs', ht'⟩ := ht.tick hsound mac
    exact ⟨s', hs', sound_tick hsound hs', ht'⟩
  | ttTransmitted simTime =>
    obtain ⟨s', hs'⟩ : ∃ s', s.step cfg (.ttTransmitted simTime) = .ok s' := ⟨_, rfl⟩
    refine ⟨s', hs', reserved_sound hsound h he hs', ?_⟩
    cases hs'
    exact ⟨ht.clock, ht.counted, ht.nonneg, ht.pending, ht.due⟩
  | received p a =>
    obtain ⟨s', hs'⟩ := reserved_packet cfg hsound h (e := .received p a) he nofun
    refine ⟨s', hs', reserved_sound hsound h he hs', ?_⟩
    obtain ⟨gc, h1, h2⟩ := bind_ok.mp hs'
    cases h2
    by_cases h7 : a.pcp = 7
    · rw [receivePacket_eq _ _ h7 h.running h.two.ge] at h1
      cases h1
      refine ⟨ht.clock, ht.counted, ht.nonneg, ?_, ht.due⟩
      show (Schedule.withFirstTwo _ _ _).cycleTime = c
      rw [Schedule.withFirstTwo_cycleTime]
      exact ht.pending
    · rw [receivePacket_other h7] at h1
      cases h1
      exact ht

/-- without a packet of priority 7 the pending intervals stay -/
theorem untouched_step {e : AdaptEvent} (he : ¬e.Adapts) (hs : s.step cfg e = .ok s') :
    s'.gates.gc.newSchedule = s.gates.gc.newSchedule := by
  cases e with
  | tick mac =>
    obtain ⟨now, ap, hu⟩ := step_tick hs
    exact (GateController.updateSchedule_adapts hu).1
  | ttTransmitted simTime =>
    cases hs
    rfl
  | received p a =>
    obtain ⟨gc, h1, h2⟩ := bind_ok.mp hs
    cases h2
    rw [receivePacket_other he] at h1
    cases h1
    rfl

theorem untouched_run {es : List AdaptEvent} (hnone : ∀ e ∈ es, ¬e.Adapts)
    (hr : Lib.run (step cfg) s es = .ok t) :
    t.gates.gc.newSchedule = s.gates.gc.newSchedule :=
  Lib.run_invariant_of (O := fun _ e => ¬e.Adapts)
    (I := fun t => t.gates.gc.newSchedule = s.gates.gc.newSchedule)
    (fun _ _ _ h he hs => (untouched_step he hs).trans h) rfl (Lib.meets_of_forall hnone _) hr

/-- a packet of priority 7 fills the cycle -/
theorem filled_step (h : Reserved c s.gates.gc) {e : AdaptEvent} (hs : s.step cfg e = .ok s')
    (hfilled : s.Filled c ∨ e.Adapts) : s'.Filled c := by
  by_cases he : e.Adapts
  swap
  · unfold Filled
    rw [untouched_step he hs]
    exact hfilled.resolve_right he
  cases e with
  | tick mac => exact absurd he id
  | ttTransmitted simTime => exact absurd he id
  | received p a =>
    obtain ⟨gc, h1, h2⟩ := bind_ok.mp hs
    cases h2
    have had := receivePacket_adapted he h.running h.two h1
    show gc.newSchedule.intervalAt 0 + gc.newSchedule.intervalAt 1 = c
    rw [had.first, had.second, h.cycle]
    ring

theorem filled_run {es : List AdaptEvent} (h : Reserved c s.gates.gc) (hoff : ∀ e ∈ es, e.AutoOff)
    (hr : Lib.run (step cfg) s es = .ok t) (hfilled : s.Filled c ∨ ∃ e ∈ es, e.Adapts) :
    t.Filled c := by
  induction es generalizing s with
  | nil =>
    cases hr
    exact hfilled.resolve_right fun ⟨e, he, _⟩ => absurd he List.not_mem_nil
  | cons e es ih =>
    obtain ⟨he, hes⟩ := List.forall_mem_cons.mp hoff
    obtain ⟨s', hs', hr⟩ := Lib.run_cons_ok.mp hr
    refine ih (reserved_step h he hs') hes hr ?_
    obtain hfilled | ⟨e', he', hadapts⟩ := hfilled
    · exact .inl (filled_step h hs' (.inl hfilled))
    obtain rfl | he' := List.mem_cons.mp he'
    · exact .inl (filled_step h hs' (.inr hadapts))
    · exact .inr ⟨e', he', hadapts⟩

/-- a start with two entries -/
theorem pending_start {e0 e1 : ControlListEntry GateBitvector} (hxml : xml.entries = [e0, e1])
    (h0 : InReserve xml.schedule.cycleTime e0.timeInterval) (hs : start cfg xml = .ok s) :
    s.gates.gc = GateController.initial xml 0 ∧ Pending xml.schedule.cycleTime s.gates.gc ∧
      s.pendingTT = e0.timeInterval ∧
      (s.Filled xml.schedule.cycleTime ↔
        e0.timeInterval + e1.timeInterval = xml.schedule.cycleTime) := by
  obtain ⟨g, h1, h2⟩ := bind_ok.mp hs
  obtain ⟨-, -, -, rfl⟩ := GateSystem.start_iff.mp h1
  cases h2
  have hlist : xml.schedule.controlList = [e0, e1] := hxml
  have hfirst : xml.schedule.intervalAt 0 = e0.timeInterval :=
    Schedule.intervalAt_of (by rw [hlist]; rfl)
  have hsecond : xml.schedule.intervalAt 1 = e1.timeInterval :=
    Schedule.intervalAt_of (by rw [hlist]; rfl)
  refine ⟨rfl, ⟨rfl, ?_, ?_⟩, hfirst, ?_⟩
  · show xml.schedule.controlList.length = 2
    rw [hlist]
    rfl
  · show InReserve _ (xml.schedule.intervalAt 0)
    rw [hfirst]
    exact h0
  · show xml.schedule.intervalAt 0 + xml.schedule.intervalAt 1 = _ ↔ _
    rw [hfirst, hsecond]

/-- the first tick loads the schedule -/
theorem reserved_first {e0 e1 : ControlListEntry GateBitvector} (hxml : xml.entries = [e0, e1])
    (h0 : InReserve xml.schedule.cycleTime e0.timeInterval) (hs : start cfg xml = .ok s)
    {mac : Option PreemptMac} (hs' : s.step cfg (.tick mac) = .ok s') :
    Reserved xml.schedule.cycleTime s'.gates.gc ∧
      s'.gates.gc.newSchedule = s.gates.gc.newSchedule ∧ s'.executingTT = s'.pendingTT := by
  obtain ⟨hgc, hp, -, -⟩ := pending_start hxml h0 hs
  obtain ⟨now, ap, hu⟩ := step_tick hs'
  have hl : s.gates.gc.Loads := by
    rw [hgc]
    exact ⟨rfl, nofun⟩
  obtain ⟨hnew, hcur, -, -⟩ := GateController.updateSchedule_adapts hu
  rw [if_pos hl] at hcur
  refine ⟨hp.load hl hu, hnew, ?_⟩
  unfold executingTT pendingTT
  rw [hcur, hnew]
  rfl

theorem inTime_start {e0 e1 : ControlListEntry GateBitvector} (hxml : xml.entries = [e0, e1])
    (h0 : InReserve xml.schedule.cycleTime e0.timeInterval) (hs : start cfg xml = .ok s)
    (hclock : 0 < cfg.clockRate) (hcounted : xml.schedule.cycleTime / cfg.clockRate < 2 ^ 32) :
    InTime cfg xml.schedule.cycleTime s := by
  obtain ⟨hgc, hp, -, -⟩ := pending_start hxml h0 hs
  refine ⟨hclock, hcounted, ?_, hp.cycle, .inl ?_⟩
  · have := h0.nonneg
    have := h0.2
    linarith
  · rw [hgc]
    rfl

/-- no run fails while the ticks of a cycle can be subscribed for -/
theorem reserved_run {e0 e1 : ControlListEntry GateBitvector} (hxml : xml.entries = [e0, e1])
    (h0 : InReserve xml.schedule.cycleTime e0.timeInterval) (hs : start cfg xml = .ok s)
    (hclock : 0 < cfg.clockRate) (hcounted : xml.schedule.cycleTime / cfg.clockRate < 2 ^ 32)
    (mac : Option PreemptMac) {es : List AdaptEvent} (hoff : ∀ e ∈ es, e.AutoOff) :
    ∃ t, Lib.run (step cfg) s (.tick mac :: es) = .ok t := by
  obtain ⟨s1, hs1, ht1⟩ := (inTime_start hxml h0 hs hclock hcounted).tick (sound_start hs) mac
  obtain ⟨hreserved, -, -⟩ := reserved_first hxml h0 hs hs1
  have hstep : ∀ (s : AdaptSystem) (e : AdaptEvent),
      s.Sound ∧ Reserved xml.schedule.cycleTime s.gates.gc ∧
        InTime cfg xml.schedule.cycleTime s → e.AutoOff →
      ∃ s', s.step cfg e = .ok s' ∧ s'.Sound ∧ Reserved xml.schedule.cycleTime s'.gates.gc ∧
        InTime cfg xml.schedule.cycleTime s' := by
    intro s e hI he
    obtain ⟨s', hs', hsound', ht'⟩ := reserved_total hI.1 hI.2.1 hI.2.2 he
    exact ⟨s', hs', hsound', reserved_step hI.2.1 he hs', ht'⟩
  obtain ⟨t, hr, -⟩ := Lib.run_total hstep
    ⟨sound_tick (sound_start hs) hs1, hreserved, ht1⟩ hoff
  exact ⟨t, Lib.run_cons_ok.mpr ⟨s1, hs1, hr⟩⟩

/-- **The ten percent reserve** holds from the first tick on; the two pending intervals fill the cycle
if they did at the start, or from the first packet of priority 7 on; before it they are those of the
file.  No event fails if the ticks of a cycle fit an `unsigned`. -/
theorem reserve (cfg : GateConfig) (xml : GateScheduleXml) (e0 e1 : ControlListEntry GateBitvector)
    (hxml : xml.entries = [e0, e1]) (h0 : InReserve xml.schedule.cycleTime e0.timeInterval)
    (hs : start cfg xml = .ok s) (mac : Option PreemptMac) (es : List AdaptEvent)
    (hoff : ∀ e ∈ es, e.AutoOff) :
    (0 < cfg.clockRate → xml.schedule.cycleTime / cfg.clockRate < 2 ^ 32 →
      ∃ t, Lib.run (step cfg) s (.tick mac :: es) = .ok t) ∧
    ∀ t, Lib.run (step cfg) s (.tick mac :: es) = .ok t →
      InReserve xml.schedule.cycleTime t.pendingTT ∧
      InReserve xml.schedule.cycleTime t.executingTT ∧
      (e0.timeInterval + e1.timeInterval = xml.schedule.cycleTime ∨ (∃ e ∈ es, e.Adapts) →
        t.Filled xml.schedule.cycleTime) ∧
      ((∀ e ∈ es, ¬e.Adapts) → t.gates.gc.newSchedule = xml.schedule) := by
  obtain ⟨hgc, -, -, hsum⟩ := pending_start hxml h0 hs
  constructor
  · exact fun hclock hcounted => reserved_run hxml h0 hs hclock hcounted mac hoff
  · intro t hr
    obtain ⟨s1, hs1, hr⟩ := Lib.run_cons_ok.mp hr
    obtain ⟨hreserved, hnew, -⟩ := reserved_first hxml h0 hs hs1
    have ht : Reserved xml.schedule.cycleTime t.gates.gc :=
      Lib.run_invariant_of (O := fun _ e => e.AutoOff)
        (I := fun s => Reserved xml.schedule.cycleTime s.gates.gc)
        (fun s e s' h he hs => reserved_step h he hs) hreserved (Lib.meets_of_forall hoff _) hr
    refine ⟨ht.pending, ht.executing, fun hfill => ?_, fun hnone => ?_⟩
    · refine filled_run hreserved hoff hr (hfill.imp_left fun hcycle => ?_)
      unfold Filled
      rw [hnew]
      exact hsum.mpr hcycle
    · rw [untouched_run hnone hr, hnew, hgc]
      rfl

/-- 400 us and 500 us of a cycle of 1 ms -/
def unfilled : GateScheduleXml := ⟨some (1 / 1000), none, [⟨4 / 10000, 128⟩, ⟨5 / 10000, 127⟩]⟩

/-- until a packet of priority 7 comes, the pending intervals are those of the file -/
theorem not_filled : ∃ s t, start .plain unfilled = .ok s ∧
    InReserve unfilled.schedule.cycleTime (4 / 10000) ∧
    Lib.run (step .plain) s [.tick none, .received usSteps ⟨6, 3 / 10000, [0]⟩] = .ok t ∧
    ¬t.Filled unfilled.schedule.cycleTime := by
  have hs : start .plain unfilled = .ok ⟨⟨.initial unfilled 0, some 0, []⟩, 0⟩ := by
    decide +kernel
  have hres : InReserve unfilled.schedule.cycleTime (4 / 10000) := by
    constructor <;> decide +kernel
  obtain ⟨t, ht, hsum⟩ : ∃ t, Lib.run (step .plain) ⟨⟨.initial unfilled 0, some 0, []⟩, 0⟩
      [.tick none, .received usSteps ⟨6, 3 / 10000, [0]⟩] = .ok t ∧
      t.gates.gc.newSchedule.intervalAt 0 + t.gates.gc.newSchedule.intervalAt 1 ≠ 1 / 1000 :=
    exists_of_any (by decide +kernel)
  exact ⟨_, t, hs, hres, ht, hsum⟩

/-- a packet above the upper limit raises 400 us to 410 us -/
theorem reserve_raise : ∃ s t, start .plain twoEntries = .ok s ∧
    Lib.run (step .plain) s [.tick none, .received usSteps ⟨7, 2 / 10000, [0]⟩] = .ok t ∧
    InReserve (1 / 1000) t.pendingTT ∧ t.Filled (1 / 1000) := by
  have hs : start .plain twoEntries = .ok ⟨⟨.initial twoEntries 0, some 0, []⟩, 0⟩ := by
    decide +kernel
  have hres : InReserve twoEntries.schedule.cycleTime (4 / 10000) := by
    constructor <;> decide +kernel
  obtain ⟨htotal, hall⟩ := reserve .plain twoEntries ⟨4 / 10000, 128⟩
    ⟨6 / 10000, 127⟩ rfl hres hs none [.received usSteps ⟨7, 2 / 10000, [0]⟩]
    (List.forall_mem_singleton.mpr rfl)
  obtain ⟨t, ht⟩ := htotal (by decide +kernel) (by decide +kernel)
  obtain ⟨hpending, -, hfilled, -⟩ := hall t ht
  exact ⟨_, t, hs, ht, hpending, hfilled (.inr ⟨_, List.mem_singleton_self _, rfl⟩)⟩

end AdaptSystem

end Nesting
