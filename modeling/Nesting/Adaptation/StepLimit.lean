import Nesting.Adaptation.Reserve
import Nesting.Adaptation.TrafGenGCL2

/-!
# The step limit of a cycle

`maxIncreasesteplength` and `maxDecreasesteplength` are to bound the distance between an executing
interval and the one that is loaded next.  The clamps at nine tenths and at a tenth of the cycle are
tried first, and they do not ask how far away they are.

* `WithinSteps`        the limit;
* `Spares`             the packet does not reach a clamp beyond it;
* `limited_receive_iff`  one packet;
* `step_limit`         whole runs, with one switch and with two.
-/

set_option linter.unusedVariables false

namespace Nesting

namespace AdaptationParams

/-- `next` may follow `cur`, up to the truncation to microseconds -/
def WithinSteps (p : AdaptationParams) (cur next : SimTime) : Prop :=
  next - cur ≤ p.maxIncreasesteplength ∧ cur - next ≤ p.maxDecreasesteplength + oneUs

/-- what is pending may follow what is executed -/
def Limited (p : AdaptationParams) (gc : GateController) : Prop :=
  p.WithinSteps (gc.currentSchedule.intervalAt 0) (gc.newSchedule.intervalAt 0)

/-- a clamp that the packet reaches lies within the limit -/
def Spares (p : AdaptationParams) (gc : GateController) (a : Arrival) : Prop :=
  let c := gc.newSchedule.cycleTime
  let cur := gc.currentSchedule.intervalAt 0
  let t := gc.newSchedule.intervalAt 0
  a.pcp = 7 →
    (a.delay > p.upperLimitTime → c * (9 / 10) ≤ max cur t + p.increasesteplength →
      truncUs (c * (9 / 10)) ≤ cur + p.maxIncreasesteplength) ∧
    (a.delay ≤ p.lowerLimitTime → gc.isIncreased = false →
      t - p.decreasesteplength ≤ c * (1 / 10) →
        cur ≤ truncUs (c * (1 / 10)) + p.maxDecreasesteplength + oneUs)

/-- between two loads the pending interval is what was loaded, or a whole number of microseconds -/
structure Paced (c : SimTime) (gc : GateController) : Prop extends Reserved c gc where
  paced : WholeUs (gc.newSchedule.intervalAt 0) ∨
    gc.newSchedule.intervalAt 0 = gc.currentSchedule.intervalAt 0

section
variable {p : Adaptation} {c cur t lastTT : SimTime} {gc gc' : GateController} {a : Arrival}

/-- a raise obeys the limit unless it is clamped -/
theorem withinSteps_increased_iff (h : InReserve c cur) :
    p.WithinSteps cur (truncUs (p.increased c cur t)) ↔
      (c * (9 / 10) ≤ max cur t + p.increasesteplength →
        truncUs (c * (9 / 10)) ≤ cur + p.maxIncreasesteplength) := by
  obtain ⟨-, ⟨-, hmax⟩, -⟩ := p.valid
  have hcur := h.nonneg
  have hle := le_increased (c := c) p h.2 t
  have hdown : cur - truncUs (p.increased c cur t) ≤ p.maxDecreasesteplength + oneUs := by
    have := lt_truncUs_add (hcur.trans hle)
    linarith
  unfold WithinSteps
  rw [and_iff_left hdown]
  obtain ⟨hclamp, heq⟩ | ⟨hclamp, hlim⟩ := increased_cases p c cur t
  · rw [heq, imp_iff_right hclamp]
    exact sub_le_iff_le_add'
  · refine iff_of_true ?_ fun hc => absurd hc (not_le.mpr hclamp)
    -- the limiter, or a target below it
    have hup : p.increased c cur t ≤ cur + p.maxIncreasesteplength := by
      obtain ⟨-, heq⟩ | ⟨hlt, heq⟩ := hlim
      · exact heq.le
      · exact heq.trans_le hlt.le
    have := truncUs_le (hcur.trans hle)
    linarith

/-- lowering obeys the limit unless it is clamped -/
theorem withinSteps_decreased_iff (h : InReserve c cur) (ht : t ≤ cur) :
    p.WithinSteps cur (truncUs (p.decreased c cur t)) ↔
      (t - p.decreasesteplength ≤ c * (1 / 10) →
        cur ≤ truncUs (c * (1 / 10)) + p.maxDecreasesteplength + oneUs) := by
  obtain ⟨-, ⟨hmax, -⟩, -⟩ := p.valid
  have hc := h.cycle_nonneg
  have hnonneg := (inReserve_decreased p h ht).nonneg
  have hup : truncUs (p.decreased c cur t) - cur ≤ p.maxIncreasesteplength := by
    obtain hle | heq := decreased_le (c := c) p ht
    · have := truncUs_le hnonneg
      linarith
    · rw [heq]
      linarith [h.1]
  unfold WithinSteps
  rw [and_iff_right hup]
  obtain ⟨hclamp, heq⟩ | ⟨hclamp, hlim⟩ := decreased_cases p c ht
  · rw [heq, imp_iff_right hclamp, sub_le_iff_le_add', add_assoc]
  · refine iff_of_true ?_ fun hc => absurd hc (not_le.mpr hclamp)
    have hlow : cur - p.maxDecreasesteplength ≤ p.decreased c cur t := by
      obtain ⟨-, heq⟩ | ⟨hlt, heq⟩ := hlim
      · exact heq.ge
      · exact hlt.le.trans heq.ge
    have := lt_truncUs_add hnonneg
    linarith

theorem Paced.receive (h : Paced c gc) (hoff : p.autoIntervalDecrease = false)
    (hr : p.receivePacket lastTT gc a = .ok gc') : Paced c gc' := by
  refine ⟨h.toReserved.receive hoff hr, ?_⟩
  by_cases h7 : a.pcp = 7
  · rw [(receivePacket_adapted h7 h.running h.two hr).first]
    exact .inl (wholeUs_truncUs _)
  · rw [receivePacket_other h7] at hr
    cases hr
    exact h.paced

/-- **One packet** keeps the limit exactly when it spares the clamps. -/
theorem limited_receive_iff (h : Paced c gc) (hl : p.Limited gc)
    (hoff : p.autoIntervalDecrease = false) (hr : p.receivePacket lastTT gc a = .ok gc') :
    p.Limited gc' ↔ p.Spares gc a := by
  by_cases h7 : a.pcp = 7
  swap
  · rw [receivePacket_other h7] at hr
    cases hr
    exact iff_of_true hl fun h7' => absurd h7' h7
  have had := receivePacket_adapted h7 h.running h.two hr
  unfold Limited Spares
  rw [imp_iff_right h7, had.first, had.current]
  have hlimits := p.valid.2.2.2
  obtain ⟨hup, heq⟩ | ⟨hup, hlow, heq⟩ | ⟨hup, hlow, heq⟩ := target_cases hoff lastTT gc a
  · rw [heq, h.cycle, withinSteps_increased_iff h.executing, imp_iff_right hup]
    refine (and_iff_left fun hlow => ?_).symm
    exact absurd hup (not_lt.mpr (hlow.trans hlimits))
  · rw [heq, h.cycle, withinSteps_decreased_iff h.executing (h.kept hlow.2), imp_iff_right hlow.1,
      imp_iff_right hlow.2]
    exact (and_iff_right fun hup' => absurd hup' hup).symm
  · refine iff_of_true ?_ ⟨fun hup' => absurd hup' hup, fun h1 h2 => absurd ⟨h1, h2⟩ hlow⟩
    rw [heq]
    obtain hwhole | hsame := h.paced
    · rw [truncUs_whole hwhole]
      exact hl
    · -- the loaded interval is truncated
      have hcur := h.executing.nonneg
      obtain ⟨-, ⟨hmaxi, hmaxd⟩, -⟩ := p.valid
      have h1 := truncUs_le hcur
      have h2 := lt_truncUs_add hcur
      rw [hsame]
      constructor
      · linarith
      · linarith

end

/-! ## a tick -/

section
variable {p : Adaptation} {c now : SimTime} {cfg : GateConfig} {mac : Option PreemptMac}
  {gc gc' : GateController} {ap : Applied}

theorem withinSteps_self (p : Adaptation) (cur : SimTime) : p.WithinSteps cur cur := by
  obtain ⟨-, ⟨hmaxi, hmaxd⟩, -⟩ := p.valid
  have hus : (0 : SimTime) ≤ oneUs := by
    unfold oneUs
    norm_num
  unfold WithinSteps
  rw [sub_self]
  constructor
  · linarith
  · linarith

/-- after a load the pending interval is the executing one -/
theorem Pending.paced (h : Pending c gc) (hl : gc.Loads)
    (hu : gc.updateSchedule cfg mac now = .ok (gc', ap)) :
    Paced c gc' ∧ gc'.currentSchedule.intervalAt 0 = gc.newSchedule.intervalAt 0 := by
  obtain ⟨hnew, hcur, -, -⟩ := GateController.updateSchedule_adapts hu
  rw [if_pos hl] at hcur
  have hexec : gc'.currentSchedule.intervalAt 0 = gc.newSchedule.intervalAt 0 := by
    rw [hcur]
    rfl
  refine ⟨⟨h.load hl hu, .inr ?_⟩, hexec⟩
  rw [hnew, hexec]

theorem Paced.update (h : Paced c gc) (hu : gc.updateSchedule cfg mac now = .ok (gc', ap)) :
    Paced c gc' := by
  by_cases hl : gc.Loads
  · exact (h.toPending.paced hl hu).1
  obtain ⟨hnew, hcur, -, -⟩ := GateController.updateSchedule_adapts hu
  rw [if_neg hl] at hcur
  refine ⟨h.toReserved.update hu, ?_⟩
  rw [hnew, hcur]
  exact h.paced

/-- what a tick loads obeys the limit if what was pending did, and the limit starts anew -/
theorem Limited.update (hl : p.Limited gc)
    (hu : gc.updateSchedule cfg mac now = .ok (gc', ap)) : p.Limited gc' ∧
      p.WithinSteps (gc.currentSchedule.intervalAt 0) (gc'.currentSchedule.intervalAt 0) := by
  obtain ⟨hnew, hcur, -, -⟩ := GateController.updateSchedule_adapts hu
  unfold Limited
  rw [hnew, hcur]
  by_cases hloads : gc.Loads
  · rw [if_pos hloads]
    exact ⟨withinSteps_self p _, hl⟩
  · rw [if_neg hloads]
    exact ⟨hl, withinSteps_self p _⟩

end

end AdaptationParams

/-! ## one switch -/

namespace AdaptEvent

/-- a received packet comes to a generator with the parameters `p` -/
def By (p : Adaptation) : AdaptEvent → Prop
  | .received q _ => q = p
  | _ => True

theorem By.autoOff {p : Adaptation} {e : AdaptEvent} (h : e.By p)
    (hoff : p.autoIntervalDecrease = false) : e.AutoOff := by
  cases e with
  | tick mac => trivial
  | ttTransmitted simTime => trivial
  | received q a =>
    cases h
    exact hoff

end AdaptEvent

namespace AdaptSystem

open AdaptationParams

variable {p : Adaptation} {cfg : GateConfig} {xml : GateScheduleXml} {c : SimTime}
  {s s' t : AdaptSystem}

/-- the packet spares the clamps of the controller -/
def SparesClamps (p : Adaptation) (s : AdaptSystem) : AdaptEvent → Prop
  | .received _ a => p.Spares s.gates.gc a
  | _ => True

/-- whatever a tick of the run loads obeys the limit -/
def StepLimited (p : Adaptation) (cfg : GateConfig) (s : AdaptSystem) (es : List AdaptEvent) : Prop :=
  ∀ pre mac t t', pre ++ [.tick mac] <+: es → Lib.run (step cfg) s pre = .ok t →
    t.step cfg (.tick mac) = .ok t' → p.WithinSteps t.executingTT t'.executingTT

theorem paced_step (h : Paced c s.gates.gc) (hoff : p.autoIntervalDecrease = false) {e : AdaptEvent}
    (he : e.By p) (hs : s.step cfg e = .ok s') : Paced c s'.gates.gc := by
  cases e with
  | tick mac =>
    obtain ⟨now, ap, hu⟩ := step_tick hs
    exact h.update hu
  | ttTransmitted simTime =>
    cases hs
    exact h
  | received q a =>
    cases he
    obtain ⟨gc, h1, h2⟩ := bind_ok.mp hs
    cases h2
    exact h.receive hoff h1

theorem limited_step_iff (h : Paced c s.gates.gc) (hl : p.Limited s.gates.gc)
    (hoff : p.autoIntervalDecrease = false) {e : AdaptEvent} (he : e.By p)
    (hs : s.step cfg e = .ok s') : p.Limited s'.gates.gc ↔ s.SparesClamps p e := by
  cases e with
  | tick mac =>
    obtain ⟨now, ap, hu⟩ := step_tick hs
    exact iff_of_true (hl.update hu).1 trivial
  | ttTransmitted simTime =>
    cases hs
    exact iff_of_true hl trivial
  | received q a =>
    cases he
    obtain ⟨gc, h1, h2⟩ := bind_ok.mp hs
    cases h2
    exact limited_receive_iff h hl hoff h1

/-- what may be loaded obeys the limit exactly when the packets spare the clamps -/
theorem limited_iff (h : Paced c s.gates.gc) (hl : p.Limited s.gates.gc)
    (hsound : s.Sound) (hoff : p.autoIntervalDecrease = false) {es : List AdaptEvent}
    (hes : ∀ e ∈ es, e.By p) :
    (∀ pre t, pre <+: es → Lib.run (step cfg) s pre = .ok t → p.Limited t.gates.gc) ↔
      Lib.Meets (step cfg) (SparesClamps p) s es := by
  refine Lib.forall_prefix_iff_meets (I := fun s => s.Sound ∧ Paced c s.gates.gc) ?_ ?_
    ⟨hsound, h⟩ hl hes
  · intro s e s' hI he hs'
    exact ⟨reserved_sound hI.1 hI.2.toReserved (he.autoOff hoff) hs', paced_step hI.2 hoff he hs'⟩
  · intro s e hI hl he
    by_cases htick : ∃ mac, e = .tick mac
    · -- a tick spares the clamps, whether its subscription succeeds or not
      obtain ⟨mac, rfl⟩ := htick
      exact iff_of_true (fun s' hs' => (limited_step_iff hI.2 hl hoff he hs').mpr trivial) trivial
    obtain ⟨s', hs'⟩ := reserved_packet cfg hI.1 hI.2.toReserved (he.autoOff hoff)
      (not_exists.mp htick)
    have hiff := limited_step_iff hI.2 hl hoff he hs'
    constructor
    · intro hall
      exact hiff.mp (hall s' hs')
    · intro hspares t ht
      cases hs'.symm.trans ht
      exact hiff.mpr hspares

theorem stepLimited_of_limited {es : List AdaptEvent}
    (h : ∀ pre t, pre <+: es → Lib.run (step cfg) s pre = .ok t → p.Limited t.gates.gc) :
    StepLimited p cfg s es := by
  intro pre mac t t' hpre ht htick
  obtain ⟨now, ap, hu⟩ := step_tick htick
  have hl := h pre t ((List.prefix_append pre _).trans hpre) ht
  exact (hl.update hu).2

end AdaptSystem

/-! ## two switches -/

namespace AdaptationParams
variable {p : Adaptation} {c now lastTT : SimTime} {cfg : GateConfig} {mac : Option PreemptMac}
  {gc gc' : GateController} {ap : Applied} {a : Arrival}

/-- a controller from its start on; `nextSchedule` tells whether it has loaded -/
structure Started (p : Adaptation) (c : SimTime) (gc : GateController) : Prop where
  pending : Pending c gc
  paced : gc.nextSchedule = .newSchedule → Paced c gc
  limited : gc.nextSchedule = .newSchedule → p.Limited gc

theorem Started.update (h : Started p c gc)
    (hu : gc.updateSchedule cfg mac now = .ok (gc', ap)) : Started p c gc' := by
  refine ⟨h.pending.update hu, fun hnext => ?_, fun hnext => ?_⟩
  · by_cases hl : gc.Loads
    · exact (h.pending.paced hl hu).1
    obtain ⟨-, -, hsame, -⟩ := GateController.updateSchedule_adapts hu
    rw [if_neg hl] at hsame
    exact (h.paced (hsame.symm.trans hnext)).update hu
  · obtain ⟨hnew, hcur, hsame, -⟩ := GateController.updateSchedule_adapts hu
    by_cases hl : gc.Loads
    · unfold Limited
      rw [hnew, hcur, if_pos hl]
      exact withinSteps_self p _
    · rw [if_neg hl] at hsame
      exact (Limited.update (h.limited (hsame.symm.trans hnext)) hu).1

theorem Started.receive (h : Started p c gc) (hnext : gc.nextSchedule = .newSchedule)
    (hoff : p.autoIntervalDecrease = false) (hspares : p.Spares gc a)
    (hr : p.receivePacket lastTT gc a = .ok gc') : Started p c gc' := by
  have hpaced := h.paced hnext
  have hpaced' := hpaced.receive hoff hr
  refine ⟨hpaced'.toPending, fun _ => hpaced', fun _ => ?_⟩
  exact (limited_receive_iff hpaced (h.limited hnext) hoff hr).mpr hspares

/-- the flag of the selection does not matter -/
theorem Started.select (h : Started p c gc) (b : Bool) : Started p c { gc with isSelected := b } := by
  refine ⟨⟨h.pending.cycle, h.pending.two, h.pending.pending⟩, fun hnext => ?_, h.limited⟩
  have hp := h.paced hnext
  exact ⟨⟨⟨hp.cycle, hp.two, hp.pending⟩, hp.running, hp.executing, hp.kept⟩, hp.paced⟩

end AdaptationParams

namespace TwoSwitchSystem

open AdaptationParams

variable {p : Adaptation} {cfg : TwoSwitchConfig} {xml : ℕ → GateScheduleXml} {c : ℕ → SimTime}
  {s s' t : TwoSwitchSystem}

def executingTT (s : TwoSwitchSystem) (d : ℕ) : SimTime :=
  (s.gateControllers d).currentSchedule.intervalAt 0

/-- the controller has loaded a schedule -/
def HasLoaded (s : TwoSwitchSystem) (d : ℕ) : Prop :=
  (s.gateControllers d).nextSchedule = .newSchedule

/-- the packet goes to a switch that has loaded, and spares the clamps there -/
def SparesClamps (cfg : TwoSwitchConfig) (p : Adaptation) (s : TwoSwitchSystem) :
    TwoSwitchEvent → Prop
  | .receivePacket i a => ∀ r ∈ cfg.receivers[i]?, ∀ t d, Chooses s i r a t d →
      s.HasLoaded d ∧ p.Spares (s.gateControllers d) a
  | _ => True

/-- whatever a switch that has loaded loads next obeys the limit -/
def StepLimited (p : Adaptation) (cfg : TwoSwitchConfig) (s : TwoSwitchSystem)
    (es : List TwoSwitchEvent) : Prop :=
  ∀ pre d mac now t t', pre ++ [.updateSchedule d mac now] <+: es →
    Lib.run (step cfg) s pre = .ok t → t.step cfg (.updateSchedule d mac now) = .ok t' →
    t.HasLoaded d → p.WithinSteps (t.executingTT d) (t'.executingTT d)

/-- what the choice of a switch leaves of a controller -/
theorem Chooses.gateController {i d : ℕ} {r : TwoSwitchParams} {a : Arrival}
    (h : Chooses s i r a t d) (e : ℕ) : t.gateControllers e = s.gateControllers e ∨
      t.gateControllers e = { s.gateControllers e with isSelected := true } := by
  cases h with
  | switchA => exact .inl rfl
  | switchB => exact .inl rfl
  | next =>
    by_cases he : e = d
    · subst he
      exact .inr (Function.update_self _ _ _)
    · exact .inl (Function.update_of_ne he _ _)

theorem started_step (h : ∀ d, Started p (c d) (s.gateControllers d))
    (hcfg : ∀ r ∈ cfg.receivers, r.adaptation = p) (hoff : p.autoIntervalDecrease = false)
    {e : TwoSwitchEvent} (he : SparesClamps cfg p s e) (hs : s.step cfg e = .ok s') :
    ∀ d, Started p (c d) (s'.gateControllers d) := by
  cases e with
  | receivePacket i a =>
    obtain ⟨r, t, d, u, gc, hr, hc, hgc, rfl⟩ := receivePacket_adapts hs
    obtain ⟨hloaded, hspares⟩ := he r hr t d hc
    rw [hcfg r (List.mem_of_getElem? hr)] at hgc
    have hchosen : ∀ e, Started p (c e) (t.gateControllers e) := by
      intro e
      obtain heq | heq := hc.gateController e
      · rw [heq]
        exact h e
      · rw [heq]
        exact (h e).select true
    have hfields : (t.gateControllers d).nextSchedule = .newSchedule ∧
        p.Spares (t.gateControllers d) a := by
      obtain heq | heq := hc.gateController d
      · rw [heq]
        exact ⟨hloaded, hspares⟩
      · rw [heq]
        exact ⟨hloaded, hspares⟩
    intro e
    by_cases he : e = d
    · subst he
      dsimp only
      rw [Function.update_self]
      exact (hchosen e).receive hfields.1 hoff hfields.2 hgc
    · dsimp only
      rw [Function.update_of_ne he]
      exact hchosen e
  | updateSchedule d mac now =>
    obtain ⟨loaded, hl, hs⟩ := bind_ok.mp hs
    obtain ⟨⟨gc, ap⟩, hu, hs⟩ := bind_ok.mp hs
    cases hs
    intro e
    by_cases he : e = d
    · subst he
      dsimp only
      rw [Function.update_self]
      exact (h e).update hu
    · dsimp only
      rw [Function.update_of_ne he]
      exact h e
  | ttTransmitted ts simTime =>
    cases hs
    exact h

/-- a start with two entries in every controller -/
theorem started_start (xml : ℕ → GateScheduleXml)
    (hxml : ∀ d, ∃ e0 e1, (xml d).entries = [e0, e1] ∧
      InReserve (xml d).schedule.cycleTime e0.timeInterval) (d : ℕ) :
    Started p (xml d).schedule.cycleTime ((start xml).gateControllers d) := by
  obtain ⟨e0, e1, hentries, h0⟩ := hxml d
  have hlist : (xml d).schedule.controlList = [e0, e1] := hentries
  have hfirst : (xml d).schedule.intervalAt 0 = e0.timeInterval :=
    Schedule.intervalAt_of (by rw [hlist]; rfl)
  refine ⟨⟨rfl, ?_, ?_⟩, fun hnext => ?_, fun hnext => ?_⟩
  · show (xml d).schedule.controlList.length = 2
    rw [hlist]
    rfl
  · show InReserve _ ((xml d).schedule.intervalAt 0)
    rw [hfirst]
    exact h0
  · cases hnext
  · cases hnext

theorem stepLimited_of_spares (xml : ℕ → GateScheduleXml)
    (hxml : ∀ d, ∃ e0 e1, (xml d).entries = [e0, e1] ∧
      InReserve (xml d).schedule.cycleTime e0.timeInterval)
    (hcfg : ∀ r ∈ cfg.receivers, r.adaptation = p) (hoff : p.autoIntervalDecrease = false)
    {es : List TwoSwitchEvent} (hm : Lib.Meets (step cfg) (SparesClamps cfg p) (start xml) es) :
    StepLimited p cfg (start xml) es := by
  intro pre d mac now t t' hpre ht htick hloaded
  obtain ⟨rest, rfl⟩ := hpre
  have hm' := (Lib.meets_append.mp (Lib.meets_append.mp hm).1).1
  have hstarted : ∀ d, Started p (xml d).schedule.cycleTime (t.gateControllers d) :=
    Lib.run_invariant_of (I := fun s => ∀ d, Started p (xml d).schedule.cycleTime
        (s.gateControllers d)) (fun s e s' h he hs => started_step h hcfg hoff he hs)
      (started_start xml hxml) hm' ht
  obtain ⟨loaded, hl, hs⟩ := bind_ok.mp htick
  obtain ⟨⟨gc, ap⟩, hu, hs⟩ := bind_ok.mp hs
  cases hs
  unfold executingTT
  dsimp only
  rw [Function.update_self]
  exact (Limited.update ((hstarted d).limited hloaded) hu).2

end TwoSwitchSystem

namespace AdaptationParams

open Lib

/-- **The step limit** is obeyed by every load if no packet reaches a clamp that lies beyond it; with
one switch what may be loaded obeys it exactly then. -/
theorem step_limit (p : Adaptation) (hoff : p.autoIntervalDecrease = false) :
    (∀ (cfg : GateConfig) (xml : GateScheduleXml) (e0 e1 : ControlListEntry GateBitvector)
      (s s1 : AdaptSystem) (mac : Option PreemptMac) (es : List AdaptEvent),
      xml.entries = [e0, e1] → InReserve xml.schedule.cycleTime e0.timeInterval →
      AdaptSystem.start cfg xml = .ok s → s.step cfg (.tick mac) = .ok s1 → (∀ e ∈ es, e.By p) →
      ((∀ pre t, pre <+: es → run (AdaptSystem.step cfg) s1 pre = .ok t → p.Limited t.gates.gc) ↔
        Meets (AdaptSystem.step cfg) (AdaptSystem.SparesClamps p) s1 es) ∧
      (Meets (AdaptSystem.step cfg) (AdaptSystem.SparesClamps p) s1 es →
        AdaptSystem.StepLimited p cfg s1 es)) ∧
    ∀ (cfg : TwoSwitchConfig) (xml : ℕ → GateScheduleXml) (es : List TwoSwitchEvent),
      (∀ d, ∃ e0 e1, (xml d).entries = [e0, e1] ∧
        InReserve (xml d).schedule.cycleTime e0.timeInterval) →
      (∀ r ∈ cfg.receivers, r.adaptation = p) →
      Meets (TwoSwitchSystem.step cfg) (TwoSwitchSystem.SparesClamps cfg p)
        (TwoSwitchSystem.start xml) es →
      TwoSwitchSystem.StepLimited p cfg (TwoSwitchSystem.start xml) es := by
  constructor
  · intro cfg xml e0 e1 s s1 mac es hxml h0 hs htick hes
    obtain ⟨hreserved, hnew, hsame⟩ := AdaptSystem.reserved_first hxml h0 hs htick
    have hsound := AdaptSystem.sound_tick (AdaptSystem.sound_start hs) htick
    have hpaced : Paced xml.schedule.cycleTime s1.gates.gc := ⟨hreserved, .inr hsame.symm⟩
    have hlimited : p.Limited s1.gates.gc := by
      unfold Limited
      rw [show s1.gates.gc.newSchedule.intervalAt 0 = s1.gates.gc.currentSchedule.intervalAt 0 from
        hsame.symm]
      exact withinSteps_self p _
    have hiff : (∀ pre t, pre <+: es → Lib.run (AdaptSystem.step cfg) s1 pre = .ok t →
        p.Limited t.gates.gc) ↔ Lib.Meets (AdaptSystem.step cfg) (AdaptSystem.SparesClamps p) s1 es :=
      AdaptSystem.limited_iff hpaced hlimited hsound hoff hes
    exact ⟨hiff, fun hm => AdaptSystem.stepLimited_of_limited (hiff.mpr hm)⟩
  · intro cfg xml es hxml hcfg hm
    exact TwoSwitchSystem.stepLimited_of_spares xml hxml hcfg hoff hm

/-- steps of 10 us up to 15 us a cycle, and of 5 us up to 7 us a cycle -/
def smallSteps : Adaptation where
  increasesteplength := 10 / 1000000
  decreasesteplength := 5 / 1000000
  maxIncreasesteplength := 15 / 1000000
  maxDecreasesteplength := 7 / 1000000
  upperLimitTime := 1 / 10000
  lowerLimitTime := 5 / 100000
  autoIntervalDecrease := false
  accepted := by decide +kernel

/-- `t` of 1 ms for the time-triggered traffic -/
def msCycleOf (t : SimTime) : GateScheduleXml := ⟨some (1 / 1000), none, [⟨t, 128⟩, ⟨1 / 1000 - t, 127⟩]⟩

/-- two late packets raise 880 us to 900 us, and three early ones lower 112 us to 100 us -/
theorem step_limit_exceeded :
    (AdaptSystem.start .plain (msCycleOf (88 / 100000))).bind (fun s =>
        (run (AdaptSystem.step .plain) s [.tick none, .received smallSteps ⟨7, 2 / 10000, [0]⟩,
          .received smallSteps ⟨7, 2 / 10000, [0]⟩, .tick none, .tick none]).map
            AdaptSystem.executingTT) = .ok (90 / 100000) ∧
    (AdaptSystem.start .plain (msCycleOf (112 / 1000000))).bind (fun s =>
        (run (AdaptSystem.step .plain) s [.tick none, .received smallSteps ⟨7, 1 / 100000, [0]⟩,
          .received smallSteps ⟨7, 1 / 100000, [0]⟩, .received smallSteps ⟨7, 1 / 100000, [0]⟩,
          .tick none, .tick none]).map AdaptSystem.executingTT) = .ok (100 / 1000000) ∧
    ¬smallSteps.WithinSteps (88 / 100000) (90 / 100000) ∧
    ¬smallSteps.WithinSteps (112 / 1000000) (100 / 1000000) := by
  refine ⟨?_, ?_, fun h => ?_, fun h => ?_⟩
  · decide +kernel
  · decide +kernel
  · exact absurd h.1 (by decide +kernel)
  · exact absurd h.2 (by decide +kernel)

instance (p : AdaptationParams) (gc : GateController) (a : Arrival) : Decidable (p.Spares gc a) :=
  inferInstanceAs (Decidable (_ → (_ → _ → _) ∧ (_ → _ → _ → _)))

/-- a receiver with the controllers 0 and 1 -/
def oneReceiver : TwoSwitchConfig := ⟨[⟨smallSteps, 0, 1, 0, 1⟩], fun _ => .plain⟩

/-- a late packet in the first cycle raises 400 us to 410 us, with one switch and with two -/
theorem step_limit_smallSteps :
    (∃ s s1, AdaptSystem.start .plain (msCycleOf (4 / 10000)) = .ok s ∧
      s.step .plain (.tick none) = .ok s1 ∧ AdaptSystem.StepLimited smallSteps .plain s1
        [.received smallSteps ⟨7, 2 / 10000, [0]⟩, .tick none, .tick none]) ∧
    TwoSwitchSystem.StepLimited smallSteps oneReceiver
      (TwoSwitchSystem.start fun _ => msCycleOf (4 / 10000))
      ([.updateSchedule 0 none 0, .updateSchedule 1 none 0] ++
        [.receivePacket 0 ⟨7, 2 / 10000, [0]⟩]) := by
  have hreserve : InReserve (msCycleOf (4 / 10000)).schedule.cycleTime (4 / 10000) := by
    constructor <;> decide +kernel
  obtain ⟨hone, htwo⟩ := step_limit smallSteps rfl
  constructor
  · have hs : AdaptSystem.start .plain (msCycleOf (4 / 10000)) =
        .ok ⟨⟨.initial (msCycleOf (4 / 10000)) 0, some 0, []⟩, 0⟩ := by decide +kernel
    obtain ⟨s1, h1, hspares⟩ : ∃ s1, AdaptSystem.step .plain
        ⟨⟨.initial (msCycleOf (4 / 10000)) 0, some 0, []⟩, 0⟩ (.tick none) = .ok s1 ∧
        smallSteps.Spares s1.gates.gc ⟨7, 2 / 10000, [0]⟩ := exists_of_any (by decide +kernel)
    refine ⟨_, s1, hs, h1, (hone .plain (msCycleOf (4 / 10000)) ⟨4 / 10000, 128⟩ _ _ s1 none _ rfl
      hreserve hs h1 ?_).2 ⟨hspares, fun _ _ => ⟨trivial, fun _ _ => ⟨trivial, fun _ _ => trivial⟩⟩⟩⟩
    intro e he
    obtain rfl | rfl | rfl : e = .received smallSteps ⟨7, 2 / 10000, [0]⟩ ∨ e = .tick none ∨
        e = .tick none := by simpa using he
    · rfl
    · trivial
    · trivial
  · refine htwo oneReceiver _ _ (fun d => ⟨⟨4 / 10000, 128⟩, _, rfl, hreserve⟩)
      (List.forall_mem_singleton.mpr rfl) (meets_append.mpr ⟨?_, fun s hs => ⟨?_, ?_⟩⟩)
    · exact ⟨trivial, fun _ _ => ⟨trivial, fun _ _ => trivial⟩⟩
    · obtain ⟨t, ht, ha, hb, hfirst, hloaded, hspares⟩ : ∃ t, run (TwoSwitchSystem.step oneReceiver)
          (TwoSwitchSystem.start fun _ => msCycleOf (4 / 10000))
          [.updateSchedule 0 none 0, .updateSchedule 1 none 0] = .ok t ∧ t.selected 0 = false ∧
          t.selected 1 = false ∧ t.firstSwitch = ⟨true, true⟩ ∧
          (t.gateControllers 0).nextSchedule = .newSchedule ∧
          smallSteps.Spares (t.gateControllers 0) ⟨7, 2 / 10000, [0]⟩ :=
        exists_of_any (by decide +kernel)
      cases ht.symm.trans hs
      intro r hr u d hc
      cases hr
      have hlate : smallSteps.Late ⟨7, 2 / 10000, [0]⟩ := by decide +kernel
      cases hc with
      | switchA h => exact absurd (h.symm.trans ha) nofun
      | switchB _ h => exact absurd (h.symm.trans hb) nofun
      | next _ _ hsel hd =>
        cases hsel with
        | increaseA =>
          cases hd
          exact ⟨hloaded, hspares⟩
        | increaseB _ hf =>
          rw [hfirst] at hf
          cases hf
        | decreaseA he => exact absurd he (smallSteps.not_early_of_late hlate)
        | decreaseB he => exact absurd he (smallSteps.not_early_of_late hlate)
        | unchanged hl => exact absurd hlate hl
    · exact fun _ _ => trivial

end AdaptationParams

end Nesting
