import Nesting.Adaptation.StepLimit
import Nesting.Lib.Simulation

/-!
# The adaptation as a regulator

Without automatic lowering, the adaptation is a regulator of one number: packets move the pending
interval away from the executing one, and a load makes it the executing one.

* `Regulator`          the two intervals, and the reactions since the last load;
* `regulatorEvents`    what the regulator sees of an event of the system;
* `Regulates`          the relation between the two;
* `regulated`          **the system is the regulator**: in every run, whatever else happens.
-/

set_option linter.unusedVariables false

namespace Nesting

open Lib AdaptationParams

structure Regulator where
  /-- the interval that is executed -/
  executing : SimTime
  /-- the interval that the next load executes -/
  pending : SimTime
  /-- the reactions since the last load -/
  heard : List Reaction
  deriving DecidableEq

inductive RegulatorEvent where
  | packet (r : Reaction)
  | load
  deriving DecidableEq

namespace Regulator

variable {p : Adaptation} {c : SimTime} {r : Regulator}

def start (t : SimTime) : Regulator := ⟨t, t, []⟩

def raised (r : Regulator) : Bool := decide (Reaction.raise ∈ r.heard)

def step (p : Adaptation) (c : SimTime) (r : Regulator) : RegulatorEvent → Sim Regulator
  | .packet reaction => .ok { r with
      pending := (p.react c r.executing reaction (r.pending, r.raised)).1
      heard := r.heard ++ [reaction] }
  | .load => .ok (.start r.pending)

/-- the flag is set by a raise, and stays -/
theorem raised_packet (reaction : Reaction) :
    decide (Reaction.raise ∈ r.heard ++ [reaction]) =
      (p.react c r.executing reaction (r.pending, r.raised)).2 := by
  cases hr : r.raised with
  | true =>
    have hmem : Reaction.raise ∈ r.heard := of_decide_eq_true hr
    cases reaction <;> simp [react, hmem]
  | false =>
    have hmem : Reaction.raise ∉ r.heard := of_decide_eq_false hr
    cases reaction <;> simp [react, hmem]

end Regulator

namespace AdaptSystem

variable {cfg : GateConfig} {xml : GateScheduleXml} {p : Adaptation} {c : SimTime}
  {s s' t : AdaptSystem} {r : Regulator}

/-- what the regulator sees of an event -/
def regulatorEvents (s : AdaptSystem) : AdaptEvent → List RegulatorEvent
  | .tick _ => if s.gates.gc.Loads then [.load] else []
  | .ttTransmitted _ => []
  | .received p a => if a.pcp = 7 then [.packet (p.reaction a)] else []

/-- the regulator shows the intervals of the system -/
structure Regulates (c : SimTime) (s : AdaptSystem) (r : Regulator) : Prop where
  sound : s.Sound
  reserved : Reserved c s.gates.gc
  executing : s.executingTT = r.executing
  pending : pendingOf s.gates.gc = (r.pending, r.raised)
  whole : WholeUs r.executing
  fair : Fair r.executing (r.pending, r.raised)

theorem Regulates.between (h : Regulates c s r) : BetweenLoads c r.executing s.gates.gc where
  two := h.reserved.two.ge
  executing := h.reserved.running
  cycle := h.reserved.cycle
  current := h.executing
  fair := by
    rw [h.pending]
    exact h.fair

theorem Regulates.pendingTT (h : Regulates c s r) : s.pendingTT = r.pending :=
  congrArg Prod.fst h.pending

/-- after a load both intervals are the pending one -/
theorem Regulates.load (hsound : s'.Sound) (hreserved : Reserved c s'.gates.gc) {t : SimTime}
    (ht : WholeUs t) (hexec : s'.executingTT = t) (hpend : s'.pendingTT = t)
    (hflag : s'.gates.gc.isIncreased = false) : Regulates c s' (.start t) where
  sound := hsound
  reserved := hreserved
  executing := hexec
  pending := Prod.ext hpend hflag
  whole := ht
  fair := ⟨ht, fun _ => le_rfl, nofun⟩

/-- a load makes the pending interval the executing one, and forgets that it was raised -/
theorem step_load {mac : Option PreemptMac} (hl : s.gates.gc.Loads)
    (hs : s.step cfg (.tick mac) = .ok s') :
    s'.executingTT = s.pendingTT ∧ s'.pendingTT = s.pendingTT ∧
      s'.gates.gc.isIncreased = false := by
  obtain ⟨now, ap, hu⟩ := step_tick hs
  obtain ⟨hnew, hcur, -, hflag⟩ := GateController.updateSchedule_adapts hu
  rw [if_pos hl] at hcur hflag
  refine ⟨?_, ?_, hflag⟩
  · unfold executingTT
    rw [hcur]
    rfl
  · unfold pendingTT
    rw [hnew]

/-- any other tick keeps them -/
theorem step_noLoad {mac : Option PreemptMac} (hl : ¬s.gates.gc.Loads)
    (hs : s.step cfg (.tick mac) = .ok s') :
    s'.executingTT = s.executingTT ∧ pendingOf s'.gates.gc = pendingOf s.gates.gc := by
  obtain ⟨now, ap, hu⟩ := step_tick hs
  obtain ⟨hnew, hcur, -, hflag⟩ := GateController.updateSchedule_adapts hu
  rw [if_neg hl] at hcur hflag
  unfold executingTT pendingOf
  rw [hnew, hcur, hflag]
  exact ⟨rfl, rfl⟩

/-- **One event** of the system is none, a reaction or a load of the regulator. -/
theorem regulates_step (hoff : p.autoIntervalDecrease = false) (h : Regulates c s r) {e : AdaptEvent}
    (he : e.By p) (hs : s.step cfg e = .ok s') :
    ∃ r', run (Regulator.step p c) r (s.regulatorEvents e) = .ok r' ∧ Regulates c s' r' := by
  have hreserved := reserved_step h.reserved (he.autoOff hoff) hs
  have hsound := reserved_sound h.sound h.reserved (he.autoOff hoff) hs
  cases e with
  | tick mac =>
    dsimp only [regulatorEvents]
    by_cases hl : s.gates.gc.Loads
    · rw [if_pos hl]
      obtain ⟨hexec, hpend, hflag⟩ := step_load hl hs
      rw [h.pendingTT] at hexec hpend
      exact ⟨_, rfl, .load hsound hreserved h.fair.whole hexec hpend hflag⟩
    · rw [if_neg hl]
      obtain ⟨hexec, hpend⟩ := step_noLoad hl hs
      exact ⟨r, rfl, hsound, hreserved, hexec.trans h.executing, hpend.trans h.pending, h.whole, h.fair⟩
  | ttTransmitted simTime =>
    cases hs
    exact ⟨r, rfl, hsound, hreserved, h.executing, h.pending, h.whole, h.fair⟩
  | received q a =>
    cases he
    obtain ⟨gc, h1, h2⟩ := bind_ok.mp hs
    cases h2
    dsimp only [regulatorEvents]
    by_cases h7 : a.pcp = 7
    · rw [if_pos h7]
      rw [receivePacket_react hoff h.between _ h7, h.pending] at h1
      cases h1
      have hfair := fair_react (p := p) h.whole
        (by rw [← h.executing]; exact h.reserved.executing.1)
        (by rw [← h.executing]; exact h.reserved.executing.2) (p.reaction a) h.fair
      refine ⟨_, rfl, hsound, hreserved, h.executing, ?_, h.whole, ?_⟩
      · rw [pendingOf_withPending h.reserved.two.ge]
        exact Prod.ext rfl (Regulator.raised_packet _).symm
      · unfold Regulator.raised
        dsimp only
        rw [Regulator.raised_packet (p := p) (c := c)]
        exact hfair
    · rw [if_neg h7]
      rw [receivePacket_other h7] at h1
      cases h1
      exact ⟨r, rfl, hsound, hreserved, h.executing, h.pending, h.whole, h.fair⟩

/-- the events that the regulator sees of a run -/
def seen (cfg : GateConfig) (s : AdaptSystem) (es : List AdaptEvent) : List RegulatorEvent :=
  projected (step cfg) regulatorEvents s es

/-- the first tick loads what the file says -/
theorem regulates_first {e0 e1 : ControlListEntry GateBitvector} (hxml : xml.entries = [e0, e1])
    (h0 : InReserve xml.schedule.cycleTime e0.timeInterval) (hwhole : WholeUs e0.timeInterval)
    (hs : start cfg xml = .ok s) {mac : Option PreemptMac} (hs' : s.step cfg (.tick mac) = .ok s') :
    Regulates xml.schedule.cycleTime s' (.start e0.timeInterval) := by
  obtain ⟨hgc, -, hpend, -⟩ := pending_start hxml h0 hs
  obtain ⟨hreserved, -, -⟩ := reserved_first hxml h0 hs hs'
  have hl : s.gates.gc.Loads := by
    rw [hgc]
    exact ⟨rfl, nofun⟩
  obtain ⟨hexec, hpend', hflag⟩ := step_load hl hs'
  exact .load (sound_tick (sound_start hs) hs') hreserved hwhole (hexec.trans hpend)
    (hpend'.trans hpend) hflag

theorem regulates_run (hoff : p.autoIntervalDecrease = false) (h : Regulates c s r)
    {es : List AdaptEvent} (hes : ∀ e ∈ es, e.By p) (hr : run (step cfg) s es = .ok t) :
    ∃ r', run (Regulator.step p c) r (seen cfg s es) = .ok r' ∧ Regulates c t r' := by
  have hstep : ∀ (s : AdaptSystem) (a : Regulator) (e : AdaptEvent) (s' : AdaptSystem),
      Regulates c s a → e.By p → s.step cfg e = .ok s' →
      ∃ a', run (Regulator.step p c) a (s.regulatorEvents e) = .ok a' ∧ Regulates c s' a' :=
    fun s a e s' hR he hs => regulates_step hoff hR he hs
  exact run_projected (O := fun _ e => e.By p) hstep h (meets_of_forall hes _) hr

/-- no event fails after the first tick either -/
theorem total_after_first {e0 e1 : ControlListEntry GateBitvector} (hxml : xml.entries = [e0, e1])
    (h0 : InReserve xml.schedule.cycleTime e0.timeInterval) (hs : start cfg xml = .ok s)
    (hclock : 0 < cfg.clockRate) (hcounted : xml.schedule.cycleTime / cfg.clockRate < 2 ^ 32)
    {mac : Option PreemptMac} (hs' : s.step cfg (.tick mac) = .ok s') {es : List AdaptEvent}
    (hoff : ∀ e ∈ es, e.AutoOff) : ∃ t, run (step cfg) s' es = .ok t := by
  obtain ⟨t, hr⟩ := reserved_run hxml h0 hs hclock hcounted mac hoff
  obtain ⟨s1, hs1, hr⟩ := run_cons_ok.mp hr
  cases hs1.symm.trans hs'
  exact ⟨t, hr⟩

/-- **The system is the regulator**: in every run from the first tick on, the two intervals are
those of a regulator that has heard the packets of priority 7 and the loads.  No event fails if the
ticks of a cycle fit an `unsigned`. -/
theorem regulated (p : Adaptation) (hoff : p.autoIntervalDecrease = false) (cfg : GateConfig)
    (xml : GateScheduleXml) (e0 e1 : ControlListEntry GateBitvector) (hxml : xml.entries = [e0, e1])
    (h0 : InReserve xml.schedule.cycleTime e0.timeInterval) (hwhole : WholeUs e0.timeInterval)
    (hs : start cfg xml = .ok s) (mac : Option PreemptMac) (es : List AdaptEvent)
    (hes : ∀ e ∈ es, e.By p) :
    (0 < cfg.clockRate → xml.schedule.cycleTime / cfg.clockRate < 2 ^ 32 →
      ∃ t, run (step cfg) s (.tick mac :: es) = .ok t) ∧
    ∀ s' t, s.step cfg (.tick mac) = .ok s' → run (step cfg) s' es = .ok t → ∃ r,
      run (Regulator.step p xml.schedule.cycleTime) (.start e0.timeInterval) (seen cfg s' es) =
        .ok r ∧
      t.executingTT = r.executing ∧ t.pendingTT = r.pending ∧
      t.gates.gc.isIncreased = r.raised := by
  constructor
  · exact fun hclock hcounted =>
      reserved_run hxml h0 hs hclock hcounted mac fun e he => (hes e he).autoOff hoff
  · intro s' t hs' ht
    obtain ⟨r, hr, h⟩ := regulates_run hoff (regulates_first hxml h0 hwhole hs hs') hes ht
    exact ⟨r, hr, h.executing, h.pendingTT, congrArg Prod.snd h.pending⟩

/-- a late packet, one of another priority, and the next load -/
theorem regulated_raise : ∃ s s' t r, start .plain twoEntries = .ok s ∧
    s.step .plain (.tick none) = .ok s' ∧
    run (step .plain) s' [.received usSteps ⟨7, 2 / 10000, [0]⟩, .received usSteps ⟨6, 2 / 10000, [0]⟩,
      .tick none, .tick none] = .ok t ∧
    run (Regulator.step usSteps twoEntries.schedule.cycleTime) (.start (4 / 10000))
      [.packet .raise, .load] = .ok r ∧ t.executingTT = r.executing := by
  have hs : start .plain twoEntries = .ok ⟨⟨.initial twoEntries 0, some 0, []⟩, 0⟩ := by
    decide +kernel
  have hres : InReserve twoEntries.schedule.cycleTime (4 / 10000) := by
    constructor <;> decide +kernel
  obtain ⟨s1, hs1, hseen⟩ : ∃ s', step .plain ⟨⟨.initial twoEntries 0, some 0, []⟩, 0⟩
      (.tick none) = .ok s' ∧ seen .plain s' [.received usSteps ⟨7, 2 / 10000, [0]⟩,
        .received usSteps ⟨6, 2 / 10000, [0]⟩, .tick none, .tick none] = [.packet .raise, .load] :=
    exists_of_any (by decide +kernel)
  obtain ⟨htotal, hall⟩ := regulated usSteps rfl .plain twoEntries
    ⟨4 / 10000, 128⟩ ⟨6 / 10000, 127⟩ rfl hres ⟨400, by norm_num⟩ hs none
    [.received usSteps ⟨7, 2 / 10000, [0]⟩, .received usSteps ⟨6, 2 / 10000, [0]⟩, .tick none,
      .tick none] (by simp [AdaptEvent.By])
  obtain ⟨t, hrun⟩ := htotal (by decide +kernel) (by decide +kernel)
  obtain ⟨s', hs', ht⟩ := run_cons_ok.mp hrun
  cases hs1.symm.trans hs'
  obtain ⟨r, hr, hexec, -⟩ := hall s1 t hs1 ht
  rw [hseen] at hr
  exact ⟨_, s1, t, r, hs, hs1, ht, hr, hexec⟩

end AdaptSystem

end Nesting
