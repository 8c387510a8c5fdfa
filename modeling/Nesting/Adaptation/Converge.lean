import Nesting.Adaptation.Regulator
import Nesting.Lib.Settle

/-!
# The adaptation converges

A packet is late because the executed interval is too short, and early because it is too long.

* `Band`           the intervals that are neither, and wide enough for a step;
* `Obeys`          packets that follow the executed interval;
* `Steered`        the invariant between two loads;
* `settles`        **the executed interval comes into the band** and stays there;
* `Overloaded`, `saturates`   with a late packet before every load it comes to nine tenths of the
                   cycle, whatever the other packets are.
-/

set_option linter.unusedVariables false

namespace Nesting

open Lib AdaptationParams

/-! ## one packet -/

namespace AdaptationParams

variable {p : Adaptation} {c cur t : SimTime}

/-- what a raise is worth at least -/
def upStride (p : AdaptationParams) : SimTime :=
  truncUs (min p.increasesteplength p.maxIncreasesteplength)

def downStride (p : AdaptationParams) : SimTime :=
  truncUs (min p.decreasesteplength p.maxDecreasesteplength)

def stride (p : AdaptationParams) : SimTime := min p.upStride p.downStride

theorem stride_nonneg (p : Adaptation) : 0 ≤ p.upStride ∧ 0 ≤ p.downStride ∧ 0 ≤ p.stride := by
  obtain ⟨⟨hinc, hdec⟩, ⟨hmaxi, hmaxd⟩, -⟩ := p.valid
  have hup : 0 ≤ p.upStride := truncUs_nonneg (le_min hinc.le hmaxi.le)
  have hdown : 0 ≤ p.downStride := truncUs_nonneg (le_min hdec.le hmaxd.le)
  exact ⟨hup, hdown, le_min hup hdown⟩

theorem wholeUs_add {a b : SimTime} (ha : WholeUs a) (hb : WholeUs b) : WholeUs (a + b) := by
  obtain ⟨m, rfl⟩ := ha
  obtain ⟨n, rfl⟩ := hb
  exact ⟨m + n, by push_cast; ring⟩

/-- a raise gains the stride, or reaches the upper end -/
theorem raise_ge (hcur : WholeUs cur) (h : InReserve c cur) (t : SimTime) :
    min (truncUs (c * (9 / 10))) (cur + p.upStride) ≤ truncUs (p.increased c cur t) := by
  obtain ⟨⟨hinc, -⟩, ⟨hmax, -⟩, -⟩ := p.valid
  have hstride : p.upStride ≤ min p.increasesteplength p.maxIncreasesteplength :=
    truncUs_le (le_min hinc.le hmax.le)
  have hwhole : WholeUs (cur + p.upStride) := wholeUs_add hcur (wholeUs_truncUs _)
  have hbase := le_max_left cur t
  obtain ⟨-, heq⟩ | ⟨-, ⟨-, heq⟩ | ⟨-, heq⟩⟩ := increased_cases p c cur t
  · rw [heq]
    exact min_le_left _ _
  · refine (min_le_right _ _).trans (le_truncUs hwhole ?_)
    have := hstride.trans (min_le_right _ _)
    linarith
  · refine (min_le_right _ _).trans (le_truncUs hwhole ?_)
    have := hstride.trans (min_le_left _ _)
    linarith

/-- lowering gains the stride, or reaches the lower end -/
theorem lower_le (hcur : WholeUs cur) (h : InReserve c cur) (ht : t ≤ cur) :
    truncUs (p.decreased c cur t) ≤ max (truncUs (c * (1 / 10))) (cur - p.downStride) := by
  obtain ⟨⟨-, hdec⟩, ⟨-, hmax⟩, -⟩ := p.valid
  have hstride : p.downStride ≤ min p.decreasesteplength p.maxDecreasesteplength :=
    truncUs_le (le_min hdec.le hmax.le)
  have hnonneg := (inReserve_decreased p h ht).nonneg
  obtain ⟨-, heq⟩ | ⟨-, ⟨-, heq⟩ | ⟨-, heq⟩⟩ := decreased_cases p c ht
  · rw [heq]
    exact le_max_left _ _
  · refine (truncUs_le hnonneg).trans (le_max_of_le_right ?_)
    have := hstride.trans (min_le_right _ _)
    linarith
  · refine (truncUs_le hnonneg).trans (le_max_of_le_right ?_)
    have := hstride.trans (min_le_left _ _)
    linarith

end AdaptationParams

/-! ## the band -/

/-- intervals from `lo` to `hi`: they include the lower or the upper end, or a step from outside, whether
it is limited or clamped, does not lead past them -/
structure Band (p : Adaptation) (c lo hi : SimTime) : Prop where
  le : lo ≤ hi
  low : lo ≤ truncUs (c * (9 / 10))
  high : truncUs (c * (1 / 10)) ≤ hi
  wide : lo ≤ truncUs (c * (1 / 10)) ∨ c * (9 / 10) ≤ hi ∨
    (lo + p.maxIncreasesteplength ≤ hi ∧
        lo + p.maxIncreasesteplength + p.increasesteplength ≤ c * (9 / 10)) ∧
      lo + p.maxDecreasesteplength + oneUs ≤ hi ∧
        c * (1 / 10) + p.decreasesteplength + p.maxDecreasesteplength + oneUs ≤ hi

namespace Regulator

variable {p : Adaptation} {c lo hi : SimTime} {r r' : Regulator} {e : RegulatorEvent}

/-- a packet is late when the interval is below the band, early when it is above, and each load was
preceded by such a packet -/
def Obeys (lo hi : SimTime) (r : Regulator) : RegulatorEvent → Prop
  | .packet .raise => r.executing < lo
  | .packet .lower => hi < r.executing
  | .packet .keep => True
  | .load => (r.executing < lo → Reaction.raise ∈ r.heard) ∧
      (hi < r.executing → Reaction.lower ∈ r.heard)

/-- a late packet precedes each load -/
def Overloaded (r : Regulator) : RegulatorEvent → Prop
  | .packet _ => True
  | .load => Reaction.raise ∈ r.heard

instance (lo hi : SimTime) (r : Regulator) (e : RegulatorEvent) : Decidable (Obeys lo hi r e) :=
  match e with
  | .packet .raise => inferInstanceAs (Decidable (_ < _))
  | .packet .lower => inferInstanceAs (Decidable (_ < _))
  | .packet .keep => isTrue trivial
  | .load => inferInstanceAs (Decidable (_ ∧ _))

instance (r : Regulator) (e : RegulatorEvent) : Decidable (Overloaded r e) :=
  match e with
  | .packet _ => isTrue trivial
  | .load => inferInstanceAs (Decidable (_ ∈ _))

/-- how far the executed interval is off the band, not positive inside -/
def off (lo hi : SimTime) (r : Regulator) : SimTime := max (lo - r.executing) (r.executing - hi)

theorem off_nonpos : r.off lo hi ≤ 0 ↔ lo ≤ r.executing ∧ r.executing ≤ hi := by
  unfold off
  rw [max_le_iff, sub_nonpos, sub_nonpos]

/-! ## any packets -/

/-- what holds between two loads, and what a late packet is worth -/
structure Sane (p : Adaptation) (c : SimTime) (r : Regulator) : Prop where
  whole : WholeUs r.executing
  executing : InReserve c r.executing
  pending : InReserve c r.pending
  fair : Fair r.executing (r.pending, r.raised)
  gained : Reaction.raise ∈ r.heard →
    min (truncUs (c * (9 / 10))) (r.executing + p.upStride) ≤ r.pending

theorem sane_start {t : SimTime} (ht : WholeUs t) (h : InReserve c t) : Sane p c (start t) :=
  ⟨ht, h, h, ⟨ht, fun _ => le_rfl, nofun⟩, nofun⟩

/-- the pending interval after a packet -/
def next (p : Adaptation) (c : SimTime) (r : Regulator) (reaction : Reaction) : SimTime :=
  (p.react c r.executing reaction (r.pending, r.raised)).1

theorem next_raise : r.next p c .raise = truncUs (p.increased c r.executing r.pending) := rfl

theorem next_lower_of_raised (h : r.raised = true) : r.next p c .lower = r.pending := by
  unfold next
  rw [h]
  rfl

theorem next_lower (h : r.raised = false) :
    r.next p c .lower = truncUs (p.decreased c r.executing r.pending) := by
  unfold next
  rw [h]
  rfl

/-- the regulator after a packet -/
theorem step_packet {reaction : Reaction} (hs : r.step p c (.packet reaction) = .ok r') :
    r'.executing = r.executing ∧ r'.pending = r.next p c reaction ∧
      r'.heard = r.heard ++ [reaction] := by
  cases hs
  exact ⟨rfl, rfl, rfl⟩

theorem sane_packet (h : Sane p c r) (reaction : Reaction)
    (hs : r.step p c (.packet reaction) = .ok r') : Sane p c r' := by
  have hfair := fair_react (p := p) h.whole h.executing.1 h.executing.2 reaction h.fair
  obtain ⟨hexec, hpend, hheard⟩ := step_packet hs
  have hraised : r'.raised = (p.react c r.executing reaction (r.pending, r.raised)).2 := by
    unfold raised
    rw [hheard]
    exact raised_packet reaction
  refine ⟨hexec ▸ h.whole, hexec ▸ h.executing, ?_, ?_, ?_⟩
  · rw [hpend]
    cases reaction with
    | raise => exact (inReserve_increased p h.executing _).trunc
    | keep => exact h.pending
    | lower =>
      cases hr : r.raised with
      | true => exact next_lower_of_raised hr ▸ h.pending
      | false => exact next_lower hr ▸ (inReserve_decreased p h.executing (h.fair.kept hr)).trunc
  · rw [hexec, hpend, hraised]
    exact hfair
  · rw [hexec, hpend, hheard]
    intro hmem
    cases reaction with
    | raise => exact raise_ge h.whole h.executing _
    | keep => exact h.gained (by simpa using hmem)
    | lower =>
      have hmem : Reaction.raise ∈ r.heard := by simpa using hmem
      rw [next_lower_of_raised (decide_eq_true hmem)]
      exact h.gained hmem

theorem sane_step (h : Sane p c r) (hs : r.step p c e = .ok r') : Sane p c r' := by
  cases e with
  | packet reaction => exact sane_packet h reaction hs
  | load =>
    cases hs
    exact sane_start h.fair.whole h.pending

/-! ## packets that follow the interval -/

/-- between two loads: inside the band nothing is pending, and outside it the pending interval is on its
way to the band and not past it -/
structure Steered (p : Adaptation) (c lo hi : SimTime) (r : Regulator) : Prop extends Sane p c r where
  inside : lo ≤ r.executing → r.executing ≤ hi → r.pending = r.executing
  below : r.executing < lo → r.pending ≤ r.executing + p.maxIncreasesteplength ∨ c * (9 / 10) ≤ hi
  above : hi < r.executing → r.raised = false ∧
    (r.executing - p.maxDecreasesteplength - oneUs ≤ r.pending ∨ lo ≤ truncUs (c * (1 / 10))) ∧
    (Reaction.lower ∈ r.heard →
      r.pending ≤ max (truncUs (c * (1 / 10))) (r.executing - p.downStride))

theorem steered_start {t : SimTime} (ht : WholeUs t) (h : InReserve c t) :
    Steered p c lo hi (start t) := by
  obtain ⟨-, ⟨hmaxi, hmaxd⟩, -⟩ := p.valid
  have hus : (0 : SimTime) < oneUs := by
    unfold oneUs
    norm_num
  refine ⟨sane_start ht h, fun _ _ => rfl, fun _ => .inl ?_, fun _ => ⟨rfl, .inl ?_, nofun⟩⟩
  · show t ≤ t + _
    linarith
  · show t - _ - _ ≤ t
    linarith

/-- a late packet below the band -/
theorem steered_raise (hband : Band p c lo hi) (h : Steered p c lo hi r) (hlo : r.executing < lo)
    (hs : r.step p c (.packet .raise) = .ok r') : Steered p c lo hi r' := by
  obtain ⟨⟨hinc, -⟩, ⟨hmax, -⟩, -⟩ := p.valid
  obtain ⟨hexec, hpend, -⟩ := step_packet hs
  refine ⟨sane_packet h.toSane .raise hs, fun hle => ?_, fun _ => ?_, fun hgt => ?_⟩
  · exact absurd (hexec ▸ hle) (not_le.mpr hlo)
  · rw [hexec, hpend, next_raise]
    have htrunc := truncUs_le (inReserve_increased p h.executing r.pending).nonneg
    obtain ⟨hclamp, -⟩ | ⟨-, ⟨-, heq⟩ | ⟨hlt, heq⟩⟩ := increased_cases p c r.executing r.pending
    · right
      obtain hend | hend | ⟨⟨-, hwide⟩, -⟩ := hband.wide
      · exact absurd (hend.trans h.executing.1) (not_le.mpr hlo)
      · exact hend
      · -- the clamp is further away than a step
        obtain hstep | hend := h.below hlo
        · have hbase : max r.executing r.pending ≤ r.executing + p.maxIncreasesteplength :=
            max_le (by linarith) hstep
          linarith
        · exact hend
    · left
      linarith
    · left
      linarith
  · exact absurd (hgt.trans_eq hexec) (not_lt.mpr (hlo.le.trans hband.le))

/-- an early packet above the band -/
theorem steered_lower (hband : Band p c lo hi) (h : Steered p c lo hi r) (hhi : hi < r.executing)
    (hs : r.step p c (.packet .lower) = .ok r') : Steered p c lo hi r' := by
  obtain ⟨⟨-, hdec⟩, ⟨-, hmax⟩, -⟩ := p.valid
  obtain ⟨hexec, hpend, hheard⟩ := step_packet hs
  obtain ⟨hraised, hstep, -⟩ := h.above hhi
  have hle : r.pending ≤ r.executing := h.fair.kept hraised
  refine ⟨sane_packet h.toSane .lower hs, fun _ hin => ?_, fun hlt => ?_, fun _ => ⟨?_, ?_, fun _ => ?_⟩⟩
  · exact absurd (hexec ▸ hin) (not_le.mpr hhi)
  · exact absurd (hexec.symm.trans_lt hlt) (not_lt.mpr (hband.le.trans hhi.le))
  · unfold raised at hraised ⊢
    rw [hheard]
    simpa using hraised
  · rw [hexec, hpend, next_lower hraised]
    have htrunc := lt_truncUs_add (inReserve_decreased p h.executing hle).nonneg
    obtain ⟨hclamp, -⟩ | ⟨-, ⟨-, heq⟩ | ⟨hlt, heq⟩⟩ := decreased_cases p c hle
    · right
      obtain hend | hend | ⟨-, -, hwide⟩ := hband.wide
      · exact hend
      · exact absurd (h.executing.2.trans hend) (not_le.mpr hhi)
      · -- the clamp is further away than a step
        obtain hstep | hend := hstep
        · linarith
        · exact hend
    · left
      linarith
    · left
      linarith
  · rw [hexec, hpend, next_lower hraised]
    exact lower_le h.whole h.executing hle

theorem steered_keep (h : Steered p c lo hi r) (hs : r.step p c (.packet .keep) = .ok r') :
    Steered p c lo hi r' := by
  obtain ⟨hexec, hpend, hheard⟩ := step_packet hs
  have hraised : r'.raised = r.raised := by
    unfold raised
    rw [hheard]
    simp
  have hlower : Reaction.lower ∈ r'.heard ↔ Reaction.lower ∈ r.heard := by
    rw [hheard]
    simp
  refine ⟨sane_packet h.toSane .keep hs, ?_, ?_, ?_⟩
  · rw [hexec, hpend]
    exact h.inside
  · rw [hexec, hpend]
    exact h.below
  · rw [hexec, hpend, hraised, hlower]
    exact h.above

theorem steered_step (hband : Band p c lo hi) (h : Steered p c lo hi r) (ho : Obeys lo hi r e)
    (hs : r.step p c e = .ok r') : Steered p c lo hi r' := by
  cases e with
  | packet reaction =>
    cases reaction with
    | raise => exact steered_raise hband h ho hs
    | lower => exact steered_lower hband h ho hs
    | keep => exact steered_keep h hs
  | load =>
    cases hs
    exact steered_start h.fair.whole h.pending

/-- **A load** leads to the band by the stride, or into it. -/
theorem off_load (hband : Band p c lo hi) (h : Steered p c lo hi r) (ho : Obeys lo hi r .load)
    (hs : r.step p c .load = .ok r') : r'.off lo hi ≤ max 0 (r.off lo hi - p.stride) := by
  cases hs
  show max (lo - r.pending) (r.pending - hi) ≤ _
  obtain hlo | hlo := lt_or_ge r.executing lo
  · -- from below
    have hoff : lo - r.executing ≤ r.off lo hi := le_max_left _ _
    have hstride : p.stride ≤ p.upStride := min_le_left _ _
    refine max_le ?_ (le_max_of_le_left ?_)
    · obtain hend | hgain := min_le_iff.mp (h.gained (ho.1 hlo))
      · exact le_max_of_le_left (sub_nonpos.mpr (hband.low.trans hend))
      · exact le_max_of_le_right (by linarith)
    · rw [sub_nonpos]
      obtain hend | hend | ⟨⟨hwide, -⟩, -⟩ := hband.wide
      · exact absurd (hend.trans h.executing.1) (not_le.mpr hlo)
      · exact h.pending.2.trans hend
      · obtain hstep | hend := h.below hlo
        · linarith
        · exact h.pending.2.trans hend
  obtain hhi | hhi := lt_or_ge hi r.executing
  · -- from above
    have hoff : r.executing - hi ≤ r.off lo hi := le_max_right _ _
    have hstride : p.stride ≤ p.downStride := min_le_right _ _
    obtain ⟨-, hstep, hgain⟩ := h.above hhi
    refine max_le (le_max_of_le_left ?_) ?_
    · rw [sub_nonpos]
      obtain hend | hend | ⟨-, hwide, -⟩ := hband.wide
      · exact hend.trans h.pending.1
      · exact absurd (h.executing.2.trans hend) (not_le.mpr hhi)
      · obtain hstep | hend := hstep
        · linarith
        · exact hend.trans h.pending.1
    · obtain hend | hgain := le_max_iff.mp (hgain (ho.2 hhi))
      · exact le_max_of_le_left (sub_nonpos.mpr (hend.trans hband.high))
      · exact le_max_of_le_right (by linarith)
  · rw [h.inside hlo hhi]
    exact le_max_of_le_left (off_nonpos.mpr ⟨hlo, hhi⟩)

/-- a load is a turn of the regulator -/
def isLoad : RegulatorEvent → Bool
  | .packet _ => false
  | .load => true

/-- **The regulator settles.** -/
theorem settles (hband : Band p c lo hi) {t : SimTime} (ht : WholeUs t) (h0 : InReserve c t)
    {es : List RegulatorEvent} (hm : Meets (step p c) (Obeys lo hi) (start t) es)
    (hr : run (step p c) (start t) es = .ok r) :
    r.off lo hi ≤ max 0 ((start t).off lo hi - es.countP isLoad • p.stride) := by
  rw [← turns_eq_countP hr]
  refine run_settles (I := Steered p c lo hi) (O := Obeys lo hi) (stride_nonneg p).2.2
    (fun r e r' h ho hs => steered_step hband h ho hs) (fun r e r' _ _ hs hT => ?_)
    (fun r e r' h ho hs hT => ?_) (steered_start ht h0) hm hr
  · cases e with
    | packet reaction =>
      unfold off
      rw [(step_packet hs).1]
    | load => cases hT
  · cases e with
    | packet reaction => cases hT
    | load => exact off_load hband h ho hs

/-- what the executed interval lacks to nine tenths of the cycle -/
def missing (c : SimTime) (r : Regulator) : SimTime := truncUs (c * (9 / 10)) - r.executing

theorem missing_load (h : Sane p c r) (ho : Overloaded r .load) (hs : r.step p c .load = .ok r') :
    r'.missing c ≤ max 0 (r.missing c - p.upStride) := by
  cases hs
  have hstart : (start r.pending).missing c = truncUs (c * (9 / 10)) - r.pending := rfl
  rw [hstart]
  unfold missing
  obtain hend | hgain := min_le_iff.mp (h.gained ho)
  · exact le_max_of_le_left (sub_nonpos.mpr hend)
  · exact le_max_of_le_right (by linarith)

/-- **Overload wins.** -/
theorem saturates {t : SimTime} (ht : WholeUs t) (h0 : InReserve c t) {es : List RegulatorEvent}
    (hm : Meets (step p c) Overloaded (start t) es) (hr : run (step p c) (start t) es = .ok r) :
    r.missing c ≤ max 0 ((start t).missing c - es.countP isLoad • p.upStride) := by
  rw [← turns_eq_countP hr]
  refine run_settles (I := Sane p c) (O := Overloaded) (stride_nonneg p).1
    (fun r e r' h _ hs => sane_step h hs) (fun r e r' _ _ hs hT => ?_)
    (fun r e r' h ho hs hT => ?_) (sane_start ht h0) hm hr
  · cases e with
    | packet reaction =>
      unfold missing
      rw [(step_packet hs).1]
    | load => cases hT
  · cases e with
    | packet reaction => cases hT
    | load => exact missing_load h ho hs

end Regulator

/-! ## the system -/

namespace AdaptSystem

variable {cfg : GateConfig} {xml : GateScheduleXml} {s s' : AdaptSystem}

/-- the number of loads in a run -/
def loads (cfg : GateConfig) (s : AdaptSystem) (es : List AdaptEvent) : ℕ :=
  (seen cfg s es).countP Regulator.isLoad

/-- a late packet in each of three cycles, and three cycles without -/
def lateThenQuiet : List AdaptEvent :=
  (List.replicate 3 [.received usSteps ⟨7, 2 / 10000, [0]⟩, .tick none, .tick none]).flatten ++
    List.replicate 6 (.tick none)

/-- 880 us of 1 ms for the time-triggered traffic -/
def nearlyFull : GateScheduleXml :=
  ⟨some (1 / 1000), none, [⟨88 / 100000, 128⟩, ⟨12 / 100000, 127⟩]⟩

/-- a late packet and an early one in each of two cycles -/
def lateAndEarly : List AdaptEvent :=
  (List.replicate 2 [.received usSteps ⟨7, 2 / 10000, [0]⟩, .received usSteps ⟨7, 1 / 100000, [0]⟩,
    .tick none, .tick none]).flatten

end AdaptSystem

end Nesting
