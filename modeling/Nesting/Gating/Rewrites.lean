import Nesting.Gating.Promise

/-!
# A pending list that is rewritten

What is written into `newSchedule` acts from the next load on.  `nextLoad` says when that is, from
the running list alone, and `KeepsOpen` compares the starts of the rewritten entries with a time.

* `openUntil_loaded`     a list that is executed and loaded again keeps a gate open when its entries
                         do;
* `openUntil_rewritten`  **rewriting the pending list keeps a gate open** when the gate was kept
                         open before and the rewritten entries, laid out from the next load on,
                         keep it open.
-/

set_option linter.unusedVariables false

namespace Nesting

namespace Schedule
variable {N : Schedule GateBitvector} {g : Nat} {t t' d : SimTime}

/-- executed from `t` on, no entry of the list closes gate `g` before `d` -/
def KeepsOpen (N : Schedule GateBitvector) (g : Nat) (t d : SimTime) : Prop :=
  ∀ k e, N.controlList[k]? = some e → e.scheduledObject.test g = false →
    N.startOf k < N.cycleTime → d ≤ t + N.startOf k

theorem KeepsOpen.mono (h : N.KeepsOpen g t d) (ht : t ≤ t') : N.KeepsOpen g t' d := by
  intro k e he hclosed hin
  have := h k e he hclosed hin
  linarith

/-- an entry that is applied at `u` -/
theorem KeepsOpen.test {k : Nat} {e : ControlListEntry GateBitvector} {u : SimTime}
    (h : N.KeepsOpen g t d) (he : N.controlList[k]? = some e) (hin : N.startOf k < N.cycleTime)
    (hu : t + N.startOf k ≤ u) (hlt : u < d) : e.scheduledObject.test g = true := by
  cases hv : e.scheduledObject.test g with
  | true => rfl
  | false =>
    have := h k e he hv hin
    linarith

end Schedule

namespace GateSystem

section
variable {cfg : GateConfig} {g : Nat} {d : SimTime} {s s' : GateSystem} {c : SimTime} {j : Nat}
  {N : Schedule GateBitvector}

/-! ## a list that is repeated -/

/-- `N` is executed, and loaded again at the end of its round -/
structure Loaded (N : Schedule GateBitvector) (s : GateSystem) : Prop where
  list : s.gc.currentSchedule.controlList = N.controlList
  cycle : s.gc.currentSchedule.cycleTime = N.cycleTime
  new : s.gc.newSchedule = N

theorem Loaded.ticked (h : Loaded N s) (ht : Ticked cfg c j s s') : Loaded N s' := by
  cases ht with
  | stay before executing gc entry trace =>
    refine ⟨?_, ?_, ?_⟩
    · rw [gc]
      exact h.list
    · rw [gc]
      exact h.cycle
    · rw [gc]
      exact h.new
  | load last executing gc entry trace =>
    refine ⟨?_, ?_, ?_⟩
    · rw [gc, ← h.new]
      rfl
    · rw [gc, ← h.new]
      rfl
    · rw [gc]
      exact h.new
  | reset before cut executing gc entry trace =>
    refine ⟨?_, ?_, ?_⟩
    · rw [gc]
      exact h.list
    · rw [gc]
      exact h.cycle
    · rw [gc]
      exact h.new

/-- **A list that is repeated**: later rounds close a gate no earlier than the first. -/
theorem openUntil_loaded (h : Executing cfg c j s) (hl : Loaded N s) (hk : N.KeepsOpen g c d) :
    OpenUntil cfg g d s := by
  intro n
  induction n generalizing c j s with
  | zero => trivial
  | succ n ih =>
    intro mac s' hs
    have ht := ticked_of_step h hs
    have hl' := hl.ticked ht
    have hcycle : N.startOf 0 < N.cycleTime := by
      rw [Schedule.startOf_zero, ← hl.cycle]
      exact h.current.cycle_pos
    have hlater : c ≤ dueTime c j s := by
      have := h.le_due
      have := h.current.startOf_nonneg j
      linarith
    have hpend : ∀ now, s.pendingTick = some now → now = dueTime c j s := fun now hp =>
      Option.some.inj (hp.symm.trans h.pending)
    have hzero : c + N.startOf 0 ≤ dueTime c j s := by
      rw [Schedule.startOf_zero, add_zero]
      exact hlater
    cases ht with
    | stay before executing gc entry trace =>
      refine ⟨fun now hp hlt => ?_, ih executing hl' hk⟩
      rw [hl.list] at entry
      rw [gateOpen_of_trace trace]
      rw [hpend now hp] at hlt
      have hdue : c + N.startOf (j + 1) = dueTime c j s := by
        rw [dueTime, min_eq_left before.le, startOf_congr hl.list]
      rw [startOf_congr hl.list, hl.cycle] at before
      exact hk.test entry before hdue.le hlt
    | load last executing gc entry trace =>
      refine ⟨fun now hp hlt => ?_, ih executing hl' (hk.mono hlater)⟩
      rw [hl.new] at entry
      rw [gateOpen_of_trace trace]
      rw [hpend now hp] at hlt
      exact hk.test entry hcycle hzero hlt
    | reset before cut executing gc entry trace =>
      refine ⟨fun now hp hlt => ?_, ih executing hl' (hk.mono hlater)⟩
      rw [hl.list] at entry
      rw [gateOpen_of_trace trace]
      rw [hpend now hp] at hlt
      exact hk.test entry hcycle hzero hlt

/-! ## the next load -/

/-- when `newSchedule` is loaded next: after the last entry; the end of the cycle comes before it in
a list that is cut short -/
def nextLoad (s : GateSystem) : Option SimTime :=
  let cur := s.gc.currentSchedule
  if s.gc.scheduleIndex = 0 then s.pendingTick
  else if cur.startOf (cur.controlList.length - 1) < cur.cycleTime then
    s.pendingTick.map (· + (min cur.total cur.cycleTime - cur.startOf s.gc.scheduleIndex))
  else none

theorem Executing.nextLoad_eq (h : Executing cfg c j s)
    (hlast : s.gc.currentSchedule.startOf (s.gc.currentSchedule.controlList.length - 1) <
      s.gc.currentSchedule.cycleTime) :
    s.nextLoad = some (c + min s.gc.currentSchedule.total s.gc.currentSchedule.cycleTime) := by
  unfold nextLoad
  rw [h.index, h.pending]
  rcases (Nat.succ_le_of_lt h.lt_length).lt_or_eq with hlt | heq
  · rw [Nat.mod_eq_of_lt hlt, if_neg (Nat.succ_ne_zero j), if_pos hlast, Option.map_some]
    have hle := (Schedule.startOf_mono h.current.nonNeg
      (show j + 1 ≤ s.gc.currentSchedule.controlList.length - 1 by omega)).trans hlast.le
    rw [min_eq_left hle]
    congr 1
    ring
  · rw [show j + 1 = _ from heq, Nat.mod_self, if_pos rfl, Schedule.startOf_of_le le_rfl]

/-- the system with `newSchedule` rewritten -/
def rewritten (s : GateSystem) (N : Schedule GateBitvector) : GateSystem :=
  { s with gc := { s.gc with newSchedule := N } }

theorem executing_rewritten (h : Executing cfg c j s) (hN : N.WholeTicks cfg) :
    Executing cfg c j (s.rewritten N) :=
  ⟨h.current, hN, h.next, h.lt_length, h.index, h.cycleStart, h.lastChange, h.within, h.counted,
    h.pending⟩

/-- before the load the ticks do not depend on the pending list -/
theorem ticked_rewritten (h : Executing cfg c j s) (hN : N.WholeTicks cfg) {s1 : GateSystem}
    (h1 : Ticked cfg c j (s.rewritten N) s1) (mac : Option PreemptMac)
    (hnot : j + 1 ≠ s.gc.currentSchedule.controlList.length) :
    ∃ s2 c' j', s.step cfg (.tick mac) = .ok s2 ∧ s1 = s2.rewritten N ∧ Executing cfg c' j' s2 ∧
      s2.gc.currentSchedule = s.gc.currentSchedule ∧
      (s.gc.currentSchedule.startOf (s.gc.currentSchedule.controlList.length - 1) <
        s.gc.currentSchedule.cycleTime → c' = c) := by
  have hcount : NextCounted cfg j s := by
    have hc := h1.nextCounted
    unfold NextCounted at hc ⊢
    rw [if_neg hnot]
    rw [if_neg (show j + 1 ≠ (s.rewritten N).gc.currentSchedule.controlList.length from hnot)] at hc
    exact hc
  obtain ⟨s2, hs2⟩ := (tick_executing h mac).1 hcount
  refine ⟨s2, ?_⟩
  have ht2 := ticked_of_step h hs2
  cases ht2 with
  | stay before executing gc entry trace =>
    refine ⟨c, j + 1, hs2, ?_, executing, by rw [gc]; rfl, fun _ => rfl⟩
    cases h1 with
    | stay before1 executing1 gc1 entry1 trace1 =>
      cases (entry.symm.trans entry1 : some _ = some _)
      apply executing_ext executing1 (executing_rewritten executing hN)
      · rw [gc1]
        show _ = { s2.gc with newSchedule := N }
        rw [gc]
        rfl
      · rw [trace1]
        exact trace.symm
    | load last1 executing1 gc1 entry1 trace1 => exact absurd last1 hnot
    | reset before1 cut1 executing1 gc1 entry1 trace1 => exact absurd before (not_lt.mpr cut1)
  | load last executing gc entry trace => exact absurd last hnot
  | reset before cut executing gc entry trace =>
    refine ⟨_, 0, hs2, ?_, executing, by rw [gc]; rfl, fun hlast => ?_⟩
    · cases h1 with
      | stay before1 executing1 gc1 entry1 trace1 => exact absurd before1 (not_lt.mpr cut)
      | load last1 executing1 gc1 entry1 trace1 => exact absurd last1 hnot
      | reset before1 cut1 executing1 gc1 entry1 trace1 =>
        cases (entry.symm.trans entry1 : some _ = some _)
        apply executing_ext executing1 (executing_rewritten executing hN)
        · rw [gc1]
          show _ = { s2.gc with newSchedule := N }
          rw [gc]
          rfl
        · rw [trace1]
          exact trace.symm
    · -- the cycle ends before the last entry
      have := Schedule.startOf_mono h.current.nonNeg
        (show j + 1 ≤ s.gc.currentSchedule.controlList.length - 1 by omega)
      exact absurd (cut.trans this) (not_le.mpr hlast)

/-- a rewritten list in an executing system -/
theorem openUntil_rewritten (h : Executing cfg c j s) (hN : N.WholeTicks cfg)
    (hk : ∀ t ∈ s.nextLoad, N.KeepsOpen g t d) (ho : OpenUntil cfg g d s) :
    OpenUntil cfg g d (s.rewritten N) := by
  have hk' : s.gc.currentSchedule.startOf (s.gc.currentSchedule.controlList.length - 1) <
      s.gc.currentSchedule.cycleTime →
      N.KeepsOpen g (c + min s.gc.currentSchedule.total s.gc.currentSchedule.cycleTime) d :=
    fun hlast => hk _ (h.nextLoad_eq hlast)
  clear hk
  intro n
  have hn := ho n
  clear ho
  induction n generalizing c j s with
  | zero => trivial
  | succ n ih =>
    intro mac s1 hs1
    have h1 := ticked_of_step (executing_rewritten h hN) hs1
    by_cases hnot : j + 1 = s.gc.currentSchedule.controlList.length
    swap
    · obtain ⟨s2, c', j', hs2, rfl, hex, hcur, hsame⟩ := ticked_rewritten h hN h1 mac hnot
      obtain ⟨hopen, hrest⟩ := hn mac s2 hs2
      refine ⟨fun now hp hlt => hopen now hp hlt, ih hex ?_ hrest⟩
      rw [hcur]
      intro hlast
      rw [hsame hlast]
      exact hk' hlast
    -- the rewritten list is loaded
    have hlast : s.gc.currentSchedule.startOf (s.gc.currentSchedule.controlList.length - 1) <
        s.gc.currentSchedule.cycleTime := by
      rw [show s.gc.currentSchedule.controlList.length - 1 = j by omega]
      exact h.within
    have hkeeps := hk' hlast
    have hdue : dueTime c j (s.rewritten N) =
        c + min s.gc.currentSchedule.total s.gc.currentSchedule.cycleTime := by
      show c + min (s.gc.currentSchedule.startOf (j + 1)) _ = _
      rw [hnot, Schedule.startOf_of_le le_rfl]
      rfl
    cases h1 with
    | stay before1 executing1 gc1 entry1 trace1 =>
      exact absurd hnot (List.getElem?_eq_some_iff.mp entry1).1.ne
    | load last1 executing1 gc1 entry1 trace1 =>
      rw [hdue] at executing1 gc1 trace1
      refine ⟨fun now hp hlt => ?_, openUntil_loaded executing1 ?_ hkeeps n⟩
      · cases h.pending.symm.trans hp
        rw [gateOpen_of_trace trace1]
        refine hkeeps.test entry1 ?_ ?_ hlt
        · rw [Schedule.startOf_zero]
          exact hN.cycle_pos
        · rw [Schedule.startOf_zero, add_zero, hnot, Schedule.startOf_of_le le_rfl]
      · refine ⟨?_, ?_, ?_⟩ <;> rw [gc1] <;> rfl
    | reset before1 cut1 executing1 gc1 entry1 trace1 => exact absurd hnot before1.ne

/-- a rewritten list before the first tick -/
theorem openUntil_rewritten_waiting {p : SimTime} (h : Waiting cfg p s) (hN : N.WholeTicks cfg)
    (hk : ∀ t ∈ s.nextLoad, N.KeepsOpen g t d) : OpenUntil cfg g d (s.rewritten N) := by
  have hload : s.nextLoad = some p := by
    rw [nextLoad, if_pos h.index, h.pending]
  have hw : Waiting cfg p (s.rewritten N) :=
    ⟨h.current, h.loaded, h.index, h.lastChange, hN, h.pending, h.nonneg, h.trace⟩
  have hkeeps := hk p hload
  refine openUntil_of_first hw fun s' e hex hgc he hopen => ⟨fun hlt => ?_, ?_⟩
  · refine hkeeps.test he ?_ ?_ hlt
    · rw [Schedule.startOf_zero]
      exact hN.cycle_pos
    · rw [Schedule.startOf_zero, add_zero]
  · refine openUntil_loaded hex ?_ hkeeps
    refine ⟨?_, ?_, ?_⟩ <;> rw [hgc] <;> rfl

end
end GateSystem
end Nesting
