import Nesting.Gating.GuardBand

/-!
# When a gate closes next

With the pending schedule left alone, ticks alone decide when a gate closes.

* `Closes`, `closings`   ticks alone set a closed vector for gate `g` at `t`, and all these times;
* `Underway`      an entry has been applied; `cycleStart` has its value, or it no longer matters;
* `exists_isLeast_closings`  if a gate closes at all there is a first time;
* `openUntil_allOpen`        **a list whose applied entries are open never closes the gate.**
-/

set_option linter.unusedVariables false

namespace Nesting
namespace GateSystem

/-- ticks alone set a closed vector for gate `g` at `t` -/
inductive Closes (cfg : GateConfig) (g : Nat) (t : SimTime) : GateSystem → Prop
  | now {s s' : GateSystem} {mac : Option PreemptMac} (tick : s.step cfg (.tick mac) = .ok s')
      (due : s.pendingTick = some t) (closed : s'.gateOpen g = false) : Closes cfg g t s
  | later {s s' : GateSystem} {mac : Option PreemptMac} (tick : s.step cfg (.tick mac) = .ok s')
      (closes : Closes cfg g t s') : Closes cfg g t s

def closings (cfg : GateConfig) (g : Nat) (s : GateSystem) : Set SimTime :=
  {t | Closes cfg g t s}

section
variable {cfg : GateConfig} {g : Nat} {d t : SimTime} {s s' s1 s2 : GateSystem} {c : SimTime}
  {j k : Nat} {N : Schedule GateBitvector}

/-- a gate that is kept open closes later -/
theorem OpenUntil.le_of_closes (h : OpenUntil cfg g d s) (hc : Closes cfg g t s) : d ≤ t := by
  induction hc with
  | now tick due closed =>
    by_contra hlt
    have hopen := (openUntil_iff.mp h _ _ tick).1 t due (not_le.mp hlt)
    exact absurd (hopen.symm.trans closed) nofun
  | later tick closes ih => exact ih (openUntil_iff.mp h _ _ tick).2

theorem closings_eq_empty (h : ∀ d, OpenUntil cfg g d s) : closings cfg g s = ∅ := by
  apply Set.eq_empty_of_forall_notMem
  intro t ht
  have hle := (h (t + 1)).le_of_closes ht
  linarith

/-! ## an applied entry -/

/-- entry `j` of the round that started at `c` has been applied; a query has moved `cycleStart` at
most in a list that fits its cycle, or while the last entry is executed -/
def Underway (cfg : GateConfig) (c : SimTime) (j : Nat) (s : GateSystem) : Prop :=
  Executing cfg c j s ∨
    j + 1 = s.gc.currentSchedule.controlList.length ∧ Executing cfg c j (s.moved c)

theorem Underway.base (h : Underway cfg c j s) : Executing cfg c j (s.moved c) := by
  rcases h with h | ⟨-, h⟩
  · exact ⟨h.current, h.new, h.next, h.lt_length, h.index, Or.inl rfl, h.lastChange, h.within,
      h.counted, h.pending⟩
  · exact h

theorem Underway.pending (h : Underway cfg c j s) : s.pendingTick = some (dueTime c j s) :=
  h.base.pending

/-- where the last entry ends does not depend on `cycleStart` any more -/
theorem Underway.ticked (h : Underway cfg c j s) (mac : Option PreemptMac) :
    (NextCounted cfg j s → ∃ s', s.step cfg (.tick mac) = .ok s') ∧
      ∀ s', s.step cfg (.tick mac) = .ok s' → Ticked cfg c j s s' := by
  rcases h with h | ⟨hlast, h⟩
  · exact tick_executing h mac
  · have hloads : s.gc.Loads := by
      refine ⟨?_, ?_⟩
      · have hindex : s.gc.scheduleIndex = (j + 1) % s.gc.currentSchedule.controlList.length :=
          h.index
        rw [hindex, hlast, Nat.mod_self]
      · have hnext : s.gc.nextSchedule = .newSchedule := h.next
        rw [hnext]
        exact nofun
    obtain ⟨hsome, hall⟩ := tick_load cfg mac hloads h.new h.pending
    refine ⟨fun hn => hsome ?_, fun s' hs' => ?_⟩
    · rw [NextCounted, if_pos hlast] at hn
      exact hn
    · obtain ⟨hex, hgc, e, he, htr⟩ := hall s' hs'
      exact .load hlast hex hgc he htr

theorem Underway.ticked_of_step (h : Underway cfg c j s) {mac : Option PreemptMac}
    (hs : s.step cfg (.tick mac) = .ok s') : Ticked cfg c j s s' := (h.ticked mac).2 s' hs

/-- a query that moves `cycleStart` on in a list that fits, or anywhere in the last entry -/
theorem Underway.moved (h : Underway cfg c j s) {x : SimTime}
    (hx : s.gc.currentSchedule.Fits ∧ s.gc.cycleStart ≤ x ∨
      j + 1 = s.gc.currentSchedule.controlList.length) : Underway cfg c j (s.moved x) := by
  rcases hx with ⟨hfits, hle⟩ | hlast
  · rcases h with h | ⟨hlast, h⟩
    · refine Or.inl (executing_moved h hfits ?_)
      rcases h.cycleStart with heq | ⟨-, hc⟩
      · rw [← heq]
        exact hle
      · exact hc.trans hle
    · exact Or.inr ⟨hlast, h⟩
  · exact Or.inr ⟨hlast, h.base⟩

/-! ## one tick -/

/-- the entry that a tick applies is executed from then on -/
theorem Ticked.applied (h : Ticked cfg c j s s') : ∃ c' j' e, Executing cfg c' j' s' ∧
    s'.gc.currentSchedule.controlList[j']? = some e ∧
    s'.trace = s.trace ++ [(dueTime c j s, e.scheduledObject)] ∧
    dueTime c j s = c' + s'.gc.currentSchedule.startOf j' := by
  cases h with
  | stay before executing gc entry trace =>
    refine ⟨c, j + 1, _, executing, ?_, trace, ?_⟩
    · rw [gc]
      exact entry
    · rw [gc, dueTime, min_eq_left before.le]
      rfl
  | load last executing gc entry trace =>
    refine ⟨_, 0, _, executing, ?_, trace, ?_⟩
    · rw [gc]
      exact entry
    · rw [Schedule.startOf_zero, add_zero]
  | reset before cut executing gc entry trace =>
    refine ⟨_, 0, _, executing, ?_, trace, ?_⟩
    · rw [gc]
      exact entry
    · rw [Schedule.startOf_zero, add_zero]

/-- the MAC has no part in what a tick applies -/
theorem Ticked.unique (h1 : Ticked cfg c j s s1) (h2 : Ticked cfg c j s s2) : s1 = s2 := by
  cases h1 with
  | stay before executing gc entry trace =>
    cases h2 with
    | stay before' executing' gc' entry' trace' =>
      cases entry.symm.trans entry'
      exact executing_ext executing executing' (gc.trans gc'.symm) (trace.trans trace'.symm)
    | load last' executing' gc' entry' trace' =>
      exact absurd last' (List.getElem?_eq_some_iff.mp entry).1.ne
    | reset before' cut' executing' gc' entry' trace' => exact absurd before (not_lt.mpr cut')
  | load last executing gc entry trace =>
    cases h2 with
    | stay before' executing' gc' entry' trace' =>
      exact absurd last (List.getElem?_eq_some_iff.mp entry').1.ne
    | load last' executing' gc' entry' trace' =>
      cases entry.symm.trans entry'
      exact executing_ext executing executing' (gc.trans gc'.symm) (trace.trans trace'.symm)
    | reset before' cut' executing' gc' entry' trace' => exact absurd last before'.ne
  | reset before cut executing gc entry trace =>
    cases h2 with
    | stay before' executing' gc' entry' trace' => exact absurd before' (not_lt.mpr cut)
    | load last' executing' gc' entry' trace' => exact absurd last' before.ne
    | reset before' cut' executing' gc' entry' trace' =>
      cases entry.symm.trans entry'
      exact executing_ext executing executing' (gc.trans gc'.symm) (trace.trans trace'.symm)

/-- what has to be shown of the next tick -/
theorem Underway.openUntil_of_ticked (h : Underway cfg c j s) (ht : Ticked cfg c j s s')
    (hnext : dueTime c j s < d → s'.gateOpen g = true) (ho : OpenUntil cfg g d s') :
    OpenUntil cfg g d s := by
  rw [openUntil_iff]
  intro mac s1 hs1
  obtain rfl := (h.ticked_of_step hs1).unique ht
  refine ⟨fun now hp hlt => hnext ?_, ho⟩
  rw [h.pending] at hp
  cases hp
  exact hlt

/-- nothing is set before the next tick is due -/
theorem Underway.openUntil_due (h : Underway cfg c j s) :
    OpenUntil cfg g (dueTime c j s) s := by
  rw [openUntil_iff]
  intro mac s1 hs1
  obtain ⟨c', j', e, hex, -, -, hdue⟩ := (h.ticked_of_step hs1).applied
  refine ⟨fun now hp hlt => ?_, ?_⟩
  · cases h.pending.symm.trans hp
    exact absurd hlt (lt_irrefl _)
  · rw [hdue]
    exact openUntil_of_le_due hex hex.le_due

theorem isLeast_closings_of_closed (h : Underway cfg c j s) {mac : Option PreemptMac}
    (hs : s.step cfg (.tick mac) = .ok s') (hclosed : s'.gateOpen g = false) :
    IsLeast (closings cfg g s) (dueTime c j s) :=
  ⟨.now hs h.pending hclosed, fun _ hx => h.openUntil_due.le_of_closes hx⟩

/-- a tick that leaves the gate open -/
theorem isLeast_closings_of_open (h : Underway cfg c j s) {mac : Option PreemptMac}
    (hs : s.step cfg (.tick mac) = .ok s') (hopen : s'.gateOpen g = true)
    (hl : IsLeast (closings cfg g s') t) : IsLeast (closings cfg g s) t := by
  have ht := h.ticked_of_step hs
  refine ⟨.later hs hl.1, fun x hx => ?_⟩
  cases hx with
  | now tick' due' closed' =>
    obtain rfl := (h.ticked_of_step tick').unique ht
    exact absurd (hopen.symm.trans closed') nofun
  | later tick' closes' =>
    obtain rfl := (h.ticked_of_step tick').unique ht
    exact hl.2 closes'

/-- **The first closing**: if ticks alone close the gate, they do so for a first time. -/
theorem exists_isLeast_closings (h : Underway cfg c j s) (hc : Closes cfg g t s) :
    ∃ t0, IsLeast (closings cfg g s) t0 := by
  induction hc generalizing c j with
  | now tick due closed => exact ⟨_, isLeast_closings_of_closed h tick closed⟩
  | @later s s' mac tick closes ih =>
    cases hopen : s'.gateOpen g with
    | false => exact ⟨_, isLeast_closings_of_closed h tick hopen⟩
    | true =>
      obtain ⟨c', j', e, hex, -, -, -⟩ := (h.ticked_of_step tick).applied
      obtain ⟨t0, ht0⟩ := ih (Or.inl hex)
      exact ⟨t0, isLeast_closings_of_open h tick hopen ht0⟩

/-! ## a list that is repeated -/

/-- the round ends with entry `k`, and gate `g` is open in all entries up to it -/
structure AllOpen (N : Schedule GateBitvector) (g k : Nat) : Prop where
  lt_length : k < N.controlList.length
  ends : N.cycleTime ≤ N.startOf (k + 1) ∨ k + 1 = N.controlList.length
  isOpen : ∀ m, m ≤ k → N.openAt g m = true

/-- **A list whose applied entries are open** never closes the gate. -/
theorem openUntil_allOpen (hN : AllOpen N g k) (h : Executing cfg c j s) (hl : Loaded N s)
    (d : SimTime) : OpenUntil cfg g d s := by
  refine openUntil_loaded h hl fun m e he hclosed hin => ?_
  have hlt := (List.getElem?_eq_some_iff.mp he).1
  have hNw : N.WholeTicks cfg := hl.new ▸ h.new
  rw [← Schedule.openAt_of he] at hclosed
  rcases le_or_gt m k with hm | hm
  · exact absurd ((hN.isOpen m hm).symm.trans hclosed) nofun
  · rcases hN.ends with hends | hends
    · exact absurd (hends.trans (Schedule.startOf_mono hNw.nonNeg hm)) (not_le.mpr hin)
    · omega

end
end GateSystem
end Nesting
