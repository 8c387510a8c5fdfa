import Nesting.Gating.System

/-!
# Rounds of the control list

When ticks come on time the controller runs through its list in rounds.  `Executing cfg c j s` says
that entry `j` of the round that started at `c` has been applied; `tick_executing` says when the
next tick succeeds and what it does, in the three ways of `Ticked`:

* `stay`    the next entry of the round,
* `load`    entry 0 of `newSchedule`, after the last entry,
* `reset`   entry 0 of the same list, when the cycle ends before the last entry.

`cycleStart` is the start of the round, or was moved on by queries while the list fits its cycle.
-/

set_option linter.unusedVariables false

namespace Nesting

/-! ## whole ticks -/

/-- a whole number of ticks -/
def OnTick (cfg : GateConfig) (t : SimTime) : Prop := ∃ n : ℕ, t = n * cfg.clockRate

section
variable {cfg : GateConfig}

theorem OnTick.add {s t : SimTime} (hs : OnTick cfg s) (ht : OnTick cfg t) : OnTick cfg (s + t) := by
  obtain ⟨m, rfl⟩ := hs
  obtain ⟨n, rfl⟩ := ht
  exact ⟨m + n, by push_cast; ring⟩

theorem OnTick.sub {s t : SimTime} (hc : 0 < cfg.clockRate) (hs : OnTick cfg s)
    (ht : OnTick cfg t) (h : t ≤ s) : OnTick cfg (s - t) := by
  obtain ⟨m, rfl⟩ := hs
  obtain ⟨n, rfl⟩ := ht
  have hnm : n ≤ m := by
    have := le_of_mul_le_mul_right h hc
    exact_mod_cast this
  exact ⟨m - n, by rw [Nat.cast_sub hnm]; ring⟩

theorem OnTick.sum {l : List SimTime} (h : ∀ t ∈ l, OnTick cfg t) : OnTick cfg l.sum := by
  induction l with
  | nil => exact ⟨0, by simp⟩
  | cons t l ih =>
    obtain ⟨ht, hl⟩ := List.forall_mem_cons.mp h
    rw [List.sum_cons]
    exact ht.add (ih hl)

theorem OnTick.min {s t : SimTime} (hs : OnTick cfg s) (ht : OnTick cfg t) :
    OnTick cfg (min s t) := by
  rcases min_choice s t with h | h
  · rw [h]
    exact hs
  · rw [h]
    exact ht

theorem OnTick.nonneg {t : SimTime} (hc : 0 < cfg.clockRate) (h : OnTick cfg t) : 0 ≤ t := by
  obtain ⟨n, rfl⟩ := h
  positivity

/-- a whole number of ticks is subscribed for without rounding -/
theorem OnTick.floor_mul {t : SimTime} (hc : 0 < cfg.clockRate) (h : OnTick cfg t) :
    (⌊t / cfg.clockRate⌋₊ : ℚ) * cfg.clockRate = t := by
  obtain ⟨n, rfl⟩ := h
  rw [mul_div_cancel_right₀ _ hc.ne', Nat.floor_natCast]

theorem OnTick.counted_iff {t : SimTime} (hc : 0 < cfg.clockRate) (h : OnTick cfg t) :
    GateSystem.Counted (t / cfg.clockRate) ↔ t / cfg.clockRate < 2 ^ 32 := by
  have h0 : 0 ≤ t / cfg.clockRate := div_nonneg (h.nonneg hc) hc.le
  exact ⟨And.right, fun hlt => ⟨by linarith, hlt⟩⟩

end

namespace Schedule
variable {cfg : GateConfig} {s : Schedule GateBitvector}

/-- a list with a positive cycle time, everything in whole ticks -/
structure WholeTicks (cfg : GateConfig) (s : Schedule GateBitvector) : Prop where
  clock : 0 < cfg.clockRate
  nonempty : 0 < s.controlList.length
  lengths : ∀ e ∈ s.controlList, OnTick cfg e.timeInterval
  cycle : OnTick cfg s.cycleTime
  cycle_pos : 0 < s.cycleTime

/-- how long entry `j` is executed: the end of the cycle cuts it -/
def heldFor (s : Schedule GateBitvector) (j : Nat) : SimTime :=
  min (s.startOf (j + 1)) s.cycleTime - s.startOf j

/-- the ticks of each entry that is executed fit an `unsigned` -/
def Subscribable (cfg : GateConfig) (s : Schedule GateBitvector) : Prop :=
  ∀ j < s.controlList.length, s.startOf j < s.cycleTime → s.heldFor j / cfg.clockRate < 2 ^ 32

instance (cfg : GateConfig) (s : Schedule GateBitvector) : Decidable (s.Subscribable cfg) :=
  inferInstanceAs (Decidable (∀ j < _, _ → _))

/-- every entry starts before the cycle ends, and the last one ends with it at the latest -/
def Fits (s : Schedule GateBitvector) : Prop :=
  s.total ≤ s.cycleTime ∧ s.startOf (s.controlList.length - 1) < s.cycleTime

namespace WholeTicks

theorem nonNeg (h : s.WholeTicks cfg) : s.NonNeg := fun e he => (h.lengths e he).nonneg h.clock

theorem startOf_onTick (h : s.WholeTicks cfg) (j : Nat) : OnTick cfg (s.startOf j) := by
  apply OnTick.sum
  intro t ht
  obtain ⟨e, he, rfl⟩ := List.mem_map.mp (List.mem_of_mem_take ht)
  exact h.lengths e he

theorem startOf_nonneg (h : s.WholeTicks cfg) (j : Nat) : 0 ≤ s.startOf j :=
  (h.startOf_onTick j).nonneg h.clock

theorem heldFor_onTick (h : s.WholeTicks cfg) {j : Nat} (hj : s.startOf j ≤ s.cycleTime) :
    OnTick cfg (s.heldFor j) :=
  OnTick.sub h.clock ((h.startOf_onTick _).min h.cycle) (h.startOf_onTick j)
    (le_min (startOf_le_succ h.nonNeg j) hj)

theorem startOf_le_total (h : s.WholeTicks cfg) (j : Nat) : s.startOf j ≤ s.total := by
  rcases le_total j s.controlList.length with hj | hj
  · rw [← startOf_of_le (s := s) (j := s.controlList.length) le_rfl]
    exact startOf_mono h.nonNeg hj
  · rw [startOf_of_le hj]

end WholeTicks

theorem Fits.startOf_lt (hf : s.Fits) (h : s.WholeTicks cfg) {j : Nat}
    (hj : j < s.controlList.length) : s.startOf j < s.cycleTime :=
  (startOf_mono h.nonNeg (show j ≤ s.controlList.length - 1 by omega)).trans_lt hf.2

theorem Fits.startOf_le (hf : s.Fits) (h : s.WholeTicks cfg) (j : Nat) :
    s.startOf j ≤ s.cycleTime := (h.startOf_le_total j).trans hf.1

end Schedule

namespace GateSystem

/-! ## executing an entry -/

/-- entry `j` of the round that started at `c` has been applied -/
structure Executing (cfg : GateConfig) (c : SimTime) (j : Nat) (s : GateSystem) : Prop where
  current : s.gc.currentSchedule.WholeTicks cfg
  new : s.gc.newSchedule.WholeTicks cfg
  next : s.gc.nextSchedule = .newSchedule
  lt_length : j < s.gc.currentSchedule.controlList.length
  index : s.gc.scheduleIndex = (j + 1) % s.gc.currentSchedule.controlList.length
  cycleStart : s.gc.cycleStart = c ∨ s.gc.currentSchedule.Fits ∧ c ≤ s.gc.cycleStart
  lastChange : s.gc.lastChange = c + s.gc.currentSchedule.startOf j
  within : s.gc.currentSchedule.startOf j < s.gc.currentSchedule.cycleTime
  counted : s.gc.currentSchedule.heldFor j / cfg.clockRate < 2 ^ 32
  pending : s.pendingTick = some
    (c + min (s.gc.currentSchedule.startOf (j + 1)) s.gc.currentSchedule.cycleTime)

section
variable {cfg : GateConfig} {s s' : GateSystem} {c : SimTime} {j : Nat}

/-- when the tick of an executed entry is due -/
def dueTime (c : SimTime) (j : Nat) (s : GateSystem) : SimTime :=
  c + min (s.gc.currentSchedule.startOf (j + 1)) s.gc.currentSchedule.cycleTime

theorem Executing.le_due (h : Executing cfg c j s) :
    c + s.gc.currentSchedule.startOf j ≤ dueTime c j s :=
  add_le_add_right (le_min (Schedule.startOf_le_succ h.current.nonNeg j) h.within.le) c

/-- the tick that applies entry `j` of the prepared controller: it succeeds if its subscription
does -/
theorem executing_of_prepared (cfg : GateConfig) {now : SimTime} (mac : Option PreemptMac)
    (hp : s.pendingTick = some now) (hload : s.gc.newSchedule.NonNeg)
    (hcur : (s.gc.prepared now).currentSchedule.WholeTicks cfg)
    (hnew : (s.gc.prepared now).newSchedule.WholeTicks cfg)
    (hnext : (s.gc.prepared now).nextSchedule = .newSchedule)
    (hindex : (s.gc.prepared now).scheduleIndex = j)
    (hj : j < (s.gc.prepared now).currentSchedule.controlList.length)
    (hstart : (s.gc.prepared now).cycleStart = c ∨
      (s.gc.prepared now).currentSchedule.Fits ∧ c ≤ (s.gc.prepared now).cycleStart)
    (hnow : now = c + (s.gc.prepared now).currentSchedule.startOf j)
    (hwithin : (s.gc.prepared now).currentSchedule.startOf j
      < (s.gc.prepared now).currentSchedule.cycleTime) :
    ((s.gc.prepared now).currentSchedule.heldFor j / cfg.clockRate < 2 ^ 32 →
      ∃ s', s.step cfg (.tick mac) = .ok s') ∧
    ∀ s', s.step cfg (.tick mac) = .ok s' → Executing cfg c j s' ∧
      s'.gc = (s.gc.prepared now).advance now ∧
      ∃ e, (s.gc.prepared now).currentSchedule.controlList[j]? = some e ∧
        s'.trace = s.trace ++ [(now, e.scheduledObject)] := by
  obtain ⟨gp, hgp⟩ : ∃ gp, s.gc.prepared now = gp := ⟨_, rfl⟩
  rw [hgp] at hcur hnew hnext hindex hj hstart hnow hwithin ⊢
  have he := List.getElem?_eq_getElem hj
  have hi : (s.gc.prepared now).scheduleIndex
      < (s.gc.prepared now).currentSchedule.controlList.length := by
    rw [hgp, hindex]
    exact hj
  obtain ⟨ap, hu⟩ := GateController.updateSchedule_total cfg mac now (fun _ => hload) hi (by
    intro next hn
    rw [hgp, GateController.next, hnext] at hn
    cases hn
    exact hnew.nonempty)
  obtain ⟨e, he', -, hbit, hidle⟩ := GateController.applyEntry_ok
    (GateController.updateSchedule_applies (GateController.length_pos_of_loads hi) hu)
  rw [hgp, hindex, he] at he'
  cases he'
  rw [hgp] at hidle hu
  -- the tick is due at the end of the entry or of the cycle
  have hend := Schedule.startOf_succ he
  have hlen : gp.tickLength now gp.currentSchedule.controlList[j].timeInterval
      = gp.currentSchedule.heldFor j := by
    rw [GateController.tickLength, Schedule.heldFor]
    show (if _ > gp.cycleStart + gp.currentSchedule.cycleTime then
      gp.cycleStart + gp.currentSchedule.cycleTime - _ else _) = _
    rcases hstart with hc | ⟨hfits, hle⟩
    · rw [hc, hend]
      split
      · rename_i hgt
        rw [min_eq_right (by linarith), hnow]
        ring
      · rename_i hle
        rw [min_eq_left (by linarith)]
        ring
    · have := hfits.startOf_le hcur (j + 1)
      rw [if_neg (by linarith), min_eq_left this, hend]
      ring
  have hon := hcur.heldFor_onTick hwithin.le
  rw [hlen] at hidle
  constructor
  · intro hcount
    refine ⟨⟨gp.advance now, ap.idleTicks.map fun q => now + ⌊q⌋₊ * cfg.clockRate,
      s.trace ++ [(now, ap.bitvector)]⟩, step_tick_iff.mpr ⟨now, ap, hp, hu, ?_, rfl, rfl⟩⟩
    rw [hidle]
    intro q hq
    cases hq
    exact (hon.counted_iff hcur.clock).mpr hcount
  · intro s' hs'
    obtain ⟨now', ap', hp', hu', hq, hnext', htr⟩ := step_tick_iff.mp hs'
    rw [hp] at hp'
    cases hp'
    rw [hu] at hu'
    obtain ⟨hgc, rfl⟩ := Prod.mk.inj (Except.ok.inj hu')
    rw [hidle] at hq hnext'
    refine ⟨?_, hgc.symm, _, he, by rw [htr, hbit]⟩
    have hcs : s'.gc.currentSchedule = gp.currentSchedule := by
      rw [← hgc]
      rfl
    constructor
    · rw [hcs]
      exact hcur
    · rw [← hgc]
      exact hnew
    · rw [← hgc]
      exact hnext
    · rw [hcs]
      exact hj
    · rw [← hgc]
      show (gp.scheduleIndex + 1) % _ = _
      rw [hindex]
      rfl
    · rw [← hgc]
      exact hstart
    · rw [← hgc]
      exact hnow
    · rw [hcs]
      exact hwithin
    · rw [hcs]
      exact (hon.counted_iff hcur.clock).mp (hq _ rfl)
    · rw [hcs, hnext', Option.map_some, hon.floor_mul hcur.clock, hnow, Schedule.heldFor]
      congr 1
      ring

/-- entry 0 of `newSchedule` is applied at the end of a round, or at the first tick -/
theorem tick_load (cfg : GateConfig) {now : SimTime} (mac : Option PreemptMac) (hl : s.gc.Loads)
    (hnew : s.gc.newSchedule.WholeTicks cfg) (hp : s.pendingTick = some now) :
    (s.gc.newSchedule.heldFor 0 / cfg.clockRate < 2 ^ 32 →
      ∃ s', s.step cfg (.tick mac) = .ok s') ∧
    ∀ s', s.step cfg (.tick mac) = .ok s' → Executing cfg now 0 s' ∧
      s'.gc = (s.gc.loadedAt now).advance now ∧
      ∃ e, s.gc.newSchedule.controlList[0]? = some e ∧
        s'.trace = s.trace ++ [(now, e.scheduledObject)] := by
  have hprep := GateController.prepared_of_loads now hl
  have hexec := executing_of_prepared cfg (c := now) (j := 0)
    mac hp hnew.nonNeg (by
      rw [hprep]
      exact ⟨hnew.clock, hnew.nonempty, hnew.lengths, hnew.cycle, hnew.cycle_pos⟩)
    (by rw [hprep]; exact hnew) (by rw [hprep]; rfl) (by rw [hprep]; exact hl.1)
    (by rw [hprep]; exact hnew.nonempty) (by rw [hprep]; exact Or.inl rfl)
    (by rw [Schedule.startOf_zero, add_zero]) (by rw [hprep]; exact hnew.cycle_pos)
  rw [hprep] at hexec
  exact hexec

/-- the three ways a tick goes on from entry `j` of the round that started at `c` -/
inductive Ticked (cfg : GateConfig) (c : SimTime) (j : Nat) (s : GateSystem) : GateSystem → Prop
  /-- the next entry -/
  | stay {s' : GateSystem} {e : ControlListEntry GateBitvector}
      (before : s.gc.currentSchedule.startOf (j + 1) < s.gc.currentSchedule.cycleTime)
      (executing : Executing cfg c (j + 1) s')
      (gc : s'.gc = s.gc.advance (dueTime c j s))
      (entry : s.gc.currentSchedule.controlList[j + 1]? = some e)
      (trace : s'.trace = s.trace ++ [(dueTime c j s, e.scheduledObject)]) : Ticked cfg c j s s'
  /-- entry 0 of `newSchedule`, after the last entry -/
  | load {s' : GateSystem} {e : ControlListEntry GateBitvector}
      (last : j + 1 = s.gc.currentSchedule.controlList.length)
      (executing : Executing cfg (dueTime c j s) 0 s')
      (gc : s'.gc = (s.gc.loadedAt (dueTime c j s)).advance (dueTime c j s))
      (entry : s.gc.newSchedule.controlList[0]? = some e)
      (trace : s'.trace = s.trace ++ [(dueTime c j s, e.scheduledObject)]) : Ticked cfg c j s s'
  /-- entry 0 of the same list, at the end of a cycle that is cut short of the last entry -/
  | reset {s' : GateSystem} {e : ControlListEntry GateBitvector}
      (before : j + 1 < s.gc.currentSchedule.controlList.length)
      (cut : s.gc.currentSchedule.cycleTime ≤ s.gc.currentSchedule.startOf (j + 1))
      (executing : Executing cfg (dueTime c j s) 0 s')
      (gc : s'.gc = (s.gc.restartedAt (dueTime c j s)).advance (dueTime c j s))
      (entry : s.gc.currentSchedule.controlList[0]? = some e)
      (trace : s'.trace = s.trace ++ [(dueTime c j s, e.scheduledObject)]) : Ticked cfg c j s s'

/-- the ticks of the entry that the next tick applies fit an `unsigned` -/
def NextCounted (cfg : GateConfig) (j : Nat) (s : GateSystem) : Prop :=
  if j + 1 = s.gc.currentSchedule.controlList.length then
    s.gc.newSchedule.heldFor 0 / cfg.clockRate < 2 ^ 32
  else if s.gc.currentSchedule.startOf (j + 1) < s.gc.currentSchedule.cycleTime then
    s.gc.currentSchedule.heldFor (j + 1) / cfg.clockRate < 2 ^ 32
  else s.gc.currentSchedule.heldFor 0 / cfg.clockRate < 2 ^ 32

theorem Executing.nextCounted (h : Executing cfg c j s)
    (hcur : s.gc.currentSchedule.Subscribable cfg) (hnew : s.gc.newSchedule.Subscribable cfg) :
    NextCounted cfg j s := by
  unfold NextCounted
  split
  · refine hnew 0 h.new.nonempty ?_
    rw [Schedule.startOf_zero]
    exact h.new.cycle_pos
  · rename_i hne
    split
    · rename_i hin
      exact hcur (j + 1) (lt_of_le_of_ne h.lt_length hne) hin
    · refine hcur 0 h.current.nonempty ?_
      rw [Schedule.startOf_zero]
      exact h.current.cycle_pos

/-- the subscription of a tick that has come succeeded -/
theorem Ticked.nextCounted (h : Ticked cfg c j s s') : NextCounted cfg j s := by
  unfold NextCounted
  cases h with
  | stay before executing gc entry trace =>
    have hcount := executing.counted
    rw [gc] at hcount
    rw [if_neg (List.getElem?_eq_some_iff.mp entry).1.ne, if_pos before]
    exact hcount
  | load last executing gc entry trace =>
    have hcount := executing.counted
    rw [gc] at hcount
    rw [if_pos last]
    exact hcount
  | reset before cut executing gc entry trace =>
    have hcount := executing.counted
    rw [gc] at hcount
    rw [if_neg before.ne, if_neg (not_lt.mpr cut)]
    exact hcount

/-- **One tick.**  It succeeds when the next entry's ticks can be subscribed for. -/
theorem tick_executing (h : Executing cfg c j s) (mac : Option PreemptMac) :
    (NextCounted cfg j s → ∃ s', s.step cfg (.tick mac) = .ok s') ∧
    ∀ s', s.step cfg (.tick mac) = .ok s' → Ticked cfg c j s s' := by
  have hp : s.pendingTick = some (dueTime c j s) := h.pending
  rcases (Nat.succ_le_of_lt h.lt_length).lt_or_eq with hlt | hlast
  swap
  · -- the last entry: the index is 0 and `newSchedule` is loaded
    have hl : s.gc.Loads := by
      refine ⟨?_, ?_⟩
      · rw [h.index, show j + 1 = _ from hlast, Nat.mod_self]
      · rw [h.next]
        exact nofun
    obtain ⟨hsome, hall⟩ := tick_load cfg mac hl h.new hp
    refine ⟨fun hnext => hsome ?_, fun s' hs' => ?_⟩
    · rw [NextCounted, if_pos (show j + 1 = _ from hlast)] at hnext
      exact hnext
    · obtain ⟨hex, hgc, e, he, htr⟩ := hall s' hs'
      exact .load hlast hex hgc he htr
  have hidx : s.gc.scheduleIndex = j + 1 := by
    rw [h.index, Nat.mod_eq_of_lt hlt]
  have h0 : s.gc.scheduleIndex ≠ 0 := by
    rw [hidx]
    exact Nat.succ_ne_zero j
  rcases lt_or_ge (s.gc.currentSchedule.startOf (j + 1)) s.gc.currentSchedule.cycleTime
    with hin | hcut
  · -- the cycle has not ended
    have hdue : dueTime c j s = c + s.gc.currentSchedule.startOf (j + 1) := by
      rw [dueTime, min_eq_left hin.le]
    have hno : ¬ (s.gc.cycleStart + s.gc.currentSchedule.getCycleTime = dueTime c j s ∧
        s.gc.currentSchedule.getCycleTime ≠ 0) := by
      rintro ⟨heq, -⟩
      have hle : c ≤ s.gc.cycleStart := by
        rcases h.cycleStart with hc | ⟨-, hc⟩
        · exact hc.ge
        · exact hc
      have : s.gc.cycleStart + s.gc.currentSchedule.cycleTime = dueTime c j s := heq
      linarith
    have hprep := GateController.prepared_of_index_ne (dueTime c j s) h0
    rw [if_neg hno] at hprep
    have hexec := executing_of_prepared cfg (c := c)
      (j := j + 1) mac hp h.new.nonNeg (by rw [hprep]; exact h.current)
      (by rw [hprep]; exact h.new) (by rw [hprep]; exact h.next) (by rw [hprep]; exact hidx)
      (by rw [hprep]; exact hlt) (by rw [hprep]; exact h.cycleStart) (by rw [hprep]; exact hdue)
      (by rw [hprep]; exact hin)
    rw [hprep] at hexec
    refine ⟨fun hnext => hexec.1 ?_, fun s' hs' => ?_⟩
    · rw [NextCounted, if_neg (show j + 1 ≠ _ from hlt.ne), if_pos hin] at hnext
      exact hnext
    · obtain ⟨hex, hgc, e, he, htr⟩ := hexec.2 s' hs'
      exact .stay hin hex hgc he htr
  · -- the cycle ends before the last entry, so the list does not fit
    have hdue : dueTime c j s = c + s.gc.currentSchedule.cycleTime := by
      rw [dueTime, min_eq_right hcut]
    have hc : s.gc.cycleStart = c := by
      refine h.cycleStart.resolve_right fun hf => ?_
      exact absurd (hf.1.startOf_lt h.current hlt) (not_lt.mpr hcut)
    have hprep := GateController.prepared_of_index_ne (dueTime c j s) h0
    rw [if_pos ⟨by rw [hc, hdue]; rfl, h.current.cycle_pos.ne'⟩] at hprep
    have hexec := executing_of_prepared cfg
      (c := dueTime c j s) (j := 0) mac hp h.new.nonNeg (by rw [hprep]; exact h.current)
      (by rw [hprep]; exact h.new) (by rw [hprep]; exact h.next) (by rw [hprep]; rfl)
      (by rw [hprep]; exact h.current.nonempty) (by rw [hprep]; exact Or.inl rfl)
      (by rw [Schedule.startOf_zero, add_zero]) (by rw [hprep]; exact h.current.cycle_pos)
    rw [hprep] at hexec
    refine ⟨fun hnext => hexec.1 ?_, fun s' hs' => ?_⟩
    · rw [NextCounted, if_neg (show j + 1 ≠ _ from hlt.ne), if_neg (not_lt.mpr hcut)] at hnext
      exact hnext
    · obtain ⟨hex, hgc, e, he, htr⟩ := hexec.2 s' hs'
      exact .reset hlt hcut hex hgc he htr

theorem ticked_of_step (h : Executing cfg c j s) {mac : Option PreemptMac}
    (hs : s.step cfg (.tick mac) = .ok s') : Ticked cfg c j s s' :=
  (tick_executing h mac).2 s' hs

end
end GateSystem
end Nesting
