import Nesting.Gating.LookAhead
import Nesting.Gating.Rounds

/-!
# What the look-ahead promises

`OpenUntil cfg g d s` looks at the ticks that follow `s` when nothing else happens: none of them sets
a closed vector for gate `g` before `d`.

* `promise_current`, `promise_next`  each round of the look-ahead loop is matched by a tick, up to the
                     end of the current list and through the repetitions of the next one;
* `promise_executing`, `promise_waiting`  `calculateMaxBit` promises no more than the ticks keep;
* `openUntil_moved`  in a list that fits its cycle, moving `cycleStart` on changes no tick.
-/

set_option linter.unusedVariables false

namespace Nesting
namespace GateSystem

/-- the state of gate `g`; gates start open -/
def gateOpen (g : Nat) (s : GateSystem) : Bool :=
  match s.trace.getLast? with
  | some (_, v) => v.test g
  | none => true

theorem gateOpen_of_trace {g : Nat} {s : GateSystem} {tr : List (SimTime × GateBitvector)}
    {t : SimTime} {v : GateBitvector} (h : s.trace = tr ++ [(t, v)]) : s.gateOpen g = v.test g := by
  rw [gateOpen, h, List.getLast?_concat]

/-- the next `n` ticks set no closed vector for gate `g` before `d` -/
def OpenFor (cfg : GateConfig) (g : Nat) (d : SimTime) : Nat → GateSystem → Prop
  | 0, _ => True
  | n + 1, s => ∀ mac s', s.step cfg (.tick mac) = .ok s' →
      (∀ now, s.pendingTick = some now → now < d → s'.gateOpen g = true) ∧ OpenFor cfg g d n s'

/-- ticks alone keep gate `g` open until `d` -/
def OpenUntil (cfg : GateConfig) (g : Nat) (d : SimTime) (s : GateSystem) : Prop :=
  ∀ n, OpenFor cfg g d n s

section
variable {cfg : GateConfig} {g : Nat} {d d' : SimTime} {s s' : GateSystem} {c : SimTime} {j : Nat}

theorem openUntil_iff : OpenUntil cfg g d s ↔ ∀ mac s', s.step cfg (.tick mac) = .ok s' →
    (∀ now, s.pendingTick = some now → now < d → s'.gateOpen g = true) ∧
      OpenUntil cfg g d s' := by
  constructor
  · intro h mac s' hs
    exact ⟨(h 1 mac s' hs).1, fun n => (h (n + 1) mac s' hs).2⟩
  · intro h n
    cases n with
    | zero => trivial
    | succ n => exact fun mac s' hs => ⟨(h mac s' hs).1, (h mac s' hs).2 n⟩

theorem OpenFor.mono (hd : d ≤ d') {n : Nat} (h : OpenFor cfg g d' n s) : OpenFor cfg g d n s := by
  induction n generalizing s with
  | zero => trivial
  | succ n ih =>
    intro mac s' hs
    obtain ⟨h1, h2⟩ := h mac s' hs
    exact ⟨fun now hp hlt => h1 now hp (hlt.trans_le hd), ih h2⟩

theorem OpenUntil.mono (hd : d ≤ d') (h : OpenUntil cfg g d' s) : OpenUntil cfg g d s :=
  fun n => (h n).mono hd

/-! ## ticks of an executing system -/

/-- what every tick leaves: an executing system whose next tick is no earlier -/
theorem Ticked.executing' (ht : Ticked cfg c j s s') :
    ∃ c' j', Executing cfg c' j' s' ∧ dueTime c j s ≤ c' + s'.gc.currentSchedule.startOf j' := by
  cases ht with
  | stay before executing gc entry trace =>
    refine ⟨c, j + 1, executing, ?_⟩
    rw [gc, dueTime, min_eq_left before.le]
    exact le_rfl
  | load last executing gc entry trace =>
    exact ⟨_, 0, executing, by rw [Schedule.startOf_zero, add_zero]⟩
  | reset before cut executing gc entry trace =>
    exact ⟨_, 0, executing, by rw [Schedule.startOf_zero, add_zero]⟩

/-- nothing is set before the next tick is due -/
theorem openUntil_of_le_due (h : Executing cfg c j s) (hd : d ≤ dueTime c j s) :
    OpenUntil cfg g d s := by
  intro n
  induction n generalizing s c j with
  | zero => trivial
  | succ n ih =>
    intro mac s' hs
    obtain ⟨c', j', hex, hle⟩ := (ticked_of_step h hs).executing'
    refine ⟨fun now hp hlt => ?_, ih hex (hd.trans (hle.trans hex.le_due))⟩
    rw [h.pending] at hp
    cases hp
    exact absurd hd (not_le.mpr hlt)

/-- what has to be shown of the next tick of an executing system -/
theorem openUntil_of_ticked (h : Executing cfg c j s)
    (hnext : ∀ s', Ticked cfg c j s s' → (dueTime c j s < d → s'.gateOpen g = true) ∧
      OpenUntil cfg g d s') : OpenUntil cfg g d s := by
  rw [openUntil_iff]
  intro mac s' hs
  obtain ⟨h1, h2⟩ := hnext s' (ticked_of_step h hs)
  refine ⟨fun now hp hlt => h1 ?_, h2⟩
  rw [h.pending] at hp
  cases hp
  exact hlt

/-- the system with `cycleStart` set to `x` -/
def moved (s : GateSystem) (x : SimTime) : GateSystem :=
  { s with gc := { s.gc with cycleStart := x } }

theorem executing_moved (h : Executing cfg c j s) (hf : s.gc.currentSchedule.Fits) {x : SimTime}
    (hx : c ≤ x) : Executing cfg c j (s.moved x) :=
  ⟨h.current, h.new, h.next, h.lt_length, h.index, Or.inr ⟨hf, hx⟩, h.lastChange, h.within,
    h.counted, h.pending⟩

/-- an executing system is determined by its controller and its trace -/
theorem executing_ext {s1 s2 : GateSystem} (h1 : Executing cfg c j s1) (h2 : Executing cfg c j s2)
    (hgc : s1.gc = s2.gc) (htr : s1.trace = s2.trace) : s1 = s2 := by
  have hp : s1.pendingTick = s2.pendingTick := by
    rw [h1.pending, h2.pending, hgc]
  obtain ⟨gc1, p1, tr1⟩ := s1
  obtain ⟨gc2, p2, tr2⟩ := s2
  cases hgc
  cases hp
  cases htr
  rfl

/-- the tick of a moved system: the move stays within the round and is forgotten at its end -/
theorem ticked_moved (h : Executing cfg c j s) (hf : s.gc.currentSchedule.Fits) {x : SimTime}
    (hx : c ≤ x) {s1 s2 : GateSystem} (h1 : Ticked cfg c j (s.moved x) s1)
    (h2 : Ticked cfg c j s s2) : s1 = s2 ∨
      s1 = s2.moved x ∧ Executing cfg c (j + 1) s2 ∧ s2.gc.currentSchedule.Fits := by
  cases h2 with
  | stay before executing gc entry trace =>
    right
    have hlt : j + 1 < s.gc.currentSchedule.controlList.length :=
      (List.getElem?_eq_some_iff.mp entry).1
    have hf2 : s2.gc.currentSchedule.Fits := by
      rw [gc]
      exact hf
    refine ⟨?_, executing, hf2⟩
    cases h1 with
    | stay before1 executing1 gc1 entry1 trace1 =>
      cases (entry.symm.trans entry1 : some _ = some _)
      apply executing_ext executing1 (executing_moved executing hf2 hx)
      · rw [gc1]
        show _ = { s2.gc with cycleStart := x }
        rw [gc]
        rfl
      · rw [trace1]
        show _ = s2.trace
        rw [trace]
        rfl
    | load last1 executing1 gc1 entry1 trace1 => exact absurd last1 hlt.ne
    | reset before1 cut1 executing1 gc1 entry1 trace1 => exact absurd before (not_lt.mpr cut1)
  | load last executing gc entry trace =>
    left
    cases h1 with
    | stay before1 executing1 gc1 entry1 trace1 =>
      exact absurd last (List.getElem?_eq_some_iff.mp entry1).1.ne
    | load last1 executing1 gc1 entry1 trace1 =>
      cases (entry.symm.trans entry1 : some _ = some _)
      apply executing_ext executing1 executing
      · rw [gc1, gc]
        rfl
      · rw [trace1, trace]
        rfl
    | reset before1 cut1 executing1 gc1 entry1 trace1 => exact absurd last before1.ne
  | reset before cut executing gc entry trace =>
    exact absurd (hf.startOf_lt h.current before) (not_lt.mpr cut)

/-- **Moving `cycleStart` on** in a list that fits its cycle changes no tick. -/
theorem openUntil_moved (h : Executing cfg c j s) (hf : s.gc.currentSchedule.Fits) {x : SimTime}
    (hx : c ≤ x) (ho : OpenUntil cfg g d s) : OpenUntil cfg g d (s.moved x) := by
  intro n
  have hn := ho n
  clear ho
  induction n generalizing s j with
  | zero => trivial
  | succ n ih =>
    intro mac s1 hs1
    have h1 := ticked_of_step (executing_moved h hf hx) hs1
    obtain ⟨s2, hs2⟩ := (tick_executing h mac).1 h1.nextCounted
    obtain ⟨hopen, hrest⟩ := hn mac s2 hs2
    rcases ticked_moved h hf hx h1 (ticked_of_step h hs2) with rfl | ⟨rfl, hex, hf2⟩
    · exact ⟨fun now hp hlt => hopen now hp hlt, hrest⟩
    · exact ⟨fun now hp hlt => hopen now hp hlt, ih hex hf2 hrest⟩

end

/-! ## the look-ahead loop against the ticks -/

/-- more than minus one bit is converted without wrapping around -/
theorem bitsToUnsigned_le {bits : ℚ} (h : -1 < bits) :
    (GateController.bitsToUnsigned bits : ℚ) ≤ max bits 0 := by
  unfold GateController.bitsToUnsigned
  split
  · rename_i h0
    have hn : (⌊bits⌋ % 2 ^ 32).toNat ≤ (⌊bits⌋.toNat) := by
      have := Int.floor_nonneg.mpr h0
      omega
    have hf : ((⌊bits⌋.toNat : ℕ) : ℚ) ≤ bits := by
      have h1 : ((⌊bits⌋.toNat : ℤ) : ℚ) = ⌊bits⌋ := by
        rw [Int.toNat_of_nonneg (Int.floor_nonneg.mpr h0)]
      have := Int.floor_le bits
      rw [← h1] at this
      exact_mod_cast this
    exact (Nat.cast_le.mpr hn).trans (hf.trans (le_max_left _ _))
  · rename_i h0
    have : ⌈bits⌉ = 0 := by
      rw [Int.ceil_eq_iff]
      constructor
      · push_cast
        linarith
      · push_cast
        linarith
    rw [this]
    exact le_max_right _ _

/-- a round in the next schedule that is not cut by its cycle -/
theorem lookNext_stay {cur N : Schedule GateBitvector} {bitTime : SimTime} {l : GateController.Look}
    {e e' : ControlListEntry GateBitvector} (he : N.controlList[l.currentIndex]? = some e)
    (he' : N.controlList[(l.currentIndex + 1) % N.controlList.length]? = some e')
    (hc : l.cumSumGateLength + e.timeInterval ≤ N.cycleTime) :
    GateController.lookNext cur bitTime N l = .ok { l with
      bits := l.bits + (e.timeInterval - l.timeSinceLastChange) / bitTime
      currentIndex := (l.currentIndex + 1) % N.controlList.length
      cumSumGateLength := if (l.currentIndex + 1) % N.controlList.length = 0 then 0
        else l.cumSumGateLength + e.timeInterval
      timeSinceLastChange := 0
      bitvector := e'.scheduledObject } := by
  have hno : ¬ l.cycleStart + (l.cumSumGateLength + e.timeInterval)
      > l.cycleStart + N.getCycleTime := by
    show ¬ _ > l.cycleStart + N.cycleTime
    linarith
  unfold GateController.lookNext Schedule.getTimeInterval Schedule.getScheduledObject
  rw [Schedule.entry_ok.mpr he]
  simp only [bind, Except.bind, pure, Except.pure]
  rw [if_neg hno, show (l.currentIndex + 1) % N.getControlListLength
    = (l.currentIndex + 1) % N.controlList.length from rfl, Schedule.entry_ok.mpr he']

section
variable {cfg : GateConfig} {g : Nat} {bitTime now : SimTime} (hbt : 0 < bitTime)
  {cur N : Schedule GateBitvector}
include hbt

/-- the time the walk has reached: `now` and the bits collected so far -/
def reached (now bitTime : SimTime) (l : GateController.Look) : SimTime := now + l.bits * bitTime

theorem reached_add {l : GateController.Look} {x : SimTime} :
    now + (l.bits + x / bitTime) * bitTime = reached now bitTime l + x := by
  rw [reached, add_mul, div_mul_cancel₀ _ hbt.ne']
  ring

/-- what the loop returns when it ends at once is reached already -/
theorem promised_le {b : Nat} {l : GateController.Look} (h0 : -1 < l.bits)
    (h : b = kEthernet2MaximumTransmissionUnitBitLength ∧
        ¬ l.bits < kEthernet2MaximumTransmissionUnitBitLength ∨
      b = GateController.bitsToUnsigned l.bits) :
    now + b * bitTime ≤ max (reached now bitTime l) now := by
  have hb : (b : ℚ) ≤ max l.bits 0 := by
    rcases h with ⟨rfl, hge⟩ | rfl
    · exact le_max_of_le_left (not_lt.mp hge)
    · exact bitsToUnsigned_le h0
  rcases le_max_iff.mp hb with hb | hb
  · apply le_max_of_le_left
    rw [reached]
    have := mul_le_mul_of_nonneg_right hb hbt.le
    linarith
  · apply le_max_of_le_right
    have := mul_le_mul_of_nonneg_right hb hbt.le
    linarith

omit hbt in
theorem startOf_congr {a b : Schedule GateBitvector} (h : a.controlList = b.controlList) (j : Nat) :
    a.startOf j = b.startOf j := by
  rw [Schedule.startOf, Schedule.startOf, Schedule.intervals, Schedule.intervals, h]

/-- the walk stands at entry `i` of the next schedule `N`, in a round that starts at `w` for the walk
and at `c` for the ticks; `s` is executing that entry -/
structure InNext (cfg : GateConfig) (N : Schedule GateBitvector) (g : Nat) (now bitTime c w : SimTime)
    (i : Nat) (s : GateSystem) (l : GateController.Look) : Prop where
  executing : Executing cfg c i s
  list : s.gc.currentSchedule.controlList = N.controlList
  cycle : s.gc.currentSchedule.cycleTime = N.cycleTime
  new : s.gc.newSchedule = N
  touched : l.touchedNextSchedule = true
  index : l.currentIndex = i
  cum : l.cumSumGateLength = N.startOf i
  entry : ∃ e, N.controlList[i]? = some e ∧ l.bitvector = e.scheduledObject
  since : l.timeSinceLastChange = 0
  reached : reached now bitTime l = w + N.startOf i
  behind : w ≤ c
  ahead : now ≤ c + N.startOf i
  closed : ∀ k e, N.controlList[k]? = some e → e.scheduledObject.test g = false →
    now < w + N.startOf k + bitTime

/-- one round of the loop against one tick -/
theorem inNext_step (hfits : N.Fits) {s s' : GateSystem} {c w : SimTime} {i : Nat}
    {l l1 : GateController.Look} (h : InNext cfg N g now bitTime c w i s l)
    (hbody : GateController.lookNext cur bitTime N l = .ok l1) (hs : Ticked cfg c i s s') :
    ∃ c' w' i', InNext cfg N g now bitTime c' w' i' s' l1 ∧
      dueTime c i s = c' + N.startOf i' ∧ s'.gateOpen g = l1.bitvector.test g := by
  obtain ⟨e, he, -⟩ := h.entry
  have hNw : N.WholeTicks cfg := h.new ▸ h.executing.new
  have hend := Schedule.startOf_succ he
  have hmono := Schedule.startOf_le_succ hNw.nonNeg i
  have he' := List.getElem?_eq_getElem (Nat.mod_lt (i + 1) hNw.nonempty)
  have hl1 := hbody.symm.trans (lookNext_stay (l := l)
    (by rw [h.index]; exact he) (by rw [h.index]; exact he')
    (by rw [h.cum, ← hend]; exact hfits.startOf_le hNw _))
  rw [Except.ok.injEq, h.index, h.cum, h.since, ← hend] at hl1
  have hr : GateSystem.reached now bitTime l1 = w + N.startOf (i + 1) := by
    rw [GateSystem.reached, hl1]
    show now + (l.bits + (e.timeInterval - 0) / bitTime) * bitTime = _
    rw [reached_add hbt, h.reached, hend]
    ring
  cases hs with
  | stay before executing gc entry trace =>
    rw [h.list] at entry
    have hmod : (i + 1) % N.controlList.length = i + 1 :=
      Nat.mod_eq_of_lt (List.getElem?_eq_some_iff.mp entry).1
    simp only [hmod, Nat.succ_ne_zero, if_false] at hl1 he'
    rw [entry] at he'
    refine ⟨c, w, i + 1, ⟨executing, ?_, ?_, ?_, ?_, ?_, ?_, ⟨_, entry, ?_⟩, ?_, hr, h.behind, ?_,
      h.closed⟩, ?_, ?_⟩
    · rw [gc]
      exact h.list
    · rw [gc]
      exact h.cycle
    · rw [gc]
      exact h.new
    · rw [hl1]
      exact h.touched
    · rw [hl1]
    · rw [hl1]
    · rw [hl1, Option.some.inj he']
    · rw [hl1]
    · linarith [h.ahead]
    · rw [dueTime, min_eq_left before.le, startOf_congr h.list]
    · rw [gateOpen_of_trace trace, hl1, Option.some.inj he']
  | load last executing gc entry trace =>
    rw [h.list] at last
    rw [h.new] at entry
    have hmod : (i + 1) % N.controlList.length = 0 := by rw [last, Nat.mod_self]
    simp only [hmod, if_true] at hl1 he'
    rw [entry] at he'
    have hdue : dueTime c i s = c + N.startOf (i + 1) := by
      rw [dueTime, startOf_congr h.list, h.cycle, min_eq_left (hfits.startOf_le hNw _)]
    have hpos := hNw.startOf_nonneg (i + 1)
    refine ⟨_, w + N.startOf (i + 1), 0, ⟨executing, ?_, ?_, ?_, ?_, ?_, ?_, ⟨_, entry, ?_⟩, ?_, ?_,
      ?_, ?_, fun k e1 hk hc1 => ?_⟩, ?_, ?_⟩
    · rw [gc, ← h.new]
      rfl
    · rw [gc, ← h.new]
      rfl
    · rw [gc]
      exact h.new
    · rw [hl1]
      exact h.touched
    · rw [hl1]
    · rw [hl1, Schedule.startOf_zero]
    · rw [hl1, Option.some.inj he']
    · rw [hl1]
    · rw [hr, Schedule.startOf_zero, add_zero]
    · rw [hdue]
      linarith [h.behind]
    · rw [hdue, Schedule.startOf_zero]
      linarith [h.ahead]
    · linarith [h.closed k e1 hk hc1]
    · rw [Schedule.startOf_zero, add_zero]
    · rw [gateOpen_of_trace trace, hl1, Option.some.inj he']
  | reset before cut executing gc entry trace =>
    rw [h.list] at before
    rw [startOf_congr h.list, h.cycle] at cut
    exact absurd (hfits.startOf_lt hNw before) (not_lt.mpr cut)

/-- **The walk through the next schedule** keeps pace with the ticks, or stays behind them. -/
theorem promise_next (hfits : N.Fits) (fuel : Nat) {s : GateSystem} {c w : SimTime} {i b : Nat}
    {l l' : GateController.Look} (h : InNext cfg N g now bitTime c w i s l)
    (hloop : GateController.lookLoop cur (some N) g bitTime fuel l = .ok (b, l')) :
    OpenUntil cfg g (now + b * bitTime) s ∧
      (l.bitvector.test g = true ∨ now + b * bitTime ≤ c + N.startOf i) := by
  induction fuel generalizing s c w i l with
  | zero => cases hloop
  | succ fuel ih =>
    -- what is returned here is reached already
    have stop : -1 < l.bits →
      (b = kEthernet2MaximumTransmissionUnitBitLength ∧
          ¬ l.bits < kEthernet2MaximumTransmissionUnitBitLength ∨
        b = GateController.bitsToUnsigned l.bits) → OpenUntil cfg g (now + b * bitTime) s ∧
          (l.bitvector.test g = true ∨ now + b * bitTime ≤ c + N.startOf i) := by
      intro h0 hb
      have hle : now + b * bitTime ≤ c + N.startOf i := by
        refine (promised_le hbt h0 hb).trans (max_le ?_ h.ahead)
        linarith [h.reached, h.behind]
      refine ⟨openUntil_of_le_due h.executing (hle.trans ?_), Or.inr hle⟩
      rw [← startOf_congr h.list]
      exact h.executing.le_due
    rcases GateController.lookLoop_succ_ok hloop with ⟨hb, rfl, -⟩ | ⟨hb, hcl, rfl, -⟩ |
      ⟨hb, hop, l1, hbody, hrest⟩
    · exact stop (by linarith) (Or.inl ⟨rfl, hb⟩)
    · refine stop ?_ (Or.inr rfl)
      obtain ⟨e, he, hv⟩ := h.entry
      have h1 := h.closed i e he (hv ▸ hcl)
      rw [← h.reached, GateSystem.reached] at h1
      have h2 : 0 < (l.bits + 1) * bitTime := by linarith
      linarith [(mul_pos_iff_of_pos_right hbt).mp h2]
    · refine ⟨openUntil_of_ticked h.executing fun s' hs' => ?_, Or.inl hop⟩
      have hbody' : GateController.lookNext cur bitTime N l = .ok l1 := by
        rw [← hbody, GateController.lookBody, h.touched]
        rfl
      obtain ⟨c', w', i', h1, hdue, hopen⟩ := inNext_step hbt hfits h hbody' hs'
      obtain ⟨h2, h3⟩ := ih h1 hrest
      refine ⟨fun hlt => ?_, h2⟩
      rw [hopen]
      exact h3.resolve_right (not_le.mpr (hdue ▸ hlt))

/-- the walk stands in entry `i` of the current schedule, which `s` is executing; it will not leave
that schedule, or both schedules fit their cycle -/
structure InCurrent (cfg : GateConfig) (cur N : Schedule GateBitvector) (g : Nat)
    (now bitTime c : SimTime) (i : Nat) (s : GateSystem) (l : GateController.Look) : Prop where
  executing : Executing cfg c i s
  current : s.gc.currentSchedule = cur
  new : s.gc.newSchedule = N
  touched : l.touchedNextSchedule = false
  index : l.currentIndex = i
  cum : l.cumSumGateLength = cur.startOf i
  entry : ∃ e, cur.controlList[i]? = some e ∧ l.bitvector = e.scheduledObject
  reached : reached now bitTime l = c + cur.startOf i + l.timeSinceLastChange
  due : GateSystem.reached now bitTime l ≤ dueTime c i s
  nonneg : 0 ≤ l.bits
  usable : (∀ k, ¬ GateController.SwapsAt cur g bitTime i l.bits l.timeSinceLastChange k) ∨
    cur.Fits ∧ N.Fits

/-- at the end of its cycle a walk that does not leave the current schedule collects nothing more -/
theorem stuck_le (hcur : cur.NonNeg) (fuel : Nat) {i b : Nat} {l l' : GateController.Look}
    {e : ControlListEntry GateBitvector} (ht : l.touchedNextSchedule = false)
    (hi : l.currentIndex = i) (hcum : l.cumSumGateLength = cur.startOf i)
    (he : cur.controlList[i]? = some e) (hv : l.bitvector = e.scheduledObject)
    (hsince : l.timeSinceLastChange = 0) (hend : cur.cycleTime ≤ cur.startOf i) (h0 : 0 ≤ l.bits)
    (hno : ∀ k, ¬ GateController.SwapsAt cur g bitTime i l.bits 0 k)
    (hloop : GateController.lookLoop cur (some N) g bitTime fuel l = .ok (b, l')) :
    now + b * bitTime ≤ max (reached now bitTime l) now := by
  induction fuel generalizing i l e with
  | zero => cases hloop
  | succ fuel ih =>
    rcases GateController.lookLoop_succ_ok hloop with ⟨hb, rfl, -⟩ | ⟨hb, hcl, rfl, -⟩ |
      ⟨hb, hop, l1, hbody, hrest⟩
    · exact promised_le hbt (by linarith) (Or.inl ⟨rfl, hb⟩)
    · exact promised_le hbt (by linarith) (Or.inr rfl)
    · have hopen : cur.openAt g i = true := by rw [Schedule.openAt_of he, ← hv, hop]
      have hilt : i < cur.controlList.length := (List.getElem?_eq_some_iff.mp he).1
      have hnl : ¬ (cur.cycleTime < cur.startOf (i + 1) ∨ i + 1 = cur.controlList.length) := by
        intro hl
        refine hno i ⟨le_rfl, hilt, fun m h1 h2 => absurd h1 (by omega), hl, fun m h1 h2 => ?_, hb,
          fun m h1 h2 => absurd h1 (by omega)⟩
        rw [show m = i by omega, hopen]
      obtain ⟨hc, hlen⟩ := not_or.mp hnl
      have hlt : i + 1 < cur.controlList.length := by omega
      have he' := List.getElem?_eq_getElem hlt
      have hsucc := Schedule.startOf_succ he
      have hmono := Schedule.startOf_le_succ hcur i
      have hzero : e.timeInterval = 0 := by linarith [not_lt.mp hc]
      have hbody' : GateController.lookCurrent cur bitTime N l = .ok l1 := by
        rw [← hbody, GateController.lookBody, ht]
        rfl
      rw [GateController.lookCurrent_stay (by rw [hi]; exact he) (by rw [hi]; exact he')
        (by rw [hcum, ← hsucc]; exact not_lt.mp hc), Except.ok.injEq, hzero, hsince, sub_zero,
        zero_div, add_zero] at hbody'
      have hr : reached now bitTime l1 = reached now bitTime l := by rw [← hbody']; rfl
      rw [← hr]
      refine ih (i := i + 1) (by rw [← hbody']; exact ht) (by rw [← hbody']; exact congrArg _ hi)
        (by rw [← hbody', hsucc, hzero]; show l.cumSumGateLength + 0 = _; rw [hcum]) he'
        (by rw [← hbody']) (by rw [← hbody']) (by linarith) (by rw [← hbody']; exact h0)
        (fun k hk => ?_) hrest
      refine hno k ((GateController.swapsAt_succ he (not_lt.mp hc) hlt hopen hb).mpr ?_)
      rw [hzero, sub_zero, zero_div, add_zero]
      rw [← hbody'] at hk
      exact hk

/-- the walk leaves the current schedule together with the ticks -/
theorem inCurrent_swap {s s' : GateSystem} {c : SimTime} {i : Nat} {l l1 : GateController.Look}
    (h : InCurrent cfg cur N g now bitTime c i s l)
    (hb : l.bits < kEthernet2MaximumTransmissionUnitBitLength)
    (hop : l.bitvector.test g = true)
    (hl : cur.cycleTime < cur.startOf (i + 1) ∨ i + 1 = cur.controlList.length)
    (hbody : GateController.lookCurrent cur bitTime N l = .ok l1) (hs : Ticked cfg c i s s') :
    N.Fits ∧ InNext cfg N g now bitTime (dueTime c i s) (dueTime c i s) 0 s' l1 ∧
      s'.gateOpen g = l1.bitvector.test g := by
  obtain ⟨e, he, hv⟩ := h.entry
  have hcw : cur.WholeTicks cfg := h.current ▸ h.executing.current
  have hend := Schedule.startOf_succ he
  have hswap : GateController.SwapsAt cur g bitTime i l.bits l.timeSinceLastChange i := by
    refine ⟨le_rfl, (List.getElem?_eq_some_iff.mp he).1, fun m h1 h2 => absurd h1 (by omega), hl,
      fun m h1 h2 => ?_, hb, fun m h1 h2 => absurd h1 (by omega)⟩
    rw [show m = i by omega, Schedule.openAt_of he, ← hv, hop]
  obtain ⟨hfc, hfN⟩ := h.usable.resolve_left fun hno => hno i hswap
  have hle := hfc.startOf_le hcw (i + 1)
  have hlast : i + 1 = cur.controlList.length := hl.resolve_left (not_lt.mpr hle)
  obtain ⟨e0, he0, hl1⟩ := GateController.lookCurrent_swap (by rw [h.index]; exact he)
    (by rw [h.cum, ← hend, h.index]; exact hl) hbody
  rw [h.cum, ← hend, if_neg (not_lt.mpr hle)] at hl1
  have hdue : dueTime c i s = c + cur.startOf (i + 1) := by
    rw [dueTime, h.current, min_eq_left hle]
  have hr : GateSystem.reached now bitTime l1 = dueTime c i s := by
    rw [hl1]
    show now + (l.bits + (e.timeInterval - l.timeSinceLastChange) / bitTime) * bitTime = _
    rw [reached_add hbt, h.reached, hdue, hend]
    ring
  have hnow : now ≤ dueTime c i s := by
    have h1 := h.due
    rw [GateSystem.reached] at h1
    linarith [mul_nonneg h.nonneg hbt.le]
  have hNw : N.WholeTicks cfg := h.new ▸ h.executing.new
  cases hs with
  | stay before executing gc entry trace =>
    rw [h.current] at entry
    exact absurd hlast (List.getElem?_eq_some_iff.mp entry).1.ne
  | load last executing gc entry trace =>
    rw [h.new, he0] at entry
    refine ⟨hfN, ⟨executing, ?_, ?_, ?_, ?_, ?_, ?_, ⟨e0, he0, ?_⟩, ?_, ?_, le_rfl, ?_,
      fun k e1 hk hc1 => ?_⟩, ?_⟩
    · rw [gc, ← h.new]
      rfl
    · rw [gc, ← h.new]
      rfl
    · rw [gc]
      exact h.new
    · rw [hl1]
    · rw [hl1]
    · rw [hl1, Schedule.startOf_zero]
    · rw [hl1]
    · rw [hl1]
    · rw [hr, Schedule.startOf_zero, add_zero]
    · rw [Schedule.startOf_zero, add_zero]
      exact hnow
    · linarith [hNw.startOf_nonneg k]
    · rw [gateOpen_of_trace trace, hl1, Option.some.inj entry]
  | reset before cut executing gc entry trace =>
    rw [h.current] at before
    exact absurd hlast before.ne

/-- **The walk through the current schedule** keeps pace with the ticks. -/
theorem promise_current (fuel : Nat) {s : GateSystem} {c : SimTime} {i b : Nat}
    {l l' : GateController.Look} (h : InCurrent cfg cur N g now bitTime c i s l)
    (hloop : GateController.lookLoop cur (some N) g bitTime fuel l = .ok (b, l')) :
    OpenUntil cfg g (now + b * bitTime) s ∧
      (l.bitvector.test g = true ∨ now + b * bitTime ≤ reached now bitTime l) := by
  induction fuel generalizing s c i l with
  | zero => cases hloop
  | succ fuel ih =>
    have hnow : now ≤ reached now bitTime l := by
      rw [reached]
      linarith [mul_nonneg h.nonneg hbt.le]
    have stop : (b = kEthernet2MaximumTransmissionUnitBitLength ∧
          ¬ l.bits < kEthernet2MaximumTransmissionUnitBitLength ∨
        b = GateController.bitsToUnsigned l.bits) →
        OpenUntil cfg g (now + b * bitTime) s ∧
          (l.bitvector.test g = true ∨ now + b * bitTime ≤ reached now bitTime l) := by
      intro hb
      have hle : now + b * bitTime ≤ max (reached now bitTime l) now := promised_le hbt (show -1 < l.bits by linarith [h.nonneg]) hb
      rw [max_eq_left hnow] at hle
      exact ⟨openUntil_of_le_due h.executing (hle.trans h.due), Or.inr hle⟩
    rcases GateController.lookLoop_succ_ok hloop with ⟨hb, rfl, -⟩ | ⟨hb, hcl, rfl, -⟩ |
      ⟨hb, hop, l1, hbody, hrest⟩
    · exact stop (Or.inl ⟨rfl, hb⟩)
    · exact stop (Or.inr rfl)
    refine ⟨openUntil_of_ticked h.executing fun s' hs' => ?_, Or.inl hop⟩
    have hbody' : GateController.lookCurrent cur bitTime N l = .ok l1 := by
      rw [← hbody, GateController.lookBody, h.touched]
      rfl
    by_cases hl : cur.cycleTime < cur.startOf (i + 1) ∨ i + 1 = cur.controlList.length
    · obtain ⟨hfN, hin, hopen⟩ := inCurrent_swap hbt h hb hop hl hbody' hs'
      obtain ⟨h1, h2⟩ := promise_next hbt hfN fuel hin hrest
      refine ⟨fun hlt => ?_, h1⟩
      rw [hopen]
      refine h2.resolve_right (not_le.mpr ?_)
      rw [Schedule.startOf_zero, add_zero]
      exact hlt
    -- the entry is followed by another one
    obtain ⟨hc, hlen⟩ := not_or.mp hl
    obtain ⟨e, he, hv⟩ := h.entry
    have hcw : cur.WholeTicks cfg := h.current ▸ h.executing.current
    have hlt : i + 1 < cur.controlList.length := by
      have := (List.getElem?_eq_some_iff.mp he).1
      omega
    have he' := List.getElem?_eq_getElem hlt
    have hend := Schedule.startOf_succ he
    have hopen : cur.openAt g i = true := by rw [Schedule.openAt_of he, ← hv, hop]
    have hl1 := hbody'.symm.trans (GateController.lookCurrent_stay
      (by rw [h.index]; exact he) (by rw [h.index]; exact he')
      (by rw [h.cum, ← hend]; exact not_lt.mp hc))
    rw [Except.ok.injEq, h.index, h.cum, ← hend] at hl1
    have hdue : dueTime c i s = c + cur.startOf (i + 1) := by
      rw [dueTime, h.current, min_eq_left (not_lt.mp hc)]
    have hr : reached now bitTime l1 = dueTime c i s := by
      rw [hl1]
      show now + (l.bits + (e.timeInterval - l.timeSinceLastChange) / bitTime) * bitTime = _
      rw [reached_add hbt, h.reached, hdue, hend]
      ring
    have hbits : 0 ≤ l1.bits := by
      have h1 := h.due
      rw [← hr, reached, reached] at h1
      have h2 : l.bits * bitTime ≤ l1.bits * bitTime := by linarith
      exact h.nonneg.trans (le_of_mul_le_mul_right h2 hbt)
    have husable : (∀ k, ¬ GateController.SwapsAt cur g bitTime (i + 1) l1.bits 0 k) ∨
        cur.Fits ∧ N.Fits := by
      refine h.usable.imp_left fun hno k hk => hno k ?_
      rw [hl1] at hk
      exact (GateController.swapsAt_succ he (not_lt.mp hc) hlt hopen hb).mpr hk
    cases hs' with
    | stay before executing gc entry trace =>
      rw [h.current, he'] at entry
      have hin : InCurrent cfg cur N g now bitTime c (i + 1) s' l1 := by
        refine ⟨executing, ?_, ?_, ?_, ?_, ?_, ⟨_, he', ?_⟩, ?_, ?_, hbits, ?_⟩
        · rw [gc]
          exact h.current
        · rw [gc]
          exact h.new
        · rw [hl1]
          exact h.touched
        · rw [hl1]
        · rw [hl1]
        · rw [hl1]
        · rw [hr, hdue, hl1, add_zero]
        · rw [hr, hdue]
          have := executing.le_due
          rw [gc] at this
          rwa [show (s.gc.advance (dueTime c i s)).currentSchedule = cur from h.current] at this
        · rw [hl1] at husable ⊢
          exact husable
      obtain ⟨h1, h2⟩ := ih hin hrest
      refine ⟨fun hlt => ?_, h1⟩
      rw [gateOpen_of_trace trace, ← Option.some.inj entry]
      have hv1 : l1.bitvector = cur.controlList[i + 1].scheduledObject := by rw [hl1]
      rw [← hv1]
      exact h2.resolve_right (not_le.mpr (hr ▸ hlt))
    | load last executing gc entry trace =>
      rw [h.current] at last
      exact absurd last hlen
    | reset before cut executing gc entry trace =>
      -- the cycle ends here: the walk goes on at the same time, and does not leave the schedule
      rw [h.current] at cut before
      have hno := husable.resolve_right fun hf => absurd (hf.1.startOf_lt hcw before)
        (not_lt.mpr cut)
      have hle : now + b * bitTime ≤ max (reached now bitTime l1) now := stuck_le hbt hcw.nonNeg fuel (by rw [hl1]; exact h.touched)
        (by rw [hl1]) (by rw [hl1]) he' (by rw [hl1]) (by rw [hl1]) cut hbits hno hrest
      rw [hr, max_eq_left (hnow.trans h.due)] at hle
      refine ⟨fun hlt => absurd hlt (not_lt.mpr hle), openUntil_of_le_due executing ?_⟩
      have := executing.le_due
      rw [Schedule.startOf_zero, add_zero] at this
      exact hle.trans this

end

/-! ## promises -/

end GateSystem

namespace GateController

/-- a look-ahead whose promise can be relied on: it stays within the current schedule, or both
schedules fit their cycle, or it is made before the first load of a schedule that nobody has rewritten
and in which gate `g` is not closed before the time that has gone -/
def Trustworthy (cfg : GateConfig) (now : SimTime) (g : Nat) (gc : GateController) : Prop :=
  (∀ k, ¬ SwapsAt gc.currentSchedule g cfg.bitTime gc.executedIndex 0
      (now - gc.lastChange) k) ∨
    (gc.currentSchedule.Fits ∧ gc.newSchedule.Fits) ∨
    (gc.nextSchedule = .loaded gc.newSchedule ∧ gc.newSchedule.Fits ∧
      ∀ k e, gc.newSchedule.controlList[k]? = some e → e.scheduledObject.test g = false →
        now < gc.newSchedule.startOf k + cfg.bitTime)

/-- a query does not move `cycleStart` back -/
theorem calculateMaxBit_le {cfg : GateConfig} {fuel g b : Nat} {now : SimTime}
    {gc gc' : GateController} (hn : gc.currentSchedule.NonNeg) (hc : 0 ≤ gc.currentSchedule.cycleTime)
    (h : gc.calculateMaxBit cfg fuel now g = .ok (b, gc')) : gc.cycleStart ≤ gc'.cycleStart := by
  by_cases hd : gc.Disturbs cfg now g
  swap
  · rw [(calculateMaxBit_eq_iff h).mpr hd]
  obtain ⟨hr, hnull, k, hk, -⟩ := hd
  obtain ⟨hr', -, -⟩ | ⟨-, l, l', hl, hloop, rfl⟩ := calculateMaxBit_ok h
  · exact absurd hr (not_lt.mpr hr')
  obtain ⟨e, he, rfl⟩ := lookStart_ok hl
  cases hnx : gc.next with
  | none =>
    rw [hnx] at hloop
    exact (lookLoop_none fuel hloop).ge
  | some ns =>
    rw [hnx] at hloop
    have := (lookLoop_cycleStart fuel rfl he rfl rfl hloop).1 k hk
    have h0 := Schedule.startOf_mono hn (Nat.zero_le (k + 1))
    rw [Schedule.startOf_zero] at h0
    have hmin := le_min hc h0
    show gc.cycleStart ≤ l'.cycleStart
    rw [this]
    show gc.cycleStart ≤ gc.cycleStart + _
    linarith

end GateController

namespace GateSystem
variable {cfg : GateConfig} {g : Nat} {now : SimTime}

theorem executedIndex_eq {s : GateSystem} {c : SimTime} {j : Nat} (h : Executing cfg c j s) :
    s.gc.executedIndex = j :=
  GateController.executedIndex_of_index h.lt_length h.index

/-- **Promises of an executing system** are kept by the ticks. -/
theorem promise_executing {s : GateSystem} {c : SimTime} {j fuel b : Nat} {gc' : GateController}
    (h : Executing cfg c j s) (h2 : now ≤ dueTime c j s) (ht : s.gc.Trustworthy cfg now g)
    (hq : s.gc.calculateMaxBit cfg fuel now g = .ok (b, gc')) :
    OpenUntil cfg g (now + b * cfg.bitTime) s := by
  obtain ⟨-, rfl, -⟩ | ⟨hr, l, l', hl, hloop, -⟩ := GateController.calculateMaxBit_ok hq
  · exact openUntil_of_le_due h (by push_cast; linarith)
  obtain ⟨e, he, rfl⟩ := GateController.lookStart_ok hl
  have hbt : 0 < cfg.bitTime := cfg.bitTime_pos hr
  have hnext : s.gc.next = some s.gc.newSchedule := by rw [GateController.next, h.next]
  rw [hnext] at hloop
  rw [executedIndex_eq h] at he hloop
  have hreach : reached now cfg.bitTime {
      bits := 0, touchedNextSchedule := false, currentIndex := j,
      cumSumGateLength := s.gc.currentSchedule.startOf j,
      timeSinceLastChange := now - s.gc.lastChange, bitvector := e.scheduledObject,
      cycleStart := s.gc.cycleStart } = now := by
    rw [reached]
    ring
  refine (promise_current (N := s.gc.newSchedule) (c := c) (i := j)
    hbt fuel ⟨h, rfl, rfl, rfl, rfl, rfl, ⟨e, he, rfl⟩, ?_, ?_, le_rfl, ?_⟩ hloop).1
  · rw [hreach, h.lastChange]
    ring
  · rw [hreach]
    exact h2
  · rcases ht with hno | hf | ⟨hloaded, -⟩
    · rw [executedIndex_eq h] at hno
      exact Or.inl hno
    · exact Or.inr hf
    · rw [h.next] at hloaded
      cases hloaded

/-- before the first tick, which is due at `p` -/
structure Waiting (cfg : GateConfig) (p : SimTime) (s : GateSystem) : Prop where
  current : s.gc.currentSchedule = (GateController.constructed 0).currentSchedule
  loaded : ∃ L, s.gc.nextSchedule = .loaded L
  index : s.gc.scheduleIndex = 0
  lastChange : s.gc.lastChange = 0
  new : s.gc.newSchedule.WholeTicks cfg
  pending : s.pendingTick = some p
  nonneg : 0 ≤ p
  trace : s.trace = []

section
variable {p d : SimTime} {s : GateSystem}

/-- the system that was started -/
theorem waiting_start {xml : GateScheduleXml} (hx : xml.schedule.WholeTicks cfg)
    (h : start cfg xml = .ok s) :
    Waiting cfg (⌊xml.schedule.baseTime / cfg.clockRate⌋₊ * cfg.clockRate) s := by
  obtain ⟨-, -, -, rfl⟩ := start_iff.mp h
  refine ⟨rfl, ⟨_, rfl⟩, rfl, rfl, hx, rfl, ?_, rfl⟩
  exact mul_nonneg (Nat.cast_nonneg _) hx.clock.le

theorem Waiting.loads (h : Waiting cfg p s) : s.gc.Loads := by
  obtain ⟨L, hL⟩ := h.loaded
  refine ⟨h.index, ?_⟩
  rw [hL]
  exact nofun

/-- what has to be shown of the first tick -/
theorem openUntil_of_first (h : Waiting cfg p s)
    (hnext : ∀ s' e, Executing cfg p 0 s' → s'.gc = (s.gc.loadedAt p).advance p →
      s.gc.newSchedule.controlList[0]? = some e → s'.gateOpen g = e.scheduledObject.test g →
      (p < d → e.scheduledObject.test g = true) ∧ OpenUntil cfg g d s') : OpenUntil cfg g d s := by
  rw [openUntil_iff]
  intro mac s' hs
  obtain ⟨hex, hgc, e, he, htr⟩ := (tick_load cfg mac h.loads h.new h.pending).2 s' hs
  have hopen := gateOpen_of_trace (g := g) htr
  obtain ⟨h1, h2⟩ := hnext _ e hex hgc he hopen
  refine ⟨fun now hp hlt => ?_, h2⟩
  rw [h.pending] at hp
  cases hp
  rw [hopen]
  exact h1 hlt

theorem openUntil_of_le_first (h : Waiting cfg p s) (hd : d ≤ p) : OpenUntil cfg g d s := by
  apply openUntil_of_first h
  intro s' e hex hgc he hopen
  refine ⟨fun hlt => absurd hd (not_le.mpr hlt), openUntil_of_le_due hex (hd.trans ?_)⟩
  have := hex.le_due
  rwa [Schedule.startOf_zero, add_zero] at this

/-- **Promises before the first tick** are kept by the ticks. -/
theorem promise_waiting {fuel b : Nat} {gc' : GateController} (h : Waiting cfg p s)
    (h1 : now ≤ p) (ht : s.gc.Trustworthy cfg now g)
    (hq : s.gc.calculateMaxBit cfg fuel now g = .ok (b, gc')) :
    OpenUntil cfg g (now + b * cfg.bitTime) s := by
  obtain ⟨-, rfl, -⟩ | ⟨hr, l, l', hl, hloop, -⟩ := GateController.calculateMaxBit_ok hq
  · exact openUntil_of_le_first h (by push_cast; linarith)
  obtain ⟨e, he, rfl⟩ := GateController.lookStart_ok hl
  have hbt : 0 < cfg.bitTime := cfg.bitTime_pos hr
  have hidx : s.gc.executedIndex = 0 := by
    rw [GateController.executedIndex, h.current, h.index]
    rfl
  obtain ⟨L, hL⟩ := h.loaded
  have hnext : s.gc.next = some L := by rw [GateController.next, hL]
  rw [hnext] at hloop
  rw [hidx] at he hloop
  rw [h.current] at he
  cases he
  cases fuel with
  | zero => cases hloop
  | succ fuel =>
    rcases GateController.lookLoop_succ_ok hloop with ⟨hb, -, -⟩ | ⟨-, hcl, rfl, -⟩ |
      ⟨hb, hop, l1, hbody, hrest⟩
    · exact absurd mtuBitLength_pos hb
    · -- no such gate
      have hzero : GateController.bitsToUnsigned 0 = 0 := by
        simp [GateController.bitsToUnsigned]
      apply openUntil_of_le_first h
      show now + (GateController.bitsToUnsigned 0 : ℚ) * _ ≤ p
      rw [hzero, Nat.cast_zero, zero_mul, add_zero]
      exact h1
    -- the default schedule is left at once, less the time that has gone
    have hbody' : GateController.lookCurrent s.gc.currentSchedule cfg.bitTime L _
        = .ok l1 := hbody
    have hcut : s.gc.currentSchedule.cycleTime < s.gc.currentSchedule.startOf 0 + 1 := by
      rw [h.current]
      show (0 : ℚ) < 0 + 1
      norm_num
    obtain ⟨e0, he0, hl1⟩ := GateController.lookCurrent_swap (e := ⟨1, .allOpen⟩)
      (by rw [h.current]; rfl) (Or.inl hcut) hbody'
    have hcyc : s.gc.currentSchedule.cycleTime = 0 := by rw [h.current]; rfl
    simp only [if_pos hcut] at hl1
    have hreach : reached now cfg.bitTime l1 = 0 := by
      rw [hl1, reached]
      simp only [hcyc, h.lastChange, Schedule.startOf_zero]
      rw [zero_add, div_mul_cancel₀ _ hbt.ne']
      ring
    have hswap : GateController.SwapsAt s.gc.currentSchedule g cfg.bitTime
        s.gc.executedIndex 0 (now - s.gc.lastChange) 0 := by
      rw [hidx, h.current]
      refine ⟨le_rfl, Nat.zero_lt_one, fun m h1 h2 => absurd h2 (by omega), Or.inr rfl,
        fun m h1 h2 => ?_, mtuBitLength_pos, fun m h1 h2 => absurd h1 (by omega)⟩
      rw [show m = 0 by omega]
      exact hop
    rcases ht with hno | ⟨hf, -⟩ | ⟨hloaded, hfits, hclosed⟩
    · exact absurd hswap (hno 0)
    · rw [h.current] at hf
      exact absurd hf.1 (by decide +kernel)
    rw [hL] at hloaded
    cases hloaded
    apply openUntil_of_first h
    intro s' e hex hgc he hopen
    rw [he0] at he
    cases he
    have hin : InNext cfg s.gc.newSchedule g now cfg.bitTime p 0 0 s' l1 := by
      refine ⟨hex, ?_, ?_, ?_, ?_, ?_, ?_, ⟨e0, he0, ?_⟩, ?_, ?_, h.nonneg, ?_, fun k e hk hc => ?_⟩
      · rw [hgc]
        rfl
      · rw [hgc]
        rfl
      · rw [hgc]
        rfl
      · rw [hl1]
      · rw [hl1]
      · rw [hl1]
        exact (Schedule.startOf_zero _).symm
      · rw [hl1]
      · rw [hl1]
      · rw [hreach, Schedule.startOf_zero, add_zero]
      · rw [Schedule.startOf_zero, add_zero]
        exact h1
      · rw [zero_add]
        exact hclosed k e hk hc
    obtain ⟨h2, h3⟩ := promise_next hbt hfits fuel hin hrest
    have hv : l1.bitvector = e0.scheduledObject := by rw [hl1]
    rw [hv, Schedule.startOf_zero, add_zero] at h3
    exact ⟨fun hlt => h3.resolve_right (not_le.mpr hlt), h2⟩

end
end GateSystem
end Nesting
