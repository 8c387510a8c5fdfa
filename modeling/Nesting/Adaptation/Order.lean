import Nesting.Adaptation.TrafGenGCL

/-!
# Arrivals between two loads

With `autoIntervalDecrease` off a packet raises the pending interval, lowers it or keeps it
(`Reaction`).  Raising sets `isIncreased`, and lowering does nothing once it is set.

* `Fair`          whole microseconds, at most the executing interval before a raise and at least
                  the executing interval after one;
* `react_comm`    in fair states the reactions commute;
* `receive_perm`  every order of the same packets leaves the same controller, and one packet above
                  the upper limit keeps the pending interval from falling below the executing one.
-/

set_option linter.unusedVariables false

namespace Nesting

/-- how a packet of priority 7 changes the pending interval -/
inductive Reaction where
  | raise
  | lower
  | keep
  deriving DecidableEq

namespace AdaptationParams

/-- the branch a delay takes, `autoIntervalDecrease` off and `isIncreased` aside -/
def reaction (p : AdaptationParams) (a : Arrival) : Reaction :=
  if a.delay > p.upperLimitTime then .raise
  else if a.delay ≤ p.lowerLimitTime then .lower
  else .keep

/-- the pending interval and `isIncreased` after a reaction -/
def react (p : AdaptationParams) (c cur : SimTime) : Reaction → SimTime × Bool → SimTime × Bool
  | .raise, x => (truncUs (p.increased c cur x.1), true)
  | .lower, (t, false) => (truncUs (p.decreased c cur t), false)
  | .lower, (t, true) => (t, true)
  | .keep, x => x

/-- the pending interval is fair to the packets that have raised it -/
structure Fair (cur : SimTime) (x : SimTime × Bool) : Prop where
  whole : WholeUs x.1
  kept : x.2 = false → x.1 ≤ cur
  raised : x.2 = true → cur ≤ x.1

section
variable {p : Adaptation} {c cur : SimTime}

theorem increased_of_le (p : AdaptationParams) {t : SimTime} (h : t ≤ cur) :
    p.increased c cur t = p.increased c cur cur := by
  have : (if t < cur then cur else t) = cur := by
    split
    · rfl
    · rename_i hge
      exact le_antisymm h (not_lt.mp hge)
  rw [increased, increased, this, if_neg (lt_irrefl cur)]

theorem le_increased (p : Adaptation) (hhigh : cur ≤ c * (9 / 10)) (t : SimTime) :
    cur ≤ p.increased c cur t := by
  obtain ⟨⟨hinc, -⟩, ⟨hmax, -⟩, -⟩ := p.valid
  have hbase := le_max_left cur t
  obtain ⟨-, heq⟩ | ⟨-, ⟨-, heq⟩ | ⟨-, heq⟩⟩ := increased_cases p c cur t
  · rw [heq]
    exact hhigh
  · linarith
  · linarith

theorem decreased_le (p : Adaptation) {t : SimTime} (h : t ≤ cur) :
    p.decreased c cur t ≤ cur ∨ p.decreased c cur t = c * (1 / 10) := by
  obtain ⟨⟨-, hdec⟩, ⟨-, hmax⟩, -⟩ := p.valid
  obtain ⟨-, heq⟩ | ⟨-, ⟨-, heq⟩ | ⟨-, heq⟩⟩ := decreased_cases p c h
  · exact .inr heq
  · left
    linarith
  · left
    linarith

/-- a reaction keeps the pending interval fair -/
theorem fair_react (hcur : WholeUs cur) (hlow : truncUs (c * (1 / 10)) ≤ cur)
    (hhigh : cur ≤ c * (9 / 10)) (r : Reaction) {x : SimTime × Bool} (hx : Fair cur x) :
    Fair cur (p.react c cur r x) := by
  obtain ⟨t, b⟩ := x
  cases r with
  | raise =>
    refine ⟨wholeUs_truncUs _, fun h => ?_, fun _ => le_truncUs hcur (le_increased p hhigh t)⟩
    cases h
  | lower =>
    cases b with
    | false =>
      refine ⟨wholeUs_truncUs _, fun _ => ?_, fun h => ?_⟩
      swap
      · cases h
      show truncUs (p.decreased c cur t) ≤ cur
      rcases decreased_le (c := c) p (hx.kept rfl) with h | h
      · exact (truncUs_mono h).trans_eq (truncUs_whole hcur)
      · rw [h]
        exact hlow
    | true => exact hx
  | keep => exact hx

/-- **Reactions commute** in fair states. -/
theorem react_comm (hcur : WholeUs cur) (hlow : truncUs (c * (1 / 10)) ≤ cur)
    (hhigh : cur ≤ c * (9 / 10)) (r r' : Reaction) {x : SimTime × Bool} (hx : Fair cur x) :
    p.react c cur r (p.react c cur r' x) = p.react c cur r' (p.react c cur r x) := by
  -- a raise forgets what was lowered before it, and nothing is lowered after it
  have raise_lower : p.react c cur .raise (p.react c cur .lower x)
      = p.react c cur .lower (p.react c cur .raise x) := by
    have hx' := fair_react (p := p) hcur hlow hhigh .lower hx
    obtain ⟨t, b⟩ := x
    cases b with
    | true => rfl
    | false =>
      show (truncUs (p.increased c cur (truncUs (p.decreased c cur t))), true)
        = (truncUs (p.increased c cur t), true)
      have hx1 : truncUs (p.decreased c cur t) ≤ cur := hx'.kept rfl
      rw [increased_of_le _ (hx.kept rfl), increased_of_le _ hx1]
  cases r with
  | keep => rfl
  | raise =>
    cases r' with
    | raise => rfl
    | lower => exact raise_lower
    | keep => rfl
  | lower =>
    cases r' with
    | raise => exact raise_lower.symm
    | lower => rfl
    | keep => rfl

end

/-! ## packets -/

/-- the controller with the pending interval and the flag replaced -/
def withPending (gc : GateController) (x : SimTime × Bool) : GateController :=
  { gc with
    newSchedule := gc.newSchedule.withFirstTwo x.1 (gc.newSchedule.cycleTime - x.1)
    isIncreased := x.2 }

/-- the pending interval and the flag of a controller -/
def pendingOf (gc : GateController) : SimTime × Bool := (gc.newSchedule.intervalAt 0, gc.isIncreased)

/-- a controller between two loads -/
structure BetweenLoads (c cur : SimTime) (gc : GateController) : Prop where
  two : 2 ≤ gc.newSchedule.controlList.length
  executing : 0 < gc.currentSchedule.controlList.length
  cycle : gc.newSchedule.cycleTime = c
  current : gc.currentSchedule.intervalAt 0 = cur
  fair : Fair cur (pendingOf gc)

section
variable {p : Adaptation} {c cur : SimTime} {gc : GateController}

theorem pendingOf_withPending (h : 2 ≤ gc.newSchedule.controlList.length) (x : SimTime × Bool) :
    pendingOf (withPending gc x) = x := by
  rw [pendingOf]
  show ((gc.newSchedule.withFirstTwo _ _).intervalAt 0, x.2) = x
  rw [(Schedule.withFirstTwo_intervalAt _ _ h).1]

theorem withPending_twice (gc : GateController) (x y : SimTime × Bool) :
    withPending (withPending gc x) y = withPending gc y := by
  show { gc with newSchedule := _, isIncreased := _ } = { gc with newSchedule := _, isIncreased := _ }
  rw [show (withPending gc x).newSchedule = gc.newSchedule.withFirstTwo x.1 _ from rfl,
    Schedule.withFirstTwo_cycleTime, Schedule.withFirstTwo_twice]

/-- **A packet of priority 7** replaces the pending interval by its reaction to it. -/
theorem receivePacket_react (hauto : p.autoIntervalDecrease = false) (hb : BetweenLoads c cur gc)
    (lastTT : SimTime) {a : Arrival} (h7 : a.pcp = 7) :
    p.receivePacket lastTT gc a
      = .ok (withPending gc (p.react c cur (p.reaction a) (pendingOf gc))) := by
  have hwhole := truncUs_whole hb.fair.whole
  rw [receivePacket_eq _ lastTT h7 hb.executing hb.two]
  have hx : (truncUs (p.target lastTT gc a),
      if a.delay > p.upperLimitTime then true else gc.isIncreased)
      = p.react c cur (p.reaction a) (pendingOf gc) := by
    rw [target, targetTimeInterval, reaction, hauto, hb.cycle, hb.current]
    by_cases hup : a.delay > p.upperLimitTime
    · rw [if_pos hup, if_pos hup, if_pos hup]
      rfl
    · rw [if_neg hup, if_neg hup, if_neg hup, if_neg (by simp)]
      rw [pendingOf] at hwhole ⊢
      cases hi : gc.isIncreased with
      | true =>
        rw [if_neg (by simp)]
        show (truncUs (gc.newSchedule.intervalAt 0), true) = _
        rw [show truncUs (gc.newSchedule.intervalAt 0) = gc.newSchedule.intervalAt 0 from hwhole]
        split <;> rfl
      | false =>
        by_cases hlow : a.delay ≤ p.lowerLimitTime
        · rw [if_pos ⟨hlow, rfl⟩, if_pos hlow]
          rfl
        · rw [if_neg (fun h => hlow h.1), if_neg hlow]
          show (truncUs (gc.newSchedule.intervalAt 0), false) = _
          rw [show truncUs (gc.newSchedule.intervalAt 0) = gc.newSchedule.intervalAt 0 from hwhole]
          rfl
  rw [← hx]
  rfl

theorem betweenLoads_withPending (hb : BetweenLoads c cur gc) {x : SimTime × Bool}
    (hx : Fair cur x) : BetweenLoads c cur (withPending gc x) := by
  refine ⟨?_, hb.executing, ?_, hb.current, ?_⟩
  · show 2 ≤ (gc.newSchedule.withFirstTwo _ _).controlList.length
    rw [Schedule.withFirstTwo_length]
    exact hb.two
  · show (gc.newSchedule.withFirstTwo _ _).cycleTime = c
    rw [Schedule.withFirstTwo_cycleTime]
    exact hb.cycle
  · rw [pendingOf_withPending hb.two]
    exact hx

variable (hauto : p.autoIntervalDecrease = false) (hcur : WholeUs cur)
  (hlow : truncUs (c * (1 / 10)) ≤ cur) (hhigh : cur ≤ c * (9 / 10)) (lastTT : SimTime)
include hauto hcur hlow hhigh

/-- every packet is received, and the controller stays between two loads -/
theorem betweenLoads_receive (hb : BetweenLoads c cur gc) (a : Arrival) :
    ∃ gc', p.receivePacket lastTT gc a = .ok gc' ∧ BetweenLoads c cur gc' ∧
      (gc.isIncreased = true → gc'.isIncreased = true) ∧
      (a.pcp = 7 → a.delay > p.upperLimitTime → gc'.isIncreased = true) := by
  by_cases h7 : a.pcp = 7
  · refine ⟨_, receivePacket_react hauto hb lastTT h7, betweenLoads_withPending hb
      (fair_react hcur hlow hhigh _ hb.fair), fun hi => ?_, fun _ hd => ?_⟩
    · show (p.react c cur (p.reaction a) (pendingOf gc)).2 = true
      rw [pendingOf, hi]
      cases p.reaction a <;> rfl
    · show (p.react c cur (p.reaction a) (pendingOf gc)).2 = true
      rw [reaction, if_pos hd]
      rfl
  · exact ⟨gc, receivePacket_other h7, hb, id, fun h => absurd h h7⟩

/-- two packets may be received in either order -/
theorem receive_comm (hb : BetweenLoads c cur gc) (a b : Arrival) :
    Lib.run (p.receivePacket lastTT) gc [a, b] = Lib.run (p.receivePacket lastTT) gc [b, a] := by
  have two : ∀ (a b : Arrival) (gc1 : GateController), p.receivePacket lastTT gc a = .ok gc1 →
      Lib.run (p.receivePacket lastTT) gc [a, b] = p.receivePacket lastTT gc1 b := by
    intro a b gc1 h
    rw [Lib.run_cons, h]
    show Lib.run (p.receivePacket lastTT) gc1 [b] = _
    rw [Lib.run_cons]
    cases p.receivePacket lastTT gc1 b <;> rfl
  by_cases ha : a.pcp = 7
  · have hra := receivePacket_react hauto hb lastTT ha
    have hba := betweenLoads_withPending hb
      (fair_react (p := p) hcur hlow hhigh (p.reaction a) hb.fair)
    by_cases hb7 : b.pcp = 7
    · have hrb := receivePacket_react hauto hb lastTT hb7
      have hbb := betweenLoads_withPending hb
        (fair_react (p := p) hcur hlow hhigh (p.reaction b) hb.fair)
      rw [two a b _ hra, two b a _ hrb, receivePacket_react hauto hba lastTT hb7,
        receivePacket_react hauto hbb lastTT ha, pendingOf_withPending hb.two,
        pendingOf_withPending hb.two, withPending_twice, withPending_twice,
        react_comm hcur hlow hhigh _ _ hb.fair]
    · rw [two a b _ hra, two b a _ (receivePacket_other hb7), receivePacket_other hb7, hra]
  · obtain ⟨gc', hrb, -⟩ := betweenLoads_receive hauto hcur hlow hhigh lastTT hb b
    rw [two a b _ (receivePacket_other ha), two b a _ hrb, receivePacket_other ha, hrb]

/-- a whole list of packets is received -/
theorem betweenLoads_run (hb : BetweenLoads c cur gc) (l : List Arrival) :
    ∃ gc', Lib.run (p.receivePacket lastTT) gc l = .ok gc' ∧ BetweenLoads c cur gc' ∧
      ((gc.isIncreased = true ∨ ∃ a ∈ l, a.pcp = 7 ∧ a.delay > p.upperLimitTime) →
        gc'.isIncreased = true) := by
  induction l generalizing gc with
  | nil => exact ⟨gc, rfl, hb, fun h => h.elim id fun ⟨a, ha, _⟩ => absurd ha List.not_mem_nil⟩
  | cons a l ih =>
    obtain ⟨gc1, h1, hb1, hkeep, hset⟩ := betweenLoads_receive hauto hcur hlow hhigh lastTT hb a
    obtain ⟨gc2, h2, hb2, hflag⟩ := ih hb1
    refine ⟨gc2, Lib.run_cons_ok.mpr ⟨gc1, h1, h2⟩, hb2, ?_⟩
    rintro (hi | ⟨b, hb, h7, hd⟩)
    · exact hflag (Or.inl (hkeep hi))
    · rcases List.mem_cons.mp hb with rfl | hb
      · exact hflag (Or.inl (hset h7 hd))
      · exact hflag (Or.inr ⟨b, hb, h7, hd⟩)

omit hcur hlow hhigh hauto

/-- **Order does not matter and increases win.**  Between two loads, from a pending interval equal to
the executing one, every order of the packets leaves the same controller; a packet of priority 7
above the upper limit keeps the pending interval from falling below the executing one. -/
theorem receive_perm (hauto : p.autoIntervalDecrease = false)
    (hnew : gc.newSchedule.controlList.length = 2) (hlen : gc.currentSchedule.controlList.length = 2)
    (hcycle : gc.newSchedule.cycleTime = c) (hcurrent : gc.currentSchedule.intervalAt 0 = cur)
    (hpending : gc.newSchedule.intervalAt 0 = cur) (hflag : gc.isIncreased = false)
    (hwhole : WholeUs cur) (hlow : truncUs (c * (1 / 10)) ≤ cur) (hhigh : cur ≤ c * (9 / 10))
    {l l' : List Arrival} (hperm : l.Perm l') :
    ∃ gc', Lib.run (p.receivePacket lastTT) gc l = .ok gc' ∧
      Lib.run (p.receivePacket lastTT) gc l' = .ok gc' ∧
      ((∃ a ∈ l, a.pcp = 7 ∧ a.delay > p.upperLimitTime) → cur ≤ gc'.newSchedule.intervalAt 0) := by
  have hb : BetweenLoads c cur gc := by
    refine ⟨by omega, by omega, hcycle, hcurrent, ?_, fun _ => ?_, fun h => ?_⟩
    · rw [pendingOf, hpending]
      exact hwhole
    · exact hpending.le
    · rw [show gc.isIncreased = true from h] at hflag
      cases hflag
  obtain ⟨gc', hrun, hb', hraised⟩ := betweenLoads_run hauto hwhole hlow hhigh lastTT hb l
  refine ⟨gc', hrun, ?_, fun hex => hb'.fair.raised (hraised (Or.inr hex))⟩
  rw [← hrun]
  symm
  apply Lib.run_perm (I := BetweenLoads c cur) _ _ hperm hb
  · intro s a s' hs h
    obtain ⟨s1, h1, hb1, -⟩ := betweenLoads_receive hauto hwhole hlow hhigh lastTT hs a
    rw [h1] at h
    cases h
    exact hb1
  · intro s a b hs
    exact receive_comm hauto hwhole hlow hhigh lastTT hs a b

end

/-- steps of 10 us and 5 us, at most 20 us a cycle, limits of 100 us and 50 us -/
def usSteps : Adaptation where
  increasesteplength := 1 / 100000
  decreasesteplength := 5 / 1000000
  maxIncreasesteplength := 2 / 100000
  maxDecreasesteplength := 2 / 100000
  upperLimitTime := 1 / 10000
  lowerLimitTime := 5 / 100000
  autoIntervalDecrease := false
  accepted := by decide +kernel

/-- 400 us of 1 ms for the time-triggered traffic -/
def msCycle : GateScheduleXml := ⟨some (1 / 1000), none, [⟨4 / 10000, 128⟩, ⟨6 / 10000, 127⟩]⟩

/-- the controller after the first load -/
def msRunning : GateController :=
  { (GateController.initial msCycle 0).loadNew with scheduleIndex := 1 }

/-- a packet within the lower limit and one above the upper limit, in both orders -/
theorem receive_perm_pair :
    ∃ gc', Lib.run (usSteps.receivePacket 0) msRunning
        [⟨7, 3 / 100000, [0]⟩, ⟨7, 2 / 10000, [0]⟩] = .ok gc' ∧
      Lib.run (usSteps.receivePacket 0) msRunning
        [⟨7, 2 / 10000, [0]⟩, ⟨7, 3 / 100000, [0]⟩] = .ok gc' ∧
      ((∃ a ∈ [(⟨7, 3 / 100000, [0]⟩ : Arrival), ⟨7, 2 / 10000, [0]⟩],
        a.pcp = 7 ∧ a.delay > usSteps.upperLimitTime) →
          4 / 10000 ≤ gc'.newSchedule.intervalAt 0) :=
  receive_perm 0 rfl rfl rfl (show msRunning.newSchedule.cycleTime = 1 / 1000 from rfl)
    (show msRunning.currentSchedule.intervalAt 0 = 4 / 10000 from rfl) rfl rfl ⟨400, by norm_num⟩ (by decide +kernel) (by norm_num) (List.Perm.swap _ _ _)

end AdaptationParams
end Nesting
