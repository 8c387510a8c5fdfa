import Nesting.Adaptation.Exclusive

/-!
# The turns of a receiver

When neither of its controllers is selected, a receiver is to adapt the common one first, then the
exclusive one, and to begin again with the common one when the direction changes.

* `seen`, `choices`   what a receiver got and where it went, the newest first;
* `CommonTurn`, `alternate`   the choices by turns;
* `OwnTurn`           the static locals say what the receiver's own packets have left;
* `ownTurn_iff`       which they do when the packets of the others have left the turn to it;
* `choices_iff`       two runs that look the same to a receiver;
* `choices_differ`    a packet of another receiver changes the turn.
-/

set_option linter.unusedVariables false

namespace Nesting

open Lib

/-- a packet and the flags the receiver saw with it -/
structure SeenPacket where
  a : Arrival
  switchA_isSeleted : Bool
  switchB_isSeleted : Bool
  deriving DecidableEq

inductive Direction where
  | increase
  | decrease
  deriving DecidableEq

/-- the direction of an adjustment that has to choose a switch -/
def SeenPacket.direction (p : AdaptationParams) (x : SeenPacket) : Option Direction :=
  if x.switchA_isSeleted || x.switchB_isSeleted then none
  else if p.Late x.a then some .increase
  else if p.Early x.a then some .decrease
  else none

theorem direction_late (p : Adaptation) {a : Arrival} (h : p.Late a) :
    (⟨a, false, false⟩ : SeenPacket).direction p.toAdaptationParams = some .increase :=
  if_pos h

theorem direction_early (p : Adaptation) {a : Arrival} (h : p.Early a) :
    (⟨a, false, false⟩ : SeenPacket).direction p.toAdaptationParams = some .decrease :=
  (if_neg fun hl => p.not_early_of_late hl h).trans (if_pos h)

theorem direction_unchanged (p : Adaptation) {a : Arrival} (hl : ¬p.Late a) (he : ¬p.Early a) :
    (⟨a, false, false⟩ : SeenPacket).direction p.toAdaptationParams = none :=
  (if_neg hl).trans (if_neg he)

def seen (i : Nat) (log : List TwoSwitchRecord) : List SeenPacket :=
  log.filterMap fun
    | .received j a switchA switchB _ => if j = i then some ⟨a, switchA, switchB⟩ else none
    | .cycleStart _ => none

def choices (i : Nat) (log : List TwoSwitchRecord) : List Nat :=
  log.filterMap fun
    | .received j _ _ _ c => if j = i then some c else none
    | .cycleStart _ => none

/-- the common switch comes first in each direction, and then every other time -/
def CommonTurn (d : Direction) (before : List Direction) : Prop :=
  (before.takeWhile fun x => x = d).length % 2 = 0

instance (d : Direction) (before : List Direction) : Decidable (CommonTurn d before) :=
  inferInstanceAs (Decidable (_ = _))

/-- the directions in which the receiver has chosen a switch -/
def directions (p : AdaptationParams) (xs : List SeenPacket) : List Direction :=
  xs.filterMap (SeenPacket.direction p)

theorem commonTurn_cons_self (d : Direction) (before : List Direction) :
    CommonTurn d (d :: before) ↔ ¬CommonTurn d before := by
  unfold CommonTurn
  rw [List.takeWhile_cons_of_pos (by simp), List.length_cons]
  omega

theorem commonTurn_cons_ne {d d' : Direction} (h : d' ≠ d) (before : List Direction) :
    CommonTurn d (d' :: before) := by
  unfold CommonTurn
  rw [List.takeWhile_cons_of_neg (by simpa using h)]
  rfl

/-- the direction in which a packet has chosen a switch, whichever receiver got it -/
def TwoSwitchRecord.direction (cfg : TwoSwitchConfig) : TwoSwitchRecord → Option Direction
  | .received j a switchA switchB _ => cfg.receivers[j]?.bind fun r =>
      SeenPacket.direction r.adaptation.toAdaptationParams ⟨a, switchA, switchB⟩
  | .cycleStart _ => none

/-- the directions in which the receivers have chosen switches, the newest first -/
def allDirections (cfg : TwoSwitchConfig) (log : List TwoSwitchRecord) : List Direction :=
  log.filterMap (TwoSwitchRecord.direction cfg)

/-- the static locals hold what these directions have left -/
structure FirstSwitch.Counts (f : FirstSwitch) (before : List Direction) : Prop where
  increase : f.is_first_increase_switch = true ↔ CommonTurn .increase before
  decrease : f.is_first_decrease_switch = true ↔ CommonTurn .decrease before

/-- the choices of a receiver that takes turns -/
def alternate (r : TwoSwitchParams) : List SeenPacket → List Nat
  | [] => []
  | x :: xs =>
    (if x.switchA_isSeleted then r.gateController_a
    else if x.switchB_isSeleted then r.gateController_b
    else
      match x.direction r.adaptation.toAdaptationParams with
      | some d =>
        if CommonTurn d (directions r.adaptation.toAdaptationParams xs) then r.gateController_a
        else r.gateController_b
      | none => (alternate r xs).headD r.gateController_a) :: alternate r xs

namespace TwoSwitchSystem

variable {cfg : TwoSwitchConfig} {s s' t : TwoSwitchSystem}

/-- the static locals name the switch whose turn it is by the receiver's own packets -/
def OwnTurn (cfg : TwoSwitchConfig) (i : Nat) (s : TwoSwitchSystem) : TwoSwitchEvent → Prop
  | .receivePacket j a => j = i → ∀ r ∈ cfg.receivers[i]?,
    s.selected r.gateController_a = false → s.selected r.gateController_b = false →
      (r.adaptation.Late a → (s.firstSwitch.is_first_increase_switch = true ↔
        CommonTurn .increase (directions r.adaptation.toAdaptationParams (seen i s.log)))) ∧
      (r.adaptation.Early a → (s.firstSwitch.is_first_decrease_switch = true ↔
        CommonTurn .decrease (directions r.adaptation.toAdaptationParams (seen i s.log))))
  | _ => True

instance (cfg : TwoSwitchConfig) (i : Nat) (s : TwoSwitchSystem) (e : TwoSwitchEvent) :
    Decidable (OwnTurn cfg i s e) :=
  match e with
  | .receivePacket j _ => inferInstanceAs (Decidable (j = i → ∀ r ∈ cfg.receivers[i]?, _))
  | .updateSchedule _ _ _ | .ttTransmitted _ _ => isTrue trivial

/-- the pointer leads to the last choice -/
def PointsToLast (i : Nat) (s : TwoSwitchSystem) : Prop :=
  (s.receivers i).gateController = (choices i s.log).head?

/-- a packet moves the pointers of its own receiver, and records nothing yet -/
theorem Chooses.frame {i c : Nat} {r : TwoSwitchParams} {a : Arrival} (h : Chooses s i r a t c) :
    t.log = s.log ∧ ∀ j, j ≠ i → t.receivers j = s.receivers j := by
  cases h with
  | switchA | switchB | next => exact ⟨rfl, fun j hj => Function.update_of_ne hj _ _⟩

theorem Chooses.pointer {i c : Nat} {r : TwoSwitchParams} {a : Arrival}
    (h : Chooses s i r a t c) : (t.receivers i).gateController = some c := by
  cases h with
  | switchA | switchB => exact congrArg _ (Function.update_self _ _ _)
  | next _ _ _ hc => exact (congrArg _ (Function.update_self _ _ _)).trans hc

/-- what a step adds for one receiver: nothing, or a packet it has dealt with -/
inductive Adds (cfg : TwoSwitchConfig) (i : Nat) (s : TwoSwitchSystem) (e : TwoSwitchEvent)
    (s' : TwoSwitchSystem) : Prop
  | nothing (he : ∀ a, e ≠ .receivePacket i a) (hseen : seen i s'.log = seen i s.log)
      (hchoices : choices i s'.log = choices i s.log)
      (hp : (s'.receivers i).gateController = (s.receivers i).gateController)
  | packet {a : Arrival} {r : TwoSwitchParams} {t : TwoSwitchSystem} {c : Nat}
      (he : e = .receivePacket i a) (hr : cfg.receivers[i]? = some r) (hc : Chooses s i r a t c)
      (hseen : seen i s'.log =
        ⟨a, s.selected r.gateController_a, s.selected r.gateController_b⟩ :: seen i s.log)
      (hchoices : choices i s'.log = c :: choices i s.log)
      (hp : (s'.receivers i).gateController = some c)

theorem step_adds (i : Nat) {e : TwoSwitchEvent} (hs : s.step cfg e = .ok s') :
    Adds cfg i s e s' := by
  cases e with
  | receivePacket j a =>
    obtain ⟨r, t, c, gc, hr, hchoose, _, rfl⟩ := receivePacket_ok hs
    obtain ⟨hlog, hother⟩ := hchoose.frame
    by_cases hj : j = i
    · subst hj
      refine .packet rfl hr hchoose ?_ ?_ hchoose.pointer
      · dsimp only
        rw [hlog]
        exact List.filterMap_cons_some (if_pos rfl)
      · dsimp only
        rw [hlog]
        exact List.filterMap_cons_some (if_pos rfl)
    · refine .nothing (fun b hb => hj (TwoSwitchEvent.receivePacket.inj hb).1) ?_ ?_
        (congrArg _ (hother i (Ne.symm hj)))
      · dsimp only
        rw [hlog]
        exact List.filterMap_cons_none (if_neg hj)
      · dsimp only
        rw [hlog]
        exact List.filterMap_cons_none (if_neg hj)
  | updateSchedule c mac now =>
    obtain ⟨gc, _, hrec, _, ⟨hlog, _⟩ | ⟨hlog, _⟩⟩ := updateSchedule_ok hs
    · exact .nothing nofun (by rw [hlog]; rfl) (by rw [hlog]; rfl) (by rw [hrec])
    · exact .nothing nofun (by rw [hlog]) (by rw [hlog]) (by rw [hrec])
  | ttTransmitted ts simTime =>
    cases hs
    exact .nothing nofun rfl rfl rfl

theorem pointsToLast_step {i : Nat} {e : TwoSwitchEvent} (h : PointsToLast i s)
    (hs : s.step cfg e = .ok s') : PointsToLast i s' := by
  cases step_adds i hs with
  | nothing _ _ hchoices hp => exact (hp.trans h).trans (congrArg List.head? hchoices.symm)
  | packet _ _ _ _ hchoices hp => exact hp.trans (congrArg List.head? hchoices.symm)

/-- a packet goes where the turns send it exactly when the static locals agree with them -/
theorem choice_iff {i c : Nat} {a : Arrival} {r : TwoSwitchParams} (hp : PointsToLast i s)
    (hr : cfg.receivers[i]? = some r) (hne : r.gateController_b ≠ r.gateController_a)
    (hc : Chooses s i r a t c) (halt : choices i s.log = alternate r (seen i s.log)) :
    c :: choices i s.log = alternate r
        (⟨a, s.selected r.gateController_a, s.selected r.gateController_b⟩ :: seen i s.log) ↔
      OwnTurn cfg i s (.receivePacket i a) := by
  have hown : OwnTurn cfg i s (.receivePacket i a) ↔
      (s.selected r.gateController_a = false → s.selected r.gateController_b = false →
        (r.adaptation.Late a → (s.firstSwitch.is_first_increase_switch = true ↔
          CommonTurn .increase (directions r.adaptation.toAdaptationParams (seen i s.log)))) ∧
        (r.adaptation.Early a → (s.firstSwitch.is_first_decrease_switch = true ↔
          CommonTurn .decrease (directions r.adaptation.toAdaptationParams (seen i s.log))))) := by
    refine ⟨fun h => h rfl r hr, fun h _ r' hr' => ?_⟩
    cases hr.symm.trans hr'
    exact h
  rw [hown, alternate, List.cons_eq_cons, and_iff_left halt]
  cases hc with
  | switchA ha hb =>
    rw [ha]
    exact iff_of_true rfl nofun
  | switchB ha hb =>
    rw [ha, hb]
    exact iff_of_true rfl fun _ => nofun
  | next ha hb hs hg =>
    rw [ha, hb]
    dsimp only
    rw [if_neg nofun, if_neg nofun, imp_iff_right rfl, imp_iff_right rfl]
    cases hs with
    | increaseA hl hf =>
      cases hg
      rw [direction_late _ hl, imp_iff_right hl, hf,
        and_iff_left fun he => absurd he (r.adaptation.not_early_of_late hl)]
      dsimp only
      split
      · rename_i hturn
        exact iff_of_true rfl (iff_of_true rfl hturn)
      · rename_i hturn
        exact iff_of_false hne.symm fun h => hturn (h.mp rfl)
    | increaseB hl hf =>
      cases hg
      rw [direction_late _ hl, imp_iff_right hl, hf,
        and_iff_left fun he => absurd he (r.adaptation.not_early_of_late hl)]
      dsimp only
      split
      · rename_i hturn
        exact iff_of_false hne fun h => absurd (h.mpr hturn) nofun
      · rename_i hturn
        exact iff_of_true rfl (iff_of_false nofun hturn)
    | decreaseA he hf =>
      cases hg
      have hl : ¬r.adaptation.Late a := fun hl => r.adaptation.not_early_of_late hl he
      rw [direction_early _ he, and_iff_right fun h => absurd h hl, imp_iff_right he, hf]
      dsimp only
      split
      · rename_i hturn
        exact iff_of_true rfl (iff_of_true rfl hturn)
      · rename_i hturn
        exact iff_of_false hne.symm fun h => hturn (h.mp rfl)
    | decreaseB he hf =>
      cases hg
      have hl : ¬r.adaptation.Late a := fun hl => r.adaptation.not_early_of_late hl he
      rw [direction_early _ he, and_iff_right fun h => absurd h hl, imp_iff_right he, hf]
      dsimp only
      split
      · rename_i hturn
        exact iff_of_false hne fun h => absurd (h.mpr hturn) nofun
      · rename_i hturn
        exact iff_of_true rfl (iff_of_false nofun hturn)
    | unchanged hl he =>
      rw [direction_unchanged _ hl he]
      dsimp only
      refine iff_of_true ?_ ⟨fun h => absurd h hl, fun h => absurd h he⟩
      -- the packet goes where the last one went
      have hlast := hp.symm.trans hg
      rw [← halt, List.headD_eq_head?_getD, hlast]
      rfl

/-- in a run a receiver takes turns exactly when the static locals do not mislead it -/
theorem alternate_iff (cfg : TwoSwitchConfig) (xml : Nat → GateScheduleXml) (i : Nat)
    (r : TwoSwitchParams) (hr : cfg.receivers[i]? = some r)
    (hne : r.gateController_b ≠ r.gateController_a) {es : List TwoSwitchEvent}
    (hrun : run (step cfg) (start xml) es = .ok s) :
    choices i s.log = alternate r (seen i s.log) ↔
      Meets (step cfg) (OwnTurn cfg i) (start xml) es := by
  have h := run_iff_meets (I := PointsToLast i) (O := OwnTurn cfg i)
    (P := fun s => choices i s.log = alternate r (seen i s.log))
    (fun s e s' h hs => pointsToLast_step h hs) ?_ (rfl : PointsToLast i (start xml)) hrun
  · exact h.trans (and_iff_right rfl)
  · intro s e s' hp hs
    cases step_adds i hs with
    | nothing he hseen hchoices _ =>
      rw [hseen, hchoices]
      refine (and_iff_left ?_).symm
      cases e with
      | receivePacket j a =>
        intro hj
        exact absurd (hj ▸ rfl) (he a)
      | updateSchedule c mac now => trivial
      | ttTransmitted ts simTime => trivial
    | packet he hr' hc hseen hchoices _ =>
      subst he
      cases hr.symm.trans hr'
      rw [hseen, hchoices]
      by_cases halt : choices i s.log = alternate r (seen i s.log)
      · rw [and_iff_right halt]
        exact choice_iff hp hr hne hc halt
      · refine iff_of_false (fun h => halt ?_) fun h => halt h.1
        rw [alternate] at h
        exact (List.cons.inj h).2

/-! ## the packets of all receivers -/

/-- a packet that chooses a switch adds its direction and changes the static locals with it -/
theorem Selects.counts {i : Nat} {r : TwoSwitchParams} {a : Arrival} {g : TwoSwitchReceiver}
    {f : FirstSwitch} {before : List Direction} (h : Selects s i r a g f)
    (hc : s.firstSwitch.Counts before) :
    f.Counts (((⟨a, false, false⟩ : SeenPacket).direction r.adaptation.toAdaptationParams).toList ++
      before) := by
  cases h with
  | increaseA hl hf =>
    rw [direction_late _ hl]
    show FirstSwitch.Counts _ (.increase :: before)
    refine ⟨iff_of_false nofun fun h => ?_, iff_of_true rfl (commonTurn_cons_ne (by decide) before)⟩
    exact (commonTurn_cons_self _ _).mp h (hc.increase.mp hf)
  | increaseB hl hf =>
    rw [direction_late _ hl]
    show FirstSwitch.Counts _ (.increase :: before)
    refine ⟨iff_of_true rfl ((commonTurn_cons_self _ _).mpr fun h => ?_),
      iff_of_true rfl (commonTurn_cons_ne (by decide) before)⟩
    exact absurd ((hc.increase.mpr h).symm.trans hf) nofun
  | decreaseA he hf =>
    rw [direction_early _ he]
    show FirstSwitch.Counts _ (.decrease :: before)
    refine ⟨iff_of_true rfl (commonTurn_cons_ne (by decide) before), iff_of_false nofun fun h => ?_⟩
    exact (commonTurn_cons_self _ _).mp h (hc.decrease.mp hf)
  | decreaseB he hf =>
    rw [direction_early _ he]
    show FirstSwitch.Counts _ (.decrease :: before)
    refine ⟨iff_of_true rfl (commonTurn_cons_ne (by decide) before),
      iff_of_true rfl ((commonTurn_cons_self _ _).mpr fun h => ?_)⟩
    exact absurd ((hc.decrease.mpr h).symm.trans hf) nofun
  | unchanged hl he =>
    rw [direction_unchanged _ hl he]
    exact hc

/-- in every state the static locals hold the turn of all receivers together -/
theorem counts_step {e : TwoSwitchEvent} (h : s.firstSwitch.Counts (allDirections cfg s.log))
    (hs : s.step cfg e = .ok s') : s'.firstSwitch.Counts (allDirections cfg s'.log) := by
  cases e with
  | receivePacket i a =>
    obtain ⟨r, t, c, gc, hr, hchoose, _, rfl⟩ := receivePacket_ok hs
    have hadd : ∀ (x y : Bool) (log : List TwoSwitchRecord),
        allDirections cfg (.received i a x y c :: log) =
          ((⟨a, x, y⟩ : SeenPacket).direction r.adaptation.toAdaptationParams).toList ++
            allDirections cfg log := by
      intro x y log
      unfold allDirections
      rw [List.filterMap_cons]
      have hd : TwoSwitchRecord.direction cfg (.received i a x y c) =
          (⟨a, x, y⟩ : SeenPacket).direction r.adaptation.toAdaptationParams := by
        rw [TwoSwitchRecord.direction, hr]
        rfl
      rw [hd]
      cases (⟨a, x, y⟩ : SeenPacket).direction r.adaptation.toAdaptationParams <;> rfl
    dsimp only
    rw [hadd]
    cases hchoose with
    | switchA ha hb =>
      rw [ha]
      exact h
    | switchB ha hb =>
      rw [ha, hb]
      exact h
    | next ha hb hselects hg =>
      rw [ha, hb]
      exact hselects.counts h
  | updateSchedule c mac now =>
    obtain ⟨gc, _, _, hfirst, hlog⟩ := updateSchedule_ok hs
    rw [hfirst]
    obtain ⟨hlog, _⟩ | ⟨hlog, _⟩ := hlog
    · rw [hlog]
      exact h
    · rw [hlog]
      exact h
  | ttTransmitted ts simTime =>
    cases hs
    exact h

/-- the packets of the other receivers have left the turn to the receiver's own -/
def SharedTurn (cfg : TwoSwitchConfig) (i : Nat) (s : TwoSwitchSystem) : TwoSwitchEvent → Prop
  | .receivePacket j a => j = i → ∀ r ∈ cfg.receivers[i]?,
    s.selected r.gateController_a = false → s.selected r.gateController_b = false →
      (r.adaptation.Late a → (CommonTurn .increase (allDirections cfg s.log) ↔
        CommonTurn .increase (directions r.adaptation.toAdaptationParams (seen i s.log)))) ∧
      (r.adaptation.Early a → (CommonTurn .decrease (allDirections cfg s.log) ↔
        CommonTurn .decrease (directions r.adaptation.toAdaptationParams (seen i s.log))))
  | _ => True

/-- **The static locals mislead a receiver** exactly when the packets of the others do. -/
theorem ownTurn_iff (cfg : TwoSwitchConfig) (xml : Nat → GateScheduleXml) (i : Nat)
    (es : List TwoSwitchEvent) : Meets (step cfg) (OwnTurn cfg i) (start xml) es ↔
      Meets (step cfg) (SharedTurn cfg i) (start xml) es := by
  refine meets_iff_of (I := fun s => s.firstSwitch.Counts (allDirections cfg s.log))
    (fun s e h => ?_) (fun s e s' h _ hs => counts_step h hs)
    ⟨iff_of_true rfl rfl, iff_of_true rfl rfl⟩
  cases e with
  | receivePacket j a =>
    unfold OwnTurn SharedTurn
    dsimp only
    rw [h.increase, h.decrease]
  | updateSchedule d mac now => exact Iff.rfl
  | ttTransmitted ts simTime => exact Iff.rfl

/-! ## two runs -/

/-- **Choices by turns**: two runs that look the same to a receiver lead it to the same controllers, by
turns, exactly when in both of them the static locals hold what its own packets have left. -/
theorem choices_iff (cfg : TwoSwitchConfig) (xml : Nat → GateScheduleXml) (i : Nat)
    (r : TwoSwitchParams) (hr : cfg.receivers[i]? = some r)
    (hne : r.gateController_b ≠ r.gateController_a) (es₁ es₂ : List TwoSwitchEvent)
    (s₁ s₂ : TwoSwitchSystem) (h₁ : run (step cfg) (start xml) es₁ = .ok s₁)
    (h₂ : run (step cfg) (start xml) es₂ = .ok s₂) (hseen : seen i s₁.log = seen i s₂.log) :
    (choices i s₁.log = choices i s₂.log ∧ choices i s₁.log = alternate r (seen i s₁.log)) ↔
      Meets (step cfg) (OwnTurn cfg i) (start xml) es₁ ∧
        Meets (step cfg) (OwnTurn cfg i) (start xml) es₂ := by
  rw [← alternate_iff cfg xml i r hr hne h₁, ← alternate_iff cfg xml i r hr hne h₂]
  constructor
  · intro ⟨hsame, halt⟩
    exact ⟨halt, by rw [← hsame, halt, hseen]⟩
  · intro ⟨halt₁, halt₂⟩
    exact ⟨by rw [halt₁, halt₂, hseen], halt₁⟩

/-- receivers with the controllers 0 and 1, and 2 and 3 -/
def apartReceivers : TwoSwitchConfig :=
  ⟨[⟨AdaptationParams.usSteps, 0, 1, 0, 1⟩, ⟨AdaptationParams.usSteps, 2, 3, 2, 3⟩], fun _ => .plain⟩

def ticksOfAll (t : SimTime) : List TwoSwitchEvent := ticks t ++ [.updateSchedule 3 none t]

/-- receiver 0 gets a late packet in each of two cycles, and receiver 1 some packets before the second
one -/
def twoCycles (first second : List TwoSwitchEvent) : List TwoSwitchEvent :=
  ticksOfAll 0 ++ [.receivePacket 0 (latePacket (3 / 10000))] ++ first ++ ticksOfAll (4 / 10000) ++
    ticksOfAll (1 / 1000) ++ second ++ [.receivePacket 0 (latePacket (11 / 10000))]

/-- with a late packet of receiver 1 in between, receiver 0 stays with the common switch -/
theorem choices_differ : ∃ xs,
    (run (step apartReceivers) (start fun _ => AdaptationParams.msCycle) (twoCycles [] [])).map
      (fun s => (seen 0 s.log, choices 0 s.log)) = .ok (xs, [1, 0]) ∧
    (run (step apartReceivers) (start fun _ => AdaptationParams.msCycle)
      (twoCycles [] [.receivePacket 1 (latePacket (105 / 100000))])).map
      (fun s => (seen 0 s.log, choices 0 s.log)) = .ok (xs, [0, 0]) := by
  refine ⟨[⟨latePacket (11 / 10000), false, false⟩, ⟨latePacket (3 / 10000), false, false⟩], ?_, ?_⟩
  · decide +kernel
  · decide +kernel

/-- two late packets of receiver 1 leave the turn of receiver 0 -/
theorem choices_iff_twoCycles : ∃ s₁ s₂,
    run (step apartReceivers) (start fun _ => AdaptationParams.msCycle) (twoCycles [] []) = .ok s₁ ∧
    run (step apartReceivers) (start fun _ => AdaptationParams.msCycle)
      (twoCycles [.receivePacket 1 (latePacket (35 / 100000))]
        [.receivePacket 1 (latePacket (105 / 100000))]) = .ok s₂ ∧
    choices 0 s₁.log = choices 0 s₂.log := by
  obtain ⟨s₁, h₁, hseen₁⟩ : ∃ s, run (step apartReceivers) (start fun _ => AdaptationParams.msCycle)
      (twoCycles [] []) = .ok s ∧
        seen 0 s.log = [⟨latePacket (11 / 10000), false, false⟩, ⟨latePacket (3 / 10000), false, false⟩] :=
    exists_of_any (by decide +kernel)
  obtain ⟨s₂, h₂, hseen₂⟩ : ∃ s, run (step apartReceivers) (start fun _ => AdaptationParams.msCycle)
      (twoCycles [.receivePacket 1 (latePacket (35 / 100000))]
        [.receivePacket 1 (latePacket (105 / 100000))]) = .ok s ∧
        seen 0 s.log = [⟨latePacket (11 / 10000), false, false⟩, ⟨latePacket (3 / 10000), false, false⟩] :=
    exists_of_any (by decide +kernel)
  refine ⟨s₁, s₂, h₁, h₂, ?_⟩
  exact ((choices_iff apartReceivers _ 0 ⟨AdaptationParams.usSteps, 0, 1, 0, 1⟩ rfl (by decide) _ _ s₁ s₂
    h₁ h₂ (hseen₁.trans hseen₂.symm)).mpr ⟨by decide +kernel, by decide +kernel⟩).1

end TwoSwitchSystem

end Nesting
