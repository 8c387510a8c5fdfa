import Nesting.Adaptation.TrafGenGCL

/-!
# VlanEtherTrafGenGCL2: two switches

A receiver adapts the schedule of one of two controllers: the one that is selected, or, when neither
is, the common one first and the exclusive one next.  Which of them is next is kept in two static
locals of `receivePacket`, so there is one pair of them for all receivers.

* `FirstSwitch`     the static locals;
* `chooseSwitch`    the first half of `receivePacket`: the controller, and its flag `isSelected`;
* `receivePacket`   the choice, and the adaptation of the chosen controller;
* `TwoSwitchSystem`  receivers and controllers, with a log of packets and cycle starts.
-/

set_option linter.unusedVariables false

namespace Nesting

structure FirstSwitch where
  is_first_increase_switch : Bool
  is_first_decrease_switch : Bool
  deriving DecidableEq

/-- the parameters of a receiver; controllers and transmission selections are numbered -/
structure TwoSwitchParams where
  adaptation : Adaptation
  gateController_a : Nat
  gateController_b : Nat
  transmissionSelection_a : Nat
  transmissionSelection_b : Nat

/-- the pointers of a receiver; `initialize` does not set them -/
structure TwoSwitchReceiver where
  gateController : Option Nat
  transmissionSelection : Option Nat
  deriving DecidableEq

/-- a delay above the upper limit -/
def AdaptationParams.Late (p : AdaptationParams) (a : Arrival) : Prop :=
  a.pcp = 7 ∧ a.delay > p.upperLimitTime

/-- a delay within the lower limit -/
def AdaptationParams.Early (p : AdaptationParams) (a : Arrival) : Prop :=
  a.pcp = 7 ∧ a.delay ≤ p.lowerLimitTime

instance (p : AdaptationParams) (a : Arrival) : Decidable (p.Late a) :=
  inferInstanceAs (Decidable (_ ∧ _))

instance (p : AdaptationParams) (a : Arrival) : Decidable (p.Early a) :=
  inferInstanceAs (Decidable (_ ∧ _))

theorem Adaptation.not_early_of_late (p : Adaptation) {a : Arrival} (h : p.Late a) : ¬p.Early a :=
  fun he => absurd (lt_of_lt_of_le h.2 he.2) (not_lt.mpr p.valid.2.2.2)

namespace TwoSwitchParams

def toA (r : TwoSwitchParams) : TwoSwitchReceiver :=
  ⟨some r.gateController_a, some r.transmissionSelection_a⟩

def toB (r : TwoSwitchParams) : TwoSwitchReceiver :=
  ⟨some r.gateController_b, some r.transmissionSelection_b⟩

/-- the switch for a large delay -/
def selectIncrease (r : TwoSwitchParams) (a : Arrival) (x : TwoSwitchReceiver × FirstSwitch) :
    TwoSwitchReceiver × FirstSwitch :=
  if r.adaptation.Late a then
    if x.2.is_first_increase_switch then (r.toA, ⟨false, true⟩) else (r.toB, ⟨true, true⟩)
  else x

/-- the switch for a small delay -/
def selectDecrease (r : TwoSwitchParams) (a : Arrival) (x : TwoSwitchReceiver × FirstSwitch) :
    TwoSwitchReceiver × FirstSwitch :=
  if r.adaptation.Early a then
    if x.2.is_first_decrease_switch then (r.toA, ⟨true, false⟩) else (r.toB, ⟨true, true⟩)
  else x

end TwoSwitchParams

/-- what happened, for an observer -/
inductive TwoSwitchRecord where
  /-- a receiver has dealt with a packet: the flags it saw and the controller it went to -/
  | received (receiver : Nat) (a : Arrival) (switchA_isSeleted switchB_isSeleted : Bool)
    (controller : Nat)
  | cycleStart (controller : Nat)
  deriving DecidableEq

structure TwoSwitchSystem where
  gateControllers : Nat → GateController
  /-- `TransmissionSelection::MaxLastTTtransmissiontime` -/
  maxLastTTtransmissiontime : Nat → SimTime
  receivers : Nat → TwoSwitchReceiver
  firstSwitch : FirstSwitch
  /-- the newest first -/
  log : List TwoSwitchRecord

structure TwoSwitchConfig where
  receivers : List TwoSwitchParams
  gates : Nat → GateConfig

inductive TwoSwitchEvent where
  | receivePacket (receiver : Nat) (a : Arrival)
  /-- a controller's tick -/
  | updateSchedule (controller : Nat) (mac : Option PreemptMac) (now : SimTime)
  /-- a frame leaves gate 7 of the transmission selection -/
  | ttTransmitted (transmissionSelection : Nat) (simTime : SimTime)
  deriving DecidableEq

namespace TwoSwitchSystem

/-- after a successful initialization of the controllers at time 0 -/
def start (xml : Nat → GateScheduleXml) : TwoSwitchSystem where
  gateControllers := fun c => GateController.initial (xml c) 0
  maxLastTTtransmissiontime := fun _ => 0
  receivers := fun _ => ⟨none, none⟩
  firstSwitch := ⟨true, true⟩
  log := []

/-- `getisSelected` -/
def selected (s : TwoSwitchSystem) (c : Nat) : Bool := (s.gateControllers c).isSelected

/-- the choice of the switch, and the controller it leads to -/
def chooseSwitch (s : TwoSwitchSystem) (i : Nat) (r : TwoSwitchParams) (a : Arrival) :
    Sim (TwoSwitchSystem × Nat) :=
  match s.selected r.gateController_a, s.selected r.gateController_b with
  | true, false => .ok ({ s with
      receivers := Function.update s.receivers i
        { s.receivers i with gateController := some r.gateController_a } }, r.gateController_a)
  | false, true => .ok ({ s with
      receivers := Function.update s.receivers i
        { s.receivers i with gateController := some r.gateController_b } }, r.gateController_b)
  | true, true => .error (.runtimeError "switch select failed")
  | false, false =>
    let x := r.selectDecrease a (r.selectIncrease a (s.receivers i, s.firstSwitch))
    match x.1.gateController with
    | none => .error (.undefinedBehaviour "gateController->setisSelected(true)")
    | some c => .ok ({ s with
        gateControllers := Function.update s.gateControllers c
          { s.gateControllers c with isSelected := true }
        receivers := Function.update s.receivers i x.1
        firstSwitch := x.2 }, c)

/-- the value of `transmissionSelection->getMaxLastTTtransmissiontime()`, which is read only when
the interval is to follow the last transmission -/
def lastTT (s : TwoSwitchSystem) (i : Nat) (p : AdaptationParams) (gc : GateController)
    (a : Arrival) : Sim SimTime :=
  match (s.receivers i).transmissionSelection with
  | some ts => .ok (s.maxLastTTtransmissiontime ts)
  | none =>
    if a.pcp = 7 ∧ ¬a.delay > p.upperLimitTime ∧ p.autoIntervalDecrease = true ∧
        gc.isIncreased = false then
      .error (.undefinedBehaviour "transmissionSelection->getMaxLastTTtransmissiontime()")
    else .ok 0

def receivePacket (cfg : TwoSwitchConfig) (s : TwoSwitchSystem) (i : Nat) (a : Arrival) :
    Sim TwoSwitchSystem :=
  match cfg.receivers[i]? with
  | none => .error (.assertion "no such receiver")
  | some r => do
    let (t, c) ← s.chooseSwitch i r a
    let lastTT ← t.lastTT i r.adaptation.toAdaptationParams (t.gateControllers c) a
    let gc ← r.adaptation.receivePacket lastTT (t.gateControllers c) a
    return { t with
      gateControllers := Function.update t.gateControllers c gc
      log := .received i a (s.selected r.gateController_a) (s.selected r.gateController_b) c
        :: t.log }

/-- `updateSchedule` of a controller; with index 0 it starts a cycle -/
def updateSchedule (cfg : TwoSwitchConfig) (s : TwoSwitchSystem) (c : Nat)
    (mac : Option PreemptMac) (now : SimTime) : Sim TwoSwitchSystem := do
  let loaded ← (s.gateControllers c).swapSchedule
  let (gc, _) ← (s.gateControllers c).updateSchedule (cfg.gates c) mac now
  return { s with
    gateControllers := Function.update s.gateControllers c gc
    log := if (loaded.endOfCycle now).scheduleIndex = 0 then .cycleStart c :: s.log else s.log }

def step (cfg : TwoSwitchConfig) (s : TwoSwitchSystem) : TwoSwitchEvent → Sim TwoSwitchSystem
  | .receivePacket i a => s.receivePacket cfg i a
  | .updateSchedule c mac now => s.updateSchedule cfg c mac now
  | .ttTransmitted ts simTime => .ok { s with
      maxLastTTtransmissiontime := Function.update s.maxLastTTtransmissiontime ts simTime }

variable {cfg : TwoSwitchConfig} {s s' t : TwoSwitchSystem}

/-! ## what a step does -/

/-- where a packet goes when neither controller is selected -/
inductive Selects (s : TwoSwitchSystem) (i : Nat) (r : TwoSwitchParams) (a : Arrival) :
    TwoSwitchReceiver → FirstSwitch → Prop
  | increaseA (hl : r.adaptation.Late a) (hf : s.firstSwitch.is_first_increase_switch = true) :
      Selects s i r a r.toA ⟨false, true⟩
  | increaseB (hl : r.adaptation.Late a) (hf : s.firstSwitch.is_first_increase_switch = false) :
      Selects s i r a r.toB ⟨true, true⟩
  | decreaseA (he : r.adaptation.Early a) (hf : s.firstSwitch.is_first_decrease_switch = true) :
      Selects s i r a r.toA ⟨true, false⟩
  | decreaseB (he : r.adaptation.Early a) (hf : s.firstSwitch.is_first_decrease_switch = false) :
      Selects s i r a r.toB ⟨true, true⟩
  | unchanged (hl : ¬r.adaptation.Late a) (he : ¬r.adaptation.Early a) :
      Selects s i r a (s.receivers i) s.firstSwitch

theorem selects_spec (s : TwoSwitchSystem) (i : Nat) (r : TwoSwitchParams) (a : Arrival) :
    Selects s i r a (r.selectDecrease a (r.selectIncrease a (s.receivers i, s.firstSwitch))).1
      (r.selectDecrease a (r.selectIncrease a (s.receivers i, s.firstSwitch))).2 := by
  unfold TwoSwitchParams.selectIncrease
  by_cases hl : r.adaptation.Late a
  · have he := r.adaptation.not_early_of_late hl
    rw [if_pos hl]
    unfold TwoSwitchParams.selectDecrease
    rw [if_neg he]
    cases hf : s.firstSwitch.is_first_increase_switch with
    | true => exact .increaseA hl hf
    | false => exact .increaseB hl hf
  · rw [if_neg hl]
    unfold TwoSwitchParams.selectDecrease
    by_cases he : r.adaptation.Early a
    · rw [if_pos he]
      cases hf : s.firstSwitch.is_first_decrease_switch with
      | true => exact .decreaseA he hf
      | false => exact .decreaseB he hf
    · rw [if_neg he]
      exact .unchanged hl he

/-- the three ways to a controller -/
inductive Chooses (s : TwoSwitchSystem) (i : Nat) (r : TwoSwitchParams) (a : Arrival) :
    TwoSwitchSystem → Nat → Prop
  | switchA (ha : s.selected r.gateController_a = true) (hb : s.selected r.gateController_b = false) :
      Chooses s i r a { s with
        receivers := Function.update s.receivers i
          { s.receivers i with gateController := some r.gateController_a } } r.gateController_a
  | switchB (ha : s.selected r.gateController_a = false) (hb : s.selected r.gateController_b = true) :
      Chooses s i r a { s with
        receivers := Function.update s.receivers i
          { s.receivers i with gateController := some r.gateController_b } } r.gateController_b
  | next (ha : s.selected r.gateController_a = false) (hb : s.selected r.gateController_b = false)
      {c : Nat} {g : TwoSwitchReceiver} {f : FirstSwitch} (hs : Selects s i r a g f)
      (hc : g.gateController = some c) :
      Chooses s i r a { s with
        gateControllers := Function.update s.gateControllers c
          { s.gateControllers c with isSelected := true }
        receivers := Function.update s.receivers i g
        firstSwitch := f } c

theorem chooseSwitch_ok {i c : Nat} {r : TwoSwitchParams} {a : Arrival}
    (h : s.chooseSwitch i r a = .ok (t, c)) : Chooses s i r a t c := by
  unfold chooseSwitch at h
  split at h
  · rename_i ha hb
    cases h
    exact .switchA ha hb
  · rename_i ha hb
    cases h
    exact .switchB ha hb
  · cases h
  · rename_i ha hb
    dsimp only at h
    split at h
    · cases h
    · rename_i c' hc
      cases h
      exact .next ha hb (selects_spec s i r a) hc

theorem receivePacket_isSelected {p : AdaptationParams} {u : SimTime} {gc gc' : GateController}
    {a : Arrival} (h : p.receivePacket u gc a = .ok gc') : gc'.isSelected = gc.isSelected := by
  unfold AdaptationParams.receivePacket at h
  split at h
  · obtain ⟨_, _, h⟩ := bind_ok.mp h
    obtain ⟨_, _, h⟩ := bind_ok.mp h
    obtain ⟨_, _, h⟩ := bind_ok.mp h
    obtain ⟨_, _, h⟩ := bind_ok.mp h
    cases h
    rfl
  · cases h
    rfl

/-- a packet: the choice, and the adaptation of the controller it leads to -/
theorem receivePacket_adapts {i : Nat} {a : Arrival} (h : s.receivePacket cfg i a = .ok s') :
    ∃ r t c u gc, cfg.receivers[i]? = some r ∧ Chooses s i r a t c ∧
      r.adaptation.receivePacket u (t.gateControllers c) a = .ok gc ∧ s' = { t with
        gateControllers := Function.update t.gateControllers c gc
        log := .received i a (s.selected r.gateController_a) (s.selected r.gateController_b) c
          :: t.log } := by
  unfold receivePacket at h
  split at h
  · cases h
  · rename_i r hr
    obtain ⟨⟨t, c⟩, h1, h⟩ := bind_ok.mp h
    obtain ⟨u, _, h⟩ := bind_ok.mp h
    obtain ⟨gc, h2, h⟩ := bind_ok.mp h
    cases h
    exact ⟨r, t, c, u, gc, hr, chooseSwitch_ok h1, h2, rfl⟩

/-- the flag of the controller stays as the choice left it -/
theorem receivePacket_ok {i : Nat} {a : Arrival} (h : s.receivePacket cfg i a = .ok s') :
    ∃ r t c gc, cfg.receivers[i]? = some r ∧ Chooses s i r a t c ∧
      gc.isSelected = (t.gateControllers c).isSelected ∧ s' = { t with
        gateControllers := Function.update t.gateControllers c gc
        log := .received i a (s.selected r.gateController_a) (s.selected r.gateController_b) c
          :: t.log } := by
  obtain ⟨r, t, c, u, gc, hr, hc, hgc, hs'⟩ := receivePacket_adapts h
  exact ⟨r, t, c, gc, hr, hc, receivePacket_isSelected hgc, hs'⟩

/-- the flag after a packet -/
theorem selected_update {gc : GateController} {c : Nat}
    (h : gc.isSelected = s.selected c) (d : Nat) :
    (Function.update s.gateControllers c gc d).isSelected = s.selected d := by
  by_cases hd : d = c
  · rw [hd, Function.update_self]
    exact h
  · rw [Function.update_of_ne hd]
    rfl

theorem endOfCycle_isSelected (gc : GateController) (now : SimTime) :
    ((gc.endOfCycle now).startOfCycle now).isSelected = gc.isSelected := by
  unfold GateController.startOfCycle GateController.endOfCycle
  split <;> split <;> rfl

/-- a tick leaves the flag of its controller alone, or clears it and starts a cycle -/
theorem updateSchedule_ok {c : Nat} {mac : Option PreemptMac} {now : SimTime}
    (h : s.updateSchedule cfg c mac now = .ok s') :
    ∃ gc, s'.gateControllers = Function.update s.gateControllers c gc ∧
      s'.receivers = s.receivers ∧ s'.firstSwitch = s.firstSwitch ∧
      (s'.log = .cycleStart c :: s.log ∧ (gc.isSelected = false ∨ gc.isSelected = s.selected c) ∨
        s'.log = s.log ∧ gc.isSelected = s.selected c) := by
  obtain ⟨loaded, hl, h⟩ := bind_ok.mp h
  obtain ⟨⟨gc, ap⟩, hu, h⟩ := bind_ok.mp h
  cases h
  refine ⟨gc, rfl, rfl, rfl, ?_⟩
  have hgc : gc.isSelected = loaded.isSelected := by
    obtain ⟨gc1, h1, h2⟩ := bind_ok.mp hu
    cases hl.symm.trans h1
    split at h2
    · cases h2
      rfl
    · obtain ⟨_, _, rfl, _⟩ := GateController.applyEntry_ok h2
      exact endOfCycle_isSelected loaded now
  obtain ⟨_, rfl⟩ := GateController.swapSchedule_ok hl
  by_cases hloads : (s.gateControllers c).Loads
  · rw [if_pos hloads] at hgc ⊢
    have h0 : ((s.gateControllers c).loadNew.endOfCycle now).scheduleIndex = 0 := by
      unfold GateController.endOfCycle
      split
      · rfl
      · exact hloads.1
    exact .inl ⟨if_pos h0, .inl hgc⟩
  · rw [if_neg hloads] at hgc ⊢
    by_cases h0 : ((s.gateControllers c).endOfCycle now).scheduleIndex = 0
    · exact .inl ⟨if_pos h0, .inr hgc⟩
    · exact .inr ⟨if_neg h0, hgc⟩

end TwoSwitchSystem

end Nesting
