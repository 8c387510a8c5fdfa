import Nesting.Adaptation.Poison
import Nesting.Adaptation.Turns

/-!
# The pointers of a receiver with two switches

`gateController` is set in all branches but one, `transmissionSelection` only where a switch is chosen,
and neither is set at the start.  The flag of a controller is set before the priority is tested.

* `PointerError`     undefined pointers;
* `WellDirected`     the pointers that a packet follows are set and lead to one switch, and the flag is
                     set on a controller that the packet adapts;
* `Directed`         the condition on the packet, the flags and the pointers before it;
* `wellDirected_iff` one packet;
* `directed_iff`     whole runs;
* `directed_iff_foretold`   the same, by the packets that a receiver got before.
-/

set_option linter.unusedVariables false

namespace Nesting

open Lib

/-- the transmission selection of a switch -/
def TwoSwitchParams.transmissionSelection (r : TwoSwitchParams) (c : ℕ) : ℕ :=
  if c = r.gateController_a then r.transmissionSelection_a else r.transmissionSelection_b

namespace TwoSwitchSystem

variable {cfg : TwoSwitchConfig} {s s' t : TwoSwitchSystem} {i : ℕ} {r : TwoSwitchParams} {a : Arrival}

/-- a pointer is followed that has not been set -/
def PointerError (x : SimError) : Prop :=
  x = .undefinedBehaviour "gateController->setisSelected(true)" ∨
    x = .undefinedBehaviour "transmissionSelection->getMaxLastTTtransmissiontime()"

/-- `gateController` is followed: its flag is set, or its schedule rewritten -/
def Follows (s : TwoSwitchSystem) (r : TwoSwitchParams) (a : Arrival) : Prop :=
  a.pcp = 7 ∨ s.selected r.gateController_a = false ∧ s.selected r.gateController_b = false

/-- the pointers lead to a switch, and it is the one whose flag is set and which is adapted -/
structure WellDirected (cfg : TwoSwitchConfig) (s : TwoSwitchSystem) (i : ℕ) (r : TwoSwitchParams)
    (a : Arrival) : Prop where
  assigned : Avoids PointerError (s.receivePacket cfg i a)
  matching : ∀ t c, s.chooseSwitch i r a = .ok (t, c) → s.Follows r a →
    t.receivers i = r.toA ∨ t.receivers i = r.toB
  flags : ∀ t c, s.chooseSwitch i r a = .ok (t, c) → ∀ d, t.selected d = true →
    s.selected d = false → d = c ∧ a.pcp = 7

/-- a packet of priority 7 that finds one controller selected has its other pointer there already; one
that finds none has priority 7, and chooses a switch or finds both pointers at one -/
def Directed (s : TwoSwitchSystem) (i : ℕ) (r : TwoSwitchParams) (a : Arrival) : Prop :=
  match s.selected r.gateController_a, s.selected r.gateController_b with
  | true, true => True
  | true, false => a.pcp = 7 →
    (s.receivers i).transmissionSelection = some r.transmissionSelection_a
  | false, true => a.pcp = 7 →
    (s.receivers i).transmissionSelection = some r.transmissionSelection_b
  | false, false => a.pcp = 7 ∧ (r.adaptation.Late a ∨ r.adaptation.Early a ∨
      s.receivers i = r.toA ∨ s.receivers i = r.toB)

/-! ## errors of a packet -/

theorem avoids_adapt (p : AdaptationParams) (u : SimTime) (gc : GateController) (a : Arrival) :
    Avoids PointerError (p.receivePacket u gc a) := by
  have hentry : ∀ (s : Schedule GateBitvector) (j : ℕ), Avoids PointerError (s.entry j) := by
    intro s j
    unfold Schedule.entry
    split
    · exact Avoids.ok _
    · refine Avoids.error ?_
      rintro (h | h)
      · exact absurd (SimError.undefinedBehaviour.inj h) (by decide)
      · exact absurd (SimError.undefinedBehaviour.inj h) (by decide)
  have hget : ∀ (s : Schedule GateBitvector) (j : ℕ), Avoids PointerError (s.getTimeInterval j) :=
    fun s j => Avoids.bind (hentry s j) fun _ _ => Avoids.ok _
  have hset : ∀ (s : Schedule GateBitvector) (j : ℕ) (x : SimTime),
      Avoids PointerError (s.setTimeInterval j x) :=
    fun s j x => Avoids.bind (hentry s j) fun _ _ => Avoids.ok _
  unfold AdaptationParams.receivePacket
  split
  · refine Avoids.bind (hget _ _) fun _ _ => Avoids.bind (hget _ _) fun _ _ => ?_
    exact Avoids.bind (hset _ _ _) fun _ _ => Avoids.bind (hset _ _ _) fun _ _ => Avoids.ok _
  · exact Avoids.ok _

/-- with its second pointer set, or another priority, a packet follows no undefined pointer -/
theorem avoids_lastTT (p : AdaptationParams) (gc : GateController)
    (h : a.pcp = 7 → (s.receivers i).transmissionSelection ≠ none) :
    Avoids PointerError (s.lastTT i p gc a) := by
  unfold lastTT
  split
  · exact Avoids.ok _
  · rename_i hnone
    rw [if_neg fun h7 => h h7.1 hnone]
    exact Avoids.ok _

theorem avoids_receive (hr : cfg.receivers[i]? = some r)
    (hchoose : Avoids PointerError (s.chooseSwitch i r a))
    (h : ∀ t c, s.chooseSwitch i r a = .ok (t, c) → a.pcp = 7 →
      (t.receivers i).transmissionSelection ≠ none) :
    Avoids PointerError (s.receivePacket cfg i a) := by
  unfold receivePacket
  rw [hr]
  refine Avoids.bind hchoose fun ⟨t, c⟩ hc => ?_
  refine Avoids.bind (avoids_lastTT _ _ (h t c hc)) fun _ _ => ?_
  exact Avoids.bind (avoids_adapt _ _ _ _) fun _ _ => Avoids.ok _

/-- a packet that fails in the choice -/
theorem receive_of_error {x : SimError} (hr : cfg.receivers[i]? = some r)
    (h : s.chooseSwitch i r a = .error x) : s.receivePacket cfg i a = .error x := by
  unfold receivePacket
  rw [hr]
  dsimp only
  rw [h]
  rfl

/-! ## the choice -/

/-- the pointers after a choice between two unselected controllers -/
def nextPointers (s : TwoSwitchSystem) (i : ℕ) (r : TwoSwitchParams) (a : Arrival) :
    TwoSwitchReceiver × FirstSwitch :=
  r.selectDecrease a (r.selectIncrease a (s.receivers i, s.firstSwitch))

theorem nextPointers_cases (s : TwoSwitchSystem) (i : ℕ) (r : TwoSwitchParams) (a : Arrival) :
    ((r.adaptation.Late a ∨ r.adaptation.Early a) ∧
      ((s.nextPointers i r a).1 = r.toA ∨ (s.nextPointers i r a).1 = r.toB)) ∨
    (¬r.adaptation.Late a ∧ ¬r.adaptation.Early a ∧ (s.nextPointers i r a).1 = s.receivers i) := by
  have hspec : Selects s i r a (s.nextPointers i r a).1 (s.nextPointers i r a).2 :=
    selects_spec s i r a
  generalize (s.nextPointers i r a).1 = g at hspec ⊢
  generalize (s.nextPointers i r a).2 = f at hspec
  cases hspec with
  | increaseA hl => exact .inl ⟨.inl hl, .inl rfl⟩
  | increaseB hl => exact .inl ⟨.inl hl, .inr rfl⟩
  | decreaseA he => exact .inl ⟨.inr he, .inl rfl⟩
  | decreaseB he => exact .inl ⟨.inr he, .inr rfl⟩
  | unchanged hl he => exact .inr ⟨hl, he, rfl⟩

theorem chooseSwitch_next (ha : s.selected r.gateController_a = false)
    (hb : s.selected r.gateController_b = false) : s.chooseSwitch i r a =
      match (s.nextPointers i r a).1.gateController with
      | none => .error (.undefinedBehaviour "gateController->setisSelected(true)")
      | some c => .ok ({ s with
          gateControllers := Function.update s.gateControllers c
            { s.gateControllers c with isSelected := true }
          receivers := Function.update s.receivers i (s.nextPointers i r a).1
          firstSwitch := (s.nextPointers i r a).2 }, c) := by
  unfold chooseSwitch
  rw [ha, hb]
  rfl

/-- a packet that finds the controller `c` selected, of the switch with `ts` -/
theorem wellDirected_selected {c ts : ℕ} (hr : cfg.receivers[i]? = some r)
    (hchoose : s.chooseSwitch i r a = .ok ({ s with
      receivers := Function.update s.receivers i
        { s.receivers i with gateController := some c } }, c))
    (hfollows : s.Follows r a ↔ a.pcp = 7)
    (hswitch : ∀ g, (⟨some c, g⟩ = r.toA ∨ ⟨some c, g⟩ = r.toB) ↔ g = some ts) :
    s.WellDirected cfg i r a ↔ (a.pcp = 7 → (s.receivers i).transmissionSelection = some ts) := by
  constructor
  · intro h h7
    have hm := h.matching _ _ hchoose (hfollows.mpr h7)
    dsimp only at hm
    rw [Function.update_self] at hm
    exact (hswitch _).mp hm
  · intro h
    refine ⟨avoids_receive hr ?_ ?_, ?_, ?_⟩
    · rw [hchoose]
      exact Avoids.ok _
    · intro t d hd h7
      cases hchoose.symm.trans hd
      dsimp only
      rw [Function.update_self]
      dsimp only
      rw [h h7]
      exact nofun
    · intro t d hd hf
      cases hchoose.symm.trans hd
      dsimp only
      rw [Function.update_self]
      exact (hswitch _).mpr (h (hfollows.mp hf))
    · intro t d hd e h1 h2
      cases hchoose.symm.trans hd
      exact absurd (h1.symm.trans h2) nofun

theorem wellDirected_next (hr : cfg.receivers[i]? = some r)
    (ha : s.selected r.gateController_a = false) (hb : s.selected r.gateController_b = false) :
    s.WellDirected cfg i r a ↔ a.pcp = 7 ∧ (r.adaptation.Late a ∨ r.adaptation.Early a ∨
      s.receivers i = r.toA ∨ s.receivers i = r.toB) := by
  have hchoose := chooseSwitch_next (i := i) (a := a) ha hb
  have hfollows : s.Follows r a := .inr ⟨ha, hb⟩
  constructor
  · intro h
    -- the pointer is set, or the flag could not be
    obtain ⟨c, hc⟩ : ∃ c, (s.nextPointers i r a).1.gateController = some c := by
      cases hc : (s.nextPointers i r a).1.gateController with
      | some c => exact ⟨c, rfl⟩
      | none =>
        rw [hc] at hchoose
        exact absurd (.inl rfl) (h.assigned _ (receive_of_error hr hchoose))
    rw [hc] at hchoose
    have hm := h.matching _ _ hchoose hfollows
    dsimp only at hm
    rw [Function.update_self] at hm
    have hunselected : s.selected c = false := by
      obtain hm | hm := hm
      · rw [hm] at hc
        cases hc
        exact ha
      · rw [hm] at hc
        cases hc
        exact hb
    have hselected : TwoSwitchSystem.selected { s with
        gateControllers := Function.update s.gateControllers c
          { s.gateControllers c with isSelected := true }
        receivers := Function.update s.receivers i (s.nextPointers i r a).1
        firstSwitch := (s.nextPointers i r a).2 } c = true := by
      unfold TwoSwitchSystem.selected
      dsimp only
      rw [Function.update_self]
    refine ⟨(h.flags _ _ hchoose c hselected hunselected).2, ?_⟩
    obtain ⟨hl | he, -⟩ | ⟨-, -, hsame⟩ := s.nextPointers_cases i r a
    · exact .inl hl
    · exact .inr (.inl he)
    · rw [hsame] at hm
      exact .inr (.inr hm)
  · rintro ⟨h7, h⟩
    have hpair : (s.nextPointers i r a).1 = r.toA ∨ (s.nextPointers i r a).1 = r.toB := by
      obtain ⟨-, hpair⟩ | ⟨hl, he, hsame⟩ := s.nextPointers_cases i r a
      · exact hpair
      · rw [hsame]
        exact (h.resolve_left hl).resolve_left he
    obtain ⟨c, ts, hg⟩ : ∃ c ts, (s.nextPointers i r a).1 = ⟨some c, some ts⟩ := by
      obtain hg | hg := hpair
      · exact ⟨_, _, hg⟩
      · exact ⟨_, _, hg⟩
    rw [hg] at hchoose
    dsimp only at hchoose
    refine ⟨avoids_receive hr ?_ ?_, ?_, ?_⟩
    · rw [hchoose]
      exact Avoids.ok _
    · intro t d hd _
      cases hchoose.symm.trans hd
      dsimp only
      rw [Function.update_self]
      exact nofun
    · intro t d hd _
      cases hchoose.symm.trans hd
      dsimp only
      rw [Function.update_self, ← hg]
      exact hpair
    · intro t d hd e h1 h2
      cases hchoose.symm.trans hd
      refine ⟨?_, h7⟩
      by_contra hne
      unfold TwoSwitchSystem.selected at h1
      dsimp only at h1
      rw [Function.update_of_ne hne] at h1
      exact absurd (h1.symm.trans h2) nofun

/-- **One packet** is well directed exactly under the condition, in any state. -/
theorem wellDirected_iff (hr : cfg.receivers[i]? = some r) :
    s.WellDirected cfg i r a ↔ s.Directed i r a := by
  unfold Directed
  cases ha : s.selected r.gateController_a with
  | true =>
    cases hb : s.selected r.gateController_b with
    | true =>
      have hchoose : s.chooseSwitch i r a = .error (.runtimeError "switch select failed") := by
        unfold chooseSwitch
        rw [ha, hb]
      refine iff_of_true ⟨?_, ?_, ?_⟩ trivial
      · rw [receive_of_error hr hchoose]
        exact Avoids.error fun h => h.elim nofun nofun
      · intro t c hc
        cases hchoose.symm.trans hc
      · intro t c hc
        cases hchoose.symm.trans hc
    | false =>
      refine wellDirected_selected hr (c := r.gateController_a) ?_ ?_ fun g => ?_
      · unfold chooseSwitch
        rw [ha, hb]
      · unfold Follows
        rw [ha]
        exact or_iff_left fun h => absurd h.1 nofun
      · constructor
        · rintro (h | h)
          · exact (TwoSwitchReceiver.mk.inj h).2
          · -- the switches differ, for only one of them is selected
            have heq := Option.some.inj (TwoSwitchReceiver.mk.inj h).1
            rw [heq, hb] at ha
            cases ha
        · rintro rfl
          exact .inl rfl
  | false =>
    cases hb : s.selected r.gateController_b with
    | true =>
      refine wellDirected_selected hr (c := r.gateController_b) ?_ ?_ fun g => ?_
      · unfold chooseSwitch
        rw [ha, hb]
      · unfold Follows
        rw [hb]
        exact or_iff_left fun h => absurd h.2 nofun
      · constructor
        · rintro (h | h)
          · have heq := Option.some.inj (TwoSwitchReceiver.mk.inj h).1
            rw [heq, ha] at hb
            cases hb
          · exact (TwoSwitchReceiver.mk.inj h).2
        · rintro rfl
          exact .inr rfl
    | false => exact wellDirected_next hr ha hb

/-! ## runs -/

/-- every receiver of the packet is well directed -/
def WellDirectedEvent (cfg : TwoSwitchConfig) (s : TwoSwitchSystem) : TwoSwitchEvent → Prop
  | .receivePacket i a => ∀ r ∈ cfg.receivers[i]?, s.WellDirected cfg i r a
  | _ => True

def DirectedEvent (cfg : TwoSwitchConfig) (s : TwoSwitchSystem) : TwoSwitchEvent → Prop
  | .receivePacket i a => ∀ r ∈ cfg.receivers[i]?, s.Directed i r a
  | _ => True

/-- **All packets of a run** are well directed exactly when each of them meets the condition, from the
start and from any other state. -/
theorem directed_iff (cfg : TwoSwitchConfig) (s : TwoSwitchSystem) (es : List TwoSwitchEvent) :
    Meets (step cfg) (WellDirectedEvent cfg) s es ↔ Meets (step cfg) (DirectedEvent cfg) s es := by
  refine meets_iff_of (I := fun _ => True) (fun s e _ => ?_) (fun _ _ _ _ _ _ => trivial) trivial
  cases e with
  | receivePacket i a => exact forall₂_congr fun r hr => wellDirected_iff hr
  | updateSchedule d mac now => exact Iff.rfl
  | ttTransmitted ts simTime => exact Iff.rfl

/-- the switches that a receiver chose between two unselected ones, the newest first -/
def chosenSwitches (i : ℕ) (r : TwoSwitchParams) (log : List TwoSwitchRecord) : List ℕ :=
  log.filterMap fun
    | .received j a switchA switchB c =>
      if j = i ∧ (SeenPacket.direction r.adaptation.toAdaptationParams
        ⟨a, switchA, switchB⟩).isSome then some c else none
    | .cycleStart _ => none

/-- the pointers that the packets of a receiver leave: to the last controller, and to the
transmission selection of the switch that it chose last -/
def pointersAfter (i : ℕ) (r : TwoSwitchParams) (log : List TwoSwitchRecord) : TwoSwitchReceiver :=
  ⟨(choices i log).head?, (chosenSwitches i r log).head?.map r.transmissionSelection⟩

theorem pointersAfter_other {j c : ℕ} (h : j ≠ i) (x y : Bool) (log : List TwoSwitchRecord) :
    pointersAfter i r (.received j a x y c :: log) = pointersAfter i r log := by
  have hlast : choices i (.received j a x y c :: log) = choices i log :=
    List.filterMap_cons_none (if_neg h)
  have hchosen : chosenSwitches i r (.received j a x y c :: log) = chosenSwitches i r log :=
    List.filterMap_cons_none (if_neg fun hj => h hj.1)
  rw [pointersAfter, hlast, hchosen, pointersAfter]

/-- a packet that finds a controller selected, or has no reason to choose one -/
theorem pointersAfter_kept {x y : Bool}
    (h : SeenPacket.direction r.adaptation.toAdaptationParams ⟨a, x, y⟩ = none) (c : ℕ)
    (log : List TwoSwitchRecord) : pointersAfter i r (.received i a x y c :: log) =
      { pointersAfter i r log with gateController := some c } := by
  have hlast : choices i (.received i a x y c :: log) = c :: choices i log :=
    List.filterMap_cons_some (if_pos rfl)
  have hchosen : chosenSwitches i r (.received i a x y c :: log) = chosenSwitches i r log :=
    List.filterMap_cons_none (if_neg fun hd => by rw [h] at hd; cases hd.2)
  rw [pointersAfter, hlast, hchosen, List.head?_cons, pointersAfter]

theorem pointersAfter_chosen {x y : Bool} {d : Direction}
    (h : SeenPacket.direction r.adaptation.toAdaptationParams ⟨a, x, y⟩ = some d) (c : ℕ)
    (log : List TwoSwitchRecord) : pointersAfter i r (.received i a x y c :: log) =
      ⟨some c, some (r.transmissionSelection c)⟩ := by
  have hlast : choices i (.received i a x y c :: log) = c :: choices i log :=
    List.filterMap_cons_some (if_pos rfl)
  have hchosen : chosenSwitches i r (.received i a x y c :: log) = c :: chosenSwitches i r log :=
    List.filterMap_cons_some (if_pos ⟨rfl, by rw [h]; rfl⟩)
  rw [pointersAfter, hlast, hchosen, List.head?_cons, List.head?_cons, Option.map_some]

/-- the packet leads a receiver where its record says -/
theorem Chooses.pointersAfter {c : ℕ} (h : Chooses s i r a t c)
    (hne : r.gateController_b ≠ r.gateController_a)
    (hi : s.receivers i = TwoSwitchSystem.pointersAfter i r s.log) :
    t.receivers i = TwoSwitchSystem.pointersAfter i r (.received i a
      (s.selected r.gateController_a) (s.selected r.gateController_b) c :: s.log) := by
  have hA : r.toA =
      ⟨some r.gateController_a, some (r.transmissionSelection r.gateController_a)⟩ := by
    unfold TwoSwitchParams.transmissionSelection TwoSwitchParams.toA
    rw [if_pos rfl]
  have hB : r.toB =
      ⟨some r.gateController_b, some (r.transmissionSelection r.gateController_b)⟩ := by
    unfold TwoSwitchParams.transmissionSelection TwoSwitchParams.toB
    rw [if_neg hne]
  cases h with
  | switchA ha hb =>
    rw [pointersAfter_kept (by rw [ha]; rfl), ← hi]
    exact Function.update_self _ _ _
  | switchB ha hb =>
    rw [pointersAfter_kept (by rw [ha, hb]; rfl), ← hi]
    exact Function.update_self _ _ _
  | next ha hb hs hc =>
    rw [ha, hb]
    refine (Function.update_self _ _ _).trans ?_
    cases hs with
    | increaseA hl =>
      cases hc
      rw [pointersAfter_chosen (direction_late _ hl), hA]
    | increaseB hl =>
      cases hc
      rw [pointersAfter_chosen (direction_late _ hl), hB]
    | decreaseA he =>
      cases hc
      rw [pointersAfter_chosen (direction_early _ he), hA]
    | decreaseB he =>
      cases hc
      rw [pointersAfter_chosen (direction_early _ he), hB]
    | unchanged hl he =>
      rw [pointersAfter_kept (direction_unchanged _ hl he), ← hi, ← hc]

/-- in every state the pointers of a receiver are those that its packets have left -/
def Tracked (cfg : TwoSwitchConfig) (s : TwoSwitchSystem) : Prop :=
  ∀ i r, cfg.receivers[i]? = some r → s.receivers i = pointersAfter i r s.log

theorem tracked_step (hne : ∀ r ∈ cfg.receivers, r.gateController_b ≠ r.gateController_a)
    {e : TwoSwitchEvent} (h : Tracked cfg s) (hs : s.step cfg e = .ok s') : Tracked cfg s' := by
  intro i r hr
  cases e with
  | receivePacket j a =>
    obtain ⟨r', t, c, gc, hr', hc, _, rfl⟩ := receivePacket_ok hs
    obtain ⟨hlog, hother⟩ := hc.frame
    dsimp only
    rw [hlog]
    by_cases hj : j = i
    · subst hj
      cases hr'.symm.trans hr
      exact hc.pointersAfter (hne _ (List.mem_of_getElem? hr)) (h j _ hr)
    · rw [pointersAfter_other hj, hother i (Ne.symm hj)]
      exact h i r hr
  | updateSchedule c mac now =>
    obtain ⟨gc, _, hrec, _, ⟨hlog, _⟩ | ⟨hlog, _⟩⟩ := updateSchedule_ok hs
    · rw [hrec, hlog]
      exact h i r hr
    · rw [hrec, hlog]
      exact h i r hr
  | ttTransmitted ts simTime =>
    cases hs
    exact h i r hr

/-- the condition on a packet, by the packets that the receiver got before -/
def Foretold (cfg : TwoSwitchConfig) (s : TwoSwitchSystem) : TwoSwitchEvent → Prop
  | .receivePacket i a => ∀ r ∈ cfg.receivers[i]?,
    match s.selected r.gateController_a, s.selected r.gateController_b with
    | true, true => True
    | true, false => a.pcp = 7 → (chosenSwitches i r s.log).head?.map r.transmissionSelection =
      some r.transmissionSelection_a
    | false, true => a.pcp = 7 → (chosenSwitches i r s.log).head?.map r.transmissionSelection =
      some r.transmissionSelection_b
    | false, false => a.pcp = 7 ∧ (r.adaptation.Late a ∨ r.adaptation.Early a ∨
        pointersAfter i r s.log = r.toA ∨ pointersAfter i r s.log = r.toB)
  | _ => True

/-- **The packets of a run** tell which of them are well directed. -/
theorem directed_iff_foretold (cfg : TwoSwitchConfig) (xml : ℕ → GateScheduleXml)
    (hne : ∀ r ∈ cfg.receivers, r.gateController_b ≠ r.gateController_a)
    (es : List TwoSwitchEvent) : Meets (step cfg) (DirectedEvent cfg) (start xml) es ↔
      Meets (step cfg) (Foretold cfg) (start xml) es := by
  refine meets_iff_of (I := Tracked cfg) (fun s e h => ?_)
    (fun s e s' h _ hs => tracked_step hne h hs) fun i r hr => rfl
  cases e with
  | receivePacket i a =>
    refine forall₂_congr fun r hr => ?_
    unfold Directed
    rw [h i r hr]
    rfl
  | updateSchedule d mac now => exact Iff.rfl
  | ttTransmitted ts simTime => exact Iff.rfl

/-- two receivers with the controllers 0 and 1, and automatic lowering -/
def sameSwitches : TwoSwitchConfig :=
  ⟨[⟨AdaptSystem.automatic, 0, 1, 0, 1⟩, ⟨AdaptSystem.automatic, 0, 1, 0, 1⟩], fun _ => .plain⟩

/-- a packet that was 20 us under way -/
def earlyPacket (pcp : ℕ) (t : SimTime) : Arrival := ⟨pcp, t, [t - 2 / 100000]⟩

def bothTick (t : SimTime) : List TwoSwitchEvent :=
  [.updateSchedule 0 none t, .updateSchedule 1 none t]

/-- receiver 0 has adapted controller 0 in the first cycle, and the second one has begun -/
def secondCycle : List TwoSwitchEvent :=
  bothTick 0 ++ [.receivePacket 0 (earlyPacket 7 (1 / 10000))] ++ bothTick (4 / 10000) ++
    bothTick (1 / 1000)

/-- A first packet between the limits or of another priority finds no controller; a receiver whose first
packet comes when controller 0 is selected finds no transmission selection; one that adapted controller
0 and finds controller 1 selected reads the transmission selection of controller 0; and a packet of
another priority sets the flag of a controller that it does not adapt. -/
theorem not_directed :
    run (step sameSwitches) (start fun _ => AdaptationParams.msCycle)
        (bothTick 0 ++ [.receivePacket 0 ⟨7, 2 / 1000, [1 / 1000]⟩]) =
      .error (.undefinedBehaviour "gateController->setisSelected(true)") ∧
    run (step sameSwitches) (start fun _ => AdaptationParams.msCycle)
        (bothTick 0 ++ [.receivePacket 0 (earlyPacket 6 (1 / 10000))]) =
      .error (.undefinedBehaviour "gateController->setisSelected(true)") ∧
    run (step sameSwitches) (start fun _ => AdaptationParams.msCycle)
        (bothTick 0 ++ [.receivePacket 0 (earlyPacket 7 (1 / 10000)),
          .receivePacket 1 (earlyPacket 7 (2 / 10000))]) =
      .error (.undefinedBehaviour "transmissionSelection->getMaxLastTTtransmissiontime()") ∧
    (∃ s, run (step sameSwitches) (start fun _ => AdaptationParams.msCycle)
        (secondCycle ++ [.receivePacket 1 (earlyPacket 7 (11 / 10000)),
          .receivePacket 0 (earlyPacket 7 (12 / 10000))]) = .ok s ∧
      s.receivers 0 = ⟨some 1, some 0⟩) ∧
    ∃ s, run (step sameSwitches) (start fun _ => AdaptationParams.msCycle)
        (secondCycle ++ [.receivePacket 0 (earlyPacket 6 (11 / 10000))]) = .ok s ∧
      s.selected 0 = true ∧ ¬WroteSince 0 0 0 s.log := by
  refine ⟨eq_error_of ?_, eq_error_of ?_, eq_error_of ?_, exists_of_any ?_, exists_of_any ?_⟩
  · decide +kernel
  · decide +kernel
  · decide +kernel
  · decide +kernel
  · decide +kernel

end TwoSwitchSystem
end Nesting
