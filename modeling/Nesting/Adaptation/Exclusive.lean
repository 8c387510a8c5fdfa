import Nesting.Adaptation.Order
import Nesting.Adaptation.TrafGenGCL2

/-!
# One switch at a time

Receivers share the common controller and adapt it or their exclusive one.

* `window`        the log since the last cycle start of a controller;
* `Exclusive`     no receiver sees both of its controllers selected, or has rewritten both within a
                  cycle of one of them;
* `Orderly`       the condition on the packets;
* `exclusive`     in a run of orderly packets every state is exclusive;
* `select_failed`  two receivers with different exclusive controllers, and cycles that start at
                  different times.
-/

set_option linter.unusedVariables false

namespace Nesting

open Lib

/-! ## cycles in the log -/

/-- the receiver has rewritten the schedule of the controller -/
def TwoSwitchRecord.Wrote (i c : Nat) : TwoSwitchRecord → Prop
  | .received j a _ _ d => j = i ∧ d = c ∧ a.pcp = 7
  | .cycleStart _ => False

instance (i c : Nat) : DecidablePred (TwoSwitchRecord.Wrote i c)
  | .received _ _ _ _ _ => inferInstanceAs (Decidable (_ ∧ _ ∧ _))
  | .cycleStart _ => isFalse id

/-- the records since the last cycle start of the controller, none before the first one -/
def window (c : Nat) (log : List TwoSwitchRecord) : List TwoSwitchRecord :=
  if .cycleStart c ∈ log then log.takeWhile fun x => x ≠ .cycleStart c else []

/-- the receiver has rewritten `d` since the last cycle start of `c` -/
def WroteSince (i c d : Nat) (log : List TwoSwitchRecord) : Prop :=
  ∃ x ∈ window c log, x.Wrote i d

instance (i c d : Nat) (log : List TwoSwitchRecord) : Decidable (WroteSince i c d log) :=
  inferInstanceAs (Decidable (∃ x ∈ window c log, _))

section
variable {c d i : Nat} {x : TwoSwitchRecord} {log : List TwoSwitchRecord}

theorem window_start : window c (.cycleStart c :: log) = [] := by
  unfold window
  rw [if_pos List.mem_cons_self, List.takeWhile_cons_of_neg (by simp)]

theorem window_cons (hx : x ≠ .cycleStart c) :
    window c (x :: log) = x :: window c log ∨ window c (x :: log) = [] := by
  unfold window
  by_cases h : TwoSwitchRecord.cycleStart c ∈ log
  · left
    rw [if_pos h, if_pos (List.mem_cons_of_mem _ h), List.takeWhile_cons_of_pos (by simpa using hx)]
  · right
    rw [if_neg]
    intro hm
    obtain hm | hm := List.mem_cons.mp hm
    · exact hx hm.symm
    · exact h hm

/-- a record adds at most itself -/
theorem WroteSince.of_cons (h : WroteSince i c d (x :: log)) :
    x ≠ .cycleStart c ∧ (x.Wrote i d ∨ WroteSince i c d log) := by
  obtain ⟨y, hy, hw⟩ := h
  have hx : x ≠ .cycleStart c := by
    intro hx
    rw [hx, window_start] at hy
    cases hy
  refine ⟨hx, ?_⟩
  obtain hwin | hwin : window c (x :: log) = x :: window c log ∨ window c (x :: log) = [] :=
    window_cons hx
  · rw [hwin] at hy
    obtain rfl | hy := List.mem_cons.mp hy
    · exact .inl hw
    · exact .inr ⟨y, hy, hw⟩
  · rw [hwin] at hy
    cases hy

end

namespace TwoSwitchSystem

variable {cfg : TwoSwitchConfig} {s s' t : TwoSwitchSystem}

/-! ## exclusive states -/

/-- one switch at a time -/
structure Exclusive (cfg : TwoSwitchConfig) (s : TwoSwitchSystem) : Prop where
  selected : ∀ r ∈ cfg.receivers,
    ¬(s.selected r.gateController_a = true ∧ s.selected r.gateController_b = true)
  /-- within a cycle of either controller a receiver rewrites at most one of them -/
  written : ∀ i r, cfg.receivers[i]? = some r →
    ∀ c, c = r.gateController_a ∨ c = r.gateController_b →
      ¬(WroteSince i c r.gateController_a s.log ∧ WroteSince i c r.gateController_b s.log)

/-- the receivers share `gateController_a`, and have another controller each -/
def Shares (cfg : TwoSwitchConfig) (common : Nat) : Prop :=
  ∀ r ∈ cfg.receivers, r.gateController_a = common ∧ r.gateController_b ≠ common

instance (cfg : TwoSwitchConfig) (common : Nat) : Decidable (Shares cfg common) :=
  inferInstanceAs (Decidable (∀ r ∈ cfg.receivers, _))

/-- the turn of the common controller, should neither be selected -/
def CommonNext (s : TwoSwitchSystem) (i : Nat) (r : TwoSwitchParams) (a : Arrival) : Prop :=
  (r.adaptation.Late a ∧ s.firstSwitch.is_first_increase_switch = true) ∨
  (r.adaptation.Early a ∧ s.firstSwitch.is_first_decrease_switch = true) ∨
  (¬r.adaptation.Late a ∧ ¬r.adaptation.Early a ∧
    (s.receivers i).gateController = some r.gateController_a)

instance (s : TwoSwitchSystem) (i : Nat) (r : TwoSwitchParams) (a : Arrival) :
    Decidable (s.CommonNext i r a) := inferInstanceAs (Decidable (_ ∨ _ ∨ _))

/-- the common controller is selected when no exclusive one is; and a receiver changes over only to a
controller that has begun a cycle since the receiver rewrote the other one -/
def Orderly (cfg : TwoSwitchConfig) (s : TwoSwitchSystem) : TwoSwitchEvent → Prop
  | .receivePacket i a => ∀ r ∈ cfg.receivers[i]?,
    (s.selected r.gateController_a = false → s.selected r.gateController_b = false →
      s.CommonNext i r a → ∀ r' ∈ cfg.receivers, s.selected r'.gateController_b = false) ∧
    (a.pcp = 7 →
      if s.selected r.gateController_a = true ∨
          (s.selected r.gateController_b = false ∧ s.CommonNext i r a) then
        ¬WroteSince i r.gateController_a r.gateController_b s.log
      else ¬WroteSince i r.gateController_b r.gateController_a s.log)
  | _ => True

instance (cfg : TwoSwitchConfig) (s : TwoSwitchSystem) (e : TwoSwitchEvent) :
    Decidable (Orderly cfg s e) :=
  match e with
  | .receivePacket i _ => inferInstanceAs (Decidable (∀ r ∈ cfg.receivers[i]?, _))
  | .updateSchedule _ _ _ | .ttTransmitted _ _ => isTrue trivial

/-- what orderly packets preserve: a pointer leads to one of the two controllers, and a controller
that was rewritten in its cycle is still selected -/
structure Orderliness (cfg : TwoSwitchConfig) (s : TwoSwitchSystem) : Prop extends Exclusive cfg s where
  pointers : ∀ i r, cfg.receivers[i]? = some r → ∀ c ∈ (s.receivers i).gateController,
    c = r.gateController_a ∨ c = r.gateController_b
  kept : ∀ i c, WroteSince i c c s.log → s.selected c = true

theorem orderliness_start (xml : Nat → GateScheduleXml) : Orderliness cfg (start xml) where
  selected := fun r hr h => absurd h.1 nofun
  written := fun i r hr c hc h => by
    obtain ⟨x, hx, _⟩ := h.1
    cases hx
  pointers := fun i r hr c hc => by cases hc
  kept := fun i c h => by
    obtain ⟨x, hx, _⟩ := h
    cases hx

/-! ## steps -/

/-- a tick clears a flag only when it starts a cycle -/
theorem updateSchedule_orderliness (h : Orderliness cfg s) {c : Nat} {mac : Option PreemptMac}
    {now : SimTime} (hs : s.updateSchedule cfg c mac now = .ok s') : Orderliness cfg s' := by
  obtain ⟨gc, hgc, hrec, _, hlog⟩ := updateSchedule_ok hs
  have hflag : ∀ d, s'.selected d = true → s.selected d = true := by
    intro d hd
    unfold TwoSwitchSystem.selected at hd
    rw [hgc] at hd
    by_cases hdc : d = c
    · subst hdc
      rw [Function.update_self] at hd
      obtain ⟨_, hfalse | hsame⟩ | ⟨_, hsame⟩ := hlog
      · exact absurd (hfalse.symm.trans hd) nofun
      · exact hsame ▸ hd
      · exact hsame ▸ hd
    · rw [Function.update_of_ne hdc] at hd
      exact hd
  have hsince : ∀ i d e, WroteSince i d e s'.log → WroteSince i d e s.log := by
    intro i d e hw
    obtain ⟨hlog, _⟩ | ⟨hlog, _⟩ := hlog
    · rw [hlog] at hw
      exact hw.of_cons.2.resolve_left id
    · rwa [hlog] at hw
  refine ⟨⟨fun r hr hb => h.selected r hr ⟨hflag _ hb.1, hflag _ hb.2⟩, ?_⟩, ?_, ?_⟩
  · intro i r hr d hd hb
    exact h.written i r hr d hd ⟨hsince _ _ _ hb.1, hsince _ _ _ hb.2⟩
  · rw [hrec]
    exact h.pointers
  · intro i d hw
    have hbefore := h.kept i d (hsince i d d hw)
    unfold TwoSwitchSystem.selected
    rw [hgc]
    by_cases hdc : d = c
    · subst hdc
      rw [Function.update_self]
      obtain ⟨hlog, _⟩ | ⟨_, hsame⟩ := hlog
      · rw [hlog] at hw
        exact absurd rfl hw.of_cons.1
      · rw [hsame]
        exact hbefore
    · rw [Function.update_of_ne hdc]
      exact hbefore

/-- where the pointer of a receiver leads after a packet that found neither controller selected -/
theorem Selects.controller {i c : Nat} {r : TwoSwitchParams} {a : Arrival} {g : TwoSwitchReceiver}
    {f : FirstSwitch} (h : Selects s i r a g f) (hc : g.gateController = some c)
    (hp : ∀ d ∈ (s.receivers i).gateController, d = r.gateController_a ∨ d = r.gateController_b)
    (hne : r.gateController_b ≠ r.gateController_a) :
    (s.CommonNext i r a ∧ c = r.gateController_a) ∨
      (¬s.CommonNext i r a ∧ c = r.gateController_b) := by
  cases h with
  | increaseA hl hf =>
    cases hc
    exact .inl ⟨.inl ⟨hl, hf⟩, rfl⟩
  | increaseB hl hf =>
    cases hc
    refine .inr ⟨?_, rfl⟩
    rintro (⟨_, h1⟩ | ⟨he, _⟩ | ⟨h1, _⟩)
    · exact absurd (hf.symm.trans h1) nofun
    · exact r.adaptation.not_early_of_late hl he
    · exact h1 hl
  | decreaseA he hf =>
    cases hc
    exact .inl ⟨.inr (.inl ⟨he, hf⟩), rfl⟩
  | decreaseB he hf =>
    cases hc
    refine .inr ⟨?_, rfl⟩
    rintro (⟨hl, _⟩ | ⟨_, h1⟩ | ⟨_, h1, _⟩)
    · exact r.adaptation.not_early_of_late hl he
    · exact absurd (hf.symm.trans h1) nofun
    · exact h1 he
  | unchanged hl he =>
    obtain rfl | rfl := hp c hc
    · exact .inl ⟨.inr (.inr ⟨hl, he, hc⟩), rfl⟩
    · refine .inr ⟨?_, rfl⟩
      rintro (⟨h1, _⟩ | ⟨h1, _⟩ | ⟨_, _, h1⟩)
      · exact hl h1
      · exact he h1
      · exact hne (Option.some.inj (hc.symm.trans h1))

/-- what a packet chooses: a controller of the receiver, which is selected afterwards, and an orderly
packet chooses one that no receiver sees selected beside its other one -/
structure Choice (cfg : TwoSwitchConfig) (s : TwoSwitchSystem) (i : Nat) (r : TwoSwitchParams)
    (a : Arrival) (t : TwoSwitchSystem) (c : Nat) : Prop where
  controller : c = r.gateController_a ∨ c = r.gateController_b
  selected : ∀ d, t.selected d = (if d = c then true else s.selected d)
  exclusive : ∀ r' ∈ cfg.receivers,
    ¬(t.selected r'.gateController_a = true ∧ t.selected r'.gateController_b = true)
  pointer : ∀ j, (t.receivers j).gateController =
    if j = i then some c else (s.receivers j).gateController
  log : t.log = s.log
  changed : a.pcp = 7 → ∀ d, d = r.gateController_a ∨ d = r.gateController_b → d ≠ c →
    ¬WroteSince i c d s.log

theorem Orderliness.choice (h : Orderliness cfg s) {common : Nat} (hcfg : Shares cfg common)
    {i c : Nat} {r : TwoSwitchParams} {a : Arrival} (hr : cfg.receivers[i]? = some r)
    (ho : Orderly cfg s (.receivePacket i a)) (hc : Chooses s i r a t c) :
    Choice cfg s i r a t c := by
  obtain ⟨hfree, hturn⟩ := ho r hr
  obtain ⟨ha, hb⟩ := hcfg r (List.mem_of_getElem? hr)
  have hpointer : ∀ (g : TwoSwitchReceiver) (d : Nat), g.gateController = some d → ∀ j,
      (Function.update s.receivers i g j).gateController =
        if j = i then some d else (s.receivers j).gateController := by
    intro g d hg j
    by_cases hj : j = i
    · rw [if_pos hj, hj, Function.update_self]
      exact hg
    · rw [if_neg hj, Function.update_of_ne hj]
  cases hc with
  | switchA hsa hsb =>
    rw [if_pos (.inl hsa)] at hturn
    refine ⟨.inl rfl, fun d => ?_, h.selected, hpointer _ _ rfl, rfl, fun h7 d hd hne => ?_⟩
    · split
      · rename_i hd
        rw [hd]
        exact hsa
      · rfl
    · obtain rfl := hd.resolve_left hne
      exact hturn h7
  | switchB hsa hsb =>
    rw [if_neg (by rw [hsa, hsb]; exact fun h => h.elim nofun fun h => absurd h.1 nofun)] at hturn
    refine ⟨.inr rfl, fun d => ?_, h.selected, hpointer _ _ rfl, rfl, fun h7 d hd hne => ?_⟩
    · split
      · rename_i hd
        rw [hd]
        exact hsb
      · rfl
    · obtain rfl := hd.resolve_right hne
      exact hturn h7
  | @next hsa hsb _ g f hs hgc =>
    have hcases := hs.controller hgc (h.pointers i r hr) (by rw [ha]; exact hb)
    have hsel : ∀ d, (Function.update s.gateControllers c
        { s.gateControllers c with isSelected := true } d).isSelected =
        if d = c then true else s.selected d := by
      intro d
      by_cases hd : d = c
      · rw [if_pos hd, hd, Function.update_self]
      · rw [if_neg hd, Function.update_of_ne hd]
        rfl
    refine ⟨hcases.imp And.right And.right, hsel, ?_, hpointer _ _ hgc, rfl, fun h7 d hd hne => ?_⟩
    · intro r' hr' ⟨h1, h2⟩
      obtain ⟨ha', hb'⟩ := hcfg r' hr'
      have h1 := (hsel _).symm.trans h1
      have h2 := (hsel _).symm.trans h2
      obtain ⟨hnext, rfl⟩ | ⟨_, rfl⟩ := hcases
      · -- the common controller
        rw [if_neg (by rw [ha]; exact hb'), hfree hsa hsb hnext r' hr'] at h2
        cases h2
      · -- an exclusive one: the common one is not selected
        rw [if_neg (by rw [ha']; exact Ne.symm hb), ha', ← ha, hsa] at h1
        cases h1
    · obtain ⟨hnext, rfl⟩ | ⟨hnext, rfl⟩ := hcases
      · rw [if_pos (.inr ⟨hsb, hnext⟩)] at hturn
        obtain rfl := hd.resolve_left hne
        exact hturn h7
      · rw [if_neg (by rw [hsa]; exact fun h => h.elim nofun fun h => hnext h.2)] at hturn
        obtain rfl := hd.resolve_right hne
        exact hturn h7

theorem receivePacket_orderliness (h : Orderliness cfg s) {common : Nat} (hcfg : Shares cfg common)
    {i : Nat} {a : Arrival} (ho : Orderly cfg s (.receivePacket i a))
    (hs : s.receivePacket cfg i a = .ok s') : Orderliness cfg s' := by
  obtain ⟨r, t, c, gc, hr, hchoose, hgc, rfl⟩ := receivePacket_ok hs
  have hc := h.choice hcfg hr ho hchoose
  have hsel : ∀ d, (Function.update t.gateControllers c gc d).isSelected = t.selected d :=
    selected_update hgc
  have hkept : ∀ j d, WroteSince j d d (.received i a (s.selected r.gateController_a)
      (s.selected r.gateController_b) c :: t.log) → t.selected d = true := by
    intro j d hw
    rw [hc.selected]
    split
    · rfl
    · rename_i hd
      obtain ⟨_, rfl, _⟩ | hw := hw.of_cons.2
      · exact absurd rfl hd
      · rw [hc.log] at hw
        exact h.kept j d hw
  refine ⟨⟨fun r' hr' => ?_, ?_⟩, ?_, fun j d hw => ?_⟩
  · unfold TwoSwitchSystem.selected
    dsimp only
    rw [hsel, hsel]
    exact hc.exclusive r' hr'
  · intro j r' hr' d hd ⟨hwa, hwb⟩
    -- a receiver that rewrites a controller has not rewritten the other one in this cycle
    have hother : ∀ x y, (x = r'.gateController_a ∧ y = r'.gateController_b) ∨
        (x = r'.gateController_b ∧ y = r'.gateController_a) → d = x ∨ d = y →
        (j = i ∧ c = x ∧ a.pcp = 7) → WroteSince j d y (.received i a (s.selected r.gateController_a)
          (s.selected r.gateController_b) c :: t.log) → False := by
      rintro x y hxy hdxy ⟨rfl, rfl, h7⟩ hy
      cases hr.symm.trans hr'
      obtain ⟨ha, hb⟩ := hcfg r (List.mem_of_getElem? hr)
      have hyc : y ≠ c := by
        obtain ⟨rfl, rfl⟩ | ⟨rfl, rfl⟩ := hxy
        · rw [ha]; exact hb
        · rw [ha]; exact Ne.symm hb
      have hpair : y = r.gateController_a ∨ y = r.gateController_b :=
        hxy.elim (fun h => .inr h.2) (fun h => .inl h.2)
      obtain ⟨_, hcy, _⟩ | hold := hy.of_cons.2
      · exact hyc hcy.symm
      · rw [hc.log] at hold
        obtain rfl | rfl := hdxy
        · exact hc.changed h7 y hpair hyc hold
        · -- the other controller would still be selected beside this one
          have hold' := h.kept j d hold
          have hboth : t.selected d = true ∧ t.selected c = true := by
            rw [hc.selected, hc.selected, if_neg hyc, if_pos rfl]
            exact ⟨hold', rfl⟩
          obtain ⟨rfl, rfl⟩ | ⟨rfl, rfl⟩ := hxy
          · exact hc.exclusive r (List.mem_of_getElem? hr) ⟨hboth.2, hboth.1⟩
          · exact hc.exclusive r (List.mem_of_getElem? hr) hboth
    obtain ⟨rfl, hca, h7⟩ | holda := hwa.of_cons.2
    · exact hother _ _ (.inl ⟨rfl, rfl⟩) hd ⟨rfl, hca, h7⟩ hwb
    · obtain ⟨rfl, hcb, h7⟩ | holdb := hwb.of_cons.2
      · exact hother _ _ (.inr ⟨rfl, rfl⟩) hd.symm ⟨rfl, hcb, h7⟩ hwa
      · rw [hc.log] at holda holdb
        exact h.written j r' hr' d hd ⟨holda, holdb⟩
  · intro j r' hr' d hd
    have hd : (t.receivers j).gateController = some d := hd
    rw [hc.pointer] at hd
    split at hd
    · rename_i hj
      cases hd
      subst hj
      cases hr.symm.trans hr'
      exact hc.controller
    · exact h.pointers j r' hr' d hd
  · refine Eq.trans ?_ (hkept j d hw)
    exact hsel d

theorem step_orderliness (h : Orderliness cfg s) {common : Nat} (hcfg : Shares cfg common)
    {e : TwoSwitchEvent} (ho : Orderly cfg s e) (hs : s.step cfg e = .ok s') :
    Orderliness cfg s' := by
  cases e with
  | receivePacket i a => exact receivePacket_orderliness h hcfg ho hs
  | updateSchedule c mac now => exact updateSchedule_orderliness h hs
  | ttTransmitted ts simTime =>
    cases hs
    exact ⟨⟨h.selected, h.written⟩, h.pointers, h.kept⟩

/-! ## runs -/

/-- **One switch at a time**: in a run of orderly packets every state is exclusive, and no packet
finds both controllers selected. -/
theorem exclusive (cfg : TwoSwitchConfig) (xml : Nat → GateScheduleXml) (common : Nat)
    (hcfg : Shares cfg common) (es : List TwoSwitchEvent) (s : TwoSwitchSystem)
    (hm : Meets (step cfg) (Orderly cfg) (start xml) es)
    (hr : run (step cfg) (start xml) es = .ok s) :
    Exclusive cfg s ∧ ∀ (i : Nat) (r : TwoSwitchParams) (a : Arrival), cfg.receivers[i]? = some r →
      s.chooseSwitch i r a ≠ .error (.runtimeError "switch select failed") := by
  have h : Orderliness cfg s := by
    refine run_invariant_of ?_ (orderliness_start xml) hm hr
    intro s e s' h ho hs
    exact step_orderliness h hcfg ho hs
  refine ⟨h.toExclusive, ?_⟩
  intro i r a hr hfail
  unfold chooseSwitch at hfail
  split at hfail
  · cases hfail
  · cases hfail
  · rename_i ha hb
    exact h.selected r (List.mem_of_getElem? hr) ⟨ha, hb⟩
  · dsimp only at hfail
    split at hfail
    · cases hfail
    · cases hfail

/-- receivers with the common controller 0 and the exclusive ones 1 and 2 -/
def twoReceivers : TwoSwitchConfig :=
  ⟨[⟨AdaptationParams.usSteps, 0, 1, 0, 1⟩, ⟨AdaptationParams.usSteps, 0, 2, 0, 2⟩], fun _ => .plain⟩

/-- a packet of priority 7 that was 200 us under way -/
def latePacket (t : SimTime) : Arrival := ⟨7, t, [t - 2 / 10000]⟩

/-- all three controllers apply the next entry -/
def ticks (t : SimTime) : List TwoSwitchEvent :=
  [.updateSchedule 0 none t, .updateSchedule 1 none t, .updateSchedule 2 none t]

/-- receiver 0 adapts controller 0 in the first cycle and controller 1 in the second one -/
def alternatingRun : List TwoSwitchEvent :=
  ticks 0 ++ [.receivePacket 0 (latePacket (3 / 10000))] ++ ticks (4 / 10000) ++ ticks (1 / 1000) ++
    [.receivePacket 0 (latePacket (11 / 10000))]

/-- the cycle of controller 1 starts half a cycle after that of controller 0 -/
def shiftedRun : List TwoSwitchEvent :=
  [.updateSchedule 0 none 0, .receivePacket 0 (latePacket (3 / 10000)),
   .updateSchedule 0 none (4 / 10000), .updateSchedule 1 none (5 / 10000),
   .updateSchedule 1 none (9 / 10000), .updateSchedule 0 none (1 / 1000),
   .receivePacket 0 (latePacket (11 / 10000)),
   .updateSchedule 0 none (141 / 100000), .updateSchedule 1 none (15 / 10000),
   .receivePacket 0 (latePacket (16 / 10000))]

/-- a packet of receiver 1 selects controller 0 while receiver 0 adapts controller 1; and with one
receiver and shifted cycles both schedules are rewritten within a cycle of controller 0 -/
theorem select_failed :
    run (step twoReceivers) (start fun _ => AdaptationParams.msCycle)
      (alternatingRun ++ [.receivePacket 1 (latePacket (12 / 10000)),
        .receivePacket 0 (latePacket (13 / 10000))])
      = .error (.runtimeError "switch select failed") ∧
    ∃ s, run (step twoReceivers) (start fun _ => AdaptationParams.msCycle) shiftedRun = .ok s ∧
      (WroteSince 0 0 0 s.log ∧ WroteSince 0 0 1 s.log) := by
  constructor
  · exact eq_error_of (by decide +kernel)
  · exact exists_of_any (by decide +kernel)

theorem exclusive_alternatingRun : ∃ s,
    run (step twoReceivers) (start fun _ => AdaptationParams.msCycle) alternatingRun = .ok s ∧
      Exclusive twoReceivers s ∧ (s.selected 0 = false ∧ s.selected 1 = true) := by
  obtain ⟨s, hs, hflags⟩ : ∃ s, run (step twoReceivers) (start fun _ => AdaptationParams.msCycle)
      alternatingRun = .ok s ∧ (s.selected 0 = false ∧ s.selected 1 = true) :=
    exists_of_any (by decide +kernel)
  exact ⟨s, hs, (exclusive twoReceivers _ 0 (by decide +kernel) alternatingRun s (by decide +kernel)
    hs).1, hflags⟩

end TwoSwitchSystem

end Nesting
