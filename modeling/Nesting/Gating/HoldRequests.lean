import Nesting.Gating.LookEnds
import Nesting.Mac.Requests

/-!
# Holds for express windows

`updateSchedule` requests the hold for the following entry when it applies an entry, from the nominal
length of the entry.  `HoldSystem` adds to the gate system what the last tick has requested, and the
hold that `initialize` requests for the first entry.

* `HoldInTime`      at a tick: no negative delay, a release exactly on hold without an express gate, and
                    before an express window a hold in time;
* `AsAnnounced`     at a tick: the entry is long enough for the hold that it requests, and an express
                    window comes where and when the tick before has announced it;
* `HoldTakesEffect` what the MAC does with `hold(delay)`;
* `holds_iff`       **in every run, all ticks are `HoldInTime` exactly when all are `AsAnnounced`.**

An entry that the end of the cycle cuts ends before its nominal length; a cycle that ends before the
last entry is followed by entry 0, not by the next one.
-/

set_option linter.unusedVariables false

namespace Nesting
namespace GateController

/-- `initialize`: the hold for the first entry, from the default schedule -/
def holdFirstEntry (cfg : GateConfig) (mac : Option PreemptMac) (gc : GateController) :
    Sim (Option SimTime) :=
  if cfg.enableHoldAndRelease && !gc.currentSchedule.isEmpty then do
    let bitvector ← gc.currentSchedule.getScheduledObject 0
    if someExpressGateOpen cfg bitvector then
      match mac with
      | some _ => return some 0
      | none => .error (.undefinedBehaviour "preemptMacModule->hold(SIMTIME_ZERO)")
    else return none
  else return none

/-- the vector that follows entry `i`, as `updateSchedule` sees it -/
def followingVector (gc : GateController) (i : Nat) : Option GateBitvector :=
  (if i + 1 = gc.currentSchedule.controlList.length then gc.newSchedule.controlList[0]?
    else gc.currentSchedule.controlList[i + 1]?).map (·.scheduledObject)

/-- entry `i` announces an express window -/
def announces (cfg : GateConfig) (gc : GateController) (i : Nat) : Bool :=
  (gc.followingVector i).any (someExpressGateOpen cfg)

/-- the executed entry announces an express window, and its nominal length is over at `now`, or it is
as long as the hold advance -/
def EndsAsAnnounced (cfg : GateConfig) (gc : GateController) (now advance : SimTime) : Prop :=
  gc.announces cfg gc.executedIndex = true ∧
    ∃ e ∈ gc.currentSchedule.controlList[gc.executedIndex]?, e.timeInterval = advance ∨
      advance ≤ e.timeInterval ∧ gc.lastChange + e.timeInterval ≤ now

instance (cfg : GateConfig) (gc : GateController) (now advance : SimTime) :
    Decidable (gc.EndsAsAnnounced cfg now advance) := inferInstanceAs (Decidable (_ ∧ _))

section
variable {cfg : GateConfig} {gc gc' : GateController} {now : SimTime} {m : PreemptMac} {ap : Applied}

theorem executedIndex_advance (h : gc.scheduleIndex < gc.currentSchedule.controlList.length) :
    (gc.advance now).executedIndex = gc.scheduleIndex :=
  executedIndex_of_index h rfl

/-- what `updateSchedule` takes for the next vector -/
theorem nextVector_following {v : GateBitvector} (hn : gc.nextSchedule = .newSchedule)
    (hi : gc.scheduleIndex < gc.currentSchedule.controlList.length) (h : gc.nextVector = .ok v) :
    gc.followingVector gc.scheduleIndex = some v := by
  unfold nextVector next at h
  rw [hn] at h
  have hobject : ∀ (s : Schedule GateBitvector) j, s.getScheduledObject j = .ok v →
      (s.controlList[j]?).map (·.scheduledObject) = some v := by
    intro s j hs
    obtain ⟨e, he, hv⟩ := bind_ok.mp hs
    cases hv
    rw [Schedule.entry_ok.mp he]
    rfl
  unfold followingVector
  by_cases hlast : gc.scheduleIndex + 1 = gc.currentSchedule.controlList.length
  · rw [if_pos hlast]
    refine hobject _ _ ?_
    have hlast' : gc.scheduleIndex = gc.currentSchedule.getControlListLength - 1 := by
      show _ = gc.currentSchedule.controlList.length - 1
      omega
    simp only [if_pos hlast'] at h
    exact h
  · rw [if_neg hlast]
    refine hobject _ _ ?_
    have hlast' : ¬ gc.scheduleIndex = gc.currentSchedule.getControlListLength - 1 := by
      show ¬ _ = gc.currentSchedule.controlList.length - 1
      omega
    simp only [if_neg hlast'] at h
    rw [← h]
    show _ = gc.currentSchedule.getScheduledObject
      ((gc.scheduleIndex + 1) % gc.currentSchedule.controlList.length)
    rw [Nat.mod_eq_of_lt (by omega)]

theorem applyEntry_requests (hhold : cfg.enableHoldAndRelease = true)
    (h : applyEntry cfg (some m) now gc = .ok (gc', ap)) :
    ∃ e v, gc.currentSchedule.controlList[gc.scheduleIndex]? = some e ∧ gc.nextVector = .ok v ∧
      gc' = gc.advance now ∧ ap.bitvector = e.scheduledObject ∧
      ap.hold = (if someExpressGateOpen cfg v then some (e.timeInterval - m.holdAdvance) else none) ∧
      ap.release = (!someExpressGateOpen cfg e.scheduledObject && m.onHold) := by
  obtain ⟨e, he, hgc, -, -⟩ := applyEntry_ok h
  unfold applyEntry at h
  simp only [Schedule.getScheduledObject, Schedule.getTimeInterval, Schedule.entry_ok.mpr he,
    scheduleNextTickEvent_eq he, hhold, bind, Except.bind, pure, Except.pure] at h
  cases hv : gc.nextVector with
  | error x =>
    rw [hv] at h
    cases h
  | ok v =>
    rw [hv] at h
    cases h
    exact ⟨e, v, he, rfl, rfl, rfl, rfl, by simp⟩

/-- **What a tick requests of the MAC.** -/
theorem updateSchedule_requests (hhold : cfg.enableHoldAndRelease = true)
    (hnew : 0 < gc.newSchedule.controlList.length)
    (hnext : gc.Loads ∨ gc.nextSchedule = .newSchedule)
    (h : updateSchedule cfg (some m) now gc = .ok (gc', ap)) :
    ∃ e v, (gc.prepared now).currentSchedule.controlList[(gc.prepared now).scheduleIndex]? = some e ∧
      (gc.prepared now).followingVector (gc.prepared now).scheduleIndex = some v ∧
      gc' = (gc.prepared now).advance now ∧ ap.bitvector = e.scheduledObject ∧
      ap.hold = (if someExpressGateOpen cfg v then some (e.timeInterval - m.holdAdvance) else none) ∧
      ap.release = (!someExpressGateOpen cfg e.scheduledObject && m.onHold) := by
  obtain ⟨e, v, he, hv, hrest⟩ := applyEntry_requests hhold (updateSchedule_applies (fun _ => hnew) h)
  have hn : (gc.prepared now).nextSchedule = .newSchedule := by
    rw [prepared_nextSchedule]
    split
    · rfl
    · rename_i hl
      exact hnext.resolve_left hl
  exact ⟨e, v, he, nextVector_following hn (List.getElem?_eq_some_iff.mp he).1 hv, hrest⟩

end
end GateController

/-! ## the MAC's side -/

namespace EtherMac

/-- `hold(delay)` takes effect `delay` later: at once, or by a message `holdRequest`; a negative delay
is a run-time error -/
structure HoldTakesEffect (cfg : MacConfig) (mac : EtherMac) (delay : SimTime) : Prop where
  past : delay < 0 → mac.hold cfg delay = .error (.assertion "t >= simTime()")
  now : delay = 0 → ∀ mac', mac.hold cfg delay = .ok mac' → mac'.onHold = true
  later : 0 < delay → mac.hold cfg delay =
    .ok { mac with holdRequests := mac.holdRequests ++ [mac.time + delay] }
  due : ∀ mac', mac.step cfg (.timer .holdRequest) = .ok mac' →
    mac.time ∈ mac.holdRequests ∧ mac'.onHold = true

theorem holdTakesEffect {cfg : MacConfig} (henable : cfg.enablePreemptingFrames = true) (mac : EtherMac)
    (delay : SimTime) : mac.HoldTakesEffect cfg delay := by
  have hzero : ∀ (m mac' : EtherMac) (d : SimTime), d = 0 → m.hold cfg d = .ok mac' →
      mac'.onHold = true := by
    intro m mac' d hd h
    rw [(hold_asks h).onHold, heldAfter, if_pos ⟨henable, hd⟩]
  refine ⟨fun hneg => ?_, fun hd mac' h => hzero mac mac' delay hd h, fun hpos => ?_,
    fun mac' h => ?_⟩
  · have hpast : ¬ mac.time ≤ mac.time + delay := by linarith
    simp [hold, henable, hneg.ne, scheduleAt, ASSERT, hpast, bind, Except.bind]
  · have hdue : mac.time ≤ mac.time + delay := by linarith
    simp [hold, henable, hpos.ne', scheduleAt, ASSERT, hdue, bind, Except.bind, pure, Except.pure]
  · unfold step at h
    by_cases hmem : mac.time ∈ mac.scheduled .holdRequest
    · simp only [if_pos hmem] at h
      exact ⟨hmem, hzero _ mac' 0 rfl h⟩
    · simp only [if_neg hmem] at h
      cases h

end EtherMac

/-! ## the gates and what they request -/

/-- what a tick has requested -/
structure HoldRecord where
  time : SimTime
  mac : PreemptMac
  /-- the argument of `preemptMacModule->hold` -/
  hold : Option SimTime
  deriving DecidableEq

structure HoldSystem where
  gates : GateSystem
  /-- the argument of `preemptMacModule->hold` in `initialize` -/
  initialHold : Option SimTime
  lastTick : Option HoldRecord
  deriving DecidableEq

namespace HoldSystem
open GateController (someExpressGateOpen Listed)

def start (cfg : GateConfig) (mac : Option PreemptMac) (xml : GateScheduleXml) : Sim HoldSystem := do
  let gates ← GateSystem.start cfg xml
  let initialHold ← gates.gc.holdFirstEntry cfg mac
  return { gates, initialHold, lastTick := none }

def step (cfg : GateConfig) (s : HoldSystem) : GateEvent → Sim HoldSystem
  | .tick mac =>
    match s.gates.pendingTick with
    | none => .error (.undefinedBehaviour "no tick is subscribed")
    | some now => do
      let (gc, ap) ← s.gates.gc.updateSchedule cfg mac now
      let pendingTick ← GateSystem.subscribeNext cfg now ap.idleTicks
      return { s with
        gates := { gc, pendingTick, trace := s.gates.trace ++ [(now, ap.bitvector)] }
        lastTick := mac.map fun m => ⟨now, m, ap.hold⟩ }
  | e => do
    let gates ← s.gates.step cfg e
    return { s with gates }

/-- a hold is on at `now` less the hold advance, or has been requested without delay -/
def HeldBy (s : HoldSystem) (now : SimTime) : Prop :=
  (s.gates.trace = [] → s.initialHold = some 0) ∧
    ∀ last, s.lastTick = some last → ∃ delay, last.hold = some delay ∧ 0 ≤ delay ∧
      last.time + delay ≤ max last.time (now - last.mac.holdAdvance)

/-- at a tick no negative delay is requested, the MAC is released exactly if it is on hold and no
express gate is open, and an express window is held for -/
def HoldInTime (cfg : GateConfig) (s : HoldSystem) : GateEvent → Prop
  | .tick (some m) => ∀ now gc ap, s.gates.pendingTick = some now →
      s.gates.gc.updateSchedule cfg (some m) now = .ok (gc, ap) →
      (∀ delay, ap.hold = some delay → 0 ≤ delay) ∧
      (ap.release = true ↔ m.onHold = true ∧ someExpressGateOpen cfg ap.bitvector = false) ∧
      (someExpressGateOpen cfg ap.bitvector = true → s.HeldBy now)
  | _ => True

/-- the entry that the tick at `now` applies is no shorter than the hold advance if it announces an
express window, and if it opens one itself, the tick before has announced it for this time -/
def TickAnnounced (cfg : GateConfig) (s : HoldSystem) (m : PreemptMac) (now : SimTime) : Prop :=
  ∀ e ∈ (s.gates.gc.prepared now).currentSchedule.controlList[(s.gates.gc.prepared now).scheduleIndex]?,
    ((s.gates.gc.prepared now).announces cfg (s.gates.gc.prepared now).scheduleIndex = true →
      m.holdAdvance ≤ e.timeInterval) ∧
    (someExpressGateOpen cfg e.scheduledObject = true → ∀ last ∈ s.lastTick,
      s.gates.gc.EndsAsAnnounced cfg now last.mac.holdAdvance)

instance (cfg : GateConfig) (s : HoldSystem) (m : PreemptMac) (now : SimTime) :
    Decidable (s.TickAnnounced cfg m now) := inferInstanceAs (Decidable (∀ e ∈ _, _ ∧ _))

def AsAnnounced (cfg : GateConfig) (s : HoldSystem) : GateEvent → Prop
  | .tick (some m) => ∀ now ∈ s.gates.pendingTick, s.TickAnnounced cfg m now
  | _ => True

instance (cfg : GateConfig) (s : HoldSystem) : ∀ e, Decidable (s.AsAnnounced cfg e)
  | .tick (some m) =>
    inferInstanceAs (Decidable (∀ now ∈ s.gates.pendingTick, s.TickAnnounced cfg m now))
  | .tick none => isTrue trivial
  | .calculateMaxBit _ _ _ => isTrue trivial
  | .setTimeInterval _ _ => isTrue trivial
  | .setisIncreased _ => isTrue trivial
  | .setisSelected _ => isTrue trivial

section
variable {cfg : GateConfig} {s s' : HoldSystem}

theorem step_tick {mac : Option PreemptMac} (h : s.step cfg (.tick mac) = .ok s') :
    ∃ now gc ap pendingTick, s.gates.pendingTick = some now ∧
      s.gates.gc.updateSchedule cfg mac now = .ok (gc, ap) ∧
      GateSystem.subscribeNext cfg now ap.idleTicks = .ok pendingTick ∧
      s' = { s with
        gates := { gc, pendingTick, trace := s.gates.trace ++ [(now, ap.bitvector)] }
        lastTick := mac.map fun m => ⟨now, m, ap.hold⟩ } := by
  unfold step at h
  cases hp : s.gates.pendingTick with
  | none =>
    rw [hp] at h
    cases h
  | some now =>
    rw [hp] at h
    obtain ⟨⟨gc, ap⟩, hu, h⟩ := bind_ok.mp h
    obtain ⟨pendingTick, hsub, h⟩ := bind_ok.mp h
    cases h
    exact ⟨now, gc, ap, pendingTick, rfl, hu, hsub, rfl⟩

/-- the gates run as without the records -/
theorem step_gates {e : GateEvent} (h : s.step cfg e = .ok s') :
    s.gates.step cfg e = .ok s'.gates := by
  cases e with
  | tick mac =>
    obtain ⟨now, gc, ap, pendingTick, hp, hu, hsub, rfl⟩ := step_tick h
    unfold GateSystem.step
    rw [hp]
    exact bind_ok.mpr ⟨(gc, ap), hu, bind_ok.mpr ⟨pendingTick, hsub, rfl⟩⟩
  | _ =>
    obtain ⟨gates, hg, h⟩ := bind_ok.mp h
    cases h
    exact hg

/-! ## what the records say -/

/-- the record of the last tick, as the controller still shows it -/
def Shown (cfg : GateConfig) (gc : GateController) (last : HoldRecord) : Prop :=
  last.time = gc.lastChange ∧
    ∃ e v, gc.currentSchedule.controlList[gc.executedIndex]? = some e ∧
      gc.followingVector gc.executedIndex = some v ∧
      last.hold = if someExpressGateOpen cfg v then some (e.timeInterval - last.mac.holdAdvance)
        else none

/-- what every run keeps -/
structure Kept (cfg : GateConfig) (s : HoldSystem) : Prop where
  listed : Listed s.gates.gc
  next : s.gates.gc.Loads ∨ s.gates.gc.nextSchedule = .newSchedule
  initial : ∀ v, someExpressGateOpen cfg v = true → s.initialHold = some 0
  shown : ∀ last, s.lastTick = some last → Shown cfg s.gates.gc last

/-- the default schedule opens every gate that any vector opens -/
theorem someExpressGateOpen_allOpen {v : GateBitvector} (h : someExpressGateOpen cfg v = true) :
    someExpressGateOpen cfg .allOpen = true := by
  obtain ⟨gate, hmem, hopen⟩ := List.any_eq_true.mp h
  refine List.any_eq_true.mpr ⟨gate, hmem, ?_⟩
  obtain ⟨htest, hexpress⟩ := (Bool.and_eq_true _ _).mp hopen
  have hlt : gate.index < 8 := BitVec.lt_of_getLsbD htest
  have htest : GateBitvector.allOpen.test gate.index = true := by
    show (BitVec.allOnes 8).getLsbD gate.index = true
    rw [BitVec.getLsbD_allOnes]
    exact decide_eq_true hlt
  rw [htest, hexpress]
  rfl

theorem kept_start {mac : Option PreemptMac} {xml : GateScheduleXml}
    (hhold : cfg.enableHoldAndRelease = true) (h : HoldSystem.start cfg mac xml = .ok s) :
    Kept cfg s := by
  obtain ⟨gates, hgates, h⟩ := bind_ok.mp h
  obtain ⟨initialHold, hinitial, h⟩ := bind_ok.mp h
  cases h
  refine ⟨GateSystem.listed_start hgates, ?_, fun v hv => ?_, nofun⟩
  · obtain ⟨-, -, -, rfl⟩ := GateSystem.start_iff.mp hgates
    exact Or.inl ⟨rfl, nofun⟩
  · obtain ⟨-, -, -, rfl⟩ := GateSystem.start_iff.mp hgates
    have hopen : someExpressGateOpen cfg .allOpen = true := someExpressGateOpen_allOpen hv
    unfold GateController.holdFirstEntry at hinitial
    rw [hhold] at hinitial
    obtain ⟨bitvector, hb, hinitial⟩ := bind_ok.mp hinitial
    have hbit : bitvector = .allOpen := by
      cases hb
      rfl
    rw [hbit, if_pos hopen] at hinitial
    cases mac with
    | none => cases hinitial
    | some m =>
      cases hinitial
      rfl

/-- only lengths are adapted -/
theorem followingVector_rewritten {gc : GateController} {N : Schedule GateBitvector} {i : Nat}
    {t : SimTime} (hset : gc.newSchedule.setTimeInterval i t = .ok N) (j : Nat) :
    ({ gc with newSchedule := N } : GateController).followingVector j = gc.followingVector j := by
  have hfirst : (N.controlList[0]?).map (·.scheduledObject) =
      (gc.newSchedule.controlList[0]?).map (·.scheduledObject) := by
    obtain ⟨hi, rfl⟩ := Schedule.setTimeInterval_ok hset
    cases i with
    | succ i => simp [List.getElem?_set_ne (Nat.succ_ne_zero i)]
    | zero => simp [List.getElem?_set_self hi, List.getElem?_eq_getElem hi]
  unfold GateController.followingVector
  by_cases hlast : j + 1 = gc.currentSchedule.controlList.length
  · rw [if_pos hlast, if_pos hlast]
    exact hfirst
  · rw [if_neg hlast, if_neg hlast]

theorem shown_rewritten {gc : GateController} {N : Schedule GateBitvector} {last : HoldRecord} {i : Nat}
    {t : SimTime} (h : Shown cfg gc last) (hset : gc.newSchedule.setTimeInterval i t = .ok N) :
    Shown cfg { gc with newSchedule := N } last := by
  obtain ⟨htime, e, v, he, hv, hhold⟩ := h
  exact ⟨htime, e, v, he, (followingVector_rewritten hset _).trans hv, hhold⟩

theorem kept_step (hhold : cfg.enableHoldAndRelease = true) (s : HoldSystem) (e : GateEvent)
    (s' : HoldSystem) (h : Kept cfg s) (hs : s.step cfg e = .ok s') : Kept cfg s' := by
  have hlisted := GateSystem.listed_step _ _ _ h.listed (step_gates hs)
  cases e with
  | tick mac =>
    obtain ⟨now, gc, ap, pendingTick, hp, hu, -, rfl⟩ := step_tick hs
    obtain ⟨e, he, hgc, -, -⟩ := GateController.applyEntry_ok
      (GateController.updateSchedule_applies (fun _ => h.listed.new) hu)
    refine ⟨hlisted, ?_, h.initial, fun last hlast => ?_⟩
    · right
      show gc.nextSchedule = .newSchedule
      rw [hgc]
      show (s.gates.gc.prepared now).nextSchedule = .newSchedule
      rw [GateController.prepared_nextSchedule]
      split
      · rfl
      · rename_i hl
        exact h.next.resolve_left hl
    · cases mac with
      | none => cases hlast
      | some m =>
        cases hlast
        obtain ⟨e, v, he, hv, rfl, -, hreq, -⟩ :=
          GateController.updateSchedule_requests hhold h.listed.new h.next hu
        refine ⟨rfl, e, v, ?_, ?_, hreq⟩
        · rw [GateController.executedIndex_advance (List.getElem?_eq_some_iff.mp he).1]
          exact he
        · rw [GateController.executedIndex_advance (List.getElem?_eq_some_iff.mp he).1]
          exact hv
  | calculateMaxBit fuel now g =>
    obtain ⟨gates, hg, hs⟩ := bind_ok.mp hs
    cases hs
    obtain ⟨⟨b, gc'⟩, hquery, hg⟩ := bind_ok.mp hg
    cases hg
    obtain ⟨c, rfl⟩ := GateController.calculateMaxBit_writes hquery
    exact ⟨hlisted, h.next, h.initial, h.shown⟩
  | setTimeInterval i t =>
    obtain ⟨gates, hg, hs⟩ := bind_ok.mp hs
    cases hs
    obtain ⟨N, hset, hg⟩ := bind_ok.mp hg
    cases hg
    exact ⟨hlisted, h.next, h.initial, fun last hlast => shown_rewritten (h.shown last hlast) hset⟩
  | setisIncreased b =>
    obtain ⟨gates, hg, hs⟩ := bind_ok.mp hs
    cases hs
    cases hg
    exact ⟨hlisted, h.next, h.initial, h.shown⟩
  | setisSelected b =>
    obtain ⟨gates, hg, hs⟩ := bind_ok.mp hs
    cases hs
    cases hg
    exact ⟨hlisted, h.next, h.initial, h.shown⟩

/-! ## ticks -/

/-- an express window is held for exactly if it comes as announced -/
theorem heldBy_iff (h : Kept cfg s) {v : GateBitvector} (hopen : someExpressGateOpen cfg v = true)
    (now : SimTime) : s.HeldBy now ↔ ∀ last ∈ s.lastTick,
      s.gates.gc.EndsAsAnnounced cfg now last.mac.holdAdvance := by
  refine (and_iff_right fun _ => h.initial v hopen).trans ?_
  refine forall_congr' fun last => imp_congr_right fun hlast => ?_
  obtain ⟨htime, e, w, he, hw, hreq⟩ := h.shown last hlast
  have hannounces : s.gates.gc.announces cfg s.gates.gc.executedIndex = someExpressGateOpen cfg w := by
    rw [GateController.announces, hw]
    rfl
  rw [GateController.EndsAsAnnounced, hannounces, hreq, htime]
  constructor
  · rintro ⟨delay, hdelay, hnonneg, hle⟩
    split at hdelay
    · rename_i hexpress
      cases hdelay
      refine ⟨hexpress, e, he, ?_⟩
      rcases le_max_iff.mp hle with hle | hle
      · exact Or.inl (by linarith)
      · exact Or.inr ⟨by linarith, by linarith⟩
    · cases hdelay
  · rintro ⟨hexpress, e', he', hend⟩
    cases he.symm.trans he'
    refine ⟨_, if_pos hexpress, ?_, le_max_iff.mpr ?_⟩
    · rcases hend with heq | ⟨hle, -⟩ <;> linarith
    · rcases hend with heq | ⟨-, hle⟩
      · exact Or.inl (by linarith)
      · exact Or.inr (by linarith)

theorem holdInTime_iff (hhold : cfg.enableHoldAndRelease = true) (s : HoldSystem) (e : GateEvent)
    (s' : HoldSystem) (h : Kept cfg s) (hs : s.step cfg e = .ok s') :
    s.HoldInTime cfg e ↔ s.AsAnnounced cfg e := by
  match e with
  | .tick (some m) =>
    obtain ⟨now, gc, ap, -, hp, hu, -⟩ := step_tick hs
    obtain ⟨e, v, he, hv, -, hbit, hreq, hrelease⟩ :=
      GateController.updateSchedule_requests hhold h.listed.new h.next hu
    have hannounces : (s.gates.gc.prepared now).announces cfg (s.gates.gc.prepared now).scheduleIndex =
        someExpressGateOpen cfg v := by
      rw [GateController.announces, hv]
      rfl
    have hnonneg : (∀ delay, ap.hold = some delay → 0 ≤ delay) ↔
        (someExpressGateOpen cfg v = true → m.holdAdvance ≤ e.timeInterval) := by
      rw [hreq]
      constructor
      · intro hall hopen
        exact sub_nonneg.mp (hall _ (if_pos hopen))
      · intro hle delay hdelay
        split at hdelay
        · rename_i hopen
          cases hdelay
          exact sub_nonneg.mpr (hle hopen)
        · cases hdelay
    have hreleased : ap.release = true ↔
        m.onHold = true ∧ someExpressGateOpen cfg ap.bitvector = false := by
      rw [hrelease, hbit, Bool.and_eq_true, Bool.not_eq_true', and_comm]
    constructor
    · intro hheld now' hp' e' he'
      cases hp.symm.trans hp'
      cases he.symm.trans he'
      obtain ⟨hdelays, -, hwindow⟩ := hheld now gc ap hp hu
      rw [hannounces]
      refine ⟨hnonneg.mp hdelays, fun hopen => ?_⟩
      rw [← hbit] at hopen
      exact (heldBy_iff h hopen now).mp (hwindow hopen)
    · intro hann now' gc' ap' hp' hu'
      rw [hp] at hp'
      cases hp'
      rw [hu] at hu'
      cases hu'
      obtain ⟨hdelays, hwindow⟩ := hann now hp e he
      rw [hannounces] at hdelays
      refine ⟨hnonneg.mpr hdelays, hreleased, fun hopen => (heldBy_iff h hopen now).mpr ?_⟩
      rw [hbit] at hopen
      exact hwindow hopen
  | .tick none => exact Iff.rfl
  | .calculateMaxBit _ _ _ => exact Iff.rfl
  | .setTimeInterval _ _ => exact Iff.rfl
  | .setisIncreased _ => exact Iff.rfl
  | .setisSelected _ => exact Iff.rfl

/-- **Holds in time.**  In every run, at all ticks the holds are requested in time and the MAC is
released as it should be, exactly when all express windows come as they have been announced and the
entries that announce them are long enough; and a MAC that preempts takes the holds at the times for
which they are requested. -/
theorem holds_iff {mac : Option PreemptMac} {xml : GateScheduleXml} {s0 : HoldSystem}
    {es : List GateEvent} (hhold : cfg.enableHoldAndRelease = true)
    (hstart : HoldSystem.start cfg mac xml = .ok s0) (hrun : Lib.run (step cfg) s0 es = .ok s) :
    (Lib.Meets (step cfg) (HoldInTime cfg) s0 es ↔ Lib.Meets (step cfg) (AsAnnounced cfg) s0 es) ∧
      ∀ (macCfg : MacConfig) (m : EtherMac) (delay : SimTime),
        macCfg.enablePreemptingFrames = true → m.HoldTakesEffect macCfg delay :=
  ⟨Lib.meets_iff_of_run (kept_step hhold) (holdInTime_iff hhold) (kept_start hhold hstart) hrun,
    fun macCfg m delay henable => EtherMac.holdTakesEffect henable m delay⟩

end

/-- a gate for preemptable and one for express frames, at 100 Mbit/s and a clock of one microsecond -/
def twoGates : GateConfig :=
  { GateConfig.plain with
    transmissionGates := [⟨0, false⟩, ⟨1, true⟩]
    enableHoldAndRelease := true }

/-- the hold advance is 124 bit times -/
def preemptable (onHold : Bool) : PreemptMac := ⟨onHold, 124 / 100000000⟩

/-- 60 us of preemptable frames before an express window of 40 us -/
def longWindows : GateScheduleXml := ⟨some (1 / 10000), none, [⟨6 / 100000, 1⟩, ⟨4 / 100000, 2⟩]⟩

def fourTicks : List GateEvent := List.replicate 4 (.tick (some (preemptable true)))

/-- two rounds: the hold is requested at 0 and 100 us, and the MAC is released at 100 us -/
theorem holds_longWindows : ∃ s0 s,
    HoldSystem.start twoGates (some (preemptable false)) longWindows = .ok s0 ∧
    Lib.run (step twoGates) s0 fourTicks = .ok s ∧
    Lib.Meets (step twoGates) (HoldInTime twoGates) s0 fourTicks := by
  obtain ⟨s0, hstart, hok, hannounced⟩ : ∃ s0,
      HoldSystem.start twoGates (some (preemptable false)) longWindows = .ok s0 ∧
      (Lib.run (step twoGates) s0 fourTicks).isOk = true ∧
      Lib.Meets (step twoGates) (AsAnnounced twoGates) s0 fourTicks :=
    exists_of_any (by decide +kernel)
  obtain ⟨s, hrun⟩ := exists_of_isOk hok
  exact ⟨s0, s, hstart, hrun, (holds_iff rfl hstart hrun).1.mpr hannounced⟩

/-- an entry of a microsecond before an express window -/
def shortEntry : GateScheduleXml := ⟨some (1 / 10000), none, [⟨1 / 1000000, 1⟩, ⟨99 / 1000000, 2⟩]⟩

/-- the end of the cycle cuts the second entry after 60 us -/
def cutEntry : GateScheduleXml := ⟨some (1 / 10000), none, [⟨4 / 100000, 2⟩, ⟨1 / 10000, 1⟩]⟩

/-- **Holds that fail.**  The first tick of `shortEntry` calls `hold` with -240 ns, which a MAC that
preempts refuses; at 40 us the second tick of `cutEntry` requests the hold for 138.76 us, and the
express window opens at 100 us. -/
theorem holds_late :
    (∃ s, HoldSystem.start twoGates (some (preemptable false)) shortEntry = .ok s ∧
      (∃ gc ap, s.gates.gc.updateSchedule twoGates (some (preemptable false)) 0 = .ok (gc, ap) ∧
        ap.hold = some (-24 / 100000000)) ∧
      ¬ s.HoldInTime twoGates (.tick (some (preemptable false)))) ∧
    (∀ (macCfg : MacConfig) (m : EtherMac), macCfg.enablePreemptingFrames = true →
      m.hold macCfg (-24 / 100000000) = .error (.assertion "t >= simTime()")) ∧
    ∃ s, (HoldSystem.start twoGates (some (preemptable false)) cutEntry).bind (fun s =>
        Lib.run (step twoGates) s [.tick (some (preemptable true)), .tick (some (preemptable true))])
          = .ok s ∧
      s.gates.pendingTick = some (1 / 10000) ∧
      s.lastTick = some ⟨4 / 100000, preemptable true, some (9876 / 100000000)⟩ ∧
      ¬ s.HoldInTime twoGates (.tick (some (preemptable false))) := by
  refine ⟨?_, fun macCfg m henable => (EtherMac.holdTakesEffect henable m _).past (by norm_num), ?_⟩
  · obtain ⟨s, hs, hp, hhold⟩ : ∃ s,
        HoldSystem.start twoGates (some (preemptable false)) shortEntry = .ok s ∧
        s.gates.pendingTick = some 0 ∧
        (s.gates.gc.updateSchedule twoGates (some (preemptable false)) 0).map (fun r => r.2.hold)
          = .ok (some (-24 / 100000000)) := exists_of_any (by decide +kernel)
    obtain ⟨⟨gc, ap⟩, hu, hap⟩ := map_ok.mp hhold
    refine ⟨s, hs, ⟨gc, ap, hu, hap⟩, fun h => ?_⟩
    have := (h 0 gc ap hp hu).1 _ hap
    norm_num at this
  · obtain ⟨s, hs, hp, hlast, hwindow⟩ : ∃ s,
        (HoldSystem.start twoGates (some (preemptable false)) cutEntry).bind (fun s =>
          Lib.run (step twoGates) s
            [.tick (some (preemptable true)), .tick (some (preemptable true))]) = .ok s ∧
        s.gates.pendingTick = some (1 / 10000) ∧
        s.lastTick = some ⟨4 / 100000, preemptable true, some (9876 / 100000000)⟩ ∧
        (s.gates.gc.updateSchedule twoGates (some (preemptable false)) (1 / 10000)).map
          (fun r => r.2.bitvector) = .ok 2 := exists_of_any (by decide +kernel)
    obtain ⟨⟨gc, ap⟩, hu, hap⟩ := map_ok.mp hwindow
    refine ⟨s, hs, hp, hlast, fun h => ?_⟩
    have hopen : someExpressGateOpen twoGates ap.bitvector = true := by
      rw [show ap.bitvector = 2 from hap]
      decide
    obtain ⟨delay, hdelay, -, hle⟩ := ((h _ gc ap hp hu).2.2 hopen).2 _ hlast
    cases hdelay
    rcases le_max_iff.mp hle with hle | hle
    · norm_num at hle
    · norm_num [preemptable] at hle

end HoldSystem
end Nesting
