import Nesting.Clock.Subscriber
import Nesting.Gating.System
import Nesting.Lib.Simulation

/-!
# The gate controller on a clock

The controller, the clock it listens to among others, and the message by which it leaves the call of the
clock.  Ticks come as the oscillator delivers them.

* `step`            the clock and its other listeners, and the controller, in any order;
* `gateEvents`      what a step is for the controller whose clock delivers on time;
* `OnClock`         the two agree, and the tick of the one is the subscription of the other;
* `gates_on_clock`  **the controller on the clock is the controller with its exact ticks.**
-/

set_option linter.unusedVariables false

namespace Nesting

open Lib

structure ClockedGates where
  clock : LegacyClock
  gc : GateController
  /-- the time for which `updateScheduleMsg` is scheduled -/
  updateScheduleMsg : Option SimTime
  /-- what `updateSchedule` has applied, and the time of the simulation -/
  trace : List (SimTime × GateBitvector)
  deriving DecidableEq

inductive ClockedEvent where
  /-- time goes on, the oscillator, and the calls of other listeners -/
  | clock (e : LegacyEvent)
  /-- the clock calls the controller -/
  | tick
  /-- `updateScheduleMsg` arrives -/
  | handleMessage (mac : Option PreemptMac)
  | calculateMaxBit (fuel gateIndex : Nat)
  | setTimeInterval (index : Nat) (t : SimTime)
  | setisIncreased (b : Bool)
  | setisSelected (b : Bool)
  deriving DecidableEq

/-- the ticks are periods of this frequency -/
def GateConfig.on (cfg : GateConfig) (frequency : ℚ) : GateConfig :=
  { cfg with clockRate := 1 / frequency }

namespace ClockedGates

variable {cfg : GateConfig} {gate : Nat} {f : ℚ} {clock : LegacyClock} {s s' : ClockedGates}
  {g : GateSystem}

/-- `initialize`, with a clock that may have other listeners already -/
def start (cfg : GateConfig) (gate : Nat) (clock : LegacyClock) (xml : GateScheduleXml) :
    Sim ClockedGates := do
  let clockRate ← clock.getClockRate
  let (gc, idle) ←
    GateController.initializeLinkLayer { cfg with clockRate } xml clock.oscillator.time
  let idleTicks ← toUnsigned idle
  let clock ← clock.subscribeTick gate idleTicks 0
  return { clock, gc, updateScheduleMsg := none, trace := [] }

/-- `tick`: the update is left to a message of the same time -/
def tick (gate : Nat) (s : ClockedGates) : Sim ClockedGates := do
  let clock ← s.clock.tick gate
  ASSERT s.updateScheduleMsg.isNone "!msg->isScheduled()"
  return { s with clock, updateScheduleMsg := some clock.oscillator.time }

/-- `handleMessage` and `updateSchedule`; a schedule without entries is applied without the clock -/
def handleMessage (cfg : GateConfig) (gate : Nat) (mac : Option PreemptMac) (s : ClockedGates) :
    Sim ClockedGates := do
  let clockRate ← s.clock.getClockRate
  let (now, clock) ← s.clock.getTime
  let (gc, ap) ← GateController.updateSchedule { cfg with clockRate } mac now s.gc
  let clock ← match ap.idleTicks with
    | some idle => do
      let idleTicks ← toUnsigned idle
      clock.subscribeTick gate idleTicks 0
    | none => pure s.clock
  return {
    clock
    gc
    updateScheduleMsg := none
    trace := s.trace ++ [(s.clock.oscillator.time, ap.bitvector)] }

/-- what goes on without the controller; time stops at its message -/
def Leaves (gate : Nat) (s : ClockedGates) (e : LegacyEvent) : Prop :=
  LegacyClock.Aside gate e ∧
    match e with
    | .advance t => ∀ m ∈ s.updateScheduleMsg, t ≤ m
    | _ => True

instance (gate : Nat) (s : ClockedGates) (e : LegacyEvent) : Decidable (s.Leaves gate e) :=
  match e with
  | .advance t => inferInstanceAs (Decidable (_ ∧ ∀ m ∈ s.updateScheduleMsg, t ≤ m))
  | .handleMessage | .tick _ | .handled | .getTime | .subscribeTick .. | .unsubscribeTicks _ |
    .oscillator _ => inferInstanceAs (Decidable (_ ∧ True))

def step (cfg : GateConfig) (gate : Nat) (s : ClockedGates) : ClockedEvent → Sim ClockedGates
  | .clock e =>
    if s.Leaves gate e then do
      let clock ← s.clock.step e
      return { s with clock }
    else .error (.assertion "the controller takes part")
  | .tick => s.tick gate
  | .handleMessage mac =>
    if s.clock.oscillator.tickEventNow = false ∧
        s.updateScheduleMsg = some s.clock.oscillator.time then
      s.handleMessage cfg gate mac
    else .error (.assertion "the message is not due")
  | .calculateMaxBit fuel gateIndex =>
    -- without a rate the time is not asked for
    if cfg.transmitRate ≤ 0 then .ok s
    else do
      let (now, clock) ← s.clock.getTime
      let (_, gc) ← s.gc.calculateMaxBit cfg fuel now gateIndex
      return { s with clock, gc }
  | .setTimeInterval index t => do
    let newSchedule ← s.gc.newSchedule.setTimeInterval index t
    return { s with gc := { s.gc with newSchedule } }
  | .setisIncreased b => .ok { s with gc := { s.gc with isIncreased := b } }
  | .setisSelected b => .ok { s with gc := { s.gc with isSelected := b } }

/-! ## the controller with exact ticks -/

/-- what the clock tells -/
def now (s : ClockedGates) : SimTime :=
  match s.clock.getTime with
  | .ok (t, _) => t
  | .error _ => 0

/-- a step, as the controller sees it -/
def gateEvents (s : ClockedGates) : ClockedEvent → List GateEvent
  | .clock _ | .tick => []
  | .handleMessage mac => [.tick mac]
  | .calculateMaxBit fuel gateIndex => [.calculateMaxBit fuel s.now gateIndex]
  | .setTimeInterval index t => [.setTimeInterval index t]
  | .setisIncreased b => [.setisIncreased b]
  | .setisSelected b => [.setisSelected b]

/-- the other listeners are careful -/
def Careful (s : ClockedGates) (e : ClockedEvent) : Prop :=
  match e with
  | .clock e => s.clock.Careful e
  | .tick | .handleMessage _ | .calculateMaxBit .. | .setTimeInterval .. | .setisIncreased _ |
    .setisSelected _ => True

instance (s : ClockedGates) (e : ClockedEvent) : Decidable (s.Careful e) :=
  match e with
  | .clock e => inferInstanceAs (Decidable (s.clock.Careful e))
  | .tick | .handleMessage _ | .calculateMaxBit .. | .setTimeInterval .. | .setisIncreased _ |
    .setisSelected _ => inferInstanceAs (Decidable True)

/-- the tick of which the clock, or the message, will tell -/
def Awaits (f : ℚ) (gate : Nat) (s : ClockedGates) : Option SimTime → Prop
  | none => s.updateScheduleMsg = none ∧ LegacyClock.Subscriber f gate none s.clock
  | some t => ∃ n : ℕ, t = n / f ∧
      (s.updateScheduleMsg = none ∧ LegacyClock.Subscriber f gate (some (n, 0)) s.clock ∨
        s.updateScheduleMsg = some t ∧ s.clock.oscillator.time = t ∧
          LegacyClock.Subscriber f gate none s.clock)

structure OnClock (f : ℚ) (gate : Nat) (s : ClockedGates) (g : GateSystem) : Prop where
  gc : g.gc = s.gc
  trace : g.trace = s.trace
  awaits : s.Awaits f gate g.pendingTick

/-! ## a step -/

/-- the subscription of the clock is the one with exact ticks -/
theorem subscribeTick_on (cfg : GateConfig) (f : ℚ) (n : ℕ) {k : ℕ} {idle : ℚ}
    (h : toUnsigned idle = .ok k) :
    GateSystem.subscribeTick (cfg.on f) (n / f) idle = .ok (((n + k : ℕ) : ℚ) / f) := by
  unfold GateSystem.subscribeTick GateConfig.on
  rw [h, Nat.cast_add, add_div, ← mul_one_div (k : ℚ) f]
  rfl

/-- the clock may go on -/
theorem Awaits.of_clock {o : Option SimTime} (h : s.Awaits f gate o)
    (hc : ∀ slot, LegacyClock.Subscriber f gate slot s.clock → LegacyClock.Subscriber f gate slot clock)
    (ht : ∀ m ∈ s.updateScheduleMsg, m = s.clock.oscillator.time → clock.oscillator.time = m) :
    { s with clock }.Awaits f gate o := by
  cases o with
  | none => exact ⟨h.1, hc _ h.2⟩
  | some t =>
    obtain ⟨n, hn, h | h⟩ := h
    · exact ⟨n, hn, .inl ⟨h.1, hc _ h.2⟩⟩
    · exact ⟨n, hn, .inr ⟨h.1, ht t h.1 h.2.1.symm, hc _ h.2.2⟩⟩

theorem Awaits.subscriber {o : Option SimTime} (h : s.Awaits f gate o) :
    ∃ slot, LegacyClock.Subscriber f gate slot s.clock := by
  cases o with
  | none => exact ⟨_, h.2⟩
  | some t =>
    obtain ⟨n, _, h | h⟩ := h
    · exact ⟨_, h.2⟩
    · exact ⟨_, h.2.2⟩

/-- the time does not pass the tick -/
theorem Awaits.ahead {t : SimTime} (h : s.Awaits f gate (some t)) : s.clock.oscillator.time ≤ t := by
  obtain ⟨n, rfl, h | h⟩ := h
  · exact h.2.ahead
  · exact h.2.1.le

/-- **what goes on without the controller** is nothing to it -/
theorem awaits_clock {o : Option SimTime} (h : s.Awaits f gate o) {e : LegacyEvent}
    (hl : s.Leaves gate e) (hc : s.clock.Careful e) (hs : s.clock.step e = .ok clock) :
    { s with clock }.Awaits f gate o := by
  obtain ⟨slot, htab⟩ := h.subscriber
  refine h.of_clock (fun slot hslot => LegacyClock.subscriber_step hslot hl.1 hc hs) ?_
  rintro m hm rfl
  obtain ht | ⟨t, rfl, hle, ht⟩ := LegacyClock.step_time htab.tabled hs
  · exact ht
  · exact ht.trans (le_antisymm (hl.2 _ hm) hle)

/-- **The clock calls** for the tick that is awaited, and the message takes it over. -/
theorem awaits_tick {o : Option SimTime} (h : s.Awaits f gate o) (hs : s.tick gate = .ok s') :
    s'.gc = s.gc ∧ s'.trace = s.trace ∧ s'.Awaits f gate o := by
  obtain ⟨clock, hclock, hs⟩ := bind_ok.mp hs
  obtain ⟨_, _, hs⟩ := bind_ok.mp hs
  cases hs
  refine ⟨rfl, rfl, ?_⟩
  cases o with
  | none =>
    obtain ⟨n, kind, hslot, _⟩ := LegacyClock.subscriber_tick h.2 hclock
    cases hslot
  | some t =>
    obtain ⟨n, rfl, h | h⟩ := h
    · obtain ⟨n', kind, hslot, htime, hsub, hsame⟩ := LegacyClock.subscriber_tick h.2 hclock
      cases hslot
      have ht : clock.oscillator.time = n / f := hsame.trans htime
      exact ⟨n, rfl, .inr ⟨congrArg some ht, ht, hsub⟩⟩
    · obtain ⟨n', kind, hslot, _⟩ := LegacyClock.subscriber_tick h.2.2 hclock
      cases hslot

/-- **The message** is the exact tick. -/
theorem onClock_handleMessage (h : OnClock f gate s g) {mac : Option PreemptMac}
    (hmsg : s.updateScheduleMsg = some s.clock.oscillator.time)
    (hs : s.handleMessage cfg gate mac = .ok s') :
    ∃ g', g.step (cfg.on f) (.tick mac) = .ok g' ∧ OnClock f gate s' g' := by
  obtain ⟨t, hpend, n, rfl, hnow, hsub⟩ : ∃ t, g.pendingTick = some t ∧ ∃ n : ℕ, t = n / f ∧
      s.clock.oscillator.time = t ∧ LegacyClock.Subscriber f gate none s.clock := by
    have hawaits := h.awaits
    cases hp : g.pendingTick with
    | none =>
      rw [hp] at hawaits
      rw [hawaits.1] at hmsg
      cases hmsg
    | some t =>
      rw [hp] at hawaits
      obtain ⟨n, hn, ha | ha⟩ := hawaits
      · rw [ha.1] at hmsg
        cases hmsg
      · exact ⟨t, rfl, n, hn, ha.2⟩
  have hrate := hsub.getClockRate
  obtain ⟨rate, hrate', hs⟩ := bind_ok.mp hs
  cases hrate.symm.trans hrate'
  obtain ⟨⟨now, clock⟩, htime, hs⟩ := bind_ok.mp hs
  obtain ⟨hlocal, hsub', hsame⟩ := LegacyClock.subscriber_getTime hsub htime
  rw [hnow, hsub.floor_tick] at hlocal
  obtain ⟨⟨gc, ap⟩, hupdate, hs⟩ := bind_ok.mp hs
  dsimp only at hs hupdate
  rw [hlocal, ← h.gc] at hupdate
  -- the exact tick succeeds if its subscription does
  have hgo : ∀ p, GateSystem.subscribeNext (cfg.on f) (n / f) ap.idleTicks = .ok p →
      g.step (cfg.on f) (.tick mac) =
        .ok ⟨gc, p, g.trace ++ [((n : ℚ) / f, ap.bitvector)]⟩ := by
    intro p hp
    dsimp only [GateSystem.step]
    rw [hpend]
    exact bind_ok.mpr ⟨(gc, ap), hupdate, bind_ok.mpr ⟨p, hp, rfl⟩⟩
  rw [h.trace, ← hnow] at hgo
  cases hidle : ap.idleTicks with
  | none =>
    rw [hidle] at hs hgo
    cases hs
    exact ⟨_, hgo none rfl, rfl, rfl, rfl, hsub⟩
  | some idle =>
    rw [hidle] at hs hgo
    obtain ⟨k, hk, hs⟩ := bind_ok.mp hs
    obtain ⟨clock', hclock, hs⟩ := bind_ok.mp hs
    cases hs
    obtain ⟨hsub'', _⟩ := LegacyClock.subscriber_subscribeTick hsub' hclock
    rw [hsame, hnow, hsub.floor_tick] at hsub''
    have hon := subscribeTick_on cfg f n hk
    rw [← hnow] at hon
    exact ⟨_, hgo _ (map_ok.mpr ⟨_, hon, rfl⟩), rfl, rfl, _, rfl, .inl ⟨rfl, hsub''⟩⟩

theorem onClock_calculateMaxBit (h : OnClock f gate s g) {fuel gateIndex : Nat}
    (hs : s.step cfg gate (.calculateMaxBit fuel gateIndex) = .ok s') :
    ∃ g', g.step (cfg.on f) (.calculateMaxBit fuel s.now gateIndex) = .ok g' ∧
      OnClock f gate s' g' := by
  rw [step] at hs
  split at hs
  · rename_i hrate
    cases hs
    refine ⟨g, bind_ok.mpr ⟨(0, g.gc), if_pos hrate, rfl⟩, h⟩
  · obtain ⟨⟨now, clock⟩, htime, hs⟩ := bind_ok.mp hs
    obtain ⟨⟨n, gc⟩, hlook, hs⟩ := bind_ok.mp hs
    cases hs
    have hnow : s.now = now := by
      unfold ClockedGates.now
      rw [htime]
    refine ⟨{ g with gc }, bind_ok.mpr ⟨(n, gc), ?_, rfl⟩, rfl, h.trace, ?_⟩
    · rw [h.gc, hnow]
      exact hlook
    · refine h.awaits.of_clock (fun slot hslot => (LegacyClock.subscriber_getTime hslot htime).2.1) ?_
      rintro m hm rfl
      obtain ⟨slot, hslot⟩ := h.awaits.subscriber
      exact (LegacyClock.subscriber_getTime hslot htime).2.2

theorem onClock_step {e : ClockedEvent} (h : OnClock f gate s g) (hc : s.Careful e)
    (hs : s.step cfg gate e = .ok s') :
    ∃ g', run (GateSystem.step (cfg.on f)) g (s.gateEvents e) = .ok g' ∧ OnClock f gate s' g' := by
  have hone : ∀ {e : GateEvent} {s' : ClockedGates},
      (∃ g', g.step (cfg.on f) e = .ok g' ∧ OnClock f gate s' g') →
      ∃ g', run (GateSystem.step (cfg.on f)) g [e] = .ok g' ∧ OnClock f gate s' g' := by
    rintro e s' ⟨g', hg, h'⟩
    exact ⟨g', run_cons_ok.mpr ⟨g', hg, rfl⟩, h'⟩
  cases e with
  | clock e =>
    rw [step] at hs
    split at hs
    · rename_i hl
      obtain ⟨clock, hclock, hs⟩ := bind_ok.mp hs
      cases hs
      exact ⟨g, rfl, h.gc, h.trace, awaits_clock h.awaits hl hc hclock⟩
    · cases hs
  | tick =>
    obtain ⟨hgc, htrace, hawaits⟩ := awaits_tick h.awaits hs
    exact ⟨g, rfl, h.gc.trans hgc.symm, h.trace.trans htrace.symm, hawaits⟩
  | handleMessage mac =>
    apply hone
    rw [step] at hs
    split at hs
    · rename_i hdue
      exact onClock_handleMessage h hdue.2 hs
    · cases hs
  | calculateMaxBit fuel gateIndex => exact hone (onClock_calculateMaxBit h hs)
  | setTimeInterval index t =>
    apply hone
    obtain ⟨newSchedule, hset, hs⟩ := bind_ok.mp hs
    cases hs
    refine ⟨{ g with gc := { g.gc with newSchedule } }, bind_ok.mpr ⟨newSchedule, ?_, rfl⟩, ?_,
      h.trace, h.awaits⟩
    · rw [h.gc]
      exact hset
    · rw [h.gc]
  | setisIncreased b =>
    apply hone
    cases hs
    refine ⟨_, rfl, ?_, h.trace, h.awaits⟩
    dsimp only
    rw [h.gc]
  | setisSelected b =>
    apply hone
    cases hs
    refine ⟨_, rfl, ?_, h.trace, h.awaits⟩
    dsimp only
    rw [h.gc]

/-! ## runs -/

/-- the clock has served others, and the time is still 0 -/
theorem onClock_start {xml : GateScheduleXml} (hsub : LegacyClock.Subscriber f gate none clock)
    (h0 : clock.oscillator.time = 0) (hs : start cfg gate clock xml = .ok s) :
    ∃ g, GateSystem.start (cfg.on f) xml = .ok g ∧ OnClock f gate s g := by
  have hrate := hsub.getClockRate
  obtain ⟨rate, hrate', hs⟩ := bind_ok.mp hs
  cases hrate.symm.trans hrate'
  obtain ⟨⟨gc, idle⟩, hinit, hs⟩ := bind_ok.mp hs
  obtain ⟨k, hk, hs⟩ := bind_ok.mp hs
  obtain ⟨clock', hclock, hs⟩ := bind_ok.mp hs
  cases hs
  rw [h0] at hinit
  obtain ⟨hsub', _⟩ := LegacyClock.subscriber_subscribeTick hsub hclock
  rw [h0, zero_mul, Nat.floor_zero] at hsub'
  have hon := subscribeTick_on cfg f 0 hk
  rw [Nat.cast_zero, zero_div] at hon
  exact ⟨_, bind_ok.mpr ⟨(gc, idle), hinit, bind_ok.mpr ⟨_, hon, rfl⟩⟩, rfl, rfl, 0 + k, rfl,
    .inl ⟨rfl, hsub'⟩⟩

/-- **The controller on the clock is the controller with its exact ticks**: whatever the other
listeners subscribe, and if they unsubscribe with care, `updateSchedule` runs just at the times for
which it has subscribed, and the time of the clock is then the time of the simulation. -/
theorem gates_on_clock (cfg : GateConfig) (gate : Nat) (xml : GateScheduleXml) {f : ℚ}
    {c0 clock : LegacyClock} {before : List LegacyEvent} {s0 s : ClockedGates} {es : List ClockedEvent}
    (hc0 : LegacyClock.initializeClock f = .ok c0)
    (hbefore : Meets LegacyClock.step (fun c e => c.Careful e ∧ LegacyClock.Aside gate e) c0 before)
    (hclock : run LegacyClock.step c0 before = .ok clock) (h0 : clock.oscillator.time = 0)
    (hs0 : start cfg gate clock xml = .ok s0) (hes : Meets (step cfg gate) Careful s0 es)
    (hs : run (step cfg gate) s0 es = .ok s) :
    ∃ g0 g, GateSystem.start (cfg.on f) xml = .ok g0 ∧
      run (GateSystem.step (cfg.on f)) g0 (projected (step cfg gate) gateEvents s0 es) = .ok g ∧
      g.gc = s.gc ∧ g.trace = s.trace ∧ ∀ t ∈ g.pendingTick, s.clock.oscillator.time ≤ t := by
  have hsub := LegacyClock.subscriber_run hc0 hbefore hclock
  obtain ⟨g0, hg0, h⟩ := onClock_start hsub h0 hs0
  obtain ⟨g, hg, h'⟩ := run_projected (fun s g e s' h hc hstep => onClock_step h hc hstep) h hes hs
  refine ⟨g0, g, hg0, hg, h'.gc, h'.trace, fun t ht => ?_⟩
  have hawaits := h'.awaits
  rw [show g.pendingTick = some t from ht] at hawaits
  exact hawaits.ahead

/-- listener 7 waits for the two ticks as well -/
def sharedTicks : List LegacyEvent := [.subscribeTick 7 0 0, .subscribeTick 7 4 0]

def sharedRun : List ClockedEvent :=
  [.clock .handleMessage, .clock (.tick 7), .tick, .clock .handled, .handleMessage none,
   .calculateMaxBit 10 0, .clock (.advance (4 / 100000)), .setTimeInterval 0 (3 / 100000),
   .clock .handleMessage, .tick, .clock (.tick 7), .clock .handled, .handleMessage none,
   .clock (.advance (8 / 100000))]

def sharedXml : GateScheduleXml := ⟨some (1 / 10000), none, [⟨4 / 100000, 1⟩, ⟨4 / 100000, 2⟩]⟩

/-- ten microseconds a tick -/
theorem gates_on_clock_sharedRun : ∃ c0 clock s0 s g0 g,
    LegacyClock.initializeClock 100000 = .ok c0 ∧
    run LegacyClock.step c0 sharedTicks = .ok clock ∧
    start .plain 3 clock sharedXml = .ok s0 ∧ run (step .plain 3) s0 sharedRun = .ok s ∧
    s.trace = [(0, 1), (4 / 100000, 2)] ∧
    (GateSystem.start (GateConfig.plain.on 100000) sharedXml = .ok g0 ∧
      run (GateSystem.step (GateConfig.plain.on 100000)) g0
        (projected (step .plain 3) gateEvents s0 sharedRun) = .ok g ∧
      g.gc = s.gc ∧ g.trace = s.trace ∧ ∀ t ∈ g.pendingTick, s.clock.oscillator.time ≤ t) := by
  obtain ⟨⟨c0, clock, s0, s⟩, hall, hbefore, h0, hes, htrace⟩ :
      ∃ r : LegacyClock × LegacyClock × ClockedGates × ClockedGates,
        ((LegacyClock.initializeClock 100000).bind fun c0 =>
          (run LegacyClock.step c0 sharedTicks).bind fun clock =>
            (start .plain 3 clock sharedXml).bind fun s0 =>
              (run (step .plain 3) s0 sharedRun).map fun s => (c0, clock, s0, s)) = .ok r ∧
        Meets LegacyClock.step (fun c e => c.Careful e ∧ LegacyClock.Aside 3 e) r.1 sharedTicks ∧
        r.2.1.oscillator.time = 0 ∧ Meets (step .plain 3) Careful r.2.2.1 sharedRun ∧
        r.2.2.2.trace = [(0, 1), (4 / 100000, 2)] := exists_of_any (by decide +kernel)
  obtain ⟨_, hc0, hall⟩ := bind_ok.mp hall
  obtain ⟨_, hclock, hall⟩ := bind_ok.mp hall
  obtain ⟨_, hs0, hall⟩ := bind_ok.mp hall
  obtain ⟨_, hs, hall⟩ := map_ok.mp hall
  cases hall
  obtain ⟨g0, g, hg⟩ := gates_on_clock .plain 3 _ hc0 hbefore hclock h0 hs0 hes hs
  exact ⟨c0, clock, s0, s, g0, g, hc0, hclock, hs0, hs, htrace, hg⟩

end ClockedGates

end Nesting
