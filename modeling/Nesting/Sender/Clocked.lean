import Nesting.Clock.Subscriber
import Nesting.Lib.Simulation
import Nesting.Sender.Jitter

/-!
# The scheduled sender on a clock

The sender, with jitter, and the clock it listens to among others.

* `step`             the clock and its other listeners, and the sender, in any order;
* `senderEvents`     what a step is for the sender whose clock delivers on time;
* `OnClock`          the two agree, and the tick of the one is the subscription of the other;
* `jittered_on_clock`   **the sender on the clock keeps its schedule**.
-/

set_option linter.unusedVariables false

namespace Nesting

open Lib

structure ClockedSender where
  clock : LegacyClock
  /-- its tick is subscribed at the clock, `pendingTick` is not used -/
  sender : VlanEtherTrafGenSched

inductive ClockedSenderEvent where
  /-- time goes on, the oscillator, and the calls of other listeners -/
  | clock (e : LegacyEvent)
  /-- the clock calls the sender -/
  | tick (jitter : SimTime)
  | sendDelayed (msg : SendEvent)
  deriving DecidableEq

/-- the ticks are periods of this frequency -/
def SenderConfig.on (cfg : SenderConfig) (frequency : ℚ) : SenderConfig :=
  { cfg with clockRate := 1 / frequency }

namespace ClockedSender

open VlanEtherTrafGenSched

variable {cfg : SenderConfig} {schedule : HostSchedule Ieee8021QCtrl} {listener : Nat} {f : ℚ}
  {clock : LegacyClock} {s s' : ClockedSender} {g : SenderSystem}

def subscribeTick (listener : Nat) (idle : SimTime) (s : ClockedSender) : Sim ClockedSender := do
  let clockRate ← s.clock.getClockRate
  let idleTicks ← toUnsigned (idle / clockRate)
  let clock ← s.clock.subscribeTick listener idleTicks 0
  return { clock, sender := { s.sender with idleTimes := s.sender.idleTimes ++ [idle] } }

/-- both stages of `initialize`, with a clock that may have other listeners already -/
def start (cfg : SenderConfig) (listener : Nat) (clock : LegacyClock)
    (schedule : HostSchedule Ieee8021QCtrl) : Sim ClockedSender :=
  if 0 ≤ cfg.stopTime ∧ cfg.stopTime ≤ cfg.startTime then
    .error (.runtimeError "Invalid startTime/stopTime parameters")
  else do
    let next ← (initial schedule).scheduleNextTickEvent
    subscribeTick listener (next + cfg.startTime) ⟨clock, initial schedule⟩

def tick (listener : Nat) (jitter : SimTime) (s : ClockedSender) : Sim ClockedSender := do
  let clock ← s.clock.tick listener
  if s.sender.indexSchedule = s.sender.currentSchedule.size then do
    let sender := { s.sender.loadNextSchedule with indexSchedule := 0 }
    let next ← sender.scheduleNextTickEvent
    subscribeTick listener next ⟨clock, sender⟩
  else do
    ASSERT (0 ≤ jitter) "t >= simTime()"
    let sender := { s.sender with
      sendEvents := s.sender.sendEvents ++
        [SendEvent.mk (clock.oscillator.time + jitter) s.sender.indexSchedule]
      indexSchedule := s.sender.indexSchedule + 1 }
    let next ← sender.scheduleNextTickEvent
    subscribeTick listener next ⟨clock, sender⟩

/-- what goes on without the sender; time stops at its messages -/
def Leaves (listener : Nat) (s : ClockedSender) (e : LegacyEvent) : Prop :=
  LegacyClock.Aside listener e ∧
    match e with
    | .advance t => ∀ msg ∈ s.sender.sendEvents, t ≤ msg.time
    | _ => True

instance (listener : Nat) (s : ClockedSender) (e : LegacyEvent) : Decidable (s.Leaves listener e) :=
  match e with
  | .advance t => inferInstanceAs (Decidable (_ ∧ ∀ msg ∈ s.sender.sendEvents, t ≤ msg.time))
  | .handleMessage | .tick _ | .handled | .getTime | .subscribeTick .. | .unsubscribeTicks _ |
    .oscillator _ => inferInstanceAs (Decidable (_ ∧ True))

def step (cfg : SenderConfig) (listener : Nat) (s : ClockedSender) :
    ClockedSenderEvent → Sim ClockedSender
  | .clock e =>
    if s.Leaves listener e then do
      let clock ← s.clock.step e
      return { s with clock }
    else .error (.assertion "the sender takes part")
  | .tick jitter => s.tick listener jitter
  | .sendDelayed msg =>
    if s.clock.oscillator.tickEventNow = false ∧ msg ∈ s.sender.sendEvents ∧
        msg.time = s.clock.oscillator.time then do
      let sender ← s.sender.sendDelayed cfg msg
      return { s with sender }
    else .error (.assertion "the message is not due")

/-! ## the sender with exact ticks -/

/-- a step, as the sender sees it -/
def senderEvents (s : ClockedSender) : ClockedSenderEvent → List SenderEvent
  | .clock (.advance t) => [.advance t]
  | .clock _ => []
  | .tick jitter => [.tick jitter]
  | .sendDelayed msg => [.sendDelayed msg]

/-- the other listeners are careful -/
def Careful (s : ClockedSender) (e : ClockedSenderEvent) : Prop :=
  match e with
  | .clock e => s.clock.Careful e
  | .tick _ | .sendDelayed _ => True

instance (s : ClockedSender) (e : ClockedSenderEvent) : Decidable (s.Careful e) :=
  match e with
  | .clock e => inferInstanceAs (Decidable (s.clock.Careful e))
  | .tick _ | .sendDelayed _ => inferInstanceAs (Decidable True)

/-- the clock waits with the tick that is pending, and is at the same time -/
structure OnClock (f : ℚ) (listener : Nat) (s : ClockedSender) (g : SenderSystem) : Prop where
  time : g.time = s.clock.oscillator.time
  pending : ∃ n : ℕ, g.sender = { s.sender with pendingTick := some ((n : ℚ) / f) } ∧
    LegacyClock.Subscriber f listener (some (n, 0)) s.clock

/-! ## a step -/

/-- the subscription of the clock is the one with exact ticks -/
theorem subscribeTick_on (cfg : SenderConfig) (hsub : LegacyClock.Subscriber f listener none s.clock) {n : ℕ}
    (hnow : s.clock.oscillator.time = n / f) {idle : SimTime}
    (hs : s.subscribeTick listener idle = .ok s') (p : Option SimTime) :
    s'.clock.oscillator.time = n / f ∧ ∃ m : ℕ, LegacyClock.Subscriber f listener (some (m, 0)) s'.clock ∧
      VlanEtherTrafGenSched.subscribeTick (cfg.on f) (n / f) idle { s.sender with pendingTick := p } =
        .ok { s'.sender with pendingTick := some ((m : ℚ) / f) } := by
  obtain ⟨clockRate, hrate, hs⟩ := bind_ok.mp hs
  cases hsub.getClockRate.symm.trans hrate
  obtain ⟨idleTicks, hticks, hs⟩ := bind_ok.mp hs
  obtain ⟨clock, hclock, hs⟩ := bind_ok.mp hs
  cases hs
  obtain ⟨hsub', hsame⟩ := LegacyClock.subscriber_subscribeTick hsub hclock
  rw [hnow, hsub.floor_tick] at hsub'
  refine ⟨hsame.trans hnow, n + idleTicks, hsub', bind_ok.mpr ⟨idleTicks, hticks, ?_⟩⟩
  have htime : (n : ℚ) / f + idleTicks * (1 / f) = ((n + idleTicks : ℕ) : ℚ) / f := by
    push_cast
    ring
  rw [← htime]
  rfl

theorem loadNextSchedule_pending (sender : VlanEtherTrafGenSched) (p : Option SimTime) :
    { sender with pendingTick := p }.loadNextSchedule =
      { sender.loadNextSchedule with pendingTick := p } := by
  obtain ⟨_, nextSchedule⟩ := sender
  cases nextSchedule with
  | none => rfl
  | some schedule => rfl

/-- **The clock calls** for the tick that is pending, and the sender has the next one. -/
theorem onClock_tick (h : OnClock f listener s g) {jitter : SimTime}
    (hs : s.tick listener jitter = .ok s') :
    ∃ g', g.step (cfg.on f) (.tick jitter) = .ok g' ∧ OnClock f listener s' g' := by
  obtain ⟨n, hsender, hsub⟩ := h.pending
  obtain ⟨clock, hclock, hs⟩ := bind_ok.mp hs
  obtain ⟨n', kind, hslot, hnow, hsub', hsame⟩ := LegacyClock.subscriber_tick hsub hclock
  cases hslot
  have hdue : g.sender.pendingTick = some g.time := by
    rw [hsender, h.time, hnow]
  have hnow' : clock.oscillator.time = n / f := hsame.trans hnow
  -- what the sender with exact ticks comes to
  have hgo : ∀ sender, g.sender.tick (cfg.on f) jitter = .ok sender →
      ∀ m : ℕ, sender = { s'.sender with pendingTick := some ((m : ℚ) / f) } →
      s'.clock.oscillator.time = n / f → LegacyClock.Subscriber f listener (some (m, 0)) s'.clock →
      ∃ g', g.step (cfg.on f) (.tick jitter) = .ok g' ∧ OnClock f listener s' g' := by
    intro sender htick m hm htime hslot
    refine ⟨{ g with sender }, (if_pos hdue).trans (bind_ok.mpr ⟨sender, htick, rfl⟩), ?_, m, hm, hslot⟩
    exact h.time.trans (hnow.trans htime.symm)
  rw [hsender] at hgo
  split at hs
  · rename_i hlast
    obtain ⟨next, hnext, hs⟩ := bind_ok.mp hs
    obtain ⟨htime, m, hslot, hsubscribe⟩ :=
      subscribeTick_on cfg hsub' hnow' hs (some ((n : ℚ) / f))
    refine hgo _ ?_ m rfl htime hslot
    dsimp only [VlanEtherTrafGenSched.tick]
    rw [if_pos hlast, loadNextSchedule_pending]
    exact bind_ok.mpr ⟨next, hnext, hsubscribe⟩
  · rename_i hlast
    obtain ⟨_, hassert, hs⟩ := bind_ok.mp hs
    obtain ⟨next, hnext, hs⟩ := bind_ok.mp hs
    obtain ⟨htime, m, hslot, hsubscribe⟩ :=
      subscribeTick_on cfg hsub' hnow' hs (some ((n : ℚ) / f))
    refine hgo _ ?_ m rfl htime hslot
    dsimp only [VlanEtherTrafGenSched.tick]
    rw [if_neg hlast]
    rw [hnow'] at hnext hsubscribe
    exact bind_ok.mpr ⟨(), hassert, bind_ok.mpr ⟨next, hnext, hsubscribe⟩⟩

/-- a message has nothing to do with the tick -/
theorem sendDelayed_pending {sender sender' : VlanEtherTrafGenSched} {msg : SendEvent}
    (hs : sender.sendDelayed cfg msg = .ok sender') (p : Option SimTime) :
    { sender with pendingTick := p }.sendDelayed (cfg.on f) msg =
      .ok { sender' with pendingTick := p } := by
  obtain ⟨m, hm, hs⟩ := bind_ok.mp hs
  cases hs
  refine bind_ok.mpr ⟨{ m with pendingTick := p }, ?_, rfl⟩
  unfold sendPacket at hm ⊢
  split at hm
  · rename_i hin
    obtain ⟨header, hheader, hm⟩ := bind_ok.mp hm
    obtain ⟨len, hlen, hm⟩ := bind_ok.mp hm
    rw [if_pos (show (cfg.on f).stopTime < 0 ∨ msg.time < (cfg.on f).stopTime from hin)]
    refine bind_ok.mpr ⟨header, hheader, bind_ok.mpr ⟨len, hlen, ?_⟩⟩
    dsimp only at hm ⊢
    split at hm
    · cases hm
    · rename_i hsize
      cases hm
      exact if_neg hsize
  · rename_i hin
    cases hm
    exact if_neg hin

theorem onClock_clock (h : OnClock f listener s g) {e : LegacyEvent} (hl : s.Leaves listener e)
    (hc : s.clock.Careful e) (hs : s.clock.step e = .ok clock) :
    ∃ g', run (SenderSystem.step (cfg.on f)) g (s.senderEvents (.clock e)) = .ok g' ∧
      OnClock f listener { s with clock } g' := by
  obtain ⟨n, hsender, hsub⟩ := h.pending
  have hsub' := LegacyClock.subscriber_step hsub hl.1 hc hs
  have hstay : clock.oscillator.time = s.clock.oscillator.time → OnClock f listener { s with clock } g :=
    fun ht => ⟨h.time.trans ht.symm, n, hsender, hsub'⟩
  cases e with
  | advance t =>
    have hgo : s.clock.oscillator.time ≤ t ∧ clock.oscillator.time = t := by
      rw [LegacyClock.step] at hs
      split at hs
      · rename_i ht
        cases hs
        exact ⟨ht.2.1, rfl⟩
      · cases hs
    refine ⟨{ g with time := t }, run_cons_ok.mpr ⟨_, if_pos ⟨?_, ?_, ?_⟩, rfl⟩, hgo.2.symm, n, hsender,
      hsub'⟩
    · rw [h.time]
      exact hgo.1
    · rw [hsender]
      rintro u hu
      cases hu
      exact hgo.2 ▸ hsub'.ahead
    · rw [hsender]
      exact hl.2
  | _ =>
    refine ⟨g, rfl, hstay ?_⟩
    obtain ht | ⟨t, he, _⟩ := LegacyClock.step_time hsub.tabled hs
    · exact ht
    · cases he

theorem onClock_step {e : ClockedSenderEvent} (h : OnClock f listener s g) (hc : s.Careful e)
    (hs : s.step cfg listener e = .ok s') :
    ∃ g', run (SenderSystem.step (cfg.on f)) g (s.senderEvents e) = .ok g' ∧
      OnClock f listener s' g' := by
  cases e with
  | clock e =>
    rw [step] at hs
    split at hs
    · rename_i hl
      obtain ⟨clock, hclock, hs⟩ := bind_ok.mp hs
      cases hs
      exact onClock_clock h hl hc hclock
    · cases hs
  | tick jitter =>
    obtain ⟨g', hg, h'⟩ := onClock_tick h hs
    exact ⟨g', run_cons_ok.mpr ⟨g', hg, rfl⟩, h'⟩
  | sendDelayed msg =>
    rw [step] at hs
    split at hs
    · rename_i hdue
      obtain ⟨sender, hsend, hs⟩ := bind_ok.mp hs
      cases hs
      obtain ⟨n, hsender, hsub⟩ := h.pending
      have hsend' := sendDelayed_pending (f := f) hsend (some ((n : ℚ) / f))
      rw [← hsender] at hsend'
      have hmem : msg ∈ g.sender.sendEvents := by
        rw [hsender]
        exact hdue.2.1
      refine ⟨_, run_cons_ok.mpr ⟨_, (if_pos ⟨hmem, hdue.2.2.trans h.time.symm⟩).trans
        (bind_ok.mpr ⟨_, hsend', rfl⟩), rfl⟩, h.time, n, rfl, hsub⟩
    · cases hs

/-! ## runs -/

theorem onClock_start (hsub : LegacyClock.Subscriber f listener none clock)
    (h0 : clock.oscillator.time = 0) (hs : start cfg listener clock schedule = .ok s) :
    ∃ sender, VlanEtherTrafGenSched.start (cfg.on f) schedule = .ok sender ∧
      OnClock f listener s ⟨0, sender⟩ := by
  unfold start at hs
  split at hs
  · cases hs
  · rename_i hstop
    obtain ⟨next, hnext, hs⟩ := bind_ok.mp hs
    have hzero : clock.oscillator.time = ((0 : ℕ) : ℚ) / f := by
      rw [h0]
      simp
    obtain ⟨htime, m, hslot, hsubscribe⟩ := subscribeTick_on cfg hsub hzero hs none
    have h00 : ((0 : ℕ) : ℚ) / f = 0 := by simp
    rw [h00] at hsubscribe htime
    refine ⟨_, ?_, htime.symm, m, rfl, hslot⟩
    unfold VlanEtherTrafGenSched.start
    rw [if_neg (show ¬(0 ≤ (cfg.on f).stopTime ∧ (cfg.on f).stopTime ≤ (cfg.on f).startTime) from hstop)]
    exact bind_ok.mpr ⟨next, hnext, hsubscribe⟩

/-- the jitters of the ticks -/
def jitters (es : List ClockedSenderEvent) : List SimTime :=
  es.filterMap fun e =>
    match e with
    | .tick jitter => some jitter
    | _ => none

theorem jitters_projected {es : List ClockedSenderEvent}
    (hs : run (step cfg listener) s es = .ok s') :
    SenderSystem.jitters (projected (step cfg listener) senderEvents s es) = jitters es := by
  induction es generalizing s with
  | nil => rfl
  | cons e es ih =>
    obtain ⟨m, hm, hs⟩ := run_cons_ok.mp hs
    have hone : SenderSystem.jitters (s.senderEvents e) = jitters [e] := by
      cases e with
      | clock e => cases e <;> rfl
      | tick jitter => rfl
      | sendDelayed msg => rfl
    rw [projected_cons _ hm]
    unfold SenderSystem.jitters jitters at hone ih ⊢
    rw [List.filterMap_append, hone, ih hs, ← List.filterMap_append]
    rfl

/-- **The scheduled sender on a clock**: of an orderly schedule, whatever jitter the ticks have and
whatever the other listeners subscribe, if they unsubscribe with care, the time does not pass the
next tick of the schedule, every message comes exactly once and at its time, and before the stop
time its packet is sent under the next number of its flow. -/
theorem jittered_on_clock {xml : HostElement} {c0 : LegacyClock} {before : List LegacyEvent}
    {s0 : ClockedSender} {es : List ClockedSenderEvent}
    (hxml : HostScheduleBuilder.createHostScheduleFromXML xml = .ok schedule)
    (hpos : 0 < schedule.cycle) (hcycle : Whole (cfg.on f) schedule.cycle)
    (hentries : ∀ e ∈ schedule.entries, Whole (cfg.on f) e.time) (ho : Orderly (cfg.on f) schedule)
    (hc0 : LegacyClock.initializeClock f = .ok c0)
    (hbefore : Meets LegacyClock.step (fun c e => c.Careful e ∧ LegacyClock.Aside listener e) c0 before)
    (hclock : run LegacyClock.step c0 before = .ok clock) (h0 : clock.oscillator.time = 0)
    (hs0 : start cfg listener clock schedule = .ok s0)
    (hes : Meets (step cfg listener) Careful s0 es) (hs : run (step cfg listener) s0 es = .ok s) :
    SenderSystem.Jittered (cfg.on f) schedule (jitters es) ⟨s.clock.oscillator.time, s.sender⟩ ∧
      s.clock.oscillator.time ≤
        tickTime schedule (effectiveStart (cfg.on f) schedule) (jitters es).length := by
  have hsub := LegacyClock.subscriber_run hc0 hbefore hclock
  have hrate : 0 < (cfg.on f).clockRate := one_div_pos.mpr hsub.frequency
  have hstop : ¬(0 ≤ (cfg.on f).stopTime ∧ (cfg.on f).stopTime ≤ (cfg.on f).startTime) := by
    intro hstop
    unfold start at hs0
    rw [if_pos (show 0 ≤ cfg.stopTime ∧ cfg.stopTime ≤ cfg.startTime from hstop)] at hs0
    cases hs0
  obtain ⟨_, hle⟩ := HostScheduleBuilder.createHostScheduleFromXML_ok hxml
  have hw := SenderSystem.waitable_of_orderly hrate hpos hle hcycle hentries ho
  obtain ⟨sender, hstart, hon⟩ := onClock_start hsub h0 hs0
  obtain ⟨sender', hstart', hgoing⟩ :=
    SenderSystem.going_start hrate hstop ⟨ho.first, ho.firstShort⟩
  cases hstart.symm.trans hstart'
  obtain ⟨g, hg, hong⟩ :=
    run_projected (fun s g e s' h hc hstep => onClock_step h hc hstep) hon hes hs
  have hend := SenderSystem.going_run hw hgoing hg
  rw [List.nil_append, jitters_projected hs] at hend
  obtain ⟨n, hsender, _⟩ := hong.pending
  have htime := hong.time
  obtain ⟨time, gsender⟩ := g
  obtain rfl : time = s.clock.oscillator.time := htime
  obtain rfl : gsender = { s.sender with pendingTick := some ((n : ℚ) / f) } := hsender
  refine ⟨⟨?_, hend.onTime, hend.ordered, hend.sent, fun flowId => ⟨_, hend.numbered flowId⟩⟩, hend.ahead⟩
  rw [← SenderSystem.messages_start hrate hcycle hentries ho]
  exact hend.once

/-- listener 7 waits for the first tick of the sender, and for another one -/
def sharedTicks : List LegacyEvent := [.subscribeTick 7 2 0, .subscribeTick 7 9 0]

/-- the first packet comes after the third one -/
def sharedRun : List ClockedSenderEvent :=
  [.clock (.advance (2 / 1000000)), .clock .handleMessage, .clock (.tick 7), .tick (6 / 1000000),
   .clock .handled, .clock (.advance (7 / 1000000)), .clock .handleMessage, .tick 0, .clock .handled,
   .clock .handleMessage, .tick 0, .clock .handled, .sendDelayed ⟨7 / 1000000, 2⟩,
   .sendDelayed ⟨7 / 1000000, 1⟩, .clock (.advance (8 / 1000000)), .sendDelayed ⟨8 / 1000000, 0⟩,
   .clock (.advance (9 / 1000000)), .clock .handleMessage, .clock (.tick 7), .clock .handled]

theorem jittered_on_clock_sharedRun : ∃ (schedule : HostSchedule Ieee8021QCtrl) (s : ClockedSender),
    HostScheduleBuilder.createHostScheduleFromXML SenderSystem.threePackets = .ok schedule ∧
    s.sender.triggers = [(2, 7 / 1000000), (1, 7 / 1000000), (0, 8 / 1000000)] ∧
    SenderSystem.Jittered (SenderSystem.microseconds.on 1000000) schedule (jitters sharedRun)
      ⟨s.clock.oscillator.time, s.sender⟩ ∧
    s.clock.oscillator.time ≤ tickTime schedule
      (effectiveStart (SenderSystem.microseconds.on 1000000) schedule) (jitters sharedRun).length := by
  obtain ⟨⟨schedule, c0, clock, s0, s⟩, hall, hpos, hcycle, hentries, hascending, hfirst, hfirstShort,
      hshort, hsized, hbefore, h0, hes, htriggers⟩ :
      ∃ r : HostSchedule Ieee8021QCtrl × LegacyClock × LegacyClock × ClockedSender × ClockedSender,
        ((HostScheduleBuilder.createHostScheduleFromXML SenderSystem.threePackets).bind fun schedule =>
          (LegacyClock.initializeClock 1000000).bind fun c0 =>
            (run LegacyClock.step c0 sharedTicks).bind fun clock =>
              (start SenderSystem.microseconds 3 clock schedule).bind fun s0 =>
                (run (step SenderSystem.microseconds 3) s0 sharedRun).map fun s =>
                  (schedule, c0, clock, s0, s)) = .ok r ∧
        0 < r.1.cycle ∧ r.1.cycle = (10 : ℤ) * (1 / 1000000) ∧
        (∀ e ∈ r.1.entries, e.time = (⌊e.time * 1000000⌋ : ℤ) * (1 / 1000000)) ∧
        (0 :: r.1.entries.map (·.time)).Pairwise (· ≤ ·) ∧
        0 ≤ 2 / 1000000 + due r.1 0 ∧ (2 / 1000000 + due r.1 0) / (1 / 1000000) < 2 ^ 32 ∧
        (∀ j ≤ r.1.size, gap r.1 j / (1 / 1000000) < 2 ^ 32) ∧
        (∀ e ∈ r.1.entries, 0 < e.size) ∧
        Meets LegacyClock.step (fun c e => c.Careful e ∧ LegacyClock.Aside 3 e) r.2.1 sharedTicks ∧
        r.2.2.1.oscillator.time = 0 ∧
        Meets (step SenderSystem.microseconds 3) Careful r.2.2.2.1 sharedRun ∧
        r.2.2.2.2.sender.triggers = [(2, 7 / 1000000), (1, 7 / 1000000), (0, 8 / 1000000)] :=
    exists_of_any (by decide +kernel)
  obtain ⟨_, hxml, hall⟩ := bind_ok.mp hall
  obtain ⟨_, hc0, hall⟩ := bind_ok.mp hall
  obtain ⟨_, hclock, hall⟩ := bind_ok.mp hall
  obtain ⟨_, hs0, hall⟩ := bind_ok.mp hall
  obtain ⟨_, hs, hall⟩ := map_ok.mp hall
  cases hall
  exact ⟨schedule, s, hxml, htriggers, jittered_on_clock hxml hpos ⟨_, hcycle⟩
    (fun e he => ⟨_, hentries e he⟩)
    ⟨hascending, hfirst, fun _ => ⟨2, by decide +kernel⟩, hfirstShort, hshort,
      fun e he _ => hsized e he⟩ hc0 hbefore hclock h0 hs0 hes hs⟩

end ClockedSender

end Nesting
