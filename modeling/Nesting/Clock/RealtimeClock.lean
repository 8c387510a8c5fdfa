import Nesting.Clock.Oscillator

/-!
# RealtimeClock

The clock adds up the ticks of its oscillator, when it is asked for the time.  It keeps timestamps in
order and has one tick subscribed, at which the first of them is due.

* `updateAndGetLocalTime`, `scheduleNextTimestamp`   the time, and the tick;
* `subscribeTimestamp`, `subscribeDelta`, `unsubscribeTimestamp`   the calls of listeners;
* `setLocalTime`, `setClockRate`, `setDriftRate`   changes of the configuration;
* `fastForward`   one round of the loop over the timestamps that `setLocalTime` passes;
* `onTick`        a tick of the oscillator, up to the call of `onTimestamp`;
* `step`          these, the other calls of the oscillator, and time going on.

A listener makes its calls right after the step that notifies it: during `setLocalTime` until the next
`fastForward`, during a tick until the oscillator has `handled` it.
-/

set_option linter.unusedVariables false

namespace Nesting

open Lib

/-- `RealtimeClock::TimestampImpl`; listeners and objects are numbered -/
structure Timestamp where
  object : Nat
  listener : Nat
  localTime : SimTime
  kind : Nat
  deriving DecidableEq, Repr

namespace Timestamp

/-- `operator<` -/
def lt (a b : Timestamp) : Bool :=
  if a.localTime < b.localTime then true
  else if a.localTime = b.localTime then
    if a.kind < b.kind then true
    else if a.kind = b.kind then decide (a.listener < b.listener)
    else false
  else false

abbrev Key := SimTime ×ₗ ℕ ×ₗ ℕ

def mkKey (localTime : SimTime) (kind listener : Nat) : Key := toLex (localTime, toLex (kind, listener))

/-- what `operator<` and `operator==` go by -/
def key (a : Timestamp) : Key := mkKey a.localTime a.kind a.listener

theorem lt_iff {a b : Timestamp} : a.lt b = true ↔ a.key < b.key := lexLt_iff

end Timestamp

/-- the iterators of a loop in `setLocalTime`, by the objects they are at; `none` is the end -/
structure Jump where
  /-- the timestamp whose listener was notified last -/
  current : Option Nat
  bound : Option Nat
  deriving DecidableEq, Repr

structure RealtimeClock where
  oscillator : Oscillator
  localTime : SimTime
  lastTick : Nat
  driftRate : ℚ
  scheduledEvents : List Timestamp
  nextTick : Option Tick
  /-- the loops that are not yet done, the innermost first -/
  jumps : List Jump
  /-- the number of objects that were made -/
  objects : Nat
  /-- what was inserted, removed and delivered, for an observer; delivered with tick and local time -/
  subscribed : List Timestamp
  unsubscribed : List Timestamp
  delivered : List (Timestamp × Nat × SimTime)
  deriving DecidableEq

namespace RealtimeClock

variable {s s' : RealtimeClock}

/-- the clock among the listeners of its oscillator -/
def self : Nat := 0

def minEffectiveClockRate : ℚ := 1 / 1000000000000

/-- `initialize`, with an oscillator that was not used before -/
def initializeClock (frequency : ℚ) : Sim RealtimeClock := do
  let oscillator ← Oscillator.initializeOscillator frequency
  let (lastTick, oscillator) ← oscillator.updateAndGetTickCount
  return ⟨oscillator, 0, lastTick, 0, [], none, [], 0, [], [], []⟩

/-! ## the time -/

/-- `clockRate + driftRate` -/
def rate (s : RealtimeClock) : ℚ := s.oscillator.frequency + s.driftRate

def isStopped (s : RealtimeClock) : Bool := decide (s.rate < minEffectiveClockRate)

def timeIncrementPerTick (s : RealtimeClock) : Sim SimTime :=
  if s.rate = 0 then .error (.runtimeError "division by zero") else .ok (1 / s.rate)

def updateAndGetLocalTime (s : RealtimeClock) : Sim (SimTime × RealtimeClock) := do
  let (currentTick, oscillator) ← s.oscillator.updateAndGetTickCount
  if currentTick < s.lastTick then .error (.undefinedBehaviour "uint64_t elapsedTicks")
  else
    let elapsedTicks := currentTick - s.lastTick
    let increment ← s.timeIncrementPerTick
    let localTime := s.localTime + elapsedTicks * increment
    return (localTime, { s with oscillator, localTime, lastTick := s.lastTick + elapsedTicks })

/-- `static_cast<uint64_t>(std::ceil(q))` -/
def ceilTicks (q : ℚ) : Sim Nat :=
  if ⌈q⌉ < 0 then .error (.undefinedBehaviour "uint64_t idleTicks") else .ok ⌈q⌉.toNat

def cancelNextTick (s : RealtimeClock) : Sim RealtimeClock :=
  match s.nextTick with
  | none => .ok s
  | some tick => do
    let oscillator ← s.oscillator.unsubscribeTick self tick.tick tick.kind
    return { s with oscillator, nextTick := none }

def scheduleNextTimestamp (s : RealtimeClock) : Sim RealtimeClock := do
  let s ← s.cancelNextTick
  match s.scheduledEvents with
  | [] => return s
  | nextTimestamp :: _ =>
    if s.isStopped then return s
    else
      let (now, s) ← s.updateAndGetLocalTime
      let increment ← s.timeIncrementPerTick
      let idleTicks ← ceilTicks ((nextTimestamp.localTime - now) / increment)
      let (tick, oscillator) ← s.oscillator.subscribeTick self idleTicks 0
      return { s with oscillator, nextTick := some tick }

/-! ## timestamps -/

def subscribeTimestamp (s : RealtimeClock) (listener : Nat) (eventTime : SimTime) (kind : Nat) :
    Sim (Timestamp × RealtimeClock) := do
  let event : Timestamp := ⟨s.objects, listener, eventTime, kind⟩
  match lookup Timestamp.key event.key s.scheduledEvents with
  | some pending => do
    let s ← { s with objects := s.objects + 1 }.scheduleNextTimestamp
    return (pending, s)
  | none => do
    let s ← { s with
      objects := s.objects + 1
      scheduledEvents := insertAt Timestamp.key event s.scheduledEvents
      subscribed := s.subscribed ++ [event] }.scheduleNextTimestamp
    return (event, s)

def subscribeDelta (s : RealtimeClock) (listener : Nat) (delta : SimTime) (kind : Nat) :
    Sim (Timestamp × RealtimeClock) := do
  let (currentTime, s) ← s.updateAndGetLocalTime
  s.subscribeTimestamp listener (currentTime + delta) kind

def unsubscribeTimestamp (s : RealtimeClock) (listener : Nat) (localTime : SimTime) (kind : Nat) :
    Sim RealtimeClock :=
  let k := Timestamp.mkKey localTime kind listener
  { s with
    scheduledEvents := removeAt Timestamp.key k s.scheduledEvents
    unsubscribed := s.unsubscribed ++
      (lookup Timestamp.key k s.scheduledEvents).toList }.scheduleNextTimestamp

/-! ## the configuration -/

/-- up to the loop; `upper_bound` is the first timestamp after the new time -/
def setLocalTime (s : RealtimeClock) (newTime : SimTime) : RealtimeClock :=
  if s.localTime < newTime then
    { s with
      localTime := newTime
      jumps := ⟨none, (s.scheduledEvents.dropWhile fun e => e.localTime ≤ newTime).head?.map
        Timestamp.object⟩ :: s.jumps }
  else { s with localTime := newTime }

/-- where the loop goes on, if the timestamp it is at was not removed -/
def Jump.rest (j : Jump) (l : List Timestamp) : Option (List Timestamp) :=
  match j.current with
  | none => some l
  | some o =>
    match l.dropWhile fun e => e.object ≠ o with
    | [] => none
    | _ :: rest => some rest

/-- `it++`, `it != bound` and the body; after the loop its timestamps are erased -/
def fastForward (s : RealtimeClock) : Sim RealtimeClock :=
  match s.jumps with
  | [] => .error (.assertion "no loop")
  | jump :: jumps =>
    match Jump.rest jump s.scheduledEvents with
    | none => .error (.undefinedBehaviour "iterator of an erased timestamp")
    | some rest =>
      if rest.head?.map Timestamp.object = jump.bound then
        .ok { s with scheduledEvents := rest, jumps := jumps }
      else
        match rest with
        | [] => .error (.undefinedBehaviour "bound of an erased timestamp")
        | event :: _ => .ok { s with
            jumps := ⟨some event.object, jump.bound⟩ :: jumps
            delivered := s.delivered ++ [(event, s.lastTick, s.localTime)] }

/-- `setFrequency` of the oscillator, which then calls `onFrequencyChange` -/
def setClockRate (s : RealtimeClock) (clockRate : ℚ) : Sim RealtimeClock := do
  let oscillator ← s.oscillator.setFrequency clockRate
  { s with oscillator }.scheduleNextTimestamp

def setDriftRate (s : RealtimeClock) (driftRate : ℚ) : Sim RealtimeClock :=
  { s with driftRate }.scheduleNextTimestamp

/-! ## ticks -/

/-- up to the call of `onTimestamp` -/
def onTick (s : RealtimeClock) : Sim RealtimeClock :=
  match s.scheduledEvents with
  | [] => .error (.assertion "!scheduledEvents.empty()")
  | currentEvent :: rest => do
    ASSERT (decide (s.localTime ≤ currentEvent.localTime)) "localTime <= currentEvent->getLocalTime()"
    let (now, s) ← { s with scheduledEvents := rest }.updateAndGetLocalTime
    let s ← s.scheduleNextTimestamp
    return { s with delivered := s.delivered ++ [(currentEvent, s.lastTick, now)] }

/-- the oscillator handles its self-message and calls `onTick` of a listener -/
def handleMessage (s : RealtimeClock) : Sim RealtimeClock := do
  let (tickEvent, oscillator) ← s.oscillator.handleMessage
  let s := { s with oscillator }
  if tickEvent.listener = self then s.onTick else return s

def handled (s : RealtimeClock) : Sim RealtimeClock := do
  let oscillator ← s.oscillator.handled
  return { s with oscillator }

end RealtimeClock

inductive ClockEvent where
  /-- time goes on, up to the self-message of the oscillator -/
  | advance (t : SimTime)
  | handleMessage
  | handled
  | updateAndGetLocalTime
  | subscribeTimestamp (listener : Nat) (eventTime : SimTime) (kind : Nat)
  | subscribeDelta (listener : Nat) (delta : SimTime) (kind : Nat)
  | unsubscribeTimestamp (listener : Nat) (localTime : SimTime) (kind : Nat)
  | setLocalTime (newTime : SimTime)
  | fastForward
  | setClockRate (clockRate : ℚ)
  | setDriftRate (driftRate : ℚ)
  /-- a call of the oscillator by other modules -/
  | oscillator (e : OscillatorEvent)
  deriving DecidableEq

namespace RealtimeClock

variable {s s' : RealtimeClock}

/-- what other modules call; they are other listeners, and `setClockRate` is the one that sets the
frequency -/
def Foreign (e : OscillatorEvent) : Prop :=
  match e with
  | .updateAndGetTickCount => True
  | .subscribeTick listener _ _ | .unsubscribeTick listener _ _ | .unsubscribeTicksOfKind listener _ |
    .unsubscribeTicks listener => listener ≠ self
  | _ => False

instance (e : OscillatorEvent) : Decidable (Foreign e) :=
  match e with
  | .updateAndGetTickCount => inferInstanceAs (Decidable True)
  | .subscribeTick listener _ _ | .unsubscribeTick listener _ _ | .unsubscribeTicksOfKind listener _ |
    .unsubscribeTicks listener => inferInstanceAs (Decidable (listener ≠ self))
  | .advance _ | .handleMessage | .handled | .setFrequency _ => inferInstanceAs (Decidable False)

def step (s : RealtimeClock) : ClockEvent → Sim RealtimeClock
  | .advance t =>
    if s.oscillator.CanAdvance t ∧ s.jumps = [] then
      .ok { s with oscillator := { s.oscillator with time := t } }
    else .error (.assertion "an event is due")
  | .handleMessage =>
    if s.oscillator.tickEventNow = false ∧ s.oscillator.tickMessage = some s.oscillator.time ∧
        s.jumps = [] then s.handleMessage
    else .error (.assertion "the message is not due")
  | .handled =>
    if s.oscillator.tickEventNow = true ∧ s.jumps = [] then s.handled
    else .error (.assertion "no message is handled")
  | .updateAndGetLocalTime => Prod.snd <$> s.updateAndGetLocalTime
  | .subscribeTimestamp listener eventTime kind =>
    Prod.snd <$> s.subscribeTimestamp listener eventTime kind
  | .subscribeDelta listener delta kind => Prod.snd <$> s.subscribeDelta listener delta kind
  | .unsubscribeTimestamp listener localTime kind => s.unsubscribeTimestamp listener localTime kind
  | .setLocalTime newTime => .ok (s.setLocalTime newTime)
  | .fastForward => s.fastForward
  | .setClockRate clockRate => s.setClockRate clockRate
  | .setDriftRate driftRate => s.setDriftRate driftRate
  | .oscillator e =>
    if Foreign e then do
      let oscillator ← s.oscillator.call e
      return { s with oscillator }
    else .error (.assertion "not a call of another module")

end RealtimeClock

end Nesting
