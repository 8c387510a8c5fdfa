import Mathlib.Data.Prod.Lex
import Mathlib.Tactic.FieldSimp
import Nesting.Common.Sim
import Nesting.Lib.OrderedQueue
import Nesting.Lib.Run

/-!
# IdealOscillator

The oscillator counts ticks lazily, from the time since its last update, and keeps the subscribed
ticks in order.  One self-message is due at the first of them.

* `updateAndGetTickCount`, `scheduleNextTick`   the count, and the self-message;
* `subscribeTick`, `unsubscribeTick`, `unsubscribeTicks`, `setFrequency`   the calls;
* `handleMessage`, `handled`   a tick is delivered; between the two the listener makes its calls;
* `step`         these, and time going on, in any order.

Times are exact, and ticks are counted without a bound.
-/

set_option linter.unusedVariables false

namespace Nesting

/-- `OscillatorBase::TickImpl`; listeners and objects are numbered -/
structure Tick where
  object : Nat
  listener : Nat
  tick : Nat
  kind : Nat
  globalSchedulingTime : SimTime
  deriving DecidableEq, Repr

namespace Tick

open Lib

/-- `operator<` -/
def lt (a b : Tick) : Bool :=
  if a.tick < b.tick then true
  else if a.tick = b.tick then
    if a.kind < b.kind then true
    else if a.kind = b.kind then decide (a.listener < b.listener)
    else false
  else false

abbrev Key := ℕ ×ₗ ℕ ×ₗ ℕ

def mkKey (tick kind listener : Nat) : Key := toLex (tick, toLex (kind, listener))

/-- what `operator<` and `operator==` go by -/
def key (a : Tick) : Key := mkKey a.tick a.kind a.listener

theorem mkKey_lt {t k l t' k' l' : Nat} : mkKey t k l < mkKey t' k' l' ↔
    t < t' ∨ t = t' ∧ (k < k' ∨ k = k' ∧ l < l') := by
  unfold mkKey
  rw [Prod.Lex.toLex_lt_toLex, Prod.Lex.toLex_lt_toLex]

theorem key_eq {a b : Tick} :
    a.key = b.key ↔ a.tick = b.tick ∧ a.kind = b.kind ∧ a.listener = b.listener := by
  unfold key mkKey
  rw [toLex_inj, Prod.mk.injEq, toLex_inj, Prod.mk.injEq]

theorem lt_iff {a b : Tick} : a.lt b = true ↔ a.key < b.key := lexLt_iff

/-- events come in the order of their ticks -/
theorem tick_le_of_key_lt {a b : Tick} (h : a.key < b.key) : a.tick ≤ b.tick := by
  unfold key at h
  rw [mkKey_lt] at h
  omega

end Tick

structure Oscillator where
  /-- `simTime()` -/
  time : SimTime
  tickEventNow : Bool
  frequency : ℚ
  lastTick : Nat
  timeOfLastTick : SimTime
  scheduledEvents : List Tick
  /-- the time for which the self-message is scheduled -/
  tickMessage : Option SimTime
  /-- the number of objects that were made -/
  objects : Nat
  /-- what was inserted, removed and delivered, for an observer -/
  subscribed : List Tick
  unsubscribed : List Tick
  delivered : List (Tick × SimTime)
  deriving DecidableEq

namespace Oscillator

open Lib

/-- the checks of `initialize` -/
def initializeOscillator (frequency : ℚ) : Sim Oscillator :=
  if frequency < 0 then .error (.runtimeError "Frequency parameter must be positive.")
  else if frequency = 0 then .error (.runtimeError "Frequency parameter must not be zero.")
  else .ok ⟨0, false, frequency, 0, 0, [], none, 0, [], [], []⟩

variable {s s' : Oscillator}

/-! ## the count of ticks -/

def tickInterval (s : Oscillator) : Sim SimTime :=
  if s.frequency = 0 then .error (.runtimeError "division by zero") else .ok (1 / s.frequency)

def globalTimeFromTick (s : Oscillator) (tick : Nat) : Sim SimTime := do
  ASSERT (decide (tick ≥ s.lastTick)) "tick >= lastTick"
  let interval ← s.tickInterval
  return s.timeOfLastTick + (tick - s.lastTick : Nat) * interval

def tickFromGlobalTime (s : Oscillator) (globalTime : SimTime) : Sim Nat := do
  ASSERT (decide (globalTime ≥ s.timeOfLastTick)) "globalTime >= timeOfLastTick"
  let interval ← s.tickInterval
  let elapsedTicks := ⌊(globalTime - s.timeOfLastTick) / interval⌋
  if elapsedTicks < 0 then .error (.undefinedBehaviour "uint64_t elapsedTicks")
  else return s.lastTick + elapsedTicks.toNat

/-- the last assertion, which compares the count with itself, is left out -/
def updateAndGetTickCount (s : Oscillator) : Sim (Nat × Oscillator) := do
  let currentTick ← s.tickFromGlobalTime s.time
  if s.lastTick ≠ currentTick then
    let t ← s.globalTimeFromTick currentTick
    let again ← s.tickFromGlobalTime t
    ASSERT (decide (again = currentTick)) "tickFromGlobalTime(globalTimeFromTick(currentTick)) == currentTick"
    return (currentTick, { s with timeOfLastTick := t, lastTick := currentTick })
  else return (currentTick, s)

def scheduleNextTick (s : Oscillator) : Sim Oscillator :=
  match s.scheduledEvents with
  | [] => .ok { s with tickMessage := none }
  | nextTickEvent :: _ => do
    let (currentTick, s) ← { s with tickMessage := none }.updateAndGetTickCount
    ASSERT (decide (nextTickEvent.tick ≥ currentTick)) "nextScheduledTick >= currentTick"
    ASSERT (decide (s.time ≤ nextTickEvent.globalSchedulingTime)) "t >= simTime()"
    return { s with tickMessage := some nextTickEvent.globalSchedulingTime }

/-! ## calls -/

/-- the subscribed object, new or pending -/
def subscribeTick (s : Oscillator) (listener idleTicks kind : Nat) : Sim (Tick × Oscillator) := do
  let (currentTick, s) ← s.updateAndGetTickCount
  let globalSchedulingTime ← s.globalTimeFromTick (currentTick + idleTicks)
  let tickEvent : Tick := ⟨s.objects, listener, currentTick + idleTicks, kind, globalSchedulingTime⟩
  match lookup Tick.key tickEvent.key s.scheduledEvents with
  | some pending => do
    let s ← { s with objects := s.objects + 1 }.scheduleNextTick
    return (pending, s)
  | none => do
    let s ← { s with
      objects := s.objects + 1
      scheduledEvents := insertAt Tick.key tickEvent s.scheduledEvents
      subscribed := s.subscribed ++ [tickEvent] }.scheduleNextTick
    return (tickEvent, s)

def unsubscribeTick (s : Oscillator) (listener tick kind : Nat) : Sim Oscillator :=
  let k := Tick.mkKey tick kind listener
  { s with
    scheduledEvents := removeAt Tick.key k s.scheduledEvents
    unsubscribed := s.unsubscribed ++ (lookup Tick.key k s.scheduledEvents).toList }.scheduleNextTick

/-- `std::remove_if` and `erase` -/
def removeIf (s : Oscillator) (removeCondition : Tick → Bool) : Sim Oscillator :=
  { s with
    scheduledEvents := s.scheduledEvents.filter fun e => !removeCondition e
    unsubscribed := s.unsubscribed ++ s.scheduledEvents.filter removeCondition }.scheduleNextTick

/-- `unsubscribeTicks(listener, kind)` -/
def unsubscribeTicksOfKind (s : Oscillator) (listener kind : Nat) : Sim Oscillator :=
  s.removeIf fun e => e.listener == listener && e.kind == kind

def unsubscribeTicks (s : Oscillator) (listener : Nat) : Sim Oscillator :=
  s.removeIf fun e => e.listener == listener

/-- new scheduling times for the events of a list -/
def reschedule (s : Oscillator) : List Tick → Sim (List Tick)
  | [] => .ok []
  | e :: es => do
    let globalSchedulingTime ← s.globalTimeFromTick e.tick
    let es ← s.reschedule es
    return { e with globalSchedulingTime } :: es

/-- `setFrequency`, before the listeners to configuration changes are notified -/
def setFrequency (s : Oscillator) (newFrequency : ℚ) : Sim Oscillator := do
  let (_, s) ← { s with frequency := newFrequency }.updateAndGetTickCount
  let scheduledEvents ← s.reschedule s.scheduledEvents
  { s with scheduledEvents }.scheduleNextTick

/-! ## the self-message -/

/-- the first half of `handleMessage`, up to the call of `onTick`, and the event it is called with -/
def handleMessage (s : Oscillator) : Sim (Tick × Oscillator) :=
  match s.scheduledEvents with
  | [] => .error (.assertion "!scheduledEvents.empty()")
  | tickEvent :: rest => do
    ASSERT (decide (s.lastTick ≤ tickEvent.tick)) "lastTick <= tickEvent->getTick()"
    ASSERT (decide (s.timeOfLastTick ≤ s.time)) "timeOfLastTick <= simTime()"
    return (tickEvent, { s with
      tickEventNow := true
      tickMessage := none
      scheduledEvents := rest
      timeOfLastTick := if s.lastTick < tickEvent.tick then s.time else s.timeOfLastTick
      lastTick := if s.lastTick < tickEvent.tick then tickEvent.tick else s.lastTick
      delivered := s.delivered ++ [(tickEvent, s.time)] })

/-- the second half, after `onTick` -/
def handled (s : Oscillator) : Sim Oscillator := do
  let s ← s.scheduleNextTick
  return { s with tickEventNow := false }

end Oscillator

inductive OscillatorEvent where
  /-- time goes on, up to the self-message -/
  | advance (t : SimTime)
  | handleMessage
  | handled
  | updateAndGetTickCount
  | subscribeTick (listener idleTicks kind : Nat)
  | unsubscribeTick (listener tick kind : Nat)
  | unsubscribeTicksOfKind (listener kind : Nat)
  | unsubscribeTicks (listener : Nat)
  | setFrequency (newFrequency : ℚ)
  deriving DecidableEq

namespace Oscillator

open Lib

variable {s s' : Oscillator}

/-- the call of an event that is one -/
def call (s : Oscillator) : OscillatorEvent → Sim Oscillator
  | .updateAndGetTickCount => Prod.snd <$> s.updateAndGetTickCount
  | .subscribeTick listener idleTicks kind => Prod.snd <$> s.subscribeTick listener idleTicks kind
  | .unsubscribeTick listener tick kind => s.unsubscribeTick listener tick kind
  | .unsubscribeTicksOfKind listener kind => s.unsubscribeTicksOfKind listener kind
  | .unsubscribeTicks listener => s.unsubscribeTicks listener
  | .setFrequency newFrequency => s.setFrequency newFrequency
  | _ => .error (.assertion "not a call")

/-- nothing is due before `t` -/
def CanAdvance (s : Oscillator) (t : SimTime) : Prop :=
  s.tickEventNow = false ∧ s.time ≤ t ∧ ∀ m ∈ s.tickMessage, t ≤ m

instance (s : Oscillator) (t : SimTime) : Decidable (s.CanAdvance t) :=
  inferInstanceAs (Decidable (_ ∧ _ ∧ _))

def step (s : Oscillator) : OscillatorEvent → Sim Oscillator
  | .advance t =>
    if s.CanAdvance t then .ok { s with time := t } else .error (.assertion "an event is due")
  | .handleMessage =>
    if s.tickEventNow = false ∧ s.tickMessage = some s.time then Prod.snd <$> s.handleMessage
    else .error (.assertion "the message is not due")
  | .handled =>
    if s.tickEventNow then s.handled else .error (.assertion "no message is handled")
  | e => s.call e

end Oscillator

end Nesting
