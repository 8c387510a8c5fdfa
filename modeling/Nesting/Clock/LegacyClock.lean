import Nesting.Clock.RealtimeClock
import Nesting.Lib.Subscriptions

/-!
# LegacyClock

The clock subscribes one tick of its oscillator for all listeners that wait for it with one kind, and
keeps the listeners in a table under the object of the tick.

* `subscribeTick`, `unsubscribeTicks`, `getTime`   the calls of listeners;
* `onTick`      the listeners of a tick are copied;
* `tick`        one of them is called; it makes its calls before the next one;
* `handled`     the tick is erased from the table, and the oscillator goes on;
* `step`        these, the calls of other modules, and time going on.
-/

set_option linter.unusedVariables false

namespace Nesting

open Lib

structure LegacyClock where
  oscillator : Oscillator
  lastTick : Nat
  time : SimTime
  tickToListenerTable : List (Tick × List Nat)
  /-- the loop of `onTick`: its tick, and the listeners that are still to be called -/
  listeners : Option (Tick × List Nat)
  /-- what happens to subscriptions, for an observer; a slot is a tick count with a kind -/
  notices : List (Notice Nat (Nat × Nat))
  deriving DecidableEq

namespace LegacyClock

variable {s s' : LegacyClock}

/-- the clock among the listeners of its oscillator -/
def self : Nat := RealtimeClock.self

/-- `initialize`, with an oscillator that was not used before -/
def initializeClock (frequency : ℚ) : Sim LegacyClock := do
  let oscillator ← Oscillator.initializeOscillator frequency
  return ⟨oscillator, 0, 0, [], none, []⟩

/-! ## the time -/

def getClockRate (s : LegacyClock) : Sim SimTime :=
  if s.oscillator.frequency = 0 then .error (.runtimeError "division by zero")
  else .ok (1 / s.oscillator.frequency)

def getTime (s : LegacyClock) : Sim (SimTime × LegacyClock) := do
  let (currentTick, oscillator) ← s.oscillator.updateAndGetTickCount
  if currentTick < s.lastTick then .error (.undefinedBehaviour "uint64_t idleTicks")
  else
    let idleTicks := currentTick - s.lastTick
    let rate ← s.getClockRate
    let time := s.time + idleTicks * rate
    return (time, { s with oscillator, time, lastTick := s.lastTick + idleTicks })

/-! ## the table -/

/-- `tickToListenerTable[tick]`; objects are told apart by their numbers -/
def listenersOf (table : List (Tick × List Nat)) (tick : Tick) : List Nat :=
  ((table.find? fun entry => entry.1.object = tick.object).map Prod.snd).getD []

/-- `tickToListenerTable[tick].insert(listener)` -/
def insertListener (tick : Tick) (listener : Nat) : List (Tick × List Nat) → List (Tick × List Nat)
  | [] => [(tick, [listener])]
  | entry :: table =>
    if entry.1.object = tick.object then
      (entry.1, if listener ∈ entry.2 then entry.2 else listener :: entry.2) :: table
    else entry :: insertListener tick listener table

/-- `tickToListenerTable.erase(tick)` -/
def eraseTick (tick : Tick) (table : List (Tick × List Nat)) : List (Tick × List Nat) :=
  table.filter fun entry => entry.1.object ≠ tick.object

/-! ## calls -/

def subscribeTick (s : LegacyClock) (listener idleTicks kind : Nat) : Sim LegacyClock := do
  let (tick, oscillator) ← s.oscillator.subscribeTick self idleTicks kind
  return { s with
    oscillator
    tickToListenerTable := insertListener tick listener s.tickToListenerTable
    notices := s.notices ++ [.subscribed listener (tick.tick, kind)] }

/-- the loop of `unsubscribeTicks`; the table that is left, and the oscillator -/
def unsubscribeEach (listener : Nat) (oscillator : Oscillator) :
    List (Tick × List Nat) → Sim (List (Tick × List Nat) × Oscillator)
  | [] => .ok ([], oscillator)
  | entry :: table =>
    if listener ∈ entry.2 then do
      let oscillator ← oscillator.unsubscribeTick self entry.1.tick entry.1.kind
      let (table, oscillator) ← unsubscribeEach listener oscillator table
      return ((entry.1, entry.2.filter (· ≠ listener)) :: table, oscillator)
    else do
      let (table, oscillator) ← unsubscribeEach listener oscillator table
      return (entry :: table, oscillator)

def unsubscribeTicks (s : LegacyClock) (listener : Nat) : Sim LegacyClock := do
  let (table, oscillator) ← unsubscribeEach listener s.oscillator s.tickToListenerTable
  return { s with
    oscillator
    tickToListenerTable := table
    notices := s.notices ++ [.unsubscribed listener] }

/-! ## ticks -/

/-- up to the loop -/
def onTick (s : LegacyClock) (tick : Tick) : LegacyClock :=
  { s with
    listeners := some (tick, listenersOf s.tickToListenerTable tick)
    notices := s.notices ++ [.begun (s.oscillator.lastTick, tick.kind)] }

/-- the oscillator handles its self-message and calls `onTick` of a listener -/
def handleMessage (s : LegacyClock) : Sim LegacyClock := do
  let (tickEvent, oscillator) ← s.oscillator.handleMessage
  let s := { s with oscillator }
  if tickEvent.listener = self then return s.onTick tickEvent else return s

/-- one round of the loop; the set is passed in any order -/
def tick (s : LegacyClock) (listener : Nat) : Sim LegacyClock :=
  match s.listeners with
  | none => .error (.assertion "no loop")
  | some (tick, listeners) =>
    if listener ∈ listeners then
      .ok { s with
        listeners := some (tick, listeners.erase listener)
        notices := s.notices ++ [.called listener (s.oscillator.lastTick, tick.kind)] }
    else .error (.assertion "not a listener of the tick")

/-- after the loop, if it was the clock that was called -/
def handled (s : LegacyClock) : Sim LegacyClock := do
  let oscillator ← s.oscillator.handled
  match s.listeners with
  | none => return { s with oscillator }
  | some (tick, _) =>
    return { s with
      oscillator
      listeners := none
      tickToListenerTable := eraseTick tick s.tickToListenerTable
      notices := s.notices ++ [.finished] }

end LegacyClock

inductive LegacyEvent where
  /-- time goes on, up to the self-message of the oscillator -/
  | advance (t : SimTime)
  | handleMessage
  | tick (listener : Nat)
  | handled
  | getTime
  | subscribeTick (listener idleTicks kind : Nat)
  | unsubscribeTicks (listener : Nat)
  /-- a call of the oscillator by other modules -/
  | oscillator (e : OscillatorEvent)
  deriving DecidableEq

namespace LegacyClock

open RealtimeClock (Foreign)

def step (s : LegacyClock) : LegacyEvent → Sim LegacyClock
  | .advance t =>
    if s.oscillator.CanAdvance t then .ok { s with oscillator := { s.oscillator with time := t } }
    else .error (.assertion "an event is due")
  | .handleMessage =>
    if s.oscillator.tickEventNow = false ∧ s.oscillator.tickMessage = some s.oscillator.time then
      s.handleMessage
    else .error (.assertion "the message is not due")
  | .tick listener => s.tick listener
  | .handled =>
    if s.oscillator.tickEventNow = true ∧ s.listeners.all (fun l => l.2.isEmpty) then s.handled
    else .error (.assertion "the handling goes on")
  | .getTime => Prod.snd <$> s.getTime
  | .subscribeTick listener idleTicks kind => s.subscribeTick listener idleTicks kind
  | .unsubscribeTicks listener => s.unsubscribeTicks listener
  | .oscillator e =>
    if Foreign e then do
      let oscillator ← s.oscillator.call e
      return { s with oscillator }
    else .error (.assertion "not a call of another module")

end LegacyClock

end Nesting
