import Nesting.Common.Sim
import Nesting.Ieee8021q

/-!
# LengthAwareQueue

A buffer of limited capacity that tells whether its first packet fits into a number of bits, and
releases it then.
-/

set_option linter.unusedVariables false

namespace Nesting

structure LengthAwareQueue where
  /-- the bit lengths of the stored packets, the front first -/
  queue : List Nat
  availableBufferCapacity : Nat
  deriving DecidableEq

namespace LengthAwareQueue

def isEmpty (q : LengthAwareQueue) (maxBits : Nat) : Bool :=
  match q.queue with
  | [] => true
  | bitLength :: _ => decide (bitLength + preambleSize > maxBits)

def enqueue (q : LengthAwareQueue) (bitLength : Nat) : LengthAwareQueue :=
  if q.availableBufferCapacity ≥ bitLength then
    ⟨q.queue ++ [bitLength], q.availableBufferCapacity - bitLength⟩
  else q

/-- the released packet and the rest -/
def handleRequestPacketEvent (q : LengthAwareQueue) (maxBits : Nat) :
    Sim (Nat × LengthAwareQueue) := do
    ASSERT (!q.isEmpty maxBits) "!isEmpty(maxBits)"
    match q.queue with
    | [] => .error (.undefinedBehaviour "packetToSend->getTreeId()")
    | bitLength :: rest => .ok (bitLength, ⟨rest, q.availableBufferCapacity + bitLength⟩)

/-- a released packet fits with its preamble -/
theorem handleRequestPacketEvent_ok {q q' : LengthAwareQueue} {maxBits bitLength : Nat}
    (h : q.handleRequestPacketEvent maxBits = .ok (bitLength, q')) :
    bitLength + preambleSize ≤ maxBits := by
  obtain ⟨u, hne, h⟩ := bind_ok.mp h
  have hne := ASSERT_ok.mp hne
  unfold isEmpty at hne
  cases hq : q.queue with
  | nil =>
    rw [hq] at h
    cases h
  | cons b rest =>
    rw [hq] at h hne
    cases h
    simpa using hne

end LengthAwareQueue

end Nesting
