import Mathlib.Data.BitVec
import Mathlib.Data.Rat.Cast.Order
import Mathlib.Tactic.NormNum

/-!
# Constants and the gate bit vector of `Ieee8021q.h`
-/

namespace Nesting

/-- `std::bitset<kMaxSupportedQueues>`; gate `g` is bit `g` -/
abbrev GateBitvector := BitVec 8

/-- `std::bitset::test` for an index below the size -/
def GateBitvector.test (b : GateBitvector) (gateIndex : Nat) : Bool := b.getLsbD gateIndex

/-- `std::bitset::set()`: every gate open -/
def GateBitvector.allOpen : GateBitvector := BitVec.allOnes 8

/-- `inet::b(kEthernet2MaximumTransmissionUnitByteLength * 8)`: the conversion of bytes to bits
multiplies by eight once more -/
def kEthernet2MaximumTransmissionUnitBitLength : Nat := 1500 * 8 * 8

theorem mtuBitLength_pos : (0 : ℚ) < kEthernet2MaximumTransmissionUnitBitLength := by
  norm_num [kEthernet2MaximumTransmissionUnitBitLength]

/-- the preamble and the start frame delimiter, as `LengthAwareQueue::isEmpty` counts them -/
def preambleSize : Nat := 8 * 8

/-- bytes -/
def kFramePreemptionMinFinalPayloadSize : Int := 60
def kFramePreemptionMinNonFinalPayloadSize : Int := 60
def INTERFRAME_GAP_BITS : Nat := 0
def PAUSE_UNIT_BITS : Nat := 512
def MIN_ETHERNET_FRAME_BYTES : Nat := 64
def MAX_ETHERNET_FRAME_BYTES : Nat := 1526

end Nesting
