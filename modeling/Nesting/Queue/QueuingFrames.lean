import Nesting.Relay.VlanEncap

/-!
# QueuingFrames

A frame goes to a queue by the priority in its VLAN tag.

* `standardTrafficClassMapping`   a row for each number of queues;
* `handleMessage`                 the queue of a frame;
* `handleMessage_iff`             the priorities that have one: the check lets 8 pass, which has none;
* `trafficClass_of_more`          more queues do not bring priorities together.
-/

set_option linter.unusedVariables false

namespace Nesting

def kDefaultPCPValue : Nat := 0
def kNumberOfPCPValues : Nat := 8

def standardTrafficClassMapping : List (List Nat) :=
  [[0, 0, 0, 0, 0, 0, 0, 0],
   [0, 0, 0, 0, 1, 1, 1, 1],
   [0, 0, 0, 0, 1, 1, 2, 2],
   [0, 0, 1, 1, 2, 2, 3, 3],
   [0, 0, 1, 1, 2, 2, 3, 4],
   [1, 0, 2, 2, 3, 3, 4, 5],
   [1, 0, 2, 3, 4, 4, 5, 6],
   [0, 1, 2, 3, 4, 5, 6, 7]]

structure QueuingFrames where
  numberOfQueues : Nat
  vlanTagType : VlanTagType
  valid : 1 ≤ numberOfQueues ∧ numberOfQueues ≤ kNumberOfPCPValues

namespace QueuingFrames

/-- `initialize`, with the size of the gate vector `out` and the parameter `vlanTagType` -/
def initializeQueues (gateSize : Nat) (vlanTagType : String) : Sim QueuingFrames :=
  if h : 1 ≤ gateSize ∧ gateSize ≤ kNumberOfPCPValues then
    if vlanTagType = "c" then .ok ⟨gateSize, .c, h⟩
    else if vlanTagType = "s" then .ok ⟨gateSize, .s, h⟩
    else .error (.assertion "par(\"vlanTagType\").stdstringValue() == \"s\"")
  else .error (.runtimeError
    "Invalid assignment of numberOfQueues. Number of queues should not be bigger than the number of all possible pcp values!")

/-- the priority of a frame, the default one without a tag -/
def pcpValue (vlanTagType : VlanTagType) (frame : EthernetMacHeader) : Nat :=
  match frame.tag vlanTagType with
  | none => kDefaultPCPValue
  | some qHeader => qHeader.pcp.toNat

/-- an entry of the table -/
def trafficClass (numberOfQueues pcpValue : Nat) : Option Nat :=
  standardTrafficClassMapping[numberOfQueues - 1]?.bind fun row => row[pcpValue]?

/-- the index of the gate that the frame is sent to -/
def handleMessage (q : QueuingFrames) (frame : EthernetMacHeader) : Sim Nat :=
  if pcpValue q.vlanTagType frame > kNumberOfPCPValues then .error (.runtimeError
    "Invalid assignment of PCP value. The value of PCP should not be bigger than the number of supported queues.")
  else match trafficClass q.numberOfQueues (pcpValue q.vlanTagType frame) with
    | some queueIndex => .ok queueIndex
    | none => .error (.undefinedBehaviour "standardTrafficClassMapping[numberOfQueues - 1][pcpValue]")

/-! ## the table -/

theorem trafficClass_lt {n p : Nat} (h1 : 1 ≤ n) (h8 : n ≤ kNumberOfPCPValues)
    (hp : p < kNumberOfPCPValues) : ∃ i < n, trafficClass n p = some i := by
  have htable : ∀ n < 9, 1 ≤ n → ∀ p < 8, ∃ i < n, trafficClass n p = some i := by decide
  exact htable n (Nat.lt_succ_of_le h8) h1 p hp

theorem trafficClass_none {n p : Nat} (hp : kNumberOfPCPValues ≤ p) : trafficClass n p = none := by
  have hrows : ∀ row ∈ standardTrafficClassMapping, row.length = kNumberOfPCPValues := by decide
  unfold trafficClass
  cases hrow : standardTrafficClassMapping[n - 1]? with
  | none => rfl
  | some row =>
    refine List.getElem?_eq_none ?_
    rw [hrows row (List.mem_of_getElem? hrow)]
    exact hp

/-- with more queues, priorities that share one share it with fewer queues as well -/
theorem trafficClass_of_more {n m p p' : Nat} (h1 : 1 ≤ n) (hnm : n ≤ m) (h8 : m ≤ kNumberOfPCPValues)
    (hp : p < kNumberOfPCPValues) (hp' : p' < kNumberOfPCPValues)
    (h : trafficClass m p = trafficClass m p') : trafficClass n p = trafficClass n p' := by
  have htable : ∀ m n : Fin 9, 1 ≤ n.val → n ≤ m → ∀ p p' : Fin 8,
      trafficClass m p = trafficClass m p' → trafficClass n p = trafficClass n p' := by
    decide +kernel
  exact htable ⟨m, Nat.lt_succ_of_le h8⟩ ⟨n, Nat.lt_succ_of_le (hnm.trans h8)⟩ h1 hnm ⟨p, hp⟩ ⟨p', hp'⟩ h

/-- a higher priority never goes to a lower queue, but for the two lowest with six or seven queues -/
theorem trafficClass_mono {n p p' : Nat} (h1 : 1 ≤ n) (h8 : n ≤ kNumberOfPCPValues) (hpp : p ≤ p')
    (hp : p' < kNumberOfPCPValues) (hlow : p = 0 → p' = 1 → n ≠ 6 ∧ n ≠ 7) {i j : Nat}
    (hi : trafficClass n p = some i) (hj : trafficClass n p' = some j) : i ≤ j := by
  have htable : ∀ n : Fin 9, 1 ≤ n.val → ∀ p p' : Fin 8, p ≤ p' →
      (p.val = 0 → p'.val = 1 → n.val ≠ 6 ∧ n.val ≠ 7) →
      (trafficClass n p).getD 0 ≤ (trafficClass n p').getD 0 := by decide +kernel
  have hle := htable ⟨n, Nat.lt_succ_of_le h8⟩ h1 ⟨p, hpp.trans_lt hp⟩ ⟨p', hp⟩ hpp hlow
  rwa [hi, hj] at hle

/-! ## frames -/

/-- **A frame comes to a queue** exactly when its priority is below 8; 8 passes the check and is outside
of the table. -/
theorem handleMessage_iff (q : QueuingFrames) (frame : EthernetMacHeader) :
    (∃ i < q.numberOfQueues, q.handleMessage frame = .ok i) ↔
      pcpValue q.vlanTagType frame < kNumberOfPCPValues := by
  unfold handleMessage
  constructor
  · rintro ⟨i, -, h⟩
    split at h
    · cases h
    · by_contra hge
      rw [trafficClass_none (not_lt.mp hge)] at h
      cases h
  · intro hlt
    obtain ⟨i, hi, he⟩ := trafficClass_lt q.valid.1 q.valid.2 hlt
    refine ⟨i, hi, ?_⟩
    rw [if_neg (not_lt.mpr hlt.le), he]

theorem handleMessage_lt {q : QueuingFrames} {frame : EthernetMacHeader} {i : Nat}
    (h : q.handleMessage frame = .ok i) : i < q.numberOfQueues := by
  have hlt : pcpValue q.vlanTagType frame < kNumberOfPCPValues := by
    by_contra hge
    unfold handleMessage at h
    rw [trafficClass_none (not_lt.mp hge)] at h
    split at h <;> cases h
  obtain ⟨j, hj, he⟩ := (handleMessage_iff q frame).mpr hlt
  cases he.symm.trans h
  exact hj

end QueuingFrames

end Nesting
