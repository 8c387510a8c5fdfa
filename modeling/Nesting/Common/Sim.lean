import Mathlib.Data.Rat.Floor
import Mathlib.Algebra.Order.Floor.Ring
import Mathlib.Tactic.Linarith
import Mathlib.Tactic.NormNum
import Mathlib.Tactic.Positivity
import Mathlib.Tactic.FieldSimp
import Mathlib.Tactic.Ring

/-!
# Simulation time and run-time errors

`simtime_t` is an exact rational number of seconds: sums and products with a number are not
rounded; `trunc`, the conversions to integers and the quotient `timeForOneBit`, which is a
`simtime_t` again, are.  A run-time error ends the simulation; the ways it can happen are the
constructors of `SimError`.
-/

set_option linter.unusedVariables false

namespace Nesting

/-- why an event could not be handled to its end -/
inductive SimError where
  /-- `throw cRuntimeError(msg)` -/
  | runtimeError (msg : String)
  /-- an `assert` or `ASSERT` that does not hold -/
  | assertion (cond : String)
  /-- an index outside a vector, or a null pointer: undefined behaviour -/
  | undefinedBehaviour (what : String)
  /-- a loop has not ended within the iterations it was given -/
  | outOfFuel
  deriving DecidableEq, Repr

/-- the outcome of handling an event -/
abbrev Sim := Except SimError

theorem bind_ok {α β : Type} {x : Sim α} {f : α → Sim β} {b : β} :
    (x >>= f) = .ok b ↔ ∃ a, x = .ok a ∧ f a = .ok b := by
  cases x with
  | ok a => exact ⟨fun h => ⟨a, rfl, h⟩, fun ⟨_, h1, h2⟩ => by cases h1; exact h2⟩
  | error e => exact ⟨fun h => (by cases h), fun ⟨_, h1, _⟩ => by cases h1⟩

theorem map_ok {α β : Type} {x : Sim α} {f : α → β} {b : β} :
    f <$> x = .ok b ↔ ∃ a, x = .ok a ∧ f a = b := by
  cases x with
  | ok a => exact ⟨fun h => ⟨a, rfl, Except.ok.inj h⟩, fun ⟨_, h1, h2⟩ => by cases h1; exact congrArg _ h2⟩
  | error e => exact ⟨fun h => (by cases h), fun ⟨_, h1, _⟩ => by cases h1⟩

/-- the macro `ASSERT`, with the text of its condition -/
def ASSERT (c : Bool) (text : String) : Sim Unit :=
  if c then .ok () else .error (.assertion text)

theorem ASSERT_ok {c : Bool} {text : String} {u : Unit} : ASSERT c text = .ok u ↔ c = true := by
  cases c with
  | true => exact ⟨fun _ => rfl, fun _ => rfl⟩
  | false => exact ⟨fun h => (by cases h), fun h => (by cases h)⟩

theorem exists_of_isOk {α : Type} {x : Sim α} (h : x.isOk = true) : ∃ a, x = .ok a := by
  cases x with
  | ok a => exact ⟨a, rfl⟩
  | error e => cases h

/-- an outcome that a test accepts -/
theorem exists_of_any {α : Type} {p : α → Prop} [DecidablePred p] {x : Sim α}
    (h : x.toOption.any (fun a => p a) = true) : ∃ a, x = .ok a ∧ p a := by
  cases x with
  | ok a => exact ⟨a, rfl, of_decide_eq_true h⟩
  | error e => cases h

/-- the error that ends the simulation -/
def errorOf {α : Type} : Sim α → Option SimError
  | .ok _ => none
  | .error e => some e

theorem eq_error_of {α : Type} {x : Sim α} {e : SimError} (h : errorOf x = some e) :
    x = .error e := by
  cases x with
  | ok a => cases h
  | error e' => rw [Option.some.inj h]

/-- a `double` as an `unsigned`: the fraction is cut off, and what is outside of the type then is
undefined behaviour -/
def toUnsigned (x : ℚ) : Sim Nat :=
  if -1 < x ∧ x < 2 ^ 32 then .ok ⌊x⌋₊ else .error (.undefinedBehaviour "static_cast<unsigned>")

theorem toUnsigned_ok {x : ℚ} {n : Nat} : toUnsigned x = .ok n ↔ -1 < x ∧ x < 2 ^ 32 ∧ ⌊x⌋₊ = n := by
  unfold toUnsigned
  split
  · rename_i h
    exact ⟨fun hn => ⟨h.1, h.2, Except.ok.inj hn⟩, fun hn => congrArg _ hn.2.2⟩
  · rename_i h
    exact ⟨fun hn => (by cases hn), fun hn => absurd ⟨hn.1, hn.2.1⟩ h⟩

/-! ## errors that do not occur -/

/-- the outcome is not an error of the kind `E` -/
def Avoids {α : Type} (E : SimError → Prop) (r : Sim α) : Prop := ∀ x, r = .error x → ¬E x

namespace Avoids

variable {α β : Type} {E : SimError → Prop}

theorem ok (a : α) : Avoids E (.ok a : Sim α) := nofun

theorem error {x : SimError} (h : ¬E x) : Avoids E (.error x : Sim α) := by
  intro y hy
  cases hy
  exact h

theorem bind {r : Sim α} {f : α → Sim β} (hr : Avoids E r) (hf : ∀ a, r = .ok a → Avoids E (f a)) :
    Avoids E (r >>= f) := by
  cases r with
  | ok a => exact hf a rfl
  | error x => exact error (hr x rfl)

theorem assert {c : Bool} {text : String} (h : c = true) : Avoids E (ASSERT c text) := by
  rw [h]
  exact ok ()

/-- an assertion that does not count -/
theorem assertOther {c : Bool} {text : String} (h : ¬E (.assertion text)) :
    Avoids E (ASSERT c text) := by
  cases c with
  | true => exact ok ()
  | false => exact error h

end Avoids

/-- `simtime_t`, in seconds -/
abbrev SimTime := ℚ

/-- `SimTime(1, SIMTIME_US)` -/
def oneUs : SimTime := 1 / 1000000

/-- `SimTime::trunc(SIMTIME_US)`: chopped off to whole microseconds, towards zero -/
def truncUs (t : SimTime) : SimTime :=
  if 0 ≤ t then ⌊t * 1000000⌋ / 1000000 else ⌈t * 1000000⌉ / 1000000

/-- a whole number of microseconds -/
def WholeUs (t : SimTime) : Prop := ∃ n : ℤ, t = n / 1000000

/-! ## trunc -/

theorem truncUs_of_nonneg {t : SimTime} (h : 0 ≤ t) : truncUs t = ⌊t * 1000000⌋ / 1000000 :=
  if_pos h

theorem wholeUs_truncUs (t : SimTime) : WholeUs (truncUs t) := by
  unfold truncUs
  split
  · exact ⟨_, rfl⟩
  · exact ⟨_, rfl⟩

theorem truncUs_whole {t : SimTime} (h : WholeUs t) : truncUs t = t := by
  obtain ⟨n, rfl⟩ := h
  have e : (n : ℚ) / 1000000 * 1000000 = n := by field_simp
  unfold truncUs
  rw [e, Int.floor_intCast, Int.ceil_intCast, ite_self]

theorem truncUs_idem (t : SimTime) : truncUs (truncUs t) = truncUs t :=
  truncUs_whole (wholeUs_truncUs t)

@[simp] theorem truncUs_zero : truncUs 0 = 0 := truncUs_whole ⟨0, by norm_num⟩

theorem truncUs_mono {s t : SimTime} (h : s ≤ t) : truncUs s ≤ truncUs t := by
  have hst : s * 1000000 ≤ t * 1000000 := by linarith
  unfold truncUs
  split <;> split
  · have : (⌊s * 1000000⌋ : ℚ) ≤ ⌊t * 1000000⌋ := by exact_mod_cast Int.floor_le_floor hst
    linarith
  · linarith
  · rename_i hs ht
    have h1 : (⌈s * 1000000⌉ : ℚ) ≤ 0 := by
      exact_mod_cast Int.ceil_le.mpr (by push_cast; linarith)
    have h2 : (0 : ℚ) ≤ ⌊t * 1000000⌋ := by
      exact_mod_cast Int.floor_nonneg.mpr (by linarith)
    linarith
  · have : (⌈s * 1000000⌉ : ℚ) ≤ ⌈t * 1000000⌉ := by exact_mod_cast Int.ceil_le_ceil hst
    linarith

theorem truncUs_nonneg {t : SimTime} (h : 0 ≤ t) : 0 ≤ truncUs t := by
  rw [← truncUs_zero]
  exact truncUs_mono h

theorem truncUs_le {t : SimTime} (h : 0 ≤ t) : truncUs t ≤ t := by
  rw [truncUs_of_nonneg h]
  have := Int.floor_le (t * 1000000)
  linarith

theorem lt_truncUs_add {t : SimTime} (h : 0 ≤ t) : t < truncUs t + oneUs := by
  rw [truncUs_of_nonneg h]
  have := Int.lt_floor_add_one (t * 1000000)
  unfold oneUs
  linarith

/-- a whole number of microseconds below `t` is below `trunc t` -/
theorem le_truncUs {w t : SimTime} (hw : WholeUs w) (h : w ≤ t) : w ≤ truncUs t := by
  rw [← truncUs_whole hw]
  exact truncUs_mono h

/-- `trunc t` is not negative exactly when `t` is more than minus one microsecond -/
theorem truncUs_nonneg_iff {t : SimTime} : 0 ≤ truncUs t ↔ -oneUs < t := by
  unfold truncUs oneUs
  split
  · rename_i h
    have h2 : (0 : ℚ) ≤ ⌊t * 1000000⌋ := by
      exact_mod_cast Int.floor_nonneg.mpr (by linarith)
    constructor <;> intro _ <;> linarith
  · constructor
    · intro h
      have h1 : (0 : ℚ) ≤ ⌈t * 1000000⌉ := by linarith
      have h2 := Int.ceil_lt_add_one (t * 1000000)
      linarith
    · intro h
      have h1 : (-1 : ℤ) < ⌈t * 1000000⌉ := Int.lt_ceil.mpr (by push_cast; linarith)
      have h2 : (0 : ℚ) ≤ ⌈t * 1000000⌉ := by exact_mod_cast (by omega : (0:ℤ) ≤ _)
      linarith

/-! ## the time of a bit -/

/-- `SimTime(1, SIMTIME_S) / txrate`: a `simtime_t`, so it is cut to whole picoseconds -/
def timeForOneBit (txrate : ℚ) : SimTime := ⌊10 ^ 12 / txrate⌋ / 10 ^ 12

theorem timeForOneBit_pos {r : ℚ} (h : 0 < r) (hle : r ≤ 10 ^ 12) : 0 < timeForOneBit r := by
  have h1 : (1 : ℤ) ≤ ⌊10 ^ 12 / r⌋ :=
    Int.le_floor.mpr (by rw [Int.cast_one, one_le_div h]; exact hle)
  have h2 : (1 : ℚ) ≤ ⌊10 ^ 12 / r⌋ := by exact_mod_cast h1
  unfold timeForOneBit
  positivity

end Nesting
