import Nesting.Common.Sim

/-!
# Numbers in texts

The texts of attributes, and how the C++ library reads numbers from them.

* `atoi`           the number at the start of a text, 0 without one;
* `extractInts`    `stream >> n` as long as it succeeds;
* `number?`        the number that a text is, and `numbers?` the numbers that it lists.
-/

set_option linter.unusedVariables false

namespace Nesting

/-- in the locale "C" -/
def isspace (c : Char) : Bool := c = ' ' || ('\t' ≤ c && c ≤ '\r')

/-- whether a minus sign is at the start, and what follows the sign -/
def splitSign : List Char → Bool × List Char
  | '-' :: cs => (true, cs)
  | '+' :: cs => (false, cs)
  | cs => (false, cs)

/-- the number with these decimal digits -/
def decimal (negative : Bool) (digits : List Char) : Int :=
  let n : Nat := digits.foldl (fun n c => 10 * n + (c.toNat - '0'.toNat)) 0
  if negative then -n else n

/-- the values of an `int` -/
def IsInt (n : Int) : Prop := -2 ^ 31 ≤ n ∧ n < 2 ^ 31

instance {n : Int} : Decidable (IsInt n) := inferInstanceAs (Decidable (_ ∧ _))

/-! ## the library -/

/-- a number outside of `int` is undefined behaviour -/
def atoi (text : String) : Sim Int :=
  let word := splitSign (text.toList.dropWhile isspace)
  let n := decimal word.1 (word.2.takeWhile Char.isDigit)
  if IsInt n then .ok n else .error (.undefinedBehaviour "atoi(): not an int")

/-- `stream >> n` and what is left in the stream; `none` if it fails -/
def extractInt (stream : List Char) : Option (Int × List Char) :=
  let word := splitSign (stream.dropWhile isspace)
  let n := decimal word.1 (word.2.takeWhile Char.isDigit)
  if word.2.takeWhile Char.isDigit ≠ [] ∧ IsInt n then some (n, word.2.dropWhile Char.isDigit)
  else none

/-- the numbers until one fails, at most this many -/
def extractAtMost : Nat → List Char → List Int
  | 0, _ => []
  | fuel + 1, stream =>
    match extractInt stream with
    | none => []
    | some (n, rest) => n :: extractAtMost fuel rest

/-- `while(1) { stream >> n; if(!stream) break; ports.push_back(n); }` -/
def extractInts (text : String) : List Int := extractAtMost text.toList.length text.toList

theorem length_splitSign (cs : List Char) : (splitSign cs).2.length ≤ cs.length := by
  unfold splitSign
  split
  · exact Nat.le_succ _
  · exact Nat.le_succ _
  · exact le_rfl

/-- a number has a digit -/
theorem length_extractInt {stream rest : List Char} {n : Int}
    (h : extractInt stream = some (n, rest)) : rest.length < stream.length := by
  rw [extractInt] at h
  set cs := (splitSign (stream.dropWhile isspace)).2 with hcs
  obtain ⟨⟨hdigits, _⟩, h⟩ := Option.ite_none_right_eq_some.mp h
  obtain rfl : cs.dropWhile Char.isDigit = rest := congrArg Prod.snd (Option.some.inj h)
  have hlen : cs.length ≤ stream.length :=
    (length_splitSign _).trans (List.dropWhile_suffix isspace).length_le
  have hparts : (cs.takeWhile Char.isDigit).length + (cs.dropWhile Char.isDigit).length =
      cs.length := by
    rw [← List.length_append, List.takeWhile_append_dropWhile]
  have hpos : 0 < (cs.takeWhile Char.isDigit).length := List.length_pos_of_ne_nil hdigits
  omega

/-- **The loop ends within as many numbers as the text has characters.** -/
theorem extractAtMost_enough {stream : List Char} {fuel : Nat} (h : stream.length ≤ fuel) :
    extractAtMost (fuel + 1) stream = extractAtMost fuel stream := by
  induction fuel generalizing stream with
  | zero =>
    obtain rfl : stream = [] := List.length_eq_zero_iff.mp (Nat.le_zero.mp h)
    rfl
  | succ fuel ih =>
    rw [extractAtMost, extractAtMost]
    cases hn : extractInt stream with
    | none => rfl
    | some found =>
      obtain ⟨n, rest⟩ := found
      have hrest : rest.length < stream.length := length_extractInt hn
      show n :: _ = n :: _
      rw [ih (by omega)]

/-! ## numbers as they are written -/

/-- an optional sign and decimal digits -/
def numeral? (word : List Char) : Option Int :=
  let signed := splitSign word
  if signed.2 ≠ [] ∧ signed.2.all Char.isDigit then some (decimal signed.1 signed.2) else none

/-- the parts of a text between its spaces -/
def words (text : String) : List (List Char) :=
  (text.toList.splitOnP isspace).filter (· ≠ [])

/-- the number that a text is, with spaces around it -/
def number? (text : String) : Option Int :=
  match words text with
  | [word] => numeral? word
  | _ => none

/-- the numbers of a text that lists numbers, with spaces between them -/
def numbers? (text : String) : Option (List Int) := (words text).mapM numeral?

example : number? " 10 " = some 10 ∧ number? "0x10" = none ∧ numbers? "1 +2 -3" = some [1, 2, -3] ∧
    extractInts "1 2, 3" = [1, 2] := by decide +kernel

end Nesting
