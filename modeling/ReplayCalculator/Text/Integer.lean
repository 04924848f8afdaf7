import ReplayCalculator.Text.Blank
import ReplayCalculator.Text.DecimalDigit

/-!
# Reading whole numbers

A whole number is an optional sign and decimal digits of any script, with at most one underscore
between any two of them; blanks may surround it. It has a limited number of digits, zeros in front
included, so that reading it takes no unreasonable time. The limit is noticed before anything that
follows the digits.
-/

namespace ReplayCalculator.Text

/-- The number of digits that a whole number may have. -/
def digitLimit : Nat := 4300

/-- Why a text is no whole number. -/
inductive IntegerError
  | malformed
  | tooLong (digits : Nat)
  deriving DecidableEq, Repr

/-- Digits that were read: how many there are, the number they make, and what follows them. -/
structure Digits where
  count : Nat
  value : Nat
  rest : List Char
  deriving DecidableEq, Repr

/-- Reads the digits that follow `count` digits with the value `value`. An underscore has to stand
between two digits. -/
def readDigitsFrom? (count value : Nat) : List Char → Option Digits
  | [] => some ⟨count, value, []⟩
  | '_' :: c :: rest =>
    (digitValue? c).bind fun d => readDigitsFrom? (count + 1) (10 * value + d) rest
  | c :: rest =>
    match digitValue? c with
    | some d => readDigitsFrom? (count + 1) (10 * value + d) rest
    | none => if c = '_' then none else some ⟨count, value, c :: rest⟩

/-- Reads the digits in front of a text, at least one. -/
def readDigits? : List Char → Option Digits
  | [] => none
  | c :: rest => (digitValue? c).bind (readDigitsFrom? 1 · rest)

/-- Reads a whole number without a sign. -/
def readUnsigned (cs : List Char) : Except IntegerError Nat :=
  match readDigits? cs with
  | none => .error .malformed
  | some digits =>
    if digitLimit < digits.count then .error (.tooLong digits.count)
    else if digits.rest.isEmpty then .ok digits.value
    else .error .malformed

/-- Reads a whole number with its sign. -/
def readSigned : List Char → Except IntegerError Int
  | '+' :: cs => (readUnsigned cs).map Int.ofNat
  | '-' :: cs => (readUnsigned cs).map fun n => -(n : Int)
  | cs => (readUnsigned cs).map Int.ofNat

/-- The whole number that a text stands for. -/
def readInteger (text : String) : Except IntegerError Int :=
  readSigned (trim isBlank text.toList)

end ReplayCalculator.Text
