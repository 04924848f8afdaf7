import ReplayCalculator.Decimal.Basic

/-!
# Reading numerals

A numeral is an optional sign and then digits with at most one point among them, at least one digit
in all, and an optional exponent; or one of the words for infinity and NaN in any mix of cases. The
value is the nearest binary64 number, whatever the length of the numeral.
-/

namespace ReplayCalculator.Numeral

/-- Whether a character is one of the ten ASCII digits. -/
def isDigit (c : Char) : Bool := '0' ≤ c && c ≤ '9'

/-- The optional sign, true for minus, and what follows it. -/
def splitSign : List Char → Bool × List Char
  | '-' :: rest => (true, rest)
  | '+' :: rest => (false, rest)
  | cs => (false, cs)

/-- The exponent at the end of a numeral; no exponent is exponent zero. -/
def readExponent? : List Char → Option Int
  | [] => some 0
  | c :: rest =>
    let (negative, ds) := splitSign rest
    if (c = 'e' ∨ c = 'E') ∧ ds ≠ [] ∧ ds.all isDigit then
      let n : Int := Nat.ofDigitChars 10 ds 0
      some (if negative then -n else n)
    else none

/-- The digits after the point, if there is a point, and what follows them. -/
def splitFraction : List Char → List Char × List Char
  | '.' :: rest => (rest.takeWhile isDigit, rest.dropWhile isDigit)
  | cs => ([], cs)

/-- Digits with at most one point and an optional exponent. -/
def readDecimal? (cs : List Char) : Option Decimal :=
  let whole := cs.takeWhile isDigit
  let (fraction, rest) := splitFraction (cs.dropWhile isDigit)
  if whole = [] ∧ fraction = [] then none
  else (readExponent? rest).map fun e =>
    ⟨Nat.ofDigitChars 10 (whole ++ fraction) 0, e - fraction.length⟩

/-- The number that a numeral without its sign stands for. -/
def readUnsigned? (negative : Bool) (cs : List Char) : Option Float :=
  let word := String.ofList (cs.map Char.toLower)
  if word = "nan" then some Binary64.nan
  else if word = "inf" ∨ word = "infinity" then some (Binary64.infinity negative)
  else (readDecimal? cs).map fun d => Binary64.ofRank negative d.rank

/-- The binary64 number nearest to a numeral, or nothing if the text is none. -/
def read? (text : String) : Option Float :=
  let (negative, cs) := splitSign text.toList
  readUnsigned? negative cs

end ReplayCalculator.Numeral
