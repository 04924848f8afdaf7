import ReplayCalculator.Decimal.Fixed
import ReplayCalculator.Decimal.Shortest

/-!
# The two texts of a number

A calculator shows numbers to people and records them for replay, and these ask for different
texts. `Number.shown` is for people: at most six decimals, no exponent, no zero that says nothing.
`Number.exact` is for the record: the shortest text that still tells the number from all others.
-/

namespace ReplayCalculator.Number

open Binary64 (Datum datum)

/-- Shown numbers have at most six decimals. -/
def maxFractionDigits : Nat := 6

/-- Exact numbers from `0.0001` up to, but not including, `1e16` are written around a point; the
exponents of all others have at least two digits. -/
def exactLayout : Decimal.Layout := ⟨-4, 16, 2⟩

/-- The sign of a number in front of its digits. -/
def signed (negative : Bool) (ds : List Char) : String :=
  String.ofList (if negative then '-' :: ds else ds)

/-- The number rounded to six decimals. A number that is rounded to zero has no sign. -/
def shown (v : Float) : String :=
  match datum v with
  | .notANumber => "NaN"
  | .infinite negative => signed negative ['∞']
  | .finite negative rank =>
    let n := Decimal.placesOf maxFractionDigits rank
    signed (negative && n != 0) (Decimal.fixedDigits maxFractionDigits n)

/-- The shortest text that reads back as the number. -/
def exact (v : Float) : String :=
  match datum v with
  | .notANumber => "nan"
  | .infinite negative => signed negative ['i', 'n', 'f']
  | .finite negative rank =>
    signed negative ((Decimal.shortest rank).write exactLayout)

end ReplayCalculator.Number
