import ReplayCalculator.Decimal.Basic

/-!
# The shortest decimal of a binary64 number

Of all decimals that read back as a given number, the one with the fewest digits, and of those the
nearest to the number; an exact tie goes to the even last digit.

A grid of decimals with one exponent has two points next to a number, one on either side. If any
point of the grid reads back, one of those two does, because the numbers that round to one rank
form an interval. So `onGrid?` looks at these two alone, the nearer one first, and `shortest` takes
the first grid, from one digit upwards, on which it finds a point. Seventeen digits are always
enough; the exact decimal stands behind them so that the result reads back in any case.

* `rank_of_onGrid?`: a point that is found reads back.
-/

namespace ReplayCalculator.Decimal

/-- The decimal point of a finite rank: its magnitude is at least `10 ^ (pointOf - 1)` and below
`10 ^ pointOf`. From one upwards the digits of the whole part count the places; below one those of
the reciprocal do, since no power of ten below one is a binary number. -/
def pointOf (rank : Nat) : Int :=
  let u := Binary64.units rank
  if Binary64.unitsPerOne ≤ u then (digitChars (u / Binary64.unitsPerOne)).length
  else 1 - (digitChars (Binary64.unitsPerOne / u)).length

/-- The point next to the magnitude of `rank` on the grid of multiples of `10 ^ exponent` that reads
back as `rank`, if there is one: the nearer neighbour or else the other. -/
def onGrid? (rank : Nat) (exponent : Int) : Option Decimal :=
  let num := Binary64.units rank * powTen (-exponent).toNat
  let den := Binary64.unitsPerOne * powTen exponent.toNat
  let low := num / den
  let near := roundHalfEven num den
  let far := low + (low + 1) - near
  [Decimal.mk near exponent, Decimal.mk far exponent].find? (·.rank = rank)

theorem rank_of_onGrid? {rank : Nat} {exponent : Int} {d : Decimal}
    (h : onGrid? rank exponent = some d) : d.rank = rank := by
  have := List.find?_some h
  simpa using this

/-- The magnitude of a finite rank as a decimal, with all its digits. -/
def exact (rank : Nat) : Decimal := ⟨Binary64.units rank * Nat.pow 5 1074, -1074⟩

/-- The shortest decimal that reads back as `rank`. -/
def shortest (rank : Nat) : Decimal :=
  if rank = 0 then ⟨0, 0⟩
  else
    ((List.range' 1 17).findSome? fun (n : Nat) =>
      onGrid? rank (pointOf rank - n)).getD (exact rank)

/-! ### Writing decimals -/

/-- How decimals are written: those with a decimal exponent from `lowest` up to, but not including,
`highest` have their digits around a point, and all others have an exponent of at least `width`
digits. -/
structure Layout where
  lowest : Int
  highest : Int
  width : Nat
  deriving Repr

/-- A row of significant digits with the decimal point `point` places after its start, and at least
one digit on either side of it. -/
def positional (ds : List Char) (point : Int) : List Char :=
  if point ≤ 0 then
    '0' :: '.' :: (List.replicate (-point).toNat '0' ++ ds)
  else
    let whole := ds.take point.toNat
    let fraction := ds.drop point.toNat
    whole ++ List.replicate (point.toNat - whole.length) '0' ++
      '.' :: (if fraction.isEmpty then ['0'] else fraction)

/-- An exponent with its sign, at least `width` digits long. -/
def exponentPart (width : Nat) (e : Int) : List Char :=
  'e' :: (if e < 0 then '-' else '+') :: padded width (digitChars e.natAbs)

/-- A row of significant digits with one of them before the point. -/
def scientific (width : Nat) (ds : List Char) (e : Int) : List Char :=
  ds.take 1 ++ (if ds.length ≤ 1 then [] else '.' :: ds.drop 1) ++ exponentPart width e

/-- The decimal in the given layout. -/
def write (layout : Layout) (d : Decimal) : List Char :=
  let ds := dropTrailingZeros (digitChars d.digits)
  let e := d.point - 1
  if layout.lowest ≤ e ∧ e < layout.highest then positional ds d.point
  else scientific layout.width ds e

end ReplayCalculator.Decimal
