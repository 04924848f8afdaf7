import ReplayCalculator.Decimal.Rounding

/-!
# Binary64 numbers by rank

The non-negative binary64 numbers stand in increasing order, from zero through the subnormal and
the normal numbers to infinity. The *rank* of a number is its position in that order, and it is
what remains of the bit pattern without the sign. All finite numbers are whole multiples of one
unit, `2 ^ (-1074)`, so that exact statements about them are statements about natural numbers:
`units` counts the units of a rank, and `nearestRank` goes back from a quotient to the nearest
rank.

* `units_of_lt`, `units_of_le`: the two ways in which a rank counts units.
-/

namespace ReplayCalculator.Binary64

/-- The number of ranks in a binade, the numbers between one power of two and the next. -/
def binade : Nat := 0x10000000000000

/-- The part of a bit pattern that is the sign. -/
def signBit : Nat := 0x8000000000000000

/-- The rank of infinity, next after the largest finite number. -/
def infinityRank : Nat := 2047 * binade

/-- The number of units that make up the number one. -/
def unitsPerOne : Nat := 1 <<< 1074

/-- The position of the magnitude of `v` among the magnitudes; above `infinityRank` for NaN. -/
def rank (v : Float) : Nat := v.toBits.toNat % signBit

/-- Whether the sign of `v` is minus, also on zero. -/
def isNegative (v : Float) : Bool := decide (signBit ≤ v.toBits.toNat)

/-- The number with a given sign and rank. -/
def ofRank (negative : Bool) (rank : Nat) : Float :=
  Float.ofBits (UInt64.ofNat ((if negative then signBit else 0) + rank))

/-- The magnitude of a finite rank, counted in units. In the first two binades the ranks count the
units one by one; in each binade after that the steps are twice as long as in the one before. -/
def units (rank : Nat) : Nat :=
  if rank < binade then rank else (binade + rank % binade) <<< (rank / binade - 1)

theorem units_of_lt {r : Nat} (h : r < binade) : units r = r := if_pos h

theorem units_of_le {r : Nat} (h : binade ≤ r) :
    units r = (binade + r % binade) <<< (r / binade - 1) := if_neg (by omega)

@[simp] theorem units_zero : units 0 = 0 := rfl

/-- The rank of the number nearest to `num / den`, of two equally near ones the one with the even
rank; too large a quotient goes to infinity.

With `e` chosen so that the quotient lies below two binades of steps of `1 <<< e` units, those steps
are the distance of neighbours around it, and counting them is counting ranks from the start of a
binade. -/
def nearestRank (num den : Nat) : Nat :=
  let scaled := num * unitsPerOne
  let e := (scaled / den).log2 - 52
  min (e * binade + roundHalfEven scaled (den <<< e)) infinityRank

/-- Infinity of either sign. -/
def infinity (negative : Bool) : Float := ofRank negative infinityRank

/-- The value that is not a number. -/
def nan : Float := ofRank false (infinityRank + binade / 2)

/-- What a binary64 number is: a number or not, finite or not, with its sign and rank. -/
inductive Datum
  | notANumber
  | infinite (negative : Bool)
  | finite (negative : Bool) (rank : Nat)
  deriving DecidableEq, Repr

/-- The datum that `v` stands for. -/
def datum (v : Float) : Datum :=
  if infinityRank < rank v then .notANumber
  else if rank v = infinityRank then .infinite (isNegative v)
  else .finite (isNegative v) (rank v)

end ReplayCalculator.Binary64
