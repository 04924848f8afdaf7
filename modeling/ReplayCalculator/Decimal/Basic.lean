import ReplayCalculator.Decimal.Binary64

/-!
# Decimals and their digits

A decimal is a whole number of digits and a power of ten. This file holds the value of a decimal,
the binary64 number nearest to it, and the two things that writing numbers does to rows of digits:
padding with zeros in front and dropping zeros at the end.

* `rank_eq_nearestRank`: within the range that is computed, `Decimal.rank` is the nearest rank.
* `dropTrailingZeros_append_replicate`: zeros at the end are dropped, whatever their number.
-/

namespace ReplayCalculator

/-- The powers of ten. -/
def powTen (n : Nat) : Nat := Nat.pow 10 n

theorem powTen_zero : powTen 0 = 1 := rfl

theorem powTen_succ (n : Nat) : powTen (n + 1) = powTen n * 10 := rfl

theorem powTen_pos (n : Nat) : 0 < powTen n := Nat.pow_pos (by decide)

/-- The decimal `digits * 10 ^ exponent`. -/
structure Decimal where
  digits : Nat
  exponent : Int
  deriving DecidableEq, Repr

namespace Decimal

/-- Numerator of the value. -/
def num (d : Decimal) : Nat := d.digits * powTen d.exponent.toNat

/-- Denominator of the value. -/
def den (d : Decimal) : Nat := powTen (-d.exponent).toNat

theorem den_pos (d : Decimal) : 0 < d.den := powTen_pos _

/-- The digits of a natural number in base ten, without zeros in front. -/
def digitChars (n : Nat) : List Char := Nat.toDigits 10 n

/-- The position of the decimal point, counted from the first digit to the right: the value of a
nonzero decimal is below `10 ^ point` and not below `10 ^ (point - 1)`. -/
def point (d : Decimal) : Int := (digitChars d.digits).length + d.exponent

/-- The rank of the binary64 number nearest to the decimal. Values below `10 ^ (-330)` are less than
half the smallest number and those from `10 ^ 310` on are beyond the largest, so that nothing has
to be computed for them, however far out their exponents are. -/
def rank (d : Decimal) : Nat :=
  if d.digits = 0 ∨ d.point < -330 then 0
  else if 310 < d.point then Binary64.infinityRank
  else Binary64.nearestRank d.num d.den

theorem rank_eq_nearestRank {d : Decimal} (h₀ : d.digits ≠ 0) (h₁ : -330 ≤ d.point)
    (h₂ : d.point ≤ 310) : d.rank = Binary64.nearestRank d.num d.den := by
  rw [rank, if_neg (by omega), if_neg (by omega)]

/-! ### Rows of digits -/

/-- The row without the zeros at its end. -/
def dropTrailingZeros (ds : List Char) : List Char :=
  (ds.reverse.dropWhile (· == '0')).reverse

/-- The row brought to `width` digits by zeros in front. -/
def padded (width : Nat) (ds : List Char) : List Char :=
  List.replicate (width - ds.length) '0' ++ ds

theorem dropTrailingZeros_append_zero (ds : List Char) :
    dropTrailingZeros (ds ++ ['0']) = dropTrailingZeros ds := by
  simp [dropTrailingZeros]

theorem dropTrailingZeros_append_replicate (ds : List Char) (n : Nat) :
    dropTrailingZeros (ds ++ List.replicate n '0') = dropTrailingZeros ds := by
  induction n with
  | zero => simp
  | succ n ih => rw [List.replicate_succ', ← List.append_assoc, dropTrailingZeros_append_zero, ih]

theorem length_padded (width : Nat) (ds : List Char) :
    (padded width ds).length = max width ds.length := by
  simp only [padded, List.length_append, List.length_replicate]
  omega

end Decimal

end ReplayCalculator
