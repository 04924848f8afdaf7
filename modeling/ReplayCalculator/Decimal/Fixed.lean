import ReplayCalculator.Decimal.Basic

/-!
# Decimals with a bounded number of places

`fixedDigits places n` writes the value `n / 10 ^ places` with no more digits than it needs: no zero
in front of the whole part, none at the end of the fraction, and no point without a fraction. The
count `n` of a binary64 magnitude is `placesOf`, which rounds the exact binary value.

* `fixedDigits_of_dvd`: a whole value has no point.
* `fixedDigits_of_not_dvd`: any other value has a point and a fraction.
-/

namespace ReplayCalculator.Decimal

/-- The number of steps of `10 ^ (-places)` nearest to the magnitude of a finite rank, by the exact
binary value; a tie goes to the even count. -/
def placesOf (places rank : Nat) : Nat :=
  roundHalfEven (Binary64.units rank * powTen places) Binary64.unitsPerOne

/-- The digits behind the point of `n / 10 ^ places`, without zeros at the end. -/
def fractionDigits (places n : Nat) : List Char :=
  dropTrailingZeros (padded places (digitChars (n % powTen places)))

/-- The value `n / 10 ^ places` in digits. -/
def fixedDigits (places n : Nat) : List Char :=
  digitChars (n / powTen places) ++
    if n % powTen places = 0 then [] else '.' :: fractionDigits places n

theorem fixedDigits_of_dvd {places n : Nat} (h : n % powTen places = 0) :
    fixedDigits places n = digitChars (n / powTen places) := by
  simp [fixedDigits, h]

theorem fixedDigits_of_not_dvd {places n : Nat} (h : n % powTen places ≠ 0) :
    fixedDigits places n = digitChars (n / powTen places) ++ '.' :: fractionDigits places n := by
  simp [fixedDigits, h]

end ReplayCalculator.Decimal
