import ReplayCalculator.Proofs.Decimal.NearestEven
import ReplayCalculator.Proofs.Decimal.Reading
import ReplayCalculator.Proofs.Decimal.Value

/-!
# The nearest binary64 number

What it means that a number is read correctly is said here without steps and binades: no finite
number is nearer to the exact value, of two equally near ones it is the even one, and from
`overflowBound` on it is infinity (`IsNearestNumber`). There is only one such number
(`IsNearestNumber.eq`), and a decimal of any length is rounded to it (`isNearestNumber_rank`).

Ranks are rounded first, as if the binades went on without an end. In the steps of its own binade a
quotient is rounded to a whole number. Every rank of this binade or of a later one is a whole number
of these steps, and the ranks in front of it are further away than its first one. So nothing is
nearer than what is nearest in one binade (`isNearestRank_unboundedRank`).
-/

namespace ReplayCalculator

namespace Binary64

/-! ### Magnitudes -/

/-- The magnitude of a rank. The ranks from infinity on have the magnitudes that would come next. -/
def magnitude (r : ℕ) : ℚ := units r / unitsPerOne

/-- Ranks stand in the order of their units. -/
lemma units_strictMono : StrictMono units := by
  refine strictMono_nat_of_lt_succ fun r => ?_
  obtain ⟨e, t, rfl, hhigh, hlow⟩ := exists_binade r
  have hnext : e = 0 ∨ binade ≤ t + 1 := hlow.imp_right fun hle => Nat.le_succ_of_le hle
  rw [Nat.add_assoc, units_binade (Nat.le_of_lt hhigh) hlow, units_binade hhigh hnext]
  exact Nat.mul_lt_mul_of_pos_right (Nat.lt_succ_self t) (Nat.two_pow_pos e)

/-- Ranks stand in the order of their magnitudes. -/
lemma magnitude_strictMono : StrictMono magnitude := fun _ _ hlt =>
  div_lt_div_of_pos_right (Nat.cast_lt.mpr (units_strictMono hlt)) unitsPerOne_cast_pos

/-- The first rank is that of zero. -/
lemma magnitude_zero : magnitude 0 = 0 := by
  rw [magnitude, units_zero, Nat.cast_zero, zero_div]

/-- No magnitude is negative. -/
lemma magnitude_nonneg (r : ℕ) : 0 ≤ magnitude r := by
  rw [← magnitude_zero]
  exact magnitude_strictMono.monotone (Nat.zero_le r)

/-- In the steps of a binade, ranks are whole numbers, unless they lie in front of the binade. -/
lemma units_eq_mul_or_lt (r e : ℕ) :
    (∃ k, units r = k * 2 ^ e) ∨ (e ≠ 0 ∧ units r < binade * 2 ^ e) := by
  obtain ⟨e', t, rfl, hhigh, hlow⟩ := exists_binade r
  by_cases he : e ≤ e'
  · obtain ⟨d, rfl⟩ := Nat.exists_eq_add_of_le he
    refine Or.inl ⟨t * 2 ^ d, ?_⟩
    rw [units_binade (Nat.le_of_lt hhigh) hlow, Nat.pow_add, Nat.mul_assoc, Nat.mul_comm (2 ^ e)]
  · refine Or.inr ⟨by omega, ?_⟩
    have hfront : e' * binade + t < e * binade + binade := by
      have hmul : (e' + 1) * binade ≤ e * binade := Nat.mul_le_mul_right _ (by omega)
      rw [Nat.add_mul] at hmul
      omega
    have hlt := units_strictMono hfront
    rwa [units_binade (by omega) (Or.inr (Nat.le_refl _))] at hlt

/-! ### The nearest rank -/

/-- Whether a rank has the magnitude that is nearest to `q`, of two equally near ones the even
one. -/
structure IsNearestRank (r : ℕ) (q : ℚ) : Prop where
  nearest : ∀ s, |q - magnitude r| ≤ |q - magnitude s|
  even_of_tie : ∀ s, s ≠ r → |q - magnitude s| = |q - magnitude r| → Even r

section Quotient

variable (num : ℕ) {den : ℕ}

/-- The nearest rank as if there were no largest finite number. -/
def unboundedRank (num den : ℕ) : ℕ := binadeOf num den * binade + stepsOf num den

/-- A quotient in steps of its binade. -/
def position (num den : ℕ) : ℚ := (num * unitsPerOne : ℕ) / (den * 2 ^ binadeOf num den : ℕ)

/-- A rank in steps of the binade of a quotient. -/
def rankPosition (num den r : ℕ) : ℚ := units r / 2 ^ binadeOf num den

/-- Distances in steps are distances. -/
lemma abs_sub_magnitude (hden : 0 < den) (r : ℕ) :
    |(num : ℚ) / den - magnitude r| =
      |position num den - rankPosition num den r| * (2 ^ binadeOf num den / unitsPerOne) := by
  have hden' : (den : ℚ) ≠ 0 := Nat.cast_ne_zero.mpr hden.ne'
  have hone : (unitsPerOne : ℚ) ≠ 0 := unitsPerOne_cast_pos.ne'
  have hstep : (2 : ℚ) ^ binadeOf num den ≠ 0 := pow_ne_zero _ two_ne_zero
  have hscale : (num : ℚ) / den - magnitude r =
      (position num den - rankPosition num den r) * (2 ^ binadeOf num den / unitsPerOne) := by
    rw [magnitude, position, rankPosition]
    push_cast
    field_simp
  have hpos : (0 : ℚ) < 2 ^ binadeOf num den / unitsPerOne :=
    div_pos (pow_pos two_pos _) unitsPerOne_cast_pos
  rw [hscale, abs_mul, abs_of_pos hpos]

/-- A quotient is rounded to the nearest whole number of steps. -/
lemma isNearestEven_stepsOf (hden : 0 < den) :
    IsNearestEven (stepsOf num den : ℕ) (position num den) :=
  isNearestEven_roundHalfEven _ (Nat.mul_pos hden (Nat.two_pow_pos _))

/-- The nearest rank lies at the nearest whole number of steps. -/
lemma rankPosition_unboundedRank (hden : 0 < den) :
    rankPosition num den (unboundedRank num den) = (stepsOf num den : ℕ) := by
  rw [rankPosition, unboundedRank, units_binade (stepsOf_le num hden) (le_stepsOf num hden),
    Nat.cast_mul, Nat.cast_pow, Nat.cast_ofNat, mul_div_cancel_right₀ _ (pow_ne_zero _ two_ne_zero)]

/-- All binades have an even number of steps. -/
lemma even_unboundedRank (h : Even (stepsOf num den)) : Even (unboundedRank num den) :=
  (Even.mul_left (by decide) _).add h

/-- A rank in front of the binade of a quotient is further away than the first rank of the
binade. -/
lemma abs_position_sub_binade_lt (hden : 0 < den) {r : ℕ} (hne : binadeOf num den ≠ 0)
    (hlt : units r < binade * 2 ^ binadeOf num den) :
    |position num den - (binade : ℤ)| < |position num den - rankPosition num den r| := by
  have hpos : 0 < den * 2 ^ binadeOf num den := Nat.mul_pos hden (Nat.two_pow_pos _)
  have hstart : (binade : ℤ) ≤ position num den := by
    have hle := (binadeOf_le num hden).resolve_left hne
    rw [position, le_div_iff₀ (Nat.cast_pos.mpr hpos), Int.cast_natCast]
    exact_mod_cast hle
  have hfront : rankPosition num den r < (binade : ℤ) := by
    rw [rankPosition, div_lt_iff₀ (pow_pos two_pos _), Int.cast_natCast]
    exact_mod_cast hlt
  rw [abs_of_nonneg (by linarith), abs_of_nonneg (by linarith)]
  linarith

/-- In steps of the binade, no rank is nearer than the whole number of steps that is nearest, and
another one is as near only if this number is even. -/
lemma abs_position_sub_le (hden : 0 < den) (r : ℕ) :
    |position num den - (stepsOf num den : ℕ)| ≤ |position num den - rankPosition num den r| ∧
      (r ≠ unboundedRank num den →
        |position num den - rankPosition num den r| = |position num den - (stepsOf num den : ℕ)| →
          Even (stepsOf num den)) := by
  have hround := isNearestEven_stepsOf num hden
  rcases units_eq_mul_or_lt r (binadeOf num den) with ⟨k, hk⟩ | ⟨hne, hlt⟩
  · have hposition : rankPosition num den r = (k : ℤ) := by
      rw [rankPosition, hk, Nat.cast_mul, Nat.cast_pow, Nat.cast_ofNat,
        mul_div_cancel_right₀ _ (pow_ne_zero _ two_ne_zero), Int.cast_natCast]
    rw [hposition]
    refine ⟨hround.nearest k, fun hr htie => ?_⟩
    have hkn : (k : ℤ) ≠ (stepsOf num den : ℕ) := by
      intro heq
      have hsame : rankPosition num den r = rankPosition num den (unboundedRank num den) := by
        rw [hposition, heq, rankPosition_unboundedRank num hden, Int.cast_natCast]
      have hunits := (div_left_inj' (pow_ne_zero _ two_ne_zero)).mp hsame
      exact hr (units_strictMono.injective (Nat.cast_injective hunits))
    exact (Int.even_coe_nat _).mp (hround.even_of_tie k hkn htie)
  · have hfar := abs_position_sub_binade_lt num hden hne hlt
    have hnear := (hround.nearest binade).trans_lt hfar
    exact ⟨hnear.le, fun _ htie => absurd htie hnear.ne'⟩

/-- A quotient is rounded to the nearest rank. -/
lemma isNearestRank_unboundedRank (hden : 0 < den) :
    IsNearestRank (unboundedRank num den) ((num : ℚ) / den) := by
  have hpos : (0 : ℚ) < 2 ^ binadeOf num den / unitsPerOne :=
    div_pos (pow_pos two_pos _) unitsPerOne_cast_pos
  constructor
  · intro r
    rw [abs_sub_magnitude num hden (unboundedRank num den), abs_sub_magnitude num hden r,
      rankPosition_unboundedRank num hden]
    exact mul_le_mul_of_nonneg_right (abs_position_sub_le num hden r).1 hpos.le
  · intro r hr htie
    rw [abs_sub_magnitude num hden r, abs_sub_magnitude num hden (unboundedRank num den),
      rankPosition_unboundedRank num hden] at htie
    exact even_unboundedRank num
      ((abs_position_sub_le num hden r).2 hr (mul_right_cancel₀ hpos.ne' htie))

end Quotient

/-! ### Overflow -/

/-- From here on, halfway between the largest finite number and the power of two behind it, infinity
is the nearest number. It is irreducible so that its powers of two are not computed. -/
@[irreducible]
def overflowBound : ℚ := 2 ^ 1024 - 2 ^ 970

/-- So many steps of a later binade, counted in units. -/
lemma cast_mul_two_pow_div (m k : ℕ) :
    ((m * 2 ^ (oneExponent + k) : ℕ) : ℚ) / unitsPerOne = m * 2 ^ k := by
  rw [unitsPerOne_eq_two_pow, Nat.pow_add, Nat.mul_left_comm, Nat.cast_mul,
    mul_div_cancel_left₀ _ (Nat.cast_ne_zero.mpr (Nat.two_pow_pos _).ne'), Nat.cast_mul,
    Nat.cast_pow, Nat.cast_ofNat]

/-- The bound lies halfway between the last finite rank and the rank of infinity. -/
lemma magnitude_add_magnitude :
    magnitude (infinityRank - 1) + magnitude infinityRank = 2 * overflowBound := by
  have hexp : Decimal.lastBinade = oneExponent + 971 := by
    unfold Decimal.lastBinade oneExponent
    rfl
  have hlast : units (infinityRank - 1) = (2 * binade - 1) * 2 ^ (oneExponent + 971) := by
    have hrank : infinityRank - 1 = Decimal.lastBinade * binade + (2 * binade - 1) := by
      unfold Decimal.lastBinade
      rfl
    rw [hrank, units_binade (Nat.sub_le _ _) (Or.inr (by decide)), hexp]
  have hnext : units infinityRank = 2 * binade * 2 ^ (oneExponent + 971) := by
    have hrank : infinityRank = Decimal.lastBinade * binade + 2 * binade := by
      unfold Decimal.lastBinade
      rfl
    rw [hrank, units_binade (Nat.le_refl _) (Or.inr (by decide)), hexp]
  have hsteps : ((2 * binade - 1 : ℕ) : ℚ) + (2 * binade : ℕ) = 2 ^ 54 - 1 := by
    have hbinade : binade = 4503599627370496 := rfl
    rw [hbinade]
    norm_num
  have hbound : 2 * overflowBound = (2 ^ 54 - 1) * 2 ^ 971 := by
    unfold overflowBound
    rw [mul_sub, ← pow_succ', ← pow_succ', sub_mul, one_mul, ← pow_add]
  rw [magnitude, magnitude, hlast, hnext, cast_mul_two_pow_div, cast_mul_two_pow_div, ← add_mul,
    hsteps, hbound]

/-- Beyond `10 ^ 310` everything is infinite. -/
lemma overflowBound_le : overflowBound ≤ powTen 310 := by
  have hpow : 2 ^ 1024 ≤ powTen 310 := by decide +kernel
  have hcast : (2 : ℚ) ^ 1024 ≤ powTen 310 := by exact_mod_cast hpow
  unfold overflowBound
  exact (sub_le_self _ (pow_nonneg zero_le_two _)).trans hcast

section Distance

variable {a b q : ℚ} (hab : a < b)

include hab in
/-- Of two numbers, the larger one is as near as the other one from halfway on. -/
lemma abs_sub_le_abs_sub_iff : |q - b| ≤ |q - a| ↔ a + b ≤ 2 * q := by
  have hdiff : (q - a) ^ 2 - (q - b) ^ 2 = (b - a) * (2 * q - (a + b)) := by ring
  rw [← sq_le_sq, ← sub_nonneg, hdiff, mul_nonneg_iff_of_pos_left (sub_pos.mpr hab), sub_nonneg]

include hab in
/-- Of two numbers, the larger one is nearer behind halfway. -/
lemma abs_sub_lt_abs_sub_iff : |q - b| < |q - a| ↔ a + b < 2 * q := by
  have hdiff : (q - a) ^ 2 - (q - b) ^ 2 = (b - a) * (2 * q - (a + b)) := by ring
  rw [← sq_lt_sq, ← sub_pos, hdiff, mul_pos_iff_of_pos_left (sub_pos.mpr hab), sub_pos]

end Distance

/-- The nearest rank is that of infinity, or one behind it, from the bound on. -/
lemma IsNearestRank.infinityRank_le_iff {r : ℕ} {q : ℚ} (h : IsNearestRank r q) :
    infinityRank ≤ r ↔ overflowBound ≤ q := by
  have hlast : infinityRank - 1 < infinityRank := Nat.sub_lt (by decide) (by decide)
  have hmiddle := magnitude_add_magnitude
  constructor
  · intro hle
    have hnear := (abs_sub_le_abs_sub_iff (magnitude_strictMono (hlast.trans_le hle))).mp
      (h.nearest (infinityRank - 1))
    have hmono := magnitude_strictMono.monotone hle
    linarith
  · intro hle
    by_contra hfinite
    have hrank : r ≤ infinityRank - 1 := Nat.le_sub_one_of_lt (Nat.lt_of_not_le hfinite)
    have hlt := magnitude_strictMono (hrank.trans_lt hlast)
    have hmono := magnitude_strictMono.monotone hrank
    have htie : |q - magnitude infinityRank| = |q - magnitude r| :=
      ((abs_sub_le_abs_sub_iff hlt).mpr (by linarith)).antisymm (h.nearest infinityRank)
    -- Two numbers are equally near only if the finite one is the last one, and that is not even.
    have hback : ¬ magnitude r + magnitude infinityRank < 2 * q := fun hgt =>
      htie.not_lt ((abs_sub_lt_abs_sub_iff hlt).mpr hgt)
    have hodd : r = infinityRank - 1 := by
      refine hrank.antisymm (magnitude_strictMono.le_iff_le.mp ?_)
      linarith
    have heven : Even r := h.even_of_tie infinityRank (hrank.trans_lt hlast).ne' htie
    rw [hodd] at heven
    exact absurd heven (by decide)

/-! ### The nearest number -/

/-- Whether a number is the non-negative one that is nearest to `q`, of two equally near ones the
even one. From the bound on, that is infinity. -/
structure IsNearestNumber (x : Float) (q : ℚ) : Prop where
  isNegative_eq : isNegative x = false
  datum_eq : overflowBound ≤ q → datum x = .infinite false
  isFinite : q < overflowBound → x.isFinite = true
  nearest : q < overflowBound → ∀ y : Float, y.isFinite = true → |q - value x| ≤ |q - value y|
  even_of_tie : q < overflowBound → ∀ y : Float, y.isFinite = true → value y ≠ value x →
    |q - value y| = |q - value x| → Even (rank x)

/-- A number is its sign and its rank. -/
lemma eq_of_rank_eq {x y : Float} (hsign : isNegative x = isNegative y) (hrank : rank x = rank y) :
    x = y := by
  have hbits : x.toBits.toNat = y.toBits.toNat := by
    have hx : x.toBits.toNat = _ := (toNat_bits x).2
    have hy : y.toBits.toNat = _ := (toNat_bits y).2
    rw [hx, hy, hsign, hrank]
  obtain ⟨⟨bits, hx⟩⟩ := x
  obtain ⟨⟨bits', hy⟩⟩ := y
  have hsame : bits = bits' := UInt64.toNat_inj.mp hbits
  subst hsame
  rfl

section NearestNumber

variable {q : ℚ}

/-- The value of a number without a sign is the magnitude of its rank. -/
lemma value_eq_magnitude {x : Float} (hx : x.isFinite = true) (hsign : isNegative x = false) :
    value x = magnitude (rank x) := by
  rw [value_eq hx, hsign, if_neg Bool.false_ne_true, one_mul, magnitude]

/-- The number with a finite rank has its magnitude. -/
lemma value_ofRank {r : ℕ} (hr : r < infinityRank) :
    (ofRank false r).isFinite = true ∧ value (ofRank false r) = magnitude r := by
  have hrank : rank (ofRank false r) = r := rank_ofRank false hr.le
  have hfinite : (ofRank false r).isFinite = true := isFinite_iff.mpr (hrank.trans_lt hr)
  rw [value_eq_magnitude hfinite (isNegative_ofRank false hr.le), hrank]
  exact ⟨hfinite, rfl⟩

/-- No number is nearer to a rational number that is not negative than the number with the same rank
and no sign. -/
lemma abs_sub_magnitude_le (hq : 0 ≤ q) {y : Float} (hy : y.isFinite = true) :
    |q - magnitude (rank y)| ≤ |q - value y| := by
  have hvalue : |value y| = magnitude (rank y) := abs_value hy
  have hdist := abs_abs_sub_abs_le q (value y)
  rwa [abs_of_nonneg hq, hvalue] at hdist

/-- The number with the nearest rank is the nearest number. -/
lemma IsNearestRank.isNearestNumber {r : ℕ} (h : IsNearestRank r q) (hq : 0 ≤ q) :
    IsNearestNumber (ofRank false (min r infinityRank)) q := by
  by_cases hle : infinityRank ≤ r
  · have hbound := h.infinityRank_le_iff.mp hle
    rw [Nat.min_eq_right hle]
    have hinfinite := datum_ofRank_infinityRank false
    exact ⟨(of_datum_eq_infinite hinfinite).1, fun _ => hinfinite,
      fun hlt => absurd hbound hlt.not_ge, fun hlt => absurd hbound hlt.not_ge,
      fun hlt => absurd hbound hlt.not_ge⟩
  · have hr := Nat.lt_of_not_le hle
    rw [Nat.min_eq_left hr.le]
    obtain ⟨hfinite, hvalue⟩ := value_ofRank hr
    refine ⟨isNegative_ofRank false hr.le,
      fun hbound => absurd (h.infinityRank_le_iff.mpr hbound) hle, fun _ => hfinite, ?_, ?_⟩
    · intro _ y hy
      rw [hvalue]
      exact (h.nearest (rank y)).trans (abs_sub_magnitude_le hq hy)
    · intro _ y hy hne htie
      rw [hvalue] at hne htie
      rw [rank_ofRank false hr.le]
      have htie' : |q - magnitude (rank y)| = |q - magnitude r| :=
        (htie ▸ abs_sub_magnitude_le hq hy).antisymm (h.nearest (rank y))
      by_cases hsame : rank y = r
      · -- Zero would be nearer than two numbers that are opposite to each other and equally near.
        have habs : |value y| = magnitude r := by rw [← hsame]; exact abs_value hy
        have hneg := (eq_or_eq_neg_of_abs_eq habs).resolve_left hne
        rw [hneg, sub_neg_eq_add, abs_of_nonneg (add_nonneg hq (magnitude_nonneg r))] at htie
        have hzero := h.nearest 0
        rw [magnitude_zero, sub_zero, abs_of_nonneg hq, ← htie] at hzero
        exact absurd (by linarith [magnitude_nonneg r]) hne
      · exact h.even_of_tie (rank y) hsame htie'

namespace IsNearestNumber

variable {x y : Float} (hx : IsNearestNumber x q) (hlt : q < overflowBound)

include hx hlt in
/-- No finite rank is nearer than that of the nearest number. -/
lemma abs_sub_le {r : ℕ} (hr : r < infinityRank) :
    |q - magnitude (rank x)| ≤ |q - magnitude r| := by
  obtain ⟨hfinite, hvalue⟩ := value_ofRank hr
  have hnear := hx.nearest hlt _ hfinite
  rwa [hvalue, value_eq_magnitude (hx.isFinite hlt) hx.isNegative_eq] at hnear

include hx hlt in
/-- There is no other nearest number behind: if both were even, a number between them would be
nearer. -/
lemma rank_le (hy : IsNearestNumber y q) : rank y ≤ rank x := by
  by_contra hgt
  have hrank : rank x < rank y := Nat.lt_of_not_le hgt
  have hlast : rank y < infinityRank := isFinite_iff.mp (hy.isFinite hlt)
  have hvalue := value_eq_magnitude (hx.isFinite hlt) hx.isNegative_eq
  have hvalue' := value_eq_magnitude (hy.isFinite hlt) hy.isNegative_eq
  have hxy := magnitude_strictMono hrank
  have htie : |q - magnitude (rank y)| = |q - magnitude (rank x)| :=
    (hy.abs_sub_le hlt (hrank.trans hlast)).antisymm (hx.abs_sub_le hlt hlast)
  have heven : Even (rank x) := by
    refine hx.even_of_tie hlt y (hy.isFinite hlt) ?_ ?_
    · rw [hvalue, hvalue']
      exact hxy.ne'
    · rw [hvalue, hvalue', htie]
  have heven' : Even (rank y) := by
    refine hy.even_of_tie hlt x (hx.isFinite hlt) ?_ ?_
    · rw [hvalue, hvalue']
      exact hxy.ne
    · rw [hvalue, hvalue', htie]
  have hnext : rank x + 1 < rank y := by
    rw [Nat.even_iff] at heven heven'
    omega
  have hmiddle : magnitude (rank x) + magnitude (rank y) ≤ 2 * q :=
    (abs_sub_le_abs_sub_iff hxy).mp htie.le
  have hcloser : |q - magnitude (rank x + 1)| < |q - magnitude (rank x)| := by
    refine (abs_sub_lt_abs_sub_iff (magnitude_strictMono (Nat.lt_succ_self _))).mpr ?_
    have hmono := magnitude_strictMono hnext
    linarith
  exact hcloser.not_ge (hx.abs_sub_le hlt (hnext.trans hlast))

include hx in
/-- There is only one nearest number. -/
theorem eq (hy : IsNearestNumber y q) : x = y := by
  refine eq_of_rank_eq (hx.isNegative_eq.trans hy.isNegative_eq.symm) ?_
  by_cases hlt : q < overflowBound
  · exact (hy.rank_le hlt hx).antisymm (hx.rank_le hlt hy)
  · have hbound := not_lt.mp hlt
    rw [(of_datum_eq_infinite (hx.datum_eq hbound)).2,
      (of_datum_eq_infinite (hy.datum_eq hbound)).2]

end IsNearestNumber

end NearestNumber

end Binary64

/-! ### Decimals -/

namespace Decimal

open Binary64

/-- The exact value of a decimal. -/
def value (d : Decimal) : ℚ := d.num / d.den

/-- A natural number lies below the power of ten that has one digit more. -/
lemma lt_powTen (n : ℕ) : n < powTen (digitChars n).length :=
  (Nat.length_toDigits_le_iff (by decide) Nat.length_toDigits_pos).mp (Nat.le_refl _)

/-- A natural number does not lie below the power of ten with as many digits. -/
lemma powTen_le {n : ℕ} (hn : n ≠ 0) : powTen ((digitChars n).length - 1) ≤ n := by
  have hlength : 0 < (digitChars n).length := Nat.length_toDigits_pos
  rcases Nat.eq_zero_or_pos ((digitChars n).length - 1) with hone | hmore
  · rw [hone]
    exact Nat.pos_of_ne_zero hn
  · by_contra hlt
    have hle := (Nat.length_toDigits_le_iff (by decide) hmore).mpr (Nat.lt_of_not_le hlt)
    have hle' : (digitChars n).length ≤ (digitChars n).length - 1 := hle
    omega

variable {d : Decimal}

/-- A decimal with its point far in front is less than half a unit. -/
lemma unboundedRank_of_point_lt (h : d.point < -330) : unboundedRank d.num d.den = 0 := by
  have hsmall : 2 * (d.num * unitsPerOne) < d.den := by
    have hhalf : 2 * unitsPerOne ≤ powTen 331 := by decide +kernel
    have hexp : (digitChars d.digits).length + (d.exponent.toNat + 331) ≤ (-d.exponent).toNat := by
      unfold point at h
      omega
    calc 2 * (d.num * unitsPerOne) = d.num * (2 * unitsPerOne) := Nat.mul_left_comm _ _ _
      _ ≤ d.num * powTen 331 := Nat.mul_le_mul_left _ hhalf
      _ = d.digits * powTen (d.exponent.toNat + 331) := by rw [num, Nat.mul_assoc, powTen_add]
      _ < powTen (digitChars d.digits).length * powTen (d.exponent.toNat + 331) :=
        Nat.mul_lt_mul_of_pos_right (lt_powTen d.digits) (powTen_pos _)
      _ = powTen ((digitChars d.digits).length + (d.exponent.toNat + 331)) := (powTen_add _ _).symm
      _ ≤ d.den := powTen_mono hexp
  have hbinade : binadeOf d.num d.den = 0 := by
    rw [binadeOf, Nat.div_eq_of_lt (by omega)]
    rfl
  rw [unboundedRank, stepsOf, hbinade, Nat.zero_mul, Nat.zero_add, Nat.pow_zero, Nat.mul_one]
  exact roundHalfEven_eq_of_near (by omega) (by omega)

/-- A decimal with its point far behind goes to infinity. -/
lemma infinityRank_le_of_lt_point (hd : d.digits ≠ 0) (h : 310 < d.point) :
    infinityRank ≤ unboundedRank d.num d.den := by
  have hlarge : powTen 310 * d.den ≤ d.num := by
    have hexp : 310 + (-d.exponent).toNat ≤
        (digitChars d.digits).length - 1 + d.exponent.toNat := by
      unfold point at h
      omega
    calc powTen 310 * d.den = powTen (310 + (-d.exponent).toNat) := (powTen_add _ _).symm
      _ ≤ powTen ((digitChars d.digits).length - 1 + d.exponent.toNat) := powTen_mono hexp
      _ = powTen ((digitChars d.digits).length - 1) * powTen d.exponent.toNat := powTen_add _ _
      _ ≤ d.num := Nat.mul_le_mul_right _ (powTen_le hd)
  refine (isNearestRank_unboundedRank d.num d.den_pos).infinityRank_le_iff.mpr ?_
  rw [le_div_iff₀ (Nat.cast_pos.mpr d.den_pos)]
  calc overflowBound * d.den ≤ powTen 310 * d.den :=
        mul_le_mul_of_nonneg_right overflowBound_le (Nat.cast_nonneg _)
    _ ≤ d.num := by exact_mod_cast hlarge

/-- The rank of a decimal is the nearest one, also where nothing is computed. -/
lemma rank_eq_min (d : Decimal) : d.rank = min (unboundedRank d.num d.den) infinityRank := by
  by_cases hzero : d.digits = 0
  · have hnum : d.num = 0 := by rw [num, hzero, Nat.zero_mul]
    have hnearest := nearestRank_zero d.den
    rw [nearestRank_eq] at hnearest
    rw [rank, if_pos (Or.inl hzero), unboundedRank, hnum, hnearest]
  · by_cases hfront : d.point < -330
    · rw [rank, if_pos (Or.inr hfront), unboundedRank_of_point_lt hfront, Nat.zero_min]
    · by_cases hbehind : 310 < d.point
      · rw [rank, if_neg (by omega), if_pos hbehind,
          Nat.min_eq_right (infinityRank_le_of_lt_point hzero hbehind)]
      · rw [rank_eq_nearestRank hzero (by omega) (by omega), nearestRank_eq]
        rfl

/-- A decimal is rounded to the nearest number, whatever its digits and its exponent. -/
theorem isNearestNumber_rank (d : Decimal) : IsNearestNumber (ofRank false d.rank) d.value := by
  have hnonneg : 0 ≤ d.value := div_nonneg (Nat.cast_nonneg _) (Nat.cast_nonneg _)
  rw [rank_eq_min]
  exact (isNearestRank_unboundedRank d.num d.den_pos).isNearestNumber hnonneg

end Decimal

end ReplayCalculator
