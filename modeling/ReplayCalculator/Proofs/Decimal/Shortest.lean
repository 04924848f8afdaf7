import Mathlib.Algebra.Order.Floor.Semifield
import Mathlib.Data.Nat.Prime.Basic
import ReplayCalculator.Decimal.Shortest
import ReplayCalculator.Proofs.Decimal.NormalForm

/-!
# The shortest decimal of a rank

The decimals that are read as a finite rank lie in an interval around its magnitude
(`IsNearestRank.of_between`). So if any decimal on a grid is read as the rank, then one of the two
next to its magnitude is, and it is found (`exists_onGrid?_eq_some`).

A decimal with `n` significant digits need not lie on the grid with `n` digits before the point of
the rank. But if it does not, then the power of ten between it and the rank does, and this is read
as the rank, too (`exists_grid_of_rank_eq`). So no decimal has fewer significant digits than the one
that is found first (`significance_shortest_le`). With 17 digits a decimal is always found: half a
step of this grid is less than half of the distance between the rank and any other one
(`exists_grid_seventeen`).
-/

namespace ReplayCalculator

namespace Binary64

/-! ### Numbers around a rank -/

section Interval

variable {r s : ℕ} {x y : ℚ}

/-- What lies between a rank and a number for which it is the nearest one has the same nearest
rank. -/
lemma IsNearestRank.of_between (h : IsNearestRank r x)
    (hy : x ≤ y ∧ y ≤ magnitude r ∨ magnitude r ≤ y ∧ y ≤ x) : IsNearestRank r y := by
  have hsplit : |x - magnitude r| = |x - y| + |y - magnitude r| := by
    rcases hy with ⟨hxy, hyr⟩ | ⟨hyr, hxy⟩
    · rw [abs_of_nonpos (sub_nonpos.mpr (hxy.trans hyr)), abs_of_nonpos (sub_nonpos.mpr hxy),
        abs_of_nonpos (sub_nonpos.mpr hyr)]
      ring
    · rw [abs_of_nonneg (sub_nonneg.mpr (hyr.trans hxy)), abs_of_nonneg (sub_nonneg.mpr hxy),
        abs_of_nonneg (sub_nonneg.mpr hyr)]
      ring
  have hfar : ∀ s, |x - magnitude s| ≤ |x - y| + |y - magnitude s| := fun s => abs_sub_le _ _ _
  constructor
  · intro s
    linarith [h.nearest s, hfar s]
  · intro s hs htie
    refine h.even_of_tie s hs (le_antisymm ?_ (h.nearest s))
    linarith [hfar s]

/-- A rank has at most `2 ^ 53` times as many units as there are to the rank before it. -/
lemma units_succ_le (r : ℕ) : units (r + 1) ≤ 2 ^ 53 * (units (r + 1) - units r) := by
  obtain ⟨e, t, rfl, hhigh, hlow⟩ := exists_binade r
  have hnext : e = 0 ∨ binade ≤ t + 1 := hlow.imp_right fun hle => Nat.le_succ_of_le hle
  have hbinade : 2 * binade = 2 ^ 53 := rfl
  have hstep : (t + 1) * 2 ^ e - t * 2 ^ e = 2 ^ e := by
    rw [Nat.add_mul, Nat.one_mul, Nat.add_sub_cancel_left]
  rw [Nat.add_assoc, units_binade (Nat.le_of_lt hhigh) hlow, units_binade hhigh hnext, hstep,
    ← hbinade]
  exact Nat.mul_le_mul_right _ hhigh

/-- A magnitude is at most `2 ^ 53` times as large as its distance to the one before it. -/
lemma magnitude_succ_le (r : ℕ) :
    magnitude (r + 1) ≤ 2 ^ 53 * (magnitude (r + 1) - magnitude r) := by
  have hlt : units r ≤ units (r + 1) := (units_strictMono (Nat.lt_succ_self r)).le
  have hunits : (units (r + 1) : ℚ) ≤ 2 ^ 53 * (units (r + 1) - units r) := by
    rw [← Nat.cast_sub hlt]
    exact_mod_cast units_succ_le r
  rw [magnitude, magnitude, ← sub_div, ← mul_div_assoc]
  exact div_le_div_of_nonneg_right hunits unitsPerOne_cast_pos.le

/-- A magnitude is at most `2 ^ 53` times as large as its distance to any other one. -/
lemma magnitude_le_mul_abs_sub (h : s ≠ r) :
    magnitude r ≤ 2 ^ 53 * |magnitude r - magnitude s| := by
  rcases Nat.lt_or_gt_of_ne h with hlt | hgt
  · obtain ⟨r, rfl⟩ := Nat.exists_eq_add_one_of_ne_zero (Nat.ne_zero_of_lt hlt)
    have hmono := magnitude_strictMono.monotone (Nat.le_of_lt_succ hlt)
    have hstep := magnitude_succ_le r
    have hdist := le_abs_self (magnitude (r + 1) - magnitude s)
    linarith
  · have hmono := magnitude_strictMono.monotone (Nat.succ_le_of_lt hgt)
    have hstep := magnitude_succ_le r
    have hnext := magnitude_strictMono (Nat.lt_succ_self r)
    have hdist := neg_le_abs (magnitude r - magnitude s)
    linarith

/-- A rank is the nearest one of all numbers that are this near. -/
lemma isNearestRank_of_abs_sub_lt (h : 2 ^ 54 * |x - magnitude r| < magnitude r) :
    IsNearestRank r x := by
  have hcloser : ∀ s, s ≠ r → |x - magnitude r| < |x - magnitude s| := by
    intro s hs
    have hapart := magnitude_le_mul_abs_sub hs
    have htriangle := abs_sub_le (magnitude r) x (magnitude s)
    rw [abs_sub_comm (magnitude r) x] at htriangle
    linarith
  constructor
  · intro s
    by_cases hs : s = r
    · rw [hs]
    · exact (hcloser s hs).le
  · intro s hs htie
    exact absurd htie (hcloser s hs).ne'

end Interval

end Binary64

namespace Decimal

open Binary64

/-! ### The rank of a decimal by its value -/

section Value

variable {d : Decimal} {r : ℕ}

/-- Powers of ten as rational numbers. -/
lemma cast_powTen (n : ℕ) : (powTen n : ℚ) = 10 ^ n := Nat.cast_pow 10 n

/-- A power of ten is a quotient of two natural ones. -/
lemma ten_zpow_eq_div (e : ℤ) : (10 : ℚ) ^ e = powTen e.toNat / powTen (-e).toNat := by
  rw [cast_powTen, cast_powTen, ← zpow_natCast, ← zpow_natCast, ← zpow_sub₀ (by norm_num)]
  congr 1
  omega

/-- The value of a decimal as a multiple of a power of ten. -/
lemma value_eq_mul_zpow (d : Decimal) : d.value = d.digits * (10 : ℚ) ^ d.exponent := by
  rw [value, num, den, ten_zpow_eq_div, Nat.cast_mul, mul_div_assoc]

/-- Nothing is further out than infinity. -/
lemma rank_le_infinityRank (d : Decimal) : d.rank ≤ infinityRank := by
  rw [rank_eq_min]
  exact Nat.min_le_right _ _

/-- The rank of a decimal depends on nothing but its value. -/
lemma rank_eq_of_value_eq {d' : Decimal} (h : d.value = d'.value) : d.rank = d'.rank := by
  have hnearest := isNearestNumber_rank d
  rw [h] at hnearest
  have hsame := congrArg Binary64.rank (hnearest.eq (isNearestNumber_rank d'))
  rwa [rank_ofRank false d.rank_le_infinityRank, rank_ofRank false d'.rank_le_infinityRank] at hsame

/-- The decimals that are read as a finite rank are those for which it is the nearest one. -/
lemma rank_eq_iff (hr : r < infinityRank) : d.rank = r ↔ IsNearestRank r d.value := by
  constructor
  · intro h
    have hrank : unboundedRank d.num d.den = r := by
      rw [rank_eq_min] at h
      omega
    rw [← hrank]
    exact isNearestRank_unboundedRank d.num d.den_pos
  · intro h
    have hnonneg : 0 ≤ d.value := div_nonneg (Nat.cast_nonneg _) (Nat.cast_nonneg _)
    have hnumber := h.isNearestNumber hnonneg
    rw [Nat.min_eq_left hr.le] at hnumber
    have hsame := congrArg Binary64.rank ((isNearestNumber_rank d).eq hnumber)
    rwa [rank_ofRank false d.rank_le_infinityRank, rank_ofRank false hr.le] at hsame

end Value

/-! ### The grid around a rank -/

section Grid

variable {r : ℕ} {E : ℤ}

/-- The magnitude of a rank in steps of a power of ten, rounded down. -/
def gridBelow (r : ℕ) (E : ℤ) : ℕ := units r * powTen (-E).toNat / (unitsPerOne * powTen E.toNat)

/-- A magnitude in steps of a power of ten. -/
lemma magnitude_eq_mul_zpow (r : ℕ) (E : ℤ) :
    magnitude r =
      (units r * powTen (-E).toNat : ℕ) / (unitsPerOne * powTen E.toNat : ℕ) * (10 : ℚ) ^ E := by
  have hone : (unitsPerOne : ℚ) ≠ 0 := unitsPerOne_cast_pos.ne'
  have hnum : (powTen E.toNat : ℚ) ≠ 0 := Nat.cast_ne_zero.mpr (powTen_pos _).ne'
  have hden : (powTen (-E).toNat : ℚ) ≠ 0 := Nat.cast_ne_zero.mpr (powTen_pos _).ne'
  rw [magnitude, ten_zpow_eq_div, Nat.cast_mul, Nat.cast_mul]
  field_simp

/-- A magnitude lies between two points of the grid. -/
lemma gridBelow_bounds (r : ℕ) (E : ℤ) :
    gridBelow r E * (10 : ℚ) ^ E ≤ magnitude r ∧
      magnitude r < (gridBelow r E + 1) * (10 : ℚ) ^ E := by
  have hpos : (0 : ℚ) < 10 ^ E := zpow_pos (by norm_num) _
  have hfloor : gridBelow r E =
      ⌊((units r * powTen (-E).toNat : ℕ) : ℚ) / (unitsPerOne * powTen E.toNat : ℕ)⌋₊ :=
    (Nat.floor_div_eq_div _ _).symm
  rw [magnitude_eq_mul_zpow r E, hfloor]
  constructor
  · exact mul_le_mul_of_nonneg_right
      (Nat.floor_le (div_nonneg (Nat.cast_nonneg _) (Nat.cast_nonneg _))) hpos.le
  · exact mul_lt_mul_of_pos_right (Nat.lt_floor_add_one _) hpos

/-- The two points of the grid that are tried are those next to the magnitude, in either order. -/
lemma onGrid?_eq_find? (r : ℕ) (E : ℤ) :
    ∃ near far,
      (near = gridBelow r E ∧ far = gridBelow r E + 1 ∨
        near = gridBelow r E + 1 ∧ far = gridBelow r E) ∧
        onGrid? r E = [Decimal.mk near E, Decimal.mk far E].find? (·.rank = r) := by
  refine ⟨_, _, ?_, rfl⟩
  have hlow : units r * powTen (-E).toNat / (unitsPerOne * powTen E.toNat) = gridBelow r E := rfl
  rcases roundHalfEven_eq_or (units r * powTen (-E).toNat) (unitsPerOne * powTen E.toNat) with
    hnear | hnear
  · rw [hnear, hlow]
    exact Or.inl ⟨rfl, Nat.add_sub_cancel_left _ _⟩
  · rw [hnear, hlow]
    exact Or.inr ⟨rfl, Nat.add_sub_cancel _ _⟩

/-- A decimal that is found lies on the grid, and not above the point behind the magnitude. -/
lemma of_onGrid?_eq_some {d : Decimal} (h : onGrid? r E = some d) :
    d.exponent = E ∧ d.digits ≤ gridBelow r E + 1 := by
  obtain ⟨near, far, hpoints, hfind⟩ := onGrid?_eq_find? r E
  rw [hfind] at h
  have hmem := List.mem_of_find?_eq_some h
  rw [List.mem_cons, List.mem_singleton] at hmem
  rcases hmem with rfl | rfl
  · exact ⟨rfl, by show near ≤ _; omega⟩
  · exact ⟨rfl, by show far ≤ _; omega⟩

/-- If any decimal on the grid is read as the rank, then one is found. -/
lemma exists_onGrid?_eq_some (hr : r < infinityRank) {k : ℕ} (hk : (⟨k, E⟩ : Decimal).rank = r) :
    ∃ d, onGrid? r E = some d := by
  obtain ⟨near, far, hpoints, hfind⟩ := onGrid?_eq_find? r E
  have hpos : (0 : ℚ) < 10 ^ E := zpow_pos (by norm_num) _
  obtain ⟨hbelow, habove⟩ := gridBelow_bounds r E
  have hnearest := (rank_eq_iff hr).mp hk
  rw [value_eq_mul_zpow] at hnearest
  -- The point next to the magnitude, on the side of the decimal, is read as the rank.
  have hpoint : (⟨gridBelow r E, E⟩ : Decimal).rank = r ∨
      (⟨gridBelow r E + 1, E⟩ : Decimal).rank = r := by
    rw [rank_eq_iff hr, rank_eq_iff hr, value_eq_mul_zpow, value_eq_mul_zpow]
    rcases Nat.lt_or_ge (gridBelow r E) k with hlt | hle
    · refine Or.inr (hnearest.of_between (Or.inr ⟨?_, ?_⟩))
      · exact_mod_cast habove.le
      · exact mul_le_mul_of_nonneg_right (Nat.cast_le.mpr hlt) hpos.le
    · refine Or.inl (hnearest.of_between (Or.inl ⟨?_, hbelow⟩))
      exact mul_le_mul_of_nonneg_right (Nat.cast_le.mpr hle) hpos.le
  rw [hfind, ← Option.isSome_iff_exists, List.find?_isSome]
  have htried : ∀ n, (⟨n, E⟩ : Decimal).rank = r → (n = near ∨ n = far) →
      ∃ d ∈ [Decimal.mk near E, Decimal.mk far E], decide (d.rank = r) = true := by
    rintro n hn (rfl | rfl)
    · exact ⟨_, List.mem_cons_self, decide_eq_true hn⟩
    · exact ⟨_, List.mem_cons_of_mem _ List.mem_cons_self, decide_eq_true hn⟩
  rcases hpoint with hlow | hhigh
  · exact htried _ hlow (by omega)
  · exact htried _ hhigh (by omega)

end Grid

/-! ### The point of a rank -/

section Point

variable {r : ℕ}

/-- The digits in front of the point of a quotient that is not below one. -/
lemma powTen_le_div_lt {num den : ℕ} (hden : 0 < den) (h : den ≤ num) :
    powTen ((digitChars (num / den)).length - 1) * den ≤ num ∧
      num < powTen (digitChars (num / den)).length * den := by
  have hpos : num / den ≠ 0 := Nat.one_le_iff_ne_zero.mp ((Nat.one_le_div_iff hden).mpr h)
  exact ⟨(Nat.le_div_iff_mul_le hden).mp (powTen_le hpos),
    (Nat.div_lt_iff_lt_mul hden).mp (lt_powTen _)⟩

/-- A power of two with a power of ten for a factor has the factor one. -/
lemma powTen_mul_ne_unitsPerOne {n u : ℕ} (hn : n ≠ 0) : powTen n * u ≠ unitsPerOne := by
  intro heq
  have hfive : 5 ∣ 2 ^ oneExponent := by
    rw [← unitsPerOne_eq_two_pow, ← heq]
    exact Dvd.dvd.mul_right (dvd_pow (by decide) hn) u
  exact absurd (Nat.prime_five.dvd_of_dvd_pow hfive) (by decide)

/-- The point of a rank tells the powers of ten between which it lies. -/
lemma pointOf_bounds (hr : 0 < r) :
    (10 : ℚ) ^ (pointOf r - 1) ≤ magnitude r ∧ magnitude r < (10 : ℚ) ^ pointOf r := by
  have hunits : 0 < units r := units_pos hr
  have hpos : (0 : ℚ) < unitsPerOne := unitsPerOne_cast_pos
  rw [magnitude, le_div_iff₀ hpos, div_lt_iff₀ hpos]
  by_cases hone : unitsPerOne ≤ units r
  · obtain ⟨hle, hlt⟩ := powTen_le_div_lt unitsPerOne_pos hone
    have hlength : 0 < (digitChars (units r / unitsPerOne)).length := Nat.length_toDigits_pos
    have hpoint : pointOf r = ((digitChars (units r / unitsPerOne)).length : ℤ) := if_pos hone
    have hbefore : pointOf r - 1 =
        (((digitChars (units r / unitsPerOne)).length - 1 : ℕ) : ℤ) := by omega
    rw [hbefore, hpoint, zpow_natCast, zpow_natCast, ← cast_powTen, ← cast_powTen]
    exact ⟨by exact_mod_cast hle, by exact_mod_cast hlt⟩
  · obtain ⟨hle, hlt⟩ := powTen_le_div_lt hunits (Nat.le_of_not_le hone)
    have hlength : 0 < (digitChars (unitsPerOne / units r)).length := Nat.length_toDigits_pos
    have hpoint : pointOf r = 1 - ((digitChars (unitsPerOne / units r)).length : ℤ) := if_neg hone
    obtain ⟨n, hn⟩ := Nat.exists_eq_add_one.mpr hlength
    rw [hn, Nat.add_sub_cancel] at hle
    rw [hn] at hlt
    have hpoint' : pointOf r = -(n : ℤ) := by omega
    have hbefore : pointOf r - 1 = -((n + 1 : ℕ) : ℤ) := by omega
    -- The power of ten itself is no binary number, unless it is one.
    have hne : powTen n * units r < unitsPerOne := by
      refine lt_of_le_of_ne hle fun heq => ?_
      rcases Nat.eq_zero_or_pos n with rfl | hpos
      · exact hone (heq.symm.trans (Nat.one_mul _)).le
      · exact powTen_mul_ne_unitsPerOne hpos.ne' heq
    have hten : ∀ k : ℕ, (0 : ℚ) < 10 ^ k := fun k => pow_pos (by norm_num) k
    rw [hbefore, hpoint', zpow_neg, zpow_neg, zpow_natCast, zpow_natCast, inv_mul_le_iff₀ (hten _),
      lt_inv_mul_iff₀ (hten _), ← cast_powTen, ← cast_powTen]
    exact ⟨by exact_mod_cast hlt.le, by exact_mod_cast hne⟩

end Point

/-! ### Significant digits -/

section Significance

variable {d : Decimal} {n : ℕ}

/-- The significant digits of a decimal: those of its digits that are no zeros at the end. -/
def significant (d : Decimal) : List Char := dropTrailingZeros (digitChars d.digits)

/-- The number of significant digits. -/
def significance (d : Decimal) : ℕ := d.significant.length

/-- The significant digits are a row of digits. -/
lemma isRow_significant (d : Decimal) : IsRow d.significant :=
    (isRow_digitChars _).dropTrailingZeros

/-- The value of the significant digits, and how many zeros follow them. -/
lemma exists_digits_eq (d : Decimal) :
    ∃ z, d.digits = Nat.ofDigitChars 10 d.significant 0 * powTen z ∧
      (digitChars d.digits).length = d.significance + z := by
  obtain ⟨z, hz⟩ := exists_dropTrailingZeros_append (digitChars d.digits)
  have hvalue : Nat.ofDigitChars 10 (digitChars d.digits) 0 = d.digits :=
    Nat.ofDigitChars_ten_toDigits
  refine ⟨z, ?_, ?_⟩
  · rw [← hz, Nat.ofDigitChars_append, Nat.ofDigitChars_replicate_zero, Nat.mul_comm] at hvalue
    exact hvalue.symm
  · have hlength := congrArg List.length hz
    rw [List.length_append, List.length_replicate] at hlength
    exact hlength.symm

/-- A decimal that is not read as zero has a significant digit. -/
lemma significance_pos (h : 0 < d.rank) : 0 < d.significance := by
  by_contra hnone
  obtain ⟨z, hdigits, -⟩ := d.exists_digits_eq
  have hnil : d.significant = [] := List.length_eq_zero_iff.mp (Nat.eq_zero_of_not_pos hnone)
  rw [hnil, Nat.ofDigitChars_nil, Nat.zero_mul] at hdigits
  have hrank : d.rank = 0 := if_pos (Or.inl hdigits)
  omega

/-- The digits of a multiple of a power of ten end in as many zeros. -/
lemma digitChars_mul_powTen {m : ℕ} (hm : m ≠ 0) (z : ℕ) :
    digitChars (m * powTen z) = digitChars m ++ List.replicate z '0' := by
  have hwhole := isWhole_digitChars m
  have hzeros : IsWhole (digitChars m ++ List.replicate z '0') (m * powTen z) := by
    refine ⟨hwhole.isRow.append (isRow_replicate z),
      List.append_ne_nil_of_left_ne_nil hwhole.ne_nil _, ?_, ?_⟩
    · intro hhead
      rw [List.head?_append_of_ne_nil _ hwhole.ne_nil] at hhead
      have hvalue := hwhole.value
      rw [hwhole.eq_of_head hhead] at hvalue
      exact absurd hvalue.symm hm
    · rw [Nat.ofDigitChars_append, Nat.ofDigitChars_replicate_zero, hwhole.value, Nat.mul_comm]
      rfl
  exact (isWhole_digitChars _).eq hzeros

/-- Zeros at the end are not significant. -/
lemma significant_mul_powTen {m : ℕ} (hm : m ≠ 0) (z : ℕ) (e e' : ℤ) :
    (⟨m * powTen z, e⟩ : Decimal).significant = (⟨m, e'⟩ : Decimal).significant := by
  rw [significant, significant, digitChars_mul_powTen hm, dropTrailingZeros_append_replicate]

/-- A decimal has at most as many significant digits as its digits have places. -/
lemma significance_le (hn : 0 < n) (h : d.digits ≤ powTen n) : d.significance ≤ n := by
  obtain ⟨z, -, hlength⟩ := d.exists_digits_eq
  rcases Nat.lt_or_eq_of_le h with hlt | heq
  · have hplaces : (digitChars d.digits).length ≤ n :=
      (Nat.length_toDigits_le_iff (by decide) hn).mpr hlt
    omega
  · have hone := significant_mul_powTen one_ne_zero n d.exponent 0
    rw [Nat.one_mul, ← heq] at hone
    have hlength' : d.significance = 1 := congrArg List.length hone
    omega

end Significance

/-! ### Decimals with few digits on the grid -/

section Search

variable {r : ℕ} (hpos : 0 < r) (hr : r < infinityRank)

include hpos hr in
/-- If a decimal is read as a rank, then so is one on the grid with as many digits before the point
of the rank as the decimal has significant digits, or with more of them. -/
lemma exists_grid_of_rank_eq {d : Decimal} (h : d.rank = r) {n : ℕ} (hn : d.significance ≤ n) :
    ∃ k, (⟨k, pointOf r - n⟩ : Decimal).rank = r := by
  obtain ⟨z, hdigits, -⟩ := d.exists_digits_eq
  set m := Nat.ofDigitChars 10 d.significant 0
  have hm : m < powTen n := d.isRow_significant.value_lt.trans_le (powTen_mono hn)
  have hten : (0 : ℚ) < 10 := by norm_num
  have hvalue : d.value = m * (10 : ℚ) ^ (d.exponent + z) := by
    rw [value_eq_mul_zpow, hdigits, zpow_add₀ hten.ne', zpow_natCast, Nat.cast_mul, cast_powTen]
    ring
  by_cases hgrid : pointOf r - n ≤ d.exponent + z
  · -- The decimal lies on the grid.
    obtain ⟨i, hi⟩ := Int.eq_ofNat_of_zero_le (sub_nonneg.mpr hgrid)
    refine ⟨m * powTen i, (rank_eq_of_value_eq ?_).trans h⟩
    have hexp : d.exponent + z = pointOf r - n + i := by omega
    rw [hvalue, value_eq_mul_zpow, hexp, zpow_add₀ hten.ne', zpow_natCast, Nat.cast_mul,
      cast_powTen]
    ring
  · -- The decimal lies below the power of ten in front of the rank, which is on every grid.
    have hsome : 0 < n := (significance_pos (h ▸ hpos)).trans_le hn
    have hnearest := (rank_eq_iff hr).mp h
    refine ⟨powTen (n - 1), (rank_eq_iff hr).mpr (hnearest.of_between (Or.inl ⟨?_, ?_⟩))⟩
    · rw [hvalue, value_eq_mul_zpow, cast_powTen, ← zpow_natCast, ← zpow_add₀ hten.ne']
      calc (m : ℚ) * 10 ^ (d.exponent + z) ≤ 10 ^ (n : ℤ) * 10 ^ (d.exponent + z) := by
            refine mul_le_mul_of_nonneg_right ?_ (zpow_pos hten _).le
            rw [zpow_natCast, ← cast_powTen]
            exact Nat.cast_le.mpr hm.le
        _ = 10 ^ (n + (d.exponent + z)) := (zpow_add₀ hten.ne' _ _).symm
        _ ≤ 10 ^ (((n - 1 : ℕ) : ℤ) + (pointOf r - n)) := by
            refine zpow_le_zpow_right₀ (by norm_num) ?_
            omega
    · have hexp : ((n - 1 : ℕ) : ℤ) + (pointOf r - n) = pointOf r - 1 := by omega
      rw [value_eq_mul_zpow, cast_powTen, ← zpow_natCast, ← zpow_add₀ hten.ne', hexp]
      exact (pointOf_bounds hpos).1

include hpos hr in
/-- On the grid with 17 digits before the point of a rank, a decimal is read as the rank. -/
lemma exists_grid_seventeen : ∃ k, (⟨k, pointOf r - 17⟩ : Decimal).rank = r := by
  obtain ⟨hpoint, -⟩ := pointOf_bounds hpos
  have hten : (0 : ℚ) < 10 := by norm_num
  have hstep : (0 : ℚ) < 10 ^ (pointOf r - 17) := zpow_pos hten _
  have hsmall : (10 : ℚ) ^ 16 * 10 ^ (pointOf r - 17) ≤ magnitude r := by
    have hexp : (10 : ℚ) ^ 16 * 10 ^ (pointOf r - 17) = 10 ^ (pointOf r - 1) := by
      rw [← zpow_natCast, ← zpow_add₀ hten.ne']
      congr 1
      push_cast
      ring
    rwa [hexp]
  set num := units r * powTen (-(pointOf r - 17)).toNat
  set den := unitsPerOne * powTen (pointOf r - 17).toNat
  have hden : 0 < den := Nat.mul_pos unitsPerOne_pos (powTen_pos _)
  refine ⟨roundHalfEven num den, (rank_eq_iff hr).mpr (isNearestRank_of_abs_sub_lt ?_)⟩
  have hround := (isNearestEven_roundHalfEven num hden).abs_sub_le
  rw [Int.cast_natCast, abs_sub_comm] at hround
  have hdist : |(⟨roundHalfEven num den, pointOf r - 17⟩ : Decimal).value - magnitude r| ≤
      1 / 2 * 10 ^ (pointOf r - 17) := by
    rw [value_eq_mul_zpow, magnitude_eq_mul_zpow r (pointOf r - 17), ← sub_mul, abs_mul,
      abs_of_pos hstep]
    exact mul_le_mul_of_nonneg_right hround hstep.le
  linarith

include hpos hr in
/-- The shortest decimal is found on a grid, and none is found on the grids with fewer digits. -/
lemma exists_onGrid?_eq_shortest :
    ∃ n : ℕ, 0 < n ∧ n ≤ 17 ∧ onGrid? r (pointOf r - n) = some (shortest r) ∧
      ∀ m : ℕ, 0 < m → m < n → onGrid? r (pointOf r - m) = none := by
  obtain ⟨k, hk⟩ := exists_grid_seventeen hpos hr
  obtain ⟨last, hlast⟩ := exists_onGrid?_eq_some hr hk
  have hfound :
      ((List.range' 1 17).findSome? fun n : ℕ => onGrid? r (pointOf r - n)).isSome = true :=
    List.findSome?_isSome_iff.mpr ⟨17, by decide,
      by rw [Option.isSome_iff_exists]; exact ⟨last, hlast⟩⟩
  obtain ⟨d, hd⟩ := Option.isSome_iff_exists.mp hfound
  have hshortest : shortest r = d := by
    rw [shortest, if_neg hpos.ne', hd]
    rfl
  obtain ⟨front, n, back, hsplit, hn, hnone⟩ := List.findSome?_eq_some_iff.mp hd
  obtain ⟨i, hi, rfl, hback⟩ := List.range'_eq_append_iff.mp hsplit
  have hhead : n = 1 + i ∧ i < 17 := by
    rcases Nat.lt_or_ge i 17 with hlt | hge
    · obtain ⟨rest, hrest⟩ := Nat.exists_eq_add_one.mpr (Nat.sub_pos_of_lt hlt)
      rw [hrest, List.range'_succ, List.cons_eq_cons] at hback
      exact ⟨by omega, hlt⟩
    · rw [Nat.sub_eq_zero_of_le hge, List.range'_zero] at hback
      cases hback
  refine ⟨n, by omega, by omega, hshortest ▸ hn, fun m hm hlt => hnone m ?_⟩
  rw [List.mem_range'_1]
  omega

include hpos hr in
/-- No decimal that is read as a rank has fewer significant digits than the shortest one. -/
lemma significance_shortest_le {d : Decimal} (h : d.rank = r) :
    (shortest r).significance ≤ d.significance := by
  obtain ⟨n, hn, hle, hfound, hnone⟩ := exists_onGrid?_eq_shortest hpos hr
  obtain ⟨hexponent, hdigits⟩ := of_onGrid?_eq_some hfound
  have hten : (0 : ℚ) < 10 := by norm_num
  have hbound : (shortest r).digits ≤ powTen n := by
    have hlt : (gridBelow r (pointOf r - n) : ℚ) < powTen n := by
      have hstep : (0 : ℚ) < 10 ^ (pointOf r - n) := zpow_pos hten _
      refine lt_of_mul_lt_mul_right ?_ hstep.le
      rw [cast_powTen, ← zpow_natCast, ← zpow_add₀ hten.ne', add_sub_cancel]
      exact (gridBelow_bounds r (pointOf r - n)).1.trans_lt (pointOf_bounds hpos).2
    exact hdigits.trans (Nat.succ_le_of_lt (by exact_mod_cast hlt))
  refine (significance_le hn hbound).trans ?_
  by_contra hlt
  obtain ⟨k, hk⟩ := exists_grid_of_rank_eq hpos hr h le_rfl
  obtain ⟨d', hd'⟩ := exists_onGrid?_eq_some hr hk
  rw [hnone d.significance (significance_pos (h ▸ hpos)) (Nat.lt_of_not_le hlt)] at hd'
  cases hd'

end Search

/-- The shortest decimal of a finite rank is read as the rank. -/
lemma rank_shortest {r : ℕ} (hr : r < infinityRank) : (shortest r).rank = r := by
  rcases Nat.eq_zero_or_pos r with rfl | hpos
  · exact if_pos (Or.inl rfl)
  · obtain ⟨n, -, -, hfound, -⟩ := exists_onGrid?_eq_shortest hpos hr
    exact rank_of_onGrid? hfound

end Decimal

end ReplayCalculator
