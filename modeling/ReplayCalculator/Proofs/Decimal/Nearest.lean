import Mathlib.Tactic.Lemma
import Mathlib.Tactic.Ring
import ReplayCalculator.Decimal.Fixed

/-!
# Six decimals survive binary64

A binary64 number is rounded to a whole number of millionths, and the millionths go to the nearest
binary64 number. The result need not be the number that one began with, but it has the same number
of millionths: `placesOf_nearestRank`.

Two grids are compared, the millionths and the binary64 numbers, and which of them is finer depends
on the magnitude.

* Below `2 ^ 33` neighbouring binary64 numbers are at most `2 ^ (-20)` apart, less than a millionth.
  The nearest one is less than half a millionth away from the millionths
  (`placesOf_nearestRank_of_lt`).
* From `2 ^ 33` on they are at least `2 ^ (-19)` apart, more than a millionth. The millionths are
  less than half a step away from the number that one began with, so that it is the nearest one
  (`nearestRank_placesOf_of_lt`). At the lower end of a binade, where the numbers below are closer,
  it is a whole number, and nothing is rounded.
-/

namespace ReplayCalculator

/-! ### Rounding -/

/-- A quotient is rounded to the number that it is less than half a unit away from. -/
lemma roundHalfEven_eq_of_near {num den n : Nat} (hlow : 2 * (den * n) < 2 * num + den)
    (hhigh : 2 * num < 2 * (den * n) + den) : roundHalfEven num den = n := by
  have hden : 0 < den := by omega
  have hle := roundHalfEven_le num den
  have hge := le_roundHalfEven num hden
  have hupper : roundHalfEven num den < n + 1 := by
    apply Nat.lt_of_mul_lt_mul_left (a := den)
    rw [Nat.mul_add]
    omega
  have hlower : n < roundHalfEven num den + 1 := by
    apply Nat.lt_of_mul_lt_mul_left (a := den)
    rw [Nat.mul_add]
    omega
  omega

/-- A quotient is rounded in the same way if numerator and denominator are multiplied by a
number. -/
lemma roundHalfEven_mul_mul (num den : Nat) {c : Nat} (hc : 0 < c) :
    roundHalfEven (num * c) (den * c) = roundHalfEven num den := by
  have hmod : 2 * (num % den * c) = 2 * (num % den) * c := by rw [Nat.mul_assoc]
  rw [roundHalfEven_eq, roundHalfEven_eq, Nat.mul_mod_mul_right, Nat.mul_div_mul_right _ _ hc, hmod]
  simp only [Nat.mul_lt_mul_right hc]

namespace Binary64

/-! ### Steps of a binade -/

/-- The units of a rank that lies `t` steps behind the start of binade `e`; the step to the next
binade is counted in either of the two. -/
lemma units_binade {e t : Nat} (ht : t ≤ 2 * binade) (h : e = 0 ∨ binade ≤ t) :
    units (e * binade + t) = t * 2 ^ e := by
  have hbinade : 0 < binade := by decide
  by_cases hsmall : t < binade
  · obtain rfl : e = 0 := h.resolve_right (by omega)
    rw [Nat.zero_mul, Nat.zero_add, units_of_lt hsmall, Nat.pow_zero, Nat.mul_one]
  · have hlarge : binade ≤ e * binade + t :=
      Nat.le_trans (Nat.le_of_not_lt hsmall) (Nat.le_add_left t _)
    rw [units_of_le hlarge, Nat.shiftLeft_eq]
    by_cases hlast : t = 2 * binade
    · have hrank : e * binade + t = (e + 2) * binade := by rw [hlast, Nat.add_mul]
      rw [hrank, Nat.mul_mod_left, Nat.mul_div_cancel _ hbinade, hlast, Nat.add_zero,
        Nat.add_sub_assoc (by omega), Nat.pow_succ, Nat.mul_comm 2 binade, Nat.mul_assoc,
        Nat.mul_comm 2]
    · have hrank : e * binade + t = (t - binade) + (e + 1) * binade := by
        rw [Nat.add_mul]
        omega
      rw [hrank, Nat.add_mul_mod_self_right, Nat.mod_eq_of_lt (by omega),
        Nat.add_mul_div_right _ _ hbinade, Nat.div_eq_of_lt (by omega)]
      have hback : binade + (t - binade) = t := by omega
      rw [hback, Nat.zero_add, Nat.add_sub_cancel]

/-- Every rank lies so many steps behind the start of a binade. -/
lemma exists_binade (r : Nat) :
    ∃ e t, r = e * binade + t ∧ t < 2 * binade ∧ (e = 0 ∨ binade ≤ t) := by
  have hbinade : 0 < binade := by decide
  have hmod := Nat.mod_lt r hbinade
  have hdiv := Nat.div_add_mod' r binade
  by_cases hsmall : r < binade
  · exact ⟨0, r, by omega, by omega, Or.inl rfl⟩
  · have hpos : 1 ≤ r / binade := (Nat.one_le_div_iff hbinade).mpr (by omega)
    refine ⟨r / binade - 1, binade + r % binade, ?_, by omega, Or.inr (by omega)⟩
    rw [Nat.sub_mul, Nat.one_mul]
    have hle : binade ≤ r / binade * binade := Nat.le_mul_of_pos_left _ hpos
    omega

/-! ### The nearest rank -/

/-- The binade in which a quotient lies: around it numbers are `2 ^ binadeOf num den` units
apart. -/
def binadeOf (num den : Nat) : Nat := (num * unitsPerOne / den).log2 - 52

/-- The number of steps of its binade that a quotient is rounded to. -/
def stepsOf (num den : Nat) : Nat :=
  roundHalfEven (num * unitsPerOne) (den * 2 ^ binadeOf num den)

/-- The nearest rank, by binade and steps. -/
lemma nearestRank_eq (num den : Nat) :
    nearestRank num den = min (binadeOf num den * binade + stepsOf num den) infinityRank := by
  simp only [nearestRank, stepsOf, binadeOf, Nat.shiftLeft_eq]

variable {num den : Nat}

/-- A quotient lies below the end of its binade. -/
lemma lt_binadeOf (num : Nat) (hden : 0 < den) :
    num * unitsPerOne < 2 * binade * (den * 2 ^ binadeOf num den) := by
  have hlog : num * unitsPerOne / den < 2 ^ (binadeOf num den + 53) := by
    refine Nat.lt_of_lt_of_le Nat.lt_log2_self (Nat.pow_le_pow_right (by decide) ?_)
    unfold binadeOf
    omega
  have hmul := (Nat.div_lt_iff_lt_mul hden).mp hlog
  have hpow : 2 ^ (binadeOf num den + 53) * den = 2 * binade * (den * 2 ^ binadeOf num den) := by
    rw [Nat.pow_add, Nat.mul_comm den, ← Nat.mul_assoc, Nat.mul_comm (2 * binade)]
    rfl
  rw [← hpow]
  exact hmul

/-- A quotient does not lie below the start of its binade, unless that is the first one. -/
lemma binadeOf_le (num : Nat) (hden : 0 < den) :
    binadeOf num den = 0 ∨ binade * (den * 2 ^ binadeOf num den) ≤ num * unitsPerOne := by
  by_cases hlog : (num * unitsPerOne / den).log2 ≤ 52
  · exact Or.inl (Nat.sub_eq_zero_of_le hlog)
  · refine Or.inr ?_
    have hpos : num * unitsPerOne / den ≠ 0 := by
      intro hzero
      rw [hzero] at hlog
      exact hlog (by decide)
    have hexp : binadeOf num den + 52 = (num * unitsPerOne / den).log2 := by
      unfold binadeOf
      omega
    have hself := Nat.log2_self_le hpos
    rw [← hexp] at hself
    have hmul := (Nat.le_div_iff_mul_le hden).mp hself
    have hpow : 2 ^ (binadeOf num den + 52) * den = binade * (den * 2 ^ binadeOf num den) := by
      rw [Nat.pow_add, Nat.mul_comm den, ← Nat.mul_assoc, Nat.mul_comm binade]
      rfl
    rw [← hpow]
    exact hmul

/-- A quotient that does not lie below one binade, and below the end of another one, tells which of
them comes first. -/
lemma le_of_binade {e e' : Nat} (hlow : e = 0 ∨ binade * (den * 2 ^ e) ≤ num * unitsPerOne)
    (hhigh : num * unitsPerOne < 2 * binade * (den * 2 ^ e')) : e ≤ e' := by
  rcases hlow with rfl | hlow
  · exact Nat.zero_le _
  · have hlt : (binade * den) * 2 ^ e < (binade * den) * 2 ^ (e' + 1) := by
      have hnext : (binade * den) * 2 ^ (e' + 1) = 2 * binade * (den * 2 ^ e') := by
        rw [Nat.pow_succ, Nat.mul_comm (2 ^ e') 2, ← Nat.mul_assoc, ← Nat.mul_assoc,
          Nat.mul_comm (binade * den) 2, ← Nat.mul_assoc]
      rw [hnext, Nat.mul_assoc]
      exact Nat.lt_of_le_of_lt hlow hhigh
    have hpow := Nat.lt_of_mul_lt_mul_left hlt
    have hexp := (Nat.pow_lt_pow_iff_right (by decide)).mp hpow
    omega

/-- There is only one binade in which a quotient lies. -/
lemma binadeOf_eq {e : Nat} (hden : 0 < den)
    (hlow : e = 0 ∨ binade * (den * 2 ^ e) ≤ num * unitsPerOne)
    (hhigh : num * unitsPerOne < 2 * binade * (den * 2 ^ e)) : binadeOf num den = e := by
  have hle := le_of_binade (binadeOf_le num hden) hhigh
  have hge := le_of_binade hlow (lt_binadeOf num hden)
  omega

/-- The nearest rank depends on nothing but the quotient. -/
lemma nearestRank_mul_mul (num den : Nat) {c : Nat} (hc : 0 < c) :
    nearestRank (num * c) (den * c) = nearestRank num den := by
  have hnum : num * c * unitsPerOne = num * unitsPerOne * c := Nat.mul_right_comm _ _ _
  have hscaled : den * c * 2 ^ binadeOf num den = den * 2 ^ binadeOf num den * c :=
    Nat.mul_right_comm _ _ _
  have hbinade : binadeOf (num * c) (den * c) = binadeOf num den := by
    simp only [binadeOf, hnum, Nat.mul_div_mul_right _ _ hc]
  rw [nearestRank_eq, nearestRank_eq, stepsOf, stepsOf, hbinade, hnum, hscaled,
    roundHalfEven_mul_mul _ _ hc]

/-- A quotient is rounded to as many steps as its binade and the next one have, at most. -/
lemma stepsOf_le (num : Nat) (hden : 0 < den) : stepsOf num den ≤ 2 * binade := by
  have hlt := lt_binadeOf num hden
  have hround := roundHalfEven_le (num * unitsPerOne) (den * 2 ^ binadeOf num den)
  have hpos : 0 < den * 2 ^ binadeOf num den := Nat.mul_pos hden (Nat.two_pow_pos _)
  have hsteps : stepsOf num den < 2 * binade + 1 := by
    apply Nat.lt_of_mul_lt_mul_left (a := den * 2 ^ binadeOf num den)
    rw [Nat.mul_add, Nat.mul_comm _ (2 * binade), stepsOf]
    omega
  omega

/-- A quotient is rounded to as many steps as lie before its binade, at least. -/
lemma le_stepsOf (num : Nat) (hden : 0 < den) :
    binadeOf num den = 0 ∨ binade ≤ stepsOf num den := by
  refine (binadeOf_le num hden).imp_right fun hlow => ?_
  have hpos : 0 < den * 2 ^ binadeOf num den := Nat.mul_pos hden (Nat.two_pow_pos _)
  have hround := le_roundHalfEven (num * unitsPerOne) hpos
  have hsteps : binade < stepsOf num den + 1 := by
    apply Nat.lt_of_mul_lt_mul_left (a := den * 2 ^ binadeOf num den)
    rw [Nat.mul_add, Nat.mul_comm _ binade, stepsOf]
    omega
  omega

/-- The nearest rank, multiplied by the denominator, has the units of its steps. -/
lemma units_nearestRank_mul (num : Nat) {den : Nat} (hden : 0 < den)
    (h : nearestRank num den < infinityRank) :
    units (nearestRank num den) * den = den * 2 ^ binadeOf num den * stepsOf num den := by
  rw [nearestRank_eq] at h ⊢
  rw [Nat.min_eq_left (by omega), units_binade (stepsOf_le num hden) (le_stepsOf num hden),
    Nat.mul_comm, Nat.mul_comm (stepsOf num den), Nat.mul_assoc]

/-- The nearest rank is at most half a step above the quotient. -/
lemma units_nearestRank_le (num : Nat) {den : Nat} (hden : 0 < den)
    (h : nearestRank num den < infinityRank) :
    2 * (units (nearestRank num den) * den) ≤
      2 * (num * unitsPerOne) + den * 2 ^ binadeOf num den := by
  rw [units_nearestRank_mul num hden h]
  exact roundHalfEven_le _ _

/-- The nearest rank is at most half a step below the quotient. -/
lemma le_units_nearestRank (num : Nat) {den : Nat} (hden : 0 < den)
    (h : nearestRank num den < infinityRank) :
    2 * (num * unitsPerOne) ≤
      2 * (units (nearestRank num den) * den) + den * 2 ^ binadeOf num den := by
  rw [units_nearestRank_mul num hden h]
  exact le_roundHalfEven _ (Nat.mul_pos hden (Nat.two_pow_pos _))

end Binary64

/-! ### Millionths -/

namespace Decimal

open Binary64

/-- The last binade whose steps are shorter than a millionth. Its numbers lie below `2 ^ 33`. It is
irreducible so that its powers of two are not computed. -/
@[irreducible]
def lastFineBinade : Nat := 1054

/-- The number one has `2 ^ 20` steps of the last fine binade. -/
lemma unitsPerOne_eq : unitsPerOne = 1048576 * 2 ^ lastFineBinade := by
  have hunits : unitsPerOne = 1 <<< (20 + lastFineBinade) := by
    unfold lastFineBinade
    rfl
  rw [hunits, Nat.shiftLeft_eq, Nat.one_mul, Nat.pow_add]

/-- The number one has units. -/
lemma unitsPerOne_pos : 0 < unitsPerOne := by
  rw [unitsPerOne_eq]
  exact Nat.mul_pos (by decide) (Nat.two_pow_pos _)

/-- The millionths of a number are at most half a millionth above it. -/
lemma placesOf_mul_le (r : Nat) :
    2 * (placesOf 6 r * unitsPerOne) ≤ 2 * (units r * powTen 6) + unitsPerOne := by
  rw [Nat.mul_comm (placesOf 6 r)]
  exact roundHalfEven_le _ _

/-- The millionths of a number are at most half a millionth below it. -/
lemma le_placesOf_mul (r : Nat) :
    2 * (units r * powTen 6) ≤ 2 * (placesOf 6 r * unitsPerOne) + unitsPerOne := by
  rw [Nat.mul_comm (placesOf 6 r)]
  exact le_roundHalfEven _ unitsPerOne_pos

/-- A step of a fine binade is shorter than a millionth. -/
lemma powTen_six_mul_lt {e : Nat} (he : e ≤ lastFineBinade) : powTen 6 * 2 ^ e < unitsPerOne := by
  have hpow : 2 ^ e ≤ 2 ^ lastFineBinade := Nat.pow_le_pow_right (by decide) he
  have hpos : 0 < 2 ^ lastFineBinade := Nat.two_pow_pos _
  have hmillion : powTen 6 = 1000000 := rfl
  rw [unitsPerOne_eq, hmillion]
  omega

/-- Fewer than `2 ^ 33` million millionths lie in one of the fine binades. -/
lemma binadeOf_le_of_lt {n : Nat} (hn : n < 8589934592 * powTen 6) :
    binadeOf n (powTen 6) ≤ lastFineBinade := by
  refine le_of_binade (binadeOf_le n (powTen_pos 6)) ?_
  have hmul := Nat.mul_lt_mul_of_pos_right hn (Nat.two_pow_pos lastFineBinade)
  have hbinade : 2 * binade = 8589934592 * 1048576 := rfl
  rw [unitsPerOne_eq, hbinade, Nat.mul_comm 1048576, ← Nat.mul_assoc, Nat.mul_assoc 8589934592,
    Nat.mul_comm 1048576, ← Nat.mul_assoc, ← Nat.mul_assoc]
  exact Nat.mul_lt_mul_of_pos_right hmul (by decide)

/-- Below `2 ^ 33`, the number nearest to so many millionths has so many millionths. -/
lemma placesOf_nearestRank_of_lt {n : Nat} (hn : n < 8589934592 * powTen 6) :
    nearestRank n (powTen 6) < infinityRank ∧ placesOf 6 (nearestRank n (powTen 6)) = n := by
  have hden : 0 < powTen 6 := powTen_pos 6
  have hexp := binadeOf_le_of_lt hn
  have hfinite : nearestRank n (powTen 6) < infinityRank := by
    have hsteps := stepsOf_le n hden
    have hmul := Nat.mul_le_mul_right binade hexp
    have hlast : lastFineBinade * binade + 2 * binade < infinityRank := by
      unfold lastFineBinade
      decide
    rw [nearestRank_eq]
    omega
  refine ⟨hfinite, ?_⟩
  have hle := units_nearestRank_le n hden hfinite
  have hge := le_units_nearestRank n hden hfinite
  have hstep := powTen_six_mul_lt hexp
  rw [Nat.mul_comm n] at hle hge
  exact roundHalfEven_eq_of_near (by omega) (by omega)

/-- A step of a binade behind the fine ones is longer than a millionth. -/
lemma unitsPerOne_lt {e : Nat} (he : lastFineBinade < e) : unitsPerOne < powTen 6 * 2 ^ e := by
  have hpow : 2 ^ (lastFineBinade + 1) ≤ 2 ^ e := Nat.pow_le_pow_right (by decide) he
  have hpos : 0 < 2 ^ lastFineBinade := Nat.two_pow_pos _
  have hmillion : powTen 6 = 1000000 := rfl
  rw [Nat.pow_succ] at hpow
  rw [unitsPerOne_eq, hmillion]
  omega

/-- Behind the fine binades, the number at the start of a binade is a whole number. -/
lemma placesOf_binade {e : Nat} (he : lastFineBinade < e) :
    placesOf 6 (e * binade + binade) * unitsPerOne = binade * (powTen 6 * 2 ^ e) := by
  obtain ⟨d, rfl⟩ : ∃ d, e = lastFineBinade + 1 + d := ⟨e - (lastFineBinade + 1), by omega⟩
  have hwhole : units (((lastFineBinade + 1 + d) * binade) + binade) =
      8589934592 * 2 ^ d * unitsPerOne := by
    have hbinade : binade = 4503599627370496 := rfl
    have hpow : 2 ^ (lastFineBinade + 1 + d) = 2 ^ lastFineBinade * 2 * 2 ^ d := by
      rw [Nat.pow_add, Nat.pow_succ]
    rw [units_binade (by omega) (Or.inr (Nat.le_refl _)), unitsPerOne_eq, hpow, hbinade]
    ring
  have hplaces : placesOf 6 ((lastFineBinade + 1 + d) * binade + binade) =
      8589934592 * 2 ^ d * powTen 6 := by
    rw [placesOf, hwhole, Nat.mul_right_comm, roundHalfEven_mul _ unitsPerOne_pos]
  rw [hplaces, Nat.mul_right_comm, ← hwhole, units_binade (by omega) (Or.inr (Nat.le_refl _)),
    Nat.mul_assoc, Nat.mul_comm (2 ^ _)]

/-- Behind the fine binades, a number is the one nearest to its millionths. -/
lemma nearestRank_placesOf_of_lt {e t : Nat} (he : lastFineBinade < e) (hlow : binade ≤ t)
    (hhigh : t < 2 * binade) (hfinite : e * binade + t < infinityRank) :
    nearestRank (placesOf 6 (e * binade + t)) (powTen 6) = e * binade + t := by
  have hden : 0 < powTen 6 := powTen_pos 6
  have hunit := unitsPerOne_lt he
  have hbinade : binade = 4503599627370496 := rfl
  -- Both grids are compared in steps of the binade.
  have hunits : units (e * binade + t) * powTen 6 = powTen 6 * 2 ^ e * t := by
    rw [units_binade (by omega) (Or.inr hlow), Nat.mul_comm, Nat.mul_comm t, Nat.mul_assoc]
  have hle := placesOf_mul_le (e * binade + t)
  have hge := le_placesOf_mul (e * binade + t)
  rw [hunits] at hle hge
  have hstart : binade * (powTen 6 * 2 ^ e) ≤ placesOf 6 (e * binade + t) * unitsPerOne := by
    by_cases hfirst : t = binade
    · rw [hfirst, placesOf_binade he]
    · have hnext : powTen 6 * 2 ^ e * (binade + 1) ≤ powTen 6 * 2 ^ e * t :=
        Nat.mul_le_mul_left _ (by omega)
      rw [Nat.mul_add, Nat.mul_one, Nat.mul_comm _ binade] at hnext
      omega
  have hend : placesOf 6 (e * binade + t) * unitsPerOne < 2 * binade * (powTen 6 * 2 ^ e) := by
    have hlast : powTen 6 * 2 ^ e * (t + 1) ≤ powTen 6 * 2 ^ e * (2 * binade) :=
      Nat.mul_le_mul_left _ hhigh
    rw [Nat.mul_add, Nat.mul_one, Nat.mul_comm _ (2 * binade)] at hlast
    omega
  have hexp : binadeOf (placesOf 6 (e * binade + t)) (powTen 6) = e :=
    binadeOf_eq hden (Or.inr hstart) hend
  have hsteps : stepsOf (placesOf 6 (e * binade + t)) (powTen 6) = t := by
    rw [stepsOf, hexp]
    exact roundHalfEven_eq_of_near (by omega) (by omega)
  rw [nearestRank_eq, hexp, hsteps]
  exact Nat.min_eq_left (Nat.le_of_lt hfinite)

/-- A number of at least `2 ^ 33` million millionths lies behind the fine binades: the last number
of these is more than half a millionth below. -/
lemma lastFineBinade_lt {e t : Nat} (hhigh : t < 2 * binade) (hlow : e = 0 ∨ binade ≤ t)
    (hmany : 8589934592 * powTen 6 ≤ placesOf 6 (e * binade + t)) : lastFineBinade < e := by
  apply Nat.lt_of_not_le
  intro hearly
  have hmillion : powTen 6 = 1000000 := rfl
  have hbinade : binade = 4503599627370496 := rfl
  have hpos : 0 < 2 ^ lastFineBinade := Nat.two_pow_pos _
  have hpow : 2 ^ e ≤ 2 ^ lastFineBinade := Nat.pow_le_pow_right (by decide) hearly
  have hunits : units (e * binade + t) ≤ 9007199254740991 * 2 ^ lastFineBinade := by
    rw [units_binade (Nat.le_of_lt hhigh) hlow]
    exact Nat.mul_le_mul (by omega) hpow
  have hcount := Nat.mul_le_mul_right unitsPerOne hmany
  have hround := placesOf_mul_le (e * binade + t)
  rw [unitsPerOne_eq] at hcount hround
  rw [hmillion] at hcount hround
  omega

/-- The number nearest to the millionths of a number has the same number of millionths. -/
theorem placesOf_nearestRank {r : Nat} (hr : r < infinityRank) :
    nearestRank (placesOf 6 r) (powTen 6) < infinityRank ∧
      placesOf 6 (nearestRank (placesOf 6 r) (powTen 6)) = placesOf 6 r := by
  by_cases hfew : placesOf 6 r < 8589934592 * powTen 6
  · exact placesOf_nearestRank_of_lt hfew
  · obtain ⟨e, t, rfl, hhigh, hlow⟩ := exists_binade r
    have hlate := lastFineBinade_lt hhigh hlow (Nat.le_of_not_lt hfew)
    have hback := nearestRank_placesOf_of_lt hlate (by omega) hhigh hr
    rw [hback]
    exact ⟨hr, rfl⟩

end Decimal

end ReplayCalculator
