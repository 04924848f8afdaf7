import Mathlib.Data.Rat.Floor
import ReplayCalculator.Decimal.Rounding

/-!
# The nearest whole number

Rounding to the nearest is said here about rational numbers, without quotient and remainder: no
whole number is nearer, and of two that are equally near the even one is taken. There is only one
such number (`IsNearestEven.eq`), and for a quotient it is the one that is computed
(`isNearestEven_roundHalfEven`).
-/

namespace ReplayCalculator

/-- Whether a whole number is the nearest one to `q`, of two equally near ones the even one. -/
structure IsNearestEven (n : ℤ) (q : ℚ) : Prop where
  nearest : ∀ m : ℤ, |q - n| ≤ |q - m|
  even_of_tie : ∀ m : ℤ, m ≠ n → |q - m| = |q - n| → Even n

section Nearest

variable {m n : ℤ} {q : ℚ}

/-- Two whole numbers are at least one apart. -/
lemma one_le_abs_add_abs (hne : m ≠ n) : 1 ≤ |q - m| + |q - n| := by
  have hapart : (1 : ℤ) ≤ |n - m| := Int.one_le_abs (sub_ne_zero.mpr (Ne.symm hne))
  have hcast : (1 : ℚ) ≤ |(n : ℚ) - m| := by exact_mod_cast hapart
  calc (1 : ℚ) ≤ |(n : ℚ) - m| := hcast
    _ = |(q - m) - (q - n)| := by rw [sub_sub_sub_cancel_left]
    _ ≤ |q - m| + |q - n| := abs_sub _ _

/-- A whole number at most one half away is the nearest one. -/
lemma isNearestEven_of_abs_le (hle : |q - n| ≤ 1 / 2) (htie : |q - n| = 1 / 2 → Even n) :
    IsNearestEven n q := by
  constructor
  · intro m
    by_cases hne : m = n
    · rw [hne]
    · have hapart := one_le_abs_add_abs (q := q) hne
      linarith
  · intro m hne heq
    have hapart := one_le_abs_add_abs (q := q) hne
    exact htie (by linarith)

/-- The nearest whole number is at most one half away. -/
lemma IsNearestEven.abs_sub_le (h : IsNearestEven n q) : |q - n| ≤ 1 / 2 :=
  (h.nearest (round q)).trans (abs_sub_round q)

/-- The nearest millionth is at most half a millionth away. -/
lemma IsNearestEven.abs_div_sub_le (h : IsNearestEven n (q * 10 ^ 6)) :
    |(n : ℚ) / 10 ^ 6 - q| ≤ 5 / 10 ^ 7 := by
  obtain ⟨hlow, hhigh⟩ := abs_le.mp h.abs_sub_le
  refine abs_le.mpr ⟨?_, ?_⟩
  · linarith
  · linarith

/-- There is only one nearest whole number, for there is only one even one among two neighbours. -/
theorem IsNearestEven.eq (hm : IsNearestEven m q) (hn : IsNearestEven n q) : m = n := by
  by_contra hne
  have htie : |q - m| = |q - n| := le_antisymm (hm.nearest n) (hn.nearest m)
  have heven : Even (m - n) :=
    (hm.even_of_tie n (Ne.symm hne) htie.symm).sub (hn.even_of_tie m hne htie)
  have hdist : |(m : ℚ) - n| ≤ 1 := by
    calc |(m : ℚ) - n| = |(q - n) - (q - m)| := by rw [sub_sub_sub_cancel_left]
      _ ≤ |q - n| + |q - m| := abs_sub _ _
      _ ≤ 1 := by linarith [hm.abs_sub_le, hn.abs_sub_le]
  have hdist' : |m - n| ≤ 1 := by exact_mod_cast hdist
  obtain ⟨k, hk⟩ := heven
  rw [abs_le] at hdist'
  omega

end Nearest

/-- A quotient halfway between two whole numbers goes to the even one. -/
lemma even_roundHalfEven (num : ℕ) {den : ℕ} (hden : 0 < den)
    (htie : 2 * num = 2 * (den * roundHalfEven num den) + den ∨
      2 * (den * roundHalfEven num den) = 2 * num + den) : Even (roundHalfEven num den) := by
  have hdiv := Nat.div_add_mod num den
  have hmod := Nat.mod_lt num hden
  rw [Nat.even_iff]
  rw [roundHalfEven_eq] at htie ⊢
  by_cases hbelow : 2 * (num % den) < den
  · rw [if_pos hbelow] at htie
    omega
  · rw [if_neg hbelow] at htie ⊢
    by_cases habove : den < 2 * (num % den)
    · rw [if_pos habove, Nat.mul_add] at htie
      omega
    · rw [if_neg habove]
      omega

/-- Quotients go to the nearest whole number, ties to the even one. -/
lemma isNearestEven_roundHalfEven (num : ℕ) {den : ℕ} (hden : 0 < den) :
    IsNearestEven (roundHalfEven num den : ℕ) ((num : ℚ) / den) := by
  have hle := roundHalfEven_le num den
  have hge := le_roundHalfEven num hden
  have heven := even_roundHalfEven num hden
  have hpos : (0 : ℚ) < den := Nat.cast_pos.mpr hden
  generalize roundHalfEven num den = n at hle hge heven
  have hdist : |(num : ℚ) / den - n| * den = |(num : ℚ) - den * n| := by
    calc |(num : ℚ) / den - n| * den = |((num : ℚ) / den - n) * den| := by
          rw [abs_mul, abs_of_pos hpos]
      _ = |(num : ℚ) - den * n| := by rw [sub_mul, div_mul_cancel₀ _ hpos.ne', mul_comm (n : ℚ)]
  refine isNearestEven_of_abs_le ?_ ?_
  · have hle' : 2 * ((den : ℚ) * n) ≤ 2 * num + den := by exact_mod_cast hle
    have hge' : 2 * (num : ℚ) ≤ 2 * (den * n) + den := by exact_mod_cast hge
    have hbound : |(num : ℚ) - den * n| ≤ 1 / 2 * den := by
      refine abs_le.mpr ⟨?_, ?_⟩
      · linarith
      · linarith
    rw [← hdist] at hbound
    exact le_of_mul_le_mul_right hbound hpos
  · intro htie
    rw [Int.cast_natCast] at htie
    rw [htie] at hdist
    rw [Int.even_coe_nat]
    apply heven
    rcases abs_choice ((num : ℚ) - den * n) with habs | habs
    · refine Or.inl ?_
      have htwice : 2 * (num : ℚ) = 2 * (den * n) + den := by linarith
      exact_mod_cast htwice
    · refine Or.inr ?_
      have htwice : 2 * ((den : ℚ) * n) = 2 * num + den := by linarith
      exact_mod_cast htwice

end ReplayCalculator
