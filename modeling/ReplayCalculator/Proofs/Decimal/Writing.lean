import ReplayCalculator.Proofs.Decimal.Shortest

/-!
# Decimals that are written and read back

In every layout a decimal is written with its significant digits, and perhaps with zeros that are
not significant, in front of them to get to the point or behind them. What is read back has these
zeros among its digits, but it has the same value and the same number of significant digits
(`exists_readDecimal?_write`).
-/

namespace ReplayCalculator.Decimal

open Numeral

/-- An exponent is read back. -/
lemma readExponent?_exponentPart (width : ℕ) (e : ℤ) :
    readExponent? (exponentPart width e) = some e := by
  have hrow : (padded width (digitChars e.natAbs)).all isDigit = true :=
    List.all_eq_true.mpr ((isRow_digitChars _).padded width)
  have hne : padded width (digitChars e.natAbs) ≠ [] :=
    List.append_ne_nil_of_right_ne_nil _ Nat.toDigits_ne_nil
  by_cases hneg : e < 0
  · rw [exponentPart, if_pos hneg]
    simp only [readExponent?, splitSign]
    rw [if_pos ⟨Or.inl trivial, hne, hrow⟩, if_pos trivial, ofDigitChars_padded]
    congr 1
    omega
  · rw [exponentPart, if_neg hneg]
    simp only [readExponent?, splitSign]
    rw [if_pos ⟨Or.inl trivial, hne, hrow⟩, if_neg Bool.false_ne_true, ofDigitChars_padded]
    congr 1
    omega

section Row

variable {ds : List Char} (hrow : IsRow ds)

include hrow in
/-- Part of a row of digits is a row of digits. -/
lemma IsRow.take_drop (n : ℕ) : IsRow (ds.take n) ∧ IsRow (ds.drop n) :=
  ⟨fun c hc => hrow c (List.mem_of_mem_take hc), fun c hc => hrow c (List.mem_of_mem_drop hc)⟩

include hrow in
/-- Digits that are written with an exponent. -/
lemma readDecimal?_scientific (hne : ds ≠ []) (width : ℕ) (point : ℤ) :
    readDecimal? (scientific width ds (point - 1)) =
      some ⟨Nat.ofDigitChars 10 ds 0, point - ds.length⟩ := by
  obtain ⟨htake, hdrop⟩ := hrow.take_drop 1
  have hlength : 0 < ds.length := List.length_pos_of_ne_nil hne
  have hfront : ds.take 1 ≠ [] := by simp [hne]
  have hhead : ∀ c, (exponentPart width (point - 1)).head? = some c →
      isDigit c = false ∧ c ≠ '.' := by
    rintro c ⟨rfl⟩
    exact ⟨rfl, by decide⟩
  rw [scientific]
  by_cases hone : ds.length ≤ 1
  · rw [if_pos hone, List.append_nil, readDecimal?_row_append htake hfront hhead,
      readExponent?_exponentPart, List.take_of_length_le hone, Option.map_some]
    congr 2
    omega
  · rw [if_neg hone, List.append_assoc, List.cons_append,
      readDecimal?_point_append htake hdrop (fun h => hfront h.1) fun c hc => (hhead c hc).1,
      readExponent?_exponentPart, List.take_append_drop, List.length_drop, Option.map_some]
    congr 2
    omega

include hrow in
/-- Digits that are written around a point. Behind them there may be zeros up to the point and
behind it. -/
lemma readDecimal?_positional (point : ℤ) :
    ∃ z : ℕ, readDecimal? (positional ds point) =
      some ⟨Nat.ofDigitChars 10 ds 0 * powTen z, point - ds.length - z⟩ := by
  rw [positional]
  by_cases hfront : point ≤ 0
  · have hzero : IsRow ['0'] := isRow_replicate 1
    have hread := readDecimal?_point hzero ((isRow_replicate (-point).toNat).append hrow) (by simp)
    have hvalue : Nat.ofDigitChars 10 (['0'] ++ (List.replicate (-point).toNat '0' ++ ds)) 0 =
        Nat.ofDigitChars 10 ds 0 := by
      rw [List.singleton_append, ← List.cons_append, ← List.replicate_succ, Nat.ofDigitChars_append,
        Nat.ofDigitChars_replicate_zero, Nat.mul_zero]
    refine ⟨0, ?_⟩
    rw [if_pos hfront]
    refine hread.trans ?_
    rw [hvalue, List.length_append, List.length_replicate, powTen_zero, Nat.mul_one]
    congr 2
    push_cast
    omega
  · obtain ⟨n, rfl⟩ : ∃ n : ℕ, point = n := ⟨point.toNat, by omega⟩
    obtain ⟨htake, hdrop⟩ := hrow.take_drop n
    have hn : n ≠ 0 := by omega
    rw [if_neg hfront, Int.toNat_natCast]
    rcases Nat.lt_or_ge n ds.length with hlt | hge
    · -- The point stands among the digits.
      have hrest : (ds.drop n).isEmpty = false := by simpa using hlt
      have hnone : n - (ds.take n).length = 0 := by
        rw [List.length_take]
        omega
      have hne : ds.take n ≠ [] := by
        rw [← List.length_pos_iff_ne_nil, List.length_take]
        omega
      refine ⟨0, ?_⟩
      simp only [hrest, hnone, List.replicate_zero, List.append_nil]
      rw [if_neg Bool.false_ne_true, readDecimal?_point htake hdrop fun h => hne h.1,
        List.take_append_drop, List.length_drop, powTen_zero, Nat.mul_one]
      congr 2
      omega
    · -- The point stands behind the digits.
      have hrest : ds.drop n = [] := List.drop_of_length_le hge
      have hwhole : ds.take n = ds := List.take_of_length_le hge
      have hzero : IsRow ['0'] := isRow_replicate 1
      have hne : ds ++ List.replicate (n - ds.length) '0' ≠ [] := by
        rw [← List.length_pos_iff_ne_nil, List.length_append, List.length_replicate]
        omega
      have hzeros : List.replicate (n - ds.length) '0' ++ ['0'] =
          List.replicate (n - ds.length + 1) '0' :=
        List.replicate_succ'.symm
      refine ⟨n - ds.length + 1, ?_⟩
      simp only [hrest, hwhole, List.isEmpty_nil, if_true]
      rw [readDecimal?_point (hrow.append (isRow_replicate _)) hzero fun h => hne h.1,
        List.append_assoc, hzeros, Nat.ofDigitChars_append, Nat.ofDigitChars_replicate_zero,
        Nat.mul_comm]
      congr 2
      push_cast [List.length_singleton]
      omega

end Row

/-- A decimal other than zero is read back from any layout with the same value and as many
significant digits. -/
lemma exists_readDecimal?_write (layout : Layout) {d : Decimal} (hd : d.digits ≠ 0) :
    ∃ d', readDecimal? (d.write layout) = some d' ∧ d'.value = d.value ∧
      d'.significance = d.significance := by
  obtain ⟨z, hdigits, hlength⟩ := d.exists_digits_eq
  have hrow := d.isRow_significant
  have hne : d.significant ≠ [] := by
    intro hnil
    rw [hnil, Nat.ofDigitChars_nil, Nat.zero_mul] at hdigits
    exact hd hdigits
  set m := Nat.ofDigitChars 10 d.significant 0
  have hm : m ≠ 0 := by
    intro hzero
    rw [hzero, Nat.zero_mul] at hdigits
    exact hd hdigits
  have hread : ∃ z' : ℕ, readDecimal? (d.write layout) =
      some ⟨m * powTen z', d.point - d.significance - z'⟩ := by
    have hwrite : d.write layout =
        if layout.lowest ≤ d.point - 1 ∧ d.point - 1 < layout.highest then
          positional d.significant d.point
        else scientific layout.width d.significant (d.point - 1) := rfl
    rw [hwrite]
    split
    · exact readDecimal?_positional hrow d.point
    · refine ⟨0, ?_⟩
      rw [readDecimal?_scientific hrow hne, powTen_zero, Nat.mul_one]
      congr 2
      exact (Int.sub_zero _).symm
  obtain ⟨z', hz'⟩ := hread
  refine ⟨_, hz', ?_, ?_⟩
  · have hten : (10 : ℚ) ≠ 0 := by norm_num
    have hpoint : d.point - d.significance - z' = d.exponent + z - z' := by
      have hpoint : d.point = (digitChars d.digits).length + d.exponent := rfl
      omega
    rw [value_eq_mul_zpow, value_eq_mul_zpow, hpoint, hdigits, Nat.cast_mul, Nat.cast_mul,
      cast_powTen, cast_powTen, zpow_sub₀ hten, zpow_add₀ hten, zpow_natCast, zpow_natCast]
    field_simp
  · have hsame := significant_mul_powTen hm z d.exponent 0
    rw [← hdigits] at hsame
    exact congrArg List.length ((significant_mul_powTen hm z' _ 0).trans hsame.symm)

end ReplayCalculator.Decimal
