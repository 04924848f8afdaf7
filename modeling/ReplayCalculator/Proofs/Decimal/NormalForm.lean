import ReplayCalculator.Proofs.Decimal.Canonical
import ReplayCalculator.Proofs.Decimal.Plain

/-!
# The normal form of a plain numeral

The normal form of a plain numeral has the same value and nothing in it that could be left out: no
zeros in front but for a single one, no zeros at the end of the fraction, and no point without a
fraction.

A plain numeral with at most six places counts millionths. Below `2 ^ 33` the nearest number still
tells all millionths apart, so that its text is that of the same count
(`exists_shown_eq_normalForm`). In the count the digits in front of the point and those behind it
can be told apart again, and the digits that are written are those that were read, without the zeros
that say nothing (`fixedDigits_placesCount`).
-/

namespace ReplayCalculator

open Decimal

/-! ### Rows of digits -/

namespace Decimal

variable {ds : List Char}

/-- A row of digits lies below the power of ten with as many zeros. -/
lemma IsRow.value_lt (h : IsRow ds) : Nat.ofDigitChars 10 ds 0 < powTen ds.length := by
  induction ds with
  | nil => exact Nat.one_pos
  | cons c rest ih =>
    have hrest := ih fun d hd => h d (List.mem_cons_of_mem _ hd)
    have hdigit := toNat_of_isDigit (h c List.mem_cons_self)
    have hzero : '0'.toNat = 48 := rfl
    have hle : 10 ^ rest.length * (c.toNat - 48) ≤ 10 ^ rest.length * 9 :=
      Nat.mul_le_mul_left _ (by omega)
    have hpow : powTen rest.length = 10 ^ rest.length := rfl
    rw [List.length_cons, powTen_succ, Nat.ofDigitChars_cons, Nat.ofDigitChars_eq_ofDigitChars_zero,
      Nat.mul_zero, Nat.zero_add, hzero, hpow]
    rw [hpow] at hrest
    omega

/-- The digits of a whole number: a row without the zeros in front of it, but a single zero if no
other digit is there. -/
def wholeDigits (ds : List Char) : List Char :=
  if ds.dropWhile (· == '0') = [] then ['0'] else ds.dropWhile (· == '0')

/-- What is left of a row are the digits of its value. -/
lemma isWhole_wholeDigits (h : IsRow ds) : IsWhole (wholeDigits ds) (Nat.ofDigitChars 10 ds 0) := by
  obtain ⟨z, hz⟩ := exists_append_dropWhile ds
  have hvalue : Nat.ofDigitChars 10 ds 0 = Nat.ofDigitChars 10 (ds.dropWhile (· == '0')) 0 := by
    conv_lhs => rw [← hz]
    rw [Nat.ofDigitChars_append, Nat.ofDigitChars_replicate_zero, Nat.mul_zero]
  rw [hvalue, wholeDigits]
  by_cases hnil : ds.dropWhile (· == '0') = []
  · rw [if_pos hnil, hnil]
    exact isWhole_digitChars 0
  · rw [if_neg hnil]
    refine ⟨fun c hc => h c (List.dropWhile_subset _ hc), hnil, fun hhead => ?_, rfl⟩
    have hnot := List.head?_dropWhile_not (· == '0') ds
    rw [hhead] at hnot
    simp at hnot

/-- What is left of a row that is no longer than the width are the digits of its value, padded with
zeros to the width. -/
lemma isFraction_dropTrailing (h : IsRow ds) {width : ℕ} (hwidth : ds.length ≤ width) :
    IsFraction width (dropTrailing '0' ds)
      (Nat.ofDigitChars 10 ds 0 * powTen (width - ds.length)) := by
  obtain ⟨z, hz⟩ := exists_dropTrailingZeros_append ds
  have hz : dropTrailing '0' ds ++ List.replicate z '0' = ds := hz
  refine ⟨h.dropTrailingZeros, getLast?_dropTrailing '0' ds, z + (width - ds.length), ?_, ?_⟩
  · rw [List.replicate_add, ← List.append_assoc, hz, List.length_append, List.length_replicate]
    omega
  · rw [List.replicate_add, ← List.append_assoc, hz, Nat.ofDigitChars_append,
      Nat.ofDigitChars_replicate_zero, Nat.mul_comm]
    rfl

end Decimal

/-- Nothing is left of zero alone. -/
lemma IsFraction.eq_nil_iff {width n : ℕ} {ds : List Char} (h : IsFraction width ds n) :
    ds = [] ↔ n = 0 := by
  constructor
  · intro hnil
    by_contra hne
    exact h.ne_nil hne hnil
  · intro hzero
    have hnil : IsFraction width [] 0 := by
      refine ⟨?_, ?_, width, ?_, ?_⟩
      · intro c hc
        cases hc
      · intro hlast
        cases hlast
      · rw [List.nil_append, List.length_replicate]
      · rw [List.nil_append, Nat.ofDigitChars_replicate_zero, Nat.mul_zero]
    rw [hzero] at h
    exact h.eq hnil

/-! ### Plain numerals -/

namespace Numeral

/-- A plain numeral without all that could be left out. -/
def normalForm (cs : List Char) : List Char :=
  wholeDigits (wholePart cs) ++
    if dropTrailing '0' (fractionPart cs) = [] then []
    else '.' :: dropTrailing '0' (fractionPart cs)

/-- The count of places of a plain numeral that has no more of them. -/
def placesCount (places : ℕ) (cs : List Char) : ℕ :=
  Nat.ofDigitChars 10 (wholePart cs ++ fractionPart cs) 0 *
    powTen (places - (fractionPart cs).length)

section Parts

variable {cs : List Char} {places : ℕ}

/-- The parts of a plain numeral are rows of digits. -/
lemma IsPlainNumeral.isRow_parts (h : IsPlainNumeral cs) :
    IsRow (wholePart cs) ∧ IsRow (fractionPart cs) := by
  obtain ⟨whole, fraction, hwhole, hfraction, -, hcs⟩ := h.exists_rows
  obtain ⟨hwholePart, hfractionPart⟩ := parts_eq hwhole hcs
  rw [hwholePart, hfractionPart]
  exact ⟨hwhole, hfraction⟩

/-- In the count of places, what is in front of the point and what is behind it can be told
apart. -/
lemma placesCount_div_mod (hrow : IsRow (fractionPart cs))
    (hle : (fractionPart cs).length ≤ places) :
    placesCount places cs / powTen places = Nat.ofDigitChars 10 (wholePart cs) 0 ∧
      placesCount places cs % powTen places =
        Nat.ofDigitChars 10 (fractionPart cs) 0 * powTen (places - (fractionPart cs).length) := by
  have hpow : powTen (fractionPart cs).length * powTen (places - (fractionPart cs).length) =
      powTen places := by
    rw [← powTen_add, Nat.add_sub_cancel' hle]
  have hlt : Nat.ofDigitChars 10 (fractionPart cs) 0 * powTen (places - (fractionPart cs).length) <
      powTen places := by
    rw [← hpow]
    exact Nat.mul_lt_mul_of_pos_right hrow.value_lt (powTen_pos _)
  have hsplit : placesCount places cs =
      Nat.ofDigitChars 10 (fractionPart cs) 0 * powTen (places - (fractionPart cs).length) +
        Nat.ofDigitChars 10 (wholePart cs) 0 * powTen places := by
    have hall : Nat.ofDigitChars 10 (wholePart cs ++ fractionPart cs) 0 =
        powTen (fractionPart cs).length * Nat.ofDigitChars 10 (wholePart cs) 0 +
          Nat.ofDigitChars 10 (fractionPart cs) 0 := by
      rw [Nat.ofDigitChars_append, Nat.ofDigitChars_eq_ofDigitChars_zero]
      rfl
    rw [placesCount, hall, Nat.add_mul, Nat.add_comm, Nat.mul_comm (powTen _), Nat.mul_assoc, hpow]
  rw [hsplit]
  constructor
  · rw [Nat.add_mul_div_right _ _ (powTen_pos places), Nat.div_eq_of_lt hlt, Nat.zero_add]
  · rw [Nat.add_mul_mod_self_right, Nat.mod_eq_of_lt hlt]

/-- The digits of the count of places are the normal form. -/
lemma fixedDigits_placesCount (h : IsPlainNumeral cs) (hle : (fractionPart cs).length ≤ places) :
    fixedDigits places (placesCount places cs) = normalForm cs := by
  obtain ⟨hwhole, hfraction⟩ := h.isRow_parts
  obtain ⟨hdiv, hmod⟩ := placesCount_div_mod hfraction hle
  have hback := isFraction_dropTrailing hfraction hle
  rw [← hmod] at hback
  have hdigits : digitChars (placesCount places cs / powTen places) =
      wholeDigits (wholePart cs) := by
    rw [hdiv]
    exact (isWhole_digitChars _).eq (isWhole_wholeDigits hwhole)
  by_cases hzero : placesCount places cs % powTen places = 0
  · rw [fixedDigits_of_dvd hzero, hdigits, normalForm, if_pos (hback.eq_nil_iff.mpr hzero),
      List.append_nil]
  · rw [fixedDigits_of_not_dvd hzero, hdigits, normalForm, if_neg (mt hback.eq_nil_iff.mp hzero),
      (isFraction_fractionDigits hzero).eq hback]

/-- Below `2 ^ 33` there are fewer than `2 ^ 33` million millionths. -/
lemma placesCount_lt (hle : (fractionPart cs).length ≤ 6) (hbound : plainValue cs < 2 ^ 33) :
    placesCount 6 cs < 8589934592 * powTen 6 := by
  have hpow : powTen (fractionPart cs).length * powTen (6 - (fractionPart cs).length) =
      powTen 6 := by
    rw [← powTen_add, Nat.add_sub_cancel' hle]
  have hten : (0 : ℚ) < 10 ^ (fractionPart cs).length := pow_pos (by norm_num) _
  have hlt : Nat.ofDigitChars 10 (wholePart cs ++ fractionPart cs) 0 <
      8589934592 * powTen (fractionPart cs).length := by
    rw [plainValue, div_lt_iff₀ hten] at hbound
    have hbinade : (2 : ℚ) ^ 33 = 8589934592 := by norm_num
    rw [hbinade] at hbound
    have hcast : powTen (fractionPart cs).length = 10 ^ (fractionPart cs).length := rfl
    rw [hcast]
    exact_mod_cast hbound
  rw [placesCount, ← hpow, ← Nat.mul_assoc]
  exact Nat.mul_lt_mul_of_pos_right hlt (powTen_pos _)

end Parts

/-- A plain numeral with at most six places that lies below `2 ^ 33` is read as a number that is
shown in the normal form of the numeral. -/
theorem exists_shown_eq_normalForm {cs : List Char} (h : IsPlainNumeral cs)
    (hplaces : (fractionPart cs).length ≤ 6) (hbound : plainValue cs < 2 ^ 33) :
    ∃ x, read? (String.ofList cs) = some x ∧ Number.shown x = String.ofList (normalForm cs) := by
  have hcount := placesCount_lt hplaces hbound
  have hrank : (plainDecimal cs).rank = Binary64.nearestRank (placesCount 6 cs) (powTen 6) :=
    rank_of_mul_eq hplaces rfl (hcount.trans_le (by decide +kernel))
  obtain ⟨hfinite, hback⟩ := placesOf_nearestRank_of_lt hcount
  refine ⟨_, read?_of_isPlainNumeral h, ?_⟩
  rw [hrank, Number.shown_of_finite (Binary64.datum_ofRank false hfinite), hback,
    fixedDigits_placesCount h hplaces]
  rfl

end Numeral

end ReplayCalculator
