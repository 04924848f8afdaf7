import Mathlib.Data.List.TakeWhile
import Mathlib.Tactic.Lemma
import ReplayCalculator.Decimal.Numeral
import ReplayCalculator.Number
import ReplayCalculator.Proofs.Decimal.Nearest

/-!
# Reading a decimal that was written with a bounded number of places

`Decimal.fixedDigits` leaves out zeros that say nothing, so that what is read back from it is not
the count of places that was written, but a decimal with fewer digits and a larger exponent. Its
value is the same (`readDecimal?_fixedDigits`), and the nearest binary64 number depends on nothing
but the value (`rank_of_mul_eq`). So the text of so many millionths is read as the number nearest to
them (`read?_signed_fixedDigits`).
-/

namespace ReplayCalculator

namespace Decimal

/-! ### Rows of digits -/

/-- A row of digits in base ten. -/
def IsRow (ds : List Char) : Prop := ∀ c ∈ ds, Numeral.isDigit c = true

/-- The digits of a natural number are a row of digits. -/
lemma isRow_digitChars (n : Nat) : IsRow (digitChars n) := fun _ hc =>
  Nat.isDigit_of_mem_toDigits (by decide) (by decide) hc

/-- Zeros are a row of digits. -/
lemma isRow_replicate (z : Nat) : IsRow (List.replicate z '0') := by
  intro c hc
  rw [List.eq_of_mem_replicate hc]
  rfl

/-- Two rows of digits make one. -/
lemma IsRow.append {ds es : List Char} (hd : IsRow ds) (he : IsRow es) :
    IsRow (ds ++ es) := fun c hc =>
  (List.mem_append.mp hc).elim (hd c) (he c)

/-- Zeros in front of a row of digits make a row of digits. -/
lemma IsRow.padded {ds : List Char} (h : IsRow ds) (width : Nat) : IsRow (padded width ds) :=
  (isRow_replicate _).append h

/-- A row is the zeros in front of it, and what is left without them. -/
lemma exists_append_dropWhile (ds : List Char) :
    ∃ z, List.replicate z '0' ++ ds.dropWhile (· == '0') = ds := by
  have hzeros : ds.takeWhile (· == '0') = List.replicate (ds.takeWhile (· == '0')).length '0' := by
    refine List.eq_replicate_iff.mpr ⟨rfl, fun c hc => ?_⟩
    have hzero : (c == '0') = true := List.mem_takeWhile_imp (p := (· == '0')) hc
    exact eq_of_beq hzero
  have hsplit := List.takeWhile_append_dropWhile (p := (· == '0')) (l := ds)
  rw [hzeros] at hsplit
  exact ⟨_, hsplit⟩

/-- A row is what is left without the zeros at its end, and these zeros. -/
lemma exists_dropTrailingZeros_append (ds : List Char) :
    ∃ z, dropTrailingZeros ds ++ List.replicate z '0' = ds := by
  obtain ⟨z, hz⟩ := exists_append_dropWhile ds.reverse
  have hsplit := congrArg List.reverse hz
  rw [List.reverse_append, List.reverse_reverse, List.reverse_replicate] at hsplit
  exact ⟨z, hsplit⟩

/-- A row of digits is one without the zeros at its end. -/
lemma IsRow.dropTrailingZeros {ds : List Char} (h : IsRow ds) : IsRow (dropTrailingZeros ds) := by
  obtain ⟨z, hz⟩ := exists_dropTrailingZeros_append ds
  intro c hc
  apply h c
  rw [← hz]
  exact List.mem_append_left _ hc

/-- Zeros in front do not count. -/
lemma ofDigitChars_padded (width m : Nat) :
    Nat.ofDigitChars 10 (padded width (digitChars m)) 0 = m := by
  rw [Decimal.padded, Nat.ofDigitChars_append, Nat.ofDigitChars_replicate_zero, Nat.mul_zero]
  exact Nat.ofDigitChars_ten_toDigits

/-- So many places are enough for what is left of a count of places. -/
lemma length_padded_mod {places n : Nat} (h : n % powTen places ≠ 0) :
    (padded places (digitChars (n % powTen places))).length = places := by
  have hpos : 0 < places := by
    rcases Nat.eq_zero_or_pos places with rfl | hpos
    · exact absurd (Nat.mod_one n) h
    · exact hpos
  have hlt : n % powTen places < 10 ^ places := Nat.mod_lt n (powTen_pos places)
  have hlength : (digitChars (n % powTen places)).length ≤ places :=
    (Nat.length_toDigits_le_iff (by decide) hpos).mpr hlt
  rw [length_padded]
  omega

/-! ### Reading a row of digits -/

open Numeral

/-- Nothing is taken off a text that does not begin with a digit. -/
lemma span_of_head?_ne_digit {rest : List Char} (h : ∀ c, rest.head? = some c → isDigit c = false) :
    rest.takeWhile isDigit = [] ∧ rest.dropWhile isDigit = rest := by
  cases rest with
  | nil => exact ⟨rfl, rfl⟩
  | cons c rest =>
    have hc : ¬ isDigit c = true := Bool.not_eq_true _ ▸ h c rfl
    exact ⟨List.takeWhile_cons_of_neg hc, List.dropWhile_cons_of_neg hc⟩

/-- Digits without a point are a whole number, and what follows them is the exponent. -/
lemma readDecimal?_row_append {ds rest : List Char} (h : IsRow ds) (hne : ds ≠ [])
    (hrest : ∀ c, rest.head? = some c → isDigit c = false ∧ c ≠ '.') :
    readDecimal? (ds ++ rest) = (readExponent? rest).map fun e =>
      ⟨Nat.ofDigitChars 10 ds 0, e⟩ := by
  obtain ⟨htake, hdrop⟩ := span_of_head?_ne_digit fun c hc => (hrest c hc).1
  have hpoint : splitFraction rest = ([], rest) := by
    unfold splitFraction
    split
    · exact absurd rfl (hrest '.' rfl).2
    · rfl
  unfold readDecimal?
  rw [List.takeWhile_append_of_pos h, List.dropWhile_append_of_pos h, htake, hdrop, hpoint]
  simp [hne]

/-- Digits alone are a whole number. -/
lemma readDecimal?_row {ds : List Char} (h : IsRow ds) (hne : ds ≠ []) :
    readDecimal? ds = some ⟨Nat.ofDigitChars 10 ds 0, 0⟩ := by
  have hread : readDecimal? (ds ++ []) = _ := readDecimal?_row_append h hne (by simp)
  rwa [List.append_nil] at hread

/-- Digits with a point, which may also stand in front of them or behind them, count the places
behind it, and what follows them is the exponent. -/
lemma readDecimal?_point_append {whole fraction rest : List Char} (hwhole : IsRow whole)
    (hfraction : IsRow fraction) (hne : ¬ (whole = [] ∧ fraction = []))
    (hrest : ∀ c, rest.head? = some c → isDigit c = false) :
    readDecimal? (whole ++ '.' :: (fraction ++ rest)) =
      (readExponent? rest).map fun e =>
        ⟨Nat.ofDigitChars 10 (whole ++ fraction) 0, e - fraction.length⟩ := by
  obtain ⟨htake, hdrop⟩ := span_of_head?_ne_digit hrest
  have hno : ∀ c, ('.' :: (fraction ++ rest)).head? = some c → isDigit c = false := by
    simp [isDigit]
  obtain ⟨htake', hdrop'⟩ := span_of_head?_ne_digit hno
  have hpoint : splitFraction ('.' :: (fraction ++ rest)) = (fraction, rest) := by
    rw [splitFraction, List.takeWhile_append_of_pos hfraction,
      List.dropWhile_append_of_pos hfraction, htake, hdrop, List.append_nil]
  unfold readDecimal?
  rw [List.takeWhile_append_of_pos hwhole, List.dropWhile_append_of_pos hwhole, htake',
    hdrop', hpoint]
  simp [hne]

/-- Digits with a point and nothing behind them. -/
lemma readDecimal?_point {whole fraction : List Char} (hwhole : IsRow whole)
    (hfraction : IsRow fraction) (hne : ¬ (whole = [] ∧ fraction = [])) :
    readDecimal? (whole ++ '.' :: fraction) =
      some ⟨Nat.ofDigitChars 10 (whole ++ fraction) 0, -(fraction.length : Int)⟩ := by
  have hread : readDecimal? (whole ++ '.' :: (fraction ++ [])) = _ :=
    readDecimal?_point_append hwhole hfraction hne (by simp)
  rw [List.append_nil] at hread
  simpa [readExponent?] using hread

/-- A count of places is read back as a decimal of the same value. -/
lemma readDecimal?_fixedDigits (places n : Nat) :
    ∃ k ≤ places, ∃ digits, digits * powTen (places - k) = n ∧
      readDecimal? (fixedDigits places n) = some ⟨digits, -(k : Int)⟩ := by
  have hwhole := isRow_digitChars (n / powTen places)
  have hne : digitChars (n / powTen places) ≠ [] := Nat.toDigits_ne_nil
  have hread : Nat.ofDigitChars 10 (digitChars (n / powTen places)) 0 = n / powTen places :=
    Nat.ofDigitChars_ten_toDigits
  have hmod := Nat.div_add_mod' n (powTen places)
  by_cases hzero : n % powTen places = 0
  · refine ⟨0, Nat.zero_le _, n / powTen places, ?_, ?_⟩
    · rw [Nat.sub_zero]
      omega
    · rw [fixedDigits_of_dvd hzero, readDecimal?_row hwhole hne, hread]
      rfl
  · obtain ⟨z, hz⟩ := exists_dropTrailingZeros_append
      (padded places (digitChars (n % powTen places)))
    have hfraction : IsRow (fractionDigits places n) :=
      ((isRow_digitChars _).padded places).dropTrailingZeros
    have hlength : (fractionDigits places n).length + z = places := by
      have htotal := congrArg List.length hz
      rw [length_padded_mod hzero, List.length_append, List.length_replicate] at htotal
      exact htotal
    refine ⟨(fractionDigits places n).length, by omega,
      Nat.ofDigitChars 10 (digitChars (n / powTen places) ++ fractionDigits places n) 0, ?_, ?_⟩
    · -- The zeros that were left out multiply the digits.
      have hrest : places - (fractionDigits places n).length = z := by omega
      have hzeros : Nat.ofDigitChars 10 (digitChars (n / powTen places) ++
          (fractionDigits places n ++ List.replicate z '0')) 0 = n := by
        rw [show fractionDigits places n ++ List.replicate z '0' = _ from hz,
          Nat.ofDigitChars_append, hread, Nat.ofDigitChars_eq_ofDigitChars_zero,
          ofDigitChars_padded, length_padded_mod hzero, Nat.mul_comm]
        exact hmod
      rw [← List.append_assoc, Nat.ofDigitChars_append, Nat.ofDigitChars_replicate_zero] at hzeros
      rw [hrest, Nat.mul_comm]
      exact hzeros
    · rw [fixedDigits_of_not_dvd hzero]
      exact readDecimal?_point hwhole hfraction fun h => hne h.1

/-! ### The number nearest to a decimal -/

/-- The number nearest to zero is zero. -/
lemma nearestRank_zero (den : Nat) : Binary64.nearestRank 0 den = 0 := by
  have hbinade : Binary64.binadeOf 0 den = 0 := by
    rw [Binary64.binadeOf, Nat.zero_mul, Nat.zero_div]
    rfl
  have hsteps : Binary64.stepsOf 0 den = 0 := by
    rw [Binary64.stepsOf, Nat.zero_mul, roundHalfEven_zero]
  rw [Binary64.nearestRank_eq, hbinade, hsteps]
  rfl

/-- Powers of ten are multiplied by adding their exponents. -/
lemma powTen_add (i j : Nat) : powTen (i + j) = powTen i * powTen j := Nat.pow_add 10 i j

/-- Powers of ten stand in the order of their exponents. -/
lemma powTen_mono {i j : Nat} (h : i ≤ j) : powTen i ≤ powTen j :=
    Nat.pow_le_pow_right (by decide) h

/-- A decimal is as many of its places as its digits count. -/
lemma num_and_den_of_places (digits k : Nat) :
    (⟨digits, -(k : Int)⟩ : Decimal).num = digits ∧
      (⟨digits, -(k : Int)⟩ : Decimal).den = powTen k := by
  have hnum : (-(k : Int)).toNat = 0 := by omega
  have hden : (- -(k : Int)).toNat = k := by omega
  rw [num, den, hnum, hden]
  exact ⟨Nat.mul_one digits, rfl⟩

/-- A decimal of at most six places that is not too large goes to the number nearest to its
millionths. -/
lemma rank_of_mul_eq {digits k n : Nat} (hk : k ≤ 6) (hn : digits * powTen (6 - k) = n)
    (hbound : n < powTen 315) :
    (⟨digits, -(k : Int)⟩ : Decimal).rank = Binary64.nearestRank n (powTen 6) := by
  rcases Nat.eq_zero_or_pos digits with rfl | hpos
  · rw [Nat.zero_mul] at hn
    rw [← hn, nearestRank_zero]
    exact if_pos (Or.inl rfl)
  · have hlength : 0 < (digitChars digits).length := Nat.length_toDigits_pos
    have hsmall : (digitChars digits).length ≤ 309 + k := by
      refine (Nat.length_toDigits_le_iff (by decide) (by omega)).mpr ?_
      have hsplit : powTen 315 = 10 ^ (309 + k) * powTen (6 - k) := by
        have hsum : 315 = 309 + k + (6 - k) := by omega
        rw [hsum]
        exact powTen_add _ _
      rw [hsplit, ← hn] at hbound
      exact Nat.lt_of_mul_lt_mul_right hbound
    have hden : powTen k * powTen (6 - k) = powTen 6 := by
      rw [← powTen_add]
      congr 1
      omega
    rw [rank_eq_nearestRank (Nat.ne_of_gt hpos) (by simp only [point]; omega)
      (by simp only [point]; omega)]
    obtain ⟨hnum, hden'⟩ := num_and_den_of_places digits k
    rw [hnum, hden', ← hn, ← hden, Binary64.nearestRank_mul_mul _ _ (powTen_pos _)]

/-- The last binade of finite numbers. It is irreducible so that its powers of two are not
computed. -/
@[irreducible]
def lastBinade : Nat := 2045

/-- A finite number is below `2 * 10 ^ 308`. -/
lemma units_lt {r : Nat} (hr : r < Binary64.infinityRank) :
    Binary64.units r < Binary64.unitsPerOne * (2 * powTen 308) := by
  obtain ⟨e, t, rfl, hhigh, hlow⟩ := Binary64.exists_binade r
  have hexp : e ≤ lastBinade := by
    have hbinade : Binary64.binade = 4503599627370496 := rfl
    have hinfinity : Binary64.infinityRank = 9218868437227405312 := rfl
    rw [hbinade] at hr hlow
    unfold lastBinade
    omega
  have hmax : 2 * Binary64.binade * 2 ^ lastBinade ≤ Binary64.unitsPerOne * (2 * powTen 308) := by
    unfold lastBinade
    decide +kernel
  rw [Binary64.units_binade (Nat.le_of_lt hhigh) hlow]
  refine Nat.lt_of_lt_of_le ?_ hmax
  exact Nat.mul_lt_mul_of_lt_of_le hhigh (Nat.pow_le_pow_right (by decide) hexp)
    (Nat.two_pow_pos _)

/-- The millionths of a finite number are not too many to be read. -/
lemma placesOf_lt {r : Nat} (hr : r < Binary64.infinityRank) : placesOf 6 r < powTen 315 := by
  have hround := placesOf_mul_le r
  have hunits := Nat.mul_lt_mul_of_pos_right (units_lt hr) (powTen_pos 6)
  have hscale : 2 * powTen 308 * powTen 6 * Binary64.unitsPerOne =
      Binary64.unitsPerOne * (2 * powTen 308) * powTen 6 := by
    rw [Nat.mul_comm Binary64.unitsPerOne, Nat.mul_right_comm]
  have hlt : placesOf 6 r < 2 * powTen 308 * powTen 6 + 1 := by
    apply Nat.lt_of_mul_lt_mul_right (a := Binary64.unitsPerOne)
    rw [Nat.add_mul, Nat.one_mul, hscale]
    omega
  have hmax : 2 * powTen 308 * powTen 6 + 1 ≤ powTen 315 := by decide +kernel
  omega

end Decimal

namespace Numeral

/-- Whether a character can stand in a numeral without sign and exponent: a digit or the point. -/
def isPlain (c : Char) : Bool := isDigit c || c == '.'

/-- Digits and points are no capital letters. -/
lemma toLower_of_isPlain {c : Char} (hc : isPlain c = true) : c.toLower = c := by
  have hle : c ≤ '9' := by
    simp only [isPlain, isDigit, Bool.or_eq_true, Bool.and_eq_true, decide_eq_true_eq,
      beq_iff_eq] at hc
    rcases hc with ⟨-, hle⟩ | rfl
    · exact hle
    · decide
  have hnot : ¬ (c.val ≥ 'A'.val ∧ c.val ≤ 'Z'.val) := fun hcapital =>
    absurd (UInt32.le_trans hcapital.1 hle) (by decide)
  exact dif_neg hnot

/-- Digits and points are no signs. -/
lemma splitSign_of_isPlain {c : Char} (hc : isPlain c = true) (cs : List Char) :
    splitSign (c :: cs) = (false, c :: cs) := by
  unfold splitSign
  split
  · rename_i heq
    cases heq
    cases hc
  · rename_i heq
    cases heq
    cases hc
  · rfl

/-- A text that begins with a digit or a point is read as a decimal. -/
lemma readUnsigned?_of_isPlain {negative : Bool} {cs : List Char} {c : Char}
    (hhead : cs.head? = some c) (hc : isPlain c = true) :
    readUnsigned? negative cs =
      (readDecimal? cs).map fun d => Binary64.ofRank negative d.rank := by
  have hword : ∀ word : String, word.toList.head?.any isPlain = false →
      String.ofList (cs.map Char.toLower) ≠ word := by
    rintro word hletter rfl
    rw [String.toList_ofList, List.head?_map, hhead, Option.map_some, Option.any_some,
      toLower_of_isPlain hc, hc] at hletter
    cases hletter
  unfold readUnsigned?
  rw [if_neg (hword "nan" (by decide)), if_neg]
  rintro (hinf | hinf)
  · exact hword "inf" (by decide) hinf
  · exact hword "infinity" (by decide) hinf

/-- A count of places in digits begins with one. -/
lemma head?_fixedDigits (places n : Nat) :
    ∃ c, (Decimal.fixedDigits places n).head? = some c ∧ isPlain c = true := by
  obtain ⟨c, rest, hdigits⟩ := List.exists_cons_of_ne_nil
    (Nat.toDigits_ne_nil (b := 10) (n := n / powTen places))
  refine ⟨c, ?_, ?_⟩
  · rw [Decimal.fixedDigits, Decimal.digitChars, hdigits]
    rfl
  · refine Bool.or_eq_true_iff.mpr (Or.inl (Decimal.isRow_digitChars (n / powTen places) c ?_))
    rw [Decimal.digitChars, hdigits]
    exact List.mem_cons_self

/-- The sign in front of a text that begins with a digit or a point is taken off again. -/
lemma splitSign_signed (negative : Bool) {cs : List Char} {c : Char} (hhead : cs.head? = some c)
    (hc : isPlain c = true) : splitSign (Number.signed negative cs).toList = (negative, cs) := by
  rw [Number.signed, String.toList_ofList]
  cases negative with
  | true => rfl
  | false =>
    obtain ⟨rest, hcs⟩ := List.head?_eq_some_iff.mp hhead
    rw [hcs]
    exact splitSign_of_isPlain hc rest

/-- The sign in front of a count of places is taken off again. -/
lemma splitSign_signed_fixedDigits (negative : Bool) (places n : Nat) :
    splitSign (Number.signed negative (Decimal.fixedDigits places n)).toList =
      (negative, Decimal.fixedDigits places n) := by
  obtain ⟨c, hhead, hc⟩ := head?_fixedDigits places n
  exact splitSign_signed negative hhead hc

/-- The text of so many millionths is read as the number nearest to them. -/
lemma read?_signed_fixedDigits (negative : Bool) {n : Nat} (hn : n < powTen 315) :
    read? (Number.signed negative (Decimal.fixedDigits 6 n)) =
      some (Binary64.ofRank negative (Binary64.nearestRank n (powTen 6))) := by
  obtain ⟨k, hk, digits, hvalue, hread⟩ := Decimal.readDecimal?_fixedDigits 6 n
  obtain ⟨c, hhead, hc⟩ := head?_fixedDigits 6 n
  unfold read?
  rw [splitSign_signed_fixedDigits]
  simp only
  rw [readUnsigned?_of_isPlain hhead hc, hread, Option.map_some,
    Decimal.rank_of_mul_eq hk hvalue hn]

end Numeral

end ReplayCalculator
