import ReplayCalculator.Proofs.Decimal.CorrectRounding

/-!
# Plain numerals

The numerals that can be typed are *plain*: digits with at most one point, which may stand in front
of them or behind them, and neither a sign nor an exponent. A plain numeral is a row of digits, or
two rows with the point between them (`IsPlainNumeral.exists_rows`). Since it has a digit it is
always read as a number, the one nearest to the decimal that has all its digits and as many places
as there are digits behind the point (`exists_read?_of_isPlainNumeral`).
-/

namespace ReplayCalculator.Numeral

open Decimal (IsRow)

/-- Digits with at most one point, and at least one digit. -/
structure IsPlainNumeral (cs : List Char) : Prop where
  isPlain : ∀ c ∈ cs, isPlain c = true
  count_point : cs.count '.' ≤ 1
  exists_digit : ∃ c ∈ cs, isDigit c = true

/-- Plain characters other than points are digits. -/
lemma isRow_of_count_point {cs : List Char} (h : ∀ c ∈ cs, isPlain c = true)
    (hpoint : cs.count '.' = 0) : IsRow cs := by
  intro c hc
  have hne : c ≠ '.' := by
    rintro rfl
    exact List.count_eq_zero.mp hpoint hc
  simpa [isPlain, hne] using h c hc

/-- A plain numeral is a row of digits, or two rows with the point between them. -/
lemma IsPlainNumeral.exists_rows {cs : List Char} (h : IsPlainNumeral cs) :
    ∃ whole fraction, IsRow whole ∧ IsRow fraction ∧ ¬ (whole = [] ∧ fraction = []) ∧
      (cs = whole ∧ fraction = [] ∨ cs = whole ++ '.' :: fraction) := by
  obtain ⟨d, hd, hdigit⟩ := h.exists_digit
  by_cases hpoint : '.' ∈ cs
  · obtain ⟨whole, fraction, rfl⟩ := List.append_of_mem hpoint
    have hcount := h.count_point
    rw [List.count_append, List.count_cons_self] at hcount
    refine ⟨whole, fraction, ?_, ?_, ?_, Or.inr rfl⟩
    · refine isRow_of_count_point (fun c hc => h.isPlain c ?_) (by omega)
      exact List.mem_append_left _ hc
    · refine isRow_of_count_point (fun c hc => h.isPlain c ?_) (by omega)
      exact List.mem_append_right _ (List.mem_cons_of_mem _ hc)
    · rintro ⟨rfl, rfl⟩
      obtain rfl : d = '.' := by simpa using hd
      cases hdigit
  · refine ⟨cs, [], isRow_of_count_point h.isPlain (List.count_eq_zero.mpr hpoint), ?_, ?_,
      Or.inl ⟨rfl, rfl⟩⟩
    · intro c hc
      cases hc
    · rintro ⟨rfl, -⟩
      cases hd

/-! ### The value of a plain numeral -/

/-- The digits in front of the point, and all of them if there is no point. -/
def wholePart (cs : List Char) : List Char := cs.takeWhile (· != '.')

/-- The digits behind the point. -/
def fractionPart (cs : List Char) : List Char := (cs.dropWhile (· != '.')).drop 1

/-- The exact value of a plain numeral: its digits, divided by ten for each of them behind the
point. -/
def plainValue (cs : List Char) : ℚ :=
  (Nat.ofDigitChars 10 (wholePart cs ++ fractionPart cs) 0 : ℚ) / 10 ^ (fractionPart cs).length

/-- A plain numeral as a decimal. -/
def plainDecimal (cs : List Char) : Decimal :=
  ⟨Nat.ofDigitChars 10 (wholePart cs ++ fractionPart cs) 0, -((fractionPart cs).length : Int)⟩

/-- The value of a plain numeral is that of its decimal. -/
lemma value_plainDecimal (cs : List Char) : (plainDecimal cs).value = plainValue cs := by
  obtain ⟨hnum, hden⟩ := Decimal.num_and_den_of_places
    (Nat.ofDigitChars 10 (wholePart cs ++ fractionPart cs) 0) (fractionPart cs).length
  have hpow : (powTen (fractionPart cs).length : ℚ) = 10 ^ (fractionPart cs).length :=
    Nat.cast_pow 10 _
  rw [Decimal.value, plainDecimal, hnum, hden, hpow, plainValue]

/-- The two rows of a plain numeral are its parts. -/
lemma parts_eq {cs whole fraction : List Char} (hwhole : IsRow whole)
    (h : cs = whole ∧ fraction = [] ∨ cs = whole ++ '.' :: fraction) :
    wholePart cs = whole ∧ fractionPart cs = fraction := by
  have hdigits : ∀ c ∈ whole, (c != '.') = true := by
    intro c hc
    refine bne_iff_ne.mpr ?_
    rintro rfl
    cases hwhole '.' hc
  rcases h with ⟨rfl, rfl⟩ | rfl
  · rw [wholePart, fractionPart, List.takeWhile_eq_self_iff.mpr hdigits,
      List.dropWhile_eq_nil_iff.mpr hdigits]
    exact ⟨rfl, rfl⟩
  · rw [wholePart, fractionPart, List.takeWhile_append_of_pos hdigits,
      List.dropWhile_append_of_pos hdigits]
    exact ⟨List.append_nil _, rfl⟩

/-- A plain numeral is read as the number with the rank of its decimal. -/
lemma read?_of_isPlainNumeral {cs : List Char} (h : IsPlainNumeral cs) :
    read? (String.ofList cs) = some (Binary64.ofRank false (plainDecimal cs).rank) := by
  obtain ⟨whole, fraction, hwhole, hfraction, hne, hcs⟩ := h.exists_rows
  obtain ⟨hwholePart, hfractionPart⟩ := parts_eq hwhole hcs
  have hread : readDecimal? cs = some (plainDecimal cs) := by
    rw [plainDecimal, hwholePart, hfractionPart]
    rcases hcs with ⟨rfl, rfl⟩ | rfl
    · rw [List.append_nil]
      exact Decimal.readDecimal?_row hwhole fun hnil => hne ⟨hnil, rfl⟩
    · exact Decimal.readDecimal?_point hwhole hfraction hne
  obtain ⟨c, rest, hcons⟩ : ∃ c rest, cs = c :: rest := by
    obtain ⟨d, hd, -⟩ := h.exists_digit
    exact List.exists_cons_of_ne_nil (List.ne_nil_of_mem hd)
  have hc : Numeral.isPlain c = true := h.isPlain c (by rw [hcons]; exact List.mem_cons_self)
  have hsplit : splitSign cs = (false, cs) := by
    rw [hcons]
    exact splitSign_of_isPlain hc rest
  unfold read?
  rw [String.toList_ofList, hsplit]
  simp only
  rw [readUnsigned?_of_isPlain (by rw [hcons]; rfl) hc, hread, Option.map_some]

/-- A plain numeral is read as the number nearest to its exact value. -/
lemma exists_read?_of_isPlainNumeral {cs : List Char} (h : IsPlainNumeral cs) :
    ∃ x, read? (String.ofList cs) = some x ∧ Binary64.IsNearestNumber x (plainValue cs) := by
  refine ⟨_, read?_of_isPlainNumeral h, ?_⟩
  rw [← value_plainDecimal]
  exact Decimal.isNearestNumber_rank _

/-- Digits with at most one point are a plain numeral, unless there is nothing but the point. -/
lemma isPlainNumeral_of_ne {cs : List Char} (hne : cs ≠ []) (hplain : ∀ c ∈ cs, isPlain c = true)
    (hcount : cs.count '.' ≤ 1) (hpoint : cs ≠ ['.']) : IsPlainNumeral cs := by
  refine ⟨hplain, hcount, ?_⟩
  by_contra hnone
  have hall : ∀ c ∈ cs, c = '.' := by
    intro c hc
    have hdigit : ¬ isDigit c = true := fun hd => hnone ⟨c, hc, hd⟩
    simpa [isPlain, hdigit] using hplain c hc
  have hreplicate : cs = List.replicate cs.length '.' := List.eq_replicate_iff.mpr ⟨rfl, hall⟩
  have hlength : cs.length = cs.count '.' := by
    rw [hreplicate, List.count_replicate_self, List.length_replicate]
  have hpos : 0 < cs.length := List.length_pos_of_ne_nil hne
  have hone : cs.length = 1 := by omega
  rw [hone] at hreplicate
  exact hpoint hreplicate

end ReplayCalculator.Numeral
