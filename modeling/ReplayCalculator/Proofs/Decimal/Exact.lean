import ReplayCalculator.Proofs.Decimal.Comparison
import ReplayCalculator.Proofs.Decimal.Writing
import ReplayCalculator.Step.Basic

/-!
# The exact text of a number, read back

The exact text of a number is the text in which a number is listed among the steps. Its digits are
those of the shortest decimal that is read as the number, so that the text is read as the number
again (`read?_exact`), and texts of different numbers are different.

What is read from a numeral is said here without the reader: the number has the sign of the numeral,
and without the sign it is the nearest number to the exact value of the decimal (`IsReading`).
Whatever a numeral looks like, the reader finds this number (`exists_read?_of_decimal?`).
-/

namespace ReplayCalculator

open Binary64

/-! ### Readings -/

/-- Whether a number is what a decimal with a sign stands for: it has this sign, and without the
sign it is the number nearest to the decimal. -/
structure Binary64.IsReading (v : Float) (negative : Bool) (d : Decimal) : Prop where
  isNegative_eq : isNegative v = negative
  isNearestNumber : IsNearestNumber (ofRank false (rank v)) d.value

namespace Binary64

variable {v : Float} {negative : Bool} {d : Decimal}

/-- A number is made from its sign and its rank. -/
lemma ofRank_isNegative_rank (hv : rank v ≤ infinityRank) : ofRank (isNegative v) (rank v) = v :=
  eq_of_rank_eq (isNegative_ofRank _ hv) (rank_ofRank _ hv)

/-- The number with a sign and the rank of a decimal is what the decimal stands for. -/
lemma isReading_ofRank (negative : Bool) (d : Decimal) :
    IsReading (ofRank negative d.rank) negative d := by
  refine ⟨isNegative_ofRank negative d.rank_le_infinityRank, ?_⟩
  rw [rank_ofRank negative d.rank_le_infinityRank]
  exact d.isNearestNumber_rank

/-- A decimal that stands for a number has its rank. -/
lemma IsReading.rank_eq (h : IsReading v negative d) (hv : rank v ≤ infinityRank) :
    d.rank = rank v := by
  have hsame := congrArg rank (h.isNearestNumber.eq d.isNearestNumber_rank)
  rw [rank_ofRank false hv, rank_ofRank false d.rank_le_infinityRank] at hsame
  exact hsame.symm

end Binary64

namespace Numeral

/-- The sign of a numeral and its decimal. -/
def decimal? (text : String) : Option (Bool × Decimal) :=
  let (negative, cs) := splitSign text.toList
  (readDecimal? cs).map (negative, ·)

/-- A numeral begins with a digit or a point. -/
lemma exists_head?_of_readDecimal? {cs : List Char} {d : Decimal} (h : readDecimal? cs = some d) :
    ∃ c, cs.head? = some c ∧ isPlain c = true := by
  cases cs with
  | nil => cases h
  | cons c rest =>
    refine ⟨c, rfl, ?_⟩
    by_contra hnot
    rw [isPlain, Bool.or_eq_true, not_or, Bool.not_eq_true] at hnot
    obtain ⟨hdigit, hpoint⟩ := hnot
    have hhead : ∀ c', (c :: rest).head? = some c' → isDigit c' = false := fun c' hc' =>
      Option.some_inj.mp hc' ▸ hdigit
    obtain ⟨htake, hdrop⟩ := Decimal.span_of_head?_ne_digit hhead
    have hfraction : splitFraction (c :: rest) = ([], c :: rest) := by
      unfold splitFraction
      split
      · rename_i heq
        cases heq
        exact absurd rfl hpoint
      · rfl
    rw [readDecimal?, htake, hdrop, hfraction] at h
    simp at h

/-- A numeral is read as the number that its sign and its decimal stand for. -/
lemma read?_of_decimal? {text : String} {negative : Bool} {d : Decimal}
    (h : decimal? text = some (negative, d)) : read? text = some (ofRank negative d.rank) := by
  rcases hsplit : splitSign text.toList with ⟨sign, cs⟩
  simp only [decimal?, hsplit] at h
  obtain ⟨d', hread, heq⟩ := Option.map_eq_some_iff.mp h
  obtain ⟨rfl, rfl⟩ := Prod.mk.inj heq
  obtain ⟨c, hhead, hc⟩ := exists_head?_of_readDecimal? hread
  simp only [read?, hsplit]
  rw [readUnsigned?_of_isPlain hhead hc, hread, Option.map_some]

/-- The reading of a numeral is correct, whatever the numeral looks like. -/
theorem exists_read?_of_decimal? {text : String} {negative : Bool} {d : Decimal}
    (h : decimal? text = some (negative, d)) : ∃ x, read? text = some x ∧ IsReading x negative d :=
  ⟨_, read?_of_decimal? h, isReading_ofRank negative d⟩

end Numeral

/-! ### The exact text -/

namespace Number

open Numeral Decimal

variable {v : Float}

/-- The digits of a finite rank are read back as a decimal of this rank, with as many significant
digits as the shortest one. -/
lemma exists_readDecimal?_write_shortest {r : ℕ} (hr : r < infinityRank) :
    ∃ d, readDecimal? ((shortest r).write exactLayout) = some d ∧ d.rank = r ∧
      d.significance = (shortest r).significance := by
  rcases Nat.eq_zero_or_pos r with rfl | hpos
  · exact ⟨⟨0, -1⟩, by decide, by decide, by decide⟩
  · have hrank := rank_shortest hr
    have hdigits : (shortest r).digits ≠ 0 := by
      intro hzero
      rw [Decimal.rank, if_pos (Or.inl hzero)] at hrank
      omega
    obtain ⟨d, hread, hvalue, hsignificance⟩ := exists_readDecimal?_write exactLayout hdigits
    exact ⟨d, hread, (rank_eq_of_value_eq hvalue).trans hrank, hsignificance⟩

/-- The exact text of a finite number is a numeral with its sign and its rank. -/
lemma exists_decimal?_exact (hv : v.isFinite = true) :
    ∃ d, decimal? (exact v) = some (isNegative v, d) ∧ d.rank = rank v ∧
      d.significance = (shortest (rank v)).significance := by
  obtain ⟨d, hread, hrank, hsignificance⟩ := exists_readDecimal?_write_shortest (isFinite_iff.mp hv)
  obtain ⟨c, hhead, hc⟩ := exists_head?_of_readDecimal? hread
  refine ⟨d, ?_, hrank, hsignificance⟩
  simp only [exact, datum_of_isFinite hv, decimal?, splitSign_signed _ hhead hc, hread,
    Option.map_some]

/-- The exact text of an infinite number is read as this number. -/
lemma read?_exact_of_isInfinite (hv : IsInfinite v) : read? (exact v) = some v := by
  obtain ⟨negative, hdatum⟩ := hv
  obtain ⟨hsign, hrank⟩ := of_datum_eq_infinite hdatum
  have hback : infinity negative = v := by
    rw [infinity, ← hsign, ← hrank]
    exact ofRank_isNegative_rank hrank.le
  have hread : read? (signed negative ['i', 'n', 'f']) = some (infinity negative) := by
    cases negative with
    | true => decide
    | false => decide
  simp only [exact, hdatum]
  rw [hread, hback]

/-- The exact text of a number is read as this number. -/
lemma read?_exact (hv : datum v ≠ .notANumber) : read? (exact v) = some v := by
  rcases isFinite_or_isInfinite hv with hfinite | hinfinite
  · obtain ⟨d, hdecimal, hrank, -⟩ := exists_decimal?_exact hfinite
    rw [read?_of_decimal? hdecimal, hrank, ofRank_isNegative_rank (isFinite_iff.mp hfinite).le]
  · exact read?_exact_of_isInfinite hinfinite

end Number

/-! ### Steps that hold a number -/

namespace Step

/-- The text of a step that holds a number is read as this number, with the sign of a zero and the
infinities. If the number is finite, then the text is a numeral with its sign for which it is the
nearest number, and unless it is zero, no decimal for which it is the nearest number has fewer
significant digits than the text. So two steps that hold numbers have the same text if, and only if,
they hold the same number. -/
theorem text_number_faithful (v : Float) (hv : datum v ≠ .notANumber) :
    Numeral.read? (number v).text = some v ∧
      (v.isFinite = true →
        ∃ d, Numeral.decimal? (number v).text = some (isNegative v, d) ∧
          IsReading v (isNegative v) d ∧
          (¬ IsZero v →
            ∀ negative d', IsReading v negative d' → d.significance ≤ d'.significance)) ∧
      ∀ w, datum w ≠ .notANumber → ((number v).text = (number w).text ↔ v = w) := by
  have hread := Number.read?_exact hv
  refine ⟨hread, fun hfinite => ?_, fun w hw => ⟨fun htext => ?_, fun heq => heq ▸ rfl⟩⟩
  · have hrank := isFinite_iff.mp hfinite
    obtain ⟨d, hdecimal, -, hsignificance⟩ := Number.exists_decimal?_exact hfinite
    obtain ⟨x, hx, hreading⟩ := Numeral.exists_read?_of_decimal? hdecimal
    obtain rfl : v = x := Option.some_inj.mp (hread.symm.trans hx)
    refine ⟨d, hdecimal, hreading, fun hzero negative d' hd' => ?_⟩
    have hpos : 0 < rank v := Nat.pos_of_ne_zero (mt isZero_iff.mpr hzero)
    rw [hsignificance]
    exact Decimal.significance_shortest_le hpos hrank (hd'.rank_eq hrank.le)
  · have hsame : Numeral.read? (number v).text = some w := by
      rw [htext]
      exact Number.read?_exact hw
    exact Option.some_inj.mp (hread.symm.trans hsame)

/-- `2 ^ (-44)` is the first number of its binade, so that the numbers before it are closer than
those behind it. It has a text with 16 digits, although the exact value begins with
`56843418860808015`. -/
theorem text_number_faithful_of_power :
    datum (Float.ofBits 0x3D30000000000000) = .finite false 0x3D30000000000000 ∧
      (number (Float.ofBits 0x3D30000000000000)).text = "5.684341886080802e-14" ∧
      Numeral.read? "5.684341886080802e-14" = some (Float.ofBits 0x3D30000000000000) ∧
      (∃ d, Numeral.decimal? "5.684341886080802e-14" = some (false, d) ∧
        d.significance ≤ (⟨56843418860808015, -30⟩ : Decimal).significance) ∧
      "5.684341886080802e-14" ≠ (number (Float.ofBits 0x3D30000000000001)).text := by
  have hdatum : datum (Float.ofBits 0x3D30000000000000) = .finite false 0x3D30000000000000 := by
    decide +kernel
  have hv : datum (Float.ofBits 0x3D30000000000000) ≠ .notANumber := by decide +kernel
  have hw : datum (Float.ofBits 0x3D30000000000001) ≠ .notANumber := by decide +kernel
  have hfinite : (Float.ofBits 0x3D30000000000000).isFinite = true := by decide +kernel
  have htext : (number (Float.ofBits 0x3D30000000000000)).text = "5.684341886080802e-14" := by
    decide +kernel
  have hsign : isNegative (Float.ofBits 0x3D30000000000000) = false := by decide +kernel
  have hrank : rank (Float.ofBits 0x3D30000000000000) = 0x3D30000000000000 := by decide +kernel
  have hzero : ¬ IsZero (Float.ofBits 0x3D30000000000000) := by
    rw [isZero_iff, hrank]
    decide
  have hreading : IsReading (Float.ofBits 0x3D30000000000000) false ⟨56843418860808015, -30⟩ := by
    have hback : (⟨56843418860808015, -30⟩ : Decimal).rank = 0x3D30000000000000 := by decide +kernel
    have hnumber := isReading_ofRank false ⟨56843418860808015, -30⟩
    rwa [hback] at hnumber
  have hne : Float.ofBits 0x3D30000000000000 ≠ Float.ofBits 0x3D30000000000001 := by decide +kernel
  obtain ⟨hread, hdecimal, hsame⟩ := text_number_faithful (Float.ofBits 0x3D30000000000000) hv
  obtain ⟨d, hd, -, hshortest⟩ := hdecimal hfinite
  rw [htext] at hread hd hsame
  rw [hsign] at hd
  exact ⟨hdatum, htext, hread, ⟨d, hd, hshortest hzero false _ hreading⟩, mt (hsame _ hw).mp hne⟩

end Step

end ReplayCalculator
