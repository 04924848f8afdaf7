import ReplayCalculator.Proofs.Decimal.Datum
import ReplayCalculator.Proofs.Decimal.Reading

/-!
# The shown text of a number, read back

The text in which a number is shown need not be read as the same number, since six decimals are not
enough to tell numbers apart. But the number that is read is shown as the same text
(`exists_read?_shown`), so that showing and reading it over and over again changes nothing. An
infinite number is shown as a sign that is read as no number (`read?_shown_of_infinite`).
-/

namespace ReplayCalculator.Number

open Binary64 (Datum datum)

/-- The text of a finite number is that of its millionths. -/
lemma shown_of_finite {v : Float} {negative : Bool} {r : Nat} (h : datum v = .finite negative r) :
    shown v = signed (negative && Decimal.placesOf 6 r != 0)
      (Decimal.fixedDigits 6 (Decimal.placesOf 6 r)) := by
  simp only [shown, h, maxFractionDigits]

/-- What is read back from the text of a finite number is shown as the same text. -/
lemma exists_read?_shown_of_finite {v : Float} {negative : Bool} {r : Nat}
    (h : datum v = .finite negative r) (hr : r < Binary64.infinityRank) :
    ∃ w, Numeral.read? (shown v) = some w ∧ shown w = shown v := by
  obtain ⟨hfinite, hback⟩ := Decimal.placesOf_nearestRank hr
  have hread := Numeral.read?_signed_fixedDigits (negative && Decimal.placesOf 6 r != 0)
    (Decimal.placesOf_lt hr)
  rw [← shown_of_finite h] at hread
  refine ⟨_, hread, ?_⟩
  -- The sign was left out already if it is left out of a zero.
  rw [shown_of_finite (Binary64.datum_ofRank _ hfinite), hback, shown_of_finite h, Bool.and_assoc,
    Bool.and_self]

/-- The text of no number is read as no number, which is shown as the same text. -/
lemma read?_shown_nan : Numeral.read? "NaN" = some Binary64.nan ∧ shown Binary64.nan = "NaN" := by
  decide +kernel

/-- What is read back from the text of a number that is not infinite is shown as the same text. -/
theorem exists_read?_shown {v : Float} (h : ∀ negative, datum v ≠ .infinite negative) :
    ∃ w, Numeral.read? (shown v) = some w ∧ shown w = shown v := by
  cases hv : datum v with
  | notANumber =>
    have hshown : shown v = "NaN" := by
      simp only [shown, hv]
    rw [hshown]
    exact ⟨Binary64.nan, read?_shown_nan⟩
  | infinite negative => exact absurd hv (h negative)
  | finite negative r => exact exists_read?_shown_of_finite hv (Binary64.of_datum_eq_finite hv).2.2

/-- The text of an infinite number is not read as a number. -/
theorem read?_shown_of_infinite {v : Float} {negative : Bool} (h : datum v = .infinite negative) :
    Numeral.read? (shown v) = none := by
  simp only [shown, h]
  cases negative with
  | true => decide +kernel
  | false => decide +kernel

end ReplayCalculator.Number
