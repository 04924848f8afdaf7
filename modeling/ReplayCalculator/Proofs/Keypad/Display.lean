import Mathlib.Tactic.Lemma
import ReplayCalculator.Keypad.Action
import ReplayCalculator.Proofs.Decimal.Reading

/-!
# What a display can hold

The display of a keypad holds in turn what is being typed, the text of a result and the text of an
error. These are told apart by their characters: errors begin with a label that no numeral begins
with (`not_isErrorText_shown`, `not_isErrorText_of_typed`), and a text with that label is never read
as a number (`read?_eq_none_of_isErrorText`).
-/

namespace ReplayCalculator.Keypad

/-- The text begins like the display of an error. -/
def IsErrorText (text : String) : Prop := errorLabel.toList <+: text.toList

/-- All characters of the text are digit keys. -/
def IsTyped (text : String) : Prop := ∀ c ∈ text.toList, c ∈ digitKeys.toList

/-- The label of an error in characters. -/
lemma errorLabel_toList : errorLabel.toList = ['E', 'r', 'r', 'o', 'r', ':', ' '] := by decide

/-- An error text begins with a capital letter. -/
lemma IsErrorText.head? {text : String} (h : IsErrorText text) : text.toList.head? = some 'E' := by
  obtain ⟨rest, hrest⟩ := h
  rw [← hrest, errorLabel_toList]
  rfl

/-! ### Typed texts -/

/-- What is typed is no error text. -/
lemma not_isErrorText_of_typed {text : String} (h : IsTyped text) : ¬ IsErrorText text := by
  intro herror
  have hmem : 'E' ∈ text.toList := List.mem_of_head? herror.head?
  exact absurd (h 'E' hmem) (by decide)

/-- The placeholder is no error text. -/
lemma not_isErrorText_placeholder : ¬ IsErrorText displayPlaceholder := by
  intro herror
  exact absurd herror.head? (by decide)

/-- A digit key types one of its characters. -/
lemma mem_digitKeys_of_digitKey? {text : List CodePoint} {c : Char} (h : digitKey? text = some c) :
    c ∈ digitKeys.toList := by
  unfold digitKey? at h
  split at h
  · split at h
    · rename_i hc
      cases h
      exact List.contains_iff_mem.mp hc
    · cases h
  · cases h

/-- A character behind a typed text, or at the start of a new one, makes a typed text. -/
lemma isTyped_typeChar {k : Keypad} {c : Char} (hc : c ∈ digitKeys.toList)
    (h : k.typing = true → IsTyped k.display) : IsTyped (k.typeChar c).display := by
  cases htyping : k.typing with
  | true =>
    have htyped := h htyping
    simp only [typeChar, htyping, if_true]
    split
    · exact htyped
    · intro d hd
      rw [String.toList_push, List.mem_append, List.mem_singleton] at hd
      rcases hd with hd | rfl
      · exact htyped d hd
      · exact hc
  | false =>
    intro d hd
    simp only [typeChar, htyping, Bool.false_eq_true, if_false, String.toList_singleton,
      List.mem_singleton] at hd
    rw [hd]
    exact hc

/-! ### Results -/

/-- The text of a number is no error text. -/
lemma not_isErrorText_shown (v : Float) : ¬ IsErrorText (Number.shown v) := by
  intro herror
  have hhead := herror.head?
  unfold Number.shown at hhead
  split at hhead
  · exact absurd hhead (by decide)
  · rename_i negative _
    cases negative <;> exact absurd hhead (by decide)
  · rename_i negative rank _
    simp only [Number.signed, String.toList_ofList] at hhead
    split at hhead
    · cases hhead
    · obtain ⟨c, hc, hplain⟩ := Numeral.head?_fixedDigits Number.maxFractionDigits
        (Decimal.placesOf Number.maxFractionDigits rank)
      rw [hc] at hhead
      cases hhead
      exact absurd hplain (by decide)

/-! ### Error texts -/

/-- An error text is not read as a number. -/
lemma read?_eq_none_of_isErrorText {text : String} (h : IsErrorText text) :
    Numeral.read? text = none := by
  obtain ⟨rest, hrest⟩ := h
  rw [errorLabel_toList] at hrest
  have hword : ∀ word : String, word.toList.head? ≠ some 'e' →
      String.ofList (text.toList.map Char.toLower) ≠ word := by
    rintro word hne rfl
    apply hne
    rw [String.toList_ofList, ← hrest]
    rfl
  have hsplit : Numeral.splitSign text.toList = (false, text.toList) := by
    rw [← hrest]
    rfl
  have hdecimal : Numeral.readDecimal? text.toList = none := by
    rw [← hrest]
    rfl
  simp only [Numeral.read?, hsplit, Numeral.readUnsigned?]
  rw [if_neg (hword "nan" (by decide)), if_neg, hdecimal]
  · rfl
  · rintro (hinf | hinf)
    · exact hword "inf" (by decide) hinf
    · exact hword "infinity" (by decide) hinf

/-- A keypad that shows an error displays no number. -/
lemma displayValue?_of_isErrorText {k : Keypad} (h : IsErrorText k.display) :
    k.displayValue? = none := read?_eq_none_of_isErrorText h

end ReplayCalculator.Keypad
