import Mathlib.Data.List.Infix
import ReplayCalculator.Proofs.Decimal.Plain
import ReplayCalculator.Proofs.Keypad.Attempt
import ReplayCalculator.Proofs.Keypad.Display
import ReplayCalculator.Proofs.Keypad.Entered

/-!
# What is being typed

The display of a keypad also holds results and the texts of errors, and an infinite or a negative
number could be read from some of them. None of these is ever recorded, because a number is recorded
only while it is being typed, and then the display holds what was typed and nothing else.

What was entered is *well typed* if that is so: the text that is being typed has digits and at most
one point, and the numbers in the log have no sign and are not NaN (`Entered.WellTyped`). Every key
press keeps it well typed (`Entered.WellTyped.act`), and so does a history
(`Entered.WellTyped.perform`). Since every keypad enters the same (`Keypad.entered_perform`), this
holds of all of them. The main statement is `Keypad.perform_typing`.
-/

namespace ReplayCalculator

/-! ### Typed texts -/

namespace Numeral

/-- Digits with at most one point, and at least one character. -/
structure IsTypedText (cs : List Char) : Prop where
  ne_nil : cs ≠ []
  isPlain : ∀ c ∈ cs, isPlain c = true
  count_point : cs.count '.' ≤ 1

namespace IsTypedText

variable {cs : List Char} {c : Char}

/-- The first character begins a typed text. -/
lemma singleton (hc : Numeral.isPlain c = true) : IsTypedText [c] := by
  refine ⟨List.cons_ne_nil c [], ?_, List.count_le_length⟩
  intro d hd
  rw [List.mem_singleton.mp hd]
  exact hc

/-- One more character at the end leaves a typed text, unless it is a second point. -/
lemma concat (h : IsTypedText cs) (hc : Numeral.isPlain c = true) (hpoint : c = '.' → '.' ∉ cs) :
    IsTypedText (cs ++ [c]) := by
  refine ⟨List.concat_ne_nil c cs, ?_, ?_⟩
  · intro d hd
    rcases List.mem_append.mp hd with hd | hd
    · exact h.isPlain d hd
    · rw [List.mem_singleton.mp hd]
      exact hc
  · rw [List.count_append]
    by_cases heq : c = '.'
    · rw [heq, List.count_eq_zero.mpr (hpoint heq), List.count_singleton_self]
    · rw [List.count_singleton, if_neg (by simpa using heq)]
      exact h.count_point

/-- A typed text without its last character is one, as long as something is left. -/
lemma dropLast (h : IsTypedText cs) (hne : cs.dropLast ≠ []) : IsTypedText cs.dropLast :=
  ⟨hne, fun c hc => h.isPlain c (List.mem_of_mem_dropLast hc),
    ((List.dropLast_sublist cs).count_le '.').trans h.count_point⟩

/-- A typed text is read as the number nearest to its exact value, unless it is only the point. -/
lemma read?_eq (h : IsTypedText cs) :
    (cs = ['.'] ∧ read? (String.ofList cs) = none) ∨
      (cs ≠ ['.'] ∧
        ∃ x, read? (String.ofList cs) = some x ∧ Binary64.IsNearestNumber x (plainValue cs)) := by
  by_cases hpoint : cs = ['.']
  · refine Or.inl ⟨hpoint, ?_⟩
    rw [hpoint]
    decide +kernel
  · exact Or.inr ⟨hpoint, exists_read?_of_isPlainNumeral
      (isPlainNumeral_of_ne h.ne_nil h.isPlain h.count_point hpoint)⟩

/-- Whatever is read from a typed text is the number nearest to its exact value. -/
lemma isNearestNumber (h : IsTypedText cs) {x : Float} (hread : read? (String.ofList cs) = some x) :
    Binary64.IsNearestNumber x (plainValue cs) := by
  rcases h.read?_eq with ⟨-, hnone⟩ | ⟨-, y, hsome, hnear⟩
  · rw [hnone] at hread
    cases hread
  · rw [hsome] at hread
    rwa [← Option.some_inj.mp hread]

end IsTypedText

end Numeral

/-- The nearest number has no sign and is not NaN. -/
lemma Binary64.IsNearestNumber.isNaN_eq {x : Float} {q : ℚ} (h : IsNearestNumber x q) :
    x.isNaN = false := by
  apply isNaN_eq_false
  by_cases hlt : q < overflowBound
  · exact (isFinite_iff.mp (h.isFinite hlt)).le
  · exact (of_datum_eq_infinite (h.datum_eq (not_lt.mp hlt))).2.le

/-! ### Logs -/

namespace Log

/-- No number in the log has a sign or is NaN. -/
def IsUnsigned (log : Log) : Prop :=
  ∀ x, .number x ∈ log.steps → Binary64.isNegative x = false ∧ x.isNaN = false

namespace IsUnsigned

variable {log : Log} (h : log.IsUnsigned)

include h in
/-- The nearest number to something may be recorded. -/
lemma append_number {x : Float} {q : ℚ} (hx : Binary64.IsNearestNumber x q) :
    (log.append (.number x)).IsUnsigned := by
  intro y hy
  rcases List.mem_append.mp hy with hold | hnew
  · exact h y hold
  · cases List.mem_singleton.mp hnew
    exact ⟨hx.isNegative_eq, hx.isNaN_eq⟩

include h in
/-- A step that is no number may be recorded. -/
lemma append {step : Step} (hstep : ∀ x, .number x ≠ step) : (log.append step).IsUnsigned := by
  intro x hx
  rcases List.mem_append.mp hx with hold | hnew
  · exact h x hold
  · exact absurd (List.mem_singleton.mp hnew) (hstep x)

include h in
/-- The last step may be taken away. -/
lemma removeLast : log.removeLast.2.IsUnsigned := fun x hx => h x (List.mem_of_mem_dropLast hx)

end IsUnsigned

end Log

/-! ### What is entered -/

namespace Entered

open Numeral (IsTypedText)

/-- What is being typed is a typed text, and no number in the log has a sign or is NaN. -/
structure WellTyped (e : Entered) : Prop where
  typed : ∀ text, e.typed = some text → IsTypedText text.toList
  isUnsigned : e.log.IsUnsigned

/-- A digit key has a plain character. -/
lemma isPlain_of_digitKey? {text : List CodePoint} {c : Char} (h : Keypad.digitKey? text = some c) :
    Numeral.isPlain c = true := by
  have hall : ∀ d ∈ Keypad.digitKeys.toList, Numeral.isPlain d = true :=
    List.all_eq_true.mp (by decide)
  exact hall c (Keypad.mem_digitKeys_of_digitKey? h)

variable {e : Entered}

/-- What is committed while a text is being typed: the number nearest to it and then the step, or
the step alone if the text is only the point. -/
lemma commit_of_typed {text : String} (htyped : e.typed = some text) (h : IsTypedText text.toList)
    (step : Step) :
    (text = "." ∧ (e.commit step).steps = e.log.steps ++ [step]) ∨
      (text ≠ "." ∧ ∃ x, Binary64.IsNearestNumber x (Numeral.plainValue text.toList) ∧
        (e.commit step).steps = e.log.steps ++ [.number x, step]) := by
  have hpoint : text.toList = ['.'] ↔ text = "." := by
    rw [← String.toList_inj]
    rfl
  have hread := h.read?_eq
  rw [String.ofList_toList, hpoint, ne_eq, hpoint] at hread
  refine hread.imp ?_ ?_
  · rintro ⟨heq, hnone⟩
    refine ⟨heq, ?_⟩
    simp [commit, htyped, hnone]
  · rintro ⟨hne, x, hsome, hnear⟩
    refine ⟨hne, x, hnear, ?_⟩
    simp [commit, htyped, hsome]

namespace WellTyped

/-- Where nothing is being typed, only the log counts. -/
lemma of_log {log : Log} (hlog : log.IsUnsigned) : WellTyped { log } := by
  refine ⟨?_, hlog⟩
  intro text htext
  cases htext

/-- At the beginning nothing is typed or recorded. -/
lemma start : WellTyped {} := by
  apply of_log
  intro x hx
  cases hx

variable (h : e.WellTyped)

include h in
/-- A digit key types one more character, but no second point. -/
lemma typeChar {c : Char} (hc : Numeral.isPlain c = true) : (e.typeChar c).WellTyped := by
  refine ⟨fun text htext => ?_, h.isUnsigned⟩
  cases htyped : e.typed with
  | none =>
    simp only [Entered.typeChar, htyped, Option.some.injEq] at htext
    rw [← htext, String.toList_singleton]
    exact .singleton hc
  | some typed =>
    have htext' := h.typed typed htyped
    simp only [Entered.typeChar, htyped] at htext
    split at htext
    · rw [← Option.some_inj.mp htext]
      exact htext'
    · rename_i hpoint
      rw [← Option.some_inj.mp htext, String.toList_push]
      refine htext'.concat hc fun heq hmem => hpoint ⟨heq, ?_⟩
      exact List.contains_iff_mem.mpr hmem

include h in
/-- The typed number may be recorded, and behind it a step that is no number. -/
lemma commit {step : Step} (hstep : ∀ x, .number x ≠ step) : (e.commit step).IsUnsigned := by
  refine Log.IsUnsigned.append ?_ hstep
  cases hvalue : e.typed.bind Numeral.read? with
  | none => exact h.isUnsigned
  | some x =>
    obtain ⟨text, htyped, hread⟩ := Option.bind_eq_some_iff.mp hvalue
    rw [← String.ofList_toList (s := text)] at hread
    exact h.isUnsigned.append_number ((h.typed text htyped).isNearestNumber hread)

include h in
/-- The erase key takes away a typed character or the last step. -/
lemma erase : (e.act .erase).WellTyped := by
  cases htyped : e.typed with
  | none =>
    simp only [Entered.act, htyped]
    exact of_log h.isUnsigned.removeLast
  | some typed =>
    simp only [Entered.act, htyped]
    refine ⟨fun text htext => ?_, h.isUnsigned⟩
    simp only [shorten?] at htext
    split at htext
    · cases htext
    · rename_i hne
      rw [← Option.some_inj.mp htext, String.toList_ofList]
      refine (h.typed typed htyped).dropLast fun hnil => hne ?_
      rw [hnil]
      rfl

include h in
/-- Every key press keeps what was entered well typed. -/
lemma act (a : Keypad.Action) : (e.act a).WellTyped := by
  cases a with
  | digit text =>
    simp only [Entered.act]
    cases hkey : Keypad.digitKey? (CodePoint.ofString text) with
    | none => exact h
    | some c => exact h.typeChar (isPlain_of_digitKey? hkey)
  | operation symbol =>
    refine of_log (h.commit ?_)
    intro x hx
    cases hx
  | erase => exact h.erase
  | clean => exact start
  | storeMemory =>
    simp only [Entered.act]
    split
    · exact of_log h.isUnsigned
    · exact h
  | recallMemory =>
    refine of_log (h.isUnsigned.append ?_)
    intro x hx
    cases hx

include h in
/-- A history keeps what was entered well typed. -/
lemma perform (actions : List Keypad.Action) : (e.perform actions).WellTyped := by
  induction actions generalizing e with
  | nil => exact h
  | cons a rest ih => exact ih (h.act a)

end WellTyped

end Entered

/-! ### Keypads -/

namespace Keypad

open Binary64 (IsNearestNumber)
open Numeral (IsTypedText plainValue)

variable {σ : Type}

/-- On every keypad, whatever was pressed before and whatever its table computes, a text that is
being typed has digits and at most one point, and at least one character. An operation key then
records the number nearest to it, of which there is only one, in front of the symbol, but no number
if the text is only the point. No number that is ever recorded has a sign or is NaN. And no key
press has an error but a digit key whose text is none of the eleven. -/
theorem perform_typing (table : Table σ) (checked : Bool) (source : σ) (actions : List Action) :
    let k := ((new checked).perform table source actions).1
    (k.typing = true → IsTypedText k.display.toList ∧
      ∀ (symbol : Symbol) (source' : σ),
        let log := (k.act table source' (.operation symbol)).1.log
        (k.display = "." ∧ log.steps = k.log.steps ++ [.operation symbol]) ∨
          (k.display ≠ "." ∧ ∃ x, IsNearestNumber x (plainValue k.display.toList) ∧
            (∀ y, IsNearestNumber y (plainValue k.display.toList) → y = x) ∧
            log.steps = k.log.steps ++ [.number x, .operation symbol])) ∧
      (∀ x, .number x ∈ k.log.steps → Binary64.isNegative x = false ∧ x.isNaN = false) ∧
      ∀ (a : Action) (source' : σ),
        (a.IsRefused → ∃ e, k.attempt table source' a = (.error (.digit e), k, source')) ∧
          (¬ a.IsRefused → k.attempt table source' a = (.ok (), k.act table source' a)) := by
  intro k
  have hentered : k.entered = Entered.perform {} actions :=
    entered_perform table (new checked) source actions
  have hwell : k.entered.WellTyped := by
    rw [hentered]
    exact Entered.WellTyped.start.perform actions
  refine ⟨fun htyping => ?_, hwell.isUnsigned, fun a source' => ?_⟩
  · have htyped : k.entered.typed = some k.display := by simp [entered, htyping]
    have htext := hwell.typed k.display htyped
    refine ⟨htext, fun symbol source' => ?_⟩
    have hlog : (k.act table source' (.operation symbol)).1.log =
        k.entered.commit (.operation symbol) :=
      congrArg Entered.log (entered_act table k source' (.operation symbol))
    rw [hlog]
    refine (Entered.commit_of_typed htyped htext (.operation symbol)).imp_right ?_
    rintro ⟨hne, x, hnear, hsteps⟩
    exact ⟨hne, x, hnear, fun y hy => hy.eq hnear, hsteps⟩
  · exact ⟨fun hrefused => attempt_of_isRefused hrefused k source',
      fun hrefused => attempt_of_not_isRefused hrefused k source'⟩

/-- The point is erased and typed again. -/
example :
    ((new true).perform (Table.standard Supply.between) ({} : Supply)
      [.digit "1", .digit ".", .erase, .digit ".", .digit ".", .digit "25", .digit "2", .digit "5",
        .operation "+"]).1.log.steps = [.number (5 / 4), .operation "+"] := by
  decide +kernel

end Keypad

end ReplayCalculator
