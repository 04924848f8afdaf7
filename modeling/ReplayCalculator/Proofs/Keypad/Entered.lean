import Mathlib.Tactic.Lemma
import ReplayCalculator.Keypad.Action
import ReplayCalculator.Operation.Feed

/-!
# What is entered into a keypad

A keypad records and it computes. Its log and the text that is being typed are what was entered;
description, error, memory and a display that is not being typed are what was computed. `Entered` is
a keypad that does the first and not the second: it has no table, no source and no evaluation. Every
keypad enters what this one enters (`entered_act`, `entered_perform`), whatever its table, its mode
and the answers of its custom operations. What is computed comes back into a keypad at one place
only: the store key asks whether the display holds a number. Where a text is being typed that is a
question about what was entered, and elsewhere the answer changes the memory alone.

The main statement `log_perform_new` compares any two keypads.
-/

namespace ReplayCalculator

/-- What was entered into a keypad: the log, and the text that is being typed, if there is one. -/
structure Entered where
  log : Log := .empty
  typed : Option String := none

namespace Entered

/-- What was entered after a character was typed as well. A number has only one point. -/
def typeChar (e : Entered) (c : Char) : Entered :=
  { e with
    typed :=
      match e.typed with
      | none => some (String.singleton c)
      | some text => if c = '.' ∧ text.toList.contains '.' then some text else some (text.push c) }

/-- The log with the typed number, if there is one, and one more step. -/
def commit (e : Entered) (step : Step) : Log :=
  ((e.typed.bind Numeral.read?).elim e.log fun x => e.log.append (.number x)).append step

/-- A text without its last character, if something is left of it. -/
def shorten? (text : String) : Option String :=
  if text.toList.dropLast.isEmpty then none else some (String.ofList text.toList.dropLast)

/-- What was entered after one more key press. -/
def act (e : Entered) : Keypad.Action → Entered
  | .digit text => (Keypad.digitKey? (CodePoint.ofString text)).elim e e.typeChar
  | .operation symbol => { log := e.commit (.operation symbol) }
  | .erase =>
    match e.typed with
    | some text => { e with typed := shorten? text }
    | none => { log := e.log.removeLast.2 }
  | .clean => {}
  | .storeMemory => if (e.typed.bind Numeral.read?).isSome then { log := e.log } else e
  | .recallMemory => { log := e.log.append (.variable Keypad.memoryVariable) }

/-- What was entered at the end of a history. -/
def perform (e : Entered) (actions : List Keypad.Action) : Entered := actions.foldl act e

end Entered

namespace Keypad

/-- What was entered into the keypad. -/
def entered (k : Keypad) : Entered := ⟨k.log, if k.typing then some k.display else none⟩

variable {σ : Type} (table : Table σ)

/-! ### One key press -/

/-- Refreshing the view of a keypad that is not being typed on enters nothing. -/
lemma entered_refresh {k : Keypad} (h : k.typing = false) (source : σ) :
    (k.refresh table source).1.entered = { log := k.log } := by
  simp [entered, h]

/-- Digit keys type. -/
lemma entered_digit (k : Keypad) (text : List CodePoint) :
    ((k.digit? text).toOption.getD k).entered =
      (digitKey? text).elim k.entered k.entered.typeChar := by
  unfold digit?
  cases digitKey? text with
  | none => rfl
  | some c =>
    cases htyping : k.typing with
    | false => simp [entered, Entered.typeChar, typeChar, htyping, Except.toOption]
    | true =>
      simp only [entered, Entered.typeChar, typeChar, htyping, Except.toOption, Option.getD_some,
        Option.elim_some, if_true]
      split <;> rfl

/-- A commit records the typed number and ends the typing. -/
lemma commit_log (k : Keypad) (step : Step) :
    (k.commit.record step).log = k.entered.commit step ∧ (k.commit.record step).typing = false := by
  cases htyping : k.typing with
  | false => simp [commit, record, entered, Entered.commit, htyping]
  | true =>
    cases hvalue : Numeral.read? k.display with
    | none => simp [commit, record, displayValue?, entered, Entered.commit, htyping, hvalue]
    | some x => simp [commit, record, displayValue?, entered, Entered.commit, htyping, hvalue]

/-- The erase key takes away what was typed or recorded last. -/
lemma entered_erase (k : Keypad) (source : σ) :
    (k.erase table source).1.entered = k.entered.act .erase := by
  cases htyping : k.typing with
  | false =>
    have hundo : k.erase table source =
        { k with log := k.log.removeLast.2 }.refresh table source := by
      simp [erase, htyping]
    rw [hundo, entered_refresh table (k := { k with log := k.log.removeLast.2 }) htyping]
    simp [entered, Entered.act, htyping]
  | true =>
    simp only [erase, htyping, if_true, eraseChar, entered, Entered.act, Entered.shorten?]
    split <;> simp

/-- The store key ends the typing of a number, and enters nothing. -/
lemma entered_storeMemory (k : Keypad) (source : σ) :
    (k.storeMemory table source).1.entered = k.entered.act .storeMemory := by
  unfold storeMemory
  cases hvalue : k.displayValue? with
  | none =>
    have hread : Numeral.read? k.display = none := hvalue
    cases htyping : k.typing <;> simp [entered, Entered.act, htyping, hread]
  | some x =>
    have hread : Numeral.read? k.display = some x := hvalue
    rw [entered_refresh table rfl]
    cases htyping : k.typing <;> simp [entered, Entered.act, htyping, hread]

/-- What a key press enters depends on nothing that the keypad computes. -/
lemma entered_act (k : Keypad) (source : σ) (a : Action) :
    (k.act table source a).1.entered = k.entered.act a := by
  cases a with
  | digit text => exact k.entered_digit (CodePoint.ofString text)
  | operation symbol =>
    obtain ⟨hlog, htyping⟩ := k.commit_log (.operation symbol)
    simp only [act, operation]
    rw [entered_refresh table htyping, hlog]
    rfl
  | erase => exact k.entered_erase table source
  | clean => rfl
  | storeMemory => exact k.entered_storeMemory table source
  | recallMemory =>
    simp only [act, recallMemory]
    rw [entered_refresh table rfl]
    rfl

/-! ### Histories -/

/-- What a history enters depends on nothing that the keypad computes. -/
lemma entered_perform (k : Keypad) (source : σ) (actions : List Action) :
    (k.perform table source actions).1.entered = k.entered.perform actions := by
  induction actions generalizing k source with
  | nil => rfl
  | cons a rest ih =>
    simp only [perform, Entered.perform, List.foldl_cons, ← entered_act table k source a]
    exact ih _ _

/-- Two keypads into which the same was entered have the same log and typing flag, and the same
display where it is being typed. -/
lemma eq_of_entered_eq {k k' : Keypad} (h : k.entered = k'.entered) :
    k.log = k'.log ∧ k.typing = k'.typing ∧ (k.typing = true → k.display = k'.display) := by
  simp only [entered, Entered.mk.injEq] at h
  obtain ⟨hlog, htyped⟩ := h
  refine ⟨hlog, ?_⟩
  cases hk : k.typing <;> cases hk' : k'.typing <;> simp_all

/-- What a keypad records is independent of what it computes: after the same history, any two
keypads, checked or not, with any tables and any sources, have the same log and the same typing
flag, and they display the same text whenever it is being typed. All of this is determined by the
key presses alone. -/
theorem log_perform_new {τ : Type} (table : Table σ) (table' : Table τ) (checked checked' : Bool)
    (source : σ) (source' : τ) (actions : List Action) :
    let k := ((new checked).perform table source actions).1
    let k' := ((new checked').perform table' source' actions).1
    k.log = k'.log ∧ k.typing = k'.typing ∧ (k.typing = true → k.display = k'.display) ∧
      k.entered = Entered.perform {} actions := by
  intro k k'
  have hk : k.entered = Entered.perform {} actions :=
    entered_perform table (new checked) source actions
  have hk' : k'.entered = Entered.perform {} actions :=
    entered_perform table' (new checked') source' actions
  obtain ⟨hlog, htyping, hdisplay⟩ := eq_of_entered_eq (hk.trans hk'.symm)
  exact ⟨hlog, htyping, hdisplay, hk⟩

/-- One is divided by zero, on a checked keypad and on one that knows no symbol. The first one shows
an error, which cannot be stored, and the second one stores zero; both go on to type `4.`. -/
theorem log_perform_new_of_division_by_zero :
    let actions : List Action :=
      [.digit "1", .operation "÷", .digit "0", .operation "=", .storeMemory, .digit "4", .digit ".",
        .digit "4 5", .digit "."]
    let k := ((new true).perform (Table.standard Supply.between) ({} : Supply) actions).1
    let k' := ((new false).perform (OrderedMap.empty : Table Unit) () actions).1
    k.error.isSome = true ∧ k'.error = none ∧ k.memory = none ∧ k'.memory = some 0 ∧
      k.typing = true ∧ k.log = k'.log ∧ k.typing = k'.typing ∧ k.display = k'.display := by
  intro actions k k'
  have htyping : k.typing = true := by decide +kernel
  obtain ⟨hlog, hsame, hdisplay, -⟩ := log_perform_new (Table.standard Supply.between)
    (OrderedMap.empty : Table Unit) true false ({} : Supply) () actions
  exact ⟨by decide +kernel, by decide +kernel, by decide +kernel, by decide +kernel, htyping, hlog,
    hsame, hdisplay htyping⟩

end Keypad

end ReplayCalculator
