import ReplayCalculator.Decimal.Numeral
import ReplayCalculator.Evaluation.Basic
import ReplayCalculator.Step.Log
import ReplayCalculator.Text.Quoted

/-!
# The keypad

A keypad has a display, a description above it, one memory and a log. Digits are typed into the
display. The other keys record a step, take one away or bind the memory, and then refresh the view:
the log is replayed, and description and display show what came of it. A checked keypad shows the
reason of an error instead of a result, and goes on with the lenient evaluation for the description.

The keypad is a value. The table of operations and the source of their draws are not part of it,
since many keypads share them.

* `digit?_eq_error_iff`: a text is refused exactly if it is no digit key.
* `refresh_log`, `refresh_typing`, `refresh_memory`: refreshing changes the view alone.
-/

namespace ReplayCalculator

namespace Keypad

/-- The display of a keypad that has nothing to show. -/
def displayPlaceholder : String := " "

/-- The description of a keypad that has nothing to describe. -/
def descriptionPlaceholder : String := " "

/-- Ends the description of a calculation in which an operation waits. -/
def pendingSuffix : String := "..."

/-- Ends the description of a calculation in which no operation waits. -/
def resolvedSuffix : String := "="

/-- Opens the display of an error. -/
def errorLabel : String := "Error: "

/-- The variable that the memory key stands for. -/
def memoryVariable : String := "M"

/-- The keys that type. -/
def digitKeys : String := "0123456789."

end Keypad

/-- The state of a keypad. -/
structure Keypad where
  checked : Bool := true
  log : Log := .empty
  display : String := Keypad.displayPlaceholder
  description : String := Keypad.descriptionPlaceholder
  isPending : Bool := false
  error : Option CalculationError := none
  memory : Option Float := none
  typing : Bool := false

namespace Keypad

/-- A keypad on which no key was pressed. -/
def new (checked : Bool) : Keypad := { checked }

/-- The displayed number, if the display holds one. -/
def displayValue? (k : Keypad) : Option Float := Numeral.read? k.display

/-- The memory as a binding of its variable. -/
def bindings (k : Keypad) : Bindings :=
  k.memory.elim OrderedMap.empty (OrderedMap.empty.insert memoryVariable)

/-! ### Typing -/

/-- A text that is none of the digit keys. -/
structure DigitError where
  text : List CodePoint
  deriving DecidableEq, Repr

/-- The error in words. -/
def DigitError.message (e : DigitError) : String :=
  "Not a digit key: " ++ Text.quotedPoints e.text

/-- The character of a digit key. -/
def digitKey? : List CodePoint → Option Char
  | [.char c] => if digitKeys.toList.contains c then some c else none
  | _ => none

/-- The keypad after a character was typed: at the end of what was typed before, or at the start of
a new number. A number has only one point. -/
def typeChar (k : Keypad) (c : Char) : Keypad :=
  { k with
    display :=
      if k.typing then
        if c = '.' ∧ k.display.toList.contains '.' then k.display else k.display.push c
      else String.singleton c
    typing := true }

/-- Presses a digit key. -/
def digit? (k : Keypad) (text : List CodePoint) : Except DigitError Keypad :=
  match digitKey? text with
  | none => .error ⟨text⟩
  | some c => .ok (k.typeChar c)

theorem digit?_eq_error_iff {k : Keypad} {text : List CodePoint} {e : DigitError} :
    k.digit? text = .error e ↔ digitKey? text = none ∧ e = ⟨text⟩ := by
  unfold digit?
  split
  · simp_all [eq_comm]
  · simp_all

/-! ### Refreshing the view -/

/-- The keypad with the outcome of a replay in view. Without a result the display stays. -/
def present (k : Keypad) (error : Option CalculationError) (evaluation : Evaluation) : Keypad :=
  { k with
    error := error
    isPending := evaluation.isPending
    description :=
      evaluation.description ++ if evaluation.isPending then pendingSuffix else resolvedSuffix
    display :=
      match error, evaluation.result with
      | some e, _ => errorLabel ++ e.reason
      | none, some x => Number.shown x
      | none, none => k.display }

variable {σ : Type} (table : Table σ)

/-- The mode in which a keypad replays its log. While a calculation is being entered operands may be
missing, so that a checked keypad is tolerant. -/
def mode (k : Keypad) : Mode := if k.checked then .tolerant else .lenient

/-- Replays the log and shows the outcome. If the replay meets an error the log is replayed
leniently, with the source as the first replay has left it. -/
def refresh (k : Keypad) (source : σ) : Keypad × σ :=
  match evaluateIn table k.bindings k.mode k.log.steps source with
  | (.ok evaluation, source) => (k.present none evaluation, source)
  | (.error e, source) =>
    let outcome := evaluate table k.bindings k.log.steps source
    (k.present (some e) outcome.1, outcome.2)

/-- Every refresh shows the outcome of some replay. -/
theorem exists_refresh_eq_present (k : Keypad) (source : σ) :
    ∃ error evaluation, (k.refresh table source).1 = k.present error evaluation := by
  unfold refresh
  split
  · exact ⟨none, _, rfl⟩
  · exact ⟨some _, _, rfl⟩

@[simp] theorem refresh_log (k : Keypad) (source : σ) :
    (k.refresh table source).1.log = k.log := by
  obtain ⟨_, _, h⟩ := k.exists_refresh_eq_present table source
  rw [h]; rfl

@[simp] theorem refresh_typing (k : Keypad) (source : σ) :
    (k.refresh table source).1.typing = k.typing := by
  obtain ⟨_, _, h⟩ := k.exists_refresh_eq_present table source
  rw [h]; rfl

@[simp] theorem refresh_memory (k : Keypad) (source : σ) :
    (k.refresh table source).1.memory = k.memory := by
  obtain ⟨_, _, h⟩ := k.exists_refresh_eq_present table source
  rw [h]; rfl

/-! ### The other keys -/

/-- The keypad with one more step in its log. -/
def record (k : Keypad) (step : Step) : Keypad := { k with log := k.log.append step }

/-- The keypad with the typed number, if there is one, in its log. -/
def commit (k : Keypad) : Keypad :=
  if k.typing then
    { (k.displayValue?.elim k fun x => k.record (.number x)) with typing := false }
  else k

/-- Presses an operation key, which records the typed number and the symbol. -/
def operation (k : Keypad) (symbol : Symbol) (source : σ) : Keypad × σ :=
  (k.commit.record (.operation symbol)).refresh table source

/-- Takes away the last character of what is being typed. -/
def eraseChar (k : Keypad) : Keypad :=
  let rest := k.display.toList.dropLast
  if rest.isEmpty then { k with display := displayPlaceholder, typing := false }
  else { k with display := String.ofList rest }

/-- Presses the erase key: takes away a typed character, or else the last step. -/
def erase (k : Keypad) (source : σ) : Keypad × σ :=
  if k.typing then (k.eraseChar, source)
  else { k with log := k.log.removeLast.2 }.refresh table source

/-- Presses the clean key, which forgets everything. -/
def clean (k : Keypad) : Keypad := new k.checked

/-- Presses the store key, which binds the memory to the displayed number, if there is one. -/
def storeMemory (k : Keypad) (source : σ) : Keypad × σ :=
  match k.displayValue? with
  | none => (k, source)
  | some x => { k with memory := some x, typing := false }.refresh table source

/-- Presses the memory key, which records the variable of the memory. -/
def recallMemory (k : Keypad) (source : σ) : Keypad × σ :=
  { k.record (.variable memoryVariable) with typing := false }.refresh table source

end Keypad

end ReplayCalculator
