import ReplayCalculator.Keypad.Basic

/-!
# Key presses and snapshots

All that can be done to a keypad as one type, so that a history of a keypad is a list; and all that
can be seen of it as one record.

* `perform_append`: a history of two parts is the one part after the other.
-/

namespace ReplayCalculator.Keypad

/-- A key press. -/
inductive Action
  | digit (text : String)
  | operation (symbol : Symbol)
  | erase
  | clean
  | storeMemory
  | recallMemory
  deriving DecidableEq, Repr

variable {σ : Type} (table : Table σ)

/-- The keypad after a key press. A text that is no digit key changes nothing. -/
def act (k : Keypad) (source : σ) : Action → Keypad × σ
  | .digit text => ((k.digit? (CodePoint.ofString text)).toOption.getD k, source)
  | .operation symbol => k.operation table symbol source
  | .erase => k.erase table source
  | .clean => (k.clean, source)
  | .storeMemory => k.storeMemory table source
  | .recallMemory => k.recallMemory table source

/-- The keypad after a history of key presses. -/
def perform (k : Keypad) (source : σ) : List Action → Keypad × σ
  | [] => (k, source)
  | a :: rest =>
    let next := k.act table source a
    perform next.1 next.2 rest

theorem perform_append (k : Keypad) (source : σ) (xs ys : List Action) :
    k.perform table source (xs ++ ys) =
      (k.perform table source xs).1.perform table (k.perform table source xs).2 ys := by
  induction xs generalizing k source with
  | nil => rfl
  | cons x xs ih => exact ih _ _

/-- What can be seen of a keypad. -/
structure Snapshot where
  display : String
  description : String
  isPending : Bool
  error : Option String
  memory : Bindings
  steps : List String

/-- What can be seen of the keypad now. -/
def snapshot (k : Keypad) : Snapshot where
  display := k.display
  description := k.description
  isPending := k.isPending
  error := k.error.map CalculationError.message
  memory := k.bindings
  steps := k.log.texts

end ReplayCalculator.Keypad
