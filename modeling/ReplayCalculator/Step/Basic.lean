import ReplayCalculator.Number
import ReplayCalculator.Operation.Symbol

/-!
# Steps

A step is one thing that a person enters into a calculation: a number, the symbol of a key, or the
name of a variable whose value is looked up when the calculation is replayed.
-/

namespace ReplayCalculator

/-- One entry of a calculation. -/
inductive Step
  | number (value : Float)
  | operation (symbol : Symbol)
  | variable (name : String)
  deriving DecidableEq

/-- In words a symbol is its text. -/
instance : Coe Symbol String where
  coe := Symbol.text

/-- The step in words: numbers by their exact text, symbols and names as they are. -/
def Step.text : Step → String
  | .number value => Number.exact value
  | .operation symbol => symbol
  | .variable name => name

/-- The code points of the step in words: those of a symbol as they were pressed. -/
def Step.points : Step → List CodePoint
  | .operation symbol => symbol.points
  | step => CodePoint.ofString step.text

end ReplayCalculator
