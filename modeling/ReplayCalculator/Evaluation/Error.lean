import ReplayCalculator.Operation.Arithmetic
import ReplayCalculator.Number

/-!
# Calculation errors

A checked evaluation stops with an error that names the operator, its operands and the reason. The
kinds of errors form a tree: missing operands and domain errors are calculation errors, and a
division by zero is a domain error.
-/

namespace ReplayCalculator

/-- The kinds of calculation errors. -/
inductive ErrorKind
  | calculation
  | missingOperand
  | domain
  | divisionByZero
  deriving DecidableEq, Repr

namespace ErrorKind

/-- The kind of which this kind is a special case. -/
def parent? : ErrorKind → Option ErrorKind
  | calculation => none
  | missingOperand => some calculation
  | domain => some calculation
  | divisionByZero => some domain

/-- The kinds to which an error of this kind belongs, the most special one first. -/
def lineage : ErrorKind → List ErrorKind
  | calculation => [calculation]
  | missingOperand => [missingOperand, calculation]
  | domain => [domain, calculation]
  | divisionByZero => [divisionByZero, domain, calculation]

/-- The reason that errors of this kind have when none is given. -/
def reason : ErrorKind → String
  | calculation => "calculation error"
  | missingOperand => "missing operand"
  | domain => Fault.invalid.reason
  | divisionByZero => Arithmetic.divisionByZero

end ErrorKind

/-- Why a checked evaluation stopped. -/
structure CalculationError where
  kind : ErrorKind
  operator : String
  operands : List Float := []
  reason : String := kind.reason
  deriving DecidableEq

namespace CalculationError

/-- The error of an operation that finds no operand. -/
def missingOperand (symbol : String) : CalculationError :=
  { kind := .missingOperand, operator := symbol }

/-- The error of an operation that does not accept its operands. -/
def violation (symbol : String) (operands : List Float) (reason : String) : CalculationError where
  kind := if reason = Arithmetic.divisionByZero then .divisionByZero else .domain
  operator := symbol
  operands := operands
  reason := reason

/-- The error in words: operator, reason and, if there are any, the operands. -/
def message (e : CalculationError) : String :=
  let cause := e.operator ++ ": " ++ e.reason
  if e.operands.isEmpty then cause
  else cause ++ " (" ++ ", ".intercalate (e.operands.map Number.shown) ++ ")"

end CalculationError

end ReplayCalculator
