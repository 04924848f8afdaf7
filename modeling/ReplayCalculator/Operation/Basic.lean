import ReplayCalculator.Decimal.Binary64

/-!
# Operations

What a key symbol stands for. An operation of one or two operands is a function that may fail and an
optional domain, a test that names the reason when it refuses the operands. Two readings follow from
these, and both evaluators are built on them:

* `value` always gives a number, infinity or NaN where the function fails;
* `violation?` gives the reason for which the operands are not acceptable, if there is one.

A custom operation has no operands and draws its value from a source of type `σ`, which is handed on
from one draw to the next. It always answers: unlike the other functions it has no way to fail.
-/

namespace ReplayCalculator

/-- Why a function has no value: the result is too large, or there is none for these operands. -/
inductive Fault
  | overflow
  | invalid
  deriving DecidableEq, Repr

namespace Fault

/-- The number that stands for the missing value. -/
def value : Fault → Float
  | overflow => Binary64.infinity false
  | invalid => Binary64.nan

/-- The fault in words. -/
def reason : Fault → String
  | overflow => "result out of range"
  | invalid => "math domain error"

/-- The value of a computation, or the number that stands for it. -/
def valueOf : Except Fault Float → Float
  | .ok y => y
  | .error fault => fault.value

/-- The fault of a computation in words, if it has one. -/
def reasonOf : Except Fault Float → Option String
  | .ok _ => none
  | .error fault => some fault.reason

end Fault

/-- An operation of one operand. The domain refuses an operand with a reason. -/
structure Unary where
  function : Float → Except Fault Float
  domain : Option (Float → Option String) := none

namespace Unary

/-- The result, with a number in the place of a fault. -/
def value (f : Unary) (x : Float) : Float := Fault.valueOf (f.function x)

/-- The reason for which the domain refuses `x`. -/
def refusal? (f : Unary) (x : Float) : Option String := f.domain.bind (· x)

/-- The reason for which `x` is no acceptable operand: that of the domain before that of the
function. -/
def violation? (f : Unary) (x : Float) : Option String :=
  (f.refusal? x).or (Fault.reasonOf (f.function x))

end Unary

/-- An operation of two operands. The domain refuses a pair of operands with a reason. -/
structure Binary where
  function : Float → Float → Except Fault Float
  domain : Option (Float → Float → Option String) := none

namespace Binary

/-- The result, with a number in the place of a fault. -/
def value (f : Binary) (x y : Float) : Float := Fault.valueOf (f.function x y)

/-- The reason for which the domain refuses `x` and `y`. -/
def refusal? (f : Binary) (x y : Float) : Option String := f.domain.bind (· x y)

/-- The reason for which `x` and `y` are no acceptable operands: that of the domain before that of
the function. -/
def violation? (f : Binary) (x y : Float) : Option String :=
  (f.refusal? x y).or (Fault.reasonOf (f.function x y))

end Binary

/-- The operation that a symbol stands for. A custom operation always answers with a number. -/
inductive Operation (σ : Type)
  | constant (value : Float)
  | unary (f : Unary)
  | binary (f : Binary)
  | equals
  | custom (draw : σ → Float × σ)

/-- The kinds of operations. -/
inductive Kind
  | constant
  | unary
  | binary
  | equals
  | custom
  deriving DecidableEq, Repr

/-- The name under which a kind is listed. -/
def Kind.name : Kind → String
  | constant => "constant"
  | unary => "unary"
  | binary => "binary"
  | equals => "equals"
  | custom => "custom"

/-- The kind of an operation. -/
def Operation.kind {σ : Type} : Operation σ → Kind
  | constant _ => .constant
  | unary _ => .unary
  | binary _ => .binary
  | equals => .equals
  | custom _ => .custom

end ReplayCalculator
