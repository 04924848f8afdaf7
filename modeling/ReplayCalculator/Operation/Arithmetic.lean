import ReplayCalculator.Operation.Basic

/-!
# The functions behind the keys

Division and logarithms follow IEEE 754 throughout: where the exact function has a pole the result
is an infinity, where it has no value the result is NaN, and neither is a fault. Exponentials whose
result is too large, square roots of negative numbers and the trigonometric functions of infinities
are faults. The domains are narrower than the functions: they name the operands for which a person
would want to be told.
-/

namespace ReplayCalculator.Arithmetic

/-- The reason given for a division by zero. -/
def divisionByZero : String := "division by zero"

/-! ### Functions -/

/-- Division in which a zero divisor gives an infinity with the product of the signs, or NaN if the
dividend is zero or NaN itself. -/
def divide (x y : Float) : Float :=
  if y == 0 then
    if x == 0 || x.isNaN then Binary64.nan
    else Binary64.infinity (Binary64.isNegative x != Binary64.isNegative y)
  else x / y

/-- A logarithm extended to all numbers: negative infinity at zero and NaN below it. -/
def logarithm (log : Float → Float) (x : Float) : Float :=
  if x == 0 then Binary64.infinity true
  else if x < 0 then Binary64.nan
  else log x

/-- An exponential function, which overflows if the power of a finite number is infinite. -/
def exponential (exp : Float → Float) (x : Float) : Except Fault Float :=
  let y := exp x
  if y.isInf && x.isFinite then .error .overflow else .ok y

/-- The square root, which has no value below zero. -/
def squareRoot (x : Float) : Except Fault Float :=
  if x < 0 then .error .invalid else .ok x.sqrt

/-- A trigonometric function, which has no value at the infinities. -/
def trigonometric (f : Float → Float) (x : Float) : Except Fault Float :=
  if x.isInf then .error .invalid else .ok (f x)

/-- A function without faults. -/
def total (f : Float → Float) (x : Float) : Except Fault Float := .ok (f x)

/-- A function of two operands without faults. -/
def total₂ (f : Float → Float → Float) (x y : Float) : Except Fault Float := .ok (f x y)

/-! ### Domains -/

/-- Refuses the operands below zero. -/
def nonNegative (x : Float) : Option String :=
  if x < 0 then some "square root of a negative number" else none

/-- Refuses zero and the operands below it. -/
def positive (x : Float) : Option String :=
  if x ≤ 0 then some "logarithm of a non-positive number" else none

/-- Refuses zero of either sign. -/
def nonZero (x : Float) : Option String :=
  if x == 0 then some divisionByZero else none

/-- Refuses a divisor that is zero. -/
def nonZeroDivisor (_ y : Float) : Option String := nonZero y

end ReplayCalculator.Arithmetic
