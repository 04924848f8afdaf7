import ReplayCalculator.Text.CodePoint
import ReplayCalculator.Text.Hexadecimal
import ReplayCalculator.Text.Printable

/-!
# Quoted texts

A text inside a message stands in quotes, so that its ends can be seen, and with escapes for all
that cannot be printed, surrogates among it. The quotes are single ones, unless the text has a
single quote and no double one.
-/

namespace ReplayCalculator.Text

/-- The quotes around a text. -/
def quote (points : List CodePoint) : Char :=
  if points.contains (.char '\x27') && !points.contains (.char '"') then '"' else '\x27'

/-- The escape of a number, in as few of two, four or eight digits as will do. -/
def numericEscape (n : Nat) : List Char :=
  if n < 0x100 then '\\' :: 'x' :: hexDigits 2 n
  else if n < 0x10000 then '\\' :: 'u' :: hexDigits 4 n
  else '\\' :: 'U' :: hexDigits 8 n

/-- A character as it stands between the given quotes. -/
def escaped (quote c : Char) : List Char :=
  if c = quote ∨ c = '\\' then ['\\', c]
  else if c = '\n' then ['\\', 'n']
  else if c = '\r' then ['\\', 'r']
  else if c = '\t' then ['\\', 't']
  else if isPrintable c then [c]
  else numericEscape c.toNat

/-- A code point as it stands between the given quotes. -/
def escapedPoint (quote : Char) : CodePoint → List Char
  | .char c => escaped quote c
  | .surrogate offset => numericEscape (CodePoint.surrogate offset).toNat

/-- The text of the given code points in quotes. -/
def quotedPoints (points : List CodePoint) : String :=
  let q := quote points
  String.ofList (q :: (points.flatMap (escapedPoint q) ++ [q]))

/-- The text in quotes. -/
def quoted (text : String) : String := quotedPoints (CodePoint.ofString text)

end ReplayCalculator.Text
