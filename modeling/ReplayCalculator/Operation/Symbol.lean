import ReplayCalculator.Text.CodePoint

/-!
# Symbols

A key is known by its symbol, which is a text. A symbol that arrives from outside may hold
surrogates. It is recorded with them, but no key bears such a symbol.
-/

namespace ReplayCalculator

/-- A symbol as it was pressed: a text of characters, or one that a surrogate tears in two, the
first one of those that it holds. -/
inductive Symbol
  | plain (text : String)
  | torn (front : String) (offset : Fin 0x800) (back : List CodePoint)
  deriving DecidableEq, Repr

namespace Symbol

/-- The symbol with one more character in front. -/
def cons (c : Char) : Symbol → Symbol
  | plain text => plain (String.singleton c ++ text)
  | torn front offset back => torn (String.singleton c ++ front) offset back

/-- The symbol that is made of code points. -/
def ofPoints : List CodePoint → Symbol
  | [] => plain ""
  | .char c :: rest => (ofPoints rest).cons c
  | .surrogate offset :: rest => torn "" offset rest

/-- The code points of a symbol. -/
def points : Symbol → List CodePoint
  | plain text => CodePoint.ofString text
  | torn front offset back => CodePoint.ofString front ++ .surrogate offset :: back

/-- The text of characters that stands for a symbol. -/
def text : Symbol → String
  | plain text => text
  | torn front offset back => front ++ CodePoint.toText (.surrogate offset :: back)

instance : Coe String Symbol where
  coe := plain

end Symbol

end ReplayCalculator
