/-!
# Code points

A text from outside may hold surrogates: the numbers that UTF-16 uses in pairs, and that stand for
no character when they are alone. Such a text is a list of code points, where a code point is a
character or a surrogate.

A text arrives in parts. A unit of UTF-16 is half of a pair if its neighbour is the other half; a
code point that arrives as such never joins a neighbour.
-/

namespace ReplayCalculator

/-- A character, or a surrogate by its place among the surrogates. -/
inductive CodePoint
  | char (c : Char)
  | surrogate (offset : Fin 0x800)
  deriving DecidableEq, Repr

namespace CodePoint

/-- The number of the first surrogate. -/
def firstSurrogate : Nat := 0xd800

/-- The number of the first surrogate that ends a pair. -/
def firstLowSurrogate : Nat := 0xdc00

/-- The number of a code point. -/
def toNat : CodePoint → Nat
  | char c => c.toNat
  | surrogate offset => firstSurrogate + offset.val

/-- The code point with a given number. -/
def ofNat? (n : Nat) : Option CodePoint :=
  if h : firstSurrogate ≤ n ∧ n < firstSurrogate + 0x800 then
    some (surrogate ⟨n - firstSurrogate, by omega⟩)
  else if n ≤ 0x10ffff then some (char (Char.ofNat n))
  else none

/-- The code points of a text of characters. -/
def ofString (text : String) : List CodePoint := text.toList.map char

/-- The character that stands for a code point: a surrogate has none of its own. -/
def shown : CodePoint → Char
  | char c => c
  | surrogate _ => '\uFFFD'

/-- The text of characters that stands for code points. -/
def toText (points : List CodePoint) : String := String.ofList (points.map shown)

/-! ### Units of UTF-16 -/

/-- The code point of a unit that stands alone. -/
def ofUnit (unit : UInt16) : CodePoint :=
  if h : firstSurrogate ≤ unit.toNat ∧ unit.toNat < firstSurrogate + 0x800 then
    surrogate ⟨unit.toNat - firstSurrogate, by omega⟩
  else char (Char.ofNat unit.toNat)

/-- The character of a pair of units, the high one first. -/
def ofPair? (high low : UInt16) : Option Char :=
  if firstSurrogate ≤ high.toNat ∧ high.toNat < firstLowSurrogate ∧
      firstLowSurrogate ≤ low.toNat ∧ low.toNat < firstSurrogate + 0x800 then
    some (Char.ofNat
      (0x10000 + 0x400 * (high.toNat - firstSurrogate) + (low.toNat - firstLowSurrogate)))
  else none

/-- A part of a text: a unit of UTF-16, or a code point as such. -/
inductive Part
  | unit (u : UInt16)
  | point (p : CodePoint)
  deriving DecidableEq, Repr

/-- The code points of a text in parts. -/
def ofParts : List Part → List CodePoint
  | [] => []
  | .point p :: rest => p :: ofParts rest
  | [.unit u] => [ofUnit u]
  | .unit u :: .point p :: rest => ofUnit u :: p :: ofParts rest
  | .unit u :: .unit v :: rest =>
    match ofPair? u v with
    | some c => char c :: ofParts rest
    | none => ofUnit u :: ofParts (.unit v :: rest)

end CodePoint

end ReplayCalculator
