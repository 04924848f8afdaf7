import ReplayCalculator.Text.CodePoint

/-!
# UTF-8

A code point is one byte, or a leading byte with one to three more behind it. Bytes are read one
after the other: while bytes of a code point are missing, the next one has to lie in a range, which
the leading byte narrows so that no code point has two spellings and none lies beyond the last.

Bytes that are no code point are one gap up to the first byte that cannot go on; this byte starts
afresh. Surrogates can be let through, so that the bytes which spell one are no gap.
-/

namespace ReplayCalculator.Utf8

/-- A code point of which bytes are missing: its value so far, how many bytes are missing, and the
range of the next one. -/
structure Pending where
  value : Nat
  missing : Nat
  low : Nat := 0x80
  high : Nat := 0xbf
  deriving DecidableEq, Repr

/-- What a byte completes, with `none` for a gap, and the code point that it leaves open. -/
abbrev Outcome := List (Option CodePoint) × Option Pending

/-- Reads a byte at which a code point starts. -/
def lead (surrogates : Bool) (byte : Nat) : Outcome :=
  if byte < 0x80 then ([some (.char (Char.ofNat byte))], none)
  else if byte < 0xc2 then ([none], none)
  else if byte < 0xe0 then ([], some { value := byte - 0xc0, missing := 1 })
  else if byte < 0xf0 then
    ([], some {
      value := byte - 0xe0
      missing := 2
      low := if byte = 0xe0 then 0xa0 else 0x80
      high := if byte = 0xed ∧ !surrogates then 0x9f else 0xbf })
  else if byte < 0xf5 then
    ([], some {
      value := byte - 0xf0
      missing := 3
      low := if byte = 0xf0 then 0x90 else 0x80
      high := if byte = 0xf4 then 0x8f else 0xbf })
  else ([none], none)

/-- Reads a byte after those that left a code point open. -/
def follow (surrogates : Bool) (p : Pending) (byte : Nat) : Outcome :=
  if p.low ≤ byte ∧ byte ≤ p.high then
    let value := 64 * p.value + (byte - 0x80)
    if p.missing ≤ 1 then ([CodePoint.ofNat? value], none)
    else ([], some { value, missing := p.missing - 1 })
  else
    let next := lead surrogates byte
    (none :: next.1, next.2)

/-- The code points and gaps of bytes that follow an open code point, if there is one. -/
def decodeFrom (surrogates : Bool) : Option Pending → List UInt8 → List (Option CodePoint)
  | none, [] => []
  | some _, [] => [none]
  | none, byte :: rest =>
    let next := lead surrogates byte.toNat
    next.1 ++ decodeFrom surrogates next.2 rest
  | some p, byte :: rest =>
    let next := follow surrogates p byte.toNat
    next.1 ++ decodeFrom surrogates next.2 rest

/-- The code points and gaps of bytes. -/
def decode (surrogates : Bool) (bytes : List UInt8) : List (Option CodePoint) :=
  decodeFrom surrogates none bytes

/-- The code points of bytes without gaps, surrogates among them. -/
def decode? (bytes : List UInt8) : Option (List CodePoint) := (decode true bytes).mapM id

/-- The characters of bytes, with a replacement for each gap. -/
def decodeLossy (bytes : List UInt8) : List Char :=
  (decode false bytes).map fun point => (point.map CodePoint.shown).getD '\uFFFD'

end ReplayCalculator.Utf8
