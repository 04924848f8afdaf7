import ReplayCalculator.Json.Reader
import ReplayCalculator.Text.Utf8

/-!
# JSON in bytes

A JSON text travels as bytes in UTF-8, UTF-16 or UTF-32. It may start with a byte order mark, which
is passed over. Without one the first two characters are ASCII, so that the zeros among the first
four bytes tell the encodings apart. In each encoding surrogates may stand alone.
-/

namespace ReplayCalculator.Json

/-- The encodings of a JSON text. -/
inductive Encoding
  | utf8
  | utf16 (bigEndian : Bool)
  | utf32 (bigEndian : Bool)
  deriving DecidableEq, Repr

/-- The encoding that a byte order mark shows. UTF-8 needs no mark. -/
def markedEncoding? : List UInt8 → Option Encoding
  | 0x00 :: 0x00 :: 0xfe :: 0xff :: _ => some (.utf32 true)
  | 0xff :: 0xfe :: 0x00 :: 0x00 :: _ => some (.utf32 false)
  | 0xfe :: 0xff :: _ => some (.utf16 true)
  | 0xff :: 0xfe :: _ => some (.utf16 false)
  | _ => none

/-- The encoding that the zeros among the first bytes of a text show. -/
def unmarkedEncoding : List UInt8 → Encoding
  | a :: b :: c :: d :: _ =>
    if a = 0 then if b = 0 then .utf32 true else .utf16 true
    else if b = 0 then if c = 0 ∧ d = 0 then .utf32 false else .utf16 false
    else .utf8
  | [a, b] => if a = 0 then .utf16 true else if b = 0 then .utf16 false else .utf8
  | _ => .utf8

/-- The encoding of a text. -/
def encodingOf (bytes : List UInt8) : Encoding :=
  (markedEncoding? bytes).getD (unmarkedEncoding bytes)

/-- The number that two bytes make. -/
def unitOfBytes (bigEndian : Bool) (a b : UInt8) : UInt16 :=
  UInt16.ofNat (if bigEndian then 256 * a.toNat + b.toNat else 256 * b.toNat + a.toNat)

/-- The units of a text in UTF-16, which has an even number of bytes. -/
def units16? (bigEndian : Bool) : List UInt8 → Option (List UInt16)
  | [] => some []
  | [_] => none
  | a :: b :: rest => (units16? bigEndian rest).map (unitOfBytes bigEndian a b :: ·)

/-- The code points of a text in UTF-32, which has a multiple of four bytes and no numbers beyond
the last character. -/
def points32? (bigEndian : Bool) : List UInt8 → Option (List CodePoint)
  | [] => some []
  | a :: b :: c :: d :: rest => do
    let high := if bigEndian then unitOfBytes true a b else unitOfBytes false c d
    let low := if bigEndian then unitOfBytes true c d else unitOfBytes false a b
    let point ← CodePoint.ofNat? (65536 * high.toNat + low.toNat)
    return point :: (← points32? bigEndian rest)
  | _ => none

/-- The code points of a JSON text, with the byte order mark if it has one. -/
def decodeMarked? (bytes : List UInt8) : Option (List CodePoint) :=
  match encodingOf bytes with
  | .utf8 => Utf8.decode? bytes
  | .utf16 bigEndian =>
    (units16? bigEndian bytes).map fun units => CodePoint.ofParts (units.map .unit)
  | .utf32 bigEndian => points32? bigEndian bytes

/-- The code points of a JSON text. -/
def decode? (bytes : List UInt8) : Option (List CodePoint) :=
  (decodeMarked? bytes).map fun
    | .char '\uFEFF' :: rest => rest
    | points => points

/-- The value that a text in bytes stands for, if no more than `depth` containers lie within each
other. -/
def ofBytes (depth : Nat) (bytes : List UInt8) : Except ReadError Json :=
  (orMalformed (decode? bytes)).bind (read depth)

end ReplayCalculator.Json
