import ReplayCalculator.Json.Basic
import ReplayCalculator.Number
import ReplayCalculator.Text.Quoted

/-!
# Writing JSON

Values are written without blanks and in ASCII alone: a code point beyond ASCII is written as its
units in UTF-16. The members of an object are written in the order of their names, whatever order
they stand in. Floats have their exact texts, and those that are not finite are written as the words
that the reader takes for them.
-/

namespace ReplayCalculator.Json

/-- The escape of a unit of UTF-16. -/
def unitEscape (unit : Nat) : List Char := '\\' :: 'u' :: Text.hexDigits 4 unit

/-- A code point as it stands in a string. -/
def escaped (p : CodePoint) : List Char :=
  let n := p.toNat
  if p = .char '"' then ['\\', '"']
  else if p = .char '\\' then ['\\', '\\']
  else if p = .char '\n' then ['\\', 'n']
  else if p = .char '\r' then ['\\', 'r']
  else if p = .char '\t' then ['\\', 't']
  else if n = 0x08 then ['\\', 'b']
  else if n = 0x0c then ['\\', 'f']
  else if 0x20 ≤ n ∧ n < 0x7f then [p.shown]
  else if n < 0x10000 then unitEscape n
  else
    unitEscape (0xd800 + (n - 0x10000) / 0x400) ++ unitEscape (0xdc00 + (n - 0x10000) % 0x400)

/-- A string in quotes. -/
def writeString (points : List CodePoint) : String :=
  "\"" ++ String.ofList (points.flatMap escaped) ++ "\""

/-- A float: its exact text, or a word. -/
def writeFloat (x : Float) : String :=
  match Binary64.datum x with
  | .notANumber => "NaN"
  | .infinite negative => if negative then "-Infinity" else "Infinity"
  | .finite .. => Number.exact x

mutual

/-- The text of a value. -/
def write : Json → String
  | null => "null"
  | bool b => if b then "true" else "false"
  | integer n => toString n
  | float x => writeFloat x
  | string points => writeString points
  | array items => "[" ++ ",".intercalate (writeItems items) ++ "]"
  | object members =>
    let sorted := (writeMembers members).mergeSort fun a b => a.1 ≤ b.1
    "\x7b" ++ ",".intercalate (sorted.map fun member =>
      writeString (CodePoint.ofString member.1) ++ ":" ++ member.2) ++ "\x7d"

/-- The texts of the items of an array. -/
def writeItems : List Json → List String
  | [] => []
  | item :: rest => item.write :: writeItems rest

/-- The names of the members of an object with the texts of their values. -/
def writeMembers : List (String × Json) → List (String × String)
  | [] => []
  | (name, value) :: rest => (name, value.write) :: writeMembers rest

end

end ReplayCalculator.Json
