import ReplayCalculator.Decimal.Numeral
import ReplayCalculator.Json.Basic
import ReplayCalculator.Text.Hexadecimal
import ReplayCalculator.Text.Integer

/-!
# Reading JSON

A text is one value with blanks around it. Besides the values of the standard the words `NaN`,
`Infinity` and `-Infinity` are numbers. Control characters in strings have to be escaped, numbers
have no zeros in front, and nothing stands behind the last member of an array or object but its
bracket. The digits of a whole number are limited, and so is the depth of nesting, by a bound that
is up to the caller.

Every reader takes a value off the front of the text and gives it with the rest of the text. The
readers of nested values share a bound on their recursion; every two levels take a character, so
that twice the length of the text is bound enough.
-/

namespace ReplayCalculator.Json

/-- Whether a code point may stand between the parts of a text. -/
def isSpace (p : CodePoint) : Bool :=
  p == .char ' ' || p == .char '\t' || p == .char '\n' || p == .char '\r'

/-- The text without the blanks in front. -/
def skipSpace (ps : List CodePoint) : List CodePoint := ps.dropWhile isSpace

/-- The text behind a word at its front. -/
def skipWord? : List Char → List CodePoint → Option (List CodePoint)
  | [], ps => some ps
  | w :: word, p :: ps => if .char w = p then skipWord? word ps else none
  | _ :: _, [] => none

/-! ### Strings -/

/-- The unit of UTF-16 that four digits in base sixteen make. -/
def hexUnit? : CodePoint → CodePoint → CodePoint → CodePoint → Option UInt16
  | .char a, .char b, .char c, .char d => do
    let high := 16 * (← Text.hexValue? a) + (← Text.hexValue? b)
    let low := 16 * (← Text.hexValue? c) + (← Text.hexValue? d)
    return UInt16.ofNat (256 * high + low)
  | _, _, _, _ => none

/-- The character for which an escape with one letter stands. -/
def escapeChar? : CodePoint → Option Char
  | .char '"' => some '"'
  | .char '\\' => some '\\'
  | .char '/' => some '/'
  | .char 'b' => some '\x08'
  | .char 'f' => some '\x0c'
  | .char 'n' => some '\n'
  | .char 'r' => some '\r'
  | .char 't' => some '\t'
  | _ => none

/-- Reads a string behind its opening quote, in parts: an escape with digits is a unit of UTF-16, of
which two may be a pair. -/
def readParts? : List CodePoint → Option (List CodePoint.Part × List CodePoint)
  | [] => none
  | .char '"' :: rest => some ([], rest)
  | .char '\\' :: .char 'u' :: a :: b :: c :: d :: rest => do
    let unit ← hexUnit? a b c d
    let (parts, rest) ← readParts? rest
    return (.unit unit :: parts, rest)
  | .char '\\' :: p :: rest => do
    let c ← escapeChar? p
    let (parts, rest) ← readParts? rest
    return (.point (.char c) :: parts, rest)
  | p :: rest =>
    if p.toNat < 0x20 ∨ p = .char '\\' then none
    else do
      let (parts, rest) ← readParts? rest
      return (.point p :: parts, rest)

/-- Reads a string behind its opening quote. -/
def readString? (ps : List CodePoint) : Option (List CodePoint × List CodePoint) :=
  (readParts? ps).map fun (parts, rest) => (CodePoint.ofParts parts, rest)

/-! ### Numbers -/

/-- The digits in front, and what follows them. -/
def splitDigits : List CodePoint → List Char × List CodePoint
  | .char c :: rest =>
    if Numeral.isDigit c then
      let (ds, rest) := splitDigits rest
      (c :: ds, rest)
    else ([], .char c :: rest)
  | ps => ([], ps)

/-- The digits of the whole part of a number: a lone zero, or digits that start with another one. -/
def splitWhole : List CodePoint → List Char × List CodePoint
  | .char '0' :: rest => (['0'], rest)
  | ps => splitDigits ps

/-- The digits of the fraction of a number; a point without digits is not part of the number. -/
def splitFraction (ps : List CodePoint) : List Char × List CodePoint :=
  match ps with
  | .char '.' :: rest =>
    let (ds, rest) := splitDigits rest
    if ds.isEmpty then ([], ps) else (ds, rest)
  | _ => ([], ps)

/-- The optional sign of an exponent, true for minus, and what follows it. -/
def splitSign : List CodePoint → Bool × List CodePoint
  | .char '-' :: rest => (true, rest)
  | .char '+' :: rest => (false, rest)
  | ps => (false, ps)

/-- The exponent of a number, if it has one; a letter without digits is not part of the number. -/
def splitExponent (ps : List CodePoint) : Option Int × List CodePoint :=
  match ps with
  | [] => (none, [])
  | p :: rest =>
    let (negative, rest) := splitSign rest
    let (ds, rest) := splitDigits rest
    if (p = .char 'e' ∨ p = .char 'E') ∧ !ds.isEmpty then
      let n : Int := Nat.ofDigitChars 10 ds 0
      (some (if negative then -n else n), rest)
    else (none, ps)

/-- Reads a number behind its sign. A number with a fraction or an exponent is a float. -/
def readUnsigned? (negative : Bool) (ps : List CodePoint) : Option (Json × List CodePoint) :=
  let (whole, ps) := splitWhole ps
  let (fraction, ps) := splitFraction ps
  let (exponent, rest) := splitExponent ps
  if whole.isEmpty then none
  else if fraction.isEmpty ∧ exponent = none then
    if Text.digitLimit < whole.length then none
    else
      let n : Int := Nat.ofDigitChars 10 whole 0
      some (integer (if negative then -n else n), rest)
  else
    let d : Decimal := {
      digits := Nat.ofDigitChars 10 (whole ++ fraction) 0
      exponent := exponent.getD 0 - fraction.length }
    some (float (Binary64.ofRank negative d.rank), rest)

/-- Reads a number. -/
def readNumber? : List CodePoint → Option (Json × List CodePoint)
  | .char '-' :: ps => readUnsigned? true ps
  | ps => readUnsigned? false ps

/-! ### Values -/

/-- The words that are values. -/
def words : List (List Char × Json) := [
  (['n', 'u', 'l', 'l'], null),
  (['t', 'r', 'u', 'e'], bool true),
  (['f', 'a', 'l', 's', 'e'], bool false),
  (['N', 'a', 'N'], float Binary64.nan),
  (['I', 'n', 'f', 'i', 'n', 'i', 't', 'y'], float (Binary64.infinity false)),
  (['-', 'I', 'n', 'f', 'i', 'n', 'i', 't', 'y'], float (Binary64.infinity true))]

/-- Reads a value that has no parts. -/
def readScalar? (ps : List CodePoint) : Option (Json × List CodePoint) :=
  match ps with
  | .char '"' :: rest => (readString? rest).map fun (points, rest) => (string points, rest)
  | _ =>
    (words.findSome? fun (word, value) => (skipWord? word ps).map fun rest => (value, rest)).or
      (readNumber? ps)

/-- The values that have parts. -/
inductive Container
  | array
  | object
  deriving DecidableEq, Repr

/-- The word for a container. -/
def Container.word : Container → String
  | array => "array"
  | object => "object"

/-- Why a text cannot be read: it is no JSON, or a container in it is nested too deep. -/
inductive ReadError
  | malformed
  | tooDeep (container : Container)
  deriving DecidableEq, Repr

/-- What was read, or that the text is no JSON. -/
def orMalformed {α : Type} : Option α → Except ReadError α
  | some a => .ok a
  | none => .error .malformed

mutual

/-- Reads a value in which no more than `room` containers lie within each other. -/
def readValue : Nat → Nat → List CodePoint → Except ReadError (Json × List CodePoint)
  | 0, _, _ => .error .malformed
  | _ + 1, 0, .char '[' :: _ => .error (.tooDeep .array)
  | _ + 1, 0, .char '{' :: _ => .error (.tooDeep .object)
  | bound + 1, room + 1, .char '[' :: rest =>
    match skipSpace rest with
    | .char ']' :: rest => .ok (array [], rest)
    | rest => (readItems bound room rest).map fun (items, rest) => (array items, rest)
  | bound + 1, room + 1, .char '{' :: rest =>
    match skipSpace rest with
    | .char '}' :: rest => .ok (object [], rest)
    | rest => (readMembers bound room rest).map fun (members, rest) => (object members, rest)
  | _ + 1, _, ps => orMalformed (readScalar? ps)

/-- Reads the items of an array from the first one to the closing bracket. -/
def readItems : Nat → Nat → List CodePoint → Except ReadError (List Json × List CodePoint)
  | 0, _, _ => .error .malformed
  | bound + 1, room, ps => do
    let (item, rest) ← readValue bound room ps
    match skipSpace rest with
    | .char ']' :: rest => return ([item], rest)
    | .char ',' :: rest =>
      let (items, rest) ← readItems bound room (skipSpace rest)
      return (item :: items, rest)
    | _ => .error .malformed

/-- Reads the members of an object from the first name to the closing bracket. -/
def readMembers :
    Nat → Nat → List CodePoint → Except ReadError (List (String × Json) × List CodePoint)
  | 0, _, _ => .error .malformed
  | bound + 1, room, .char '"' :: rest => do
    let (name, rest) ← orMalformed (readString? rest)
    match skipSpace rest with
    | .char ':' :: rest =>
      let (value, rest) ← readValue bound room (skipSpace rest)
      let member := (CodePoint.toText name, value)
      match skipSpace rest with
      | .char '}' :: rest => return ([member], rest)
      | .char ',' :: rest =>
        let (members, rest) ← readMembers bound room (skipSpace rest)
        return (member :: members, rest)
      | _ => .error .malformed
    | _ => .error .malformed
  | _ + 1, _, _ => .error .malformed

end

/-- The value that a text stands for, if no more than `depth` containers lie within each other. -/
def read (depth : Nat) (ps : List CodePoint) : Except ReadError Json := do
  let (value, rest) ← readValue (2 * ps.length + 2) depth (skipSpace ps)
  if (skipSpace rest).isEmpty then return value else .error .malformed

end ReplayCalculator.Json
