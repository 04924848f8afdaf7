import ReplayCalculator.Text.CodePoint

/-!
# JSON values

The values that requests and replies are made of. Whole numbers and numbers with a fraction or an
exponent are told apart. A string is a list of code points, since its escapes may name surrogates.
The members of an object are listed as they were written: of members with one name the last one
counts.
-/

namespace ReplayCalculator

/-- A JSON value. -/
inductive Json
  | null
  | bool (b : Bool)
  | integer (n : Int)
  | float (x : Float)
  | string (points : List CodePoint)
  | array (items : List Json)
  | object (members : List (String × Json))

namespace Json

/-- The value under a name: of several members with that name, the last. -/
def lookup? (members : List (String × Json)) (name : String) : Option Json :=
  (members.reverse.find? (·.1 = name)).map Prod.snd

/-- Whether a value says nothing: null, false, zero, and what has no members. -/
def isVoid : Json → Bool
  | null => true
  | bool b => !b
  | integer n => n == 0
  | float x => x == 0
  | string points => points.isEmpty
  | array items => items.isEmpty
  | object members => members.isEmpty

/-- The word for the type of a value that is no object, as it stands in messages. -/
def typeWord : Json → String
  | null => "NoneType"
  | bool _ => "bool"
  | integer _ => "int"
  | float _ => "float"
  | string _ => "str"
  | array _ => "list"
  | object _ => "dict"

/-- A string of characters. -/
def text (s : String) : Json := string (CodePoint.ofString s)

/-- An array of strings. -/
def ofStrings (ss : List String) : Json := array (ss.map text)

end Json

end ReplayCalculator
