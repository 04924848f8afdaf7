import ReplayCalculator.Json.Encoding
import ReplayCalculator.Text.Blank

/-!
# Requests and their payloads

A request may carry an object in JSON. A service reads the body as JSON only if the media type says
so; the media types and the depth of nesting that are given here are those that a service goes by
unless it is told otherwise. The fields that a service asks for are strings that are not empty.

* `readField_eq_ok_iff`: what a field has to be.
-/

namespace ReplayCalculator.Web

/-- A request: method and target, and the body with its media type. -/
structure Request where
  method : String
  target : String
  contentType : Option String := none
  body : List UInt8 := []

/-- Whether a media type, up to its parameters, is that of JSON or of a format made of JSON. -/
def isJsonType (contentType : String) : Bool :=
  let name := contentType.toList.takeWhile (· != ';')
  let type := String.ofList ((Text.trim Text.isBlankOrSeparator name).map Char.toLower)
  type == "application/json" || (type.startsWith "application/" && type.endsWith "+json")

/-- The number of containers that may lie within each other in a body. -/
def usualDepth : Nat := 977

/-- What a body stands for: a value, or none if a container in it is nested too deep. -/
abbrev Payload := Except Json.Container Json

/-- Why a field cannot be had from a payload. -/
inductive FieldError
  | tooDeep (container : Json.Container)
  | noObject (typeWord : String)
  | missing (name : String)
  deriving DecidableEq, Repr

/-- The string under a name in a payload. -/
def readField (payload : Payload) (name : String) : Except FieldError (List CodePoint) :=
  match payload with
  | .error container => .error (.tooDeep container)
  | .ok (.object members) =>
    match Json.lookup? members name with
    | some (.string points) => if points.isEmpty then .error (.missing name) else .ok points
    | _ => .error (.missing name)
  | .ok other => .error (.noObject other.typeWord)

theorem readField_eq_ok_iff {payload : Payload} {name : String} {points : List CodePoint} :
    readField payload name = .ok points ↔
      ∃ members, payload = .ok (.object members) ∧
        Json.lookup? members name = some (.string points) ∧ points ≠ [] := by
  unfold readField
  split
  · simp
  · split
    · split <;> simp_all
      intro h; subst h; simp_all
    · simp_all
  · simp_all

end ReplayCalculator.Web
