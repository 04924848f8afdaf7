import ReplayCalculator.Web.Path
import ReplayCalculator.Web.Payload
import ReplayCalculator.Web.Target

/-!
# Routes

The places of a service and the methods by which they are asked. Each place has rules, and a rule
has methods: what can be looked at can also be asked for its head, and every rule can be asked for
its options. A target and a method lead to an endpoint, or to one of the replies that need no
endpoint: a redirection to the path without doubled slashes, a bad request, a method that the place
does not have, or no place at all.
-/

namespace ReplayCalculator.Web

/-- The methods of requests. -/
inductive Method
  | get
  | head
  | post
  | delete
  | options
  | other
  deriving DecidableEq, Repr

/-- The capitals of a letter. Besides the letters of ASCII the long s and the two ligatures of s and
t have capitals in ASCII. -/
def capitals (c : Char) : List Char :=
  if c = '\u017F' then ['S']
  else if c = '\uFB05' ∨ c = '\uFB06' then ['S', 'T']
  else [c.toUpper]

/-- The method of a given name, in any mix of cases. -/
def Method.ofName (name : String) : Method :=
  match String.ofList (name.toList.flatMap capitals) with
  | "GET" => get
  | "HEAD" => head
  | "POST" => post
  | "DELETE" => delete
  | "OPTIONS" => options
  | _ => other

/-- What can be done to the keypad of a session. -/
inductive Command
  | digit
  | operation
  | storeMemory
  | recallMemory
  | erase
  | clean
  deriving DecidableEq, Repr

/-- The places of the service. -/
inductive Route
  | index
  | operations
  | sessions
  | session (id : String)
  | command (id : String) (command : Command)
  | file
  deriving DecidableEq, Repr

/-- What can be looked at. -/
inductive View
  | index
  | operations
  | session (id : String)
  | file
  deriving DecidableEq, Repr

/-- What the service can be asked for: a view or the head of one, the options of a place, or a
change. -/
inductive Endpoint
  | view (v : View)
  | head (v : View)
  | options
  | create
  | delete (id : String)
  | press (id : String) (command : Command)
  deriving DecidableEq, Repr

/-- The command with a given path inside a session. -/
def Command.ofSegments? : List String → Option Command
  | ["digit"] => some digit
  | ["operation"] => some operation
  | ["memory", "store"] => some storeMemory
  | ["memory", "recall"] => some recallMemory
  | ["erase"] => some erase
  | ["clean"] => some clean
  | _ => none

/-- Whether a name is that of a file in a directory: it is not empty, and no line ends behind its
first character. -/
def isFileName (segments : List String) : Bool :=
  match segments with
  | [] => false
  | first :: rest =>
    !first.isEmpty && !(first.toList.drop 1).contains '\n' &&
      rest.all fun segment => !segment.toList.contains '\n'

/-- The place with a given path. The name of a session is not empty. -/
def Route.ofSegments? : List String → Option Route
  | ["", "api"] => some index
  | ["", "api", "operations"] => some operations
  | ["", "api", "sessions"] => some sessions
  | "" :: "api" :: "sessions" :: id :: rest =>
    if id = "" then none
    else if rest = [] then some (session id)
    else (Command.ofSegments? rest).map (command id)
  | "" :: "static" :: name => if isFileName name then some file else none
  | _ => none

/-! ### Rules -/

/-- A rule: the methods that it answers, and what each of them asks for. -/
abbrev Rule := List (Method × Endpoint)

/-- The rule of a view. -/
def Rule.ofView (v : View) : Rule := [(.get, .view v), (.head, .head v), (.options, .options)]

/-- The rule of a change. -/
def Rule.ofChange (method : Method) (e : Endpoint) : Rule := [(method, e), (.options, .options)]

/-- The rules of a place. -/
def Route.rules : Route → List Rule
  | index => [.ofView .index]
  | operations => [.ofView .operations]
  | sessions => [.ofChange .post .create]
  | session id => [.ofView (.session id), .ofChange .delete (.delete id)]
  | command id c => [.ofChange .post (.press id c)]
  | file => [.ofView .file]

/-- What a place is asked for by a method. -/
def Route.endpoint? (route : Route) (method : Method) : Option Endpoint :=
  route.rules.findSome? (·.lookup method)

/-! ### Resolutions -/

/-- Where a request leads. -/
inductive Resolution
  | endpoint (e : Endpoint)
  | redirect
  | badRequest
  | methodNotAllowed
  | notFound
  deriving DecidableEq, Repr

/-- The place with a given path, if any. -/
def Route.ofPath? (path : List Char) : Option Route := ofSegments? (Path.segments path)

/-- Where a method and a path lead. -/
def resolve (method : Method) (path : List Char) : Resolution :=
  let here := Route.ofPath? path
  let merged := Route.ofPath? (Path.mergeSlashes path)
  match here.bind (·.endpoint? method) with
  | some e => .endpoint e
  | none =>
    if (merged.bind (·.endpoint? method)).isSome then .redirect
    else if here.isSome || merged.isSome then .methodNotAllowed
    else .notFound

/-- Where a method and a path lead that ask for a web socket. No place has one: the request is bad,
unless a rule of the place lacks the method, which is then what is wrong. -/
def resolveSocket (method : Method) (path : List Char) : Resolution :=
  let places := (Route.ofPath? path).toList ++ (Route.ofPath? (Path.mergeSlashes path)).toList
  if places.any fun place => place.rules.any fun rule => (rule.lookup method).isNone then
    .methodNotAllowed
  else if places.isEmpty then .notFound
  else .badRequest

/-- Where a request leads by its target and its method. Proofs take it as it stands: to unfold it is
to read the target. -/
@[irreducible]
def Request.resolution (request : Request) : Resolution :=
  let method := Method.ofName request.method
  let path := Target.path request.target
  if !Target.hasHost request.target then .badRequest
  else if Target.asksForSocket request.target then resolveSocket method path
  else resolve method path

end ReplayCalculator.Web
