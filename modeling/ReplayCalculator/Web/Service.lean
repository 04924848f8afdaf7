import ReplayCalculator.Keypad.Action
import ReplayCalculator.Settings
import ReplayCalculator.Web.Route

/-!
# The service

The service keeps keypads as sessions and answers requests. A session is found by its name before
the rest of a request is looked at. A command works on the keypad of its session in place: whether
it succeeds or fails, what it leaves of the keypad is what the store holds afterwards. Only so many
sessions are kept: a new one displaces the oldest, one after the other, until there is room.

* `makeRoom_eq`: how many of the oldest sessions go, and when there is no room at all.
* `sessions_create`: what creating a session leaves of the others.
* `handle_of_not_endpoint`: a request that leads nowhere changes nothing.
-/

namespace ReplayCalculator.Web

/-- The sessions, oldest first, the number of sessions created so far, and the source of draws that
all keypads share. -/
structure Store (σ : Type) where
  sessions : OrderedMap String Keypad := .empty
  created : Nat := 0
  source : σ

/-- What a service works with: the operations of its keypads, the number of sessions it keeps, and
the names of its sessions in the order of their creation. Where a request leads, which media types
are those of JSON and how a body is read as JSON is up to the server that brings the requests. -/
structure Service (σ : Type) where
  table : Table σ
  limit : Int
  name : Nat → String
  route : Request → Resolution := Request.resolution
  isJson : String → Bool := isJsonType
  readJson : List UInt8 → Except Json.ReadError Json := Json.ofBytes usualDepth

/-- A reply: its status and, if it has one, its body. -/
structure Reply where
  status : Nat
  body : Option Json

/-! ### Errors -/

/-- Why a request fails. -/
inductive RequestError
  | unknownSession (id : String)
  | field (e : FieldError)
  | digit (e : Keypad.DigitError)
  | noRoom

/-- The error in words. There are none for a service that keeps no sessions. -/
def RequestError.message : RequestError → String
  | unknownSession id => "Unknown session '" ++ id ++ "'"
  | field (.missing name) => "Missing field '" ++ name ++ "'"
  | field (.noObject typeWord) => "'" ++ typeWord ++ "' object has no attribute 'get'"
  | field (.tooDeep container) =>
    "maximum recursion depth exceeded while decoding a JSON " ++ container.word ++
      " from a unicode string"
  | digit e => e.message
  | noRoom => ""

/-- The status of the reply. -/
def RequestError.status : RequestError → Nat
  | unknownSession _ => 404
  | field (.missing _) => 400
  | field (.noObject _) => 500
  | field (.tooDeep _) => 500
  | digit _ => 400
  | noRoom => 500

/-! ### Replies -/

/-- The reply to a request that succeeded. -/
def Reply.success (status : Nat) (data : Json) : Reply :=
  ⟨status, some (.object [("success", .bool true), ("data", data)])⟩

/-- The reply to a request that failed. -/
def Reply.failure (e : RequestError) : Reply :=
  ⟨e.status, some (.object [("success", .bool false), ("error", .text e.message)])⟩

/-- The reply without a body. -/
def Reply.bare (status : Nat) : Reply := ⟨status, none⟩

/-- The head of a reply. -/
def Reply.head (reply : Reply) : Reply := .bare reply.status

/-- What can be seen of a session. -/
def sessionData (id : String) (k : Keypad) : Json :=
  let s := k.snapshot
  .object [
    ("display", .text s.display),
    ("description", .text s.description),
    ("is_pending", .bool s.isPending),
    ("error", s.error.elim .null .text),
    ("memory", .object (s.memory.entries.map fun entry => (entry.1, .float entry.2))),
    ("steps", .array (k.log.steps.map fun step => .string step.points)),
    ("id", .text id)]

/-- The reply that shows a session, if it is there. -/
def Reply.session (id : String) : Option Keypad → Reply
  | none => .failure (.unknownSession id)
  | some k => .success 200 (sessionData id k)

/-- The places of the service and their methods. -/
def endpoints : List String := [
  "GET /api/operations",
  "POST /api/sessions",
  "GET /api/sessions/<id>",
  "DELETE /api/sessions/<id>",
  "POST /api/sessions/<id>/digit",
  "POST /api/sessions/<id>/operation",
  "POST /api/sessions/<id>/memory/store",
  "POST /api/sessions/<id>/memory/recall",
  "POST /api/sessions/<id>/erase",
  "POST /api/sessions/<id>/clean"]

/-- What the service says about itself. -/
def indexData : Json := .object [
  ("name", .text Settings.appName),
  ("version", .text Settings.version),
  ("endpoints", .ofStrings endpoints)]

namespace Service

variable {σ : Type} (service : Service σ)

/-- The operations of the service by their kinds. -/
def operationsData : Json :=
  .object (service.table.symbolsByKind.map fun group => (group.1.name, .ofStrings group.2))

/-! ### Sessions -/

/-- Gives up the oldest session, one after the other, until there is room for another one within the
limit. There is no room if no session is left to give up. -/
def makeRoom (limit : Int) : (entries : List (String × Keypad)) →
    (entries.map Prod.fst).Nodup → Option (OrderedMap String Keypad)
  | [], h => if 0 < limit then some ⟨[], h⟩ else none
  | entry :: rest, h =>
    if (rest.length + 1 : Nat) < limit then some ⟨entry :: rest, h⟩
    else makeRoom limit rest (List.nodup_cons.mp h).2

/-- Creates a session, after the oldest ones have made room for it. A service that keeps no sessions
drops those it has and fails. -/
def create (store : Store σ) : Reply × Store σ :=
  match makeRoom service.limit store.sessions.entries store.sessions.nodup with
  | none => (.failure .noRoom, { store with sessions := .empty })
  | some sessions =>
    let id := service.name store.created
    let k := Keypad.new true
    (.success 201 (sessionData id k),
      { store with sessions := sessions.insert id k, created := store.created + 1 })

/-- Gives up a session. -/
def delete (store : Store σ) (id : String) : Reply × Store σ :=
  match store.sessions.get? id with
  | none => (.failure (.unknownSession id), store)
  | some _ =>
    (.success 200 (.object [("id", .text id)]),
      { store with sessions := store.sessions.erase id })

/-- Runs a command on a keypad, with the arguments of the command taken from a payload: whether it
succeeds, and the keypad and the source as the command leaves them in either case. -/
def runCommand (payload : Payload) (k : Keypad) (source : σ) :
    Command → Except RequestError Unit × Keypad × σ
  | .digit =>
    match readField payload "digit" with
    | .error e => (.error (.field e), k, source)
    | .ok text =>
      match k.digit? text with
      | .error e => (.error (.digit e), k, source)
      | .ok k => (.ok (), k, source)
  | .operation =>
    match readField payload "symbol" with
    | .error e => (.error (.field e), k, source)
    | .ok symbol => (.ok (), k.operation service.table (.ofPoints symbol) source)
  | .storeMemory => (.ok (), k.storeMemory service.table source)
  | .recallMemory => (.ok (), k.recallMemory service.table source)
  | .erase => (.ok (), k.erase service.table source)
  | .clean => (.ok (), k.clean, source)

/-- Presses a key of a session and shows the session. -/
def press (store : Store σ) (id : String) (command : Command) (payload : Payload) :
    Reply × Store σ :=
  match store.sessions.get? id with
  | none => (.failure (.unknownSession id), store)
  | some k =>
    let (outcome, k, source) := service.runCommand payload k store.source command
    let reply :=
      match outcome with
      | .error e => .failure e
      | .ok () => .success 200 (sessionData id k)
    (reply, { store with sessions := store.sessions.insert id k, source })

/-! ### Requests -/

/-- The payload of a request. A body that is no JSON, or that says nothing, counts as an empty
object. Only containers that are nested too deep leave a request without a payload. -/
def payload (request : Request) : Payload :=
  if request.contentType.any service.isJson then
    match service.readJson request.body with
    | .ok value => .ok (if value.isVoid then .object [] else value)
    | .error .malformed => .ok (.object [])
    | .error (.tooDeep container) => .error container
  else .ok (.object [])

/-- The reply that shows a view. -/
def present (store : Store σ) : View → Reply
  | .index => .success 200 indexData
  | .operations => .success 200 service.operationsData
  | .session id => .session id (store.sessions.get? id)
  | .file => .bare 404

/-- The reply of an endpoint, and the store after it. -/
def answer (store : Store σ) (payload : Payload) : Endpoint → Reply × Store σ
  | .view v => (service.present store v, store)
  | .head v => ((service.present store v).head, store)
  | .options => (.bare 200, store)
  | .create => service.create store
  | .delete id => delete store id
  | .press id command => service.press store id command payload

/-- The reply to a request, and the store after it. -/
def handle (store : Store σ) (request : Request) : Reply × Store σ :=
  match service.route request with
  | .endpoint e => service.answer store (service.payload request) e
  | .redirect => (.bare 308, store)
  | .badRequest => (.bare 400, store)
  | .methodNotAllowed => (.bare 405, store)
  | .notFound => (.bare 404, store)

/-- The replies to a row of requests, and the store after them. -/
def handleAll (store : Store σ) : List Request → List Reply × Store σ
  | [] => ([], store)
  | request :: rest =>
    let first := service.handle store request
    let later := handleAll first.2 rest
    (first.1 :: later.1, later.2)

theorem handle_of_endpoint {store : Store σ} {request : Request} {e : Endpoint}
    (h : service.route request = .endpoint e) :
    service.handle store request = service.answer store (service.payload request) e := by
  unfold handle
  rw [h]

theorem handle_of_not_endpoint {store : Store σ} {request : Request}
    (h : ∀ e, service.route request ≠ .endpoint e) :
    (service.handle store request).2 = store := by
  unfold handle
  split
  · exact absurd ‹_› (h _)
  all_goals rfl

/-! ### Room for a session -/

/-- The number of sessions that have to go before there is room for another one. -/
def surplus (limit : Int) (size : Nat) : Nat := (size + 1 - limit).toNat

theorem map_entries_makeRoom (limit : Int) (entries : List (String × Keypad))
    (h : (entries.map Prod.fst).Nodup) :
    (makeRoom limit entries h).map OrderedMap.entries =
      if 0 < limit then some (entries.drop (surplus limit entries.length)) else none := by
  induction entries with
  | nil =>
    simp only [makeRoom]
    split <;> simp
  | cons entry rest ih =>
    simp only [makeRoom, List.length_cons]
    split
    · rename_i hroom
      have hnone : surplus limit (rest.length + 1) = 0 := by
        simp only [surplus]
        omega
      rw [hnone, if_pos (by omega)]
      rfl
    · rename_i hfull
      have hone : 0 < limit →
          surplus limit (rest.length + 1) = surplus limit rest.length + 1 := by
        intro hpos
        simp only [surplus]
        omega
      rw [ih]
      split
      · rename_i hpos
        rw [hone hpos, List.drop_succ_cons]
      · rfl

theorem makeRoom_eq (limit : Int) (sessions : OrderedMap String Keypad) :
    makeRoom limit sessions.entries sessions.nodup =
      if 0 < limit then some (sessions.dropOldest (surplus limit sessions.size)) else none := by
  have hentries := map_entries_makeRoom limit sessions.entries sessions.nodup
  cases hroom : makeRoom limit sessions.entries sessions.nodup with
  | none =>
    rw [hroom] at hentries
    split
    · rename_i hpos
      rw [if_pos hpos] at hentries
      cases hentries
    · rfl
  | some left =>
    rw [hroom] at hentries
    split
    · rename_i hpos
      rw [if_pos hpos] at hentries
      simp only [Option.map_some, Option.some.injEq] at hentries
      exact congrArg some (OrderedMap.ext hentries)
    · rename_i hpos
      rw [if_neg hpos] at hentries
      cases hentries

theorem sessions_create {store : Store σ} (h : 0 < service.limit) :
    (service.create store).2.sessions =
      (store.sessions.dropOldest (surplus service.limit store.sessions.size)).insert
        (service.name store.created) (Keypad.new true) := by
  simp [create, makeRoom_eq, h]

end Service

/-- A name for the session with a given number: the number in base sixteen, thirty-two digits long.
-/
def hexName (n : Nat) : String := String.ofList (Text.hexDigits 32 n)

end ReplayCalculator.Web
