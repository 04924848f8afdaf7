import Mathlib.Tactic.Lemma
import ReplayCalculator.Operation.Feed
import ReplayCalculator.Proofs.Web.Failure

/-!
# Bodies of requests

Two commands take an argument from the body of their request, a digit key or a symbol. Most bodies
from which it cannot be taken are answered as bad requests: no body at all, another media type, a
text that is no JSON, a JSON value that says nothing, and an object in which the field is missing,
empty, no string or no digit key. All of these stand for an object (`Service.payload`).

Not all bodies do. A JSON value that says something and is no object has no fields that could be
missing, and a text that nests too deep has no value. These are answered as errors of the service
(`hasForeignBody_iff`, `status_of_array_body`). The main statement `handle_of_field` tells the three
answers apart. Which media types are JSON, and how deep a text may nest, is up to the server.
-/

namespace ReplayCalculator.Web

/-! ### Payloads that are no objects -/

namespace Service

variable {σ : Type} (service : Service σ)

/-- Whether the body of a request is JSON that stands for no object: it nests too deep, or it is a
value that says something and is no object. -/
def HasForeignBody (request : Request) : Prop :=
  request.contentType.any service.isJson = true ∧
    ((∃ container, service.readJson request.body = .error (.tooDeep container)) ∨
      ∃ value, service.readJson request.body = .ok value ∧ value.isVoid = false ∧
        ∀ members, value ≠ .object members)

/-- All other bodies stand for an object. -/
lemma hasForeignBody_iff {request : Request} :
    service.HasForeignBody request ↔
      ∀ members, service.payload request ≠ .ok (.object members) := by
  unfold HasForeignBody payload
  by_cases htype : request.contentType.any service.isJson = true
  · rw [if_pos htype, and_iff_right htype]
    cases hread : service.readJson request.body with
    | ok value =>
      cases hvoid : value.isVoid with
      | true => simp [hvoid]
      | false => simp [hvoid]
    | error e =>
      cases e with
      | malformed => simp
      | tooDeep container => simp
  · rw [if_neg htype]
    simp [htype]

end Service

/-! ### Fields of commands -/

/-- The field from which a command takes its argument, if it takes one. -/
def Command.field? : Command → Option String
  | .digit => some "digit"
  | .operation => some "symbol"
  | _ => none

/-- Whether a command can do something with the text of its field. -/
def Command.Accepts : Command → List CodePoint → Prop
  | .digit, points => ∃ c ∈ Keypad.digitKeys.toList, points = [.char c]
  | _, _ => True

/-- Whether the status of an error is that of a bad request if the payload is an object, and that of
an error of the service if it is not. -/
def RequestError.HasStatusFor (e : RequestError) (payload : Payload) : Prop :=
  ((∃ members, payload = .ok (.object members)) ∧ e.status = 400) ∨
    ((∀ members, payload ≠ .ok (.object members)) ∧ e.status = 500)

/-- The status of a field that cannot be had tells whether the payload is an object. -/
lemma hasStatusFor_of_readField {payload : Payload} {name : String} {e : FieldError}
    (h : readField payload name = .error e) : (RequestError.field e).HasStatusFor payload := by
  unfold readField at h
  split at h
  · cases h
    exact Or.inr ⟨nofun, rfl⟩
  · refine Or.inl ⟨⟨_, rfl⟩, ?_⟩
    split at h
    · split at h
      · cases h
        rfl
      · cases h
    · cases h
      rfl
  · rename_i value hvalue
    cases h
    exact Or.inr ⟨fun members heq => hvalue members (Except.ok.inj heq), rfl⟩

/-- A text that is no digit key is in an object. -/
lemma hasStatusFor_digit {payload : Payload} {name : String} {points : List CodePoint}
    (h : readField payload name = .ok points) :
    (RequestError.digit ⟨points⟩).HasStatusFor payload := by
  obtain ⟨members, hpayload, -⟩ := readField_eq_ok_iff.mp h
  exact Or.inl ⟨⟨members, hpayload⟩, rfl⟩

namespace Service

variable {σ : Type} (service : Service σ)

/-- A digit key succeeds exactly if the field holds one of the eleven characters. -/
lemma runCommand_digit_cases (payload : Payload) (k : Keypad) (source : σ) :
    ((∃ points, readField payload "digit" = .ok points ∧ Command.digit.Accepts points) ∧
        (service.runCommand payload k source .digit).1 = .ok ()) ∨
      ((∀ points, readField payload "digit" = .ok points → ¬ Command.digit.Accepts points) ∧
        ∃ e, (service.runCommand payload k source .digit).1 = .error e ∧
          e.HasStatusFor payload) := by
  cases hfield : readField payload "digit" with
  | error e =>
    refine Or.inr ⟨nofun, .field e, ?_, hasStatusFor_of_readField hfield⟩
    simp only [runCommand, hfield]
  | ok points =>
    cases hkey : Keypad.digitKey? points with
    | none =>
      refine Or.inr ⟨?_, .digit ⟨points⟩, ?_, hasStatusFor_digit hfield⟩
      · rintro points' ⟨rfl⟩
        exact Keypad.digitKey?_eq_none_iff.mp hkey
      · simp only [runCommand, hfield, Keypad.digit?, hkey]
    | some c =>
      refine Or.inl ⟨⟨points, rfl, ?_⟩, ?_⟩
      · refine Classical.not_not.mp fun hnone => ?_
        rw [Keypad.digitKey?_eq_none_iff.mpr hnone] at hkey
        cases hkey
      · simp only [runCommand, hfield, Keypad.digit?, hkey]

/-- An operation key succeeds exactly if there is something in the field. -/
lemma runCommand_operation_cases (payload : Payload) (k : Keypad) (source : σ) :
    ((∃ points, readField payload "symbol" = .ok points ∧ Command.operation.Accepts points) ∧
        (service.runCommand payload k source .operation).1 = .ok ()) ∨
      ((∀ points, readField payload "symbol" = .ok points → ¬ Command.operation.Accepts points) ∧
        ∃ e, (service.runCommand payload k source .operation).1 = .error e ∧
          e.HasStatusFor payload) := by
  cases hfield : readField payload "symbol" with
  | error e =>
    refine Or.inr ⟨nofun, .field e, ?_, hasStatusFor_of_readField hfield⟩
    simp only [runCommand, hfield]
  | ok points =>
    refine Or.inl ⟨⟨points, rfl, trivial⟩, ?_⟩
    simp only [runCommand, hfield]

/-- A command that takes an argument succeeds exactly if it can do something with the text of its
field. -/
lemma runCommand_cases {command : Command} {name : String} (hname : command.field? = some name)
    (payload : Payload) (k : Keypad) (source : σ) :
    ((∃ points, readField payload name = .ok points ∧ command.Accepts points) ∧
        (service.runCommand payload k source command).1 = .ok ()) ∨
      ((∀ points, readField payload name = .ok points → ¬ command.Accepts points) ∧
        ∃ e, (service.runCommand payload k source command).1 = .error e ∧
          e.HasStatusFor payload) := by
  cases command with
  | digit =>
    obtain rfl := Option.some_inj.mp hname
    exact service.runCommand_digit_cases payload k source
  | operation =>
    obtain rfl := Option.some_inj.mp hname
    exact service.runCommand_operation_cases payload k source
  | _ => cases hname

variable {service} {store : Store σ} {id : String} {k : Keypad}

/-- The status of a command is that of its error, if it has one. -/
lemma status_press (hk : store.sessions.get? id = some k) (command : Command) (payload : Payload) :
    (service.press store id command payload).1.status =
      match (service.runCommand payload k store.source command).1 with
      | .ok () => 200
      | .error e => e.status := by
  simp only [press, hk]
  cases (service.runCommand payload k store.source command).1 with
  | ok => rfl
  | error e => rfl

/-- A digit or a symbol is sent to a session that is there. The request succeeds exactly if its body
is read as an object whose field is a string that is not empty, and for a digit one of the eleven
keys. If the body is JSON that stands for no object the status is that of an error of the service,
and in all other cases that of a bad request. A request that does not succeed leaves the store as it
was. -/
theorem handle_of_field (service : Service σ) (store : Store σ) (request : Request) {id : String}
    {command : Command} {name : String} {k : Keypad}
    (hresolution : service.route request = .endpoint (.press id command))
    (hname : command.field? = some name) (hk : store.sessions.get? id = some k) :
    let reply := (service.handle store request).1
    (reply.status = 200 ↔ ∃ members points, service.payload request = .ok (.object members) ∧
        Json.lookup? members name = some (.string points) ∧ points ≠ [] ∧ command.Accepts points) ∧
      (reply.status = 500 ↔ service.HasForeignBody request) ∧
      (reply.status = 200 ∨ reply.status = 400 ∨ reply.status = 500) ∧
      (reply.status ≠ 200 → (service.handle store request).2 = store) := by
  intro reply
  have hreply : service.handle store request =
      service.press store id command (service.payload request) :=
    service.handle_of_endpoint hresolution
  have hstatus : reply.status = _ := congrArg (·.1.status) hreply
  rw [status_press hk] at hstatus
  have hstore : reply.status ≠ 200 → (service.handle store request).2 = store := by
    intro hne
    rw [hreply]
    exact service.press_eq_of_status_ne_ok (by rwa [← hreply])
  have hread :
      (∃ points, readField (service.payload request) name = .ok points ∧
        command.Accepts points) ↔
      ∃ members points, service.payload request = .ok (.object members) ∧
        Json.lookup? members name = some (.string points) ∧ points ≠ [] ∧
          command.Accepts points := by
    constructor
    · rintro ⟨points, hpoints, haccepts⟩
      obtain ⟨members, hpayload, hlookup, hne⟩ := readField_eq_ok_iff.mp hpoints
      exact ⟨members, points, hpayload, hlookup, hne, haccepts⟩
    · rintro ⟨members, points, hpayload, hlookup, hne, haccepts⟩
      exact ⟨points, readField_eq_ok_iff.mpr ⟨members, hpayload, hlookup, hne⟩, haccepts⟩
  rcases service.runCommand_cases hname (service.payload request) k store.source with
    ⟨hfield, hok⟩ | ⟨hfield, e, herror, hcode⟩
  · obtain ⟨members, -, hobject, -⟩ := hread.mp hfield
    simp only [hok] at hstatus
    rw [hasForeignBody_iff, ← hread, hstatus]
    exact ⟨iff_of_true rfl hfield,
      iff_of_false (by decide) fun hforeign => hforeign members hobject, Or.inl rfl,
      fun hne => absurd rfl hne⟩
  · have hnone : ¬ ∃ points, readField (service.payload request) name = .ok points ∧
        command.Accepts points :=
      fun ⟨points, hpoints, haccepts⟩ => hfield points hpoints haccepts
    simp only [herror] at hstatus
    rw [hasForeignBody_iff, ← hread]
    rcases hcode with ⟨⟨members, hobject⟩, hcode⟩ | ⟨hforeign, hcode⟩
    · rw [hcode] at hstatus
      refine ⟨iff_of_false ?_ hnone, iff_of_false ?_ fun hforeign => hforeign members hobject,
        Or.inr (Or.inl hstatus), hstore⟩
      · rw [hstatus]
        decide
      · rw [hstatus]
        decide
    · rw [hcode] at hstatus
      refine ⟨iff_of_false ?_ hnone, iff_of_true hstatus hforeign, Or.inr (Or.inr hstatus), hstore⟩
      rw [hstatus]
      decide

/-- A symbol that is no string is sent to a session, with the media type of a format made of
JSON. -/
theorem handle_of_field_of_number :
    let service : Service Supply :=
      { table := Table.standard Supply.between, limit := 1, name := hexName }
    let store : Store Supply := (service.handle { source := {} }
      { method := "POST", target := "/api/sessions" }).2
    let request : Request :=
      { method := "POST"
        target := "/api/sessions/" ++ hexName 0 ++ "/operation"
        contentType := some "application/calculation+json; charset=utf-8"
        body := "\x7b\"symbol\": 7\x7d".toList.map fun c => UInt8.ofNat c.toNat }
    service.route request = .endpoint (.press (hexName 0) .operation) ∧
      Command.operation.field? = some "symbol" ∧ (store.sessions.get? (hexName 0)).isSome = true ∧
      ¬ service.HasForeignBody request ∧ (service.handle store request).1.status = 400 ∧
      (service.handle store request).2 = store := by
  intro service store request
  have hresolution : service.route request = .endpoint (.press (hexName 0) .operation) := by
    decide +kernel
  have hsession : (store.sessions.get? (hexName 0)).isSome = true := by decide +kernel
  have hstatus : (service.handle store request).1.status = 400 := by decide +kernel
  obtain ⟨k, hk⟩ := Option.isSome_iff_exists.mp hsession
  obtain ⟨-, hforeign, -, hstore⟩ := service.handle_of_field store request hresolution rfl hk
  rw [hstatus] at hforeign hstore
  exact ⟨hresolution, rfl, hsession, fun h => absurd (hforeign.mpr h) (by decide), hstatus,
    hstore (by decide)⟩

/-- A list is sent as the body with a digit to a session that is there. It has no field, and the
request is answered as an error of the service. -/
theorem status_of_array_body :
    let service : Service Supply :=
      { table := Table.standard Supply.between, limit := 1, name := hexName }
    let store : Store Supply := (service.handle { source := {} }
      { method := "POST", target := "/api/sessions" }).2
    let request : Request :=
      { method := "POST"
        target := "/api/sessions/" ++ hexName 0 ++ "/digit"
        contentType := some "application/json"
        body := "[1]".toList.map fun c => UInt8.ofNat c.toNat }
    (store.sessions.get? (hexName 0)).isSome = true ∧
      service.readJson request.body = .ok (.array [.integer 1]) ∧
      (service.handle store request).1.status = 500 := by
  intro service store request
  exact ⟨by decide +kernel, by rfl, by decide +kernel⟩

end Service

end ReplayCalculator.Web
