import Mathlib.Tactic.Lemma
import ReplayCalculator.Operation.Feed
import ReplayCalculator.Proofs.Keypad.Attempt
import ReplayCalculator.Proofs.Web.Effect

/-!
# Requests that fail

A command changes the keypad of its session in place, so that a failure half-way would leave a
keypad that nobody asked for. There is no such failure, for two reasons.

* What a command is given is read before anything is changed: a command that fails has done nothing
  (`runCommand_of_error`).
* Nothing fails afterwards. The only thing that could is the replay of the log. A refresh catches
  domain errors and nothing else, as `attemptRefresh` says, and these are the only errors that the
  replay of a keypad meets (`attemptRefresh_eq`).

The main statement `handle_eq_of_status_ne_ok` says that a request which is not answered with
success leaves the store as it was, whatever it asks for; only the creation of a session is not
among them, since a service that keeps no sessions drops those it has before it fails.
-/

namespace ReplayCalculator

namespace Web.Service

variable {σ : Type} (service : Service σ)

/-! ### Commands that fail -/

/-- A command that fails leaves the keypad and the source as they were. -/
lemma runCommand_of_error {payload : Payload} {k : Keypad} {source : σ} {command : Command}
    {e : RequestError} (h : (service.runCommand payload k source command).1 = .error e) :
    (service.runCommand payload k source command).2 = (k, source) := by
  cases command with
  | digit =>
    simp only [runCommand] at h ⊢
    cases hfield : readField payload "digit" with
    | error e' => rfl
    | ok text =>
      cases hdigit : k.digit? text with
      | error e' => simp only [hdigit]
      | ok k' =>
        simp only [hfield, hdigit] at h
        cases h
  | operation =>
    simp only [runCommand] at h ⊢
    cases hfield : readField payload "symbol" with
    | error e' => rfl
    | ok symbol =>
      rw [hfield] at h
      cases h
  | storeMemory => cases h
  | recallMemory => cases h
  | erase => cases h
  | clean => cases h

/-- A key press that is not answered with success leaves the store as it was. -/
lemma press_eq_of_status_ne_ok {store : Store σ} {id : String} {command : Command}
    {payload : Payload} (h : (service.press store id command payload).1.status ≠ 200) :
    (service.press store id command payload).2 = store := by
  cases hk : store.sessions.get? id with
  | none => simp only [press, hk]
  | some k =>
    cases houtcome : (service.runCommand payload k store.source command).1 with
    | ok =>
      have hok : (service.press store id command payload).1.status = 200 := by
        simp only [press, hk, houtcome, Reply.success]
      exact absurd hok h
    | error e =>
      have hleft := service.runCommand_of_error houtcome
      simp only [press, hk, hleft, OrderedMap.insert_of_get?_eq_some hk]

/-- A deletion that is not answered with success leaves the store as it was. -/
lemma delete_eq_of_status_ne_ok {store : Store σ} {id : String}
    (h : (delete store id).1.status ≠ 200) : (delete store id).2 = store := by
  cases hk : store.sessions.get? id with
  | none => simp only [delete, hk]
  | some k =>
    have hok : (delete store id).1.status = 200 := by
      simp only [delete, hk, Reply.success]
    exact absurd hok h

/-! ### Requests that fail -/

/-- A request other than the creation of a session that is not answered with success leaves the
store as it was: the same sessions in the same order, with the same keypads. This holds of every
store, of every table of operations and of every request, whatever its method, target and body,
wherever the server takes it to lead and however it reads the body. And no command fails once it has
begun to change a keypad, since a refresh catches all errors that the replay of a keypad can meet.
-/
theorem handle_eq_of_status_ne_ok (store : Store σ) (request : Request)
    (hcreate : service.route request ≠ .endpoint .create)
    (hstatus : (service.handle store request).1.status ≠ 200) :
    (service.handle store request).2 = store ∧
      ∀ (k : Keypad) (source : σ),
        k.attemptRefresh service.table source = (.ok (), k.refresh service.table source) := by
  refine ⟨?_, fun k source => k.attemptRefresh_eq source⟩
  rcases service.handle_cases store request with
    ⟨h, -⟩ | ⟨id, -, h⟩ | ⟨id, command, -, h⟩ | ⟨-, -, -, h⟩
  · exact absurd h hcreate
  · rw [h] at hstatus ⊢
    exact delete_eq_of_status_ne_ok hstatus
  · rw [h] at hstatus ⊢
    exact service.press_eq_of_status_ne_ok hstatus
  · exact h

/-- A session on which `1` is being typed is sent `12` as a digit key, and stays as it is. -/
theorem handle_eq_of_status_ne_ok_of_two_digits :
    let service : Service Supply :=
      { table := Table.standard Supply.between, limit := 1, name := hexName }
    let k : Keypad := { display := "1", typing := true }
    let store : Store Supply := { sessions := OrderedMap.empty.insert (hexName 0) k, source := {} }
    let request : Request :=
      { method := "POST"
        target := "/api/sessions/" ++ hexName 0 ++ "/digit"
        contentType := some "application/json"
        body := "\x7b\"digit\": \"12\"\x7d".toList.map fun c => UInt8.ofNat c.toNat }
    service.route request ≠ .endpoint .create ∧ (service.handle store request).1.status = 400 ∧
      (service.handle store request).2 = store := by
  intro service k store request
  have hcreate : service.route request ≠ .endpoint .create := by decide +kernel
  have hstatus : (service.handle store request).1.status = 400 := by decide +kernel
  have hfailed : (service.handle store request).1.status ≠ 200 := by
    rw [hstatus]
    decide
  obtain ⟨hstore, -⟩ := service.handle_eq_of_status_ne_ok store request hcreate hfailed
  exact ⟨hcreate, hstatus, hstore⟩

end Web.Service

end ReplayCalculator
