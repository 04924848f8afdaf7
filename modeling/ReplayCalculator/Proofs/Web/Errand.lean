import Mathlib.Tactic.Lemma
import ReplayCalculator.Proofs.Replay.Draws
import ReplayCalculator.Proofs.Web.Effect

/-!
# What a request asks of one session

Seen from one session, a request is the creation of this session, a look at it or at its head, its
deletion, a key press, or nothing that concerns it (`concern?`). Such an errand needs no store:
`serve` says what the session replies and what becomes of its keypad, given nothing but the keypad.

All keypads share a source of draws, which the errands of other sessions move on. It matters to a
session only if a custom key was pressed on it. Otherwise its log is free of custom symbols, so that
no refresh makes a draw (`refresh_of_customFree`), and then the whole service does for the session
what `serve` says, whatever the source and whatever else is in the store (`handle_of_errand`).
-/

namespace ReplayCalculator

/-! ### Keypads without draws -/

namespace Keypad

variable {σ : Type} {table : Table σ} {k : Keypad}

/-- A refresh that makes no draw is the same for all sources, and leaves the source as it is. -/
lemma refresh_of_customFree (h : CustomFree table k.log.steps) (source source' : σ) :
    k.refresh table source = ((k.refresh table source').1, source) := by
  have hhere := evaluateIn_of_customFree k.bindings k.mode h source source'
  have hthere := evaluateIn_of_customFree k.bindings k.mode h source' source'
  have hlenient := evaluate_of_customFree k.bindings h source source'
  unfold refresh
  rw [hhere, hthere]
  cases (evaluateIn table k.bindings k.mode k.log.steps source').1 with
  | error e => simp only [hlenient]
  | ok v => rfl

/-- One more step that is no custom symbol makes no draw. -/
lemma customFree_record (h : CustomFree table k.log.steps) (step : Step)
    (hstep : step.kind? table ≠ some .custom) :
    CustomFree table (k.record step).log.steps := by
  intro step' hmem
  have hlog : (k.record step).log.steps = k.log.steps ++ [step] := rfl
  rw [hlog] at hmem
  rcases List.mem_append.mp hmem with hold | hnew
  · exact h step' hold
  · rw [List.mem_singleton.mp hnew]
    exact hstep

/-- The typed number makes no draw. -/
lemma customFree_commit (h : CustomFree table k.log.steps) :
    CustomFree table k.commit.log.steps := by
  unfold commit
  split
  · cases k.displayValue? with
    | none => exact h
    | some x => exact customFree_record h (.number x) (by simp [Step.kind?])
  · exact h

/-- Fewer steps make no draw. -/
lemma customFree_removeLast (h : CustomFree table k.log.steps) :
    CustomFree table k.log.removeLast.2.steps :=
  fun step hmem => h step (List.dropLast_subset _ hmem)

/-- The keys other than the operation keys bring no draw into a log. -/
lemma customFree_erase (h : CustomFree table k.log.steps) (source : σ) :
    CustomFree table (k.erase table source).1.log.steps := by
  unfold erase
  split
  · have hlog : k.eraseChar.log = k.log := by
      simp only [eraseChar]
      split <;> rfl
    rw [hlog]
    exact h
  · rw [refresh_log]
    exact customFree_removeLast h

end Keypad

namespace Web

variable {σ : Type}

/-! ### Errands -/

/-- What a request can ask of one session. -/
inductive Errand
  | create
  | inspect
  | head
  | delete
  | press (command : Command) (payload : Payload)

/-- Whether an errand is to press a custom key. -/
def Errand.pressesCustom (table : Table σ) : Errand → Bool
  | .press .operation payload =>
    match readField payload "symbol" with
    | .ok symbol => (Step.operation (.ofPoints symbol)).kind? table = some .custom
    | .error _ => false
  | _ => false

namespace Service

variable (service : Service σ)

/-- The session that an endpoint concerns, when so many sessions have been created, and what is
asked of it: a creation concerns the session with the next name. -/
def concern? (count : Nat) (payload : Payload) : Endpoint → Option (String × Errand)
  | .create => some (service.name count, .create)
  | .view (.session id) => some (id, .inspect)
  | .head (.session id) => some (id, .head)
  | .delete id => some (id, .delete)
  | .press id command => some (id, .press command payload)
  | _ => none

/-- What a request asks of a session, when so many sessions have been created. -/
def errand? (count : Nat) (id : String) (request : Request) : Option Errand :=
  match service.route request with
  | .endpoint e =>
    (service.concern? count (service.payload request) e).bind fun concern =>
      if concern.1 = id then some concern.2 else none
  | _ => none

/-- What a session replies to an errand, and what becomes of its keypad: there is none before the
session is created and after it is deleted. -/
def serve (id : String) (source : σ) : Option Keypad → Errand → Reply × Option Keypad
  | _, .create => (.success 201 (sessionData id (.new true)), some (.new true))
  | state, .inspect => (.session id state, state)
  | state, .head => ((Reply.session id state).head, state)
  | none, _ => (.failure (.unknownSession id), none)
  | some _, .delete => (.success 200 (.object [("id", .text id)]), none)
  | some k, .press command payload =>
    let (outcome, k, _) := service.runCommand payload k source command
    match outcome with
    | .error e => (.failure e, some k)
    | .ok () => (.success 200 (sessionData id k), some k)

/-- A session, if it is there, has no custom symbol in its log. -/
def Plain (table : Table σ) (state : Option Keypad) : Prop :=
  ∀ k ∈ state, CustomFree table k.log.steps

variable {service} {k : Keypad} {payload : Payload}

/-- A symbol that is pressed, and is no custom key, is no custom symbol. -/
lemma kind?_ne_custom_of_pressesCustom {symbol : List CodePoint} (table : Table σ)
    (hfield : readField payload "symbol" = .ok symbol)
    (h : (Errand.press .operation payload).pressesCustom table = false) :
    (Step.operation (.ofPoints symbol)).kind? table ≠ some .custom := by
  simp only [Errand.pressesCustom, hfield] at h
  exact of_decide_eq_false h

/-! ### Commands without draws -/

/-- A command that presses no custom key does the same whatever the source, which it leaves as it
is. -/
lemma runCommand_of_customFree (hfree : CustomFree service.table k.log.steps) {command : Command}
    (hcustom : (Errand.press command payload).pressesCustom service.table = false)
    (source source' : σ) :
    service.runCommand payload k source command =
      ((service.runCommand payload k source' command).1,
        (service.runCommand payload k source' command).2.1, source) := by
  cases command with
  | digit =>
    simp only [runCommand]
    cases readField payload "digit" with
    | error e => rfl
    | ok text => cases hdigit : k.digit? text <;> simp only [hdigit]
  | operation =>
    simp only [runCommand]
    cases hfield : readField payload "symbol" with
    | error e => rfl
    | ok symbol =>
      have hstep := kind?_ne_custom_of_pressesCustom service.table hfield hcustom
      have hlog := Keypad.customFree_record (Keypad.customFree_commit hfree) _ hstep
      have hrefresh := Keypad.refresh_of_customFree hlog source source'
      exact congrArg (Prod.mk _) hrefresh
  | storeMemory =>
    simp only [runCommand, Keypad.storeMemory]
    cases k.displayValue? with
    | none => rfl
    | some x =>
      have hlog : CustomFree service.table
          ({ k with memory := some x, typing := false } : Keypad).log.steps := hfree
      have hrefresh := Keypad.refresh_of_customFree hlog source source'
      exact congrArg (Prod.mk _) hrefresh
  | recallMemory =>
    have hlog := Keypad.customFree_record hfree (.variable Keypad.memoryVariable)
      (by simp [Step.kind?])
    have hrefresh := Keypad.refresh_of_customFree
      (k := { k.record (.variable Keypad.memoryVariable) with typing := false }) hlog source source'
    exact congrArg (Prod.mk _) hrefresh
  | erase =>
    simp only [runCommand, Keypad.erase]
    split
    · rfl
    · have hlog := Keypad.customFree_removeLast hfree
      have hrefresh := Keypad.refresh_of_customFree
        (k := { k with log := k.log.removeLast.2 }) hlog source source'
      exact congrArg (Prod.mk _) hrefresh
  | clean => rfl

/-- A command that presses no custom key brings no custom symbol into a log. -/
lemma customFree_runCommand (hfree : CustomFree service.table k.log.steps) {command : Command}
    (hcustom : (Errand.press command payload).pressesCustom service.table = false) (source : σ) :
    CustomFree service.table (service.runCommand payload k source command).2.1.log.steps := by
  cases command with
  | digit =>
    simp only [runCommand]
    cases readField payload "digit" with
    | error e => exact hfree
    | ok text =>
      simp only [Keypad.digit?]
      cases Keypad.digitKey? text <;> exact hfree
  | operation =>
    simp only [runCommand]
    cases hfield : readField payload "symbol" with
    | error e => exact hfree
    | ok symbol =>
      have hstep := kind?_ne_custom_of_pressesCustom service.table hfield hcustom
      simp only [Keypad.operation, Keypad.refresh_log]
      exact Keypad.customFree_record (Keypad.customFree_commit hfree) _ hstep
  | storeMemory =>
    simp only [runCommand, Keypad.storeMemory]
    cases k.displayValue? with
    | none => exact hfree
    | some x =>
      rw [Keypad.refresh_log]
      exact hfree
  | recallMemory =>
    simp only [runCommand, Keypad.recallMemory, Keypad.refresh_log]
    exact Keypad.customFree_record hfree (.variable Keypad.memoryVariable) (by simp [Step.kind?])
  | erase => exact Keypad.customFree_erase hfree source
  | clean =>
    intro step hmem
    cases hmem

/-! ### The service serves a session -/

variable {store : Store σ} {request : Request} {id : String} {errand : Errand}

/-- Only for creations it matters what names the sessions bear, and how many there have been. -/
lemma concern?_of_ne (service service' : Service σ) (count count' : Nat) {payload : Payload}
    {e : Endpoint} (he : e ≠ .create) :
    service.concern? count payload e = service'.concern? count' payload e := by
  cases e with
  | create => exact absurd rfl he
  | view v => cases v <;> rfl
  | head v => cases v <;> rfl
  | _ => rfl

/-- A request asks of a session what the endpoint to which it leads asks of it. -/
lemma errand?_of_concern {count : Nat} {id' : String} {e : Endpoint}
    (hto : service.route request = .endpoint e)
    (hconcern : service.concern? count (service.payload request) e = some (id', errand)) :
    service.errand? count id request = if id' = id then some errand else none := by
  unfold errand?
  rw [hto]
  simp only [hconcern, Option.bind_some]

/-- What is asked of a session is what some endpoint asks that concerns it. -/
lemma exists_concern_of_errand? {count : Nat} (h : service.errand? count id request = some errand) :
    ∃ e, service.route request = .endpoint e ∧
      service.concern? count (service.payload request) e = some (id, errand) := by
  unfold errand? at h
  split at h
  · rename_i e hto
    obtain ⟨⟨id', errand'⟩, hconcern, hsame⟩ := Option.bind_eq_some_iff.mp h
    obtain ⟨rfl, herrand⟩ := Option.ite_none_right_eq_some.mp hsame
    cases herrand
    exact ⟨e, hto, hconcern⟩
  · cases h

/-- What a request that concerns a session can be. -/
lemma errand?_cases {count : Nat} (h : service.errand? count id request = some errand) :
    (service.route request = .endpoint .create ∧ service.name count = id ∧ errand = .create) ∨
      (service.route request = .endpoint (.view (.session id)) ∧ errand = .inspect) ∨
      (service.route request = .endpoint (.head (.session id)) ∧ errand = .head) ∨
      (service.route request = .endpoint (.delete id) ∧ errand = .delete) ∨
      ∃ command, service.route request = .endpoint (.press id command) ∧
        errand = .press command (service.payload request) := by
  obtain ⟨e, hto, hconcern⟩ := exists_concern_of_errand? h
  unfold concern? at hconcern
  split at hconcern
  · cases hconcern
    exact Or.inl ⟨hto, rfl, rfl⟩
  · cases hconcern
    exact Or.inr (Or.inl ⟨hto, rfl⟩)
  · cases hconcern
    exact Or.inr (Or.inr (Or.inl ⟨hto, rfl⟩))
  · cases hconcern
    exact Or.inr (Or.inr (Or.inr (Or.inl ⟨hto, rfl⟩)))
  · cases hconcern
    exact Or.inr (Or.inr (Or.inr (Or.inr ⟨_, hto, rfl⟩)))
  · cases hconcern

/-- A key press on a session that is there runs the command on its keypad. -/
lemma press_of_get?_eq_some (service : Service σ) (hk : store.sessions.get? id = some k)
    (command : Command) (payload : Payload) :
    let run := service.runCommand payload k store.source command
    (service.press store id command payload).1 =
        (match run.1 with
          | .error e => .failure e
          | .ok () => .success 200 (sessionData id run.2.1)) ∧
      (service.press store id command payload).2.sessions.get? id = some run.2.1 := by
  intro run
  simp only [press, hk, OrderedMap.get?_insert, if_true]
  exact ⟨rfl, rfl⟩

/-- If no custom key is pressed on a session and none was before, the service replies to an errand
and changes the keypad as the session by itself would. -/
lemma handle_of_errand (hlimit : 0 < service.limit)
    (h : service.errand? store.created id request = some errand)
    (hplain : Plain service.table (store.sessions.get? id))
    (hcustom : store.sessions.get? id ≠ none → errand.pressesCustom service.table = false)
    (source : σ) :
    (service.handle store request).1 =
        (service.serve id source (store.sessions.get? id) errand).1 ∧
      (service.handle store request).2.sessions.get? id =
        (service.serve id source (store.sessions.get? id) errand).2 := by
  rcases errand?_cases h with
    ⟨hto, hname, rfl⟩ | ⟨hto, rfl⟩ | ⟨hto, rfl⟩ | ⟨hto, rfl⟩ | ⟨command, hto, rfl⟩
  · rw [service.handle_of_endpoint hto]
    refine ⟨?_, ?_⟩
    · simp only [answer, create_eq hlimit, hname, serve]
    · simp only [answer, get?_create hlimit, hname, if_true, serve]
  · rw [service.handle_of_endpoint hto]
    simp only [answer, present, serve, and_self]
  · rw [service.handle_of_endpoint hto]
    simp only [answer, present, serve, and_self]
  · rw [service.handle_of_endpoint hto]
    cases hk : store.sessions.get? id with
    | none => simp only [answer, delete, hk, serve, and_self]
    | some k => simp only [answer, delete, hk, serve, OrderedMap.get?_erase, if_true, and_self]
  · rw [service.handle_of_endpoint hto]
    cases hk : store.sessions.get? id with
    | none => simp only [answer, press_of_get?_eq_none hk, serve, hk, and_self]
    | some k =>
      have hfree : CustomFree service.table k.log.steps := hplain k hk
      have hquiet := hcustom (by simp [hk])
      have hrun := runCommand_of_customFree hfree hquiet store.source source
      have hpress := service.press_of_get?_eq_some hk command (service.payload request)
      simp only [hrun] at hpress
      simp only [answer, serve]
      rw [hpress.1, hpress.2]
      cases (service.runCommand (service.payload request) k source command).1 <;> exact ⟨rfl, rfl⟩

/-- A custom key that is pressed on a session that is there is answered with success. -/
lemma status_of_pressesCustom (h : service.errand? store.created id request = some errand)
    (hcustom : errand.pressesCustom service.table = true) (hthere : store.sessions.get? id ≠ none) :
    (service.handle store request).1.status = 200 := by
  obtain ⟨k, hk⟩ := Option.ne_none_iff_exists'.mp hthere
  rcases errand?_cases h with
    ⟨hto, hname, rfl⟩ | ⟨hto, rfl⟩ | ⟨hto, rfl⟩ | ⟨hto, rfl⟩ | ⟨command, hto, rfl⟩
  · cases hcustom
  · cases hcustom
  · cases hcustom
  · cases hcustom
  · rw [service.handle_of_endpoint hto]
    cases command with
    | operation =>
      cases hfield : readField (service.payload request) "symbol" with
      | error e => simp [Errand.pressesCustom, hfield] at hcustom
      | ok symbol => simp only [answer, press, hk, runCommand, hfield, Reply.success]
    | _ => cases hcustom

/-- If no custom key is pressed on a session, no custom symbol gets into its log. -/
lemma Plain.serve {state : Option Keypad} (hplain : Plain service.table state) (id : String)
    (hcustom : state ≠ none → errand.pressesCustom service.table = false) (source : σ) :
    Plain service.table (service.serve id source state errand).2 := by
  intro k' hk'
  cases errand with
  | create =>
    have hnew : Keypad.new true = k' := by
      cases state <;> exact Option.some.inj hk'
    subst hnew
    intro step hmem
    cases hmem
  | inspect => exact hplain k' hk'
  | head => exact hplain k' hk'
  | delete => cases state <;> cases hk'
  | press command payload =>
    cases state with
    | none => cases hk'
    | some k =>
      have hquiet := hcustom (by simp)
      have hfree := customFree_runCommand (hplain k rfl) hquiet source
      have hrun : (service.runCommand payload k source command).2.1 = k' := by
        simp only [Service.serve] at hk'
        split at hk' <;> exact Option.some.inj hk'
      rw [← hrun]
      exact hfree

end Service

end Web

end ReplayCalculator
