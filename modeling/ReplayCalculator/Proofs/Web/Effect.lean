import Mathlib.Tactic.Lemma
import ReplayCalculator.Web.Service

/-!
# What a request does to the sessions

A store has a row of names, oldest first, and a keypad under each of them. Three kinds of requests
change it: the creation of a session puts a name at the end, after the oldest ones have gone that
are too many; a deletion takes one name away and moves no other; a key press changes the keypad
under one name and leaves the row of names alone. All other requests change nothing
(`handle_cases`).
-/

namespace ReplayCalculator.Web.Service

variable {σ : Type} (service : Service σ)

/-- The names of the first `n` sessions are different from each other. -/
def DistinctNames (n : Nat) : Prop :=
  ∀ i < n, ∀ j < n, service.name i = service.name j → i = j

variable {service} {store : Store σ}

/-- Names that are different stay different when fewer are looked at. -/
lemma DistinctNames.mono {n n' : Nat} (h : service.DistinctNames n') (hle : n ≤ n') :
    service.DistinctNames n := by
  intro i hi j hj hij
  exact h i (Nat.lt_of_lt_of_le hi hle) j (Nat.lt_of_lt_of_le hj hle) hij

/-! ### Creations -/

/-- A service that keeps sessions can always create one. -/
lemma create_eq (h : 0 < service.limit) :
    service.create store =
      (.success 201 (sessionData (service.name store.created) (Keypad.new true)),
        { store with
          sessions := (store.sessions.dropOldest (surplus service.limit store.sessions.size)).insert
            (service.name store.created) (Keypad.new true)
          created := store.created + 1 }) := by
  unfold create
  rw [makeRoom_eq, if_pos h]

/-- A service that keeps no sessions drops those it has and fails. -/
lemma create_eq_of_limit_le (h : service.limit ≤ 0) :
    service.create store = (.failure .noRoom, { store with sessions := .empty }) := by
  have hnot : ¬ 0 < service.limit := by omega
  unfold create
  rw [makeRoom_eq, if_neg hnot]

/-- A new name goes last, behind the names for which there is room. -/
lemma keys_create (h : 0 < service.limit)
    (hnew : service.name store.created ∉ store.sessions.keys) :
    (service.create store).2.sessions.keys =
      store.sessions.keys.drop (surplus service.limit store.sessions.size) ++
        [service.name store.created] := by
  have hnew' : service.name store.created ∉
      (store.sessions.dropOldest (surplus service.limit store.sessions.size)).keys := by
    rw [OrderedMap.keys_dropOldest]
    intro hmem
    exact hnew (List.mem_of_mem_drop hmem)
  rw [sessions_create service h, OrderedMap.keys_insert_of_not_mem _ hnew',
    OrderedMap.keys_dropOldest]

/-- A creation changes no keypad that it leaves in the store. -/
lemma get?_create (h : 0 < service.limit) (id : String) :
    (service.create store).2.sessions.get? id =
      if id = service.name store.created then some (Keypad.new true)
      else if id ∈ store.sessions.keys.drop (surplus service.limit store.sessions.size) then
        store.sessions.get? id
      else none := by
  rw [sessions_create service h, OrderedMap.get?_insert, OrderedMap.get?_dropOldest]

/-! ### Deletions -/

/-- Filtering out a name that is not there changes nothing. -/
lemma filter_ne_of_not_mem {ids : List String} {id : String} (h : id ∉ ids) :
    ids.filter (· ≠ id) = ids := by
  rw [List.filter_eq_self]
  intro id' hmem
  rw [decide_eq_true_eq]
  rintro rfl
  exact h hmem

/-- A deletion takes away the name of the session, if it is there. -/
lemma keys_delete (id : String) :
    (delete store id).2.sessions.keys = store.sessions.keys.filter (· ≠ id) := by
  cases hk : store.sessions.get? id with
  | none =>
    have habsent : id ∉ store.sessions.keys := OrderedMap.get?_eq_none_iff.mp hk
    simp only [delete, hk]
    exact (filter_ne_of_not_mem habsent).symm
  | some k =>
    simp only [delete, hk]
    exact OrderedMap.keys_erase _ _

/-- Exactly the deletions of sessions that are there succeed. -/
lemma status_delete_eq_ok_iff (id : String) :
    (delete store id).1.status = 200 ↔ id ∈ store.sessions.keys := by
  cases hk : store.sessions.get? id with
  | none =>
    have habsent : id ∉ store.sessions.keys := OrderedMap.get?_eq_none_iff.mp hk
    simp [delete, hk, habsent, Reply.failure, RequestError.status]
  | some k =>
    have hmem : id ∈ store.sessions.keys := OrderedMap.mem_keys_of_get?_eq_some hk
    simp [delete, hk, hmem, Reply.success]

/-- A deletion changes no keypad that it leaves in the store. -/
lemma get?_delete_of_ne {id id' : String} (h : id' ≠ id) :
    (delete store id).2.sessions.get? id' = store.sessions.get? id' := by
  cases hk : store.sessions.get? id with
  | none => simp only [delete, hk]
  | some k => simp only [delete, hk, OrderedMap.get?_erase, if_neg h]

/-- A deletion creates nothing. -/
lemma created_delete (id : String) : (delete store id).2.created = store.created := by
  cases hk : store.sessions.get? id with
  | none => simp only [delete, hk]
  | some k => simp only [delete, hk]

/-! ### Key presses -/

/-- A key press on a session that is not there fails. -/
lemma press_of_get?_eq_none {id : String} (hk : store.sessions.get? id = none) (command : Command)
    (payload : Payload) :
    service.press store id command payload = (.failure (.unknownSession id), store) := by
  simp only [press, hk]

/-- A key press leaves the row of names alone. -/
lemma keys_press (id : String) (command : Command) (payload : Payload) :
    (service.press store id command payload).2.sessions.keys = store.sessions.keys := by
  cases hk : store.sessions.get? id with
  | none => rw [press_of_get?_eq_none hk]
  | some k =>
    have hmem : id ∈ store.sessions.keys := OrderedMap.mem_keys_of_get?_eq_some hk
    simp only [press, hk]
    exact OrderedMap.keys_insert_of_mem _ hmem

/-- A key press changes no keypad but that of its session. -/
lemma get?_press_of_ne {id id' : String} (h : id' ≠ id) (command : Command) (payload : Payload) :
    (service.press store id command payload).2.sessions.get? id' = store.sessions.get? id' := by
  cases hk : store.sessions.get? id with
  | none => rw [press_of_get?_eq_none hk]
  | some k => simp only [press, hk, OrderedMap.get?_insert, if_neg h]

/-- A key press creates nothing. -/
lemma created_press (id : String) (command : Command) (payload : Payload) :
    (service.press store id command payload).2.created = store.created := by
  cases hk : store.sessions.get? id with
  | none => rw [press_of_get?_eq_none hk]
  | some k => simp only [press, hk]

/-! ### All requests -/

/-- A request creates a session, deletes one, presses a key of one, or changes nothing. -/
lemma handle_cases (service : Service σ) (store : Store σ) (request : Request) :
    (service.route request = .endpoint .create ∧
        service.handle store request = service.create store) ∨
      (∃ id, service.route request = .endpoint (.delete id) ∧
        service.handle store request = delete store id) ∨
      (∃ id command, service.route request = .endpoint (.press id command) ∧
        service.handle store request = service.press store id command (service.payload request)) ∨
      (service.route request ≠ .endpoint .create ∧
        (∀ id, service.route request ≠ .endpoint (.delete id)) ∧
        (∀ id command, service.route request ≠ .endpoint (.press id command)) ∧
        (service.handle store request).2 = store) := by
  by_cases hend : ∃ e, service.route request = .endpoint e
  · obtain ⟨e, he⟩ := hend
    rw [service.handle_of_endpoint he, he]
    cases e with
    | create => exact Or.inl ⟨rfl, rfl⟩
    | delete id => exact Or.inr (Or.inl ⟨id, rfl, rfl⟩)
    | press id command => exact Or.inr (Or.inr (Or.inl ⟨id, command, rfl, rfl⟩))
    | _ => exact Or.inr (Or.inr (Or.inr ⟨by simp, by simp, by simp, rfl⟩))
  · have hnone : ∀ e, service.route request ≠ .endpoint e := fun e he => hend ⟨e, he⟩
    exact Or.inr (Or.inr (Or.inr ⟨hnone _, fun id => hnone _, fun id command => hnone _,
      service.handle_of_not_endpoint hnone⟩))

/-! ### The number of sessions created -/

/-- Only creations count. -/
lemma created_handle_of_ne {request : Request}
    (hcreate : service.route request ≠ .endpoint .create) :
    (service.handle store request).2.created = store.created := by
  rcases service.handle_cases store request with
    ⟨h, -⟩ | ⟨id, -, h⟩ | ⟨id, command, -, h⟩ | ⟨-, -, -, h⟩
  · exact absurd h hcreate
  · rw [h, created_delete]
  · rw [h, created_press]
  · rw [h]

/-- A creation counts once. -/
lemma created_create (h : 0 < service.limit) :
    (service.create store).2.created = store.created + 1 := by
  rw [create_eq h]

/-- A request creates one session at most. -/
lemma created_handle_le (service : Service σ) (store : Store σ) (request : Request) :
    (service.handle store request).2.created ≤ store.created + 1 := by
  by_cases hcreate : service.route request = .endpoint .create
  · rw [service.handle_of_endpoint hcreate]
    by_cases hlimit : 0 < service.limit
    · exact Nat.le_of_eq (created_create hlimit)
    · have hnone : service.limit ≤ 0 := by omega
      simp only [answer, create_eq_of_limit_le hnone]
      omega
  · rw [created_handle_of_ne hcreate]
    omega

/-- A row of requests creates one session at most for each of them. -/
lemma created_handleAll_le (service : Service σ) (store : Store σ) (requests : List Request) :
    (service.handleAll store requests).2.created ≤ store.created + requests.length := by
  induction requests generalizing store with
  | nil => exact Nat.le_refl _
  | cons request rest ih =>
    have hfirst := service.created_handle_le store request
    have hrest := ih (service.handle store request).2
    simp only [handleAll, List.length_cons]
    omega

end ReplayCalculator.Web.Service
