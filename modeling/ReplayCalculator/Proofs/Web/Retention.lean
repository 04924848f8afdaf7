import Mathlib.Data.List.Basic
import Mathlib.Data.List.Infix
import Mathlib.Data.List.Nodup
import ReplayCalculator.Operation.Feed
import ReplayCalculator.Proofs.Web.Effect

/-!
# Which sessions are kept

A service keeps so many sessions, and no matter in which order sessions are created, used, deleted
or pushed out, the ones that it keeps are told by the history of its requests alone: they are the
last ones of those that were created and not deleted, in the order of their creation.

The invariant `Retains` links the row of names in a store to that history. Each kind of request
keeps it (`Retains.create`, `Retains.delete`, `Retains.press`), and so does every row of requests
(`Retains.handleAll`). The main statement `keys_handleAll` adds what a single request can do to the
row: a creation pushes out the oldest session, and only if there is no room, and apart from that
only a session that is deleted goes. A service whose limit is not positive keeps nothing and creates
nothing.
-/

namespace ReplayCalculator.Web.Service

variable {σ : Type} (service : Service σ)

/-! ### Histories -/

/-- The name of the session that a request creates, if it creates one. -/
def createdBy (store : Store σ) (request : Request) : List String :=
  if service.route request = .endpoint .create ∧ (service.handle store request).1.status = 201 then
    [service.name store.created]
  else []

/-- The name of the session that a request deletes, if it deletes one. -/
def deletedBy (store : Store σ) (request : Request) : List String :=
  match service.route request with
  | .endpoint (.delete id) => if (service.handle store request).1.status = 200 then [id] else []
  | _ => []

/-- The names of the sessions that a row of requests creates, in the order of their creation. -/
def createdIn : Store σ → List Request → List String
  | _, [] => []
  | store, request :: rest =>
    service.createdBy store request ++ createdIn (service.handle store request).2 rest

/-- The names of the sessions that a row of requests deletes. -/
def deletedIn : Store σ → List Request → List String
  | _, [] => []
  | store, request :: rest =>
    service.deletedBy store request ++ deletedIn (service.handle store request).2 rest

variable {service}

/-- A creation creates the session with the next name. -/
lemma createdBy_of_create (hlimit : 0 < service.limit) {store : Store σ} {request : Request}
    (h : service.route request = .endpoint .create) :
    service.createdBy store request = [service.name store.created] := by
  have hstatus : (service.handle store request).1.status = 201 := by
    rw [service.handle_of_endpoint h]
    simp only [answer, create_eq hlimit, Reply.success]
  rw [createdBy, if_pos ⟨h, hstatus⟩]

/-- Only creations create sessions. -/
lemma createdBy_of_ne {store : Store σ} {request : Request}
    (h : service.route request ≠ .endpoint .create) : service.createdBy store request = [] := by
  rw [createdBy, if_neg fun hboth => h hboth.1]

/-- A deletion deletes the session that it names, if that session is there. -/
lemma deletedBy_of_delete {store : Store σ} {request : Request} {id : String}
    (h : service.route request = .endpoint (.delete id)) :
    service.deletedBy store request = if id ∈ store.sessions.keys then [id] else [] := by
  unfold deletedBy
  rw [h]
  simp only [service.handle_of_endpoint h, answer, status_delete_eq_ok_iff]

/-- Only deletions delete sessions. -/
lemma deletedBy_of_ne {store : Store σ} {request : Request}
    (h : ∀ id, service.route request ≠ .endpoint (.delete id)) :
    service.deletedBy store request = [] := by
  unfold deletedBy
  split
  · rename_i id hid
    exact absurd hid (h id)
  · rfl

/-! ### The invariant -/

/-- What links a store to its history: the sessions that were created bear the first names, and the
last ones of those that were not deleted are in the store, no more of them than the limit. -/
structure Retains (service : Service σ) (created deleted : List String)
    (store : Store σ) : Prop where
  created_eq : created = (List.range store.created).map service.name
  mem_created_of_deleted : ∀ id ∈ deleted, id ∈ created
  keys_suffix : store.sessions.keys <:+ created.filter (· ∉ deleted)
  size_le : (store.sessions.size : Int) ≤ service.limit

variable {created deleted : List String} {store : Store σ}

/-- An empty store has no history. -/
lemma retains_empty (hlimit : 0 < service.limit) (source : σ) :
    service.Retains [] [] { source } where
  created_eq := rfl
  mem_created_of_deleted := by simp
  keys_suffix := List.suffix_rfl
  size_le := by
    have hsize : ({ source } : Store σ).sessions.size = 0 := rfl
    rw [hsize]
    omega

/-- The sessions in the store were created. -/
lemma Retains.mem_created (h : service.Retains created deleted store) {id : String}
    (hid : id ∈ store.sessions.keys) : id ∈ created :=
  List.mem_of_mem_filter (h.keys_suffix.subset hid)

/-- The next session bears a new name. -/
lemma Retains.name_not_mem (h : service.Retains created deleted store)
    (hnames : service.DistinctNames (store.created + 1)) :
    service.name store.created ∉ created := by
  rw [h.created_eq]
  intro hmem
  obtain ⟨i, hi, hname⟩ := List.mem_map.mp hmem
  have hlt : i < store.created := List.mem_range.mp hi
  have hsame := hnames i (by omega) store.created (by omega) hname
  omega

/-- No session is created twice. -/
lemma Retains.nodup (h : service.Retains created deleted store)
    (hnames : service.DistinctNames store.created) : created.Nodup := by
  rw [h.created_eq]
  refine List.Nodup.map_on ?_ List.nodup_range
  intro i hi j hj hij
  exact hnames i (List.mem_range.mp hi) j (List.mem_range.mp hj) hij

/-- Not more than one session has to go. -/
lemma Retains.surplus_eq (h : service.Retains created deleted store) :
    surplus service.limit store.sessions.size =
      if (store.sessions.size : Int) < service.limit then 0 else 1 := by
  have hsize := h.size_le
  unfold surplus
  split <;> omega

/-! ### What keeps the invariant -/

/-- A creation keeps the invariant. -/
lemma Retains.create (h : service.Retains created deleted store) (hlimit : 0 < service.limit)
    (hnames : service.DistinctNames (store.created + 1)) :
    service.Retains (created ++ [service.name store.created]) deleted
      (service.create store).2 := by
  have hnew := h.name_not_mem hnames
  have hfresh : service.name store.created ∉ store.sessions.keys := fun hmem =>
    hnew (h.mem_created hmem)
  have hkeys := keys_create hlimit hfresh
  refine ⟨?_, ?_, ?_, ?_⟩
  · rw [created_create hlimit, List.range_succ, List.map_append, ← h.created_eq]
    rfl
  · intro id hid
    exact List.mem_append_left _ (h.mem_created_of_deleted id hid)
  · have hkept : service.name store.created ∉ deleted := fun hmem =>
      hnew (h.mem_created_of_deleted _ hmem)
    have hfilter : [service.name store.created].filter (· ∉ deleted) =
        [service.name store.created] := by
      simp [hkept]
    rw [hkeys, List.filter_append, hfilter, List.suffix_append_inj_of_length_eq rfl]
    exact ⟨(List.drop_suffix _ _).trans h.keys_suffix, rfl⟩
  · have hsize := h.size_le
    have hlength : (service.create store).2.sessions.size =
        store.sessions.size - surplus service.limit store.sessions.size + 1 := by
      rw [← OrderedMap.length_keys, hkeys, List.length_append, List.length_drop,
        OrderedMap.length_keys]
      rfl
    rw [hlength, h.surplus_eq]
    split <;> omega

/-- A deletion keeps the invariant. -/
lemma Retains.delete (h : service.Retains created deleted store) (id : String) :
    service.Retains created (deleted ++ if id ∈ store.sessions.keys then [id] else [])
      (delete store id).2 := by
  have hcreated : (Service.delete store id).2.created = store.created := created_delete id
  have hkeys : (Service.delete store id).2.sessions.keys = store.sessions.keys.filter (· ≠ id) :=
    keys_delete id
  have hsize : (Service.delete store id).2.sessions.size ≤ store.sessions.size := by
    rw [← OrderedMap.length_keys, hkeys, ← OrderedMap.length_keys]
    exact List.length_filter_le _ _
  refine ⟨?_, ?_, ?_, ?_⟩
  · rw [hcreated]
    exact h.created_eq
  · intro id' hid'
    rcases List.mem_append.mp hid' with hold | hnew
    · exact h.mem_created_of_deleted id' hold
    · split at hnew
      · rename_i hmem
        rw [List.mem_singleton.mp hnew]
        exact h.mem_created hmem
      · cases hnew
  · rw [hkeys]
    have hsuffix := h.keys_suffix.filter (· ≠ id)
    split
    · have hsame : (created.filter (· ∉ deleted)).filter (· ≠ id) =
          created.filter (· ∉ deleted ++ [id]) := by
        rw [List.filter_filter]
        congr 1
        funext id'
        simp [and_comm]
      rw [← hsame]
      exact hsuffix
    · rename_i habsent
      rw [filter_ne_of_not_mem habsent, List.append_nil]
      exact h.keys_suffix
  · have hle := h.size_le
    omega

/-- A key press keeps the invariant. -/
lemma Retains.press (h : service.Retains created deleted store) (id : String) (command : Command)
    (payload : Payload) :
    service.Retains created deleted (service.press store id command payload).2 := by
  have hkeys : (service.press store id command payload).2.sessions.keys = store.sessions.keys :=
    keys_press id command payload
  refine ⟨?_, h.mem_created_of_deleted, ?_, ?_⟩
  · rw [created_press]
    exact h.created_eq
  · rw [hkeys]
    exact h.keys_suffix
  · rw [← OrderedMap.length_keys, hkeys, OrderedMap.length_keys]
    exact h.size_le

/-- Every request keeps the invariant, with the history that it adds to. -/
lemma Retains.handle (h : service.Retains created deleted store) (hlimit : 0 < service.limit)
    (hnames : service.DistinctNames (store.created + 1)) (request : Request) :
    service.Retains (created ++ service.createdBy store request)
      (deleted ++ service.deletedBy store request) (service.handle store request).2 := by
  rcases service.handle_cases store request with
    ⟨hto, hdoes⟩ | ⟨id, hto, hdoes⟩ | ⟨id, command, hto, hdoes⟩ | ⟨hcreate, hdelete, -, hdoes⟩
  · rw [hdoes, createdBy_of_create hlimit hto, deletedBy_of_ne (by simp [hto]), List.append_nil]
    exact h.create hlimit hnames
  · rw [hdoes, createdBy_of_ne (by simp [hto]), deletedBy_of_delete hto, List.append_nil]
    exact h.delete id
  · rw [hdoes, createdBy_of_ne (by simp [hto]), deletedBy_of_ne (by simp [hto]), List.append_nil,
      List.append_nil]
    exact h.press id command (service.payload request)
  · rw [hdoes, createdBy_of_ne hcreate, deletedBy_of_ne hdelete, List.append_nil, List.append_nil]
    exact h

/-- Every row of requests keeps the invariant, with the history that it adds to. -/
lemma Retains.handleAll (h : service.Retains created deleted store) (hlimit : 0 < service.limit)
    (requests : List Request) (hnames : service.DistinctNames (store.created + requests.length)) :
    service.Retains (created ++ service.createdIn store requests)
      (deleted ++ service.deletedIn store requests) (service.handleAll store requests).2 := by
  induction requests generalizing store created deleted with
  | nil =>
    simp only [createdIn, deletedIn, List.append_nil]
    exact h
  | cons request rest ih =>
    rw [List.length_cons] at hnames
    have hfirst := h.handle hlimit (hnames.mono (by omega)) request
    have hle := service.created_handle_le store request
    have hrest := ih hfirst (hnames.mono (by omega))
    simp only [createdIn, deletedIn, Service.handleAll, ← List.append_assoc]
    exact hrest

/-! ### The sessions at the end of a row of requests -/

/-- Only the deletion of a session that is there, or a creation, takes a session away. -/
lemma resolution_of_not_mem_handle {request : Request}
    (hcreate : service.route request ≠ .endpoint .create) {id : String}
    (hid : id ∈ store.sessions.keys)
    (hgone : id ∉ (service.handle store request).2.sessions.keys) :
    service.route request = .endpoint (.delete id) ∧
      (service.handle store request).1.status = 200 := by
  rcases service.handle_cases store request with
    ⟨hto, -⟩ | ⟨id', hto, hdoes⟩ | ⟨id', command, -, hdoes⟩ | ⟨-, -, -, hdoes⟩
  · exact absurd hto hcreate
  · rw [hdoes, keys_delete, List.mem_filter, decide_eq_true_eq] at hgone
    have hsame : id = id' := Decidable.of_not_not fun hne => hgone ⟨hid, hne⟩
    rw [hdoes, status_delete_eq_ok_iff]
    subst hsame
    exact ⟨hto, hid⟩
  · rw [hdoes, keys_press] at hgone
    exact absurd hid hgone
  · rw [hdoes] at hgone
    exact absurd hid hgone

/-- The sessions at the end of a row of requests to a new service, which names no two sessions
alike.

If the limit is positive, then no more sessions are there than the limit allows, and they are the
last ones of those that were created and not deleted by a request that was answered with success, in
the order of their creation. Every creation after that is answered with a new session, which goes
last; none goes if there is room, and otherwise the oldest one. Any other request takes away no
session but the one whose deletion it is answered with. If the limit is not positive, every creation
fails and leaves no session.

Since the requests are arbitrary, all of this holds at every point of a longer row. -/
theorem keys_handleAll (service : Service σ) (source : σ) (requests : List Request)
    (hnames : service.DistinctNames (requests.length + 1)) :
    let store := (service.handleAll { source } requests).2
    let created := service.createdIn { source } requests
    let deleted := service.deletedIn { source } requests
    (0 < service.limit →
      created.Nodup ∧ (store.sessions.size : Int) ≤ service.limit ∧
        store.sessions.keys <:+ created.filter (· ∉ deleted) ∧
        (∀ request, service.route request = .endpoint .create →
          (service.handle store request).1 =
              .success 201 (sessionData (service.name store.created) (Keypad.new true)) ∧
            service.name store.created ∉ created ∧
            (service.handle store request).2.sessions.keys =
              (if (store.sessions.size : Int) < service.limit then store.sessions.keys
                else store.sessions.keys.tail) ++ [service.name store.created]) ∧
        ∀ request, service.route request ≠ .endpoint .create → ∀ id ∈ store.sessions.keys,
          id ∉ (service.handle store request).2.sessions.keys →
            service.route request = .endpoint (.delete id) ∧
              (service.handle store request).1.status = 200) ∧
      (service.limit ≤ 0 → ∀ request, service.route request = .endpoint .create →
        (service.handle store request).1.status = 500 ∧
          (service.handle store request).2.sessions.keys = []) := by
  intro store created deleted
  refine ⟨fun hlimit => ?_, fun hlimit => ?_⟩
  · have hcount : store.created ≤ requests.length := by
      have hle := service.created_handleAll_le { source } requests
      simpa using hle
    have hretains : service.Retains created deleted store := by
      have hall := (retains_empty hlimit source).handleAll hlimit requests
        (hnames.mono (by simp))
      simpa using hall
    refine ⟨hretains.nodup (hnames.mono (by omega)), hretains.size_le, hretains.keys_suffix, ?_, ?_⟩
    · intro request hto
      have hnew : service.name store.created ∉ created :=
        hretains.name_not_mem (hnames.mono (by omega))
      have hfresh : service.name store.created ∉ store.sessions.keys := fun hmem =>
        hnew (hretains.mem_created hmem)
      have hkeys := keys_create hlimit hfresh
      rw [hretains.surplus_eq] at hkeys
      rw [service.handle_of_endpoint hto]
      refine ⟨congrArg Prod.fst (create_eq hlimit), hnew, ?_⟩
      simp only [answer, hkeys]
      split
      · rw [List.drop_zero]
      · rw [List.drop_one]
    · intro request hcreate id hid hgone
      exact resolution_of_not_mem_handle hcreate hid hgone
  · intro request hto
    rw [service.handle_of_endpoint hto]
    simp only [answer, create_eq_of_limit_le hlimit]
    exact ⟨rfl, rfl⟩

/-- With room for one session, two are created: the first one has gone to make room for the second
one, which would go for a third one. -/
theorem keys_handleAll_of_one_place :
    let service : Service Supply :=
      { table := Table.standard Supply.between, limit := 1, name := hexName }
    let create : Request := { method := "POST", target := "/api/sessions" }
    let store := (service.handleAll { source := {} } [create, create]).2
    service.DistinctNames 3 ∧ 0 < service.limit ∧ service.route create = .endpoint .create ∧
      store.sessions.keys = [hexName 1] ∧ store.sessions.keys <:+ [hexName 0, hexName 1] ∧
      (service.handle store create).2.sessions.keys = [hexName 2] := by
  intro service create
  have hnames : service.DistinctNames 3 := by
    have hdistinct : ∀ i < 3, ∀ j < 3, hexName i = hexName j → i = j := by decide +kernel
    exact hdistinct
  have hlimit : 0 < service.limit := by decide
  have hto : service.route create = .endpoint .create := by decide +kernel
  have hcreated : service.createdIn { source := {} } [create, create] = [hexName 0, hexName 1] := by
    decide +kernel
  have hdeleted : service.deletedIn { source := {} } [create, create] = [] := by decide +kernel
  have hkeys : (service.handleAll { source := {} } [create, create]).2.sessions.keys =
      [hexName 1] := by
    decide +kernel
  have hcount : (service.handleAll { source := {} } [create, create]).2.created = 2 := by
    decide +kernel
  obtain ⟨hkept, -⟩ := service.keys_handleAll {} [create, create] hnames
  obtain ⟨-, -, hsuffix, hcreate, -⟩ := hkept hlimit
  obtain ⟨-, -, hnext⟩ := hcreate create hto
  rw [hcreated, hdeleted] at hsuffix
  rw [← OrderedMap.length_keys, hkeys, hcount] at hnext
  exact ⟨hnames, hlimit, hto, hkeys, hsuffix, hnext⟩

end ReplayCalculator.Web.Service
