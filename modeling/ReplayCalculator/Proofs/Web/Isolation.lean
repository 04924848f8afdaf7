import Mathlib.Tactic.Lemma
import ReplayCalculator.Operation.Feed
import ReplayCalculator.Proofs.Web.Errand
import ReplayCalculator.Proofs.Web.Retention

/-!
# Sessions do not see each other

All sessions are in one store, share one table of operations and one source of draws, and displace
each other. Still a session that is there at the end of a row of requests, and on which no custom
key was pressed, has dealt with the service as if there had been no other one.

The argument compares runs of the service with the run of the session by itself, `serveAll`, which
knows nothing but the keypad. A run of the service agrees with it if no request that does not
concern the session touches its keypad (`dealings_eq_serveAll`). There are two such runs.

* A run at the end of which the session is there: what can only go and never come back was not
  touched, since no two sessions bear the same name (`undisturbed_of_open`).
* The run of nothing but the requests that concern the session (`undisturbed_alone`).

The main statement `dealings_eq_handleAll_alone` puts the two together. It also says that
neighbouring requests can change places if not both of them concern the session, because what is
asked of the session stays the same (`errands_swap`).
-/

namespace ReplayCalculator.Web

/-- A request that concerns a session, with what it asks of the session and with the reply to it. -/
structure Dealing where
  request : Request
  errand : Errand
  reply : Reply

namespace Service

variable {σ : Type} (service : Service σ) (id : String)

/-! ### Runs, seen from one session -/

/-- The dealings of a session in a run of the service. -/
def dealings : Store σ → List Request → List Dealing
  | _, [] => []
  | store, request :: rest =>
    let outcome := service.handle store request
    match service.errand? store.created id request with
    | none => dealings outcome.2 rest
    | some errand => ⟨request, errand, outcome.1⟩ :: dealings outcome.2 rest

/-- What a row of requests asks of a session, when so many sessions have been created. -/
def errands : Nat → List Request → List Errand
  | _, [] => []
  | count, request :: rest =>
    (service.errand? count id request).toList ++
      errands (count + if service.route request = .endpoint .create then 1 else 0) rest

/-- The run of a session by itself: its replies to a row of errands, and its keypad after them. -/
def serveAll (source : σ) : Option Keypad → List Errand → List Reply × Option Keypad
  | state, [] => ([], state)
  | state, errand :: rest =>
    let first := service.serve id source state errand
    let later := serveAll source first.2 rest
    (first.1 :: later.1, later.2)

/-- No custom key is pressed on a session while it is there. -/
def DrawFree (source : σ) : Option Keypad → List Errand → Prop
  | _, [] => True
  | state, errand :: rest =>
    (state ≠ none → errand.pressesCustom service.table = false) ∧
      DrawFree source (service.serve id source state errand).2 rest

/-- No request that does not concern a session touches its keypad. -/
def Undisturbed : Store σ → List Request → Prop
  | _, [] => True
  | store, request :: rest =>
    (service.errand? store.created id request = none →
        (service.handle store request).2.sessions.get? id = store.sessions.get? id) ∧
      Undisturbed (service.handle store request).2 rest

/-- The service for which every session has the same name, so that it can only keep one. -/
def alone : Service σ := { service with name := fun _ => id }

variable {service id} {store : Store σ} {request : Request} {requests rest : List Request}
  {errand : Errand}

/-- A request that does not concern a session is none of its dealings. -/
lemma dealings_cons_of_eq_none (h : service.errand? store.created id request = none) :
    service.dealings id store (request :: rest) =
      service.dealings id (service.handle store request).2 rest := by
  simp only [dealings, h]

/-- A request that concerns a session is the first of its dealings. -/
lemma dealings_cons_of_eq_some (h : service.errand? store.created id request = some errand) :
    service.dealings id store (request :: rest) =
      ⟨request, errand, (service.handle store request).1⟩ ::
        service.dealings id (service.handle store request).2 rest := by
  simp only [dealings, h]

/-- The dealings in the parts of a run are those in the whole run. -/
lemma dealings_append (front back : List Request) :
    service.dealings id store (front ++ back) =
      service.dealings id store front ++
        service.dealings id (service.handleAll store front).2 back := by
  induction front generalizing store with
  | nil => rfl
  | cons request rest ih =>
    rw [List.cons_append]
    cases herrand : service.errand? store.created id request with
    | none => rw [dealings_cons_of_eq_none herrand, dealings_cons_of_eq_none herrand, ih]; rfl
    | some errand =>
      rw [dealings_cons_of_eq_some herrand, dealings_cons_of_eq_some herrand, ih]
      rfl

/-! ### Undisturbed runs -/

/-- If no custom key is pressed on a session, the service deals with it in an undisturbed run as the
session by itself would. -/
lemma dealings_eq_serveAll (service : Service σ) (store : Store σ) (hlimit : 0 < service.limit)
    (source : σ)
    (hplain : Plain service.table (store.sessions.get? id))
    (hstill : service.Undisturbed id store requests)
    (hdraws : service.DrawFree id source (store.sessions.get? id)
      ((service.dealings id store requests).map Dealing.errand)) :
    ((service.dealings id store requests).map Dealing.reply,
        (service.handleAll store requests).2.sessions.get? id) =
      service.serveAll id source (store.sessions.get? id)
        ((service.dealings id store requests).map Dealing.errand) := by
  induction requests generalizing store with
  | nil => rfl
  | cons request rest ih =>
    obtain ⟨hfirst, hrest⟩ := hstill
    cases herrand : service.errand? store.created id request with
    | none =>
      have hsame := hfirst herrand
      rw [dealings_cons_of_eq_none herrand] at hdraws ⊢
      rw [← hsame] at hplain hdraws ⊢
      exact ih _ hplain hrest hdraws
    | some errand =>
      rw [dealings_cons_of_eq_some herrand] at hdraws ⊢
      obtain ⟨hquiet, hlater⟩ := hdraws
      obtain ⟨hreply, hstate⟩ := handle_of_errand hlimit herrand hplain hquiet source
      have hplain' := hplain.serve id hquiet source
      rw [← hstate] at hplain' hlater
      have hagree := ih _ hplain' hrest hlater
      simp only [List.map_cons, serveAll, handleAll, ← hstate, ← hreply, ← hagree]

/-- If no custom key that is pressed on a session is answered with success, then none is pressed on
it while it is there. -/
lemma drawFree_dealings (service : Service σ) (store : Store σ) (hlimit : 0 < service.limit)
    (source : σ)
    (hplain : Plain service.table (store.sessions.get? id))
    (hstill : service.Undisturbed id store requests)
    (hcustom : ∀ dealing ∈ service.dealings id store requests,
      dealing.errand.pressesCustom service.table = true → dealing.reply.status ≠ 200) :
    service.DrawFree id source (store.sessions.get? id)
      ((service.dealings id store requests).map Dealing.errand) := by
  induction requests generalizing store with
  | nil => trivial
  | cons request rest ih =>
    obtain ⟨hfirst, hrest⟩ := hstill
    cases herrand : service.errand? store.created id request with
    | none =>
      have hsame := hfirst herrand
      rw [dealings_cons_of_eq_none herrand] at hcustom ⊢
      rw [← hsame] at hplain ⊢
      exact ih _ hplain hrest hcustom
    | some errand =>
      rw [dealings_cons_of_eq_some herrand] at hcustom ⊢
      have hquiet : store.sessions.get? id ≠ none →
          errand.pressesCustom service.table = false := by
        intro hthere
        rw [Bool.eq_false_iff]
        intro hpressed
        exact hcustom _ List.mem_cons_self hpressed
          (status_of_pressesCustom herrand hpressed hthere)
      obtain ⟨-, hstate⟩ := handle_of_errand hlimit herrand hplain hquiet source
      have hplain' := hplain.serve id hquiet source
      rw [← hstate] at hplain'
      have hlater := ih _ hplain' hrest fun dealing hmem =>
        hcustom dealing (List.mem_cons_of_mem _ hmem)
      rw [hstate] at hlater
      exact ⟨hquiet, hlater⟩

/-! ### Runs at the end of which a session is there -/

/-- A request that does not concern a session leaves it alone or displaces it. -/
lemma get?_handle_of_errand?_eq_none (hlimit : 0 < service.limit)
    (h : service.errand? store.created id request = none) :
    (service.handle store request).2.sessions.get? id = store.sessions.get? id ∨
      (id ∈ store.sessions.keys ∧ (service.handle store request).2.sessions.get? id = none) := by
  rcases service.handle_cases store request with
    ⟨hto, hdoes⟩ | ⟨id', hto, hdoes⟩ | ⟨id', command, hto, hdoes⟩ | ⟨-, -, -, hdoes⟩
  · have hother : id ≠ service.name store.created := by
      rintro rfl
      rw [errand?_of_concern hto rfl, if_pos rfl] at h
      cases h
    rw [hdoes, get?_create hlimit, if_neg hother]
    split
    · exact Or.inl rfl
    · cases hk : store.sessions.get? id with
      | none => exact Or.inl rfl
      | some k => exact Or.inr ⟨OrderedMap.mem_keys_of_get?_eq_some hk, rfl⟩
  · have hother : id ≠ id' := by
      rintro rfl
      rw [errand?_of_concern hto rfl, if_pos rfl] at h
      cases h
    rw [hdoes, get?_delete_of_ne hother]
    exact Or.inl rfl
  · have hother : id ≠ id' := by
      rintro rfl
      rw [errand?_of_concern hto rfl, if_pos rfl] at h
      cases h
    rw [hdoes, get?_press_of_ne hother]
    exact Or.inl rfl
  · rw [hdoes]
    exact Or.inl rfl

/-- A session that is not there is not there after a request either, unless it is created. -/
lemma get?_handle_eq_none (hlimit : 0 < service.limit) (hgone : store.sessions.get? id = none)
    (hname : service.name store.created ≠ id) (request : Request) :
    (service.handle store request).2.sessions.get? id = none := by
  cases herrand : service.errand? store.created id request with
  | none =>
    rcases get?_handle_of_errand?_eq_none hlimit herrand with hsame | ⟨-, hnone⟩
    · rw [hsame, hgone]
    · exact hnone
  | some errand =>
    have hplain : Plain service.table (store.sessions.get? id) := by
      rw [hgone]
      intro k hk
      cases hk
    obtain ⟨-, hstate⟩ := handle_of_errand hlimit herrand hplain (fun hthere => absurd hgone hthere)
      store.source
    rw [hstate, hgone]
    rcases errand?_cases herrand with
      ⟨-, hsame, -⟩ | ⟨-, rfl⟩ | ⟨-, rfl⟩ | ⟨-, rfl⟩ | ⟨command, -, rfl⟩
    · exact absurd hsame hname
    all_goals rfl

variable {created deleted : List String}

/-- A session that is gone never comes back. -/
lemma Retains.get?_handleAll_eq_none (h : service.Retains created deleted store)
    (hlimit : 0 < service.limit) (hid : id ∈ created) (hgone : store.sessions.get? id = none)
    (hnames : service.DistinctNames (store.created + requests.length)) :
    (service.handleAll store requests).2.sessions.get? id = none := by
  induction requests generalizing store created deleted with
  | nil => exact hgone
  | cons request rest ih =>
    rw [List.length_cons] at hnames
    have hname : service.name store.created ≠ id := by
      rintro rfl
      exact h.name_not_mem (hnames.mono (by omega)) hid
    have hle := service.created_handle_le store request
    exact ih (h.handle hlimit (hnames.mono (by omega)) request) (List.mem_append_left _ hid)
      (get?_handle_eq_none hlimit hgone hname request) (hnames.mono (by omega))

/-- A run at the end of which a session is there has not disturbed it. -/
lemma Retains.undisturbed_of_open (h : service.Retains created deleted store)
    (hlimit : 0 < service.limit)
    (hnames : service.DistinctNames (store.created + requests.length))
    (hopen : (service.handleAll store requests).2.sessions.get? id ≠ none) :
    service.Undisturbed id store requests := by
  induction requests generalizing store created deleted with
  | nil => trivial
  | cons request rest ih =>
    rw [List.length_cons] at hnames
    have hle := service.created_handle_le store request
    have hfirst := h.handle hlimit (hnames.mono (by omega)) request
    have hlater : service.DistinctNames
        ((service.handle store request).2.created + rest.length) := hnames.mono (by omega)
    refine ⟨fun herrand => ?_, ih hfirst hlater hopen⟩
    rcases get?_handle_of_errand?_eq_none hlimit herrand with hsame | ⟨hthere, hgone⟩
    · exact hsame
    · have hcreated := List.mem_append_left (service.createdBy store request)
        (h.mem_created hthere)
      exact absurd (hfirst.get?_handleAll_eq_none hlimit hcreated hgone hlater) hopen

/-! ### The run of one session -/

/-- A session by itself does not know the names of other sessions. -/
lemma serve_alone (service : Service σ) (id : String) (source : σ) (state : Option Keypad)
    (errand : Errand) :
    (service.alone id).serve id source state errand = service.serve id source state errand := rfl

/-- The run of a session by itself does not depend on the names of other sessions. -/
lemma serveAll_alone (service : Service σ) (id : String) (source : σ) (state : Option Keypad)
    (errands : List Errand) :
    (service.alone id).serveAll id source state errands =
      service.serveAll id source state errands := by
  induction errands generalizing state with
  | nil => rfl
  | cons errand rest ih => simp only [serveAll, serve_alone, ih]

/-- Whether custom keys are pressed on a session does not depend on the names of other sessions. -/
lemma drawFree_alone (service : Service σ) (id : String) (source : σ) (state : Option Keypad)
    (errands : List Errand) :
    (service.alone id).DrawFree id source state errands ↔
      service.DrawFree id source state errands := by
  induction errands generalizing state with
  | nil => rfl
  | cons errand rest ih =>
    simp only [DrawFree, serve_alone, ih]
    rfl

/-- Where a request leads does not depend on the names of sessions. -/
lemma route_alone (service : Service σ) (id : String) (request : Request) :
    (service.alone id).route request = service.route request := rfl

/-- What a request asks of a session, it asks of the only session too. -/
lemma errand?_alone {count : Nat} (h : service.errand? count id request = some errand)
    (count' : Nat) : (service.alone id).errand? count' id request = some errand := by
  obtain ⟨e, hto, hconcern⟩ := exists_concern_of_errand? h
  rw [← service.route_alone id] at hto
  have hsame : (service.alone id).concern? count' (service.payload request) e =
      some (id, errand) := by
    by_cases he : e = .create
    · subst he
      cases hconcern
      rfl
    · rw [concern?_of_ne (service.alone id) service count' count he]
      exact hconcern
  exact (errand?_of_concern hto hsame).trans (if_pos rfl)

/-- If a service answers nothing but the requests that concern a session, each of them is one of its
dealings and asks for the same, and the session is not disturbed. -/
lemma undisturbed_alone (service : Service σ) (id : String) (store store' : Store σ)
    (requests : List Request) :
    let asked := (service.dealings id store requests).map Dealing.request
    (service.alone id).Undisturbed id store' asked ∧
      ((service.alone id).dealings id store' asked).map Dealing.errand =
        (service.dealings id store requests).map Dealing.errand ∧
      ((service.alone id).dealings id store' asked).map Dealing.reply =
        ((service.alone id).handleAll store' asked).1 := by
  induction requests generalizing store store' with
  | nil => exact ⟨trivial, rfl, rfl⟩
  | cons request rest ih =>
    cases herrand : service.errand? store.created id request with
    | none =>
      rw [dealings_cons_of_eq_none herrand]
      exact ih (service.handle store request).2 store'
    | some errand =>
      have halone := errand?_alone herrand store'.created
      obtain ⟨hstill, herrands, hreplies⟩ :=
        ih (service.handle store request).2 ((service.alone id).handle store' request).2
      rw [dealings_cons_of_eq_some herrand]
      simp only [List.map_cons]
      rw [dealings_cons_of_eq_some halone]
      refine ⟨⟨fun hnone => ?_, hstill⟩, ?_, ?_⟩
      · rw [halone] at hnone
        cases hnone
      · rw [List.map_cons, herrands]
      · rw [List.map_cons, hreplies]
        rfl

/-! ### Requests that change places -/

/-- Creations count once each, and nothing else counts. -/
lemma created_handle (hlimit : 0 < service.limit) (store : Store σ) (request : Request) :
    (service.handle store request).2.created =
      store.created + if service.route request = .endpoint .create then 1 else 0 := by
  split
  · rename_i hto
    rw [service.handle_of_endpoint hto]
    exact created_create hlimit
  · rename_i hto
    exact created_handle_of_ne hto

/-- The number of sessions created tells what a row of requests asks of a session. -/
lemma map_errand_dealings (hlimit : 0 < service.limit) (store : Store σ) (requests : List Request) :
    (service.dealings id store requests).map Dealing.errand =
      service.errands id store.created requests := by
  induction requests generalizing store with
  | nil => rfl
  | cons request rest ih =>
    have hrest := ih (service.handle store request).2
    rw [created_handle hlimit store request] at hrest
    simp only [errands, ← hrest]
    cases herrand : service.errand? store.created id request with
    | none => rw [dealings_cons_of_eq_none herrand]; rfl
    | some errand => rw [dealings_cons_of_eq_some herrand]; rfl

/-- Only for creations it matters how many sessions have been created. -/
lemma errand?_of_ne (hto : service.route request ≠ .endpoint .create) (count count' : Nat) :
    service.errand? count id request = service.errand? count' id request := by
  unfold errand?
  split
  · rename_i e he
    have hne : e ≠ .create := by
      rintro rfl
      exact hto he
    rw [concern?_of_ne service service count count' hne]
  · rfl

/-- Two neighbouring requests, not both of which concern a session, can change places: what they and
the requests after them ask of the session stays the same. -/
lemma errands_swap {count : Nat} {a b : Request} (back : List Request)
    (h : service.errand? count id a = none ∨
      service.errand? (count + if service.route a = .endpoint .create then 1 else 0) id b = none) :
    service.errands id count (a :: b :: back) = service.errands id count (b :: a :: back) := by
  by_cases ha : service.route a = .endpoint .create
  · by_cases hb : service.route b = .endpoint .create
    · -- Two creations create the same two sessions, one after the other.
      have hsame : ∀ count', service.errand? count' id a = service.errand? count' id b := by
        intro count'
        rw [errand?_of_concern ha rfl, errand?_of_concern hb rfl]
      simp only [errands, ha, hb, hsame]
    · rw [if_pos ha, errand?_of_ne hb (count + 1) count] at h
      simp only [errands, if_pos ha, if_neg hb, Nat.add_zero, errand?_of_ne hb (count + 1) count]
      rcases h with hnone | hnone
      · simp [hnone]
      · simp [hnone]
  · rw [if_neg ha, Nat.add_zero] at h
    have hafter : ∀ count', service.errand? count' id a = service.errand? count id a :=
      fun count' => errand?_of_ne ha count' count
    simp only [errands, if_neg ha, Nat.add_zero, hafter]
    rcases h with hnone | hnone
    · simp [hnone]
    · simp [hnone]

/-! ### The main statement -/

/-- A session that is not there has no custom symbol in its log. -/
lemma plain_none (table : Table σ) : Plain table none := by
  intro k hk
  cases hk

/-- From an empty store, a run at the end of which a session is there has not disturbed it. -/
lemma undisturbed_of_open {source : σ} {k : Keypad} (hlimit : 0 < service.limit)
    (hnames : service.DistinctNames requests.length)
    (hopen : (service.handleAll { source } requests).2.sessions.get? id = some k) :
    service.Undisturbed id { source } requests := by
  refine (retains_empty hlimit source).undisturbed_of_open hlimit (hnames.mono (by simp)) ?_
  rw [hopen]
  exact Option.some_ne_none k

/-- From an empty store, a run at the end of which a session is there agrees with the run of the
session by itself, provided that no custom key is pressed on it. -/
lemma dealings_eq_serveAll_of_open {source : σ} {k : Keypad} (hlimit : 0 < service.limit)
    (hnames : service.DistinctNames requests.length)
    (hopen : (service.handleAll { source } requests).2.sessions.get? id = some k)
    (hdraws : service.DrawFree id source none
      ((service.dealings id { source } requests).map Dealing.errand)) :
    ((service.dealings id { source } requests).map Dealing.reply, some k) =
      service.serveAll id source none
        ((service.dealings id { source } requests).map Dealing.errand) := by
  have hstill := undisturbed_of_open hlimit hnames hopen
  have hagree := service.dealings_eq_serveAll { source } hlimit source
    (plain_none service.table) hstill hdraws
  rw [hopen] at hagree
  exact hagree

/-- A service that keeps sessions answers a row of requests, and at the end a session is there on
which no custom key was pressed, that is, no request for it was answered with success. Then the
session has dealt with the service as if there were no other session: the same replies are given,
and the same keypad is left, if nothing but the requests that concern the session is answered by the
service whose sessions all have its name, whatever the source of draws.

Hence neighbouring requests that do not both concern the session can change places, as far as this
session is there at the end: its replies and its keypad stay the same. -/
theorem dealings_eq_handleAll_alone (service : Service σ) (source source' : σ)
    (requests : List Request) (id : String) (k : Keypad) (hlimit : 0 < service.limit)
    (hnames : service.DistinctNames requests.length)
    (hopen : (service.handleAll { source } requests).2.sessions.get? id = some k)
    (hcustom : ∀ dealing ∈ service.dealings id { source } requests,
      dealing.errand.pressesCustom service.table = true → dealing.reply.status ≠ 200) :
    let dealings := service.dealings id { source } requests
    let asked := dealings.map Dealing.request
    (((service.alone id).handleAll { source := source' } asked).1 = dealings.map Dealing.reply ∧
      ((service.alone id).handleAll { source := source' } asked).2.sessions.get? id = some k) ∧
    ∀ front a b back, requests = front ++ a :: b :: back →
      let store := (service.handleAll { source } front).2
      let swapped := front ++ b :: a :: back
      (service.errand? store.created id a = none ∨
        service.errand? (service.handle store a).2.created id b = none) →
      (service.handleAll { source } swapped).2.sessions.get? id ≠ none →
        (service.dealings id { source } swapped).map Dealing.reply = dealings.map Dealing.reply ∧
          (service.handleAll { source } swapped).2.sessions.get? id = some k := by
  intro dealings asked
  have hstill := undisturbed_of_open hlimit hnames hopen
  have hdraws := service.drawFree_dealings { source } hlimit source (plain_none service.table)
    hstill hcustom
  have hagree := dealings_eq_serveAll_of_open hlimit hnames hopen hdraws
  refine ⟨?_, ?_⟩
  · obtain ⟨hstill', herrands, hreplies⟩ :=
      service.undisturbed_alone id { source } { source := source' } requests
    have hagree' := (service.alone id).dealings_eq_serveAll { source := source' } hlimit source
      (plain_none service.table) hstill'
      (by rw [herrands]; exact (service.drawFree_alone id source none _).mpr hdraws)
    rw [herrands, hreplies, serveAll_alone] at hagree'
    have hboth := hagree'.trans hagree.symm
    exact ⟨congrArg Prod.fst hboth, congrArg Prod.snd hboth⟩
  · intro front a b back hrequests store swapped hapart hopen'
    have hcount : (service.handle store a).2.created =
        store.created + if service.route a = .endpoint .create then 1 else 0 :=
      created_handle hlimit store a
    rw [hcount] at hapart
    have herrands : (service.dealings id { source } swapped).map Dealing.errand =
        dealings.map Dealing.errand := by
      simp only [dealings, swapped, hrequests, dealings_append, List.map_append]
      rw [map_errand_dealings hlimit store (a :: b :: back),
        map_errand_dealings hlimit store (b :: a :: back), errands_swap back hapart]
    have hlength : swapped.length = requests.length := by
      simp [swapped, hrequests]
    obtain ⟨k', hk'⟩ := Option.ne_none_iff_exists'.mp hopen'
    have hagree' := dealings_eq_serveAll_of_open hlimit (hlength ▸ hnames) hk'
      (by rw [herrands]; exact hdraws)
    rw [herrands] at hagree'
    have hboth := hagree'.trans hagree.symm
    exact ⟨congrArg Prod.fst hboth, hk'.trans (congrArg Prod.snd hboth)⟩

/-- Two sessions are created, and the memory is recalled on one and then on the other. The first
session has dealt with the service twice, as it would have if it were the only one, and the two key
presses can change places. -/
theorem dealings_eq_handleAll_alone_of_two_sessions :
    let name (n : Nat) : String := String.ofList (List.replicate (n + 1) 's')
    let service : Service Supply :=
      { table := Table.standard Supply.between, limit := 2, name := name }
    let create : Request := { method := "POST", target := "/api/sessions" }
    let recallOn (id : String) : Request :=
      { method := "POST", target := "/api/sessions/" ++ id ++ "/memory/recall" }
    let requests := [create, create, recallOn (name 0), recallOn (name 1)]
    let dealings := service.dealings (name 0) { source := {} } requests
    let swapped := [create, create, recallOn (name 1), recallOn (name 0)]
    dealings.length = 2 ∧ ∃ k,
      (service.handleAll { source := {} } requests).2.sessions.get? (name 0) = some k ∧
        ((service.alone (name 0)).handleAll { source := {} }
          (dealings.map Dealing.request)).2.sessions.get? (name 0) = some k ∧
        (service.handleAll { source := {} } swapped).2.sessions.get? (name 0) = some k := by
  intro name service create recallOn requests
  have hlimit : 0 < service.limit := by decide
  have hnames : service.DistinctNames requests.length := by
    have hdistinct : ∀ i < 4, ∀ j < 4, name i = name j → i = j := by decide +kernel
    exact hdistinct
  have hthere : ((service.handleAll { source := {} } requests).2.sessions.get?
      (name 0)).isSome = true := by
    decide +kernel
  have hcount : (service.dealings (name 0) { source := {} } requests).length = 2 := by
    decide +kernel
  have hcustom : ∀ dealing ∈ service.dealings (name 0) { source := {} } requests,
      dealing.errand.pressesCustom service.table = true → dealing.reply.status ≠ 200 := by
    decide +kernel
  have hthere' : (service.handleAll { source := {} }
      [create, create, recallOn (name 1), recallOn (name 0)]).2.sessions.get? (name 0) ≠ none := by
    decide +kernel
  have hto : service.route (recallOn (name 1)) = .endpoint (.press (name 1) .recallMemory) := by
    decide +kernel
  have hname : name 1 ≠ name 0 := by decide +kernel
  obtain ⟨k, hk⟩ := Option.isSome_iff_exists.mp hthere
  obtain ⟨⟨-, halone⟩, hswapped⟩ := service.dealings_eq_handleAll_alone {} {} requests (name 0) k
    hlimit hnames hk hcustom
  obtain ⟨-, hsame⟩ := hswapped [create, create] (recallOn (name 0)) (recallOn (name 1)) [] rfl
    (Or.inr ((errand?_of_concern hto rfl).trans (if_neg hname))) hthere'
  exact ⟨hcount, k, hk, halone, hsame⟩

end Service

end ReplayCalculator.Web
