/-!
# Maps that keep the order of insertion

A map from keys to values whose entries stand in the order in which their keys were first inserted.
Replacing a value keeps the place of its key. A symbol table is listed and a session store is
emptied in this order, so that the order is part of the value and not of a way to store it.

* `keys_insert_of_mem`, `keys_insert_of_not_mem`: an old key keeps its place, a new one goes last.
* `keys_dropOldest`: the oldest keys are the first ones.
* `keys_erase`: erasing takes away one key and moves no other.
* `get?_insert`, `get?_erase`, `get?_dropOldest`: what is found after a change.
* `insert_of_get?_eq_some`: putting a value where it is already changes nothing.
* `get?_mapValues`: a function of keys and values changes what is found, and not where.
-/

namespace ReplayCalculator

/-- A map whose entries are listed in the order of insertion; no key is listed twice. -/
@[ext]
structure OrderedMap (κ α : Type) where
  entries : List (κ × α)
  nodup : (entries.map Prod.fst).Nodup

namespace OrderedMap

variable {κ α : Type}

/-- The map without entries. -/
def empty : OrderedMap κ α := ⟨[], List.nodup_nil⟩

/-- The keys, oldest first. -/
def keys (m : OrderedMap κ α) : List κ := m.entries.map Prod.fst

/-- The number of entries. -/
def size (m : OrderedMap κ α) : Nat := m.entries.length

theorem length_keys (m : OrderedMap κ α) : m.keys.length = m.size := by simp [keys, size]

/-- The map without its `n` oldest entries. -/
def dropOldest (m : OrderedMap κ α) (n : Nat) : OrderedMap κ α :=
  ⟨m.entries.drop n, m.nodup.sublist ((List.drop_sublist n _).map _)⟩

theorem keys_dropOldest (m : OrderedMap κ α) (n : Nat) :
    (m.dropOldest n).keys = m.keys.drop n := by
  simp [keys, dropOldest]

/-- The map with another value under each key. -/
def mapValues {β : Type} (f : κ → α → β) (m : OrderedMap κ α) : OrderedMap κ β where
  entries := m.entries.map fun e => (e.1, f e.1 e.2)
  nodup := by
    have hkeys : (m.entries.map fun e => (e.1, f e.1 e.2)).map Prod.fst =
        m.entries.map Prod.fst := by
      simp
    rw [hkeys]
    exact m.nodup

variable [DecidableEq κ]

/-- The value under a key. -/
def get? (m : OrderedMap κ α) (k : κ) : Option α :=
  (m.entries.find? (·.1 = k)).map Prod.snd

/-- The entries with a value put under a key, in its place or at the end. -/
def put (k : κ) (v : α) : List (κ × α) → List (κ × α)
  | [] => [(k, v)]
  | e :: rest => if e.1 = k then (k, v) :: rest else e :: put k v rest

theorem map_fst_put (k : κ) (v : α) (es : List (κ × α)) :
    (put k v es).map Prod.fst =
      if k ∈ es.map Prod.fst then es.map Prod.fst else es.map Prod.fst ++ [k] := by
  induction es with
  | nil => simp [put]
  | cons e rest ih =>
    by_cases h : e.1 = k
    · simp [put, h]
    · have h' : ¬ k = e.1 := fun c => h c.symm
      simp only [put, h, if_false, List.map_cons, ih, List.mem_cons, h', false_or]
      split <;> simp

theorem nodup_map_fst_put (k : κ) (v : α) {es : List (κ × α)} (h : (es.map Prod.fst).Nodup) :
    ((put k v es).map Prod.fst).Nodup := by
  rw [map_fst_put]
  split
  · exact h
  · rename_i hk
    rw [List.nodup_append]
    exact ⟨h, by simp, fun a ha b hb => by simp at hb; rintro rfl; exact hk (hb ▸ ha)⟩

/-- The map with `v` under `k`: in the place of the old value, or last if the key is new. -/
def insert (m : OrderedMap κ α) (k : κ) (v : α) : OrderedMap κ α :=
  ⟨put k v m.entries, nodup_map_fst_put k v m.nodup⟩

/-- The map without the entry under `k`. -/
def erase (m : OrderedMap κ α) (k : κ) : OrderedMap κ α :=
  ⟨m.entries.filter (·.1 ≠ k), m.nodup.sublist (List.filter_sublist.map _)⟩

@[simp] theorem get?_empty (k : κ) : (empty : OrderedMap κ α).get? k = none := rfl

theorem keys_insert_of_mem {m : OrderedMap κ α} {k : κ} (v : α) (h : k ∈ m.keys) :
    (m.insert k v).keys = m.keys := by
  exact (map_fst_put k v m.entries).trans (if_pos h)

theorem keys_insert_of_not_mem {m : OrderedMap κ α} {k : κ} (v : α) (h : k ∉ m.keys) :
    (m.insert k v).keys = m.keys ++ [k] := by
  exact (map_fst_put k v m.entries).trans (if_neg h)

theorem keys_erase (m : OrderedMap κ α) (k : κ) : (m.erase k).keys = m.keys.filter (· ≠ k) := by
  simp [keys, erase, List.filter_map, Function.comp_def]

theorem find?_put (k k' : κ) (v : α) (es : List (κ × α)) :
    (put k v es).find? (·.1 = k') = if k' = k then some (k, v) else es.find? (·.1 = k') := by
  induction es with
  | nil =>
    by_cases h : k = k'
    · simp [put, h]
    · simp [put, h, Ne.symm h]
  | cons e rest ih =>
    by_cases h : e.1 = k
    · subst h
      by_cases h' : e.1 = k'
      · simp [put, h']
      · simp [put, h', Ne.symm h']
    · by_cases h' : e.1 = k'
      · subst h'
        simp [put, h]
      · simp only [put, h, if_false, List.find?_cons, h', decide_false, ih]

theorem get?_insert (m : OrderedMap κ α) (k k' : κ) (v : α) :
    (m.insert k v).get? k' = if k' = k then some v else m.get? k' := by
  simp only [get?, insert, find?_put]
  split <;> rfl

theorem get?_erase (m : OrderedMap κ α) (k k' : κ) :
    (m.erase k).get? k' = if k' = k then none else m.get? k' := by
  by_cases h : k' = k
  · subst h
    simp [get?, erase, List.find?_eq_none]
  · simp only [get?, erase, h, if_false, List.find?_filter]
    congr 2
    funext e
    by_cases he : e.1 = k'
    · simp [he, h]
    · simp [he]

theorem get?_mapValues {β : Type} (f : κ → α → β) (m : OrderedMap κ α) (k : κ) :
    (m.mapValues f).get? k = (m.get? k).map (f k) := by
  simp only [get?, mapValues, List.find?_map, Option.map_map]
  cases h : m.entries.find? (·.1 = k) with
  | none => simp [Function.comp_def, h]
  | some e =>
    have hk : e.1 = k := by simpa using List.find?_some h
    simp [Function.comp_def, h, hk]

theorem put_of_find?_eq_some {k : κ} {v : α} {es : List (κ × α)}
    (h : es.find? (·.1 = k) = some (k, v)) : put k v es = es := by
  induction es with
  | nil => cases h
  | cons e rest ih =>
    by_cases he : e.1 = k
    · have hhead : e = (k, v) := by simpa [he] using h
      simp [put, hhead]
    · have hrest : rest.find? (·.1 = k) = some (k, v) := by simpa [he] using h
      simp [put, he, ih hrest]

theorem insert_of_get?_eq_some {m : OrderedMap κ α} {k : κ} {v : α} (h : m.get? k = some v) :
    m.insert k v = m := by
  obtain ⟨e, he, rfl⟩ := Option.map_eq_some_iff.mp h
  have hk : e.1 = k := by simpa using List.find?_some he
  subst hk
  exact OrderedMap.ext (put_of_find?_eq_some he)

theorem find?_of_mem {k : κ} {v : α} {es : List (κ × α)} (h : (es.map Prod.fst).Nodup)
    (hmem : (k, v) ∈ es) : es.find? (·.1 = k) = some (k, v) := by
  induction es with
  | nil => cases hmem
  | cons e rest ih =>
    have hcons : (e.1 :: rest.map Prod.fst).Nodup := h
    obtain ⟨hfresh, hrest⟩ := List.nodup_cons.mp hcons
    rcases List.mem_cons.mp hmem with rfl | hmem'
    · simp
    · have hne : e.1 ≠ k := by
        rintro rfl
        exact hfresh (List.mem_map.mpr ⟨(e.1, v), hmem', rfl⟩)
      simpa [hne] using ih hrest hmem'

theorem get?_eq_some_iff {m : OrderedMap κ α} {k : κ} {v : α} :
    m.get? k = some v ↔ (k, v) ∈ m.entries := by
  constructor
  · intro h
    obtain ⟨e, he, rfl⟩ := Option.map_eq_some_iff.mp h
    have hk : e.1 = k := by simpa using List.find?_some he
    subst hk
    exact List.mem_of_find?_eq_some he
  · intro hmem
    simp [get?, find?_of_mem m.nodup hmem]

theorem mem_keys_of_get?_eq_some {m : OrderedMap κ α} {k : κ} {v : α} (h : m.get? k = some v) :
    k ∈ m.keys := List.mem_map.mpr ⟨(k, v), get?_eq_some_iff.mp h, rfl⟩

theorem get?_eq_none_iff {m : OrderedMap κ α} {k : κ} : m.get? k = none ↔ k ∉ m.keys := by
  simp only [get?, Option.map_eq_none_iff, List.find?_eq_none, keys, List.mem_map]
  constructor
  · rintro h ⟨e, he, rfl⟩
    exact h e he (by simp)
  · intro h e he hk
    exact h ⟨e, he, by simpa using hk⟩

theorem get?_dropOldest (m : OrderedMap κ α) (n : Nat) (k : κ) :
    (m.dropOldest n).get? k = if k ∈ m.keys.drop n then m.get? k else none := by
  rw [← keys_dropOldest]
  split
  · rename_i hmem
    obtain ⟨e, he, rfl⟩ := List.mem_map.mp hmem
    have hall : e ∈ m.entries := List.mem_of_mem_drop he
    rw [get?_eq_some_iff.mpr he, get?_eq_some_iff.mpr hall]
  · rename_i hmem
    exact get?_eq_none_iff.mpr hmem

end OrderedMap

end ReplayCalculator
