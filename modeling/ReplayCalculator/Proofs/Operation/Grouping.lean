import Mathlib.Data.List.Induction
import Mathlib.Data.List.Nodup
import ReplayCalculator.Operation.Table

/-!
# Tables grouped by kind

Grouping a table by the kinds of its operations is a partition that keeps the order (`IsGrouping`).
The groups are collected entry by entry, and after any number of entries there is one group for each
kind that was met, in the order in which the kinds were met, and it holds the symbols of this kind
in the order of the entries (`groupsOf`). One more entry changes the groups accordingly
(`addToGroup_groupsOf`), so that this holds for the whole table (`symbolsByKind_eq`).
-/

namespace ReplayCalculator

/-- Different kinds are listed under different names. -/
lemma Kind.name_injective : Function.Injective Kind.name := by
  intro k k' h
  cases k <;> cases k' <;> simp_all [name]

namespace Table

variable {σ : Type}

/-! ### What grouping means -/

/-- The kinds of the operations, entry by entry. -/
def kinds (entries : List (String × Operation σ)) : List Kind := entries.map (·.2.kind)

/-- The symbols of one kind, in the order of the entries. -/
def symbolsOf (kind : Kind) (entries : List (String × Operation σ)) : List String :=
  (entries.filter (·.2.kind = kind)).map Prod.fst

/-- Whether the groups are the symbols of a table, parted by kind and otherwise in their order. -/
structure IsGrouping (table : Table σ) (groups : List (Kind × List String)) : Prop where
  /-- No two groups are listed under the same name. -/
  nodup : (groups.map (·.1.name)).Nodup
  /-- The groups stand in the order in which their kinds appear first in the table. -/
  ordered : (groups.map Prod.fst).Pairwise fun a b =>
    (kinds table.entries).idxOf a < (kinds table.entries).idxOf b
  /-- No group is empty. -/
  ne_nil : ∀ group ∈ groups, group.2 ≠ []
  /-- A group holds the symbols of its kind in the order of the table. -/
  symbols_eq : ∀ group ∈ groups, group.2 = symbolsOf group.1 table.entries
  /-- A symbol of the table is found in the group of its kind. -/
  exists_group : ∀ symbol operation, table.get? symbol = some operation →
    ∃ group ∈ groups, group.1 = operation.kind ∧ symbol ∈ group.2
  /-- In all groups together, a symbol of the table occurs once, and no other symbol occurs. -/
  count_eq : ∀ symbol, (groups.flatMap Prod.snd).count symbol = if symbol ∈ table.keys then 1 else 0

/-! ### Groups of the entries so far -/

/-- Each of the kinds of the entries, where it appears first, with the symbols of this kind. -/
def groupsOf (entries : List (String × Operation σ)) : List (Kind × List String) :=
  (kinds entries).eraseDups.map fun kind => (kind, symbolsOf kind entries)

/-- A kind that was met before is not met first. -/
lemma eraseDups_concat (ks : List Kind) (k : Kind) :
    (ks ++ [k]).eraseDups = if k ∈ ks then ks.eraseDups else ks.eraseDups ++ [k] := by
  rw [List.eraseDups_append]
  by_cases hk : k ∈ ks
  · have hnothing : [k].removeAll ks = [] := by simp [List.removeAll, hk]
    rw [if_pos hk, hnothing]
    exact List.append_nil _
  · have hlast : [k].removeAll ks = [k] := by simp [List.removeAll, hk]
    rw [if_neg hk, hlast]
    rfl

/-- What is met first stands first. -/
lemma pairwise_idxOf_eraseDups (ks : List Kind) :
    ks.eraseDups.Pairwise fun a b => ks.idxOf a < ks.idxOf b := by
  induction ks using List.reverseRecOn with
  | nil => exact List.Pairwise.nil
  | append_singleton ks k ih =>
    have hfront : ks.eraseDups.Pairwise fun a b => (ks ++ [k]).idxOf a < (ks ++ [k]).idxOf b := by
      refine ih.imp_of_mem fun ha hb hlt => ?_
      rwa [List.idxOf_append_of_mem (List.mem_eraseDups.mp ha),
        List.idxOf_append_of_mem (List.mem_eraseDups.mp hb)]
    rw [eraseDups_concat]
    split_ifs with hk
    · exact hfront
    · rw [List.pairwise_append]
      refine ⟨hfront, List.pairwise_singleton _ _, fun a ha b hb => ?_⟩
      have hmem := List.mem_eraseDups.mp ha
      rw [List.mem_singleton.mp hb, List.idxOf_append_of_mem hmem, List.idxOf_append_of_notMem hk]
      exact Nat.lt_of_lt_of_le (List.idxOf_lt_length_of_mem hmem) (Nat.le_add_right _ _)

/-- No kind stands twice among those that were met. -/
lemma nodup_eraseDups (ks : List Kind) : ks.eraseDups.Nodup :=
  (pairwise_idxOf_eraseDups ks).imp fun hlt heq => by
    rw [heq] at hlt
    exact Nat.lt_irrefl _ hlt

/-- To add a symbol to a kind that has no group changes nothing. -/
lemma map_ite_of_not_mem (symbol : String) (f : Kind → List String) {kind : Kind} {ks : List Kind}
    (h : kind ∉ ks) :
    (ks.map fun k => (k, if k = kind then f k ++ [symbol] else f k)) =
      ks.map fun k => (k, f k) := by
  refine List.map_congr_left fun k hk => ?_
  rw [if_neg (ne_of_mem_of_not_mem hk h)]

/-- A symbol is added to the group of its kind, and if there is none, then it makes a group of its
own. -/
lemma addToGroup_map (kind : Kind) (symbol : String) (f : Kind → List String) {ks : List Kind}
    (hks : ks.Nodup) :
    addToGroup kind symbol (ks.map fun k => (k, f k)) =
      if kind ∈ ks then ks.map fun k => (k, if k = kind then f k ++ [symbol] else f k)
      else (ks.map fun k => (k, f k)) ++ [(kind, [symbol])] := by
  induction ks with
  | nil => rfl
  | cons k ks ih =>
    obtain ⟨hfresh, hrest⟩ := List.nodup_cons.mp hks
    by_cases hk : k = kind
    · subst hk
      rw [if_pos List.mem_cons_self, List.map_cons, List.map_cons, if_pos rfl,
        map_ite_of_not_mem symbol f hfresh, addToGroup, if_pos rfl]
    · have hmem : kind ∈ k :: ks ↔ kind ∈ ks := by
        rw [List.mem_cons, or_iff_right (Ne.symm hk)]
      rw [List.map_cons, addToGroup, if_neg hk, ih hrest]
      simp only [hmem, List.map_cons, if_neg hk]
      split <;> rfl

/-- The symbols of a kind, with one more entry. -/
lemma symbolsOf_append (kind : Kind) (entries : List (String × Operation σ))
    (entry : String × Operation σ) :
    symbolsOf kind (entries ++ [entry]) =
      if kind = entry.2.kind then symbolsOf kind entries ++ [entry.1]
      else symbolsOf kind entries := by
  rw [symbolsOf, List.filter_append, List.map_append]
  by_cases h : kind = entry.2.kind
  · rw [if_pos h, List.filter_cons_of_pos (by simpa using h.symm)]
    rfl
  · rw [if_neg h, List.filter_cons_of_neg (by simpa using Ne.symm h)]
    exact List.append_nil _

/-- A kind has symbols if it is one of the kinds of the entries. -/
lemma symbolsOf_eq_nil_iff {kind : Kind} {entries : List (String × Operation σ)} :
    symbolsOf kind entries = [] ↔ kind ∉ kinds entries := by
  simp [symbolsOf, kinds]

/-- One more entry adds its symbol to the groups. -/
lemma addToGroup_groupsOf (entries : List (String × Operation σ)) (entry : String × Operation σ) :
    addToGroup entry.2.kind entry.1 (groupsOf entries) = groupsOf (entries ++ [entry]) := by
  have hkinds : kinds (entries ++ [entry]) = kinds entries ++ [entry.2.kind] := List.map_append
  rw [groupsOf, addToGroup_map _ _ _ (nodup_eraseDups _), groupsOf, hkinds, eraseDups_concat]
  simp only [List.mem_eraseDups, symbolsOf_append]
  split_ifs with h
  · rfl
  · have hnone : entry.2.kind ∉ (kinds entries).eraseDups := mt List.mem_eraseDups.mp h
    rw [List.map_append, map_ite_of_not_mem entry.1 (fun kind => symbolsOf kind entries) hnone,
      List.map_singleton, if_pos rfl, symbolsOf_eq_nil_iff.mpr h, List.nil_append]

/-- The groups of a table are those of all its entries. -/
lemma symbolsByKind_eq (table : Table σ) : table.symbolsByKind = groupsOf table.entries := by
  rw [symbolsByKind]
  induction table.entries using List.reverseRecOn with
  | nil => rfl
  | append_singleton entries entry ih =>
    rw [List.foldl_append, ih]
    exact addToGroup_groupsOf entries entry

/-! ### The groups as a partition -/

section Partition

variable (table : Table σ)

/-- A symbol of a kind is a symbol of the table whose operation has this kind. -/
lemma mem_symbolsOf_iff {kind : Kind} {symbol : String} :
    symbol ∈ symbolsOf kind table.entries ↔
      ∃ operation, table.get? symbol = some operation ∧ operation.kind = kind := by
  simp [symbolsOf, OrderedMap.get?_eq_some_iff]

/-- Of each kind, no symbol stands twice. -/
lemma nodup_symbolsOf (kind : Kind) : (symbolsOf kind table.entries).Nodup :=
  table.nodup.sublist (List.filter_sublist.map _)

/-- No symbol has two kinds. -/
lemma disjoint_symbolsOf {kind kind' : Kind} (hne : kind ≠ kind') :
    (symbolsOf kind table.entries).Disjoint (symbolsOf kind' table.entries) := by
  intro symbol hmem hmem'
  obtain ⟨operation, hfound, rfl⟩ := (mem_symbolsOf_iff table).mp hmem
  obtain ⟨operation', hfound', rfl⟩ := (mem_symbolsOf_iff table).mp hmem'
  rw [hfound] at hfound'
  exact hne (congrArg Operation.kind (Option.some_inj.mp hfound'))

/-- The symbols of all groups. -/
lemma flatMap_groupsOf :
    (groupsOf table.entries).flatMap Prod.snd =
      (kinds table.entries).eraseDups.flatMap fun kind => symbolsOf kind table.entries := by
  rw [groupsOf, List.flatMap_map]

/-- The kind of a symbol of the table is one of the kinds that are met. -/
lemma kind_mem_kinds {symbol : String} {operation : Operation σ}
    (h : table.get? symbol = some operation) : operation.kind ∈ kinds table.entries :=
  List.mem_map_of_mem (OrderedMap.get?_eq_some_iff.mp h)

/-- In all groups together, there are the symbols of the table, each of them once. -/
lemma count_flatMap_groupsOf (symbol : String) :
    ((groupsOf table.entries).flatMap Prod.snd).count symbol =
      if symbol ∈ table.keys then 1 else 0 := by
  have hnodup : ((groupsOf table.entries).flatMap Prod.snd).Nodup := by
    rw [flatMap_groupsOf, List.nodup_flatMap]
    exact ⟨fun kind _ => nodup_symbolsOf table kind,
      (nodup_eraseDups _).imp fun hne => disjoint_symbolsOf table hne⟩
  have hmem : symbol ∈ (groupsOf table.entries).flatMap Prod.snd ↔ symbol ∈ table.keys := by
    rw [flatMap_groupsOf, List.mem_flatMap]
    constructor
    · rintro ⟨kind, -, hsymbol⟩
      obtain ⟨operation, hfound, -⟩ := (mem_symbolsOf_iff table).mp hsymbol
      exact OrderedMap.mem_keys_of_get?_eq_some hfound
    · intro hkey
      obtain ⟨operation, hfound⟩ :=
        Option.ne_none_iff_exists'.mp (mt OrderedMap.get?_eq_none_iff.mp (not_not_intro hkey))
      exact ⟨operation.kind, List.mem_eraseDups.mpr (kind_mem_kinds table hfound),
        (mem_symbolsOf_iff table).mpr ⟨operation, hfound, rfl⟩⟩
  rw [hnodup.count]
  simp only [hmem]

/-- Grouping a table by kind parts its symbols, and keeps the order of the kinds and that of the
symbols. -/
theorem isGrouping_symbolsByKind : IsGrouping table table.symbolsByKind := by
  have hkinds : (groupsOf table.entries).map Prod.fst = (kinds table.entries).eraseDups := by
    rw [groupsOf, List.map_map]
    exact List.map_id _
  rw [symbolsByKind_eq]
  constructor
  · have hnames : (groupsOf table.entries).map (·.1.name) =
        ((groupsOf table.entries).map Prod.fst).map Kind.name := by
      rw [List.map_map]
      rfl
    rw [hnames, hkinds]
    exact (nodup_eraseDups _).map Kind.name_injective
  · rw [hkinds]
    exact pairwise_idxOf_eraseDups _
  · intro group hgroup
    obtain ⟨kind, hkind, rfl⟩ := List.mem_map.mp hgroup
    exact mt symbolsOf_eq_nil_iff.mp (not_not_intro (List.mem_eraseDups.mp hkind))
  · intro group hgroup
    obtain ⟨kind, -, rfl⟩ := List.mem_map.mp hgroup
    rfl
  · intro symbol operation hfound
    have hkind : operation.kind ∈ (kinds table.entries).eraseDups :=
      List.mem_eraseDups.mpr (kind_mem_kinds table hfound)
    exact ⟨_, List.mem_map_of_mem hkind, rfl,
      (mem_symbolsOf_iff table).mpr ⟨operation, hfound, rfl⟩⟩
  · exact count_flatMap_groupsOf table

end Partition

example :
    let table : Table Unit := ⟨[("=", .equals), ("one", .constant 1), ("↵", .equals)], by decide⟩
    symbolsByKind table = [(.equals, ["=", "↵"]), (.constant, ["one"])] := rfl

end Table

end ReplayCalculator
