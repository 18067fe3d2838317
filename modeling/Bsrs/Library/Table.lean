import Mathlib.Data.List.AList

namespace Bsrs.Library

/-- A finite map with one value type, the shape of a hash map keyed by `κ`. -/
abbrev Table (κ ν : Type) := AList fun _ : κ => ν

namespace Table

instance [DecidableEq κ] [DecidableEq ν] : DecidableEq (Table κ ν) :=
  fun left right => decidable_of_iff (left.entries = right.entries) AList.ext_iff.symm

variable {κ ν : Type}

/-- Apply `update` to every entry, keeping keys and order. -/
def mapValues (table : Table κ ν) (update : κ → ν → ω) : Table κ ω where
  entries := table.entries.map fun entry => ⟨entry.1, update entry.1 entry.2⟩
  nodupKeys := by
    have same : (table.entries.map fun entry =>
        (⟨entry.1, update entry.1 entry.2⟩ : Sigma fun _ : κ => ω)).keys = table.entries.keys := by
      simp [List.keys, Function.comp_def]
    unfold List.NodupKeys
    rw [same]
    exact table.nodupKeys

@[simp]
theorem keys_mapValues (table : Table κ ν) (update : κ → ν → ω) :
    (table.mapValues update).keys = table.keys := by
  simp [mapValues, AList.keys, List.keys, Function.comp_def]

/-- The values in entry order. -/
def values (table : Table κ ν) : List ν :=
  table.entries.map fun entry => entry.2

/-- The entries as pairs, in entry order. -/
def pairs (table : Table κ ν) : List (κ × ν) :=
  table.entries.map fun entry => (entry.1, entry.2)

theorem nodup_pairs (table : Table κ ν) : (table.pairs.map Prod.fst).Nodup := by
  have same : table.pairs.map Prod.fst = table.entries.keys := by
    simp [pairs, List.keys, Function.comp_def]
  rw [same]
  exact table.nodupKeys

variable [DecidableEq κ]

@[simp]
theorem lookup_mapValues (table : Table κ ν) (update : κ → ν → ω) (key : κ) :
    (table.mapValues update).lookup key = (table.lookup key).map (update key) := by
  simp only [AList.lookup, mapValues]
  induction table.entries with
  | nil => rfl
  | cons entry rest ih =>
      rcases entry with ⟨held, value⟩
      by_cases same : key = held
      · subst same
        simp
      · simp [List.dlookup_cons_ne, same, ih]

/-- Apply `update` to the value under `key` alone, when there is one. -/
def modify (table : Table κ ν) (key : κ) (update : ν → ν) : Table κ ν :=
  table.mapValues fun other value => if other = key then update value else value

@[simp]
theorem lookup_modify_self (table : Table κ ν) (key : κ) (update : ν → ν) :
    (table.modify key update).lookup key = (table.lookup key).map update := by
  simp [modify]

theorem lookup_modify_ne (table : Table κ ν) (update : ν → ν) (different : other ≠ key) :
    (table.modify key update).lookup other = table.lookup other := by
  simp [modify, different]

theorem lookup_modify (table : Table κ ν) (key other : κ) (update : ν → ν) :
    (table.modify key update).lookup other =
      if other = key then (table.lookup key).map update else table.lookup other := by
  by_cases same : other = key
  · subst same
    simp
  · simp [lookup_modify_ne, same]

@[simp]
theorem lookup_singleton (key other : κ) (value : ν) :
    (AList.singleton key value : Table κ ν).lookup other =
      if other = key then some value else none := by
  rw [← AList.insert_empty]
  by_cases same : other = key
  · subst same
    rw [AList.lookup_insert, if_pos rfl]
  · rw [AList.lookup_insert_ne same]
    simp [same]

theorem mem_pairs {table : Table κ ν} : (key, value) ∈ table.pairs ↔ table.lookup key = some value := by
  simp only [pairs, List.mem_map]
  constructor
  · rintro ⟨⟨found, held⟩, member, same⟩
    obtain ⟨rfl, rfl⟩ := Prod.mk.inj same
    exact AList.mem_lookup_iff.mpr member
  · intro found
    exact ⟨⟨key, value⟩, AList.mem_lookup_iff.mp found, rfl⟩

theorem mem_values {table : Table κ ν} :
    value ∈ table.values ↔ ∃ key, table.lookup key = some value := by
  simp only [values, List.mem_map]
  constructor
  · rintro ⟨⟨key, held⟩, member, rfl⟩
    exact ⟨key, AList.mem_lookup_iff.mpr member⟩
  · rintro ⟨key, found⟩
    exact ⟨⟨key, value⟩, AList.mem_lookup_iff.mp found, rfl⟩

private theorem kunion_covered (held : List (Sigma fun _ : κ => ν)) :
    ∀ extra : List (Sigma fun _ : κ => ν), extra.NodupKeys →
      (∀ key ∈ extra.keys, key ∈ held.keys) → held.kunion extra = held := by
  induction held with
  | nil =>
      intro extra _ covered
      cases extra with
      | nil => rfl
      | cons entry rest => exact absurd (covered entry.1 (by simp)) (by simp)
  | cons entry rest ih =>
      intro extra nodup covered
      rw [List.kunion_cons, ih _ (nodup.kerase entry.1)]
      intro key member
      have among := covered key (List.mem_keys_of_mem_keys_kerase member)
      rw [List.keys_cons, List.mem_cons] at among
      rcases among with rfl | below
      · exact absurd member (List.notMem_keys_kerase _ nodup)
      · exact below

/-- Filling in from a table adds nothing exactly when every key is there already. -/
theorem union_eq_self {table extra : Table κ ν} :
    table ∪ extra = table ↔ ∀ key ∈ extra, key ∈ table := by
  constructor
  · intro same key member
    rw [← same]
    exact AList.mem_union.mpr (.inr member)
  · intro covered
    exact AList.ext (kunion_covered _ _ extra.nodupKeys covered)

/-- Put the pairs in one after another, each in the place of the one of its key. -/
def insertAll (table : Table κ ν) (pairs : List (κ × ν)) : Table κ ν :=
  pairs.foldl (fun table pair => table.insert pair.1 pair.2) table

theorem mem_insertAll {pairs : List (κ × ν)} :
    ∀ {table : Table κ ν}, key ∈ table.insertAll pairs ↔ key ∈ table ∨ key ∈ pairs.map Prod.fst := by
  induction pairs with
  | nil => simp [insertAll]
  | cons pair rest ih =>
      intro table
      rw [insertAll, List.foldl_cons, ← insertAll, ih, AList.mem_insert, List.map_cons, List.mem_cons]
      tauto

theorem lookup_insertAll_of_notMem {pairs : List (κ × ν)} :
    ∀ {table : Table κ ν}, key ∉ pairs.map Prod.fst →
      (table.insertAll pairs).lookup key = table.lookup key := by
  induction pairs with
  | nil => exact fun _ => rfl
  | cons pair rest ih =>
      intro table apart
      rw [List.map_cons, List.mem_cons, not_or] at apart
      rw [insertAll, List.foldl_cons, ← insertAll, ih apart.2, AList.lookup_insert_ne apart.1]

/-- Pairs with keys of their own are all found. -/
theorem lookup_insertAll {pairs : List (κ × ν)} :
    ∀ {table : Table κ ν}, (pairs.map Prod.fst).Nodup → (key, value) ∈ pairs →
      (table.insertAll pairs).lookup key = some value := by
  induction pairs with
  | nil =>
      intro table _ member
      cases member
  | cons pair rest ih =>
      intro table distinct member
      obtain ⟨apart, others⟩ := List.nodup_cons.mp distinct
      rw [insertAll, List.foldl_cons, ← insertAll]
      rcases List.mem_cons.mp member with rfl | among
      · rw [lookup_insertAll_of_notMem apart, AList.lookup_insert]
      · exact ih others among

theorem insertAll_append (table : Table κ ν) (first second : List (κ × ν)) :
    table.insertAll (first ++ second) = (table.insertAll first).insertAll second :=
  List.foldl_append ..

/-- Tables that hold the same under a key still do with the same pairs put in. -/
theorem lookup_insertAll_congr {pairs : List (κ × ν)} :
    ∀ {table other : Table κ ν}, table.lookup key = other.lookup key →
      (table.insertAll pairs).lookup key = (other.insertAll pairs).lookup key := by
  induction pairs with
  | nil => exact fun same => same
  | cons pair rest ih =>
      intro table other same
      simp only [insertAll, List.foldl_cons]
      refine ih ?_
      by_cases hit : key = pair.1
      · subst hit
        rw [AList.lookup_insert, AList.lookup_insert]
      · rw [AList.lookup_insert_ne hit, AList.lookup_insert_ne hit, same]

end Table

end Bsrs.Library
