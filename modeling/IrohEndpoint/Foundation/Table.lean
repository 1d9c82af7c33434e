import Mathlib.Data.List.AList

/-! # Finite tables

An executable finite map for modelling hash maps. The representation is
Mathlib's duplicate-free association list; everything downstream goes through
`get?`, `set`, `remove` and `mapValues` and never looks at the entry order. -/

namespace IrohEndpoint

/-- A finite map from `Key` to `Value`. -/
def Table (Key Value : Type) : Type := AList fun _ : Key => Value

namespace Table

variable {Key Value : Type} [DecidableEq Key]

def empty : Table Key Value := (∅ : AList fun _ : Key => Value)

def get? (table : Table Key Value) (key : Key) : Option Value :=
  AList.lookup key table

def set (table : Table Key Value) (key : Key) (value : Value) : Table Key Value :=
  AList.insert key value table

def remove (table : Table Key Value) (key : Key) : Table Key Value :=
  AList.erase key table

def keys (table : Table Key Value) : List Key := AList.keys table

def values (table : Table Key Value) : List Value :=
  table.entries.map Sigma.snd

def size (table : Table Key Value) : Nat := table.keys.length

def contains (table : Table Key Value) (key : Key) : Bool :=
  (table.get? key).isSome

/-- Update every value in place, as a loop over `values_mut` does. -/
def mapValues (table : Table Key Value) (transform : Value → Value) :
    Table Key Value where
  entries := table.entries.map fun entry => ⟨entry.1, transform entry.2⟩
  nodupKeys := by
    have distinct := table.nodupKeys
    rw [List.NodupKeys, List.keys] at distinct ⊢
    rw [List.map_map]
    exact distinct

@[simp] theorem get?_empty (key : Key) :
    (empty : Table Key Value).get? key = none := rfl

omit [DecidableEq Key] in
theorem eq_empty {table : Table Key Value} (keyless : table.keys = []) : table = empty := by
  apply AList.ext
  exact List.map_eq_nil_iff.mp keyless

@[simp] theorem get?_set (table : Table Key Value) (key other : Key)
    (value : Value) :
    (table.set key value).get? other =
      if other = key then some value else table.get? other := by
  by_cases equal : other = key
  · subst other
    rw [if_pos rfl]
    exact AList.lookup_insert table
  · rw [if_neg equal]
    exact AList.lookup_insert_ne equal

@[simp] theorem get?_remove (table : Table Key Value) (key other : Key) :
    (table.remove key).get? other =
      if other = key then none else table.get? other := by
  by_cases equal : other = key
  · subst other
    rw [if_pos rfl]
    exact AList.lookup_erase _ table
  · rw [if_neg equal]
    exact AList.lookup_erase_ne equal

theorem set_set (table : Table Key Value) (key : Key) (old new : Value) :
    (table.set key old).set key new = table.set key new :=
  AList.insert_insert table

@[simp] theorem mem_keys (table : Table Key Value) (key : Key) :
    key ∈ table.keys ↔ ∃ value, table.get? key = some value := by
  rw [← Option.isSome_iff_exists]
  exact AList.lookup_isSome.symm

theorem mem_values (table : Table Key Value) (value : Value) :
    value ∈ table.values ↔ ∃ key, table.get? key = some value := by
  have lookup : ∀ key, table.get? key = some value ↔
      (⟨key, value⟩ : Sigma fun _ : Key => Value) ∈ table.entries :=
    fun _ => AList.mem_lookup_iff
  simp only [values, List.mem_map, lookup]
  constructor
  · rintro ⟨⟨key, stored⟩, member, rfl⟩
    exact ⟨key, member⟩
  · rintro ⟨key, member⟩
    exact ⟨⟨key, value⟩, member, rfl⟩

@[simp] theorem get?_mapValues (table : Table Key Value)
    (transform : Value → Value) (key : Key) :
    (table.mapValues transform).get? key = (table.get? key).map transform := by
  rcases table with ⟨entries, distinct⟩
  simp only [get?, mapValues, AList.lookup]
  clear distinct
  induction entries with
  | nil => rfl
  | cons head tail induction =>
      rcases head with ⟨headKey, headValue⟩
      by_cases equal : headKey = key
      · subst headKey
        simp
      · rw [List.map_cons, List.dlookup_cons_ne _ _ (Ne.symm equal),
          List.dlookup_cons_ne _ _ (Ne.symm equal)]
        exact induction

theorem size_set_of_absent (table : Table Key Value) (key : Key) (value : Value)
    (absent : table.get? key = none) :
    (table.set key value).size = table.size + 1 := by
  have fresh : key ∉ table.keys := by simp [absent]
  have inserted : (table.set key value).keys = key :: table.keys.erase key :=
    AList.keys_insert table
  rw [size, inserted, List.erase_of_not_mem fresh]
  rfl

end Table

end IrohEndpoint
