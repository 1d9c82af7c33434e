import IrohEndpoint.Foundation.Table

/-! # Registries

A table whose keys are each issued once: what was registered under a key is there
until it is retired, and never comes back. -/

namespace IrohEndpoint

variable {Key Value : Type} [DecidableEq Key]

/-- `table` holds what was `issued` and is not `retired`. -/
structure Registry (table : Table Key Value) (issued retired : List (Key × Value)) :
    Prop where
  unique : ∀ key value other, (key, value) ∈ issued → (key, other) ∈ issued → value = other
  stored : ∀ key value, table.get? key = some value → (key, value) ∈ issued
  kept : ∀ key value, (key, value) ∈ issued →
    table.get? key = some value ∨ (key, value) ∈ retired
  gone : ∀ key value, (key, value) ∈ retired →
    (key, value) ∈ issued ∧ table.get? key = none

namespace Registry

variable {table next : Table Key Value} {issued retired : List (Key × Value)}

theorem empty : Registry (.empty : Table Key Value) [] [] := by
  refine ⟨?_, ?_, ?_, ?_⟩ <;> simp

/-- A key that was not issued before is registered. -/
theorem register (registry : Registry table issued retired) {key : Key} (value : Value)
    (fresh : ∀ other, (key, other) ∉ issued) :
    Registry (table.set key value) (issued ++ [(key, value)]) retired := by
  have either : ∀ {other : Key} {stored : Value},
      (other, stored) ∈ issued ++ [(key, value)] →
      (other ≠ key ∧ (other, stored) ∈ issued) ∨ other = key ∧ stored = value := by
    intro other stored member
    rcases List.mem_append.mp member with old | new
    · refine .inl ⟨?_, old⟩
      rintro rfl
      exact fresh stored old
    · exact .inr (by simpa using new)
  refine ⟨?_, ?_, ?_, ?_⟩
  · intro other first second left right
    rcases either left with ⟨apart, old⟩ | ⟨rfl, rfl⟩
    · rcases either right with ⟨_, older⟩ | ⟨same, _⟩
      · exact registry.unique other first second old older
      · exact absurd same apart
    · rcases either right with ⟨apart, _⟩ | ⟨_, rfl⟩
      · exact absurd rfl apart
      · rfl
  · intro other stored found
    rw [Table.get?_set] at found
    split at found
    · rename_i same
      cases found
      simp [same]
    · exact List.mem_append_left _ (registry.stored other stored found)
  · intro other stored member
    rw [Table.get?_set]
    rcases either member with ⟨apart, old⟩ | ⟨rfl, rfl⟩
    · rw [if_neg apart]
      exact registry.kept other stored old
    · exact .inl (if_pos rfl)
  · intro other stored dead
    rcases registry.gone other stored dead with ⟨member, absent⟩
    refine ⟨List.mem_append_left _ member, ?_⟩
    rw [Table.get?_set, if_neg]
    · exact absent
    · rintro rfl
      exact fresh stored member

/-- What was registered under a key is retired. -/
theorem retire (registry : Registry table issued retired) {key : Key} {value : Value}
    (member : (key, value) ∈ issued)
    (removed : ∀ other, next.get? other = if other = key then none else table.get? other) :
    Registry next issued (retired ++ [(key, value)]) := by
  refine ⟨registry.unique, ?_, ?_, ?_⟩
  · intro other stored found
    rw [removed] at found
    split at found
    · cases found
    · exact registry.stored other stored found
  · intro other stored issue
    rw [removed]
    split
    · rename_i same
      subst same
      right
      rw [registry.unique other stored value issue member]
      simp
    · exact (registry.kept other stored issue).imp_right (List.mem_append_left _)
  · intro other stored dead
    rw [removed]
    rcases List.mem_append.mp dead with old | new
    · rcases registry.gone other stored old with ⟨issue, absent⟩
      refine ⟨issue, ?_⟩
      split
      · rfl
      · exact absent
    · rw [List.mem_singleton] at new
      cases new
      exact ⟨member, if_pos rfl⟩

end Registry

end IrohEndpoint
