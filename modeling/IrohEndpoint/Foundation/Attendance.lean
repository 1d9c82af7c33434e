import Mathlib.Data.List.Nodup
import Mathlib.Data.List.Perm.Basic

/-! # Attended tables

A table that hands out its keys in order, and a list of workers with one worker for each
entry. Where the list comes from several queues, only its members count: the rules are
stated up to permutation. -/

namespace IrohEndpoint

variable {Key Wire : Type}

/-- Every entry of the table has one worker, and no other key has any. The first `count`
keys of `issue` were handed out. -/
structure Attended (issue : Nat → Key) (count : Nat) (found : Key → Option Wire)
    (workers : List (Key × Wire)) : Prop where
  issued : ∀ key wire, found key = some wire → ∃ index < count, key = issue index
  unique : (workers.map Prod.fst).Nodup
  attended : ∀ key wire, (key, wire) ∈ workers ↔ found key = some wire

namespace Attended

variable {issue : Nat → Key} {count : Nat} {found next : Key → Option Wire}
variable {workers others : List (Key × Wire)}

theorem empty : Attended issue count (fun _ => (none : Option Wire)) [] := by
  refine ⟨?_, List.nodup_nil, ?_⟩ <;> simp

theorem perm (attended : Attended issue count found workers)
    (same : others.Perm workers) : Attended issue count found others := by
  refine ⟨attended.issued, (same.map Prod.fst).nodup_iff.mpr attended.unique, ?_⟩
  intro key wire
  rw [same.mem_iff]
  exact attended.attended key wire

theorem found_of_mem (attended : Attended issue count found workers) {item : Key × Wire}
    (member : item ∈ workers) : found item.1 = some item.2 :=
  (attended.attended item.1 item.2).mp member

variable [DecidableEq Key]

theorem filter_eq (attended : Attended issue count found workers) {key : Key} {wire : Wire}
    (entry : found key = some wire) :
    workers.filter (fun item => item.1 = key) = [(key, wire)] := by
  have member := (attended.attended key wire).mpr entry
  have unique := attended.unique
  clear attended
  induction workers with
  | nil => cases member
  | cons first rest induction =>
      rw [List.map_cons, List.nodup_cons] at unique
      rcases List.mem_cons.mp member with rfl | later
      · rw [List.filter_cons_of_pos (by simp), List.filter_eq_nil_iff.mpr]
        intro item other same
        rw [decide_eq_true_eq] at same
        exact unique.1 (List.mem_map.mpr ⟨item, other, same⟩)
      · have apart : first.1 ≠ key := by
          rintro rfl
          exact unique.1 (List.mem_map.mpr ⟨_, later, rfl⟩)
        rw [List.filter_cons_of_neg (by simpa using apart)]
        exact induction later unique.2

/-- The next key is handed out and its entry gets a worker. -/
theorem register (attended : Attended issue count found workers) (wire : Wire)
    (fresh : ∀ index < count, issue count ≠ issue index)
    (grown : ∀ key, next key = if key = issue count then some wire else found key) :
    Attended issue (count + 1) next (workers ++ [(issue count, wire)]) := by
  have absent : found (issue count) = none := by
    cases entry : found (issue count) with
    | none => rfl
    | some other =>
        rcases attended.issued _ _ entry with ⟨index, low, same⟩
        exact absurd same (fresh index low)
  refine ⟨?_, ?_, ?_⟩
  · intro key other entry
    rw [grown] at entry
    split at entry
    · rename_i same
      exact ⟨count, Nat.lt_succ_self _, same⟩
    · rcases attended.issued key other entry with ⟨index, low, same⟩
      exact ⟨index, Nat.lt_succ_of_lt low, same⟩
  · rw [List.map_append, List.map_singleton]
    refine List.Nodup.append attended.unique (List.nodup_singleton _) ?_
    rw [List.disjoint_singleton]
    intro member
    rcases List.mem_map.mp member with ⟨item, working, same⟩
    have entry := attended.found_of_mem working
    dsimp only at same
    rw [same, absent] at entry
    cases entry
  · intro key other
    rw [grown, List.mem_append, List.mem_singleton, attended.attended, Prod.mk.injEq]
    split
    · rename_i same
      rw [same, absent, Option.some.injEq]
      simp [eq_comm]
    · rename_i apart
      simp [apart]

theorem retire {key : Key} {wire : Wire}
    (attended : Attended issue count found ((key, wire) :: workers))
    (removed : ∀ other, next other = if other = key then none else found other) :
    Attended issue count next workers := by
  have unique := attended.unique
  rw [List.map_cons, List.nodup_cons] at unique
  refine ⟨?_, unique.2, ?_⟩
  · intro other stored entry
    rw [removed] at entry
    split at entry
    · cases entry
    · exact attended.issued other stored entry
  · intro other stored
    rw [removed]
    split
    · rename_i same
      refine iff_of_false ?_ (by simp)
      intro member
      exact unique.1 (List.mem_map.mpr ⟨_, member, same⟩)
    · rename_i apart
      rw [← attended.attended, List.mem_cons, Prod.mk.injEq]
      simp [apart]

end Attended

end IrohEndpoint
