import Mathlib.Data.List.Basic

/-! # Filters that learn whom to listen to

A pinned receiver takes the items of one sender and ignores all others. Where the sender
is not known from the start, it is whoever sends first. -/

namespace IrohEndpoint

namespace Pinning

variable {Id Item : Type}

/-- The sender a receiver listens to after it has been sent `items`. -/
def settled (pin : Option Id) (items : List (Id × Item)) : Option Id :=
  pin.or (items.head?.map Prod.fst)

variable {pin : Option Id} {items : List (Id × Item)}

theorem settled_nil (pin : Option Id) : settled pin ([] : List (Id × Item)) = pin := by
  cases pin <;> rfl

theorem settled_stays {id : Id} (known : settled pin items = some id)
    (more : List (Id × Item)) : settled pin (items ++ more) = some id := by
  cases pin with
  | some expected => simpa [settled] using known
  | none =>
      cases items with
      | nil => simp [settled] at known
      | cons first rest => simpa [settled] using known

theorem or_settled {id : Id} (known : settled pin items = some id) :
    pin.or (some id) = some id := by
  cases pin with
  | some expected => simpa [settled] using known
  | none => rfl

theorem settled_settled (pin : Option Id) (items more : List (Id × Item)) :
    settled (settled pin items) more = settled pin (items ++ more) := by
  cases pin with
  | some expected => rfl
  | none =>
      cases items with
      | nil => rfl
      | cons first rest => rfl

variable [DecidableEq Id]

/-- Whether an item of `source` is taken, and whom the receiver listens to after it. -/
def accept (pin : Option Id) (source : Id) : Option Id × Bool :=
  match pin with
  | none => (some source, true)
  | some expected => (some expected, decide (expected = source))

def taken (pin : Option Id) (items : List (Id × Item)) : List Item :=
  (items.filter fun item => settled pin items = some item.1).map Prod.snd

theorem settled_append (items : List (Id × Item)) (source : Id) (item : Item) :
    settled pin (items ++ [(source, item)]) = (accept (settled pin items) source).1 := by
  cases pin with
  | some expected => simp [settled, accept]
  | none =>
      cases items with
      | nil => simp [settled, accept]
      | cons first rest => simp [settled, accept]

theorem taken_append (items : List (Id × Item)) (source : Id) (item : Item) :
    taken pin (items ++ [(source, item)]) = taken pin items ++
      if (accept (settled pin items) source).2 then [item] else [] := by
  cases known : settled pin items with
  | some expected =>
      have still := settled_stays known [(source, item)]
      simp only [taken, still, known, accept, List.filter_append, List.map_append]
      by_cases same : expected = source
      · simp [same]
      · simp [same]
  | none =>
      have fresh : pin = none ∧ items = [] := by
        rw [settled, Option.or_eq_none_iff] at known
        simpa using known
      rcases fresh with ⟨rfl, rfl⟩
      simp [taken, settled, accept]

theorem taken_settled (pin : Option Id) (items more : List (Id × Item)) :
    taken pin (items ++ more) = taken pin items ++ taken (settled pin items) more := by
  cases known : settled pin items with
  | some expected =>
      have still := settled_stays known more
      have fixed : settled (some expected) more = some expected := rfl
      simp only [taken, known, still, fixed, List.filter_append, List.map_append]
  | none =>
      have fresh : pin = none ∧ items = [] := by
        rw [settled, Option.or_eq_none_iff] at known
        simpa using known
      rcases fresh with ⟨rfl, rfl⟩
      simp [taken]

end Pinning

end IrohEndpoint
