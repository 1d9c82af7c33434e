import IrohEndpoint.Foundation.Execution

/-! # Systems side by side

Two systems that run beside each other, their steps interleaved in any order. Neither sees
the other; what passes between them is a matter of the actions they are given. -/

namespace IrohEndpoint

namespace System

variable {Left Right LeftAction RightAction Abort : Type}

def beside (left : System Left LeftAction Abort) (right : System Right RightAction Abort) :
    System (Left × Right) (LeftAction ⊕ RightAction) Abort where
  Initial pair := left.Initial pair.1 ∧ right.Initial pair.2
  step pair
    | .inl action => (left.step pair.1 action).map fun next => (next, pair.2)
    | .inr action => (right.step pair.2 action).map fun next => (pair.1, next)

variable {left : System Left LeftAction Abort} {right : System Right RightAction Abort}

/-- Each of two systems runs as if it were alone. -/
theorem Reachable.of_beside {pair : Left × Right} (reached : (left.beside right).Reachable pair) :
    left.Reachable pair.1 ∧ right.Reachable pair.2 := by
  apply reached.invariant (fun pair => left.Reachable pair.1 ∧ right.Reachable pair.2)
  · rintro pair ⟨here, there⟩
    exact ⟨⟨pair.1, here, .refl⟩, ⟨pair.2, there, .refl⟩⟩
  · rintro pair action next ⟨here, there⟩ _ stepped
    cases action with
    | inl action =>
        simp only [beside] at stepped
        cases ran : left.step pair.1 action with
        | error reason =>
            rw [ran] at stepped
            cases stepped
        | ok after =>
            rw [ran] at stepped
            cases stepped
            exact ⟨Reaches.step here trivial ran, there⟩
    | inr action =>
        simp only [beside] at stepped
        cases ran : right.step pair.2 action with
        | error reason =>
            rw [ran] at stepped
            cases stepped
        | ok after =>
            rw [ran] at stepped
            cases stepped
            exact ⟨here, Reaches.step there trivial ran⟩

end System

end IrohEndpoint
