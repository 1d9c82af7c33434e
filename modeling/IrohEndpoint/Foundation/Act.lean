import IrohEndpoint.Foundation.Loop

/-! # Computations that change a state and may fail

An `Act` runs on a state. It ends with a value or with an error of its own, and what it
did to the state before an error stays done. Where it does not complete at all (a loop
without fuel) there is no state after it. `Keeps` says that it relates the state before
to the state after, however it ends. -/

namespace IrohEndpoint

def Act (ω ε σ α : Type) : Type := σ → Except ω (Except ε α × σ)

namespace Act

variable {ω ε σ α β : Type}

instance : Monad (Act ω ε σ) where
  pure value := fun state => .ok (.ok value, state)
  bind act next := fun state =>
    match act state with
    | .ok (.ok value, state) => next value state
    | .ok (.error error, state) => .ok (.error error, state)
    | .error reason => .error reason

def throw (error : ε) : Act ω ε σ α := fun state => .ok (.error error, state)

def abort (reason : ω) : Act ω ε σ α := fun _ => .error reason

def view (look : σ → α) : Act ω ε σ α := fun state => .ok (.ok (look state), state)

def update (change : σ → σ) : Act ω ε σ Unit := fun state => .ok (.ok (), change state)

def perform (operation : σ → α × σ) : Act ω ε σ α :=
  fun state => .ok (.ok (operation state).1, (operation state).2)

def ofExcept (result : Except ε α) : Act ω ε σ α := fun state => .ok (result, state)

/-- Run `body` until it stops asking for another round. -/
def loop (exhausted : ω) (body : Act ω ε σ Bool) : Nat → Act ω ε σ Unit
  | 0 => abort exhausted
  | fuel + 1 => do
      if ← body then loop exhausted body fuel else pure ()

variable {act : Act ω ε σ α} {next : α → Act ω ε σ β} {state last : σ}

/-! ## How a computation ends -/

@[simp] theorem pure_eq_ok {value : α} {result : Except ε α} :
    (pure value : Act ω ε σ α) state = .ok (result, last) ↔
      result = .ok value ∧ last = state := by
  simp [pure, eq_comm]

@[simp] theorem throw_eq_ok {error : ε} {result : Except ε α} :
    (throw error : Act ω ε σ α) state = .ok (result, last) ↔
      result = .error error ∧ last = state := by
  simp [throw, eq_comm]

@[simp] theorem abort_ne_ok {reason : ω} {result : Except ε α} :
    (abort reason : Act ω ε σ α) state ≠ .ok (result, last) := by
  simp [abort]

@[simp] theorem update_eq_ok {change : σ → σ} {result : Except ε Unit} :
    (update change : Act ω ε σ Unit) state = .ok (result, last) ↔
      result = .ok () ∧ last = change state := by
  simp [update, eq_comm]

@[simp] theorem perform_eq_ok {operation : σ → α × σ} {result : Except ε α} :
    (perform operation : Act ω ε σ α) state = .ok (result, last) ↔
      result = .ok (operation state).1 ∧ last = (operation state).2 := by
  simp [perform, eq_comm]

@[simp] theorem ofExcept_eq_ok {outcome result : Except ε α} :
    (ofExcept outcome : Act ω ε σ α) state = .ok (result, last) ↔
      result = outcome ∧ last = state := by
  simp [ofExcept, eq_comm]

theorem view_bind {look : σ → α} :
    ((view look : Act ω ε σ α) >>= next) state = next (look state) state := rfl

theorem bind_eq_ok {result : Except ε β} :
    (act >>= next) state = .ok (result, last) ↔
      (∃ error, act state = .ok (.error error, last) ∧ result = .error error) ∨
      ∃ value middle, act state = .ok (.ok value, middle) ∧
        next value middle = .ok (result, last) := by
  constructor
  · intro ran
    simp only [bind] at ran
    split at ran
    · rename_i value middle first
      exact .inr ⟨value, middle, first, ran⟩
    · rename_i error middle first
      cases ran
      exact .inl ⟨error, first, rfl⟩
    · cases ran
  · intro ends
    rcases ends with ⟨error, first, rfl⟩ | ⟨value, middle, first, rest⟩
    · simp [bind, first]
    · simp [bind, first, rest]

theorem bind_eq_value {value : β} :
    (act >>= next) state = .ok (.ok value, last) ↔
      ∃ first middle, act state = .ok (.ok first, middle) ∧
        next first middle = .ok (.ok value, last) := by
  simp [bind_eq_ok]

/-! ## What a computation keeps -/

def Keeps (act : Act ω ε σ α) (Related : σ → σ → Prop) : Prop :=
  ∀ state result last, act state = .ok (result, last) → Related state last

section Keeps

variable {Related : σ → σ → Prop}

theorem Keeps.bind (transitive : ∀ first middle last, Related first middle →
      Related middle last → Related first last)
    (first : act.Keeps Related) (rest : ∀ value, (next value).Keeps Related) :
    (act >>= next).Keeps Related := by
  intro state result last ran
  rcases bind_eq_ok.mp ran with ⟨error, failed, _⟩ | ⟨value, middle, began, after⟩
  · exact first state _ last failed
  · exact transitive state middle last (first state _ middle began)
      (rest value middle result last after)

theorem Keeps.loop {exhausted : ω} {body : Act ω ε σ Bool}
    (reflexive : ∀ state, Related state state)
    (transitive : ∀ first middle last, Related first middle →
      Related middle last → Related first last)
    (round : body.Keeps Related) : ∀ fuel, (loop exhausted body fuel).Keeps Related
  | 0 => by
      intro state result last ran
      exact absurd ran abort_ne_ok
  | fuel + 1 => by
      rw [Act.loop]
      apply Keeps.bind transitive round
      intro again
      cases again with
      | true => exact Keeps.loop reflexive transitive round fuel
      | false =>
          intro state result last ran
          rw [(pure_eq_ok.mp ran).2]
          exact reflexive state

end Keeps

end Act

end IrohEndpoint
