import Mathlib.Tactic.Common

/-! # Fallible loops

Rules for computations in `Except`: how a bind succeeds, a fuelled `while`
loop, and the invariant rules of that loop and of a monadic fold. A loop that
runs out of fuel reports the caller's `exhausted` error, so a successful result
is always the result of a loop that stopped by itself. -/

namespace IrohEndpoint

variable {ε σ α β : Type}

theorem bind_eq_ok {first : Except ε α} {next : α → Except ε β} {result : β} :
    first >>= next = .ok result ↔
      ∃ value, first = .ok value ∧ next value = .ok result := by
  cases first with
  | error error => simp [bind, Except.bind]
  | ok value => simp [bind, Except.bind]

theorem bind_eq_error {first : Except ε α} {next : α → Except ε β} {error : ε} :
    first >>= next = .error error ↔
      first = .error error ∨ ∃ value, first = .ok value ∧ next value = .error error := by
  cases first with
  | error other => simp [bind, Except.bind]
  | ok value => simp [bind, Except.bind]

theorem mapError_eq_error {first : Except ε α} {rename : ε → β} {error : β} :
    first.mapError rename = .error error ↔
      ∃ detail, first = .error detail ∧ error = rename detail := by
  cases first with
  | error detail => simp [Except.mapError, eq_comm]
  | ok value => simp [Except.mapError]

/-- Run `body` until it stops asking for another round. -/
def whileLoop (exhausted : ε) (body : σ → Except ε (σ × Bool)) :
    Nat → σ → Except ε σ
  | 0, _ => .error exhausted
  | fuel + 1, state => do
      let (next, again) ← body state
      if again then whileLoop exhausted body fuel next else .ok next

namespace whileLoop

variable {exhausted : ε} {body : σ → Except ε (σ × Bool)}

theorem invariant (Invariant : σ → Prop)
    (round : ∀ state next again, Invariant state →
      body state = .ok (next, again) → Invariant next) :
    ∀ (fuel : Nat) {state final : σ}, Invariant state →
      whileLoop exhausted body fuel state = .ok final → Invariant final
  | 0, _, _, _, ran => by simp [whileLoop] at ran
  | fuel + 1, state, final, holds, ran => by
      rw [whileLoop, bind_eq_ok] at ran
      rcases ran with ⟨⟨next, again⟩, stepped, rest⟩
      have kept := round state next again holds stepped
      cases again with
      | false =>
          simp only [Bool.false_eq_true, if_false, Except.ok.injEq] at rest
          exact rest ▸ kept
      | true => exact invariant Invariant round fuel kept (by simpa using rest)

theorem ends (Invariant : σ → Prop) (measure : σ → Nat)
    (round : ∀ state, Invariant state → ∃ next again, body state = .ok (next, again) ∧
      Invariant next ∧ (again = true → measure next < measure state)) :
    ∀ (fuel : Nat) {state : σ}, Invariant state → measure state < fuel →
      ∃ final, whileLoop exhausted body fuel state = .ok final
  | 0, _, _, impossible => absurd impossible (Nat.not_lt_zero _)
  | fuel + 1, state, holds, enough => by
      rcases round state holds with ⟨next, again, stepped, kept, lower⟩
      simp only [whileLoop, stepped, bind, Except.bind]
      cases again with
      | false => exact ⟨next, rfl⟩
      | true =>
          have less := lower rfl
          exact ends Invariant measure round fuel kept (by omega)

/-- What holds of every round that stops, of every round that fails and of running out of
fuel holds of the loop; `Invariant` is kept by the rounds in between. -/
theorem outcome (Invariant : σ → Prop) (Done : Except ε σ → Prop)
    (again : ∀ state next, Invariant state → body state = .ok (next, true) → Invariant next)
    (stops : ∀ state next, Invariant state → body state = .ok (next, false) → Done (.ok next))
    (fails : ∀ state error, Invariant state → body state = .error error → Done (.error error))
    (exhausts : Done (.error exhausted)) :
    ∀ (fuel : Nat) {state : σ}, Invariant state → Done (whileLoop exhausted body fuel state)
  | 0, _, _ => exhausts
  | fuel + 1, state, holds => by
      rw [whileLoop]
      cases stepped : body state with
      | error error => exact fails state error holds stepped
      | ok result =>
          rcases result with ⟨next, _ | _⟩
          · exact stops state next holds stepped
          · exact outcome Invariant Done again stops fails exhausts fuel
              (again state next holds stepped)

theorem error_eq_exhausted (Invariant : σ → Prop)
    (round : ∀ state next again, Invariant state →
      body state = .ok (next, again) → Invariant next)
    (sound : ∀ state error, Invariant state → body state = .error error →
      error = exhausted) :
    ∀ (fuel : Nat) {state : σ} {error : ε}, Invariant state →
      whileLoop exhausted body fuel state = .error error → error = exhausted
  | 0, _, _, _, ran => by
      simp only [whileLoop, Except.error.injEq] at ran
      exact ran.symm
  | fuel + 1, state, error, holds, ran => by
      rw [whileLoop, bind_eq_error] at ran
      rcases ran with failed | ⟨⟨next, again⟩, stepped, rest⟩
      · exact sound state error holds failed
      · cases again with
        | false => simp at rest
        | true =>
            exact error_eq_exhausted Invariant round sound fuel
              (round state next true holds stepped) (by simpa using rest)

theorem last_round (Invariant : σ → Prop)
    (again : ∀ state next, Invariant state → body state = .ok (next, true) → Invariant next) :
    ∀ (fuel : Nat) {state final : σ}, Invariant state →
      whileLoop exhausted body fuel state = .ok final →
      ∃ before, Invariant before ∧ body before = .ok (final, false)
  | 0, _, _, _, ran => by simp [whileLoop] at ran
  | fuel + 1, state, final, holds, ran => by
      rw [whileLoop, bind_eq_ok] at ran
      rcases ran with ⟨⟨next, more⟩, stepped, rest⟩
      cases more with
      | false =>
          simp only [Bool.false_eq_true, if_false, Except.ok.injEq] at rest
          exact ⟨state, holds, rest ▸ stepped⟩
      | true =>
          exact last_round Invariant again fuel (again state next holds stepped)
            (by simpa using rest)

theorem stops_at_once (Marked : σ → Prop)
    (marks : ∀ state next, body state = .ok (next, true) → Marked next)
    (keeps : ∀ state next again, Marked state → body state = .ok (next, again) → Marked next)
    {fuel : Nat} {state final : σ} (ran : whileLoop exhausted body fuel state = .ok final)
    (unmarked : ¬ Marked final) : body state = .ok (final, false) := by
  cases fuel with
  | zero => simp [whileLoop] at ran
  | succ fuel =>
      rw [whileLoop, bind_eq_ok] at ran
      rcases ran with ⟨⟨next, again⟩, stepped, rest⟩
      cases again with
      | false =>
          simp only [Bool.false_eq_true, if_false, Except.ok.injEq] at rest
          exact rest ▸ stepped
      | true =>
          have marked := marks state next stepped
          have still := invariant Marked keeps fuel marked (by simpa using rest)
          exact absurd still unmarked

end whileLoop

namespace foldlM

variable {body : σ → α → Except ε σ}

theorem invariant (Invariant : σ → Prop)
    (turn : ∀ state item next, Invariant state → body state item = .ok next →
      Invariant next) :
    ∀ (items : List α) {state final : σ}, Invariant state →
      items.foldlM body state = .ok final → Invariant final
  | [], state, final, holds, ran => by
      simp only [List.foldlM_nil, pure, Except.pure, Except.ok.injEq] at ran
      exact ran ▸ holds
  | item :: items, state, final, holds, ran => by
      rw [List.foldlM_cons, bind_eq_ok] at ran
      rcases ran with ⟨next, stepped, rest⟩
      exact invariant Invariant turn items (turn state item next holds stepped) rest

theorem error_of_turn (Invariant : σ → Prop) (Allowed : ε → Prop)
    (turn : ∀ state item next, Invariant state → body state item = .ok next →
      Invariant next)
    (sound : ∀ state item error, Invariant state →
      body state item = .error error → Allowed error) :
    ∀ (items : List α) {state : σ} {error : ε}, Invariant state →
      items.foldlM body state = .error error → Allowed error
  | [], _, _, _, ran => by simp [pure, Except.pure] at ran
  | item :: items, state, error, holds, ran => by
      rw [List.foldlM_cons, bind_eq_error] at ran
      rcases ran with failed | ⟨next, stepped, rest⟩
      · exact sound state item error holds failed
      · exact error_of_turn Invariant Allowed turn sound items
          (turn state item next holds stepped) rest

end foldlM

end IrohEndpoint
