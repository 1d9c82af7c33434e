import IrohEndpoint.Foundation.Execution

/-! # Schedules and progress

A schedule is a list of actions replayed from a configuration. Where some of the
actions lower a measure and no other raises it, a schedule has only so many of them. -/

namespace IrohEndpoint

namespace System

variable {Config Action Abort : Type} (system : System Config Action Abort)

def replay (config : Config) (schedule : List Action) : Except Abort Config :=
  schedule.foldlM system.step config

variable {system} in
theorem Reachable.replay : ∀ {schedule : List Action} {config last : Config},
    system.Reachable config → system.replay config schedule = .ok last → system.Reachable last
  | [], config, last, reached, ran => by
      cases ran
      exact reached
  | action :: schedule, config, last, reached, ran => by
      rw [System.replay, List.foldlM_cons, bind_eq_ok] at ran
      rcases ran with ⟨next, stepped, rest⟩
      have further : system.Reachable next := Reaches.step reached trivial stepped
      exact further.replay rest

/-- What a step does to a measure that `counted` actions lower. -/
structure Lowers (Invariant : Config → Prop) (counted : Action → Bool)
    (measure : Config → Nat) : Prop where
  kept : ∀ config action next, Invariant config → system.step config action = .ok next →
    Invariant next
  lowers : ∀ config action next, Invariant config → system.step config action = .ok next →
    counted action = true → measure next < measure config
  stays : ∀ config action next, Invariant config → system.step config action = .ok next →
    counted action = false → measure next ≤ measure config

variable {system} {Invariant : Config → Prop} {counted : Action → Bool}
variable {measure : Config → Nat}

theorem Lowers.replay (lowers : system.Lowers Invariant counted measure) :
    ∀ (schedule : List Action) {config last : Config}, Invariant config →
      system.replay config schedule = .ok last →
      Invariant last ∧ schedule.countP counted + measure last ≤ measure config
  | [], config, last, holds, ran => by
      simp only [System.replay, List.foldlM_nil, pure, Except.pure, Except.ok.injEq] at ran
      subst ran
      exact ⟨holds, by simp⟩
  | action :: schedule, config, last, holds, ran => by
      rw [System.replay, List.foldlM_cons, bind_eq_ok] at ran
      rcases ran with ⟨next, stepped, rest⟩
      have kept := lowers.kept config action next holds stepped
      rcases lowers.replay schedule kept rest with ⟨later, bound⟩
      refine ⟨later, ?_⟩
      cases counts : counted action with
      | true =>
          have less := lowers.lowers config action next holds stepped counts
          rw [List.countP_cons_of_pos counts]
          omega
      | false =>
          have same := lowers.stays config action next holds stepped counts
          rw [List.countP_cons_of_neg (by simp [counts])]
          omega

end System

end IrohEndpoint
