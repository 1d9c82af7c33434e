import IrohEndpoint.Foundation.Loop

/-! # Executable transition systems

A system is a set of initial configurations and a step function whose action
carries every choice the environment makes. A step that is not enabled, does
not finish or traps is an `error`; `runs` replays a list of actions, and
`Reaches` is the induction principle behind invariants. A guard restricts the
steps a run may take; the unrestricted system is the guard that is always
true. -/

namespace IrohEndpoint

structure System (Config Action Abort : Type) where
  Initial : Config → Prop
  step : Config → Action → Except Abort Config

namespace System

variable {Config Action Abort : Type} (system : System Config Action Abort)

/-- Whether `actions` can be replayed, each step passing `check`, and end in a
configuration that passes `test`. -/
def runs (check : Config → Action → Bool) (config : Config) :
    List Action → (Config → Bool) → Bool
  | [], test => test config
  | action :: actions, test =>
      check config action &&
        match system.step config action with
        | .ok next => runs check next actions test
        | .error _ => false

/-- The configurations of runs from `first` all of whose steps meet `Guard`. -/
inductive ReachesFrom (Guard : Config → Action → Prop) (first : Config) :
    Config → Prop
  | refl : ReachesFrom Guard first first
  | step {config next : Config} {action : Action} :
      ReachesFrom Guard first config → Guard config action →
      system.step config action = .ok next → ReachesFrom Guard first next

/-- The configurations of runs from an initial configuration all of whose steps
meet `Guard`. -/
def Reaches (Guard : Config → Action → Prop) (config : Config) : Prop :=
  ∃ first, system.Initial first ∧ system.ReachesFrom Guard first config

def Reachable (config : Config) : Prop :=
  system.Reaches (fun _ _ => True) config

variable {system}

namespace ReachesFrom

variable {Guard : Config → Action → Prop}

theorem trans {first middle last : Config}
    (front : system.ReachesFrom Guard first middle)
    (back : system.ReachesFrom Guard middle last) :
    system.ReachesFrom Guard first last := by
  induction back with
  | refl => exact front
  | step _ allowed stepped induction => exact .step induction allowed stepped

theorem weaken {Weaker : Config → Action → Prop}
    (implies : ∀ config action, Guard config action → Weaker config action)
    {first last : Config} (reached : system.ReachesFrom Guard first last) :
    system.ReachesFrom Weaker first last := by
  induction reached with
  | refl => exact .refl
  | step _ allowed stepped induction =>
      exact .step induction (implies _ _ allowed) stepped

theorem invariant (Invariant : Config → Prop)
    (preserved : ∀ config action next, Invariant config → Guard config action →
      system.step config action = .ok next → Invariant next)
    {first last : Config} (reached : system.ReachesFrom Guard first last)
    (holds : Invariant first) : Invariant last := by
  induction reached with
  | refl => exact holds
  | step _ allowed stepped induction => exact preserved _ _ _ induction allowed stepped

/-- A reflexive and transitive relation that every allowed step satisfies
relates the two ends of a run; `Invariant` may be used at each step. -/
theorem relates (Invariant : Config → Prop) (Related : Config → Config → Prop)
    (reflexive : ∀ config, Related config config)
    (transitive : ∀ {first middle last}, Related first middle →
      Related middle last → Related first last)
    (preserved : ∀ config action next, Invariant config → Guard config action →
      system.step config action = .ok next →
        Invariant next ∧ Related config next)
    {first last : Config} (reached : system.ReachesFrom Guard first last)
    (holds : Invariant first) : Related first last := by
  have both : Invariant last ∧ Related first last := by
    induction reached with
    | refl => exact ⟨holds, reflexive _⟩
    | step _ allowed stepped induction =>
        rcases preserved _ _ _ induction.1 allowed stepped with ⟨kept, related⟩
        exact ⟨kept, transitive induction.2 related⟩
  exact both.2

theorem of_runs {check : Config → Action → Bool}
    (sound : ∀ config action, check config action = true → Guard config action)
    {test : Config → Bool} :
    ∀ (actions : List Action) {config : Config},
      system.runs check config actions test = true →
      ∃ last, system.ReachesFrom Guard config last ∧ test last = true
  | [], config, passed => ⟨config, .refl, passed⟩
  | action :: actions, config, passed => by
      rw [runs, Bool.and_eq_true] at passed
      cases stepped : system.step config action with
      | error error =>
          rw [stepped] at passed
          cases passed.2
      | ok next =>
          rw [stepped] at passed
          rcases of_runs sound actions passed.2 with ⟨last, rest, tested⟩
          have first : system.ReachesFrom Guard config next :=
            .step .refl (sound config action passed.1) stepped
          exact ⟨last, first.trans rest, tested⟩

end ReachesFrom

namespace Reaches

variable {Guard : Config → Action → Prop}

theorem reachable {config : Config} (reached : system.Reaches Guard config) :
    system.Reachable config := by
  rcases reached with ⟨first, initial, path⟩
  exact ⟨first, initial, path.weaken fun _ _ _ => trivial⟩

theorem step {config next : Config} {action : Action} (reached : system.Reaches Guard config)
    (allowed : Guard config action) (stepped : system.step config action = .ok next) :
    system.Reaches Guard next := by
  rcases reached with ⟨first, initial, path⟩
  exact ⟨first, initial, .step path allowed stepped⟩

theorem invariant (Invariant : Config → Prop)
    (initially : ∀ config, system.Initial config → Invariant config)
    (preserved : ∀ config action next, Invariant config → Guard config action →
      system.step config action = .ok next → Invariant next)
    {config : Config} (reached : system.Reaches Guard config) :
    Invariant config := by
  rcases reached with ⟨first, initial, path⟩
  exact path.invariant Invariant preserved (initially first initial)

/-- As `invariant`, where a step may use that it starts from a reachable
configuration. -/
theorem induction (Invariant : Config → Prop)
    (initially : ∀ config, system.Initial config → Invariant config)
    (preserved : ∀ config action next, system.Reachable config → Invariant config →
      Guard config action → system.step config action = .ok next → Invariant next)
    {config : Config} (reached : system.Reaches Guard config) :
    Invariant config := by
  have both : system.Reachable config ∧ Invariant config := by
    apply reached.invariant (fun config => system.Reachable config ∧ Invariant config)
    · intro config initial
      exact ⟨⟨config, initial, .refl⟩, initially config initial⟩
    · rintro config action next ⟨sofar, holds⟩ allowed stepped
      exact ⟨sofar.step trivial stepped,
        preserved config action next sofar holds allowed stepped⟩
  exact both.2

end Reaches

theorem Reachable.of_runs {first : Config} (initial : system.Initial first)
    {actions : List Action} {test : Config → Bool}
    (passed : system.runs (fun _ _ => true) first actions test = true) :
    ∃ last, system.Reachable last ∧ test last = true := by
  rcases ReachesFrom.of_runs (fun _ _ _ => trivial) actions passed with ⟨last, path, tested⟩
  exact ⟨last, ⟨first, initial, path⟩, tested⟩

/-! ## Observers -/

def observed (system : System Config Action Abort) {Log : Type} (empty : Log)
    (observe : Log → Config → Action → Config → Log) :
    System (Config × Log) Action Abort where
  Initial start := system.Initial start.1 ∧ start.2 = empty
  step start action :=
    (system.step start.1 action).map fun next =>
      (next, observe start.2 start.1 action next)

namespace observed

variable {Log : Type} {empty : Log} {observe : Log → Config → Action → Config → Log}
variable {Guard : Config → Action → Prop}

theorem step_ok {start last : Config × Log} {action : Action}
    (stepped : (system.observed empty observe).step start action = .ok last) :
    system.step start.1 action = .ok last.1 ∧
      last.2 = observe start.2 start.1 action last.1 := by
  simp only [observed] at stepped
  cases next : system.step start.1 action with
  | error abort =>
      rw [next] at stepped
      cases stepped
  | ok config =>
      rw [next] at stepped
      cases stepped
      exact ⟨rfl, rfl⟩

theorem step_of {config next : Config} {action : Action} (log : Log)
    (stepped : system.step config action = .ok next) :
    (system.observed empty observe).step (config, log) action =
      .ok (next, observe log config action next) := by
  simp only [observed, stepped]
  rfl

theorem of_reaches {config : Config} (reached : system.Reaches Guard config) :
    ∃ log, (system.observed empty observe).Reaches (fun start => Guard start.1)
      (config, log) := by
  rcases reached with ⟨first, initial, path⟩
  have both : ∃ log, (system.observed empty observe).ReachesFrom
      (fun start => Guard start.1) (first, empty) (config, log) := by
    induction path with
    | refl => exact ⟨empty, .refl⟩
    | @step before after action _ allowed stepped induction =>
        rcases induction with ⟨log, sofar⟩
        exact ⟨observe log before action after, .step sofar allowed (step_of log stepped)⟩
  rcases both with ⟨log, observed⟩
  exact ⟨log, (first, empty), ⟨initial, rfl⟩, observed⟩

/-- What holds at the start and is kept by every step of a reachable configuration
holds of what is observed. -/
theorem invariant (Invariant : Config → Log → Prop)
    (initially : ∀ config, system.Initial config → Invariant config empty)
    (preserved : ∀ config log action next, system.Reaches Guard config →
      Invariant config log → Guard config action → system.step config action = .ok next →
      Invariant next (observe log config action next))
    {config : Config} {log : Log}
    (reached : (system.observed empty observe).Reaches (fun start => Guard start.1)
      (config, log)) : system.Reaches Guard config ∧ Invariant config log := by
  apply reached.invariant
    (fun start => system.Reaches Guard start.1 ∧ Invariant start.1 start.2)
  · rintro ⟨first, start⟩ ⟨initial, rfl⟩
    exact ⟨⟨first, initial, .refl⟩, initially first initial⟩
  · rintro ⟨before, log⟩ action ⟨after, more⟩ ⟨⟨first, initial, path⟩, holds⟩ allowed stepped
    rcases step_ok stepped with ⟨moved, extended⟩
    dsimp only at extended
    subst extended
    exact ⟨⟨first, initial, .step path allowed moved⟩,
      preserved before log action after ⟨first, initial, path⟩ holds allowed moved⟩

theorem reachable_invariant (Invariant : Config → Log → Prop)
    (initially : ∀ config, system.Initial config → Invariant config empty)
    (preserved : ∀ config log action next, system.Reachable config →
      Invariant config log → system.step config action = .ok next →
      Invariant next (observe log config action next))
    {config : Config} {log : Log}
    (reached : (system.observed empty observe).Reachable (config, log)) :
    system.Reachable config ∧ Invariant config log :=
  invariant Invariant initially
    (fun config log action next reachable holds _ stepped =>
      preserved config log action next reachable holds stepped) reached

end observed

end System

end IrohEndpoint
