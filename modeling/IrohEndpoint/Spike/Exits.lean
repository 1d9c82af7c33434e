import IrohEndpoint.Foundation.Progress
import IrohEndpoint.Spike.Loopback
import IrohEndpoint.Spike.Steps

/-! # The end of a run

Every exit of the loop closes the wire and resolves the receive, then the tick. Nothing
on the way changes what the run will return, and no import is in flight when it does. -/

namespace IrohEndpoint.Spike

variable {P : Platform}

def Wire.ended (error : String) : Wire → Arrived
  | .channel => .channel (.error error)
  | .relay _ => .relay (.error error)

namespace Run

variable {run middle next : Run P} {outcome : Except String Outcome}

def endings (error : String) (run : Run P) : List Input :=
  (if run.recv then [.received 0 (run.wire.ended error)] else []) ++
    if run.tick then [.ticked 0] else []

/-! ## The imports in flight -/

theorem InFlight.armed (flight : run.InFlight) (looping : run.phase.left = false) :
    run.Armed := by
  refine ⟨flight, ?_⟩
  rw [InFlight] at flight
  cases phase : run.phase <;> simp_all [Phase.expects, Phase.left]

theorem Leaves.flight (leaves : run.Leaves next) (flight : run.InFlight) : next.InFlight := by
  cases leaves with
  | advanced elapsed => exact flight
  | received arrived message wire outcome closing resolved => exact flight
  | failed arrived error wire outcome closing resolved =>
      rw [InFlight, closing] at flight
      simp only [Phase.expects, Bool.and_eq_true] at flight
      exact joined_inFlight _ _ rfl flight.2
  | rearmed outcome closing => exact flight
  | ticked outcome ticking =>
      rw [InFlight, ticking] at flight
      simp only [Phase.expects, Bool.and_eq_true] at flight
      simp [InFlight, moveTo, Phase.expects, flight]

theorem InFlight.step (flight : run.InFlight) {input : Input}
    (stepped : run.step input = .ok next) : next.InFlight := by
  cases left : run.phase.left with
  | true => exact (step_leaves left stepped).flight flight
  | false =>
      have armed := flight.armed left
      cases step_moves AppRelation.stable_true stepped with
      | turned advances => exact (advances.armed armed).1
      | received arrived message wire selecting resolved flows skips =>
          exact (flows.armed armed).1
      | failed arrived error wire resolved advances resolves => exact resolves armed
      | late arrived message wire outcome closing resolved same =>
          rw [closing] at left
          cases left

/-! ## What stays -/

/-- What a run that has left its loop no longer changes. -/
structure Concludes (run last : Run P) : Prop where
  outcome : last.phase.outcome = run.phase.outcome
  closed : last.wireClosed = run.wireClosed
  endpoint : last.endpoint = run.endpoint
  connection : last.connection = run.connection
  app : last.app = run.app
  records : last.records = run.records
  handed : last.traffic.handed = run.traffic.handed
  sent : last.traffic.sent = run.traffic.sent

theorem Concludes.refl (run : Run P) : run.Concludes run :=
  ⟨rfl, rfl, rfl, rfl, rfl, rfl, rfl, rfl⟩

theorem Concludes.trans (first : run.Concludes middle) (second : middle.Concludes next) :
    run.Concludes next where
  outcome := second.outcome.trans first.outcome
  closed := second.closed.trans first.closed
  endpoint := second.endpoint.trans first.endpoint
  connection := second.connection.trans first.connection
  app := second.app.trans first.app
  records := second.records.trans first.records
  handed := second.handed.trans first.handed
  sent := second.sent.trans first.sent

private theorem joined_outcome (run : Run P) (outcome : Except String Outcome) :
    (run.joined outcome).phase.outcome = some outcome := by
  rw [joined]
  split <;> rfl

theorem Leaves.concludes (leaves : run.Leaves next) : run.Concludes next := by
  cases leaves with
  | advanced elapsed => exact ⟨rfl, rfl, rfl, rfl, rfl, rfl, rfl, rfl⟩
  | received arrived message wire outcome closing resolved =>
      exact ⟨rfl, rfl, rfl, rfl, rfl, rfl, rfl, rfl⟩
  | failed arrived error wire outcome closing resolved =>
      refine ⟨?_, rfl, rfl, rfl, rfl, rfl, rfl, rfl⟩
      rw [joined_outcome, closing]
      rfl
  | rearmed outcome closing => exact .refl run
  | ticked outcome ticking =>
      refine ⟨?_, rfl, rfl, rfl, rfl, rfl, rfl, rfl⟩
      rw [ticking]
      rfl

/-! ## How it ends -/

private theorem receive_ended (wire : Wire) (error : String) :
    ∃ reason, wire.receive (wire.ended error) = some (.error reason, wire) := by
  cases wire with
  | channel => exact ⟨_, rfl⟩
  | relay peer => exact ⟨_, rfl⟩

private theorem step_ended (closing : run.phase = .closing outcome) (recv : run.recv = true)
    (tick : run.tick = true) (fuel : Nat) (error : String) :
    run.step (.received fuel (run.wire.ended error)) =
      .ok ({ run with recv := false }.moveTo (.ticking outcome)) := by
  rcases receive_ended run.wire error with ⟨reason, ended⟩
  rw [step, receive, if_neg (by simp [recv]), ended]
  dsimp only
  rw [closing]
  simp [joined, tick]

private theorem step_ticked (ticking : run.phase = .ticking outcome) (tick : run.tick = true)
    (fuel : Nat) :
    run.step (.ticked fuel) = .ok ({ run with tick := false }.moveTo (.returned outcome)) := by
  rw [step, if_neg (by simp [tick]), ticking]

variable {role : Role} {peer : Option EndpointId} {wire : Wire}

private theorem replay_endings (flight : run.InFlight) (left : run.phase.outcome = some outcome)
    (error : String) :
    ∃ last, (spike P role peer wire).replay run (run.endings error) = .ok last ∧
      last.phase = .returned outcome := by
  rw [InFlight] at flight
  cases phase : run.phase with
  | closing same =>
      rw [phase] at left flight
      cases left
      simp only [Phase.expects, Bool.and_eq_true] at flight
      have first := step_ended phase flight.1.1 flight.1.2 0 error
      have second := @step_ticked P ({ run with recv := false }.moveTo (.ticking outcome))
        outcome rfl flight.1.2 0
      have both : run.endings error = [.received 0 (run.wire.ended error), .ticked 0] := by
        simp [endings, flight]
      refine ⟨{ run with recv := false, tick := false, phase := .returned outcome }, ?_, rfl⟩
      rw [both, System.replay, List.foldlM_cons, bind_eq_ok]
      exact ⟨_, first, bind_eq_ok.mpr ⟨_, second, rfl⟩⟩
  | ticking same =>
      rw [phase] at left flight
      cases left
      simp only [Phase.expects, Bool.and_eq_true, Bool.not_eq_true'] at flight
      have only := step_ticked phase flight.1.2 0
      have one : run.endings error = [.ticked 0] := by simp [endings, flight]
      refine ⟨{ run with tick := false, phase := .returned outcome }, ?_, rfl⟩
      rw [one, System.replay, List.foldlM_cons, bind_eq_ok]
      exact ⟨_, only, rfl⟩
  | returned same =>
      rw [phase] at left flight
      cases left
      simp only [Phase.expects, Bool.and_eq_true, Bool.not_eq_true'] at flight
      have none : run.endings error = [] := by simp [endings, flight]
      refine ⟨run, ?_, phase⟩
      rw [none]
      rfl
  | _ =>
      rw [phase] at left
      cases left

private theorem step_overdue (armed : run.Armed) (selecting : run.phase = .selecting)
    (overdue : runDeadline < run.clock - run.started) (fuel : Nat) :
    ∃ next, run.step (.ticked fuel) = .ok next ∧
      next.phase = .closing (.error "run deadline exceeded") ∧ next.InFlight := by
  have due : ∀ expired : Run P, expired = run.timeouts →
      runDeadline < expired.clock - expired.started ∧ expired.Armed := by
    rintro expired rfl
    refine ⟨?_, (timeouts_advances AppRelation.stable_true run).armed armed⟩
    rw [timeouts]
    split
    · exact overdue
    · split <;> exact overdue
  rcases due _ rfl with ⟨late, ready⟩
  have leaves := leave_advances (P := P) AppRelation.stable_true run.timeouts
    (.error "run deadline exceeded")
  refine ⟨run.timeouts.leave (.error "run deadline exceeded"), ?_, ?_, (leaves.armed ready).1⟩
  · rw [step, if_neg (by simp [armed.tick]), selecting]
    dsimp only
    rw [pump, if_pos late]
  · rw [leave, if_pos ready.2]
    rfl

end Run

variable {role : Role} {peer : Option EndpointId} {wire : Wire} {run : Run P}

private theorem spike_inFlight (reached : (spike P role peer wire).Reachable run) :
    run.InFlight := by
  apply reached.invariant (fun run : Run P => run.InFlight)
  · rintro run ⟨draws, now, made, _, rfl⟩
    rfl
  · intro run input next flight _ stepped
    exact flight.step stepped

/-- Every exit of every run goes through the teardown. From where the loop is left nothing
changes what will be returned, nothing is sent and nothing handed to noq; the wire is
closed, and the error of its receive and one tick end the run. What has returned has
neither import in flight; and past the deadline a tick ends a loop that waits at its
select. -/
theorem exits_tear_down (reached : (spike P role peer wire).Reachable run) :
    (∀ outcome, run.phase.outcome = some outcome → run.wireClosed = true ∧
      (∀ last, (spike P role peer wire).ReachesFrom (fun _ _ => True) run last →
        run.Concludes last) ∧
      ∀ error, ∃ last, (spike P role peer wire).replay run (run.endings error) = .ok last ∧
        last.phase = .returned outcome) ∧
    (∀ outcome, run.phase = .returned outcome → run.recv = false ∧ run.tick = false) ∧
    (run.phase = .selecting → runDeadline < run.clock - run.started → ∀ fuel error, ∃ next last,
      run.step (.ticked fuel) = .ok next ∧
      (spike P role peer wire).replay next (next.endings error) = .ok last ∧
      last.phase = .returned (.error "run deadline exceeded")) := by
  have flight := spike_inFlight reached
  refine ⟨?_, ?_, ?_⟩
  · intro outcome left
    have gone : run.phase.left = true := by
      cases phase : run.phase <;> simp_all [Phase.outcome, Phase.left]
    refine ⟨?_, ?_, fun error => Run.replay_endings flight left error⟩
    · rw [Run.InFlight] at flight
      cases phase : run.phase <;> simp_all [Phase.expects, Phase.left]
    · intro last path
      apply path.relates (fun run : Run P => run.phase.left = true) Run.Concludes .refl
        (fun first second => first.trans second) _ gone
      intro run input next left _ stepped
      exact ⟨Run.step_left left stepped, (Run.step_leaves left stepped).concludes⟩
  · intro outcome returned
    rw [Run.InFlight, returned] at flight
    simp only [Phase.expects, Bool.and_eq_true, Bool.not_eq_true'] at flight
    exact flight.1
  · intro selecting overdue fuel error
    have armed := flight.armed (by rw [selecting]; rfl)
    rcases Run.step_overdue armed selecting overdue fuel with ⟨next, stepped, closing, still⟩
    have left : next.phase.outcome = some (.error "run deadline exceeded") := by
      rw [closing]
      rfl
    have ends : ∃ last, (spike P role peer wire).replay next (next.endings error) = .ok last ∧
        last.phase = .returned (.error "run deadline exceeded") :=
      Run.replay_endings still left error
    rcases ends with ⟨last, ran, returned⟩
    exact ⟨next, last, stepped, ran, returned⟩

/-- A server that nobody greets, past its deadline and one tick later. -/
theorem exits_tear_down_overdue :
    ∃ waiting closing : Run Loopback.platform,
      (spike Loopback.platform .server none .channel).Reachable waiting ∧
      (spike Loopback.platform .server none .channel).Reachable closing ∧
      closing.wireClosed = true ∧ closing.records = [] ∧
      (∃ next last, waiting.step (.ticked 9) = .ok next ∧
        (spike Loopback.platform .server none .channel).replay next (next.endings "closed") =
          .ok last ∧
        last.phase = .returned (.error "run deadline exceeded")) ∧
      ∃ last, (spike Loopback.platform .server none .channel).replay closing
          [.received 0 (.channel (.error "closed")), .ticked 0] = .ok last ∧
        last.phase = .returned (.error "run deadline exceeded") ∧
        last.recv = false ∧ last.tick = false := by
  have waited : (spike Loopback.platform .server none .channel).runs (fun _ _ => true)
      (Loopback.begun .server .channel) [.start 9, .advance (runDeadline + 1)]
      (fun run => decide (run.phase = .selecting) &&
        decide (runDeadline < run.clock - run.started)) = true := by
    decide +kernel
  have closes : (spike Loopback.platform .server none .channel).runs (fun _ _ => true)
      (Loopback.begun .server .channel) [.start 9, .advance (runDeadline + 1), .ticked 9]
      (fun run => decide (run.phase = .closing (.error "run deadline exceeded")) &&
        decide (run.wire = .channel) && run.recv && run.tick && run.records.isEmpty) = true := by
    decide +kernel
  rcases System.Reachable.of_runs (Loopback.begun_initial _ _ _ (by simp)) waited with
    ⟨waiting, first, tested⟩
  rcases System.Reachable.of_runs (Loopback.begun_initial _ _ _ (by simp)) closes with
    ⟨closing, second, parted⟩
  simp only [Bool.and_eq_true, decide_eq_true_eq] at tested parted
  rcases parted with ⟨⟨⟨⟨phase, channel⟩, recv⟩, tick⟩, silent⟩
  have ends := (exits_tear_down first).2.2 tested.1 tested.2 9 "closed"
  rcases (exits_tear_down second).1 (.error "run deadline exceeded") (by rw [phase]; rfl) with
    ⟨closed, _, returns⟩
  rcases returns "closed" with ⟨last, ran, returned⟩
  have rest : closing.endings "closed" =
      [.received 0 (.channel (.error "closed")), .ticked 0] := by
    simp [Run.endings, recv, tick, channel, Wire.ended]
  have reached := second.replay ran
  have resolved := (exits_tear_down reached).2.1 _ returned
  rw [rest] at ran
  exact ⟨waiting, closing, first, second, closed, List.isEmpty_iff.mp silent, ends, last, ran,
    returned, resolved⟩

end IrohEndpoint.Spike
