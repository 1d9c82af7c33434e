import IrohEndpoint.Spike.Run

/-! # What a turn of a run changes

Between two suspension points the loop leaves the wire as it is, sends packets where the
wire says, and touches the application only through `drive` and the events of the
connection. -/

namespace IrohEndpoint.Spike

variable {P : Platform}

abbrev AppRelation := App × List Record → App × List Record → Prop

/-- However an act of the application ends, it keeps `Related`. -/
def AppAct.Preserves {α : Type} (act : AppAct P α) (Related : AppRelation) : Prop :=
  act.Keeps fun side next => Related (side.app, side.records) (next.app, next.records)

/-- A relation kept by everything the loop lets the application do. -/
structure AppRelation.Stable (P : Platform) (Related : AppRelation) : Prop where
  reflexive : ∀ state, Related state state
  transitive : ∀ first middle last, Related first middle → Related middle last →
    Related first last
  drive : ∀ now, (Spike.drive now : AppAct P Unit).Preserves Related
  event : ∀ fuel started now,
    (Run.eventRound fuel started now : AppAct P Bool).Preserves Related

theorem AppRelation.stable_true : AppRelation.Stable P fun _ _ => True where
  reflexive _ := trivial
  transitive _ _ _ _ _ := trivial
  drive _ _ _ _ _ := trivial
  event _ _ _ _ _ _ _ := trivial

def Phase.left : Phase → Bool
  | .closing _ | .ticking _ | .returned _ => true
  | _ => false

def Phase.outcome : Phase → Option (Except String Outcome)
  | .closing outcome | .ticking outcome | .returned outcome => some outcome
  | _ => none

def Phase.expects : Phase → Bool → Bool → Bool → Bool
  | .closing _, recv, tick, closed => recv && tick && closed
  | .ticking _, recv, tick, closed => !recv && tick && closed
  | .returned _, recv, tick, closed => !recv && !tick && closed
  | _, recv, tick, _ => recv && tick

def Input.datagrams : Input → List Datagram
  | .received _ arrived => arrived.datagrams
  | _ => []

namespace Run

variable {Related : AppRelation} {run middle next : Run P} {fuel : Nat}

def InFlight (run : Run P) : Prop :=
  run.phase.expects run.recv run.tick run.wireClosed = true

def Armed (run : Run P) : Prop :=
  run.InFlight ∧ run.recv = true

theorem Armed.tick (armed : run.Armed) : run.tick = true := by
  have flight := armed.1
  rw [InFlight, armed.2] at flight
  cases phase : run.phase <;> simp_all [Phase.expects]

/-- What a stretch of the loop does to the wire's traffic and to the application. -/
structure Flows (Related : AppRelation) (run next : Run P) : Prop where
  wire : next.wire = run.wire
  arrived : next.traffic.arrived = run.traffic.arrived
  late : next.traffic.late = run.traffic.late
  handed : next.traffic.handed = run.traffic.handed
  sent : ∃ packets : List Bytes, next.traffic.sent =
    run.traffic.sent ++ packets.map fun packet => (run.wire.target, packet)
  side : Related (run.app, run.records) (next.app, next.records)
  armed : run.Armed → next.Armed
  idle : next.connection = none → run.connection = none ∧ next.app = run.app

/-- A stretch in which the connection stays or stays missing; without one nothing is
sent. -/
structure Advances (Related : AppRelation) (run next : Run P) : Prop extends
    Flows Related run next where
  connected : next.connection.isSome = run.connection.isSome
  silent : run.connection = none → next.traffic.sent = run.traffic.sent

theorem Flows.trans (stable : Related.Stable P) (first : run.Flows Related middle)
    (second : middle.Flows Related next) : run.Flows Related next where
  wire := second.wire.trans first.wire
  arrived := second.arrived.trans first.arrived
  late := second.late.trans first.late
  handed := second.handed.trans first.handed
  sent := by
    rcases first.sent with ⟨packets, before⟩
    rcases second.sent with ⟨more, after⟩
    refine ⟨packets ++ more, ?_⟩
    rw [after, before, first.wire, List.map_append, List.append_assoc]
  side := stable.transitive _ _ _ first.side second.side
  armed := fun armed => second.armed (first.armed armed)
  idle := by
    intro missing
    rcases second.idle missing with ⟨middle, same⟩
    rcases first.idle middle with ⟨before, still⟩
    exact ⟨before, same.trans still⟩

theorem Advances.trans (stable : Related.Stable P) (first : run.Advances Related middle)
    (second : middle.Advances Related next) : run.Advances Related next where
  toFlows := first.toFlows.trans stable second.toFlows
  connected := second.connected.trans first.connected
  silent := by
    intro missing
    have still : middle.connection = none := by
      have same := first.connected
      rw [missing] at same
      exact Option.not_isSome_iff_eq_none.mp (by simp [same])
    rw [second.silent still, first.silent missing]

theorem Advances.quiet (stable : Related.Stable P) (wire : next.wire = run.wire)
    (traffic : next.traffic = run.traffic) (app : next.app = run.app)
    (records : next.records = run.records)
    (connected : next.connection.isSome = run.connection.isSome)
    (armed : run.Armed → next.Armed) : run.Advances Related next where
  wire := wire
  arrived := by rw [traffic]
  late := by rw [traffic]
  handed := by rw [traffic]
  sent := ⟨[], by simp [traffic]⟩
  side := by
    rw [app, records]
    exact stable.reflexive _
  armed := armed
  idle := by
    intro missing
    rw [missing] at connected
    exact ⟨Option.not_isSome_iff_eq_none.mp (by simp [← connected]), app⟩
  connected := connected
  silent _ := by rw [traffic]

private theorem moveTo_advances (stable : Related.Stable P) (run : Run P) {phase : Phase}
    (stays : phase.left = false) : run.Advances Related (run.moveTo phase) := by
  refine Advances.quiet stable rfl rfl rfl rfl rfl ?_
  intro armed
  constructor
  · rw [InFlight, moveTo]
    cases phase <;> simp_all [Phase.expects, armed.2, armed.tick, Phase.left]
  · exact armed.2

theorem joined_inFlight (run : Run P) (outcome : Except String Outcome)
    (received : run.recv = false) (closed : run.wireClosed = true) :
    (run.joined outcome).InFlight := by
  rw [joined, InFlight]
  cases tick : run.tick with
  | true => simp [moveTo, Phase.expects, received, tick, closed]
  | false => simp [moveTo, Phase.expects, received, tick, closed]

theorem leave_advances (stable : Related.Stable P) (run : Run P)
    (outcome : Except String Outcome) : run.Advances Related (run.leave outcome) := by
  rw [leave]
  cases recv : run.recv with
  | true =>
      refine Advances.quiet stable rfl rfl rfl rfl rfl ?_
      intro armed
      constructor
      · simp [InFlight, moveTo, Phase.expects, armed.tick]
      · rfl
  | false =>
      refine Advances.quiet stable rfl rfl rfl rfl rfl ?_
      intro armed
      rw [armed.2] at recv
      cases recv

private theorem onSide_advances {α : Type} {act : AppAct P α}
    (preserves : act.Preserves Related) {result : Except String α}
    (ran : run.onSide act = .ok (result, next)) : run.Advances Related next := by
  rw [onSide] at ran
  split at ran
  · cases ran
  · rename_i handle conn connection
    split at ran
    · cases ran
    · rename_i result side acted
      cases ran
      exact {
        wire := rfl
        arrived := rfl
        late := rfl
        handed := rfl
        sent := ⟨[], by simp⟩
        side := preserves _ _ _ acted
        armed := fun armed => armed
        idle := fun missing => by cases missing
        connected := by rw [connection]; rfl
        silent := fun _ => rfl }

private theorem endpointEventRound_advances (stable : Related.Stable P) {again : Bool}
    (ran : run.endpointEventRound = .ok (next, again)) : run.Advances Related next := by
  rw [endpointEventRound] at ran
  split at ran
  · cases ran
  · rename_i handle conn connection
    dsimp only at ran
    split at ran <;> cases ran <;>
      exact Advances.quiet stable rfl rfl rfl rfl (by rw [connection]; rfl) fun armed => armed

private theorem pollEvents_preserves (stable : Related.Stable P) (fuel : Nat)
    (started now : Instant) :
    (pollEvents fuel started now : AppAct P Bool).Preserves Related := by
  have quiet : ∀ value, (pure value : AppAct P Bool).Preserves Related := by
    intro value side result last ran
    rw [(Act.pure_eq_ok.mp ran).2]
    exact stable.reflexive _
  have trans : ∀ first middle last : Side P,
      Related (first.app, first.records) (middle.app, middle.records) →
      Related (middle.app, middle.records) (last.app, last.records) →
      Related (first.app, first.records) (last.app, last.records) :=
    fun _ _ _ => stable.transitive _ _ _
  have round := stable.event fuel started now
  rw [pollEvents]
  apply Act.Keeps.bind trans round
  intro more
  cases more with
  | false => exact quiet false
  | true =>
      have looped : Act.Keeps (.loop .outOfFuel (eventRound fuel started now) fuel)
          fun side next : Side P => Related (side.app, side.records) (next.app, next.records) := by
        apply Act.Keeps.loop _ trans round
        intro side
        exact stable.reflexive _
      apply Act.Keeps.bind trans looped
      intro _
      exact quiet true

private theorem settle_advances (stable : Related.Stable P) (ran : run.settle = .ok next) :
    run.Advances Related next := by
  rw [settle, bind_eq_ok] at ran
  rcases ran with ⟨⟨result, driven⟩, acted, rest⟩
  have first := onSide_advances (stable.drive run.clock) acted
  cases result with
  | error error =>
      cases rest
      exact first.trans stable (leave_advances stable driven _)
  | ok done =>
      dsimp only at rest
      split at rest <;> cases rest
      · exact first.trans stable (leave_advances stable driven _)
      · exact first.trans stable (moveTo_advances stable _ rfl)

private theorem transmits_advances (stable : Related.Stable P)
    {again : Run P → Except Abort (Run P)}
    (rounds : ∀ {run next : Run P}, again run = .ok next → run.Advances Related next)
    (ran : run.transmits again = .ok next) : run.Advances Related next := by
  rw [transmits] at ran
  split at ran
  · cases ran
  · rename_i handle conn connection
    have polled : run.Advances Related (run.onConnection handle conn
        (.pollTransmit run.clock)).2 := by
      exact Advances.quiet stable rfl rfl rfl rfl (by rw [connection]; rfl) fun armed => armed
    split at ran
    · rename_i after answered
      rw [answered] at polled
      split at ran
      · exact polled.trans stable (rounds ran)
      · exact polled.trans stable (settle_advances stable ran)
    · rename_i packet after answered
      rw [answered] at polled
      have emitted : ∀ (progressed : Bool), after.Advances Related { after with
          progressed
          traffic := { after.traffic with
            sent := after.traffic.sent ++ [(after.wire.target, packet)] } } := by
        intro progressed
        exact {
          wire := rfl
          arrived := rfl
          late := rfl
          handed := rfl
          sent := ⟨[packet], rfl⟩
          side := stable.reflexive _
          armed := fun armed => armed
          idle := fun missing => ⟨missing, rfl⟩
          connected := rfl
          silent := by
            intro missing
            rw [onConnection, Prod.mk.injEq] at answered
            rw [← answered.2] at missing
            cases missing }
      have sent := fun progressed => polled.trans stable (emitted progressed)
      dsimp only at ran
      split at ran <;> cases ran
      · exact (sent after.progressed).trans stable (leave_advances stable _ _)
      · exact (sent true).trans stable (moveTo_advances stable _ rfl)

private theorem quiesce_advances (stable : Related.Stable P) : ∀ (fuel : Nat) {run next : Run P},
    run.quiesce fuel = .ok next → run.Advances Related next
  | 0, _, _, ran => by cases ran
  | fuel + 1, run, next, ran => by
      rw [quiesce, bind_eq_ok] at ran
      rcases ran with ⟨looped, events, rest⟩
      have begun : run.Advances Related { run with progressed := false } :=
        Advances.quiet stable rfl rfl rfl rfl rfl fun armed => armed
      have first := whileLoop.invariant (fun after => run.Advances Related after)
        (fun _ _ _ sofar round => sofar.trans stable (endpointEventRound_advances stable round))
        fuel begun events
      rw [bind_eq_ok] at rest
      rcases rest with ⟨⟨result, polled⟩, acted, rest⟩
      have second := first.trans stable
        (onSide_advances (pollEvents_preserves stable _ _ _) acted)
      cases result with
      | error error =>
          cases rest
          exact second.trans stable (leave_advances stable _ _)
      | ok more =>
          have third : polled.Advances Related
              { polled with progressed := polled.progressed || more } :=
            Advances.quiet stable rfl rfl rfl rfl rfl fun armed => armed
          exact (second.trans stable third).trans stable
            (transmits_advances stable (quiesce_advances stable fuel) rest)

private theorem pump_advances (stable : Related.Stable P) (ran : run.pump fuel = .ok next) :
    run.Advances Related next := by
  rw [pump] at ran
  split at ran
  · cases ran
    exact leave_advances stable _ _
  · split at ran
    · cases ran
      exact moveTo_advances stable _ rfl
    · exact quiesce_advances stable fuel ran

theorem timeouts_advances (stable : Related.Stable P) (run : Run P) :
    run.Advances Related run.timeouts := by
  rw [timeouts]
  split
  · exact Advances.quiet stable rfl rfl rfl rfl rfl fun armed => armed
  · rename_i handle conn connection
    split
    · exact Advances.quiet stable rfl rfl rfl rfl (by rw [connection]; rfl) fun armed => armed
    · exact Advances.quiet stable rfl rfl rfl rfl rfl fun armed => armed

def hand (run : Run P) (datagram : Bytes) : Run P :=
  { run with traffic := { run.traffic with handed := run.traffic.handed ++ [datagram] } }

private theorem handleDatagram_flows (stable : Related.Stable P) {datagram : Bytes}
    (ran : run.handleDatagram fuel datagram = .ok next) :
    (run.hand datagram).Flows Related next := by
  have quiet : ∀ (endpoint : P.Endpoint) (connection : Option (ConnectionHandle × P.Connection)),
      (connection = none → run.connection = none) →
      (run.hand datagram).Flows Related { run.hand datagram with endpoint, connection } := by
    intro endpoint connection held
    exact {
      wire := rfl
      arrived := rfl
      late := rfl
      handed := rfl
      sent := ⟨[], by simp⟩
      side := stable.reflexive _
      armed := fun armed => armed
      idle := fun missing => ⟨held missing, rfl⟩ }
  have pumped : ∀ (endpoint : P.Endpoint)
      (connection : Option (ConnectionHandle × P.Connection)) {last : Run P},
      (connection = none → run.connection = none) →
      ({ run.hand datagram with endpoint, connection } : Run P).pump fuel = .ok last →
      (run.hand datagram).Flows Related last := by
    intro endpoint connection last held ran
    exact (quiet endpoint connection held).trans stable (pump_advances stable ran).toFlows
  rw [handleDatagram] at ran
  dsimp only at ran
  split at ran
  · split at ran
    · split at ran
      · exact pumped _ _ (by simp_all) ran
      · exact pumped _ _ (by simp_all) ran
    · exact pumped _ _ (by simp_all) ran
  · split at ran
    · exact pumped _ _ (by simp_all) ran
    · split at ran
      · cases ran
        exact (quiet _ run.connection id).trans stable (leave_advances stable _ _).toFlows
      · exact pumped _ _ (by simp_all) ran
  · rename_i payload answered
    have emitted : ∀ (endpoint : P.Endpoint), (run.hand datagram).Flows Related
        { run.hand datagram with
          endpoint
          traffic := { (run.hand datagram).traffic with
            sent := run.traffic.sent ++ [(run.wire.target, payload)] } } := by
      intro endpoint
      exact {
        wire := rfl
        arrived := rfl
        late := rfl
        handed := rfl
        sent := ⟨[payload], rfl⟩
        side := stable.reflexive _
        armed := fun armed => armed
        idle := fun missing => ⟨missing, rfl⟩ }
    split at ran <;> cases ran
    · exact (emitted _).trans stable (leave_advances stable _ _).toFlows
    · exact (emitted _).trans stable (moveTo_advances stable _ rfl).toFlows
  · exact pumped _ _ (by simp_all) ran

private theorem receive_error {wire after : Wire} {arrived : Arrived} {error : String}
    (resolved : wire.receive arrived = some (.error error, after)) : arrived.datagrams = [] := by
  cases wire <;> rcases arrived with (⟨_ | ⟨_ | _⟩⟩ | ⟨_ | _⟩) <;> first | rfl | cases resolved

def note (run : Run P) (arrived : Arrived) (message : Option Bytes) : Run P :=
  { run with traffic := { run.traffic with
      arrived := run.traffic.arrived ++ arrived.datagrams
      handed := run.traffic.handed ++ message.toList } }

private theorem note_none (run : Run P) (arrived : Arrived) :
    run.note arrived none = run.noteArrived arrived := by
  rw [note, noteArrived, Option.toList_none, List.append_nil]

/-- What one step does: a turn of the loop, a receive the loop waits for, or a receive the
teardown waits for. -/
inductive Moves (Related : AppRelation) (brought : List Datagram) (run next : Run P) : Prop
  | turned (advances : run.Advances Related next) (nothing : brought = [])
  | received (arrived : Arrived) (message : Option Bytes) (wire : Wire)
      (selecting : run.phase = .selecting)
      (resolved : run.wire.receive arrived = some (.ok message, wire))
      (flows : ({ run with wire }.note arrived message).Flows Related next)
      (skips : message = none → ({ run with wire }.note arrived message).Advances Related next)
      (brings : brought = arrived.datagrams)
  | failed (arrived : Arrived) (error : String) (wire : Wire)
      (resolved : run.wire.receive arrived = some (.error error, wire))
      (advances : { run with wire, recv := false }.Advances Related next)
      (resolves : run.Armed → next.InFlight) (nothing : brought = [])
  | late (arrived : Arrived) (message : Option Bytes) (wire : Wire)
      (outcome : Except String Outcome) (closing : run.phase = .closing outcome)
      (resolved : run.wire.receive arrived = some (.ok message, wire))
      (same : next = { run with wire }.noteLate arrived) (brings : brought = arrived.datagrams)

private theorem receive_moves (stable : Related.Stable P) {arrived : Arrived}
    (ran : run.receive fuel arrived = .ok next) :
    run.Moves Related arrived.datagrams next := by
  rw [receive] at ran
  split at ran
  · cases ran
  · split at ran
    · cases ran
    · rename_i result wire resolved
      dsimp only at ran
      split at ran
      · rename_i message selecting
        split at ran
        · have advances := pump_advances stable ran
          rw [← note_none] at advances
          exact .received arrived none wire selecting resolved advances.toFlows
            (fun _ => advances) rfl
        · rename_i datagram
          exact .received arrived (some datagram) wire selecting resolved
            (handleDatagram_flows stable ran) (by simp) rfl
      · rename_i error selecting
        cases ran
        refine .failed arrived error wire resolved (leave_advances stable _ _) ?_
          (receive_error resolved)
        intro armed
        exact joined_inFlight _ _ rfl rfl
      · rename_i outcome message closing
        cases ran
        exact .late arrived message wire outcome closing resolved rfl rfl
      · rename_i outcome error closing
        cases ran
        refine .failed arrived error wire resolved ?_ ?_ (receive_error resolved)
        · refine Advances.quiet stable rfl rfl rfl rfl rfl ?_
          intro armed
          cases armed.2
        · intro armed
          have closed : run.wireClosed = true := by
            have flight := armed.1
            simp_all [InFlight, Phase.expects]
          exact joined_inFlight _ _ rfl closed
      · cases ran

theorem step_moves (stable : Related.Stable P) {input : Input}
    (stepped : run.step input = .ok next) : run.Moves Related input.datagrams next := by
  cases input with
  | advance elapsed =>
      cases stepped
      exact .turned (Advances.quiet stable rfl rfl rfl rfl rfl fun armed => armed) rfl
  | start fuel =>
      rw [step] at stepped
      split at stepped
      · exact .turned (pump_advances stable stepped) rfl
      · cases stepped
  | sent fuel result =>
      rw [step.eq_def] at stepped
      dsimp only at stepped
      split at stepped
      · exact .turned (transmits_advances stable (quiesce_advances stable fuel) stepped) rfl
      · exact .turned (pump_advances stable stepped) rfl
      · cases stepped
        exact .turned (leave_advances stable _ _) rfl
      · cases stepped
        exact .turned (leave_advances stable _ _) rfl
      · cases stepped
  | received fuel arrived => exact receive_moves stable stepped
  | ticked fuel =>
      rw [step] at stepped
      split at stepped
      · cases stepped
      · split at stepped
        · exact .turned ((timeouts_advances stable run).trans stable
            (pump_advances stable stepped)) rfl
        · cases stepped
          exact .turned (Advances.quiet stable rfl rfl rfl rfl rfl fun armed => armed) rfl
        · rename_i outcome ticking
          cases stepped
          refine .turned (Advances.quiet stable rfl rfl rfl rfl rfl ?_) rfl
          intro armed
          have flight := armed.1
          simp [InFlight, ticking, Phase.expects, armed.2] at flight
        · cases stepped

theorem Moves.side (stable : Related.Stable P) {brought : List Datagram}
    (moves : run.Moves Related brought next) :
    Related (run.app, run.records) (next.app, next.records) := by
  cases moves with
  | turned advances _ => exact advances.side
  | received _ _ _ _ _ flows _ _ => exact flows.side
  | failed _ _ _ _ advances _ _ => exact advances.side
  | late _ _ _ _ _ _ same _ =>
      rw [same]
      exact stable.reflexive _

inductive Leaves (run : Run P) : Run P → Prop
  | advanced (elapsed : Nat) : Leaves run { run with clock := run.clock + elapsed }
  | received (arrived : Arrived) (message : Option Bytes) (wire : Wire)
      (outcome : Except String Outcome) (closing : run.phase = .closing outcome)
      (resolved : run.wire.receive arrived = some (.ok message, wire)) :
      Leaves run ({ run with wire }.noteLate arrived)
  | failed (arrived : Arrived) (error : String) (wire : Wire)
      (outcome : Except String Outcome) (closing : run.phase = .closing outcome)
      (resolved : run.wire.receive arrived = some (.error error, wire)) :
      Leaves run ({ run with wire, recv := false }.joined outcome)
  | rearmed (outcome : Except String Outcome) (closing : run.phase = .closing outcome) :
      Leaves run run
  | ticked (outcome : Except String Outcome) (ticking : run.phase = .ticking outcome) :
      Leaves run ({ run with tick := false }.moveTo (.returned outcome))

theorem step_leaves (left : run.phase.left = true) {input : Input}
    (stepped : run.step input = .ok next) : run.Leaves next := by
  cases input with
  | advance elapsed =>
      cases stepped
      exact .advanced elapsed
  | start fuel =>
      rw [step] at stepped
      split at stepped <;> rename_i phase
      · rw [phase] at left
        cases left
      · cases stepped
  | sent fuel result =>
      rw [step.eq_def] at stepped
      dsimp only at stepped
      split at stepped <;> rename_i phase
      all_goals first
        | (rw [phase] at left; cases left)
        | cases stepped
  | received fuel arrived =>
      rw [step, receive] at stepped
      split at stepped
      · cases stepped
      · split at stepped
        · cases stepped
        · rename_i result wire resolved
          dsimp only at stepped
          split at stepped <;> rename_i phase
          · rw [phase] at left
            cases left
          · rw [phase] at left
            cases left
          · cases stepped
            exact .received arrived _ wire _ phase resolved
          · cases stepped
            exact .failed arrived _ wire _ phase resolved
          · cases stepped
  | ticked fuel =>
      rw [step] at stepped
      split at stepped
      · cases stepped
      · split at stepped <;> rename_i phase
        · rw [phase] at left
          cases left
        · cases stepped
          exact .rearmed _ phase
        · cases stepped
          exact .ticked _ phase
        · cases stepped

private theorem joined_left (run : Run P) (outcome : Except String Outcome) :
    (run.joined outcome).phase.left = true := by
  rw [joined]
  split <;> rfl

theorem step_left (left : run.phase.left = true) {input : Input}
    (stepped : run.step input = .ok next) : next.phase.left = true := by
  cases step_leaves left stepped with
  | advanced elapsed => exact left
  | received arrived message wire outcome closing resolved => exact left
  | failed arrived error wire outcome closing resolved => exact joined_left _ _
  | rearmed outcome closing => exact left
  | ticked outcome ticking => rfl

end Run

theorem spike_related {Related : AppRelation} (stable : Related.Stable P) {role : Role}
    {peer : Option EndpointId} {wire : Wire} {run : Run P}
    (reached : (spike P role peer wire).Reachable run) :
    Related (App.new role, []) (run.app, run.records) := by
  apply reached.invariant (fun run : Run P => Related (App.new role, []) (run.app, run.records))
  · rintro run ⟨draws, now, made, _, rfl⟩
    exact stable.reflexive _
  · intro run input next sofar _ stepped
    exact stable.transitive _ _ _ sofar ((Run.step_moves stable stepped).side stable)

end IrohEndpoint.Spike
