import IrohEndpoint.Spike.Loopback
import IrohEndpoint.Spike.Steps

/-! # The peer of a relay wire

A relay brings datagrams of anyone who knows the endpoint's id. A run over a relay wire
hears one peer only, and speaks to that peer only. -/

namespace IrohEndpoint.Spike

variable {P : Platform}

def tagged (datagrams : List Datagram) : List (EndpointId × Bytes) :=
  datagrams.map fun datagram => (datagram.source, datagram.payload)

namespace Run

variable {run next : Run P}

/-- The peer a run has heard: the one it was given, or else the first to send. -/
def heard (peer : Option EndpointId) (run : Run P) : Option EndpointId :=
  Pinning.settled peer (tagged run.traffic.arrived)

/-- What holds of a run over a relay wire that was given `peer`. -/
structure Bound (peer : Option EndpointId) (run : Run P) : Prop where
  wire : run.wire =
    .relay (Pinning.settled peer (tagged (run.traffic.arrived ++ run.traffic.late)))
  handed : run.traffic.handed = Pinning.taken peer (tagged run.traffic.arrived)
  known : run.connection.isSome = true → (run.heard peer).isSome = true
  sent : ∀ entry ∈ run.traffic.sent, ∃ id, run.heard peer = some id ∧ entry.1 = .ok (some id)
  late : run.traffic.late ≠ [] → run.phase.left = true

variable {peer : Option EndpointId}

theorem Bound.target (bound : run.Bound peer) {id : EndpointId}
    (heard : run.heard peer = some id) : run.wire.target = .ok (some id) := by
  rw [bound.wire, tagged, List.map_append]
  have still := Pinning.settled_stays heard (tagged run.traffic.late)
  simp only [tagged] at still
  rw [still]
  rfl

theorem Bound.sends (bound : run.Bound peer)
    (flows : run.Flows (fun _ _ => True) next) (known : (run.heard peer).isSome = true) :
    ∀ entry ∈ next.traffic.sent, ∃ id, next.heard peer = some id ∧ entry.1 = .ok (some id) := by
  have same : next.heard peer = run.heard peer := by rw [heard, heard, flows.arrived]
  rcases Option.isSome_iff_exists.mp known with ⟨id, heard⟩
  rcases flows.sent with ⟨packets, sent⟩
  intro entry member
  rw [sent, List.mem_append] at member
  rw [same]
  rcases member with old | new
  · exact bound.sent entry old
  · rcases List.mem_map.mp new with ⟨packet, _, rfl⟩
    exact ⟨id, heard, bound.target heard⟩

theorem Bound.advances (bound : run.Bound peer)
    (advances : run.Advances (fun _ _ => True) next)
    (left : run.phase.left = true → next.phase.left = true) : next.Bound peer where
  wire := by rw [advances.wire, advances.arrived, advances.late, bound.wire]
  handed := by rw [advances.handed, advances.arrived, bound.handed]
  known := by
    intro connected
    rw [advances.connected] at connected
    rw [heard, advances.arrived]
    exact bound.known connected
  sent := by
    cases connection : run.connection with
    | some pair => exact bound.sends advances.toFlows (bound.known (by simp [connection]))
    | none =>
        intro entry member
        rw [advances.silent connection] at member
        rw [heard, advances.arrived]
        exact bound.sent entry member
  late := by
    rw [advances.late]
    intro late
    exact left (bound.late late)

/-- A relay wire's receive resolves to the next datagram, taken if its sender is the
peer. -/
private theorem receive_relay {pin : Option EndpointId} {arrived : Arrived} {message : Option Bytes}
    {wire : Wire} (resolved : (Wire.relay pin).receive arrived = some (.ok message, wire)) :
    ∃ datagram, arrived = .relay (.ok datagram) ∧
      wire = .relay (Pinning.accept pin datagram.source).1 ∧
      message = if (Pinning.accept pin datagram.source).2 then some datagram.payload else none := by
  cases arrived with
  | channel result => cases result <;> cases resolved
  | relay result =>
      cases result with
      | error error =>
          simp [Wire.receive] at resolved
      | ok datagram =>
          simp only [Wire.receive, Option.some.injEq, Prod.mk.injEq, Except.ok.injEq] at resolved
          exact ⟨datagram, rfl, resolved.2.symm, resolved.1.symm⟩

private theorem receive_failed {pin : Option EndpointId} {arrived : Arrived} {error : String}
    {wire : Wire} (resolved : (Wire.relay pin).receive arrived = some (.error error, wire)) :
    wire = .relay pin := by
  cases arrived with
  | channel result => cases result <;> cases resolved
  | relay result =>
      cases result with
      | error other =>
          simp only [Wire.receive, Option.some.injEq, Prod.mk.injEq] at resolved
          exact resolved.2.symm
      | ok datagram => simp [Wire.receive] at resolved

theorem Bound.received (bound : run.Bound peer) {arrived : Arrived} {message : Option Bytes}
    {wire : Wire} (selecting : run.phase = .selecting)
    (resolved : run.wire.receive arrived = some (.ok message, wire)) :
    ({ run with wire }.note arrived message).Bound peer ∧
      (message.isSome = true → (({ run with wire }.note arrived message).heard peer).isSome) := by
  have early : run.traffic.late = [] := by
    by_contra late
    have left := bound.late late
    rw [selecting] at left
    cases left
  have pinned := bound.wire
  rw [early, List.append_nil] at pinned
  rw [pinned] at resolved
  rcases receive_relay resolved with ⟨datagram, rfl, rfl, rfl⟩
  have extended : tagged (run.traffic.arrived ++ [datagram]) =
      tagged run.traffic.arrived ++ [(datagram.source, datagram.payload)] := by
    simp [tagged]
  have settled : Pinning.settled peer (tagged (run.traffic.arrived ++ [datagram])) =
      (Pinning.accept (run.heard peer) datagram.source).1 := by
    rw [extended, Pinning.settled_append]
    rfl
  have someone : (Pinning.settled peer (tagged (run.traffic.arrived ++ [datagram]))).isSome := by
    rw [settled]
    cases run.heard peer <;> rfl
  refine ⟨?_, fun _ => someone⟩
  constructor
  · simp only [note, Arrived.datagrams, early, List.append_nil]
    rw [settled]
    rfl
  · simp only [note, Arrived.datagrams]
    rw [extended, Pinning.taken_append, bound.handed]
    split <;> simp
  · exact fun _ => someone
  · intro entry member
    rcases bound.sent entry member with ⟨id, heard, target⟩
    refine ⟨id, ?_, target⟩
    simp only [Run.heard, note, Arrived.datagrams]
    rw [extended]
    exact Pinning.settled_stays heard _
  · intro late
    exact absurd early late

private theorem Bound.late_received (bound : run.Bound peer) {arrived : Arrived}
    {message : Option Bytes} {wire : Wire} (left : run.phase.left = true)
    (resolved : run.wire.receive arrived = some (.ok message, wire)) :
    ({ run with wire }.noteLate arrived).Bound peer := by
  rw [bound.wire] at resolved
  rcases receive_relay resolved with ⟨datagram, rfl, rfl, rfl⟩
  exact {
    wire := by
      simp only [noteLate, Arrived.datagrams]
      have extended : tagged (run.traffic.arrived ++ (run.traffic.late ++ [datagram])) =
          tagged (run.traffic.arrived ++ run.traffic.late) ++
            [(datagram.source, datagram.payload)] := by
        simp [tagged]
      rw [extended, Pinning.settled_append]
    handed := bound.handed
    known := bound.known
    sent := bound.sent
    late := fun _ => left }

theorem Bound.step (bound : run.Bound peer) {input : Input}
    (stepped : run.step input = .ok next) : next.Bound peer := by
  have left := fun left => step_left left stepped
  cases step_moves AppRelation.stable_true stepped with
  | turned advances => exact bound.advances advances left
  | received arrived message wire selecting resolved flows skips =>
      rcases bound.received selecting resolved with ⟨noted, someone⟩
      have early : next.traffic.late ≠ [] → next.phase.left = true := by
        intro late
        rw [flows.late] at late
        have before := noted.late late
        rw [note, selecting] at before
        cases before
      cases message with
      | none =>
          apply noted.advances (skips rfl)
          intro before
          rw [note, selecting] at before
          cases before
      | some datagram =>
          exact {
            wire := by rw [flows.wire, flows.arrived, flows.late, noted.wire]
            handed := by rw [flows.handed, flows.arrived, noted.handed]
            known := by
              intro _
              rw [heard, flows.arrived]
              exact someone rfl
            sent := noted.sends flows (someone rfl)
            late := early }
  | failed arrived error wire resolved advances resolves =>
      have same : wire = run.wire := by
        rw [bound.wire] at resolved ⊢
        exact receive_failed resolved
      subst same
      have unread : ({ run with recv := false } : Run P).Bound peer :=
        ⟨bound.wire, bound.handed, bound.known, bound.sent, bound.late⟩
      exact unread.advances advances left
  | late arrived message wire outcome closing resolved same =>
      rw [same]
      exact bound.late_received (by rw [closing]; rfl) resolved

end Run

theorem spike_bound {role : Role} {peer : Option EndpointId} {run : Run P}
    (reached : (spike P role peer (.relay peer)).Reachable run) : run.Bound peer := by
  apply reached.invariant (fun run : Run P => run.Bound peer)
  · rintro run ⟨draws, now, made, built, rfl⟩
    constructor
    · cases peer <;> rfl
    · cases peer <;> rfl
    · intro connected
      cases role with
      | client message =>
          cases peer with
          | none => cases built
          | some id => rfl
      | server =>
          have unconnected : made.2 = none := by
            simp only [Run.setup, bind_eq_ok] at built
            rcases built with ⟨_, _, _, _, _, _, _, _, same⟩
            cases same
            rfl
          simp [Run.begin, unconnected] at connected
    · simp [Run.begin]
    · simp [Run.begin]
  · intro run input next bound _ stepped
    exact bound.step stepped

theorem Run.Bound.handed_from {peer : Option EndpointId} {run : Run P} (bound : run.Bound peer)
    {id : EndpointId} (heard : run.heard peer = some id) :
    run.traffic.handed = (run.traffic.arrived.filter fun datagram =>
      datagram.source = id).map Datagram.payload := by
  rw [Run.heard] at heard
  rw [bound.handed, Pinning.taken, heard, tagged, List.filter_map, List.map_map]
  simp only [Function.comp_def, Option.some.injEq, eq_comm]

/-- In every run over a relay, QUIC hears one peer and speaks to that peer: the one the run
was given, or else the first to send. The datagrams handed to noq are all of that peer's
that reached the loop, in order, and nobody else's; every packet goes to that peer, and
none is ever sent before there is one. -/
theorem relay_wire_stays_pinned {role : Role} {peer : Option EndpointId} {run : Run P}
    (reached : (spike P role peer (.relay peer)).Reachable run) :
    run.traffic.handed = (run.traffic.arrived.filter fun datagram =>
      run.heard peer = some datagram.source).map Datagram.payload ∧
    (∀ entry ∈ run.traffic.sent, ∃ id, run.heard peer = some id ∧ entry.1 = .ok (some id)) ∧
    ∀ id, run.heard peer = some id → run.wire.peer = some id := by
  have bound := spike_bound reached
  refine ⟨?_, bound.sent, ?_⟩
  · rw [bound.handed, Pinning.taken, tagged, List.filter_map, List.map_map]
    rfl
  · intro id heard
    rw [bound.wire, tagged, List.map_append]
    exact Pinning.settled_stays heard _

namespace Loopback

def stranger : EndpointId := ⟨List.replicate 32 9, by simp⟩

def relayed (source : EndpointId) (payload : Bytes) : Input :=
  .received 9 (.relay (.ok ⟨source, payload⟩))

end Loopback

/-- A server greeted by one peer, then by another. -/
theorem relay_wire_stays_pinned_greeted :
    ∃ run : Run Loopback.platform,
      (spike Loopback.platform .server none (.relay none)).Reachable run ∧
      run.traffic.arrived = [⟨Loopback.key, [0]⟩, ⟨Loopback.stranger, [0]⟩] ∧
      run.traffic.handed = [[0]] ∧ run.traffic.sent.length = 1 ∧
      (∀ entry ∈ run.traffic.sent, ∃ id, run.heard none = some id ∧ entry.1 = .ok (some id)) ∧
      run.wire.peer = some Loopback.key := by
  have passed : (spike Loopback.platform .server none (.relay none)).runs (fun _ _ => true)
      (Loopback.begun .server (.relay none))
      (.start 9 :: Loopback.relayed Loopback.key [0] :: Loopback.sends 1 ++
        [Loopback.relayed Loopback.stranger [0]])
      (fun run => decide (run.traffic.arrived =
          [⟨Loopback.key, [0]⟩, ⟨Loopback.stranger, [0]⟩]) &&
        decide (run.traffic.sent.length = 1)) = true := by
    decide +kernel
  rcases System.Reachable.of_runs (Loopback.begun_initial _ _ _ (by simp)) passed with
    ⟨run, reached, tested⟩
  simp only [Bool.and_eq_true, decide_eq_true_eq] at tested
  rcases tested with ⟨arrived, sent⟩
  rcases relay_wire_stays_pinned reached with ⟨handed, targets, bound⟩
  have heard : run.heard none = some Loopback.key := by
    rw [Run.heard, arrived]
    rfl
  refine ⟨run, reached, arrived, ?_, sent, targets, bound _ heard⟩
  rw [handed, heard, arrived]
  decide

end IrohEndpoint.Spike
