import IrohEndpoint.Foundation.Parallel
import IrohEndpoint.Spike.Loopback
import IrohEndpoint.Spike.Sides

/-! # What a finished exchange shows

A client and a server run beside each other over connections that carry streams and
datagrams as QUIC does. Whichever side's run succeeds, the other has what it was sent. -/

namespace IrohEndpoint.Spike

variable {P : Platform}

/-! ## A run that succeeds is done -/

namespace Run

variable {run next : Run P} {fuel : Nat}

def Honest (run : Run P) : Prop :=
  ∀ outcome, run.phase.outcome = some (.ok outcome) →
    run.app.doneAt.isSome = true ∧ run.app.finish = .ok outcome

private theorem joined_honest {result : Except String Outcome}
    (earned : ∀ outcome, result = .ok outcome →
      run.app.doneAt.isSome = true ∧ run.app.finish = .ok outcome) :
    (run.joined result).Honest := by
  intro outcome succeeds
  have same : result = .ok outcome := by
    rw [joined] at succeeds
    split at succeeds <;> simpa [moveTo, Phase.outcome] using succeeds
  exact earned outcome same

private theorem leave_honest {result : Except String Outcome}
    (earned : ∀ outcome, result = .ok outcome →
      run.app.doneAt.isSome = true ∧ run.app.finish = .ok outcome) :
    (run.leave result).Honest := by
  rw [leave]
  split
  · intro outcome succeeds
    exact earned outcome (by simpa [moveTo, Phase.outcome] using succeeds)
  · exact joined_honest earned

private theorem leave_error_honest (run : Run P) (error : String) :
    (run.leave (.error error)).Honest :=
  leave_honest (by simp)

private theorem moveTo_honest {phase : Phase} (stays : phase.outcome = none) :
    (run.moveTo phase).Honest := by
  intro outcome succeeds
  simp [moveTo, stays] at succeeds

private theorem settle_honest (ran : run.settle = .ok next) : next.Honest := by
  rw [settle, bind_eq_ok] at ran
  rcases ran with ⟨⟨result, driven⟩, _, rest⟩
  cases result with
  | error error =>
      cases rest
      exact leave_error_honest _ _
  | ok done =>
      dsimp only at rest
      split at rest <;> cases rest
      · rename_i finished
        apply leave_honest
        intro outcome same
        refine ⟨?_, same⟩
        rcases Option.any_eq_true_iff_get .. |>.mp finished with ⟨some, _⟩
        exact some
      · exact moveTo_honest rfl

private theorem transmits_honest {again : Run P → Except Abort (Run P)}
    (rounds : ∀ {run next : Run P}, again run = .ok next → next.Honest)
    (ran : run.transmits again = .ok next) : next.Honest := by
  rw [transmits] at ran
  split at ran
  · cases ran
  · split at ran
    · split at ran
      · exact rounds ran
      · exact settle_honest ran
    · dsimp only at ran
      split at ran <;> cases ran
      · exact leave_error_honest _ _
      · exact moveTo_honest rfl

private theorem quiesce_honest : ∀ (fuel : Nat) {run next : Run P},
    run.quiesce fuel = .ok next → next.Honest
  | 0, _, _, ran => by cases ran
  | fuel + 1, run, next, ran => by
      rw [quiesce, bind_eq_ok] at ran
      rcases ran with ⟨looped, _, rest⟩
      rw [bind_eq_ok] at rest
      rcases rest with ⟨⟨result, polled⟩, _, rest⟩
      cases result with
      | error error =>
          cases rest
          exact leave_error_honest _ _
      | ok more => exact transmits_honest (quiesce_honest fuel) rest

private theorem pump_honest (ran : run.pump fuel = .ok next) : next.Honest := by
  rw [pump] at ran
  split at ran
  · cases ran
    exact leave_error_honest _ _
  · split at ran
    · cases ran
      exact moveTo_honest rfl
    · exact quiesce_honest fuel ran

private theorem handleDatagram_honest {datagram : Bytes}
    (ran : run.handleDatagram fuel datagram = .ok next) : next.Honest := by
  rw [handleDatagram] at ran
  dsimp only at ran
  split at ran
  · split at ran
    · split at ran <;> exact pump_honest ran
    · exact pump_honest ran
  · split at ran
    · exact pump_honest ran
    · split at ran
      · cases ran
        exact leave_error_honest _ _
      · exact pump_honest ran
  · split at ran <;> cases ran
    · exact leave_error_honest _ _
    · exact moveTo_honest rfl
  · exact pump_honest ran

private theorem receive_honest (honest : run.Honest) {arrived : Arrived}
    (ran : run.receive fuel arrived = .ok next) : next.Honest := by
  rw [receive] at ran
  split at ran
  · cases ran
  · split at ran
    · cases ran
    · dsimp only at ran
      split at ran
      · split at ran
        · exact pump_honest ran
        · exact handleDatagram_honest ran
      · cases ran
        apply leave_honest
        intro outcome earned
        rw [lost] at earned
        split at earned
        · rename_i done
          rw [Bool.and_eq_true] at done
          exact ⟨done.1, earned⟩
        · cases earned
      · cases ran
        exact honest
      · rename_i closing _
        cases ran
        apply joined_honest
        intro outcome same
        exact honest outcome (by rw [closing, same]; rfl)
      · cases ran

private theorem step_honest (honest : run.Honest) {input : Input}
    (stepped : run.step input = .ok next) : next.Honest := by
  cases input with
  | advance elapsed =>
      cases stepped
      exact honest
  | start fuel =>
      rw [step] at stepped
      split at stepped
      · exact pump_honest stepped
      · cases stepped
  | sent fuel result =>
      rw [step.eq_def] at stepped
      dsimp only at stepped
      split at stepped
      · exact transmits_honest (quiesce_honest fuel) stepped
      · exact pump_honest stepped
      · cases stepped
        exact leave_error_honest _ _
      · cases stepped
        exact leave_error_honest _ _
      · cases stepped
  | received fuel arrived => exact receive_honest honest stepped
  | ticked fuel =>
      rw [step] at stepped
      split at stepped
      · cases stepped
      · split at stepped
        · exact pump_honest stepped
        · cases stepped
          exact honest
        · rename_i outcome ticking
          cases stepped
          intro earned succeeds
          apply honest earned
          rw [ticking]
          exact succeeds
        · cases stepped

end Run

theorem spike_honest {role : Role} {peer : Option EndpointId} {wire : Wire} {run : Run P}
    (reached : (spike P role peer wire).Reachable run) : run.Honest := by
  apply reached.invariant (fun run : Run P => run.Honest)
  · rintro run ⟨draws, now, made, _, rfl⟩
    intro outcome succeeds
    cases succeeds
  · intro run input next honest _ stepped
    exact Run.step_honest honest stepped

private theorem App.finish_received {app : App} {outcome : Outcome}
    (finished : app.finish = .ok outcome) :
    app.received = some outcome.received := by
  rw [App.finish] at finished
  split at finished <;> cases finished
  assumption

/-! ## Two sides -/

/-- What QUIC carries from one side to the other: the end of a stream is read once all that
was written on it was, datagrams come unchanged from who sent them, and a close comes from
who closed. -/
structure Carries (sender receiver : List Record) : Prop where
  stream : ∀ id, Ended id receiver →
    Finished id sender ∧ readBytes id receiver = writtenBytes id sender
  datagram : ∀ data, .got (some data) ∈ receiver → ∃ answer, .sent data answer ∈ sender
  closing : Lost receiver → ∃ code reason, .closed code reason ∈ sender

abbrev exchange (P : Platform) (message : String) (server client : Option EndpointId)
    (clientWire serverWire : Wire) : System (Run P × Run P) (Input ⊕ Input) Abort :=
  (spike P (.client message) server clientWire).beside (spike P .server client serverWire)

/-- Both connections of an exchange behave as QUIC connections do. -/
structure Connected (pair : Run P × Run P) : Prop where
  client : Sound pair.1.records
  server : Sound pair.2.records
  there : Carries pair.1.records pair.2.records
  back : Carries pair.2.records pair.1.records

section Exchange

variable {message : String} {client server : Run P}

theorem ClientKeeps.answered (connected : Connected (client, server))
    (asked : ClientKeeps P message client.app client.records)
    (served : ServerKeeps P server.app server.records) {text : String}
    (received : client.app.received = some text) :
    text = P.toUppercase message ∧ server.app.received = some message := by
  rcases asked.reading.received text received with ⟨id, own, ended, whole⟩
  have back := connected.back.stream id ended
  have answered : server.app.received ≠ none :=
    fun unreceived => (served.silent unreceived id).2 back.1
  rcases Option.ne_none_iff_exists'.mp answered with ⟨heard, some⟩
  rcases (served.submitted heard some id).2 back.1 with ⟨shared, echo⟩
  rcases served.reading.received heard some with ⟨other, same, asks, question⟩
  rw [shared] at same
  cases same
  have there := connected.there.stream id asks
  have sent := ((asked.submitted id).2 there.1).2
  have original : heard = message := by
    rw [question, served.reading.inbound id shared, there.2, sent, fromUtf8Lossy_asBytes]
  refine ⟨?_, by rw [some, original]⟩
  rw [whole, asked.reading.inbound id own, back.2, echo, fromUtf8Lossy_asBytes, original]

theorem ClientKeeps.returned (connected : Connected (client, server))
    (asked : ClientKeeps P message client.app client.records)
    (served : ServerKeeps P server.app server.records)
    (closed : client.app.closeSent = true) :
    client.app.datagramReceived = some (datagramFor message) ∧
      .got (some (datagramFor message)) ∈ server.records ∧
      client.app.received.isSome = true := by
  rcases Option.isSome_iff_exists.mp (asked.closing closed) with ⟨data, echoed⟩
  rcases asked.echoed data echoed with ⟨rfl, got⟩
  rcases connected.back.datagram _ got with ⟨_, sent⟩
  have heard := served.sent _ _ sent
  rcases connected.there.datagram _ heard with ⟨_, first⟩
  exact ⟨echoed, heard, (asked.sent _ _ first).2⟩

end Exchange

/-- In every run of a client beside a server, over connections that carry what QUIC
carries: if the client's run succeeds, it received its message in upper case, the server
received the message and the datagram; if the server's run succeeds, it received the
message, and the client received its answer and its datagram. -/
theorem exchange_agrees {message : String} {serverId clientId : Option EndpointId}
    {clientWire serverWire : Wire} {client server : Run P}
    (reached : (exchange P message serverId clientId clientWire serverWire).Reachable
      (client, server)) (connected : Connected (client, server)) :
    (∀ outcome, client.phase = .returned (.ok outcome) →
      outcome.received = P.toUppercase message ∧ server.app.received = some message ∧
      .got (some (datagramFor message)) ∈ server.records) ∧
    (∀ outcome, server.phase = .returned (.ok outcome) →
      outcome.received = message ∧
      client.app.received = some (P.toUppercase message) ∧
      client.app.datagramReceived = some (datagramFor message)) := by
  rcases reached.of_beside with ⟨asking, serving⟩
  have asked := client_keeps asking connected.client
  have served := server_keeps serving connected.server
  constructor
  · intro outcome succeeds
    rcases spike_honest asking outcome (by rw [succeeds]; rfl) with ⟨done, finished⟩
    have closed : client.app.closeSent = true := by
      rcases asked.done done with closed | lost
      · exact closed
      · rcases connected.back.closing lost with ⟨code, reason, impossible⟩
        exact absurd impossible (served.unclosed code reason)
    have answer := asked.answered connected served (App.finish_received finished)
    exact ⟨answer.1, answer.2, (asked.returned connected served closed).2.1⟩
  · intro outcome succeeds
    rcases spike_honest serving outcome (by rw [succeeds]; rfl) with ⟨done, finished⟩
    rcases connected.there.closing (served.done done).2 with ⟨code, reason, closed⟩
    have returned := asked.returned connected served (asked.closed code reason closed)
    rcases Option.isSome_iff_exists.mp returned.2.2 with ⟨text, received⟩
    have answer := asked.answered connected served received
    have heard := App.finish_received finished
    rw [answer.2] at heard
    cases heard
    exact ⟨rfl, by rw [received, answer.1], returned.1⟩

/-! ## An exchange -/

namespace Loopback

/-- What the client and the server of one exchange of `a` did. -/
def asked : List Record :=
  [.polled .connected, .opened (some 0), .wrote 0 (asBytes "a") (.ok 1), .finished 0 (.ok ()),
    .polled (.opened .bi), .polled (.readable 0), .read 0 (some ([asBytes "A"], .finished)),
    .sent (datagramFor "a") (.ok ()), .sent (datagramFor "a") (.ok ()),
    .sent (datagramFor "a") (.ok ()), .polled .datagramReceived,
    .got (some (datagramFor "a")), .got none, .closed 0 (asBytes "done")]

def served : List Record :=
  [.polled .connected, .polled (.opened .bi), .accepted (some 0),
    .read 0 (some ([asBytes "a"], .finished)), .wrote 0 (asBytes "A") (.ok 1),
    .finished 0 (.ok ()), .polled (.readable 0), .read 0 none, .polled .datagramReceived,
    .got (some (datagramFor "a")), .sent (datagramFor "a") (.ok ()),
    .sent (datagramFor "a") (.ok ()), .sent (datagramFor "a") (.ok ()), .got none,
    .polled (.connectionLost (.applicationClosed "closed"))]

def turns : List (Input ⊕ Input) :=
  List.flatten [
    (.start 9 :: sends 1).map .inl,
    (.start 9 :: brought [0] :: sends 1).map .inr,
    (brought [1] :: sends 1).map .inl,
    (brought (2 :: asBytes "a") :: sends 1).map .inr,
    (brought (2 :: asBytes "A") :: .ticked 9 :: sends 3).map .inl,
    (brought (3 :: datagramFor "a") :: sends 3).map .inr,
    (brought (3 :: datagramFor "a") :: .ticked 9 :: sends 1).map .inl,
    [.inr (brought [4])],
    lingers.map .inl,
    lingers.map .inr]

theorem connected {pair : Run platform × Run platform} (client : pair.1.records = asked)
    (server : pair.2.records = served) : Connected pair := by
  constructor
  · rw [client]
    exact ⟨by decide, by simp [asked, Record.Precedes]⟩
  · rw [server]
    refine ⟨by decide, ?_⟩
    simp +contextual [served, Record.Precedes, eq_comm]
  · rw [client, server]
    constructor
    · rintro id ⟨chunks, member⟩
      simp only [served, List.mem_cons, reduceCtorEq, Record.read.injEq, false_or, or_false,
        List.not_mem_nil, and_false] at member
      rcases member with ⟨rfl, _⟩
      exact ⟨by simp [Finished, asked], by decide⟩
    · intro data member
      simp only [served, List.mem_cons, reduceCtorEq, Record.got.injEq, false_or, or_false,
        List.not_mem_nil, Option.some.injEq] at member
      exact ⟨.ok (), by simp [asked, member]⟩
    · intro _
      exact ⟨0, asBytes "done", by simp [asked]⟩
  · rw [client, server]
    constructor
    · rintro id ⟨chunks, member⟩
      simp only [asked, List.mem_cons, reduceCtorEq, Record.read.injEq, false_or, or_false,
        List.not_mem_nil] at member
      rcases member with ⟨rfl, _⟩
      exact ⟨by simp [Finished, served], by decide⟩
    · intro data member
      simp only [asked, List.mem_cons, reduceCtorEq, Record.got.injEq, false_or, or_false,
        List.not_mem_nil, Option.some.injEq] at member
      exact ⟨.ok (), by simp [served, member]⟩
    · rintro ⟨display, member⟩
      simp [asked] at member

end Loopback

theorem exchange_agrees_echo :
    ∃ client server : Run Loopback.platform,
      (exchange Loopback.platform "a" (some Loopback.key) none .channel .channel).Reachable
        (client, server) ∧
      client.phase = .returned (.ok ⟨Loopback.key, 0, 0, "A"⟩) ∧
      server.phase = .returned (.ok ⟨Loopback.key, 0, 0, "a"⟩) ∧
      server.app.received = some "a" ∧ client.app.received = some "A" := by
  have passed : (exchange Loopback.platform "a" (some Loopback.key) none .channel
      .channel).runs (fun _ _ => true)
      (Loopback.begun (.client "a") .channel, Loopback.begun .server .channel) Loopback.turns
      (fun pair => decide (pair.1.records = Loopback.asked) &&
        decide (pair.2.records = Loopback.served) &&
        decide (pair.1.phase = .returned (.ok ⟨Loopback.key, 0, 0, "A"⟩)) &&
        decide (pair.2.phase = .returned (.ok ⟨Loopback.key, 0, 0, "a"⟩))) = true := by
    decide +kernel
  have initial : (exchange Loopback.platform "a" (some Loopback.key) none .channel
      .channel).Initial
      (Loopback.begun (.client "a") .channel, Loopback.begun .server .channel) :=
    ⟨Loopback.begun_initial _ _ _ (by simp), Loopback.begun_initial _ _ _ (by simp)⟩
  rcases System.Reachable.of_runs initial passed with ⟨⟨client, server⟩, reached, tested⟩
  simp only [Bool.and_eq_true, decide_eq_true_eq] at tested
  rcases tested with ⟨⟨⟨clientRecords, serverRecords⟩, clientDone⟩, serverDone⟩
  have agreed := exchange_agrees reached
    (Loopback.connected clientRecords serverRecords)
  have answer := (agreed.1 _ clientDone).2.1
  have echo := (agreed.2 _ serverDone).2.1
  have upper : Loopback.platform.toUppercase "a" = "A" := by decide +kernel
  rw [upper] at echo
  exact ⟨client, server, reached, clientDone, serverDone, answer, echo⟩

end IrohEndpoint.Spike
