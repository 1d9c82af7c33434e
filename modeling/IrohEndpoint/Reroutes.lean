import IrohEndpoint.Redials

/-! # The routes a dial moves

A dial that goes over a relay moves the peer's standin to it before noq is asked, and
nothing moves it back when the dial fails. No other step of a connect call touches the
route of a standin. -/

namespace IrohEndpoint

variable {P : Platform}

/-- What a stretch of a dial to `addr` does to the routes. -/
inductive Rerouting (addr : EndpointAddr) (state : State P) (result : Connecting × State P) :
    Prop
  | kept : result.2.routes = state.routes → Rerouting addr state result
  | moved (peer : EndpointId) (key : UInt32) : peer.bytes = addr.endpointId →
      result.2.dialKey? addr = some key → state.Redials peer key result.2 →
      (∀ phase, result.1 = .suspended phase → phase.ensure? = none) →
      Rerouting addr state result

private theorem Stretch.rerouting {addr : EndpointAddr} {dial : Dial} {state : State P}
    {result : Connecting × State P} (stretch : Stretch addr dial state result) :
    Rerouting addr state result := by
  rcases stretch.moves with ⟨_, same⟩ | ⟨key, _, keyed, redials, _, stops⟩
  · exact .kept (State.routes_of_tables same)
  · exact .moved dial.peer key stretch.of_.peer keyed redials stops

/-! ## The steps of a call -/

/-- The address a connect call was given, and the steps it took. -/
structure DialTrace (P : Platform) where
  addr : EndpointAddr
  steps : List (Config P × Config P)

abbrev DialTraces (P : Platform) := Nat → Option (DialTrace P)

namespace DialTrace

def record (trace : DialTrace P) (config next : Config P) : DialTrace P :=
  { trace with steps := trace.steps ++ [(config, next)] }

def Quiet (steps : List (Config P × Config P)) : Prop :=
  ∀ step ∈ steps, step.2.state.routes = step.1.state.routes

/-- The call touched no route, or the route of the standin it dialed, in the step that
asked noq. -/
def Told (trace : DialTrace P) : Prop :=
  Quiet trace.steps ∨ ∃ early asked late peer key, trace.steps = early ++ asked :: late ∧
    Quiet early ∧ Quiet late ∧ peer.bytes = trace.addr.endpointId ∧
    asked.2.state.dialKey? trace.addr = some key ∧
    State.Redials peer key asked.1.state asked.2.state

theorem Quiet.append {steps : List (Config P × Config P)} (quiet : Quiet steps)
    {config next : Config P} (same : next.state.routes = config.state.routes) :
    Quiet (steps ++ [(config, next)]) := by
  intro step member
  rcases List.mem_append.mp member with old | new
  · exact quiet step old
  · rw [List.mem_singleton] at new
    subst new
    exact same

theorem Told.record {trace : DialTrace P} (told : trace.Told) {config next : Config P}
    (same : next.state.routes = config.state.routes) : (trace.record config next).Told := by
  rcases told with quiet | ⟨early, asked, late, peer, key, split, before, after, dialed⟩
  · exact .inl (quiet.append same)
  · refine .inr ⟨early, asked, late ++ [(config, next)], peer, key, ?_, before,
      after.append same, dialed⟩
    rw [DialTrace.record, split]
    simp

end DialTrace

def Config.traceDials (log : DialTraces P) (config : Config P) (action : Action)
    (next : Config P) : DialTraces P :=
  match action with
  | .invoke (.connect addr _) => fun id =>
      if id = config.fresh then some ⟨addr, [(config, next)]⟩ else log id
  | .resume call _ => fun id =>
      if id = call then (log id).map fun trace => trace.record config next else log id
  | _ => log

variable (P) in
def dialing : System (Config P × DialTraces P) Action Abort :=
  (endpoint P).observed (fun _ => none) Config.traceDials

/-- A call that still opens relays has touched no route. -/
structure Traced (config : Config P) (log : DialTraces P) : Prop where
  numbered : ∀ id, config.calls.get? id ≠ none → id < config.fresh
  unlogged : ∀ id, config.fresh ≤ id → log id = none
  pending : ∀ id addr phase, config.calls.get? id = some (.connect addr phase) →
    ∃ steps, log id = some ⟨addr, steps⟩ ∧
      (phase.ensure?.isSome = true → DialTrace.Quiet steps)
  told : ∀ id trace, log id = some trace → trace.Told

namespace Traced

variable {config next : Config P} {log later : DialTraces P}

theorem bystander (traced : Traced config log) (calls : next.calls = config.calls)
    (fresh : config.fresh ≤ next.fresh) : Traced next log := by
  refine ⟨?_, ?_, ?_, traced.told⟩
  · intro id pending
    rw [calls] at pending
    exact Nat.lt_of_lt_of_le (traced.numbered id pending) fresh
  · intro id above
    exact traced.unlogged id (Nat.le_trans fresh above)
  · rw [calls]
    exact traced.pending

/-- A step of a call that does not dial in it. -/
theorem touches (traced : Traced config log) {hands : Bool} {id : Nat}
    (touches : Config.Touches hands id config next)
    (others : ∀ other, other ≠ id → later other = log other)
    (own : later id = log id ∨ later id = (log id).map fun trace => trace.record config next) :
    Traced next later := by
  have routes : next.state.routes = config.state.routes := by
    rcases touches.state with ⟨_, _, _, _, equal⟩
    rw [equal]
  have recorded : ∀ trace, log id = some trace → later id = some trace ∨
      later id = some (trace.record config next) := by
    intro trace logged
    rw [logged] at own
    exact own
  refine ⟨?_, ?_, ?_, ?_⟩
  · intro other pending
    by_cases mine : other = id
    · subst mine
      rcases touches.numbered pending with old | new
      · exact Nat.lt_of_lt_of_le (traced.numbered other old) touches.fresh_le
      · exact new
    · rw [touches.others other mine] at pending
      exact Nat.lt_of_lt_of_le (traced.numbered other pending) touches.fresh_le
  · intro other above
    have absent := traced.unlogged other (Nat.le_trans touches.fresh_le above)
    by_cases mine : other = id
    · subst mine
      rw [absent] at own
      simpa using own
    · rw [others other mine]
      exact absent
  · intro other addr phase found
    by_cases mine : other = id
    · subst mine
      rcases traced.pending other addr phase (touches.undialed addr phase found) with
        ⟨steps, logged, quiet⟩
      rcases recorded _ logged with kept | grown
      · exact ⟨steps, kept, quiet⟩
      · exact ⟨_, grown, fun opens => (quiet opens).append routes⟩
    · rw [touches.others other mine] at found
      rw [others other mine]
      exact traced.pending other addr phase found
  · intro other trace logged
    by_cases mine : other = id
    · subst mine
      cases before : log other with
      | none =>
          rw [before] at own
          simp [logged] at own
      | some earlier =>
          have told := traced.told other earlier before
          rcases recorded earlier before with kept | grown
          · rw [kept] at logged
            cases logged
            exact told
          · rw [grown] at logged
            cases logged
            exact told.record routes
    · rw [others other mine] at logged
      exact traced.told other trace logged

/-- A stretch of a dial. -/
theorem stretch (traced : Traced config log) {id fresh : Nat} {addr : EndpointAddr}
    {steps : List (Config P × Config P)} {progress : Connecting × State P}
    (fresh_le : config.fresh ≤ fresh) (own : id < fresh) (quiet : DialTrace.Quiet steps)
    (rerouting : Rerouting addr config.state progress)
    (made : next = ({ config with fresh } : Config P).connecting id addr progress)
    (others : ∀ other, other ≠ id → later other = log other)
    (recorded : later id = some ⟨addr, steps ++ [(config, next)]⟩) : Traced next later := by
  have grown := Config.connecting_fresh ({ config with fresh } : Config P) id addr progress
  have state : next.state = progress.2 := by
    rcases Config.connecting_frame ({ config with fresh } : Config P) id addr progress with
      ⟨_, _, _, _, frame⟩
    rw [made, frame]
  have calls : ∀ {other : Nat}, other ≠ id →
      next.calls.get? other = config.calls.get? other := by
    intro other apart
    rw [made]
    exact Config.connecting_other ({ config with fresh } : Config P) id addr progress apart
  have still : progress.2.routes = config.state.routes →
      DialTrace.Quiet (steps ++ [(config, next)]) := by
    intro same
    apply quiet.append
    rw [state, same]
  rw [← made] at grown
  refine ⟨?_, ?_, ?_, ?_⟩
  · intro other pending
    by_cases mine : other = id
    · rw [mine]
      exact Nat.lt_of_lt_of_le own grown
    · rw [calls mine] at pending
      exact Nat.lt_of_lt_of_le (traced.numbered other pending) (Nat.le_trans fresh_le grown)
  · intro other above
    have beyond : fresh ≤ other := Nat.le_trans grown above
    rw [others other (by omega)]
    exact traced.unlogged other (Nat.le_trans fresh_le beyond)
  · intro other there phase found
    by_cases mine : other = id
    · subst mine
      rw [made] at found
      rcases Config.connecting_calls _ other addr progress found with
        ⟨_, after, suspended, equal⟩ | ⟨apart, _⟩
      · cases equal
        refine ⟨_, recorded, ?_⟩
        intro opens
        cases rerouting with
        | kept same => exact still same
        | moved peer key _ _ _ stops =>
            rw [stops phase suspended] at opens
            cases opens
      · exact absurd rfl apart
    · rw [calls mine] at found
      rw [others other mine]
      exact traced.pending other there phase found
  · intro other trace logged
    by_cases mine : other = id
    · subst mine
      rw [recorded] at logged
      cases logged
      cases rerouting with
      | kept same => exact .inl (still same)
      | moved peer key named keyed redials _ =>
          refine .inr ⟨steps, (config, next), [], peer, key, rfl, quiet, ?_, named, ?_, ?_⟩
          · intro step member
            cases member
          · rw [state]
            exact keyed
          · rw [state]
            exact redials
    · rw [others other mine] at logged
      exact traced.told other trace logged

theorem initially (noq : P.Endpoint) (webrtc udp : Bool) (relay : String) (clock : Instant) :
    Traced (Config.bind noq webrtc udp relay clock) (fun _ => none) := by
  refine ⟨?_, fun _ _ => rfl, ?_, ?_⟩
  · intro id pending
    simp [Config.bind] at pending
  · intro id addr phase found
    simp [Config.bind] at found
  · intro id trace logged
    cases logged

theorem invoked (traced : Traced config log) {method : Method}
    (ran : config.invoke method = .ok next) :
    Traced next (config.traceDials log (.invoke method) next) := by
  rcases Config.invoke_cases ran with
    ⟨addr, alpn, rfl, made⟩ | ⟨_, rfl, rfl⟩ | ⟨other, touched⟩
  · have others : ∀ other, other ≠ config.fresh →
        config.traceDials log (.invoke (.connect addr alpn)) next other = log other := by
      intro other apart
      exact if_neg apart
    have recorded : config.traceDials log (.invoke (.connect addr alpn)) next config.fresh =
        some ⟨addr, [] ++ [(config, next)]⟩ := if_pos rfl
    have quiet : DialTrace.Quiet ([] : List (Config P × Config P)) := by
      intro step member
      cases member
    have rerouting : Rerouting addr config.state
        (config.state.connect config.clock config.udp addr alpn) := by
      cases parsed : EndpointId.ofBytes? addr.endpointId with
      | some peer => exact (Stretch.connect config.clock config.udp alpn parsed).rerouting
      | none =>
          rw [State.connect, parsed]
          exact .kept rfl
    exact traced.stretch (Nat.le_succ _) (Nat.lt_succ_self _) quiet rerouting made others
      recorded
  · exact traced.bystander rfl (Nat.le_refl _)
  · have same : config.traceDials log (.invoke method) next = log := by
      cases method <;> first | rfl | exact absurd rfl (other _ _)
    rw [same]
    exact traced.touches touched (fun _ _ => rfl) (.inl rfl)

theorem polled (traced : Traced config log) (phases : config.Phases)
    (claims : Claims config.calls config.state) {id : Nat} {call : Call} {input : CallInput}
    (pending : config.calls.get? id = some call)
    (ran : config.resumeCall id call input = .ok next) :
    Traced next (config.traceDials log (.resume id input) next) := by
  have number := traced.numbered id (by simp [pending])
  have others : ∀ other, other ≠ id →
      config.traceDials log (.resume id input) next other = log other := by
    intro other apart
    exact if_neg apart
  have own : config.traceDials log (.resume id input) next id =
      (log id).map fun trace => trace.record config next := if_pos rfl
  cases dials : call.dials with
  | false => exact traced.touches (Config.resumeCall_touches pending dials ran) others (.inr own)
  | true =>
      cases call <;> try cases dials
      rename_i addr phase
      rcases traced.pending id addr phase pending with ⟨steps, logged, quiet⟩
      have of_ := phases id addr phase pending
      have recorded : config.traceDials log (.resume id input) next id =
          some ⟨addr, steps ++ [(config, next)]⟩ := by
        rw [own, logged]
        rfl
      rcases Config.resumeConnect_cases ran with ⟨url, result, waits, rfl, made⟩ |
        ⟨url, started, waits, rfl, ⟨_, rfl⟩ | ⟨result, polled, made⟩⟩ | ⟨handshake, touched⟩
      · rcases ConnectPhase.dial?_of_ensure waits with ⟨dial, suspended⟩
        have opens : phase.ensure?.isSome = true := by rw [waits]; rfl
        have unknown := claims.unknown _ (claims.marked id _
          ⟨addr, phase, url, pending, ConnectPhase.claim_of_ensure waits, rfl⟩)
        exact traced.stretch (Nat.le_succ _) (Nat.lt_succ_of_lt number) (quiet opens)
          (Stretch.opened of_ suspended waits unknown config.clock _).rerouting made others
          recorded
      · exact traced.touches (.refl false id _) others (.inr own)
      · rcases ConnectPhase.dial?_of_ensure waits with ⟨dial, suspended⟩
        have opens : phase.ensure?.isSome = true := by rw [waits]; rfl
        exact traced.stretch (Nat.le_refl _) number (quiet opens)
          (Stretch.polled of_ suspended waits config.clock polled).rerouting made others recorded
      · exact traced.touches touched others (.inr own)

end Traced

private theorem dialing_traced {config : Config P} {log : DialTraces P}
    (reached : (dialing P).Reachable (config, log)) : Traced config log := by
  refine (System.observed.reachable_invariant Traced ?_ ?_ reached).2
  · rintro config ⟨noq, webrtc, udp, relay, clock, url, _, rfl⟩
    exact Traced.initially noq webrtc udp relay clock
  · intro config log action next reachable traced stepped
    cases Config.step_acts stepped with
    | advanced elapsed => exact traced.bystander rfl (Nat.le_refl _)
    | pumped input state pump spawned ran =>
        have later :=
          Config.addSessions_fresh spawned ({ config with state, pump } : Config P)
        rcases Config.addSessions_frame spawned ({ config with state, pump } : Config P) with
          ⟨_, _, frame⟩
        rw [frame] at later ⊢
        exact traced.bystander rfl later
    | resumed id input session after registration state _ found ran =>
        exact traced.bystander rfl (Nat.le_succ _)
    | invoked method next _ ran => exact traced.invoked ran
    | polled id input call next _ pending ran =>
        exact traced.polled (reachable_phases reachable) (reachable_relays reachable).claims
          pending ran

/-- A connect call, whether it fails or not, touches the route of no standin, except that
it may ask noq to dial its peer over a relay: in that step the peer's own standin moves
from its relay to that of the call's first relay entry, or to the home relay when the call
was given none, and stays if it is routed over a channel. -/
theorem failed_connect_routes {config : Config P} {log : DialTraces P}
    (reached : (dialing P).Reachable (config, log)) {id : Nat} {trace : DialTrace P}
    (called : log id = some trace) :
    (∀ step ∈ trace.steps, step.2.state.routes = step.1.state.routes) ∨
    ∃ early asked late peer key, trace.steps = early ++ asked :: late ∧
      (∀ step ∈ early ++ late, step.2.state.routes = step.1.state.routes) ∧
      peer.bytes = trace.addr.endpointId ∧
      asked.2.state.dialKey? trace.addr = some key ∧
      State.Redials peer key asked.1.state asked.2.state := by
  rcases (dialing_traced reached).told id trace called with
    quiet | ⟨early, asked, late, peer, key, split, before, after, dialed⟩
  · exact .inl quiet
  · refine .inr ⟨early, asked, late, peer, key, split, ?_, dialed⟩
    intro step member
    exact (List.mem_append.mp member).elim (before step) (after step)

/-- Peer 7 speaks through the home relay, a dial to it goes through another relay, and
`packet` answers the dial. -/
def dialElsewhere (packet : Bytes) : List Action :=
  List.flatten [Slab.turn [] 0, [Slab.hello 0 7], Slab.turn [0] 1,
    [.invoke (.connect ⟨(Slab.peer 7).bytes, [.relay "a://far"]⟩ []),
      .resume 1 (.opened (.ok ())), .pump .tick], Slab.turn [0, 1] 1,
    [.pump (.relayEvent 0 (.ok ⟨Slab.peer 7, packet⟩))], Slab.turn [0, 1] 0,
    [.resume 1 .poll]]

/-- The step moves peer 7 from the home relay to the relay of key 1. -/
def movesElsewhere (step : Config Slab.platform × Config Slab.platform) : Bool :=
  match step.1.state.peerToAddr.get? (Slab.peer 7) with
  | none => false
  | some standin => decide (step.1.state.routes.get? standin = some (.relay homeRelay) ∧
      step.2.state.routes.get? standin = some (.relay 1))

/-- A dial moves its peer to the relay it names, whose key is 1. -/
theorem failed_connect_routes_asked :
    ∃ (config : Config Slab.platform) (log : DialTraces Slab.platform)
      (trace : DialTrace Slab.platform), (dialing Slab.platform).Reachable (config, log) ∧
      log 1 = some trace ∧ ∃ asked ∈ trace.steps, ∃ peer,
        peer.bytes = trace.addr.endpointId ∧ asked.2.state.dialKey? trace.addr = some 1 ∧
        State.Redials peer 1 asked.1.state asked.2.state := by
  have passed : (dialing Slab.platform).runs (fun _ _ => true)
      (Slab.bound true false, fun _ => none) (dialElsewhere [2, 1, 0])
      (fun start => (start.2 1).any fun trace => trace.steps.any movesElsewhere &&
        trace.steps.all fun step => !(step.2.state.dialKey? trace.addr).any (· ≠ 1)) = true := by
    decide +kernel
  have initial : (dialing Slab.platform).Initial (Slab.bound true false, fun _ => none) :=
    ⟨Slab.bound_initial true false, rfl⟩
  rcases System.Reachable.of_runs initial passed with ⟨⟨config, log⟩, reached, tested⟩
  simp only [Option.any_eq_true, Bool.and_eq_true, List.any_eq_true, List.all_eq_true] at tested
  rcases tested with ⟨trace, called, ⟨step, member, moves⟩, keys⟩
  refine ⟨config, log, trace, reached, called, ?_⟩
  rcases failed_connect_routes reached called with
    quiet | ⟨early, asked, late, peer, key, split, _, named, keyed, redials⟩
  · rw [movesElsewhere, quiet step member] at moves
    split at moves
    · cases moves
    · simp only [decide_eq_true_eq] at moves
      rw [moves.1] at moves
      simp [homeRelay] at moves
  · have first : asked ∈ trace.steps := by simp [split]
    have own : key = 1 := by
      have known := keys asked first
      rw [keyed] at known
      simpa using known
    subst own
    exact ⟨asked, first, peer, named, keyed, redials⟩

/-- The dial fails, and the connection peer 7 already had is left on a relay it never
spoke through. -/
theorem failed_connect_routes_moved :
    ∃ (config : Config Slab.platform) (log : DialTraces Slab.platform)
      (trace : DialTrace Slab.platform) (error : Error),
      (dialing Slab.platform).Reachable (config, log) ∧ log 1 = some trace ∧
      (1, Outcome.connected (.error error)) ∈ config.outcomes ∧
      (∃ step ∈ trace.steps, movesElsewhere step = true) ∧
      ∃ entry, config.state.conns.get? 0 = some entry ∧ entry.peer = some (Slab.peer 7) ∧
        entry.connected = true ∧ entry.error = none := by
  have passed : (dialing Slab.platform).runs (fun _ _ => true)
      (Slab.bound true false, fun _ => none) (dialElsewhere [2, 1, 0])
      (fun start => ((start.2 1).any fun trace => trace.steps.any movesElsewhere) &&
        (decide ((1, Outcome.connected (.error .closed)) ∈ start.1.outcomes) &&
        (start.1.state.conns.get? 0).any fun entry => decide (
          entry.peer = some (Slab.peer 7) ∧ entry.connected = true ∧ entry.error = none))) =
      true := by decide +kernel
  have initial : (dialing Slab.platform).Initial (Slab.bound true false, fun _ => none) :=
    ⟨Slab.bound_initial true false, rfl⟩
  rcases System.Reachable.of_runs initial passed with ⟨⟨config, log⟩, reached, tested⟩
  simp only [Bool.and_eq_true, Option.any_eq_true, List.any_eq_true, decide_eq_true_eq] at tested
  rcases tested with ⟨⟨trace, called, step, member, moves⟩, failed, entry, found, healthy⟩
  exact ⟨config, log, trace, .closed, reached, called, failed, ⟨step, member, moves⟩, entry,
    found, healthy⟩

end IrohEndpoint
