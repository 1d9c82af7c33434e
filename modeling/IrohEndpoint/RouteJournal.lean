import IrohEndpoint.Receives
import IrohEndpoint.Reroutes
import IrohEndpoint.RouteEvents

/-! # The route's history

The events of a run: each comes from an action, with the wire it came in on, the relay that
was dialed or the channel it is about. Nothing else the endpoint does moves a route. -/

namespace IrohEndpoint

variable {P : Platform}

/-! ## What leaves a route -/

/-- A datagram that arrives on any wire, or the end of a relay or of the socket. -/
def PumpInput.arrives : PumpInput → Bool
  | .relayEvent .. | .udpEvent _ | .channelEvent _ (.ok _) => true
  | _ => false

private theorem addrForPeer_keeps {state : State P} {source : EndpointId} {via : UInt32}
    (bounded : Bounded (state.addrForPeer source via).2) (sound : Sound state)
    {peer : EndpointId} {standin : SocketAddr} (known : state.peerToAddr.get? peer = some standin) :
    (state.addrForPeer source via).2.routes.get? standin = state.routes.get? standin := by
  by_cases same : peer = source
  · subst same
    rw [State.addrForPeer_known known]
  · have step : StateStep .pump state (state.addrForPeer source via).2 := .sighted source via
    have later := step.sound bounded sound
    apply state.addrForPeer_routes
    rintro rfl
    have kept : (state.addrForPeer source via).2.peerToAddr.get? peer =
        state.peerToAddr.get? peer := by
      rw [State.addrForPeer]
      split
      · rfl
      · dsimp only
        rw [Table.get?_set, if_neg same]
    exact same (later.routing.injective (Channels.addrForPeer_standin state source via)
      (kept.trans known))

private theorem handleDatagram_tables (state : State P) (now : Instant) (addr : SocketAddr)
    (source : Option EndpointId) (payload : Bytes) (origin : Origin) :
    (state.handleDatagram now addr source payload origin).tables = state.tables := by
  rcases state.handleDatagram_frame now addr source payload origin with ⟨_, _, _, _, _, _, frame⟩
  rw [frame]
  rfl

private theorem handleSignal_tables (state : State P) (via : UInt32) (source : EndpointId)
    (payload : Bytes) : (state.handleSignal via source payload).2.tables = state.tables := by
  rw [State.handleSignal]
  split
  · rfl
  · dsimp only
    split <;> rfl

private theorem sighting_routes {state : State P} (sound : Sound state) {now : Instant}
    {source : EndpointId} {via : UInt32} {addr : SocketAddr} {payload : Bytes} {origin : Origin}
    (bounded : Bounded ((state.addrForPeer source via).2.handleDatagram now addr (some source)
      payload origin))
    {peer : EndpointId} {standin : SocketAddr}
    (known : state.peerToAddr.get? peer = some standin) :
    ((state.addrForPeer source via).2.handleDatagram now addr (some source) payload
      origin).routes.get? standin = state.routes.get? standin := by
  have same := handleDatagram_tables (state.addrForPeer source via).2 now addr (some source)
    payload origin
  rw [State.routes_of_tables same]
  exact addrForPeer_keeps (bounded.of_tables same) sound known

private theorem Pump.relayEvent_routes {pump : Pump} {now : Instant} {state : State P}
    (sound : Sound state) {key : UInt32} {conn : RelayConn} {rest : List (UInt32 × RelayConn)}
    {result : Except String Datagram}
    (bounded : Bounded (pump.relayEvent now state key conn rest result).1)
    {peer : EndpointId} {standin : SocketAddr}
    (known : state.peerToAddr.get? peer = some standin) :
    (pump.relayEvent now state key conn rest result).1.routes.get? standin =
      state.routes.get? standin := by
  cases result with
  | ok datagram =>
      dsimp only [Pump.relayEvent] at bounded ⊢
      split
      · dsimp only
        rw [State.routes_of_tables (handleSignal_tables _ _ _ _)]
      · rename_i plain
        rw [if_neg plain] at bounded
        exact sighting_routes sound bounded known
  | error detail =>
      dsimp only [Pump.relayEvent]
      split <;> rfl

private theorem handleChannelDatagram_routes {state : State P} (sound : Sound state) {now : Instant}
    {id : UInt32} {payload : Bytes} (bounded : Bounded (state.handleChannelDatagram now id payload))
    {peer : EndpointId} {standin : SocketAddr}
    (known : state.peerToAddr.get? peer = some standin) :
    (state.handleChannelDatagram now id payload).routes.get? standin =
      state.routes.get? standin := by
  rw [State.handleChannelDatagram] at bounded ⊢
  cases found : state.channels.get? id with
  | none => rfl
  | some entry =>
      rw [found] at bounded
      exact sighting_routes sound bounded known

private theorem arrival_routes {config next : Config P} (sound : Sound config.state)
    {input : PumpInput}
    (arrives : input.arrives = true) (stepped : config.step (.pump input) = .ok next)
    (bounded : Bounded next.state) {peer : EndpointId} {standin : SocketAddr}
    (known : config.state.peerToAddr.get? peer = some standin) :
    next.state.routes.get? standin = config.state.routes.get? standin := by
  rcases bind_eq_ok.mp stepped with ⟨⟨state, pump, spawned⟩, resumed, result⟩
  cases result
  rcases Config.addSessions_frame spawned ({ config with state, pump } : Config P) with
    ⟨_, _, frame⟩
  rw [frame] at bounded ⊢
  dsimp only at bounded ⊢
  cases input with
  | relayEvent index result =>
      rw [Pump.resume] at resumed
      split at resumed
      · cases resumed
      · rename_i key conn _
        split at resumed
        · have handled := congrArg Prod.fst (Except.ok.inj resumed)
          dsimp only at handled
          rw [← handled] at bounded ⊢
          exact Pump.relayEvent_routes sound bounded known
        · cases resumed
          rfl
        · cases resumed
  | udpEvent received =>
      rw [Pump.resume.eq_def] at resumed
      dsimp only at resumed
      split at resumed
      · cases resumed
      · split at resumed
        · cases resumed
          rw [State.handleUdpDatagram, State.routes_of_tables (handleDatagram_tables ..)]
        · cases resumed
          rfl
        · split at resumed
          · cases resumed
            rfl
          · cases resumed
        · cases resumed
  | channelEvent index result =>
      cases result with
      | error detail => cases arrives
      | ok payload =>
          rw [Pump.resume] at resumed
          split at resumed
          · cases resumed
          · rename_i id wire _
            split at resumed
            · dsimp only [Pump.channelEvent] at resumed
              split at resumed
              · cases resumed
                exact handleChannelDatagram_routes sound bounded known
              · cases resumed
                rfl
            · split at resumed
              · cases resumed
                rfl
              · cases resumed
            · cases resumed
  | run fuel order => cases arrives
  | sent result => cases arrives
  | tick => cases arrives

private theorem retireChannel_keeps {state : State P} {id : UInt32} {standin : SocketAddr}
    (elsewhere : state.routes.get? standin ≠ some (.channel id)) :
    (state.retireChannel id).routes.get? standin = state.routes.get? standin := by
  rw [State.retireChannel]
  split
  · rfl
  · dsimp only
    split
    · rfl
    · split
      · rename_i addr _ routed
        dsimp only
        rw [Table.get?_set, if_neg]
        rintro rfl
        exact elsewhere routed
      · rfl

private theorem retireChannel_twice (state : State P) (id : UInt32) :
    (state.retireChannel id).retireChannel id = state.retireChannel id := by
  have gone : (state.retireChannel id).channels.get? id = none := by
    rcases state.retireChannel_cases id with ⟨absent, same⟩ | ⟨entry, routes, _, equal, _⟩
    · rw [same, absent]
    · rw [equal]
      simp
  rw [State.retireChannel.eq_def, gone]

/-! ## The events of a run -/

/-- The events of a pump step: a peer is seen through the wire its datagram came in on, and
a channel is retired when its receive fails. -/
def Pump.routeEvents (pump : Pump) (state : State P) : PumpInput → List RouteEvent
  | .relayEvent index (.ok datagram) =>
      match pump.phase, pump.relayRecvs[index]? with
      | .selecting, some (key, _) =>
          if datagram.payload.head? = some signalPrefix then []
          else [.sighted datagram.source key]
      | _, _ => []
  | .channelEvent index result =>
      match pump.phase, pump.channelRecvs[index]? with
      | .selecting, some (id, _) =>
          match state.channels.get? id, result with
          | some entry, .ok (some _) => [.sighted entry.peer entry.fallbackRelay]
          | some entry, .error _ => [.retired entry.peer id entry.fallbackRelay]
          | _, _ => []
      | _, _ => []
  | _ => []

namespace Config

def registerEvents (config next : Config P) : List RouteEvent :=
  (next.state.history.channels.drop config.state.history.channels.length).map
    fun (id, entry) => .registered entry.peer id

def dialEvents (config : Config P) (action : Action) (next : Config P) : List RouteEvent :=
  match config.redialed action next with
  | some (peer, key) => [.sighted peer key, .dialed peer key]
  | none => []

def routeEvents (config : Config P) (action : Action) (next : Config P) : List RouteEvent :=
  match action with
  | .pump input => config.pump.routeEvents config.state input
  | .session _ _ => config.registerEvents next
  | action => config.dialEvents action next

end Config

variable (P) in
def journaled : System (Config P × List RouteEvent) Action Abort :=
  (endpoint P).observed [] fun events config action next =>
    events ++ config.routeEvents action next

/-! ## Every step has its events -/

private theorem handleRelayDatagram_journal (state : State P) (now : Instant) (via : UInt32)
    (source : EndpointId) (payload : Bytes) :
    state.Journal [.sighted source via] (state.handleRelayDatagram now via source payload) :=
  .quiet (.sighted source via .start) (handleDatagram_tables _ _ _ _ _ _)

private theorem handleChannelDatagram_journal {state : State P} {id : UInt32} {entry : ChannelEntry}
    (found : state.channels.get? id = some entry) (now : Instant) (payload : Bytes) :
    state.Journal [.sighted entry.peer entry.fallbackRelay]
      (state.handleChannelDatagram now id payload) := by
  rw [State.handleChannelDatagram, found]
  exact .quiet (.sighted entry.peer entry.fallbackRelay .start) (handleDatagram_tables _ _ _ _ _ _)

private theorem drain_tables {state next : State P} {fuel : Nat} {now : Instant}
    {order : List ConnectionHandle} (ran : state.drain fuel now order = .ok next) :
    next.tables = state.tables := by
  rcases State.drain_spec ran with ⟨io, _, equal⟩
  rw [equal]
  rfl

namespace Pump

private theorem run_tables {pump : Pump} {udp : Bool} {now : Instant} {state : State P} {fuel : Nat}
    {order : List ConnectionHandle} {pumped : Pumped P}
    (ran : pump.run udp now state fuel order = .ok pumped) :
    pumped.1.tables = state.tables := by
  rw [Pump.run.eq_def] at ran
  split at ran
  · rcases bind_eq_ok.mp ran with ⟨next, drained, result⟩
    cases result
    exact drain_tables drained
  · split at ran
    · cases ran
      rfl
    · dsimp only at ran
      split at ran <;> cases ran <;> rfl
  · split at ran <;> cases ran <;> rfl
  · split at ran
    · cases ran
      rfl
    · dsimp only at ran
      split at ran <;> cases ran <;> rfl
  · cases ran
    rfl
  · split at ran <;> cases ran <;> rfl
  · cases ran
    rfl
  · cases ran
    rfl
  · cases ran

private theorem relayEvent_journal (pump : Pump) (now : Instant) (state : State P) {index : Nat}
    {key : UInt32} {conn : RelayConn} (selecting : pump.phase = .selecting)
    (armed : pump.relayRecvs[index]? = some (key, conn)) (rest : List (UInt32 × RelayConn))
    (result : Except String Datagram) :
    state.Journal (pump.routeEvents state (.relayEvent index result))
      (pump.relayEvent now state key conn rest result).1 := by
  cases result with
  | ok datagram =>
      rw [relayEvent, routeEvents, selecting, armed]
      dsimp only
      split
      · exact .quiet .start (handleSignal_tables _ _ _ _)
      · exact handleRelayDatagram_journal state now key datagram.source datagram.payload
  | error detail =>
      dsimp only [relayEvent, routeEvents]
      split <;> exact .quiet .start rfl

private theorem channelEvent_journal (pump : Pump) (now : Instant) (state : State P) {index : Nat}
    {id : UInt32} {wire : ChannelWire} (selecting : pump.phase = .selecting)
    (armed : pump.channelRecvs[index]? = some (id, wire)) (rest : List (UInt32 × ChannelWire))
    (result : Except String (Option Bytes)) :
    state.Journal (pump.routeEvents state (.channelEvent index result))
      (pump.channelEvent now state id wire rest result).1 := by
  rw [routeEvents, selecting, armed]
  dsimp only
  cases found : state.channels.get? id with
  | none =>
      cases result with
      | ok payload =>
          cases payload with
          | none => exact .start
          | some datagram =>
              dsimp only [channelEvent]
              rw [State.handleChannelDatagram, found]
              exact .start
      | error detail => exact .quiet .start (State.channelDied_unknown found wire)
  | some entry =>
      cases result with
      | ok payload =>
          cases payload with
          | none => exact .start
          | some datagram => exact handleChannelDatagram_journal found now datagram
      | error detail => exact .retired id wire .start found

private theorem resume_journal {pump : Pump} {udp : Bool} {now : Instant} {state : State P}
    {input : PumpInput} {pumped : Pumped P}
    (resumed : pump.resume udp now state input = .ok pumped) :
    state.Journal (pump.routeEvents state input) pumped.1 := by
  cases input with
  | run fuel order =>
      rw [Pump.resume] at resumed
      split at resumed
      · cases resumed
        exact .start
      · exact .quiet .start (run_tables resumed)
  | sent result =>
      rw [Pump.resume] at resumed
      split at resumed
      · split at resumed <;> cases resumed <;> exact .quiet .start rfl
      · cases resumed
        exact .start
      · cases resumed
        exact .start
      · cases resumed
        exact .start
      · cases resumed
  | relayEvent index result =>
      rw [Pump.resume] at resumed
      split at resumed
      · cases resumed
      · rename_i key conn armed
        split at resumed
        · rename_i selecting
          cases resumed
          exact relayEvent_journal pump now state selecting armed _ result
        · rename_i joining
          cases resumed
          have none_ : pump.routeEvents state (.relayEvent index result) = [] := by
            cases result with
            | ok datagram => rw [routeEvents, joining]
            | error detail => rfl
          rw [none_]
          exact .start
        · cases resumed
  | udpEvent received =>
      rw [Pump.resume.eq_def] at resumed
      dsimp only at resumed
      split at resumed
      · cases resumed
      · split at resumed
        · cases resumed
          exact .quiet .start (handleDatagram_tables _ _ _ _ _ _)
        · cases resumed
          exact .start
        · split at resumed <;> cases resumed
          exact .start
        · cases resumed
  | channelEvent index result =>
      rw [Pump.resume] at resumed
      split at resumed
      · cases resumed
      · rename_i id wire armed
        split at resumed
        · rename_i selecting
          cases resumed
          exact channelEvent_journal pump now state selecting armed _ result
        · rename_i joining
          split at resumed <;> cases resumed
          rw [routeEvents, joining]
          exact .start
        · cases resumed
  | tick =>
      rw [Pump.resume] at resumed
      split at resumed <;> cases resumed
      exact .quiet .start rfl

end Pump

namespace Session

private theorem register_journal (session : Session) (state : State P) (wire : ChannelWire) :
    ∃ registered, (session.register state wire).2.2.history.channels =
        state.history.channels ++ registered ∧
      state.Journal (registered.map fun (id, entry) => .registered entry.peer id)
        (session.register state wire).2.2 := by
  have same : (session.register state wire).2.2 =
      (state.registerChannel session.peer wire).2 := by
    rw [register]
    split <;> rename_i answer <;> rw [answer]
  rw [same]
  cases shut : state.isClosedOrDead with
  | true =>
      refine ⟨[], ?_, ?_⟩ <;> rw [State.registerChannel, if_pos shut]
      · rw [List.append_nil]
      · exact .quiet .start rfl
  | false =>
      have journal := State.Journal.registered session.peer wire .start shut
      rcases registerChannel_cases state session.peer wire with
        ⟨refused, _⟩ | ⟨entry, _, made, registered⟩
      · rw [shut] at refused
        cases refused
      · refine ⟨[(state.nextChannelId + 1, entry)], ?_, ?_⟩
        · rw [registered]
          exact congrArg History.channels
            (addrForPeer_channels (state.withChannel entry) session.peer entry.fallbackRelay).2.2
        · have peer : entry.peer = session.peer := by rw [made]
          have event : [(state.nextChannelId + 1, entry)].map (fun (id, entry) =>
              RouteEvent.registered entry.peer id) =
                [.registered session.peer (state.nextChannelId + 1)] := by
            rw [← peer]
            rfl
          rw [event]
          exact journal

private theorem resumes_journal {session : Session} {now : Instant} {wire : ChannelWire}
    {state : State P} {resumed : Resumed P}
    (resumes : session.Resumes now wire state resumed) :
    ∃ registered, resumed.2.2.history.channels = state.history.channels ++ registered ∧
      state.Journal (registered.map fun (id, entry) => .registered entry.peer id)
        resumed.2.2 := by
  have quiet : ∀ next : State P, next.tables = state.tables → ∃ registered,
      next.history.channels = state.history.channels ++ registered ∧
        state.Journal (registered.map fun (id, entry) => .registered entry.peer id) next := by
    intro next same
    refine ⟨[], ?_, .quiet .start same⟩
    simp only [State.tables, Prod.mk.injEq] at same
    rw [List.append_nil, same.2.2.2.2.2.2]
  cases resumes with
  | refused error _ _ _ => exact quiet _ rfl
  | claimed _ _ _ => exact quiet _ rfl
  | claimedFailed error _ _ _ => exact quiet _ rfl
  | continued after next _ _ _ _ _ moved =>
      rcases moved.frame with ⟨_, _, rfl⟩
      exact quiet _ rfl
  | failed started next error _ moved =>
      rcases moved.frame with ⟨_, _, rfl⟩
      exact quiet _ rfl
  | upgraded _ _ =>
      rcases register_journal session (state.endSignaling session.peer) wire with
        ⟨registered, grown, journal⟩
      exact ⟨registered, grown, journal.after rfl⟩
  | answered _ _ =>
      rcases register_journal session state wire with ⟨registered, grown, journal⟩
      exact ⟨registered, grown, .quiet journal rfl⟩

end Session

namespace Config

theorem Progresses.journal {config next : Config P} {id : Nat} {addr : EndpointAddr}
    {dial : Dial} (progresses : config.Progresses id addr dial next) {action : Action}
    (goes : config.dial? action = some (addr, dial)) :
    config.state.Journal (config.dialEvents action next) next.state := by
  rcases progresses.state with ⟨progress, stretch, same, _⟩
  rw [dialEvents, redialed, goes, same]
  dsimp only
  rcases stretch.moves with ⟨quiet, tables⟩ | ⟨key, asks, keyed, _, tables, _⟩
  · rw [if_neg (by simp [quiet])]
    exact .quiet .start tables
  · rw [if_pos asks, keyed]
    exact State.Journal.start.dials dial.peer key tables

theorem Aside.journal {config next : Config P} (aside : config.Aside next) {action : Action}
    (undialed : config.redialed action next = none) :
    config.state.Journal (config.dialEvents action next) next.state := by
  rw [dialEvents, undialed]
  exact .quiet .start aside.tables

private theorem step_journal {config next : Config P} {action : Action}
    (reached : (endpoint P).Reachable config) (stepped : config.step action = .ok next) :
    config.state.Journal (config.routeEvents action next) next.state := by
  cases Config.step_acts stepped with
  | advanced elapsed => exact .start
  | pumped input state pump spawned ran =>
      rcases Config.addSessions_frame spawned ({ config with state, pump } : Config P) with
        ⟨_, _, frame⟩
      rw [frame]
      exact Pump.resume_journal ran
  | resumed id input session after registration state _ found ran =>
      rcases Session.resumes_journal (Session.resumes ran) with ⟨registered, grown, journal⟩
      dsimp only at grown journal
      rw [routeEvents, registerEvents, grown, List.drop_left]
      exact journal
  | invoked method next _ ran =>
      rcases Config.invoke_dials ran with ⟨addr, dial, goes, progresses⟩ | ⟨undialed, aside⟩
      · exact progresses.journal goes
      · exact aside.journal undialed
  | polled id input call next _ pending ran =>
      rcases Config.resume_dials (reachable_phases reached) (reachable_relays reached).claims
        pending ran with ⟨addr, dial, goes, progresses⟩ | ⟨undialed, aside⟩
      · exact progresses.journal goes
      · exact aside.journal undialed

end Config

private theorem journaled_tracked {config : Config P} {events : List RouteEvent}
    (reached : (journaled P).Reachable (config, events)) :
    (endpoint P).Reachable config ∧
      (Bounded config.state → Sound config.state ∧ config.state.Tracked events) := by
  apply System.observed.reachable_invariant (fun (config : Config P) events =>
    Bounded config.state → Sound config.state ∧ config.state.Tracked events) _ _ reached
  · rintro config ⟨noq, webrtc, udp, relay, clock, url, _, rfl⟩ _
    refine ⟨⟨⟨?_, ?_, ?_⟩, ⟨rfl, ?_, rfl, ?_⟩⟩, ⟨?_, ?_⟩⟩ <;>
      simp [Config.bind, State.registerRelay, State.new, RouteEvent.route]
  · intro config events action next reachable holds stepped bounded
    have journal := Config.step_journal reachable stepped
    rcases holds (journal.bounded bounded) with ⟨sound, tracked⟩
    exact journal.tracked sound tracked bounded

/-! ## The route follows the latest channel -/

/-- In every run with fewer than 2^32 peers and channels, a peer is routed over a channel
exactly while that is its latest one and not retired, and otherwise over the relay of the
last event that concerns it: its first sighting, a dial over a relay while it was on one, or
the retirement of the channel it was routed over. Retiring another channel, retiring twice
and whatever arrives on a wire leave its route. -/
theorem route_follows_latest_channel {config : Config P} {events : List RouteEvent}
    (reached : (journaled P).Reachable (config, events)) (bounded : Bounded config.state)
    {peer : EndpointId} {standin : SocketAddr}
    (known : config.state.peerToAddr.get? peer = some standin) :
    (∀ id, config.state.routes.get? standin = some (.channel id) ↔
      RouteEvent.Latest events peer id) ∧
    ((∀ id, ¬ RouteEvent.Latest events peer id) →
      ∃ key, config.state.routes.get? standin = some (.relay key) ∧
        RouteEvent.Landed events peer key) ∧
    (∀ id, ¬ RouteEvent.Latest events peer id →
      (config.state.retireChannel id).routes.get? standin =
        config.state.routes.get? standin) ∧
    (∀ id, (config.state.retireChannel id).retireChannel id =
      config.state.retireChannel id) ∧
    ∀ input next, input.arrives = true → config.step (.pump input) = .ok next →
      Bounded next.state →
      next.state.routes.get? standin = config.state.routes.get? standin := by
  rcases (journaled_tracked reached).2 bounded with ⟨sound, tracked⟩
  have routed := tracked.routed peer standin known
  have latest : ∀ id, config.state.routes.get? standin = some (.channel id) ↔
      RouteEvent.Latest events peer id := by
    intro id
    rw [routed]
    exact RouteEvent.route_channel
  refine ⟨latest, ?_, ?_, ?_, ?_⟩
  · intro channelless
    rcases (sound.routing.wire known).2 with ⟨key, relayed⟩ | ⟨id, entry, channeled, _⟩
    · refine ⟨key, relayed, RouteEvent.route_relay ?_⟩
      rw [← routed, relayed]
    · exact absurd ((latest id).mp channeled) (channelless id)
  · intro id other
    exact retireChannel_keeps fun channeled => other ((latest id).mp channeled)
  · exact retireChannel_twice config.state
  · intro input next arrives stepped later
    exact arrival_routes sound arrives stepped later known

/-- The events of `dialElsewhere`: peer 7 is seen through the home relay, dialed over the
relay of key 1, and seen through the home relay again. -/
def elsewhereEvents : List RouteEvent :=
  [.sighted (Slab.peer 7) homeRelay, .sighted (Slab.peer 7) 1, .dialed (Slab.peer 7) 1,
    .sighted (Slab.peer 7) homeRelay]

/-- Peer 7 is left on the relay of the dial, which its last datagram does not change. -/
theorem route_follows_latest_channel_spoken :
    ∃ (config : Config Slab.platform) (standin : SocketAddr),
      (journaled Slab.platform).Reachable (config, elsewhereEvents) ∧
      config.state.peerToAddr.get? (Slab.peer 7) = some standin ∧
      config.state.routes.get? standin = some (.relay 1) ∧
      RouteEvent.Landed elsewhereEvents (Slab.peer 7) 1 := by
  have passed : (journaled Slab.platform).runs (fun _ _ => true) (Slab.bound true false, [])
      (dialElsewhere [2, 1, 0])
      (fun start => decide (start.2 = elsewhereEvents) &&
        decide (start.1.state.peerToAddr.size < 2 ^ 32) &&
        decide (start.1.state.history.channels.length < 2 ^ 32) &&
        (start.1.state.peerToAddr.get? (Slab.peer 7)).any fun standin =>
          decide (start.1.state.routes.get? standin = some (.relay 1))) = true := by
    decide +kernel
  have initial : (journaled Slab.platform).Initial (Slab.bound true false, []) :=
    ⟨Slab.bound_initial true false, rfl⟩
  rcases System.Reachable.of_runs initial passed with ⟨⟨config, events⟩, reached, tested⟩
  simp only [Bool.and_eq_true, decide_eq_true_eq, Option.any_eq_true] at tested
  rcases tested with ⟨⟨⟨rfl, peers⟩, channels⟩, standin, known, routed⟩
  rcases route_follows_latest_channel reached ⟨peers, channels⟩ known with
    ⟨latest, landed, _⟩
  have channelless : ∀ id, ¬ RouteEvent.Latest elsewhereEvents (Slab.peer 7) id := by
    intro id registered
    have channeled := (latest id).mpr registered
    rw [routed] at channeled
    cases channeled
  rcases landed channelless with ⟨key, relayed, last⟩
  rw [routed] at relayed
  cases relayed
  exact ⟨config, standin, reached, known, routed, last⟩

/-! ## Standins that wrap -/

def numberedPeer (number : Nat) : EndpointId :=
  ⟨[UInt8.ofNat number, UInt8.ofNat (number / 256), UInt8.ofNat (number / 65536),
      UInt8.ofNat (number / 16777216)] ++ List.replicate 28 9, rfl⟩

private theorem numberedPeer_injective {first second : Nat} (low : first < 2 ^ 32)
    (high : second < 2 ^ 32)
    (same : numberedPeer first = numberedPeer second) : first = second := by
  have bytes := congrArg EndpointId.bytes same
  simp only [numberedPeer, List.cons_append, List.nil_append, List.cons.injEq, and_true,
    ← UInt8.toNat_inj, UInt8.toNat_ofNat'] at bytes
  omega

private theorem numberedPeer_ne_seven (number : Nat) : numberedPeer number ≠ Slab.peer 7 := by
  intro same
  have bytes := congrArg (fun peer => peer.bytes.getLast?) same
  simp [numberedPeer, Slab.peer] at bytes

private theorem dialNow_tables {state : State P} (open_ : state.closed = false)
    (alive : state.dead = none)
    (now : Instant) {dial : Dial} {config : P.ClientConfig} (relayed : dial.direct = none)
    (configured : P.clientConfig dial.peer dial.alpn = .ok config) (key : UInt32) :
    (state.dialNow now dial key none).2.tables = (state.dialStandin dial.peer key).2.tables := by
  have remote : state.dialRemote dial key = state.dialStandin dial.peer key := by
    rw [State.dialRemote, relayed]
  rw [State.dialNow, configured]
  dsimp only
  rw [if_neg (by simp [open_, alive]), remote]
  split <;> rfl

private theorem dialStandin_stranger {state : State P} {peer : EndpointId}
    (unknown : state.peerToAddr.get? peer = none) (key : UInt32) :
    (state.dialStandin peer key).2.peerToAddr =
        state.peerToAddr.set peer (docPrefixAddr 0x77 (state.nextHost + 1)) ∧
      (state.dialStandin peer key).2.nextHost = state.nextHost + 1 ∧
      (state.dialStandin peer key).2.routes.get? (docPrefixAddr 0x77 (state.nextHost + 1)) =
        some (.relay key) := by
  rw [State.dialStandin, State.addrForPeer, unknown]
  dsimp only
  rw [Table.get?_set, if_pos rfl]
  exact ⟨rfl, rfl, by rw [Table.get?_set, if_pos rfl]⟩

/-- The events about `peer` put it on the home relay and nowhere else. -/
def RouteEvent.Home (events : List RouteEvent) (peer : EndpointId) : Prop :=
  (∀ via, .sighted peer via ∈ events → via = homeRelay) ∧
  (∀ key, .dialed peer key ∈ events → key = homeRelay) ∧
  (∀ id, .registered peer id ∉ events) ∧
  ∀ id fallbackRelay, .retired peer id fallbackRelay ∉ events

/-- A dial of another peer, or one over the home relay, leaves the peer there. -/
theorem RouteEvent.Home.dials {events : List RouteEvent} {peer : EndpointId}
    (home : Home events peer) {config next : Config P} {action : Action}
    (elsewhere : ∀ other key, config.redialed action next = some (other, key) →
      other = peer → key = homeRelay) :
    Home (events ++ config.dialEvents action next) peer := by
  rw [Config.dialEvents]
  cases dialed : config.redialed action next with
  | none =>
      rw [List.append_nil]
      exact home
  | some dial =>
      rcases dial with ⟨other, key⟩
      have own := elsewhere other key dialed
      refine ⟨?_, ?_, ?_, ?_⟩
      · intro via member
        simp only [List.mem_append, List.mem_cons, List.not_mem_nil, or_false, reduceCtorEq,
          RouteEvent.sighted.injEq] at member
        rcases member with old | ⟨rfl, rfl⟩
        · exact home.1 via old
        · exact own rfl
      · intro via member
        simp only [List.mem_append, List.mem_cons, List.not_mem_nil, or_false, reduceCtorEq,
          false_or, RouteEvent.dialed.injEq] at member
        rcases member with old | ⟨rfl, rfl⟩
        · exact home.2.1 via old
        · exact own rfl
      · intro id member
        simp only [List.mem_append, List.mem_cons, List.not_mem_nil, or_false,
          reduceCtorEq] at member
        exact home.2.2.1 id member
      · intro id fallback member
        simp only [List.mem_append, List.mem_cons, List.not_mem_nil, or_false,
          reduceCtorEq] at member
        exact home.2.2.2 id fallback member

private theorem Config.redialed_cases {config next : Config P} {action : Action} {peer : EndpointId}
    {key : UInt32} (redialed : config.redialed action next = some (peer, key)) :
    ∃ addr dial, config.dial? action = some (addr, dial) ∧ dial.peer = peer ∧
      next.state.dialKey? addr = some key := by
  rw [Config.redialed] at redialed
  split at redialed
  · rename_i addr dial goes
    split at redialed
    · rcases Option.map_eq_some_iff.mp redialed with ⟨found, keyed, same⟩
      cases same
      exact ⟨addr, dial, goes, rfl, keyed⟩
    · cases redialed
  · cases redialed

/-- The endpoint has dialed the first `number` peers over its home relay. -/
structure Dialed (config : Config Slab.platform) (events : List RouteEvent) (number : Nat) :
    Prop where
  idle : Idle config 0
  hosts : config.state.nextHost = UInt32.ofNat number
  first : 0 < number → config.state.peerToAddr.get? (numberedPeer 0) =
    some (docPrefixAddr 0x77 1)
  unknown : ∀ later, number ≤ later → later < 2 ^ 32 →
    config.state.peerToAddr.get? (numberedPeer later) = none
  stranger : config.state.peerToAddr.get? (Slab.peer 7) = none
  relays : config.state.nextRelayKey = 1
  channelless : config.state.history.channels = []
  home : RouteEvent.Home events (numberedPeer 0)

namespace Dialed

variable {config : Config Slab.platform} {events : List RouteEvent} {number : Nat}

def dial (number : Nat) : Dial := ⟨numberedPeer number, [], none, none, none⟩

def next (config : Config Slab.platform) (number : Nat) : Config Slab.platform :=
  ({ config with fresh := config.fresh + 1 } : Config Slab.platform).connecting config.fresh
    ⟨(numberedPeer number).bytes, []⟩
    (config.state.dialNow config.clock (dial number) homeRelay none)

def call (number : Nat) : Action :=
  .invoke (.connect ⟨(numberedPeer number).bytes, []⟩ [])

private theorem next_step (dialed : Dialed config events number) :
    (endpoint Slab.platform).step config (call number) = .ok (next config number) := by
  have connects : config.state.connect config.clock config.udp
      ⟨(numberedPeer number).bytes, []⟩ [] =
        config.state.dialNow config.clock (dial number) homeRelay none := by
    rw [State.connect, EndpointId.ofBytes?, dif_pos (numberedPeer number).length_eq]
    rfl
  rw [next, ← connects]
  simp [endpoint, Config.step, call, dialed.idle.awaits, Config.invoke, Method.resource?,
    dialed.idle.live]

private theorem next_path (dialed : Dialed config events number) :
    (journaled Slab.platform).ReachesFrom (fun _ _ => True) (config, events)
      (next config number, events ++ config.dialEvents (call number) (next config number)) :=
  .step .refl trivial (System.observed.step_of events dialed.next_step)

private theorem next_frame (config : Config Slab.platform) (number : Nat) :
    (next config number).state =
        (config.state.dialNow config.clock (dial number) homeRelay none).2 ∧
      (next config number).pump = config.pump ∧
      (next config number).endpointLive = config.endpointLive := by
  rcases Config.connecting_frame ({ config with fresh := config.fresh + 1 } :
    Config Slab.platform) config.fresh ⟨(numberedPeer number).bytes, []⟩
    (config.state.dialNow config.clock (dial number) homeRelay none) with ⟨_, _, _, _, frame⟩
  rw [next, frame]
  exact ⟨rfl, rfl, rfl⟩

private theorem next_idle (dialed : Dialed config events number) :
    Idle (next config number) 0 := by
  rcases next_frame config number with ⟨state, pump, live⟩
  rcases Idle.dialNow_frame config.state config.clock (dial number) homeRelay with
    ⟨_, _, _, _, _, _, _, kept⟩
  rw [kept] at state
  constructor
  · exact live.trans dialed.idle.live
  · rw [pump]
    exact dialed.idle.awaits
  · rw [state]
    exact dialed.idle.open_
  · rw [state]
    exact dialed.idle.alive
  · rw [state]
    exact dialed.idle.unopened
  · rw [state]
    exact dialed.idle.unknown

private theorem next_peers (dialed : Dialed config events number) (bound : number < 2 ^ 32) :
    (next config number).state.nextHost = config.state.nextHost + 1 ∧
      (next config number).state.peerToAddr =
        config.state.peerToAddr.set (numberedPeer number)
          (docPrefixAddr 0x77 (config.state.nextHost + 1)) := by
  have absent := dialed.unknown number (Nat.le_refl _) bound
  have same := @dialNow_tables _ config.state dialed.idle.open_ dialed.idle.alive
    config.clock (dial number) (numberedPeer number) rfl rfl homeRelay
  simp only [State.tables, Prod.mk.injEq] at same
  rcases dialStandin_stranger absent homeRelay with ⟨peers, hosts, _⟩
  rw [(next_frame config number).1]
  constructor
  · exact same.2.2.1.trans hosts
  · exact same.1.trans peers

private theorem next_home (dialed : Dialed config events number) :
    RouteEvent.Home (events ++ config.dialEvents (call number) (next config number))
      (numberedPeer 0) := by
  apply dialed.home.dials
  intro other key redialed _
  rcases Config.redialed_cases redialed with ⟨addr, dial, goes, _, keyed⟩
  have parsed : EndpointId.ofBytes? (numberedPeer number).bytes = some (numberedPeer number) := by
    rw [EndpointId.ofBytes?, dif_pos (numberedPeer number).length_eq]
  rw [call, Config.dial?, parsed] at goes
  cases goes
  exact (Option.some.inj keyed).symm

private theorem next_dialed (dialed : Dialed config events number) (bound : number < 2 ^ 32) :
    Dialed (next config number)
      (events ++ config.dialEvents (call number) (next config number)) (number + 1) := by
  rcases dialed.next_peers bound with ⟨hosts, peers⟩
  rcases Idle.dialNow_frame config.state config.clock (dial number) homeRelay with
    ⟨_, _, _, _, _, _, _, kept⟩
  refine ⟨dialed.next_idle, ?_, ?_, ?_, ?_, ?_, ?_, dialed.next_home⟩
  · rw [hosts, dialed.hosts, UInt32.ofNat_add]
    rfl
  · intro _
    rw [peers, Table.get?_set]
    split
    · rename_i own
      have zero := numberedPeer_injective (by omega) bound own
      subst zero
      rw [dialed.hosts]
      rfl
    · rename_i apart
      apply dialed.first
      apply Nat.pos_of_ne_zero
      rintro rfl
      exact apart rfl
  · intro later above below
    rw [peers, Table.get?_set, if_neg]
    · exact dialed.unknown later (by omega) below
    · intro own
      have equal := numberedPeer_injective below bound own
      omega
  · rw [peers, Table.get?_set, if_neg]
    · exact dialed.stranger
    · exact (numberedPeer_ne_seven number).symm
  · rw [(next_frame config number).1, kept]
    exact dialed.relays
  · rw [(next_frame config number).1, kept]
    exact dialed.channelless

end Dialed

private theorem dialed_none : ∃ config : Config Slab.platform,
    (journaled Slab.platform).Reachable (config, []) ∧ Dialed config [] 0 := by
  have passed : (journaled Slab.platform).runs (fun _ _ => true) (Slab.bound true false, [])
      (Slab.turn [] 0) (fun start => start.1.endpointLive && decide (start.2 = [] ∧
        start.1.pump.phase.awaits = true ∧ start.1.state.closed = false ∧
        start.1.state.dead = none ∧ start.1.state.relayOpening = [] ∧
        start.1.state.relayKeys.keys = [normalizeRelayUrl "a://home"] ∧
        start.1.state.nextRelayKey = 1 ∧ start.1.state.nextHost = 0 ∧
        start.1.state.nextChannelId = 0 ∧ start.1.state.peerToAddr.keys = [] ∧
        start.1.state.addrToPeer.keys = [] ∧ start.1.state.routes.keys = [] ∧
        start.1.state.channels.keys = [] ∧ start.1.state.history.channels = [])) = true := by
    decide +kernel
  have initial : (journaled Slab.platform).Initial (Slab.bound true false, []) :=
    ⟨Slab.bound_initial true false, rfl⟩
  rcases System.Reachable.of_runs initial passed with ⟨⟨config, events⟩, reached, tested⟩
  simp only [Bool.and_eq_true, decide_eq_true_eq] at tested
  rcases tested with ⟨live, rfl, awaits, open_, alive, unopened, keys, key, hosts, ids, peers,
    addrs, routes, channels, channelless⟩
  have stranger : config.state.peerToAddr = Table.empty := Table.eq_empty peers
  have unknown : ∀ later, 0 ≤ later →
      config.state.relayKeys.get? (numberedUrl later) = none :=
    fun later _ => unknown_numberedUrl keys later
  refine ⟨config, reached, ⟨live, awaits, open_, alive, unopened, unknown⟩, hosts, ?_, ?_, ?_,
    key, channelless, ?_⟩
  · intro impossible
    exact absurd impossible (Nat.lt_irrefl 0)
  · intro later _ _
    rw [stranger, Table.get?_empty]
  · rw [stranger, Table.get?_empty]
  · simp [RouteEvent.Home]

private theorem dialed_many {number : Nat} (bound : number ≤ 2 ^ 32) :
    ∃ (config : Config Slab.platform) (events : List RouteEvent),
      (journaled Slab.platform).Reachable (config, events) ∧ Dialed config events number := by
  induction number with
  | zero =>
      rcases dialed_none with ⟨config, reached, dialed⟩
      exact ⟨config, [], reached, dialed⟩
  | succ number induction =>
      rcases induction (Nat.le_of_succ_le bound) with
        ⟨config, events, ⟨first, initial, path⟩, dialed⟩
      exact ⟨_, _, ⟨first, initial, path.trans dialed.next_path⟩, dialed.next_dialed bound⟩

private theorem opened_tables {config : Config Slab.platform} {number : Nat}
    (idle : Idle config number) :
    (Idle.opened config number).state.tables =
      (config.state.dialStandin (Slab.peer 7) config.state.nextRelayKey).2.tables := by
  rcases Config.connecting_frame
    ({ Idle.claimed config number with fresh := config.fresh + 2 } : Config Slab.platform)
    config.fresh (Idle.addr number) ((Idle.registered config number).dialNow config.clock
      (Idle.dial number) config.state.nextRelayKey none) with ⟨_, _, _, _, frame⟩
  have state : (Idle.opened config number).state = ((Idle.registered config number).dialNow
      config.clock (Idle.dial number) config.state.nextRelayKey none).2 := by
    rw [Idle.opened, frame]
  have open_ : (Idle.registered config number).closed = false := by
    simp [Idle.registered, Idle.claimed, State.noteEnsured, State.registerRelay, State.release,
      idle.open_]
  have alive : (Idle.registered config number).dead = none := by
    simp [Idle.registered, Idle.claimed, State.noteEnsured, State.registerRelay, State.release,
      idle.alive]
  have same : (Idle.registered config number).tables = config.state.tables := by
    simp [Idle.registered, Idle.claimed, State.noteEnsured, State.registerRelay, State.release,
      State.tables]
  rw [state, @dialNow_tables _ _ open_ alive config.clock (Idle.dial number) (Slab.peer 7) rfl rfl]
  exact State.dialStandin_tables same (Slab.peer 7) config.state.nextRelayKey

private theorem RouteEvent.Home.landed {events : List RouteEvent} {peer : EndpointId}
    (home : Home events peer) {key : UInt32} (landed : Landed events peer key) :
    key = homeRelay := by
  rcases landed with ⟨before, event, after, rfl, lands, _⟩
  generalize route before peer = old at lands
  cases lands with
  | sighted => exact home.1 key (by simp)
  | dialed => exact home.2.1 key (by simp)
  | retired id => exact absurd (by simp) (home.2.2.2 id key)

private theorem opened_dials {config : Config Slab.platform} {number : Nat} {action : Action}
    {before next : Config Slab.platform}
    (either : (before = config ∧ action = .invoke (.connect (Idle.addr number) [])) ∨
      (before = Idle.claimed config number ∧
        action = .resume config.fresh (.opened (.ok ())))) {peer : EndpointId} {key : UInt32}
    (redialed : before.redialed action next = some (peer, key)) : peer = Slab.peer 7 := by
  rcases Config.redialed_cases redialed with ⟨addr, dial, goes, rfl, _⟩
  rcases either with ⟨rfl, rfl⟩ | ⟨rfl, rfl⟩
  · have parsed : EndpointId.ofBytes? (Idle.addr number).endpointId = some (Slab.peer 7) := by
      simp [Idle.addr, Slab.peer, EndpointId.ofBytes?]
    rw [Config.dial?, parsed] at goes
    cases goes
    exact (select_target _ _ _ _ _).1
  · rw [Config.dial?, Idle.claimed_call config number] at goes
    cases goes
    rfl

/-- Once 2^32 peers have standins, the next one shares the first one's. Dialing it over
another relay takes the first peer along, though no channel was ever registered. -/
theorem route_follows_latest_channel_wrapped :
    ∃ (config : Config Slab.platform) (events : List RouteEvent) (standin : SocketAddr),
      (journaled Slab.platform).Reachable (config, events) ∧
      config.state.history.channels = [] ∧
      config.state.peerToAddr.get? (numberedPeer 0) = some standin ∧
      config.state.routes.get? standin = some (.relay 1) ∧
      ¬ RouteEvent.Landed events (numberedPeer 0) 1 := by
  rcases dialed_many (Nat.le_refl (2 ^ 32)) with
    ⟨config, events, ⟨first, initial, path⟩, dialed⟩
  have tables := opened_tables dialed.idle
  have same := tables
  simp only [State.tables, Prod.mk.injEq] at same
  rcases dialStandin_stranger dialed.stranger config.state.nextRelayKey with ⟨peers, _, routed⟩
  have wrapped : config.state.nextHost + 1 = 1 := by
    rw [dialed.hosts]
    rfl
  rw [wrapped] at peers routed
  have apart : ∀ {other : EndpointId} {key : UInt32}, other = Slab.peer 7 →
      other = numberedPeer 0 → key = homeRelay := by
    rintro other key rfl own
    exact absurd own.symm (numberedPeer_ne_seven 0)
  have claimed : RouteEvent.Home (events ++ config.dialEvents
      (.invoke (.connect (Idle.addr 0) [])) (Idle.claimed config 0)) (numberedPeer 0) :=
    dialed.home.dials fun other key redialed => apart (opened_dials (.inl ⟨rfl, rfl⟩) redialed)
  have homely : RouteEvent.Home ((events ++ config.dialEvents
      (.invoke (.connect (Idle.addr 0) [])) (Idle.claimed config 0)) ++
        (Idle.claimed config 0).dialEvents (.resume config.fresh (.opened (.ok ())))
          (Idle.opened config 0)) (numberedPeer 0) :=
    claimed.dials fun other key redialed => apart (opened_dials (.inr ⟨rfl, rfl⟩) redialed)
  have opening : (journaled Slab.platform).ReachesFrom (fun _ _ => True) (config, events)
      (Idle.opened config 0, _) :=
    .step (.step .refl trivial (System.observed.step_of events dialed.idle.claims)) trivial
      (System.observed.step_of _ dialed.idle.opens)
  refine ⟨Idle.opened config 0, _, docPrefixAddr 0x77 1, ⟨first, initial, path.trans opening⟩,
    ?_, ?_, ?_, ?_⟩
  · rw [same.2.2.2.2.2.2]
    rcases config.state.dialStandin_frame (Slab.peer 7) config.state.nextRelayKey with
      ⟨_, _, _, _, frame⟩
    rw [frame]
    exact dialed.channelless
  · rw [same.1, peers, Table.get?_set, if_neg (numberedPeer_ne_seven 0)]
    exact dialed.first (by decide)
  · rw [same.2.2.2.1, routed, dialed.relays]
  · intro landed
    exact absurd (homely.landed landed) (by decide)

end IrohEndpoint
