import IrohEndpoint.Channels

/-! # Addresses of the UDP socket

The route table is keyed by socket address, and an address that has no route is taken for
one of the UDP socket. The keys are standins, drawn from a block of the documentation
prefix; what keeps the two apart is that no real address lies in that block, which the
endpoint does not check of the addresses it is given. -/

namespace IrohEndpoint

variable {P : Platform}

/-- The address is one that `addr_for_peer` may draw. -/
def SocketAddr.Standin (addr : SocketAddr) : Prop := ∃ host, addr = docPrefixAddr 0x77 host

/-! ## The keys of the route table -/

/-- Standins are drawn for a peer, and only standins have routes. -/
structure Standins (state : State P) : Prop where
  peers : ∀ peer addr, state.peerToAddr.get? peer = some addr →
    addr.Standin ∧ ∃ owner, state.addrToPeer.get? addr = some owner
  routes : ∀ addr wire, state.routes.get? addr = some wire →
    addr.Standin ∧ ∃ owner, state.addrToPeer.get? addr = some owner

namespace Standins

variable {state next : State P}

theorem of_same (standins : Standins state) (peers : next.peerToAddr = state.peerToAddr)
    (addrs : next.addrToPeer = state.addrToPeer) (routes : next.routes = state.routes) :
    Standins next := by
  refine ⟨?_, ?_⟩
  · rw [peers, addrs]
    exact standins.peers
  · rw [routes, addrs]
    exact standins.routes

theorem addrForPeer (standins : Standins state) (peer : EndpointId) (via : UInt32) :
    Standins (state.addrForPeer peer via).2 := by
  rw [State.addrForPeer]
  split
  · exact standins
  · have drawn : ∀ addr : SocketAddr,
        (addr.Standin ∧ ∃ owner, state.addrToPeer.get? addr = some owner) ∨
          addr = docPrefixAddr 0x77 (state.nextHost + 1) →
        addr.Standin ∧ ∃ owner, (state.addrToPeer.set
          (docPrefixAddr 0x77 (state.nextHost + 1)) peer).get? addr = some owner := by
      rintro addr (⟨form, owner, found⟩ | rfl)
      · refine ⟨form, ?_⟩
        rw [Table.get?_set]
        split
        · exact ⟨peer, rfl⟩
        · exact ⟨owner, found⟩
      · exact ⟨⟨_, rfl⟩, peer, by simp⟩
    refine ⟨?_, ?_⟩
    · intro other addr found
      simp only [Table.get?_set] at found
      apply drawn
      split at found
      · cases found
        exact .inr rfl
      · exact .inl (standins.peers other addr found)
    · intro addr wire found
      simp only [Table.get?_set] at found
      apply drawn
      split at found
      · rename_i same
        exact .inr same
      · exact .inl (standins.routes addr wire found)

theorem setRoute (standins : Standins state) {peer : EndpointId} {addr : SocketAddr}
    (owned : state.peerToAddr.get? peer = some addr) (wire : RouteWire) :
    Standins { state with routes := state.routes.set addr wire } := by
  refine ⟨standins.peers, ?_⟩
  intro other route found
  simp only [Table.get?_set] at found
  split at found
  · rename_i same
    rw [same]
    exact standins.peers peer addr owned
  · exact standins.routes other route found

theorem dialStandin (standins : Standins state) (peer : EndpointId) (key : UInt32) :
    Standins (state.dialStandin peer key).2 := by
  rw [State.dialStandin]
  dsimp only
  split
  · exact (standins.addrForPeer peer key).setRoute
      (Channels.addrForPeer_standin state peer key) _
  · exact standins.addrForPeer peer key

theorem registerChannel (standins : Standins state) (peer : EndpointId) (wire : ChannelWire) :
    Standins (state.registerChannel peer wire).2 := by
  rcases registerChannel_cases state peer wire with ⟨_, refused⟩ | ⟨entry, _, made, registered⟩
  · rw [refused]
    exact standins.of_same rfl rfl rfl
  · have added : Standins (state.withChannel entry) := standins.of_same rfl rfl rfl
    rw [registered]
    exact (added.addrForPeer peer entry.fallbackRelay).setRoute
      (Channels.addrForPeer_standin _ peer _) _

theorem channelDied (standins : Standins state) (id : UInt32) (wire : ChannelWire) :
    Standins (state.channelDied id wire) := by
  rw [State.channelDied]
  rcases state.retireChannel_cases id with
    ⟨_, same⟩ | ⟨entry, routes, _, equal, changed, _⟩
  · rw [same]
    exact standins.of_same rfl rfl rfl
  · rw [equal]
    rcases changed with rfl | ⟨addr, owned, rfl⟩
    · exact standins.of_same rfl rfl rfl
    · exact (standins.setRoute owned (.relay entry.fallbackRelay)).of_same rfl rfl rfl

theorem step {task : Task} (step : StateStep task state next) (standins : Standins state) :
    Standins next := by
  cases step with
  | closed now reason _ =>
      rcases state.close_frame now reason with ⟨_, _, frame⟩
      rw [frame]
      exact standins.of_same rfl rfl rfl
  | responded addr source payload =>
      rcases state.pushResponse_frame addr source payload with ⟨_, _, _, frame⟩
      rw [frame]
      exact standins.of_same rfl rfl rfl
  | sighted peer via => exact standins.addrForPeer peer via
  | dialed peer key => exact standins.dialStandin peer key
  | channelRegistered peer wire _ => exact standins.registerChannel peer wire
  | channelDied id wire _ => exact standins.channelDied id wire
  | _ => exact standins.of_same rfl rfl rfl

end Standins

private theorem reachable_standins {config : Config P} (reached : (endpoint P).Reachable config) :
    Standins config.state := by
  refine reachable_state reached Standins ?_ ?_
  · intro noq webrtc relay
    refine ⟨?_, ?_⟩ <;> intro key value found <;> simp [State.registerRelay, State.new] at found
  · intro task before after step standins
    exact Standins.step step standins

/-! ## Where packets go -/

namespace State

/-- `next` has one more datagram queued, for the wire the address is routed to or for the
UDP socket. -/
def Queues (state : State P) (addr : SocketAddr) (payload : Bytes) (next : State P) : Prop :=
  match state.routes.get? addr with
  | some (.relay key) => ∃ peer, next = { state with
      relayOutbound := state.relayOutbound ++ [(key, peer, payload)] }
  | some (.channel id) => next = { state with
      channelOutbound := state.channelOutbound ++ [(id, payload)] }
  | none => next = { state with udpOutbound := state.udpOutbound ++ [(addr, payload)] }

variable {state : State P} {addr : SocketAddr}

private theorem routeTransmit_queues
    (owned : ∀ wire, state.routes.get? addr = some wire →
      ∃ owner, state.addrToPeer.get? addr = some owner) (payload : Bytes) :
    ∃ next, state.routeTransmit ⟨addr, payload⟩ = .ok next ∧ state.Queues addr payload next := by
  cases route : state.routes.get? addr with
  | none => simp [routeTransmit, Queues, route]
  | some wire =>
      rcases owned wire route with ⟨owner, known⟩
      cases wire with
      | relay key => simp [routeTransmit, Queues, route, known]
      | channel id => simp [routeTransmit, Queues, route]

private theorem pushResponse_queues {source : Option EndpointId}
    (unrouted : source = none → state.routes.get? addr = none) (payload : Bytes) :
    state.Queues addr payload (state.pushResponse addr source payload) := by
  rw [Queues.eq_def, pushResponse.eq_def]
  cases route : state.routes.get? addr with
  | none => rfl
  | some wire =>
      cases source with
      | none =>
          rw [unrouted rfl] at route
          cases route
      | some peer =>
          cases wire with
          | relay key => exact ⟨peer, rfl⟩
          | channel id => rfl

private theorem handleUdpDatagram_outbound (unrouted : state.routes.get? addr = none)
    (now : Instant)
    (payload : Bytes) :
    ∃ responses : List Bytes, (state.handleUdpDatagram now addr payload).udpOutbound =
        state.udpOutbound ++ responses.map (fun response => (addr, response)) ∧
      (state.handleUdpDatagram now addr payload).relayOutbound = state.relayOutbound ∧
      (state.handleUdpDatagram now addr payload).channelOutbound = state.channelOutbound := by
  have answered : ∀ (between : State P) (response : Bytes),
      between.routes = state.routes → between.udpOutbound = state.udpOutbound →
      between.relayOutbound = state.relayOutbound →
      between.channelOutbound = state.channelOutbound →
      (between.pushResponse addr none response).udpOutbound =
          state.udpOutbound ++ [response].map (fun response => (addr, response)) ∧
        (between.pushResponse addr none response).relayOutbound = state.relayOutbound ∧
        (between.pushResponse addr none response).channelOutbound = state.channelOutbound := by
    intro between response routes udp relay channel
    rw [pushResponse.eq_def, routes, unrouted]
    dsimp only
    rw [udp]
    exact ⟨rfl, relay, channel⟩
  have silent : ∃ responses : List Bytes,
      state.udpOutbound =
        state.udpOutbound ++ responses.map (fun response => (addr, response)) := ⟨[], by simp⟩
  rcases silent with ⟨none_, same⟩
  rw [handleUdpDatagram, handleDatagram]
  dsimp only
  split
  · split <;> exact ⟨none_, same, rfl, rfl⟩
  · split
    · exact ⟨none_, same, rfl, rfl⟩
    · split
      · exact ⟨none_, same, rfl, rfl⟩
      · exact ⟨[_], answered _ _ rfl rfl rfl rfl⟩
      · exact ⟨none_, same, rfl, rfl⟩
  · exact ⟨[_], answered _ _ rfl rfl rfl rfl⟩
  · exact ⟨none_, same, rfl, rfl⟩

private theorem path_of_unrouted {handle : ConnectionHandle} {entry : ConnEntry P}
    (found : state.conns.get? handle = some entry)
    (remote : P.networkPath entry.conn = some addr)
    (unrouted : state.routes.get? addr = none) : state.path handle = .ip := by
  rw [path, found]
  dsimp only
  rw [remote]
  dsimp only
  rw [unrouted]

end State

/-! ## Runs -/

/-- The address that enters noq from the UDP side in this step: the source of a datagram,
or the target a dial selects from its `ip` entries. -/
def Config.entering (config : Config P) : Action → Option SocketAddr
  | .pump (.udpEvent (some (_, remote))) => some remote
  | .invoke (.connect addr alpn) =>
      (EndpointId.ofBytes? addr.endpointId).bind fun peer =>
        (Dial.select config.udp config.state.webrtcEnabled peer alpn addr.addrs).direct
  | _ => none

def Config.Real (config : Config P) (action : Action) : Prop :=
  ∀ addr, config.entering action = some addr → ¬ addr.Standin

variable (P) in
/-- The endpoint beside the addresses that entered from the UDP side. -/
def entered : System (Config P × List SocketAddr) Action Abort :=
  (endpoint P).observed [] fun log config action _ => log ++ (config.entering action).toList

private theorem entered_real {config : Config P} {log : List SocketAddr}
    (reached : (entered P).Reaches (fun start action => start.1.Real action) (config, log)) :
    (endpoint P).Reachable config ∧ ∀ addr ∈ log, ¬ addr.Standin := by
  have initially : ∀ config : Config P, (endpoint P).Initial config →
      ∀ addr ∈ ([] : List SocketAddr), ¬ addr.Standin := by
    intro config _ addr member
    cases member
  have preserved : ∀ (config : Config P) (log : List SocketAddr) (action : Action)
      (next : Config P), (endpoint P).Reaches Config.Real config →
      (∀ addr ∈ log, ¬ addr.Standin) → config.Real action →
      (endpoint P).step config action = .ok next →
      ∀ addr ∈ log ++ (config.entering action).toList, ¬ addr.Standin := by
    intro config log action next _ real allowed _ addr member
    rcases List.mem_append.mp member with old | new
    · exact real addr old
    · exact allowed addr (by simpa using new)
  have both := System.observed.invariant
    (fun (_ : Config P) (log : List SocketAddr) => ∀ addr ∈ log, ¬ addr.Standin) initially
    preserved reached
  exact ⟨both.1.reachable, both.2⟩

/-- In a run in which no address from the UDP side is a standin, none of them ever has a
route: what noq sends to it goes to the socket, what answers a datagram from it goes back
there, and its connections report an `ip` path. A drain sends each packet a connection gave
on the wire of its destination, and the responses choose the same wire for every address. -/
theorem udp_addresses_unrouted {config : Config P} {log : List SocketAddr}
    (reached : (entered P).Reaches (fun start action => start.1.Real action) (config, log)) :
    (∀ addr ∈ log, config.state.routes.get? addr = none) ∧
    ∀ state : State P, state.routes = config.state.routes →
      state.addrToPeer = config.state.addrToPeer →
      (∀ addr ∈ log,
        (∀ datagram, state.routeTransmit ⟨addr, datagram⟩ = .ok { state with
          udpOutbound := state.udpOutbound ++ [(addr, datagram)] }) ∧
        (∀ now payload, ∃ responses : List Bytes,
          (state.handleUdpDatagram now addr payload).udpOutbound =
            state.udpOutbound ++ responses.map (fun response => (addr, response)) ∧
          (state.handleUdpDatagram now addr payload).relayOutbound = state.relayOutbound ∧
          (state.handleUdpDatagram now addr payload).channelOutbound =
            state.channelOutbound) ∧
        ∀ handle entry, state.conns.get? handle = some entry →
          P.networkPath entry.conn = some addr → state.path handle = .ip) ∧
      (∀ fuel now order next, state.drain fuel now order = .ok next →
        ∃ emitted items, state.DrainOf now order emitted items next ∧
          List.Forall₂ (fun transmit item =>
            (transmit.destination ∈ log →
              item = .udp transmit.destination transmit.datagram) ∧
            item.wire? = state.routes.get? transmit.destination ∧
            item.datagram = transmit.datagram) (order.flatMap emitted) items) ∧
      ∀ addr source payload, (source = none → addr ∈ log) →
        (∃ next, state.routeTransmit ⟨addr, payload⟩ = .ok next ∧
          state.Queues addr payload next) ∧
        state.Queues addr payload (state.pushResponse addr source payload) := by
  rcases entered_real reached with ⟨reachable, real⟩
  have standins := reachable_standins reachable
  have unrouted : ∀ addr ∈ log, config.state.routes.get? addr = none := by
    intro addr member
    cases route : config.state.routes.get? addr with
    | none => rfl
    | some wire => exact absurd (standins.routes addr wire route).1 (real addr member)
  refine ⟨unrouted, ?_⟩
  intro state routes addrs
  rw [← routes] at unrouted
  refine ⟨?_, ?_, ?_⟩
  · intro addr member
    have absent := unrouted addr member
    refine ⟨?_, fun now payload => State.handleUdpDatagram_outbound absent now payload, ?_⟩
    · intro datagram
      simp only [State.routeTransmit, absent]
    · intro handle entry found remote
      exact State.path_of_unrouted found remote absent
  · intro fuel now order next ran
    rcases State.drain_sends ran with ⟨emitted, items, drained⟩
    refine ⟨emitted, items, drained, drained.each.imp ?_⟩
    intro transmit item queued
    constructor
    · intro member
      exact State.outbound_udp (unrouted _ member) queued
    · exact State.outbound_wire queued
  · intro addr source payload known
    refine ⟨State.routeTransmit_queues ?_ payload,
      State.pushResponse_queues (fun none_ => unrouted addr (known none_)) payload⟩
    intro wire route
    rw [routes] at route
    rw [addrs]
    exact (standins.routes addr wire route).2

def SocketAddr.isIpv4 : SocketAddr → Bool
  | .v4 .. => true
  | .v6 .. => false

private theorem SocketAddr.not_standin_of_isIpv4 {addr : SocketAddr} (old : addr.isIpv4 = true) :
    ¬ addr.Standin := by
  rintro ⟨host, rfl⟩
  cases old

/-- Peer 7 speaks through the home relay, and peer 9 is dialed at `target`. -/
def dialDirect (target : String) : List Action :=
  List.flatten [Slab.turn [] 0, [Slab.hello 0 7], Slab.turn [0] 1,
    [.invoke (.connect ⟨(Slab.peer 9).bytes, [.ip target]⟩ [])]]

theorem udp_addresses_unrouted_dialed :
    ∃ (config : Config Slab.platform) (log : List SocketAddr) (entry : ConnEntry Slab.platform),
      (entered Slab.platform).Reaches (fun start action => start.1.Real action)
        (config, log) ∧
      config.state.conns.get? 1 = some entry ∧
      Slab.platform.networkPath entry.conn = some (.v4 ⟨127, 0, 0, 1⟩ 80) ∧
      config.state.path 1 = .ip := by
  have passed : (entered Slab.platform).runs
      (fun start action => (start.1.entering action).all SocketAddr.isIpv4)
      (Slab.bound true true, []) (dialDirect "127.0.0.1:80")
      (fun start => decide (SocketAddr.v4 ⟨127, 0, 0, 1⟩ 80 ∈ start.2) &&
        (start.1.state.conns.get? 1).any fun entry =>
          decide (Slab.platform.networkPath entry.conn = some (.v4 ⟨127, 0, 0, 1⟩ 80))) =
      true := by decide +kernel
  have sound : ∀ (start : Config Slab.platform × List SocketAddr) (action : Action),
      (start.1.entering action).all SocketAddr.isIpv4 = true → start.1.Real action := by
    intro start action old addr entering
    rw [entering] at old
    exact SocketAddr.not_standin_of_isIpv4 old
  rcases System.ReachesFrom.of_runs sound _ passed with ⟨⟨config, log⟩, path, tested⟩
  simp only [Bool.and_eq_true, decide_eq_true_eq, Option.any_eq_true] at tested
  rcases tested with ⟨member, entry, found, remote⟩
  have reached : (entered Slab.platform).Reaches (fun start action => start.1.Real action)
      (config, log) := ⟨_, ⟨Slab.bound_initial true true, rfl⟩, path⟩
  rcases udp_addresses_unrouted reached with ⟨_, queues⟩
  exact ⟨config, log, entry, reached, found, remote,
    ((queues config.state rfl rfl).1 _ member).2.2 1 entry found remote⟩

/-- Peer 9 is dialed at an `ip` entry that is peer 7's standin: the dial's packets go to
peer 7 over the home relay, the connection reports a relay path, and a response to the same
address would go to the socket. -/
theorem udp_addresses_unrouted_collision :
    ∃ (config : Config Slab.platform) (log : List SocketAddr),
      (entered Slab.platform).Reachable (config, log) ∧ docPrefixAddr 0x77 1 ∈ log ∧
      config.state.routes.get? (docPrefixAddr 0x77 1) = some (.relay homeRelay) ∧
      config.state.path 1 = .relay ∧
      (config.state.routeTransmit ⟨docPrefixAddr 0x77 1, [1]⟩).toOption.map
        (fun next => (next.relayOutbound, next.udpOutbound)) =
          some ([(homeRelay, Slab.peer 7, [1])], []) ∧
      (config.state.pushResponse (docPrefixAddr 0x77 1) none [1]).udpOutbound =
        [(docPrefixAddr 0x77 1, [1])] := by
  have passed : (entered Slab.platform).runs (fun _ _ => true) (Slab.bound true true, [])
      (dialDirect "[2001:db8:77::1]:4433")
      (fun start => decide (docPrefixAddr 0x77 1 ∈ start.2 ∧
        start.1.state.routes.get? (docPrefixAddr 0x77 1) = some (.relay homeRelay) ∧
        start.1.state.path 1 = .relay ∧
        (start.1.state.routeTransmit ⟨docPrefixAddr 0x77 1, [1]⟩).toOption.map
          (fun next => (next.relayOutbound, next.udpOutbound)) =
            some ([(homeRelay, Slab.peer 7, [1])], []) ∧
        (start.1.state.pushResponse (docPrefixAddr 0x77 1) none [1]).udpOutbound =
          [(docPrefixAddr 0x77 1, [1])])) = true := by decide +kernel
  have initial : (entered Slab.platform).Initial (Slab.bound true true, []) :=
    ⟨Slab.bound_initial true true, rfl⟩
  rcases System.Reachable.of_runs initial passed with ⟨⟨config, log⟩, reached, tested⟩
  exact ⟨config, log, reached, of_decide_eq_true tested⟩

end IrohEndpoint
