import IrohEndpoint.Calls
import IrohEndpoint.Channels

/-! # Dials over a relay

A connect call goes over the relay of the first relay entry it was given, or over the home
relay. One stretch of the call finds the key of that relay and a later one may use it; a URL
keeps its key, so the table still names it when noq is asked. -/

namespace IrohEndpoint

variable {P : Platform}

/-! ## The standin of a dial -/

theorem State.routes_of_tables {state next : State P} (same : next.tables = state.tables) :
    next.routes = state.routes := by
  simp only [State.tables, Prod.mk.injEq] at same
  exact same.2.2.2.1

/-- The route of a standin after a dial through `key`: a channel is kept. -/
def RouteWire.follow (key : UInt32) : RouteWire → RouteWire
  | .relay _ => .relay key
  | .channel id => .channel id

/-- noq is asked to dial the standin of `peer` over the relay of `key`, and the route of
that standin follows. -/
structure State.Redials (peer : EndpointId) (key : UInt32) (before after : State P) : Prop where
  open_ : before.closed = false
  alive : before.dead = none
  asked : ∃ standin alpn now config, P.clientConfig peer alpn = .ok config ∧
    after.noq = (P.connect before.noq now config standin).1 ∧
    after.peerToAddr.get? peer = some standin ∧
    (∀ addr, addr ≠ standin → after.routes.get? addr = before.routes.get? addr) ∧
    ∀ wire, before.peerToAddr.get? peer = some standin →
      before.routes.get? standin = some wire →
      after.routes.get? standin = some (wire.follow key)

namespace State

theorem addrForPeer_routes (state : State P) (peer : EndpointId) (via : UInt32)
    {addr : SocketAddr} (apart : addr ≠ (state.addrForPeer peer via).1) :
    (state.addrForPeer peer via).2.routes.get? addr = state.routes.get? addr := by
  rw [addrForPeer] at apart ⊢
  split
  · rfl
  · rename_i unknown
    rw [unknown] at apart
    dsimp only at apart ⊢
    rw [Table.get?_set, if_neg apart]

theorem dialStandin_standin (state : State P) (peer : EndpointId) (key : UInt32) :
    (state.dialStandin peer key).2.peerToAddr.get? peer =
      some (state.dialStandin peer key).1 := by
  have standin := Channels.addrForPeer_standin state peer key
  rw [dialStandin]
  dsimp only
  split <;> exact standin

theorem dialStandin_elsewhere (state : State P) (peer : EndpointId) (key : UInt32)
    {addr : SocketAddr} (apart : addr ≠ (state.dialStandin peer key).1) :
    (state.dialStandin peer key).2.routes.get? addr = state.routes.get? addr := by
  rw [dialStandin] at apart ⊢
  dsimp only at apart ⊢
  split <;> rename_i route <;> simp only [route] at apart
  · dsimp only
    rw [Table.get?_set, if_neg apart]
    exact state.addrForPeer_routes peer key apart
  · exact state.addrForPeer_routes peer key apart

theorem dialStandin_follows (state : State P) (peer : EndpointId) (key : UInt32)
    {wire : RouteWire}
    (known : state.peerToAddr.get? peer = some (state.dialStandin peer key).1)
    (routed : state.routes.get? (state.dialStandin peer key).1 = some wire) :
    (state.dialStandin peer key).2.routes.get? (state.dialStandin peer key).1 =
      some (wire.follow key) := by
  cases existing : state.peerToAddr.get? peer with
  | none =>
      rw [existing] at known
      cases known
  | some standin =>
      have drawn : state.addrForPeer peer key = (standin, state) := by
        rw [addrForPeer, existing]
      have first : (state.dialStandin peer key).1 = standin := by
        rw [dialStandin, drawn]
        dsimp only
        split <;> rfl
      rw [first] at routed ⊢
      rw [dialStandin, drawn]
      dsimp only
      rw [routed]
      cases wire with
      | relay old => simp [RouteWire.follow]
      | channel id => exact routed

theorem dialStandin_tables {state other : State P} (same : other.tables = state.tables)
    (peer : EndpointId) (key : UInt32) :
    (other.dialStandin peer key).2.tables = (state.dialStandin peer key).2.tables := by
  simp only [State.tables, Prod.mk.injEq] at same
  rcases same with ⟨peers, addrs, hosts, routes, channels, ids, registered⟩
  simp only [State.dialStandin, State.addrForPeer, peers, hosts]
  cases state.peerToAddr.get? peer with
  | none =>
      simp only [Table.get?_set, if_true, State.tables, addrs, routes, channels, ids, registered]
  | some addr =>
      dsimp only
      rw [routes]
      split <;> simp only [State.tables, peers, addrs, hosts, routes, channels, ids, registered]

end State

/-! ## What a dial needs -/

def EndpointAddr.relay? (addr : EndpointAddr) : Option String :=
  addr.addrs.findSome? fun
    | .relay url => some url
    | _ => none

/-- The key of the relay that a dial to the address goes over, once that relay is open. -/
def State.dialKey? (state : State P) (addr : EndpointAddr) : Option UInt32 :=
  match addr.relay? with
  | some url => state.relayKeys.get? (normalizeRelayUrl url)
  | none => some homeRelay

def Dial.relays (dial : Dial) : List String := dial.dialRelay.toList ++ dial.webrtcHint.toList

def State.knows (state : State P) (url : String) : Bool :=
  (state.relayKeys.get? (normalizeRelayUrl url)).isSome

def Dial.asks (dial : Dial) (state : State P) : Bool :=
  dial.direct.isNone && dial.relays.all state.knows &&
    (P.clientConfig dial.peer dial.alpn).isOk && !state.isClosedOrDead

def ConnectPhase.dial? : ConnectPhase → Option Dial
  | .dialRelay dial _ _ | .upgradeRelay dial _ _ _ => some dial
  | .handshake .. => none

namespace Config

def dial? (config : Config P) : Action → Option (EndpointAddr × Dial)
  | .invoke (.connect addr alpn) =>
      (EndpointId.ofBytes? addr.endpointId).map fun peer =>
        (addr, .select config.udp config.state.webrtcEnabled peer alpn addr.addrs)
  | .resume id _ =>
      match config.calls.get? id with
      | some (.connect addr phase) => phase.dial?.map fun dial => (addr, dial)
      | _ => none
  | _ => none

def redialed (config : Config P) (action : Action) (next : Config P) :
    Option (EndpointId × UInt32) :=
  match config.dial? action with
  | some (addr, dial) =>
      if dial.asks next.state then (next.state.dialKey? addr).map fun key => (dial.peer, key)
      else none
  | none => none

end Config

/-! ## The dial of an address -/

/-- The dial is to the peer of the address, over its relay. -/
structure Dial.Of (addr : EndpointAddr) (dial : Dial) : Prop where
  peer : dial.peer.bytes = addr.endpointId
  relay : dial.dialRelay = addr.relay?

def ConnectPhase.Of (addr : EndpointAddr) (state : State P) : ConnectPhase → Prop
  | .dialRelay dial url _ => dial.Of addr ∧ dial.direct = none ∧ dial.dialRelay = some url
  | .upgradeRelay dial key url _ => dial.Of addr ∧ dial.direct = none ∧
      dial.webrtcHint = some url ∧ state.dialKey? addr = some key
  | .handshake peer _ _ => peer.bytes = addr.endpointId

private theorem Dial.select_relay (udp webrtcEnabled : Bool) (peer : EndpointId) (alpn : Bytes)
    (addr : EndpointAddr) :
    (Dial.select udp webrtcEnabled peer alpn addr.addrs).dialRelay = addr.relay? := by
  have folded : ∀ (addrs : List TransportAddr) (dial : Dial),
      (addrs.foldl (Dial.consider udp webrtcEnabled) dial).dialRelay =
        dial.dialRelay.or (addrs.findSome? fun
          | .relay url => some url
          | _ => none) := by
    intro addrs
    induction addrs with
    | nil => simp
    | cons entry addrs induction =>
        intro dial
        rw [List.foldl_cons, induction]
        cases entry with
        | relay url => cases known : dial.dialRelay <;> simp [Dial.consider, known]
        | ip text => rw [Dial.consider]; split <;> rfl
        | webrtc url => rw [Dial.consider]; split <;> rfl
        | custom data => rfl
  rw [Dial.select, folded]
  rfl

def State.Remembers (state next : State P) : Prop :=
  ∀ url key, state.relayKeys.get? url = some key → next.relayKeys.get? url = some key

private theorem State.Remembers.of_keys {state next : State P}
    (same : next.relayKeys = state.relayKeys) :
    state.Remembers next := by
  intro url key known
  rw [same]
  exact known

theorem State.Remembers.of_pool {state next : State P} (same : next.pool = state.pool) :
    state.Remembers next := by
  simp only [State.pool, Prod.mk.injEq] at same
  exact .of_keys same.2.1

private theorem PumpsRelays.remembers {pump : Pump} {state : State P} {pumped : Pumped P}
    (step : PumpsRelays pump state pumped) : state.Remembers pumped.1 := by
  cases step with
  | kept same _ => exact .of_pool same.1
  | armed equal _ =>
      rw [equal]
      exact .of_keys rfl
  | lost key conn _ _ equal _ =>
      rw [equal]
      exact .of_keys rfl

theorem State.Remembers.dialKey {state next : State P} (remembers : state.Remembers next)
    {addr : EndpointAddr} {key : UInt32} (known : state.dialKey? addr = some key) :
    next.dialKey? addr = some key := by
  rw [State.dialKey?] at known ⊢
  split at known
  · exact remembers _ key known
  · exact known

private theorem ConnectPhase.Of.remembered {phase : ConnectPhase} {addr : EndpointAddr}
    {state next : State P} (of_ : phase.Of addr state) (remembers : state.Remembers next) :
    phase.Of addr next := by
  cases phase with
  | dialRelay dial url ensure => exact of_
  | upgradeRelay dial key url ensure =>
      exact ⟨of_.1, of_.2.1, of_.2.2.1, remembers.dialKey of_.2.2.2⟩
  | handshake peer handle serial => exact of_

/-! ## A stretch of a dial -/

/-- A stretch of a dial to the address asks noq to dial the standin over the relay of its
key, or leaves the routing tables alone. -/
structure Stretch (addr : EndpointAddr) (dial : Dial) (state : State P)
    (result : Connecting × State P) : Prop where
  of_ : dial.Of addr
  keys : state.Remembers result.2
  stops : ∀ phase, result.1 = .suspended phase → phase.Of addr result.2
  moves : (dial.asks result.2 = false ∧ result.2.tables = state.tables) ∨
    ∃ key, dial.asks result.2 = true ∧ result.2.dialKey? addr = some key ∧
      state.Redials dial.peer key result.2 ∧
      result.2.tables = (state.dialStandin dial.peer key).2.tables ∧
      ∀ phase, result.1 = .suspended phase → phase.ensure? = none

theorem ConnectPhase.dial?_of_ensure {phase : ConnectPhase} {url : String}
    {ensure : EnsurePhase} (waits : phase.ensure? = some (url, ensure)) :
    ∃ dial, phase.dial? = some dial := by
  cases phase with
  | dialRelay dial text wait => exact ⟨dial, rfl⟩
  | upgradeRelay dial key text wait => exact ⟨dial, rfl⟩
  | handshake peer handle serial => cases waits

theorem ConnectPhase.Of.dial {phase : ConnectPhase} {addr : EndpointAddr} {state : State P}
    (of_ : phase.Of addr state) {dial : Dial} (suspended : phase.dial? = some dial) :
    dial.Of addr := by
  cases phase <;> cases suspended
  · exact of_.1
  · exact of_.1

private theorem ConnectPhase.Of.needs {phase : ConnectPhase} {addr : EndpointAddr} {state : State P}
    (of_ : phase.Of addr state) {dial : Dial} (suspended : phase.dial? = some dial)
    {url : String} {ensure : EnsurePhase} (waits : phase.ensure? = some (url, ensure)) :
    url ∈ dial.relays := by
  cases phase <;> cases suspended <;> cases waits
  · simp [Dial.relays, of_.2.2]
  · simp [Dial.relays, of_.2.2.1]

private theorem Dial.asks_direct {dial : Dial} {real : SocketAddr}
    (direct : dial.direct = some real)
    (state : State P) : dial.asks state = false := by
  simp [Dial.asks, direct]

private theorem Dial.asks_unknown {dial : Dial} {url : String} (needed : url ∈ dial.relays)
    {state : State P} (unknown : state.relayKeys.get? (normalizeRelayUrl url) = none) :
    dial.asks state = false := by
  have missing : dial.relays.all state.knows = false := by
    rw [List.all_eq_false]
    exact ⟨url, needed, by simp [State.knows, unknown]⟩
  simp [Dial.asks, missing]

private theorem beginEnsure_known {state : State P} {url : String} {key : UInt32}
    (known : state.relayKeys.get? (normalizeRelayUrl url) = some key) (now : Instant) :
    state.beginEnsure now url = (.resolved (.ok key), state.noteEnsured url key) := by
  simp [State.beginEnsure, known]

private theorem beginEnsure_unknown {state : State P} {url : String}
    (unknown : state.relayKeys.get? (normalizeRelayUrl url) = none) (now : Instant) :
    ∃ start relayOpening, state.beginEnsure now url = (start, { state with relayOpening }) ∧
      ∀ key, start ≠ .resolved (.ok key) := by
  rcases Dialing.beginEnsure_cases state now url with
    ⟨key, known, _⟩ | ⟨error, _, equal⟩ | ⟨_, equal⟩ | ⟨_, _, _, equal⟩
  · rw [unknown] at known
    cases known
  · exact ⟨_, _, equal, by rintro key ⟨⟩⟩
  · exact ⟨_, _, equal, by rintro key ⟨⟩⟩
  · exact ⟨_, _, equal, by rintro key ⟨⟩⟩

private theorem Dial.Of.relay_known {addr : EndpointAddr} {dial : Dial} (of_ : dial.Of addr)
    {state : State P} {key : UInt32} (keyed : state.dialKey? addr = some key) :
    dial.dialRelay.toList.all state.knows = true := by
  rw [of_.relay]
  rw [State.dialKey?] at keyed
  split at keyed
  · rename_i url named
    rw [named]
    simp [State.knows, keyed]
  · rename_i unnamed
    rw [unnamed]
    rfl

namespace Stretch

variable {addr : EndpointAddr} {dial : Dial} {state between : State P}
  {result : Connecting × State P}

theorem before (stretch : Stretch addr dial between result) (keys : state.Remembers between)
    (noq : between.noq = state.noq) (closed : between.closed = state.closed)
    (dead : between.dead = state.dead) (tables : between.tables = state.tables) :
    Stretch addr dial state result := by
  refine ⟨stretch.of_, fun url key known => stretch.keys url key (keys url key known),
    stretch.stops, ?_⟩
  rcases stretch.moves with ⟨quiet, same⟩ | ⟨key, asks, keyed, redials, moved, stops⟩
  · exact .inl ⟨quiet, same.trans tables⟩
  · have fields := tables
    simp only [State.tables, Prod.mk.injEq] at fields
    refine .inr ⟨key, asks, keyed, ⟨?_, ?_, ?_⟩, ?_, stops⟩
    · rw [← closed]
      exact redials.open_
    · rw [← dead]
      exact redials.alive
    · rw [← noq, ← fields.2.2.2.1, ← fields.1]
      exact redials.asked
    · rw [moved]
      exact State.dialStandin_tables tables dial.peer key

theorem quiet (of_ : dial.Of addr) {url : String} (needed : url ∈ dial.relays)
    (unknown : state.relayKeys.get? (normalizeRelayUrl url) = none) (relayOpening : List String)
    {progress : Connecting}
    (stops : ∀ phase, progress = .suspended phase → phase.Of addr state) :
    Stretch addr dial state (progress, { state with relayOpening }) := by
  refine ⟨of_, fun _ _ known => known, ?_, .inl ⟨Dial.asks_unknown needed unknown, rfl⟩⟩
  intro phase suspended
  exact (stops phase suspended).remembered fun _ _ known => known

private theorem dialNow_asked (now : Instant) {dialKey : UInt32} {upgradeKey : Option UInt32}
    {config : P.ClientConfig} (made : P.clientConfig dial.peer dial.alpn = .ok config)
    (open_ : state.closed = false) (alive : state.dead = none) :
    ∃ conns pendingUpgrades connections,
      (state.dialNow now dial dialKey upgradeKey).2 = { (state.dialRemote dial dialKey).2 with
        noq := (P.connect (state.dialRemote dial dialKey).2.noq now config
          (state.dialRemote dial dialKey).1).1
        conns, pendingUpgrades
        history := { (state.dialRemote dial dialKey).2.history with connections } } ∧
      ∀ phase, (state.dialNow now dial dialKey upgradeKey).1 = .suspended phase →
        ∃ handle serial, phase = .handshake dial.peer handle serial := by
  rw [State.dialNow, made]
  dsimp only
  rw [if_neg (by simp [open_, alive])]
  split
  · exact ⟨_, _, _, rfl, by rintro phase ⟨⟩⟩
  · cases upgradeKey with
    | none => exact ⟨_, _, _, rfl, by rintro phase ⟨⟩; exact ⟨_, _, rfl⟩⟩
    | some key => exact ⟨_, _, _, rfl, by rintro phase ⟨⟩; exact ⟨_, _, rfl⟩⟩

/-- noq is asked to dial the standin: its route follows, and the rest of the tables stays. -/
theorem asked (of_ : dial.Of addr) (now : Instant) {dialKey : UInt32}
    {upgradeKey : Option UInt32} {config : P.ClientConfig} (direct : dial.direct = none)
    (known : dial.relays.all state.knows = true) (key : state.dialKey? addr = some dialKey)
    (made : P.clientConfig dial.peer dial.alpn = .ok config) (open_ : state.closed = false)
    (alive : state.dead = none) :
    Stretch addr dial state (state.dialNow now dial dialKey upgradeKey) := by
  have remote : state.dialRemote dial dialKey = state.dialStandin dial.peer dialKey := by
    rw [State.dialRemote, direct]
  rcases @dialNow_asked _ dial state now dialKey upgradeKey _ made open_ alive with
    ⟨conns, pendingUpgrades, connections, reached, stops⟩
  rw [remote] at reached
  rcases state.dialStandin_frame dial.peer dialKey with ⟨_, _, _, _, frame⟩
  have keys : (state.dialNow now dial dialKey upgradeKey).2.relayKeys = state.relayKeys := by
    rw [reached, frame]
  refine ⟨of_, ?_, ?_, .inr ⟨dialKey, ?_, ?_, ⟨open_, alive, ?_⟩, ?_, ?_⟩⟩
  · intro url other named
    rw [keys]
    exact named
  · intro phase suspended
    rcases stops phase suspended with ⟨handle, serial, rfl⟩
    exact of_.peer
  · have knows : (state.dialNow now dial dialKey upgradeKey).2.knows = state.knows := by
      funext url
      rw [State.knows, keys, State.knows]
    have runs : (state.dialNow now dial dialKey upgradeKey).2.isClosedOrDead = false := by
      rw [State.isClosedOrDead, reached, frame]
      simp [open_, alive]
    simp [Dial.asks, direct, knows, known, runs, made, Except.isOk, Except.toBool]
  · rw [State.dialKey?, keys]
    exact key
  · refine ⟨(state.dialStandin dial.peer dialKey).1, dial.alpn, now, config, made, ?_, ?_, ?_, ?_⟩
    · have noq : (state.dialStandin dial.peer dialKey).2.noq = state.noq := by rw [frame]
      rw [reached, noq]
    · rw [reached]
      exact state.dialStandin_standin dial.peer dialKey
    · intro elsewhere apart
      rw [reached]
      exact state.dialStandin_elsewhere dial.peer dialKey apart
    · intro wire standin routed
      rw [reached]
      exact state.dialStandin_follows dial.peer dialKey standin routed
  · rw [reached]
    rfl
  · intro phase suspended
    rcases stops phase suspended with ⟨handle, serial, rfl⟩
    rfl

theorem real (of_ : dial.Of addr) (now : Instant) {dialKey : UInt32}
    {upgradeKey : Option UInt32} {config : P.ClientConfig} {real : SocketAddr}
    (direct : dial.direct = some real)
    (made : P.clientConfig dial.peer dial.alpn = .ok config) (open_ : state.closed = false)
    (alive : state.dead = none) :
    Stretch addr dial state (state.dialNow now dial dialKey upgradeKey) := by
  have remote : state.dialRemote dial dialKey = (real, state) := by
    rw [State.dialRemote, direct]
  rcases @dialNow_asked _ dial state now dialKey upgradeKey _ made open_ alive with
    ⟨conns, pendingUpgrades, connections, reached, stops⟩
  rw [remote] at reached
  refine ⟨of_, ?_, ?_, .inl ⟨Dial.asks_direct direct _, ?_⟩⟩
  · rw [reached]
    exact fun _ _ known => known
  · intro phase suspended
    rcases stops phase suspended with ⟨handle, serial, rfl⟩
    exact of_.peer
  · rw [reached]
    rfl

theorem dialNow (of_ : dial.Of addr) (now : Instant) (dialKey : UInt32)
    (upgradeKey : Option UInt32) (known : dial.direct = none →
      dial.relays.all state.knows = true ∧ state.dialKey? addr = some dialKey) :
    Stretch addr dial state (state.dialNow now dial dialKey upgradeKey) := by
  cases made : P.clientConfig dial.peer dial.alpn with
  | error detail =>
      rw [State.dialNow, made]
      refine ⟨of_, fun _ _ known => known, by rintro phase ⟨⟩, .inl ⟨?_, rfl⟩⟩
      simp [Dial.asks, made, Except.isOk, Except.toBool]
  | ok config =>
      cases ended : state.isClosedOrDead with
      | true =>
          have stays : state.dialNow now dial dialKey upgradeKey = (.failed .closed, state) := by
            rw [State.isClosedOrDead, Bool.or_comm] at ended
            rw [State.dialNow, made]
            exact if_pos ended
          rw [stays]
          refine ⟨of_, fun _ _ known => known, by rintro phase ⟨⟩, .inl ⟨?_, rfl⟩⟩
          simp [Dial.asks, ended]
      | false =>
          have runs : state.closed = false ∧ state.dead = none := by
            simpa [State.isClosedOrDead] using ended
          cases direct : dial.direct with
          | some real => exact Stretch.real of_ now direct made runs.1 runs.2
          | none =>
              exact asked of_ now direct (known direct).1 (known direct).2 made runs.1 runs.2

theorem resolveUpgrade (of_ : dial.Of addr) (now : Instant) (dialKey : UInt32)
    (known : dial.direct = none → dial.dialRelay.toList.all state.knows = true ∧
      state.dialKey? addr = some dialKey) :
    Stretch addr dial state (state.resolveUpgrade now dial dialKey) := by
  rw [State.resolveUpgrade.eq_def]
  split
  · rename_i url direct hint
    rcases known direct with ⟨relay, key⟩
    cases found : state.relayKeys.get? (normalizeRelayUrl url) with
    | some upgradeKey =>
        rw [beginEnsure_known found]
        have ensured : Stretch addr dial (state.noteEnsured url upgradeKey)
            ((state.noteEnsured url upgradeKey).dialNow now dial dialKey (some upgradeKey)) := by
          refine dialNow of_ now dialKey (some upgradeKey) fun _ => ⟨?_, key⟩
          have hinted : (state.noteEnsured url upgradeKey).knows url = true := by
            rw [State.knows]
            exact Option.isSome_iff_exists.mpr ⟨upgradeKey, found⟩
          rw [Dial.relays, List.all_append, hint]
          exact Bool.and_eq_true_iff.mpr ⟨relay, by simpa using hinted⟩
        exact ensured.before (fun _ _ known => known) rfl rfl rfl rfl
    | none =>
        rcases beginEnsure_unknown found now with ⟨start, relayOpening, begun, unresolved⟩
        have needed : url ∈ dial.relays := by simp [Dial.relays, hint]
        rw [begun]
        cases start with
        | resolved result =>
            cases result with
            | ok upgradeKey => exact absurd rfl (unresolved upgradeKey)
            | error error => exact quiet of_ needed found relayOpening (by rintro phase ⟨⟩)
        | suspended ensure =>
            refine quiet of_ needed found relayOpening ?_
            rintro phase ⟨⟩
            exact ⟨of_, direct, hint, key⟩
  · rename_i other
    refine dialNow of_ now dialKey none ?_
    intro direct
    cases hint : dial.webrtcHint with
    | some url => exact absurd hint (other url direct)
    | none =>
        rw [Dial.relays, hint, Option.toList_none, List.append_nil]
        exact known direct

theorem resolveDial (of_ : dial.Of addr) (now : Instant) :
    Stretch addr dial state (state.resolveDial now dial) := by
  rw [State.resolveDial.eq_def]
  split
  · rename_i url direct relay
    have named : addr.relay? = some url := of_.relay.symm.trans relay
    cases found : state.relayKeys.get? (normalizeRelayUrl url) with
    | some key =>
        rw [beginEnsure_known found]
        have ensured : Stretch addr dial (state.noteEnsured url key)
            ((state.noteEnsured url key).resolveUpgrade now dial key) := by
          have keyed : (state.noteEnsured url key).dialKey? addr = some key := by
            rw [State.dialKey?, named]
            exact found
          exact resolveUpgrade of_ now key fun _ => ⟨of_.relay_known keyed, keyed⟩
        exact ensured.before (fun _ _ known => known) rfl rfl rfl rfl
    | none =>
        rcases beginEnsure_unknown found now with ⟨start, relayOpening, begun, unresolved⟩
        have needed : url ∈ dial.relays := by simp [Dial.relays, relay]
        rw [begun]
        cases start with
        | resolved result =>
            cases result with
            | ok key => exact absurd rfl (unresolved key)
            | error error => exact quiet of_ needed found relayOpening (by rintro phase ⟨⟩)
        | suspended ensure =>
            refine quiet of_ needed found relayOpening ?_
            rintro phase ⟨⟩
            exact ⟨of_, direct, relay⟩
  · rename_i other
    refine resolveUpgrade of_ now homeRelay ?_
    intro direct
    cases relay : dial.dialRelay with
    | some url => exact absurd relay (other url direct)
    | none =>
        have named : addr.relay? = none := of_.relay.symm.trans relay
        exact ⟨rfl, by rw [State.dialKey?, named]⟩

/-- The call goes on when the relay it waits for is open, or fails when it is not. -/
theorem ensured {phase : ConnectPhase} (of_ : phase.Of addr state)
    (suspended : phase.dial? = some dial) {url : String} {ensure : EnsurePhase}
    (waits : phase.ensure? = some (url, ensure)) (now : Instant)
    {resolved : Except Error UInt32}
    (known : ∀ key, resolved = .ok key →
      state.relayKeys.get? (normalizeRelayUrl url) = some key)
    (unknown : ∀ error, resolved = .error error →
      state.relayKeys.get? (normalizeRelayUrl url) = none) :
    Stretch addr dial state (state.ensured now phase resolved) := by
  have needed := of_.needs suspended waits
  cases resolved with
  | error error =>
      have failed : state.ensured now phase (.error error) = (.failed error, state) := by
        cases phase <;> rfl
      rw [failed]
      exact quiet (of_.dial suspended) needed (unknown error rfl) state.relayOpening
        (by rintro phase ⟨⟩)
  | ok key =>
      have found := known key rfl
      cases phase with
      | dialRelay other text wait =>
          cases suspended
          cases waits
          have keyed : state.dialKey? addr = some key := by
            rw [State.dialKey?, ← of_.1.relay, of_.2.2]
            exact found
          exact resolveUpgrade of_.1 now key fun _ => ⟨of_.1.relay_known keyed, keyed⟩
      | upgradeRelay other dialKey text wait =>
          cases suspended
          cases waits
          refine dialNow of_.1 now dialKey (some key) fun _ => ⟨?_, of_.2.2.2⟩
          rw [Dial.relays, List.all_append, of_.1.relay_known of_.2.2.2, of_.2.2.1]
          simp [State.knows, found]
      | handshake peer handle serial => cases suspended

theorem connect (now : Instant) (udp : Bool) (alpn : Bytes) {peer : EndpointId}
    (parsed : EndpointId.ofBytes? addr.endpointId = some peer) :
    Stretch addr (.select udp state.webrtcEnabled peer alpn addr.addrs) state
      (state.connect now udp addr alpn) := by
  have of_ : (Dial.select udp state.webrtcEnabled peer alpn addr.addrs).Of addr := by
    refine ⟨?_, Dial.select_relay _ _ _ _ _⟩
    rw [(select_target udp state.webrtcEnabled peer alpn addr.addrs).1]
    exact EndpointId.ofBytes?_eq_some parsed
  rw [State.connect, parsed]
  exact resolveDial of_ now

/-- The open a call claimed resolves, and the call goes on. -/
theorem opened {phase : ConnectPhase} (of_ : phase.Of addr state)
    (suspended : phase.dial? = some dial) {url : String}
    (waits : phase.ensure? = some (url, .opening))
    (unknown : state.relayKeys.get? (normalizeRelayUrl url) = none) (now : Instant)
    (opened : Except String RelayConn) :
    Stretch addr dial state
      ((state.finishOpen url opened).2.ensured now phase (state.finishOpen url opened).1) := by
  cases opened with
  | error detail =>
      have kept : state.Remembers (state.release url) := fun _ _ known => known
      have failed : Stretch addr dial (state.release url)
          ((state.release url).ensured now phase
            (.error (.connectFailed s!"relay {url}: {detail}"))) := by
        refine ensured (of_.remembered kept) suspended waits now ?_ ?_
        · rintro key ⟨⟩
        · intro error _
          exact unknown
      exact failed.before kept rfl rfl rfl rfl
  | ok conn =>
      have remembers : state.Remembers
          (((state.release url).registerRelay url conn).2.noteEnsured url state.nextRelayKey) := by
        intro other key known
        change (state.relayKeys.set (normalizeRelayUrl url) state.nextRelayKey).get? other =
          some key
        rw [Table.get?_set, if_neg]
        · exact known
        · rintro rfl
          rw [unknown] at known
          cases known
      have registered : Stretch addr dial
          (((state.release url).registerRelay url conn).2.noteEnsured url state.nextRelayKey)
          ((((state.release url).registerRelay url conn).2.noteEnsured url
            state.nextRelayKey).ensured now phase (.ok state.nextRelayKey)) := by
        refine ensured (of_.remembered remembers) suspended waits now ?_ ?_
        · rintro key ⟨⟩
          simp [State.noteEnsured, State.registerRelay, State.release]
        · rintro error ⟨⟩
      exact registered.before remembers rfl rfl rfl rfl

private theorem unanswered {now started : Instant} {url : String}
    (unanswered : (state.pollEnsure now started url).1 = none) :
    state.relayKeys.get? (normalizeRelayUrl url) = none := by
  cases found : state.relayKeys.get? (normalizeRelayUrl url) with
  | none => rfl
  | some key => simp [State.pollEnsure, found] at unanswered

/-- A poll finds the relay another call opened, or gives up on it. -/
theorem polled {phase : ConnectPhase} (of_ : phase.Of addr state)
    (suspended : phase.dial? = some dial) {url : String} {started : Instant}
    (waits : phase.ensure? = some (url, .waiting started)) (now : Instant)
    {resolved : Except Error UInt32}
    (polled : (state.pollEnsure now started url).1 = some resolved) :
    Stretch addr dial state
      ((state.pollEnsure now started url).2.ensured now phase resolved) := by
  cases found : state.relayKeys.get? (normalizeRelayUrl url) with
  | some key =>
      have answered : state.pollEnsure now started url =
          (some (.ok key), state.noteEnsured url key) := by
        simp [State.pollEnsure, found]
      rw [answered] at polled ⊢
      cases polled
      have kept : state.Remembers (state.noteEnsured url key) := fun _ _ known => known
      have known : Stretch addr dial (state.noteEnsured url key)
          ((state.noteEnsured url key).ensured now phase (.ok key)) := by
        refine ensured (of_.remembered kept) suspended waits now ?_ ?_
        · rintro other ⟨⟩
          exact found
        · rintro error ⟨⟩
      exact known.before kept rfl rfl rfl rfl
  | none =>
      have answered : (∃ error, (state.pollEnsure now started url).1 = some (.error error)) ∧
          (state.pollEnsure now started url).2 = state := by
        rw [State.pollEnsure, found] at polled ⊢
        dsimp only at polled ⊢
        split
        · exact ⟨⟨_, rfl⟩, rfl⟩
        · rename_i opening
          rw [if_neg opening] at polled
          split
          · exact ⟨⟨_, rfl⟩, rfl⟩
          · rename_i runs
            rw [if_neg runs] at polled
            split
            · exact ⟨⟨_, rfl⟩, rfl⟩
            · rename_i early
              rw [if_neg early] at polled
              cases polled
      rcases answered with ⟨⟨error, answer⟩, same⟩
      rw [polled] at answer
      cases answer
      rw [same]
      refine ensured of_ suspended waits now ?_ ?_
      · rintro key ⟨⟩
      · intro error _
        exact found

end Stretch

/-! ## The steps of a call -/

namespace Config

variable {config next : Config P}

def Phases (config : Config P) : Prop :=
  ∀ id addr phase, config.calls.get? id = some (.connect addr phase) →
    phase.Of addr config.state

structure Progresses (config : Config P) (id : Nat) (addr : EndpointAddr) (dial : Dial)
    (next : Config P) : Prop where
  run : ∃ fresh progress, config.fresh ≤ fresh ∧ Stretch addr dial config.state progress ∧
    next = ({ config with fresh } : Config P).connecting id addr progress

structure Aside (config next : Config P) : Prop where
  tables : next.state.tables = config.state.tables
  keys : next.state.relayKeys = config.state.relayKeys
  undialed : config.Undialed next

theorem Touches.aside {hands : Bool} {id : Nat} (touches : Touches hands id config next) :
    config.Aside next := by
  rcases touches.state with ⟨_, _, _, _, same⟩
  refine ⟨by rw [same]; rfl, by rw [same], ?_⟩
  intro other addr phase found
  by_cases own : other = id
  · subst own
    exact touches.undialed addr phase found
  · rw [touches.others other own] at found
    exact found

theorem invoke_dials {method : Method} (ran : config.invoke method = .ok next) :
    (∃ addr dial, config.dial? (.invoke method) = some (addr, dial) ∧
      config.Progresses config.fresh addr dial next) ∨
    (config.redialed (.invoke method) next = none ∧ config.Aside next) := by
  rcases Config.invoke_cases ran with
    ⟨addr, alpn, rfl, made⟩ | ⟨_, rfl, rfl⟩ | ⟨other, touched⟩
  · cases parsed : EndpointId.ofBytes? addr.endpointId with
    | some peer =>
        refine .inl ⟨addr, _, by rw [dial?, parsed]; rfl, ⟨_, _, Nat.le_succ _, ?_, made⟩⟩
        exact Stretch.connect config.clock config.udp alpn parsed
    | none =>
        have failed : config.state.connect config.clock config.udp addr alpn =
            (.failed (.invalidArgument "endpoint id is not 32 bytes"), config.state) := by
          rw [State.connect, parsed]
        rw [failed] at made
        refine .inr ⟨by simp [redialed, dial?, parsed], ?_⟩
        rw [made]
        exact (Touches.refused config addr _).aside
  · exact .inr ⟨rfl, rfl, rfl, fun _ _ _ found => found⟩
  · refine .inr ⟨?_, touched.aside⟩
    cases method <;> first | rfl | exact absurd rfl (other _ _)

private theorem dial?_resume {id : Nat} {addr : EndpointAddr} {phase : ConnectPhase} {dial : Dial}
    (pending : config.calls.get? id = some (.connect addr phase))
    (suspended : phase.dial? = some dial) (input : CallInput) :
    config.dial? (.resume id input) = some (addr, dial) := by
  rw [dial?, pending]
  dsimp only
  rw [suspended]
  rfl

theorem resume_dials (phases : config.Phases) (claims : Claims config.calls config.state)
    {id : Nat} {call : Call} {input : CallInput} (pending : config.calls.get? id = some call)
    (ran : config.resumeCall id call input = .ok next) :
    (∃ addr dial, config.dial? (.resume id input) = some (addr, dial) ∧
      config.Progresses id addr dial next) ∨
    (config.redialed (.resume id input) next = none ∧ config.Aside next) := by
  cases dials : call.dials with
  | false =>
      refine .inr ⟨?_, (Config.resumeCall_touches pending dials ran).aside⟩
      cases call with
      | connect addr phase => cases dials
      | _ => rw [redialed, dial?, pending]
  | true =>
      cases call <;> try cases dials
      rename_i addr phase
      have of_ := phases id addr phase pending
      rcases Config.resumeConnect_cases ran with ⟨url, result, waits, rfl, made⟩ |
        ⟨url, started, waits, rfl, ⟨unanswered, rfl⟩ | ⟨result, polled, made⟩⟩ |
        ⟨handshake, touched⟩
      · rcases ConnectPhase.dial?_of_ensure waits with ⟨dial, suspended⟩
        have unknown := claims.unknown _ (claims.marked id _
          ⟨addr, phase, url, pending, ConnectPhase.claim_of_ensure waits, rfl⟩)
        exact .inl ⟨addr, dial, dial?_resume pending suspended _, _, _, Nat.le_succ _,
          .opened of_ suspended waits unknown config.clock _, made⟩
      · rcases ConnectPhase.dial?_of_ensure waits with ⟨dial, suspended⟩
        refine .inr ⟨?_, rfl, rfl, fun _ _ _ found => found⟩
        have unknown := Stretch.unanswered unanswered
        rw [redialed, dial?_resume pending suspended]
        exact if_neg (by rw [Dial.asks_unknown (of_.needs suspended waits) unknown]; simp)
      · rcases ConnectPhase.dial?_of_ensure waits with ⟨dial, suspended⟩
        exact .inl ⟨addr, dial, dial?_resume pending suspended _, _, _, Nat.le_refl _,
          .polled of_ suspended waits config.clock polled, made⟩
      · refine .inr ⟨?_, touched.aside⟩
        have over_ : phase.dial? = none := by cases phase <;> first | rfl | cases handshake
        simp [redialed, dial?, pending, over_]

theorem Phases.kept (phases : config.Phases) (keys : config.state.Remembers next.state)
    (undialed : config.Undialed next) : next.Phases := by
  intro id addr phase found
  exact (phases id addr phase (undialed id addr phase found)).remembered keys

theorem Progresses.state {id : Nat} {addr : EndpointAddr} {dial : Dial}
    (progresses : config.Progresses id addr dial next) :
    ∃ progress, Stretch addr dial config.state progress ∧ next.state = progress.2 ∧
      ∀ other there phase, next.calls.get? other = some (.connect there phase) →
        (there = addr ∧ progress.1 = .suspended phase) ∨
        config.calls.get? other = some (.connect there phase) := by
  rcases progresses.run with ⟨fresh, progress, _, stretch, rfl⟩
  rcases Config.connecting_frame ({ config with fresh } : Config P) id addr progress with
    ⟨_, _, _, _, frame⟩
  refine ⟨progress, stretch, by rw [frame], ?_⟩
  intro other there phase found
  rcases Config.connecting_calls _ id addr progress found with
    ⟨_, after, suspended, equal⟩ | ⟨_, old⟩
  · cases equal
    exact .inl ⟨rfl, suspended⟩
  · exact .inr old

theorem Progresses.phases {id : Nat} {addr : EndpointAddr} {dial : Dial}
    (progresses : config.Progresses id addr dial next) (phases : config.Phases) :
    next.Phases := by
  rcases progresses.state with ⟨progress, stretch, same, calls⟩
  intro other there phase found
  rw [same]
  rcases calls other there phase found with ⟨rfl, suspended⟩ | old
  · exact stretch.stops phase suspended
  · exact (phases other there phase old).remembered stretch.keys

end Config

theorem reachable_phases {config : Config P} (reached : (endpoint P).Reachable config) :
    config.Phases := by
  apply reached.induction Config.Phases
  · rintro config ⟨noq, webrtc, udp, relay, clock, url, _, rfl⟩ id addr phase found
    simp [Config.bind] at found
  · intro config action next reachable phases _ stepped
    have claims := (reachable_relays reachable).claims
    cases Config.step_acts stepped with
    | advanced elapsed => exact phases.kept (fun _ _ known => known) fun _ _ _ found => found
    | pumped input state pump spawned ran =>
        rcases Config.addSessions_frame spawned ({ config with state, pump } : Config P) with
          ⟨_, _, frame⟩
        rw [frame]
        exact phases.kept (Pump.resume_step ran).relays.remembers fun _ _ _ found => found
    | resumed id input session after registration state _ found ran =>
        have same := StateSteps.pool (StateSteps.resumes (Session.resumes ran)) rfl
        exact phases.kept (.of_pool same.1) fun _ _ _ found => found
    | invoked method next _ ran =>
        rcases Config.invoke_dials ran with ⟨addr, dial, _, progresses⟩ | ⟨_, aside⟩
        · exact progresses.phases phases
        · exact phases.kept (.of_keys aside.keys) aside.undialed
    | polled id input call next _ pending ran =>
        rcases Config.resume_dials phases claims pending ran with
          ⟨addr, dial, _, progresses⟩ | ⟨_, aside⟩
        · exact progresses.phases phases
        · exact phases.kept (.of_keys aside.keys) aside.undialed

end IrohEndpoint
