import IrohEndpoint.RelayHandshake
import IrohEndpoint.DialSteps
import IrohEndpoint.System

/-! # Binding an endpoint

`bind` checks its options, connects to the home relay, and only then builds the QUIC
endpoint and the UDP socket. -/

namespace IrohEndpoint

variable {P : Platform}

/-- The `endpoint-options` resource. -/
structure EndpointOptions where
  identity : Identity
  alpns : List Bytes
  relayUrl : Option String
  udpBindAddr : Option String
  webrtc : Bool

/-- What `bind` calls besides the relay client: the random generator, once for each key,
the TLS and QUIC configurations, noq and the socket. -/
structure BindHost (P : Platform) extends RelayHost where
  resetKey : Except String Bytes
  tokenMaster : Except String Bytes
  ServerTls : Type
  QuicServerConfig : Type
  serverConfig : Identity → List Bytes → Except String ServerTls
  quicServerConfig : ServerTls → Except String QuicServerConfig
  noqEndpoint : (resetKey tokenMaster : Bytes) → QuicServerConfig → P.Endpoint
  createSocket : SocketAddr → Except String Unit
  bindSocket : SocketAddr → Except String Unit
  localAddress : SocketAddr → Except String SocketAddr

/-- How a call of `bind` stands. -/
inductive BindOutcome (P : Platform) where
  | bound (config : Config P)
  | failed (error : Error)
  | waiting

/-- A call of `bind`, with the websockets it opened, the messages the identity was asked to
sign and the frames handed to the relay. -/
structure Binding (P : Platform) where
  outcome : BindOutcome P
  opened : List String
  signed : List Bytes
  sent : List Bytes

/-- The websockets that a call of `RelayConn::connect` opens. -/
def RelayHost.opens (host : RelayHost) (server : String) : List String :=
  match relayUrl server with
  | .error _ => []
  | .ok url =>
      match host.websocket url subprotocols with
      | .error _ => []
      | .ok _ => [url]

namespace BindHost

variable (host : BindHost P)

/-- `UdpWire::bind`: the local address of the bound socket. -/
def bindUdp (bindAddr : String) : Except String SocketAddr :=
  match SocketAddr.parse bindAddr with
  | none => .error s!"udp bind address {debugString bindAddr}: invalid socket address syntax"
  | some addr => do
      (host.createSocket addr).mapError fun detail => s!"udp create: {detail}"
      (host.bindSocket addr).mapError fun detail => s!"udp bind: {detail}"
      (host.localAddress addr).mapError fun detail => s!"udp local address: {detail}"

def quicEndpoint (options : EndpointOptions) : Except Error P.Endpoint := do
  let resetKey ← host.resetKey.mapError .other
  let tokenMaster ← host.tokenMaster.mapError .other
  let serverTls ← (host.serverConfig options.identity options.alpns).mapError .other
  let quicTls ← (host.quicServerConfig serverTls).mapError fun detail =>
    .other s!"server quic config: {detail}"
  .ok (host.noqEndpoint resetKey tokenMaster quicTls)

def udpWire (options : EndpointOptions) : Except Error (Option SocketAddr) :=
  match options.udpBindAddr with
  | none => .ok none
  | some bindAddr => ((host.bindUdp bindAddr).mapError .invalidArgument).map some

/-- What `bind` makes of its options once the home relay has authenticated. -/
def assemble (options : EndpointOptions) (relayUrl : String) (clock : Instant) :
    Except Error (Config P) := do
  let noq ← host.quicEndpoint options
  let udp ← host.udpWire options
  .ok (.bind noq options.webrtc udp.isSome relayUrl clock)

def bind (options : EndpointOptions) (clock : Instant) : Binding P :=
  match options.relayUrl with
  | none => ⟨.failed (.invalidArgument
      "bind requires a relay-url (the relay wire is the only path yet)"), [], [], []⟩
  | some relayUrl =>
      if options.alpns.isEmpty then
        ⟨.failed (.invalidArgument "bind requires at least one alpn"), [], [], []⟩
      else
        let relay := host.connect options.identity relayUrl
        let outcome : BindOutcome P :=
          match relay.outcome with
          | .waiting => .waiting
          | .failed detail => .failed (.connectFailed detail)
          | .connected _ =>
              match host.assemble options relayUrl clock with
              | .error error => .failed error
              | .ok config => .bound config
        ⟨outcome, host.opens relayUrl, relay.signed, relay.sent⟩

end BindHost

theorem RelayHost.connected_opens {host : RelayHost} {identity : Identity} {server : String}
    {receiver : RelayReceiver}
    (connected : (host.connect identity server).outcome = .connected receiver) :
    ∃ url, relayUrl server = .ok url ∧ host.opens server = [url] := by
  rw [RelayHost.connect] at connected
  rw [RelayHost.opens]
  cases accepted : relayUrl server with
  | error detail =>
      rw [accepted] at connected
      cases connected
  | ok url =>
      rw [accepted] at connected
      dsimp only at connected ⊢
      cases opened : host.websocket url subprotocols with
      | error detail =>
          rw [opened] at connected
          cases connected
      | ok arrivals => exact ⟨url, rfl, rfl⟩

namespace BindHost

variable {host : BindHost P} {options : EndpointOptions} {url : String}

theorem bind_opened (given : options.relayUrl = some url) (alpns : options.alpns ≠ [])
    (clock : Instant) : (host.bind options clock).opened = host.opens url := by
  rw [bind, given]
  dsimp only
  rw [if_neg (by simp [alpns])]

/-- Past its checks, `bind` fails with what the relay client reports, stays in it, or goes
on to assemble the endpoint. -/
theorem bind_cases (given : options.relayUrl = some url) (alpns : options.alpns ≠ [])
    (clock : Instant) :
    ((host.connect options.identity url).outcome = .waiting ∧
      (host.bind options clock).outcome = .waiting) ∨
    (∃ detail, (host.connect options.identity url).outcome = .failed detail ∧
      (host.bind options clock).outcome = .failed (.connectFailed detail)) ∨
    ∃ receiver, (host.connect options.identity url).outcome = .connected receiver ∧
      ((∃ error, host.assemble options url clock = .error error ∧
          (host.bind options clock).outcome = .failed error) ∨
        ∃ config, host.assemble options url clock = .ok config ∧
          (host.bind options clock).outcome = .bound config) := by
  rw [bind, given]
  dsimp only
  rw [if_neg (by simp [alpns])]
  dsimp only
  cases answered : (host.connect options.identity url).outcome with
  | waiting => exact .inl ⟨rfl, rfl⟩
  | failed detail => exact .inr (.inl ⟨detail, rfl, rfl⟩)
  | connected receiver =>
      refine .inr (.inr ⟨receiver, rfl, ?_⟩)
      cases assembled : host.assemble options url clock with
      | error error => exact .inl ⟨error, rfl, rfl⟩
      | ok config => exact .inr ⟨config, rfl, rfl⟩

private theorem quicEndpoint_error {error : Error}
    (failed : host.quicEndpoint options = .error error) :
    error.refuses = false := by
  rcases bind_eq_error.mp failed with reset | ⟨resetKey, _, rest⟩
  · rcases mapError_eq_error.mp reset with ⟨detail, _, rfl⟩
    rfl
  rcases bind_eq_error.mp rest with token | ⟨tokenMaster, _, rest⟩
  · rcases mapError_eq_error.mp token with ⟨detail, _, rfl⟩
    rfl
  rcases bind_eq_error.mp rest with tls | ⟨serverTls, _, rest⟩
  · rcases mapError_eq_error.mp tls with ⟨detail, _, rfl⟩
    rfl
  rcases bind_eq_error.mp rest with quic | ⟨quicTls, _, rest⟩
  · rcases mapError_eq_error.mp quic with ⟨detail, _, rfl⟩
    rfl
  · cases rest

private theorem udpWire_error {error : Error} (failed : host.udpWire options = .error error) :
    ∃ bindAddr detail, options.udpBindAddr = some bindAddr ∧
      host.bindUdp bindAddr = .error detail ∧ error = .invalidArgument detail := by
  rw [udpWire] at failed
  split at failed
  · cases failed
  · rename_i bindAddr given
    cases socket : host.bindUdp bindAddr with
    | error detail =>
        rw [socket] at failed
        cases failed
        exact ⟨bindAddr, detail, given, socket, rfl⟩
    | ok address =>
        rw [socket] at failed
        cases failed

theorem assemble_refuses (options : EndpointOptions) (url : String) (clock : Instant) :
    (∃ error, host.assemble options url clock = .error error ∧ error.refuses = true) ↔
      (∃ noq, host.quicEndpoint options = .ok noq) ∧
      ∃ bindAddr detail, options.udpBindAddr = some bindAddr ∧
        host.bindUdp bindAddr = .error detail := by
  constructor
  · rintro ⟨error, failed, refuses⟩
    rcases bind_eq_error.mp failed with quic | ⟨noq, built, rest⟩
    · rw [quicEndpoint_error quic] at refuses
      cases refuses
    · rcases bind_eq_error.mp rest with socket | ⟨udp, _, done⟩
      · rcases udpWire_error socket with ⟨bindAddr, detail, given, unbound, _⟩
        exact ⟨⟨noq, built⟩, bindAddr, detail, given, unbound⟩
      · cases done
  · rintro ⟨⟨noq, built⟩, bindAddr, detail, given, unbound⟩
    have socket : host.udpWire options = .error (.invalidArgument detail) := by
      rw [udpWire, given]
      dsimp only
      rw [unbound]
      rfl
    refine ⟨.invalidArgument detail, ?_, rfl⟩
    exact bind_eq_error.mpr (.inr ⟨noq, built, bind_eq_error.mpr (.inl socket)⟩)

/-- What `bind` returns is an endpoint in its initial configuration. -/
theorem bind_initial {clock : Instant} {config : Config P}
    (bound : (host.bind options clock).outcome = .bound config) :
    (endpoint P).Initial config := by
  cases given : options.relayUrl with
  | none =>
      rw [bind, given] at bound
      cases bound
  | some url =>
      by_cases alpns : options.alpns = []
      · rw [bind, given] at bound
        dsimp only at bound
        rw [if_pos (by simp [alpns])] at bound
        cases bound
      · rcases bind_cases given alpns clock with
          ⟨_, waits⟩ | ⟨_, _, fails⟩ | ⟨receiver, connected, ⟨_, _, fails⟩ | ⟨made, built, done⟩⟩
        · rw [waits] at bound
          cases bound
        · rw [fails] at bound
          cases bound
        · rw [fails] at bound
          cases bound
        · rw [done] at bound
          cases bound
          rcases RelayHost.connected_opens connected with ⟨accepted, normal, _⟩
          rcases bind_eq_ok.mp built with ⟨noq, _, rest⟩
          rcases bind_eq_ok.mp rest with ⟨udp, _, same⟩
          cases same
          exact ⟨noq, options.webrtc, udp.isSome, url, clock, accepted, normal, rfl⟩

end BindHost

end IrohEndpoint
