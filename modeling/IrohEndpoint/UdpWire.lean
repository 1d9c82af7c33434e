import IrohEndpoint.Hints
import Mathlib.Logic.Equiv.Defs

/-! # Addresses of the UDP wire

The socket speaks `wasi:sockets` addresses, noq speaks socket addresses. The converters
carry the address and the port; they write the flow info and the scope id of an IPv6 address
as zero and never read them. -/

namespace IrohEndpoint

variable {P : Platform}

/-! ## Octets and segments -/

namespace Ipv4Addr

def octets (ip : Ipv4Addr) : UInt8 × UInt8 × UInt8 × UInt8 := (ip.a, ip.b, ip.c, ip.d)

def new : UInt8 × UInt8 × UInt8 × UInt8 → Ipv4Addr
  | (a, b, c, d) => ⟨a, b, c, d⟩

end Ipv4Addr

namespace Ipv6Addr

def segments (ip : Ipv6Addr) :
    UInt16 × UInt16 × UInt16 × UInt16 × UInt16 × UInt16 × UInt16 × UInt16 :=
  (ip.s0, ip.s1, ip.s2, ip.s3, ip.s4, ip.s5, ip.s6, ip.s7)

def new : UInt16 × UInt16 × UInt16 × UInt16 × UInt16 × UInt16 × UInt16 × UInt16 → Ipv6Addr
  | (s0, s1, s2, s3, s4, s5, s6, s7) => ⟨s0, s1, s2, s3, s4, s5, s6, s7⟩

@[simp] theorem new_segments (ip : Ipv6Addr) : new ip.segments = ip := rfl

@[simp] theorem segments_new
    (address : UInt16 × UInt16 × UInt16 × UInt16 × UInt16 × UInt16 × UInt16 × UInt16) :
    (new address).segments = address := rfl

end Ipv6Addr

/-! ## The converters -/

def toWasi : SocketAddr → IpSocketAddress
  | .v4 ip port => .ipv4 ⟨port, ip.octets⟩
  | .v6 ip port _ _ => .ipv6 ⟨port, 0, ip.segments, 0⟩

/-- `SocketAddr::new` makes an IPv6 address without flow info and scope. -/
def fromWasi : IpSocketAddress → SocketAddr
  | .ipv4 socket => .v4 (.new socket.address) socket.port
  | .ipv6 socket => .v6 (.new socket.address) socket.port 0 0

namespace UdpWire

/-- What is handed to the socket to send one datagram to `remote`. -/
def send (remote : SocketAddr) (payload : Bytes) : Bytes × Option IpSocketAddress :=
  (payload, some (toWasi remote))

/-- The next inbound datagram and its source, as the socket reports it. -/
def receive (received : Bytes × IpSocketAddress) : Bytes × SocketAddr :=
  (received.1, fromWasi received.2)

end UdpWire

/-! ## One address in two types -/

def SocketAddr.denotes : SocketAddr ≃ IpSocketAddress where
  toFun
    | .v4 ip port => .ipv4 ⟨port, ip.octets⟩
    | .v6 ip port flowinfo scopeId => .ipv6 ⟨port, flowinfo, ip.segments, scopeId⟩
  invFun
    | .ipv4 socket => .v4 (.new socket.address) socket.port
    | .ipv6 socket => .v6 (.new socket.address) socket.port socket.flowInfo socket.scopeId
  left_inv addr := by cases addr <;> rfl
  right_inv address := by cases address <;> rfl

/-- Flow info and scope id; an IPv4 address has neither. -/
def SocketAddr.labels : SocketAddr → UInt32 × UInt32
  | .v4 _ _ => (0, 0)
  | .v6 _ _ flowinfo scopeId => (flowinfo, scopeId)

def IpSocketAddress.labels (address : IpSocketAddress) : UInt32 × UInt32 :=
  (SocketAddr.denotes.symm address).labels

private theorem toWasi_eq_denotes_iff (addr : SocketAddr) :
    toWasi addr = SocketAddr.denotes addr ↔ addr.labels = (0, 0) := by
  cases addr with
  | v4 ip port => exact iff_of_true rfl rfl
  | v6 ip port flowinfo scopeId =>
      simp [toWasi, SocketAddr.denotes, SocketAddr.labels, eq_comm]

private theorem fromWasi_toWasi_iff (addr : SocketAddr) :
    fromWasi (toWasi addr) = addr ↔ addr.labels = (0, 0) := by
  cases addr with
  | v4 ip port => exact iff_of_true rfl rfl
  | v6 ip port flowinfo scopeId => simp [toWasi, fromWasi, SocketAddr.labels, eq_comm]

private theorem toWasi_fromWasi_iff (address : IpSocketAddress) :
    toWasi (fromWasi address) = address ↔ address.labels = (0, 0) := by
  cases address with
  | ipv4 socket => exact iff_of_true rfl rfl
  | ipv6 socket =>
      rcases socket with ⟨port, flowInfo, address, scopeId⟩
      simp [toWasi, fromWasi, IpSocketAddress.labels, SocketAddr.denotes, SocketAddr.labels,
        eq_comm]

/-! ## Parsed addresses -/

private theorem SocketAddr.parse_flowinfo {text : String} {addr : SocketAddr}
    (parsed : SocketAddr.parse text = some addr) : addr.labels.1 = 0 := by
  have read : ∀ input rest, AddrParser.readSocketAddrV4 input = some (addr, rest) ∨
      AddrParser.readSocketAddrV6 input = some (addr, rest) → addr.labels.1 = 0 := by
    rintro input rest (v4 | v6)
    · simp only [AddrParser.readSocketAddrV4, bind, Option.bind_eq_some_iff] at v4
      rcases v4 with ⟨_, _, _, _, made⟩
      cases made
      rfl
    · simp only [AddrParser.readSocketAddrV6, bind, Option.bind_eq_some_iff] at v6
      rcases v6 with ⟨_, _, _, _, _, _, _, _, made⟩
      cases made
      rfl
  simp only [SocketAddr.parse] at parsed
  split at parsed
  · rename_i found either
    cases parsed
    apply read text.toList []
    cases first : AddrParser.readSocketAddrV4 text.toList with
    | some pair =>
        rw [first] at either
        exact .inl either
    | none =>
        rw [first] at either
        exact .inr either
  · cases parsed

def SocketAddr.scopeId (addr : SocketAddr) : UInt32 := addr.labels.2

private theorem SocketAddr.parse_labels {text : String} {addr : SocketAddr}
    (parsed : SocketAddr.parse text = some addr) :
    addr.labels = (0, 0) ↔ addr.scopeId = 0 := by
  rw [Prod.ext_iff, SocketAddr.scopeId]
  exact and_iff_right (SocketAddr.parse_flowinfo parsed)

/-! ## Dials over the wire -/

private theorem select_dialRemote {state : State P} {peer : EndpointId} {alpn : Bytes}
    {addrs : List TransportAddr} {addr : SocketAddr} (webrtcEnabled : Bool) (dialKey : UInt32)
    (first : addrs.findSome? TransportAddr.address? = some addr) :
    (state.dialRemote (.select true webrtcEnabled peer alpn addrs) dialKey).1 = addr := by
  have direct := (Dial.select_first true webrtcEnabled peer alpn addrs).1
  rw [if_pos rfl, first] at direct
  rw [State.dialRemote, direct]

private theorem address?_parse {addrs : List TransportAddr} {addr : SocketAddr}
    (first : addrs.findSome? TransportAddr.address? = some addr) :
    ∃ text, SocketAddr.parse text = some addr := by
  rcases List.exists_of_findSome?_eq_some first with ⟨entry, _, parsed⟩
  cases entry with
  | ip text => exact ⟨text, parsed⟩
  | relay url => cases parsed
  | webrtc url => cases parsed
  | custom data => cases parsed

/-- The converters are inverse to each other exactly on the addresses without labels, and
what is dialed at an `ip` entry is sent to its address, and answers from there come in under
the address that noq dialed, exactly when it has no scope id. -/
theorem udp_addresses_faithful_iff :
    (∀ (text : String) (addr : SocketAddr), SocketAddr.parse text = some addr →
      (fromWasi (toWasi addr) = addr ↔ addr.scopeId = 0)) ∧
    (∀ address : IpSocketAddress,
      toWasi (fromWasi address) = address ↔ address.labels = (0, 0)) ∧
    ∀ (state : State P) (webrtcEnabled : Bool) (peer : EndpointId) (alpn : Bytes)
      (addrs : List TransportAddr) (dialKey : UInt32) (addr remote : SocketAddr),
      addrs.findSome? TransportAddr.address? = some addr →
      (state.dialRemote (.select true webrtcEnabled peer alpn addrs) dialKey).1 = remote →
      ((∀ payload,
          UdpWire.send remote payload = (payload, some (SocketAddr.denotes addr)) ∧
          UdpWire.receive (payload, SocketAddr.denotes addr) = (payload, remote)) ↔
        addr.scopeId = 0) := by
  refine ⟨?_, toWasi_fromWasi_iff, ?_⟩
  · intro text addr parsed
    rw [fromWasi_toWasi_iff]
    exact SocketAddr.parse_labels parsed
  · intro state webrtcEnabled peer alpn addrs dialKey addr remote first dialed
    rw [select_dialRemote webrtcEnabled dialKey first] at dialed
    subst dialed
    rcases address?_parse first with ⟨text, parsed⟩
    rw [← SocketAddr.parse_labels parsed]
    constructor
    · intro faithful
      have sent := congrArg Prod.snd (faithful []).1
      exact (toWasi_eq_denotes_iff addr).mp (Option.some.inj sent)
    · intro plain payload
      have sent := (toWasi_eq_denotes_iff addr).mpr plain
      have received : fromWasi (SocketAddr.denotes addr) = addr := by
        rw [← sent]
        exact (fromWasi_toWasi_iff addr).mpr plain
      exact ⟨by rw [UdpWire.send, sent], by rw [UdpWire.receive, received]⟩

theorem udp_addresses_faithful_loopback :
    SocketAddr.parse "[::1]:4433" = some (.v6 ⟨0, 0, 0, 0, 0, 0, 0, 1⟩ 4433 0 0) ∧
      fromWasi (toWasi (.v6 ⟨0, 0, 0, 0, 0, 0, 0, 1⟩ 4433 0 0)) =
        .v6 ⟨0, 0, 0, 0, 0, 0, 0, 1⟩ 4433 0 0 := by
  have parsed : SocketAddr.parse "[::1]:4433" =
      some (.v6 ⟨0, 0, 0, 0, 0, 0, 0, 1⟩ 4433 0 0) := by decide
  exact ⟨parsed, ((@udp_addresses_faithful_iff Slab.platform).1 _ _ parsed).mpr rfl⟩

/-- The scope of a link-local address is lost both ways. -/
theorem udp_addresses_unscoped :
    ∃ addr, SocketAddr.parse "[fe80::1%2]:4433" = some addr ∧
      fromWasi (toWasi addr) ≠ addr ∧
      (UdpWire.send addr [1]).2 ≠ some (SocketAddr.denotes addr) ∧
      (UdpWire.receive ([1], SocketAddr.denotes addr)).2 ≠ addr := by
  refine ⟨.v6 ⟨0xfe80, 0, 0, 0, 0, 0, 0, 1⟩ 4433 0 2, by decide, by decide, ?_, by decide⟩
  simp [UdpWire.send, toWasi, SocketAddr.denotes]

end IrohEndpoint
