import IrohEndpoint.Foundation.Utf8
import IrohEndpoint.SocketAddr
import Mathlib.Data.List.DropRight

/-! # Interface types

The types of the exported interface, the wires the endpoint holds, and the text
functions that give relay servers their identity. -/

namespace IrohEndpoint

abbrev Bytes := List UInt8

abbrev Instant := Nat

/-- A raw 32-byte Ed25519 public key: an endpoint's identity. -/
structure EndpointId where
  bytes : Bytes
  length_eq : bytes.length = 32
  deriving DecidableEq

/-- The conversion of a caller's byte list to an endpoint id. -/
def EndpointId.ofBytes? (bytes : Bytes) : Option EndpointId :=
  if equal : bytes.length = 32 then some ⟨bytes, equal⟩ else none

theorem EndpointId.ofBytes?_eq_some {bytes : Bytes} {id : EndpointId}
    (parsed : EndpointId.ofBytes? bytes = some id) : id.bytes = bytes := by
  simp only [ofBytes?, Option.dite_none_right_eq_some, Option.some.injEq] at parsed
  rcases parsed with ⟨_, rfl⟩
  rfl

inductive Error where
  | closed
  | reset (code : String)
  | connectFailed (detail : String)
  | invalidArgument (detail : String)
  | other (detail : String)
  deriving DecidableEq, Repr

inductive ConnectionState where
  | connecting
  | open
  | closed
  deriving DecidableEq, Repr

inductive PathKind where
  | relay
  | ip
  | webrtc
  deriving DecidableEq, Repr

inductive TransportAddr where
  | relay (url : String)
  | ip (text : String)
  | webrtc (url : String)
  | custom (data : Bytes)
  deriving DecidableEq, Repr

structure EndpointAddr where
  endpointId : Bytes
  addrs : List TransportAddr
  deriving DecidableEq, Repr

/-! ## Wires -/

/-- An authenticated connection to a relay server. `serial` tells apart two
connections to one server; `server` is the URL it was opened with. -/
structure RelayConn where
  serial : Nat
  server : String
  deriving DecidableEq, Repr

/-- One negotiated data channel with the peer connection that owns it. -/
structure ChannelWire where
  serial : Nat
  deriving DecidableEq, Repr

inductive RouteWire where
  | relay (key : UInt32)
  | channel (id : UInt32)
  deriving DecidableEq, Repr

def homeRelay : UInt32 := 0

/-- The first byte of every signaling datagram on the relay. -/
def signalPrefix : UInt8 := 0x00

/-- Bounded window for final packets after `endpoint.close`: 500 ms. -/
def linger : Nat := 500000000

def signalDeadline : Nat := 30000000000

def relayOpenDeadline : Nat := 30000000000

def inboxCap : Nat := 64

/-! ## Texts -/

/-- A character in the `{:?}` of a string; beyond Latin-1 every character stands for itself. -/
def escapeDebug (character : Char) : String :=
  match character.toNat with
  | 0 => "\\0"
  | 9 => "\\t"
  | 10 => "\\n"
  | 13 => "\\r"
  | 34 => "\\\""
  | 92 => "\\\\"
  | code =>
      if code < 32 ∨ (127 ≤ code ∧ code ≤ 160) ∨ code = 173 then
        "\\u\x7b" ++ String.ofList (Nat.toDigits 16 code) ++ "\x7d"
      else character.toString

/-- `{:?}` of a string. -/
def debugString (text : String) : String :=
  "\"" ++ String.join (text.toList.map escapeDebug) ++ "\""

def fromUtf8Lossy (bytes : Bytes) : String := Utf8.lossy bytes

/-! ## Relay URLs -/

/-- The pool-key identity of a relay URL: trailing-slash-insensitive. -/
def normalizeRelayUrl (url : String) : String :=
  String.ofList (url.toList.rdropWhile (· == '/'))

/-- Split at the first occurrence of `://`. -/
def splitScheme : List Char → Option (List Char × List Char)
  | ':' :: '/' :: '/' :: rest => some ([], rest)
  | character :: rest =>
      (splitScheme rest).map fun (scheme, remaining) => (character :: scheme, remaining)
  | [] => none

def relayPath : String := "/relay"

/-- The websocket URL for `server`'s relay endpoint: scheme mapped onto
`ws`/`wss`, path `/relay`. -/
def relayUrl (server : String) : Except String String :=
  match splitScheme server.toList with
  | none => .error s!"relay url {debugString server} has no scheme"
  | some (scheme, rest) =>
      let wsScheme :=
        if scheme = "http".toList ∨ scheme = "ws".toList then "ws" else "wss"
      let host := rest.takeWhile (· ≠ '/')
      if host.isEmpty then .error s!"relay url {debugString server} has no host"
      else .ok (wsScheme ++ "://" ++ String.ofList host ++ relayPath)

example : relayUrl "https://relay.example/" = .ok "wss://relay.example/relay" := by
  decide

example : normalizeRelayUrl "https://relay.example//" = "https://relay.example" := by
  decide

end IrohEndpoint
