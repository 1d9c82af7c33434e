import IrohEndpoint.Spike.Run

/-! # A small noq for the spike

A packet is one message of its connection: a greeting and its answer, a stream with its
end, a datagram, or a close. It is enough to run a whole exchange. -/

namespace IrohEndpoint.Spike.Loopback

structure Connection where
  events : List Event
  outbox : List Bytes
  -- what was written and not yet finished
  written : Bytes
  -- the stream that arrived, until it is read
  inbound : Option Bytes
  datagrams : List Bytes
  deriving DecidableEq

def Connection.new (events : List Event) (outbox : List Bytes) : Connection :=
  ⟨events, outbox, [], none, []⟩

def Connection.receive (connection : Connection) : Bytes → Connection
  | [1] => { connection with events := connection.events ++ [.connected] }
  | 2 :: data => { connection with
      events := connection.events ++ [.opened .bi, .readable 0], inbound := some data }
  | 3 :: data => { connection with
      events := connection.events ++ [.datagramReceived]
      datagrams := connection.datagrams ++ [data] }
  | [4] => { connection with
      events := connection.events ++ [.connectionLost (.applicationClosed "closed")] }
  | _ => connection

def call {Answer : Type} : ConnCall Unit Bytes Answer → Connection → Answer × Connection
  | .pollEndpointEvents, connection => (none, connection)
  | .handleEvent packet, connection => ((), connection.receive packet)
  | .poll, connection =>
      (connection.events.head?, { connection with events := connection.events.tail })
  | .pollTransmit _, connection =>
      (connection.outbox.head?, { connection with outbox := connection.outbox.tail })
  | .handleTimeout _, connection => ((), connection)
  | .openStream _, connection => (some 0, connection)
  | .acceptStream _, connection => (connection.inbound.map fun _ => 0, connection)
  | .write _ data, connection => (.ok data.length, { connection with written := data })
  | .finish _, connection =>
      (.ok (), { connection with outbox := connection.outbox ++ [2 :: connection.written] })
  | .read _, connection =>
      (connection.inbound.map fun data => ([data], .finished), { connection with inbound := none })
  | .sendDatagram data, connection =>
      (.ok (), { connection with outbox := connection.outbox ++ [3 :: data] })
  | .recvDatagram, connection =>
      (connection.datagrams.head?, { connection with datagrams := connection.datagrams.tail })
  | .close _ _ _, connection => ((), { connection with outbox := connection.outbox ++ [[4]] })

def key : EndpointId := ⟨List.replicate 32 7, by simp⟩

def platform : Platform where
  Endpoint := Unit
  Connection := Connection
  EndpointEvent := Unit
  ConnectionEvent := Bytes
  Incoming := Unit
  Tls := Unit
  ClientConfig := Unit
  ServerConfig := Unit
  call := call
  isDrained _ := false
  pollTimeout _ := none
  peerIdentity _ := .certificates [key.bytes]
  networkPath _ := none
  newEndpoint _ _ := ()
  handle _ _ _ packet :=
    ((), some (if packet = [0] then .newConnection () else .connectionEvent 0 packet))
  accept _ _ _ := ((), .ok (0, Connection.new [.connected] [[1]]))
  connect _ _ _ _ := ((), .ok (0, Connection.new [] [[0]]))
  handleEvent _ _ _ := ((), none)
  clientTls _ := .ok ()
  serverTls := .ok ()
  quicClientConfig _ := .ok ()
  quicServerConfig _ _ := .ok ()
  publicKeyFromEd25519Spki := EndpointId.ofBytes?
  toUppercase := String.toUpper

def begun (role : Role) (wire : Wire) : Run platform :=
  match role with
  | .client _ => Run.begin role wire 0 ((), some (0, Connection.new [] [[0]]))
  | .server => Run.begin role wire 0 ((), none)

theorem begun_initial (role : Role) (peer : Option EndpointId) (wire : Wire)
    (known : role ≠ .server → peer.isSome = true) :
    (spike platform role peer wire).Initial (begun role wire) := by
  cases role with
  | client message =>
      cases peer with
      | none => cases known (by simp)
      | some peer => exact ⟨⟨.ok [], .ok []⟩, 0, _, rfl, rfl⟩
  | server => exact ⟨⟨.ok [], .ok []⟩, 0, _, rfl, rfl⟩

def brought (packet : Bytes) : Input := .received 9 (.channel (.ok (.binary packet)))

def sends (packets : Nat) : List Input := List.replicate packets (.sent 9 (.ok ()))

def lingers : List Input :=
  [.advance linger, .ticked 9, .received 9 (.channel (.error "closed")), .ticked 9]

end IrohEndpoint.Spike.Loopback
