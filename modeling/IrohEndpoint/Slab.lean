import IrohEndpoint.System

/-! # A small platform

A noq whose packets are spelled out, to compute runs with. Connections live in a
slab: a handle is the least free index, and it is free again once the endpoint has
seen the connection drained. -/

namespace IrohEndpoint

namespace Slab

structure Stream where
  id : StreamId
  chunks : List Bytes
  finished : Bool
  deriving DecidableEq

structure Connection where
  remote : SocketAddr
  certificate : Option Bytes
  events : List Event
  retiring : Bool
  transmits : List Bytes
  incoming : List StreamId
  streams : List Stream
  opened : Nat
  closing : Bool
  drained : Bool
  deriving DecidableEq

def Connection.new (remote : SocketAddr) (certificate : Option Bytes)
    (events : List Event) (transmits : List Bytes) : Connection :=
  ⟨remote, certificate, events, false, transmits, [], [], 0, false, false⟩

def Connection.update (connection : Connection) (id : StreamId)
    (change : Stream → Stream) : Connection :=
  { connection with streams := connection.streams.map fun stream =>
      if stream.id = id then change stream else stream }

/-- What a packet does to its connection: the peer closes, the peer's handshake
arrives, a stream opens, gets data or ends. -/
def Connection.receive (connection : Connection) : Bytes → Connection
  | [0] => { connection with
      closing := true
      events := connection.events ++ [.connectionLost .applicationClosed] }
  | 1 :: certificate => { connection with
      certificate := connection.certificate <|> some certificate
      events := connection.events ++ [.connected] }
  | [2, id] => { connection with
      incoming := connection.incoming ++ [id.toNat]
      streams := connection.streams ++ [⟨id.toNat, [], false⟩]
      events := connection.events ++ [.streamOpened] }
  | 3 :: id :: data =>
      connection.update id.toNat fun stream =>
        { stream with chunks := stream.chunks ++ [data] }
  | [4, id] => connection.update id.toNat fun stream => { stream with finished := true }
  | _ => connection

def Connection.read (connection : Connection) (id : StreamId) : ReadAnswer × Connection :=
  if connection.drained then (.ok (.error .blocked), connection)
  else
    match connection.streams.find? fun stream => stream.id = id with
    | none => (.error .closedStream, connection)
    | some stream =>
        match stream.chunks with
        | chunk :: rest => (.ok (.ok (some chunk)),
            connection.update id fun stream => { stream with chunks := rest })
        | [] =>
            if stream.finished then (.ok (.ok none), { connection with
              streams := connection.streams.filter fun stream => stream.id ≠ id })
            else (.ok (.error .blocked), connection)

def Connection.accept (connection : Connection) : Option StreamId × Connection :=
  if connection.drained then (none, connection)
  else
    match connection.incoming with
    | [] => (none, connection)
    | id :: incoming => (some id, { connection with incoming })

def call {Answer : Type} :
    ConnCall Unit Bytes Answer → Connection → Answer × Connection
  | .pollEndpointEvents, connection =>
      if connection.retiring then (some (), { connection with retiring := false })
      else (none, connection)
  | .handleEvent event, connection => ((), connection.receive event)
  | .poll, connection =>
      match connection.events with
      | [] => (none, connection)
      | event :: events => (some event, { connection with events })
  | .pollTransmit _, connection =>
      match connection.transmits with
      | [] => (none, connection)
      | packet :: transmits =>
          (some ⟨connection.remote, packet⟩, { connection with transmits })
  | .handleTimeout _, connection =>
      if connection.closing && !connection.drained then
        ((), { connection with drained := true, retiring := true })
      else ((), connection)
  | .close _ _ _, connection =>
      if connection.closing then ((), connection)
      else ((), { connection with
        closing := true, transmits := connection.transmits ++ [[0]] })
  | .openStream _, connection =>
      if connection.drained then (none, connection)
      else (some connection.opened, { connection with opened := connection.opened + 1 })
  | .acceptStream .bi, connection => connection.accept
  | .acceptStream .uni, connection => (none, connection)
  | .sendDatagram data, connection =>
      (.ok (), { connection with transmits := connection.transmits ++ [data] })
  | .recvDatagram, connection => (none, connection)
  | .write _ data, connection =>
      if connection.drained then (.error .blocked, connection)
      else (.ok data.length, { connection with
        transmits := connection.transmits ++ [data] })
  | .finish _, connection => (.ok (), connection)
  | .reset _ _, connection => ((), connection)
  | .read id _, connection => connection.read id
  | .stop id _, connection => ((), { connection with
      streams := connection.streams.filter fun stream => stream.id ≠ id })

def vacant (live : List ConnectionHandle) : ConnectionHandle :=
  ((List.range (live.length + 1)).find? fun handle => handle ∉ live).getD live.length

def platform : Platform where
  Endpoint := List ConnectionHandle
  Connection := Connection
  EndpointEvent := Unit
  ConnectionEvent := Bytes
  Incoming := SocketAddr × Bytes
  ClientConfig := EndpointId
  call := call
  isDrained connection := connection.drained
  pollTimeout connection :=
    if connection.closing && !connection.drained then some 0 else none
  handshakeProtocol connection := connection.certificate.map fun _ => some []
  peerCertificates connection := connection.certificate.map fun bytes => [bytes]
  networkPath connection := some connection.remote
  handle live _ addr packet :=
    match packet with
    | 1 :: certificate => (live, some (.newConnection (addr, certificate)))
    | 2 :: handle :: event => (live, some (.connectionEvent handle.toNat event))
    | 3 :: payload => (live, some (.response payload))
    | _ => (live, none)
  accept live incoming _ :=
    (vacant live :: live, .ok (vacant live,
      Connection.new incoming.1 (some incoming.2) [.connected] [[1]]))
  connect live _ _ remote :=
    (vacant live :: live, .ok (vacant live, Connection.new remote none [] [[1]]))
  handleEvent live handle _ := (live.erase handle, none)
  publicKeyFromEd25519Spki bytes := EndpointId.ofBytes? bytes
  clientConfig peer _ := .ok peer
  encodeSignal
    | .offer _ => .ok [1]
    | .answer _ => .ok [2]
    | .candidate _ _ _ => .ok [3]
    | .endOfCandidates => .ok [4]
    | .done => .ok [5]
  decodeSignal
    | [1] => some (.offer "")
    | [2] => some (.answer "")
    | [3] => some (.candidate "" none none)
    | [4] => some .endOfCandidates
    | [5] => some .done
    | _ => none

theorem call_certificate {Answer : Type} (operation : ConnCall Unit Bytes Answer)
    (connection : Connection) {certificate : Bytes}
    (known : connection.certificate = some certificate) :
    (call operation connection).2.certificate = some certificate := by
  cases operation with
  | handleEvent event =>
      rw [call, Connection.receive.eq_def]
      split <;> simp_all [Connection.update]
  | acceptStream dir =>
      cases dir with
      | uni => exact known
      | bi =>
          rw [call, Connection.accept]
          split
          · exact known
          · split <;> exact known
  | read id max =>
      rw [call, Connection.read]
      split
      · exact known
      · split
        · exact known
        · split
          · exact known
          · split <;> exact known
  | _ =>
      rw [call]
      try split
      all_goals exact known

def peer (byte : UInt8) : EndpointId := ⟨List.replicate 32 byte, by simp⟩

def bound (webrtc udp : Bool) : Config platform := .bind [] webrtc udp "a://home" 0

theorem bound_initial (webrtc udp : Bool) :
    (endpoint platform).Initial (bound webrtc udp) :=
  ⟨[], webrtc, udp, "a://home", 0, "wss://home/relay", by decide, rfl⟩

/-- One turn of the pump from a drain to its select, sending `packets` packets. -/
def turn (order : List ConnectionHandle) (packets : Nat) : List Action :=
  List.flatten [[.pump (.run 10 order)],
    List.flatten (List.replicate packets [.pump (.run 10 []), .pump (.sent (.ok ()))]),
    List.replicate 5 (.pump (.run 10 []))]

/-- A peer's first packet, through the relay at `index` of the receives. -/
def hello (index : Nat) (byte : UInt8) : Action :=
  .pump (.relayEvent index (.ok ⟨peer byte, 1 :: (peer byte).bytes⟩))

end Slab

end IrohEndpoint
