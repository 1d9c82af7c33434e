import IrohEndpoint.Foundation.Table
import IrohEndpoint.Platform

/-! # The shared state

`State` is the data behind the exported resources and the pump, with the
operations that touch no noq connection loop. Two parts are not in the program
and are read by no operation: `EntryTrace` and `History` record what happened, so
that properties of whole runs can be stated about the state they end in. -/

namespace IrohEndpoint

/-- Why an operation does not complete: it is not possible now, a loop was given
too little fuel, or the program traps. -/
inductive Abort where
  | disabled
  | outOfFuel
  | panic (message : String)
  deriving DecidableEq, Repr

/-! ## Connection entries -/

inductive Origin where
  | dialed (peer : EndpointId)
  | relay (via : UInt32) (source : EndpointId)
  | channel (id : UInt32) (peer : EndpointId)
  | udp (remote : SocketAddr)
  deriving DecidableEq

/-- Who polls a receive stream: a `read` call, or the task behind
`read-via-stream`. -/
inductive StreamReader where
  | call
  | byteStream
  deriving DecidableEq, Repr

/-- One access to a stream of a connection. A read keeps the error latched on
the entry when it polled, noq's answer if noq was asked, and its result. -/
inductive StreamRecord where
  | read (id : StreamId) (reader : StreamReader) (latched : Option Error)
      (answer : Option ReadAnswer) (result : Option (Except Error (Option Bytes)))
  | stop (id : StreamId)
  | write (id : StreamId) (slice : Bytes) (answer : Except WriteError Nat)
  | finish (id : StreamId) (answer : Except FinishError Unit)
  | reset (id : StreamId)
  deriving DecidableEq

/-- What happened to one entry: `serial` names the noq connection it was created
for, and `authenticated` lists the TLS key seen at each `Connected` event. -/
structure EntryTrace where
  serial : Nat
  origin : Origin
  authenticated : List (Option EndpointId)
  streams : List StreamRecord
  deriving DecidableEq

structure ConnEntry (P : Platform) where
  conn : P.Connection
  -- the identity this connection must authenticate as, when one is known
  expectedPeer : Option EndpointId
  peer : Option EndpointId
  acceptedSide : Bool
  connected : Bool
  alpn : Bytes
  error : Option Error
  drained : Bool
  biQueue : List StreamId
  uniQueue : List StreamId
  trace : EntryTrace

variable {P : Platform}

def ConnEntry.new (conn : P.Connection) (expectedPeer : Option EndpointId)
    (acceptedSide : Bool) (serial : Nat) (origin : Origin) : ConnEntry P where
  conn := conn
  expectedPeer := expectedPeer
  peer := none
  acceptedSide := acceptedSide
  connected := false
  alpn := []
  error := none
  drained := false
  biQueue := []
  uniQueue := []
  trace := ⟨serial, origin, [], []⟩

def ConnEntry.call {Answer : Type} (entry : ConnEntry P)
    (operation : ConnCall P.EndpointEvent P.ConnectionEvent Answer) :
    Answer × ConnEntry P :=
  let (answer, conn) := P.call operation entry.conn
  (answer, { entry with conn })

def ConnEntry.record (entry : ConnEntry P) (record : StreamRecord) : ConnEntry P :=
  { entry with trace :=
      { entry.trace with streams := entry.trace.streams ++ [record] } }

/-- What `connection.state` reports as closed. -/
def ConnEntry.isClosed (entry : ConnEntry P) : Bool :=
  entry.drained || entry.error.isSome

/-! ## The state -/

structure ChannelEntry where
  wire : ChannelWire
  peer : EndpointId
  fallbackRelay : UInt32
  deriving DecidableEq

/-- A handle waiting in the accept queue, and the connection that put it there. -/
structure AcceptItem where
  handle : ConnectionHandle
  serial : Nat
  deriving DecidableEq, Repr

/-- A resolution of `ensure_relay` to a key: the pool entry under that key and
the relays that had died, both at that moment. -/
structure Ensured where
  url : String
  key : UInt32
  pooled : Option RelayConn
  retired : List (UInt32 × RelayConn)
  deriving DecidableEq

structure History where
  connections : Nat
  queued : List AcceptItem
  relays : List (UInt32 × RelayConn)
  retiredRelays : List (UInt32 × RelayConn)
  closedRelays : List RelayConn
  channels : List (UInt32 × ChannelEntry)
  retiredChannels : List ChannelWire
  closedChannels : List ChannelWire
  ensured : List Ensured

structure State (P : Platform) where
  noq : P.Endpoint
  conns : Table ConnectionHandle (ConnEntry P)
  peerToAddr : Table EndpointId SocketAddr
  addrToPeer : Table SocketAddr EndpointId
  nextHost : UInt32
  acceptQueue : List AcceptItem
  relayOutbound : List (UInt32 × EndpointId × Bytes)
  udpOutbound : List (SocketAddr × Bytes)
  channelOutbound : List (UInt32 × Bytes)
  routes : Table SocketAddr RouteWire
  relayPool : Table UInt32 RelayConn
  relayKeys : Table String UInt32
  relayOpening : List String
  newRelays : List (UInt32 × RelayConn)
  nextRelayKey : UInt32
  pendingUpgrades : List (EndpointId × UInt32)
  webrtcEnabled : Bool
  signaling : Table EndpointId UInt32
  signalInboxes : Table EndpointId (List Bytes)
  channels : Table UInt32 ChannelEntry
  newChannels : List (UInt32 × ChannelWire)
  nextChannelId : UInt32
  closed : Bool
  closedAt : Option Instant
  dead : Option String
  history : History

namespace State

def new (noq : P.Endpoint) (webrtcEnabled : Bool) : State P where
  noq := noq
  conns := .empty
  peerToAddr := .empty
  addrToPeer := .empty
  nextHost := 0
  acceptQueue := []
  relayOutbound := []
  udpOutbound := []
  channelOutbound := []
  routes := .empty
  relayPool := .empty
  relayKeys := .empty
  relayOpening := []
  newRelays := []
  nextRelayKey := 0
  pendingUpgrades := []
  webrtcEnabled := webrtcEnabled
  signaling := .empty
  signalInboxes := .empty
  channels := .empty
  newChannels := []
  nextChannelId := 0
  closed := false
  closedAt := none
  dead := none
  history := ⟨0, [], [], [], [], [], [], [], []⟩

/-- The stable synthetic socket address standing in for `peer`; a fresh one
routes to the relay it was first seen through. -/
def addrForPeer (state : State P) (peer : EndpointId) (via : UInt32) :
    SocketAddr × State P :=
  match state.peerToAddr.get? peer with
  | some addr => (addr, state)
  | none =>
      let nextHost := state.nextHost + 1
      let addr := docPrefixAddr 0x77 nextHost
      (addr, { state with
        nextHost
        peerToAddr := state.peerToAddr.set peer addr
        addrToPeer := state.addrToPeer.set addr peer
        routes := state.routes.set addr (.relay via) })

def registerRelay (state : State P) (url : String) (conn : RelayConn) :
    UInt32 × State P :=
  let key := state.nextRelayKey
  (key, { state with
    nextRelayKey := state.nextRelayKey + 1
    relayPool := state.relayPool.set key conn
    relayKeys := state.relayKeys.set (normalizeRelayUrl url) key
    newRelays := state.newRelays ++ [(key, conn)]
    history := { state.history with
      relays := state.history.relays ++ [(key, conn)] } })

def isClosedOrDead (state : State P) : Bool :=
  state.closed || state.dead.isSome

def beginSignaling (state : State P) (peer : EndpointId) (relay : UInt32) :
    Except Error (State P) :=
  if state.signaling.contains peer then
    .error (.connectFailed "a webrtc signaling session with this peer is already active")
  else
    .ok { state with signaling := state.signaling.set peer relay }

def endSignaling (state : State P) (peer : EndpointId) : State P :=
  { state with
    signaling := state.signaling.remove peer
    signalInboxes := state.signalInboxes.remove peer }

def signalingRelay (state : State P) (peer : EndpointId) : Option UInt32 :=
  state.signaling.get? peer

def pushSignalOutbound (state : State P) (relay : UInt32) (peer : EndpointId)
    (payload : Bytes) : State P :=
  { state with relayOutbound := state.relayOutbound ++ [(relay, peer, payload)] }

def popSignalInbox (state : State P) (peer : EndpointId) :
    Option Bytes × State P :=
  match state.signalInboxes.get? peer with
  | some (payload :: rest) =>
      (some payload, { state with signalInboxes := state.signalInboxes.set peer rest })
  | _ => (none, state)

/-- Register an open channel to `peer` and move the peer's route onto it. A
closing endpoint refuses and closes the wire. -/
def registerChannel (state : State P) (peer : EndpointId) (wire : ChannelWire) :
    Except Error Unit × State P :=
  if state.isClosedOrDead then
    (.error .closed, { state with history := { state.history with
      closedChannels := state.history.closedChannels ++ [wire] } })
  else
    let fallbackRelay := (state.signalingRelay peer).getD homeRelay
    let id := state.nextChannelId + 1
    let entry : ChannelEntry := ⟨wire, peer, fallbackRelay⟩
    let registered : State P := { state with
      nextChannelId := id
      channels := state.channels.set id entry
      newChannels := state.newChannels ++ [(id, wire)]
      history := { state.history with
        channels := state.history.channels ++ [(id, entry)] } }
    let (synthetic, routed) := registered.addrForPeer peer fallbackRelay
    (.ok (), { routed with routes := routed.routes.set synthetic (.channel id) })

/-- Retire a dead channel; a peer routed over it moves back to the relay the
entry names. -/
def retireChannel (state : State P) (id : UInt32) : State P :=
  match state.channels.get? id with
  | none => state
  | some entry =>
      let retired : State P := { state with channels := state.channels.remove id }
      match state.peerToAddr.get? entry.peer with
      | none => retired
      | some synthetic =>
          if state.routes.get? synthetic = some (.channel id) then
            { retired with
              routes := state.routes.set synthetic (.relay entry.fallbackRelay) }
          else retired

def markDead (state : State P) (reason : String) : State P :=
  { state with
    dead := some reason
    conns := state.conns.mapValues fun entry =>
      if entry.error.isNone then { entry with error := some .closed } else entry }

def handleTimeouts (state : State P) (now : Instant) : State P :=
  { state with conns := state.conns.mapValues fun entry =>
      if (P.pollTimeout entry.conn).any (· ≤ now) then
        (entry.call (.handleTimeout now)).2
      else entry }

def closeAll (state : State P) (now : Instant) (reason : Bytes) : State P :=
  { state with conns := state.conns.mapValues fun entry =>
      if entry.error.isNone && !entry.drained then
        (entry.call (.close now 0 reason)).2
      else entry }

/-- The end of a pool relay's receive with an error, for any relay but the
home relay: it leaves the pool. -/
def removeRelay (state : State P) (key : UInt32) (conn : RelayConn) : State P :=
  { state with
    relayPool := state.relayPool.remove key
    history := { state.history with
      retiredRelays := state.history.retiredRelays ++ [(key, conn)] } }

def channelDied (state : State P) (id : UInt32) (wire : ChannelWire) : State P :=
  let retired := state.retireChannel id
  { retired with history := { retired.history with
      retiredChannels := retired.history.retiredChannels ++ [wire] } }

/-- `endpoint.close`, and the drop of the endpoint with its own reason. -/
def close (state : State P) (now : Instant) (reason : Bytes) : State P :=
  if state.closed then state
  else ({ state with closed := true, closedAt := some now } : State P).closeAll now reason

end State

end IrohEndpoint
