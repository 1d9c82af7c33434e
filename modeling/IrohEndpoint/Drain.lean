import IrohEndpoint.Foundation.Loop
import IrohEndpoint.State

/-! # Draining noq and feeding it datagrams

`drain` moves endpoint events, application events and transmits out of every
connection until it is quiescent. noq decides how often each loop goes round, so
the loops are fuelled; the order in which the connection table is visited is the
hash map's and is an argument. -/

namespace IrohEndpoint

variable {P : Platform}

/-! ## Application events -/

def ConnEntry.queueStream (entry : ConnEntry P) (dir : Dir) (id : StreamId) :
    ConnEntry P :=
  match dir with
  | .bi => { entry with biQueue := entry.biQueue ++ [id] }
  | .uni => { entry with uniQueue := entry.uniQueue ++ [id] }

def acceptRound (dir : Dir) (entry : ConnEntry P) :
    Except Abort (ConnEntry P × Bool) :=
  match entry.call (.acceptStream dir) with
  | (none, entry) => .ok (entry, false)
  | (some id, entry) => .ok (entry.queueStream dir id, true)

/-- The handshake authenticated a key other than the one addressed: never surface
the connection. -/
def ConnEntry.refuse (entry : ConnEntry P) (now : Instant) : ConnEntry P :=
  let mismatch := Error.connectFailed "authenticated key differs from the addressed peer"
  let failed : ConnEntry P := { entry with error := some mismatch }
  (failed.call (.close now 1 "identity mismatch".toUTF8.data.toList)).2

def ConnEntry.negotiatedAlpn (entry : ConnEntry P) : Bytes :=
  match P.handshakeProtocol entry.conn with
  | some protocol => protocol.getD []
  | none => entry.alpn

/-- The `Connected` event: surface the connection only under the identity it was
expected to authenticate as. -/
def ConnEntry.onConnected (entry : ConnEntry P) (now : Instant) : ConnEntry P :=
  let tlsPeer := P.tlsPeer entry.conn
  let seen : ConnEntry P := { entry with
    alpn := entry.negotiatedAlpn
    trace := { entry.trace with
      authenticated := entry.trace.authenticated ++ [tlsPeer] } }
  match tlsPeer with
  | some id =>
      if entry.expectedPeer = none ∨ entry.expectedPeer = some id then
        { seen with peer := some id, connected := true }
      else seen.refuse now
  | none => seen.refuse now

/-- Whether the `Connected` event surfaces the connection. -/
def ConnEntry.authenticates (entry : ConnEntry P) : Bool :=
  match P.tlsPeer entry.conn with
  | some id => decide (entry.expectedPeer = none ∨ entry.expectedPeer = some id)
  | none => false

def lostError : ConnectionError → Error
  | .applicationClosed => .closed
  | .locallyClosed => .closed
  | .other display => .other s!"connection lost: {display}"

def State.pushAccepted (state : State P) (item : AcceptItem) : State P :=
  { state with
    acceptQueue := state.acceptQueue ++ [item]
    history := { state.history with queued := state.history.queued ++ [item] } }

def onEvent (fuel : Nat) (now : Instant) (handle : ConnectionHandle) (event : Event)
    (state : State P) (entry : ConnEntry P) :
    Except Abort (State P × ConnEntry P) :=
  match event with
  | .connected =>
      let connected := entry.onConnected now
      if entry.authenticates && entry.acceptedSide then
        .ok (state.pushAccepted ⟨handle, entry.trace.serial⟩, connected)
      else .ok (state, connected)
  | .streamOpened => do
      let entry ← whileLoop .outOfFuel (acceptRound .bi) fuel entry
      let entry ← whileLoop .outOfFuel (acceptRound .uni) fuel entry
      .ok (state, entry)
  | .connectionLost reason =>
      .ok (state, { entry with error := some (lostError reason) })
  | .handshakeDataReady | .handshakeConfirmed | .path | .natTraversal | .stream
  | .datagramReceived | .datagramsUnblocked => .ok (state, entry)

/-! ## The drain loop -/

/-- Route by the standin's current wire; an address with no route goes to the
UDP socket. -/
def State.routeTransmit (state : State P) (transmit : Transmit) :
    Except Abort (State P) :=
  match state.routes.get? transmit.destination with
  | some (.relay key) =>
      match state.addrToPeer.get? transmit.destination with
      | some peer => .ok { state with
          relayOutbound := state.relayOutbound ++ [(key, peer, transmit.datagram)] }
      | none => .error (.panic "no entry found for key")
  | some (.channel id) => .ok { state with
      channelOutbound := state.channelOutbound ++ [(id, transmit.datagram)] }
  | none => .ok { state with
      udpOutbound := state.udpOutbound ++ [(transmit.destination, transmit.datagram)] }

/-- The loop variables of `drain` for one connection. -/
structure Turn (P : Platform) where
  state : State P
  entry : ConnEntry P
  progressed : Bool

namespace Turn

def endpointEventRound (handle : ConnectionHandle) (turn : Turn P) :
    Except Abort (Turn P × Bool) :=
  match turn.entry.call .pollEndpointEvents with
  | (none, entry) => .ok ({ turn with entry }, false)
  | (some event, entry) =>
      let (noq, back) := P.handleEvent turn.state.noq handle event
      let entry := match back with
        | some event => (entry.call (.handleEvent event)).2
        | none => entry
      .ok (⟨{ turn.state with noq }, entry, true⟩, true)

def eventRound (fuel : Nat) (now : Instant) (handle : ConnectionHandle)
    (turn : Turn P) : Except Abort (Turn P × Bool) :=
  match turn.entry.call .poll with
  | (none, entry) => .ok ({ turn with entry }, false)
  | (some event, entry) => do
      let (state, entry) ← onEvent fuel now handle event turn.state entry
      .ok (⟨state, entry, true⟩, true)

def transmitRound (now : Instant) (turn : Turn P) : Except Abort (Turn P × Bool) :=
  match turn.entry.call (.pollTransmit now) with
  | (none, entry) => .ok ({ turn with entry }, false)
  | (some transmit, entry) => do
      let state ← turn.state.routeTransmit transmit
      .ok (⟨state, entry, true⟩, true)

def round (fuel : Nat) (now : Instant) (handle : ConnectionHandle) (turn : Turn P) :
    Except Abort (Turn P × Bool) := do
  let turn ← whileLoop .outOfFuel (endpointEventRound handle) fuel
    { turn with progressed := false }
  let turn ← whileLoop .outOfFuel (eventRound fuel now handle) fuel turn
  let turn ← whileLoop .outOfFuel (transmitRound now) fuel turn
  .ok (turn, turn.progressed)

end Turn

def ConnEntry.latchDrained (entry : ConnEntry P) : ConnEntry P :=
  if !entry.drained && P.isDrained entry.conn then { entry with drained := true }
  else entry

namespace State

def drainEntry (fuel : Nat) (now : Instant) (state : State P)
    (handle : ConnectionHandle) : Except Abort (State P) :=
  match state.conns.get? handle with
  | none => .error .disabled
  | some entry => do
      let turn ← whileLoop .outOfFuel (Turn.round fuel now handle) fuel
        ⟨state, entry, false⟩
      .ok { turn.state with
        conns := turn.state.conns.set handle turn.entry.latchDrained }

def drain (state : State P) (fuel : Nat) (now : Instant)
    (order : List ConnectionHandle) : Except Abort (State P) :=
  if order.Perm state.conns.keys then order.foldlM (drainEntry fuel now) state
  else .error .disabled

/-! ## Inbound datagrams -/

/-- Send an endpoint-level response back where the datagram came from. -/
def pushResponse (state : State P) (addr : SocketAddr) (source : Option EndpointId)
    (payload : Bytes) : State P :=
  match state.routes.get? addr, source with
  | some (.relay key), some peer => { state with
      relayOutbound := state.relayOutbound ++ [(key, peer, payload)] }
  | some (.channel id), _ => { state with
      channelOutbound := state.channelOutbound ++ [(id, payload)] }
  | _, _ => { state with udpOutbound := state.udpOutbound ++ [(addr, payload)] }

/-- `conns.insert` of a new entry, which replaces any entry under the handle. -/
def insertConn (state : State P) (handle : ConnectionHandle) (conn : P.Connection)
    (expectedPeer : Option EndpointId) (acceptedSide : Bool) (origin : Origin) :
    State P :=
  { state with
    conns := state.conns.set handle
      (.new conn expectedPeer acceptedSide state.history.connections origin)
    history := { state.history with connections := state.history.connections + 1 } }

def handleDatagram (state : State P) (now : Instant) (addr : SocketAddr)
    (source : Option EndpointId) (payload : Bytes) (origin : Origin) : State P :=
  let (noq, answer) := P.handle state.noq now addr payload
  let state := { state with noq }
  match answer with
  | some (.connectionEvent handle event) =>
      match state.conns.get? handle with
      | some entry => { state with
          conns := state.conns.set handle (entry.call (.handleEvent event)).2 }
      | none => state
  | some (.newConnection incoming) =>
      if state.closed then state
      else
        let (noq, accepted) := P.accept state.noq incoming now
        let state := { state with noq }
        match accepted with
        | .ok (handle, conn) => state.insertConn handle conn source true origin
        | .error (some response) => state.pushResponse addr source response
        | .error none => state
  | some (.response payload) => state.pushResponse addr source payload
  | none => state

def handleRelayDatagram (state : State P) (now : Instant) (via : UInt32)
    (source : EndpointId) (payload : Bytes) : State P :=
  let (addr, state) := state.addrForPeer source via
  state.handleDatagram now addr (some source) payload (.relay via source)

def handleUdpDatagram (state : State P) (now : Instant) (remote : SocketAddr)
    (payload : Bytes) : State P :=
  state.handleDatagram now remote none payload (.udp remote)

def handleChannelDatagram (state : State P) (now : Instant) (id : UInt32)
    (payload : Bytes) : State P :=
  match state.channels.get? id with
  | none => state
  | some entry =>
      let (synthetic, state) := state.addrForPeer entry.peer entry.fallbackRelay
      state.handleDatagram now synthetic (some entry.peer) payload
        (.channel id entry.peer)

end State

end IrohEndpoint
