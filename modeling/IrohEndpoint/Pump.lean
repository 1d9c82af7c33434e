import IrohEndpoint.Drain
import IrohEndpoint.Session

/-! # The pump

The endpoint's I/O task. A phase that awaits is a suspension point of the task;
the other phases lie between two suspension points, and no other task runs while
the pump is in one of them. -/

namespace IrohEndpoint

/-- One relayed datagram and its relay-authenticated sender. -/
structure Datagram where
  source : EndpointId
  payload : Bytes
  deriving DecidableEq

inductive PumpPhase where
  | draining
  | relayOutbound
  | relaySending (key : UInt32) (conn : RelayConn) (peer : EndpointId) (datagram : Bytes)
  | udpOutbound
  | udpSending (remote : SocketAddr) (datagram : Bytes)
  | channelOutbound
  | channelSending (id : UInt32) (wire : ChannelWire) (datagram : Bytes)
  | arming
  | checking
  | selecting
  -- after the loop: close the pool, self-wake the socket, close the channels,
  -- and resolve what is still in flight
  | closingRelays
  | wakingUdp
  | closingChannels
  | joining
  | terminated
  deriving DecidableEq

def PumpPhase.awaits : PumpPhase → Bool
  | .relaySending .. | .udpSending .. | .channelSending .. | .selecting | .wakingUdp
  | .joining | .terminated => true
  | _ => false

structure Pump where
  phase : PumpPhase
  relayRecvs : List (UInt32 × RelayConn)
  channelRecvs : List (UInt32 × ChannelWire)
  udpRecv : Bool
  deriving DecidableEq

/-- What resumes the pump. `run` moves it between suspension points, with the
fuel and the visiting order of a drain. -/
inductive PumpInput where
  | run (fuel : Nat) (order : List ConnectionHandle)
  | sent (result : Except String Unit)
  | relayEvent (index : Nat) (result : Except String Datagram)
  | udpEvent (received : Option (Bytes × SocketAddr))
  | channelEvent (index : Nat) (result : Except String (Option Bytes))
  | tick

variable {P : Platform}

namespace State

/-- Inbound signaling: file the payload in the peer's inbox; a peer without a
session gets an answerer. -/
def handleSignal (state : State P) (via : UInt32) (source : EndpointId)
    (payload : Bytes) : List Session × State P :=
  if !state.webrtcEnabled || state.isClosedOrDead then ([], state)
  else
    let spawnAnswerer := !state.signaling.contains source
    let claimed : State P :=
      if spawnAnswerer then { state with signaling := state.signaling.set source via }
      else state
    let inbox := (claimed.signalInboxes.get? source).getD []
    let filed : State P := { claimed with
      signalInboxes := claimed.signalInboxes.set source
        (if inbox.length < inboxCap then inbox ++ [payload] else inbox) }
    let spawned : List Session :=
      if spawnAnswerer then [⟨.answerer, source, via, 0, .spawned, []⟩] else []
    (spawned, filed)

def allDrained (state : State P) : Bool :=
  state.conns.values.all ConnEntry.isClosed

def lingered (state : State P) (now : Instant) : Bool :=
  match state.closedAt with
  | some start => decide (linger ≤ now - start)
  | none => true

def pumpExits (state : State P) (now : Instant) : Bool :=
  state.dead.isSome || (state.closed && (state.allDrained || state.lingered now))

end State

abbrev Pumped (P : Platform) := State P × Pump × List Session

/-- The receives of a set after one of them completed, re-armed if its wire is
still there. -/
def rearm {Wire : Type} (key : UInt32) (rest : List (UInt32 × Wire)) :
    Option Wire → List (UInt32 × Wire)
  | some wire => rest ++ [(key, wire)]
  | none => rest

namespace Pump

def moveTo (pump : Pump) (phase : PumpPhase) : Pump := { pump with phase }

def run (pump : Pump) (udp : Bool) (now : Instant) (state : State P) (fuel : Nat)
    (order : List ConnectionHandle) : Except Abort (Pumped P) :=
  match pump.phase with
  | .draining => do
      let state ← state.drain fuel now order
      .ok (state, pump.moveTo .relayOutbound, [])
  | .relayOutbound =>
      match state.relayOutbound with
      | [] => .ok (state, pump.moveTo .udpOutbound, [])
      | (key, peer, datagram) :: rest =>
          let state := { state with relayOutbound := rest }
          -- a retired relay's queued transmits are lost
          match state.relayPool.get? key with
          | some conn => .ok (state, pump.moveTo (.relaySending key conn peer datagram), [])
          | none => .ok (state, pump, [])
  | .udpOutbound =>
      match state.udpOutbound with
      | [] => .ok (state, pump.moveTo .channelOutbound, [])
      | (remote, datagram) :: rest =>
          let state := { state with udpOutbound := rest }
          .ok (state, if udp then pump.moveTo (.udpSending remote datagram) else pump, [])
  | .channelOutbound =>
      match state.channelOutbound with
      | [] => .ok (state, pump.moveTo .arming, [])
      | (id, datagram) :: rest =>
          let state := { state with channelOutbound := rest }
          match state.channels.get? id with
          | some entry =>
              .ok (state, pump.moveTo (.channelSending id entry.wire datagram), [])
          | none => .ok (state, pump, [])
  | .arming =>
      let armed : Pump := { pump with
        phase := .checking
        relayRecvs := pump.relayRecvs ++ state.newRelays
        channelRecvs := pump.channelRecvs ++ state.newChannels }
      let spawned := state.pendingUpgrades.map fun (peer, relay) =>
        (⟨.offerer, peer, relay, 0, .spawned, []⟩ : Session)
      .ok ({ state with newRelays := [], newChannels := [], pendingUpgrades := [] },
        armed, spawned)
  | .checking =>
      if state.pumpExits now then .ok (state, pump.moveTo .closingRelays, [])
      else .ok (state, pump.moveTo .selecting, [])
  | .closingRelays =>
      let closed : State P := { state with history := { state.history with
        closedRelays := state.history.closedRelays ++ state.relayPool.values } }
      .ok (closed, pump.moveTo (if udp then .wakingUdp else .closingChannels), [])
  | .closingChannels =>
      let wires := state.channels.values.map ChannelEntry.wire
      let closed : State P := { state with history := { state.history with
        closedChannels := state.history.closedChannels ++ wires } }
      .ok (closed, pump.moveTo .joining, [])
  | _ => .error .disabled

def relayEvent (pump : Pump) (now : Instant) (state : State P) (key : UInt32)
    (conn : RelayConn) (rest : List (UInt32 × RelayConn))
    (result : Except String Datagram) : Pumped P :=
  match result with
  | .ok datagram =>
      -- re-armed before handling; a retired relay stays retired
      let pump := { pump with
        phase := .draining
        relayRecvs := rearm key rest (state.relayPool.get? key) }
      if datagram.payload.head? = some signalPrefix then
        let (spawned, state) :=
          state.handleSignal key datagram.source (datagram.payload.drop 1)
        (state, pump, spawned)
      else
        (state.handleRelayDatagram now key datagram.source datagram.payload, pump, [])
  | .error detail =>
      let pump := { pump with relayRecvs := rest }
      if key = homeRelay then
        (state.markDead detail, pump.moveTo .closingRelays, [])
      else (state.removeRelay key conn, pump.moveTo .draining, [])

def channelEvent (pump : Pump) (now : Instant) (state : State P) (id : UInt32)
    (wire : ChannelWire) (rest : List (UInt32 × ChannelWire))
    (result : Except String (Option Bytes)) : Pumped P :=
  match result with
  | .ok payload =>
      let pump := { pump with
        phase := .draining
        channelRecvs := rearm id rest ((state.channels.get? id).map ChannelEntry.wire) }
      match payload with
      | some datagram => (state.handleChannelDatagram now id datagram, pump, [])
      | none => (state, pump, [])
  | .error _ =>
      (state.channelDied id wire,
        { pump with phase := .draining, channelRecvs := rest }, [])

/-- The pump's step when the await it is suspended at resolves. -/
def resume (pump : Pump) (udp : Bool) (now : Instant) (state : State P) :
    PumpInput → Except Abort (Pumped P)
  | .run fuel order =>
      -- all that is left to await at the end is the armed tick, which always fires
      if pump.phase = .joining ∧ pump.relayRecvs = [] ∧ (udp && pump.udpRecv) = false ∧
          pump.channelRecvs = [] then
        .ok (state, pump.moveTo .terminated, [])
      else pump.run udp now state fuel order
  | .sent result =>
      match pump.phase with
      | .relaySending key _ _ _ =>
          -- a failed foreign send is datagram loss, the home relay's is death
          if result.toOption.isNone ∧ key = homeRelay then
            .ok (state.markDead "relay send failed", pump.moveTo .closingRelays, [])
          else .ok (state, pump.moveTo .relayOutbound, [])
      | .udpSending _ _ => .ok (state, pump.moveTo .udpOutbound, [])
      | .channelSending _ _ _ => .ok (state, pump.moveTo .channelOutbound, [])
      | .wakingUdp => .ok (state, pump.moveTo .closingChannels, [])
      | _ => .error .disabled
  | .relayEvent index result =>
      match pump.relayRecvs[index]? with
      | none => .error .disabled
      | some (key, conn) =>
          let rest := pump.relayRecvs.eraseIdx index
          match pump.phase with
          | .selecting => .ok (pump.relayEvent now state key conn rest result)
          | .joining => .ok (state, { pump with relayRecvs := rest }, [])
          | _ => .error .disabled
  | .udpEvent received =>
      if !(udp && pump.udpRecv) then .error .disabled
      else
        match pump.phase, received with
        | .selecting, some (payload, remote) =>
            .ok (state.handleUdpDatagram now remote payload, pump.moveTo .draining, [])
        | .selecting, none =>
            .ok (state, { pump with phase := .draining, udpRecv := false }, [])
        | .joining, _ =>
            if pump.relayRecvs = [] then .ok (state, { pump with udpRecv := false }, [])
            else .error .disabled
        | _, _ => .error .disabled
  | .channelEvent index result =>
      match pump.channelRecvs[index]? with
      | none => .error .disabled
      | some (id, wire) =>
          let rest := pump.channelRecvs.eraseIdx index
          match pump.phase with
          | .selecting => .ok (pump.channelEvent now state id wire rest result)
          | .joining =>
              if pump.relayRecvs = [] ∧ (udp && pump.udpRecv) = false then
                .ok (state, { pump with channelRecvs := rest }, [])
              else .error .disabled
          | _ => .error .disabled
  | .tick =>
      match pump.phase with
      | .selecting => .ok (state.handleTimeouts now, pump.moveTo .draining, [])
      | _ => .error .disabled

end Pump

end IrohEndpoint
