import IrohEndpoint.Drain

/-! # Dialing

`connect` selects its wires from the address list, opens the relays it needs
through `ensure_relay`, and dials. Every function here runs from one await to the
next; a `Waiting` phase is the await it stops at. -/

namespace IrohEndpoint

variable {P : Platform}

/-! ## Opening relays -/

inductive EnsurePhase where
  -- this caller claimed the URL and awaits `RelayConn::connect`
  | opening
  -- another caller did; poll for its outcome
  | waiting (started : Instant)
  deriving DecidableEq, Repr

inductive EnsureStart where
  | resolved (result : Except Error UInt32)
  | suspended (phase : EnsurePhase)

namespace State

/-- Record that `ensure_relay(url)` resolves to `key` now. -/
def noteEnsured (state : State P) (url : String) (key : UInt32) : State P :=
  { state with history := { state.history with
      ensured := state.history.ensured ++
        [⟨url, key, state.relayPool.get? key, state.history.retiredRelays⟩] } }

/-- `ensure_relay` up to its first await. A URL `relay_url` rejects fails the open
before anything is awaited. -/
def beginEnsure (state : State P) (now : Instant) (url : String) :
    EnsureStart × State P :=
  let normalized := normalizeRelayUrl url
  match state.relayKeys.get? normalized with
  | some key => (.resolved (.ok key), state.noteEnsured url key)
  | none =>
      if state.isClosedOrDead then (.resolved (.error .closed), state)
      else if normalized ∈ state.relayOpening then (.suspended (.waiting now), state)
      else
        match relayUrl url with
        | .error detail =>
            (.resolved (.error (.connectFailed s!"relay {url}: {detail}")), state)
        | .ok _ => (.suspended .opening,
            { state with relayOpening := normalized :: state.relayOpening })

def finishOpen (state : State P) (url : String) (opened : Except String RelayConn) :
    Except Error UInt32 × State P :=
  let normalized := normalizeRelayUrl url
  let state := { state with
    relayOpening := state.relayOpening.filter (· ≠ normalized) }
  match opened with
  | .ok conn =>
      let (key, state) := state.registerRelay url conn
      (.ok key, state.noteEnsured url key)
  | .error detail => (.error (.connectFailed s!"relay {url}: {detail}"), state)

/-- One poll of a caller that waits for a concurrent open. -/
def pollEnsure (state : State P) (now started : Instant) (url : String) :
    Option (Except Error UInt32) × State P :=
  let normalized := normalizeRelayUrl url
  match state.relayKeys.get? normalized with
  | some key => (some (.ok key), state.noteEnsured url key)
  | none =>
      if normalized ∉ state.relayOpening then
        (some (.error (.connectFailed "a concurrent open of this relay failed")), state)
      else if state.isClosedOrDead then (some (.error .closed), state)
      else if relayOpenDeadline < now - started then
        (some (.error (.connectFailed "relay open timed out")), state)
      else (none, state)

end State

/-! ## Address selection -/

structure Dial where
  peer : EndpointId
  alpn : Bytes
  direct : Option SocketAddr
  dialRelay : Option String
  webrtcHint : Option String
  deriving DecidableEq

def Dial.consider (udp webrtcEnabled : Bool) (dial : Dial) : TransportAddr → Dial
  | .relay url =>
      if dial.dialRelay.isNone then { dial with dialRelay := some url } else dial
  | .ip text =>
      if dial.direct.isNone && udp then { dial with direct := SocketAddr.parse text }
      else dial
  | .webrtc url =>
      if webrtcEnabled && dial.webrtcHint.isNone then
        { dial with webrtcHint := some url }
      else dial
  | .custom _ => dial

def Dial.select (udp webrtcEnabled : Bool) (peer : EndpointId) (alpn : Bytes)
    (addrs : List TransportAddr) : Dial :=
  addrs.foldl (Dial.consider udp webrtcEnabled) ⟨peer, alpn, none, none, none⟩

/-! ## The dial -/

inductive ConnectPhase where
  | dialRelay (dial : Dial) (url : String) (ensure : EnsurePhase)
  | upgradeRelay (dial : Dial) (dialKey : UInt32) (url : String) (ensure : EnsurePhase)
  -- the wait for the handshake; `serial` names the connection that was dialed
  | handshake (peer : EndpointId) (handle : ConnectionHandle) (serial : Nat)
  deriving DecidableEq

inductive Connecting where
  | failed (error : Error)
  | suspended (phase : ConnectPhase)

namespace State

/-- The dialed peer's standin. An explicit dial names where the peer is now, so a
standin still routed to some relay follows it; a channel route stays. -/
def dialStandin (state : State P) (peer : EndpointId) (dialKey : UInt32) :
    SocketAddr × State P :=
  let (standin, state) := state.addrForPeer peer dialKey
  match state.routes.get? standin with
  | some (.relay _) => (standin, { state with
      routes := state.routes.set standin (.relay dialKey) })
  | _ => (standin, state)

def dialRemote (state : State P) (dial : Dial) (dialKey : UInt32) :
    SocketAddr × State P :=
  match dial.direct with
  | some real => (real, state)
  | none => state.dialStandin dial.peer dialKey

/-- The part of `connect` between the last relay open and the handshake wait. -/
def dialNow (state : State P) (now : Instant) (dial : Dial) (dialKey : UInt32)
    (upgradeKey : Option UInt32) : Connecting × State P :=
  match P.clientConfig dial.peer dial.alpn with
  | .error detail => (.failed (.other detail), state)
  | .ok config =>
      if state.dead.isSome || state.closed then (.failed .closed, state)
      else
        let (remote, state) := state.dialRemote dial dialKey
        let (noq, dialed) := P.connect state.noq now config remote
        let state := { state with noq }
        match dialed with
        | .error detail => (.failed (.connectFailed detail), state)
        | .ok (handle, conn) =>
            let serial := state.history.connections
            let state := state.insertConn handle conn (some dial.peer) false
              (.dialed dial.peer)
            let state := match upgradeKey with
              | some key => { state with
                  pendingUpgrades := state.pendingUpgrades ++ [(dial.peer, key)] }
              | none => state
            (.suspended (.handshake dial.peer handle serial), state)

def resolveUpgrade (state : State P) (now : Instant) (dial : Dial) (dialKey : UInt32) :
    Connecting × State P :=
  match dial.direct, dial.webrtcHint with
  | none, some url =>
      match state.beginEnsure now url with
      | (.resolved (.ok key), state) => state.dialNow now dial dialKey (some key)
      | (.resolved (.error error), state) => (.failed error, state)
      | (.suspended phase, state) =>
          (.suspended (.upgradeRelay dial dialKey url phase), state)
  | _, _ => state.dialNow now dial dialKey none

def resolveDial (state : State P) (now : Instant) (dial : Dial) :
    Connecting × State P :=
  match dial.direct, dial.dialRelay with
  | none, some url =>
      match state.beginEnsure now url with
      | (.resolved (.ok key), state) => state.resolveUpgrade now dial key
      | (.resolved (.error error), state) => (.failed error, state)
      | (.suspended phase, state) => (.suspended (.dialRelay dial url phase), state)
  | _, _ => state.resolveUpgrade now dial homeRelay

/-- `connect` up to its first await. -/
def connect (state : State P) (now : Instant) (udp : Bool) (addr : EndpointAddr)
    (alpn : Bytes) : Connecting × State P :=
  match EndpointId.ofBytes? addr.endpointId with
  | none => (.failed (.invalidArgument "endpoint id is not 32 bytes"), state)
  | some peer =>
      state.resolveDial now (.select udp state.webrtcEnabled peer alpn addr.addrs)

/-- Continue `connect` once an `ensure_relay` it awaits has resolved. -/
def ensured (state : State P) (now : Instant) (phase : ConnectPhase)
    (result : Except Error UInt32) : Connecting × State P :=
  match phase, result with
  | .dialRelay dial _ _, .ok key => state.resolveUpgrade now dial key
  | .upgradeRelay dial dialKey _ _, .ok key => state.dialNow now dial dialKey (some key)
  | _, .error error => (.failed error, state)
  | .handshake peer handle serial, .ok _ =>
      (.suspended (.handshake peer handle serial), state)

end State

/-- The `ensure_relay` a connect call is suspended in. -/
def ConnectPhase.ensure? : ConnectPhase → Option (String × EnsurePhase)
  | .dialRelay _ url phase => some (url, phase)
  | .upgradeRelay _ _ url phase => some (url, phase)
  | .handshake _ _ _ => none

end IrohEndpoint
