import IrohEndpoint.Spike.Agreement
import IrohEndpoint.Spike.Dances

/-! # The demo

One process of the demo: it makes an identity, reaches the relay, dances for a data channel
if it wants one, runs QUIC over its wire and reports whom it spoke to. -/

namespace IrohEndpoint.Spike

/-! ## The task -/

inductive Transport where
  | webrtc
  | relay
  deriving DecidableEq

/-- The role of a process; a client has a message to send. -/
inductive Half where
  | client
  | server
  deriving DecidableEq

structure RunConfig where
  server : String
  role : Half
  transport : Transport
  peer : Option String
  message : String
  deriving DecidableEq

structure RunReport where
  endpointId : String
  peerId : String
  handshakeMs : UInt64
  roundtripMs : UInt64
  received : String
  deriving DecidableEq

def RunConfig.endpointRole (config : RunConfig) : Role :=
  match config.role with
  | .client => .client config.message
  | .server => .server

structure Host where
  quic : Platform
  rtc : Rtc
  hexEncode : Bytes → String
  -- with the display of its errors
  hexDecode : String → Except String Bytes

def parseEndpointId (hexDecode : String → Except String Bytes) (text : String) :
    Except String EndpointId :=
  match hexDecode text with
  | .error error => .error s!"bad endpoint id: {error}"
  | .ok bytes =>
      match EndpointId.ofBytes? bytes with
      | none => .error "endpoint id is not 32 bytes"
      | some id => .ok id

inductive Stage where
  -- generating the identity
  | starting
  | connecting
  | dancing
  | launching
  | running
  | returned (result : Except String RunReport)
  deriving DecidableEq

structure Demo (H : Host) where
  config : RunConfig
  printed : List String
  identity : Option EndpointId
  peerArg : Option EndpointId
  -- the signaling that made a data channel
  line : Option (Line H.rtc)
  run : Option (Run H.quic)
  -- the peer connection, if there is one, and the relay
  closed : Bool
  stage : Stage

inductive DemoInput (H : Host) where
  | identified (result : Except String EndpointId)
  | connected (result : Except String Unit)
  | danced (fuel : Nat) (conn : H.rtc.PeerConnection) (arrivals : List (Except String Datagram))
      (answers : List (Except String Unit))
  | launched (draws : Run.Draws) (now : Instant)
  | ran (input : Input)

namespace Demo

variable {H : Host}

def begin (config : RunConfig) : Demo H where
  config := config
  printed := []
  identity := none
  peerArg := none
  line := none
  run := none
  closed := false
  stage := .starting

def fail (demo : Demo H) (error : String) : Demo H :=
  { demo with stage := .returned (.error error) }

def configured (hexDecode : String → Except String Bytes) (config : RunConfig) :
    Except String (Option EndpointId) :=
  match config.peer with
  | none => .ok none
  | some text => (parseEndpointId hexDecode text).map some

def identified (demo : Demo H) : Except String EndpointId → Demo H
  | .error error => demo.fail error
  | .ok id =>
      let demo := { demo with
        identity := some id, printed := [s!"endpoint-id {H.hexEncode id.bytes}"] }
      match configured H.hexDecode demo.config with
      | .error error => demo.fail error
      | .ok peerArg =>
          if demo.config.role = .client ∧ peerArg.isNone then
            demo.fail "the client role requires the server's endpoint id (peer)"
          else { demo with peerArg, stage := .connecting }

def connected (demo : Demo H) : Except String Unit → Demo H
  | .error error => demo.fail error
  | .ok () =>
      { demo with stage := if demo.config.transport = .webrtc then .dancing else .launching }

def connect (fuel : Nat) : Half → DanceAct H.rtc H.rtc.DataChannel
  | .client => connectOfferer fuel
  | .server => connectAnswerer fuel

def dance (demo : Demo H) (fuel : Nat) (conn : H.rtc.PeerConnection)
    (arrivals : List (Except String Datagram)) (answers : List (Except String Unit)) :
    Except Abort (Demo H) :=
  match connect fuel demo.config.role (.begin demo.peerArg conn arrivals answers) with
  | .error reason => .error reason
  | .ok (.error error, _) => .ok (demo.fail error)
  | .ok (.ok _, line) =>
      match line.peer with
      | none => .ok (demo.fail "signaling completed without a peer")
      | some _ => .ok { demo with line := some line, stage := .launching }

def wire (demo : Demo H) : Wire :=
  if demo.line.isSome then .channel else .relay demo.peerArg

def launch (demo : Demo H) (draws : Run.Draws) (now : Instant) : Demo H :=
  match Run.setup draws now demo.peerArg demo.config.endpointRole with
  | .error error => demo.fail error
  | .ok made =>
      { demo with
        run := some (Run.begin demo.config.endpointRole demo.wire now made), stage := .running }

/-- The peer the relay authenticated, or the one this process was given. -/
def expected (demo : Demo H) (run : Run H.quic) : Option EndpointId :=
  (demo.peerArg.or (demo.line.bind Line.peer)).or run.wire.peer

def conclude (demo : Demo H) (run : Run H.quic) (outcome : Outcome) : Demo H :=
  match demo.expected run with
  | none => demo.fail "finished without an expected peer identity"
  | some expected =>
      if outcome.peerId ≠ expected then
        demo.fail "authenticated peer key differs from the relay-authenticated one"
      else { demo with
        closed := true
        stage := .returned (.ok {
          endpointId := (demo.identity.map fun id => H.hexEncode id.bytes).getD ""
          peerId := H.hexEncode outcome.peerId.bytes
          handshakeMs := outcome.handshakeMs
          roundtripMs := outcome.roundtripMs
          received := outcome.received }) }

def resume (demo : Demo H) (run : Run H.quic) : Demo H :=
  let demo := { demo with run := some run }
  match run.phase with
  | .returned (.ok outcome) => demo.conclude run outcome
  | .returned (.error error) => demo.fail error
  | _ => demo

def step (demo : Demo H) : DemoInput H → Except Abort (Demo H)
  | .identified result =>
      match demo.stage with
      | .starting => .ok (demo.identified result)
      | _ => .error .disabled
  | .connected result =>
      match demo.stage with
      | .connecting => .ok (demo.connected result)
      | _ => .error .disabled
  | .danced fuel conn arrivals answers =>
      match demo.stage with
      | .dancing => demo.dance fuel conn arrivals answers
      | _ => .error .disabled
  | .launched draws now =>
      match demo.stage with
      | .launching => .ok (demo.launch draws now)
      | _ => .error .disabled
  | .ran input =>
      match demo.stage, demo.run with
      | .running, some run => (run.step input).map demo.resume
      | _, _ => .error .disabled

end Demo

def demo (H : Host) (config : RunConfig) : System (Demo H) (DemoInput H) Abort where
  Initial first := first = Demo.begin config
  step := Demo.step

end IrohEndpoint.Spike
