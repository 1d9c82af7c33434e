import IrohEndpoint.Session
import IrohEndpoint.Spike.Wires

/-! # The signaling of the spike

A data channel is made by a dance of offer, answer and candidates, each one signal in a
datagram of the relay. `Line` is one side's signaling: its peer, how the relay's receives
and sends will resolve, and the peer connection the dance works on. -/

namespace IrohEndpoint.Spike

inductive SdpType where
  | offer
  | answer
  deriving DecidableEq

structure SessionDescription where
  kind : SdpType
  sdp : String
  deriving DecidableEq

structure DataChannelOptions where
  label : String
  ordered : Bool
  maxRetransmits : Option UInt16
  deriving DecidableEq

inductive StreamResult where
  | complete
  | dropped
  | cancelled
  deriving DecidableEq

def StreamResult.ended : StreamResult → Bool
  | .complete => false
  | .dropped | .cancelled => true

/-- What the dance asks of a peer connection and of the streams it gives out, each indexed
by the type of its answer. -/
inductive PeerCall (DataChannel : Type) : Type → Type
  | createDataChannel (options : DataChannelOptions) :
      PeerCall DataChannel (Except String DataChannel)
  | createOffer : PeerCall DataChannel (Except String SessionDescription)
  | createAnswer : PeerCall DataChannel (Except String SessionDescription)
  | setLocalDescription (description : SessionDescription) :
      PeerCall DataChannel (Except String Unit)
  | setRemoteDescription (description : SessionDescription) :
      PeerCall DataChannel (Except String Unit)
  | addIceCandidate (candidate : IceCandidate) : PeerCall DataChannel (Except String Unit)
  | waitConnected : PeerCall DataChannel (Except String Unit)
  | readCandidates : PeerCall DataChannel (StreamResult × List IceCandidate)
  | readStates : PeerCall DataChannel (StreamResult × List DataChannelState)
  | readIncoming : PeerCall DataChannel (StreamResult × List DataChannel)

/-- What the dance calls and does not implement: the peer connection, and the JSON codec of
the signals. -/
structure Rtc where
  PeerConnection : Type
  DataChannel : Type
  call : {Answer : Type} → PeerCall DataChannel Answer → PeerConnection → Answer × PeerConnection
  encodeSignal : Signal → Except String Bytes
  decodeSignal : Bytes → Except String Signal
  debugSignal : Option Signal → String

/-- What a peer connection was told of either side, with its answer. -/
inductive PeerRecord where
  | setLocal (description : SessionDescription) (answer : Except String Unit)
  | setRemote (description : SessionDescription) (answer : Except String Unit)
  | added (candidate : IceCandidate) (answer : Except String Unit)
  | gathered (batch : List IceCandidate)
  deriving DecidableEq

def PeerCall.record {DataChannel : Type} : {Answer : Type} → PeerCall DataChannel Answer →
    Answer → List PeerRecord
  | _, .setLocalDescription description, answer => [.setLocal description answer]
  | _, .setRemoteDescription description, answer => [.setRemote description answer]
  | _, .addIceCandidate candidate, answer => [.added candidate answer]
  | _, .readCandidates, answer => [.gathered answer.2]
  | _, .createDataChannel _, _ => []
  | _, .createOffer, _ => []
  | _, .createAnswer, _ => []
  | _, .waitConnected, _ => []
  | _, .readStates, _ => []
  | _, .readIncoming, _ => []

/-- The signaling of one side. A receive or a send that the relay has no answer for has
not resolved. -/
structure Line (R : Rtc) where
  -- preset on the client, learned on the server
  peer : Option EndpointId
  arrivals : List (Except String Datagram)
  answers : List (Except String Unit)
  conn : R.PeerConnection
  -- read by no operation
  heard : List Datagram
  sent : List (EndpointId × Bytes)
  records : List PeerRecord

abbrev DanceAct (R : Rtc) := Act Abort String (Line R)

variable {R : Rtc}

/-- A line with `peer`, before anything went over it. -/
def Line.begin (peer : Option EndpointId) (conn : R.PeerConnection)
    (arrivals : List (Except String Datagram)) (answers : List (Except String Unit)) :
    Line R where
  peer := peer
  arrivals := arrivals
  answers := answers
  conn := conn
  heard := []
  sent := []
  records := []

/-! ## The relay and the peer connection -/

def recvDatagram : DanceAct R Datagram := fun line =>
  match line.arrivals with
  | [] => .error .disabled
  | .error error :: arrivals => .ok (.error error, { line with arrivals })
  | .ok datagram :: arrivals =>
      .ok (.ok datagram, { line with arrivals, heard := line.heard ++ [datagram] })

def sendDatagram (peer : EndpointId) (payload : Bytes) : DanceAct R Unit := fun line =>
  match line.answers with
  | [] => .error .disabled
  | answer :: answers =>
      .ok (answer, { line with answers, sent := line.sent ++ [(peer, payload)] })

def ask {Answer : Type} (operation : PeerCall R.DataChannel Answer) : DanceAct R Answer :=
  .perform fun line =>
    let (answer, conn) := R.call operation line.conn
    (answer, { line with conn, records := line.records ++ operation.record answer })

/-- `map_err(rtc)?` -/
def askRtc {Value : Type} (operation : PeerCall R.DataChannel (Except String Value)) :
    DanceAct R Value := do
  match ← ask operation with
  | .error error => .throw s!"webrtc: {error}"
  | .ok value => pure value

/-! ## Signals -/

def publish (signal : Signal) : DanceAct R Unit := do
  match ← .view fun line => line.peer with
  | none => .throw "no signaling peer yet"
  | some peer =>
      match R.encodeSignal signal with
      | .error error => .throw s!"encode signal: {error}"
      | .ok json => sendDatagram peer (signalPrefix :: json)

/-- Whether a datagram of `source` is the peer's; whoever is first becomes the peer. -/
def admitSource (source : EndpointId) : DanceAct R Bool :=
  .perform fun line =>
    let (peer, taken) := Pinning.accept line.peer source
    (taken, { line with peer })

/-- The peer's next signal; `none` once the peer sends `done`. -/
def recv : Nat → DanceAct R (Option Signal)
  | 0 => .abort .outOfFuel
  | fuel + 1 => do
      let datagram ← recvDatagram
      if ← admitSource datagram.source then
        match datagram.payload with
        | [] => recv fuel
        | first :: json =>
            if first ≠ signalPrefix then recv fuel
            else
              match R.decodeSignal json with
              | .error error => .throw s!"decode signal: {error}"
              | .ok .done => pure none
              | .ok signal => pure (some signal)
      else recv fuel

/-! ## The dance -/

def gather : Nat → List IceCandidate → DanceAct R (List IceCandidate)
  | 0, _ => .abort .outOfFuel
  | fuel + 1, candidates => do
      let (status, batch) ← ask .readCandidates
      let candidates := candidates ++ batch
      if status.ended then pure candidates else gather fuel candidates

def candidateSignal (candidate : IceCandidate) : Signal :=
  .candidate candidate.candidate candidate.sdpMid candidate.sdpMlineIndex

def publishAll : List Signal → DanceAct R Unit
  | [] => pure ()
  | signal :: signals => do
      publish signal
      publishAll signals

def publishCandidates (fuel : Nat) : DanceAct R Unit := do
  let candidates ← gather fuel []
  publishAll (candidates.map candidateSignal)
  publish .endOfCandidates

/-- One round of `while let Some(signal) = signaling.recv()`. -/
def consumeRound (fuel : Nat) : DanceAct R Bool := do
  match ← recv fuel with
  | none => pure false
  | some (.answer sdp) => do
      askRtc (.setRemoteDescription ⟨.answer, sdp⟩)
      pure true
  | some (.offer _) => .throw "unexpected second offer"
  | some (.candidate candidate sdpMid sdpMlineIndex) => do
      askRtc (.addIceCandidate ⟨candidate, sdpMid, sdpMlineIndex⟩)
      pure true
  | some .endOfCandidates => pure true
  | some .done => .abort (.panic "recv maps done to none")

/-- Consume the peer's signals to its `done`. -/
def consumeSignaling (fuel : Nat) : DanceAct R Unit :=
  .loop .outOfFuel (consumeRound fuel) fuel

/-- Wait for the channel's `open`. -/
def awaitOpen : Nat → DanceAct R Unit
  | 0 => .abort .outOfFuel
  | fuel + 1 => do
      let (status, batch) ← ask .readStates
      if .open ∈ batch then pure ()
      else if .closed ∈ batch ∨ status.ended then .throw "data channel closed before opening"
      else awaitOpen fuel

def quicChannelOptions : DataChannelOptions := ⟨"quic", false, some 0⟩

/-- Offerer half: create the channel, and return it once it is open. -/
def connectOfferer (fuel : Nat) : DanceAct R R.DataChannel := do
  let channel ← askRtc (.createDataChannel quicChannelOptions)
  let offer ← askRtc .createOffer
  askRtc (.setLocalDescription offer)
  publish (.offer offer.sdp)
  publishCandidates fuel
  publish .done
  consumeSignaling fuel
  askRtc .waitConnected
  awaitOpen fuel
  pure channel

/-- Answerer half: adopt the offer, answer, and take the channel the offerer created. -/
def connectAnswerer (fuel : Nat) : DanceAct R R.DataChannel := do
  match ← recv fuel with
  | some (.offer sdp) => do
      askRtc (.setRemoteDescription ⟨.offer, sdp⟩)
      let answer ← askRtc .createAnswer
      askRtc (.setLocalDescription answer)
      publish (.answer answer.sdp)
      publishCandidates fuel
      publish .done
      consumeSignaling fuel
      askRtc .waitConnected
      let (_, batch) ← ask .readIncoming
      match batch with
      | [] => .throw "no incoming data channel"
      | channel :: _ => pure channel
  | other => .throw s!"expected offer, got {R.debugSignal other}"

end IrohEndpoint.Spike
