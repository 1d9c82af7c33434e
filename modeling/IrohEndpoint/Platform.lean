import IrohEndpoint.Types

/-! # The platform

What the endpoint calls and does not implement: the noq-proto QUIC state
machines, the raw-public-key TLS helpers and the JSON codec of the signals. A
platform is a parameter of the whole development; every property that relies on
its behaviour names what it relies on. -/

namespace IrohEndpoint

abbrev ConnectionHandle := Nat

abbrev StreamId := Nat

inductive Dir where
  | bi
  | uni
  deriving DecidableEq, Repr

inductive ConnectionError where
  | applicationClosed
  | locallyClosed
  | other (display : String)
  deriving DecidableEq, Repr

/-- Application events. `stream` stands for every stream event but `Opened`. -/
inductive Event where
  | handshakeDataReady
  | handshakeConfirmed
  | path
  | natTraversal
  | connected
  | streamOpened
  | stream
  | datagramReceived
  | datagramsUnblocked
  | connectionLost (reason : ConnectionError)
  deriving DecidableEq, Repr

inductive WriteError where
  | blocked
  | stopped (code : Nat)
  | closedStream
  deriving DecidableEq, Repr

inductive FinishError where
  | stopped (code : Nat)
  | closedStream
  deriving DecidableEq, Repr

inductive SendDatagramError where
  | tooLarge
  | unsupportedByPeer
  | other (display : String)
  deriving DecidableEq, Repr

inductive ReadableError where
  | closedStream
  | illegalOrderedRead
  deriving DecidableEq, Repr

inductive ReadError where
  | blocked
  | reset (code : Nat)
  deriving DecidableEq, Repr

/-- The answer to `recv_stream(id).read(true)` followed by `chunks.next(max)`. -/
abbrev ReadAnswer := Except ReadableError (Except ReadError (Option Bytes))

structure Transmit where
  destination : SocketAddr
  datagram : Bytes
  deriving DecidableEq, Repr

/-- The mutating operations on one noq connection, each indexed by the type of
its answer. -/
inductive ConnCall (EndpointEvent ConnectionEvent : Type) : Type → Type
  | pollEndpointEvents : ConnCall EndpointEvent ConnectionEvent (Option EndpointEvent)
  | handleEvent (event : ConnectionEvent) : ConnCall EndpointEvent ConnectionEvent Unit
  | poll : ConnCall EndpointEvent ConnectionEvent (Option Event)
  | pollTransmit (now : Instant) :
      ConnCall EndpointEvent ConnectionEvent (Option Transmit)
  | handleTimeout (now : Instant) : ConnCall EndpointEvent ConnectionEvent Unit
  | close (now : Instant) (code : UInt32) (reason : Bytes) :
      ConnCall EndpointEvent ConnectionEvent Unit
  | openStream (dir : Dir) : ConnCall EndpointEvent ConnectionEvent (Option StreamId)
  | acceptStream (dir : Dir) : ConnCall EndpointEvent ConnectionEvent (Option StreamId)
  | sendDatagram (data : Bytes) :
      ConnCall EndpointEvent ConnectionEvent (Except SendDatagramError Unit)
  | recvDatagram : ConnCall EndpointEvent ConnectionEvent (Option Bytes)
  | write (id : StreamId) (data : Bytes) :
      ConnCall EndpointEvent ConnectionEvent (Except WriteError Nat)
  | finish (id : StreamId) :
      ConnCall EndpointEvent ConnectionEvent (Except FinishError Unit)
  | reset (id : StreamId) (code : UInt32) : ConnCall EndpointEvent ConnectionEvent Unit
  | read (id : StreamId) (max : Nat) : ConnCall EndpointEvent ConnectionEvent ReadAnswer
  | stop (id : StreamId) (code : UInt32) : ConnCall EndpointEvent ConnectionEvent Unit

inductive DatagramEvent (ConnectionEvent Incoming : Type) where
  | connectionEvent (handle : ConnectionHandle) (event : ConnectionEvent)
  | newConnection (incoming : Incoming)
  | response (payload : Bytes)

inductive Signal where
  | offer (sdp : String)
  | answer (sdp : String)
  | candidate (candidate : String) (sdpMid : Option String)
      (sdpMlineIndex : Option UInt16)
  | endOfCandidates
  | done
  deriving DecidableEq, Repr

structure Platform where
  Endpoint : Type
  Connection : Type
  EndpointEvent : Type
  ConnectionEvent : Type
  Incoming : Type
  ClientConfig : Type
  -- `noq_proto::Connection`
  call : {Answer : Type} → ConnCall EndpointEvent ConnectionEvent Answer →
    Connection → Answer × Connection
  isDrained : Connection → Bool
  pollTimeout : Connection → Option Instant
  -- `HandshakeData::protocol`, once the handshake data is there
  handshakeProtocol : Connection → Option (Option Bytes)
  peerCertificates : Connection → Option (List Bytes)
  networkPath : Connection → Option SocketAddr
  -- `noq_proto::Endpoint`
  handle : Endpoint → Instant → SocketAddr → Bytes →
    Endpoint × Option (DatagramEvent ConnectionEvent Incoming)
  accept : Endpoint → Incoming → Instant →
    Endpoint × Except (Option Bytes) (ConnectionHandle × Connection)
  connect : Endpoint → Instant → ClientConfig → SocketAddr →
    Endpoint × Except String (ConnectionHandle × Connection)
  handleEvent : Endpoint → ConnectionHandle → EndpointEvent →
    Endpoint × Option ConnectionEvent
  -- TLS
  publicKeyFromEd25519Spki : Bytes → Option EndpointId
  clientConfig : EndpointId → Bytes → Except String ClientConfig
  -- `serde_json`
  encodeSignal : Signal → Except String Bytes
  decodeSignal : Bytes → Option Signal

namespace Platform

variable (P : Platform)

def Touches (before after : P.Connection) : Prop :=
  ∃ (Answer : Type) (operation : ConnCall P.EndpointEvent P.ConnectionEvent Answer),
    after = (P.call operation before).2

def Creates (connection : P.Connection) : Prop :=
  (∃ noq incoming now handle, (P.accept noq incoming now).2 = .ok (handle, connection)) ∨
  (∃ noq now config remote handle,
    (P.connect noq now config remote).2 = .ok (handle, connection))

def endpointIdFromSpki (spki : Bytes) : Option EndpointId :=
  P.publicKeyFromEd25519Spki spki

def tlsPeer (connection : P.Connection) : Option EndpointId := do
  let certificates ← P.peerCertificates connection
  let first ← certificates.head?
  P.endpointIdFromSpki first

end Platform

end IrohEndpoint
