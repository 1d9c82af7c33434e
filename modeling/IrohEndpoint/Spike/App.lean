import IrohEndpoint.Foundation.Act
import IrohEndpoint.Pump

/-! # The application of the spike

The spike guest runs one QUIC connection over one wire and, over it, a scripted exchange:
the client sends a message on a stream and a datagram after it, the server sends both back.
`App` is that exchange, advanced by the events of the connection; what it calls of noq and
what noq answers is kept beside it in `records`, which no operation reads. -/

namespace IrohEndpoint.Spike

inductive ConnectionError where
  | applicationClosed (display : String)
  | other (display : String)
  deriving DecidableEq

/-- Application events. `stream` stands for every stream event but `Opened` and
`Readable`. -/
inductive Event where
  | handshakeDataReady
  | handshakeConfirmed
  | path
  | natTraversal
  | connected
  | opened (dir : Dir)
  | readable (id : StreamId)
  | stream
  | datagramReceived
  | datagramsUnblocked
  | connectionLost (reason : ConnectionError)
  deriving DecidableEq

/-- How `chunks.next` stopped giving chunks. -/
inductive ReadEnd where
  | finished
  | blocked
  | failed (display : String)
  deriving DecidableEq

/-- The answer to `recv_stream(id).read(true)`, then the chunks until there is none; `none`
for a stream already reset or fully read. -/
abbrev ReadAnswer := Option (List Bytes × ReadEnd)

/-- The mutating operations on a noq connection, each indexed by the type of its answer. -/
inductive ConnCall (EndpointEvent ConnectionEvent : Type) : Type → Type
  | pollEndpointEvents : ConnCall EndpointEvent ConnectionEvent (Option EndpointEvent)
  | handleEvent (event : ConnectionEvent) : ConnCall EndpointEvent ConnectionEvent Unit
  | poll : ConnCall EndpointEvent ConnectionEvent (Option Event)
  | pollTransmit (now : Instant) : ConnCall EndpointEvent ConnectionEvent (Option Bytes)
  | handleTimeout (now : Instant) : ConnCall EndpointEvent ConnectionEvent Unit
  | openStream (dir : Dir) : ConnCall EndpointEvent ConnectionEvent (Option StreamId)
  | acceptStream (dir : Dir) : ConnCall EndpointEvent ConnectionEvent (Option StreamId)
  | write (id : StreamId) (data : Bytes) :
      ConnCall EndpointEvent ConnectionEvent (Except String Nat)
  | finish (id : StreamId) : ConnCall EndpointEvent ConnectionEvent (Except String Unit)
  | read (id : StreamId) : ConnCall EndpointEvent ConnectionEvent ReadAnswer
  | sendDatagram (data : Bytes) :
      ConnCall EndpointEvent ConnectionEvent (Except String Unit)
  | recvDatagram : ConnCall EndpointEvent ConnectionEvent (Option Bytes)
  | close (now : Instant) (code : UInt32) (reason : Bytes) :
      ConnCall EndpointEvent ConnectionEvent Unit

inductive PeerIdentity where
  | none
  | unexpected
  | certificates (chain : List Bytes)

/-- What the spike guest calls and does not implement: noq-proto, the TLS and QUIC
configurations, and the text conversions of the standard library. -/
structure Platform where
  Endpoint : Type
  Connection : Type
  EndpointEvent : Type
  ConnectionEvent : Type
  Incoming : Type
  Tls : Type
  ClientConfig : Type
  ServerConfig : Type
  -- `noq_proto::Connection`
  call : {Answer : Type} → ConnCall EndpointEvent ConnectionEvent Answer →
    Connection → Answer × Connection
  isDrained : Connection → Bool
  pollTimeout : Connection → Option Instant
  peerIdentity : Connection → PeerIdentity
  networkPath : Connection → Option SocketAddr
  -- `noq_proto::Endpoint`, `new` with the reset key
  newEndpoint : Bytes → Option ServerConfig → Endpoint
  handle : Endpoint → Instant → SocketAddr → Bytes →
    Endpoint × Option (DatagramEvent ConnectionEvent Incoming)
  accept : Endpoint → Incoming → Instant →
    Endpoint × Except String (ConnectionHandle × Connection)
  connect : Endpoint → Instant → ClientConfig → SocketAddr →
    Endpoint × Except String (ConnectionHandle × Connection)
  handleEvent : Endpoint → ConnectionHandle → EndpointEvent →
    Endpoint × Option ConnectionEvent
  -- TLS and QUIC configurations, the latter with the token key
  clientTls : EndpointId → Except String Tls
  serverTls : Except String Tls
  quicClientConfig : Tls → Except String ClientConfig
  quicServerConfig : Tls → Bytes → Except String ServerConfig
  publicKeyFromEd25519Spki : Bytes → Option EndpointId
  -- `str::to_uppercase`, over the Unicode case tables
  toUppercase : String → String

variable {P : Platform}

def asBytes (text : String) : Bytes := text.toUTF8.data.toList

theorem fromUtf8Lossy_asBytes (text : String) : fromUtf8Lossy (asBytes text) = text :=
  Utf8.lossy_toUTF8 text

/-- A duration in whole milliseconds, as a `u64`. -/
def asMillis (elapsed : Nat) : UInt64 := UInt64.ofNat (elapsed / 1000000)

/-- The authenticated peer identity: the Ed25519 key inside the one SPKI that a
raw-public-key certificate chain is. -/
def peerEndpointId (conn : P.Connection) : Except String EndpointId :=
  match P.peerIdentity conn with
  | .none => .error "peer presented no identity"
  | .unexpected => .error "unexpected peer identity type"
  | .certificates chain =>
      match chain.head? with
      | none => .error "empty peer certificate list"
      | some spki =>
          match P.publicKeyFromEd25519Spki spki with
          | none => .error "peer key is not Ed25519"
          | some id => .ok id

/-! ## The state -/

inductive Role where
  | client (message : String)
  | server
  deriving DecidableEq

structure App where
  role : Role
  handshakeMs : Option UInt64
  peerId : Option EndpointId
  stream : Option StreamId
  inbound : Bytes
  -- client: when the message was sent
  sentAt : Option Instant
  roundtripMs : UInt64
  received : Option String
  -- client: whether the datagram copies went out, and their echo
  datagramSent : Bool
  datagramReceived : Option Bytes
  -- nothing left to do but flush and leave
  doneAt : Option Instant
  closeSent : Bool
  deriving DecidableEq

def App.new (role : Role) : App where
  role := role
  handshakeMs := none
  peerId := none
  stream := none
  inbound := []
  sentAt := none
  roundtripMs := 0
  received := none
  datagramSent := false
  datagramReceived := none
  doneAt := none
  closeSent := false

structure Outcome where
  peerId : EndpointId
  handshakeMs : UInt64
  roundtripMs : UInt64
  received : String
  deriving DecidableEq

/-- One use of the connection by the application, with noq's answer. -/
inductive Record where
  | polled (event : Event)
  | opened (answer : Option StreamId)
  | accepted (answer : Option StreamId)
  | wrote (id : StreamId) (data : Bytes) (answer : Except String Nat)
  | finished (id : StreamId) (answer : Except String Unit)
  | read (id : StreamId) (answer : ReadAnswer)
  | sent (data : Bytes) (answer : Except String Unit)
  | got (answer : Option Bytes)
  | closed (code : UInt32) (reason : Bytes)
  deriving DecidableEq

/-- The record a call leaves; the calls of the packet path leave none. -/
def ConnCall.record {EndpointEvent ConnectionEvent : Type} : {Answer : Type} →
    ConnCall EndpointEvent ConnectionEvent Answer → Answer → List Record
  | _, .poll, answer => (answer.map .polled).toList
  | _, .openStream _, answer => [.opened answer]
  | _, .acceptStream _, answer => [.accepted answer]
  | _, .write id data, answer => [.wrote id data answer]
  | _, .finish id, answer => [.finished id answer]
  | _, .read id, answer => [.read id answer]
  | _, .sendDatagram data, answer => [.sent data answer]
  | _, .recvDatagram, answer => [.got answer]
  | _, .close _ code reason, _ => [.closed code reason]
  | _, .pollEndpointEvents, _ => []
  | _, .handleEvent _, _ => []
  | _, .pollTransmit _, _ => []
  | _, .handleTimeout _, _ => []

structure Side (P : Platform) where
  app : App
  conn : P.Connection
  records : List Record

abbrev AppAct (P : Platform) := Act Abort String (Side P)

def Side.call {Answer : Type} (side : Side P)
    (operation : ConnCall P.EndpointEvent P.ConnectionEvent Answer) : Answer × Side P :=
  let (answer, conn) := P.call operation side.conn
  (answer, { side with conn, records := side.records ++ operation.record answer })

def call {Answer : Type} (operation : ConnCall P.EndpointEvent P.ConnectionEvent Answer) :
    AppAct P Answer :=
  .perform fun side => side.call operation

def setApp (change : App → App) : AppAct P Unit :=
  .update fun side => { side with app := change side.app }

/-! ## The operations -/

def datagramCopies : Nat := 3

def datagramFor (message : String) : Bytes := asBytes s!"datagram {message}"

/-- Write `data` whole on a stream and finish it, with the errors of the caller. -/
def submit (writing short finishing : String) (id : StreamId) (data : Bytes) :
    AppAct P Unit := do
  match ← call (.write id data) with
  | .error error => .throw s!"{writing}: {error}"
  | .ok wrote =>
      if wrote ≠ data.length then .throw short
      else
        match ← call (.finish id) with
        | .error error => .throw s!"{finishing}: {error}"
        | .ok () => pure ()

/-- Send `copies` copies of a datagram. -/
def sendCopies (sending : String) (payload : Bytes) : Nat → AppAct P Unit
  | 0 => pure ()
  | copies + 1 => do
      match ← call (.sendDatagram payload) with
      | .error error => .throw s!"{sending}: {error}"
      | .ok () => sendCopies sending payload copies

def fullyRead (now : Instant) (id : StreamId) : AppAct P Unit := do
  let text ← .view fun side => fromUtf8Lossy side.app.inbound
  setApp fun app => { app with received := some text }
  match ← .view fun side => side.app.role with
  | .client _ =>
      setApp fun app =>
        { app with roundtripMs := (app.sentAt.map fun at_ => asMillis (now - at_)).getD 0 }
  | .server =>
      submit "echo write" "echo did not fit the stream window" "echo finish" id
        (asBytes (P.toUppercase text))

/-- Read whatever is available on `id`. -/
def readStream (now : Instant) (id : StreamId) : AppAct P Unit := do
  match ← call (.read id) with
  | none => pure ()
  | some (chunks, ending) => do
      setApp fun app => { app with inbound := app.inbound ++ chunks.flatten }
      match ending with
      | .failed error => .throw s!"stream read: {error}"
      | .blocked => pure ()
      | .finished => fullyRead now id

/-- One round of the datagram loop: the client expects the echo of its own datagram, the
server echoes what it gets. -/
def datagramRound : AppAct P Bool := do
  match ← call .recvDatagram with
  | none => pure false
  | some bytes =>
      match ← .view fun side => side.app.role with
      | .client message =>
          if bytes ≠ datagramFor message then
            .throw (s!"datagram echo mismatch: expected {(datagramFor message).length} bytes, " ++
              s!"got {bytes.length}")
          else do
            setApp fun app => { app with datagramReceived := some bytes }
            pure true
      | .server => do
          sendCopies "datagram echo" bytes datagramCopies
          pure true

def greet (now : Instant) (message : String) : AppAct P Unit := do
  match ← call (.openStream .bi) with
  | none => .throw "no bidirectional stream credit"
  | some id => do
      setApp fun app => { app with stream := some id }
      submit "stream write" "demo message did not fit the stream window" "stream finish" id
        (asBytes message)
      setApp fun app => { app with sentAt := some now }

def handleEvent (fuel : Nat) (started now : Instant) : Event → AppAct P Unit
  | .handshakeDataReady | .handshakeConfirmed => pure ()
  | .path | .natTraversal => pure ()
  | .connected => do
      setApp fun app => { app with handshakeMs := some (asMillis (now - started)) }
      let peer ← .ofExcept (← .view fun side => peerEndpointId side.conn)
      setApp fun app => { app with peerId := some peer }
      match ← .view fun side => side.app.role with
      | .client message => greet now message
      | .server => pure ()
  | .opened .bi => do
      let waits ← .view fun side => decide (side.app.role = .server) && side.app.stream.isNone
      if waits then
        let stream ← call (.acceptStream .bi)
        setApp fun app => { app with stream }
        -- data that arrived before the accept raises no `Readable`
        match stream with
        | some id => readStream now id
        | none => pure ()
      else pure ()
  | .readable id => do
      let ours ← .view fun side => decide (side.app.stream = some id)
      if ours then readStream now id else pure ()
  | .opened .uni | .stream => pure ()
  | .datagramReceived => .loop .outOfFuel datagramRound fuel
  | .datagramsUnblocked => pure ()
  | .connectionLost reason => do
      match reason, ← .view fun side => side.app.received with
      | .applicationClosed _, some _ =>
          setApp fun app => { app with doneAt := some (app.doneAt.getD now) }
      | .applicationClosed display, none => .throw s!"connection lost: {display}"
      | .other display, _ => .throw s!"connection lost: {display}"

def sendDatagramOnce (message : String) : AppAct P Unit := do
  if ← .view fun side => side.app.received.isSome && !side.app.datagramSent then
    sendCopies "datagram send" (datagramFor message) datagramCopies
    setApp fun app => { app with datagramSent := true }

def closeOnce (now : Instant) : AppAct P Unit := do
  if ← .view fun side => side.app.datagramReceived.isSome && !side.app.closeSent then
    call (.close now 0 (asBytes "done"))
    setApp fun app => { app with closeSent := true, doneAt := some now }

def drive (now : Instant) : AppAct P Unit := do
  match ← .view fun side => side.app.role with
  | .server => pure ()
  | .client message => do
      sendDatagramOnce message
      closeOnce now

def App.finish (app : App) : Except String Outcome :=
  match app.peerId, app.handshakeMs, app.received with
  | none, _, _ => .error "finished without a peer identity"
  | some _, none, _ => .error "finished without a handshake"
  | some _, some _, none => .error "finished without a payload"
  | some peerId, some handshakeMs, some received =>
      .ok ⟨peerId, handshakeMs, app.roundtripMs, received⟩

end IrohEndpoint.Spike
