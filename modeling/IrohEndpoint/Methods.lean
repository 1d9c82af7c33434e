import IrohEndpoint.Drain

/-! # Resource methods

The bodies of the connection and stream methods. An asynchronous method polls a
check until it produces a value; each check here is one such poll, on the entry
its resource looks up by handle. -/

namespace IrohEndpoint

variable {P : Platform}

namespace ConnEntry

/-- `connect`'s wait for the handshake. -/
def connectCheck (entry : ConnEntry P) : Option (Except Error Unit) :=
  match entry.error with
  | some error => some (.error error)
  | none => if entry.connected then some (.ok ()) else none

def openStreamCheck (entry : ConnEntry P) (dir : Dir) :
    Option (Except Error StreamId) × ConnEntry P :=
  match entry.error with
  | some error => (some (.error error), entry)
  | none =>
      let (opened, entry) := entry.call (.openStream dir)
      (opened.map .ok, entry)

def queue (entry : ConnEntry P) : Dir → List StreamId
  | .bi => entry.biQueue
  | .uni => entry.uniQueue

def setQueue (entry : ConnEntry P) (dir : Dir) (queue : List StreamId) : ConnEntry P :=
  match dir with
  | .bi => { entry with biQueue := queue }
  | .uni => { entry with uniQueue := queue }

def acceptStreamCheck (entry : ConnEntry P) (dir : Dir) :
    Option (Except Error StreamId) × ConnEntry P :=
  match entry.queue dir with
  | id :: rest => (some (.ok id), entry.setQueue dir rest)
  | [] => (entry.error.map .error, entry)

def recvDatagramCheck (entry : ConnEntry P) :
    Option (Except Error Bytes) × ConnEntry P :=
  match entry.call .recvDatagram with
  | (some bytes, entry) => (some (.ok bytes), entry)
  | (none, entry) => (entry.error.map .error, entry)

def waitClosedCheck (entry : ConnEntry P) : Option Unit :=
  if entry.drained || entry.error.isSome then some () else none

/-- The variables of `write_all`'s inner loop; `result` is set when it returns. -/
structure WriteLoop (P : Platform) where
  entry : ConnEntry P
  offset : Nat
  result : Option (Option (Except Error Unit))

def writeRound (id : StreamId) (bytes : Bytes) (loop : WriteLoop P) :
    Except Abort (WriteLoop P × Bool) :=
  if bytes.length < loop.offset then .error (.panic "range start index out of range")
  else
    let slice := bytes.drop loop.offset
    let (answer, entry) := loop.entry.call (.write id slice)
    let entry := entry.record (.write id slice answer)
    match answer with
    | .ok written =>
        let offset := loop.offset + written
        if offset = bytes.length then .ok (⟨entry, offset, some (some (.ok ()))⟩, false)
        else if written = 0 then .ok (⟨entry, offset, some none⟩, false)
        else .ok (⟨entry, offset, none⟩, true)
    | .error .blocked => .ok (⟨entry, loop.offset, some none⟩, false)
    | .error (.stopped code) =>
        .ok (⟨entry, loop.offset, some (some (.error (.reset (toString code))))⟩, false)
    | .error .closedStream =>
        .ok (⟨entry, loop.offset, some (some (.error .closed))⟩, false)

/-- One poll of `write_all` from `offset`: its answer, the new offset and the
entry. Every round but the last accepts a byte, which bounds the rounds. -/
def writeAllCheck (entry : ConnEntry P) (id : StreamId) (bytes : Bytes)
    (offset : Nat) : Except Abort (Option (Except Error Unit) × Nat × ConnEntry P) :=
  match entry.error with
  | some error => .ok (some (.error error), offset, entry)
  | none => do
      let loop ← whileLoop .outOfFuel (writeRound id bytes) (bytes.length + 1)
        ⟨entry, offset, none⟩
      .ok (loop.result.join, loop.offset, loop.entry)

/-- The value a poll of `read_some` makes of noq's answer. -/
def readResult : ReadAnswer → Option (Except Error (Option Bytes))
  | .error .closedStream => some (.ok none)
  | .error .illegalOrderedRead => some (.error (.other "illegal ordered read"))
  | .ok (.ok (some chunk)) => some (.ok (some chunk))
  | .ok (.ok none) => some (.ok none)
  | .ok (.error .blocked) => none
  | .ok (.error (.reset code)) => some (.error (.reset (toString code)))

/-- One poll of `read_some`. -/
def readSomeCheck (entry : ConnEntry P) (id : StreamId) (max : Nat)
    (reader : StreamReader) :
    Option (Except Error (Option Bytes)) × ConnEntry P :=
  match entry.error with
  | some error =>
      -- A cleanly closed connection still ends streams cleanly.
      let result : Option (Except Error (Option Bytes)) :=
        if error = .closed then some (.ok none) else some (.error error)
      (result, entry.record (.read id reader (some error) none result))
  | none =>
      let (answer, entry) := entry.call (.read id max)
      let result := readResult answer
      (result, entry.record (.read id reader none (some answer) result))

def sendDatagram (entry : ConnEntry P) (data : Bytes) : Except Error Unit × ConnEntry P :=
  match entry.error with
  | some error => (.error error, entry)
  | none =>
      match entry.call (.sendDatagram data) with
      | (.ok (), entry) => (.ok (), entry)
      | (.error .tooLarge, entry) =>
          (.error (.invalidArgument "datagram exceeds max-datagram-size"), entry)
      | (.error .unsupportedByPeer, entry) =>
          (.error (.invalidArgument "peer does not accept datagrams"), entry)
      | (.error (.other display), entry) =>
          (.error (.other s!"send-datagram: {display}"), entry)

def close (entry : ConnEntry P) (now : Instant) (code : UInt32) (reason : Bytes) :
    ConnEntry P :=
  if entry.error.isNone && !entry.drained then (entry.call (.close now code reason)).2
  else entry

def finish (entry : ConnEntry P) (id : StreamId) : Except Error Unit × ConnEntry P :=
  match entry.error with
  | some error => (.error error, entry)
  | none =>
      let (answer, entry) := entry.call (.finish id)
      let entry := entry.record (.finish id answer)
      match answer with
      | .ok () => (.ok (), entry)
      | .error (.stopped code) => (.error (.reset (toString code)), entry)
      | .error .closedStream => (.error .closed, entry)

def reset (entry : ConnEntry P) (id : StreamId) (code : UInt32) : ConnEntry P :=
  (entry.call (.reset id code)).2.record (.reset id)

def stop (entry : ConnEntry P) (id : StreamId) (code : UInt32) : ConnEntry P :=
  (entry.call (.stop id code)).2.record (.stop id)

/-! ## Getters -/

def peerBytes (entry : ConnEntry P) : Bytes :=
  match entry.peer with
  | some id => id.bytes
  | none => []

def connectionState (entry : ConnEntry P) : ConnectionState :=
  if entry.isClosed then .closed
  else if entry.connected then .open
  else .connecting

end ConnEntry

namespace State

/-- `with_entry`: a missing entry traps. -/
def withEntry {α : Type} (state : State P) (handle : ConnectionHandle)
    (access : ConnEntry P → Except Abort (α × ConnEntry P)) :
    Except Abort (α × State P) :=
  match state.conns.get? handle with
  | none => .error (.panic "connection entry")
  | some entry => do
      let (value, entry) ← access entry
      .ok (value, { state with conns := state.conns.set handle entry })

def path (state : State P) (handle : ConnectionHandle) : PathKind :=
  match state.conns.get? handle with
  | none => .relay
  | some entry =>
      match P.networkPath entry.conn with
      | none => .relay
      | some remote =>
          match state.routes.get? remote with
          | some (.channel _) => .webrtc
          | some (.relay _) => .relay
          | none => .ip

/-- `accept`'s poll. -/
def acceptCheck (state : State P) : Option (Except Error AcceptItem) × State P :=
  match state.acceptQueue with
  | item :: rest => (some (.ok item), { state with acceptQueue := rest })
  | [] =>
      if state.dead.isSome || state.closed then (some (.error .closed), state)
      else (none, state)

end State

end IrohEndpoint
