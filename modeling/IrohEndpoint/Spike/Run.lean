import IrohEndpoint.Foundation.Execution
import IrohEndpoint.Foundation.Pinning
import IrohEndpoint.Spike.App

/-! # One run of the spike endpoint

`run` is one task. A phase is a suspension point of it, and an input is what resumes it
there: the resolution of a send, of the one receive in flight or of the tick. Every exit
of its loop goes through the teardown, which resolves both before the task returns. -/

namespace IrohEndpoint.Spike

/-! ## The wire -/

inductive ChannelMessage where
  | binary (datagram : Bytes)
  | string (text : String)
  deriving DecidableEq

inductive Arrived where
  | channel (result : Except String ChannelMessage)
  | relay (result : Except String Datagram)
  deriving DecidableEq

def Arrived.datagrams : Arrived → List Datagram
  | .relay (.ok datagram) => [datagram]
  | _ => []

/-- The datagram wire. A client sets the peer of a relay wire up front; a server learns it
from the first datagram. -/
inductive Wire where
  | channel
  | relay (peer : Option EndpointId)
  deriving DecidableEq

namespace Wire

/-- The next inbound datagram, `none` for a frame that is not one. What no receive of this
carrier resolves to is no arrival. -/
def receive : Wire → Arrived → Option (Except String (Option Bytes) × Wire)
  | .channel, .channel (.ok (.binary datagram)) => some (.ok (some datagram), .channel)
  | .channel, .channel (.ok (.string _)) => some (.ok none, .channel)
  | .channel, .channel (.error error) => some (.error s!"data channel: {error}", .channel)
  | .relay peer, .relay (.error error) => some (.error error, .relay peer)
  | .relay peer, .relay (.ok datagram) =>
      let (peer, taken) := Pinning.accept peer datagram.source
      some (.ok (if taken then some datagram.payload else none), .relay peer)
  | _, _ => none

/-- Where a packet goes: nowhere in particular on a channel, to the peer of a relay wire. -/
def target : Wire → Except String (Option EndpointId)
  | .channel => .ok none
  | .relay none => .error "relay wire has no peer yet"
  | .relay (some peer) => .ok (some peer)

def sendError : Wire → String → String
  | .channel, error => s!"data channel: {error}"
  | .relay _, error => error

def peer : Wire → Option EndpointId
  | .channel => none
  | .relay peer => peer

end Wire

/-! ## The state -/

def clientAddr : SocketAddr := .v4 ⟨10, 0, 0, 1⟩ 1111

def serverAddr : SocketAddr := .v4 ⟨10, 0, 0, 2⟩ 4433

def runDeadline : Nat := 30000000000

inductive Phase where
  | starting
  -- awaiting the send of a transmit, or of a response of noq's endpoint
  | sending
  | responding
  | selecting
  -- after the loop: resolve the receive, then the tick
  | closing (outcome : Except String Outcome)
  | ticking (outcome : Except String Outcome)
  | returned (outcome : Except String Outcome)
  deriving DecidableEq

/-- What went over the wire: the datagrams a relay brought to the loop and, later, to the
teardown, those handed to noq, and the packets with where they went. -/
structure Traffic where
  arrived : List Datagram
  late : List Datagram
  handed : List Bytes
  sent : List (Except String (Option EndpointId) × Bytes)
  deriving DecidableEq

structure Run (P : Platform) where
  endpoint : P.Endpoint
  connection : Option (ConnectionHandle × P.Connection)
  app : App
  records : List Record
  wire : Wire
  wireClosed : Bool
  started : Instant
  clock : Instant
  -- the drain loop's own variable
  progressed : Bool
  -- the two imports, until they are terminated
  recv : Bool
  tick : Bool
  phase : Phase
  -- read by no operation
  traffic : Traffic

inductive Input where
  | advance (elapsed : Nat)
  | start (fuel : Nat)
  | sent (fuel : Nat) (result : Except String Unit)
  | received (fuel : Nat) (arrived : Arrived)
  | ticked (fuel : Nat)

namespace Run

variable {P : Platform}

def moveTo (run : Run P) (phase : Phase) : Run P := { run with phase }

/-! ## Leaving -/

def joined (run : Run P) (outcome : Except String Outcome) : Run P :=
  run.moveTo (if run.tick then .ticking outcome else .returned outcome)

def leave (run : Run P) (outcome : Except String Outcome) : Run P :=
  let run := { run with wireClosed := true }
  if run.recv then run.moveTo (.closing outcome) else run.joined outcome

/-! ## The loop -/

def onSide {α : Type} (run : Run P) (act : AppAct P α) :
    Except Abort (Except String α × Run P) :=
  match run.connection with
  | none => .error .disabled
  | some (handle, conn) =>
      match act ⟨run.app, conn, run.records⟩ with
      | .error reason => .error reason
      | .ok (result, side) =>
          .ok (result, { run with
            app := side.app, connection := some (handle, side.conn), records := side.records })

def onConnection {Answer : Type} (run : Run P) (handle : ConnectionHandle) (conn : P.Connection)
    (operation : ConnCall P.EndpointEvent P.ConnectionEvent Answer) : Answer × Run P :=
  let (answer, conn) := P.call operation conn
  (answer, { run with connection := some (handle, conn) })

/-- `while let Some(event) = conn.poll_endpoint_events()`. -/
def endpointEventRound (run : Run P) : Except Abort (Run P × Bool) :=
  match run.connection with
  | none => .error .disabled
  | some (handle, conn) =>
      let (event, conn) := P.call .pollEndpointEvents conn
      match event with
      | none => .ok ({ run with connection := some (handle, conn) }, false)
      | some event =>
          let (endpoint, back) := P.handleEvent run.endpoint handle event
          let conn := match back with
            | none => conn
            | some event => (P.call (.handleEvent event) conn).2
          .ok ({ run with
            endpoint, connection := some (handle, conn), progressed := true }, true)

/-- One round of `while let Some(event) = conn.poll()`. -/
def eventRound (fuel : Nat) (started now : Instant) : AppAct P Bool := do
  match ← call .poll with
  | none => pure false
  | some event => do
      handleEvent fuel started now event
      pure true

def pollEvents (fuel : Nat) (started now : Instant) : AppAct P Bool := do
  if ← eventRound fuel started now then
    .loop .outOfFuel (eventRound fuel started now) fuel
    pure true
  else pure false

def settle (run : Run P) : Except Abort (Run P) := do
  match ← run.onSide (drive run.clock) with
  | (.error error, run) => .ok (run.leave (.error error))
  | (.ok (), run) =>
      let drained := run.connection.any fun (_, conn) => P.isDrained conn
      if run.app.doneAt.any fun at_ => decide (linger ≤ run.clock - at_) || drained then
        .ok (run.leave run.app.finish)
      else .ok (run.moveTo .selecting)

/-- The transmit loop up to its next send; `again` is another round of the drain loop. -/
def transmits (again : Run P → Except Abort (Run P)) (run : Run P) : Except Abort (Run P) :=
  match run.connection with
  | none => .error .disabled
  | some (handle, conn) =>
      match run.onConnection handle conn (.pollTransmit run.clock) with
      | (none, run) => if run.progressed then again run else run.settle
      | (some packet, run) =>
          let traffic := { run.traffic with
            sent := run.traffic.sent ++ [(run.wire.target, packet)] }
          match run.wire.target with
          | .error error => .ok ({ run with traffic }.leave (.error error))
          | .ok _ => .ok ({ run with traffic, progressed := true }.moveTo .sending)

def quiesce : Nat → Run P → Except Abort (Run P)
  | 0, _ => .error .outOfFuel
  | fuel + 1, run => do
      let run ← whileLoop .outOfFuel endpointEventRound fuel { run with progressed := false }
      match ← run.onSide (pollEvents fuel run.started run.clock) with
      | (.error error, run) => .ok (run.leave (.error error))
      | (.ok more, run) =>
          transmits (quiesce fuel) { run with progressed := run.progressed || more }

def pump (fuel : Nat) (run : Run P) : Except Abort (Run P) :=
  if runDeadline < run.clock - run.started then
    .ok (run.leave (.error "run deadline exceeded"))
  else
    match run.connection with
    | none => .ok (run.moveTo .selecting)
    | some _ => run.quiesce fuel

def handleDatagram (fuel : Nat) (run : Run P) (datagram : Bytes) : Except Abort (Run P) :=
  let remote := match run.connection with
    | some (_, conn) => (P.networkPath conn).getD clientAddr
    | none => clientAddr
  let (endpoint, event) := P.handle run.endpoint run.clock remote datagram
  let run := { run with
    endpoint
    traffic := { run.traffic with handed := run.traffic.handed ++ [datagram] } }
  match event with
  | some (.connectionEvent handle event) =>
      match run.connection with
      | some (ours, conn) =>
          if ours = handle then
            (run.onConnection ours conn (.handleEvent event)).2.pump fuel
          else run.pump fuel
      | none => run.pump fuel
  | some (.newConnection incoming) =>
      match run.connection with
      | some _ => run.pump fuel
      | none =>
          let (endpoint, accepted) := P.accept run.endpoint incoming run.clock
          let run := { run with endpoint }
          match accepted with
          | .error cause => .ok (run.leave (.error s!"accept: {cause}"))
          | .ok pair => { run with connection := some pair }.pump fuel
  | some (.response payload) =>
      let traffic := { run.traffic with
        sent := run.traffic.sent ++ [(run.wire.target, payload)] }
      match run.wire.target with
      | .error error => .ok ({ run with traffic }.leave (.error error))
      | .ok _ => .ok ({ run with traffic }.moveTo .responding)
  | none => run.pump fuel

/-- What a receive leaves in the traffic when the loop waits for it, and when the teardown
does. -/
def noteArrived (run : Run P) (arrived : Arrived) : Run P :=
  { run with traffic := { run.traffic with
      arrived := run.traffic.arrived ++ arrived.datagrams } }

def noteLate (run : Run P) (arrived : Arrived) : Run P :=
  { run with traffic := { run.traffic with late := run.traffic.late ++ arrived.datagrams } }

def timeouts (run : Run P) : Run P :=
  match run.connection with
  | none => run
  | some (handle, conn) =>
      if (P.pollTimeout conn).any fun deadline => decide (deadline ≤ run.clock) then
        (run.onConnection handle conn (.handleTimeout run.clock)).2
      else run

def lost (run : Run P) (error : String) : Except String Outcome :=
  if run.app.doneAt.isSome && run.connection.isSome then run.app.finish else .error error

def receive (fuel : Nat) (run : Run P) (arrived : Arrived) : Except Abort (Run P) :=
  if !run.recv then .error .disabled
  else
    match run.wire.receive arrived with
    | none => .error .disabled
    | some (result, wire) =>
        let run := { run with wire }
        match run.phase, result with
        | .selecting, .ok message =>
            let run := run.noteArrived arrived
            match message with
            | none => run.pump fuel
            | some datagram => run.handleDatagram fuel datagram
        | .selecting, .error error =>
            .ok ({ run with recv := false }.leave (run.lost error))
        | .closing _, .ok _ => .ok (run.noteLate arrived)
        | .closing outcome, .error _ => .ok ({ run with recv := false }.joined outcome)
        | _, _ => .error .disabled

def step (run : Run P) : Input → Except Abort (Run P)
  | .advance elapsed => .ok { run with clock := run.clock + elapsed }
  | .start fuel =>
      match run.phase with
      | .starting => run.pump fuel
      | _ => .error .disabled
  | .sent fuel result =>
      match run.phase, result with
      | .sending, .ok () => run.transmits (quiesce fuel)
      | .responding, .ok () => run.pump fuel
      | .sending, .error error => .ok (run.leave (.error (run.wire.sendError error)))
      | .responding, .error error => .ok (run.leave (.error (run.wire.sendError error)))
      | _, _ => .error .disabled
  | .received fuel arrived => run.receive fuel arrived
  | .ticked fuel =>
      if !run.tick then .error .disabled
      else
        match run.phase with
        | .selecting => run.timeouts.pump fuel
        | .closing _ => .ok run
        | .ticking outcome => .ok ({ run with tick := false }.moveTo (.returned outcome))
        | _ => .error .disabled

/-! ## The start -/

/-- What `getrandom` gives for the two keys. -/
structure Draws where
  resetKey : Except String Bytes
  tokenKey : Except String Bytes

def drawn (draw : Except String Bytes) : Except String Bytes :=
  draw.mapError fun error => s!"getrandom: {error}"

def setup (draws : Draws) (now : Instant) (peer : Option EndpointId) :
    Role → Except String (P.Endpoint × Option (ConnectionHandle × P.Connection))
  | .client _ =>
      match peer with
      | none => .error "client role requires the peer's endpoint id"
      | some peer => do
          let resetKey ← drawn draws.resetKey
          let tls ← (P.clientTls peer).mapError fun error => s!"client tls config: {error}"
          let config ← (P.quicClientConfig tls).mapError fun error =>
            s!"client quic config: {error}"
          let (endpoint, connected) := P.connect (P.newEndpoint resetKey none) now config serverAddr
          let pair ← connected.mapError fun error => s!"connect: {error}"
          pure (endpoint, some pair)
  | .server => do
      let tls ← P.serverTls.mapError fun error => s!"server tls config: {error}"
      let tokenKey ← drawn draws.tokenKey
      let config ← (P.quicServerConfig tls tokenKey).mapError fun error =>
        s!"server quic config: {error}"
      let resetKey ← drawn draws.resetKey
      pure (P.newEndpoint resetKey (some config), none)

/-- A run as `setup` leaves it. -/
def begin (role : Role) (wire : Wire) (now : Instant)
    (made : P.Endpoint × Option (ConnectionHandle × P.Connection)) : Run P where
  endpoint := made.1
  connection := made.2
  app := App.new role
  records := []
  wire := wire
  wireClosed := false
  started := now
  clock := now
  progressed := false
  recv := true
  tick := true
  phase := .starting
  traffic := ⟨[], [], [], []⟩

end Run

def spike (P : Platform) (role : Role) (peer : Option EndpointId) (wire : Wire) :
    System (Run P) Input Abort where
  Initial run := ∃ draws now made,
    Run.setup draws now peer role = .ok made ∧ run = Run.begin role wire now made
  step := Run.step

end IrohEndpoint.Spike
