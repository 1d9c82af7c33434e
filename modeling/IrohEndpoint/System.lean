import IrohEndpoint.Foundation.Execution
import IrohEndpoint.Methods
import IrohEndpoint.Dial
import IrohEndpoint.Pump

/-! # The endpoint as a system of tasks

A configuration is the shared state with everything that runs on it: the pump,
the signaling sessions, the pending method calls and the resources the
application holds. All tasks share one cooperative thread, so a step runs one
task from an await to its next one. -/

namespace IrohEndpoint

/-- The handle a resource or a pending call looks its entry up by, and the
connection it was made for. -/
structure Target where
  handle : ConnectionHandle
  serial : Nat
  deriving DecidableEq, Repr

/-- An exported resource. A connection that came from `connect` keeps the address
that was dialed. -/
inductive Resource where
  | connection (target : Target) (dialed : Option EndpointAddr)
  | sendStream (target : Target) (id : StreamId)
  | recvStream (target : Target) (id : StreamId) (streaming : Bool)
  deriving DecidableEq

def Resource.target : Resource → Target
  | .connection target _ => target
  | .sendStream target _ => target
  | .recvStream target _ _ => target

inductive StreamShape where
  | pair
  | send
  | recv
  deriving DecidableEq, Repr

def StreamShape.resources (shape : StreamShape) (target : Target) (id : StreamId) :
    List Resource :=
  match shape with
  | .pair => [.sendStream target id, .recvStream target id false]
  | .send => [.sendStream target id]
  | .recv => [.recvStream target id false]

/-- A pending asynchronous method, or a task it spawned. -/
inductive Call where
  | connect (addr : EndpointAddr) (phase : ConnectPhase)
  | accept
  | openStream (target : Target) (dir : Dir) (shape : StreamShape)
  | acceptStream (target : Target) (dir : Dir) (shape : StreamShape)
  | recvDatagram (target : Target)
  | waitClosed (target : Target)
  | write (target : Target) (id : StreamId) (bytes : Bytes) (offset : Nat)
  | read (target : Target) (id : StreamId) (max : Nat)
  -- `write-via-stream` awaiting its source, and writing a chunk of it
  | sourcing (target : Target) (id : StreamId)
  | forwarding (target : Target) (id : StreamId) (bytes : Bytes) (offset : Nat)
      (last : Bool)
  -- the task of `read-via-stream` reading, and delivering a chunk
  | streaming (target : Target) (id : StreamId)
  | delivering (target : Target) (id : StreamId)
  deriving DecidableEq

inductive Outcome where
  | connected (result : Except Error Resource)
  | stream (result : Except Error (List Resource))
  | bytes (result : Except Error (Option Bytes))
  | unit (result : Except Error Unit)
  deriving DecidableEq

inductive CallInput where
  | poll
  -- `RelayConn::connect` resolves
  | opened (result : Except String Unit)
  -- the source of `write-via-stream` delivers
  | source (bytes : Bytes) (last : Bool)
  -- the reader of `read-via-stream` took the chunk, or dropped its end
  | delivered (dropped : Bool)

structure Config (P : Platform) where
  state : State P
  clock : Instant
  udp : Bool
  endpointLive : Bool
  pump : Pump
  sessions : Table Nat Session
  calls : Table Nat Call
  resources : Table Nat Resource
  outcomes : List (Nat × Outcome)
  registrations : List Registration
  fresh : Nat

variable {P : Platform}

namespace Config

/-- `bind`, once the home relay has authenticated. -/
def bind (noq : P.Endpoint) (webrtc udp : Bool) (relay : String) (clock : Instant) :
    Config P where
  state := ((State.new noq webrtc).registerRelay relay ⟨0, relay⟩).2
  clock := clock
  udp := udp
  endpointLive := true
  pump := ⟨.draining, [], [], udp⟩
  sessions := .empty
  calls := .empty
  resources := .empty
  outcomes := []
  registrations := []
  fresh := 1

def addCall (config : Config P) (call : Call) : Config P :=
  { config with
    calls := config.calls.set config.fresh call
    fresh := config.fresh + 1 }

def addResources (config : Config P) : List Resource → Config P
  | [] => config
  | resource :: rest =>
      addResources { config with
        resources := config.resources.set config.fresh resource
        fresh := config.fresh + 1 } rest

def addSessions (config : Config P) : List Session → Config P
  | [] => config
  | session :: rest =>
      addSessions { config with
        sessions := config.sessions.set config.fresh session
        fresh := config.fresh + 1 } rest

def settle (config : Config P) (id : Nat) (outcome : Outcome)
    (resources : List Resource) : Config P :=
  ({ config with
    calls := config.calls.remove id
    outcomes := config.outcomes ++ [(id, outcome)] } : Config P).addResources resources

def keep (config : Config P) (id : Nat) (call : Call) : Config P :=
  { config with calls := config.calls.set id call }

/-! ## Pending calls -/

/-- `connect` stops at its next await or fails. -/
def connecting (config : Config P) (id : Nat) (addr : EndpointAddr)
    (progress : Connecting × State P) : Config P :=
  let config := { config with state := progress.2 }
  match progress.1 with
  | .failed error => config.settle id (.connected (.error error)) []
  | .suspended phase => config.keep id (.connect addr phase)

def resumeConnect (config : Config P) (id : Nat) (addr : EndpointAddr)
    (phase : ConnectPhase) (input : CallInput) : Except Abort (Config P) :=
  match phase.ensure?, input with
  | some (url, .opening), .opened result =>
      let conn : RelayConn := ⟨config.fresh, url⟩
      let (ensured, state) := config.state.finishOpen url (result.map fun _ => conn)
      let config := { config with fresh := config.fresh + 1 }
      .ok (config.connecting id addr (state.ensured config.clock phase ensured))
  | some (url, .waiting started), .poll =>
      match config.state.pollEnsure config.clock started url with
      | (none, state) => .ok { config with state }
      | (some ensured, state) =>
          .ok (config.connecting id addr (state.ensured config.clock phase ensured))
  | none, .poll =>
      match phase with
      | .handshake _ handle serial => do
          let (answer, state) ← config.state.withEntry handle fun entry =>
            .ok (entry.connectCheck, entry)
          let config := { config with state }
          match answer with
          | none => .ok config
          | some (.error error) =>
              .ok (config.settle id (.connected (.error error)) [])
          | some (.ok ()) =>
              let resource := Resource.connection ⟨handle, serial⟩ (some addr)
              .ok (config.settle id (.connected (.ok resource)) [resource])
      | _ => .error .disabled
  | _, _ => .error .disabled

def resumeAccept (config : Config P) (id : Nat) : Except Abort (Config P) :=
  match config.state.acceptCheck with
  | (none, state) => .ok { config with state }
  | (some (.error error), state) =>
      .ok (({ config with state } : Config P).settle id (.connected (.error error)) [])
  | (some (.ok item), state) =>
      let resource := Resource.connection ⟨item.handle, item.serial⟩ none
      .ok (({ config with state } : Config P).settle id (.connected (.ok resource))
        [resource])

def resumeStream (config : Config P) (id : Nat) (target : Target) (shape : StreamShape)
    (check : ConnEntry P → Option (Except Error StreamId) × ConnEntry P) :
    Except Abort (Config P) := do
  let (answer, state) ← config.state.withEntry target.handle fun entry => .ok (check entry)
  let config := { config with state }
  match answer with
  | none => .ok config
  | some (.error error) => .ok (config.settle id (.stream (.error error)) [])
  | some (.ok stream) =>
      let resources := shape.resources target stream
      .ok (config.settle id (.stream (.ok resources)) resources)

/-- `finish` of a stream, from its method or at the end of `write-via-stream`. -/
def finishStream (config : Config P) (target : Target) (stream : StreamId) :
    Except Abort (Except Error Unit × Config P) := do
  let (answer, state) ← config.state.withEntry target.handle fun entry =>
    .ok (entry.finish stream)
  .ok (answer, { config with state })

/-- A chunk of `write-via-stream` was accepted: go on with the source, or finish. -/
def afterChunk (config : Config P) (id : Nat) (target : Target) (stream : StreamId)
    (last : Bool) : Except Abort (Config P) :=
  if last then do
    let (answer, config) ← config.finishStream target stream
    .ok (config.settle id (.unit answer) [])
  else .ok (config.keep id (.sourcing target stream))

def resumeWrite (config : Config P) (target : Target) (stream : StreamId)
    (bytes : Bytes) (offset : Nat) :
    Except Abort ((Option (Except Error Unit) × Nat) × Config P) := do
  let (answer, state) ← config.state.withEntry target.handle fun entry => do
    let (answer, offset, entry) ← entry.writeAllCheck stream bytes offset
    .ok ((answer, offset), entry)
  .ok (answer, { config with state })

def resumeRead (config : Config P) (target : Target) (stream : StreamId) (max : Nat)
    (reader : StreamReader) :
    Except Abort (Option (Except Error (Option Bytes)) × Config P) := do
  let (answer, state) ← config.state.withEntry target.handle fun entry =>
    .ok (entry.readSomeCheck stream max reader)
  .ok (answer, { config with state })

/-- The largest chunk `read-via-stream` takes at once. -/
def chunkSize : Nat := 16 * 1024

def resumeCall (config : Config P) (id : Nat) (call : Call) (input : CallInput) :
    Except Abort (Config P) :=
  match call, input with
  | .connect addr phase, input => config.resumeConnect id addr phase input
  | .accept, .poll => config.resumeAccept id
  | .openStream target dir shape, .poll =>
      config.resumeStream id target shape fun entry => entry.openStreamCheck dir
  | .acceptStream target dir shape, .poll =>
      config.resumeStream id target shape fun entry => entry.acceptStreamCheck dir
  | .recvDatagram target, .poll => do
      let (answer, state) ← config.state.withEntry target.handle fun entry =>
        .ok entry.recvDatagramCheck
      let config := { config with state }
      match answer with
      | none => .ok config
      | some result => .ok (config.settle id (.bytes (result.map some)) [])
  | .waitClosed target, .poll => do
      let (answer, state) ← config.state.withEntry target.handle fun entry =>
        .ok (entry.waitClosedCheck, entry)
      let config := { config with state }
      match answer with
      | none => .ok config
      | some () => .ok (config.settle id (.unit (.ok ())) [])
  | .write target stream bytes offset, .poll => do
      let ((answer, offset), config) ← config.resumeWrite target stream bytes offset
      match answer with
      | none => .ok (config.keep id (.write target stream bytes offset))
      | some result => .ok (config.settle id (.unit result) [])
  | .read target stream max, .poll => do
      let (answer, config) ← config.resumeRead target stream max .call
      match answer with
      | none => .ok config
      | some result => .ok (config.settle id (.bytes result) [])
  | .sourcing target stream, .source bytes last =>
      if bytes.isEmpty then config.afterChunk id target stream last
      else .ok (config.keep id (.forwarding target stream bytes 0 last))
  | .forwarding target stream bytes offset last, .poll => do
      let ((answer, offset), config) ← config.resumeWrite target stream bytes offset
      match answer with
      | none => .ok (config.keep id (.forwarding target stream bytes offset last))
      | some (.error error) => .ok (config.settle id (.unit (.error error)) [])
      | some (.ok ()) => config.afterChunk id target stream last
  | .streaming target stream, .poll => do
      let (answer, config) ← config.resumeRead target stream chunkSize .byteStream
      match answer with
      | none => .ok config
      | some (.ok (some _)) => .ok (config.keep id (.delivering target stream))
      | some result => .ok (config.settle id (.bytes result) [])
  | .delivering target stream, .delivered dropped =>
      if dropped then .ok (config.settle id (.unit (.ok ())) [])
      else .ok (config.keep id (.streaming target stream))
  | _, _ => .error .disabled

end Config

/-! ## Method invocations -/

inductive Method where
  | connect (addr : EndpointAddr) (alpn : Bytes)
  | accept
  | closeEndpoint
  | dropEndpoint
  | openBi (resource : Nat)
  | openUni (resource : Nat)
  | acceptBi (resource : Nat)
  | acceptUni (resource : Nat)
  | sendDatagram (resource : Nat) (data : Bytes)
  | recvDatagram (resource : Nat)
  | closeConnection (resource : Nat) (code : UInt32) (reason : Bytes)
  | waitClosed (resource : Nat)
  | write (resource : Nat) (bytes : Bytes)
  | finish (resource : Nat)
  | reset (resource : Nat) (code : UInt32)
  | writeViaStream (resource : Nat)
  | read (resource : Nat) (max : UInt32)
  | stop (resource : Nat) (code : UInt32)
  | readViaStream (resource : Nat)
  | drop (resource : Nat)
  deriving DecidableEq

def Method.resource? : Method → Option Nat
  | .connect .. | .accept | .closeEndpoint | .dropEndpoint => none
  | .openBi r | .openUni r | .acceptBi r | .acceptUni r | .sendDatagram r _
  | .recvDatagram r | .closeConnection r _ _ | .waitClosed r | .write r _ | .finish r
  | .reset r _ | .writeViaStream r | .read r _ | .stop r _ | .readViaStream r
  | .drop r => some r

namespace Config

def touch (config : Config P) (target : Target)
    (access : ConnEntry P → ConnEntry P) : Except Abort (Config P) := do
  let ((), state) ← config.state.withEntry target.handle fun entry =>
    .ok ((), access entry)
  .ok { config with state }

def invokeConnection (config : Config P) (target : Target) :
    Method → Except Abort (Config P)
  | .openBi _ => .ok (config.addCall (.openStream target .bi .pair))
  | .openUni _ => .ok (config.addCall (.openStream target .uni .send))
  | .acceptBi _ => .ok (config.addCall (.acceptStream target .bi .pair))
  | .acceptUni _ => .ok (config.addCall (.acceptStream target .uni .recv))
  | .sendDatagram _ data => config.touch target fun entry => (entry.sendDatagram data).2
  | .recvDatagram _ => .ok (config.addCall (.recvDatagram target))
  | .closeConnection _ code reason =>
      config.touch target fun entry => entry.close config.clock code reason
  | .waitClosed _ => .ok (config.addCall (.waitClosed target))
  | _ => .error .disabled

def invokeSend (config : Config P) (target : Target) (stream : StreamId) :
    Method → Except Abort (Config P)
  | .write _ bytes => .ok (config.addCall (.write target stream bytes 0))
  | .finish _ => do
      let (_, config) ← config.finishStream target stream
      .ok config
  | .reset _ code => config.touch target fun entry => entry.reset stream code
  | .writeViaStream _ => .ok (config.addCall (.sourcing target stream))
  | _ => .error .disabled

/-- The receive methods. A `read` after the stream was taken, or of no bytes, is
answered at once. -/
def invokeRecv (config : Config P) (resource : Nat) (target : Target)
    (stream : StreamId) (streaming : Bool) : Method → Except Abort (Config P)
  | .read _ max =>
      if streaming then .ok config
      else if max = 0 then .ok config
      else .ok (config.addCall (.read target stream max.toNat))
  | .stop _ code => config.touch target fun entry => entry.stop stream code
  | .readViaStream _ =>
      if streaming then .ok config
      else
        .ok (({ config with
          resources := config.resources.set resource (.recvStream target stream true) } :
            Config P).addCall (.streaming target stream))
  | _ => .error .disabled

def invokeResource (config : Config P) (resource : Nat) (method : Method) :
    Except Abort (Config P) :=
  match config.resources.get? resource, method with
  | none, _ => .error .disabled
  | some _, .drop _ => .ok { config with resources := config.resources.remove resource }
  | some (.connection target _), method => config.invokeConnection target method
  | some (.sendStream target stream), method => config.invokeSend target stream method
  | some (.recvStream target stream streaming), method =>
      config.invokeRecv resource target stream streaming method

def invoke (config : Config P) (method : Method) : Except Abort (Config P) :=
  match method.resource?, method with
  | some resource, method => config.invokeResource resource method
  | none, .connect addr alpn =>
      if config.endpointLive then
        let started := { config with fresh := config.fresh + 1 }
        .ok (started.connecting config.fresh addr
          (config.state.connect config.clock config.udp addr alpn))
      else .error .disabled
  | none, .accept =>
      if config.endpointLive then .ok (config.addCall .accept) else .error .disabled
  | none, .closeEndpoint =>
      if config.endpointLive then
        .ok { config with
          state := config.state.close config.clock "endpoint closed".toUTF8.data.toList }
      else .error .disabled
  | none, .dropEndpoint =>
      if config.endpointLive then
        .ok { config with
          endpointLive := false
          state := config.state.close config.clock "endpoint dropped".toUTF8.data.toList }
      else .error .disabled
  | none, _ => .error .disabled

end Config

/-! ## Steps -/

/-- One step of one task, with everything the environment decides about it. -/
inductive Action where
  | advance (elapsed : Nat)
  | pump (input : PumpInput)
  | session (id : Nat) (input : SessionInput)
  | invoke (method : Method)
  | resume (id : Nat) (input : CallInput)

namespace Config

def stepPump (config : Config P) (input : PumpInput) : Except Abort (Config P) := do
  let (state, pump, spawned) ←
    config.pump.resume config.udp config.clock config.state input
  .ok (({ config with state, pump } : Config P).addSessions spawned)

def stepSession (config : Config P) (id : Nat) (input : SessionInput) :
    Except Abort (Config P) :=
  match config.sessions.get? id with
  | none => .error .disabled
  | some session => do
      let (session, registration, state) ←
        session.resume config.clock ⟨config.fresh⟩ config.state input
      .ok { config with
        state
        sessions := config.sessions.set id session
        registrations := config.registrations ++ registration.toList
        fresh := config.fresh + 1 }

/-- The step function. Only the pump moves while it is between two of its
suspension points. -/
def step (config : Config P) : Action → Except Abort (Config P)
  | .pump input => config.stepPump input
  | action =>
      if !config.pump.phase.awaits then .error .disabled
      else
        match action with
        | .advance elapsed => .ok { config with clock := config.clock + elapsed }
        | .session id input => config.stepSession id input
        | .invoke method => config.invoke method
        | .resume id input =>
            match config.calls.get? id with
            | none => .error .disabled
            | some call => config.resumeCall id call input
        | .pump _ => .error .disabled

end Config

def endpoint (P : Platform) : System (Config P) Action Abort where
  Initial config := ∃ noq webrtc udp relay clock url, relayUrl relay = .ok url ∧
    config = Config.bind noq webrtc udp relay clock
  step := Config.step

end IrohEndpoint
