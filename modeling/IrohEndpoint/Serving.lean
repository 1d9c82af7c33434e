import IrohEndpoint.Entry

/-! # The streams noq surfaces

`streams().accept` takes a stream out of noq, and the only copy of it is then the one
the endpoint has. A recorder is a log of those answers on the noq side; an operation
serves an entry when every stream that leaves noq is behind the entry's queue of its
direction and no stream leaves a queue. -/

namespace IrohEndpoint

variable {P : Platform}

/-- What noq has answered to `streams().accept` on a connection so far. -/
structure Recorder (P : Platform) where
  surfaced : P.Connection → Dir → List StreamId
  created : ∀ connection, P.Creates connection → ∀ dir, surfaced connection dir = []
  called : ∀ {Answer : Type} (operation : ConnCall P.EndpointEvent P.ConnectionEvent Answer)
    connection own, surfaced (P.call operation connection).2 own =
      surfaced connection own ++ operation.surfaces own (P.call operation connection).1

namespace Platform

/-- The platform with the answers to `streams().accept` kept beside each connection. -/
def recorded (P : Platform) : Platform where
  Endpoint := P.Endpoint
  Connection := P.Connection × (Dir → List StreamId)
  EndpointEvent := P.EndpointEvent
  ConnectionEvent := P.ConnectionEvent
  Incoming := P.Incoming
  ClientConfig := P.ClientConfig
  call operation connection :=
    let answered := P.call operation connection.1
    (answered.1, answered.2, fun own => connection.2 own ++ operation.surfaces own answered.1)
  isDrained connection := P.isDrained connection.1
  pollTimeout connection := P.pollTimeout connection.1
  handshakeProtocol connection := P.handshakeProtocol connection.1
  peerCertificates connection := P.peerCertificates connection.1
  networkPath connection := P.networkPath connection.1
  handle := P.handle
  accept noq incoming now :=
    let accepted := P.accept noq incoming now
    (accepted.1, accepted.2.map fun issued => (issued.1, issued.2, fun _ => []))
  connect noq now config remote :=
    let dialed := P.connect noq now config remote
    (dialed.1, dialed.2.map fun issued => (issued.1, issued.2, fun _ => []))
  handleEvent := P.handleEvent
  publicKeyFromEd25519Spki := P.publicKeyFromEd25519Spki
  clientConfig := P.clientConfig
  encodeSignal := P.encodeSignal
  decodeSignal := P.decodeSignal

end Platform

def Recorder.recorded (P : Platform) : Recorder P.recorded where
  surfaced connection := connection.2
  created connection creates dir := by
    rcases creates with ⟨noq, incoming, now, handle, issued⟩ |
      ⟨noq, now, config, remote, handle, issued⟩
    · simp only [Platform.recorded] at issued
      cases accepted : (P.accept noq incoming now).2 with
      | error response =>
          rw [accepted] at issued
          cases issued
      | ok pair =>
          rw [accepted] at issued
          cases issued
          rfl
    · simp only [Platform.recorded] at issued
      cases dialed : (P.connect noq now config remote).2 with
      | error display =>
          rw [dialed] at issued
          cases issued
      | ok pair =>
          rw [dialed] at issued
          cases issued
          rfl
  called _ _ _ := rfl

/-- Every stream noq surfaces on the way is at the end of its queue, and no other stream
enters or leaves a queue. -/
structure Serving (entry after : ConnEntry P) : Prop where
  serial : after.trace.serial = entry.trace.serial
  served : ∀ (recorder : Recorder P) (dir : Dir), ∃ arrived,
    after.queue dir = entry.queue dir ++ arrived ∧
    recorder.surfaced after.conn dir = recorder.surfaced entry.conn dir ++ arrived

namespace Serving

theorem of_same {entry after : ConnEntry P} (serial : after.trace.serial = entry.trace.serial)
    (conn : after.conn = entry.conn) (queue : after.queue = entry.queue) :
    Serving entry after := by
  refine ⟨serial, fun recorder dir => ⟨[], ?_, ?_⟩⟩
  · rw [queue, List.append_nil]
  · rw [conn, List.append_nil]

theorem refl (entry : ConnEntry P) : Serving entry entry := of_same rfl rfl rfl

theorem trans {first middle last : ConnEntry P} (front : Serving first middle)
    (back : Serving middle last) : Serving first last := by
  refine ⟨back.serial.trans front.serial, ?_⟩
  intro recorder dir
  rcases front.served recorder dir with ⟨early, queue, surfaced⟩
  rcases back.served recorder dir with ⟨late, later, more⟩
  refine ⟨early ++ late, ?_, ?_⟩
  · rw [later, queue, List.append_assoc]
  · rw [more, surfaced, List.append_assoc]

theorem call {Answer : Type} (entry : ConnEntry P)
    (operation : ConnCall P.EndpointEvent P.ConnectionEvent Answer)
    (silent : ∀ own answer, operation.surfaces own answer = []) :
    Serving entry (entry.call operation).2 := by
  refine ⟨rfl, fun recorder dir => ⟨[], (List.append_nil _).symm, ?_⟩⟩
  have called := recorder.called operation entry.conn dir
  rw [silent] at called
  exact called

theorem record (entry : ConnEntry P) (record : StreamRecord) :
    Serving entry (entry.record record) := of_same rfl rfl rfl

/-- noq's answer goes to the end of the queue of its direction. -/
theorem acceptRound {dir : Dir} {entry next : ConnEntry P} {again : Bool}
    (stepped : IrohEndpoint.acceptRound dir entry = .ok (next, again)) :
    Serving entry next := by
  rw [IrohEndpoint.acceptRound] at stepped
  have called : ∀ (recorder : Recorder P) (own : Dir),
      recorder.surfaced (entry.call (.acceptStream dir)).2.conn own =
        recorder.surfaced entry.conn own ++
          if own = dir then (entry.call (.acceptStream dir)).1.toList else [] :=
    fun recorder own => recorder.called (.acceptStream dir) entry.conn own
  have queue : ∀ own, (entry.call (.acceptStream dir)).2.queue own = entry.queue own := by
    intro own
    cases own <;> rfl
  have serial : (entry.call (.acceptStream dir)).2.trace.serial = entry.trace.serial := rfl
  split at stepped <;> rename_i answer <;> rw [answer] at called queue serial <;> cases stepped
  · refine ⟨serial, fun recorder own => ⟨[], by rw [queue, List.append_nil], ?_⟩⟩
    rw [called]
    simp
  · rename_i id after
    refine ⟨by rw [← serial]; cases dir <;> rfl, ?_⟩
    intro recorder own
    refine ⟨if own = dir then [id] else [], ?_, ?_⟩
    · rw [← queue]
      cases dir <;> cases own <;> simp [ConnEntry.queueStream, ConnEntry.queue]
    · have conn : (after.queueStream dir id).conn = after.conn := by cases dir <;> rfl
      rw [conn, called]
      rfl

theorem covers : Covers (@Serving P) where
  refl := refl
  trans := trans
  call operation entry := call entry operation
  sent entry sent _ := record entry sent

theorem onConnected (entry : ConnEntry P) (now : Instant) :
    Serving entry (entry.onConnected now) := by
  have refused : ∀ seen : ConnEntry P, Serving seen (seen.refuse now) := by
    intro seen
    have failed : Serving seen { seen with error := some (.connectFailed
        "authenticated key differs from the addressed peer") } := of_same rfl rfl rfl
    exact failed.trans (call _ _ fun _ _ => rfl)
  have seen : Serving entry { entry with
      alpn := entry.negotiatedAlpn
      trace := { entry.trace with
        authenticated := entry.trace.authenticated ++ [P.tlsPeer entry.conn] } } :=
    of_same rfl rfl rfl
  rw [ConnEntry.onConnected]
  dsimp only
  split
  · split
    · exact of_same rfl rfl rfl
    · exact seen.trans (refused _)
  · exact seen.trans (refused _)

theorem latchDrained (entry : ConnEntry P) : Serving entry entry.latchDrained := by
  rw [ConnEntry.latchDrained]
  split
  · exact of_same rfl rfl rfl
  · exact refl entry

theorem stop (entry : ConnEntry P) (id : StreamId) (code : UInt32) :
    Serving entry (entry.stop id code) :=
  (call entry (.stop id code) fun _ _ => rfl).trans (record _ _)

theorem readSomeCheck (entry : ConnEntry P) (id : StreamId) (max : Nat)
    (reader : StreamReader) : Serving entry (entry.readSomeCheck id max reader).2 := by
  rw [ConnEntry.readSomeCheck]
  split
  · exact record entry _
  · exact (call entry (.read id max) fun _ _ => rfl).trans (record _ _)

end Serving

/-- What the pump does to an entry: it serves the queues and leaves the streams alone. -/
structure Draining (entry after : ConnEntry P) : Prop extends Serving entry after where
  streams : after.trace.streams = entry.trace.streams

namespace Draining

theorem refl (entry : ConnEntry P) : Draining entry entry := ⟨.refl entry, rfl⟩

theorem trans {first middle last : ConnEntry P} (front : Draining first middle)
    (back : Draining middle last) : Draining first last :=
  ⟨front.toServing.trans back.toServing, back.streams.trans front.streams⟩

theorem call {Answer : Type} (entry : ConnEntry P)
    (operation : ConnCall P.EndpointEvent P.ConnectionEvent Answer)
    (silent : ∀ own answer, operation.surfaces own answer = []) :
    Draining entry (entry.call operation).2 := ⟨.call entry operation silent, rfl⟩

theorem acceptRound {dir : Dir} {entry next : ConnEntry P} {again : Bool}
    (stepped : IrohEndpoint.acceptRound dir entry = .ok (next, again)) :
    Draining entry next := by
  refine ⟨.acceptRound stepped, ?_⟩
  rw [IrohEndpoint.acceptRound] at stepped
  have called : (entry.call (.acceptStream dir)).2.trace.streams = entry.trace.streams := rfl
  split at stepped <;> rename_i answer <;> rw [answer] at called <;> cases stepped
  · exact called
  · rw [← called]
    cases dir <;> rfl

theorem whileLoop {body : ConnEntry P → Except Abort (ConnEntry P × Bool)}
    (round : ∀ entry next again, body entry = .ok (next, again) → Draining entry next)
    {fuel : Nat} {entry final : ConnEntry P}
    (ran : IrohEndpoint.whileLoop .outOfFuel body fuel entry = .ok final) :
    Draining entry final := by
  apply whileLoop.invariant (Draining entry) _ fuel (refl entry) ran
  intro current next again sofar stepped
  exact sofar.trans (round current next again stepped)

theorem onConnected (entry : ConnEntry P) (now : Instant) :
    Draining entry (entry.onConnected now) := by
  refine ⟨.onConnected entry now, ?_⟩
  rcases entry.onConnected_cases now with ⟨_, _, _, _, equal⟩ | ⟨_, _, _, _, _, equal⟩ <;>
    rw [equal]

theorem latchDrained (entry : ConnEntry P) : Draining entry entry.latchDrained := by
  refine ⟨.latchDrained entry, ?_⟩
  rw [ConnEntry.latchDrained]
  split <;> rfl

end Draining

/-! ## The whole state -/

/-- Nothing has left the queues since the entry was made. -/
def ConnEntry.Level (entry : ConnEntry P) : Prop :=
  ∀ (recorder : Recorder P) (dir : Dir), entry.queue dir = recorder.surfaced entry.conn dir

theorem Serving.level {entry after : ConnEntry P} (serves : Serving entry after)
    (level : entry.Level) : after.Level := by
  intro recorder dir
  rcases serves.served recorder dir with ⟨arrived, queue, surfaced⟩
  rw [queue, surfaced, level recorder dir]

private theorem ConnEntry.new_level {conn : P.Connection} (creates : P.Creates conn)
    (expectedPeer : Option EndpointId) (acceptedSide : Bool) (serial : Nat)
    (origin : Origin) : (ConnEntry.new conn expectedPeer acceptedSide serial origin).Level := by
  intro recorder dir
  rw [ConnEntry.new, recorder.created conn creates]
  cases dir <;> rfl

/-- What is done to the state by whoever hands nothing out: connections and streams join
the ends of their queues, and none leaves. -/
structure State.Serves (state next : State P) : Prop where
  connections : state.history.connections ≤ next.history.connections
  queue : ∃ arrived, next.acceptQueue = state.acceptQueue ++ arrived ∧
    next.history.queued = state.history.queued ++ arrived
  entries : ∀ handle after, next.conns.get? handle = some after →
    (∃ entry, state.conns.get? handle = some entry ∧ Serving entry after) ∨
    (after.Level ∧ state.history.connections ≤ after.trace.serial)

namespace State.Serves

variable {state middle next : State P}

private theorem of_entries (served : ∀ handle after, next.conns.get? handle = some after →
      ∃ entry, state.conns.get? handle = some entry ∧ Serving entry after)
    (queue : next.acceptQueue = state.acceptQueue)
    (history : next.history.queued = state.history.queued)
    (connections : next.history.connections = state.history.connections) :
    state.Serves next where
  connections := connections.ge
  queue := ⟨[], by rw [queue, List.append_nil], by rw [history, List.append_nil]⟩
  entries handle after found := .inl (served handle after found)

theorem of_same (conns : next.conns = state.conns)
    (queue : next.acceptQueue = state.acceptQueue)
    (history : next.history.queued = state.history.queued)
    (connections : next.history.connections = state.history.connections) :
    state.Serves next := by
  refine of_entries ?_ queue history connections
  intro handle after found
  exact ⟨after, conns ▸ found, .refl after⟩

theorem refl (state : State P) : state.Serves state := of_same rfl rfl rfl rfl

theorem mapped {change : ConnEntry P → ConnEntry P}
    (serves : ∀ entry, Serving entry (change entry))
    (conns : next.conns = state.conns.mapValues change)
    (queue : next.acceptQueue = state.acceptQueue)
    (history : next.history.queued = state.history.queued)
    (connections : next.history.connections = state.history.connections) :
    state.Serves next := by
  refine of_entries ?_ queue history connections
  intro handle after found
  rw [conns, Table.get?_mapValues, Option.map_eq_some_iff] at found
  rcases found with ⟨entry, lookup, rfl⟩
  exact ⟨entry, lookup, serves entry⟩

theorem setEntry {handle : ConnectionHandle} {entry after : ConnEntry P}
    (found : state.conns.get? handle = some entry) (serves : Serving entry after) :
    state.Serves { state with conns := state.conns.set handle after } := by
  refine of_entries ?_ rfl rfl rfl
  intro other later lookup
  rw [Table.get?_set] at lookup
  split at lookup
  · rename_i same
    cases lookup
    exact ⟨entry, same ▸ found, serves⟩
  · exact ⟨later, lookup, .refl later⟩

theorem trans (front : state.Serves middle) (back : middle.Serves next) :
    state.Serves next where
  connections := Nat.le_trans front.connections back.connections
  queue := by
    rcases front.queue with ⟨early, queue, queued⟩
    rcases back.queue with ⟨late, later, more⟩
    refine ⟨early ++ late, ?_, ?_⟩
    · rw [later, queue, List.append_assoc]
    · rw [more, queued, List.append_assoc]
  entries handle after found := by
    rcases back.entries handle after found with ⟨between, lookup, served⟩ | ⟨level, newer⟩
    · rcases front.entries handle between lookup with ⟨entry, first, serves⟩ | ⟨level, newer⟩
      · exact .inl ⟨entry, first, serves.trans served⟩
      · exact .inr ⟨served.level level, served.serial ▸ newer⟩
    · exact .inr ⟨level, Nat.le_trans front.connections newer⟩

theorem markDead (state : State P) (reason : String) :
    state.Serves (state.markDead reason) := by
  have latches : ∀ entry : ConnEntry P, Serving entry
      (if entry.error.isNone then { entry with error := some .closed } else entry) := by
    intro entry
    split
    · exact .of_same rfl rfl rfl
    · exact .refl entry
  exact mapped latches rfl rfl rfl rfl

theorem handleTimeouts (state : State P) (now : Instant) :
    state.Serves (state.handleTimeouts now) := by
  have expires : ∀ entry : ConnEntry P, Serving entry
      (if (P.pollTimeout entry.conn).any (· ≤ now) then
        (entry.call (.handleTimeout now)).2
      else entry) := by
    intro entry
    split
    · exact .call entry (.handleTimeout now) fun _ _ => rfl
    · exact .refl entry
  exact mapped expires rfl rfl rfl rfl

theorem closeAll (state : State P) (now : Instant) (reason : Bytes) :
    state.Serves (state.closeAll now reason) :=
  mapped (fun entry => Serving.covers.close entry now 0 reason) rfl rfl rfl rfl

theorem close (state : State P) (now : Instant) (reason : Bytes) :
    state.Serves (state.close now reason) := by
  rw [State.close]
  split
  · exact refl state
  · have latched : state.Serves { state with closed := true, closedAt := some now } :=
      of_same rfl rfl rfl rfl
    exact latched.trans (closeAll _ now reason)

theorem insertConn (state : State P) (handle : ConnectionHandle) {conn : P.Connection}
    (creates : P.Creates conn) (expectedPeer : Option EndpointId) (acceptedSide : Bool)
    (origin : Origin) :
    state.Serves (state.insertConn handle conn expectedPeer acceptedSide origin) where
  connections := Nat.le_succ _
  queue := ⟨[], (List.append_nil _).symm, (List.append_nil _).symm⟩
  entries other after found := by
    rw [State.insertConn, Table.get?_set] at found
    split at found
    · cases found
      exact .inr ⟨ConnEntry.new_level creates _ _ _ _, Nat.le_refl _⟩
    · exact .inl ⟨after, found, .refl after⟩

end State.Serves

end IrohEndpoint
