import IrohEndpoint.Calls

/-! # Which records a step leaves

Only the calls of a stream leave records that move bytes on it. The pump and the sessions
leave none, a method that answers at once leaves none that moves bytes, and a poll leaves
its own. -/

namespace IrohEndpoint

variable {P : Platform}

structure Half where
  target : Target
  stream : StreamId
  sends : Bool
  deriving DecidableEq

def StreamRecord.stream : StreamRecord → StreamId
  | .read id .. | .stop id | .write id .. | .finish id _ | .reset id => id

def StreamRecord.moves : StreamRecord → Bool
  | .read .. | .write .. => true
  | .stop .. | .finish .. | .reset .. => false

def Half.Has (half : Half) (record : StreamRecord) : Prop :=
  record.stream = half.stream ∧ record.isSend = half.sends

def Call.half? : Call → Option Half
  | .write target id _ _ | .sourcing target id | .forwarding target id _ _ _ =>
      some ⟨target, id, true⟩
  | .read target id _ | .streaming target id | .delivering target id =>
      some ⟨target, id, false⟩
  | _ => none

/-! ## One entry -/

/-- The entry is of the same connection and has more records, all of them as `Leaves` says. -/
def Recording (Leaves : StreamRecord → Prop) (entry after : ConnEntry P) : Prop :=
  after.trace.serial = entry.trace.serial ∧ ∃ added,
    after.trace.streams = entry.trace.streams ++ added ∧ ∀ record ∈ added, Leaves record

namespace Recording

variable {Leaves : StreamRecord → Prop} {entry middle after : ConnEntry P}

theorem of_same (serial : after.trace.serial = entry.trace.serial)
    (streams : after.trace.streams = entry.trace.streams) : Recording Leaves entry after :=
  ⟨serial, [], by rw [streams, List.append_nil], by simp⟩

theorem refl (entry : ConnEntry P) : Recording Leaves entry entry := of_same rfl rfl

theorem trans (front : Recording Leaves entry middle) (back : Recording Leaves middle after) :
    Recording Leaves entry after := by
  rcases front with ⟨serial, early, streams, first⟩
  rcases back with ⟨same, late, more, second⟩
  refine ⟨same.trans serial, early ++ late, ?_, ?_⟩
  · rw [more, streams, List.append_assoc]
  · intro record member
    rcases List.mem_append.mp member with old | new
    · exact first record old
    · exact second record new

theorem record (entry : ConnEntry P) {record : StreamRecord} (left : Leaves record) :
    Recording Leaves entry (entry.record record) :=
  ⟨rfl, [record], rfl, by simpa using left⟩

theorem readSomeCheck {stream : StreamId} (own : ∀ record : StreamRecord,
      record.stream = stream → record.isSend = false → Leaves record)
    (entry : ConnEntry P) (max : Nat) (reader : StreamReader) :
    Recording Leaves entry (entry.readSomeCheck stream max reader).2 := by
  rw [ConnEntry.readSomeCheck]
  split
  · exact record entry (own _ rfl rfl)
  · have called : Recording Leaves entry (entry.call (.read stream max)).2 := of_same rfl rfl
    exact called.trans (record _ (own _ rfl rfl))

theorem recvDatagramCheck (entry : ConnEntry P) :
    Recording Leaves entry entry.recvDatagramCheck.2 := by
  have called : Recording Leaves entry (entry.call .recvDatagram).2 := of_same rfl rfl
  rw [ConnEntry.recvDatagramCheck]
  split <;> rename_i answer <;> rw [answer] at called <;> exact called

theorem sendDatagram (entry : ConnEntry P) (data : Bytes) :
    Recording Leaves entry (entry.sendDatagram data).2 := by
  have called : Recording Leaves entry (entry.call (.sendDatagram data)).2 := of_same rfl rfl
  rw [ConnEntry.sendDatagram]
  split
  · exact refl entry
  · split <;> rename_i answer <;> rw [answer] at called <;> exact called

theorem close (entry : ConnEntry P) (now : Instant) (code : UInt32) (reason : Bytes) :
    Recording Leaves entry (entry.close now code reason) := by
  rw [ConnEntry.close]
  split
  · exact of_same rfl rfl
  · exact refl entry

theorem finish {stream : StreamId} (own : ∀ answer, Leaves (.finish stream answer))
    (entry : ConnEntry P) : Recording Leaves entry (entry.finish stream).2 := by
  have called : Recording Leaves entry (entry.call (.finish stream)).2 := of_same rfl rfl
  rw [ConnEntry.finish]
  split
  · exact refl entry
  · dsimp only
    split <;> exact called.trans (record _ (own _))

theorem writeAllCheck {id : StreamId} {bytes : Bytes}
    (own : ∀ slice answer, Leaves (.write id slice answer)) {offset reached : Nat}
    {answer : Option (Except Error Unit)}
    (checked : entry.writeAllCheck id bytes offset = .ok (answer, reached, after)) :
    Recording Leaves entry after := by
  apply ConnEntry.writeAllCheck_invariant (Recording Leaves entry) _ (refl entry) checked
  intro loop next again sofar stepped
  rw [ConnEntry.writeRound_entry stepped]
  have called : Recording Leaves loop.entry
      (loop.entry.call (.write id (bytes.drop loop.offset))).2 := of_same rfl rfl
  exact sofar.trans (called.trans (record _ (own _ _)))

end Recording

/-! ## The whole state -/

/-- Every entry of `next` has left records as `Leaves` says, or its connection is new. -/
structure State.Records (Leaves : ConnectionHandle → StreamRecord → Prop)
    (state next : State P) : Prop where
  connections : state.history.connections ≤ next.history.connections
  entries : ∀ handle after, next.conns.get? handle = some after →
    (∃ entry, state.conns.get? handle = some entry ∧ Recording (Leaves handle) entry after) ∨
    state.history.connections ≤ after.trace.serial

namespace State.Records

variable {Leaves : ConnectionHandle → StreamRecord → Prop} {state middle next : State P}

theorem of_same (conns : next.conns = state.conns)
    (connections : next.history.connections = state.history.connections) :
    state.Records Leaves next := by
  refine ⟨connections.ge, ?_⟩
  intro handle after found
  exact .inl ⟨after, conns ▸ found, .refl after⟩

theorem refl (state : State P) : state.Records Leaves state := of_same rfl rfl

theorem trans (front : state.Records Leaves middle) (back : middle.Records Leaves next) :
    state.Records Leaves next := by
  refine ⟨Nat.le_trans front.connections back.connections, ?_⟩
  intro handle after found
  rcases back.entries handle after found with ⟨between, lookup, late⟩ | newer
  · rcases front.entries handle between lookup with ⟨entry, first, early⟩ | newer
    · exact .inl ⟨entry, first, early.trans late⟩
    · exact .inr (late.1 ▸ newer)
  · exact .inr (Nat.le_trans front.connections newer)

theorem mapped {change : ConnEntry P → ConnEntry P}
    (kept : ∀ entry, (change entry).trace = entry.trace)
    (conns : next.conns = state.conns.mapValues change)
    (connections : next.history.connections = state.history.connections) :
    state.Records Leaves next := by
  refine ⟨connections.ge, ?_⟩
  intro handle after found
  rw [conns, Table.get?_mapValues, Option.map_eq_some_iff] at found
  rcases found with ⟨entry, lookup, rfl⟩
  exact .inl ⟨entry, lookup, .of_same (by rw [kept]) (by rw [kept])⟩

theorem setEntry {handle : ConnectionHandle} {entry after : ConnEntry P}
    (found : state.conns.get? handle = some entry)
    (leaving : Recording (Leaves handle) entry after) :
    state.Records Leaves { state with conns := state.conns.set handle after } := by
  refine ⟨Nat.le_refl _, ?_⟩
  intro other later lookup
  rw [Table.get?_set] at lookup
  split at lookup
  · rename_i same
    cases lookup
    subst same
    exact .inl ⟨entry, found, leaving⟩
  · exact .inl ⟨later, lookup, .refl later⟩

theorem insertConn (state : State P) (handle : ConnectionHandle) (conn : P.Connection)
    (expectedPeer : Option EndpointId) (acceptedSide : Bool) (origin : Origin) :
    state.Records Leaves (state.insertConn handle conn expectedPeer acceptedSide origin) := by
  refine ⟨Nat.le_succ _, ?_⟩
  intro other after found
  rw [State.insertConn, Table.get?_set] at found
  split at found
  · cases found
    exact .inr (Nat.le_refl _)
  · exact .inl ⟨after, found, .refl after⟩

theorem markDead (state : State P) (reason : String) :
    state.Records Leaves (state.markDead reason) := by
  have latches : ∀ entry : ConnEntry P,
      (if entry.error.isNone then { entry with error := some .closed } else entry).trace =
        entry.trace := by
    intro entry
    split <;> rfl
  exact mapped latches rfl rfl

theorem handleTimeouts (state : State P) (now : Instant) :
    state.Records Leaves (state.handleTimeouts now) := by
  have expires : ∀ entry : ConnEntry P,
      (if (P.pollTimeout entry.conn).any (· ≤ now) then
        (entry.call (.handleTimeout now)).2
      else entry).trace = entry.trace := by
    intro entry
    split <;> rfl
  exact mapped expires rfl rfl

theorem close (state : State P) (now : Instant) (reason : Bytes) :
    state.Records Leaves (state.close now reason) := by
  have closes : ∀ entry : ConnEntry P, (entry.close now 0 reason).trace = entry.trace := by
    intro entry
    rw [ConnEntry.close]
    split <;> rfl
  rw [State.close]
  split
  · exact refl state
  · have latched : state.Records Leaves { state with closed := true, closedAt := some now } :=
      of_same rfl rfl
    exact latched.trans (mapped closes rfl rfl)

end State.Records

theorem StateStep.records {Leaves : ConnectionHandle → StreamRecord → Prop} {task : Task}
    {state next : State P} (step : StateStep task state next) (idle : task.calls = false) :
    state.Records Leaves next := by
  cases step with
  | entry handle entry after io found _ _ _ _ serves _ =>
      have drained := (serves idle).1
      refine ⟨Nat.le_refl _, ?_⟩
      exact (State.Records.setEntry found (.of_same drained.serial drained.streams)).entries
  | inserted handle conn expectedPeer acceptedSide origin _ _ _ =>
      exact .insertConn state handle conn expectedPeer acceptedSide origin
  | markedDead reason _ => exact .markDead state reason
  | timedOut now => exact .handleTimeouts state now
  | closed now reason _ => exact .close state now reason
  | responded addr source payload =>
      rcases state.pushResponse_frame addr source payload with ⟨_, _, _, frame⟩
      rw [frame]
      exact .of_same rfl rfl
  | sighted peer via =>
      rcases state.addrForPeer_frame peer via with ⟨_, _, _, _, frame⟩
      rw [frame]
      exact .of_same rfl rfl
  | dialed peer key =>
      rcases state.dialStandin_frame peer key with ⟨_, _, _, _, frame⟩
      rw [frame]
      exact .of_same rfl rfl
  | channelRegistered peer wire _ =>
      rcases state.registerChannel_frame peer wire with ⟨_, _, _, _, _, _, _, _, _, frame⟩
      rw [frame]
      exact .of_same rfl rfl
  | channelDied id wire _ =>
      rcases state.channelDied_frame id wire with ⟨_, _, frame⟩
      rw [frame]
      exact .of_same rfl rfl
  | _ => exact .of_same rfl rfl

theorem StateSteps.records {Leaves : ConnectionHandle → StreamRecord → Prop} {task : Task}
    {state next : State P} (steps : StateSteps task state next) (idle : task.calls = false) :
    state.Records Leaves next := by
  induction steps with
  | refl => exact .refl state
  | tail _ step induction => exact induction.trans (step.records idle)

theorem Resolution.records {Leaves : ConnectionHandle → StreamRecord → Prop} {opened : Bool}
    {claim : Option String} {keys : List UInt32} {state between : State P}
    (resolution : Resolution opened claim state keys between) :
    state.Records Leaves between := by
  cases resolution with
  | unclaimed _ => exact .refl state
  | failed url _ => exact .of_same rfl rfl
  | registered url conn _ _ _ => exact .of_same rfl rfl

theorem Dialing.records {Leaves : ConnectionHandle → StreamRecord → Prop} {peer : EndpointId}
    {keys : List UInt32} {state : State P} {result : Connecting × State P}
    (dialing : Dialing peer keys state result) : state.Records Leaves result.2 := by
  have remote : ∀ (state : State P) (dial : Dial) (dialKey : UInt32) (noq : P.Endpoint),
      state.Records Leaves { (state.dialRemote dial dialKey).2 with noq } := by
    intro state dial dialKey noq
    rcases state.dialRemote_frame dial dialKey with ⟨_, _, _, _, frame⟩
    rw [frame]
    exact .of_same rfl rfl
  induction dialing with
  | failed keys state error => exact .refl state
  | waiting keys state phase _ _ _ _ => exact .refl state
  | claimed keys state phase url _ _ _ _ _ _ => exact .of_same rfl rfl
  | ensured keys state url key result _ _ induction =>
      have noted : state.Records Leaves (state.noteEnsured url key) := .of_same rfl rfl
      exact noted.trans induction
  | rejected keys state dial dialKey noq error _ => exact remote state dial dialKey noq
  | dialed keys state inserted next dial dialKey noq handle conn upgrades _ _ _ _ _ insertion
      queueing _ _ =>
      subst insertion queueing
      have added := (remote state dial dialKey noq).trans
        (.insertConn _ handle conn (some dial.peer) false (.dialed dial.peer))
      exact added.trans (.of_same rfl rfl)

/-! ## Calls and methods -/

namespace Config

variable {config middle next : Config P} {id : Nat} {target : Target}

section Accesses

variable {Leaves : ConnectionHandle → StreamRecord → Prop}

theorem access_records {α : Type} {handle : ConnectionHandle}
    {run : ConnEntry P → Except Abort (α × ConnEntry P)} {value : α} {state : State P}
    (ran : config.state.withEntry handle run = .ok (value, state))
    (leaves : ∀ entry value after, config.state.conns.get? handle = some entry →
      run entry = .ok (value, after) → Recording (Leaves handle) entry after) :
    config.state.Records Leaves state := by
  rcases withEntry_ok ran with ⟨entry, after, found, accessed, rfl⟩
  exact .setEntry found (leaves entry value after found accessed)

private theorem check_records {α : Type} {handle : ConnectionHandle}
    {run : ConnEntry P → α × ConnEntry P} {value : α} {state : State P}
    (ran : config.state.withEntry handle (fun entry => .ok (run entry)) = .ok (value, state))
    (leaves : ∀ entry, Recording (Leaves handle) entry (run entry).2) :
    config.state.Records Leaves state := by
  refine access_records ran ?_
  intro entry value after _ checked
  have left := leaves entry
  rw [Except.ok.inj checked] at left
  exact left

private theorem touch_records {access : ConnEntry P → ConnEntry P}
    (leaves : ∀ entry, Recording (Leaves target.handle) entry (access entry))
    (ran : config.touch target access = .ok next) : config.state.Records Leaves next.state := by
  rcases bind_eq_ok.mp ran with ⟨⟨value, state⟩, accessed, result⟩
  cases result
  exact check_records accessed leaves

private theorem resumeStream_records {shape : StreamShape}
    {check : ConnEntry P → Option (Except Error StreamId) × ConnEntry P}
    (leaves : ∀ entry, Recording (Leaves target.handle) entry (check entry).2)
    (ran : config.resumeStream id target shape check = .ok next) :
    config.state.Records Leaves next.state := by
  rcases bind_eq_ok.mp ran with ⟨⟨answer, state⟩, accessed, rest⟩
  have left := check_records accessed leaves
  dsimp only at rest
  split at rest <;> cases rest
  · exact left
  · rw [settle_state]
    exact left
  · rw [settle_state]
    exact left

private theorem resumeWrite_records {stream : StreamId} {bytes : Bytes} {offset : Nat}
    {answer : Option (Except Error Unit) × Nat}
    (own : ∀ slice answer, Leaves target.handle (.write stream slice answer))
    (ran : config.resumeWrite target stream bytes offset = .ok (answer, next)) :
    config.state.Records Leaves next.state := by
  rcases bind_eq_ok.mp ran with ⟨⟨value, state⟩, accessed, result⟩
  cases result
  refine access_records accessed ?_
  intro entry value after _ writing
  rcases bind_eq_ok.mp writing with ⟨⟨written, reached, moved⟩, wrote, same⟩
  cases same
  exact .writeAllCheck own wrote

private theorem resumeRead_records {stream : StreamId} {max : Nat} {reader : StreamReader}
    {answer : Option (Except Error (Option Bytes))}
    (own : ∀ record : StreamRecord, record.stream = stream → record.isSend = false →
      Leaves target.handle record)
    (ran : config.resumeRead target stream max reader = .ok (answer, next)) :
    config.state.Records Leaves next.state := by
  rcases bind_eq_ok.mp ran with ⟨⟨value, state⟩, accessed, result⟩
  cases result
  exact check_records accessed fun entry => .readSomeCheck own entry max reader

private theorem finishStream_records {stream : StreamId} {answer : Except Error Unit}
    (own : ∀ answer, Leaves target.handle (.finish stream answer))
    (ran : config.finishStream target stream = .ok (answer, next)) :
    config.state.Records Leaves next.state := by
  rcases bind_eq_ok.mp ran with ⟨⟨value, state⟩, accessed, result⟩
  cases result
  exact check_records accessed fun entry => .finish own entry

theorem afterChunk_records {stream : StreamId} {last : Bool}
    (own : ∀ answer, Leaves target.handle (.finish stream answer))
    (ran : config.afterChunk id target stream last = .ok next) :
    config.state.Records Leaves next.state := by
  rw [afterChunk] at ran
  split at ran
  · rcases bind_eq_ok.mp ran with ⟨⟨answer, finished⟩, finishing, result⟩
    cases result
    rw [settle_state]
    exact finishStream_records own finishing
  · cases ran
    exact .refl _

private theorem resumeAccept_records (ran : config.resumeAccept id = .ok next) :
    config.state.Records Leaves next.state := by
  have kept : ∀ answer state, config.state.acceptCheck = (answer, state) →
      config.state.Records Leaves state := by
    intro answer state checked
    rw [State.acceptCheck] at checked
    split at checked
    · cases checked
      exact .of_same rfl rfl
    · split at checked <;> cases checked <;> exact .refl _
  rw [resumeAccept] at ran
  split at ran <;> rename_i checked <;> cases ran
  · exact kept _ _ checked
  · rw [settle_state]
    exact kept _ _ checked
  · rw [settle_state]
    exact kept _ _ checked

private theorem connecting_records {fresh : Nat} {addr : EndpointAddr}
    {progress : Connecting × State P} (records : config.state.Records Leaves progress.2)
    (made : next = ({ config with fresh } : Config P).connecting id addr progress) :
    config.state.Records Leaves next.state := by
  rcases connecting_frame ({ config with fresh } : Config P) id addr progress with
    ⟨_, _, _, _, frame⟩
  rw [made, frame]
  exact records

private theorem resumeConnect_records {addr : EndpointAddr} {phase : ConnectPhase}
    {input : CallInput}
    (ran : config.resumeConnect id addr phase input = .ok next) :
    config.state.Records Leaves next.state := by
  rw [resumeConnect.eq_def] at ran
  split at ran
  · rename_i url result suspended
    cases ran
    rcases Dialing.opened config.state config.clock phase suspended result config.fresh with
      ⟨keys, between, resolution, dialing⟩
    exact connecting_records (resolution.records.trans dialing.records) rfl
  · rename_i url started suspended
    have opens : phase.ensure?.isSome = true := by rw [suspended]; rfl
    split at ran <;> rename_i polled <;> cases ran
    · rw [Dialing.pollEnsure_none polled]
      exact .refl _
    · exact connecting_records (Dialing.pollEnsure config.clock started phase opens polled).records
        rfl
  · split at ran
    · rcases bind_eq_ok.mp ran with ⟨⟨answer, state⟩, accessed, rest⟩
      have left : config.state.Records Leaves state := check_records accessed .refl
      dsimp only at rest
      split at rest <;> cases rest
      · exact left
      · rw [settle_state]
        exact left
      · rw [settle_state]
        exact left
    · cases ran
  · cases ran

end Accesses

def Leaves (config : Config P) : Action → ConnectionHandle → StreamRecord → Prop
  | .invoke _, _, record => record.moves = false
  | .resume id _, handle, record => ∃ call half, config.calls.get? id = some call ∧
      call.half? = some half ∧ half.target.handle = handle ∧ half.Has record
  | _, _, _ => False

private theorem resumeCall_records {call : Call} {input : CallInput}
    (pending : config.calls.get? id = some call)
    (ran : config.resumeCall id call input = .ok next) :
    config.state.Records (config.Leaves (.resume id input)) next.state := by
  have own : ∀ half record, call.half? = some half → half.Has record →
      config.Leaves (.resume id input) half.target.handle record :=
    fun half record on has => ⟨call, half, pending, on, rfl, has⟩
  rw [resumeCall.eq_def] at ran
  split at ran
  · exact resumeConnect_records ran
  · exact resumeAccept_records ran
  · refine resumeStream_records ?_ ran
    intro entry
    rw [ConnEntry.openStreamCheck]
    split
    · exact .refl entry
    · exact .of_same rfl rfl
  · rename_i target dir shape
    refine resumeStream_records ?_ ran
    intro entry
    rw [ConnEntry.acceptStreamCheck]
    split
    · cases dir <;> exact .of_same rfl rfl
    · exact .refl entry
  · rcases bind_eq_ok.mp ran with ⟨⟨answer, state⟩, accessed, rest⟩
    have left : config.state.Records (config.Leaves (.resume id .poll)) state :=
      check_records accessed .recvDatagramCheck
    dsimp only at rest
    split at rest <;> cases rest
    · exact left
    · rw [settle_state]
      exact left
  · rcases bind_eq_ok.mp ran with ⟨⟨answer, state⟩, accessed, rest⟩
    have left : config.state.Records (config.Leaves (.resume id .poll)) state :=
      check_records accessed .refl
    dsimp only at rest
    split at rest <;> cases rest
    · exact left
    · rw [settle_state]
      exact left
  · rename_i target stream bytes offset
    rcases bind_eq_ok.mp ran with ⟨⟨⟨answer, reached⟩, written⟩, writing, rest⟩
    have left := resumeWrite_records (fun slice answer =>
      own ⟨target, stream, true⟩ (.write stream slice answer) rfl ⟨rfl, rfl⟩) writing
    dsimp only at rest
    split at rest <;> cases rest
    · exact left
    · rw [settle_state]
      exact left
  · rename_i target stream max
    rcases bind_eq_ok.mp ran with ⟨⟨answer, read⟩, reading, rest⟩
    have left := resumeRead_records (fun record on reads =>
      own ⟨target, stream, false⟩ record rfl ⟨on, reads⟩) reading
    dsimp only at rest
    split at rest <;> cases rest
    · exact left
    · rw [settle_state]
      exact left
  · rename_i target stream bytes last
    split at ran
    · exact afterChunk_records (fun answer =>
        own ⟨target, stream, true⟩ (.finish stream answer) rfl ⟨rfl, rfl⟩) ran
    · cases ran
      exact .refl _
  · rename_i target stream bytes offset last
    rcases bind_eq_ok.mp ran with ⟨⟨⟨answer, reached⟩, written⟩, writing, rest⟩
    have left := resumeWrite_records (fun slice answer =>
      own ⟨target, stream, true⟩ (.write stream slice answer) rfl ⟨rfl, rfl⟩) writing
    dsimp only at rest
    split at rest
    · cases rest
      exact left
    · cases rest
      rw [settle_state]
      exact left
    · exact left.trans (afterChunk_records (fun answer =>
        own ⟨target, stream, true⟩ (.finish stream answer) rfl ⟨rfl, rfl⟩) rest)
  · rename_i target stream
    rcases bind_eq_ok.mp ran with ⟨⟨answer, read⟩, reading, rest⟩
    have left := resumeRead_records (fun record on reads =>
      own ⟨target, stream, false⟩ record rfl ⟨on, reads⟩) reading
    dsimp only at rest
    split at rest <;> cases rest
    · exact left
    · exact left
    · rw [settle_state]
      exact left
  · split at ran <;> cases ran
    · rw [settle_state]
      exact .refl _
    · exact .refl _
  · cases ran

private theorem invoke_records {method : Method} (ran : config.invoke method = .ok next) :
    config.state.Records (config.Leaves (.invoke method)) next.state := by
  rw [invoke.eq_def] at ran
  split at ran
  · rw [invokeResource.eq_def] at ran
    split at ran
    · cases ran
    · cases ran
      exact .refl _
    · rw [invokeConnection.eq_def] at ran
      split at ran
      case h_5 => exact touch_records (fun entry => .sendDatagram entry _) ran
      case h_7 => exact touch_records (fun entry => .close entry config.clock _ _) ran
      all_goals
        cases ran
        try exact .refl _
    · rw [invokeSend.eq_def] at ran
      split at ran
      · cases ran
        exact .refl _
      · rcases bind_eq_ok.mp ran with ⟨⟨answer, finished⟩, finishing, result⟩
        cases result
        exact finishStream_records (fun _ => rfl) finishing
      · refine touch_records ?_ ran
        intro entry
        exact .record (entry.call _).2 rfl
      · cases ran
        exact .refl _
      · cases ran
    · rw [invokeRecv.eq_def] at ran
      split at ran
      · split at ran
        · cases ran
          exact .refl _
        · split at ran <;> cases ran <;> exact .refl _
      · refine touch_records ?_ ran
        intro entry
        exact .record (entry.call _).2 rfl
      · split at ran <;> cases ran <;> exact .refl _
      · cases ran
  · rename_i addr alpn _
    split at ran <;> cases ran
    refine connecting_records ?_ rfl
    rcases Dialing.connect config.state config.clock config.udp addr alpn
      (List.mem_singleton_self homeRelay) with ⟨_, failed⟩ | ⟨peer, _, dialing⟩
    · rw [failed]
      exact .refl config.state
    · exact dialing.records
  · split at ran <;> cases ran
    exact .refl _
  · split at ran <;> cases ran
    exact .close config.state config.clock _
  · split at ran <;> cases ran
    exact .close config.state config.clock _
  · cases ran

theorem Acts.records {action : Action} (acts : config.Acts action next) :
    config.state.Records (config.Leaves action) next.state := by
  cases acts with
  | advanced elapsed => exact .refl _
  | pumped input state pump spawned ran =>
      rcases addSessions_frame spawned ({ config with state, pump } : Config P) with
        ⟨_, _, frame⟩
      rw [frame]
      rcases pumped_steps ran with ⟨task, idle, steps⟩
      exact StateSteps.records steps idle
  | resumed id input session after registration state _ _ ran =>
      exact StateSteps.records (StateSteps.resumes (Session.resumes ran)) rfl
  | invoked method next _ ran => exact invoke_records ran
  | polled id input call next _ pending ran => exact resumeCall_records pending ran

end Config

end IrohEndpoint
