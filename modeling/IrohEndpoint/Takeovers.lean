import IrohEndpoint.StreamRecords
import IrohEndpoint.Writes
import IrohEndpoint.Streams
import IrohEndpoint.Handles

/-! # Stream takeovers

`read-via-stream` and `write-via-stream` take a half of a stream over. A log beside the run
keeps where in the connection's records each takeover stands and what its own polls have
left since. -/

namespace IrohEndpoint

open Relation

variable {P : Platform}

/-! ## Bytes that move on a half -/

/-- The bytes that the records move: what noq handed out, or what noq accepted. -/
def Half.moved (half : Half) (records : List StreamRecord) : Bytes :=
  if half.sends then acceptedBytes half.stream records
  else answeredBytes half.stream records

namespace Half

variable {half other : Half}

private theorem target_eq {left right : Target} (handle : left.handle = right.handle)
    (serial : left.serial = right.serial) : left = right := by
  cases left
  cases right
  exact congr (congrArg Target.mk handle) serial

private theorem half_eq (target : half.target = other.target) (stream : half.stream = other.stream)
    (sends : half.sends = other.sends) : half = other := by
  cases half
  cases other
  exact congr (congr (congrArg Half.mk target) stream) sends

@[simp] theorem moved_nil (half : Half) : half.moved [] = [] := by
  rw [moved]
  split <;> rfl

@[simp] theorem moved_append (half : Half) (front back : List StreamRecord) :
    half.moved (front ++ back) = half.moved front ++ half.moved back := by
  simp only [moved, acceptedBytes, answeredBytes, List.flatMap_append]
  split <;> rfl

private theorem moved_eq_nil {records : List StreamRecord}
    (still : ∀ record ∈ records, half.moved [record] = []) : half.moved records = [] := by
  induction records with
  | nil => exact moved_nil half
  | cons record records induction =>
      rw [← List.singleton_append, moved_append, still record (by simp), List.nil_append]
      exact induction fun later member => still later (by simp [member])

private theorem moved_member {records : List StreamRecord} {record : StreamRecord}
    (still : half.moved records = []) (member : record ∈ records) :
    half.moved [record] = [] := by
  rcases List.append_of_mem member with ⟨front, back, rfl⟩
  rw [← List.singleton_append, moved_append, moved_append, List.append_eq_nil_iff,
    List.append_eq_nil_iff] at still
  exact still.2.1

private theorem moved_silent (half : Half) {record : StreamRecord} (silent : record.moves = false) :
    half.moved [record] = [] := by
  rw [moved]
  cases record with
  | read => cases silent
  | write => cases silent
  | stop => split <;> rfl
  | finish => split <;> rfl
  | reset => split <;> rfl

private theorem moved_other {record : StreamRecord} (has : other.Has record)
    (apart : other.stream = half.stream → other.sends ≠ half.sends) :
    half.moved [record] = [] := by
  rcases has with ⟨stream, sends⟩
  rw [moved]
  cases record with
  | read id reader latched answer result =>
      split
      · rfl
      · rename_i receives
        simp only [Bool.not_eq_true] at receives
        have elsewhere : id ≠ half.stream := by
          intro same
          exact apart (stream ▸ same) (sends ▸ receives.symm)
        simp only [answeredBytes, List.flatMap_singleton, StreamRecord.answered]
        split
        · rename_i stream _ _ _ _ same
          cases same
          exact if_neg elsewhere
        · rfl
  | write id slice answer =>
      split
      · rename_i writes
        have elsewhere : id ≠ half.stream := by
          intro same
          exact apart (stream ▸ same) (sends ▸ writes.symm)
        rw [acceptedBytes_singleton]
        cases answer with
        | error refusal => rfl
        | ok written => exact if_neg elsewhere
      · rfl
  | stop => split <;> rfl
  | finish => split <;> rfl
  | reset => split <;> rfl

end Half

/-! ## Streams that take no more bytes -/

def Platform.Sealed (P : Platform) (stream : StreamId) (conn : P.Connection) : Prop :=
  ∀ later, ReflTransGen P.Touches conn later → ∀ data written,
    (P.call (.write stream data) later).1 = .ok written → data.take written = []

/-- A stream that was finished, or refused for another reason than flow control, takes no
more bytes. -/
structure Platform.Seals (P : Platform) : Prop where
  finish : ∀ conn stream, P.Sealed stream (P.call (.finish stream) conn).2
  write : ∀ conn stream data refusal, (P.call (.write stream data) conn).1 = .error refusal →
    refusal ≠ .blocked → P.Sealed stream (P.call (.write stream data) conn).2

theorem Platform.Sealed.touched {stream : StreamId} {conn later : P.Connection}
    (sealed_ : P.Sealed stream conn) (touched : ReflTransGen P.Touches conn later) :
    P.Sealed stream later :=
  fun last rest => sealed_ last (touched.trans rest)

namespace ConnEntry

def Shut (entry : ConnEntry P) (stream : StreamId) : Prop :=
  entry.error.isSome = true ∨ P.Sealed stream entry.conn

variable {entry after : ConnEntry P} {stream : StreamId}

theorem Shut.steps (shut : entry.Shut stream) (steps : EntrySteps entry after) :
    after.Shut stream :=
  shut.imp steps.evolves.error fun sealed_ => sealed_.touched steps.evolves.conn

private theorem finish_shut (seals : P.Seals) (entry : ConnEntry P) (stream : StreamId) :
    (entry.finish stream).2.Shut stream := by
  rw [finish]
  split
  · rename_i error latched
    exact .inl (by rw [latched]; rfl)
  · have sealed_ : P.Sealed stream ((entry.call (.finish stream)).2.record
        (.finish stream (entry.call (.finish stream)).1)).conn := seals.finish entry.conn stream
    dsimp only
    split <;> exact .inr sealed_

private theorem writeRound_shut (seals : P.Seals) {bytes : Bytes} {loop next : WriteLoop P}
    {again : Bool} (stepped : writeRound stream bytes loop = .ok (next, again)) {error : Error}
    (failed : next.result = some (some (.error error))) : P.Sealed stream next.entry.conn := by
  have refused : ∀ refusal, (loop.entry.call (.write stream (bytes.drop loop.offset))).1 =
      .error refusal → refusal ≠ .blocked →
      P.Sealed stream (loop.entry.call (.write stream (bytes.drop loop.offset))).2.conn :=
    fun refusal answered real => seals.write _ _ _ refusal answered real
  rw [writeRound] at stepped
  split at stepped
  · cases stepped
  · dsimp only at stepped
    split at stepped
    · split at stepped
      · cases stepped
        cases failed
      · split at stepped <;> cases stepped <;> cases failed
    · cases stepped
      cases failed
    · rename_i code answered
      cases stepped
      exact refused _ answered (by simp)
    · rename_i answered
      cases stepped
      exact refused _ answered (by simp)

private theorem writeAllCheck_shut (seals : P.Seals) {bytes : Bytes} {offset reached : Nat}
    {error : Error}
    (checked : entry.writeAllCheck stream bytes offset =
      .ok (some (.error error), reached, after)) :
    after.Shut stream := by
  rw [writeAllCheck] at checked
  split at checked
  · rename_i failure latched
    cases checked
    exact .inl (by rw [latched]; rfl)
  · rcases bind_eq_ok.mp checked with ⟨loop, ran, result⟩
    simp only [Except.ok.injEq, Prod.mk.injEq, Option.join_eq_some_iff] at result
    rcases result with ⟨failed, rfl, rfl⟩
    have shut : ∀ failure, loop.result = some (some (.error failure)) →
        P.Sealed stream loop.entry.conn := by
      apply whileLoop.invariant (fun current : WriteLoop P => ∀ failure,
        current.result = some (some (.error failure)) → P.Sealed stream current.entry.conn) _ _ _
        ran
      · intro current next again _ stepped failure
        exact writeRound_shut seals stepped
      · intro failure impossible
        cases impossible
    exact .inr (shut error failed)

private theorem writeRound_still {bytes : Bytes} {loop next : WriteLoop P} {again : Bool}
    (sealed_ : P.Sealed stream loop.entry.conn)
    (stepped : writeRound stream bytes loop = .ok (next, again)) :
    P.Sealed stream next.entry.conn ∧
      Recording (fun record => record.accepted stream = []) loop.entry next.entry := by
  have called : Recording (fun record => record.accepted stream = []) loop.entry
      (loop.entry.call (.write stream (bytes.drop loop.offset))).2 := .of_same rfl rfl
  have still : (StreamRecord.write stream (bytes.drop loop.offset)
      (loop.entry.call (.write stream (bytes.drop loop.offset))).1).accepted stream = [] := by
    cases answered : (loop.entry.call (.write stream (bytes.drop loop.offset))).1 with
    | error refusal => rfl
    | ok written =>
        rw [StreamRecord.accepted, if_pos rfl]
        exact sealed_ _ .refl _ _ answered
  rw [writeRound_entry stepped]
  exact ⟨sealed_.touched (.single ⟨_, _, rfl⟩), called.trans (.record _ still)⟩

private theorem writeAllCheck_still {bytes : Bytes} {offset reached : Nat}
    {answer : Option (Except Error Unit)} (shut : entry.Shut stream)
    (checked : entry.writeAllCheck stream bytes offset = .ok (answer, reached, after)) :
    Recording (fun record => record.accepted stream = []) entry after := by
  rcases shut with latched | sealed_
  · rcases Option.isSome_iff_exists.mp latched with ⟨error, latched⟩
    rw [writeAllCheck, latched] at checked
    cases checked
    exact .refl entry
  · refine (writeAllCheck_invariant (fun current => P.Sealed stream current.conn ∧
      Recording (fun record => record.accepted stream = []) entry current) ?_
      ⟨sealed_, .refl entry⟩ checked).2
    intro loop next again sofar stepped
    rcases writeRound_still sofar.1 stepped with ⟨kept, left⟩
    exact ⟨kept, sofar.2.trans left⟩

end ConnEntry

/-! ## The halves of the calls -/

def Call.streams : Call → Bool
  | .sourcing .. | .forwarding .. | .streaming .. | .delivering .. => true
  | _ => false

namespace Config

variable {config next : Config P} {id : Nat} {call : Call} {half : Half}

def takes? (config : Config P) : Action → Option Half
  | .invoke (.readViaStream resource) =>
      match config.resources.get? resource with
      | some (.recvStream target stream false) => some ⟨target, stream, false⟩
      | _ => none
  | .invoke (.writeViaStream resource) =>
      match config.resources.get? resource with
      | some (.sendStream target stream) => some ⟨target, stream, true⟩
      | _ => none
  | _ => none

/-- The half that a plain `read` or `write` starts on. -/
def starts? (config : Config P) : Action → Option Half
  | .invoke (.read resource _) =>
      match config.resources.get? resource with
      | some (.recvStream target stream false) => some ⟨target, stream, false⟩
      | _ => none
  | .invoke (.write resource _) =>
      match config.resources.get? resource with
      | some (.sendStream target stream) => some ⟨target, stream, true⟩
      | _ => none
  | _ => none

/-- The call `id` is gone, or it is on the half of `like` and streams as that does. -/
def OnHalf (config : Config P) (id : Nat) (like : Call) : Prop :=
  ∀ call, config.calls.get? id = some call → call.half? = like.half? ∧ call.streams = like.streams

theorem OnHalf.settle (config : Config P) (id : Nat) (outcome : Outcome)
    (resources : List Resource) (like : Call) :
    (config.settle id outcome resources).OnHalf id like := by
  intro call found
  rw [settle_calls] at found
  cases found

theorem OnHalf.keep (config : Config P) (id : Nat) {call like : Call}
    (half : call.half? = like.half?) (streams : call.streams = like.streams) :
    (config.keep id call).OnHalf id like := by
  intro kept found
  rw [Config.keep, Table.get?_set, if_pos rfl] at found
  cases found
  exact ⟨half, streams⟩

theorem OnHalf.pending (pending : config.calls.get? id = some call) :
    config.OnHalf id call := by
  intro same found
  rw [pending] at found
  cases found
  exact ⟨rfl, rfl⟩

theorem OnHalf.connecting (config : Config P) (id : Nat) (addr : EndpointAddr)
    (progress : Connecting × State P) (phase : ConnectPhase) :
    (config.connecting id addr progress).OnHalf id (.connect addr phase) := by
  intro call found
  rcases connecting_calls config id addr progress found with ⟨_, phase, _, rfl⟩ | ⟨apart, _⟩
  · exact ⟨rfl, rfl⟩
  · exact absurd rfl apart

private theorem resumeConnect_half {addr : EndpointAddr} {phase : ConnectPhase} {input : CallInput}
    (pending : config.calls.get? id = some (.connect addr phase))
    (ran : config.resumeConnect id addr phase input = .ok next) :
    next.OnHalf id (.connect addr phase) := by
  have still := OnHalf.pending pending
  rw [resumeConnect.eq_def] at ran
  split at ran
  · cases ran
    exact .connecting _ id addr _ phase
  · split at ran <;> cases ran
    · exact still
    · exact .connecting _ id addr _ phase
  · split at ran
    · rcases bind_eq_ok.mp ran with ⟨⟨answer, state⟩, accessed, rest⟩
      dsimp only at rest
      split at rest <;> cases rest
      · exact still
      · exact .settle _ id _ _ _
      · exact .settle _ id _ _ _
    · cases ran
  · cases ran

private theorem resumeStream_half {target : Target} {shape : StreamShape}
    {check : ConnEntry P → Option (Except Error StreamId) × ConnEntry P}
    {like : Call} (still : config.OnHalf id like)
    (ran : config.resumeStream id target shape check = .ok next) : next.OnHalf id like := by
  rcases bind_eq_ok.mp ran with ⟨⟨answer, state⟩, accessed, rest⟩
  dsimp only at rest
  split at rest <;> cases rest
  · exact still
  · exact .settle _ id _ _ _
  · exact .settle _ id _ _ _

private theorem afterChunk_half {target : Target} {stream : StreamId} {last : Bool} {like : Call}
    (half : like.half? = some ⟨target, stream, true⟩) (streams : like.streams = true)
    (ran : config.afterChunk id target stream last = .ok next) : next.OnHalf id like := by
  rcases afterChunk_cases ran with ⟨_, rfl⟩ | ⟨_, entry, _, rfl⟩
  · exact .keep config id half.symm streams.symm
  · exact .settle _ id _ _ _

private theorem resumeCall_half {input : CallInput} (pending : config.calls.get? id = some call)
    (ran : config.resumeCall id call input = .ok next) : next.OnHalf id call := by
  have still := OnHalf.pending pending
  rw [resumeCall.eq_def] at ran
  split at ran
  · exact resumeConnect_half pending ran
  · rw [resumeAccept] at ran
    split at ran <;> cases ran
    · exact still
    · exact .settle _ id _ _ _
    · exact .settle _ id _ _ _
  · exact resumeStream_half still ran
  · exact resumeStream_half still ran
  · rcases bind_eq_ok.mp ran with ⟨⟨answer, state⟩, accessed, rest⟩
    dsimp only at rest
    split at rest <;> cases rest
    · exact still
    · exact .settle _ id _ _ _
  · rcases bind_eq_ok.mp ran with ⟨⟨answer, state⟩, accessed, rest⟩
    dsimp only at rest
    split at rest <;> cases rest
    · exact still
    · exact .settle _ id _ _ _
  · rcases bind_eq_ok.mp ran with ⟨⟨⟨answer, reached⟩, written⟩, writing, rest⟩
    dsimp only at rest
    split at rest <;> cases rest
    · exact .keep _ id rfl rfl
    · exact .settle _ id _ _ _
  · rcases bind_eq_ok.mp ran with ⟨⟨answer, read⟩, reading, rest⟩
    rcases resumeRead_ok reading with ⟨entry, after, _, _, rfl⟩
    dsimp only at rest
    split at rest <;> cases rest
    · exact still
    · exact .settle _ id _ _ _
  · split at ran
    · exact afterChunk_half rfl rfl ran
    · cases ran
      exact .keep _ id rfl rfl
  · rcases bind_eq_ok.mp ran with ⟨⟨⟨answer, reached⟩, written⟩, writing, rest⟩
    dsimp only at rest
    split at rest
    · cases rest
      exact .keep _ id rfl rfl
    · cases rest
      exact .settle _ id _ _ _
    · exact afterChunk_half rfl rfl rest
  · rcases bind_eq_ok.mp ran with ⟨⟨answer, read⟩, reading, rest⟩
    rcases resumeRead_ok reading with ⟨entry, after, _, _, rfl⟩
    dsimp only at rest
    split at rest <;> cases rest
    · exact still
    · exact .keep _ id rfl rfl
    · exact .settle _ id _ _ _
  · split at ran <;> cases ran
    · exact .settle _ id _ _ _
    · exact .keep _ id rfl rfl
  · cases ran

private theorem addCall_half {started further : Call} {own : Nat}
    (found : (config.addCall started).calls.get? own = some further) :
    config.calls.get? own = some further ∨ (own = config.fresh ∧ further = started) := by
  rw [addCall, Table.get?_set] at found
  split at found
  · rename_i same
    exact .inr ⟨same, (Option.some.inj found).symm⟩
  · exact .inl found

private theorem touch_calls {target : Target} {access : ConnEntry P → ConnEntry P}
    (ran : config.touch target access = .ok next) : next.calls = config.calls := by
  rcases bind_eq_ok.mp ran with ⟨⟨value, state⟩, _, result⟩
  cases result
  rfl

private theorem invokeSend_half {method : Method} {resource : Nat} {target : Target}
    {stream : StreamId}
    (known : method.resource? = some resource)
    (held : config.resources.get? resource = some (.sendStream target stream))
    (ran : config.invokeSend target stream method = .ok next) {further : Call} {own : Nat}
    (found : next.calls.get? own = some further) (on : further.half? = some half) :
    config.calls.get? own = some further ∨ (own = config.fresh ∧
      (config.takes? (.invoke method) = some half ∨
        config.starts? (.invoke method) = some half)) := by
  rw [invokeSend.eq_def] at ran
  split at ran
  · cases ran
    cases known
    rcases addCall_half found with old | ⟨same, rfl⟩
    · exact .inl old
    · cases on
      exact .inr ⟨same, .inr (by simp [starts?, held])⟩
  · rcases bind_eq_ok.mp ran with ⟨⟨answer, finished⟩, finishing, result⟩
    cases result
    rcases finishStream_ok finishing with ⟨_, _, _, _, rfl⟩
    exact .inl found
  · exact .inl (touch_calls ran ▸ found)
  · cases ran
    cases known
    rcases addCall_half found with old | ⟨same, rfl⟩
    · exact .inl old
    · cases on
      exact .inr ⟨same, .inl (by simp [takes?, held])⟩
  · cases ran

private theorem invokeRecv_half {method : Method} {resource : Nat} {target : Target}
    {stream : StreamId}
    {streaming : Bool} (known : method.resource? = some resource)
    (held : config.resources.get? resource = some (.recvStream target stream streaming))
    (ran : config.invokeRecv resource target stream streaming method = .ok next)
    {further : Call} {own : Nat} (found : next.calls.get? own = some further)
    (on : further.half? = some half) :
    config.calls.get? own = some further ∨ (own = config.fresh ∧
      (config.takes? (.invoke method) = some half ∨
        config.starts? (.invoke method) = some half)) := by
  rw [invokeRecv.eq_def] at ran
  split at ran
  · cases known
    split at ran
    · cases ran
      exact .inl found
    · rename_i untaken
      split at ran <;> cases ran
      · exact .inl found
      · rcases addCall_half found with old | ⟨same, rfl⟩
        · exact .inl old
        · cases on
          rw [Bool.not_eq_true] at untaken
          subst untaken
          exact .inr ⟨same, .inr (by simp [starts?, held])⟩
  · exact .inl (touch_calls ran ▸ found)
  · cases known
    split at ran
    · cases ran
      exact .inl found
    · rename_i untaken
      cases ran
      rcases addCall_half found with old | ⟨same, rfl⟩
      · exact .inl old
      · cases on
        rw [Bool.not_eq_true] at untaken
        subst untaken
        exact .inr ⟨same, .inl (by simp [takes?, held])⟩
  · cases ran

private theorem invoke_half {method : Method} (ran : config.invoke method = .ok next)
    {further : Call}
    {own : Nat} (found : next.calls.get? own = some further) (on : further.half? = some half) :
    config.calls.get? own = some further ∨ (own = config.fresh ∧
      (config.takes? (.invoke method) = some half ∨
        config.starts? (.invoke method) = some half)) := by
  -- a call that starts on no half is not the one found
  have idle : ∀ started : Call, started.half? = none →
      (config.addCall started).calls.get? own = some further →
      config.calls.get? own = some further := by
    intro started none_ member
    rcases addCall_half member with old | ⟨_, rfl⟩
    · exact old
    · rw [none_] at on
      cases on
  rw [invoke.eq_def] at ran
  split at ran
  · rename_i resource known
    rw [invokeResource.eq_def] at ran
    split at ran
    · cases ran
    · cases ran
      exact .inl found
    · rw [invokeConnection.eq_def] at ran
      split at ran
      case h_5 | h_7 => exact .inl (touch_calls ran ▸ found)
      case h_9 => cases ran
      all_goals
        cases ran
        exact .inl (idle _ rfl found)
    · rename_i held _
      exact invokeSend_half known held ran found on
    · rename_i held _
      exact invokeRecv_half known held ran found on
  · rename_i addr alpn _
    split at ran <;> cases ran
    rcases connecting_calls _ _ _ _ found with ⟨_, phase, _, rfl⟩ | ⟨_, old⟩
    · cases on
    · exact .inl old
  · split at ran <;> cases ran
    exact .inl (idle _ rfl found)
  · split at ran <;> cases ran
    exact .inl found
  · split at ran <;> cases ran
    exact .inl found
  · cases ran

private theorem Acts.onHalf {action : Action} (acts : config.Acts action next) {further : Call}
    {own : Nat} (found : next.calls.get? own = some further) (on : further.half? = some half) :
    (∃ before, config.calls.get? own = some before ∧ before.half? = some half) ∨
    (own = config.fresh ∧
      (config.takes? action = some half ∨ config.starts? action = some half)) := by
  cases acts with
  | advanced elapsed => exact .inl ⟨further, found, on⟩
  | pumped input state pump spawned _ =>
      rw [(config.addSessions_bypasses own state pump spawned).calls] at found
      exact .inl ⟨further, found, on⟩
  | resumed id input session after registration state _ _ _ => exact .inl ⟨further, found, on⟩
  | invoked method next _ ran =>
      rcases invoke_half ran found on with old | new
      · exact .inl ⟨further, old, on⟩
      · exact .inr new
  | polled id input call next _ pending ran =>
      left
      by_cases same : own = id
      · subst same
        have stayed := (resumeCall_half pending ran further found).1
        exact ⟨call, pending, stayed.symm.trans on⟩
      · rw [(resumeCall_bypasses pending same ran).calls] at found
        exact ⟨further, found, on⟩

/-! ## Polls of a writer -/

private theorem resumeWrite_still {target : Target} {stream : StreamId} {bytes : Bytes}
    {offset : Nat}
    {answer : Option (Except Error Unit) × Nat}
    (shut : ∀ entry, config.state.conns.get? target.handle = some entry → entry.Shut stream)
    (ran : config.resumeWrite target stream bytes offset = .ok (answer, next)) :
    config.state.Records (fun _ record => record.accepted stream = []) next.state := by
  rcases bind_eq_ok.mp ran with ⟨⟨value, state⟩, accessed, result⟩
  cases result
  refine access_records accessed ?_
  intro entry value after found writing
  rcases bind_eq_ok.mp writing with ⟨⟨written, reached, moved⟩, wrote, same⟩
  cases same
  exact ConnEntry.writeAllCheck_still (shut entry found) wrote

private theorem resumeCall_still {input : CallInput} {target : Target} {stream : StreamId}
    (on : call.half? = some ⟨target, stream, true⟩)
    (shut : ∀ entry, config.state.conns.get? target.handle = some entry → entry.Shut stream)
    (ran : config.resumeCall id call input = .ok next) :
    config.state.Records (fun _ record => record.accepted stream = []) next.state := by
  cases call with
  | write own writes bytes offset =>
      cases on
      cases input with
      | poll =>
          rcases bind_eq_ok.mp ran with ⟨⟨⟨answer, reached⟩, written⟩, writing, rest⟩
          have left := resumeWrite_still shut writing
          cases answer with
          | none =>
              cases rest
              exact left
          | some result =>
              cases rest
              rw [settle_state]
              exact left
      | _ => cases ran
  | sourcing own sources =>
      cases on
      cases input with
      | source bytes last =>
          rw [resumeCall] at ran
          split at ran
          · exact afterChunk_records (fun _ => rfl) ran
          · cases ran
            exact .refl _
      | _ => cases ran
  | forwarding own forwards bytes offset last =>
      cases on
      cases input with
      | poll =>
          rcases bind_eq_ok.mp ran with ⟨⟨⟨answer, reached⟩, written⟩, writing, rest⟩
          have left := resumeWrite_still shut writing
          cases answer with
          | none =>
              cases rest
              exact left
          | some result =>
              cases result with
              | ok value => exact left.trans (afterChunk_records (fun _ => rfl) rest)
              | error error =>
                  cases rest
                  rw [settle_state]
                  exact left
      | _ => cases ran
  | _ => cases on

private theorem afterChunk_shuts (seals : P.Seals) {target : Target} {stream : StreamId}
    {last : Bool}
    (ran : config.afterChunk id target stream last = .ok next)
    (over_ : next.calls.get? id = none) {entry : ConnEntry P}
    (found : next.state.conns.get? target.handle = some entry) : entry.Shut stream := by
  rcases afterChunk_cases ran with ⟨_, rfl⟩ | ⟨_, current, _, rfl⟩
  · rw [keep, Table.get?_set, if_pos rfl] at over_
    cases over_
  · rw [settle_held] at found
    cases found
    exact current.finish_shut seals stream

private theorem resumeCall_shuts (seals : P.Seals) {input : CallInput} {target : Target}
    {stream : StreamId} (on : call.half? = some ⟨target, stream, true⟩)
    (streams : call.streams = true) (ran : config.resumeCall id call input = .ok next)
    (over_ : next.calls.get? id = none) {entry : ConnEntry P}
    (found : next.state.conns.get? target.handle = some entry) : entry.Shut stream := by
  cases call with
  | sourcing own sources =>
      cases on
      cases input with
      | source bytes last =>
          rw [resumeCall] at ran
          split at ran
          · exact afterChunk_shuts seals ran over_ found
          · cases ran
            rw [keep, Table.get?_set, if_pos rfl] at over_
            cases over_
      | _ => cases ran
  | forwarding own forwards bytes offset last =>
      cases on
      cases input with
      | poll =>
          rcases bind_eq_ok.mp ran with ⟨⟨⟨answer, reached⟩, written⟩, writing, rest⟩
          cases answer with
          | none =>
              cases rest
              rw [keep, Table.get?_set, if_pos rfl] at over_
              cases over_
          | some result =>
              cases result with
              | ok value => exact afterChunk_shuts seals rest over_ found
              | error error =>
                  cases rest
                  rcases bind_eq_ok.mp writing with ⟨⟨value, state⟩, accessed, same⟩
                  cases same
                  rcases withEntry_ok accessed with ⟨current, after, _, checked, rfl⟩
                  rcases bind_eq_ok.mp checked with ⟨⟨_, _, moved⟩, wrote, equal⟩
                  cases equal
                  rw [settle_state] at found
                  dsimp only at found
                  rw [Table.get?_set, if_pos rfl] at found
                  cases found
                  exact ConnEntry.writeAllCheck_shut seals wrote
      | _ => cases ran
  | write own writes bytes offset => cases streams
  | _ => cases on

end Config

/-! ## The log -/

/-- A takeover: the half, how many records its connection had, and what the polls of the
takeover have left since. -/
structure Taken where
  half : Half
  position : Nat
  records : List StreamRecord

abbrev Takings := Table Nat Taken

def Config.recordCount (config : Config P) (handle : ConnectionHandle) : Nat :=
  ((config.state.conns.get? handle).map fun entry => entry.trace.streams.length).getD 0

def Takings.note (log : Takings) (config : Config P) (action : Action) (next : Config P) :
    Takings :=
  match config.takes? action, action with
  | some half, _ => log.set config.fresh ⟨half, config.recordCount half.target.handle, []⟩
  | none, .resume id _ =>
      match log.get? id with
      | some taken => log.set id { taken with
          records := taken.records ++ config.leaves next id }
      | none => log
  | none, _ => log

/-- The step does not bring a second user to a half: nothing is pending on a half that is
taken, no half is read that was taken before, and no half is written that is being written
through a byte stream. -/
def Undisturbed (start : Config P × Takings) (action : Action) : Prop :=
  NotReissued start.1 action ∧
  (∀ half ∈ start.1.takes? action, (∀ call ∈ start.1.calls.values, call.half? ≠ some half) ∧
    (half.sends = false → ∀ taken ∈ start.2.values, taken.half ≠ half)) ∧
  ∀ half ∈ start.1.starts? action, ∀ id ∈ start.2.keys, ∀ taken ∈ start.2.get? id,
    taken.half = half → half.sends = true ∧ start.1.calls.get? id = none

instance (start : Config P × Takings) (action : Action) :
    Decidable (Undisturbed start action) :=
  inferInstanceAs (Decidable (_ ∧ _ ∧ _))

/-! ## The takeover stays alone -/

/-- The takeover `id` has its half for itself, and the bytes that moved on it since are its
own. -/
structure Taken.Alone (taken : Taken) (config : Config P) (id : Nat) : Prop where
  numbered : id < config.fresh
  serial : taken.half.target.serial < config.state.history.connections
  own : ∀ call, config.calls.get? id = some call →
    call.half? = some taken.half ∧ call.streams = true
  others : taken.half.sends = false ∨ config.calls.get? id ≠ none →
    ∀ other call, config.calls.get? other = some call → call.half? = some taken.half →
      other = id
  shut : taken.half.sends = true → config.calls.get? id = none → ∀ entry,
    config.state.conns.get? taken.half.target.handle = some entry →
    entry.trace.serial = taken.half.target.serial → entry.Shut taken.half.stream
  exact : ∀ entry, config.state.conns.get? taken.half.target.handle = some entry →
    entry.trace.serial = taken.half.target.serial →
    taken.position ≤ entry.trace.streams.length ∧
      taken.half.moved (entry.trace.streams.drop taken.position) =
        taken.half.moved taken.records
  belongs : ∀ entry, config.state.conns.get? taken.half.target.handle = some entry →
    entry.trace.serial = taken.half.target.serial →
    ∀ record ∈ entry.trace.streams.drop taken.position,
      taken.half.moved [record] ≠ [] → record ∈ taken.records
  faithful : ∀ record ∈ taken.records, record.Faithful

private theorem Config.takes_spec {config next : Config P} {action : Action} {half : Half}
    (acts : config.Acts action next) (takes : config.takes? action = some half) :
    ∃ call, next.calls.get? config.fresh = some call ∧ call.half? = some half ∧
      call.streams = true ∧ next.state = config.state ∧ config.fresh < next.fresh ∧
      config.Holds half.target := by
  cases acts with
  | invoked method next _ ran =>
      cases method with
      | readViaStream resource =>
          simp only [takes?] at takes
          split at takes
          · rename_i target stream held
            cases takes
            simp only [invoke, Method.resource?, invokeResource, held, invokeRecv,
              Bool.false_eq_true, if_false, Except.ok.injEq] at ran
            subst ran
            refine ⟨.streaming target stream, ?_, rfl, rfl, rfl, Nat.lt_succ_self _,
              .resource resource _ held rfl⟩
            rw [addCall, Table.get?_set, if_pos rfl]
          · cases takes
      | writeViaStream resource =>
          simp only [takes?] at takes
          split at takes
          · rename_i target stream held
            cases takes
            simp only [invoke, Method.resource?, invokeResource, held, invokeSend,
              Except.ok.injEq] at ran
            subst ran
            refine ⟨.sourcing target stream, ?_, rfl, rfl, rfl, Nat.lt_succ_self _,
              .resource resource _ held rfl⟩
            rw [addCall, Table.get?_set, if_pos rfl]
          · cases takes
      | _ => cases takes
  | _ => cases takes

private theorem Config.leaves_member {config next : Config P} {id : Nat} {record : StreamRecord}
    (member : record ∈ config.leaves next id) :
    ∃ handle entry, next.state.conns.get? handle = some entry ∧
      record ∈ entry.trace.streams := by
  rw [leaves.eq_def] at member
  split at member
  · rw [recorded.eq_def] at member
    split at member
    · rename_i entry after _ found
      exact ⟨_, after, found, List.mem_of_mem_drop member⟩
    · cases member
  · cases member

private theorem Call.target_of_half {call : Call} {half : Half} (on : call.half? = some half) :
    call.target? = some half.target := by
  cases call <;> cases on <;> rfl

namespace Taken.Alone

variable {config next : Config P} {id : Nat} {taken : Taken} {log : Takings} {action : Action}

private theorem half_eq (sends : taken.half.sends = true) :
    taken.half = ⟨taken.half.target, taken.half.stream, true⟩ := by
  rw [← sends]

private theorem others_step (alone : taken.Alone config id) (logged : log.get? id = some taken)
    (undisturbed : Undisturbed (config, log) action) (acts : config.Acts action next)
    (kept : next.calls.get? id ≠ none → config.calls.get? id ≠ none)
    (taken_ : taken.half.sends = false ∨ next.calls.get? id ≠ none) {other : Nat} {call : Call}
    (found : next.calls.get? other = some call) (on : call.half? = some taken.half) :
    other = id := by
  have still := taken_.imp_right kept
  rcases acts.onHalf found on with ⟨before, pending, same⟩ | ⟨_, takes | starts⟩
  · exact alone.others still other before pending same
  · rcases undisturbed.2.1 taken.half takes with ⟨unused, untaken⟩
    rcases still with receives | pending
    · exact absurd rfl (untaken receives taken ((Table.mem_values _ _).mpr ⟨id, logged⟩))
    · rcases Option.ne_none_iff_exists'.mp pending with ⟨own, here⟩
      exact absurd (alone.own own here).1 (unused own ((Table.mem_values _ _).mpr ⟨id, here⟩))
  · rcases undisturbed.2.2 taken.half starts id ((Table.mem_keys _ _).mpr ⟨taken, logged⟩) taken
      logged rfl with ⟨sends, over_⟩
    rcases still with receives | pending
    · rw [sends] at receives
      cases receives
    · exact absurd over_ pending

theorem source (alone : taken.Alone config id)
    (stepped : (endpoint P).step config action = .ok next) {after : ConnEntry P}
    (found : next.state.conns.get? taken.half.target.handle = some after)
    (serial : after.trace.serial = taken.half.target.serial) :
    ∃ entry added, config.state.conns.get? taken.half.target.handle = some entry ∧
      entry.trace.serial = taken.half.target.serial ∧ EntrySteps entry after ∧
      after.trace.streams = entry.trace.streams ++ added ∧
      ∀ record ∈ added, config.Leaves action taken.half.target.handle record := by
  have bound := alone.serial
  rcases (ConnsFrom.moves stepped).source _ after found with ⟨entry, lookup, steps⟩ | ⟨newer, _⟩
  · rcases (Config.step_acts stepped).records.entries _ after found with
      ⟨same, here, leaving, added, streams, leaves⟩ | newer
    · rw [lookup] at here
      cases here
      exact ⟨entry, added, lookup, steps.evolves.serial.symm.trans serial, steps, streams, leaves⟩
    · omega
  · omega

/-- What others leave on the half moves nothing. -/
theorem still (alone : taken.Alone config id)
    (denotes : ∀ target, config.Holds target → config.state.Denotes target)
    (acts : config.Acts action next) (apart : ∀ input, action ≠ .resume id input)
    {entry after : ConnEntry P} {added : List StreamRecord}
    (found : config.state.conns.get? taken.half.target.handle = some entry)
    (serial : entry.trace.serial = taken.half.target.serial)
    (later : next.state.conns.get? taken.half.target.handle = some after)
    (same : after.trace.serial = taken.half.target.serial)
    (streams : after.trace.streams = entry.trace.streams ++ added)
    (leaves : ∀ record ∈ added, config.Leaves action taken.half.target.handle record) :
    taken.half.moved added = [] := by
  cases acts with
  | advanced elapsed => exact Half.moved_eq_nil fun record member => (leaves record member).elim
  | pumped input state pump spawned _ =>
      exact Half.moved_eq_nil fun record member => (leaves record member).elim
  | resumed other input session moved registration state _ _ _ =>
      exact Half.moved_eq_nil fun record member => (leaves record member).elim
  | invoked method next _ _ =>
      exact Half.moved_eq_nil fun record member =>
        taken.half.moved_silent (leaves record member)
  | polled other input call next _ pending ran =>
      have elsewhere : other ≠ id := by
        rintro rfl
        exact apart input rfl
      by_cases on : call.half? = some taken.half
      · -- a second writer, which polls when the takeover is over and the stream shut
        have over_ : taken.half.sends = true ∧ config.calls.get? id = none := by
          refine ⟨?_, ?_⟩
          · rw [← Bool.not_eq_false]
            intro receives
            exact elsewhere (alone.others (.inl receives) other call pending on)
          · by_contra ongoing
            exact elsewhere (alone.others (.inr ongoing) other call pending on)
        have shut : ∀ current, config.state.conns.get? taken.half.target.handle = some current →
            current.Shut taken.half.stream := by
          intro current here
          rw [found] at here
          cases here
          exact alone.shut over_.1 over_.2 entry found serial
        rw [half_eq over_.1] at on
        have records := Config.resumeCall_still on shut ran
        rcases records.entries _ after later with ⟨current, here, _, more, equal, still⟩ | newer
        · rw [found] at here
          cases here
          rw [streams, List.append_cancel_left_eq] at equal
          subst equal
          apply Half.moved_eq_nil
          intro record member
          rw [Half.moved, if_pos over_.1, acceptedBytes_singleton]
          exact still record member
        · have bound := alone.serial
          omega
      · apply Half.moved_eq_nil
        intro record member
        rcases leaves record member with ⟨own, half, known, uses, handle, has⟩
        rw [pending] at known
        cases known
        have target : half.target = taken.half.target := by
          rcases denotes half.target (.call other call pending (Call.target_of_half uses)) with
            ⟨current, here, number⟩
          rw [handle, found] at here
          cases here
          exact Half.target_eq handle (number.symm.trans serial)
        refine Half.moved_other has ?_
        intro stream sends
        apply on
        rw [uses, Half.half_eq target stream sends]

/-- A step of another task. -/
theorem bypassed (alone : taken.Alone config id)
    (denotes : ∀ target, config.Holds target → config.state.Denotes target)
    (logged : log.get? id = some taken) (undisturbed : Undisturbed (config, log) action)
    (stepped : (endpoint P).step config action = .ok next)
    (apart : ∀ input, action ≠ .resume id input) : taken.Alone next id := by
  have acts := Config.step_acts stepped
  have bypasses := acts.bypasses alone.numbered apart
  refine ⟨Nat.lt_of_lt_of_le alone.numbered bypasses.fresh_le,
    Nat.lt_of_lt_of_le alone.serial (ConnsFrom.moves stepped).connections, ?_, ?_, ?_, ?_, ?_,
    alone.faithful⟩
  · intro call pending
    rw [bypasses.calls] at pending
    exact alone.own call pending
  · intro taken_ other call found on
    refine alone.others_step logged undisturbed acts ?_ taken_ found on
    rw [bypasses.calls]
    exact fun pending => pending
  · intro sends over_ after found serial
    rw [bypasses.calls] at over_
    rcases alone.source stepped found serial with ⟨entry, _, lookup, same, steps, _⟩
    exact (alone.shut sends over_ entry lookup same).steps steps
  · intro after found serial
    rcases alone.source stepped found serial with
      ⟨entry, added, lookup, same, _, streams, leaves⟩
    rcases alone.exact entry lookup same with ⟨within, moved⟩
    have nothing := alone.still denotes acts apart lookup same found serial streams leaves
    rw [streams, List.drop_append_of_le_length within, Half.moved_append, moved, nothing,
      List.append_nil, List.length_append]
    exact ⟨Nat.le_trans within (Nat.le_add_right _ _), rfl⟩
  · intro after found serial record member moves
    rcases alone.source stepped found serial with
      ⟨entry, added, lookup, same, _, streams, leaves⟩
    have nothing := alone.still denotes acts apart lookup same found serial streams leaves
    rw [streams, List.drop_append_of_le_length (alone.exact entry lookup same).1,
      List.mem_append] at member
    rcases member with before | new
    · exact alone.belongs entry lookup same record before moves
    · exact absurd (Half.moved_member nothing new) moves

/-- A poll of the takeover itself. -/
theorem polled (seals : P.Seals) (alone : taken.Alone config id) {call : Call}
    {input : CallInput} (reached : (endpoint P).Reachable config)
    (logged : log.get? id = some taken)
    (undisturbed : Undisturbed (config, log) (.resume id input))
    (stepped : (endpoint P).step config (.resume id input) = .ok next)
    (pending : config.calls.get? id = some call)
    (ran : config.resumeCall id call input = .ok next) :
    ({ taken with records := taken.records ++ config.leaves next id } : Taken).Alone next id := by
  have acts : config.Acts (.resume id input) next := Config.step_acts stepped
  have later := (Config.resumeCall_bypasses pending (Nat.succ_ne_self id) ran).fresh_le
  rcases alone.own call pending with ⟨on, streaming⟩
  have left : ∀ {entry after : ConnEntry P} {added : List StreamRecord},
      config.state.conns.get? taken.half.target.handle = some entry →
      next.state.conns.get? taken.half.target.handle = some after →
      after.trace.streams = entry.trace.streams ++ added → config.leaves next id = added := by
    intro entry after added lookup found streams
    rw [Config.leaves_eq pending (Call.target_of_half on)]
    exact Config.recorded_added lookup found streams
  refine ⟨Nat.lt_of_lt_of_le alone.numbered later,
    Nat.lt_of_lt_of_le alone.serial (ConnsFrom.moves stepped).connections, ?_, ?_, ?_, ?_, ?_,
    ?_⟩
  · intro further found
    rcases Config.resumeCall_half pending ran further found with ⟨same, goes⟩
    exact ⟨same.trans on, goes.trans streaming⟩
  · intro taken_ other further found same
    refine alone.others_step logged undisturbed acts ?_ taken_ found same
    intro _
    rw [pending]
    exact Option.some_ne_none call
  · intro sends over_ after found serial
    rw [half_eq sends] at on
    exact Config.resumeCall_shuts seals on streaming ran over_ found
  · intro after found serial
    rcases alone.source stepped found serial with ⟨entry, added, lookup, same, _, streams, _⟩
    rcases alone.exact entry lookup same with ⟨within, moved⟩
    dsimp only
    rw [left lookup found streams, streams, List.drop_append_of_le_length within,
      Half.moved_append, Half.moved_append, moved, List.length_append]
    exact ⟨Nat.le_trans within (Nat.le_add_right _ _), rfl⟩
  · intro after found serial record member moves
    rcases alone.source stepped found serial with ⟨entry, added, lookup, same, _, streams, _⟩
    dsimp only at member ⊢
    rw [left lookup found streams, List.mem_append]
    rw [streams, List.drop_append_of_le_length (alone.exact entry lookup same).1,
      List.mem_append] at member
    exact member.imp_left fun before => alone.belongs entry lookup same record before moves
  · intro record member
    rcases List.mem_append.mp member with before | new
    · exact alone.faithful record before
    · rcases Config.leaves_member new with ⟨handle, after, found, traced⟩
      exact reachable_faithful (reached.step trivial stepped) found record traced

/-- A method takes a half over. -/
theorem started {half : Half} (reached : (endpoint P).Reachable config)
    (denotes : ∀ target, config.Holds target → config.state.Denotes target)
    (undisturbed : Undisturbed (config, log) action)
    (stepped : (endpoint P).step config action = .ok next)
    (takes : config.takes? action = some half) :
    (⟨half, config.recordCount half.target.handle, []⟩ : Taken).Alone next config.fresh := by
  have acts := Config.step_acts stepped
  rcases Config.takes_spec acts takes with ⟨call, pending, on, streaming, same, grown, holds⟩
  rcases denotes half.target holds with ⟨entry, found, serial⟩
  have position : ∀ after, next.state.conns.get? half.target.handle = some after →
      config.recordCount half.target.handle = after.trace.streams.length := by
    intro after lookup
    rw [same] at lookup
    rw [Config.recordCount, lookup]
    rfl
  refine ⟨grown, ?_, ?_, ?_, ?_, ?_, ?_, ?_⟩
  · rw [same, ← serial]
    exact reachable_serials reached found
  · intro own here
    rw [pending] at here
    cases here
    exact ⟨on, streaming⟩
  · intro _ other further here uses
    rcases acts.onHalf here uses with ⟨before, earlier, equal⟩ | ⟨fresh, _⟩
    · rcases undisturbed.2.1 half takes with ⟨unused, _⟩
      exact absurd equal (unused before ((Table.mem_values _ _).mpr ⟨other, earlier⟩))
    · exact fresh
  · intro _ gone
    rw [pending] at gone
    cases gone
  · intro after lookup _
    dsimp only
    rw [position after lookup, List.drop_length]
    exact ⟨Nat.le_refl _, rfl⟩
  · intro after lookup _ record member
    dsimp only at member
    rw [position after lookup, List.drop_length] at member
    cases member
  · intro record member
    cases member

end Taken.Alone

def Takings.Alone (log : Takings) (config : Config P) : Prop :=
  ∀ id taken, log.get? id = some taken → taken.Alone config id

theorem Takings.Alone.step (seals : P.Seals) {config next : Config P} {log : Takings}
    {action : Action} (alone : log.Alone config) (reached : (endpoint P).Reaches NotReissued config)
    (undisturbed : Undisturbed (config, log) action)
    (stepped : (endpoint P).step config action = .ok next) :
    (log.note config action next).Alone next := by
  have denotes := holders_denote reached
  have bystander : ∀ id taken, (∀ input, action ≠ .resume id input) →
      log.get? id = some taken → taken.Alone next id :=
    fun id taken apart logged =>
      (alone id taken logged).bypassed denotes logged undisturbed stepped apart
  intro id taken logged
  rw [note.eq_def] at logged
  split at logged
  · rename_i half takes
    rw [Table.get?_set] at logged
    split at logged
    · rename_i own
      cases logged
      subst own
      exact .started reached.reachable denotes undisturbed stepped takes
    · refine bystander id taken ?_ logged
      rintro input rfl
      cases takes
  · rename_i other input _
    have acts : config.Acts (.resume other input) next := Config.step_acts stepped
    cases acts with
    | polled _ _ call _ _ pending ran =>
        split at logged
        · rename_i old known
          rw [Table.get?_set] at logged
          split at logged
          · rename_i same
            subst same
            cases logged
            exact (alone id old known).polled seals reached.reachable known undisturbed stepped
              pending ran
          · rename_i apart
            refine bystander id taken ?_ logged
            rintro input ⟨⟩
            exact apart rfl
        · rename_i unknown
          refine bystander id taken ?_ logged
          rintro input ⟨⟩
          rw [unknown] at logged
          cases logged
  · rename_i idle _
    refine bystander id taken ?_ logged
    rintro input rfl
    exact idle id input rfl

/-! ## Takeovers are exclusive -/

/-- The streams that take no more bytes after a write was answered. -/
def refused (id : StreamId) (streams : List StreamId) : Except WriteError Nat → List StreamId
  | .ok _ | .error .blocked => streams
  | .error _ => id :: streams

namespace Platform

end Platform

end IrohEndpoint
