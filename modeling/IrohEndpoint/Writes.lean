import IrohEndpoint.Calls
import IrohEndpoint.Slab

/-! # Writes

What `write` and `write-via-stream` hand to noq, slice by slice. A call polls any number
of times, each poll loops over what is left of its bytes, and other tasks run between two
polls. A log beside the run keeps, for every call, the bytes it was given and what noq
answered to it. -/

namespace IrohEndpoint

variable {P : Platform}

/-! ## One poll -/

def Platform.WritesWithin (P : Platform) : Prop :=
  ∀ (conn : P.Connection) (id : StreamId) (data : Bytes) (written : Nat),
    (P.call (.write id data) conn).1 = .ok written → written ≤ data.length

def StreamRecord.accepted (id : StreamId) : StreamRecord → Bytes
  | .write own slice (.ok written) => if own = id then slice.take written else []
  | _ => []

def acceptedBytes (id : StreamId) (records : List StreamRecord) : Bytes :=
  records.flatMap (StreamRecord.accepted id)

@[simp] theorem acceptedBytes_nil (id : StreamId) : acceptedBytes id [] = [] := rfl

@[simp] theorem acceptedBytes_append (id : StreamId) (front back : List StreamRecord) :
    acceptedBytes id (front ++ back) = acceptedBytes id front ++ acceptedBytes id back :=
  List.flatMap_append

theorem acceptedBytes_singleton (id : StreamId) (record : StreamRecord) :
    acceptedBytes id [record] = record.accepted id := by
  simp [acceptedBytes]

def StreamRecord.Writes (id : StreamId) (record : StreamRecord) : Prop :=
  ∃ slice answer, record = .write id slice answer

namespace ConnEntry

/-- What a poll of `write_all` that starts at `offset` has done to the entry when it stands
at `reached`. -/
structure Wrote (id : StreamId) (bytes : Bytes) (offset : Nat) (entry : ConnEntry P)
    (reached : Nat) (after : ConnEntry P) (added : List StreamRecord) : Prop where
  streams : after.trace.streams = entry.trace.streams ++ added
  writes : ∀ record ∈ added, record.Writes id
  within : reached ≤ bytes.length
  accepted : bytes.take offset ++ acceptedBytes id added = bytes.take reached

variable {id : StreamId} {bytes : Bytes} {offset : Nat} {entry : ConnEntry P}

theorem Wrote.refl (within : offset ≤ bytes.length) : Wrote id bytes offset entry offset entry [] :=
  ⟨by simp, by simp, within, by simp⟩

def Writing (id : StreamId) (bytes : Bytes) (offset : Nat) (entry : ConnEntry P)
    (loop : WriteLoop P) : Prop :=
  (∃ added, Wrote id bytes offset entry loop.offset loop.entry added) ∧
    (loop.result = some (some (.ok ())) → loop.offset = bytes.length)

private theorem Wrote.extend {reached : Nat} {current : ConnEntry P} {added : List StreamRecord}
    (wrote : Wrote id bytes offset entry reached current added) (conn : P.Connection)
    (answer : Except WriteError Nat) (further : Nat)
    (accepted : (StreamRecord.write id (bytes.drop reached) answer).accepted id =
      (bytes.drop reached).take further) (within : reached + further ≤ bytes.length) :
    Wrote id bytes offset entry (reached + further)
      (({ current with conn } : ConnEntry P).record (.write id (bytes.drop reached) answer))
      (added ++ [.write id (bytes.drop reached) answer]) := by
  refine ⟨?_, ?_, within, ?_⟩
  · simp [ConnEntry.record, wrote.streams]
  · intro record member
    rw [List.mem_append, List.mem_singleton] at member
    rcases member with old | rfl
    · exact wrote.writes record old
    · exact ⟨_, _, rfl⟩
  · rw [acceptedBytes_append, acceptedBytes_singleton, accepted, ← List.append_assoc,
      wrote.accepted, List.take_add]

private theorem writeRound_spec (bounded : P.WritesWithin) {loop : WriteLoop P}
    (writing : Writing id bytes offset entry loop) :
    ∃ next again, writeRound id bytes loop = .ok (next, again) ∧
      Writing id bytes offset entry next ∧
      (again = true → bytes.length - next.offset < bytes.length - loop.offset) := by
  rcases writing with ⟨⟨added, wrote⟩, _⟩
  rw [writeRound, if_neg (Nat.not_lt.mpr wrote.within)]
  cases answered : (P.call (.write id (bytes.drop loop.offset)) loop.entry.conn).1 with
  | ok written =>
      have fits := bounded _ _ _ _ answered
      rw [List.length_drop] at fits
      have within := wrote.within
      have wrote := wrote.extend (P.call (.write id (bytes.drop loop.offset)) loop.entry.conn).2
        (.ok written) written (if_pos rfl) (by omega)
      simp only [call, answered]
      split
      · rename_i whole
        exact ⟨_, _, rfl, ⟨⟨_, wrote⟩, fun _ => whole⟩, by simp⟩
      · split
        · exact ⟨_, _, rfl, ⟨⟨_, wrote⟩, by simp⟩, by simp⟩
        · refine ⟨_, _, rfl, ⟨⟨_, wrote⟩, by simp⟩, ?_⟩
          intro _
          dsimp only
          omega
  | error refusal =>
      have wrote := wrote.extend (P.call (.write id (bytes.drop loop.offset)) loop.entry.conn).2
        (.error refusal) 0 rfl wrote.within
      simp only [call, answered]
      cases refusal with
      | blocked => exact ⟨_, _, rfl, ⟨⟨_, wrote⟩, by simp⟩, by simp⟩
      | stopped code => exact ⟨_, _, rfl, ⟨⟨_, wrote⟩, by simp⟩, by simp⟩
      | closedStream => exact ⟨_, _, rfl, ⟨⟨_, wrote⟩, by simp⟩, by simp⟩

theorem writeAllCheck_ends (bounded : P.WritesWithin) (entry : ConnEntry P)
    (within : offset ≤ bytes.length) :
    ∃ polled, entry.writeAllCheck id bytes offset = .ok polled := by
  rw [writeAllCheck]
  split
  · exact ⟨_, rfl⟩
  · have ended : ∃ final, whileLoop .outOfFuel (writeRound id bytes) (bytes.length + 1)
        (⟨entry, offset, none⟩ : WriteLoop P) = .ok final := by
      apply whileLoop.ends (Writing id bytes offset entry)
        (fun loop => bytes.length - loop.offset) fun _ => writeRound_spec bounded
      · exact ⟨⟨[], .refl within⟩, by simp⟩
      · exact Nat.lt_succ_of_le (Nat.sub_le _ _)
    rcases ended with ⟨final, ran⟩
    rw [ran]
    exact ⟨_, rfl⟩

private theorem writeAllCheck_spec (bounded : P.WritesWithin) (within : offset ≤ bytes.length)
    {answer : Option (Except Error Unit)} {reached : Nat} {after : ConnEntry P}
    (checked : entry.writeAllCheck id bytes offset = .ok (answer, reached, after)) :
    (∃ added, Wrote id bytes offset entry reached after added) ∧
      (answer = some (.ok ()) → reached = bytes.length) := by
  rw [writeAllCheck] at checked
  split at checked
  · cases checked
    exact ⟨⟨[], .refl within⟩, by simp⟩
  · rcases bind_eq_ok.mp checked with ⟨loop, ran, result⟩
    cases result
    have writing : Writing id bytes offset entry loop := by
      refine whileLoop.invariant (Writing id bytes offset entry) ?_ _ ?_ ran
      · intro state next again holds stepped
        rcases writeRound_spec bounded holds with ⟨_, _, same, kept, _⟩
        rw [stepped] at same
        cases same
        exact kept
      · exact ⟨⟨[], .refl within⟩, by simp⟩
    refine ⟨writing.1, ?_⟩
    intro whole
    apply writing.2
    exact Option.join_eq_some_iff.mp whole

end ConnEntry

/-! ## The log -/

/-- What a call that writes was given and what it did: the chunks, and its records. -/
structure Written where
  stream : StreamId
  viaStream : Bool
  given : List Bytes
  records : List StreamRecord

def Written.add (written : Written) (given : List Bytes) (records : List StreamRecord) :
    Written :=
  { written with given := written.given ++ given, records := written.records ++ records }

abbrev Writings := Table Nat Written

def CallInput.chunks : CallInput → List Bytes
  | .source bytes _ => [bytes]
  | _ => []

/-- The records a step adds to the entry under a handle. -/
def Config.recorded (config next : Config P) (handle : ConnectionHandle) :
    List StreamRecord :=
  match config.state.conns.get? handle, next.state.conns.get? handle with
  | some entry, some after => after.trace.streams.drop entry.trace.streams.length
  | _, _ => []

/-- The records a poll of the call `id` adds to the entry it looks up. -/
def Config.leaves (config next : Config P) (id : Nat) : List StreamRecord :=
  match (config.calls.get? id).bind Call.target? with
  | some target => config.recorded next target.handle
  | none => []

namespace Writings

def start (log : Writings) (config : Config P) (resource : Nat) (viaStream : Bool)
    (given : List Bytes) : Writings :=
  match config.resources.get? resource with
  | some (.sendStream _ stream) => log.set config.fresh ⟨stream, viaStream, given, []⟩
  | _ => log

def note (log : Writings) (config : Config P) (action : Action) (next : Config P) :
    Writings :=
  match action with
  | .invoke (.write resource bytes) => log.start config resource false [bytes]
  | .invoke (.writeViaStream resource) => log.start config resource true []
  | .resume id input =>
      match log.get? id with
      | some written => log.set id (written.add input.chunks (config.leaves next id))
      | none => log
  | _ => log

end Writings

/-- The runs of the endpoint beside what their calls have written. -/
def writing (P : Platform) : System (Config P × Writings) Action Abort :=
  (endpoint P).observed .empty Writings.note

/-! ## Where a call stands -/

namespace Written

def accepted (written : Written) : Bytes := acceptedBytes written.stream written.records

@[simp] theorem accepted_add (written : Written) (given : List Bytes)
    (records : List StreamRecord) : (written.add given records).accepted =
      written.accepted ++ acceptedBytes written.stream records :=
  acceptedBytes_append written.stream written.records records

inductive Ends (written : Written) : Except Error Unit → Prop
  | wrote : written.viaStream = false → (∀ record ∈ written.records, record.Writes written.stream) →
      written.accepted = written.given.flatten → Ends written (.ok ())
  | finished (writes : List StreamRecord) : written.viaStream = true →
      written.records = writes ++ [.finish written.stream (.ok ())] →
      (∀ record ∈ writes, record.Writes written.stream) →
      written.accepted = written.given.flatten → Ends written (.ok ())
  | failed (error : Error) : (∀ record ∈ written.records, record.Writes written.stream) →
      written.accepted <+: written.given.flatten → Ends written (.error error)
  | unfinished (writes : List StreamRecord) (failure : FinishError) (error : Error) :
      written.viaStream = true →
      written.records = writes ++ [.finish written.stream (.error failure)] →
      (∀ record ∈ writes, record.Writes written.stream) →
      written.accepted = written.given.flatten → Ends written (.error error)

/-- Where the call that `written` is about stands. -/
inductive Stands (written : Written) : Call → Prop
  | write (target : Target) (bytes : Bytes) (offset : Nat) : written.viaStream = false →
      written.given = [bytes] → offset ≤ bytes.length →
      (∀ record ∈ written.records, record.Writes written.stream) →
      written.accepted = bytes.take offset →
      Stands written (.write target written.stream bytes offset)
  | sourcing (target : Target) : written.viaStream = true →
      (∀ record ∈ written.records, record.Writes written.stream) →
      written.accepted = written.given.flatten →
      Stands written (.sourcing target written.stream)
  | forwarding (target : Target) (earlier : List Bytes) (bytes : Bytes) (offset : Nat)
      (last : Bool) : written.viaStream = true → written.given = earlier ++ [bytes] →
      offset ≤ bytes.length → (∀ record ∈ written.records, record.Writes written.stream) →
      written.accepted = earlier.flatten ++ bytes.take offset →
      Stands written (.forwarding target written.stream bytes offset last)

/-- The call `id` has moved on: it is pending at another place, or it has resolved. -/
def Moves (written : Written) (id : Nat) (config next : Config P) : Prop :=
  (next.outcomes = config.outcomes ∧
    ∃ call, next.calls.get? id = some call ∧ written.Stands call) ∨
  (next.calls.get? id = none ∧ ∃ result, written.Ends result ∧
    next.outcomes = config.outcomes ++ [(id, .unit result)])

end Written

namespace Config

variable {config next : Config P} {id : Nat} {target : Target} {stream : StreamId}

theorem recorded_added {handle : ConnectionHandle} {entry after : ConnEntry P}
    {added : List StreamRecord} (found : config.state.conns.get? handle = some entry)
    (later : next.state.conns.get? handle = some after)
    (streams : after.trace.streams = entry.trace.streams ++ added) :
    config.recorded next handle = added := by
  rw [recorded, found, later]
  dsimp only
  rw [streams, List.drop_left]

private theorem recorded_same (handle : ConnectionHandle) (same : next.state = config.state) :
    config.recorded next handle = [] := by
  rw [recorded, same]
  split
  · rename_i entry after found later
    rw [found] at later
    cases later
    exact List.drop_length
  · rfl

theorem withConn_held (config : Config P) (handle : ConnectionHandle) (entry : ConnEntry P) :
    (config.withConn handle entry).state.conns.get? handle = some entry := by
  rw [withConn, Table.get?_set, if_pos rfl]

theorem settle_held (config : Config P) (handle : ConnectionHandle) (entry : ConnEntry P)
    (id : Nat) (outcome : Outcome) (resources : List Resource) :
    ((config.withConn handle entry).settle id outcome resources).state.conns.get? handle =
      some entry := by
  rw [settle_state, withConn_held]

theorem settle_calls (config : Config P) (id : Nat) (outcome : Outcome)
    (resources : List Resource) : (config.settle id outcome resources).calls.get? id = none := by
  rcases settle_frame config id outcome resources with ⟨_, _, _, frame⟩
  rw [frame, Table.get?_remove, if_pos rfl]

theorem resumeWrite_spec (bounded : P.WritesWithin) {bytes : Bytes} {offset reached : Nat}
    (within : offset ≤ bytes.length) {answer : Option (Except Error Unit)}
    (ran : config.resumeWrite target stream bytes offset = .ok ((answer, reached), next)) :
    ∃ entry after added, config.state.conns.get? target.handle = some entry ∧
      next = config.withConn target.handle after ∧
      ConnEntry.Wrote stream bytes offset entry reached after added ∧
      (answer = some (.ok ()) → reached = bytes.length) := by
  rcases bind_eq_ok.mp ran with ⟨⟨value, state⟩, accessed, result⟩
  cases result
  rcases withEntry_ok accessed with ⟨entry, after, found, checked, rfl⟩
  rcases bind_eq_ok.mp checked with ⟨⟨written, stopped, moved⟩, wrote, same⟩
  cases same
  rcases ConnEntry.writeAllCheck_spec bounded within wrote with ⟨⟨added, wrote⟩, whole⟩
  exact ⟨entry, after, added, found, rfl, wrote, whole⟩

theorem afterChunk_cases {last : Bool}
    (ran : config.afterChunk id target stream last = .ok next) :
    (last = false ∧ next = config.keep id (.sourcing target stream)) ∨
    (last = true ∧ ∃ entry, config.state.conns.get? target.handle = some entry ∧
      next = (config.withConn target.handle (entry.finish stream).2).settle id
        (.unit (entry.finish stream).1) []) := by
  rw [afterChunk] at ran
  split at ran
  · rename_i final
    rcases bind_eq_ok.mp ran with ⟨⟨answer, finished⟩, finishing, result⟩
    cases result
    rcases bind_eq_ok.mp finishing with ⟨⟨value, state⟩, accessed, same⟩
    cases same
    rcases withEntry_ok accessed with ⟨entry, after, found, checked, rfl⟩
    have both := Except.ok.inj checked
    exact .inr ⟨final, entry, found, by rw [both]; rfl⟩
  · rename_i more
    cases ran
    exact .inl ⟨by simpa using more, rfl⟩

end Config

private theorem ConnEntry.finish_cases (entry : ConnEntry P) (stream : StreamId) :
    ((∃ error, (entry.finish stream).1 = .error error) ∧ (entry.finish stream).2 = entry) ∨
    ∃ answer, (entry.finish stream).2.trace.streams =
        entry.trace.streams ++ [.finish stream answer] ∧
      ((answer = .ok () ∧ (entry.finish stream).1 = .ok ()) ∨
        ∃ failure error, answer = .error failure ∧ (entry.finish stream).1 = .error error) := by
  rw [finish]
  split
  · exact .inl ⟨⟨_, rfl⟩, rfl⟩
  · right
    refine ⟨(entry.call (.finish stream)).1, ?_⟩
    dsimp only
    split
    · rename_i answered
      exact ⟨by simp [record, call], .inl ⟨answered, rfl⟩⟩
    · rename_i code answered
      exact ⟨by simp [record, call], .inr ⟨_, _, answered, rfl⟩⟩
    · rename_i answered
      exact ⟨by simp [record, call], .inr ⟨_, _, answered, rfl⟩⟩

/-! ## What a poll does to its log -/

section Polls

variable {config middle next : Config P} {id : Nat} {call : Call} {target : Target}
  {written : Written}

theorem Config.leaves_eq (pending : config.calls.get? id = some call)
    (known : call.target? = some target) :
    config.leaves next id = config.recorded next target.handle := by
  rw [leaves, pending, Option.bind_some, known]

namespace Written

private theorem writes_add {given : List Bytes} {records : List StreamRecord}
    (front : ∀ record ∈ written.records, record.Writes written.stream)
    (back : ∀ record ∈ records, record.Writes written.stream) :
    ∀ record ∈ (written.add given records).records, record.Writes written.stream := by
  intro record member
  rcases List.mem_append.mp member with old | new
  · exact front record old
  · exact back record new

private theorem add_nil_add (written : Written) (given : List Bytes)
    (front back : List StreamRecord) :
    (written.add given front).add [] back = written.add given (front ++ back) := by
  simp [add]

private theorem ends_finish (via : written.viaStream = true)
    (writes : ∀ record ∈ written.records, record.Writes written.stream)
    (accepted : written.accepted = written.given.flatten) (entry : ConnEntry P) :
    ∃ extra, (entry.finish written.stream).2.trace.streams = entry.trace.streams ++ extra ∧
      (written.add [] extra).Ends (entry.finish written.stream).1 := by
  have whole : ∀ answer, (written.add [] [.finish written.stream answer]).accepted =
      (written.add [] [.finish written.stream answer]).given.flatten := by
    intro answer
    have silent : (StreamRecord.finish written.stream answer).accepted written.stream = [] := rfl
    rw [accepted_add, acceptedBytes_singleton, silent, List.append_nil, accepted, add,
      List.append_nil]
  rcases entry.finish_cases written.stream with
    ⟨⟨error, failed⟩, same⟩ | ⟨answer, streams, ⟨rfl, finished⟩ | ⟨failure, error, rfl, failed⟩⟩
  · refine ⟨[], by rw [same, List.append_nil], ?_⟩
    rw [failed]
    refine .failed error (writes_add writes (by simp)) ?_
    rw [accepted_add, acceptedBytes_nil, List.append_nil, accepted, add, List.append_nil]
  · refine ⟨_, streams, ?_⟩
    rw [finished]
    exact .finished written.records via rfl writes (whole _)
  · refine ⟨_, streams, ?_⟩
    rw [failed]
    exact .unfinished written.records failure error via rfl writes (whole _)

private theorem chunk_moves {last : Bool} {chunks : List Bytes} {added : List StreamRecord}
    (via : written.viaStream = true) (pending : config.calls.get? id = some call)
    (known : call.target? = some target) (outcomes : middle.outcomes = config.outcomes)
    (sofar : config.recorded middle target.handle = added)
    (traced : ∀ current, middle.state.conns.get? target.handle = some current →
      ∃ entry, config.state.conns.get? target.handle = some entry ∧
        current.trace.streams = entry.trace.streams ++ added)
    (writes : ∀ record ∈ (written.add chunks added).records, record.Writes written.stream)
    (accepted : (written.add chunks added).accepted = (written.add chunks added).given.flatten)
    (ran : middle.afterChunk id target written.stream last = .ok next) :
    (written.add chunks (config.leaves next id)).Moves id config next := by
  rw [Config.leaves_eq pending known]
  rcases Config.afterChunk_cases ran with ⟨_, rfl⟩ | ⟨_, current, reached, rfl⟩
  · have recorded : config.recorded (middle.keep id (.sourcing target written.stream))
        target.handle = added := sofar
    rw [recorded]
    refine .inl ⟨outcomes, _, ?_, .sourcing target via writes accepted⟩
    rw [Config.keep, Table.get?_set, if_pos rfl]
    rfl
  · rcases traced current reached with ⟨entry, found, streams⟩
    rcases @ends_finish P (written.add chunks added) via writes accepted current with
      ⟨extra, further, ends⟩
    rw [add_nil_add] at ends
    have recorded : config.recorded ((middle.withConn target.handle
        (current.finish written.stream).2).settle id
          (.unit (current.finish written.stream).1) []) target.handle = added ++ extra := by
      refine Config.recorded_added found (Config.settle_held _ _ _ _ _ _) ?_
      exact further.trans (by rw [streams, List.append_assoc])
    rw [recorded]
    refine .inr ⟨Config.settle_calls _ _ _ _, _, ends, ?_⟩
    rw [Config.settle_outcomes, ← outcomes]
    rfl

private theorem flatten_add (given : List Bytes) (records : List StreamRecord) :
    (written.add given records).given.flatten = written.given.flatten ++ given.flatten := by
  simp [add]

private theorem write_moves (bounded : P.WritesWithin) {bytes : Bytes} {offset : Nat}
    (pending : config.calls.get? id = some (.write target written.stream bytes offset))
    (plain : written.viaStream = false) (given : written.given = [bytes])
    (within : offset ≤ bytes.length)
    (writes : ∀ record ∈ written.records, record.Writes written.stream)
    (accepted : written.accepted = bytes.take offset)
    (ran : config.resumeCall id (.write target written.stream bytes offset) .poll = .ok next) :
    (written.add [] (config.leaves next id)).Moves id config next := by
  rcases bind_eq_ok.mp ran with ⟨⟨⟨answer, reached⟩, polled⟩, writing, rest⟩
  rcases Config.resumeWrite_spec bounded within writing with
    ⟨entry, after, added, found, rfl, wrote, whole⟩
  have total : (written.add [] added).accepted = bytes.take reached := by
    rw [accepted_add, accepted, wrote.accepted]
  rw [Config.leaves_eq pending rfl]
  cases answer with
  | none =>
      cases rest
      have recorded : config.recorded ((config.withConn target.handle after).keep id
          (.write target written.stream bytes reached)) target.handle = added :=
        Config.recorded_added found (Config.withConn_held _ _ _) wrote.streams
      rw [recorded]
      refine .inl ⟨rfl, .write target written.stream bytes reached, ?_, ?_⟩
      · rw [Config.keep, Table.get?_set, if_pos rfl]
      · refine .write target bytes reached plain ?_ wrote.within
          (writes_add writes wrote.writes) total
        rw [add, given, List.append_nil]
  | some result =>
      cases rest
      have recorded : config.recorded ((config.withConn target.handle after).settle id
          (.unit result) []) target.handle = added :=
        Config.recorded_added found (Config.settle_held _ _ _ _ _ _) wrote.streams
      rw [recorded]
      refine .inr ⟨Config.settle_calls _ _ _ _, result, ?_, Config.settle_outcomes _ _ _ _⟩
      cases result with
      | ok value =>
          have final := whole rfl
          refine .wrote plain (writes_add writes wrote.writes) ?_
          rw [total, final, List.take_length, flatten_add, given]
          simp
      | error error =>
          refine .failed error (writes_add writes wrote.writes) ?_
          rw [total, flatten_add, given]
          simpa using List.take_prefix reached bytes

private theorem forwarding_moves (bounded : P.WritesWithin) {earlier : List Bytes} {bytes : Bytes}
    {offset : Nat} {last : Bool}
    (pending : config.calls.get? id =
      some (.forwarding target written.stream bytes offset last))
    (via : written.viaStream = true) (given : written.given = earlier ++ [bytes])
    (within : offset ≤ bytes.length)
    (writes : ∀ record ∈ written.records, record.Writes written.stream)
    (accepted : written.accepted = earlier.flatten ++ bytes.take offset)
    (ran : config.resumeCall id (.forwarding target written.stream bytes offset last) .poll =
      .ok next) :
    (written.add [] (config.leaves next id)).Moves id config next := by
  rcases bind_eq_ok.mp ran with ⟨⟨⟨answer, reached⟩, polled⟩, writing, rest⟩
  rcases Config.resumeWrite_spec bounded within writing with
    ⟨entry, after, added, found, rfl, wrote, whole⟩
  have total : (written.add [] added).accepted = earlier.flatten ++ bytes.take reached := by
    rw [accepted_add, accepted, List.append_assoc, wrote.accepted]
  have all : (written.add [] added).given.flatten = earlier.flatten ++ bytes := by
    rw [flatten_add, given]
    simp
  cases answer with
  | none =>
      cases rest
      have recorded : config.recorded ((config.withConn target.handle after).keep id
          (.forwarding target written.stream bytes reached last)) target.handle = added :=
        Config.recorded_added found (Config.withConn_held _ _ _) wrote.streams
      rw [Config.leaves_eq pending rfl, recorded]
      refine .inl ⟨rfl, .forwarding target written.stream bytes reached last, ?_, ?_⟩
      · rw [Config.keep, Table.get?_set, if_pos rfl]
      · refine .forwarding target earlier bytes reached last via ?_ wrote.within
          (writes_add writes wrote.writes) total
        rw [add, given, List.append_nil]
  | some result =>
      cases result with
      | ok value =>
          have held := config.withConn_held target.handle after
          have sofar : config.recorded (config.withConn target.handle after) target.handle =
              added := Config.recorded_added found held wrote.streams
          have same : (config.withConn target.handle after).outcomes = config.outcomes := rfl
          refine chunk_moves via pending rfl same sofar ?_ (writes_add writes wrote.writes) ?_
            rest
          · intro current reached
            rw [held] at reached
            cases reached
            exact ⟨entry, found, wrote.streams⟩
          · rw [total, all, whole rfl, List.take_length]
      | error error =>
          cases rest
          have recorded : config.recorded ((config.withConn target.handle after).settle id
              (.unit (.error error)) []) target.handle = added :=
            Config.recorded_added found (Config.settle_held _ _ _ _ _ _) wrote.streams
          rw [Config.leaves_eq pending rfl, recorded]
          refine .inr ⟨Config.settle_calls _ _ _ _, .error error, ?_,
            Config.settle_outcomes _ _ _ _⟩
          refine .failed error (writes_add writes wrote.writes) ?_
          rw [total, all, List.prefix_append_right_inj]
          exact List.take_prefix reached bytes

private theorem sourcing_moves {bytes : Bytes} {last : Bool}
    (pending : config.calls.get? id = some (.sourcing target written.stream))
    (via : written.viaStream = true)
    (writes : ∀ record ∈ written.records, record.Writes written.stream)
    (accepted : written.accepted = written.given.flatten)
    (ran : config.resumeCall id (.sourcing target written.stream) (.source bytes last) =
      .ok next) :
    (written.add [bytes] (config.leaves next id)).Moves id config next := by
  rw [Config.resumeCall] at ran
  split at ran
  · rename_i empty
    have nothing : bytes = [] := List.isEmpty_iff.mp empty
    subst nothing
    refine chunk_moves via pending rfl rfl (Config.recorded_same target.handle rfl) ?_
      (writes_add writes (by simp)) ?_ ran
    · intro current reached
      exact ⟨current, reached, by simp⟩
    · rw [accepted_add, flatten_add, accepted]
      simp
  · cases ran
    have recorded : config.recorded (config.keep id
        (.forwarding target written.stream bytes 0 last)) target.handle = [] :=
      Config.recorded_same target.handle rfl
    rw [Config.leaves_eq pending rfl, recorded]
    refine .inl ⟨rfl, .forwarding target written.stream bytes 0 last, ?_, ?_⟩
    · rw [Config.keep, Table.get?_set, if_pos rfl]
    · refine .forwarding target written.given bytes 0 last via rfl (Nat.zero_le _)
        (writes_add writes (by simp)) ?_
      simp [accepted]

theorem Stands.moves (bounded : P.WritesWithin) (stands : written.Stands call)
    {input : CallInput} (pending : config.calls.get? id = some call)
    (ran : config.resumeCall id call input = .ok next) :
    (written.add input.chunks (config.leaves next id)).Moves id config next := by
  cases stands with
  | write target bytes offset plain given within writes accepted =>
      cases input with
      | poll => exact write_moves bounded pending plain given within writes accepted ran
      | _ => cases ran
  | sourcing target via writes accepted =>
      cases input with
      | source bytes last => exact sourcing_moves pending via writes accepted ran
      | _ => cases ran
  | forwarding target earlier bytes offset last via given within writes accepted =>
      cases input with
      | poll => exact forwarding_moves bounded pending via given within writes accepted ran
      | _ => cases ran

end Written

end Polls

/-! ## Whole runs -/

/-- The call `id` stands where its log says, or it has ended so. -/
structure Written.Tracks (written : Written) (config : Config P) (id : Nat) : Prop where
  numbered : id < config.fresh
  stands : (∃ call, config.calls.get? id = some call ∧ written.Stands call ∧
      ∀ outcome, (id, outcome) ∉ config.outcomes) ∨
    (config.calls.get? id = none ∧ ∃ result, written.Ends result ∧
      ∀ outcome, (id, outcome) ∈ config.outcomes → outcome = .unit result)

namespace Written.Tracks

variable {config next : Config P} {id : Nat} {written : Written}

theorem bypassed (tracks : written.Tracks config id) (bypasses : Config.Bypasses id config next) :
    written.Tracks next id := by
  refine ⟨Nat.lt_of_lt_of_le tracks.numbered bypasses.fresh_le, ?_⟩
  rw [bypasses.calls]
  rcases tracks.stands with ⟨call, pending, stands, unresolved⟩ | ⟨gone, result, ends, only⟩
  · exact .inl ⟨call, pending, stands, fun outcome member =>
      unresolved outcome (bypasses.outcomes outcome member)⟩
  · exact .inr ⟨gone, result, ends, fun outcome member =>
      only outcome (bypasses.outcomes outcome member)⟩

theorem polled (bounded : P.WritesWithin) (tracks : written.Tracks config id) {call : Call}
    {input : CallInput} (pending : config.calls.get? id = some call)
    (ran : config.resumeCall id call input = .ok next) :
    (written.add input.chunks (config.leaves next id)).Tracks next id := by
  have later := (Config.resumeCall_bypasses pending (Nat.succ_ne_self id) ran).fresh_le
  refine ⟨Nat.lt_of_lt_of_le tracks.numbered later, ?_⟩
  rcases tracks.stands with ⟨known, found, stands, unresolved⟩ | ⟨gone, _⟩
  · rw [pending] at found
    cases found
    rcases stands.moves bounded pending ran with
      ⟨same, further, goes, there⟩ | ⟨gone, result, ends, resolved⟩
    · rw [same]
      exact .inl ⟨further, goes, there, unresolved⟩
    · refine .inr ⟨gone, result, ends, ?_⟩
      intro outcome member
      rw [resolved, List.mem_append, List.mem_singleton] at member
      rcases member with old | own
      · exact absurd old (unresolved outcome)
      · cases own
        rfl
  · rw [pending] at gone
    cases gone

theorem started {call : Call} (numbered : config.Numbered) (stands : written.Stands call) :
    written.Tracks (config.addCall call) config.fresh := by
  refine ⟨Nat.lt_succ_self _, .inl ⟨call, ?_, stands, ?_⟩⟩
  · rw [Config.addCall, Table.get?_set, if_pos rfl]
  · intro outcome member
    exact Nat.lt_irrefl _ (numbered.resolved config.fresh outcome member)

end Written.Tracks

def Writings.Tracks (log : Writings) (config : Config P) : Prop :=
  ∀ id written, log.get? id = some written → written.Tracks config id

namespace Writings.Tracks

variable {config next : Config P} {log : Writings}

theorem started {resource : Nat} {viaStream : Bool} {given : List Bytes} {method : Method}
    (tracks : log.Tracks config) (numbered : config.Numbered)
    (ran : config.invoke method = .ok next)
    (starts : ∀ target stream, config.resources.get? resource = some (.sendStream target stream) →
      ∃ call, next = config.addCall call ∧ Written.Stands ⟨stream, viaStream, given, []⟩ call) :
    (log.start config resource viaStream given).Tracks next := by
  intro id written found
  have others : ∀ old, log.get? id = some old → old.Tracks next id := by
    intro old known
    have tracked := tracks id old known
    exact tracked.bypassed (Config.invoke_bypasses tracked.numbered ran)
  rw [start] at found
  split at found
  · rename_i target stream held
    rw [Table.get?_set] at found
    split at found
    · rename_i own
      cases found
      subst own
      rcases starts target stream held with ⟨call, rfl, stands⟩
      exact .started numbered stands
    · exact others written found
  · exact others written found

theorem step (bounded : P.WritesWithin) {action : Action} (tracks : log.Tracks config)
    (numbered : config.Numbered) (stepped : config.step action = .ok next) :
    (log.note config action next).Tracks next := by
  have acts := Config.step_acts stepped
  have others : (∀ id input, action ≠ .resume id input) → log.Tracks next := by
    intro apart id written found
    have tracked := tracks id written found
    exact tracked.bypassed (acts.bypasses tracked.numbered (apart id))
  cases acts with
  | advanced elapsed => exact others (by simp)
  | pumped input state pump spawned _ => exact others (by simp)
  | resumed own input session after registration state _ _ _ => exact others (by simp)
  | invoked method next _ ran =>
      cases method with
      | write resource bytes =>
          refine tracks.started numbered ran ?_
          intro target stream held
          refine ⟨.write target stream bytes 0, ?_, ?_⟩
          · simp only [Config.invoke, Method.resource?, Config.invokeResource, held,
              Config.invokeSend, Except.ok.injEq] at ran
            exact ran.symm
          · exact .write target bytes 0 rfl rfl (Nat.zero_le _) (by simp) rfl
      | writeViaStream resource =>
          refine tracks.started numbered ran ?_
          intro target stream held
          refine ⟨.sourcing target stream, ?_, ?_⟩
          · simp only [Config.invoke, Method.resource?, Config.invokeResource, held,
              Config.invokeSend, Except.ok.injEq] at ran
            exact ran.symm
          · exact .sourcing target rfl (by simp) rfl
      | _ => exact others (by simp)
  | polled own input call next _ pending ran =>
      have bystander : ∀ id written, id ≠ own → log.get? id = some written →
          written.Tracks next id := by
        intro id written apart found
        exact (tracks id written found).bypassed (Config.resumeCall_bypasses pending apart ran)
      intro id written found
      rw [note] at found
      split at found
      · rename_i old known
        rw [Table.get?_set] at found
        split at found
        · rename_i same
          subst same
          cases found
          exact (tracks id old known).polled bounded pending ran
        · rename_i apart
          exact bystander id written apart found
      · rename_i unknown
        refine bystander id written ?_ found
        rintro rfl
        rw [unknown] at found
        cases found

end Writings.Tracks

theorem Slab.writesWithin : Slab.platform.WritesWithin := by
  intro conn id data written answered
  simp only [Slab.platform, Slab.call] at answered
  split at answered
  · cases answered
  · cases answered
    exact Nat.le_refl _

def sentBack : List Action :=
  List.flatten [Slab.turn [] 0, [Slab.hello 0 7], Slab.turn [0] 1,
    [.invoke .accept, .resume 1 .poll,
      .pump (.relayEvent 0 (.ok ⟨Slab.peer 7, [2, 0, 2, 0]⟩))], Slab.turn [0] 0,
    [.invoke (.acceptBi 2), .resume 3 .poll, .invoke (.writeViaStream 4),
      .resume 6 (.source [8, 9] false), .resume 6 .poll, .resume 6 (.source [5] true),
      .resume 6 .poll]]

end IrohEndpoint
