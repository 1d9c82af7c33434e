import IrohEndpoint.Spike.Exchange

/-! # The two sides of the exchange

What each side's application has to show for where it stands: the client closes only with
its echoes in hand, the server answers only what it read whole. Both hold of every run on
a connection that is `Sound`. -/

namespace IrohEndpoint.Spike

variable {P : Platform} {app last : App} {records more : List Record}

def Lost (records : List Record) : Prop :=
  ∃ display, .polled (.connectionLost (.applicationClosed display)) ∈ records

def Silent (records : List Record) : Prop :=
  ∀ id, writtenBytes id records = [] ∧ ¬ Finished id records

/-- At most `payload` was written on each stream, and all of it before its end. -/
def Submitted (payload : Bytes) (stream : Option StreamId) (records : List Record) : Prop :=
  ∀ id, writtenBytes id records <+: payload ∧
    (Finished id records → stream = some id ∧ writtenBytes id records = payload)

/-- The reading half of an exchange: one stream is read, what was read is kept, and its
whole text is received once its end was read. -/
structure Reading (P : Platform) (app : App) (records : List Record) : Prop where
  own : ∀ id answer, .read id answer ∈ records → app.stream = some id
  inbound : ∀ id, app.stream = some id → app.inbound = readBytes id records
  unopened : app.stream = none → app.inbound = []
  received : ∀ text, app.received = some text →
    ∃ id, app.stream = some id ∧ Ended id records ∧ text = fromUtf8Lossy app.inbound
  ended : ∀ id, Ended id records → app.received.isSome = true

/-! ## Records that change nothing -/

theorem Silent.submitted (silent : Silent records) (payload : Bytes)
    (stream : Option StreamId) : Submitted payload stream records := by
  intro id
  constructor
  · rw [(silent id).1]
    exact List.nil_prefix
  · intro finished
    exact absurd finished (silent id).2

theorem Silent.append (silent : Silent records) (quiet : Silent more) :
    Silent (records ++ more) := by
  intro id
  constructor
  · rw [writtenBytes_append, (silent id).1, (quiet id).1]
    rfl
  · rw [finished_append]
    rintro (before | after)
    · exact (silent id).2 before
    · exact (quiet id).2 after

theorem Submitted.append {payload : Bytes} {stream : Option StreamId}
    (submitted : Submitted payload stream records) (quiet : Silent more) :
    Submitted payload stream (records ++ more) := by
  intro id
  rw [writtenBytes_append, finished_append, (quiet id).1, List.append_nil]
  refine ⟨(submitted id).1, ?_⟩
  rintro (before | after)
  · exact (submitted id).2 before
  · exact absurd after (quiet id).2

theorem Silent.submission (silent : Silent records) {id : StreamId} {data : Bytes}
    (submission : Submission id data more) :
    Submitted data (some id) (records ++ more) := by
  intro other
  rw [writtenBytes_append, finished_append, (silent other).1, List.nil_append]
  cases submission with
  | unfinished answer =>
      constructor
      · cases answer with
        | error error => exact List.nil_prefix
        | ok count =>
            by_cases same : id = other
            · simp [writtenBytes, Record.writtenBytes, same, List.take_prefix]
            · simp [writtenBytes, Record.writtenBytes, same]
      · rintro (before | after)
        · exact absurd before (silent other).2
        · simp [Finished] at after
  | finished answer =>
      by_cases same : id = other
      · simp [writtenBytes, Record.writtenBytes, same]
      · refine ⟨by simp [writtenBytes, Record.writtenBytes, same], ?_⟩
        rintro (before | after)
        · exact absurd before (silent other).2
        · simp [Finished, Ne.symm same] at after

private theorem silent_of_neutral (neutral : ∀ record ∈ more, record.neutral = true) :
    Silent more := by
  intro id
  constructor
  · rw [writtenBytes, List.flatMap_eq_nil_iff]
    intro record member
    have quiet := neutral record member
    cases record <;> first | rfl | cases quiet
  · intro finished
    exact absurd (neutral _ finished) (by simp [Record.neutral])

private theorem readBytes_unread (unread : ∀ id answer, .read id answer ∉ more) (id : StreamId) :
    readBytes id more = [] := by
  rw [readBytes, List.flatMap_eq_nil_iff]
  intro record member
  cases record with
  | read other answer => exact absurd member (unread other answer)
  | _ => rfl

private theorem unended (unread : ∀ id answer, .read id answer ∉ more) (id : StreamId) :
    ¬ Ended id more := by
  rintro ⟨chunks, member⟩
  exact unread id _ member

private theorem unread_of_neutral (neutral : ∀ record ∈ more, record.neutral = true) (id : StreamId)
    (answer : ReadAnswer) : .read id answer ∉ more := by
  intro member
  exact absurd (neutral _ member) (by simp [Record.neutral])

theorem Submission.unread {id : StreamId} {data : Bytes} (submission : Submission id data more)
    (other : StreamId) (answer : ReadAnswer) : .read other answer ∉ more := by
  cases submission <;> simp

/-- The reading half does not notice what does not touch it. -/
theorem Reading.append (reading : Reading P app records) (stream : last.stream = app.stream)
    (inbound : last.inbound = app.inbound) (received : last.received = app.received)
    (unread : ∀ id answer, .read id answer ∉ more) : Reading P last (records ++ more) where
  own := by
    intro id answer member
    rw [stream]
    rcases List.mem_append.mp member with before | after
    · exact reading.own id answer before
    · exact absurd after (unread id answer)
  inbound := by
    intro id own
    rw [stream] at own
    rw [inbound, reading.inbound id own, readBytes_append, readBytes_unread unread,
      List.append_nil]
  unopened := by
    rw [stream, inbound]
    exact reading.unopened
  received := by
    intro text some
    rw [received] at some
    rcases reading.received text some with ⟨id, own, ended, same⟩
    exact ⟨id, by rw [stream, own], (ended_append id).mpr (.inl ended), by rw [inbound, same]⟩
  ended := by
    intro id ended
    rw [received]
    rcases (ended_append id).mp ended with before | after
    · exact reading.ended id before
    · exact absurd after (unended unread id)

/-- A stream is taken that nothing was read from. -/
theorem Reading.opens (reading : Reading P app records) (unopened : app.stream = none)
    {id : StreamId} (stream : last.stream = some id) (inbound : last.inbound = app.inbound)
    (received : last.received = app.received) (unread : ∀ id answer, .read id answer ∉ more) :
    Reading P last (records ++ more) where
  own := by
    intro other answer member
    rcases List.mem_append.mp member with before | after
    · have own := reading.own other answer before
      rw [unopened] at own
      cases own
    · exact absurd after (unread other answer)
  inbound := by
    intro other _
    have none : ∀ id answer, .read id answer ∉ records ++ more := by
      intro id answer member
      rcases List.mem_append.mp member with before | after
      · have own := reading.own id answer before
        rw [unopened] at own
        cases own
      · exact unread id answer after
    rw [readBytes_unread none, inbound, reading.unopened unopened]
  unopened := by
    rw [stream]
    simp
  received := by
    intro text some
    rw [received] at some
    rcases reading.received text some with ⟨other, own, _⟩
    rw [unopened] at own
    cases own
  ended := by
    intro other ended
    rw [received]
    rcases (ended_append other).mp ended with before | after
    · exact reading.ended other before
    · exact absurd after (unended unread other)

/-! ## Reading the stream -/

section Reads

variable {side after : Side P} {id : StreamId}

theorem Reading.unreceived (reading : Reading P app records)
    (own : app.stream = some id) {chunks : List Bytes} {ending : ReadEnd}
    (sound : Sound (records ++ .read id (some (chunks, ending)) :: more)) :
    app.received = none := by
  cases received : app.received with
  | none => rfl
  | some text =>
      rcases reading.received text received with ⟨other, same, ended, _⟩
      rw [own] at same
      cases same
      have nothing := sound.ended ended
      cases nothing

theorem Reading.owner (reading : Reading P app records) (own : app.stream = some id)
    {other : StreamId} {answer first : Option (List Bytes × ReadEnd)} {rest : List Record}
    (unread : ∀ id answer, .read id answer ∉ rest)
    (member : .read other answer ∈ records ++ .read id first :: rest) : some id = some other := by
  rcases List.mem_append.mp member with before | now
  · rw [← own]
    exact reading.own other answer before
  · rcases List.mem_cons.mp now with same | later
    · cases same
      rfl
    · exact absurd later (unread other answer)

private theorem ended_read {other : StreamId} {first : Option (List Bytes × ReadEnd)}
    {rest : List Record} (unread : ∀ id answer, .read id answer ∉ rest)
    (ended : Ended other (records ++ .read id first :: rest)) :
    Ended other records ∨ ∃ chunks, first = some (chunks, .finished) := by
  rcases ended with ⟨chunks, member⟩
  rcases List.mem_append.mp member with before | now
  · exact .inl ⟨chunks, before⟩
  · rcases List.mem_cons.mp now with same | later
    · cases same
      exact .inr ⟨chunks, rfl⟩
    · exact absurd later (unread other _)

/-- Reading a side's stream keeps its reading half. -/
theorem Reading.reads (reading : Reading P side.app side.records)
    (own : side.app.stream = some id) (reads : Reads id side after)
    (sound : Sound after.records) : Reading P after.app after.records := by
  cases reads with
  | nothing app records =>
      rw [app, records]
      constructor
      · intro other answer member
        rw [own]
        exact reading.owner own (by simp) member
      · intro other same
        rw [readBytes_append, reading.inbound other same]
        simp [readBytes, Record.readBytes]
      · exact reading.unopened
      · intro text some
        rcases reading.received text some with ⟨other, same, ended, whole⟩
        exact ⟨other, same, (ended_append other).mpr (.inl ended), whole⟩
      · intro other ended
        rcases ended_read (by simp) ended with before | ⟨chunks, impossible⟩
        · exact reading.ended other before
        · cases impossible
  | some chunks ending open_ app records =>
      rw [records] at sound
      have unreceived := reading.unreceived own sound
      rw [app, records]
      constructor
      · intro other answer member
        dsimp only
        rw [own]
        exact reading.owner own (by simp) member
      · intro other same
        dsimp only at same ⊢
        rw [own] at same
        cases same
        rw [readBytes_append, reading.inbound id own]
        simp [readBytes, Record.readBytes]
      · intro unopened
        dsimp only at unopened
        rw [own] at unopened
        cases unopened
      · intro text some
        dsimp only at some
        rw [unreceived] at some
        cases some
      · intro other ended
        rcases ended_read (by simp) ended with before | ⟨_, finished⟩
        · exact reading.ended other before
        · cases finished
          exact absurd rfl open_
  | whole chunks roundtrip rest app records client server =>
      have unread : ∀ id answer, .read id answer ∉ rest := by
        by_cases role : side.app.role = .server
        · exact (server role).unread
        · simp [client role]
      rw [app, records]
      constructor
      · intro other answer member
        dsimp only
        rw [own]
        exact reading.owner own unread member
      · intro other same
        dsimp only at same ⊢
        rw [own] at same
        cases same
        have nothing := readBytes_unread unread id
        rw [readBytes_append, reading.inbound id own]
        simp only [readBytes, List.flatMap_cons] at nothing ⊢
        simp [Record.readBytes, nothing]
      · intro unopened
        dsimp only at unopened
        rw [own] at unopened
        cases unopened
      · intro text some
        cases some
        exact ⟨id, own, ⟨chunks, by simp⟩, rfl⟩
      · intro other _
        rfl

end Reads

/-! ## The client -/

structure ClientKeeps (P : Platform) (message : String) (app : App) (records : List Record) :
    Prop where
  role : app.role = .client message
  reading : Reading P app records
  greeted : app.stream.isSome = true → 0 < records.countP Record.connects
  silent : app.stream = none → Silent records
  submitted : Submitted (asBytes message) app.stream records
  sent : ∀ data answer, .sent data answer ∈ records →
    data = datagramFor message ∧ app.received.isSome = true
  echoed : ∀ data, app.datagramReceived = some data →
    data = datagramFor message ∧ .got (some data) ∈ records
  closed : ∀ code reason, .closed code reason ∈ records → app.closeSent = true
  closing : app.closeSent = true → app.datagramReceived.isSome = true
  done : app.doneAt.isSome = true → app.closeSent = true ∨ Lost records

theorem ClientKeeps.new (message : String) :
    ClientKeeps P message (App.new (.client message)) [] := by
  have silent : Silent [] := fun id => ⟨rfl, by simp [Finished]⟩
  constructor
  · rfl
  · constructor <;> simp [App.new, Ended]
  · simp [App.new]
  · exact fun _ => silent
  · exact silent.submitted _ _
  · simp
  · simp [App.new]
  · simp
  · simp [App.new]
  · simp [App.new]

/-- What a client shows is not lost by records that add nothing to it. -/
theorem ClientKeeps.append {message : String} (keeps : ClientKeeps P message app records)
    (agrees : app.Agrees last) (unread : ∀ id answer, .read id answer ∉ more)
    (silent : Silent more) (unclosed : ∀ code reason, .closed code reason ∉ more)
    (sent : ∀ data answer, .sent data answer ∈ more →
      data = datagramFor message ∧ app.received.isSome = true) :
    ClientKeeps P message last (records ++ more) where
  role := agrees.role.trans keeps.role
  reading := keeps.reading.append agrees.stream agrees.inbound agrees.received unread
  greeted := by
    rw [agrees.stream, List.countP_append]
    intro some
    have before := keeps.greeted some
    omega
  silent := by
    rw [agrees.stream]
    intro none
    exact (keeps.silent none).append silent
  submitted := by
    rw [agrees.stream]
    exact keeps.submitted.append silent
  sent := by
    intro data answer member
    rw [agrees.received]
    rcases List.mem_append.mp member with before | after
    · exact keeps.sent data answer before
    · exact sent data answer after
  echoed := by
    intro data some
    rw [agrees.datagramReceived] at some
    rcases keeps.echoed data some with ⟨same, got⟩
    exact ⟨same, List.mem_append_left _ got⟩
  closed := by
    intro code reason member
    rw [agrees.closeSent]
    rcases List.mem_append.mp member with before | after
    · exact keeps.closed code reason before
    · exact absurd after (unclosed code reason)
  closing := by
    rw [agrees.closeSent, agrees.datagramReceived]
    exact keeps.closing
  done := by
    rw [agrees.doneAt, agrees.closeSent]
    intro done
    rcases keeps.done done with closed | ⟨display, lost⟩
    · exact .inl closed
    · exact .inr ⟨display, List.mem_append_left _ lost⟩

theorem ClientKeeps.neutral {message : String} (keeps : ClientKeeps P message app records)
    (agrees : app.Agrees last) (neutral : ∀ record ∈ more, record.neutral = true) :
    ClientKeeps P message last (records ++ more) := by
  apply keeps.append agrees (unread_of_neutral neutral) (silent_of_neutral neutral)
  · intro code reason member
    exact absurd (neutral _ member) (by simp [Record.neutral])
  · intro data answer member
    exact absurd (neutral _ member) (by simp [Record.neutral])

/-! ## What both sides keep -/

/-- `Invariant` is kept, as long as noq keeps its promises. -/
def AppRelation.keeping (Invariant : App → List Record → Prop) : AppRelation :=
  fun first last => first.2 <+: last.2 ∧
    (Sound last.2 → Invariant first.1 first.2 → Invariant last.1 last.2)

section Keeping

variable {Invariant : App → List Record → Prop}

private theorem keeping_refl (state : App × List Record) :
    AppRelation.keeping Invariant state state :=
  ⟨List.prefix_rfl, fun _ holds => holds⟩

private theorem keeping_trans (first middle last : App × List Record)
    (before : AppRelation.keeping Invariant first middle)
    (after : AppRelation.keeping Invariant middle last) :
    AppRelation.keeping Invariant first last := by
  refine ⟨before.1.trans after.1, ?_⟩
  intro sound holds
  have sofar : Sound middle.2 := by
    rcases after.1 with ⟨more, same⟩
    rw [← same] at sound
    exact sound.front
  exact after.2 sound (before.2 sofar holds)

private theorem eventRound_keeping
    (handled : ∀ (fuel : Nat) (event : Event) (before : List Record) (side after : Side P),
      side.records = before ++ [.polled event] → Handles fuel event side after →
      AppRelation.keeping Invariant (side.app, before) (after.app, after.records))
    (fuel : Nat) (started now : Instant) :
    (Run.eventRound fuel started now : AppAct P Bool).Preserves
      (AppRelation.keeping Invariant) := by
  intro side result last ran
  rw [Run.eventRound] at ran
  rcases Act.bind_eq_ok.mp ran with ⟨error, failed, _⟩ | ⟨answer, middle, polled, rest⟩
  · rcases call_eq_ok failed with ⟨_, impossible, _⟩
    cases impossible
  · rcases call_eq_ok polled with ⟨_, same, app, records⟩
    cases same
    cases answer with
    | none =>
        rcases Act.pure_eq_ok.mp rest with ⟨_, rfl⟩
        rw [app, records]
        simp only [ConnCall.record, Option.map_none, Option.toList_none, List.append_nil]
        exact keeping_refl _
    | some event =>
        have handles : Handles fuel event middle last := by
          rcases Act.bind_eq_ok.mp rest with ⟨error, failed, _⟩ | ⟨value, after, ran, rest⟩
          · exact handleEvent_handles failed
          · rcases Act.pure_eq_ok.mp rest with ⟨_, rfl⟩
            exact handleEvent_handles ran
        rw [← app]
        exact handled fuel event side.records middle last records handles

private theorem datagrams_keeping {fuel : Nat} {side last : Side P} {result : Except String Unit}
    (round : ∀ side after : Side P, Datagrams side after →
      AppRelation.keeping Invariant (side.app, side.records) (after.app, after.records))
    (ran : Act.loop .outOfFuel datagramRound fuel side = .ok (result, last)) :
    AppRelation.keeping Invariant (side.app, side.records) (last.app, last.records) := by
  have rounds : Act.Keeps (.loop .outOfFuel datagramRound fuel) fun side last : Side P =>
      AppRelation.keeping Invariant (side.app, side.records) (last.app, last.records) := by
    apply Act.Keeps.loop
    · intro side
      exact keeping_refl _
    · intro first middle last
      exact keeping_trans _ _ _
    · intro side result after ran
      exact round side after (datagramRound_leaves ran)
  exact rounds side result last ran

private theorem keeping_stable
    (handled : ∀ (fuel : Nat) (event : Event) (before : List Record) (side after : Side P),
      side.records = before ++ [.polled event] → Handles fuel event side after →
      AppRelation.keeping Invariant (side.app, before) (after.app, after.records))
    (drives : ∀ side after : Side P, Drives side after →
      AppRelation.keeping Invariant (side.app, side.records) (after.app, after.records)) :
    (AppRelation.keeping Invariant).Stable P where
  reflexive := keeping_refl
  transitive := keeping_trans
  drive := by
    intro now side result last ran
    exact drives side last (drive_drives ran)
  event := eventRound_keeping handled

end Keeping

theorem Reads.frame {id : StreamId} {side after : Side P} (reads : Reads id side after) :
    after.app.role = side.app.role ∧ after.app.stream = side.app.stream ∧
    after.app.datagramReceived = side.app.datagramReceived ∧
    after.app.doneAt = side.app.doneAt ∧ after.app.closeSent = side.app.closeSent ∧
    (side.app.received.isSome = true → after.app.received.isSome = true) ∧
    ∃ answer rest, after.records = side.records ++ .read id answer :: rest ∧
      (side.app.role ≠ .server → rest = []) ∧
      (∀ data answer, .sent data answer ∉ rest) ∧ ∀ code reason, .closed code reason ∉ rest := by
  cases reads with
  | nothing app records =>
      rw [app]
      exact ⟨rfl, rfl, rfl, rfl, rfl, fun some => some, none, [], records, by simp⟩
  | some chunks ending open_ app records =>
      rw [app]
      exact ⟨rfl, rfl, rfl, rfl, rfl, fun some => some, _, [], records, by simp⟩
  | whole chunks roundtrip rest app records client server =>
      rw [app]
      refine ⟨rfl, rfl, rfl, rfl, rfl, fun _ => rfl, _, rest, records, client, ?_, ?_⟩
      all_goals
        by_cases role : side.app.role = .server
        · cases server role <;> simp
        · simp [client role]

theorem Greets.grows {message : String} {side after : Side P}
    (greets : Greets message side after) : side.records <+: after.records := by
  cases greets with
  | refused app records => exact ⟨_, records.symm⟩
  | opened id sentAt more app records submitted => exact ⟨_, records.symm⟩

theorem Reads.grows {id : StreamId} {side after : Side P} (reads : Reads id side after) :
    side.records <+: after.records := by
  rcases reads.frame with ⟨_, _, _, _, _, _, answer, rest, records, _⟩
  exact ⟨_, records.symm⟩

theorem Datagrams.grows {side after : Side P} (round : Datagrams side after) :
    side.records <+: after.records := by
  cases round with
  | nothing app records => exact ⟨_, records.symm⟩
  | mismatch bytes app records => exact ⟨_, records.symm⟩
  | echoed message client app records => exact ⟨_, records.symm⟩
  | echoes bytes more server app records copies => exact ⟨_, records.symm⟩

/-! ## The client's steps -/

section Client

variable {message : String} {side middle after : Side P}

theorem ClientKeeps.greets (keeps : ClientKeeps P message side.app side.records)
    (unopened : side.app.stream = none) (connected : 0 < side.records.countP Record.connects)
    (greets : Greets message side after) : ClientKeeps P message after.app after.records := by
  cases greets with
  | refused app records =>
      rw [app, records]
      exact keeps.neutral (App.Agrees.refl _) (by simp [Record.neutral])
  | opened id sentAt more app records submitted =>
      have silent : Silent (side.records ++ [.opened (some id)]) :=
        (keeps.silent unopened).append (silent_of_neutral (by simp [Record.neutral]))
      have split : side.records ++ .opened (some id) :: more =
          side.records ++ [.opened (some id)] ++ more := by simp
      have unread : ∀ other answer, .read other answer ∉ .opened (some id) :: more := by
        intro other answer member
        rcases List.mem_cons.mp member with same | later
        · cases same
        · exact submitted.unread other answer later
      have before : ∀ {record : Record}, record ∈ .opened (some id) :: more →
          record.neutral = false → record ∉ more → False := by
        intro record member loud absent
        rcases List.mem_cons.mp member with rfl | later
        · cases loud
        · exact absent later
      rw [app, records]
      constructor
      · exact keeps.role
      · exact keeps.reading.opens unopened rfl rfl rfl unread
      · intro _
        rw [List.countP_append]
        omega
      · simp
      · rw [split]
        exact silent.submission submitted
      · intro data answer member
        rcases List.mem_append.mp member with old | new
        · exact keeps.sent data answer old
        · exact (before new rfl (by cases submitted <;> simp)).elim
      · intro data some
        rcases keeps.echoed data some with ⟨same, got⟩
        exact ⟨same, List.mem_append_left _ got⟩
      · intro code reason member
        rcases List.mem_append.mp member with old | new
        · exact keeps.closed code reason old
        · exact (before new rfl (by cases submitted <;> simp)).elim
      · exact keeps.closing
      · intro done
        rcases keeps.done done with closed | ⟨display, lost⟩
        · exact .inl closed
        · exact .inr ⟨display, List.mem_append_left _ lost⟩

theorem ClientKeeps.reads (keeps : ClientKeeps P message side.app side.records) {id : StreamId}
    (own : side.app.stream = some id) (reads : Reads id side after)
    (sound : Sound after.records) : ClientKeeps P message after.app after.records := by
  have reading := keeps.reading.reads own reads sound
  rcases reads.frame with
    ⟨role, stream, echoed, done, closeSent, received, answer, rest, records, client, _⟩
  have nothing : rest = [] := client (by simp [keeps.role])
  subst nothing
  rw [records] at reading ⊢
  have silent : Silent [.read id answer] := fun other => ⟨rfl, by simp [Finished]⟩
  constructor
  · rw [role, keeps.role]
  · exact reading
  · rw [stream, List.countP_append]
    intro some
    have before := keeps.greeted some
    omega
  · rw [stream, own]
    simp
  · rw [stream]
    exact keeps.submitted.append silent
  · intro data answer member
    have before : .sent data answer ∈ side.records := by simpa using member
    rcases keeps.sent data answer before with ⟨same, some⟩
    exact ⟨same, received some⟩
  · intro data some
    rw [echoed] at some
    rcases keeps.echoed data some with ⟨same, got⟩
    exact ⟨same, List.mem_append_left _ got⟩
  · intro code reason member
    rw [closeSent]
    exact keeps.closed code reason (by simpa using member)
  · rw [closeSent, echoed]
    exact keeps.closing
  · rw [done, closeSent]
    intro some
    rcases keeps.done some with closed | ⟨display, lost⟩
    · exact .inl closed
    · exact .inr ⟨display, List.mem_append_left _ lost⟩

theorem ClientKeeps.datagrams (keeps : ClientKeeps P message side.app side.records)
    (round : Datagrams side after) : ClientKeeps P message after.app after.records := by
  cases round with
  | nothing app records =>
      rw [app, records]
      exact keeps.neutral (App.Agrees.refl _) (by simp [Record.neutral])
  | mismatch bytes app records =>
      rw [app, records]
      exact keeps.neutral (App.Agrees.refl _) (by simp [Record.neutral])
  | echoed other client app records =>
      have same : other = message := by
        have role := keeps.role
        rw [client] at role
        cases role
        rfl
      subst same
      have kept : ClientKeeps P other side.app
          (side.records ++ [.got (some (datagramFor other))]) :=
        keeps.neutral (App.Agrees.refl _) (by simp [Record.neutral])
      rw [app, records]
      exact { kept with
        reading := keeps.reading.append rfl rfl rfl (by simp)
        echoed := by
          intro data some
          cases some
          simp
        closing := fun _ => rfl }
  | echoes bytes more server app records copies =>
      rw [keeps.role] at server
      cases server

private theorem ClientKeeps.handles {fuel : Nat} {event : Event} {before : List Record}
    (polled : side.records = before ++ [.polled event]) (handles : Handles fuel event side after) :
    AppRelation.keeping (ClientKeeps P message) (side.app, before) (after.app, after.records) := by
  have noted : AppRelation.keeping (ClientKeeps P message) (side.app, before)
      (side.app, side.records) := by
    rw [polled]
    refine ⟨List.prefix_append _ _, fun _ keeps => ?_⟩
    exact keeps.neutral (App.Agrees.refl _) (by simp [Record.neutral])
  cases handles with
  | quiet more agrees records neutral =>
      apply keeping_trans _ _ _ noted
      rw [records]
      exact ⟨List.prefix_append _ _, fun _ keeps => keeps.neutral agrees neutral⟩
  | @greets _ middle _ other client greets agrees records =>
      have grown : side.records <+: after.records := records ▸ greets.grows
      refine ⟨noted.1.trans grown, ?_⟩
      intro sound keeps
      have once : side.records.countP Record.connects ≤ 1 := by
        rcases grown with ⟨more, same⟩
        rw [← same] at sound
        exact sound.front.once
      rw [polled, List.countP_append] at once
      have counted : [Record.polled .connected].countP Record.connects = 1 := rfl
      have unopened : side.app.stream = none := by
        by_contra some
        have earlier : 0 < before.countP Record.connects :=
          keeps.greeted (Option.ne_none_iff_isSome.mp some)
        omega
      have same : other = message := by
        have role := keeps.role
        rw [client] at role
        cases role
        rfl
      subst same
      have silent : ClientKeeps P other middle.app (before ++ [.polled .connected]) :=
        keeps.neutral agrees (by simp [Record.neutral])
      rw [← polled, ← records] at silent
      apply silent.greets
      · rw [agrees.stream, unopened]
      · rw [records, polled, List.countP_append]
        omega
      · exact greets
  | accepts reads server waits app records =>
      refine ⟨?_, fun _ keeps => ?_⟩
      · have first : side.records <+: _ := ⟨_, records.symm⟩
        exact (noted.1.trans first).trans reads.grows
      · have role := keeps.role
        rw [server] at role
        cases role
  | reads ours reads =>
      apply keeping_trans _ _ _ noted
      exact ⟨reads.grows, fun sound keeps => keeps.reads ours reads sound⟩
  | datagrams ran =>
      apply keeping_trans _ _ _ noted
      apply datagrams_keeping _ ran
      intro side after round
      exact ⟨round.grows, fun _ keeps => keeps.datagrams round⟩
  | @lost _ _ display at_ received app records =>
      refine ⟨by rw [records]; exact noted.1, ?_⟩
      intro sound keeps
      have kept := noted.2 (records ▸ sound) keeps
      rw [app, records]
      exact { kept with
        reading := ⟨kept.reading.own, kept.reading.inbound, kept.reading.unopened,
          kept.reading.received, kept.reading.ended⟩
        done := fun _ => .inr ⟨display, by rw [polled]; simp⟩ }

/-- The copies of its datagram that a client sends. -/
theorem ClientKeeps.copies {other : String} (role : side.app.role = .client other)
    (copies : Copies other side after) :
    AppRelation.keeping (ClientKeeps P message) (side.app, side.records)
      (after.app, after.records) := by
  rcases copies with ⟨⟨datagramSent, app⟩, more, records, only⟩
  rw [app, records]
  refine ⟨List.prefix_append _ _, ?_⟩
  intro _ keeps
  have same : other = message := by
    have kept := keeps.role
    rw [role] at kept
    cases kept
    rfl
  subst same
  have agrees : side.app.Agrees { side.app with datagramSent } :=
    ⟨rfl, rfl, rfl, rfl, rfl, rfl, rfl⟩
  apply keeps.append agrees
  · intro id answer member
    rcases only _ member with ⟨_, _, impossible⟩
    cases impossible
  · intro id
    constructor
    · rw [writtenBytes, List.flatMap_eq_nil_iff]
      intro record member
      rcases only record member with ⟨_, answer, rfl⟩
      rfl
    · intro finished
      rcases only _ finished with ⟨_, _, impossible⟩
      cases impossible
  · intro code reason member
    rcases only _ member with ⟨_, _, impossible⟩
    cases impossible
  · intro data answer member
    rcases only _ member with ⟨received, _, same⟩
    cases same
    exact ⟨rfl, received⟩

/-- A client closes its connection only once its datagram has come back. -/
theorem ClientKeeps.closes (closes : Closes side after) :
    AppRelation.keeping (ClientKeeps P message) (side.app, side.records)
      (after.app, after.records) := by
  cases closes with
  | waits app records =>
      rw [app, records]
      exact keeping_refl _
  | closes at_ echoed app records =>
      rw [app, records]
      refine ⟨List.prefix_append _ _, ?_⟩
      intro _ keeps
      have silent : Silent [.closed 0 (asBytes "done")] :=
        fun id => ⟨rfl, by simp [Finished]⟩
      exact {
        role := keeps.role
        reading := keeps.reading.append rfl rfl rfl (by simp)
        greeted := by
          rw [List.countP_append]
          intro some
          have before : 0 < side.records.countP Record.connects := keeps.greeted some
          omega
        silent := fun none => (keeps.silent none).append silent
        submitted := keeps.submitted.append silent
        sent := by
          intro data answer member
          exact keeps.sent data answer (by simpa using member)
        echoed := by
          intro data some
          rcases keeps.echoed data some with ⟨same, got⟩
          exact ⟨same, List.mem_append_left _ got⟩
        closed := fun _ _ _ => rfl
        closing := fun _ => echoed
        done := fun _ => .inl rfl }

private theorem ClientKeeps.drives (drives : Drives side after) :
    AppRelation.keeping (ClientKeeps P message) (side.app, side.records)
      (after.app, after.records) := by
  cases drives with
  | server role same =>
      rw [same]
      exact keeping_refl _
  | client middle other role copies closes =>
      apply keeping_trans _ (middle.app, middle.records) _
      · exact ClientKeeps.copies role copies
      · exact ClientKeeps.closes closes

theorem ClientKeeps.stable : (AppRelation.keeping (ClientKeeps P message)).Stable P :=
  keeping_stable (fun _ _ _ _ _ polled handles => ClientKeeps.handles polled handles)
    fun _ _ drives => ClientKeeps.drives drives

end Client

/-! ## The server -/

structure ServerKeeps (P : Platform) (app : App) (records : List Record) : Prop where
  role : app.role = .server
  reading : Reading P app records
  silent : app.received = none → Silent records
  submitted : ∀ text, app.received = some text →
    Submitted (asBytes (P.toUppercase text)) app.stream records
  sent : ∀ data answer, .sent data answer ∈ records → .got (some data) ∈ records
  unclosed : ∀ code reason, .closed code reason ∉ records
  done : app.doneAt.isSome = true → app.received.isSome = true ∧ Lost records

theorem ServerKeeps.new : ServerKeeps P (App.new .server) [] := by
  have silent : Silent [] := fun id => ⟨rfl, by simp [Finished]⟩
  constructor
  · rfl
  · constructor <;> simp [App.new, Ended]
  · exact fun _ => silent
  · simp [App.new]
  · simp
  · simp
  · simp [App.new]

section Server

variable {side after : Side P}

theorem ServerKeeps.append (keeps : ServerKeeps P app records) (agrees : app.Agrees last)
    (unread : ∀ id answer, .read id answer ∉ more) (silent : Silent more)
    (unclosed : ∀ code reason, .closed code reason ∉ more)
    (sent : ∀ data answer, .sent data answer ∈ more → .got (some data) ∈ records ++ more) :
    ServerKeeps P last (records ++ more) where
  role := agrees.role.trans keeps.role
  reading := keeps.reading.append agrees.stream agrees.inbound agrees.received unread
  silent := by
    rw [agrees.received]
    intro none
    exact (keeps.silent none).append silent
  submitted := by
    rw [agrees.received, agrees.stream]
    intro text some
    exact (keeps.submitted text some).append silent
  sent := by
    intro data answer member
    rcases List.mem_append.mp member with before | after
    · exact List.mem_append_left _ (keeps.sent data answer before)
    · exact sent data answer after
  unclosed := by
    intro code reason member
    rcases List.mem_append.mp member with before | after
    · exact keeps.unclosed code reason before
    · exact unclosed code reason after
  done := by
    rw [agrees.doneAt, agrees.received]
    intro done
    rcases keeps.done done with ⟨received, display, lost⟩
    exact ⟨received, display, List.mem_append_left _ lost⟩

theorem ServerKeeps.neutral (keeps : ServerKeeps P app records) (agrees : app.Agrees last)
    (neutral : ∀ record ∈ more, record.neutral = true) :
    ServerKeeps P last (records ++ more) := by
  apply keeps.append agrees (unread_of_neutral neutral) (silent_of_neutral neutral)
  · intro code reason member
    exact absurd (neutral _ member) (by simp [Record.neutral])
  · intro data answer member
    exact absurd (neutral _ member) (by simp [Record.neutral])

theorem ServerKeeps.reads (keeps : ServerKeeps P side.app side.records) {id : StreamId}
    (own : side.app.stream = some id) (reads : Reads id side after)
    (sound : Sound after.records) : ServerKeeps P after.app after.records := by
  have reading := keeps.reading.reads own reads sound
  have quiet : ∀ answer, Silent [.read id answer] :=
    fun answer other => ⟨rfl, by simp [Finished]⟩
  cases reads with
  | nothing app records =>
      rw [app, records] at reading ⊢
      exact {
        role := keeps.role
        reading := reading
        silent := fun none => (keeps.silent none).append (quiet _)
        submitted := fun text some => (keeps.submitted text some).append (quiet _)
        sent := by
          intro data answer member
          exact List.mem_append_left _ (keeps.sent data answer (by simpa using member))
        unclosed := by
          intro code reason member
          exact keeps.unclosed code reason (by simpa using member)
        done := by
          intro done
          rcases keeps.done done with ⟨received, display, lost⟩
          exact ⟨received, display, List.mem_append_left _ lost⟩ }
  | some chunks ending open_ app records =>
      rw [records] at sound
      have unreceived := keeps.reading.unreceived own sound
      rw [app, records] at reading ⊢
      exact {
        role := keeps.role
        reading := reading
        silent := fun none => (keeps.silent none).append (quiet _)
        submitted := fun text some => by
          dsimp only at some
          rw [unreceived] at some
          cases some
        sent := by
          intro data answer member
          exact List.mem_append_left _ (keeps.sent data answer (by simpa using member))
        unclosed := by
          intro code reason member
          exact keeps.unclosed code reason (by simpa using member)
        done := by
          intro done
          rcases keeps.done done with ⟨received, display, lost⟩
          exact ⟨received, display, List.mem_append_left _ lost⟩ }
  | whole chunks roundtrip rest app records client server =>
      rw [records] at sound
      have unreceived := keeps.reading.unreceived own sound
      have submission := server keeps.role
      have split : side.records ++ .read id (some (chunks, .finished)) :: rest =
          side.records ++ [.read id (some (chunks, .finished))] ++ rest := by simp
      rw [app, records] at reading ⊢
      exact {
        role := keeps.role
        reading := reading
        silent := by simp
        submitted := by
          intro text same
          cases same
          dsimp only
          rw [split, own]
          exact ((keeps.silent unreceived).append (quiet _)).submission submission
        sent := by
          intro data answer member
          have before : .sent data answer ∈ side.records := by
            cases submission <;> simpa using member
          exact List.mem_append_left _ (keeps.sent data answer before)
        unclosed := by
          intro code reason member
          have before : .closed code reason ∈ side.records := by
            cases submission <;> simpa using member
          exact keeps.unclosed code reason before
        done := by
          intro done
          rcases keeps.done done with ⟨received, display, lost⟩
          exact ⟨rfl, display, List.mem_append_left _ lost⟩ }

theorem ServerKeeps.datagrams (keeps : ServerKeeps P side.app side.records)
    (round : Datagrams side after) : ServerKeeps P after.app after.records := by
  cases round with
  | nothing app records =>
      rw [app, records]
      exact keeps.neutral (App.Agrees.refl _) (by simp [Record.neutral])
  | mismatch bytes app records =>
      rw [app, records]
      exact keeps.neutral (App.Agrees.refl _) (by simp [Record.neutral])
  | echoed message client app records =>
      rw [keeps.role] at client
      cases client
  | echoes bytes more server app records copies =>
      rw [app, records]
      have only : ∀ record ∈ .got (some bytes) :: more,
          record = .got (some bytes) ∨ ∃ answer, record = .sent bytes answer := by
        intro record member
        rcases List.mem_cons.mp member with same | later
        · exact .inl same
        · exact .inr (copies record later)
      apply keeps.append (App.Agrees.refl _)
      · intro id answer member
        rcases only _ member with impossible | ⟨_, impossible⟩ <;> cases impossible
      · intro id
        constructor
        · rw [writtenBytes, List.flatMap_eq_nil_iff]
          intro record member
          rcases only record member with rfl | ⟨answer, rfl⟩ <;> rfl
        · intro finished
          rcases only _ finished with impossible | ⟨_, impossible⟩ <;> cases impossible
      · intro code reason member
        rcases only _ member with impossible | ⟨_, impossible⟩ <;> cases impossible
      · intro data answer member
        rcases only _ member with impossible | ⟨_, same⟩
        · cases impossible
        · cases same
          simp

private theorem ServerKeeps.handles {fuel : Nat} {event : Event} {before : List Record}
    (polled : side.records = before ++ [.polled event]) (handles : Handles fuel event side after) :
    AppRelation.keeping (ServerKeeps P) (side.app, before) (after.app, after.records) := by
  have noted : AppRelation.keeping (ServerKeeps P) (side.app, before)
      (side.app, side.records) := by
    rw [polled]
    refine ⟨List.prefix_append _ _, fun _ keeps => ?_⟩
    exact keeps.neutral (App.Agrees.refl _) (by simp [Record.neutral])
  apply keeping_trans _ _ _ noted
  cases handles with
  | quiet more agrees records neutral =>
      rw [records]
      exact ⟨List.prefix_append _ _, fun _ keeps => keeps.neutral agrees neutral⟩
  | @greets _ middle _ other client greets agrees records =>
      refine ⟨records ▸ greets.grows, fun _ keeps => ?_⟩
      have role := keeps.role
      rw [client] at role
      cases role
  | @accepts _ middle _ id reads server waits app records =>
      have first : side.records <+: middle.records := ⟨_, records.symm⟩
      refine ⟨first.trans reads.grows, ?_⟩
      intro sound keeps
      have unreceived : side.app.received = none := by
        cases received : side.app.received with
        | none => rfl
        | some text =>
            rcases keeps.reading.received text received with ⟨other, own, _⟩
            rw [waits] at own
            cases own
      have kept := keeps.neutral (App.Agrees.refl _)
        (show ∀ record ∈ [Record.accepted (some id)], record.neutral = true by
          simp [Record.neutral])
      have taken : ServerKeeps P middle.app middle.records := by
        rw [app, records]
        exact { kept with
          reading := keeps.reading.opens waits rfl rfl rfl (by simp)
          submitted := by
            intro text some
            dsimp only at some
            rw [unreceived] at some
            cases some }
      exact taken.reads (by rw [app]) reads sound
  | reads ours reads => exact ⟨reads.grows, fun sound keeps => keeps.reads ours reads sound⟩
  | datagrams ran =>
      apply datagrams_keeping _ ran
      intro side after round
      exact ⟨round.grows, fun _ keeps => keeps.datagrams round⟩
  | @lost _ _ display at_ received app records =>
      rw [app, records]
      refine ⟨List.prefix_rfl, fun _ keeps => ?_⟩
      exact { keeps with
        reading := ⟨keeps.reading.own, keeps.reading.inbound, keeps.reading.unopened,
          keeps.reading.received, keeps.reading.ended⟩
        done := fun _ => ⟨received, display, by rw [polled]; simp⟩ }

private theorem ServerKeeps.drives (drives : Drives side after) :
    AppRelation.keeping (ServerKeeps P) (side.app, side.records) (after.app, after.records) := by
  cases drives with
  | server role same =>
      rw [same]
      exact keeping_refl _
  | client middle message role copies closes =>
      rcases copies with ⟨_, more, records, _⟩
      have first : side.records <+: middle.records := ⟨_, records.symm⟩
      have second : middle.records <+: after.records := by
        cases closes with
        | waits app records => rw [records]
        | closes at_ echoed app records => exact ⟨_, records.symm⟩
      refine ⟨first.trans second, fun _ keeps => ?_⟩
      have kept := keeps.role
      rw [role] at kept
      cases kept

theorem ServerKeeps.stable : (AppRelation.keeping (ServerKeeps P)).Stable P :=
  keeping_stable (fun _ _ _ _ _ polled handles => ServerKeeps.handles polled handles)
    fun _ _ drives => ServerKeeps.drives drives

end Server

/-! ## Runs -/

variable {peer : Option EndpointId} {wire : Wire} {run : Run P}

theorem client_keeps {message : String}
    (reached : (spike P (.client message) peer wire).Reachable run) (sound : Sound run.records) :
    ClientKeeps P message run.app run.records :=
  (spike_related ClientKeeps.stable reached).2 sound (ClientKeeps.new message)

theorem server_keeps (reached : (spike P .server peer wire).Reachable run)
    (sound : Sound run.records) : ServerKeeps P run.app run.records :=
  (spike_related ServerKeeps.stable reached).2 sound ServerKeeps.new

end IrohEndpoint.Spike
