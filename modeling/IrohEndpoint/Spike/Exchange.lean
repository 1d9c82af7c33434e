import IrohEndpoint.Spike.Steps

/-! # What the exchange leaves in its records

The records of a side are all it ever said to its connection and all the connection ever
answered. Each operation of the application is described by what it appends to them. -/

namespace IrohEndpoint.Spike

variable {P : Platform}

/-! ## Reading the records -/

namespace Record

/-- The bytes a record read from stream `id`. -/
def readBytes (id : StreamId) : Record → Bytes
  | .read other (some (chunks, _)) => if other = id then chunks.flatten else []
  | _ => []

/-- The bytes of a record that noq accepted on stream `id`. -/
def writtenBytes (id : StreamId) : Record → Bytes
  | .wrote other data (.ok count) => if other = id then data.take count else []
  | _ => []

def connects : Record → Bool
  | .polled .connected => true
  | _ => false

def neutral : Record → Bool
  | .polled _ | .opened _ | .accepted _ | .got _ => true
  | _ => false

end Record

def readBytes (id : StreamId) (records : List Record) : Bytes :=
  records.flatMap (Record.readBytes id)

def writtenBytes (id : StreamId) (records : List Record) : Bytes :=
  records.flatMap (Record.writtenBytes id)

/-- The end of stream `id` was read. -/
def Ended (id : StreamId) (records : List Record) : Prop :=
  ∃ chunks, .read id (some (chunks, .finished)) ∈ records

/-- Stream `id` was finished. -/
def Finished (id : StreamId) (records : List Record) : Prop :=
  .finished id (.ok ()) ∈ records

def Record.Precedes (record later : Record) : Prop :=
  ∀ id chunks answer, record = .read id (some (chunks, .finished)) →
    later = .read id answer → answer = none

/-- What noq promises a side about its own connection: it connects once, and streams end
once. -/
structure Sound (records : List Record) : Prop where
  once : records.countP Record.connects ≤ 1
  ends : records.Pairwise Record.Precedes

variable {records more : List Record}

theorem Sound.front (sound : Sound (records ++ more)) : Sound records where
  once := by
    have all := sound.once
    rw [List.countP_append] at all
    omega
  ends := (List.pairwise_append.mp sound.ends).1

theorem Sound.ended {id : StreamId} {answer : ReadAnswer}
    (sound : Sound (records ++ .read id answer :: more)) (ended : Ended id records) :
    answer = none := by
  rcases ended with ⟨chunks, member⟩
  have between := (List.pairwise_append.mp sound.ends).2.2
  exact between _ member (.read id answer) (by simp) id chunks answer rfl rfl

section Append

@[simp] theorem readBytes_append (id : StreamId) :
    readBytes id (records ++ more) = readBytes id records ++ readBytes id more := by
  simp [readBytes]

@[simp] theorem writtenBytes_append (id : StreamId) :
    writtenBytes id (records ++ more) = writtenBytes id records ++ writtenBytes id more := by
  simp [writtenBytes]

@[simp] theorem ended_append (id : StreamId) :
    Ended id (records ++ more) ↔ Ended id records ∨ Ended id more := by
  simp [Ended, exists_or]

@[simp] theorem finished_append (id : StreamId) :
    Finished id (records ++ more) ↔ Finished id records ∨ Finished id more := by
  simp [Finished]

end Append

/-! ## What the operations append -/

/-- What a submission leaves: the write, and the end of the stream once all was accepted. -/
inductive Submission (id : StreamId) (data : Bytes) : List Record → Prop
  | unfinished (answer : Except String Nat) : Submission id data [.wrote id data answer]
  | finished (answer : Except String Unit) :
      Submission id data [.wrote id data (.ok data.length), .finished id answer]

section Operations

variable {side last : Side P} {result : Except String Unit}

theorem call_eq_ok {Answer : Type} {operation : ConnCall P.EndpointEvent P.ConnectionEvent Answer}
    {result : Except String Answer} (ran : call operation side = .ok (result, last)) :
    ∃ answer, result = .ok answer ∧ last.app = side.app ∧
      last.records = side.records ++ operation.record answer := by
  rcases Act.perform_eq_ok.mp ran with ⟨rfl, rfl⟩
  exact ⟨_, rfl, rfl, rfl⟩

private theorem setApp_eq_ok {change : App → App} (ran : setApp change side = .ok (result, last)) :
    result = .ok () ∧ last.app = change side.app ∧ last.records = side.records := by
  rcases Act.update_eq_ok.mp ran with ⟨rfl, rfl⟩
  exact ⟨rfl, rfl, rfl⟩

private theorem setApp_bind {α : Type} {change : App → App} {next : Unit → AppAct P α} :
    (setApp change >>= next) side = next () { side with app := change side.app } := rfl

private theorem submit_leaves {writing short finishing : String} {id : StreamId} {data : Bytes}
    (ran : submit writing short finishing id data side = .ok (result, last)) :
    last.app = side.app ∧ ∃ more, last.records = side.records ++ more ∧
      Submission id data more := by
  rw [submit] at ran
  rcases Act.bind_eq_ok.mp ran with ⟨error, failed, _⟩ | ⟨answer, written, wrote, rest⟩
  · rcases call_eq_ok failed with ⟨_, impossible, _⟩
    cases impossible
  · rcases call_eq_ok wrote with ⟨_, same, app, records⟩
    cases same
    cases answer with
    | error error =>
        rcases Act.throw_eq_ok.mp rest with ⟨_, rfl⟩
        exact ⟨app, _, records, .unfinished _⟩
    | ok count =>
        dsimp only at rest
        split at rest
        · rcases Act.throw_eq_ok.mp rest with ⟨_, rfl⟩
          exact ⟨app, _, records, .unfinished _⟩
        · rename_i whole
          have whole : count = data.length := not_not.mp whole
          subst whole
          rcases Act.bind_eq_ok.mp rest with ⟨error, failed, _⟩ | ⟨answer, closed, ended, rest⟩
          · rcases call_eq_ok failed with ⟨_, impossible, _⟩
            cases impossible
          · rcases call_eq_ok ended with ⟨_, same, later, appended⟩
            cases same
            have final : last.app = closed.app ∧ last.records = closed.records := by
              cases answer with
              | error error =>
                  rcases Act.throw_eq_ok.mp rest with ⟨_, rfl⟩
                  exact ⟨rfl, rfl⟩
              | ok done =>
                  rcases Act.pure_eq_ok.mp rest with ⟨_, rfl⟩
                  exact ⟨rfl, rfl⟩
            refine ⟨by rw [final.1, later, app], _, ?_, .finished answer⟩
            rw [final.2, appended, records]
            simp [ConnCall.record]

private theorem sendCopies_leaves {sending : String} {payload : Bytes} : ∀ (copies : Nat)
    {side last : Side P} {result : Except String Unit},
    sendCopies sending payload copies side = .ok (result, last) →
    last.app = side.app ∧ ∃ more, last.records = side.records ++ more ∧
      ∀ record ∈ more, ∃ answer, record = .sent payload answer
  | 0, side, last, result, ran => by
      rcases Act.pure_eq_ok.mp ran with ⟨_, rfl⟩
      exact ⟨rfl, [], by simp, by simp⟩
  | copies + 1, side, last, result, ran => by
      rw [sendCopies] at ran
      rcases Act.bind_eq_ok.mp ran with ⟨error, failed, _⟩ | ⟨answer, middle, sent, rest⟩
      · rcases call_eq_ok failed with ⟨_, impossible, _⟩
        cases impossible
      · rcases call_eq_ok sent with ⟨_, same, app, records⟩
        cases same
        cases answer with
        | error error =>
            rcases Act.throw_eq_ok.mp rest with ⟨_, rfl⟩
            exact ⟨app, _, records, by simp [ConnCall.record]⟩
        | ok done =>
            rcases sendCopies_leaves copies rest with ⟨later, more, appended, copiesOnly⟩
            refine ⟨by rw [later, app], .sent payload (.ok ()) :: more, ?_, ?_⟩
            · rw [appended, records]
              simp [ConnCall.record]
            · intro record member
              rcases List.mem_cons.mp member with rfl | later
              · exact ⟨_, rfl⟩
              · exact copiesOnly record later

inductive Reads (id : StreamId) (side last : Side P) : Prop
  | nothing (app : last.app = side.app) (records : last.records = side.records ++ [.read id none])
  | some (chunks : List Bytes) (ending : ReadEnd) (open_ : ending ≠ .finished)
      (app : last.app = { side.app with inbound := side.app.inbound ++ chunks.flatten })
      (records : last.records = side.records ++ [.read id (.some (chunks, ending))])
  | whole (chunks : List Bytes) (roundtrip : UInt64) (more : List Record)
      (app : last.app = { side.app with
        inbound := side.app.inbound ++ chunks.flatten
        received := .some (fromUtf8Lossy (side.app.inbound ++ chunks.flatten))
        roundtripMs := roundtrip })
      (records : last.records = side.records ++ .read id (.some (chunks, .finished)) :: more)
      (client : side.app.role ≠ .server → more = [])
      (server : side.app.role = .server → Submission id
        (asBytes (P.toUppercase (fromUtf8Lossy (side.app.inbound ++ chunks.flatten)))) more)

private theorem fullyRead_leaves {now : Instant} {id : StreamId}
    (ran : fullyRead now id side = .ok (result, last)) :
    ∃ roundtrip more, last.app = { side.app with
        received := some (fromUtf8Lossy side.app.inbound), roundtripMs := roundtrip } ∧
      last.records = side.records ++ more ∧
      (side.app.role ≠ .server → more = []) ∧
      (side.app.role = .server → Submission id
        (asBytes (P.toUppercase (fromUtf8Lossy side.app.inbound))) more) := by
  rw [fullyRead, Act.view_bind, setApp_bind, Act.view_bind] at ran
  dsimp only at ran
  cases role : side.app.role with
  | client message =>
      rw [role] at ran
      rcases setApp_eq_ok ran with ⟨_, app, records⟩
      refine ⟨(side.app.sentAt.map fun at_ => asMillis (now - at_)).getD 0, [], ?_,
        by simp [records], by simp, by simp⟩
      rw [app, ← role]
  | server =>
      rw [role] at ran
      rcases submit_leaves ran with ⟨app, more, records, submitted⟩
      refine ⟨side.app.roundtripMs, more, ?_, records, by simp, fun _ => submitted⟩
      rw [app, ← role]

private theorem readStream_reads {now : Instant} {id : StreamId}
    (ran : readStream now id side = .ok (result, last)) : Reads id side last := by
  rw [readStream] at ran
  rcases Act.bind_eq_ok.mp ran with ⟨error, failed, _⟩ | ⟨answer, middle, read, rest⟩
  · rcases call_eq_ok failed with ⟨_, impossible, _⟩
    cases impossible
  · rcases call_eq_ok read with ⟨_, same, app, records⟩
    cases same
    cases answer with
    | none =>
        rcases Act.pure_eq_ok.mp rest with ⟨_, rfl⟩
        exact .nothing app records
    | some answer =>
        rcases answer with ⟨chunks, ending⟩
        dsimp only at rest
        rw [setApp_bind] at rest
        cases ending with
        | failed error =>
            rcases Act.throw_eq_ok.mp rest with ⟨_, rfl⟩
            exact .some chunks (.failed error) (by simp) (by rw [app]) records
        | blocked =>
            rcases Act.pure_eq_ok.mp rest with ⟨_, rfl⟩
            exact .some chunks .blocked (by simp) (by rw [app]) records
        | finished =>
            rcases fullyRead_leaves rest with ⟨roundtrip, more, later, appended, client, server⟩
            dsimp only at later appended client server
            rw [app] at later client server
            refine .whole chunks roundtrip more later ?_ client server
            rw [appended, records]
            simp [ConnCall.record]

/-- What greeting leaves: no stream, or a stream with the message submitted on it. -/
inductive Greets (message : String) (side last : Side P) : Prop
  | refused (app : last.app = side.app) (records : last.records = side.records ++ [.opened none])
  | opened (id : StreamId) (sentAt : Option Instant) (more : List Record)
      (app : last.app = { side.app with stream := some id, sentAt })
      (records : last.records = side.records ++ .opened (some id) :: more)
      (submitted : Submission id (asBytes message) more)

private theorem greet_greets {now : Instant} {message : String}
    (ran : greet now message side = .ok (result, last)) : Greets message side last := by
  rw [greet] at ran
  rcases Act.bind_eq_ok.mp ran with ⟨error, failed, _⟩ | ⟨answer, middle, opened, rest⟩
  · rcases call_eq_ok failed with ⟨_, impossible, _⟩
    cases impossible
  · rcases call_eq_ok opened with ⟨_, same, app, records⟩
    cases same
    cases answer with
    | none =>
        rcases Act.throw_eq_ok.mp rest with ⟨_, rfl⟩
        exact .refused app records
    | some id =>
        dsimp only at rest
        rw [setApp_bind] at rest
        rcases Act.bind_eq_ok.mp rest with ⟨error, failed, _⟩ | ⟨_, after, submitted, rest⟩
        · rcases submit_leaves failed with ⟨same, more, appended, submission⟩
          refine .opened id side.app.sentAt more ?_ ?_ submission
          · rw [same, app]
          · rw [appended, records]
            simp [ConnCall.record]
        · rcases submit_leaves submitted with ⟨same, more, appended, submission⟩
          rcases setApp_eq_ok rest with ⟨_, later, kept⟩
          refine .opened id (some now) more ?_ ?_ submission
          · rw [later, same, app]
          · rw [kept, appended, records]
            simp [ConnCall.record]

inductive Datagrams (side last : Side P) : Prop
  | nothing (app : last.app = side.app) (records : last.records = side.records ++ [.got none])
  | mismatch (bytes : Bytes) (app : last.app = side.app)
      (records : last.records = side.records ++ [.got (some bytes)])
  | echoed (message : String) (client : side.app.role = .client message)
      (app : last.app = { side.app with datagramReceived := some (datagramFor message) })
      (records : last.records = side.records ++ [.got (some (datagramFor message))])
  | echoes (bytes : Bytes) (more : List Record) (server : side.app.role = .server)
      (app : last.app = side.app)
      (records : last.records = side.records ++ .got (some bytes) :: more)
      (copies : ∀ record ∈ more, ∃ answer, record = .sent bytes answer)

theorem datagramRound_leaves {result : Except String Bool}
    (ran : datagramRound side = .ok (result, last)) : Datagrams side last := by
  rw [datagramRound] at ran
  rcases Act.bind_eq_ok.mp ran with ⟨error, failed, _⟩ | ⟨answer, middle, got, rest⟩
  · rcases call_eq_ok failed with ⟨_, impossible, _⟩
    cases impossible
  · rcases call_eq_ok got with ⟨_, same, app, records⟩
    cases same
    cases answer with
    | none =>
        rcases Act.pure_eq_ok.mp rest with ⟨_, rfl⟩
        exact .nothing app records
    | some bytes =>
        dsimp only at rest
        rw [Act.view_bind, app] at rest
        cases role : side.app.role with
        | client message =>
            rw [role] at rest
            dsimp only at rest
            split at rest
            · rcases Act.throw_eq_ok.mp rest with ⟨_, rfl⟩
              exact .mismatch bytes app records
            · rename_i expected
              have expected : bytes = datagramFor message := not_not.mp expected
              subst expected
              rw [setApp_bind] at rest
              rcases Act.pure_eq_ok.mp rest with ⟨_, rfl⟩
              exact .echoed message role (by rw [app]) records
        | server =>
            rw [role] at rest
            dsimp only at rest
            have copies : ∃ result, sendCopies "datagram echo" bytes datagramCopies middle =
                .ok (result, last) := by
              rcases Act.bind_eq_ok.mp rest with ⟨error, failed, _⟩ | ⟨value, after, sent, rest⟩
              · exact ⟨_, failed⟩
              · rcases Act.pure_eq_ok.mp rest with ⟨_, rfl⟩
                exact ⟨_, sent⟩
            rcases copies with ⟨_, sent⟩
            rcases sendCopies_leaves _ sent with ⟨same, more, appended, only⟩
            refine .echoes bytes more role (by rw [same, app]) ?_ only
            rw [appended, records]
            simp [ConnCall.record]

/-- The parts of the application that its exchange is made of. -/
structure App.Agrees (app last : App) : Prop where
  role : last.role = app.role
  stream : last.stream = app.stream
  inbound : last.inbound = app.inbound
  received : last.received = app.received
  datagramReceived : last.datagramReceived = app.datagramReceived
  doneAt : last.doneAt = app.doneAt
  closeSent : last.closeSent = app.closeSent

/-- What handling an event does: nothing to the exchange, or one part of it. -/
inductive Handles (fuel : Nat) : Event → Side P → Side P → Prop
  | quiet {event : Event} {side last : Side P} (more : List Record)
      (agrees : side.app.Agrees last.app) (records : last.records = side.records ++ more)
      (neutral : ∀ record ∈ more, record.neutral = true) : Handles fuel event side last
  | greets {side middle last : Side P} {message : String} (client : side.app.role = .client message)
      (greets : Greets message middle last) (agrees : side.app.Agrees middle.app)
      (records : middle.records = side.records) : Handles fuel .connected side last
  | accepts {side middle last : Side P} {id : StreamId} (reads : Reads id middle last)
      (server : side.app.role = .server) (waits : side.app.stream = none)
      (app : middle.app = { side.app with stream := some id })
      (records : middle.records = side.records ++ [.accepted (some id)]) :
      Handles fuel (.opened .bi) side last
  | reads {side last : Side P} {id : StreamId} (ours : side.app.stream = some id)
      (reads : Reads id side last) : Handles fuel (.readable id) side last
  | datagrams {side last : Side P} {result : Except String Unit}
      (ran : Act.loop .outOfFuel datagramRound fuel side = .ok (result, last)) :
      Handles fuel .datagramReceived side last
  | lost {side last : Side P} {display : String} {at_ : Instant}
      (received : side.app.received.isSome = true)
      (app : last.app = { side.app with doneAt := some at_ })
      (records : last.records = side.records) :
      Handles fuel (.connectionLost (.applicationClosed display)) side last

theorem App.Agrees.refl (app : App) : app.Agrees app := ⟨rfl, rfl, rfl, rfl, rfl, rfl, rfl⟩

theorem Handles.same {fuel : Nat} {event : Event} (app : last.app = side.app)
    (records : last.records = side.records) : Handles fuel event side last := by
  apply Handles.quiet []
  · rw [app]
    exact App.Agrees.refl _
  · simp [records]
  · simp

theorem handleEvent_handles {fuel : Nat} {started now : Instant} {event : Event}
    (ran : handleEvent fuel started now event side = .ok (result, last)) :
    Handles fuel event side last := by
  have idle : ∀ {event : Event}, (pure () : AppAct P Unit) side = .ok (result, last) →
      Handles fuel event side last := by
    intro event ran
    rcases Act.pure_eq_ok.mp ran with ⟨_, rfl⟩
    exact .same rfl rfl
  cases event with
  | handshakeDataReady => exact idle ran
  | handshakeConfirmed => exact idle ran
  | path => exact idle ran
  | natTraversal => exact idle ran
  | stream => exact idle ran
  | datagramsUnblocked => exact idle ran
  | datagramReceived => exact .datagrams ran
  | connected =>
      rw [handleEvent, setApp_bind, Act.view_bind] at ran
      rcases Act.bind_eq_ok.mp ran with ⟨error, failed, _⟩ | ⟨peer, middle, authentic, rest⟩
      · rcases Act.ofExcept_eq_ok.mp failed with ⟨_, rfl⟩
        exact .quiet [] ⟨rfl, rfl, rfl, rfl, rfl, rfl, rfl⟩ (by simp) (by simp)
      · rcases Act.ofExcept_eq_ok.mp authentic with ⟨_, rfl⟩
        rw [setApp_bind, Act.view_bind] at rest
        dsimp only at rest
        cases role : side.app.role with
        | client message =>
            rw [role] at rest
            exact .greets role (greet_greets rest) ⟨role.symm, rfl, rfl, rfl, rfl, rfl, rfl⟩ rfl
        | server =>
            rw [role] at rest
            rcases Act.pure_eq_ok.mp rest with ⟨_, rfl⟩
            exact .quiet [] ⟨role.symm, rfl, rfl, rfl, rfl, rfl, rfl⟩ (by simp) (by simp)
  | opened dir =>
      cases dir with
      | uni => exact idle ran
      | bi =>
          rw [handleEvent, Act.view_bind] at ran
          split at ran
          · rename_i waits
            simp only [Bool.and_eq_true, decide_eq_true_eq, Option.isNone_iff_eq_none] at waits
            rcases Act.bind_eq_ok.mp ran with ⟨error, failed, _⟩ | ⟨stream, middle, accepted, rest⟩
            · rcases call_eq_ok failed with ⟨_, impossible, _⟩
              cases impossible
            · rcases call_eq_ok accepted with ⟨_, same, app, records⟩
              cases same
              rw [setApp_bind] at rest
              cases stream with
              | none =>
                  rcases Act.pure_eq_ok.mp rest with ⟨_, rfl⟩
                  apply Handles.quiet [.accepted none]
                  · rw [app]
                    exact ⟨rfl, waits.2.symm, rfl, rfl, rfl, rfl, rfl⟩
                  · exact records
                  · simp [Record.neutral]
              | some id =>
                  exact .accepts (readStream_reads rest) waits.1 waits.2 (by rw [app]) records
          · exact idle ran
  | readable id =>
      rw [handleEvent, Act.view_bind] at ran
      split at ran
      · rename_i ours
        exact .reads (of_decide_eq_true ours) (readStream_reads ran)
      · exact idle ran
  | connectionLost reason =>
      rw [handleEvent, Act.view_bind] at ran
      cases reason with
      | other display =>
          rcases Act.throw_eq_ok.mp ran with ⟨_, rfl⟩
          exact .same rfl rfl
      | applicationClosed display =>
          cases received : side.app.received with
          | none =>
              rw [received] at ran
              rcases Act.throw_eq_ok.mp ran with ⟨_, rfl⟩
              exact .same rfl rfl
          | some text =>
              rw [received] at ran
              rcases setApp_eq_ok ran with ⟨_, app, records⟩
              exact .lost (by simp [received]) app records

/-- What the datagram leg of `drive` leaves: copies, once the stream echo is there. -/
structure Copies (message : String) (side last : Side P) : Prop where
  app : ∃ datagramSent, last.app = { side.app with datagramSent }
  records : ∃ more, last.records = side.records ++ more ∧
    ∀ record ∈ more, side.app.received.isSome = true ∧
      ∃ answer, record = .sent (datagramFor message) answer

/-- What the closing leg of `drive` leaves: one close, once the datagram echo is there. -/
inductive Closes (side last : Side P) : Prop
  | waits (app : last.app = side.app) (records : last.records = side.records)
  | closes (at_ : Instant) (echoed : side.app.datagramReceived.isSome = true)
      (app : last.app = { side.app with closeSent := true, doneAt := some at_ })
      (records : last.records = side.records ++ [.closed 0 (asBytes "done")])

private theorem sendDatagramOnce_copies {message : String}
    (ran : sendDatagramOnce message side = .ok (result, last)) : Copies message side last := by
  rw [sendDatagramOnce, Act.view_bind] at ran
  split at ran
  · rename_i ready
    rw [Bool.and_eq_true] at ready
    rcases Act.bind_eq_ok.mp ran with ⟨error, failed, _⟩ | ⟨value, middle, sent, rest⟩
    · rcases sendCopies_leaves _ failed with ⟨app, more, records, only⟩
      exact ⟨⟨side.app.datagramSent, app⟩, more, records,
        fun record member => ⟨ready.1, only record member⟩⟩
    · rcases sendCopies_leaves _ sent with ⟨app, more, records, only⟩
      rcases setApp_eq_ok rest with ⟨_, later, kept⟩
      refine ⟨⟨true, by rw [later, app]⟩, more, by rw [kept, records], ?_⟩
      exact fun record member => ⟨ready.1, only record member⟩
  · rcases Act.pure_eq_ok.mp ran with ⟨_, rfl⟩
    exact ⟨⟨last.app.datagramSent, rfl⟩, [], by simp, by simp⟩

private theorem closeOnce_closes {now : Instant} (ran : closeOnce now side = .ok (result, last)) :
    Closes side last := by
  rw [closeOnce, Act.view_bind] at ran
  split at ran
  · rename_i ready
    rw [Bool.and_eq_true] at ready
    rcases Act.bind_eq_ok.mp ran with ⟨error, failed, _⟩ | ⟨value, middle, closed, rest⟩
    · rcases call_eq_ok failed with ⟨_, impossible, _⟩
      cases impossible
    · rcases call_eq_ok closed with ⟨_, _, app, records⟩
      rcases setApp_eq_ok rest with ⟨_, later, kept⟩
      exact .closes now ready.1 (by rw [later, app]) (by rw [kept, records]; rfl)
  · rcases Act.pure_eq_ok.mp ran with ⟨_, rfl⟩
    exact .waits rfl rfl

/-- What `drive` does: nothing for a server, and for a client its two legs, the second only
if the first did not fail. -/
inductive Drives (side last : Side P) : Prop
  | server (role : side.app.role = .server) (same : last = side)
  | client (middle : Side P) (message : String) (role : side.app.role = .client message)
      (copies : Copies message side middle) (closes : Closes middle last)

theorem drive_drives {now : Instant} (ran : drive now side = .ok (result, last)) :
    Drives side last := by
  rw [drive, Act.view_bind] at ran
  cases role : side.app.role with
  | server =>
      rw [role] at ran
      rcases Act.pure_eq_ok.mp ran with ⟨_, rfl⟩
      exact .server role rfl
  | client message =>
      rw [role] at ran
      rcases Act.bind_eq_ok.mp ran with ⟨error, failed, _⟩ | ⟨value, middle, sent, rest⟩
      · exact .client last message role (sendDatagramOnce_copies failed) (.waits rfl rfl)
      · exact .client middle message role (sendDatagramOnce_copies sent) (closeOnce_closes rest)

end Operations

end IrohEndpoint.Spike
