import IrohEndpoint.Methods

/-! # What can happen to a connection entry

Every operation of the endpoint changes an entry by a sequence of the steps listed
here. What holds of all of them holds of an entry for as long as it is in the
connection table. -/

namespace IrohEndpoint

open Relation

variable {P : Platform}

def StreamRecord.isSend : StreamRecord → Bool
  | .write .. | .finish .. | .reset .. => true
  | .read .. | .stop .. => false

def ConnCall.surfaces {EndpointEvent ConnectionEvent Answer : Type} (own : Dir)
    (operation : ConnCall EndpointEvent ConnectionEvent Answer) (answer : Answer) :
    List StreamId :=
  match operation, answer with
  | .acceptStream dir, answer => if own = dir then answer.toList else []
  | _, _ => []

namespace ConnEntry

variable {id : StreamId} {bytes : Bytes}

theorem writeRound_entry {loop next : WriteLoop P} {again : Bool}
    (stepped : writeRound id bytes loop = .ok (next, again)) :
    next.entry = (loop.entry.call (.write id (bytes.drop loop.offset))).2.record
      (.write id (bytes.drop loop.offset)
        (loop.entry.call (.write id (bytes.drop loop.offset))).1) := by
  rw [writeRound] at stepped
  split at stepped
  · cases stepped
  · dsimp only at stepped
    split at stepped
    · split at stepped
      · cases stepped
        rfl
      · split at stepped <;> cases stepped <;> rfl
    all_goals
      cases stepped
      rfl

theorem writeAllCheck_invariant (Invariant : ConnEntry P → Prop)
    (round : ∀ (loop next : WriteLoop P) (again : Bool), Invariant loop.entry →
      writeRound id bytes loop = .ok (next, again) → Invariant next.entry)
    {entry after : ConnEntry P} {offset reached : Nat} {answer : Option (Except Error Unit)}
    (initially : Invariant entry)
    (checked : entry.writeAllCheck id bytes offset = .ok (answer, reached, after)) :
    Invariant after := by
  rw [writeAllCheck] at checked
  split at checked
  · cases checked
    exact initially
  · rcases bind_eq_ok.mp checked with ⟨loop, ran, result⟩
    cases result
    apply whileLoop.invariant (fun current : WriteLoop P => Invariant current.entry) _ _
      initially ran
    exact round

end ConnEntry

/-! ## The methods, for any relation -/

/-- A relation that holds across a call that takes no stream out of noq and across a
record of the sending half. Both are all that most methods do. -/
structure Covers (Rel : ConnEntry P → ConnEntry P → Prop) : Prop where
  refl : ∀ entry, Rel entry entry
  trans : ∀ {first middle last}, Rel first middle → Rel middle last → Rel first last
  call : ∀ {Answer : Type} (operation : ConnCall P.EndpointEvent P.ConnectionEvent Answer)
    (entry : ConnEntry P), (∀ own answer, operation.surfaces own answer = []) →
    Rel entry (entry.call operation).2
  sent : ∀ (entry : ConnEntry P) (record : StreamRecord), record.isSend = true →
    Rel entry (entry.record record)

namespace Covers

variable {Rel : ConnEntry P → ConnEntry P → Prop}

theorem whileLoop (covers : Covers Rel)
    {body : ConnEntry P → Except Abort (ConnEntry P × Bool)}
    (round : ∀ entry next again, body entry = .ok (next, again) → Rel entry next)
    {fuel : Nat} {entry final : ConnEntry P}
    (ran : IrohEndpoint.whileLoop .outOfFuel body fuel entry = .ok final) :
    Rel entry final := by
  apply whileLoop.invariant (fun current => Rel entry current) _ fuel (covers.refl entry) ran
  intro current next again sofar stepped
  exact covers.trans sofar (round current next again stepped)

theorem openStreamCheck (covers : Covers Rel) (entry : ConnEntry P) (dir : Dir) :
    Rel entry (entry.openStreamCheck dir).2 := by
  rw [ConnEntry.openStreamCheck]
  split
  · exact covers.refl entry
  · exact covers.call (.openStream dir) entry fun _ _ => rfl

theorem recvDatagramCheck (covers : Covers Rel) (entry : ConnEntry P) :
    Rel entry entry.recvDatagramCheck.2 := by
  rw [ConnEntry.recvDatagramCheck]
  have called := covers.call .recvDatagram entry fun _ _ => rfl
  split <;> rename_i answer <;> rw [answer] at called <;> exact called

theorem sendDatagram (covers : Covers Rel) (entry : ConnEntry P) (data : Bytes) :
    Rel entry (entry.sendDatagram data).2 := by
  rw [ConnEntry.sendDatagram]
  have called := covers.call (.sendDatagram data) entry fun _ _ => rfl
  split
  · exact covers.refl entry
  · split <;> rename_i answer <;> rw [answer] at called <;> exact called

theorem close (covers : Covers Rel) (entry : ConnEntry P) (now : Instant) (code : UInt32)
    (reason : Bytes) : Rel entry (entry.close now code reason) := by
  rw [ConnEntry.close]
  split
  · exact covers.call (.close now code reason) entry fun _ _ => rfl
  · exact covers.refl entry

theorem finish (covers : Covers Rel) (entry : ConnEntry P) (id : StreamId) :
    Rel entry (entry.finish id).2 := by
  have finished : Rel entry ((entry.call (.finish id)).2.record
      (.finish id (entry.call (.finish id)).1)) :=
    covers.trans (covers.call (.finish id) entry fun _ _ => rfl) (covers.sent _ _ rfl)
  rw [ConnEntry.finish]
  split
  · exact covers.refl entry
  · dsimp only
    split <;> exact finished

theorem reset (covers : Covers Rel) (entry : ConnEntry P) (id : StreamId) (code : UInt32) :
    Rel entry (entry.reset id code) :=
  covers.trans (covers.call (.reset id code) entry fun _ _ => rfl) (covers.sent _ _ rfl)

theorem writeAllCheck (covers : Covers Rel) {entry next : ConnEntry P} {id : StreamId}
    {bytes : Bytes} {offset reached : Nat} {answer : Option (Except Error Unit)}
    (checked : entry.writeAllCheck id bytes offset = .ok (answer, reached, next)) :
    Rel entry next := by
  apply ConnEntry.writeAllCheck_invariant (Rel entry) _ (covers.refl entry) checked
  intro loop next again sofar stepped
  rw [ConnEntry.writeRound_entry stepped]
  have called : Rel loop.entry (loop.entry.call (.write id (bytes.drop loop.offset))).2 :=
    covers.call _ loop.entry fun _ _ => rfl
  exact covers.trans sofar (covers.trans called (covers.sent _ _ rfl))

end Covers

theorem connected_covers : Covers (fun entry after : ConnEntry P =>
    after.connected = entry.connected) where
  refl _ := rfl
  trans front back := back.trans front
  call _ _ _ := rfl
  sent _ _ _ := rfl

/-! ## The steps -/

inductive EntryStep (entry : ConnEntry P) : ConnEntry P → Prop
  | call {Answer : Type}
      (operation : ConnCall P.EndpointEvent P.ConnectionEvent Answer) :
      EntryStep entry (entry.call operation).2
  | connected (now : Instant) : EntryStep entry (entry.onConnected now)
  | queues (bi uni : List StreamId) :
      EntryStep entry { entry with biQueue := bi, uniQueue := uni }
  | lost (reason : ConnectionError) :
      EntryStep entry { entry with error := some (lostError reason) }
  | died : entry.error = none → EntryStep entry { entry with error := some .closed }
  | drained : P.isDrained entry.conn = true →
      EntryStep entry { entry with drained := true }
  | read (id : StreamId) (max : Nat) (reader : StreamReader) :
      EntryStep entry (entry.readSomeCheck id max reader).2
  | stop (id : StreamId) (code : UInt32) : EntryStep entry (entry.stop id code)
  | sent (record : StreamRecord) : record.isSend = true →
      EntryStep entry (entry.record record)

abbrev EntrySteps : ConnEntry P → ConnEntry P → Prop := ReflTransGen EntryStep

namespace EntrySteps

theorem single {before after : ConnEntry P} (step : EntryStep before after) :
    EntrySteps before after := ReflTransGen.single step

theorem call {Answer : Type} (entry : ConnEntry P)
    (operation : ConnCall P.EndpointEvent P.ConnectionEvent Answer) :
    EntrySteps entry (entry.call operation).2 := single (.call operation)

theorem covers : Covers (@EntrySteps P) where
  refl _ := .refl
  trans := ReflTransGen.trans
  call operation entry _ := call entry operation
  sent _ _ sends := single (.sent _ sends)

theorem queueStream (entry : ConnEntry P) (dir : Dir) (id : StreamId) :
    EntrySteps entry (entry.queueStream dir id) := by
  cases dir with
  | bi => exact single (.queues (entry.biQueue ++ [id]) entry.uniQueue)
  | uni => exact single (.queues entry.biQueue (entry.uniQueue ++ [id]))

theorem acceptRound {dir : Dir} {entry next : ConnEntry P} {again : Bool}
    (stepped : IrohEndpoint.acceptRound dir entry = .ok (next, again)) :
    EntrySteps entry next := by
  rw [IrohEndpoint.acceptRound] at stepped
  have called := call entry (.acceptStream dir)
  split at stepped <;> rename_i answer <;> rw [answer] at called
  · cases stepped
    exact called
  · cases stepped
    exact called.trans (queueStream _ _ _)

theorem acceptStreamCheck (entry : ConnEntry P) (dir : Dir) :
    EntrySteps entry (entry.acceptStreamCheck dir).2 := by
  rw [ConnEntry.acceptStreamCheck]
  split
  · cases dir with
    | bi => exact single (.queues _ entry.uniQueue)
    | uni => exact single (.queues entry.biQueue _)
  · exact .refl

theorem latchDrained (entry : ConnEntry P) : EntrySteps entry entry.latchDrained := by
  rw [ConnEntry.latchDrained]
  split
  · rename_i latches
    simp only [Bool.and_eq_true, Bool.not_eq_true'] at latches
    exact single (.drained latches.2)
  · exact .refl

end EntrySteps

/-! ## What every step keeps -/

/-- The `Connected` event has two outcomes: the connection is surfaced under the
authenticated key, or the entry fails and its connection is closed. -/
theorem ConnEntry.onConnected_cases (entry : ConnEntry P) (now : Instant) :
    (∃ id, P.tlsPeer entry.conn = some id ∧
      (entry.expectedPeer = none ∨ entry.expectedPeer = some id) ∧
      entry.authenticates = true ∧
      entry.onConnected now = { entry with
        alpn := entry.negotiatedAlpn
        peer := some id
        connected := true
        trace := { entry.trace with
          authenticated := entry.trace.authenticated ++ [some id] } }) ∨
    (∃ error conn, P.Touches entry.conn conn ∧
      (∀ id, P.tlsPeer entry.conn = some id →
        entry.expectedPeer ≠ none ∧ entry.expectedPeer ≠ some id) ∧
      entry.authenticates = false ∧
      entry.onConnected now = { entry with
        alpn := entry.negotiatedAlpn
        error := some error
        conn
        trace := { entry.trace with
          authenticated := entry.trace.authenticated ++ [P.tlsPeer entry.conn] } }) := by
  simp only [onConnected, authenticates]
  cases seen : P.tlsPeer entry.conn with
  | none =>
      right
      refine ⟨_, _, ⟨_, _, rfl⟩, ?_, rfl, rfl⟩
      intro id impossible
      cases impossible
  | some id =>
      by_cases allowed : entry.expectedPeer = none ∨ entry.expectedPeer = some id
      · left
        refine ⟨id, rfl, allowed, ?_, ?_⟩
        · simpa using allowed
        · simp only [if_pos allowed]
      · right
        simp only [if_neg allowed]
        refine ⟨_, _, ⟨_, _, rfl⟩, ?_, ?_, rfl⟩
        · intro other same
          cases same
          exact not_or.mp allowed
        · simpa using allowed

theorem ConnEntry.connectionState_closed (entry : ConnEntry P) :
    entry.connectionState = .closed ↔ entry.isClosed = true := by
  rw [connectionState]
  split
  · simp_all
  · split <;> simp_all

/-- How an entry may differ from what it was earlier: its identity and its
connection stay, and what is latched stays latched. -/
structure Evolves (before after : ConnEntry P) : Prop where
  serial : after.trace.serial = before.trace.serial
  origin : after.trace.origin = before.trace.origin
  expectedPeer : after.expectedPeer = before.expectedPeer
  acceptedSide : after.acceptedSide = before.acceptedSide
  connected : before.connected = true → after.connected = true
  drained : before.drained = true → after.drained = true
  error : before.error.isSome = true → after.error.isSome = true
  conn : ReflTransGen P.Touches before.conn after.conn
  authenticated : before.trace.authenticated <+: after.trace.authenticated
  streams : before.trace.streams <+: after.trace.streams

namespace Evolves

theorem refl (entry : ConnEntry P) : Evolves entry entry :=
  ⟨rfl, rfl, rfl, rfl, id, id, id, .refl, List.prefix_rfl, List.prefix_rfl⟩

theorem trans {first middle last : ConnEntry P} (front : Evolves first middle)
    (back : Evolves middle last) : Evolves first last where
  serial := back.serial.trans front.serial
  origin := back.origin.trans front.origin
  expectedPeer := back.expectedPeer.trans front.expectedPeer
  acceptedSide := back.acceptedSide.trans front.acceptedSide
  connected := back.connected ∘ front.connected
  drained := back.drained ∘ front.drained
  error := back.error ∘ front.error
  conn := front.conn.trans back.conn
  authenticated := front.authenticated.trans back.authenticated
  streams := front.streams.trans back.streams

theorem isClosed {before after : ConnEntry P} (evolves : Evolves before after)
    (closed : before.isClosed = true) : after.isClosed = true := by
  rw [ConnEntry.isClosed, Bool.or_eq_true] at closed ⊢
  exact closed.imp evolves.drained evolves.error

theorem call {Answer : Type} (entry : ConnEntry P)
    (operation : ConnCall P.EndpointEvent P.ConnectionEvent Answer) :
    Evolves entry (entry.call operation).2 :=
  ⟨rfl, rfl, rfl, rfl, id, id, id, .single ⟨_, operation, rfl⟩, List.prefix_rfl,
    List.prefix_rfl⟩

theorem record (entry : ConnEntry P) (record : StreamRecord) :
    Evolves entry (entry.record record) :=
  ⟨rfl, rfl, rfl, rfl, id, id, id, .refl, List.prefix_rfl, List.prefix_append _ _⟩

theorem readSomeCheck (entry : ConnEntry P) (id : StreamId) (max : Nat)
    (reader : StreamReader) : Evolves entry (entry.readSomeCheck id max reader).2 := by
  rw [ConnEntry.readSomeCheck]
  split
  · exact record entry _
  · exact (call entry (.read id max)).trans (record _ _)

theorem onConnected (entry : ConnEntry P) (now : Instant) :
    Evolves entry (entry.onConnected now) := by
  rcases entry.onConnected_cases now with
    ⟨id, _, _, _, equal⟩ | ⟨error, conn, touched, _, _, equal⟩
  · rw [equal]
    exact ⟨rfl, rfl, rfl, rfl, fun _ => rfl, fun latched => latched,
      fun latched => latched, .refl, List.prefix_append _ _, List.prefix_rfl⟩
  · rw [equal]
    exact ⟨rfl, rfl, rfl, rfl, fun latched => latched, fun latched => latched,
      fun _ => rfl, .single touched, List.prefix_append _ _, List.prefix_rfl⟩

end Evolves

theorem EntryStep.evolves {before after : ConnEntry P} (step : EntryStep before after) :
    Evolves before after := by
  cases step with
  | call operation => exact Evolves.call before operation
  | connected now => exact Evolves.onConnected before now
  | queues bi uni =>
      exact ⟨rfl, rfl, rfl, rfl, id, id, id, .refl, List.prefix_rfl, List.prefix_rfl⟩
  | lost reason =>
      exact ⟨rfl, rfl, rfl, rfl, id, id, fun _ => rfl, .refl, List.prefix_rfl,
        List.prefix_rfl⟩
  | died fresh =>
      exact ⟨rfl, rfl, rfl, rfl, id, id, fun _ => rfl, .refl, List.prefix_rfl,
        List.prefix_rfl⟩
  | drained latches =>
      exact ⟨rfl, rfl, rfl, rfl, id, fun _ => rfl, id, .refl, List.prefix_rfl,
        List.prefix_rfl⟩
  | read stream max reader => exact Evolves.readSomeCheck before stream max reader
  | stop stream code =>
      exact (Evolves.call before (.stop stream code)).trans (Evolves.record _ _)
  | sent record _ => exact Evolves.record before record

theorem EntrySteps.evolves {before after : ConnEntry P}
    (steps : EntrySteps before after) : Evolves before after := by
  induction steps with
  | refl => exact Evolves.refl before
  | tail _ step induction => exact induction.trans step.evolves

end IrohEndpoint
