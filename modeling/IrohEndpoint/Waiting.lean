import IrohEndpoint.Handles

/-! # Calls on a closed connection

Every asynchronous method decides on its own which of the two closed markers of its
entry it looks at. The `drained` latch is looked at by `wait-closed` alone. -/

namespace IrohEndpoint

variable {P : Platform}

/-- On a drained connection no stream opens and nothing is received or sent, and it stays
drained. -/
structure Platform.Quiescent (P : Platform) : Prop where
  stays : ∀ before after, P.Touches before after → P.isDrained before = true →
    P.isDrained after = true
  openStream : ∀ conn dir, P.isDrained conn = true →
    (P.call (.openStream dir) conn).1 = none
  recvDatagram : ∀ conn, P.isDrained conn = true → (P.call .recvDatagram conn).1 = none
  write : ∀ conn id data, P.isDrained conn = true →
    (P.call (.write id data) conn).1 = .error .blocked
  read : ∀ conn id max, P.isDrained conn = true →
    (P.call (.read id max) conn).1 = .ok (.error .blocked)

theorem Platform.Quiescent.many (quiescent : P.Quiescent) {before after : P.Connection}
    (touched : Relation.ReflTransGen P.Touches before after)
    (drained : P.isDrained before = true) : P.isDrained after = true := by
  induction touched with
  | refl => exact drained
  | tail _ touch induction => exact quiescent.stays _ _ touch induction

private theorem reachable_drained (quiescent : P.Quiescent) {config : Config P}
    (reached : (endpoint P).Reachable config) {handle : ConnectionHandle}
    {entry : ConnEntry P} (found : config.state.conns.get? handle = some entry)
    (latched : entry.drained = true) : P.isDrained entry.conn = true := by
  refine reachable_entries reached
    (fun entry => entry.drained = true → P.isDrained entry.conn = true) ?_ ?_ handle entry
    found latched
  · intro conn expectedPeer acceptedSide serial origin impossible
    cases impossible
  · intro before after step drained
    have kept : before.drained = true → P.isDrained after.conn = true :=
      fun latched => quiescent.many step.evolves.conn (drained latched)
    cases step with
    | drained now => exact fun _ => now
    | connected now =>
        rcases before.onConnected_cases now with ⟨_, _, _, _, equal⟩ | ⟨_, _, _, _, _, equal⟩
        · rw [equal] at kept ⊢
          exact kept
        · rw [equal] at kept ⊢
          exact kept
    | read stream max reader =>
        have same : (before.readSomeCheck stream max reader).2.drained = before.drained := by
          rw [ConnEntry.readSomeCheck]
          split <;> rfl
        rw [same]
        exact kept
    | _ => exact kept

namespace ConnEntry

/-- The next poll of every method that can be pending on the entry resolves. -/
structure Resolves (entry : ConnEntry P) : Prop where
  connect : entry.connectCheck.isSome = true
  openStream : ∀ dir, (entry.openStreamCheck dir).1.isSome = true
  acceptStream : ∀ dir, (entry.acceptStreamCheck dir).1.isSome = true
  recvDatagram : entry.recvDatagramCheck.1.isSome = true
  write : ∀ id bytes offset, ∃ result reached after,
    entry.writeAllCheck id bytes offset = .ok (some result, reached, after)
  read : ∀ id max reader, (entry.readSomeCheck id max reader).1.isSome = true

private theorem Resolves.of_error {entry : ConnEntry P} (failed : entry.error.isSome = true) :
    entry.Resolves := by
  rcases Option.isSome_iff_exists.mp failed with ⟨error, latched⟩
  refine ⟨?_, ?_, ?_, ?_, ?_, ?_⟩
  · simp [connectCheck, latched]
  · intro dir
    simp [openStreamCheck, latched]
  · intro dir
    rw [acceptStreamCheck]
    split
    · rfl
    · simp [latched]
  · rw [recvDatagramCheck]
    split
    · rfl
    · rename_i after answer
      have same : after.error = entry.error := congrArg (·.2.error) answer.symm
      simp [same, latched]
  · intro id bytes offset
    exact ⟨_, _, _, by rw [writeAllCheck, latched]⟩
  · intro id max reader
    rw [readSomeCheck, latched]
    dsimp only
    split <;> rfl

section Drained

variable {entry : ConnEntry P} (quiescent : P.Quiescent)
  (drained : P.isDrained entry.conn = true) (clear : entry.error = none)

include clear in
private theorem connectCheck_of_clear :
    entry.connectCheck.isSome = true ↔ entry.connected = true := by
  rw [connectCheck, clear]
  dsimp only
  split <;> simp_all

include quiescent drained clear in
private theorem openStreamCheck_drained (dir : Dir) : (entry.openStreamCheck dir).1 = none := by
  have answer := quiescent.openStream entry.conn dir drained
  simp [openStreamCheck, clear, call, answer]

include clear in
private theorem acceptStreamCheck_of_clear (dir : Dir) :
    (entry.acceptStreamCheck dir).1.isSome = true ↔ entry.queue dir ≠ [] := by
  rw [acceptStreamCheck]
  split
  · simp_all
  · simp_all

include quiescent drained clear in
private theorem recvDatagramCheck_drained : entry.recvDatagramCheck.1 = none := by
  have answer := quiescent.recvDatagram entry.conn drained
  simp [recvDatagramCheck, call, answer, clear]

include quiescent drained clear in
private theorem writeAllCheck_drained (id : StreamId) (bytes : Bytes) (offset : Nat)
    (result : Except Error Unit) (reached : Nat) (after : ConnEntry P) :
    entry.writeAllCheck id bytes offset ≠ .ok (some result, reached, after) := by
  have answer := quiescent.write entry.conn id (bytes.drop offset) drained
  intro checked
  rw [writeAllCheck, clear] at checked
  rcases bind_eq_ok.mp checked with ⟨loop, ran, same⟩
  rw [whileLoop, writeRound] at ran
  by_cases beyond : bytes.length < offset
  · rw [if_pos beyond] at ran
    cases ran
  · rw [if_neg beyond] at ran
    simp only [call, answer] at ran
    cases ran
    cases same

include quiescent drained clear in
private theorem readSomeCheck_drained (id : StreamId) (max : Nat) (reader : StreamReader) :
    (entry.readSomeCheck id max reader).1 = none := by
  have answer := quiescent.read entry.conn id max drained
  simp [readSomeCheck, clear, call, answer, readResult]

end Drained

end ConnEntry

/-! ## Closed connections -/

/-- On a closed entry every pending method resolves at its next poll exactly if an error
is latched. On a drained entry without one, `connect` resolves if it had connected and a
stream accept if a stream is queued, and nothing else does. -/
theorem closed_connection_resolves (quiescent : P.Quiescent) {config : Config P}
    (reached : (endpoint P).Reachable config) {handle : ConnectionHandle}
    {entry : ConnEntry P} (found : config.state.conns.get? handle = some entry)
    (closed : entry.isClosed = true) :
    (entry.Resolves ↔ entry.error.isSome = true) ∧
    (entry.connectCheck.isSome = true ↔
      entry.error.isSome = true ∨ entry.connected = true) ∧
    (∀ dir, (entry.openStreamCheck dir).1.isSome = true ↔ entry.error.isSome = true) ∧
    (∀ dir, (entry.acceptStreamCheck dir).1.isSome = true ↔
      entry.error.isSome = true ∨ entry.queue dir ≠ []) ∧
    (entry.recvDatagramCheck.1.isSome = true ↔ entry.error.isSome = true) ∧
    (∀ id bytes offset, (∃ result reached after,
        entry.writeAllCheck id bytes offset = .ok (some result, reached, after)) ↔
      entry.error.isSome = true) ∧
    ∀ id max reader, (entry.readSomeCheck id max reader).1.isSome = true ↔
      entry.error.isSome = true := by
  cases latched : entry.error with
  | some error =>
      have resolves : entry.Resolves := .of_error (by rw [latched]; rfl)
      simp [resolves, resolves.connect, resolves.openStream, resolves.acceptStream,
        resolves.recvDatagram, resolves.write, resolves.read]
  | none =>
      have drained : P.isDrained entry.conn = true := by
        refine reachable_drained quiescent reached found ?_
        simpa [ConnEntry.isClosed, latched] using closed
      have parked := ConnEntry.openStreamCheck_drained quiescent drained latched
      refine ⟨iff_of_false ?_ (by simp), ?_, ?_, ?_, ?_, ?_, ?_⟩
      · intro resolves
        have opened := resolves.openStream .bi
        rw [parked .bi] at opened
        cases opened
      · simp [ConnEntry.connectCheck_of_clear latched]
      · intro dir
        simp [parked dir]
      · intro dir
        simp [ConnEntry.acceptStreamCheck_of_clear latched dir]
      · simp [ConnEntry.recvDatagramCheck_drained quiescent drained latched]
      · intro id bytes offset
        refine iff_of_false ?_ (by simp)
        rintro ⟨result, offset', after, checked⟩
        exact ConnEntry.writeAllCheck_drained quiescent drained latched _ _ _ _ _ _ checked
      · intro id max reader
        simp [ConnEntry.readSomeCheck_drained quiescent drained latched]

namespace Slab

private theorem call_drained {Answer : Type} (operation : ConnCall Unit Bytes Answer)
    (connection : Connection) (drained : connection.drained = true) :
    (call operation connection).2.drained = true := by
  cases operation with
  | handleEvent event =>
      rw [call, Connection.receive.eq_def]
      split <;> exact drained
  | acceptStream dir =>
      cases dir with
      | uni => exact drained
      | bi =>
          rw [call, Connection.accept, if_pos drained]
          exact drained
  | read id max =>
      rw [call, Connection.read, if_pos drained]
      exact drained
  | _ =>
      rw [call]
      try split
      all_goals first | exact drained | rfl

private theorem quiescent : platform.Quiescent where
  stays := by
    rintro before after ⟨Answer, operation, rfl⟩ drained
    exact call_drained operation before drained
  openStream conn dir drained := congrArg Prod.fst (if_pos drained)
  recvDatagram conn _ := rfl
  write conn id data drained := congrArg Prod.fst (if_pos drained)
  read conn id max drained := congrArg Prod.fst (if_pos drained)

end Slab

/-- The peer has closed the connection. -/
theorem closed_connection_resolves_lost :
    ∃ config : Config Slab.platform, (endpoint Slab.platform).Reachable config ∧
      ∃ entry, config.state.conns.get? 0 = some entry ∧ entry.isClosed = true ∧
        entry.Resolves := by
  have passed : (endpoint Slab.platform).runs (fun _ _ => true) (Slab.bound true false)
      (List.flatten [Slab.turn [] 0, [Slab.hello 0 7], Slab.turn [0] 1,
        [.pump (.relayEvent 0 (.ok ⟨Slab.peer 7, [2, 0, 0]⟩))], Slab.turn [0] 0])
      (fun config => (config.state.conns.get? 0).any fun entry =>
        entry.isClosed && entry.error.isSome) = true := by decide +kernel
  rcases System.Reachable.of_runs (Slab.bound_initial true false) passed with
    ⟨config, reached, tested⟩
  simp only [Option.any_eq_true, Bool.and_eq_true] at tested
  rcases tested with ⟨entry, found, closed, failed⟩
  exact ⟨config, reached, entry, found, closed,
    (closed_connection_resolves Slab.quiescent reached found closed).1.mpr failed⟩

/-- This side has closed the connection: it reports closed, and an open, a receive, a
write and a read on it stay pending. -/
theorem closed_connection_resolves_parked :
    ∃ config : Config Slab.platform, (endpoint Slab.platform).Reachable config ∧
      ∃ entry, config.state.conns.get? 0 = some entry ∧
        entry.connectionState = .closed ∧ (entry.openStreamCheck .bi).1 = none ∧
        (entry.acceptStreamCheck .bi).1 = none ∧ entry.recvDatagramCheck.1 = none ∧
        (entry.readSomeCheck 0 16 .call).1 = none := by
  have passed : (endpoint Slab.platform).runs (fun _ _ => true) (Slab.bound true false)
      acceptedAndClosed (fun config => (config.state.conns.get? 0).any fun entry =>
        decide (entry.connectionState = .closed ∧ (entry.openStreamCheck .bi).1 = none ∧
          (entry.acceptStreamCheck .bi).1 = none ∧ entry.recvDatagramCheck.1 = none ∧
          (entry.readSomeCheck 0 16 .call).1 = none)) = true := by decide +kernel
  rcases System.Reachable.of_runs (Slab.bound_initial true false) passed with
    ⟨config, reached, tested⟩
  simp only [Option.any_eq_true, decide_eq_true_eq] at tested
  exact ⟨config, reached, tested⟩

end IrohEndpoint
