import IrohEndpoint.ConfigSteps
import IrohEndpoint.Slab

/-! # Connection entries over a run

An entry stays under its handle and moves by entry steps until a new connection is
put under the same handle. Serials tell the two apart. -/

namespace IrohEndpoint

open Relation

variable {P : Platform}

/-! ## One step -/

/-- What a step does to the connection table: the entries move, or one is added. -/
inductive ConnsStep (task : Task) (state next : State P) : Prop
  | moved : (∀ handle, Option.Rel EntrySteps (state.conns.get? handle)
      (next.conns.get? handle)) →
      next.history.connections = state.history.connections → ConnsStep task state next
  | inserted (handle : ConnectionHandle) (conn : P.Connection)
      (expectedPeer : Option EndpointId) (acceptedSide : Bool) (origin : Origin) :
      origin.Admits task state expectedPeer acceptedSide → state.closed = false →
      next = state.insertConn handle conn expectedPeer acceptedSide origin →
      ConnsStep task state next

private theorem relEntrySteps_refl (found : Option (ConnEntry P)) :
    Option.Rel EntrySteps found found := by
  cases found with
  | none => exact .none
  | some entry => exact .some .refl

theorem rel_some_left {α β : Type} {relation : α → β → Prop} {left : α} {found : Option β}
    (related : Option.Rel relation (some left) found) :
    ∃ right, found = some right ∧ relation left right := by
  cases related with
  | some here => exact ⟨_, rfl, here⟩

theorem rel_some_right {α β : Type} {relation : α → β → Prop} {right : β}
    {found : Option α} (related : Option.Rel relation found (some right)) :
    ∃ left, found = some left ∧ relation left right := by
  cases related with
  | some here => exact ⟨_, rfl, here⟩

private theorem relEntrySteps_map (found : Option (ConnEntry P))
    {change : ConnEntry P → ConnEntry P} (steps : ∀ entry, EntrySteps entry (change entry)) :
    Option.Rel EntrySteps found (found.map change) := by
  cases found with
  | none => exact .none
  | some entry => exact .some (steps entry)

private theorem closeAll_conns (state : State P) (now : Instant) (reason : Bytes)
    (handle : ConnectionHandle) :
    Option.Rel EntrySteps (state.conns.get? handle)
      ((state.closeAll now reason).conns.get? handle) := by
  rw [State.closeAll, Table.get?_mapValues]
  exact relEntrySteps_map _ fun entry => EntrySteps.covers.close entry now 0 reason

theorem StateStep.conns {task : Task} {state next : State P}
    (step : StateStep task state next) : ConnsStep task state next := by
  cases step with
  | entry handle entry after io found steps _ _ _ =>
      refine .moved ?_ rfl
      intro other
      rw [Table.get?_set]
      split
      · rename_i same
        subst same
        rw [found]
        exact .some steps
      · exact relEntrySteps_refl _
  | inserted handle conn expectedPeer acceptedSide origin admits closed =>
      exact .inserted handle conn expectedPeer acceptedSide origin admits closed rfl
  | markedDead reason _ =>
      refine .moved ?_ rfl
      intro handle
      rw [State.markDead, Table.get?_mapValues]
      apply relEntrySteps_map
      intro entry
      split
      · rename_i clear
        exact .single (.died (by simpa using clear))
      · exact .refl
  | timedOut now =>
      refine .moved ?_ rfl
      intro handle
      rw [State.handleTimeouts, Table.get?_mapValues]
      apply relEntrySteps_map
      intro entry
      split
      · exact EntrySteps.call entry (.handleTimeout now)
      · exact .refl
  | closed now reason _ =>
      rw [State.close]
      split
      · exact .moved (fun _ => relEntrySteps_refl _) rfl
      · exact .moved (closeAll_conns { state with closed := true, closedAt := some now } now
          reason) rfl
  | responded addr source payload =>
      rcases state.pushResponse_frame addr source payload with ⟨_, _, _, frame⟩
      rw [frame]
      exact .moved (fun _ => relEntrySteps_refl _) rfl
  | sighted peer via =>
      rcases state.addrForPeer_frame peer via with ⟨_, _, _, _, frame⟩
      rw [frame]
      exact .moved (fun _ => relEntrySteps_refl _) rfl
  | dialed peer key =>
      rcases state.dialStandin_frame peer key with ⟨_, _, _, _, frame⟩
      rw [frame]
      exact .moved (fun _ => relEntrySteps_refl _) rfl
  | channelRegistered peer wire _ =>
      rcases state.registerChannel_frame peer wire with ⟨_, _, _, _, _, _, _, _, _, frame⟩
      rw [frame]
      exact .moved (fun _ => relEntrySteps_refl _) rfl
  | channelDied id wire _ =>
      rcases state.channelDied_frame id wire with ⟨_, _, frame⟩
      rw [frame]
      exact .moved (fun _ => relEntrySteps_refl _) rfl
  | _ => exact .moved (fun _ => relEntrySteps_refl _) rfl

/-! ## Whole runs -/

/-- An invariant of the entries: new entries have it and entry steps keep it. -/
theorem StateSteps.entries {task : Task} {state next : State P}
    (steps : StateSteps task state next) (Invariant : ConnEntry P → Prop)
    (initially : ∀ conn expectedPeer acceptedSide serial origin,
      Invariant (.new conn expectedPeer acceptedSide serial origin))
    (kept : ∀ entry after, EntryStep entry after → Invariant entry → Invariant after)
    (holds : ∀ handle entry, state.conns.get? handle = some entry → Invariant entry) :
    ∀ handle entry, next.conns.get? handle = some entry → Invariant entry := by
  have many : ∀ {entry after : ConnEntry P}, EntrySteps entry after → Invariant entry →
      Invariant after := by
    intro entry after steps holds
    induction steps with
    | refl => exact holds
    | tail _ step induction => exact kept _ _ step induction
  induction steps with
  | refl => exact holds
  | tail _ step induction =>
      intro handle entry found
      cases step.conns with
      | moved related _ =>
          rcases rel_some_right (found ▸ related handle) with ⟨before, lookup, moves⟩
          exact many moves (induction handle before lookup)
      | inserted other conn expectedPeer acceptedSide origin _ _ equal =>
          subst equal
          rw [State.insertConn, Table.get?_set] at found
          split at found
          · cases found
            exact initially conn expectedPeer acceptedSide _ origin
          · exact induction handle entry found

/-- From one state to a later one: every entry is still there and has moved, or a newer
connection has taken its handle. -/
structure ConnsFrom (first last : State P) : Prop where
  connections : first.history.connections ≤ last.history.connections
  kept : ∀ handle entry, first.conns.get? handle = some entry →
    ∃ after, last.conns.get? handle = some after ∧
      (EntrySteps entry after ∨ first.history.connections ≤ after.trace.serial)
  source : ∀ handle after, last.conns.get? handle = some after →
    (∃ entry, first.conns.get? handle = some entry ∧ EntrySteps entry after) ∨
      (first.history.connections ≤ after.trace.serial ∧
        after.trace.serial < last.history.connections)

namespace ConnsFrom

theorem refl (state : State P) : ConnsFrom state state where
  connections := Nat.le_refl _
  kept _ entry found := ⟨entry, found, .inl .refl⟩
  source _ after found := .inl ⟨after, found, .refl⟩

theorem trans {first middle last : State P} (front : ConnsFrom first middle)
    (back : ConnsFrom middle last) : ConnsFrom first last where
  connections := Nat.le_trans front.connections back.connections
  kept := by
    intro handle entry found
    rcases front.kept handle entry found with ⟨between, lookup, early⟩
    rcases back.kept handle between lookup with ⟨after, reached, late⟩
    refine ⟨after, reached, ?_⟩
    rcases late with steps | newer
    · rcases early with before | replaced
      · exact .inl (before.trans steps)
      · exact .inr (steps.evolves.serial ▸ replaced)
    · exact .inr (Nat.le_trans front.connections newer)
  source := by
    intro handle after found
    rcases back.source handle after found with ⟨between, lookup, steps⟩ | ⟨newer, bound⟩
    · rcases front.source handle between lookup with ⟨entry, start, before⟩ | ⟨new, early⟩
      · exact .inl ⟨entry, start, before.trans steps⟩
      · rw [← steps.evolves.serial] at new early
        exact .inr ⟨new, Nat.lt_of_lt_of_le early back.connections⟩
    · exact .inr ⟨Nat.le_trans front.connections newer, bound⟩

theorem step {task : Task} {state next : State P} (step : StateStep task state next) :
    ConnsFrom state next := by
  cases step.conns with
  | moved related same =>
      refine ⟨Nat.le_of_eq same.symm, ?_, ?_⟩
      · intro handle entry found
        rcases rel_some_left (found ▸ related handle) with ⟨after, lookup, steps⟩
        exact ⟨after, lookup, .inl steps⟩
      · intro handle after found
        exact .inl (rel_some_right (found ▸ related handle))
  | inserted other conn expectedPeer acceptedSide origin _ _ equal =>
      subst equal
      refine ⟨Nat.le_succ _, ?_, ?_⟩
      · intro handle entry found
        rw [State.insertConn, Table.get?_set]
        split
        · exact ⟨_, rfl, .inr (Nat.le_refl _)⟩
        · exact ⟨entry, found, .inl .refl⟩
      · intro handle after found
        rw [State.insertConn, Table.get?_set] at found
        split at found
        · cases found
          exact .inr ⟨Nat.le_refl _, Nat.lt_succ_self _⟩
        · exact .inl ⟨after, found, .refl⟩

theorem steps {task : Task} {state next : State P} (steps : StateSteps task state next) :
    ConnsFrom state next := by
  induction steps with
  | refl => exact refl state
  | tail _ last induction => exact induction.trans (step last)

theorem moves {config next : Config P} {action : Action}
    (stepped : (endpoint P).step config action = .ok next) :
    ConnsFrom config.state next.state := by
  rcases (Config.step_move stepped).state with ⟨task, moved, _⟩
  exact steps moved

theorem run {Guard : Config P → Action → Prop} {config later : Config P}
    (reached : (endpoint P).ReachesFrom Guard config later) :
    ConnsFrom config.state later.state := by
  apply reached.relates (fun _ => True) (fun first last => ConnsFrom first.state last.state)
    (fun _ => refl _) trans _ trivial
  intro config action next _ _ stepped
  exact ⟨trivial, moves stepped⟩

end ConnsFrom

theorem reachable_serials {config : Config P} (reached : (endpoint P).Reachable config)
    {handle : ConnectionHandle} {entry : ConnEntry P}
    (found : config.state.conns.get? handle = some entry) :
    entry.trace.serial < config.state.history.connections := by
  rcases reached with ⟨first, ⟨noq, webrtc, udp, relay, clock, url, _, rfl⟩, path⟩
  rcases (ConnsFrom.run path).source handle entry found with ⟨old, lookup, _⟩ | ⟨_, bound⟩
  · simp [Config.bind, State.registerRelay, State.new] at lookup
  · exact bound

theorem reachable_entries {config : Config P} (reached : (endpoint P).Reachable config)
    (Invariant : ConnEntry P → Prop)
    (initially : ∀ conn expectedPeer acceptedSide serial origin,
      Invariant (.new conn expectedPeer acceptedSide serial origin))
    (kept : ∀ entry after, EntryStep entry after → Invariant entry → Invariant after) :
    ∀ handle entry, config.state.conns.get? handle = some entry → Invariant entry := by
  apply reached.invariant (fun config : Config P => ∀ handle entry,
    config.state.conns.get? handle = some entry → Invariant entry)
  · rintro config ⟨noq, webrtc, udp, relay, clock, url, _, rfl⟩ handle entry found
    simp [Config.bind, State.registerRelay, State.new] at found
  · intro config action next holds _ stepped
    rcases (Config.step_move stepped).state with ⟨task, steps, _⟩
    exact StateSteps.entries steps Invariant initially kept holds

/-! ## Identities -/

/-- A TLS session that has authenticated its peer keeps that identity. -/
def Platform.KeepsIdentity (P : Platform) : Prop :=
  ∀ before after id, P.Touches before after → P.tlsPeer before = some id →
    P.tlsPeer after = some id

theorem Platform.KeepsIdentity.many (identity : P.KeepsIdentity)
    {before after : P.Connection} (touched : ReflTransGen P.Touches before after)
    {id : EndpointId} (known : P.tlsPeer before = some id) : P.tlsPeer after = some id := by
  induction touched with
  | refl => exact known
  | tail _ touch induction => exact identity _ _ id touch induction

def ConnEntry.Authentic (entry : ConnEntry P) : Prop :=
  ∀ id, entry.peer = some id ∨ some id ∈ entry.trace.authenticated →
    P.tlsPeer entry.conn = some id

theorem EntryStep.peer {before after : ConnEntry P} (step : EntryStep before after) :
    (after.peer = before.peer ∨
      ∃ id, P.tlsPeer before.conn = some id ∧ after.peer = some id) ∧
    (after.trace.authenticated = before.trace.authenticated ∨
      after.trace.authenticated =
        before.trace.authenticated ++ [P.tlsPeer before.conn]) := by
  cases step with
  | connected now =>
      rcases before.onConnected_cases now with
        ⟨id, known, _, _, equal⟩ | ⟨error, conn, _, _, _, equal⟩
      · rw [equal]
        exact ⟨.inr ⟨id, known, rfl⟩, .inr (by rw [known])⟩
      · rw [equal]
        exact ⟨.inl rfl, .inr rfl⟩
  | read stream max reader =>
      rw [ConnEntry.readSomeCheck]
      split <;> exact ⟨.inl rfl, .inl rfl⟩
  | _ => exact ⟨.inl rfl, .inl rfl⟩

theorem EntryStep.authentic (identity : P.KeepsIdentity) {before after : ConnEntry P}
    (step : EntryStep before after) (authentic : before.Authentic) : after.Authentic := by
  intro id recorded
  apply identity.many step.evolves.conn
  rcases recorded with peer | authenticated
  · rcases step.peer.1 with same | ⟨other, known, set⟩
    · exact authentic id (.inl (same ▸ peer))
    · rw [set] at peer
      cases peer
      exact known
  · rcases step.peer.2 with same | grown
    · exact authentic id (.inr (same ▸ authenticated))
    · rw [grown] at authenticated
      rcases List.mem_append.mp authenticated with old | new
      · exact authentic id (.inr old)
      · exact (List.mem_singleton.mp new).symm

theorem EntrySteps.peer (identity : P.KeepsIdentity) {before after : ConnEntry P}
    (steps : EntrySteps before after) (authentic : before.Authentic) {id : EndpointId}
    (known : before.peer = some id) : after.peer = some id := by
  have both : after.peer = some id ∧ after.Authentic := by
    induction steps with
    | refl => exact ⟨known, authentic⟩
    | tail _ step induction =>
        refine ⟨?_, step.authentic identity induction.2⟩
        rcases step.peer.1 with same | ⟨other, seen, set⟩
        · exact same.trans induction.1
        · rw [induction.2 id (.inl induction.1)] at seen
          cases seen
          exact set
  exact both.1

theorem reachable_authentic (identity : P.KeepsIdentity) {config : Config P}
    (reached : (endpoint P).Reachable config) {handle : ConnectionHandle}
    {entry : ConnEntry P} (found : config.state.conns.get? handle = some entry) :
    entry.Authentic := by
  refine reachable_entries reached ConnEntry.Authentic ?_ ?_ handle entry found
  · intro conn expectedPeer acceptedSide serial origin id recorded
    simp [ConnEntry.new] at recorded
  · intro before after step
    exact step.authentic identity

theorem Slab.keepsIdentity : Slab.platform.KeepsIdentity := by
  rintro before after id ⟨Answer, operation, rfl⟩ known
  have certified : ∀ connection : Slab.Connection, Slab.platform.tlsPeer connection =
      connection.certificate.bind EndpointId.ofBytes? := by
    intro connection
    cases certificate : connection.certificate with
    | none => simp [Platform.tlsPeer, Slab.platform, certificate]
    | some bytes =>
        simp [Platform.tlsPeer, Slab.platform, certificate, Platform.endpointIdFromSpki]
  rcases Option.bind_eq_some_iff.mp ((certified before).symm.trans known) with
    ⟨certificate, present, key⟩
  refine (certified _).trans (Option.bind_eq_some_iff.mpr ?_)
  exact ⟨certificate, Slab.call_certificate operation before present, key⟩

end IrohEndpoint
