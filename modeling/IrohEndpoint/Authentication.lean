import IrohEndpoint.Handles
import IrohEndpoint.Routing

/-! # Authentication before surfacing

The identity a connection must authenticate as is set where its entry is created, by
a dial, a relay datagram, a channel datagram or a UDP datagram, and checked at its
`Connected` event. What is surfaced to the application has passed that check. -/

namespace IrohEndpoint

open Relation

variable {P : Platform}

/-! ## The check -/

/-- A connected entry has the key its TLS session authenticated as its peer, and it is
the expected one if there is one. -/
def ConnEntry.Verified (entry : ConnEntry P) : Prop :=
  entry.connected = true → ∃ id, entry.peer = some id ∧
    some id ∈ entry.trace.authenticated ∧
    (entry.expectedPeer = none ∨ entry.expectedPeer = some id)

private theorem EntryStep.verified {before after : ConnEntry P} (step : EntryStep before after)
    (verified : before.Verified) : after.Verified := by
  cases step with
  | connected now =>
      rcases before.onConnected_cases now with
        ⟨id, _, allowed, _, equal⟩ | ⟨error, conn, _, _, _, equal⟩
      · rw [equal]
        intro _
        exact ⟨id, rfl, by simp, allowed⟩
      · rw [equal]
        intro connected
        rcases verified connected with ⟨id, peer, seen, allowed⟩
        exact ⟨id, peer, List.mem_append_left _ seen, allowed⟩
  | read stream max reader =>
      rw [ConnEntry.readSomeCheck]
      split <;> exact verified
  | _ => exact verified

/-- The expected identity and the side of an entry, by what created it. -/
def ConnEntry.Expects (channels : List (UInt32 × ChannelEntry)) (entry : ConnEntry P) :
    Prop :=
  match entry.trace.origin with
  | .dialed peer => entry.expectedPeer = some peer ∧ entry.acceptedSide = false
  | .relay _ source => entry.expectedPeer = some source ∧ entry.acceptedSide = true
  | .channel id peer => entry.expectedPeer = some peer ∧ entry.acceptedSide = true ∧
      ∃ channel, (id, channel) ∈ channels ∧ channel.peer = peer
  | .udp _ => entry.expectedPeer = none ∧ entry.acceptedSide = true

theorem ConnEntry.Expects.steps {channels : List (UInt32 × ChannelEntry)}
    {entry after : ConnEntry P} (expects : entry.Expects channels)
    (steps : EntrySteps entry after) : after.Expects channels := by
  rw [ConnEntry.Expects, steps.evolves.origin, steps.evolves.expectedPeer,
    steps.evolves.acceptedSide]
  exact expects

theorem ConnEntry.Expects.grows {channels more : List (UInt32 × ChannelEntry)}
    {entry : ConnEntry P} (expects : entry.Expects channels) (grown : channels ⊆ more) :
    entry.Expects more := by
  rw [ConnEntry.Expects] at expects ⊢
  split
  · simpa [‹entry.trace.origin = _›] using expects
  · simpa [‹entry.trace.origin = _›] using expects
  · rename_i id peer origin
    rw [origin] at expects
    rcases expects with ⟨expected, side, channel, member, same⟩
    exact ⟨expected, side, channel, grown member, same⟩
  · simpa [‹entry.trace.origin = _›] using expects

/-- The channel table changes by registrations and removals. -/
theorem StateStep.channels {task : Task} {state next : State P}
    (step : StateStep task state next) {id : UInt32} {channel : ChannelEntry}
    (found : next.channels.get? id = some channel) :
    state.channels.get? id = some channel ∨ (id, channel) ∈ next.history.channels := by
  cases step with
  | closed now reason _ =>
      rcases state.close_frame now reason with ⟨_, _, frame⟩
      rw [frame] at found
      exact .inl found
  | responded addr source payload =>
      rcases state.pushResponse_frame addr source payload with ⟨_, _, _, frame⟩
      rw [frame] at found
      exact .inl found
  | sighted peer via =>
      rcases state.addrForPeer_frame peer via with ⟨_, _, _, _, frame⟩
      rw [frame] at found
      exact .inl found
  | dialed peer key =>
      rcases state.dialStandin_frame peer key with ⟨_, _, _, _, frame⟩
      rw [frame] at found
      exact .inl found
  | channelRegistered peer wire _ =>
      rcases registerChannel_cases state peer wire with
        ⟨_, refused⟩ | ⟨entry, _, _, registered⟩
      · rw [refused] at found
        exact .inl found
      · have sighted := addrForPeer_channels (state.withChannel entry) peer
          entry.fallbackRelay
        rw [registered] at found ⊢
        dsimp only at found ⊢
        rw [sighted.1, State.withChannel, Table.get?_set] at found
        rw [sighted.2.2]
        split at found
        · rename_i same
          cases found
          exact .inr (by simp [State.withChannel, same])
        · exact .inl found
  | channelDied dead wire _ => exact .inl (state.retireChannel_channels dead id channel found)
  | _ => exact .inl found

/-- noq issues no handle that is in the connection table. -/
def FreshHandles (config : Config P) (action : Action) : Prop :=
  ∀ handle, config.Issues action handle → config.state.conns.get? handle = none

theorem FreshHandles.kept {config next : Config P} {action : Action}
    (fresh : FreshHandles config action)
    (stepped : (endpoint P).step config action = .ok next) {handle : ConnectionHandle}
    {entry : ConnEntry P} (found : config.state.conns.get? handle = some entry) :
    ∃ after, next.state.conns.get? handle = some after ∧ EntrySteps entry after := by
  rcases (ConnsFrom.moves stepped).kept handle entry found with ⟨after, lookup, kept⟩
  refine ⟨after, lookup, ?_⟩
  rcases kept with steps | newer
  · exact steps
  · rw [fresh handle ⟨next, after, stepped, lookup, newer⟩] at found
    cases found

/-- The entry that was dialed as `peer`. -/
def State.Dialed (state : State P) (target : Target) (peer : EndpointId)
    (connected : Bool) : Prop :=
  ∃ entry, state.conns.get? target.handle = some entry ∧
    entry.trace.serial = target.serial ∧ entry.expectedPeer = some peer ∧
    (connected = true → entry.connected = true)

structure Surfacing (config : Config P) : Prop where
  queued : ∀ item ∈ config.state.history.queued, config.state.Surfaced item
  addressed : ∀ id addr phase, config.calls.get? id = some (.connect addr phase) →
    phase.peer.bytes = addr.endpointId
  handshakes : ∀ id addr peer handle serial,
    config.calls.get? id = some (.connect addr (.handshake peer handle serial)) →
    config.state.Dialed ⟨handle, serial⟩ peer false
  resources : ∀ id target addr,
    config.resources.get? id = some (.connection target (some addr)) →
    ∃ peer : EndpointId, peer.bytes = addr.endpointId ∧ config.state.Dialed target peer true

def State.Keeps (state next : State P) : Prop :=
  ∀ handle entry, state.conns.get? handle = some entry →
    ∃ after, next.conns.get? handle = some after ∧ EntrySteps entry after

namespace State.Keeps

variable {state next : State P}

theorem surfaced (keeps : state.Keeps next) {item : AcceptItem}
    (surfaced : state.Surfaced item) : next.Surfaced item := by
  rcases surfaced with ⟨entry, found, serial, connected, accepted⟩
  rcases keeps _ entry found with ⟨after, lookup, steps⟩
  exact ⟨after, lookup, steps.evolves.serial.trans serial,
    steps.evolves.connected connected, steps.evolves.acceptedSide.trans accepted⟩

theorem dialed (keeps : state.Keeps next) {target : Target} {peer : EndpointId}
    {connected : Bool} (dialed : state.Dialed target peer connected) :
    next.Dialed target peer connected := by
  rcases dialed with ⟨entry, found, serial, expected, surfaced⟩
  rcases keeps _ entry found with ⟨after, lookup, steps⟩
  exact ⟨after, lookup, steps.evolves.serial.trans serial,
    steps.evolves.expectedPeer.trans expected,
    fun connected => steps.evolves.connected (surfaced connected)⟩

end State.Keeps

namespace Config

variable {config next : Config P}

theorem Move.drains {opened : Bool} (move : Move opened config next) :
    StateSteps .drain config.state next.state ∨
    next.state.history.queued = config.state.history.queued := by
  cases move with
  | advanced elapsed => exact .inr rfl
  | pumped state pump spawned step =>
      rcases addSessions_frame spawned ({ config with state, pump } : Config P) with
        ⟨_, _, frame⟩
      rw [frame]
      cases step.move with
      | drain steps _ => exact .inl steps
      | pump task own steps _ =>
          exact .inr (StateSteps.acceptQueue steps (by rintro rfl; cases own)).2
      | signal via source payload equal _ =>
          have same := (StateSteps.acceptQueue
            (handleSignal_steps config.state via source payload) (by simp)).2
          dsimp only at equal
          rw [← equal] at same
          exact .inr same
  | resumed id session after registration state _ found resumes =>
      exact .inr (StateSteps.acceptQueue (StateSteps.resumes resumes) (by simp)).2
  | called next _ step =>
      refine .inr (StateSteps.acceptQueue step.state ?_).2
      cases opened <;> simp [StateSteps.dialTask]

theorem Move.queued {opened : Bool} (move : Move opened config next) :
    ∀ item ∈ next.state.history.queued,
      item ∈ config.state.history.queued ∨ next.state.Surfaced item := by
  rcases move.drains with steps | same
  · exact (StateSteps.drain_queued steps).2
  · intro item member
    exact .inl (same ▸ member)

theorem Follows.dialed {target : Target} (follows : Follows target config next) :
    ∀ id own addr, next.resources.get? id = some (.connection own (some addr)) →
      config.resources.get? id = some (.connection own (some addr)) := by
  cases follows with
  | waits => exact fun _ _ _ found => found
  | keeps id call _ _ => exact fun _ _ _ found => found
  | starts call _ _ => exact fun _ _ _ found => found
  | settles id outcome resources own =>
      intro other target addr found
      rcases addResources_resources resources _ found with old | new
      · exact old
      · cases (own _ new).2
  | takes resource stream =>
      intro id own addr found
      change (config.resources.set resource _).get? id = _ at found
      rw [Table.get?_set] at found
      split at found
      · cases found
      · exact found

/-- A call hands out a dialed connection when the handshake of its dial is done. -/
theorem CallStep.connections {opened : Bool} (step : CallStep opened config next) {id : Nat}
    {target : Target} {addr : EndpointAddr}
    (found : next.resources.get? id = some (.connection target (some addr))) :
    config.resources.get? id = some (.connection target (some addr)) ∨
    ∃ call peer entry,
      config.calls.get? call =
        some (.connect addr (.handshake peer target.handle target.serial)) ∧
      config.state.conns.get? target.handle = some entry ∧ entry.connected = true := by
  cases step with
  | dialing call fresh address peer claim keys more between progress _ _ _ =>
      rcases progress with ⟨connecting, state⟩
      cases connecting with
      | failed error => exact .inl found
      | suspended phase => exact .inl found
  | accessed own entry after next _ _ _ follows => exact .inl (follows.dialed _ _ _ found)
  | followed own next _ follows => exact .inl (follows.dialed _ _ _ found)
  | connected call address peer own entry outcome pending here connected =>
      rcases addResources_resources _ _ found with old | new
      · exact .inl old
      · rw [List.mem_singleton] at new
        cases new
        exact .inr ⟨call, peer, entry, pending, here, connected⟩
  | accepted call item rest outcome queue =>
      rcases addResources_resources _ _ found with old | new
      · exact .inl old
      · rw [List.mem_singleton] at new
        cases new
  | dropped resource =>
      dsimp only at found
      rw [Table.get?_remove] at found
      split at found
      · cases found
      · exact .inl found
  | _ => exact .inl found

end Config

theorem Dialing.peer {peer : EndpointId} {keys : List UInt32}
    {state : State P} {result : Connecting × State P}
    (dialing : Dialing peer keys state result) {phase : ConnectPhase}
    (waits : result.1 = .suspended phase) : phase.peer = peer := by
  induction dialing with
  | failed keys state error => cases waits
  | waiting keys state phase _ _ _ same =>
      cases waits
      exact same
  | claimed keys state phase url _ _ _ _ _ same =>
      cases waits
      exact same
  | ensured keys state url key result _ _ induction => exact induction waits
  | rejected keys state dial dialKey noq error _ => cases waits
  | dialed keys state inserted next dial dialKey noq handle conn upgrades _ _ same _ _ _ _ =>
      cases waits
      exact same

namespace Surfacing

variable {config next : Config P}

private theorem of_kept (surfacing : Surfacing config) (keeps : config.state.Keeps next.state)
    (queued : ∀ item ∈ next.state.history.queued,
      item ∈ config.state.history.queued ∨ next.state.Surfaced item)
    (calls : ∀ id addr phase, next.calls.get? id = some (.connect addr phase) →
      config.calls.get? id = some (.connect addr phase) ∨
      (phase.peer.bytes = addr.endpointId ∧ ∀ peer handle serial,
        phase = .handshake peer handle serial →
        next.state.Dialed ⟨handle, serial⟩ peer false))
    (resources : ∀ id target addr,
      next.resources.get? id = some (.connection target (some addr)) →
      config.resources.get? id = some (.connection target (some addr)) ∨
      ∃ peer : EndpointId, peer.bytes = addr.endpointId ∧
        next.state.Dialed target peer true) : Surfacing next where
  queued item member := (queued item member).elim
    (fun old => keeps.surfaced (surfacing.queued item old)) id
  addressed id addr phase found := (calls id addr phase found).elim
    (surfacing.addressed id addr phase) And.left
  handshakes id addr peer handle serial found := (calls id addr _ found).elim
    (fun old => keeps.dialed (surfacing.handshakes id addr peer handle serial old))
    (fun new => new.2 peer handle serial rfl)
  resources id target addr found := by
    rcases resources id target addr found with old | new
    · rcases surfacing.resources id target addr old with ⟨peer, same, dialed⟩
      exact ⟨peer, same, keeps.dialed dialed⟩
    · exact new

theorem called {opened : Bool} (surfacing : Surfacing config)
    (keeps : config.state.Keeps next.state)
    (queued : ∀ item ∈ next.state.history.queued,
      item ∈ config.state.history.queued ∨ next.state.Surfaced item)
    (step : Config.CallStep opened config next) : Surfacing next := by
  refine surfacing.of_kept keeps queued ?_ ?_
  · intro id addr phase found
    rcases step.dials with
      ⟨own, fresh, there, peer, claim, keys, more, between, progress, dials, _, dialing,
        rfl⟩ | ⟨undialed, _⟩
    · rcases Config.connecting_calls _ own there progress found with
        ⟨_, after, suspended, same⟩ | ⟨_, old⟩
      · cases same
        right
        have bytes : peer.bytes = addr.endpointId := by
          cases dials with
          | invoked _ _ same => exact same
          | resumed before pending => exact surfacing.addressed own addr before pending
        refine ⟨by rw [dialing.peer suspended, bytes], ?_⟩
        rintro dialed handle serial rfl
        rcases dialing.handshake suspended with ⟨entry, lookup, same, expected⟩
        rcases Config.connecting_frame ({ config with fresh } : Config P) own addr progress with
          ⟨_, _, _, _, frame⟩
        rw [frame]
        exact ⟨entry, lookup, same, expected, by simp⟩
      · exact .inl old
    · exact .inl (undialed id addr phase found)
  · intro id target addr found
    rcases step.connections found with old | ⟨call, peer, entry, pending, here, connected⟩
    · exact .inl old
    · -- the handshake's entry has just been seen connected
      rcases surfacing.handshakes call addr peer target.handle target.serial pending with
        ⟨dialed, lookup, serial, expected, _⟩
      rw [here] at lookup
      cases lookup
      have base : config.state.Dialed target peer true :=
        ⟨entry, here, serial, expected, fun _ => connected⟩
      exact .inr ⟨peer, surfacing.addressed call addr _ pending, keeps.dialed base⟩

end Surfacing

theorem reaches_surfacing {config : Config P}
    (reached : (endpoint P).Reaches FreshHandles config) : Surfacing config := by
  apply reached.invariant Surfacing
  · rintro config ⟨noq, webrtc, udp, relay, clock, url, _, rfl⟩
    refine ⟨?_, ?_, ?_, ?_⟩ <;> simp [Config.bind, State.registerRelay, State.new]
  · intro config action next surfacing fresh stepped
    have keeps : config.state.Keeps next.state := fun _ _ found => fresh.kept stepped found
    have move := Config.step_move stepped
    have queued := move.queued
    cases move with
    | advanced elapsed =>
        exact surfacing.of_kept keeps queued (fun _ _ _ found => .inl found)
          (fun _ _ _ found => .inl found)
    | pumped state pump spawned step =>
        rcases Config.addSessions_frame spawned ({ config with state, pump } : Config P) with
          ⟨_, _, frame⟩
        refine surfacing.of_kept keeps queued ?_ ?_ <;> rw [frame] <;>
          exact fun _ _ _ found => .inl found
    | resumed id session after registration state _ found resumes =>
        exact surfacing.of_kept keeps queued (fun _ _ _ found => .inl found)
          (fun _ _ _ found => .inl found)
    | called next _ step => exact surfacing.called keeps queued step

/-! ## Authentication before surfacing -/

theorem ConnEntry.Verified.mismatch {entry : ConnEntry P} (verified : entry.Verified)
    (authentic : entry.Authentic) {key expected : EndpointId}
    (seen : some key ∈ entry.trace.authenticated)
    (expects : entry.expectedPeer = some expected) (differs : key ≠ expected) :
    entry.connected = false := by
  rw [Bool.eq_false_iff]
  intro connected
  rcases verified connected with ⟨id, _, own, allowed⟩
  have same := (authentic key (.inr seen)).symm.trans (authentic id (.inr own))
  cases same
  rcases allowed with unknown | known
  · rw [expects] at unknown
    cases unknown
  · rw [expects] at known
    cases known
    exact differs rfl

theorem State.Dialed.peerBytes {state : State P} {target : Target} {peer : EndpointId}
    (dialed : state.Dialed target peer true)
    (verified : ∀ handle entry, state.conns.get? handle = some entry → entry.Verified) :
    ∃ entry, state.conns.get? target.handle = some entry ∧
      entry.trace.serial = target.serial ∧ entry.peerBytes = peer.bytes := by
  rcases dialed with ⟨entry, found, serial, expected, connected⟩
  rcases verified _ entry found (connected rfl) with ⟨id, known, _, allowed⟩
  rw [expected] at allowed
  rcases allowed with unknown | same
  · cases unknown
  · cases same
    exact ⟨entry, found, serial, by simp [ConnEntry.peerBytes, known]⟩

instance (config : Config P) (action : Action) : Decidable (FreshHandles config action) :=
  decidable_of_iff
    (∀ handle ∈ config.state.conns.keys, config.issues action handle = false) (by
      constructor
      · intro unissued handle issued
        by_contra present
        rcases Option.ne_none_iff_exists'.mp present with ⟨entry, found⟩
        have silent := unissued handle ((config.state.conns.mem_keys handle).mpr
          ⟨entry, found⟩)
        rw [(config.issues_iff action handle).mpr issued] at silent
        cases silent
      · intro fresh handle member
        rcases (config.state.conns.mem_keys handle).mp member with ⟨entry, found⟩
        rw [Bool.eq_false_iff]
        intro issued
        rw [fresh handle ((config.issues_iff action handle).mp issued)] at found
        cases found)

end IrohEndpoint
