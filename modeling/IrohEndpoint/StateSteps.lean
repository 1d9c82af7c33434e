import IrohEndpoint.Effects
import IrohEndpoint.PumpSteps
import IrohEndpoint.SessionSteps
import IrohEndpoint.DialSteps

/-! # The steps of the shared state

Whatever task moves, the shared state changes by a sequence of the primitive steps
listed here. A property of the state alone is proved once for each of them. -/

namespace IrohEndpoint

open Relation

variable {P : Platform}

/-! ## Frames -/

namespace State

theorem addrForPeer_frame (state : State P) (peer : EndpointId) (via : UInt32) :
    ∃ nextHost peerToAddr addrToPeer routes, (state.addrForPeer peer via).2 =
      { state with nextHost, peerToAddr, addrToPeer, routes } := by
  rw [addrForPeer]
  split
  · exact ⟨_, _, _, _, rfl⟩
  · exact ⟨_, _, _, _, rfl⟩

theorem dialStandin_frame (state : State P) (peer : EndpointId) (key : UInt32) :
    ∃ nextHost peerToAddr addrToPeer routes, (state.dialStandin peer key).2 =
      { state with nextHost, peerToAddr, addrToPeer, routes } := by
  rcases state.addrForPeer_frame peer key with ⟨_, _, _, _, equal⟩
  rw [dialStandin]
  dsimp only
  split <;> rw [equal] <;> exact ⟨_, _, _, _, rfl⟩

theorem dialRemote_frame (state : State P) (dial : Dial) (dialKey : UInt32) :
    ∃ nextHost peerToAddr addrToPeer routes, (state.dialRemote dial dialKey).2 =
      { state with nextHost, peerToAddr, addrToPeer, routes } := by
  rw [dialRemote]
  split
  · exact ⟨_, _, _, _, rfl⟩
  · exact state.dialStandin_frame dial.peer dialKey

theorem registerChannel_frame (state : State P) (peer : EndpointId) (wire : ChannelWire) :
    ∃ nextHost peerToAddr addrToPeer routes nextChannelId channels newChannels
      registered closedChannels, (state.registerChannel peer wire).2 =
      { state with
        nextHost, peerToAddr, addrToPeer, routes, nextChannelId, channels, newChannels
        history := { state.history with channels := registered, closedChannels } } := by
  rw [registerChannel]
  split
  · exact ⟨_, _, _, _, _, _, _, _, _, rfl⟩
  · dsimp only
    rcases addrForPeer_frame _ peer ((state.signalingRelay peer).getD homeRelay) with
      ⟨_, _, _, _, equal⟩
    rw [equal]
    exact ⟨_, _, _, _, _, _, _, _, _, rfl⟩

/-- What `retireChannel` leaves. The peer's standin is not routed over the channel
afterwards, and no other route moves. -/
theorem retireChannel_cases (state : State P) (id : UInt32) :
    (state.channels.get? id = none ∧ state.retireChannel id = state) ∨
    ∃ entry routes, state.channels.get? id = some entry ∧
      state.retireChannel id = { state with channels := state.channels.remove id, routes } ∧
      (routes = state.routes ∨ ∃ addr, state.peerToAddr.get? entry.peer = some addr ∧
        routes = state.routes.set addr (.relay entry.fallbackRelay)) ∧
      ∀ addr, state.peerToAddr.get? entry.peer = some addr →
        routes.get? addr ≠ some (.channel id) := by
  rw [retireChannel]
  split
  · exact .inl ⟨‹_›, rfl⟩
  · rename_i entry found
    right
    dsimp only
    split
    · rename_i unknown
      refine ⟨entry, state.routes, found, rfl, .inl rfl, ?_⟩
      intro addr owned
      rw [unknown] at owned
      cases owned
    · rename_i standin owned
      split
      · refine ⟨entry, _, found, rfl, .inr ⟨standin, owned, rfl⟩, ?_⟩
        intro addr same
        rw [owned] at same
        cases same
        simp
      · rename_i elsewhere
        refine ⟨entry, state.routes, found, rfl, .inl rfl, ?_⟩
        intro addr same
        rw [owned] at same
        cases same
        exact elsewhere

theorem retireChannel_frame (state : State P) (id : UInt32) :
    ∃ channels routes, state.retireChannel id = { state with channels, routes } := by
  rcases state.retireChannel_cases id with ⟨_, same⟩ | ⟨entry, routes, _, equal, _⟩
  · exact ⟨_, _, same⟩
  · exact ⟨_, _, equal⟩

theorem retireChannel_channels (state : State P) (id other : UInt32) (entry : ChannelEntry)
    (found : (state.retireChannel id).channels.get? other = some entry) :
    state.channels.get? other = some entry := by
  rcases state.retireChannel_cases id with ⟨_, same⟩ | ⟨_, routes, _, equal, _⟩
  · rw [same] at found
    exact found
  · rw [equal, Table.get?_remove] at found
    split at found
    · cases found
    · exact found

theorem channelDied_frame (state : State P) (id : UInt32) (wire : ChannelWire) :
    ∃ channels routes, state.channelDied id wire =
      { state with
        channels, routes
        history := { state.history with
          retiredChannels := state.history.retiredChannels ++ [wire] } } := by
  rcases state.retireChannel_frame id with ⟨_, _, equal⟩
  rw [channelDied, equal]
  exact ⟨_, _, rfl⟩

theorem pushResponse_frame (state : State P) (addr : SocketAddr)
    (source : Option EndpointId) (payload : Bytes) :
    ∃ relayOutbound udpOutbound channelOutbound, state.pushResponse addr source payload =
      { state with relayOutbound, udpOutbound, channelOutbound } := by
  rw [pushResponse.eq_def]
  split <;> exact ⟨_, _, _, rfl⟩

theorem handleDatagram_frame (state : State P) (now : Instant) (addr : SocketAddr)
    (source : Option EndpointId) (payload : Bytes) (origin : Origin) :
    ∃ noq conns relayOutbound udpOutbound channelOutbound connections,
      state.handleDatagram now addr source payload origin = { state with
        noq, conns, relayOutbound, udpOutbound, channelOutbound
        history := { state.history with connections } } := by
  rw [handleDatagram]
  dsimp only
  split
  · split <;> exact ⟨_, _, _, _, _, _, rfl⟩
  · split
    · exact ⟨_, _, _, _, _, _, rfl⟩
    · split
      · exact ⟨_, _, _, _, _, _, rfl⟩
      · rcases pushResponse_frame _ addr source _ with ⟨_, _, _, frame⟩
        exact ⟨_, _, _, _, _, _, frame⟩
      · exact ⟨_, _, _, _, _, _, rfl⟩
  · rcases pushResponse_frame _ addr source _ with ⟨_, _, _, frame⟩
    exact ⟨_, _, _, _, _, _, frame⟩
  · exact ⟨_, _, _, _, _, _, rfl⟩

theorem close_frame (state : State P) (now : Instant) (reason : Bytes) :
    ∃ closedAt conns, state.close now reason =
      { state with closed := true, closedAt, conns } := by
  rw [close]
  split
  · rename_i closed
    exact ⟨state.closedAt, state.conns, by rw [← closed]⟩
  · exact ⟨_, _, rfl⟩

end State

/-! ## Steps -/

/-- Who moves the state. The pump has several of them: `flush` sends what is queued, `lost`
is the end of a wire's receive, `arm` hands out what was registered, `signal` files an
inbound signal. `opened`
is a call whose open of a relay succeeded. -/
inductive Task where
  | drain
  | pump
  | flush
  | lost
  | arm
  | signal
  | session
  | call
  | opened
  deriving DecidableEq, Repr

namespace Task

/-- The tasks of the pump apart from the drain and the signals. -/
def pumps : Task → Bool
  | .pump | .flush | .lost | .arm => true
  | _ => false

def calls : Task → Bool
  | .call | .opened => true
  | _ => false

end Task

/-- The expected identity and the side that go with an origin. -/
inductive Origin.Admits (task : Task) (state : State P) :
    Origin → Option EndpointId → Bool → Prop
  | dialed (peer : EndpointId) : task.calls = true → state.dead = none →
      Admits task state (.dialed peer) (some peer) false
  | relay (via : UInt32) (source : EndpointId) : task = .pump →
      Admits task state (.relay via source) (some source) true
  | channel (id : UInt32) (entry : ChannelEntry) : task = .pump →
      state.channels.get? id = some entry →
      Admits task state (.channel id entry.peer) (some entry.peer) true
  | udp (remote : SocketAddr) : task = .pump →
      Admits task state (.udp remote) none true

/-- A primitive step. Only a drain fills the accept queue, only signaling touches the
slots, and only a successful open adds a relay. -/
inductive StateStep (task : Task) (state : State P) : State P → Prop
  | entry (handle : ConnectionHandle) (entry after : ConnEntry P) (io : Io P) :
      state.conns.get? handle = some entry → EntrySteps entry after →
      io.Routed state →
      (∀ item ∈ io.accepted, item = ⟨handle, entry.trace.serial⟩ ∧
        after.connected = true ∧ after.acceptedSide = true) →
      (task ≠ .drain → io.accepted = []) →
      (task.calls = false → Draining entry after ∧ (after.connected = true →
        entry.connected = true ∨ entry.acceptedSide = false ∨ io.accepted ≠ [])) →
      io.accepted.length + entry.trace.authenticated.length ≤
        after.trace.authenticated.length →
      StateStep task state { state.after io with conns := state.conns.set handle after }
  | inserted (handle : ConnectionHandle) (conn : P.Connection)
      (expectedPeer : Option EndpointId) (acceptedSide : Bool) (origin : Origin) :
      origin.Admits task state expectedPeer acceptedSide → state.closed = false →
      P.Creates conn →
      StateStep task state (state.insertConn handle conn expectedPeer acceptedSide origin)
  | markedDead (reason : String) : task = .lost →
      StateStep task state (state.markDead reason)
  | timedOut (now : Instant) : StateStep task state (state.handleTimeouts now)
  | closed (now : Instant) (reason : Bytes) : task.calls = true →
      StateStep task state (state.close now reason)
  | noq (noq : P.Endpoint) : StateStep task state { state with noq }
  | responded (addr : SocketAddr) (source : Option EndpointId) (payload : Bytes) :
      StateStep task state (state.pushResponse addr source payload)
  | published (relay : UInt32) (peer : EndpointId) (payload : Bytes) :
      StateStep task state (state.pushSignalOutbound relay peer payload)
  | popped (relay : List (UInt32 × EndpointId × Bytes)) (udp : List (SocketAddr × Bytes))
      (channel : List (UInt32 × Bytes)) : task = .flush →
      relay <:+ state.relayOutbound → udp <:+ state.udpOutbound →
      channel <:+ state.channelOutbound →
      StateStep task state { state with
        relayOutbound := relay, udpOutbound := udp, channelOutbound := channel }
  | accepted (item : AcceptItem) (rest : List AcceptItem) : task.calls = true →
      state.acceptQueue = item :: rest → StateStep task state { state with acceptQueue := rest }
  | sighted (peer : EndpointId) (via : UInt32) :
      StateStep task state (state.addrForPeer peer via).2
  | dialed (peer : EndpointId) (key : UInt32) :
      StateStep task state (state.dialStandin peer key).2
  | channelRegistered (peer : EndpointId) (wire : ChannelWire) : task = .session →
      StateStep task state (state.registerChannel peer wire).2
  | channelDied (id : UInt32) (wire : ChannelWire) : task = .lost →
      StateStep task state (state.channelDied id wire)
  | relayRegistered (url : String) (conn : RelayConn) : task = .opened →
      conn.server = url → StateStep task state (state.registerRelay url conn).2
  | relayRemoved (key : UInt32) (conn : RelayConn) : task = .lost → key ≠ homeRelay →
      StateStep task state (state.removeRelay key conn)
  | opening (urls : List String) : task.calls = true →
      StateStep task state { state with relayOpening := urls }
  | ensured (url : String) (key : UInt32) : task.calls = true →
      state.relayKeys.get? (normalizeRelayUrl url) = some key →
      StateStep task state (state.noteEnsured url key)
  | signaled (signaling : Table EndpointId UInt32)
      (signalInboxes : Table EndpointId (List Bytes)) :
      task = .signal ∨ task = .session →
      StateStep task state { state with signaling, signalInboxes }
  | armed : task = .arm → StateStep task state { state with
      newRelays := [], newChannels := [], pendingUpgrades := [] }
  | upgradesQueued (upgrades : List (EndpointId × UInt32)) : task.calls = true →
      StateStep task state { state with
        pendingUpgrades := state.pendingUpgrades ++ upgrades }
  | wiresClosed (relays : List RelayConn) (channels : List ChannelWire) :
      StateStep task state { state with history := { state.history with
        closedRelays := state.history.closedRelays ++ relays
        closedChannels := state.history.closedChannels ++ channels } }

abbrev StateSteps (task : Task) : State P → State P → Prop :=
  ReflTransGen (StateStep task)

namespace StateSteps

theorem single {task : Task} {before after : State P} (step : StateStep task before after) :
    StateSteps task before after := ReflTransGen.single step

theorem invariant {task : Task} {state next : State P} (steps : StateSteps task state next)
    (Invariant : State P → Prop)
    (kept : ∀ before after, StateStep task before after → Invariant before →
      Invariant after)
    (holds : Invariant state) : Invariant next := by
  induction steps with
  | refl => exact holds
  | tail _ step induction => exact kept _ _ step induction

/-! ## noq's events and datagrams -/

theorem drain {state next : State P} {fuel : Nat} {now : Instant}
    {order : List ConnectionHandle} (ran : state.drain fuel now order = .ok next) :
    StateSteps .drain state next := by
  rw [State.drain] at ran
  split at ran
  · apply foldlM.invariant (StateSteps .drain state) _ order .refl ran
    intro current handle after sofar drained
    rcases State.drainEntry_spec drained with
      ⟨entry, moved, io, found, steps, equal, routed, surfaced, served, counted, hidden⟩
    exact sofar.tail (equal ▸ .entry handle entry moved io found steps routed surfaced
      (by simp) (fun _ => ⟨served, hidden⟩) counted)
  · cases ran

theorem setEntry {task : Task} {state : State P} {handle : ConnectionHandle}
    {entry after : ConnEntry P} (found : state.conns.get? handle = some entry)
    (steps : EntrySteps entry after)
    (serves : task.calls = false →
      Draining entry after ∧ after.connected = entry.connected) :
    StateSteps task state { state with conns := state.conns.set handle after } := by
  have counted := steps.evolves.authenticated.length_le
  have step : StateStep task state { state.after (Io.none state.noq) with
      conns := state.conns.set handle after } :=
    .entry handle entry after (Io.none state.noq) found steps (Io.none_routed _ _)
      (by intro item member; cases member) (fun _ => rfl)
      (fun idle => ⟨(serves idle).1, fun later => .inl ((serves idle).2 ▸ later)⟩)
      (by simpa [Io.none] using counted)
  rw [State.after_none] at step
  exact single step

theorem handleDatagram (state : State P) (now : Instant) (addr : SocketAddr)
    (source : Option EndpointId) (payload : Bytes) {origin : Origin}
    (admits : origin.Admits .pump state source true) :
    StateSteps .pump state (state.handleDatagram now addr source payload origin) := by
  rw [State.handleDatagram]
  dsimp only
  have handled : StateSteps .pump state
      { state with noq := (P.handle state.noq now addr payload).1 } := single (.noq _)
  split
  · split
    · rename_i entry found
      exact handled.trans (setEntry found (EntrySteps.call entry _)
        fun _ => ⟨Draining.call entry _ fun _ _ => rfl, rfl⟩)
    · exact handled
  · rename_i incoming _
    split
    · exact handled
    · rename_i open_
      have accepting := handled.tail (.noq (P.accept
        (P.handle state.noq now addr payload).1 incoming now).1)
      split
      · rename_i handle conn issued
        refine accepting.tail (.inserted handle conn source true origin ?_ ?_
          (.inl ⟨_, _, _, _, issued⟩))
        · cases admits with
          | relay via source pump => exact .relay via source pump
          | channel id entry pump found => exact .channel id entry pump found
          | udp remote pump => exact .udp remote pump
        · simpa using open_
      · exact accepting.tail (.responded addr source _)
      · exact accepting
  · exact handled.tail (.responded addr source _)
  · exact handled

theorem handleRelayDatagram (state : State P) (now : Instant) (via : UInt32)
    (source : EndpointId) (payload : Bytes) :
    StateSteps .pump state (state.handleRelayDatagram now via source payload) :=
  (single (.sighted source via)).trans
    (handleDatagram _ now _ (some source) payload (.relay via source rfl))

theorem handleUdpDatagram (state : State P) (now : Instant) (remote : SocketAddr)
    (payload : Bytes) :
    StateSteps .pump state (state.handleUdpDatagram now remote payload) :=
  handleDatagram state now remote none payload (.udp remote rfl)

theorem handleChannelDatagram (state : State P) (now : Instant) (id : UInt32)
    (payload : Bytes) :
    StateSteps .pump state (state.handleChannelDatagram now id payload) := by
  rw [State.handleChannelDatagram]
  split
  · exact .refl
  · rename_i entry found
    refine (single (.sighted entry.peer entry.fallbackRelay)).trans
      (handleDatagram _ now _ (some entry.peer) payload (.channel id entry rfl ?_))
    rcases state.addrForPeer_frame entry.peer entry.fallbackRelay with ⟨_, _, _, _, equal⟩
    rw [equal]
    exact found

/-! ## Dialing -/

/-- The task of a stretch of `connect`. -/
def dialTask (opened : Bool) : Task := if opened then .opened else .call

theorem dialTask_calls (opened : Bool) : (dialTask opened).calls = true := by
  cases opened <;> rfl

theorem dialRemote {task : Task} (state : State P) (dial : Dial) (dialKey : UInt32) :
    StateSteps task state (state.dialRemote dial dialKey).2 := by
  rw [State.dialRemote]
  split
  · exact .refl
  · exact single (.dialed dial.peer dialKey)

theorem resolution {opened : Bool} {claim : Option String} {keys : List UInt32}
    {state between : State P} (resolution : Resolution opened claim state keys between) :
    StateSteps (dialTask opened) state between := by
  cases resolution with
  | unclaimed _ => exact .refl
  | failed url _ => exact single (.opening _ (dialTask_calls opened))
  | registered url conn _ success server =>
      have calls := dialTask_calls opened
      refine ((single (.opening _ calls)).tail (.relayRegistered url conn (if_pos success)
        server)).tail (.ensured url _ calls ?_)
      simp [State.registerRelay]

theorem dialing {task : Task} (calls : task.calls = true) {peer : EndpointId}
    {keys : List UInt32} {state : State P} {result : Connecting × State P}
    (dialing : Dialing peer keys state result) : StateSteps task state result.2 := by
  induction dialing with
  | failed keys state error => exact .refl
  | waiting keys state phase _ _ _ _ => exact .refl
  | claimed keys state phase url _ _ _ _ _ _ => exact single (.opening _ calls)
  | ensured keys state url key result known _ induction =>
      exact .head (.ensured url key calls known) induction
  | rejected keys state dial dialKey noq error _ =>
      exact (dialRemote state dial dialKey).tail (.noq noq)
  | dialed keys state inserted next dial dialKey noq handle conn upgrades _ _ _ closed dead
      insertion queueing _ created =>
      subst insertion queueing
      rcases state.dialRemote_frame dial dialKey with ⟨_, _, _, _, frame⟩
      refine (((dialRemote state dial dialKey).tail (.noq noq)).tail
        (.inserted handle conn (some dial.peer) false (.dialed dial.peer) ?_ ?_ created)).tail
        (.upgradesQueued upgrades calls)
      · refine .dialed dial.peer calls ?_
        rw [frame]
        exact dead
      · rw [frame]
        exact closed

/-! ## Signaling -/

theorem quiet {state next : State P} (quiet : Quiet state next) :
    StateSteps .session state next := by
  induction quiet with
  | refl => exact .refl
  | tail _ step induction =>
      cases step with
      | published relay peer signal json _ => exact induction.tail (.published relay peer _)
      | filed inboxes => exact induction.tail (.signaled _ inboxes (.inr rfl))

theorem endSignaling (state : State P) (peer : EndpointId) :
    StateSteps .session state (state.endSignaling peer) :=
  single (.signaled _ _ (.inr rfl))

theorem register (session : Session) (state : State P) (wire : ChannelWire) :
    StateSteps .session state (session.register state wire).2.2 := by
  have registered : StateSteps .session state (state.registerChannel session.peer wire).2 :=
    single (.channelRegistered session.peer wire rfl)
  rw [Session.register]
  split <;> rename_i answer <;> rw [answer] at registered <;> exact registered

theorem resumes {session : Session} {now : Instant} {wire : ChannelWire}
    {state : State P} {resumed : Resumed P}
    (resumes : session.Resumes now wire state resumed) :
    StateSteps .session state resumed.2.2 := by
  cases resumes with
  | refused error _ _ _ => exact .refl
  | claimed _ _ _ => exact single (.signaled _ state.signalInboxes (.inr rfl))
  | claimedFailed error _ _ _ =>
      exact (single (.signaled _ state.signalInboxes (.inr rfl))).trans (endSignaling _ _)
  | continued after next _ _ _ _ _ moved => exact quiet ‹_›
  | failed started next error _ moved => exact (quiet moved).trans (endSignaling _ _)
  | upgraded _ _ => exact (endSignaling state _).trans (register session _ wire)
  | answered _ _ => exact (register session state wire).trans (endSignaling _ _)

/-- Only signaling moves the slots and the inboxes, and only a session registers
channels. -/
theorem signaling {task : Task} {state next : State P} (steps : StateSteps task state next)
    (pump : task ≠ .signal) (session : task ≠ .session) :
    next.signaling = state.signaling ∧ next.signalInboxes = state.signalInboxes ∧
      next.history.channels = state.history.channels := by
  induction steps with
  | refl => exact ⟨rfl, rfl, rfl⟩
  | @tail middle last _ step induction =>
      rw [← induction.1, ← induction.2.1, ← induction.2.2]
      cases step with
      | closed now reason _ =>
          rcases middle.close_frame now reason with ⟨_, _, frame⟩
          rw [frame]
          exact ⟨rfl, rfl, rfl⟩
      | responded addr source payload =>
          rcases middle.pushResponse_frame addr source payload with ⟨_, _, _, frame⟩
          rw [frame]
          exact ⟨rfl, rfl, rfl⟩
      | sighted peer via =>
          rcases middle.addrForPeer_frame peer via with ⟨_, _, _, _, frame⟩
          rw [frame]
          exact ⟨rfl, rfl, rfl⟩
      | dialed peer key =>
          rcases middle.dialStandin_frame peer key with ⟨_, _, _, _, frame⟩
          rw [frame]
          exact ⟨rfl, rfl, rfl⟩
      | channelDied id wire _ =>
          rcases middle.channelDied_frame id wire with ⟨_, _, frame⟩
          rw [frame]
          exact ⟨rfl, rfl, rfl⟩
      | channelRegistered peer wire registers => exact absurd registers session
      | signaled signaling inboxes signals =>
          rcases signals with rfl | rfl
          · exact absurd rfl pump
          · exact absurd rfl session
      | _ => exact ⟨rfl, rfl, rfl⟩

end StateSteps

end IrohEndpoint
