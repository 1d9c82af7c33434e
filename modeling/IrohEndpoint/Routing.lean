import IrohEndpoint.ConfigSteps
import IrohEndpoint.Transmits

/-! # Standins and routes

Every peer has one standin address and every standin one wire. The five tables
behind this are written by different tasks; the invariant below is what keeps one
peer's packets away from another peer. -/

namespace IrohEndpoint

variable {P : Platform}

structure Routing (state : State P) : Prop where
  inverse : ∀ peer addr, state.peerToAddr.get? peer = some addr ↔
    state.addrToPeer.get? addr = some peer
  standins : ∀ addr, (∃ wire, state.routes.get? addr = some wire) ↔
    ∃ peer, state.addrToPeer.get? addr = some peer
  channels : ∀ addr id, state.routes.get? addr = some (.channel id) →
    ∃ entry, state.channels.get? id = some entry ∧
      state.addrToPeer.get? addr = some entry.peer

/-- The counters have not wrapped: what they hand out next is fresh. -/
structure Counters (state : State P) : Prop where
  hosts : state.nextHost.toNat = state.peerToAddr.size
  drawn : ∀ addr peer, state.addrToPeer.get? addr = some peer →
    ∃ host : UInt32, addr = docPrefixAddr 0x77 host ∧ host.toNat ≤ state.nextHost.toNat
  ids : state.nextChannelId.toNat = state.history.channels.length
  assigned : ∀ id entry, state.channels.get? id = some entry →
    id.toNat ≤ state.nextChannelId.toNat

/-- Fewer than 2^32 peers and fewer than 2^32 channels have been seen. -/
structure Bounded (state : State P) : Prop where
  peers : state.peerToAddr.size < 2 ^ 32
  channels : state.history.channels.length < 2 ^ 32

structure Sound (state : State P) : Prop where
  routing : Routing state
  counters : Counters state

def State.tables (state : State P) :=
  (state.peerToAddr, state.addrToPeer, state.nextHost, state.routes, state.channels,
    state.nextChannelId, state.history.channels)

section

variable {state next : State P}

theorem Sound.of_tables (sound : Sound state) (same : next.tables = state.tables) :
    Sound next := by
  simp only [State.tables, Prod.mk.injEq] at same
  rcases same with ⟨peers, addrs, hosts, routes, channels, ids, seen⟩
  refine ⟨⟨?_, ?_, ?_⟩, ⟨?_, ?_, ?_, ?_⟩⟩
  · rw [peers, addrs]
    exact sound.routing.inverse
  · rw [routes, addrs]
    exact sound.routing.standins
  · rw [routes, channels, addrs]
    exact sound.routing.channels
  · rw [hosts, peers]
    exact sound.counters.hosts
  · rw [addrs, hosts]
    exact sound.counters.drawn
  · rw [ids, seen]
    exact sound.counters.ids
  · rw [channels, ids]
    exact sound.counters.assigned

theorem Bounded.of_tables (bounded : Bounded next) (same : next.tables = state.tables) :
    Bounded state := by
  simp only [State.tables, Prod.mk.injEq] at same
  rcases same with ⟨peers, _, _, _, _, _, seen⟩
  exact ⟨peers ▸ bounded.peers, seen ▸ bounded.channels⟩

end

theorem counter_succ {value : UInt32} (bound : value.toNat + 1 < 2 ^ 32) :
    (value + 1).toNat = value.toNat + 1 := by
  rw [UInt32.toNat_add]
  exact Nat.mod_eq_of_lt bound

/-! ## Drawing a standin -/

section Sighted

variable (state : State P) (peer : EndpointId) (via : UInt32)

private theorem addrForPeer_size :
    state.peerToAddr.size ≤ (state.addrForPeer peer via).2.peerToAddr.size := by
  rw [State.addrForPeer]
  split
  · exact Nat.le_refl _
  · rename_i absent
    dsimp only
    rw [Table.size_set_of_absent _ _ _ absent]
    exact Nat.le_succ _

theorem addrForPeer_channels :
    (state.addrForPeer peer via).2.channels = state.channels ∧
    (state.addrForPeer peer via).2.nextChannelId = state.nextChannelId ∧
    (state.addrForPeer peer via).2.history = state.history := by
  rcases state.addrForPeer_frame peer via with ⟨_, _, _, _, equal⟩
  rw [equal]
  exact ⟨rfl, rfl, rfl⟩

variable {state}

private theorem Sound.fresh_addr (sound : Sound state)
    (bound : state.nextHost.toNat + 1 < 2 ^ 32) :
    state.addrToPeer.get? (docPrefixAddr 0x77 (state.nextHost + 1)) = none := by
  cases taken : state.addrToPeer.get? (docPrefixAddr 0x77 (state.nextHost + 1)) with
  | none => rfl
  | some owner =>
      rcases sound.counters.drawn _ owner taken with ⟨host, equal, drawn⟩
      rw [← docPrefixAddr_injective 0x77 equal, counter_succ bound] at drawn
      omega

theorem Sound.addrForPeer (sound : Sound state)
    (bound : (state.addrForPeer peer via).2.peerToAddr.size < 2 ^ 32) :
    Sound (state.addrForPeer peer via).2 := by
  rw [State.addrForPeer] at bound ⊢
  split
  · exact sound
  · rename_i absent
    rw [absent] at bound
    dsimp only at bound
    rw [Table.size_set_of_absent _ _ _ absent, ← sound.counters.hosts] at bound
    have succ := counter_succ bound
    have fresh := sound.fresh_addr bound
    have noOwner : ∀ owner, state.peerToAddr.get? owner ≠
        some (docPrefixAddr 0x77 (state.nextHost + 1)) := by
      intro owner found
      rw [sound.routing.inverse, fresh] at found
      cases found
    refine ⟨⟨?_, ?_, ?_⟩, ⟨?_, ?_, sound.counters.ids, sound.counters.assigned⟩⟩
    · intro other addr
      simp only [Table.get?_set]
      split
      · rename_i same
        subst same
        split
        · simp_all
        · rename_i different
          rw [← sound.routing.inverse, absent]
          simp [Ne.symm different]
      · rename_i different
        split
        · rename_i same
          subst same
          simp [noOwner other, Ne.symm different]
        · exact sound.routing.inverse other addr
    · intro addr
      simp only [Table.get?_set]
      split
      · simp
      · exact sound.routing.standins addr
    · intro addr id routed
      simp only [Table.get?_set] at routed ⊢
      split at routed
      · cases routed
      · rename_i different
        rw [if_neg different]
        exact sound.routing.channels addr id routed
    · rw [succ, Table.size_set_of_absent _ _ _ absent, sound.counters.hosts]
    · intro addr owner found
      simp only [Table.get?_set] at found
      split at found
      · rename_i same
        exact ⟨_, same, Nat.le_refl _⟩
      · rcases sound.counters.drawn addr owner found with ⟨host, equal, drawn⟩
        exact ⟨host, equal, by dsimp only; omega⟩

private theorem addrForPeer_owner :
    (state.addrForPeer peer via).2.peerToAddr.get? peer =
      some (state.addrForPeer peer via).1 := by
  rw [State.addrForPeer]
  split
  · assumption
  · simp

end Sighted

/-! ## Moving a standin to another wire -/

section Moved

variable {state : State P}

theorem Sound.setRoute (sound : Sound state) {addr : SocketAddr} {peer : EndpointId}
    (wire : RouteWire) (owned : state.peerToAddr.get? peer = some addr)
    (lands : ∀ id, wire = .channel id → ∃ entry, state.channels.get? id = some entry ∧
      entry.peer = peer) :
    Sound { state with routes := state.routes.set addr wire } := by
  have owner := (sound.routing.inverse peer addr).mp owned
  refine ⟨⟨sound.routing.inverse, ?_, ?_⟩, sound.counters.hosts, sound.counters.drawn,
    sound.counters.ids, sound.counters.assigned⟩
  · intro other
    simp only [Table.get?_set]
    split
    · rename_i same
      simp [same, owner]
    · exact sound.routing.standins other
  · intro other id routed
    simp only [Table.get?_set] at routed
    split at routed
    · rename_i same
      rcases lands id (Option.some.inj routed) with ⟨entry, found, samePeer⟩
      exact ⟨entry, found, by rw [same, owner, samePeer]⟩
    · exact sound.routing.channels other id routed

private theorem dialStandin_size (peer : EndpointId) (key : UInt32) :
    (state.dialStandin peer key).2.peerToAddr =
      (state.addrForPeer peer key).2.peerToAddr := by
  rw [State.dialStandin]
  dsimp only
  split <;> rfl

theorem Sound.dialStandin (sound : Sound state) (peer : EndpointId) (key : UInt32)
    (bound : (state.dialStandin peer key).2.peerToAddr.size < 2 ^ 32) :
    Sound (state.dialStandin peer key).2 := by
  rw [dialStandin_size] at bound
  have sighted := sound.addrForPeer peer key bound
  rw [State.dialStandin]
  dsimp only
  split
  · exact sighted.setRoute _ (addrForPeer_owner peer key) (by simp)
  · exact sighted

def State.withChannel (state : State P) (entry : ChannelEntry) : State P :=
  { state with
    nextChannelId := state.nextChannelId + 1
    channels := state.channels.set (state.nextChannelId + 1) entry
    newChannels := state.newChannels ++ [(state.nextChannelId + 1, entry.wire)]
    history := { state.history with
      channels := state.history.channels ++ [(state.nextChannelId + 1, entry)] } }

theorem Sound.withChannel (sound : Sound state) (entry : ChannelEntry)
    (bound : state.history.channels.length + 1 < 2 ^ 32) :
    Sound (state.withChannel entry) := by
  rw [← sound.counters.ids] at bound
  have succ := counter_succ bound
  refine ⟨⟨sound.routing.inverse, sound.routing.standins, ?_⟩, sound.counters.hosts,
    sound.counters.drawn, ?_, ?_⟩
  · intro addr id routed
    rcases sound.routing.channels addr id routed with ⟨old, found, owner⟩
    have different : id ≠ state.nextChannelId + 1 := by
      intro same
      have assigned := sound.counters.assigned id old found
      rw [same, succ] at assigned
      omega
    exact ⟨old, by rw [State.withChannel, Table.get?_set, if_neg different, found], owner⟩
  · simp [State.withChannel, succ, sound.counters.ids]
  · intro id old found
    rw [State.withChannel, Table.get?_set] at found
    split at found
    · rename_i same
      rw [same]
      exact Nat.le_refl _
    · have assigned := sound.counters.assigned id old found
      dsimp only [State.withChannel]
      omega

/-- What `registerChannel` leaves: refused, or the channel added and the peer moved
onto it. -/
theorem registerChannel_cases (state : State P) (peer : EndpointId) (wire : ChannelWire) :
    (state.isClosedOrDead = true ∧ (state.registerChannel peer wire).2 =
      { state with history := { state.history with
        closedChannels := state.history.closedChannels ++ [wire] } }) ∨
    ∃ entry : ChannelEntry, state.isClosedOrDead = false ∧
      entry = ⟨wire, peer, (state.signalingRelay peer).getD homeRelay⟩ ∧
      (state.registerChannel peer wire).2 =
        { ((state.withChannel entry).addrForPeer peer entry.fallbackRelay).2 with
          routes := ((state.withChannel entry).addrForPeer peer
            entry.fallbackRelay).2.routes.set
              ((state.withChannel entry).addrForPeer peer entry.fallbackRelay).1
              (.channel (state.nextChannelId + 1)) } := by
  rw [State.registerChannel]
  split
  · exact .inl ⟨‹_›, rfl⟩
  · exact .inr ⟨_, by simp_all, rfl, rfl⟩

theorem Sound.registerChannel (sound : Sound state) (peer : EndpointId)
    (wire : ChannelWire) (bounded : Bounded (state.registerChannel peer wire).2) :
    Sound (state.registerChannel peer wire).2 := by
  rcases registerChannel_cases state peer wire with
    ⟨_, refused⟩ | ⟨entry, _, made, registered⟩
  · rw [refused]
    exact sound.of_tables rfl
  · rw [registered] at bounded ⊢
    have size := bounded.peers
    have channels := bounded.channels
    rw [(addrForPeer_channels _ peer _).2.2, State.withChannel, List.length_append] at channels
    refine ((sound.withChannel entry channels).addrForPeer peer entry.fallbackRelay
      size).setRoute _ (addrForPeer_owner _ _) ?_
    intro id same
    cases same
    refine ⟨entry, ?_, by rw [made]⟩
    rw [(addrForPeer_channels _ peer _).1, State.withChannel, Table.get?_set, if_pos rfl]

private theorem Sound.removeChannel (sound : Sound state) (id : UInt32)
    (unused : ∀ addr, state.routes.get? addr ≠ some (.channel id)) :
    Sound { state with channels := state.channels.remove id } := by
  refine ⟨⟨sound.routing.inverse, sound.routing.standins, ?_⟩, sound.counters.hosts,
    sound.counters.drawn, sound.counters.ids, ?_⟩
  · intro addr other routed
    have different : other ≠ id := by
      rintro rfl
      exact unused addr routed
    simpa [different] using sound.routing.channels addr other routed
  · intro other entry found
    rw [Table.get?_remove] at found
    split at found
    · cases found
    · exact sound.counters.assigned other entry found

/-- Only the standin of the channel's peer can be routed over it, and `retireChannel`
moves that one. -/
theorem Sound.retireChannel (sound : Sound state) (id : UInt32) :
    Sound (state.retireChannel id) := by
  rcases state.retireChannel_cases id with
    ⟨_, same⟩ | ⟨entry, routes, found, equal, changed, unrouted⟩
  · rw [same]
    exact sound
  · have owner : ∀ addr, state.routes.get? addr = some (.channel id) →
        state.peerToAddr.get? entry.peer = some addr := by
      intro addr routed
      rcases sound.routing.channels addr id routed with ⟨other, lookup, owned⟩
      rw [found] at lookup
      cases lookup
      exact (sound.routing.inverse _ _).mpr owned
    rw [equal]
    rcases changed with rfl | ⟨standin, drawn, rfl⟩
    · apply sound.removeChannel id
      intro addr routed
      exact unrouted addr (owner addr routed) routed
    · apply (sound.setRoute (.relay entry.fallbackRelay) drawn (by simp)).removeChannel id
      intro addr routed
      have before := routed
      simp only [Table.get?_set] at before
      split at before
      · cases before
      · exact unrouted addr (owner addr before) routed

end Moved

/-! ## Every step -/

/-- Channels are only ever added to the record. -/
theorem StateStep.recorded {task : Task} {state next : State P}
    (step : StateStep task state next) :
    state.history.channels <+: next.history.channels := by
  cases step with
  | closed now reason _ =>
      rcases state.close_frame now reason with ⟨_, _, frame⟩
      rw [frame]
  | responded addr source payload =>
      rcases state.pushResponse_frame addr source payload with ⟨_, _, _, frame⟩
      rw [frame]
  | sighted peer via =>
      rcases state.addrForPeer_frame peer via with ⟨_, _, _, _, frame⟩
      rw [frame]
  | dialed peer key =>
      rcases state.dialStandin_frame peer key with ⟨_, _, _, _, frame⟩
      rw [frame]
  | channelRegistered peer wire _ =>
      rcases registerChannel_cases state peer wire with
        ⟨_, refused⟩ | ⟨entry, _, _, registered⟩
      · rw [refused]
      · rw [registered]
        dsimp only
        rw [(addrForPeer_channels _ peer _).2.2]
        exact List.prefix_append _ _
  | channelDied id wire _ =>
      rcases state.channelDied_frame id wire with ⟨_, _, frame⟩
      rw [frame]
  | _ => exact List.prefix_rfl

theorem StateStep.seen {task : Task} {state next : State P}
    (step : StateStep task state next) : state.peerToAddr.size ≤ next.peerToAddr.size := by
  cases step with
  | sighted peer via => exact addrForPeer_size state peer via
  | dialed peer key =>
      rw [dialStandin_size]
      exact addrForPeer_size state peer key
  | channelRegistered peer wire _ =>
      rcases registerChannel_cases state peer wire with
        ⟨_, refused⟩ | ⟨entry, _, _, registered⟩
      · rw [refused]
      · rw [registered]
        exact addrForPeer_size (state.withChannel entry) peer entry.fallbackRelay
  | channelDied id wire _ =>
      rcases state.channelDied_frame id wire with ⟨_, _, frame⟩
      rw [frame]
  | closed now reason _ =>
      rcases state.close_frame now reason with ⟨_, _, frame⟩
      rw [frame]
  | responded addr source payload =>
      rcases state.pushResponse_frame addr source payload with ⟨_, _, _, frame⟩
      rw [frame]
  | _ => exact Nat.le_refl _

theorem StateStep.bounded {task : Task} {state next : State P}
    (step : StateStep task state next) (bounded : Bounded next) : Bounded state where
  peers := Nat.lt_of_le_of_lt step.seen bounded.peers
  channels := Nat.lt_of_le_of_lt step.recorded.length_le bounded.channels

theorem StateStep.sound {task : Task} {state next : State P}
    (step : StateStep task state next) (bounded : Bounded next) (sound : Sound state) :
    Sound next := by
  cases step with
  | sighted peer via => exact sound.addrForPeer peer via bounded.peers
  | dialed peer key => exact sound.dialStandin peer key bounded.peers
  | channelRegistered peer wire _ => exact sound.registerChannel peer wire bounded
  | channelDied id wire _ => exact (sound.retireChannel id).of_tables rfl
  | closed now reason _ =>
      rcases state.close_frame now reason with ⟨_, _, frame⟩
      rw [frame]
      exact sound.of_tables rfl
  | responded addr source payload =>
      rcases state.pushResponse_frame addr source payload with ⟨_, _, _, frame⟩
      rw [frame]
      exact sound.of_tables rfl
  | _ => exact sound.of_tables rfl

theorem StateSteps.recorded {task : Task} {state next : State P}
    (steps : StateSteps task state next) :
    state.history.channels <+: next.history.channels := by
  induction steps with
  | refl => exact List.prefix_rfl
  | tail _ step induction => exact induction.trans step.recorded

theorem StateSteps.bounded {task : Task} {state next : State P}
    (steps : StateSteps task state next) (bounded : Bounded next) : Bounded state := by
  induction steps with
  | refl => exact bounded
  | tail _ step induction => exact induction (step.bounded bounded)

theorem StateSteps.sound {task : Task} {state next : State P}
    (steps : StateSteps task state next) (bounded : Bounded next) (sound : Sound state) :
    Sound next := by
  induction steps with
  | refl => exact sound
  | tail _ step induction => exact step.sound bounded (induction (step.bounded bounded))

theorem reachable_sound {config : Config P} (reached : (endpoint P).Reachable config)
    (bounded : Bounded config.state) : Sound config.state := by
  apply reached.invariant (fun config => Bounded config.state → Sound config.state) _ _ bounded
  · rintro config ⟨noq, webrtc, udp, relay, clock, url, _, rfl⟩ _
    refine ⟨⟨?_, ?_, ?_⟩, ⟨rfl, ?_, rfl, ?_⟩⟩ <;>
      simp [Config.bind, State.registerRelay, State.new]
  · intro config action next sound _ stepped bounded
    rcases (Config.step_move stepped).state with ⟨task, steps, _⟩
    exact StateSteps.sound steps bounded (sound (StateSteps.bounded steps bounded))

/-! ## Delivery -/

/-- `next` is `state` with one more packet, on a wire to `peer`. -/
def State.Delivers (state : State P) (peer : EndpointId) (packet : Bytes)
    (next : State P) : Prop :=
  (∃ key, next = { state with
    relayOutbound := state.relayOutbound ++ [(key, peer, packet)] }) ∨
  ∃ id entry, state.channels.get? id = some entry ∧ entry.peer = peer ∧
    next = { state with channelOutbound := state.channelOutbound ++ [(id, packet)] }

/-- `item` is `packet`, on a wire to `peer`. -/
def State.Directs (state : State P) (peer : EndpointId) (packet : Bytes)
    (item : Outbound) : Prop :=
  (∃ key, item = .relay key peer packet) ∨
  ∃ id entry, state.channels.get? id = some entry ∧ entry.peer = peer ∧
    item = .channel id packet

namespace Routing

variable {state : State P}

theorem of_tables (routing : Routing state) {other : State P}
    (same : other.tables = state.tables) : Routing other := by
  simp only [State.tables, Prod.mk.injEq] at same
  rcases same with ⟨peers, addrs, _, routes, channels, _, _⟩
  refine ⟨?_, ?_, ?_⟩
  · rw [peers, addrs]
    exact routing.inverse
  · rw [routes, addrs]
    exact routing.standins
  · rw [routes, channels, addrs]
    exact routing.channels

theorem wire (routing : Routing state) {peer : EndpointId} {addr : SocketAddr}
    (standin : state.peerToAddr.get? peer = some addr) :
    state.addrToPeer.get? addr = some peer ∧
      ((∃ key, state.routes.get? addr = some (.relay key)) ∨
        ∃ id entry, state.routes.get? addr = some (.channel id) ∧
          state.channels.get? id = some entry ∧ entry.peer = peer) := by
  have owner := (routing.inverse peer addr).mp standin
  refine ⟨owner, ?_⟩
  rcases (routing.standins addr).mpr ⟨peer, owner⟩ with ⟨wire, routed⟩
  cases wire with
  | relay key => exact .inl ⟨key, routed⟩
  | channel id =>
      rcases routing.channels addr id routed with ⟨entry, found, other⟩
      rw [owner] at other
      exact .inr ⟨id, entry, routed, found, (Option.some.inj other).symm⟩

theorem routeTransmit (routing : Routing state) {peer : EndpointId} {transmit : Transmit}
    (standin : state.peerToAddr.get? peer = some transmit.destination) :
    ∃ next, state.routeTransmit transmit = .ok next ∧
      state.Delivers peer transmit.datagram next := by
  rcases routing.wire standin with ⟨owner, ⟨key, routed⟩ | ⟨id, entry, routed, found, same⟩⟩
  · refine ⟨_, by rw [State.routeTransmit, routed]; dsimp only; rw [owner], ?_⟩
    exact .inl ⟨key, rfl⟩
  · refine ⟨_, by rw [State.routeTransmit, routed], ?_⟩
    exact .inr ⟨id, entry, found, same, rfl⟩

theorem pushResponse (routing : Routing state) {peer : EndpointId} {addr : SocketAddr}
    (standin : state.peerToAddr.get? peer = some addr) (payload : Bytes) :
    state.Delivers peer payload (state.pushResponse addr (some peer) payload) := by
  rcases routing.wire standin with ⟨_, ⟨key, routed⟩ | ⟨id, entry, routed, found, same⟩⟩
  · exact .inl ⟨key, by rw [State.pushResponse.eq_def, routed]⟩
  · exact .inr ⟨id, entry, found, same, by rw [State.pushResponse.eq_def, routed]⟩

theorem outbound (routing : Routing state) {peer : EndpointId} {transmit : Transmit}
    (standin : state.peerToAddr.get? peer = some transmit.destination) {item : Outbound}
    (queued : state.outbound transmit = some item) :
    state.Directs peer transmit.datagram item := by
  rcases routing.wire standin with ⟨owner, ⟨key, routed⟩ | ⟨id, entry, routed, found, same⟩⟩
  · rw [State.outbound, routed] at queued
    dsimp only at queued
    rw [owner] at queued
    cases queued
    exact .inl ⟨key, rfl⟩
  · rw [State.outbound, routed] at queued
    cases queued
    exact .inr ⟨id, entry, found, same, rfl⟩

private theorem routeTransmit_ok (routing : Routing state) (transmit : Transmit) :
    ∃ next, state.routeTransmit transmit = .ok next := by
  cases routed : state.routes.get? transmit.destination with
  | none => exact ⟨_, by rw [State.routeTransmit, routed]⟩
  | some wire =>
      rcases (routing.standins _).mp ⟨wire, routed⟩ with ⟨peer, owner⟩
      rcases routing.routeTransmit ((routing.inverse _ _).mpr owner) with ⟨next, ran, _⟩
      exact ⟨next, ran⟩

end Routing

/-! ## The drain never traps -/

private theorem onEvent_error {fuel : Nat} {now : Instant} {handle : ConnectionHandle}
    {event : Event} {state : State P} {entry : ConnEntry P} {error : Abort}
    (failed : onEvent fuel now handle event state entry = .error error) :
    error = .outOfFuel := by
  have loops : ∀ {dir : Dir} {entry : ConnEntry P} {error : Abort},
      whileLoop .outOfFuel (acceptRound dir) fuel entry = .error error →
      error = .outOfFuel := by
    intro dir entry error failed
    apply whileLoop.error_eq_exhausted (fun _ => True) (fun _ _ _ _ _ => trivial) _ fuel
      trivial failed
    intro current error _ failed
    rw [acceptRound] at failed
    split at failed <;> cases failed
  cases event with
  | connected =>
      rw [onEvent] at failed
      split at failed <;> cases failed
  | streamOpened =>
      rcases bind_eq_error.mp failed with first | ⟨middle, _, rest⟩
      · exact loops first
      · rcases bind_eq_error.mp rest with second | ⟨final, _, impossible⟩
        · exact loops second
        · cases impossible
  | _ => cases failed

namespace Turn.From

variable {handle : ConnectionHandle} {first : State P} {start : ConnEntry P}

theorem tables {turn : Turn P} (sofar : turn.From handle first start) :
    turn.state.tables = first.tables := by
  rcases sofar.io with ⟨io, equal, _, _⟩
  rw [equal]
  rfl

private theorem round_error {fuel : Nat} {now : Instant} {turn : Turn P} {error : Abort}
    (routing : Routing first) (sofar : turn.From handle first start)
    (failed : turn.round fuel now handle = .error error) : error = .outOfFuel := by
  rw [Turn.round] at failed
  rcases bind_eq_error.mp failed with one | ⟨afterOne, firstLoop, rest⟩
  · apply whileLoop.error_eq_exhausted (fun _ => True) (fun _ _ _ _ _ => trivial) _ fuel
      trivial one
    intro current error _ failed
    rw [Turn.endpointEventRound] at failed
    split at failed <;> cases failed
  have fromOne := whileLoop.invariant (Turn.From handle first start)
    (fun _ _ _ => endpointEventRound) fuel (sofar.entry .refl (.refl _) .inl false) firstLoop
  rcases bind_eq_error.mp rest with two | ⟨afterTwo, secondLoop, rest⟩
  · apply whileLoop.error_eq_exhausted (fun _ => True) (fun _ _ _ _ _ => trivial) _ fuel
      trivial two
    intro current error _ failed
    rw [Turn.eventRound] at failed
    split at failed
    · cases failed
    · rcases bind_eq_error.mp failed with event | ⟨_, _, impossible⟩
      · exact onEvent_error event
      · cases impossible
  have fromTwo := whileLoop.invariant (Turn.From handle first start)
    (fun _ _ _ => eventRound) fuel fromOne secondLoop
  rcases bind_eq_error.mp rest with three | ⟨_, _, impossible⟩
  · apply whileLoop.error_eq_exhausted (Turn.From handle first start)
      (fun _ _ _ => transmitRound) _ fuel fromTwo three
    intro current error holds failed
    rw [Turn.transmitRound] at failed
    split at failed
    · cases failed
    · rcases (routing.of_tables holds.tables).routeTransmit_ok _ with ⟨next, routed⟩
      rw [routed] at failed
      cases failed
  · cases impossible

end Turn.From

private theorem State.drainEntry_error {fuel : Nat} {now : Instant} {state : State P}
    {handle : ConnectionHandle} {error : Abort} (routing : Routing state)
    (failed : State.drainEntry fuel now state handle = .error error) :
    error = .outOfFuel ∨ error = .disabled := by
  rw [State.drainEntry] at failed
  split at failed
  · cases failed
    exact .inr rfl
  · rename_i entry found
    rcases bind_eq_error.mp failed with looped | ⟨_, _, impossible⟩
    · left
      apply whileLoop.error_eq_exhausted (Turn.From handle state entry)
        (fun _ _ _ => Turn.From.round) _ fuel (Turn.From.initial handle state entry) looped
      intro current error sofar failed
      exact sofar.round_error routing failed
    · cases impossible

/-- A drain changes the entries and appends to the queues, each packet on the wire
its destination is routed to. -/
theorem State.drain_spec {state next : State P} {fuel : Nat} {now : Instant}
    {order : List ConnectionHandle} (ran : state.drain fuel now order = .ok next) :
    ∃ io : Io P, io.Routed state ∧ next = { state.after io with conns := next.conns } := by
  rw [State.drain] at ran
  split at ran
  · apply foldlM.invariant (fun current => ∃ io : Io P, io.Routed state ∧
      current = { state.after io with conns := current.conns }) _ order _ ran
    · rintro current handle after ⟨io, routed, equal⟩ drained
      rcases State.drainEntry_spec drained with ⟨_, moved, more, _, _, reached, more_routed, _⟩
      refine ⟨⟨more.noq, io.accepted ++ more.accepted, io.relay ++ more.relay,
        io.udp ++ more.udp, io.channel ++ more.channel⟩, ?_, ?_⟩
      · have tables : current.routes = state.routes ∧
            current.addrToPeer = state.addrToPeer := by
          rw [equal]
          exact ⟨rfl, rfl⟩
        exact routed.append more_routed tables.1 tables.2
      · rw [reached, equal]
        simp [State.after]
    · exact ⟨Io.none state.noq, Io.none_routed _ _, by rw [State.after_none]⟩
  · cases ran

theorem State.drain_not_panic {state : State P} (routing : Routing state) (fuel : Nat)
    (now : Instant) (order : List ConnectionHandle) (message : String) :
    state.drain fuel now order ≠ .error (.panic message) := by
  intro failed
  rw [State.drain] at failed
  split at failed
  · have allowed : (.panic message : Abort) = .outOfFuel ∨
        (.panic message : Abort) = .disabled := by
      apply foldlM.error_of_turn Routing (fun error => error = .outOfFuel ∨ error = .disabled)
        _ _ order routing failed
      · intro current handle next holds drained
        rcases State.drainEntry_spec drained with ⟨_, _, _, _, _, rfl, _, _⟩
        exact holds.of_tables rfl
      · intro current handle error holds failed
        exact State.drainEntry_error holds failed
    rcases allowed with impossible | impossible <;> cases impossible
  · cases failed

/-! ## No packet of one peer is handed to another -/

/-- The tables agree in every reachable state and after every step from it; while
they do, a transmit or a response to a peer's standin becomes one packet on a wire
to that peer. A drain queues one packet for each transmit that the connections gave
it, those to a peer's standin with their bytes on a wire to that peer, and it never
traps on its lookup. -/
theorem packets_reach_their_peer {config : Config P}
    (reached : (endpoint P).Reachable config) (bounded : Bounded config.state) :
    Routing config.state ∧
    (∀ task next, StateSteps task config.state next → Bounded next → Routing next) ∧
    (∀ state : State P, state.tables = config.state.tables → ∀ peer transmit,
      state.peerToAddr.get? peer = some transmit.destination →
      ∃ next, state.routeTransmit transmit = .ok next ∧
        state.Delivers peer transmit.datagram next) ∧
    (∀ state : State P, state.tables = config.state.tables → ∀ peer addr payload,
      state.peerToAddr.get? peer = some addr →
      state.Delivers peer payload (state.pushResponse addr (some peer) payload)) ∧
    (∀ fuel now order next, config.state.drain fuel now order = .ok next →
      ∃ io : Io P, io.Routed config.state ∧
        next = { config.state.after io with conns := next.conns }) ∧
    (∀ fuel now order next, config.state.drain fuel now order = .ok next →
      ∃ emitted items, config.state.DrainOf now order emitted items next ∧
        List.Forall₂ (fun transmit item => ∀ peer,
          config.state.peerToAddr.get? peer = some transmit.destination →
            config.state.Directs peer transmit.datagram item)
          (order.flatMap emitted) items) ∧
    ∀ fuel now order message,
      config.state.drain fuel now order ≠ .error (.panic message) := by
  have sound := reachable_sound reached bounded
  refine ⟨sound.routing, ?_, ?_, ?_, ?_, ?_, ?_⟩
  · intro task next steps bound
    exact (StateSteps.sound steps bound sound).routing
  · intro state same peer transmit standin
    exact (sound.routing.of_tables same).routeTransmit standin
  · intro state same peer addr payload standin
    exact (sound.routing.of_tables same).pushResponse standin payload
  · intro fuel now order next ran
    exact State.drain_spec ran
  · intro fuel now order next ran
    rcases State.drain_sends ran with ⟨emitted, items, drained⟩
    refine ⟨emitted, items, drained, drained.each.imp ?_⟩
    intro transmit item queued peer standin
    exact sound.routing.outbound standin queued
  · intro fuel now order message
    exact State.drain_not_panic sound.routing fuel now order message

/-- A peer that has spoken through the home relay has a standin, and what the
connection it opened sends there goes back to it. -/
theorem packets_reach_their_peer_spoken :
    ∃ config : Config Slab.platform, (endpoint Slab.platform).Reachable config ∧
      (config.state.peerToAddr.get? (Slab.peer 7)).isSome = true ∧
      Routing config.state ∧
      ∃ next emitted items, config.state.drain 10 0 [0] = .ok next ∧
        next.relayOutbound = [(homeRelay, Slab.peer 7, [1])] ∧
        config.state.DrainOf 0 [0] emitted items next := by
  have passed : (endpoint Slab.platform).runs (fun _ _ => true) (Slab.bound true false)
      (Slab.turn [] 0 ++ [Slab.hello 0 7])
      (fun config => (config.state.peerToAddr.get? (Slab.peer 7)).isSome &&
        decide (config.state.peerToAddr.size < 2 ^ 32) &&
        decide (config.state.history.channels.length < 2 ^ 32) &&
        (config.state.drain 10 0 [0]).toOption.any fun next =>
          decide (next.relayOutbound = [(homeRelay, Slab.peer 7, [1])])) = true := by
    decide +kernel
  rcases System.Reachable.of_runs (Slab.bound_initial true false) passed with
    ⟨config, reached, tested⟩
  simp only [Bool.and_eq_true, decide_eq_true_eq] at tested
  rcases tested with ⟨⟨⟨spoken, peers⟩, channels⟩, answered⟩
  cases ran : config.state.drain 10 0 [0] with
  | error error =>
      rw [ran] at answered
      cases answered
  | ok next =>
      rw [ran] at answered
      rcases packets_reach_their_peer reached ⟨peers, channels⟩ with
        ⟨routing, _, _, _, _, drains, _⟩
      rcases drains 10 0 [0] next ran with ⟨emitted, items, drained, _⟩
      exact ⟨config, reached, spoken, routing, next, emitted, items, ran,
        of_decide_eq_true answered, drained⟩

end IrohEndpoint
