import IrohEndpoint.Relays

/-! # The channel table

Channels are registered by sessions, received on by the pump and retired when their
receive fails. A route names a channel only while it is in the table. -/

namespace IrohEndpoint

variable {P : Platform}

/-- The fields of the state that say which channels there are and who is routed over
them. -/
def State.wires (state : State P) :=
  (state.channels, state.newChannels, state.nextChannelId, state.routes, state.peerToAddr,
    state.history.channels, state.history.retiredChannels)

def receiveOf (registered : UInt32 × ChannelEntry) : UInt32 × ChannelWire :=
  (registered.1, registered.2.wire)

structure Channels (state : State P) : Prop where
  counter : state.nextChannelId.toNat = state.history.channels.length
  issued : ∀ id entry, (id, entry) ∈ state.history.channels →
    id.toNat ≤ state.history.channels.length
  registry : ∃ retired, Registry state.channels state.history.channels retired ∧
    ∀ item ∈ retired, item.2.wire ∈ state.history.retiredChannels
  armed : state.newChannels ⊆ state.history.channels.map receiveOf
  routed : ∀ addr id, state.routes.get? addr = some (.channel id) →
    ∃ entry, state.channels.get? id = some entry ∧
      state.peerToAddr.get? entry.peer = some addr

namespace Channels

variable {state next : State P}

private theorem of_wires (channels : Channels state) (same : next.wires = state.wires) :
    Channels next := by
  simp only [State.wires, Prod.mk.injEq] at same
  rcases same with ⟨table, newChannels, nextId, routes, peers, registered, retired⟩
  refine ⟨?_, ?_, ?_, ?_, ?_⟩
  · rw [nextId, registered]
    exact channels.counter
  · rw [registered]
    exact channels.issued
  · rw [table, registered, retired]
    exact channels.registry
  · rw [newChannels, registered]
    exact channels.armed
  · rw [routes, table, peers]
    exact channels.routed

theorem addrForPeer (channels : Channels state) (peer : EndpointId) (via : UInt32) :
    Channels (state.addrForPeer peer via).2 := by
  rw [State.addrForPeer]
  split
  · exact channels
  · rename_i unknown
    refine ⟨channels.counter, channels.issued, channels.registry, channels.armed, ?_⟩
    intro addr id routed
    simp only [Table.get?_set] at routed
    split at routed
    · cases routed
    · rcases channels.routed addr id routed with ⟨entry, found, owner⟩
      refine ⟨entry, found, ?_⟩
      rw [Table.get?_set, if_neg]
      · exact owner
      · rintro same
        rw [same, unknown] at owner
        cases owner

theorem setRelay (channels : Channels state) (addr : SocketAddr) (key : UInt32) :
    Channels { state with routes := state.routes.set addr (.relay key) } := by
  refine ⟨channels.counter, channels.issued, channels.registry, channels.armed, ?_⟩
  intro other id routed
  simp only [Table.get?_set] at routed
  split at routed
  · cases routed
  · exact channels.routed other id routed

theorem dialStandin (channels : Channels state) (peer : EndpointId) (key : UInt32) :
    Channels (state.dialStandin peer key).2 := by
  rw [State.dialStandin]
  dsimp only
  split
  · exact (channels.addrForPeer peer key).setRelay _ key
  · exact channels.addrForPeer peer key

theorem withChannel (channels : Channels state) (entry : ChannelEntry)
    (bound : state.history.channels.length + 1 < 2 ^ 32) :
    Channels (state.withChannel entry) := by
  rw [← channels.counter] at bound
  have succ := counter_succ bound
  have fresh : ∀ other, (state.nextChannelId + 1, other) ∉ state.history.channels := by
    intro other member
    have limit := channels.issued _ _ member
    rw [succ, channels.counter] at limit
    omega
  rcases channels.registry with ⟨retired, registry, died⟩
  refine ⟨?_, ?_, ⟨retired, registry.register entry fresh, died⟩, ?_, ?_⟩
  · simp [State.withChannel, succ, channels.counter]
  · intro id other member
    simp only [State.withChannel, List.length_append, List.length_singleton]
    rcases List.mem_append.mp member with old | new
    · exact Nat.le_succ_of_le (channels.issued id other old)
    · rw [List.mem_singleton] at new
      cases new
      rw [succ, channels.counter]
  · simp only [State.withChannel, List.map_append]
    exact List.append_subset.mpr
      ⟨List.subset_append_of_subset_left _ channels.armed, List.subset_append_right _ _⟩
  · intro addr id routed
    rcases channels.routed addr id routed with ⟨old, found, owner⟩
    refine ⟨old, ?_, owner⟩
    rw [State.withChannel, Table.get?_set, if_neg]
    · exact found
    · rintro rfl
      exact fresh old (registry.stored _ _ found)

theorem setChannel (channels : Channels state) {addr : SocketAddr} {id : UInt32}
    {entry : ChannelEntry} (found : state.channels.get? id = some entry)
    (owner : state.peerToAddr.get? entry.peer = some addr) :
    Channels { state with routes := state.routes.set addr (.channel id) } := by
  refine ⟨channels.counter, channels.issued, channels.registry, channels.armed, ?_⟩
  intro other route routed
  simp only [Table.get?_set] at routed
  split at routed
  · rename_i same
    cases routed
    exact ⟨entry, found, same ▸ owner⟩
  · exact channels.routed other route routed

theorem addrForPeer_standin (state : State P) (peer : EndpointId) (via : UInt32) :
    (state.addrForPeer peer via).2.peerToAddr.get? peer =
      some (state.addrForPeer peer via).1 := by
  rw [State.addrForPeer]
  split
  · assumption
  · simp

theorem registerChannel (channels : Channels state) (peer : EndpointId) (wire : ChannelWire)
    (bound : (state.registerChannel peer wire).2.history.channels.length < 2 ^ 32) :
    Channels (state.registerChannel peer wire).2 := by
  rcases registerChannel_cases state peer wire with
    ⟨_, refused⟩ | ⟨entry, _, made, registered⟩
  · rw [refused]
    exact channels.of_wires rfl
  · have sighted := addrForPeer_channels (state.withChannel entry) peer entry.fallbackRelay
    rw [registered] at bound ⊢
    dsimp only at bound
    rw [sighted.2.2, State.withChannel, List.length_append] at bound
    have found : ((state.withChannel entry).addrForPeer peer
        entry.fallbackRelay).2.channels.get? (state.nextChannelId + 1) = some entry := by
      rw [sighted.1]
      simp [State.withChannel]
    refine ((channels.withChannel entry bound).addrForPeer peer entry.fallbackRelay).setChannel
      found ?_
    rw [made]
    exact addrForPeer_standin _ _ _

/-- A channel whose receive failed leaves the table, and its peer's route with it. -/
theorem died (channels : Channels state) {id : UInt32} {wire : ChannelWire}
    (registered : (id, wire) ∈ state.history.channels.map receiveOf) :
    Channels (state.channelDied id wire) := by
  have issue : ∃ entry : ChannelEntry, (id, entry) ∈ state.history.channels ∧
      entry.wire = wire := by
    rcases List.mem_map.mp registered with ⟨⟨key, entry⟩, member, same⟩
    cases same
    exact ⟨entry, member, rfl⟩
  rcases issue with ⟨entry, member, rfl⟩
  rcases channels.registry with ⟨retired, registry, died⟩
  have wires : ∀ item ∈ retired ++ [(id, entry)],
      item.2.wire ∈ state.history.retiredChannels ++ [entry.wire] := by
    intro item listed
    rcases List.mem_append.mp listed with old | new
    · exact List.mem_append_left _ (died item old)
    · rw [List.mem_singleton] at new
      subst new
      simp
  rcases state.retireChannel_cases id with
    ⟨absent, same⟩ | ⟨stored, routes, found, equal, changed, unrouted⟩
  · rw [State.channelDied, same]
    refine ⟨channels.counter, channels.issued, ⟨_, registry.retire member ?_, wires⟩,
      channels.armed, channels.routed⟩
    intro other
    split
    · rename_i same
      rw [same, absent]
    · rfl
  · rw [State.channelDied, equal]
    refine ⟨channels.counter, channels.issued,
      ⟨_, registry.retire member (Table.get?_remove state.channels id), wires⟩,
      channels.armed, ?_⟩
    intro addr route routed
    have before : state.routes.get? addr = some (.channel route) := by
      rcases changed with rfl | ⟨standin, _, rfl⟩
      · exact routed
      · simp only [Table.get?_set] at routed
        split at routed
        · cases routed
        · exact routed
    rcases channels.routed addr route before with ⟨old, lookup, owner⟩
    refine ⟨old, ?_, owner⟩
    -- the standin that was routed over the channel is its peer's, and has moved
    rw [Table.get?_remove, if_neg]
    · exact lookup
    · rintro rfl
      rw [found] at lookup
      cases lookup
      exact unrouted addr owner routed

theorem step {task : Task} (step : StateStep task state next) (other : task ≠ .lost)
    (bound : next.history.channels.length < 2 ^ 32) (channels : Channels state) :
    Channels next := by
  cases step with
  | closed now reason _ =>
      rcases state.close_frame now reason with ⟨_, _, frame⟩
      rw [frame]
      exact channels.of_wires rfl
  | responded addr source payload =>
      rcases state.pushResponse_frame addr source payload with ⟨_, _, _, frame⟩
      rw [frame]
      exact channels.of_wires rfl
  | sighted peer via => exact channels.addrForPeer peer via
  | dialed peer key => exact channels.dialStandin peer key
  | channelRegistered peer wire _ => exact channels.registerChannel peer wire bound
  | channelDied id wire lost => exact absurd lost other
  | armed _ =>
      exact ⟨channels.counter, channels.issued, channels.registry, List.nil_subset _,
        channels.routed⟩
  | _ => exact channels.of_wires rfl

end Channels

theorem Channels.steps {task : Task} {state next : State P}
    (steps : StateSteps task state next) (other : task ≠ .lost)
    (bound : next.history.channels.length < 2 ^ 32) (channels : Channels state) :
    Channels next := by
  induction steps with
  | refl => exact channels
  | tail _ step induction =>
      have earlier := Nat.lt_of_le_of_lt step.recorded.length_le bound
      exact Channels.step step other bound (induction earlier)

/-! ## The receives -/

/-- What one step of the pump does to the channels and to the receives on them. -/
inductive PumpsChannels (pump : Pump) (state : State P) (pumped : Pumped P) : Prop
  | kept (task : Task) : task ≠ .lost → StateSteps task state pumped.1 →
      (∀ item ∈ pumped.2.1.channelRecvs, item ∈ pump.channelRecvs ∨
        item ∈ state.newChannels ∨
        ∃ entry, state.channels.get? item.1 = some entry ∧ entry.wire = item.2) →
      PumpsChannels pump state pumped
  | apart : pumped.1.wires = state.wires → pumped.2.1.channelRecvs = pump.channelRecvs →
      PumpsChannels pump state pumped
  | lost (id : UInt32) (wire : ChannelWire) : (id, wire) ∈ pump.channelRecvs →
      pumped.1 = state.channelDied id wire →
      pumped.2.1.channelRecvs.Sublist pump.channelRecvs → PumpsChannels pump state pumped

theorem PumpStep.channels {pump : Pump} {udp : Bool} {now : Instant} {state : State P}
    {pumped : Pumped P} (step : PumpStep pump udp now state pumped) :
    PumpsChannels pump state pumped := by
  have same : ∀ item ∈ pump.channelRecvs, item ∈ pump.channelRecvs ∨
      item ∈ state.newChannels ∨
      ∃ entry, state.channels.get? item.1 = some entry ∧ entry.wire = item.2 :=
    fun _ member => .inl member
  cases step with
  | drained fuel order next _ drained =>
      exact .kept .drain (by simp) (StateSteps.drain drained) same
  | armed _ =>
      refine .kept .arm (by simp) (.single (.armed rfl)) ?_
      intro item member
      exact (List.mem_append.mp member).imp_right .inl
  | relayDatagram index key conn datagram _ _ _ =>
      exact .kept .pump (by simp) (StateSteps.handleRelayDatagram _ _ _ _ _) same
  | relaySignal index key conn datagram _ _ _ =>
      exact .kept .signal (by simp) (Config.handleSignal_steps _ _ _ _) same
  | udpDatagram payload remote _ _ _ =>
      exact .kept .pump (by simp) (StateSteps.handleUdpDatagram _ _ _ _) same
  | channelMessage index id wire payload _ _ =>
      have rearmed : ∀ item ∈ rearm id (pump.channelRecvs.eraseIdx index)
          ((state.channels.get? id).map ChannelEntry.wire), item ∈ pump.channelRecvs ∨
          item ∈ state.newChannels ∨
          ∃ entry, state.channels.get? item.1 = some entry ∧ entry.wire = item.2 := by
        intro item member
        rcases rearm_mem member with old | ⟨rfl, found⟩
        · exact .inl (List.mem_of_mem_eraseIdx old)
        · exact .inr (.inr (Option.map_eq_some_iff.mp found))
      cases payload with
      | none => exact .kept .pump (by simp) .refl rearmed
      | some datagram =>
          exact .kept .pump (by simp) (StateSteps.handleChannelDatagram _ _ _ _) rearmed
  | channelLost index id wire _ armed =>
      exact .lost id wire (List.mem_of_getElem? armed) rfl (List.eraseIdx_sublist _ _)
  | joined relays channels recv _ _ sublist =>
      exact .kept .pump (by simp) .refl fun item member => .inl (sublist.subset member)
  | _ => exact .apart rfl rfl

/-- The channels of a configuration and the receives in flight, as long as no channel id
is issued twice. -/
def Config.Wired (config : Config P) : Prop :=
  config.state.history.channels.length < 2 ^ 32 → Channels config.state ∧
    config.pump.channelRecvs ⊆ config.state.history.channels.map receiveOf

theorem Config.Wired.pumped {config : Config P} (wired : config.Wired) {state : State P}
    {pump : Pump} {spawned : List Session}
    (step : PumpsChannels config.pump config.state (state, pump, spawned)) :
    ({ config with state, pump } : Config P).Wired := by
  intro bound
  dsimp only at bound ⊢
  cases step with
  | kept task other steps receives =>
      dsimp only at steps receives
      have grown := (StateSteps.recorded steps).map receiveOf
      rcases wired (Nat.lt_of_le_of_lt (StateSteps.recorded steps).length_le bound) with
        ⟨channels, receiving⟩
      refine ⟨Channels.steps steps other bound channels, ?_⟩
      intro item member
      apply grown.subset
      rcases receives item member with old | new | ⟨entry, found, wire⟩
      · exact receiving old
      · exact channels.armed new
      · rcases channels.registry with ⟨_, registry, _⟩
        exact List.mem_map.mpr ⟨(item.1, entry), registry.stored _ _ found,
          Prod.ext rfl wire⟩
  | apart same receives =>
      dsimp only at same receives
      have fields := same
      simp only [State.wires, Prod.mk.injEq] at fields
      rcases fields with ⟨_, _, _, _, _, registered, _⟩
      rw [registered] at bound ⊢
      rw [receives]
      exact ⟨(wired bound).1.of_wires same, (wired bound).2⟩
  | lost id wire armed equal sublist =>
      dsimp only at equal sublist
      subst equal
      rcases config.state.channelDied_frame id wire with ⟨_, _, frame⟩
      rw [frame] at bound
      rcases wired bound with ⟨channels, receiving⟩
      refine ⟨channels.died (receiving armed), ?_⟩
      rw [frame]
      exact List.Subset.trans sublist.subset receiving

theorem Config.Wired.moved {config next : Config P} (wired : config.Wired) {task : Task}
    (steps : StateSteps task config.state next.state) (other : task ≠ .lost)
    (receives : next.pump.channelRecvs = config.pump.channelRecvs) : next.Wired := by
  intro bound
  have recorded := StateSteps.recorded steps
  rcases wired (Nat.lt_of_le_of_lt recorded.length_le bound) with ⟨channels, receiving⟩
  rw [receives]
  exact ⟨Channels.steps steps other bound channels,
    List.Subset.trans receiving (recorded.map receiveOf).subset⟩

theorem dialTask_ne_lost (opened : Bool) : StateSteps.dialTask opened ≠ .lost := by
  cases opened <;> simp [StateSteps.dialTask]

theorem reachable_wired {config : Config P} (reached : (endpoint P).Reachable config) :
    config.Wired := by
  apply reached.invariant Config.Wired
  · rintro config ⟨noq, webrtc, udp, relay, clock, url, _, rfl⟩ _
    refine ⟨⟨rfl, ?_, ⟨[], Registry.empty, by simp⟩, List.Subset.refl _, ?_⟩,
      List.Subset.refl _⟩ <;> simp [Config.bind, State.registerRelay, State.new]
  · intro config action next wired _ stepped
    cases Config.step_move stepped with
    | advanced elapsed => exact wired
    | pumped state pump spawned step =>
        rcases Config.addSessions_frame spawned ({ config with state, pump } : Config P) with
          ⟨_, _, frame⟩
        rw [frame]
        exact wired.pumped step.channels
    | resumed id session after registration state _ found resumes =>
        exact wired.moved (StateSteps.resumes resumes) (by simp) rfl
    | called next _ step =>
        have steps := step.state
        rcases step.frame with ⟨state, _, _, _, _, _, rfl⟩
        exact wired.moved steps (dialTask_ne_lost _) rfl

end IrohEndpoint
