import IrohEndpoint.Channels
import IrohEndpoint.Signaling

/-! # Where replies go

The relay keys in routes, channel entries, signaling slots, sessions, pending dials and
receives are all keys of relays that were registered. A registered relay is in the pool
or has died, and the home relay is always in the pool. -/

namespace IrohEndpoint

variable {P : Platform}

/-! ## Keys in the state -/

def State.keyed (state : State P) :=
  (state.routes, state.channels, state.signaling, state.pendingUpgrades, state.relayKeys,
    state.newRelays, state.relayPool)

/-- Every relay key in the state satisfies `Known`. -/
structure Keyed (Known : UInt32 → Prop) (state : State P) : Prop where
  routes : ∀ addr key, state.routes.get? addr = some (.relay key) → Known key
  channels : ∀ id entry, state.channels.get? id = some entry → Known entry.fallbackRelay
  signaling : ∀ peer key, state.signaling.get? peer = some key → Known key
  upgrades : ∀ upgrade ∈ state.pendingUpgrades, Known upgrade.2
  keys : ∀ url key, state.relayKeys.get? url = some key → Known key
  newRelays : ∀ item ∈ state.newRelays, Known item.1
  pool : ∀ key conn, state.relayPool.get? key = some conn → Known key

namespace Keyed

variable {Known : UInt32 → Prop} {state next : State P}

private theorem of_keyed (keyed : Keyed Known state) (same : next.keyed = state.keyed) :
    Keyed Known next := by
  simp only [State.keyed, Prod.mk.injEq] at same
  rcases same with ⟨routes, channels, signaling, upgrades, keys, newRelays, pool⟩
  refine ⟨?_, ?_, ?_, ?_, ?_, ?_, ?_⟩
  · rw [routes]
    exact keyed.routes
  · rw [channels]
    exact keyed.channels
  · rw [signaling]
    exact keyed.signaling
  · rw [upgrades]
    exact keyed.upgrades
  · rw [keys]
    exact keyed.keys
  · rw [newRelays]
    exact keyed.newRelays
  · rw [pool]
    exact keyed.pool

private theorem mono {More : UInt32 → Prop} (keyed : Keyed Known state)
    (grown : ∀ key, Known key → More key) : Keyed More state where
  routes addr key routed := grown _ (keyed.routes addr key routed)
  channels id entry found := grown _ (keyed.channels id entry found)
  signaling peer key slot := grown _ (keyed.signaling peer key slot)
  upgrades upgrade member := grown _ (keyed.upgrades upgrade member)
  keys url key named := grown _ (keyed.keys url key named)
  newRelays item member := grown _ (keyed.newRelays item member)
  pool key conn found := grown _ (keyed.pool key conn found)

theorem setRelay (keyed : Keyed Known state) (addr : SocketAddr) {key : UInt32}
    (known : Known key) :
    Keyed Known { state with routes := state.routes.set addr (.relay key) } := by
  refine { keyed with routes := ?_ }
  intro other stored routed
  rw [Table.get?_set] at routed
  split at routed
  · cases routed
    exact known
  · exact keyed.routes other stored routed

theorem setChannel (keyed : Keyed Known state) (addr : SocketAddr) (id : UInt32) :
    Keyed Known { state with routes := state.routes.set addr (.channel id) } := by
  refine { keyed with routes := ?_ }
  intro other stored routed
  rw [Table.get?_set] at routed
  split at routed
  · cases routed
  · exact keyed.routes other stored routed

theorem addrForPeer (keyed : Keyed Known state) (peer : EndpointId) {via : UInt32}
    (known : Known via) : Keyed Known (state.addrForPeer peer via).2 := by
  rw [State.addrForPeer]
  split
  · exact keyed
  · exact (keyed.setRelay _ known).of_keyed rfl

theorem dialRemote (keyed : Keyed Known state) (dial : Dial) {key : UInt32}
    (known : Known key) : Keyed Known (state.dialRemote dial key).2 := by
  rw [State.dialRemote]
  split
  · exact keyed
  · rw [State.dialStandin]
    dsimp only
    split
    · exact (keyed.addrForPeer dial.peer known).setRelay _ known
    · exact keyed.addrForPeer dial.peer known

private theorem setSlot (keyed : Keyed Known state) (peer : EndpointId) {key : UInt32}
    (known : Known key) :
    Keyed Known { state with signaling := state.signaling.set peer key } := by
  refine { keyed with signaling := ?_ }
  intro other stored slot
  rw [Table.get?_set] at slot
  split at slot
  · cases slot
    exact known
  · exact keyed.signaling other stored slot

theorem endSignaling (keyed : Keyed Known state) (peer : EndpointId) :
    Keyed Known (state.endSignaling peer) := by
  refine { keyed with signaling := ?_ }
  intro other stored slot
  rw [State.endSignaling, Table.get?_remove] at slot
  split at slot
  · cases slot
  · exact keyed.signaling other stored slot

theorem quiet (keyed : Keyed Known state) (quiet : Quiet state next) : Keyed Known next := by
  rcases quiet.frame with ⟨_, _, rfl⟩
  exact keyed.of_keyed rfl

theorem registerChannel (keyed : Keyed Known state) (home : Known homeRelay)
    (peer : EndpointId) (wire : ChannelWire) :
    Keyed Known (state.registerChannel peer wire).2 := by
  rcases registerChannel_cases state peer wire with
    ⟨_, refused⟩ | ⟨entry, _, made, registered⟩
  · rw [refused]
    exact keyed.of_keyed rfl
  · have known : Known entry.fallbackRelay := by
      rw [made]
      cases slot : state.signalingRelay peer with
      | none => exact home
      | some key => exact keyed.signaling peer key slot
    have added : Keyed Known (state.withChannel entry) := by
      refine { keyed with channels := ?_ }
      intro id other found
      rw [State.withChannel, Table.get?_set] at found
      split at found
      · cases found
        exact known
      · exact keyed.channels id other found
    rw [registered]
    exact (added.addrForPeer peer known).setChannel _ _

theorem register (keyed : Keyed Known state) (home : Known homeRelay) (session : Session)
    (wire : ChannelWire) : Keyed Known (session.register state wire).2.2 := by
  have registered := keyed.registerChannel home session.peer wire
  rw [Session.register]
  split <;> rename_i answer <;> rw [answer] at registered <;> exact registered

theorem channelDied (keyed : Keyed Known state) (id : UInt32) (wire : ChannelWire) :
    Keyed Known (state.channelDied id wire) := by
  have removed : Keyed Known { state with channels := state.channels.remove id } := by
    refine { keyed with channels := ?_ }
    intro other entry found
    rw [Table.get?_remove] at found
    split at found
    · cases found
    · exact keyed.channels other entry found
  have retired : Keyed Known (state.retireChannel id) := by
    rcases state.retireChannel_cases id with
      ⟨_, same⟩ | ⟨entry, routes, found, equal, rfl | ⟨addr, _, rfl⟩, _⟩
    · rw [same]
      exact keyed
    · rw [equal]
      exact removed
    · rw [equal]
      exact removed.setRelay addr (keyed.channels id entry found)
  exact retired.of_keyed rfl

theorem handleDatagram (keyed : Keyed Known state) (now : Instant) (addr : SocketAddr)
    (source : Option EndpointId) (payload : Bytes) (origin : Origin) :
    Keyed Known (state.handleDatagram now addr source payload origin) := by
  rcases state.handleDatagram_frame now addr source payload origin with
    ⟨_, _, _, _, _, _, frame⟩
  rw [frame]
  exact keyed.of_keyed rfl

theorem handleSignal (keyed : Keyed Known state) {via : UInt32} (known : Known via)
    (source : EndpointId) (payload : Bytes) :
    Keyed Known (state.handleSignal via source payload).2 := by
  rw [State.handleSignal]
  split
  · exact keyed
  · dsimp only
    split
    · exact (keyed.setSlot source known).of_keyed rfl
    · exact keyed.of_keyed rfl

theorem registerRelay (keyed : Keyed Known state) {url : String} (conn : RelayConn)
    (known : Known state.nextRelayKey) : Keyed Known (state.registerRelay url conn).2 := by
  refine ⟨keyed.routes, keyed.channels, keyed.signaling, keyed.upgrades, ?_, ?_, ?_⟩
  · intro name key named
    rw [State.registerRelay, Table.get?_set] at named
    split at named
    · cases named
      exact known
    · exact keyed.keys name key named
  · intro item member
    rcases List.mem_append.mp member with old | new
    · exact keyed.newRelays item old
    · rw [List.mem_singleton] at new
      rw [new]
      exact known
  · intro key other found
    rw [State.registerRelay, Table.get?_set] at found
    split at found
    · rename_i same
      rw [same]
      exact known
    · exact keyed.pool key other found

theorem removeRelay (keyed : Keyed Known state) (key : UInt32) (conn : RelayConn) :
    Keyed Known (state.removeRelay key conn) := by
  refine { keyed with pool := ?_ }
  intro other stored found
  rw [State.removeRelay, Table.get?_remove] at found
  split at found
  · cases found
  · exact keyed.pool other stored found

theorem handleChannelDatagram (keyed : Keyed Known state) (now : Instant) (id : UInt32)
    (payload : Bytes) : Keyed Known (state.handleChannelDatagram now id payload) := by
  rw [State.handleChannelDatagram]
  split
  · exact keyed
  · rename_i entry found
    exact (keyed.addrForPeer entry.peer (keyed.channels id entry found)).handleDatagram
      now _ _ payload _

/-- A dial only writes keys that it holds. -/
theorem dialing {peer : EndpointId} {keys : List UInt32} {result : Connecting × State P}
    (dialing : Dialing peer keys state result) (keyed : Keyed Known state)
    (home : Known homeRelay) (held : ∀ key ∈ keys, Known key) :
    Keyed Known result.2 ∧
      ∀ phase, result.1 = .suspended phase → ∀ key ∈ phase.keys, Known key := by
  induction dialing with
  | failed keys state error => exact ⟨keyed, by rintro phase ⟨⟩⟩
  | waiting keys state phase _ _ within _ =>
      refine ⟨keyed, ?_⟩
      rintro other ⟨⟩ key member
      exact held key (within member)
  | claimed keys state phase url _ _ _ _ within _ =>
      refine ⟨keyed.of_keyed rfl, ?_⟩
      rintro other ⟨⟩ key member
      exact held key (within member)
  | ensured keys state url key result named _ induction =>
      refine induction (keyed.of_keyed rfl) ?_
      intro other member
      rcases List.mem_cons.mp member with rfl | old
      · exact keyed.keys _ _ named
      · exact held other old
  | rejected keys state dial dialKey noq error member =>
      exact ⟨(keyed.dialRemote dial (held dialKey member)).of_keyed rfl, by rintro phase ⟨⟩⟩
  | dialed keys state inserted next dial dialKey noq handle conn upgrades member within _ _ _
      insertion queueing =>
      have remote := keyed.dialRemote dial (held dialKey member)
      have grown : Keyed Known inserted := by
        rw [insertion]
        exact remote.of_keyed rfl
      subst queueing
      refine ⟨{ grown with upgrades := ?_ }, ?_⟩
      · intro upgrade listed
        rcases List.mem_append.mp listed with old | new
        · exact grown.upgrades upgrade old
        · exact held upgrade.2 (within upgrade new).2
      · rintro phase ⟨⟩ key member
        rw [List.mem_singleton.mp member]
        exact home

theorem resolution {opened : Bool} {claim : Option String} {keys : List UInt32}
    (resolution : Resolution opened claim state keys next) (keyed : Keyed Known state)
    (fresh : ∀ key ∈ keys, Known key) : Keyed Known next := by
  cases resolution with
  | unclaimed _ => exact keyed
  | failed url _ => exact keyed.of_keyed rfl
  | registered url conn _ _ _ =>
      have released : Keyed Known (state.release url) := keyed.of_keyed rfl
      exact (released.registerRelay conn (fresh _ List.mem_cons_self)).of_keyed rfl

theorem resumes {session : Session} {now : Instant} {wire : ChannelWire} {resumed : Resumed P}
    (resumes : session.Resumes now wire state resumed) (keyed : Keyed Known state)
    (home : Known homeRelay) (via : Known session.via) :
    Keyed Known resumed.2.2 ∧ resumed.1.via = session.via := by
  cases resumes with
  | refused error _ _ _ => exact ⟨keyed, rfl⟩
  | claimed _ _ _ => exact ⟨keyed.setSlot session.peer via, rfl⟩
  | claimedFailed error _ _ _ =>
      exact ⟨(keyed.setSlot session.peer via).endSignaling session.peer, rfl⟩
  | continued after next _ _ same _ _ quiet => exact ⟨keyed.quiet quiet, same⟩
  | failed started next error _ quiet =>
      exact ⟨(keyed.quiet quiet).endSignaling session.peer, rfl⟩
  | upgraded _ _ => exact ⟨(keyed.endSignaling session.peer).register home session wire, rfl⟩
  | answered _ _ => exact ⟨(keyed.register home session wire).endSignaling session.peer, rfl⟩

theorem pumped {pump : Pump} {udp : Bool} {now : Instant} {pumped : Pumped P}
    (step : PumpStep pump udp now state pumped) (keyed : Keyed Known state)
    (receives : ∀ item ∈ pump.relayRecvs, Known item.1) :
    Keyed Known pumped.1 ∧ ∀ session ∈ pumped.2.2, Known session.via := by
  cases step with
  | drained fuel order next _ drained =>
      rcases State.drain_spec drained with ⟨io, _, equal⟩
      refine ⟨?_, by simp⟩
      dsimp only
      rw [equal]
      exact keyed.of_keyed rfl
  | armed _ =>
      refine ⟨{ keyed with newRelays := by simp, upgrades := by simp }, ?_⟩
      intro session member
      rcases List.mem_map.mp member with ⟨upgrade, queued, rfl⟩
      exact keyed.upgrades upgrade queued
  | relayDatagram index key conn datagram _ armed _ =>
      have known := receives _ (List.mem_of_getElem? armed)
      exact ⟨(keyed.addrForPeer datagram.source known).handleDatagram now _ _ _ _, by simp⟩
  | relaySignal index key conn datagram _ armed _ =>
      have known := receives _ (List.mem_of_getElem? armed)
      refine ⟨keyed.handleSignal known datagram.source _, ?_⟩
      intro session member
      rcases handleSignal_cases state key datagram.source (datagram.payload.drop 1) with
        ⟨none, _⟩ | ⟨_, answerer, _⟩
      · rw [none] at member
        cases member
      · rw [answerer, List.mem_singleton] at member
        rw [member]
        exact known
  | relayLost index key conn _ _ _ => exact ⟨keyed.removeRelay key conn, by simp⟩
  | udpDatagram payload remote _ _ _ =>
      exact ⟨keyed.handleDatagram now remote none payload _, by simp⟩
  | channelMessage index id wire payload _ _ =>
      cases payload with
      | none => exact ⟨keyed, by simp⟩
      | some datagram => exact ⟨keyed.handleChannelDatagram now id datagram, by simp⟩
  | channelLost index id wire _ _ => exact ⟨keyed.channelDied id wire, by simp⟩
  | _ => exact ⟨keyed.of_keyed rfl, by simp⟩

end Keyed

/-! ## Keys in a configuration -/

def State.Issued (state : State P) (key : UInt32) : Prop :=
  ∃ conn, (key, conn) ∈ state.history.relays

structure Config.Keyed (config : Config P) : Prop where
  home : config.state.Issued homeRelay
  state : IrohEndpoint.Keyed config.state.Issued config.state
  sessions : ∀ id session, config.sessions.get? id = some session →
    config.state.Issued session.via
  dials : ∀ id addr phase, config.calls.get? id = some (.connect addr phase) →
    ∀ key ∈ phase.keys, config.state.Issued key
  receives : ∀ item ∈ config.pump.relayRecvs, config.state.Issued item.1

namespace Config.Keyed

variable {config next : Config P}

theorem initially (noq : P.Endpoint) (webrtc udp : Bool) (relay : String) (clock : Instant) :
    (Config.bind noq webrtc udp relay clock).Keyed := by
  have home : (Config.bind noq webrtc udp relay clock).state.Issued homeRelay :=
    ⟨⟨0, relay⟩, List.mem_cons_self⟩
  have empty : IrohEndpoint.Keyed
      (Config.bind noq webrtc udp relay clock).state.Issued (State.new noq webrtc) := by
    refine ⟨?_, ?_, ?_, ?_, ?_, ?_, ?_⟩ <;> simp [State.new]
  refine ⟨home, empty.registerRelay ⟨0, relay⟩ home, ?_, ?_, ?_⟩ <;> simp [Config.bind]

private theorem issued_mono {state after : State P}
    (grown : state.history.relays ⊆ after.history.relays)
    (key : UInt32) (issued : state.Issued key) : after.Issued key := by
  rcases issued with ⟨conn, member⟩
  exact ⟨conn, grown member⟩

theorem pumped (keyed : config.Keyed) {state : State P} {pump : Pump} {spawned : List Session}
    (step : PumpStep config.pump config.udp config.clock config.state (state, pump, spawned)) :
    (({ config with state, pump } : Config P).addSessions spawned).Keyed := by
  have registered : state.history.relays = config.state.history.relays ∧
      ∀ item ∈ pump.relayRecvs, config.state.Issued item.1 := by
    cases step.relays with
    | kept same receiving =>
        have fields := same.1
        simp only [State.pool, Prod.mk.injEq] at fields
        refine ⟨fields.2.2.2.2.1, ?_⟩
        intro item member
        rcases receiving item member with old | stored
        · exact keyed.receives item old
        · exact keyed.state.pool item.1 item.2 stored
    | armed equal receiving =>
        dsimp only at equal receiving
        refine ⟨by rw [equal], ?_⟩
        rw [receiving]
        intro item member
        rcases List.mem_append.mp member with old | new
        · exact keyed.receives item old
        · exact keyed.state.newRelays item new
    | lost key conn _ _ equal sublist =>
        dsimp only at equal
        exact ⟨by rw [equal]; rfl, fun item member => keyed.receives item (sublist.subset member)⟩
  rcases registered with ⟨same, receives⟩
  have grown : ∀ key, config.state.Issued key → state.Issued key :=
    issued_mono (same ▸ List.Subset.refl _)
  rcases keyed.state.pumped step keyed.receives with ⟨known, offers⟩
  have sessions : ∀ id session,
      (({ config with state, pump } : Config P).addSessions spawned).sessions.get? id =
        some session → config.sessions.get? id = some session ∨ session ∈ spawned := by
    intro id session found
    exact addSessions_sessions spawned ({ config with state, pump } : Config P) found
  rcases Config.addSessions_frame spawned ({ config with state, pump } : Config P) with
    ⟨_, _, frame⟩
  rw [frame] at sessions ⊢
  refine ⟨grown _ keyed.home, known.mono grown, ?_, ?_, fun item member =>
    grown _ (receives item member)⟩
  · intro id session found
    rcases sessions id session found with old | new
    · exact grown _ (keyed.sessions id session old)
    · exact grown _ (offers session new)
  · intro id addr phase found key member
    exact grown _ (keyed.dials id addr phase found key member)

theorem resumed (keyed : config.Keyed) {id : Nat} {session after : Session}
    {registration : Option Registration} {state : State P}
    (found : config.sessions.get? id = some session)
    (resumes : session.Resumes config.clock ⟨config.fresh⟩ config.state
      (after, registration, state)) :
    ({ config with
      state
      sessions := config.sessions.set id after
      registrations := config.registrations ++ registration.toList
      fresh := config.fresh + 1 } : Config P).Keyed := by
  have fields := (StateSteps.pool (StateSteps.resumes resumes) rfl).1
  simp only [State.pool, Prod.mk.injEq] at fields
  have grown : ∀ key, config.state.Issued key → state.Issued key :=
    issued_mono (fields.2.2.2.2.1 ▸ List.Subset.refl _)
  have via := keyed.sessions id session found
  rcases keyed.state.resumes resumes keyed.home via with ⟨known, same⟩
  refine ⟨grown _ keyed.home, known.mono grown, ?_, ?_, fun item member =>
    grown _ (keyed.receives item member)⟩
  · intro other rival lookup
    rw [Table.get?_set] at lookup
    split at lookup
    · cases lookup
      exact grown _ (same ▸ via)
    · exact grown _ (keyed.sessions other rival lookup)
  · intro other addr phase lookup key member
    exact grown _ (keyed.dials other addr phase lookup key member)

theorem dialing (keyed : config.Keyed) {opened : Bool} {id fresh : Nat}
    {addr : EndpointAddr} {peer : EndpointId} {claim : Option String}
    {keys more : List UInt32} {between : State P} {progress : Connecting × State P}
    (dials : config.Dials id addr peer claim keys)
    (resolution : Resolution opened claim config.state more between)
    (dialing : Dialing peer (more ++ keys) between progress) :
    (({ config with fresh } : Config P).connecting id addr progress).Keyed := by
  have grown : ∀ key, config.state.Issued key → progress.2.Issued key := by
    refine issued_mono ?_
    rw [dialing.relays]
    exact resolution.relays.1
  have opens : ∀ key ∈ more, progress.2.Issued key := by
    intro key member
    rw [State.Issued, dialing.relays]
    cases resolution with
    | unclaimed _ => cases member
    | failed url _ => cases member
    | registered url conn _ _ _ =>
        rw [List.mem_singleton.mp member]
        exact ⟨conn, List.mem_append_right _ List.mem_cons_self⟩
  have held : ∀ key ∈ keys, config.state.Issued key := by
    cases dials with
    | invoked peer _ _ =>
        intro key member
        rw [List.mem_singleton.mp member]
        exact keyed.home
    | resumed phase pending => exact keyed.dials id addr phase pending
  have start := (keyed.state.mono grown).resolution resolution opens
  have hold : ∀ key ∈ more ++ keys, progress.2.Issued key := by
    intro key member
    rcases List.mem_append.mp member with new | old
    · exact opens key new
    · exact grown key (held key old)
  rcases start.dialing dialing (grown _ keyed.home) hold with ⟨known, suspended⟩
  have calls : ∀ other there phase,
      (({ config with fresh } : Config P).connecting id addr progress).calls.get? other =
        some (.connect there phase) → ∀ key ∈ phase.keys, progress.2.Issued key := by
    intro other there phase found
    rcases Config.connecting_calls _ id addr progress found with
      ⟨_, own, pending, same⟩ | ⟨_, old⟩
    · cases same
      exact suspended phase pending
    · exact fun key member => grown key (keyed.dials other there phase old key member)
  rcases Config.connecting_frame ({ config with fresh } : Config P) id addr progress with
    ⟨_, _, _, _, frame⟩
  rw [frame] at calls ⊢
  exact ⟨grown _ keyed.home, known, fun id session found =>
    grown _ (keyed.sessions id session found), calls, fun item member =>
    grown _ (keyed.receives item member)⟩

end Config.Keyed

private theorem reachable_keyed {config : Config P} (reached : (endpoint P).Reachable config) :
    config.Keyed := by
  apply reached.invariant Config.Keyed
  · rintro config ⟨noq, webrtc, udp, relay, clock, url, _, rfl⟩
    exact Config.Keyed.initially noq webrtc udp relay clock
  · intro config action next keyed _ stepped
    cases Config.step_move stepped with
    | advanced elapsed =>
        exact ⟨keyed.home, keyed.state, keyed.sessions, keyed.dials, keyed.receives⟩
    | pumped state pump spawned step => exact keyed.pumped step
    | resumed id session after registration state _ found resumes =>
        exact keyed.resumed found resumes
    | called next _ step =>
        rcases step.dials with
          ⟨id, fresh, addr, peer, claim, keys, more, between, progress, dials, resolution,
            dialing, rfl⟩ | ⟨undialed, conns, queue, closed, closedAt, same⟩
        · exact keyed.dialing dials resolution dialing
        · rcases step.frame with ⟨state, _, _, _, _, _, rfl⟩
          dsimp only at same
          subst same
          exact ⟨keyed.home, keyed.state.of_keyed rfl, keyed.sessions,
            fun id addr phase found => keyed.dials id addr phase (undialed id addr phase found),
            keyed.receives⟩

/-! ## Live and dead relays -/

/-- The fields of the state that say which relays serve it and which standins are
routed. -/
def State.serving (state : State P) :=
  (state.relayPool, state.history.relays, state.history.retiredRelays, state.peerToAddr,
    state.addrToPeer, state.routes)

/-- Every registered relay is in the pool or has died, the home relay is in the pool,
and every standin has an owner and a route. -/
structure Served (state : State P) : Prop where
  home : (state.relayPool.get? homeRelay).isSome = true
  relays : ∀ key, state.Issued key → (state.relayPool.get? key).isSome = true ∨
    ∃ conn, (key, conn) ∈ state.history.retiredRelays
  standins : ∀ peer addr, state.peerToAddr.get? peer = some addr →
    (state.addrToPeer.get? addr).isSome = true ∧ (state.routes.get? addr).isSome = true

namespace Served

variable {state next : State P}

private theorem of_serving (served : Served state) (same : next.serving = state.serving) :
    Served next := by
  simp only [State.serving, Prod.mk.injEq] at same
  rcases same with ⟨pool, registered, retired, peers, addrs, routes⟩
  refine ⟨?_, ?_, ?_⟩
  · rw [pool]
    exact served.home
  · rintro key ⟨conn, member⟩
    rw [pool, retired]
    exact served.relays key ⟨conn, registered ▸ member⟩
  · rw [peers, addrs, routes]
    exact served.standins

theorem setRoute (served : Served state) (addr : SocketAddr) (wire : RouteWire) :
    Served { state with routes := state.routes.set addr wire } := by
  refine { served with standins := ?_ }
  intro peer standin owned
  rcases served.standins peer standin owned with ⟨owner, routed⟩
  refine ⟨owner, ?_⟩
  rw [Table.get?_set]
  split
  · rfl
  · exact routed

theorem addrForPeer (served : Served state) (peer : EndpointId) (via : UInt32) :
    Served (state.addrForPeer peer via).2 := by
  rw [State.addrForPeer]
  split
  · exact served
  · refine ⟨served.home, served.relays, ?_⟩
    intro other standin owned
    rw [Table.get?_set, Table.get?_set]
    split
    · exact ⟨rfl, rfl⟩
    · rename_i apart
      rw [Table.get?_set] at owned
      split at owned
      · cases owned
        exact absurd rfl apart
      · exact served.standins other standin owned

theorem dialStandin (served : Served state) (peer : EndpointId) (key : UInt32) :
    Served (state.dialStandin peer key).2 := by
  rw [State.dialStandin]
  dsimp only
  split
  · exact (served.addrForPeer peer key).setRoute _ _
  · exact served.addrForPeer peer key

theorem channelDied (served : Served state) (id : UInt32) (wire : ChannelWire) :
    Served (state.channelDied id wire) := by
  have retired : Served (state.retireChannel id) := by
    rcases state.retireChannel_cases id with
      ⟨_, same⟩ | ⟨entry, routes, _, equal, rfl | ⟨addr, _, rfl⟩, _⟩
    · rw [same]
      exact served
    · rw [equal]
      exact served.of_serving rfl
    · rw [equal]
      exact (served.setRoute addr _).of_serving rfl
  exact retired.of_serving rfl

theorem registerRelay (served : Served state) (url : String) (conn : RelayConn) :
    Served (state.registerRelay url conn).2 := by
  refine ⟨?_, ?_, served.standins⟩
  · simp only [State.registerRelay, Table.get?_set]
    split
    · rfl
    · exact served.home
  · rintro key ⟨other, member⟩
    simp only [State.registerRelay, Table.get?_set] at member ⊢
    split
    · exact .inl rfl
    · rename_i apart
      rcases List.mem_append.mp member with old | new
      · exact served.relays key ⟨other, old⟩
      · cases List.mem_singleton.mp new
        exact absurd rfl apart

theorem removeRelay (served : Served state) {key : UInt32} (conn : RelayConn)
    (foreign : key ≠ homeRelay) : Served (state.removeRelay key conn) := by
  refine ⟨?_, ?_, served.standins⟩
  · rw [State.removeRelay, Table.get?_remove, if_neg foreign.symm]
    exact served.home
  · intro other issued
    rw [State.removeRelay, Table.get?_remove]
    split
    · rename_i same
      exact .inr ⟨conn, by simp [same]⟩
    · rcases served.relays other issued with live | ⟨dead, member⟩
      · exact .inl live
      · exact .inr ⟨dead, List.mem_append_left _ member⟩

theorem step {task : Task} (step : StateStep task state next) (served : Served state) :
    Served next := by
  cases step with
  | closed now reason _ =>
      rcases state.close_frame now reason with ⟨_, _, frame⟩
      rw [frame]
      exact served.of_serving rfl
  | responded addr source payload =>
      rcases state.pushResponse_frame addr source payload with ⟨_, _, _, frame⟩
      rw [frame]
      exact served.of_serving rfl
  | sighted peer via => exact served.addrForPeer peer via
  | dialed peer key => exact served.dialStandin peer key
  | channelRegistered peer wire _ =>
      rcases registerChannel_cases state peer wire with
        ⟨_, refused⟩ | ⟨entry, _, _, registered⟩
      · rw [refused]
        exact served.of_serving rfl
      · have added : Served (state.withChannel entry) := served.of_serving rfl
        rw [registered]
        exact (added.addrForPeer peer entry.fallbackRelay).setRoute _ _
  | channelDied id wire _ => exact served.channelDied id wire
  | relayRegistered url conn _ _ => exact served.registerRelay url conn
  | relayRemoved key conn _ foreign => exact served.removeRelay conn foreign
  | _ => exact served.of_serving rfl

end Served

private theorem reachable_served {config : Config P} (reached : (endpoint P).Reachable config) :
    Served config.state := by
  apply reachable_state reached Served
  · intro noq webrtc relay
    refine ⟨rfl, ?_, ?_⟩
    · rintro key ⟨conn, member⟩
      cases List.mem_singleton.mp member
      exact .inl rfl
    · simp [State.registerRelay, State.new]
  · intro task before after step served
    exact Served.step step served

/-! ## Replies -/

namespace State

/-- The pump has a connection to send the wire's packets on. -/
def Carries (state : State P) : RouteWire → Prop
  | .relay key => (state.relayPool.get? key).isSome = true
  | .channel id => (state.channels.get? id).isSome = true

def Starves (state : State P) : RouteWire → Prop
  | .relay key => key ≠ homeRelay ∧ ∃ conn, (key, conn) ∈ state.history.retiredRelays
  | .channel _ => False

def Queued (state : State P) (packet : Bytes) : RouteWire → Prop
  | .relay key => ∃ peer, (key, peer, packet) ∈ state.relayOutbound
  | .channel id => (id, packet) ∈ state.channelOutbound

/-- The peer's standin is routed to the wire, and whatever noq transmits to it is queued
there. -/
def Answers (state : State P) (peer : EndpointId) (wire : RouteWire) : Prop :=
  ∃ addr, state.peerToAddr.get? peer = some addr ∧ state.routes.get? addr = some wire ∧
    ∀ transmit : Transmit, transmit.destination = addr →
      ∃ after, state.routeTransmit transmit = .ok after ∧
        after.Queued transmit.datagram wire

end State

private theorem routeTransmit_queued {state : State P} {transmit : Transmit} {wire : RouteWire}
    (owned : (state.addrToPeer.get? transmit.destination).isSome = true)
    (routed : state.routes.get? transmit.destination = some wire) :
    ∃ after, state.routeTransmit transmit = .ok after ∧
      after.Queued transmit.datagram wire := by
  rcases Option.isSome_iff_exists.mp owned with ⟨peer, owner⟩
  cases wire with
  | relay key =>
      refine ⟨_, by rw [State.routeTransmit, routed]; dsimp only; rw [owner], peer, ?_⟩
      simp
  | channel id =>
      refine ⟨_, by rw [State.routeTransmit, routed], ?_⟩
      simp [State.Queued]

private theorem route_served {state : State P} {addr : SocketAddr} {wire : RouteWire}
    (served : Served state) (keyed : Keyed state.Issued state) (channels : Channels state)
    (routed : state.routes.get? addr = some wire) :
    state.Carries wire ∨ state.Starves wire := by
  cases wire with
  | channel id =>
      rcases channels.routed addr id routed with ⟨entry, found, _⟩
      exact .inl (by rw [State.Carries, found]; rfl)
  | relay key =>
      by_cases pooled : (state.relayPool.get? key).isSome = true
      · exact .inl pooled
      · refine .inr ⟨?_, ?_⟩
        · rintro rfl
          exact pooled served.home
        · exact (served.relays key (keyed.routes addr key routed)).resolve_left pooled

/-- After a datagram from a peer through a pooled relay, the peer is answered on a wire
that the pump can send on, unless that is a foreign relay that has died: a drain queues
there every packet that the connections, a newly accepted one included, have for the peer.
A peer that was not seen before is answered through the relay it spoke through. -/
theorem replies_reach_the_peer {config : Config P} (reached : (endpoint P).Reachable config)
    (bounded : config.state.history.channels.length < 2 ^ 32) (now : Instant) {via : UInt32}
    (pooled : (config.state.relayPool.get? via).isSome = true) (peer : EndpointId)
    (payload : Bytes) :
    ∃ wire, (config.state.handleRelayDatagram now via peer payload).Answers peer wire ∧
      ((config.state.handleRelayDatagram now via peer payload).Carries wire ∨
        (config.state.handleRelayDatagram now via peer payload).Starves wire) ∧
      (config.state.peerToAddr.get? peer = none → wire = .relay via) ∧
      ∀ fuel later order next,
        (config.state.handleRelayDatagram now via peer payload).drain fuel later order =
          .ok next →
        ∃ emitted items,
          (config.state.handleRelayDatagram now via peer payload).DrainOf later order emitted
            items next ∧
          List.Forall₂ (fun transmit item =>
            (config.state.handleRelayDatagram now via peer payload).peerToAddr.get? peer =
              some transmit.destination →
            item.wire? = some wire ∧ item.datagram = transmit.datagram)
            (order.flatMap emitted) items := by
  have keyed := reachable_keyed reached
  have known : config.state.Issued via := by
    rcases Option.isSome_iff_exists.mp pooled with ⟨conn, found⟩
    exact keyed.state.pool via conn found
  have served := (reachable_served reached).addrForPeer peer via
  have channels := (reachable_wired reached bounded).1.addrForPeer peer via
  have keys := keyed.state.addrForPeer peer known
  have standin := Channels.addrForPeer_standin config.state peer via
  have fresh : config.state.peerToAddr.get? peer = none →
      (config.state.addrForPeer peer via).2.routes.get? (config.state.addrForPeer peer via).1 =
        some (.relay via) := by
    intro unseen
    simp [State.addrForPeer, unseen]
  rw [State.handleRelayDatagram]
  generalize seen : config.state.addrForPeer peer via = sighting at *
  rcases sighting with ⟨addr, sighted⟩
  have issued : sighted.Issued = config.state.Issued := by
    rcases config.state.addrForPeer_frame peer via with ⟨_, _, _, _, frame⟩
    rw [seen] at frame
    dsimp only at frame
    rw [frame]
    rfl
  rw [← issued] at keys
  rcases served.standins peer addr standin with ⟨owned, hasRoute⟩
  rcases Option.isSome_iff_exists.mp hasRoute with ⟨wire, routed⟩
  have carried := route_served served keys channels routed
  -- the datagram itself leaves the tables as the sighting left them
  rcases sighted.handleDatagram_frame now addr (some peer) payload (.relay via peer) with
    ⟨_, _, _, _, _, _, frame⟩
  dsimp only
  rw [frame]
  refine ⟨wire, ⟨addr, standin, routed, ?_⟩, ?_, ?_, ?_⟩
  · rintro transmit rfl
    exact routeTransmit_queued owned routed
  · cases wire <;> exact carried
  · intro unseen
    exact Option.some.inj (routed.symm.trans (fresh unseen))
  · intro fuel later order next ran
    rcases State.drain_sends ran with ⟨emitted, items, drained⟩
    refine ⟨emitted, items, drained, drained.each.imp ?_⟩
    intro transmit item queued destined
    rcases State.outbound_wire queued with ⟨same, datagram⟩
    cases Option.some.inj (standin.symm.trans destined)
    exact ⟨same.trans routed, datagram⟩

/-- A peer speaks through the home relay and is answered there. -/
theorem replies_reach_the_peer_home :
    ∃ config : Config Slab.platform, (endpoint Slab.platform).Reachable config ∧
      (config.state.handleRelayDatagram 0 homeRelay (Slab.peer 7) []).Answers (Slab.peer 7)
        (.relay homeRelay) := by
  have passed : (endpoint Slab.platform).runs (fun _ _ => true) (Slab.bound true false)
      (Slab.turn [] 0)
      (fun config => decide (config.state.history.channels.length < 2 ^ 32) &&
        (config.state.relayPool.get? homeRelay).isSome &&
        decide (config.state.peerToAddr.get? (Slab.peer 7) = none)) = true := by
    decide +kernel
  rcases System.Reachable.of_runs (Slab.bound_initial true false) passed with
    ⟨config, reached, tested⟩
  simp only [Bool.and_eq_true, decide_eq_true_eq] at tested
  rcases replies_reach_the_peer reached tested.1.1 0 tested.1.2 (Slab.peer 7) [] with
    ⟨wire, answers, _, fresh, _⟩
  rw [fresh tested.2] at answers
  exact ⟨config, reached, answers⟩

/-- A peer is dialed through another relay, which dies. When the peer then speaks through
the home relay, it is still answered through the dead one. -/
theorem replies_reach_the_peer_starved :
    ∃ config : Config Slab.platform, (endpoint Slab.platform).Reachable config ∧
      (config.state.relayPool.get? homeRelay).isSome = true ∧
      ∃ addr next, next = config.state.handleRelayDatagram 0 homeRelay (Slab.peer 7) [] ∧
        next.peerToAddr.get? (Slab.peer 7) = some addr ∧
        next.routes.get? addr = some (.relay 1) ∧ ¬ next.Carries (.relay 1) := by
  have passed : (endpoint Slab.platform).runs (fun _ _ => true) (Slab.bound true false)
      (List.flatten [dialFar, [.pump (.relayEvent 1 (.error "reset"))], Slab.turn [0] 0])
      (fun config => (config.state.relayPool.get? homeRelay).isSome &&
        match config.state.handleRelayDatagram 0 homeRelay (Slab.peer 7) [] with
        | next => (next.peerToAddr.get? (Slab.peer 7)).any fun addr =>
            decide (next.routes.get? addr = some (.relay 1)) &&
            !(next.relayPool.get? 1).isSome) = true := by
    decide +kernel
  rcases System.Reachable.of_runs (Slab.bound_initial true false) passed with
    ⟨config, reached, tested⟩
  simp only [Bool.and_eq_true, decide_eq_true_eq, Option.any_eq_true, Bool.not_eq_true'] at tested
  rcases tested with ⟨pooled, addr, standin, routed, dead⟩
  exact ⟨config, reached, pooled, addr, _, rfl, standin, routed, by simp [State.Carries, dead]⟩

end IrohEndpoint
