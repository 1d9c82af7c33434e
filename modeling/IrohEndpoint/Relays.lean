import IrohEndpoint.Foundation.Registry
import IrohEndpoint.Routing

/-! # The relay pool

The pool, the keys by URL and the opens in flight are three views of the same relays,
updated by different tasks. A URL is opened by one call at a time and registered once; a
relay that dies leaves the pool, and its URL keeps its key. -/

namespace IrohEndpoint

variable {P : Platform}

/-! ## Who changes the pool -/

/-- The fields of the state that say which relays there are. -/
def State.pool (state : State P) :=
  (state.relayPool, state.relayKeys, state.newRelays, state.nextRelayKey,
    state.history.relays, state.history.retiredRelays, state.history.ensured)

def Task.bystander : Task → Bool
  | .drain | .pump | .flush | .signal | .session => true
  | _ => false

theorem StateStep.pool {task : Task} {state next : State P}
    (step : StateStep task state next) (bystander : task.bystander = true) :
    next.pool = state.pool ∧ next.relayOpening = state.relayOpening := by
  cases step with
  | closed now reason _ =>
      rcases state.close_frame now reason with ⟨_, _, frame⟩
      rw [frame]
      exact ⟨rfl, rfl⟩
  | responded addr source payload =>
      rcases state.pushResponse_frame addr source payload with ⟨_, _, _, frame⟩
      rw [frame]
      exact ⟨rfl, rfl⟩
  | sighted peer via =>
      rcases state.addrForPeer_frame peer via with ⟨_, _, _, _, frame⟩
      rw [frame]
      exact ⟨rfl, rfl⟩
  | dialed peer key =>
      rcases state.dialStandin_frame peer key with ⟨_, _, _, _, frame⟩
      rw [frame]
      exact ⟨rfl, rfl⟩
  | channelRegistered peer wire _ =>
      rcases state.registerChannel_frame peer wire with ⟨_, _, _, _, _, _, _, _, _, frame⟩
      rw [frame]
      exact ⟨rfl, rfl⟩
  | channelDied id wire lost =>
      subst lost
      cases bystander
  | relayRegistered url conn opened _ =>
      subst opened
      cases bystander
  | relayRemoved key conn lost _ =>
      subst lost
      cases bystander
  | opening urls calls => cases task <;> simp_all [Task.bystander, Task.calls]
  | ensured url key calls _ => cases task <;> simp_all [Task.bystander, Task.calls]
  | armed arms =>
      subst arms
      cases bystander
  | _ => exact ⟨rfl, rfl⟩

theorem StateSteps.pool {task : Task} {state next : State P}
    (steps : StateSteps task state next) (bystander : task.bystander = true) :
    next.pool = state.pool ∧ next.relayOpening = state.relayOpening := by
  induction steps with
  | refl => exact ⟨rfl, rfl⟩
  | tail _ step induction =>
      rcases step.pool bystander with ⟨pool, opening⟩
      exact ⟨pool.trans induction.1, opening.trans induction.2⟩

/-- What one step of the pump does to the pool and to the receives on it. -/
inductive PumpsRelays (pump : Pump) (state : State P) (pumped : Pumped P) : Prop
  | kept : pumped.1.pool = state.pool ∧ pumped.1.relayOpening = state.relayOpening →
      (∀ item ∈ pumped.2.1.relayRecvs, item ∈ pump.relayRecvs ∨
        state.relayPool.get? item.1 = some item.2) → PumpsRelays pump state pumped
  | armed : pumped.1 =
      { state with newRelays := [], newChannels := [], pendingUpgrades := [] } →
      pumped.2.1.relayRecvs = pump.relayRecvs ++ state.newRelays →
      PumpsRelays pump state pumped
  | lost (key : UInt32) (conn : RelayConn) : (key, conn) ∈ pump.relayRecvs →
      key ≠ homeRelay → pumped.1 = state.removeRelay key conn →
      pumped.2.1.relayRecvs.Sublist pump.relayRecvs → PumpsRelays pump state pumped

theorem rearm_mem {Wire : Type} {key : UInt32} {rest : List (UInt32 × Wire)}
    {found : Option Wire} {item : UInt32 × Wire} (member : item ∈ rearm key rest found) :
    item ∈ rest ∨ (item.1 = key ∧ found = some item.2) := by
  cases found with
  | none => exact .inl member
  | some wire =>
      rcases List.mem_append.mp member with old | new
      · exact .inl old
      · rw [List.mem_singleton] at new
        subst new
        exact .inr ⟨rfl, rfl⟩

theorem PumpStep.relays {pump : Pump} {udp : Bool} {now : Instant} {state : State P}
    {pumped : Pumped P} (step : PumpStep pump udp now state pumped) :
    PumpsRelays pump state pumped := by
  have same : ∀ item ∈ pump.relayRecvs, item ∈ pump.relayRecvs ∨
      state.relayPool.get? item.1 = some item.2 := fun _ member => .inl member
  have rearmed : ∀ (index : Nat) (key : UInt32),
      ∀ item ∈ rearm key (pump.relayRecvs.eraseIdx index) (state.relayPool.get? key),
        item ∈ pump.relayRecvs ∨ state.relayPool.get? item.1 = some item.2 := by
    intro index key item member
    rcases rearm_mem member with old | ⟨rfl, found⟩
    · exact .inl (List.mem_of_mem_eraseIdx old)
    · exact .inr found
  cases step with
  | drained fuel order next _ drained =>
      exact .kept (StateSteps.pool (StateSteps.drain drained) rfl) same
  | armed _ => exact .armed rfl rfl
  | relayDatagram index key conn datagram _ _ _ =>
      exact .kept (StateSteps.pool (StateSteps.handleRelayDatagram _ _ _ _ _) rfl)
        (rearmed index key)
  | relaySignal index key conn datagram _ _ _ =>
      exact .kept (StateSteps.pool (Config.handleSignal_steps _ _ _ _) rfl)
        (rearmed index key)
  | relayLost index key conn _ armed foreign =>
      exact .lost key conn (List.mem_of_getElem? armed) foreign rfl
        (List.eraseIdx_sublist _ _)
  | died reason recvs _ sublist =>
      exact .kept ⟨rfl, rfl⟩ fun item member => .inl (sublist.subset member)
  | udpDatagram payload remote _ _ _ =>
      exact .kept (StateSteps.pool (StateSteps.handleUdpDatagram _ _ _ _) rfl) same
  | channelMessage index id wire payload _ _ =>
      cases payload with
      | none => exact .kept ⟨rfl, rfl⟩ same
      | some datagram =>
          exact .kept (StateSteps.pool (StateSteps.handleChannelDatagram _ _ _ _) rfl) same
  | channelLost index id wire _ _ =>
      rcases state.channelDied_frame id wire with ⟨_, _, frame⟩
      refine .kept ?_ same
      dsimp only
      rw [frame]
      exact ⟨rfl, rfl⟩
  | joined relays channels recv _ sublist _ =>
      exact .kept ⟨rfl, rfl⟩ fun item member => .inl (sublist.subset member)
  | _ => exact .kept ⟨rfl, rfl⟩ same

/-! ## One open at a time -/

/-- The call has the open of the relay at `url` in flight. -/
def Claimed (calls : Table Nat Call) (id : Nat) (url : String) : Prop :=
  ∃ addr phase raw, calls.get? id = some (.connect addr phase) ∧
    phase.claim = some raw ∧ normalizeRelayUrl raw = url

structure Claims (calls : Table Nat Call) (state : State P) : Prop where
  unknown : ∀ url ∈ state.relayOpening, state.relayKeys.get? url = none
  marked : ∀ id url, Claimed calls id url → url ∈ state.relayOpening
  alone : ∀ id other url, Claimed calls id url → Claimed calls other url → id = other

theorem Claims.of_pool {calls later : Table Nat Call} {state next : State P}
    (claims : Claims calls state)
    (undialed : ∀ id addr phase, later.get? id = some (.connect addr phase) →
      calls.get? id = some (.connect addr phase))
    (opening : next.relayOpening = state.relayOpening)
    (keys : next.relayKeys = state.relayKeys) : Claims later next := by
  have before : ∀ id url, Claimed later id url → Claimed calls id url := by
    rintro id url ⟨addr, phase, raw, found, claim, same⟩
    exact ⟨addr, phase, raw, undialed id addr phase found, claim, same⟩
  refine ⟨?_, ?_, ?_⟩
  · rw [opening, keys]
    exact claims.unknown
  · intro id url claimed
    rw [opening]
    exact claims.marked id url (before id url claimed)
  · intro id other url claimed rival
    exact claims.alone id other url (before id url claimed) (before other url rival)

/-- A dial claims at most one open, and none that is claimed. -/
theorem Dialing.opens {peer : EndpointId} {keys : List UInt32} {state : State P}
    {result : Connecting × State P} (dialing : Dialing peer keys state result) :
    result.2.relayKeys = state.relayKeys ∧
    ((result.2.relayOpening = state.relayOpening ∧
        ∀ phase, result.1 = .suspended phase → phase.claim = none) ∨
      ∃ phase url, result.1 = .suspended phase ∧ phase.claim = some url ∧
        state.relayKeys.get? (normalizeRelayUrl url) = none ∧
        normalizeRelayUrl url ∉ state.relayOpening ∧
        result.2.relayOpening = normalizeRelayUrl url :: state.relayOpening) := by
  induction dialing with
  | failed keys state error => exact ⟨rfl, .inl ⟨rfl, by rintro phase ⟨⟩⟩⟩
  | waiting keys state phase _ unclaimed _ _ =>
      refine ⟨rfl, .inl ⟨rfl, ?_⟩⟩
      rintro other ⟨⟩
      exact unclaimed
  | claimed keys state phase url claim unknown unclaimed _ _ _ =>
      exact ⟨rfl, .inr ⟨phase, url, rfl, claim, unknown, unclaimed, rfl⟩⟩
  | ensured keys state url key result _ _ induction => exact induction
  | rejected keys state dial dialKey noq error _ =>
      rcases state.dialRemote_frame dial dialKey with ⟨_, _, _, _, frame⟩
      rw [frame]
      exact ⟨rfl, .inl ⟨rfl, by rintro phase ⟨⟩⟩⟩
  | dialed keys state inserted next dial dialKey noq handle conn upgrades _ _ _ _ _ insertion
      queueing =>
      subst insertion queueing
      rcases state.dialRemote_frame dial dialKey with ⟨_, _, _, _, frame⟩
      rw [frame]
      refine ⟨rfl, .inl ⟨rfl, ?_⟩⟩
      rintro phase ⟨⟩
      rfl

/-- The opens other calls have in flight survive the resolution of this one. -/
theorem Claims.resolution {calls : Table Nat Call} {state between : State P} {opened : Bool}
    {claim : Option String} {keys : List UInt32} (claims : Claims calls state) {id : Nat}
    (own : ∀ raw, claim = some raw → Claimed calls id (normalizeRelayUrl raw))
    (resolution : Resolution opened claim state keys between) :
    (∀ url ∈ between.relayOpening, between.relayKeys.get? url = none) ∧
    ∀ other url, other ≠ id → Claimed calls other url → url ∈ between.relayOpening := by
  have released : ∀ raw, claim = some raw → ∀ other url, other ≠ id →
      Claimed calls other url → url ∈ (state.release raw).relayOpening := by
    intro raw claimed other url different rival
    refine List.mem_filter.mpr ⟨claims.marked other url rival, ?_⟩
    rw [decide_eq_true_eq]
    rintro rfl
    exact different (claims.alone other id _ rival (own raw claimed))
  cases resolution with
  | unclaimed _ => exact ⟨claims.unknown, fun other url _ rival => claims.marked other url rival⟩
  | failed raw claimed =>
      refine ⟨?_, released raw claimed⟩
      intro url member
      exact claims.unknown url (List.mem_filter.mp member).1
  | registered raw conn claimed _ _ =>
      refine ⟨?_, released raw claimed⟩
      intro url member
      rcases List.mem_filter.mp member with ⟨opening, apart⟩
      rw [decide_eq_true_eq] at apart
      change (state.relayKeys.set (normalizeRelayUrl raw) state.nextRelayKey).get? url = none
      rw [Table.get?_set, if_neg apart]
      exact claims.unknown url opening

theorem Claimed.connecting {config : Config P} {id : Nat} {addr : EndpointAddr}
    {progress : Connecting × State P} {other : Nat} {url : String}
    (claimed : Claimed (config.connecting id addr progress).calls other url) :
    (other = id ∧ ∃ phase raw, progress.1 = .suspended phase ∧ phase.claim = some raw ∧
      normalizeRelayUrl raw = url) ∨
    (other ≠ id ∧ Claimed config.calls other url) := by
  rcases claimed with ⟨there, phase, raw, found, claim, same⟩
  rcases config.connecting_calls id addr progress found with
    ⟨own, after, suspended, equal⟩ | ⟨apart, old⟩
  · cases equal
    exact .inl ⟨own, phase, raw, suspended, claim, same⟩
  · exact .inr ⟨apart, there, phase, raw, old, claim, same⟩

theorem Claims.dialing {config : Config P} (claims : Claims config.calls config.state)
    (fresh : Nat) {opened : Bool} {id : Nat} {addr : EndpointAddr} {peer : EndpointId}
    {claim : Option String} {keys more : List UInt32} {between : State P}
    {progress : Connecting × State P} (dials : config.Dials id addr peer claim keys)
    (resolution : Resolution opened claim config.state more between)
    (dialing : Dialing peer (more ++ keys) between progress) :
    Claims (({ config with fresh } : Config P).connecting id addr progress).calls
      progress.2 := by
  have own : ∀ raw, claim = some raw → Claimed config.calls id (normalizeRelayUrl raw) := by
    intro raw claimed
    cases dials with
    | invoked peer _ _ => cases claimed
    | resumed phase pending => exact ⟨addr, phase, raw, pending, claimed, rfl⟩
  rcases claims.resolution own resolution with ⟨unknown, others⟩
  rcases dialing.opens with ⟨sameKeys, ⟨sameOpening, unclaimed⟩ | opens⟩
  · -- this call has no open in flight now
    have before : ∀ other url,
        Claimed (({ config with fresh } : Config P).connecting id addr progress).calls other
          url → other ≠ id ∧ Claimed config.calls other url := by
      intro other url claimed
      rcases claimed.connecting with ⟨_, phase, raw, suspended, holds, _⟩ | old
      · rw [unclaimed phase suspended] at holds
        cases holds
      · exact old
    refine ⟨?_, ?_, ?_⟩
    · rw [sameOpening, sameKeys]
      exact unknown
    · intro other url claimed
      rw [sameOpening]
      exact others other url (before other url claimed).1 (before other url claimed).2
    · intro first second url claimed rival
      exact claims.alone first second url (before first url claimed).2
        (before second url rival).2
  · rcases opens with ⟨phase, raw, suspended, claimed, absent, unopened, opening⟩
    -- the open in flight is this call's new one, or another call's for another URL
    have before : ∀ other url,
        Claimed (({ config with fresh } : Config P).connecting id addr progress).calls other
          url → (other = id ∧ url = normalizeRelayUrl raw) ∨
            (url ≠ normalizeRelayUrl raw ∧ url ∈ between.relayOpening ∧
              Claimed config.calls other url) := by
      intro other url claims
      rcases claims.connecting with ⟨same, after, text, pending, holds, rfl⟩ | ⟨apart, old⟩
      · rw [suspended] at pending
        cases pending
        rw [claimed] at holds
        cases holds
        exact .inl ⟨same, rfl⟩
      · have marked := others other url apart old
        refine .inr ⟨?_, marked, old⟩
        rintro rfl
        exact unopened marked
    refine ⟨?_, ?_, ?_⟩
    · rw [opening, sameKeys]
      intro url member
      rcases List.mem_cons.mp member with rfl | old
      · exact absent
      · exact unknown url old
    · intro other url claims
      rw [opening]
      rcases before other url claims with ⟨_, rfl⟩ | ⟨_, marked, _⟩
      · exact List.mem_cons_self
      · exact List.mem_cons_of_mem _ marked
    · intro first second url claim rival
      rcases before first url claim with ⟨left, same⟩ | ⟨apart, _, left⟩
      · rcases before second url rival with ⟨right, _⟩ | ⟨apart, _⟩
        · rw [left, right]
        · exact absurd same apart
      · rcases before second url rival with ⟨_, same⟩ | ⟨_, _, right⟩
        · exact absurd same apart
        · exact claims.alone first second url left right

/-! ## The registered relays -/

namespace Ensured

/-- The key is in the pool, for a connection to the server that was asked for. -/
def Live (record : Ensured) : Prop :=
  ∃ conn, record.pooled = some conn ∧
    normalizeRelayUrl conn.server = normalizeRelayUrl record.url

def Bereft (record : Ensured) : Prop :=
  ∃ key conn, (key, conn) ∈ record.retired ∧
    normalizeRelayUrl conn.server = normalizeRelayUrl record.url

end Ensured

/-- The relays ever registered are in the pool or have died, each under its own key and
for its own URL. -/
structure Pool (state : State P) (recvs : List (UInt32 × RelayConn)) : Prop where
  counter : state.nextRelayKey.toNat = state.history.relays.length
  issued : ∀ key conn, (key, conn) ∈ state.history.relays →
    key.toNat < state.history.relays.length
  registry : Registry state.relayPool state.history.relays state.history.retiredRelays
  named : ∀ url key, state.relayKeys.get? url = some key →
    ∃ conn, (key, conn) ∈ state.history.relays ∧ normalizeRelayUrl conn.server = url
  keyed : ∀ key conn, (key, conn) ∈ state.history.relays →
    state.relayKeys.get? (normalizeRelayUrl conn.server) = some key
  armed : state.newRelays ⊆ state.history.relays
  receiving : recvs ⊆ state.history.relays
  ensured : ∀ record ∈ state.history.ensured, record.Live ↔ ¬ record.Bereft

namespace Pool

variable {state next : State P} {recvs : List (UInt32 × RelayConn)}

theorem of_pool {later : List (UInt32 × RelayConn)} (pool : Pool state recvs)
    (same : next.pool = state.pool) (receiving : later ⊆ state.history.relays) :
    Pool next later := by
  simp only [State.pool, Prod.mk.injEq] at same
  rcases same with ⟨relayPool, relayKeys, newRelays, nextRelayKey, relays, retired, ensured⟩
  refine ⟨?_, ?_, ?_, ?_, ?_, ?_, ?_, ?_⟩
  · rw [nextRelayKey, relays]
    exact pool.counter
  · rw [relays]
    exact pool.issued
  · rw [relayPool, relays, retired]
    exact pool.registry
  · rw [relayKeys, relays]
    exact pool.named
  · rw [relayKeys, relays]
    exact pool.keyed
  · rw [newRelays, relays]
    exact pool.armed
  · rw [relays]
    exact receiving
  · rw [ensured]
    exact pool.ensured

theorem new (noq : P.Endpoint) (webrtc : Bool) : Pool (State.new noq webrtc) [] := by
  refine ⟨rfl, ?_, Registry.empty, ?_, ?_, List.Subset.refl _, List.Subset.refl _, ?_⟩ <;>
    simp [State.new]

private theorem next_unissued (pool : Pool state recvs) (conn : RelayConn) :
    (state.nextRelayKey, conn) ∉ state.history.relays := by
  intro member
  have bound := pool.issued _ _ member
  rw [pool.counter] at bound
  exact Nat.lt_irrefl _ bound

theorem register (pool : Pool state recvs) (url : String) (conn : RelayConn)
    (unknown : state.relayKeys.get? (normalizeRelayUrl url) = none)
    (server : conn.server = url)
    (bound : state.history.relays.length + 1 < 2 ^ 32) :
    Pool (state.registerRelay url conn).2 recvs := by
  have grown : state.history.relays ⊆ state.history.relays ++ [(state.nextRelayKey, conn)] :=
    List.subset_append_left _ _
  have either : ∀ {key : UInt32} {other : RelayConn},
      (key, other) ∈ state.history.relays ++ [(state.nextRelayKey, conn)] →
      (key, other) ∈ state.history.relays ∨ key = state.nextRelayKey ∧ other = conn := by
    intro key other member
    simpa using member
  rw [← pool.counter] at bound
  refine ⟨?_, ?_, pool.registry.register conn pool.next_unissued, ?_, ?_, ?_, ?_,
    pool.ensured⟩
  · simp only [State.registerRelay, List.length_append, List.length_singleton]
    rw [counter_succ bound, pool.counter]
  · intro key other member
    simp only [State.registerRelay, List.length_append, List.length_singleton]
    rcases either member with old | ⟨rfl, rfl⟩
    · exact Nat.lt_succ_of_lt (pool.issued key other old)
    · rw [pool.counter]
      exact Nat.lt_succ_self _
  · intro name key found
    simp only [State.registerRelay, Table.get?_set] at found ⊢
    split at found
    · rename_i same
      cases found
      exact ⟨conn, by simp, by rw [server, same]⟩
    · rcases pool.named name key found with ⟨other, member, same⟩
      exact ⟨other, grown member, same⟩
  · intro key other member
    simp only [State.registerRelay, Table.get?_set]
    rcases either member with old | ⟨rfl, rfl⟩
    · have known := pool.keyed key other old
      split
      · rename_i same
        rw [same, unknown] at known
        cases known
      · exact known
    · rw [server, if_pos rfl]
  · exact List.append_subset.mpr ⟨List.Subset.trans pool.armed grown,
      List.subset_append_right _ _⟩
  · exact List.Subset.trans pool.receiving grown

theorem remove (pool : Pool state recvs) {key : UInt32} {conn : RelayConn}
    (registered : (key, conn) ∈ state.history.relays) :
    Pool (state.removeRelay key conn) recvs :=
  ⟨pool.counter, pool.issued, pool.registry.retire registered (Table.get?_remove _ key),
    pool.named, pool.keyed, pool.armed, pool.receiving, pool.ensured⟩

/-- A URL's key is in the pool unless the relay opened for it has died. -/
theorem noteEnsured (pool : Pool state recvs) {url : String} {key : UInt32}
    (known : state.relayKeys.get? (normalizeRelayUrl url) = some key) :
    Pool (state.noteEnsured url key) recvs := by
  refine ⟨pool.counter, pool.issued, pool.registry, pool.named, pool.keyed, pool.armed,
    pool.receiving, ?_⟩
  intro record member
  rcases List.mem_append.mp member with old | new
  · exact pool.ensured record old
  rw [List.mem_singleton] at new
  subst new
  rcases pool.named _ key known with ⟨conn, registered, server⟩
  rcases pool.registry.kept key conn registered with present | dead
  · refine iff_of_true ⟨conn, present, server⟩ ?_
    rintro ⟨other, rival, died, same⟩
    rcases pool.registry.gone other rival died with ⟨member, gone⟩
    have owner := pool.keyed other rival member
    rw [show normalizeRelayUrl rival.server = normalizeRelayUrl url from same, known] at owner
    cases owner
    rw [present] at gone
    cases gone
  · refine iff_of_false ?_ (not_not_intro ⟨key, conn, dead, server⟩)
    rintro ⟨other, present, _⟩
    dsimp only at present
    rw [(pool.registry.gone key conn dead).2] at present
    cases present

theorem resolution {opened : Bool} {claim : Option String} {keys : List UInt32}
    (pool : Pool state recvs)
    (unknown : ∀ raw, claim = some raw → state.relayKeys.get? (normalizeRelayUrl raw) = none)
    (resolution : Resolution opened claim state keys next)
    (bound : next.history.relays.length < 2 ^ 32) : Pool next recvs := by
  cases resolution with
  | unclaimed _ => exact pool
  | failed url _ => exact pool.of_pool rfl pool.receiving
  | registered url conn claimed _ server =>
      have released : Pool (state.release url) recvs := pool.of_pool rfl pool.receiving
      have limit : state.history.relays.length + 1 < 2 ^ 32 := by
        simpa [State.noteEnsured, State.registerRelay, State.release] using bound
      refine (released.register url conn (unknown url claimed) server limit).noteEnsured ?_
      simp [State.registerRelay, State.release]

theorem dialing {peer : EndpointId} {keys : List UInt32} {result : Connecting × State P}
    (dialing : Dialing peer keys state result) (pool : Pool state recvs) :
    Pool result.2 recvs := by
  induction dialing with
  | failed keys state error => exact pool
  | waiting keys state phase _ _ _ _ => exact pool
  | claimed keys state phase url _ _ _ _ _ _ => exact pool.of_pool rfl pool.receiving
  | ensured keys state url key result known _ induction =>
      exact induction (pool.noteEnsured known)
  | rejected keys state dial dialKey noq error _ =>
      rcases state.dialRemote_frame dial dialKey with ⟨_, _, _, _, frame⟩
      rw [frame]
      exact pool.of_pool rfl pool.receiving
  | dialed keys state inserted next dial dialKey noq handle conn upgrades _ _ _ _ _ insertion
      queueing =>
      subst insertion queueing
      rcases state.dialRemote_frame dial dialKey with ⟨_, _, _, _, frame⟩
      rw [frame]
      exact pool.of_pool rfl pool.receiving

end Pool

/-! ## Whole runs -/

theorem Resolution.relays {opened : Bool} {claim : Option String} {keys : List UInt32}
    {state between : State P} (resolution : Resolution opened claim state keys between) :
    state.history.relays ⊆ between.history.relays ∧
      state.history.relays.length ≤ between.history.relays.length := by
  cases resolution with
  | unclaimed _ => exact ⟨List.Subset.refl _, Nat.le_refl _⟩
  | failed url _ => exact ⟨List.Subset.refl _, Nat.le_refl _⟩
  | registered url conn _ _ _ =>
      refine ⟨List.subset_append_left _ _, ?_⟩
      simp [State.noteEnsured, State.registerRelay, State.release]

theorem Dialing.relays {peer : EndpointId} {keys : List UInt32} {state : State P}
    {result : Connecting × State P} (dialing : Dialing peer keys state result) :
    result.2.history.relays = state.history.relays := by
  induction dialing with
  | ensured keys state url key result _ _ induction => exact induction
  | rejected keys state dial dialKey noq error _ =>
      rcases state.dialRemote_frame dial dialKey with ⟨_, _, _, _, frame⟩
      rw [frame]
  | dialed keys state inserted next dial dialKey noq handle conn upgrades _ _ _ _ _ insertion
      queueing =>
      subst insertion queueing
      rcases state.dialRemote_frame dial dialKey with ⟨_, _, _, _, frame⟩
      rw [frame]
      rfl
  | _ => rfl

/-- The relays of a configuration, as long as no key is issued twice. -/
structure Relays (config : Config P) : Prop where
  claims : Claims config.calls config.state
  pool : config.state.history.relays.length < 2 ^ 32 →
    Pool config.state config.pump.relayRecvs

namespace Relays

variable {config next : Config P}

theorem initially (noq : P.Endpoint) (webrtc udp : Bool) (relay : String) (clock : Instant) :
    Relays (Config.bind noq webrtc udp relay clock) := by
  have uncalled : ∀ id url, ¬ Claimed (Table.empty : Table Nat Call) id url := by
    rintro id url ⟨addr, phase, raw, found, _⟩
    simp at found
  refine ⟨⟨?_, ?_, ?_⟩, ?_⟩
  · intro url member
    cases member
  · intro id url claimed
    exact absurd claimed (uncalled id url)
  · intro id other url claimed
    exact absurd claimed (uncalled id url)
  · intro _
    exact (Pool.new noq webrtc).register relay ⟨0, relay⟩ rfl rfl (by simp [State.new])

theorem of_pool (relays : Relays config) (undialed : config.Undialed next)
    (same : next.state.pool = config.state.pool)
    (opening : next.state.relayOpening = config.state.relayOpening)
    (receiving : ∀ item ∈ next.pump.relayRecvs, item ∈ config.pump.relayRecvs ∨
      config.state.relayPool.get? item.1 = some item.2) : Relays next := by
  have fields := same
  simp only [State.pool, Prod.mk.injEq] at fields
  rcases fields with ⟨_, keys, _, _, registered, _, _⟩
  refine ⟨relays.claims.of_pool undialed opening keys, ?_⟩
  intro bound
  have pool := relays.pool (registered ▸ bound)
  refine pool.of_pool same ?_
  intro item member
  rcases receiving item member with old | stored
  · exact pool.receiving old
  · exact pool.registry.stored item.1 item.2 stored

theorem pumped (relays : Relays config) {state : State P} {pump : Pump}
    {spawned : List Session}
    (step : PumpsRelays config.pump config.state (state, pump, spawned)) :
    Relays ({ config with state, pump } : Config P) := by
  have undialed : config.Undialed ({ config with state, pump } : Config P) :=
    fun _ _ _ found => found
  cases step with
  | kept same receiving => exact relays.of_pool undialed same.1 same.2 receiving
  | armed equal receiving =>
      dsimp only at equal receiving
      subst equal
      refine ⟨relays.claims.of_pool undialed rfl rfl, ?_⟩
      intro bound
      have pool := relays.pool bound
      refine ⟨pool.counter, pool.issued, pool.registry, pool.named, pool.keyed,
        List.nil_subset _, ?_, pool.ensured⟩
      dsimp only
      rw [receiving]
      exact List.append_subset.mpr ⟨pool.receiving, pool.armed⟩
  | lost key conn armed foreign equal sublist =>
      dsimp only at equal sublist
      subst equal
      refine ⟨relays.claims.of_pool undialed rfl rfl, ?_⟩
      intro bound
      have pool := relays.pool bound
      have removed := pool.remove (pool.receiving armed)
      exact removed.of_pool rfl (List.Subset.trans sublist.subset pool.receiving)

theorem dialing (relays : Relays config) {opened : Bool} {id fresh : Nat}
    {addr : EndpointAddr} {peer : EndpointId} {claim : Option String}
    {keys more : List UInt32} {between : State P} {progress : Connecting × State P}
    (dials : config.Dials id addr peer claim keys)
    (resolution : Resolution opened claim config.state more between)
    (dialing : Dialing peer (more ++ keys) between progress) :
    Relays (({ config with fresh } : Config P).connecting id addr progress) := by
  have claims := relays.claims.dialing fresh dials resolution dialing
  have unknown : ∀ raw, claim = some raw →
      config.state.relayKeys.get? (normalizeRelayUrl raw) = none := by
    intro raw claimed
    cases dials with
    | invoked peer _ _ => cases claimed
    | resumed phase pending =>
        exact relays.claims.unknown _
          (relays.claims.marked id _ ⟨addr, phase, raw, pending, claimed, rfl⟩)
  rcases Config.connecting_frame ({ config with fresh } : Config P) id addr progress with
    ⟨_, _, _, _, frame⟩
  rw [frame] at claims ⊢
  refine ⟨claims, ?_⟩
  intro bound
  dsimp only at bound ⊢
  rw [dialing.relays] at bound
  have start := relays.pool (Nat.lt_of_le_of_lt resolution.relays.2 bound)
  exact Pool.dialing dialing (start.resolution unknown resolution bound)

end Relays

theorem reachable_relays {config : Config P} (reached : (endpoint P).Reachable config) :
    Relays config := by
  apply reached.invariant Relays
  · rintro config ⟨noq, webrtc, udp, relay, clock, url, _, rfl⟩
    exact Relays.initially noq webrtc udp relay clock
  · intro config action next relays _ stepped
    cases Config.step_move stepped with
    | advanced elapsed =>
        exact relays.of_pool (fun _ _ _ found => found) rfl rfl fun _ member => .inl member
    | pumped state pump spawned step =>
        rcases Config.addSessions_frame spawned ({ config with state, pump } : Config P) with
          ⟨_, _, frame⟩
        rw [frame]
        exact (relays.pumped step.relays).of_pool (fun _ _ _ found => found) rfl rfl
          fun _ member => .inl member
    | resumed id session after registration state _ found resumes =>
        have same := StateSteps.pool (StateSteps.resumes resumes) rfl
        exact relays.of_pool (fun _ _ _ found => found) same.1 same.2
          fun _ member => .inl member
    | called next _ step =>
        rcases step.dials with
          ⟨id, fresh, addr, peer, claim, keys, more, between, progress, dials, resolution,
            dialing, rfl⟩ | ⟨undialed, conns, queue, closed, closedAt, same⟩
        · exact relays.dialing dials resolution dialing
        · rcases step.frame with ⟨state, _, _, _, _, _, rfl⟩
          dsimp only at same
          subst same
          exact relays.of_pool undialed rfl rfl fun _ member => .inl member

/-! ## Dialed relays -/

/-- Whenever `ensure_relay` resolves to a key, that key is in the pool with a connection
to the server asked for, exactly if no relay opened for that server has died. -/
theorem dialed_relays_live {config : Config P} (reached : (endpoint P).Reachable config)
    (bounded : config.state.history.relays.length < 2 ^ 32) :
    ∀ record ∈ config.state.history.ensured, record.Live ↔ ¬ record.Bereft :=
  ((reachable_relays reached).pool bounded).ensured

def dialFar : List Action :=
  List.flatten [Slab.turn [] 0,
    [.invoke (.connect ⟨(Slab.peer 7).bytes, [.relay "a://far"]⟩ []),
      .resume 1 (.opened (.ok ())), .pump .tick], Slab.turn [0] 1]

theorem dialed_relays_live_opened :
    ∃ config : Config Slab.platform, (endpoint Slab.platform).Reachable config ∧
      ∃ record ∈ config.state.history.ensured, record.url = "a://far" ∧ record.Live := by
  have passed : (endpoint Slab.platform).runs (fun _ _ => true) (Slab.bound true false) dialFar
      (fun config => decide (config.state.history.relays.length < 2 ^ 32) &&
        config.state.history.ensured.any fun record =>
          decide (record.url = "a://far" ∧ record.retired = [])) = true := by decide +kernel
  rcases System.Reachable.of_runs (Slab.bound_initial true false) passed with
    ⟨config, reached, tested⟩
  simp only [Bool.and_eq_true, decide_eq_true_eq, List.any_eq_true] at tested
  rcases tested with ⟨bounded, record, member, url, empty⟩
  refine ⟨config, reached, record, member, url,
    (dialed_relays_live reached bounded record member).mpr ?_⟩
  rintro ⟨key, conn, dead, _⟩
  rw [empty] at dead
  cases dead

/-- The relay dies, and the next dial naming it gets the dead key. -/
theorem dialed_relays_live_redialed :
    ∃ config : Config Slab.platform, (endpoint Slab.platform).Reachable config ∧
      ∃ record ∈ config.state.history.ensured, record.url = "a://far" ∧
        record.key = 1 ∧ record.pooled = none := by
  have passed : (endpoint Slab.platform).runs (fun _ _ => true) (Slab.bound true false)
      (List.flatten [dialFar, [.pump (.relayEvent 1 (.error "reset"))], Slab.turn [0] 0,
        [.invoke (.connect ⟨(Slab.peer 9).bytes, [.relay "a://far"]⟩ [])]])
      (fun config => config.state.history.ensured.any fun record =>
        decide (record.url = "a://far" ∧ record.key = 1 ∧ record.pooled = none)) = true := by
    decide +kernel
  rcases System.Reachable.of_runs (Slab.bound_initial true false) passed with
    ⟨config, reached, tested⟩
  simp only [decide_eq_true_eq, List.any_eq_true] at tested
  exact ⟨config, reached, tested⟩

end IrohEndpoint
