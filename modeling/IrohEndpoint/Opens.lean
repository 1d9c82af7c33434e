import IrohEndpoint.Calls
import IrohEndpoint.Relays

/-! # One open for each relay

A call that opens a relay marks its URL, and the calls that find the mark wait. The mark
stands exactly while the open is in flight, so a URL is registered once, and a call that
finds neither the mark nor the key saw the open it waited for fail. -/

namespace IrohEndpoint

variable {P : Platform}

/-! ## Registered names -/

def relayName (relay : UInt32 × RelayConn) : String := normalizeRelayUrl relay.2.server

/-- Every URL has at most one key, which it keeps, and the home relay's is `homeRelay`. -/
structure Named (state : State P) : Prop where
  distinct : (state.history.relays.map relayName).Nodup
  known : ∀ url key, state.relayKeys.get? url = some key ↔
    ∃ relay ∈ state.history.relays, relay.1 = key ∧ relayName relay = url
  home : ∃ conn rest, state.history.relays = (homeRelay, conn) :: rest ∧
    state.relayKeys.get? (normalizeRelayUrl conn.server) = some homeRelay
  ensured : ∀ record ∈ state.history.ensured,
    state.relayKeys.get? (normalizeRelayUrl record.url) = some record.key
  counter : state.nextRelayKey = UInt32.ofNat state.history.relays.length
  numbers : state.history.relays.map Prod.fst =
    (List.range state.history.relays.length).map UInt32.ofNat

namespace Named

variable {state next : State P}

theorem of_same (named : Named state) (keys : next.relayKeys = state.relayKeys)
    (relays : next.history.relays = state.history.relays)
    (ensured : next.history.ensured = state.history.ensured)
    (counter : next.nextRelayKey = state.nextRelayKey) : Named next := by
  refine ⟨?_, ?_, ?_, ?_, ?_, ?_⟩
  · rw [relays]
    exact named.distinct
  · rw [keys, relays]
    exact named.known
  · rw [keys, relays]
    exact named.home
  · rw [keys, ensured]
    exact named.ensured
  · rw [counter, relays]
    exact named.counter
  · rw [relays]
    exact named.numbers

theorem of_pool (named : Named state) (same : next.pool = state.pool) : Named next := by
  simp only [State.pool, Prod.mk.injEq] at same
  exact named.of_same same.2.1 same.2.2.2.2.1 same.2.2.2.2.2.2 same.2.2.2.1

theorem noteEnsured (named : Named state) {url : String} {key : UInt32}
    (known : state.relayKeys.get? (normalizeRelayUrl url) = some key) :
    Named (state.noteEnsured url key) := by
  refine ⟨named.distinct, named.known, named.home, ?_, named.counter, named.numbers⟩
  intro record member
  rcases List.mem_append.mp member with old | new
  · exact named.ensured record old
  · rw [List.mem_singleton] at new
    subst new
    exact known

/-- A URL without a key is registered. -/
theorem register (named : Named state) {url : String} {conn : RelayConn}
    (unknown : state.relayKeys.get? (normalizeRelayUrl url) = none)
    (server : conn.server = url) : Named (state.registerRelay url conn).2 := by
  have unnamed : normalizeRelayUrl url ∉ state.history.relays.map relayName := by
    intro member
    rcases List.mem_map.mp member with ⟨relay, among, same⟩
    have found := (named.known _ _).mpr ⟨relay, among, rfl, same⟩
    rw [unknown] at found
    cases found
  have name : relayName (state.nextRelayKey, conn) = normalizeRelayUrl url := by
    rw [relayName, server]
  have kept : ∀ other key, state.relayKeys.get? other = some key →
      (state.relayKeys.set (normalizeRelayUrl url) state.nextRelayKey).get? other =
        some key := by
    intro other key found
    rw [Table.get?_set, if_neg]
    · exact found
    · rintro rfl
      rw [unknown] at found
      cases found
  refine ⟨?_, ?_, ?_, ?_, ?_, ?_⟩
  · simp only [State.registerRelay, List.map_append, List.map_cons, List.map_nil, name]
    exact List.Nodup.append named.distinct (List.nodup_singleton _) (by simpa using unnamed)
  · intro other key
    simp only [State.registerRelay, Table.get?_set, List.mem_append, List.mem_singleton]
    constructor
    · intro found
      split at found
      · rename_i same
        cases found
        exact ⟨_, .inr rfl, rfl, name.trans same.symm⟩
      · rcases (named.known _ _).mp found with ⟨relay, among, rest⟩
        exact ⟨relay, .inl among, rest⟩
    · rintro ⟨relay, old | rfl, keyed, same⟩
      · rw [if_neg]
        · exact (named.known _ _).mpr ⟨relay, old, keyed, same⟩
        · rintro rfl
          exact unnamed (List.mem_map.mpr ⟨relay, old, same⟩)
      · rw [if_pos (same.symm.trans name), ← keyed]
  · rcases named.home with ⟨first, rest, equal, keyed⟩
    refine ⟨first, rest ++ [(state.nextRelayKey, conn)], ?_, kept _ _ keyed⟩
    simp [State.registerRelay, equal]
  · intro record member
    exact kept _ _ (named.ensured record member)
  · simp [State.registerRelay, named.counter]
  · simp [State.registerRelay, List.range_succ, named.numbers, named.counter]

private theorem keys_nodup (named : Named state) (bounded : state.history.relays.length ≤ 2 ^ 32) :
    (state.history.relays.map Prod.fst).Nodup := by
  rw [named.numbers]
  refine List.Nodup.map_on ?_ List.nodup_range
  intro first low second high same
  have equal := congrArg UInt32.toNat same
  rw [List.mem_range] at low high
  rwa [UInt32.toNat_ofNat', UInt32.toNat_ofNat', Nat.mod_eq_of_lt, Nat.mod_eq_of_lt] at equal
  · exact Nat.lt_of_lt_of_le high bounded
  · exact Nat.lt_of_lt_of_le low bounded

theorem dialing {peer : EndpointId} {keys : List UInt32} {result : Connecting × State P}
    (dialing : Dialing peer keys state result) (named : Named state) : Named result.2 := by
  induction dialing with
  | ensured keys state url key result known _ induction => exact induction (named.noteEnsured known)
  | rejected keys state dial dialKey noq error _ =>
      rcases state.dialRemote_frame dial dialKey with ⟨_, _, _, _, frame⟩
      rw [frame]
      exact named.of_same rfl rfl rfl rfl
  | dialed keys state inserted next dial dialKey noq handle conn upgrades _ _ _ _ _ insertion
      queueing =>
      subst insertion queueing
      rcases state.dialRemote_frame dial dialKey with ⟨_, _, _, _, frame⟩
      rw [frame]
      exact named.of_same rfl rfl rfl rfl
  | _ => exact named.of_same rfl rfl rfl rfl

end Named

/-! ## Waiting for an open -/

def ConnectPhase.waits? (phase : ConnectPhase) : Option String :=
  match phase.ensure? with
  | some (url, .waiting _) => some (normalizeRelayUrl url)
  | _ => none

/-- The relay whose open by another call the call `id` waits for. -/
def Config.waitsFor (config : Config P) (id : Nat) : Option String :=
  match config.calls.get? id with
  | some (.connect _ phase) => phase.waits?
  | _ => none

def Config.failedOpen (config : Config P) : Action → Option String
  | .resume id (.opened (.error _)) =>
      match config.calls.get? id with
      | some (.connect _ phase) => phase.claim.map normalizeRelayUrl
      | _ => none
  | _ => none

/-- The opens that failed since each waiting call began to wait. -/
abbrev Failures := Nat → List String

def Config.watch (log : Failures) (config : Config P) (action : Action) (next : Config P) :
    Failures :=
  fun id =>
    if next.waitsFor id = none then []
    else if config.waitsFor id = next.waitsFor id then
      log id ++ (config.failedOpen action).toList
    else []

variable (P) in
def opening : System (Config P × Failures) Action Abort :=
  (endpoint P).observed (fun _ => []) Config.watch

private theorem Config.waitsFor_eq {config : Config P} {id : Nat} {url : String}
    (waits : config.waitsFor id = some url) :
    ∃ addr phase, config.calls.get? id = some (.connect addr phase) ∧
      phase.waits? = some url := by
  rw [waitsFor] at waits
  split at waits
  · rename_i addr phase found
    exact ⟨addr, phase, found, waits⟩
  · cases waits

private theorem Config.waitsFor_of {config : Config P} {id : Nat} {addr : EndpointAddr}
    {phase : ConnectPhase} (found : config.calls.get? id = some (.connect addr phase)) :
    config.waitsFor id = phase.waits? := by
  rw [waitsFor, found]

private theorem Dialing.watches {peer : EndpointId} {keys : List UInt32} {state : State P}
    {result : Connecting × State P} (dialing : Dialing peer keys state result)
    {phase : ConnectPhase} {url : String} (suspended : result.1 = .suspended phase)
    (waits : phase.waits? = some url) : url ∈ result.2.relayOpening := by
  induction dialing with
  | failed keys state error => cases suspended
  | waiting keys state other _ _ _ _ watched =>
      cases suspended
      rw [ConnectPhase.waits?] at waits
      split at waits
      · rename_i raw started pending
        cases waits
        exact watched raw started pending
      · cases waits
  | claimed keys state other raw claim _ _ _ _ _ =>
      cases suspended
      rw [ConnectPhase.waits?] at waits
      split at waits
      · rename_i url started pending
        rw [ConnectPhase.claim_of_waiting pending] at claim
        cases claim
      · cases waits
  | ensured keys state raw key result _ _ induction => exact induction suspended
  | rejected keys state dial dialKey noq error _ => cases suspended
  | dialed keys state inserted next dial dialKey noq handle conn upgrades _ _ _ _ _ _ _ =>
      cases suspended
      cases waits

/-! ## Opens in flight -/

structure Opens (config : Config P) (log : Failures) : Prop where
  numbered : ∀ id, config.calls.get? id ≠ none → id < config.fresh
  named : Named config.state
  claimed : ∀ url ∈ config.state.relayOpening, ∃ id, Claimed config.calls id url
  watched : ∀ id url, config.waitsFor id = some url → url ∈ config.state.relayOpening ∨
    (∃ key, config.state.relayKeys.get? url = some key) ∨ url ∈ log id

namespace Opens

variable {config next : Config P} {log : Failures} {action : Action}

/-- An open that is over left a key, or its failure is on record. -/
theorem step (opens : Opens config log)
    (numbered : ∀ id, next.calls.get? id ≠ none → id < next.fresh)
    (named : Named next.state)
    (claimed : ∀ url ∈ next.state.relayOpening, ∃ id, Claimed next.calls id url)
    (keys : ∀ url key, config.state.relayKeys.get? url = some key →
      next.state.relayKeys.get? url = some key)
    (over_ : ∀ url ∈ config.state.relayOpening, url ∈ next.state.relayOpening ∨
      (∃ key, next.state.relayKeys.get? url = some key) ∨
      config.failedOpen action = some url)
    (waits : ∀ id url, next.waitsFor id = some url →
      config.waitsFor id = some url ∨ url ∈ next.state.relayOpening) :
    Opens next (config.watch log action next) := by
  refine ⟨numbered, named, claimed, ?_⟩
  intro id url waiting
  rcases waits id url waiting with before | marked
  · have record : config.watch log action next id =
        log id ++ (config.failedOpen action).toList := by
      rw [Config.watch, if_neg (by simp [waiting]), if_pos (before.trans waiting.symm)]
    rw [record]
    rcases opens.watched id url before with marked | ⟨key, known⟩ | failed
    · rcases over_ url marked with still | known | failure
      · exact .inl still
      · exact .inr (.inl known)
      · exact .inr (.inr (List.mem_append_right _ (by simp [failure])))
    · exact .inr (.inl ⟨key, keys url key known⟩)
    · exact .inr (.inr (List.mem_append_left _ failed))
  · exact .inl marked

/-- A step of another task, or of a call that has no open in flight and does not dial. -/
theorem touches (opens : Opens config log) {hands : Bool} {id : Nat}
    (touches : Config.Touches hands id config next)
    (unclaimed : ∀ url, ¬ Claimed config.calls id url) :
    Opens next (config.watch log action next) := by
  rcases touches.state with ⟨conns, queue, closed, closedAt, same⟩
  refine opens.step ?_ ?_ ?_ ?_ ?_ ?_
  · intro other pending
    by_cases own : other = id
    · subst own
      rcases touches.numbered pending with old | new
      · exact Nat.lt_of_lt_of_le (opens.numbered other old) touches.fresh_le
      · exact new
    · rw [touches.others other own] at pending
      exact Nat.lt_of_lt_of_le (opens.numbered other pending) touches.fresh_le
  · rw [same]
    exact opens.named.of_same rfl rfl rfl rfl
  · rw [same]
    intro url marked
    rcases opens.claimed url marked with ⟨other, addr, phase, raw, found, claim, name⟩
    refine ⟨other, addr, phase, raw, ?_, claim, name⟩
    rw [touches.others other]
    · exact found
    · rintro rfl
      exact unclaimed url ⟨addr, phase, raw, found, claim, name⟩
  · rw [same]
    exact fun _ _ known => known
  · rw [same]
    exact fun _ marked => .inl marked
  · intro other url waits
    left
    rcases Config.waitsFor_eq waits with ⟨addr, phase, found, waiting⟩
    have before : config.calls.get? other = some (.connect addr phase) := by
      by_cases own : other = id
      · subst own
        exact touches.undialed addr phase found
      · exact (touches.others other own).symm.trans found
    exact (Config.waitsFor_of before).trans waiting

/-- A stretch of a dial. -/
theorem dialing (opens : Opens config log) {id fresh : Nat} {addr : EndpointAddr}
    {peer : EndpointId} {keys : List UInt32} {between : State P}
    {progress : Connecting × State P} (later : config.fresh ≤ fresh) (own : id < fresh)
    (named : Named between)
    (kept : ∀ url key, config.state.relayKeys.get? url = some key →
      between.relayKeys.get? url = some key)
    (over_ : ∀ url ∈ config.state.relayOpening, url ∈ between.relayOpening ∨
      (∃ key, between.relayKeys.get? url = some key) ∨ config.failedOpen action = some url)
    (others : ∀ url ∈ between.relayOpening, ∃ other, other ≠ id ∧
      Claimed config.calls other url)
    (dialing : Dialing peer keys between progress) :
    Opens (({ config with fresh } : Config P).connecting id addr progress)
      (config.watch log action
        (({ config with fresh } : Config P).connecting id addr progress)) := by
  have fresh_le := Config.connecting_fresh ({ config with fresh } : Config P) id addr progress
  have other_calls : ∀ {other : Nat}, other ≠ id →
      (({ config with fresh } : Config P).connecting id addr progress).calls.get? other =
        config.calls.get? other := fun apart =>
    Config.connecting_other ({ config with fresh } : Config P) id addr progress apart
  have state : (({ config with fresh } : Config P).connecting id addr progress).state =
      progress.2 := by
    rcases Config.connecting_frame ({ config with fresh } : Config P) id addr progress with
      ⟨_, _, _, _, frame⟩
    rw [frame]
  rcases dialing.opens with ⟨sameKeys, opening⟩
  refine opens.step ?_ ?_ ?_ ?_ ?_ ?_
  · intro other pending
    by_cases mine : other = id
    · rw [mine]
      exact Nat.lt_of_lt_of_le own fresh_le
    · rw [other_calls mine] at pending
      exact Nat.lt_of_lt_of_le (opens.numbered other pending) (Nat.le_trans later fresh_le)
  · rw [state]
    exact Named.dialing dialing named
  · rw [state]
    have persists : ∀ url ∈ between.relayOpening, ∃ other,
        Claimed (({ config with fresh } : Config P).connecting id addr progress).calls other
          url := by
      intro url marked
      rcases others url marked with ⟨other, apart, there, phase, raw, found, claim, name⟩
      exact ⟨other, there, phase, raw, (other_calls apart).trans found, claim, name⟩
    intro url marked
    rcases opening with ⟨same, _⟩ | ⟨phase, raw, suspended, claim, _, _, grown⟩
    · exact persists url (same ▸ marked)
    · rw [grown] at marked
      rcases List.mem_cons.mp marked with rfl | old
      · exact ⟨id, addr, phase, raw,
          Config.connecting_own ({ config with fresh } : Config P) id addr suspended, claim, rfl⟩
      · exact persists url old
  · rw [state, sameKeys]
    exact kept
  · rw [state, sameKeys]
    intro url marked
    refine (over_ url marked).imp_left ?_
    intro still
    rcases opening with ⟨same, _⟩ | ⟨_, _, _, _, _, _, grown⟩
    · rw [same]
      exact still
    · rw [grown]
      exact List.mem_cons_of_mem _ still
  · intro other url waits
    rcases Config.waitsFor_eq waits with ⟨there, phase, found, waiting⟩
    by_cases mine : other = id
    · subst mine
      right
      rw [state]
      rcases Config.connecting_calls _ other addr progress found with
        ⟨_, after, suspended, equal⟩ | ⟨apart, _⟩
      · cases equal
        exact dialing.watches suspended waiting
      · exact absurd rfl apart
    · left
      rw [other_calls mine] at found
      exact (Config.waitsFor_of found).trans waiting

theorem bystander (opens : Opens config log) (calls : next.calls = config.calls)
    (fresh : config.fresh ≤ next.fresh) (named : Named next.state)
    (keys : next.state.relayKeys = config.state.relayKeys)
    (opening : next.state.relayOpening = config.state.relayOpening) :
    Opens next (config.watch log action next) := by
  refine opens.step ?_ named ?_ ?_ ?_ ?_
  · intro id pending
    rw [calls] at pending
    exact Nat.lt_of_lt_of_le (opens.numbered id pending) fresh
  · rw [opening, calls]
    exact opens.claimed
  · rw [keys]
    exact fun _ _ known => known
  · rw [opening]
    exact fun _ marked => .inl marked
  · intro id url waits
    rw [Config.waitsFor, calls] at waits
    exact .inl waits

theorem pumped (opens : Opens config log) {state : State P} {pump : Pump}
    {spawned : List Session}
    (step : PumpsRelays config.pump config.state (state, pump, spawned)) :
    Opens (({ config with state, pump } : Config P).addSessions spawned)
      (config.watch log action
        (({ config with state, pump } : Config P).addSessions spawned)) := by
  have later := Config.addSessions_fresh spawned ({ config with state, pump } : Config P)
  rcases Config.addSessions_frame spawned ({ config with state, pump } : Config P) with
    ⟨_, _, frame⟩
  rw [frame] at later ⊢
  cases step with
  | kept same _ =>
      have keys := same.1
      simp only [State.pool, Prod.mk.injEq] at keys
      exact opens.bystander rfl later (opens.named.of_pool same.1) keys.2.1 same.2
  | armed equal _ =>
      dsimp only at equal
      subst equal
      exact opens.bystander rfl later (opens.named.of_same rfl rfl rfl rfl) rfl rfl
  | lost key conn _ _ equal _ =>
      dsimp only at equal
      subst equal
      exact opens.bystander rfl later (opens.named.of_same rfl rfl rfl rfl) rfl rfl

private theorem released_claimed (opens : Opens config log) {id : Nat} {addr : EndpointAddr}
    {phase : ConnectPhase} {url : String}
    (pending : config.calls.get? id = some (.connect addr phase))
    (claim : phase.claim = some url) {name : String}
    (member : name ∈ (config.state.release url).relayOpening) :
    ∃ other, other ≠ id ∧ Claimed config.calls other name := by
  rcases List.mem_filter.mp member with ⟨marked, apart⟩
  rcases opens.claimed name marked with ⟨other, claimed⟩
  refine ⟨other, ?_, claimed⟩
  rintro rfl
  rcases claimed with ⟨_, again, raw, found, holds, rfl⟩
  rw [pending] at found
  cases found
  rw [claim] at holds
  cases holds
  simp at apart

/-- The open a dial claimed resolves. -/
theorem opened (opens : Opens config log) (claims : Claims config.calls config.state)
    {id : Nat} {addr : EndpointAddr} {phase : ConnectPhase} {url : String}
    (pending : config.calls.get? id = some (.connect addr phase))
    (suspended : phase.ensure? = some (url, .opening)) (result : Except String Unit) :
    Opens (({ config with fresh := config.fresh + 1 } : Config P).connecting id addr
        ((config.state.finishOpen url (result.map fun _ => ⟨config.fresh, url⟩)).2.ensured
          config.clock phase
          (config.state.finishOpen url (result.map fun _ => ⟨config.fresh, url⟩)).1))
      (config.watch log (.resume id (.opened result))
        (({ config with fresh := config.fresh + 1 } : Config P).connecting id addr
          ((config.state.finishOpen url (result.map fun _ => ⟨config.fresh, url⟩)).2.ensured
            config.clock phase
            (config.state.finishOpen url (result.map fun _ => ⟨config.fresh, url⟩)).1))) := by
  have claim := ConnectPhase.claim_of_ensure suspended
  have suspends : phase.ensure?.isSome = true := by rw [suspended]; rfl
  have own : Claimed config.calls id (normalizeRelayUrl url) :=
    ⟨addr, phase, url, pending, claim, rfl⟩
  have number : id < config.fresh + 1 :=
    Nat.lt_succ_of_lt (opens.numbered id (by simp [pending]))
  have unknown := claims.unknown _ (claims.marked id _ own)
  have others : ∀ name ∈ (config.state.release url).relayOpening, ∃ other, other ≠ id ∧
      Claimed config.calls other name := fun _ => opens.released_claimed pending claim
  have still : ∀ name ∈ config.state.relayOpening, name ≠ normalizeRelayUrl url →
      name ∈ (config.state.release url).relayOpening := by
    intro name marked apart
    exact List.mem_filter.mpr ⟨marked, by simpa using apart⟩
  have released : Named (config.state.release url) := opens.named.of_same rfl rfl rfl rfl
  cases result with
  | error detail =>
      have dials : Dialing phase.peer phase.keys (config.state.release url)
          ((config.state.release url).ensured config.clock phase
            (.error (.connectFailed s!"relay {url}: {detail}"))) := by
        refine Dialing.resumed _ _ phase _ suspends ?_ (List.Subset.refl _) ?_
        · intro key impossible
          cases impossible
        · rintro error ⟨⟩
          rfl
      refine opens.dialing (Nat.le_succ _) number released (fun _ _ known => known) ?_ others
        dials
      intro name marked
      by_cases same : name = normalizeRelayUrl url
      · right
        right
        rw [Config.failedOpen, pending]
        simp [claim, same]
      · exact .inl (still name marked same)
  | ok success =>
      have registered : (((config.state.release url).registerRelay url
          ⟨config.fresh, url⟩).2).relayKeys.get? (normalizeRelayUrl url) =
            some config.state.nextRelayKey := by
        simp [State.registerRelay, State.release]
      have dials : Dialing phase.peer (config.state.nextRelayKey :: phase.keys)
          ((((config.state.release url).registerRelay url
            ⟨config.fresh, url⟩).2).noteEnsured url config.state.nextRelayKey)
          (((((config.state.release url).registerRelay url
            ⟨config.fresh, url⟩).2).noteEnsured url config.state.nextRelayKey).ensured
              config.clock phase (.ok config.state.nextRelayKey)) := by
        refine Dialing.resumed _ _ phase _ suspends ?_ (List.subset_cons_self _ _) (by simp)
        intro key same
        cases same
        exact List.mem_cons_self
      refine opens.dialing (Nat.le_succ _) number
        ((released.register unknown rfl).noteEnsured registered) ?_ ?_ others dials
      · intro name key known
        change (config.state.relayKeys.set (normalizeRelayUrl url)
          config.state.nextRelayKey).get? name = some key
        rw [Table.get?_set, if_neg]
        · exact known
        · rintro rfl
          rw [unknown] at known
          cases known
      · intro name marked
        by_cases same : name = normalizeRelayUrl url
        · right
          left
          rw [same]
          exact ⟨_, registered⟩
        · exact .inl (still name marked same)

theorem dials (opens : Opens config log) {id fresh : Nat} {addr : EndpointAddr}
    {peer : EndpointId} {keys : List UInt32} {progress : Connecting × State P}
    (later : config.fresh ≤ fresh) (own : id < fresh)
    (unclaimed : ∀ url, ¬ Claimed config.calls id url)
    (dialing : Dialing peer keys config.state progress) :
    Opens (({ config with fresh } : Config P).connecting id addr progress)
      (config.watch log action
        (({ config with fresh } : Config P).connecting id addr progress)) := by
  refine opens.dialing later own opens.named (fun _ _ known => known)
    (fun _ marked => .inl marked) ?_ dialing
  intro url marked
  rcases opens.claimed url marked with ⟨other, claimed⟩
  refine ⟨other, ?_, claimed⟩
  rintro rfl
  exact unclaimed url claimed

private theorem unclaimed_fresh (opens : Opens config log) (url : String) :
    ¬ Claimed config.calls config.fresh url := by
  rintro ⟨addr, phase, raw, found, _⟩
  exact Nat.lt_irrefl _ (opens.numbered config.fresh (by simp [found]))

theorem invoked (opens : Opens config log) {method : Method}
    (ran : config.invoke method = .ok next) : Opens next (config.watch log action next) := by
  rcases Config.invoke_cases ran with ⟨addr, alpn, rfl, rfl⟩ | ⟨_, _, rfl⟩ | ⟨_, touched⟩
  · rcases Dialing.connect config.state config.clock config.udp addr alpn
      (List.mem_singleton.mpr rfl) with ⟨_, failed⟩ | ⟨peer, _, dialing⟩
    · rw [failed]
      exact opens.touches (.refused config addr _) opens.unclaimed_fresh
    · exact opens.dials (Nat.le_succ _) (Nat.lt_succ_self _) opens.unclaimed_fresh dialing
  · exact opens.step opens.numbered opens.named opens.claimed (fun _ _ found => found)
      (fun _ opening => .inl opening) (fun _ _ waits => .inl waits)
  · exact opens.touches touched opens.unclaimed_fresh

theorem polled (opens : Opens config log) (claims : Claims config.calls config.state)
    {id : Nat} {call : Call} {input : CallInput} (pending : config.calls.get? id = some call)
    (ran : config.resumeCall id call input = .ok next) :
    Opens next (config.watch log (.resume id input) next) := by
  have number := opens.numbered id (by simp [pending])
  cases dials : call.dials with
  | false =>
      refine opens.touches (Config.resumeCall_touches pending dials ran) ?_
      rintro url ⟨addr, phase, raw, found, _⟩
      rw [pending] at found
      cases found
      cases dials
  | true =>
      cases call <;> try cases dials
      rename_i addr phase
      have idle : phase.claim = none → ∀ url, ¬ Claimed config.calls id url := by
        rintro none_ url ⟨_, _, raw, found, claim, _⟩
        rw [pending] at found
        cases found
        rw [none_] at claim
        cases claim
      rcases Config.resumeConnect_cases ran with ⟨url, result, suspended, rfl, rfl⟩ |
        ⟨url, started, suspended, rfl, ⟨_, rfl⟩ | ⟨result, polled, rfl⟩⟩ | ⟨handshake, touched⟩
      · exact opens.opened claims pending suspended result
      · exact opens.bystander rfl (Nat.le_refl _) opens.named rfl rfl
      · have dialing := Dialing.pollEnsure config.clock started phase
          (by rw [suspended]; rfl) (Prod.ext polled rfl)
        exact opens.dials (Nat.le_refl _) number
          (idle (ConnectPhase.claim_of_waiting suspended)) dialing
      · refine opens.touches touched (idle ?_)
        rw [ConnectPhase.claim, handshake]

theorem initially (noq : P.Endpoint) (webrtc udp : Bool) (relay : String) (clock : Instant) :
    Opens (Config.bind noq webrtc udp relay clock) (fun _ => []) := by
  refine ⟨?_, ⟨?_, ?_, ⟨⟨0, relay⟩, [], rfl, ?_⟩, ?_, rfl, rfl⟩, ?_, ?_⟩
  · intro id pending
    simp [Config.bind] at pending
  · simp [Config.bind, State.new, State.registerRelay]
  · intro url key
    simp only [Config.bind, State.new, State.registerRelay, Table.get?_set]
    by_cases same : url = normalizeRelayUrl relay
    · simp [relayName, same]
    · simp [relayName, same, Ne.symm same]
  · simp [Config.bind, State.new, State.registerRelay, homeRelay]
  · intro record member
    cases member
  · intro url member
    cases member
  · intro id url waits
    rcases Config.waitsFor_eq waits with ⟨addr, phase, found, _⟩
    simp [Config.bind] at found

end Opens

theorem opening_opens {config : Config P} {log : Failures}
    (reached : (opening P).Reachable (config, log)) :
    (endpoint P).Reachable config ∧ Opens config log := by
  refine System.observed.reachable_invariant Opens ?_ ?_ reached
  · rintro config ⟨noq, webrtc, udp, relay, clock, url, _, rfl⟩
    exact Opens.initially noq webrtc udp relay clock
  · intro config log action next reachable opens stepped
    have claims := (reachable_relays reachable).claims
    cases Config.step_acts stepped with
    | advanced elapsed => exact opens.bystander rfl (Nat.le_refl _) opens.named rfl rfl
    | pumped input state pump spawned ran => exact opens.pumped (Pump.resume_step ran).relays
    | resumed id input session after registration state _ found ran =>
        have same := StateSteps.pool (StateSteps.resumes (Session.resumes ran)) rfl
        have keys := same.1
        simp only [State.pool, Prod.mk.injEq] at keys
        exact opens.bystander rfl (Nat.le_succ _) (opens.named.of_pool same.1) keys.2.1 same.2
    | invoked method next _ ran => exact opens.invoked ran
    | polled id input call next _ pending ran => exact opens.polled claims pending ran

/-! ## Single flight -/

private theorem unmarked_of_failed {state : State P} {now started : Instant} {url : String}
    (polled : (state.pollEnsure now started url).1 =
      some (.error (.connectFailed "a concurrent open of this relay failed"))) :
    normalizeRelayUrl url ∉ state.relayOpening := by
  rw [State.pollEnsure] at polled
  split at polled
  · cases polled
  · split at polled
    · assumption
    · split at polled
      · cases polled
      · split at polled
        · simp at polled
        · cases polled

/-- At most one open of a URL is in flight, and the mark stands exactly while it is; a
marked URL has no key. A URL is registered once, under a key of its own while fewer than
2^32 are registered, and every `ensure_relay` of it that succeeds gives that key, without
an open for the home relay. A caller is told that a concurrent open failed only if one of
that URL failed while it waited. -/
theorem relay_opens_single_flight {config : Config P} {log : Failures}
    (reached : (opening P).Reachable (config, log)) :
    (∀ id other url, Claimed config.calls id url → Claimed config.calls other url →
      id = other) ∧
    (∀ url, url ∈ config.state.relayOpening ↔ ∃ id, Claimed config.calls id url) ∧
    (∀ url ∈ config.state.relayOpening, config.state.relayKeys.get? url = none) ∧
    (config.state.history.relays.map relayName).Nodup ∧
    (config.state.history.relays.length ≤ 2 ^ 32 →
      (config.state.history.relays.map Prod.fst).Nodup) ∧
    (∀ first ∈ config.state.history.ensured, ∀ second ∈ config.state.history.ensured,
      normalizeRelayUrl first.url = normalizeRelayUrl second.url → first.key = second.key) ∧
    (∃ home rest, config.state.history.relays = (homeRelay, home) :: rest ∧
      ∀ url now, normalizeRelayUrl url = normalizeRelayUrl home.server →
        config.state.beginEnsure now url =
          (.resolved (.ok homeRelay), config.state.noteEnsured url homeRelay)) ∧
    (∀ id addr phase url started, config.calls.get? id = some (.connect addr phase) →
      phase.ensure? = some (url, .waiting started) →
      (config.state.pollEnsure config.clock started url).1 =
        some (.error (.connectFailed "a concurrent open of this relay failed")) →
      normalizeRelayUrl url ∈ log id) := by
  rcases opening_opens reached with ⟨reachable, opens⟩
  have claims := (reachable_relays reachable).claims
  refine ⟨claims.alone, ?_, claims.unknown, opens.named.distinct, opens.named.keys_nodup,
    ?_, ?_, ?_⟩
  · intro url
    refine ⟨opens.claimed url, ?_⟩
    rintro ⟨id, claimed⟩
    exact claims.marked id url claimed
  · intro first member second other same
    have found := opens.named.ensured first member
    rw [same, opens.named.ensured second other] at found
    exact (Option.some.inj found).symm
  · rcases opens.named.home with ⟨home, rest, equal, keyed⟩
    refine ⟨home, rest, equal, ?_⟩
    intro url now same
    rw [State.beginEnsure, same, keyed]
  · intro id addr phase url started pending suspended polled
    have waits : config.waitsFor id = some (normalizeRelayUrl url) := by
      rw [Config.waitsFor_of pending, ConnectPhase.waits?, suspended]
    rcases opens.watched id _ waits with marked | ⟨key, known⟩ | failed
    · exact absurd marked (unmarked_of_failed polled)
    · rw [State.pollEnsure, known] at polled
      cases polled
    · exact failed

def openTwice : List Action :=
  List.flatten [Slab.turn [] 0,
    [.invoke (.connect ⟨(Slab.peer 7).bytes, [.relay "a://far"]⟩ []),
      .invoke (.connect ⟨(Slab.peer 9).bytes, [.relay "a://far/"]⟩ []),
      .resume 1 (.opened (.error "refused"))]]

theorem relay_opens_single_flight_failed :
    ∃ (config : Config Slab.platform) (log : Failures),
      (opening Slab.platform).Reachable (config, log) ∧
      config.waitsFor 2 = some (normalizeRelayUrl "a://far") ∧
      (config.state.pollEnsure config.clock 0 "a://far/").1 =
        some (.error (.connectFailed "a concurrent open of this relay failed")) ∧
      normalizeRelayUrl "a://far/" ∈ log 2 := by
  have passed : (opening Slab.platform).runs (fun _ _ => true)
      (Slab.bound true false, fun _ => []) openTwice
      (fun start => decide (start.1.calls.get? 2 = some (.connect
          ⟨(Slab.peer 9).bytes, [.relay "a://far/"]⟩ (.dialRelay
            ⟨Slab.peer 9, [], none, some "a://far/", none⟩ "a://far/" (.waiting 0)))) &&
        decide ((start.1.state.pollEnsure start.1.clock 0 "a://far/").1 =
          some (.error (.connectFailed "a concurrent open of this relay failed")))) =
      true := by decide +kernel
  have initial : (opening Slab.platform).Initial (Slab.bound true false, fun _ => []) :=
    ⟨Slab.bound_initial true false, rfl⟩
  rcases System.Reachable.of_runs initial passed with ⟨⟨config, log⟩, reached, tested⟩
  simp only [Bool.and_eq_true, decide_eq_true_eq] at tested
  rcases tested with ⟨pending, failed⟩
  rcases relay_opens_single_flight reached with ⟨_, _, _, _, _, _, _, waiters⟩
  refine ⟨config, log, reached, ?_, failed, ?_⟩
  · rw [Config.waitsFor_of pending]
    decide
  · exact waiters 2 _ _ "a://far/" 0 pending rfl failed

end IrohEndpoint
