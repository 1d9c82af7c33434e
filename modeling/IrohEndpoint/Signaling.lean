import IrohEndpoint.ConfigSteps
import IrohEndpoint.Routing
import IrohEndpoint.Slab

/-! # Signaling slots and the relay a channel falls back to

A live session holds its peer's slot, which keeps the relay it was claimed with.
`registerChannel` reads the fallback relay back from the slot, so what a channel
falls back to depends on whether the session still holds its slot by then. -/

namespace IrohEndpoint

variable {P : Platform}

/-- The relay a channel falls back to, by the role of the session that registers it:
the offerer has released its slot by then. -/
def Role.fallback : Role → UInt32 → UInt32
  | .offerer, _ => homeRelay
  | .answerer, via => via

structure Slots (config : Config P) : Prop where
  claimed : ∀ id session, config.sessions.get? id = some session → session.live = true →
    config.state.signaling.get? session.peer = some session.via
  alone : ∀ id other session rival, config.sessions.get? id = some session →
    config.sessions.get? other = some rival → session.live = true → rival.live = true →
    session.peer = rival.peer → id = other
  fallbacks : ∀ registration ∈ config.registrations,
    registration.entry.peer = registration.peer ∧
      registration.entry.fallbackRelay = registration.role.fallback registration.via

/-! ## Sessions -/

namespace Slots

variable {config : Config P} {session : Session}

private theorem no_rival (slots : Slots config) {id : Nat}
    (found : config.sessions.get? id = some session)
    (holds : session.live = true ∨ config.state.signaling.get? session.peer = none)
    {other : Nat} {rival : Session} (different : other ≠ id)
    (lookup : config.sessions.get? other = some rival) (live : rival.live = true) :
    rival.peer ≠ session.peer := by
  intro same
  rcases holds with held | empty
  · exact different (slots.alone other id rival session lookup found live held same)
  · have claimed := slots.claimed other rival lookup live
    rw [same, empty] at claimed
    cases claimed

/-- One session moves; the slots of the other live sessions stay. -/
theorem moved (slots : Slots config) (id : Nat) (after : Session) (state : State P)
    (registrations : List Registration) (fresh : Nat)
    (others : ∀ other rival, other ≠ id → config.sessions.get? other = some rival →
      rival.live = true →
      state.signaling.get? rival.peer = config.state.signaling.get? rival.peer ∧
        (after.live = true → rival.peer ≠ after.peer))
    (keeps : after.live = true → state.signaling.get? after.peer = some after.via)
    (registered : ∀ registration ∈ registrations,
      registration.entry.peer = registration.peer ∧
        registration.entry.fallbackRelay = registration.role.fallback registration.via) :
    Slots ({ config with
      state
      sessions := config.sessions.set id after
      registrations := config.registrations ++ registrations
      fresh } : Config P) := by
  refine ⟨?_, ?_, ?_⟩
  · intro other rival lookup live
    simp only [Table.get?_set] at lookup
    split at lookup
    · cases lookup
      exact keeps live
    · rename_i different
      dsimp only
      rw [(others other rival different lookup live).1]
      exact slots.claimed other rival lookup live
  · intro first second one two firstLookup secondLookup firstLive secondLive same
    simp only [Table.get?_set] at firstLookup secondLookup
    split at firstLookup <;> rename_i firstId <;> split at secondLookup <;>
      rename_i secondId
    · rw [firstId, secondId]
    · cases firstLookup
      exact absurd same.symm ((others second two secondId secondLookup secondLive).2 firstLive)
    · cases secondLookup
      exact absurd same ((others first one firstId firstLookup firstLive).2 secondLive)
    · exact slots.alone first second one two firstLookup secondLookup firstLive secondLive
        same
  · intro registration member
    rcases List.mem_append.mp member with old | new
    · exact slots.fallbacks registration old
    · exact registered registration new

/-- A session that holds its slot, or finds it empty, moves and only its own slot
with it. -/
theorem resumed (slots : Slots config) {id : Nat}
    (found : config.sessions.get? id = some session)
    (holds : session.live = true ∨ config.state.signaling.get? session.peer = none)
    (after : Session) (state : State P) (registrations : List Registration) (fresh : Nat)
    (samePeer : after.peer = session.peer)
    (elsewhere : ∀ peer, peer ≠ session.peer →
      state.signaling.get? peer = config.state.signaling.get? peer)
    (keeps : after.live = true → state.signaling.get? after.peer = some after.via)
    (registered : ∀ registration ∈ registrations,
      registration.entry.peer = registration.peer ∧
        registration.entry.fallbackRelay = registration.role.fallback registration.via) :
    Slots ({ config with
      state
      sessions := config.sessions.set id after
      registrations := config.registrations ++ registrations
      fresh } : Config P) := by
  refine slots.moved id after state registrations fresh ?_ keeps registered
  intro other rival different lookup live
  have apart := slots.no_rival found holds different lookup live
  exact ⟨elsewhere _ apart, fun _ => samePeer ▸ apart⟩

end Slots

/-! ## Registrations -/

/-- A session's registration is the entry that went into the channel table: the
session's peer, and the relay its slot held at that moment. -/
private theorem Session.register_cases (session : Session) (state : State P) (wire : ChannelWire) :
    ((session.register state wire).1 = none ∧
      (session.register state wire).2.2.history.channels = state.history.channels) ∨
    ∃ registration : Registration, (session.register state wire).1 = some registration ∧
      (session.register state wire).2.2.history.channels =
        state.history.channels ++ [(registration.id, registration.entry)] ∧
      registration.role = session.role ∧ registration.peer = session.peer ∧
      registration.via = session.via ∧ registration.entry.peer = session.peer ∧
      registration.entry.fallbackRelay =
        (state.signaling.get? session.peer).getD homeRelay := by
  rcases registerChannel_cases state session.peer wire with
    ⟨refused, closed⟩ | ⟨entry, alive, made, registered⟩
  · left
    rw [Session.register, State.registerChannel, if_pos refused]
    exact ⟨rfl, rfl⟩
  · right
    have sighted := addrForPeer_channels (state.withChannel entry) session.peer
      entry.fallbackRelay
    have answer : (state.registerChannel session.peer wire).1 = .ok () := by
      rw [State.registerChannel, if_neg (by simp [alive])]
    rw [Session.register]
    split
    · rename_i error next equal
      rw [equal] at answer
      cases answer
    · rename_i next equal
      rw [equal] at registered
      dsimp only at registered ⊢
      have id : next.nextChannelId = state.nextChannelId + 1 := by
        rw [registered]
        exact sighted.2.1
      have stored : next.channels.get? next.nextChannelId = some entry := by
        rw [id, registered]
        dsimp only
        rw [sighted.1, State.withChannel, Table.get?_set, if_pos rfl]
      refine ⟨⟨session.role, session.peer, session.via, next.nextChannelId, entry⟩,
        by rw [stored]; rfl, ?_, rfl, rfl, rfl, by rw [made], by rw [made]; rfl⟩
      rw [id, registered]
      dsimp only
      rw [sighted.2.2]
      rfl

private theorem Session.register_some (session : Session) (state : State P) (wire : ChannelWire)
    {registration : Registration} (made : registration ∈ (session.register state wire).1) :
    registration.role = session.role ∧ registration.peer = session.peer ∧
      registration.via = session.via ∧ registration.entry.peer = session.peer ∧
      registration.entry.fallbackRelay =
        (state.signaling.get? session.peer).getD homeRelay := by
  rcases session.register_cases state wire with ⟨refused, _⟩ | ⟨other, answer, _, facts⟩
  · rw [refused] at made
    cases made
  · rw [answer] at made
    cases made
    exact facts

theorem Session.register_signaling (session : Session) (state : State P)
    (wire : ChannelWire) :
    (session.register state wire).2.2.signaling = state.signaling := by
  rcases state.registerChannel_frame session.peer wire with ⟨_, _, _, _, _, _, _, _, _, frame⟩
  rw [Session.register]
  split <;> rename_i next answer <;> rw [answer] at frame <;> dsimp only at frame ⊢ <;>
    rw [frame]

private theorem Session.ended_not_live {session : Session} {result : Except Error Unit}
    (ended : session.phase = .ended result) : session.live ≠ true := by
  rcases session with ⟨role, _, _, _, phase, _⟩
  cases ended
  cases role <;> simp [Session.live]

theorem Slots.resumes {config : Config P} (slots : Slots config) {id : Nat}
    {session after : Session} (found : config.sessions.get? id = some session)
    {registration : Option Registration} {state : State P}
    (resumes : session.Resumes config.clock ⟨config.fresh⟩ config.state
      (after, registration, state)) :
    Slots ({ config with
      state
      sessions := config.sessions.set id after
      registrations := config.registrations ++ registration.toList
      fresh := config.fresh + 1 } : Config P) := by
  have ended : ∀ {session : Session} {result : Except Error Unit},
      session.phase = .ended result → session.live = true →
      state.signaling.get? session.peer = some session.via :=
    fun phase live => absurd live (Session.ended_not_live phase)
  have released : ∀ {before : State P} (peer : EndpointId),
      before.signaling = config.state.signaling → peer ≠ session.peer →
      (before.endSignaling session.peer).signaling.get? peer =
        config.state.signaling.get? peer := by
    intro before peer same different
    simp [State.endSignaling, different, same]
  generalize equal : (after, registration, state) = resumed at resumes
  cases resumes with
  | refused error offerer spawned taken =>
      cases equal
      -- the slot is another session's: this one held none and holds none now
      refine slots.moved id _ _ [] _ ?_ (ended rfl) (by simp)
      intro other rival different lookup live
      exact ⟨rfl, fun live => absurd live (Session.ended_not_live rfl)⟩
  | claimed offerer spawned empty =>
      cases equal
      refine slots.resumed found (.inr empty) _ _ [] _ rfl ?_ ?_ (by simp)
      · intro peer different
        simp [different]
      · intro _
        simp
  | claimedFailed error offerer spawned empty =>
      cases equal
      refine slots.resumed found (.inr empty) _ _ [] _ rfl ?_ (ended rfl) (by simp)
      intro peer different
      simp [State.endSignaling, different]
  | continued after next role peer via live alive quiet =>
      cases equal
      rcases quiet.frame with ⟨_, _, rfl⟩
      refine slots.resumed found (.inl live) _ _ [] _ peer (fun _ _ => rfl) ?_ (by simp)
      intro _
      rw [peer, via]
      exact slots.claimed id session found live
  | failed started next error live quiet =>
      cases equal
      rcases quiet.frame with ⟨_, _, rfl⟩
      exact slots.resumed found (.inl live) _ _ [] _ rfl
        (fun peer different => released peer rfl different) (ended rfl) (by simp)
  | upgraded offerer live =>
      cases equal
      refine slots.resumed found (.inl live) _ _ _ _ rfl ?_ (ended rfl) ?_
      · intro peer different
        have kept := Session.register_signaling session
          (config.state.endSignaling session.peer) ⟨config.fresh⟩
        exact (congrArg (Table.get? · peer) kept).trans (released peer rfl different)
      · intro registration member
        rcases session.register_some (config.state.endSignaling session.peer)
          ⟨config.fresh⟩ (Option.mem_toList.mp member) with
          ⟨role, peer, via, owner, fallback⟩
        rw [owner, fallback, peer, role, offerer]
        simp [State.endSignaling, Role.fallback]
  | answered answerer live =>
      cases equal
      refine slots.resumed found (.inl live) _ _ _ _ rfl ?_ (ended rfl) ?_
      · intro peer different
        exact released peer (Session.register_signaling session config.state _) different
      · intro registration member
        rcases session.register_some config.state ⟨config.fresh⟩
          (Option.mem_toList.mp member) with ⟨role, peer, via, owner, fallback⟩
        rw [owner, fallback, peer, role, answerer, via, slots.claimed id session found live]
        exact ⟨rfl, rfl⟩

/-! ## The other tasks -/

theorem addSessions_sessions (spawned : List Session) (config : Config P) {id : Nat}
    {session : Session}
    (found : (config.addSessions spawned).sessions.get? id = some session) :
    config.sessions.get? id = some session ∨ session ∈ spawned := by
  induction spawned generalizing config with
  | nil => exact .inl found
  | cons head rest induction =>
      rcases induction _ found with old | new
      · rw [Table.get?_set] at old
        split at old
        · cases old
          exact .inr (by simp)
        · exact .inl old
      · exact .inr (by simp [new])

private theorem Slots.of_live {config next : Config P} (slots : Slots config)
    (sessions : ∀ id session, next.sessions.get? id = some session →
      session.live = true → config.sessions.get? id = some session)
    (signaling : next.state.signaling = config.state.signaling)
    (registrations : next.registrations = config.registrations) : Slots next := by
  refine ⟨?_, ?_, ?_⟩
  · intro id session found live
    rw [signaling]
    exact slots.claimed id session (sessions id session found live) live
  · intro id other session rival found lookup live rivalLive same
    exact slots.alone id other session rival (sessions id session found live)
      (sessions other rival lookup rivalLive) live rivalLive same
  · rw [registrations]
    exact slots.fallbacks

theorem handleSignal_cases (state : State P) (via : UInt32) (source : EndpointId)
    (payload : Bytes) :
    ((state.handleSignal via source payload).1 = [] ∧
      (state.handleSignal via source payload).2.signaling = state.signaling) ∨
    (state.signaling.get? source = none ∧
      (state.handleSignal via source payload).1 =
        [⟨.answerer, source, via, 0, .spawned, []⟩] ∧
      (state.handleSignal via source payload).2.signaling =
        state.signaling.set source via) := by
  rw [State.handleSignal]
  split
  · exact .inl ⟨rfl, rfl⟩
  · cases taken : state.signaling.contains source with
    | true => exact .inl ⟨rfl, rfl⟩
    | false => exact .inr ⟨by simpa [Table.contains] using taken, rfl, rfl⟩

theorem Slots.pumped {config : Config P} (slots : Slots config) {state : State P}
    {pump : Pump} {spawned : List Session}
    (move : PumpMove config.state (state, pump, spawned)) :
    Slots (({ config with state, pump } : Config P).addSessions spawned) := by
  have offerers : (∀ session ∈ spawned, session.live = false) →
      state.signaling = config.state.signaling →
      Slots (({ config with state, pump } : Config P).addSessions spawned) := by
    intro silent same
    rcases Config.addSessions_frame spawned ({ config with state, pump } : Config P) with
      ⟨_, _, frame⟩
    refine slots.of_live ?_ (by rw [frame]; exact same) (by rw [frame])
    intro id session found live
    rcases addSessions_sessions spawned _ found with old | new
    · exact old
    · rw [silent session new] at live
      cases live
  cases move with
  | drain steps none =>
      dsimp only at none
      subst none
      exact offerers (by simp) (StateSteps.signaling steps (by simp) (by simp)).1
  | pump task own steps silent =>
      exact offerers silent (StateSteps.signaling steps (by rintro rfl; cases own)
        (by rintro rfl; cases own)).1
  | signal via source payload equal spawns =>
      dsimp only at equal spawns
      subst equal spawns
      rcases handleSignal_cases config.state via source payload with
        ⟨none, same⟩ | ⟨empty, one, claimed⟩
      · rw [none] at offerers ⊢
        exact offerers (by simp) same
      · rw [one]
        have added := slots.moved config.fresh ⟨.answerer, source, via, 0, .spawned, []⟩
          (config.state.handleSignal via source payload).2 [] (config.fresh + 1) ?_ ?_ (by simp)
        · exact ⟨added.claimed, added.alone, slots.fallbacks⟩
        · intro other rival _ lookup live
          have held := slots.claimed other rival lookup live
          have apart : rival.peer ≠ source := by
            rintro rfl
            rw [empty] at held
            cases held
          exact ⟨by rw [claimed, Table.get?_set, if_neg apart], fun _ => apart⟩
        · intro _
          rw [claimed, Table.get?_set, if_pos rfl]

theorem dialTask_quiet (opened : Bool) :
    StateSteps.dialTask opened ≠ .signal ∧ StateSteps.dialTask opened ≠ .session := by
  cases opened <;> simp [StateSteps.dialTask]

theorem reachable_slots {config : Config P} (reached : (endpoint P).Reachable config) :
    Slots config := by
  apply reached.invariant Slots
  · rintro config ⟨noq, webrtc, udp, relay, clock, url, _, rfl⟩
    refine ⟨?_, ?_, ?_⟩ <;> simp [Config.bind]
  · intro config action next slots _ stepped
    cases Config.step_move stepped with
    | advanced elapsed => exact ⟨slots.claimed, slots.alone, slots.fallbacks⟩
    | pumped state pump spawned step => exact slots.pumped step.move
    | resumed id session after registration state _ found resumes =>
        exact slots.resumes found resumes
    | called next _ step =>
        have kept := StateSteps.signaling step.state (dialTask_quiet _).1 (dialTask_quiet _).2
        rcases step.frame with ⟨state, _, _, _, _, _, rfl⟩
        exact slots.of_live (fun _ _ found _ => found) kept.1 rfl

/-! ## Every channel has a session -/

def Registration.record (registration : Registration) : UInt32 × ChannelEntry :=
  (registration.id, registration.entry)

private theorem resumes_channels {session after : Session} {now : Instant} {wire : ChannelWire}
    {state next : State P} {registration : Option Registration}
    (resumes : session.Resumes now wire state (after, registration, next)) :
    next.history.channels =
      state.history.channels ++ registration.toList.map Registration.record := by
  have registered : ∀ before : State P,
      (session.register before wire).2.2.history.channels =
        before.history.channels ++
          (session.register before wire).1.toList.map Registration.record := by
    intro before
    rcases session.register_cases before wire with ⟨none, same⟩ | ⟨made, some, grown, _⟩
    · rw [none, same]
      simp
    · rw [some, grown]
      rfl
  generalize equal : (after, registration, next) = resumed at resumes
  cases resumes with
  | continued after next _ _ _ _ _ quiet =>
      rcases quiet.frame with ⟨_, _, rfl⟩
      cases equal
      simp
  | failed started next error _ quiet =>
      rcases quiet.frame with ⟨_, _, rfl⟩
      cases equal
      simp [State.endSignaling]
  | upgraded offerer live =>
      cases equal
      exact registered (state.endSignaling session.peer)
  | answered answerer live =>
      cases equal
      exact registered state
  | _ =>
      cases equal
      simp [State.endSignaling]

private theorem reachable_registrations {config : Config P}
    (reached : (endpoint P).Reachable config) :
    config.state.history.channels = config.registrations.map Registration.record := by
  apply reached.invariant (fun config : Config P =>
    config.state.history.channels = config.registrations.map Registration.record)
  · rintro config ⟨noq, webrtc, udp, relay, clock, url, _, rfl⟩
    rfl
  · intro config action next same _ stepped
    cases Config.step_move stepped with
    | advanced elapsed => exact same
    | pumped state pump spawned step =>
        have kept : state.history.channels = config.state.history.channels := by
          cases step.move with
          | drain steps _ => exact (StateSteps.signaling steps (by simp) (by simp)).2.2
          | pump task own steps _ =>
              exact (StateSteps.signaling steps (by rintro rfl; cases own)
                (by rintro rfl; cases own)).2.2
          | signal via source payload equal _ =>
              dsimp only at equal
              rw [equal, State.handleSignal]
              split
              · rfl
              · dsimp only
                split <;> rfl
        rcases Config.addSessions_frame spawned ({ config with state, pump } : Config P) with
          ⟨_, _, frame⟩
        rw [frame]
        exact kept.trans same
    | resumed id session after registration state _ found resumes =>
        dsimp only
        rw [resumes_channels resumes, same, List.map_append]
    | called next _ step =>
        have kept := StateSteps.signaling step.state (dialTask_quiet _).1 (dialTask_quiet _).2
        rcases step.frame with ⟨state, _, _, _, _, _, rfl⟩
        exact kept.2.2.trans same

/-! ## The relay a channel falls back to -/

private theorem retireChannel_route {state : State P} {id : UInt32} {entry : ChannelEntry}
    {addr : SocketAddr} (found : state.channels.get? id = some entry)
    (standin : state.peerToAddr.get? entry.peer = some addr)
    (routed : state.routes.get? addr = some (.channel id)) :
    (state.retireChannel id).routes.get? addr = some (.relay entry.fallbackRelay) := by
  rw [State.retireChannel, found]
  dsimp only
  rw [standin]
  dsimp only
  rw [if_pos routed]
  simp

/-- Every channel belongs to the session that registered it. It falls back to the
relay of that session's slot, and so does its peer when it is retired, exactly for
answerers and for sessions through the home relay. -/
theorem channel_fallback_relay {config : Config P}
    (reached : (endpoint P).Reachable config) :
    config.state.history.channels = config.registrations.map Registration.record ∧
    ∀ registration ∈ config.registrations,
      (registration.entry.peer = registration.peer ∧
          registration.entry.fallbackRelay = registration.via ↔
        registration.role = .answerer ∨ registration.via = homeRelay) ∧
      ∀ addr, config.state.channels.get? registration.id = some registration.entry →
        config.state.peerToAddr.get? registration.peer = some addr →
        config.state.routes.get? addr = some (.channel registration.id) →
        ((config.state.retireChannel registration.id).routes.get? addr =
            some (.relay registration.via) ↔
          registration.role = .answerer ∨ registration.via = homeRelay) := by
  refine ⟨reachable_registrations reached, ?_⟩
  intro registration member
  rcases (reachable_slots reached).fallbacks registration member with ⟨owner, fallback⟩
  have exact_when : registration.role.fallback registration.via = registration.via ↔
      registration.role = .answerer ∨ registration.via = homeRelay := by
    cases registration.role with
    | offerer => simp [Role.fallback, eq_comm]
    | answerer => simp [Role.fallback]
  refine ⟨?_, ?_⟩
  · rw [fallback, owner, exact_when]
    simp
  · intro addr found standin routed
    rw [retireChannel_route found (owner ▸ standin) routed, fallback]
    simpa using exact_when

/-- A dial with a WebRTC hint whose offerer runs its dance to the end, through the
relay at `relay` of the receives. -/
def offererDance (url : String) (opening : List Action) (relay session : Nat) :
    List Action :=
  List.flatten [Slab.turn [] 0,
    [.invoke (.connect ⟨(Slab.peer 7).bytes, [.webrtc url]⟩ [])], opening,
    [.pump .tick], Slab.turn [0] 1,
    [.session session (.dataChannel (.ok ())),
      .pump (.relayEvent relay (.ok ⟨Slab.peer 7, [0, 2]⟩))], Slab.turn [0] 0,
    [.pump (.relayEvent relay (.ok ⟨Slab.peer 7, [0, 5]⟩))], Slab.turn [0] 0,
    [.session session (.description (.ok "")), .session session (.done (.ok ())),
      .session session (.candidates [] true), .session session (.done (.ok ())),
      .session session (.done (.ok ())), .session session (.states [.open] false)]]

/-- The offerer signaled through relay 1, and its channel falls back to relay 0. -/
theorem channel_fallback_relay_lost :
    ∃ config : Config Slab.platform, (endpoint Slab.platform).Reachable config ∧
      ∃ registration ∈ config.registrations, registration.role = .offerer ∧
        registration.via = 1 ∧ registration.entry.fallbackRelay = 0 := by
  have passed : (endpoint Slab.platform).runs (fun _ _ => true) (Slab.bound true false)
      (offererDance "a://far" [.resume 1 (.opened (.ok ()))] 1 3)
      (fun config => config.registrations.any fun registration =>
        decide (registration.role = .offerer) && decide (registration.via = 1) &&
          decide (registration.entry.fallbackRelay = 0)) = true := by decide +kernel
  rcases System.Reachable.of_runs (Slab.bound_initial true false) passed with
    ⟨config, reached, tested⟩
  rcases List.any_eq_true.mp tested with ⟨registration, member, found⟩
  simp only [Bool.and_eq_true, decide_eq_true_eq] at found
  exact ⟨config, reached, registration, member, found.1.1, found.1.2, found.2⟩

theorem channel_fallback_relay_home :
    ∃ config : Config Slab.platform, (endpoint Slab.platform).Reachable config ∧
      ∃ registration ∈ config.registrations, registration.role = .offerer ∧
        registration.via = homeRelay ∧
        registration.entry.fallbackRelay = registration.via := by
  have passed : (endpoint Slab.platform).runs (fun _ _ => true) (Slab.bound true false)
      (offererDance "a://home" [] 0 2)
      (fun config => config.registrations.any fun registration =>
        decide (registration.role = .offerer) &&
          decide (registration.via = homeRelay)) = true := by decide +kernel
  rcases System.Reachable.of_runs (Slab.bound_initial true false) passed with
    ⟨config, reached, tested⟩
  rcases List.any_eq_true.mp tested with ⟨registration, member, found⟩
  simp only [Bool.and_eq_true, decide_eq_true_eq] at found
  have fallback := ((channel_fallback_relay reached).2 registration member).1.mpr
    (.inr found.2)
  exact ⟨config, reached, registration, member, found.1, found.2, fallback.2⟩

end IrohEndpoint
