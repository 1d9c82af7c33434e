import IrohEndpoint.Redials

/-! # Events that move routes

A peer's route is read off a list of events: its first sighting, a dial over a relay, a
channel that is registered and one that is retired. A state whose changes are such a list
routes every peer as the list says. -/

namespace IrohEndpoint

variable {P : Platform}

/-! ## Events -/

/-- An event that may move a route. A retired channel names the relay its peer falls back
to. -/
inductive RouteEvent where
  | sighted (peer : EndpointId) (via : UInt32)
  | dialed (peer : EndpointId) (key : UInt32)
  | registered (peer : EndpointId) (id : UInt32)
  | retired (peer : EndpointId) (id fallbackRelay : UInt32)
  deriving DecidableEq

namespace RouteEvent

/-- The route of `peer` after an event. -/
def apply (peer : EndpointId) (route : Option RouteWire) : RouteEvent → Option RouteWire
  | .sighted other via => if other = peer ∧ route = none then some (.relay via) else route
  | .dialed other key => if other = peer then route.map (RouteWire.follow key) else route
  | .registered other id => if other = peer then some (.channel id) else route
  | .retired other id fallbackRelay =>
      if other = peer ∧ route = some (.channel id) then some (.relay fallbackRelay) else route

/-- The route of `peer` after the events, in order. -/
def route (events : List RouteEvent) (peer : EndpointId) : Option RouteWire :=
  events.foldl (apply peer) none

/-- The event puts `peer`, whose route is the given one, on a relay. -/
inductive Lands (peer : EndpointId) : Option RouteWire → RouteEvent → UInt32 → Prop
  | sighted (via : UInt32) : Lands peer none (.sighted peer via) via
  | dialed (old key : UInt32) : Lands peer (some (.relay old)) (.dialed peer key) key
  | retired (id fallbackRelay : UInt32) :
      Lands peer (some (.channel id)) (.retired peer id fallbackRelay) fallbackRelay

@[simp] theorem route_concat (events : List RouteEvent) (event : RouteEvent)
    (peer : EndpointId) :
    route (events ++ [event]) peer = apply peer (route events peer) event := by
  simp [route]

private theorem apply_cases (peer : EndpointId) (route : Option RouteWire) (event : RouteEvent) :
    (∃ id, event = .registered peer id ∧ apply peer route event = some (.channel id)) ∨
    (∃ key, Lands peer route event key ∧ apply peer route event = some (.relay key)) ∨
    ((∀ id, event ≠ .registered peer id) ∧ (∀ key, ¬ Lands peer route event key) ∧
      apply peer route event = route) := by
  cases event with
  | registered other id =>
      by_cases own : other = peer
      · subst own
        exact .inl ⟨id, rfl, if_pos rfl⟩
      · refine .inr (.inr ⟨?_, ?_, if_neg own⟩)
        · rintro id ⟨⟩
          exact own rfl
        · rintro key ⟨⟩
  | sighted other via =>
      by_cases own : other = peer ∧ route = none
      · rcases own with ⟨rfl, rfl⟩
        exact .inr (.inl ⟨via, .sighted via, if_pos ⟨rfl, rfl⟩⟩)
      · refine .inr (.inr ⟨by rintro id ⟨⟩, ?_, if_neg own⟩)
        rintro key ⟨⟩
        exact own ⟨rfl, rfl⟩
  | dialed other key =>
      by_cases own : other = peer
      · subst own
        cases route with
        | none => exact .inr (.inr ⟨by rintro id ⟨⟩, by rintro key ⟨⟩, if_pos rfl⟩)
        | some wire =>
            cases wire with
            | relay old => exact .inr (.inl ⟨key, .dialed old key, if_pos rfl⟩)
            | channel id => exact .inr (.inr ⟨by rintro id ⟨⟩, by rintro key ⟨⟩, if_pos rfl⟩)
      · refine .inr (.inr ⟨by rintro id ⟨⟩, ?_, if_neg own⟩)
        rintro key ⟨⟩
        exact own rfl
  | retired other id fallbackRelay =>
      by_cases own : other = peer ∧ route = some (.channel id)
      · rcases own with ⟨rfl, rfl⟩
        exact .inr (.inl ⟨fallbackRelay, .retired id fallbackRelay, if_pos ⟨rfl, rfl⟩⟩)
      · refine .inr (.inr ⟨by rintro id ⟨⟩, ?_, if_neg own⟩)
        rintro key ⟨⟩
        exact own ⟨rfl, rfl⟩

/-- The latest channel registered for `peer` is `id`, and it was not retired since. -/
def Latest (events : List RouteEvent) (peer : EndpointId) (id : UInt32) : Prop :=
  ∃ before after, events = before ++ .registered peer id :: after ∧
    (∀ other, .registered peer other ∉ after) ∧
    ∀ fallbackRelay, .retired peer id fallbackRelay ∉ after

/-- The last event that concerns the relay of `peer` landed it on `key`. -/
def Landed (events : List RouteEvent) (peer : EndpointId) (key : UInt32) : Prop :=
  ∃ before event after, events = before ++ event :: after ∧
    Lands peer (route before peer) event key ∧
    (∀ id, .registered peer id ∉ after) ∧
    ∀ middle later rest, after = middle ++ later :: rest →
      ∀ other, ¬ Lands peer (route (before ++ event :: middle) peer) later other

private theorem concat_split {events before after : List RouteEvent} {event first : RouteEvent}
    (cut : events ++ [event] = before ++ first :: after) :
    (after = [] ∧ events = before ∧ event = first) ∨
    ∃ middle, after = middle ++ [event] ∧ events = before ++ first :: middle := by
  rcases List.eq_nil_or_concat after with rfl | ⟨middle, final, equal⟩
  · have parts := List.append_inj' cut rfl
    cases parts.2
    exact .inl ⟨rfl, parts.1, rfl⟩
  · rw [List.concat_eq_append] at equal
    subst equal
    rw [← List.cons_append, ← List.append_assoc] at cut
    have parts := List.append_inj' cut rfl
    cases parts.2
    exact .inr ⟨middle, rfl, parts.1⟩

private theorem not_latest_retired (events : List RouteEvent) (peer : EndpointId)
    (id fallbackRelay : UInt32) :
    ¬ Latest (events ++ [.retired peer id fallbackRelay]) peer id := by
  rintro ⟨before, after, cut, _, alive⟩
  rcases concat_split cut with ⟨_, _, impossible⟩ | ⟨middle, rfl, _⟩
  · cases impossible
  · exact alive fallbackRelay (by simp)

private theorem latest_concat {events : List RouteEvent} {peer : EndpointId} {id : UInt32}
    {event : RouteEvent} (unregistered : ∀ other, event ≠ .registered peer other)
    (kept : ∀ fallbackRelay, event ≠ .retired peer id fallbackRelay) :
    Latest (events ++ [event]) peer id ↔ Latest events peer id := by
  constructor
  · rintro ⟨before, after, cut, last, alive⟩
    rcases concat_split cut with ⟨_, _, registers⟩ | ⟨middle, rfl, shorter⟩
    · exact absurd registers (unregistered id)
    · refine ⟨before, middle, shorter, ?_, ?_⟩
      · exact fun other member => last other (by simp [member])
      · exact fun fallback member => alive fallback (by simp [member])
  · rintro ⟨before, after, rfl, last, alive⟩
    refine ⟨before, after ++ [event], by simp, ?_, ?_⟩
    · intro other member
      rcases List.mem_append.mp member with old | new
      · exact last other old
      · exact unregistered other (List.mem_singleton.mp new).symm
    · intro fallback member
      rcases List.mem_append.mp member with old | new
      · exact alive fallback old
      · exact kept fallback (List.mem_singleton.mp new).symm

private theorem latest_unique {events : List RouteEvent} {peer : EndpointId} {id other : UInt32}
    (latest : Latest events peer id) (another : Latest events peer other) : other = id := by
  rcases latest with ⟨before, after, split_, last, _⟩
  rcases another with ⟨front, rear, cut, final, _⟩
  rw [split_] at cut
  -- two last registrations are at one position
  rcases List.append_eq_append_iff.mp cut with ⟨gap, rfl, parts⟩ | ⟨gap, rfl, parts⟩
  · cases gap with
    | nil =>
        cases parts
        rfl
    | cons first gap =>
        cases parts
        exact absurd (by simp) (last other)
  · cases gap with
    | nil =>
        cases parts
        rfl
    | cons first gap =>
        cases parts
        exact absurd (by simp) (final id)

/-- A peer is routed over a channel exactly while its latest channel is not retired. -/
theorem route_channel {events : List RouteEvent} {peer : EndpointId} {id : UInt32} :
    route events peer = some (.channel id) ↔ Latest events peer id := by
  induction events using List.reverseRecOn generalizing id with
  | nil =>
      constructor
      · intro routed
        cases routed
      · rintro ⟨before, after, split_, _⟩
        simp at split_
  | append_singleton events event induction =>
      rw [route_concat]
      rcases apply_cases peer (route events peer) event with
        ⟨registered, rfl, applied⟩ | ⟨key, lands, applied⟩ | ⟨unregistered, unlanded, applied⟩
      · rw [applied]
        have own : Latest (events ++ [.registered peer registered]) peer registered :=
          ⟨events, [], rfl, by simp, by simp⟩
        constructor
        · intro routed
          cases routed
          exact own
        · intro latest
          rw [latest_unique latest own]
      · rw [applied]
        refine ⟨(by intro routed; cases routed), ?_⟩
        intro latest
        exfalso
        have quiet : ∀ other, event ≠ .registered peer other := by
          intro other registers
          rw [registers] at lands
          generalize route events peer = before at lands
          cases lands
        by_cases retiring : ∃ fallback, event = .retired peer id fallback
        · rcases retiring with ⟨fallback, rfl⟩
          exact not_latest_retired events peer id fallback latest
        · have routed := induction.mpr
            ((latest_concat quiet (by simpa using retiring)).mp latest)
          rw [routed] at lands
          cases lands
          exact retiring ⟨_, rfl⟩
      · rw [applied]
        by_cases retiring : ∃ fallback, event = .retired peer id fallback
        · rcases retiring with ⟨fallback, rfl⟩
          have unrouted : route events peer ≠ some (.channel id) := by
            intro routed
            rw [routed] at unlanded
            exact unlanded fallback (.retired id fallback)
          exact ⟨fun routed => absurd routed unrouted,
            fun latest => absurd latest (not_latest_retired events peer id fallback)⟩
        · rw [latest_concat unregistered (by simpa using retiring)]
          exact induction

/-- A peer routed over a relay is on the one its last landing names. -/
theorem route_relay {events : List RouteEvent} {peer : EndpointId} {key : UInt32}
    (routed : route events peer = some (.relay key)) : Landed events peer key := by
  induction events using List.reverseRecOn generalizing key with
  | nil => cases routed
  | append_singleton events event induction =>
      rw [route_concat] at routed
      rcases apply_cases peer (route events peer) event with
        ⟨registered, rfl, applied⟩ | ⟨landing, lands, applied⟩ |
          ⟨unregistered, unlanded, applied⟩
      · rw [applied] at routed
        cases routed
      · rw [applied] at routed
        cases routed
        exact ⟨events, event, [], rfl, lands, by simp, by simp⟩
      · rw [applied] at routed
        rcases induction routed with ⟨before, landing, after, rfl, lands, last, quiet⟩
        refine ⟨before, landing, after ++ [event], by simp, lands, ?_, ?_⟩
        · intro id member
          rcases List.mem_append.mp member with old | new
          · exact last id old
          · exact unregistered id (List.mem_singleton.mp new).symm
        · intro middle later rest cut other
          rcases concat_split cut with ⟨_, rfl, rfl⟩ | ⟨more, rfl, shorter⟩
          · exact unlanded other
          · exact quiet middle later more shorter other

end RouteEvent

/-! ## The journal of a state -/

/-- The state is reached by operations of which those that may move a route are the events,
in order; the others leave the routing tables alone. -/
inductive State.Journal (start : State P) : List RouteEvent → State P → Prop
  | start : Journal start [] start
  | quiet {events : List RouteEvent} {state next : State P} (sofar : Journal start events state)
      (same : next.tables = state.tables) : Journal start events next
  | sighted {events : List RouteEvent} {state : State P} (peer : EndpointId) (via : UInt32)
      (sofar : Journal start events state) :
      Journal start (events ++ [.sighted peer via]) (state.addrForPeer peer via).2
  | dialed {events : List RouteEvent} {state : State P} {standin : SocketAddr}
      (peer : EndpointId) (key : UInt32) (sofar : Journal start events state)
      (known : state.peerToAddr.get? peer = some standin) :
      Journal start (events ++ [.dialed peer key]) (state.dialStandin peer key).2
  | registered {events : List RouteEvent} {state : State P} (peer : EndpointId)
      (wire : ChannelWire) (sofar : Journal start events state)
      (open_ : state.isClosedOrDead = false) :
      Journal start (events ++ [.registered peer (state.nextChannelId + 1)])
        (state.registerChannel peer wire).2
  | retired {events : List RouteEvent} {state : State P} {entry : ChannelEntry} (id : UInt32)
      (wire : ChannelWire) (sofar : Journal start events state)
      (found : state.channels.get? id = some entry) :
      Journal start (events ++ [.retired entry.peer id entry.fallbackRelay])
        (state.channelDied id wire)

namespace State

theorem addrForPeer_known {state : State P} {peer : EndpointId} {standin : SocketAddr}
    (known : state.peerToAddr.get? peer = some standin) (via : UInt32) :
    state.addrForPeer peer via = (standin, state) := by
  rw [addrForPeer, known]

private theorem dialStandin_sighted (state : State P) (peer : EndpointId) (key : UInt32) :
    (state.addrForPeer peer key).2.dialStandin peer key = state.dialStandin peer key := by
  have standin := Channels.addrForPeer_standin state peer key
  rw [dialStandin, addrForPeer_known standin, dialStandin]

theorem Journal.after {start first state : State P} {events : List RouteEvent}
    (journal : first.Journal events state) (same : first.tables = start.tables) :
    start.Journal events state := by
  induction journal with
  | start => exact .quiet .start same
  | quiet sofar equal induction => exact .quiet induction equal
  | sighted peer via sofar induction => exact .sighted peer via induction
  | dialed peer key sofar known induction => exact .dialed peer key induction known
  | registered peer wire sofar open_ induction => exact .registered peer wire induction open_
  | retired id wire sofar found induction => exact .retired id wire induction found

theorem Journal.dials {start state next : State P} {events : List RouteEvent}
    (journal : start.Journal events state) (peer : EndpointId) (key : UInt32)
    (same : next.tables = (state.dialStandin peer key).2.tables) :
    start.Journal (events ++ [.sighted peer key, .dialed peer key]) next := by
  have dialed := Journal.dialed peer key (.sighted peer key journal)
    (Channels.addrForPeer_standin state peer key)
  rw [dialStandin_sighted, List.append_assoc] at dialed
  exact .quiet dialed same

theorem channelDied_unknown {state : State P} {id : UInt32}
    (absent : state.channels.get? id = none) (wire : ChannelWire) :
    (state.channelDied id wire).tables = state.tables := by
  have same : state.retireChannel id = state := by rw [retireChannel, absent]
  rw [channelDied, same]
  rfl

end State

/-! ## The tables follow the journal -/

structure State.Tracked (state : State P) (events : List RouteEvent) : Prop where
  routed : ∀ peer addr, state.peerToAddr.get? peer = some addr →
    state.routes.get? addr = RouteEvent.route events peer
  unseen : ∀ peer, state.peerToAddr.get? peer = none → RouteEvent.route events peer = none

theorem Routing.injective {state : State P} (routing : Routing state) {peer other : EndpointId}
    {addr : SocketAddr} (first : state.peerToAddr.get? peer = some addr)
    (second : state.peerToAddr.get? other = some addr) : other = peer := by
  have owner := (routing.inverse peer addr).mp first
  rw [(routing.inverse other addr).mp second] at owner
  exact Option.some.inj owner

namespace State.Tracked

variable {state next : State P} {events : List RouteEvent}

/-- One peer's route moves as its event says, and nobody else's. -/
theorem step (tracked : state.Tracked events) {event : RouteEvent} {subject : EndpointId}
    (about : ∀ peer route, peer ≠ subject → event.apply peer route = route)
    (others : ∀ peer, peer ≠ subject → next.peerToAddr.get? peer = state.peerToAddr.get? peer)
    (routes : ∀ peer addr, peer ≠ subject → state.peerToAddr.get? peer = some addr →
      next.routes.get? addr = state.routes.get? addr)
    (own : ∀ addr, next.peerToAddr.get? subject = some addr →
      next.routes.get? addr = event.apply subject (RouteEvent.route events subject))
    (unseen : next.peerToAddr.get? subject = none →
      event.apply subject (RouteEvent.route events subject) = none) :
    next.Tracked (events ++ [event]) := by
  refine ⟨?_, ?_⟩
  · intro peer addr known
    rw [RouteEvent.route_concat]
    by_cases same : peer = subject
    · subst same
      exact own addr known
    · rw [others peer same] at known
      rw [about peer _ same, routes peer addr same known]
      exact tracked.routed peer addr known
  · intro peer unknown
    rw [RouteEvent.route_concat]
    by_cases same : peer = subject
    · subst same
      exact unseen unknown
    · rw [others peer same] at unknown
      rw [about peer _ same]
      exact tracked.unseen peer unknown

theorem again (tracked : state.Tracked events) {peer : EndpointId} {standin : SocketAddr}
    (known : state.peerToAddr.get? peer = some standin) (via : UInt32) (sound : Sound state) :
    state.Tracked (events ++ [.sighted peer via]) := by
  have routed : RouteEvent.route events peer ≠ none := by
    rw [← tracked.routed peer standin known]
    rcases (sound.routing.standins standin).mpr
      ⟨peer, (sound.routing.inverse peer standin).mp known⟩ with ⟨wire, found⟩
    simp [found]
  have same : ∀ other, RouteEvent.route (events ++ [.sighted peer via]) other =
      RouteEvent.route events other := by
    intro other
    rw [RouteEvent.route_concat]
    refine if_neg ?_
    rintro ⟨rfl, unrouted⟩
    exact routed unrouted
  refine ⟨?_, ?_⟩
  · intro other addr found
    rw [same]
    exact tracked.routed other addr found
  · intro other unknown
    rw [same]
    exact tracked.unseen other unknown

theorem sighted (tracked : state.Tracked events) {peer : EndpointId}
    (unknown : state.peerToAddr.get? peer = none) (via : UInt32)
    (sound : Sound (state.addrForPeer peer via).2) :
    (state.addrForPeer peer via).2.Tracked (events ++ [.sighted peer via]) := by
  have drawn := Channels.addrForPeer_standin state peer via
  have others : ∀ other, other ≠ peer →
      (state.addrForPeer peer via).2.peerToAddr.get? other = state.peerToAddr.get? other := by
    intro other apart
    rw [State.addrForPeer, unknown]
    dsimp only
    rw [Table.get?_set, if_neg apart]
  apply @step P state (state.addrForPeer peer via).2 events tracked (.sighted peer via) peer
  · intro other route apart
    exact if_neg fun own => apart own.1.symm
  · exact others
  · intro other addr apart known
    apply state.addrForPeer_routes peer via
    rintro rfl
    rw [← others other apart] at known
    exact apart (sound.routing.injective drawn known)
  · intro addr known
    rw [drawn] at known
    cases known
    rw [tracked.unseen peer unknown, State.addrForPeer, unknown]
    simp [RouteEvent.apply]
  · intro missing
    rw [drawn] at missing
    cases missing

theorem dialed (tracked : state.Tracked events) {peer : EndpointId} {standin : SocketAddr}
    (known : state.peerToAddr.get? peer = some standin) (key : UInt32) (sound : Sound state) :
    (state.dialStandin peer key).2.Tracked (events ++ [.dialed peer key]) := by
  have first : (state.dialStandin peer key).1 = standin := by
    have drawn := State.dialStandin_standin state peer key
    rw [State.dialStandin, State.addrForPeer_known known] at drawn ⊢
    dsimp only at drawn ⊢
    split <;> rfl
  have peers : (state.dialStandin peer key).2.peerToAddr = state.peerToAddr := by
    rw [State.dialStandin, State.addrForPeer_known known]
    dsimp only
    split <;> rfl
  apply @step P state (state.dialStandin peer key).2 events tracked (.dialed peer key) peer
  · intro other route apart
    exact if_neg fun own => apart own.symm
  · intro other _
    rw [peers]
  · intro other addr apart lookup
    apply state.dialStandin_elsewhere peer key
    rw [first]
    rintro rfl
    exact apart (sound.routing.injective known lookup)
  · intro addr lookup
    rw [peers, known] at lookup
    cases lookup
    rcases (sound.routing.standins standin).mpr
      ⟨peer, (sound.routing.inverse peer standin).mp known⟩ with ⟨wire, routed⟩
    have follows := state.dialStandin_follows peer key (by rw [first, known])
      (by rw [first]; exact routed)
    rw [first] at follows
    rw [follows, ← tracked.routed peer standin known, routed]
    simp [RouteEvent.apply]
  · intro missing
    rw [peers, known] at missing
    cases missing

theorem registered (tracked : state.Tracked events) (peer : EndpointId) (wire : ChannelWire)
    (open_ : state.isClosedOrDead = false)
    (sound : Sound (state.registerChannel peer wire).2) :
    (state.registerChannel peer wire).2.Tracked
      (events ++ [.registered peer (state.nextChannelId + 1)]) := by
  rw [State.registerChannel, if_neg (by simp [open_])] at sound ⊢
  dsimp only at sound ⊢
  generalize fallback : (state.signalingRelay peer).getD homeRelay = fallbackRelay at sound ⊢
  generalize enrolled : ({ state with
      nextChannelId := state.nextChannelId + 1
      channels := state.channels.set (state.nextChannelId + 1) ⟨wire, peer, fallbackRelay⟩
      newChannels := state.newChannels ++ [(state.nextChannelId + 1, wire)]
      history := { state.history with
        channels := state.history.channels ++
          [(state.nextChannelId + 1, ⟨wire, peer, fallbackRelay⟩)] } } : State P) =
    listed at sound ⊢
  have peers : listed.peerToAddr = state.peerToAddr := by rw [← enrolled]
  have routes : listed.routes = state.routes := by rw [← enrolled]
  have drawn := Channels.addrForPeer_standin listed peer fallbackRelay
  have others : ∀ other, other ≠ peer →
      (listed.addrForPeer peer fallbackRelay).2.peerToAddr.get? other =
        state.peerToAddr.get? other := by
    intro other apart
    rw [State.addrForPeer]
    split
    · rw [peers]
    · dsimp only
      rw [Table.get?_set, if_neg apart, peers]
  apply @step P state _ events tracked (.registered peer (state.nextChannelId + 1)) peer
  · intro other route apart
    exact if_neg fun own => apart own.symm
  · exact others
  · intro other addr apart known
    have elsewhere : addr ≠ (listed.addrForPeer peer fallbackRelay).1 := by
      rintro rfl
      rw [← others other apart] at known
      exact apart (sound.routing.injective drawn known)
    dsimp only
    rw [Table.get?_set, if_neg elsewhere, State.addrForPeer_routes _ _ _ elsewhere, routes]
  · intro addr known
    dsimp only at known ⊢
    rw [drawn] at known
    cases known
    rw [Table.get?_set, if_pos rfl]
    exact (if_pos rfl).symm
  · intro missing
    dsimp only at missing
    rw [drawn] at missing
    cases missing

theorem retired (tracked : state.Tracked events) {id : UInt32} {entry : ChannelEntry}
    (found : state.channels.get? id = some entry) (wire : ChannelWire) (sound : Sound state) :
    (state.channelDied id wire).Tracked
      (events ++ [.retired entry.peer id entry.fallbackRelay]) := by
  have peers : (state.channelDied id wire).peerToAddr = state.peerToAddr := by
    rcases state.channelDied_frame id wire with ⟨_, _, frame⟩
    rw [frame]
  have routes : ∀ addr, (state.channelDied id wire).routes.get? addr =
      if state.peerToAddr.get? entry.peer = some addr ∧
          state.routes.get? addr = some (.channel id) then some (.relay entry.fallbackRelay)
      else state.routes.get? addr := by
    intro addr
    rw [State.channelDied, State.retireChannel, found]
    dsimp only
    cases known : state.peerToAddr.get? entry.peer with
    | none => simp
    | some standin =>
        dsimp only
        by_cases routed : state.routes.get? standin = some (.channel id)
        · rw [if_pos routed]
          dsimp only
          rw [Table.get?_set]
          by_cases same : addr = standin
          · subst same
            rw [if_pos rfl, if_pos ⟨rfl, routed⟩]
          · rw [if_neg same, if_neg]
            rintro ⟨equal, _⟩
            exact same (Option.some.inj equal).symm
        · rw [if_neg routed, if_neg]
          rintro ⟨equal, over_⟩
          cases equal
          exact routed over_
  apply @step P state _ events tracked (.retired entry.peer id entry.fallbackRelay) entry.peer
  · intro other route apart
    exact if_neg fun own => apart own.1.symm
  · intro other _
    rw [peers]
  · intro other addr apart known
    rw [routes, if_neg]
    rintro ⟨owner, _⟩
    exact apart (sound.routing.injective owner known)
  · intro addr known
    rw [peers] at known
    rw [routes, RouteEvent.apply, ← tracked.routed entry.peer addr known]
    simp [known]
  · intro missing
    rw [peers] at missing
    rw [tracked.unseen entry.peer missing, RouteEvent.apply]
    simp

end State.Tracked

theorem State.Journal.bounded {start state : State P} {events : List RouteEvent}
    (journal : start.Journal events state) (bounded : Bounded state) : Bounded start := by
  induction journal with
  | start => exact bounded
  | quiet sofar same induction => exact induction (bounded.of_tables same)
  | @sighted events state peer via sofar induction =>
      have step : StateStep .pump state _ := .sighted peer via
      exact induction (step.bounded bounded)
  | @dialed events state standin peer key sofar known induction =>
      have step : StateStep .call state _ := .dialed peer key
      exact induction (step.bounded bounded)
  | @registered events state peer wire sofar open_ induction =>
      have step : StateStep .session state _ := .channelRegistered peer wire rfl
      exact induction (step.bounded bounded)
  | @retired events state entry id wire sofar found induction =>
      have step : StateStep .lost state _ := .channelDied id wire rfl
      exact induction (step.bounded bounded)

theorem State.Journal.tracked {start state : State P} {earlier events : List RouteEvent}
    (journal : start.Journal events state) (sound : Sound start)
    (tracked : start.Tracked earlier) (bounded : Bounded state) :
    Sound state ∧ state.Tracked (earlier ++ events) := by
  induction journal with
  | start =>
      rw [List.append_nil]
      exact ⟨sound, tracked⟩
  | quiet sofar same induction =>
      rcases induction (bounded.of_tables same) with ⟨before, tracked⟩
      refine ⟨before.of_tables same, ?_, ?_⟩
      · simp only [State.tables, Prod.mk.injEq] at same
        rw [same.1, same.2.2.2.1]
        exact tracked.routed
      · simp only [State.tables, Prod.mk.injEq] at same
        rw [same.1]
        exact tracked.unseen
  | @sighted events state peer via sofar induction =>
      have step : StateStep .pump state _ := .sighted peer via
      rcases induction (step.bounded bounded) with ⟨before, tracked⟩
      have after := step.sound bounded before
      refine ⟨after, ?_⟩
      rw [← List.append_assoc]
      cases known : state.peerToAddr.get? peer with
      | none => exact tracked.sighted known via after
      | some standin =>
          rw [State.addrForPeer_known known]
          exact tracked.again known via before
  | @dialed events state standin peer key sofar known induction =>
      have step : StateStep .call state _ := .dialed peer key
      rcases induction (step.bounded bounded) with ⟨before, tracked⟩
      rw [← List.append_assoc]
      exact ⟨step.sound bounded before, tracked.dialed known key before⟩
  | @registered events state peer wire sofar open_ induction =>
      have step : StateStep .session state _ := .channelRegistered peer wire rfl
      rcases induction (step.bounded bounded) with ⟨before, tracked⟩
      have after := step.sound bounded before
      rw [← List.append_assoc]
      exact ⟨after, tracked.registered peer wire open_ after⟩
  | @retired events state entry id wire sofar found induction =>
      have step : StateStep .lost state _ := .channelDied id wire rfl
      rcases induction (step.bounded bounded) with ⟨before, tracked⟩
      rw [← List.append_assoc]
      exact ⟨step.sound bounded before, tracked.retired found wire before⟩

end IrohEndpoint
