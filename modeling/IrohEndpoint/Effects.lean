import IrohEndpoint.Serving

/-! # What a drain does to the state

Draining one connection moves its entry by entry steps and appends to the queues.
`Io` collects what it appends; everything else in the state is untouched. -/

namespace IrohEndpoint

variable {P : Platform}

structure Io (P : Platform) where
  noq : P.Endpoint
  accepted : List AcceptItem
  relay : List (UInt32 × EndpointId × Bytes)
  udp : List (SocketAddr × Bytes)
  channel : List (UInt32 × Bytes)

def State.after (state : State P) (io : Io P) : State P :=
  { state with
    noq := io.noq
    acceptQueue := state.acceptQueue ++ io.accepted
    relayOutbound := state.relayOutbound ++ io.relay
    udpOutbound := state.udpOutbound ++ io.udp
    channelOutbound := state.channelOutbound ++ io.channel
    history := { state.history with queued := state.history.queued ++ io.accepted } }

def Io.none (noq : P.Endpoint) : Io P := ⟨noq, [], [], [], []⟩

@[simp] theorem State.after_none (state : State P) :
    state.after (Io.none state.noq) = state := by
  simp [State.after, Io.none]

/-- Every packet went to the wire its destination is routed to. -/
structure Io.Routed (io : Io P) (state : State P) : Prop where
  relay : ∀ key peer datagram, (key, peer, datagram) ∈ io.relay →
    ∃ addr, state.routes.get? addr = some (.relay key) ∧
      state.addrToPeer.get? addr = some peer
  udp : ∀ addr datagram, (addr, datagram) ∈ io.udp → state.routes.get? addr = Option.none
  channel : ∀ id datagram, (id, datagram) ∈ io.channel →
    ∃ addr, state.routes.get? addr = some (.channel id)

theorem Io.none_routed (noq : P.Endpoint) (state : State P) :
    (Io.none noq).Routed state where
  relay _ _ _ member := by cases member
  udp _ _ member := by cases member
  channel _ _ member := by cases member

theorem Io.Routed.append {io more : Io P} {state next : State P} (routed : io.Routed state)
    (rest : more.Routed next) (routes : next.routes = state.routes)
    (addrs : next.addrToPeer = state.addrToPeer) :
    Io.Routed (⟨more.noq, io.accepted ++ more.accepted, io.relay ++ more.relay,
      io.udp ++ more.udp, io.channel ++ more.channel⟩ : Io P) state := by
  refine ⟨?_, ?_, ?_⟩
  · intro key peer datagram member
    rcases List.mem_append.mp member with old | new
    · exact routed.relay key peer datagram old
    · rw [← routes, ← addrs]
      exact rest.relay key peer datagram new
  · intro addr datagram member
    rcases List.mem_append.mp member with old | new
    · exact routed.udp addr datagram old
    · rw [← routes]
      exact rest.udp addr datagram new
  · intro id datagram member
    rcases List.mem_append.mp member with old | new
    · exact routed.channel id datagram old
    · rw [← routes]
      exact rest.channel id datagram new

/-! ## One event, one transmit -/

private theorem whileLoop_connected {dir : Dir} {fuel : Nat} {entry after : ConnEntry P}
    (ran : whileLoop .outOfFuel (acceptRound dir) fuel entry = .ok after) :
    after.connected = entry.connected := by
  apply whileLoop.invariant (fun current : ConnEntry P =>
    current.connected = entry.connected) _ fuel rfl ran
  intro current next again sofar stepped
  rw [acceptRound] at stepped
  have called : (current.call (.acceptStream dir)).2.connected = current.connected := rfl
  split at stepped <;> rename_i answer <;> rw [answer] at called <;> cases stepped
  · exact called.trans sofar
  · cases dir <;> exact called.trans sofar

private theorem onEvent_spec {fuel : Nat} {now : Instant} {handle : ConnectionHandle}
    {event : Event} {state next : State P} {entry after : ConnEntry P}
    (ran : onEvent fuel now handle event state entry = .ok (next, after)) :
    EntrySteps entry after ∧ Draining entry after ∧
      ((next = state ∧
          (after.connected = true → entry.connected = true ∨ entry.acceptedSide = false)) ∨
        (next = state.pushAccepted ⟨handle, entry.trace.serial⟩ ∧
          after.connected = true ∧ after.acceptedSide = true ∧
          after.trace.authenticated.length = entry.trace.authenticated.length + 1)) := by
  cases event with
  | connected =>
      rw [onEvent] at ran
      have moved : EntrySteps entry (entry.onConnected now) := .single (.connected now)
      have serves := Draining.onConnected entry now
      split at ran
      · rename_i surfaces
        cases ran
        rw [Bool.and_eq_true] at surfaces
        have accepted := moved.evolves.acceptedSide.trans surfaces.2
        rcases entry.onConnected_cases now with
          ⟨id, _, _, _, equal⟩ | ⟨_, _, _, _, refused, _⟩
        · refine ⟨moved, serves, .inr ⟨rfl, ?_, accepted, ?_⟩⟩
          · rw [equal]
          · rw [equal]
            exact List.length_append
        · rw [refused] at surfaces
          cases surfaces.1
      · rename_i hidden
        cases ran
        refine ⟨moved, serves, .inl ⟨rfl, ?_⟩⟩
        intro connected
        rw [Bool.and_eq_true, not_and, Bool.not_eq_true] at hidden
        rcases entry.onConnected_cases now with
          ⟨_, _, _, authenticates, _⟩ | ⟨_, _, _, _, _, equal⟩
        · exact .inr (hidden authenticates)
        · rw [equal] at connected
          exact .inl connected
  | streamOpened =>
      rcases bind_eq_ok.mp ran with ⟨middle, first, rest⟩
      rcases bind_eq_ok.mp rest with ⟨final, second, result⟩
      cases result
      have bi := EntrySteps.covers.whileLoop (fun _ _ _ => EntrySteps.acceptRound) first
      have uni := EntrySteps.covers.whileLoop (fun _ _ _ => EntrySteps.acceptRound) second
      have biServed := Draining.whileLoop (fun _ _ _ => Draining.acceptRound) first
      have uniServed := Draining.whileLoop (fun _ _ _ => Draining.acceptRound) second
      refine ⟨bi.trans uni, biServed.trans uniServed, .inl ⟨rfl, ?_⟩⟩
      rw [whileLoop_connected second, whileLoop_connected first]
      exact .inl
  | connectionLost reason =>
      cases ran
      exact ⟨.single (.lost reason), ⟨.of_same rfl rfl rfl, rfl⟩, .inl ⟨rfl, .inl⟩⟩
  | _ =>
      cases ran
      exact ⟨.refl, .refl _, .inl ⟨rfl, .inl⟩⟩

private theorem State.routeTransmit_spec {state next : State P} {transmit : Transmit}
    (routed : state.routeTransmit transmit = .ok next) :
    ∃ io : Io P, next = state.after io ∧ io.Routed state ∧ io.accepted = [] ∧
      io.relay.length + io.udp.length + io.channel.length = 1 := by
  rw [State.routeTransmit] at routed
  cases route : state.routes.get? transmit.destination with
  | none =>
      rw [route] at routed
      cases routed
      refine ⟨⟨state.noq, [], [], [(transmit.destination, transmit.datagram)], []⟩,
        by simp [State.after], ?_, rfl, rfl⟩
      refine ⟨by simp, ?_, by simp⟩
      intro addr datagram member
      rw [List.mem_singleton] at member
      cases member
      exact route
  | some wire =>
      cases wire with
      | relay key =>
          rw [route] at routed
          dsimp only at routed
          cases known : state.addrToPeer.get? transmit.destination with
          | none =>
              rw [known] at routed
              cases routed
          | some peer =>
              rw [known] at routed
              cases routed
              refine ⟨⟨state.noq, [], [(key, peer, transmit.datagram)], [], []⟩,
                by simp [State.after], ?_, rfl, rfl⟩
              refine ⟨?_, by simp, by simp⟩
              intro key peer datagram member
              rw [List.mem_singleton] at member
              cases member
              exact ⟨_, route, known⟩
      | channel id =>
          rw [route] at routed
          cases routed
          refine ⟨⟨state.noq, [], [], [], [(id, transmit.datagram)]⟩,
            by simp [State.after], ?_, rfl, rfl⟩
          refine ⟨by simp, by simp, ?_⟩
          intro id datagram member
          rw [List.mem_singleton] at member
          cases member
          exact ⟨_, route⟩

/-! ## One connection's turn -/

/-- A turn that started from `first` with the entry `start`. -/
structure Turn.From (handle : ConnectionHandle) (first : State P) (start : ConnEntry P)
    (turn : Turn P) : Prop where
  steps : EntrySteps start turn.entry
  serves : Draining start turn.entry
  io : ∃ io : Io P, turn.state = first.after io ∧ io.Routed first ∧
    (∀ item ∈ io.accepted, item = ⟨handle, start.trace.serial⟩ ∧
      turn.entry.connected = true ∧ turn.entry.acceptedSide = true) ∧
    io.accepted.length + start.trace.authenticated.length ≤
      turn.entry.trace.authenticated.length ∧
    (turn.entry.connected = true →
      start.connected = true ∨ start.acceptedSide = false ∨ io.accepted ≠ [])

namespace Turn.From

variable {handle : ConnectionHandle} {first : State P} {start : ConnEntry P}

theorem entry {turn : Turn P} (sofar : turn.From handle first start)
    {after : ConnEntry P} (steps : EntrySteps turn.entry after)
    (serves : Draining turn.entry after)
    (connected : after.connected = true →
      turn.entry.connected = true ∨ turn.entry.acceptedSide = false) (progressed : Bool) :
    Turn.From handle first start ⟨turn.state, after, progressed⟩ := by
  rcases sofar.io with ⟨io, equal, routed, surfaced, counted, hidden⟩
  refine ⟨sofar.steps.trans steps, sofar.serves.trans serves, io, equal, routed, ?_,
    Nat.le_trans counted steps.evolves.authenticated.length_le, ?_⟩
  · intro item member
    rcases surfaced item member with ⟨same, connected, accepted⟩
    exact ⟨same, steps.evolves.connected connected,
      steps.evolves.acceptedSide.trans accepted⟩
  · intro later
    rcases connected later with before | dialed
    · exact hidden before
    · exact .inr (.inl (sofar.steps.evolves.acceptedSide.symm.trans dialed))

theorem endpointEventRound {turn next : Turn P} {again : Bool}
    (sofar : turn.From handle first start)
    (stepped : turn.endpointEventRound handle = .ok (next, again)) :
    next.From handle first start := by
  have called := EntrySteps.call turn.entry .pollEndpointEvents
  have silent := Draining.call turn.entry .pollEndpointEvents fun _ _ => rfl
  have same : (turn.entry.call .pollEndpointEvents).2.connected = turn.entry.connected := rfl
  rw [Turn.endpointEventRound] at stepped
  split at stepped <;> rename_i answer <;> rw [answer] at called silent same
  · cases stepped
    exact sofar.entry called silent (fun later => .inl (same ▸ later)) turn.progressed
  · rename_i event polled
    cases stepped
    have advanced : ∀ after, EntrySteps turn.entry after → Draining turn.entry after →
        after.connected = turn.entry.connected → Turn.From handle first start
          ⟨{ turn.state with noq := (P.handleEvent turn.state.noq handle event).1 }, after,
            true⟩ := by
      intro after steps serves connected
      rcases sofar.entry steps serves (fun later => .inl (connected ▸ later)) true with
        ⟨total, served, io, equal, routed, surfaced, counted⟩
      refine ⟨total, served,
        { io with noq := (P.handleEvent turn.state.noq handle event).1 }, ?_,
        ⟨routed.relay, routed.udp, routed.channel⟩, surfaced, counted⟩
      dsimp only at equal ⊢
      rw [equal]
      rfl
    split
    · exact advanced _ (called.trans (EntrySteps.call polled _))
        (silent.trans (Draining.call polled _ fun _ _ => rfl)) same
    · exact advanced _ called silent same

theorem eventRound {fuel : Nat} {now : Instant} {turn next : Turn P} {again : Bool}
    (sofar : turn.From handle first start)
    (stepped : turn.eventRound fuel now handle = .ok (next, again)) :
    next.From handle first start := by
  have called := EntrySteps.call turn.entry .poll
  have silent := Draining.call turn.entry .poll fun _ _ => rfl
  have same : (turn.entry.call .poll).2.connected = turn.entry.connected := rfl
  rw [Turn.eventRound] at stepped
  split at stepped <;> rename_i answer <;> rw [answer] at called silent same
  · cases stepped
    exact sofar.entry called silent (fun later => .inl (same ▸ later)) turn.progressed
  · rcases bind_eq_ok.mp stepped with ⟨⟨state, after⟩, ran, result⟩
    cases result
    rcases onEvent_spec ran with ⟨moved, arrived, queued⟩
    have steps := called.trans moved
    have serves := silent.trans arrived
    rcases queued with ⟨rfl, hidden⟩ | ⟨pushed, connected, accepted, authenticated⟩
    · refine sofar.entry steps serves ?_ true
      intro later
      rw [← (EntrySteps.evolves called).acceptedSide, ← same]
      exact hidden later
    · -- the entry that is pushed keeps the serial it started with
      have serial := (EntrySteps.evolves (sofar.steps.trans called)).serial
      have polled := (EntrySteps.evolves called).authenticated.length_le
      rcases sofar.io with ⟨io, equal, routed, surfaced, counted, _⟩
      refine ⟨sofar.steps.trans steps, sofar.serves.trans serves,
        { io with accepted := io.accepted ++ [⟨handle, start.trace.serial⟩] },
        ?_, ⟨routed.relay, routed.udp, routed.channel⟩, ?_, ?_,
        fun _ => .inr (.inr (List.append_ne_nil_of_right_ne_nil _ (List.cons_ne_nil _ _)))⟩
      · dsimp only at equal ⊢
        rw [pushed, serial, equal]
        simp [State.pushAccepted, State.after]
      · intro item member
        rcases List.mem_append.mp member with old | new
        · exact ⟨(surfaced item old).1, connected, accepted⟩
        · rw [List.mem_singleton] at new
          exact ⟨new, connected, accepted⟩
      · dsimp only at polled ⊢
        rw [List.length_append, List.length_singleton]
        omega

theorem transmitRound {now : Instant} {turn next : Turn P} {again : Bool}
    (sofar : turn.From handle first start)
    (stepped : turn.transmitRound now = .ok (next, again)) :
    next.From handle first start := by
  have called := EntrySteps.call turn.entry (.pollTransmit now)
  have silent := Draining.call turn.entry (.pollTransmit now) fun _ _ => rfl
  have same : (turn.entry.call (.pollTransmit now)).2.connected = turn.entry.connected := rfl
  rw [Turn.transmitRound] at stepped
  split at stepped <;> rename_i answer <;> rw [answer] at called silent same
  · cases stepped
    exact sofar.entry called silent (fun later => .inl (same ▸ later)) turn.progressed
  · rcases bind_eq_ok.mp stepped with ⟨state, ran, result⟩
    cases result
    rcases State.routeTransmit_spec ran with ⟨sent, pushed, sentRouted, none, _⟩
    rcases sofar.entry called silent (fun later => .inl (same ▸ later)) true with
      ⟨total, served, io, equal, routed, surfaced, counted⟩
    dsimp only at equal
    rw [equal] at pushed sentRouted
    refine ⟨total, served, _, ?_, routed.append sentRouted rfl rfl, ?_, ?_⟩
    · rw [pushed]
      simp [State.after]
    · simpa [none] using surfaced
    · simpa [none] using counted

theorem round {fuel : Nat} {now : Instant} {turn next : Turn P} {again : Bool}
    (sofar : turn.From handle first start)
    (stepped : turn.round fuel now handle = .ok (next, again)) :
    next.From handle first start := by
  rcases bind_eq_ok.mp stepped with ⟨one, firstLoop, rest⟩
  rcases bind_eq_ok.mp rest with ⟨two, secondLoop, rest⟩
  rcases bind_eq_ok.mp rest with ⟨three, thirdLoop, result⟩
  cases result
  have afterOne := whileLoop.invariant (Turn.From handle first start)
    (fun _ _ _ => endpointEventRound) fuel (sofar.entry .refl (.refl _) .inl false) firstLoop
  have afterTwo := whileLoop.invariant (Turn.From handle first start)
    (fun _ _ _ => eventRound) fuel afterOne secondLoop
  exact whileLoop.invariant (Turn.From handle first start)
    (fun _ _ _ => transmitRound) fuel afterTwo thirdLoop

theorem initial (handle : ConnectionHandle) (state : State P) (entry : ConnEntry P) :
    Turn.From handle state entry ⟨state, entry, false⟩ := by
  refine ⟨.refl, .refl entry, Io.none state.noq, (state.after_none).symm,
    Io.none_routed _ _, ?_, ?_, .inl⟩
  · intro item member
    cases member
  · simp [Io.none]

end Turn.From

/-- Draining one connection: its entry moves by entry steps, and what the queues
gain is that connection's. -/
theorem State.drainEntry_spec {fuel : Nat} {now : Instant} {state next : State P}
    {handle : ConnectionHandle} (ran : State.drainEntry fuel now state handle = .ok next) :
    ∃ (entry after : ConnEntry P) (io : Io P),
      state.conns.get? handle = some entry ∧ EntrySteps entry after ∧
      next = { state.after io with conns := state.conns.set handle after } ∧
      io.Routed state ∧
      (∀ item ∈ io.accepted, item = ⟨handle, entry.trace.serial⟩ ∧
        after.connected = true ∧ after.acceptedSide = true) ∧
      Draining entry after ∧
      io.accepted.length + entry.trace.authenticated.length ≤
        after.trace.authenticated.length ∧
      (after.connected = true →
        entry.connected = true ∨ entry.acceptedSide = false ∨ io.accepted ≠ []) := by
  rw [State.drainEntry] at ran
  split at ran
  · cases ran
  · rename_i entry found
    rcases bind_eq_ok.mp ran with ⟨turn, looped, result⟩
    cases result
    have from_ := whileLoop.invariant (Turn.From handle state entry)
      (fun _ _ _ => Turn.From.round) fuel (Turn.From.initial handle state entry) looped
    have latched : turn.entry.latchDrained.connected = true →
        turn.entry.connected = true ∨ turn.entry.acceptedSide = false := by
      rw [ConnEntry.latchDrained]
      split <;> exact .inl
    rcases from_.entry (EntrySteps.latchDrained turn.entry)
      (Draining.latchDrained turn.entry) latched true with
      ⟨steps, served, io, equal, routed, surfaced, counted⟩
    dsimp only at equal
    exact ⟨entry, _, io, found, steps, by rw [equal]; rfl, routed, surfaced, served, counted⟩

end IrohEndpoint
