import IrohEndpoint.Sessions

/-! # Two endpoints and the relay between them

Each endpoint takes its own steps. What a pump hands to a relay for the other endpoint is
in flight until the relay delivers it, unchanged and under its sender's identity; it may
take any time, and overtake what is in flight before it. Beside the two configurations
stand observations no step reads: who queued a datagram, and what became of it. -/

namespace IrohEndpoint

variable {P : Platform}

/-! ## What a step does to the relay queue -/

theorem StateStep.outbound {task : Task} {state next : State P}
    (step : StateStep task state next) (other : task ≠ .flush) :
    state.relayOutbound <+: next.relayOutbound := by
  cases step with
  | entry handle entry after io _ _ _ _ _ _ _ => exact List.prefix_append _ _
  | closed now reason _ =>
      rcases state.close_frame now reason with ⟨_, _, frame⟩
      rw [frame]
  | responded addr source payload =>
      rw [State.pushResponse.eq_def]
      split
      · exact List.prefix_append _ _
      · exact List.prefix_rfl
      · exact List.prefix_rfl
  | published relay peer payload => exact List.prefix_append _ _
  | popped relay udp channel flush _ _ _ => exact absurd flush other
  | sighted peer via =>
      rcases state.addrForPeer_frame peer via with ⟨_, _, _, _, frame⟩
      rw [frame]
  | dialed peer key =>
      rcases state.dialStandin_frame peer key with ⟨_, _, _, _, frame⟩
      rw [frame]
  | channelRegistered peer wire _ =>
      rcases state.registerChannel_frame peer wire with ⟨_, _, _, _, _, _, _, _, _, frame⟩
      rw [frame]
  | channelDied id wire _ =>
      rcases state.channelDied_frame id wire with ⟨_, _, frame⟩
      rw [frame]
  | _ => exact List.prefix_rfl

theorem StateSteps.outbound {task : Task} {state next : State P}
    (steps : StateSteps task state next) (other : task ≠ .flush) :
    state.relayOutbound <+: next.relayOutbound := by
  induction steps with
  | refl => exact List.prefix_rfl
  | tail _ step induction => exact induction.trans (step.outbound other)

theorem PumpStep.outbound {pump : Pump} {udp : Bool} {now : Instant} {state : State P}
    {pumped : Pumped P} (step : PumpStep pump udp now state pumped)
    (away : pump.phase ≠ .relayOutbound) :
    state.relayOutbound <+: pumped.1.relayOutbound := by
  cases step with
  | flushed phase relay sent channel _ _ relays _ _ =>
      rw [relays.2 away]
  | drained fuel order next _ drained => exact (StateSteps.drain drained).outbound (by simp)
  | relayDatagram index key conn datagram _ _ _ =>
      exact (StateSteps.handleRelayDatagram _ _ _ _ _).outbound (by simp)
  | relaySignal index key conn datagram _ _ _ =>
      exact (Config.handleSignal_steps _ _ _ _).outbound (by simp)
  | udpDatagram payload remote _ _ _ =>
      exact (StateSteps.handleUdpDatagram _ _ _ _).outbound (by simp)
  | channelMessage index id wire payload _ _ =>
      cases payload with
      | none => exact List.prefix_rfl
      | some datagram => exact (StateSteps.handleChannelDatagram _ _ _ _).outbound (by simp)
  | channelLost index id wire _ _ => exact (StateStep.channelDied id wire rfl).outbound (by simp)
  | _ => exact List.prefix_rfl

namespace Session

variable (P) in
def Publishes (payload : Bytes) : Prop :=
  ∃ signal json, P.encodeSignal signal = .ok json ∧ payload = signalPrefix :: json

end Session

theorem Quiet.outbound {state next : State P} (quiet : Quiet state next) :
    ∃ items, next.relayOutbound = state.relayOutbound ++ items ∧
      ∀ item ∈ items, Session.Publishes P item.2.2 := by
  induction quiet with
  | refl => exact ⟨[], by simp, by simp⟩
  | tail _ step induction =>
      rcases induction with ⟨items, queued, published⟩
      cases step with
      | published relay peer signal json encoded =>
          refine ⟨items ++ [(relay, peer, signalPrefix :: json)], ?_, ?_⟩
          · simp [State.pushSignalOutbound, queued]
          · intro item member
            rcases List.mem_append.mp member with old | new
            · exact published item old
            · rw [List.mem_singleton] at new
              subst new
              exact ⟨signal, json, encoded, rfl⟩
      | filed inboxes => exact ⟨items, queued, published⟩

theorem Session.Resumes.outbound {session : Session} {now : Instant} {wire : ChannelWire}
    {state : State P} {resumed : Resumed P} (resumes : session.Resumes now wire state resumed) :
    ∃ items, resumed.2.2.relayOutbound = state.relayOutbound ++ items ∧
      ∀ item ∈ items, Session.Publishes P item.2.2 := by
  have register := fun state : State P => session.register_outbound state wire
  cases resumes with
  | continued after next _ _ _ _ _ quiet => exact quiet.outbound
  | failed started next error _ quiet => exact quiet.outbound
  | upgraded _ _ => exact ⟨[], (register _).trans (List.append_nil _).symm, by simp⟩
  | answered _ _ => exact ⟨[], (register _).trans (List.append_nil _).symm, by simp⟩
  | _ => exact ⟨[], by simp [State.endSignaling], by simp⟩

def PumpPhase.sendsTo : PumpPhase → Option EndpointId
  | .relaySending _ _ peer _ => some peer
  | _ => none

/-- The pump at its relay queue takes the first item and hands it to the item's relay, if
that is still in the pool. -/
private theorem Pump.resume_pops {pump : Pump} {udp : Bool} {now : Instant} {state : State P}
    {input : PumpInput} {pumped : Pumped P} (phase : pump.phase = .relayOutbound)
    (ran : pump.resume udp now state input = .ok pumped) :
    pumped.1 = { state with relayOutbound := state.relayOutbound.tail } ∧ pumped.2.2 = [] ∧
      pumped.2.1.phase.sendsTo =
        (state.relayOutbound.head?.filter fun item => state.relayPool.contains item.1).map
          fun item => item.2.1 := by
  cases input with
  | run fuel order =>
      simp only [Pump.resume, Pump.run, phase, reduceCtorEq, false_and, if_false] at ran
      cases queue : state.relayOutbound with
      | nil =>
          rw [queue] at ran
          cases ran
          exact ⟨by rw [List.tail_nil, ← queue], rfl, rfl⟩
      | cons item rest =>
          rw [queue] at ran
          dsimp only at ran
          cases pooled : state.relayPool.get? item.1 with
          | none =>
              rw [pooled] at ran
              cases ran
              simp [Table.contains, pooled, phase, PumpPhase.sendsTo]
          | some conn =>
              rw [pooled] at ran
              cases ran
              simp only [List.tail_cons, List.head?_cons, Option.filter_some, Table.contains,
                pooled]
              exact ⟨trivial, trivial, rfl⟩
  | relayEvent index result =>
      rw [Pump.resume, phase] at ran
      split at ran <;> cases ran
  | channelEvent index result =>
      rw [Pump.resume, phase] at ran
      split at ran <;> cases ran
  | udpEvent received =>
      rw [Pump.resume.eq_def, phase] at ran
      dsimp only at ran
      split at ran <;> cases ran
  | _ =>
      rw [Pump.resume, phase] at ran
      cases ran

private theorem dialTask_flush (opened : Bool) : StateSteps.dialTask opened ≠ .flush := by
  cases opened <;> simp [StateSteps.dialTask]

/-- Only the pump at its relay queue takes from it, and a session queues nothing but
signals. -/
theorem Config.step_outbound {config next : Config P} {action : Action}
    (stepped : config.step action = .ok next) :
    (config.pump.phase = .relayOutbound ∧
      next.state.relayOutbound = config.state.relayOutbound.tail ∧
      next.pump.phase.sendsTo = (config.state.relayOutbound.head?.filter fun item =>
        config.state.relayPool.contains item.1).map fun item => item.2.1) ∨
    (config.pump.phase ≠ .relayOutbound ∧ ∃ items,
      next.state.relayOutbound = config.state.relayOutbound ++ items ∧
      ((∃ id input, action = .session id input) →
        ∀ item ∈ items, Session.Publishes P item.2.2)) := by
  have elsewhere : (∀ input, action ≠ .pump input) → config.pump.phase ≠ .relayOutbound := by
    intro other phase
    cases action with
    | pump input => exact other input rfl
    | _ => simp [step, phase, PumpPhase.awaits] at stepped
  cases step_acts stepped with
  | advanced elapsed => exact .inr ⟨elsewhere (by simp), [], by simp, by simp⟩
  | pumped input state pump spawned ran =>
      rcases addSessions_frame spawned ({ config with state, pump } : Config P) with ⟨_, _, frame⟩
      rw [frame]
      by_cases phase : config.pump.phase = .relayOutbound
      · rcases Pump.resume_pops phase ran with ⟨popped, _, sends⟩
        exact .inl ⟨phase, congrArg State.relayOutbound popped, sends⟩
      · rcases (Pump.resume_step ran).outbound phase with ⟨items, queued⟩
        exact .inr ⟨phase, items, queued.symm, by rintro ⟨_, _, equal⟩; cases equal⟩
  | resumed id input session after registration state awaits _ ran =>
      rcases (Session.resumes ran).outbound with ⟨items, queued, published⟩
      exact .inr ⟨elsewhere (by simp), items, queued, fun _ => published⟩
  | invoked method next awaits ran =>
      rcases (invoke_step ran : CallStep false config next).state.outbound (dialTask_flush _) with
        ⟨items, queued⟩
      exact .inr ⟨elsewhere (by simp), items, queued.symm, by simp⟩
  | polled id input call next awaits pending ran =>
      rcases (resumeCall_step pending ran).state.outbound (dialTask_flush _) with ⟨items, queued⟩
      exact .inr ⟨elsewhere (by simp), items, queued.symm, by simp⟩


inductive Side where
  | left
  | right
  deriving DecidableEq, Repr

def Side.other : Side → Side
  | .left => .right
  | .right => .left

/-- A datagram of a relay queue. The publisher is the session that queued it; noq's
packets have none. -/
structure Parcel where
  publisher : Option Nat
  relay : UInt32
  peer : EndpointId
  payload : Bytes
  deriving DecidableEq

/-- What the pump passes on of a relayed datagram, and to which handler. -/
inductive Passed where
  | signal (payload : Bytes)
  | datagram (payload : Bytes)
  deriving DecidableEq

namespace Parcel

def queued (publisher : Option Nat) (item : UInt32 × EndpointId × Bytes) : Parcel :=
  ⟨publisher, item.1, item.2.1, item.2.2⟩

def item (parcel : Parcel) : UInt32 × EndpointId × Bytes :=
  (parcel.relay, parcel.peer, parcel.payload)

@[simp] theorem item_queued (publisher : Option Nat) (item : UInt32 × EndpointId × Bytes) :
    (queued publisher item).item = item := rfl

/-- Where a datagram belongs: a signal without its first byte with `handleSignal`, a
packet as it is with `handleRelayDatagram`. -/
def due (parcel : Parcel) : Passed :=
  match parcel.publisher with
  | some _ => .signal (parcel.payload.drop 1)
  | none => .datagram parcel.payload

end Parcel

def Passed.handle (state : State P) (now : Instant) (via : UInt32) (source : EndpointId) :
    Passed → List Session × State P
  | .signal payload => state.handleSignal via source payload
  | .datagram payload => ([], state.handleRelayDatagram now via source payload)

def Passed.sort (payload : Bytes) : Passed :=
  if payload.head? = some signalPrefix then .signal (payload.drop 1) else .datagram payload

def Pump.passes (pump : Pump) (payload : Bytes) : Option Passed :=
  if pump.phase = .selecting then some (.sort payload) else none

namespace Action

def publisher : Action → Option Nat
  | .session id _ => some id
  | _ => none

def source : Action → Option EndpointId
  | .pump (.relayEvent _ (.ok datagram)) => some datagram.source
  | _ => none

end Action

/-! ## The parties -/

/-- An endpoint, with what is observed of its traffic with the other one. -/
structure Party (P : Platform) where
  config : Config P
  -- the relay queue
  outbox : List Parcel
  -- handed to a relay, and not yet delivered
  flight : List Parcel
  -- the signals filed and not yet read
  inbox : List Parcel
  -- what each session has read
  read : Nat → List Parcel
  -- what came in, and what the pump passed on of it
  delivered : List Parcel
  passed : List Passed

namespace Party

def new (config : Config P) : Party P := ⟨config, [], [], [], fun _ => [], [], []⟩

/-- The relay queue after a step: the pump takes from its front, everyone else appends
to it. -/
def queues (party : Party P) (action : Action) (next : Config P) : List Parcel :=
  if party.config.pump.phase = .relayOutbound then party.outbox.tail
  else
    let appended := next.state.relayOutbound.drop party.config.state.relayOutbound.length
    party.outbox ++ appended.map (Parcel.queued action.publisher)

/-- What a step hands to a relay for `peer`. -/
def sends (party : Party P) (peer : EndpointId) (next : Config P) : List Parcel :=
  if party.config.pump.phase = .relayOutbound ∧ next.pump.phase.sendsTo = some peer then
    party.outbox.take 1
  else []

def taken (party : Party P) (peer : EndpointId) (next : Config P) : Nat :=
  party.inbox.length - (next.state.inbox peer).length

/-- A step of the endpoint. Who gives up the slot leaves the inbox unread. -/
def steps (party : Party P) (peer : EndpointId) (action : Action) (next : Config P) :
    Party P :=
  { party with
    config := next
    outbox := party.queues action next
    flight := party.flight ++ party.sends peer next
    inbox :=
      if next.state.signaling.contains peer then party.inbox.drop (party.taken peer next)
      else []
    read := fun id =>
      if action.publisher = some id ∧ next.state.signaling.contains peer then
        party.read id ++ party.inbox.take (party.taken peer next)
      else party.read id }

/-- The other endpoint's datagram has come in: `before` is the pump that took it. -/
def receives (party : Party P) (peer : EndpointId) (before : Pump) (parcel : Parcel) :
    Party P :=
  { party with
    inbox :=
      if party.inbox.length < (party.config.state.inbox peer).length then
        party.inbox ++ [parcel]
      else party.inbox
    delivered :=
      if before.phase = .selecting then party.delivered ++ [parcel] else party.delivered
    passed := party.passed ++ (before.passes parcel.payload).toList }

def delivers (party : Party P) (position : Nat) : Party P :=
  { party with flight := party.flight.eraseIdx position }

end Party

/-! ## The network -/

structure Network (P : Platform) where
  left : Party P
  right : Party P

namespace Network

def get (network : Network P) : Side → Party P
  | .left => network.left
  | .right => network.right

def set (network : Network P) (side : Side) (party : Party P) : Network P :=
  match side with
  | .left => { network with left := party }
  | .right => { network with right := party }

@[simp] theorem get_set (network : Network P) (side other : Side) (party : Party P) :
    (network.set side party).get other = if other = side then party else network.get other := by
  cases side <;> cases other <;> rfl

/-- An endpoint steps, or `side` takes what is in flight to it at `position` with the
receive at `index`. -/
inductive Action where
  | own (side : Side) (action : IrohEndpoint.Action)
  | deliver (side : Side) (position index : Nat)

variable (ids : Side → EndpointId)

/-- The pump's input when a datagram is delivered to `side`. -/
def arrives (side : Side) (index : Nat) (parcel : Parcel) : IrohEndpoint.Action :=
  .pump (.relayEvent index (.ok ⟨ids side.other, parcel.payload⟩))

def step (network : Network P) : Action → Except Abort (Network P)
  | .own side action =>
      -- only the relay speaks in an endpoint's name
      if action.source = some (ids side.other) then .error .disabled
      else do
        let next ← (network.get side).config.step action
        .ok (network.set side ((network.get side).steps (ids side.other) action next))
  | .deliver side position index =>
      let receiver := network.get side
      let sender := network.get side.other
      match sender.flight[position]? with
      | none => .error .disabled
      | some parcel => do
          let action := arrives ids side index parcel
          let next ← receiver.config.step action
          let stepped := receiver.steps (ids side.other) action next
          let filed := stepped.receives (ids side.other) receiver.config.pump parcel
          .ok ((network.set side filed).set side.other (sender.delivers position))

end Network

variable (P) in
def relayed (ids : Side → EndpointId) : System (Network P) Network.Action Abort where
  Initial network := ∃ left right, (endpoint P).Initial left ∧ (endpoint P).Initial right ∧
    network = ⟨.new left, .new right⟩
  step := Network.step ids

namespace Network

variable {ids : Side → EndpointId}

inductive Steps (ids : Side → EndpointId) (network : Network P) : Action → Network P → Prop
  | own (side : Side) (action : IrohEndpoint.Action) (next : Config P) :
      action.source ≠ some (ids side.other) →
      (network.get side).config.step action = .ok next →
      Steps ids network (.own side action)
        (network.set side ((network.get side).steps (ids side.other) action next))
  | delivered (side : Side) (position index : Nat) (parcel : Parcel) (next : Config P) :
      (network.get side.other).flight[position]? = some parcel →
      (network.get side).config.step (arrives ids side index parcel) = .ok next →
      Steps ids network (.deliver side position index)
        ((network.set side (((network.get side).steps (ids side.other)
          (arrives ids side index parcel) next).receives (ids side.other)
            (network.get side).config.pump parcel)).set side.other
          ((network.get side.other).delivers position))

theorem step_steps {network next : Network P} {action : Action}
    (stepped : network.step ids action = .ok next) : Steps ids network action next := by
  cases action with
  | own side action =>
      rw [step] at stepped
      split at stepped
      · cases stepped
      · rename_i other
        rcases bind_eq_ok.mp stepped with ⟨config, moved, result⟩
        cases result
        exact .own side action config other moved
  | deliver side position index =>
      rw [step] at stepped
      dsimp only at stepped
      split at stepped
      · cases stepped
      · rename_i parcel found
        rcases bind_eq_ok.mp stepped with ⟨config, moved, result⟩
        cases result
        exact .delivered side position index parcel config found moved

end Network

namespace Party

/-- The observed relay queue is the real one, and what a session queued is a signal. -/
structure Queued (party : Party P) : Prop where
  outbox : party.outbox.map Parcel.item = party.config.state.relayOutbound
  published : ∀ parcel ∈ party.outbox ++ party.flight, parcel.publisher ≠ none →
    Session.Publishes P parcel.payload

theorem Queued.kept {party : Party P} (queued : party.Queued) {peer : EndpointId}
    {action : Action} {next : Config P} (stepped : party.config.step action = .ok next) :
    (party.steps peer action next).Queued := by
  have sent : ∀ parcel ∈ party.flight ++ party.sends peer next, parcel.publisher ≠ none →
      Session.Publishes P parcel.payload := by
    intro parcel member
    rcases List.mem_append.mp member with old | new
    · exact queued.published parcel (List.mem_append_right _ old)
    · rw [sends] at new
      split at new
      · exact queued.published parcel (List.mem_append_left _ (List.mem_of_mem_take new))
      · cases new
  rcases Config.step_outbound stepped with ⟨phase, popped, _⟩ | ⟨phase, items, appended, signals⟩
  · have outbox : party.queues action next = party.outbox.tail := if_pos phase
    refine ⟨?_, ?_⟩
    · rw [steps, outbox, List.map_tail, queued.outbox]
      exact popped.symm
    · intro parcel member
      rw [steps, outbox] at member
      rcases List.mem_append.mp member with old | new
      · exact queued.published parcel (List.mem_append_left _ (List.mem_of_mem_tail old))
      · exact sent parcel new
  · have outbox : party.queues action next =
        party.outbox ++ items.map (Parcel.queued action.publisher) := by
      rw [queues, if_neg phase, appended, List.drop_left]
    refine ⟨?_, ?_⟩
    · rw [steps, outbox, List.map_append, queued.outbox, List.map_map]
      simpa [Function.comp_def] using appended.symm
    · intro parcel member publisher
      rw [steps, outbox] at member
      rcases List.mem_append.mp member with old | new
      · rcases List.mem_append.mp old with old | new
        · exact queued.published parcel (List.mem_append_left _ old) publisher
        · rcases List.mem_map.mp new with ⟨item, among, rfl⟩
          refine signals ?_ item among
          cases action with
          | session id input => exact ⟨id, input, rfl⟩
          | _ => exact absurd rfl publisher
      · exact sent parcel new publisher

theorem Queued.delivers {party : Party P} (queued : party.Queued) (position : Nat) :
    (party.delivers position).Queued := by
  refine ⟨queued.outbox, ?_⟩
  intro parcel member
  rcases List.mem_append.mp member with old | new
  · exact queued.published parcel (List.mem_append_left _ old)
  · exact queued.published parcel (List.mem_append_right _ (List.mem_of_mem_eraseIdx new))

/-- The pump has sorted what came in by its first byte, and what a session of the other
endpoint published came in as a signal. -/
structure Sorted (party : Party P) : Prop where
  published : ∀ parcel ∈ party.delivered, parcel.publisher ≠ none →
    Session.Publishes P parcel.payload
  passed : party.passed = party.delivered.map fun parcel => Passed.sort parcel.payload

theorem Sorted.receives {party : Party P} (sorted : party.Sorted) (peer : EndpointId)
    (before : Pump) {parcel : Parcel}
    (published : parcel.publisher ≠ none → Session.Publishes P parcel.payload) :
    (party.receives peer before parcel).Sorted := by
  by_cases selecting : before.phase = .selecting
  · have delivered : (party.receives peer before parcel).delivered =
        party.delivered ++ [parcel] := if_pos selecting
    refine ⟨?_, ?_⟩
    · intro other member
      rw [delivered] at member
      rcases List.mem_append.mp member with old | new
      · exact sorted.published other old
      · rw [List.mem_singleton] at new
        subst new
        exact published
    · rw [delivered, List.map_append, ← sorted.passed]
      simp [Party.receives, Pump.passes, selecting]
  · have delivered : (party.receives peer before parcel).delivered = party.delivered :=
      if_neg selecting
    refine ⟨?_, ?_⟩
    · rw [delivered]
      exact sorted.published
    · rw [delivered, ← sorted.passed]
      simp [Party.receives, Pump.passes, selecting]

end Party

namespace Network

variable {ids : Side → EndpointId}

private theorem Steps.sorted {network next : Network P} {action : Action}
    (steps : Steps ids network action next)
    (holds : ∀ side, (network.get side).Queued ∧ (network.get side).Sorted) :
    ∀ side, (next.get side).Queued ∧ (next.get side).Sorted := by
  intro here
  cases steps with
  | own side action config other moved =>
      rw [get_set]
      split
      · rename_i same
        subst same
        rcases holds here with ⟨queued, sorted⟩
        exact ⟨queued.kept moved, sorted.published, sorted.passed⟩
      · exact holds here
  | delivered side position index parcel config found moved =>
      have flown := List.mem_of_getElem? found
      rw [get_set]
      split
      · rename_i same
        subst same
        rcases holds side.other with ⟨queued, sorted⟩
        exact ⟨queued.delivers position, sorted.published, sorted.passed⟩
      · rw [get_set]
        split
        · rename_i same
          subst same
          rcases holds here with ⟨queued, sorted⟩
          have kept : ((network.get here).steps (ids here.other)
              (arrives ids here index parcel) config).Queued := queued.kept moved
          have stepped : ((network.get here).steps (ids here.other)
              (arrives ids here index parcel) config).Sorted := ⟨sorted.published, sorted.passed⟩
          refine ⟨⟨kept.outbox, kept.published⟩, ?_⟩
          exact stepped.receives _ _
            ((holds here.other).1.published parcel (List.mem_append_right _ flown))
        · exact holds here

private theorem reachable_sorted {network : Network P} (reached : (relayed P ids).Reachable network)
    (side : Side) : (network.get side).Queued ∧ (network.get side).Sorted := by
  apply reached.invariant
    (fun network => ∀ side, (network.get side).Queued ∧ (network.get side).Sorted)
  · rintro network ⟨left, right, ⟨_, _, _, _, _, _, _, rfl⟩, ⟨_, _, _, _, _, _, _, rfl⟩, rfl⟩ side
    cases side <;> exact ⟨⟨rfl, by simp [get, Party.new]⟩, by simp [get, Party.new], rfl⟩
  · intro network action next holds _ stepped
    exact (step_steps stepped).sorted holds

private theorem delivered_handles {network : Network P} {side : Side} {parcel : Parcel}
    {index : Nat}
    {next : Config P} (selecting : (network.get side).config.pump.phase = .selecting)
    (moved : (network.get side).config.step (arrives ids side index parcel) = .ok next) :
    ∃ via pump, next = ({ (network.get side).config with
      pump
      state := ((Passed.sort parcel.payload).handle (network.get side).config.state
        (network.get side).config.clock via (ids side.other)).2 } : Config P).addSessions
      ((Passed.sort parcel.payload).handle (network.get side).config.state
        (network.get side).config.clock via (ids side.other)).1 := by
  rcases bind_eq_ok.mp moved with ⟨⟨state, pump, spawned⟩, ran, result⟩
  cases result
  rw [Pump.resume, selecting] at ran
  split at ran
  · cases ran
  · rename_i key conn _
    rw [Except.ok.injEq, Pump.relayEvent] at ran
    dsimp only at ran
    by_cases signal : parcel.payload.head? = some signalPrefix
    · rw [if_pos signal] at ran
      cases ran
      exact ⟨key, _, by rw [Passed.sort, if_pos signal]; rfl⟩
    · rw [if_neg signal] at ran
      cases ran
      exact ⟨key, _, by rw [Passed.sort, if_neg signal]; rfl⟩

end Network

private theorem Passed.sort_eq_due {parcel : Parcel}
    (published : parcel.publisher ≠ none → Session.Publishes P parcel.payload) :
    Passed.sort parcel.payload = parcel.due ↔
      (parcel.publisher = none → parcel.payload.head? ≠ some signalPrefix) := by
  rw [Passed.sort, Parcel.due]
  cases publisher : parcel.publisher with
  | none =>
      by_cases signal : parcel.payload.head? = some signalPrefix <;> simp [signal]
  | some id =>
      rcases published (by simp [publisher]) with ⟨signal, json, _, payload⟩
      simp [payload]

/-- Signals and QUIC packets on one wire. -/
theorem signaling_and_quic_apart_iff {ids : Side → EndpointId} {network : Network P}
    (reached : (relayed P ids).Reachable network) (side : Side) :
    ((network.get side).passed = (network.get side).delivered.map Parcel.due ↔
      ∀ parcel ∈ (network.get side).delivered, parcel.publisher = none →
        parcel.payload.head? ≠ some signalPrefix) ∧
    (∀ parcel ∈ (network.get side).delivered, parcel.publisher ≠ none →
      Session.Publishes P parcel.payload) ∧
    (∀ position index next, network.step ids (.deliver side position index) = .ok next →
      (network.get side).config.pump.phase = .selecting →
      ∃ parcel passed via pump,
        (network.get side.other).flight[position]? = some parcel ∧
        (next.get side).delivered = (network.get side).delivered ++ [parcel] ∧
        (next.get side).passed = (network.get side).passed ++ [passed] ∧
        (next.get side).config = ({ (network.get side).config with
          pump
          state := (passed.handle (network.get side).config.state
            (network.get side).config.clock via (ids side.other)).2 } : Config P).addSessions
          (passed.handle (network.get side).config.state
            (network.get side).config.clock via (ids side.other)).1) := by
  rcases Network.reachable_sorted reached side with ⟨_, sorted⟩
  refine ⟨?_, sorted.published, ?_⟩
  · rw [sorted.passed, List.map_inj_left]
    constructor
    · intro equal parcel member
      exact (Passed.sort_eq_due (sorted.published parcel member)).mp (equal parcel member)
    · intro apart parcel member
      exact (Passed.sort_eq_due (sorted.published parcel member)).mpr (apart parcel member)
  · intro position index next stepped selecting
    cases Network.step_steps stepped with
    | delivered _ _ _ parcel config found moved =>
        rcases Network.delivered_handles selecting moved with ⟨via, pump, handled⟩
        have apart : side ≠ side.other := by cases side <;> simp [Side.other]
        refine ⟨parcel, .sort parcel.payload, via, pump, found, ?_, ?_, ?_⟩
        · simp [apart, Party.receives, Party.steps, selecting]
        · simp [apart, Party.receives, Party.steps, Pump.passes, selecting]
        · rw [← handled]
          simp [apart, Party.receives, Party.steps]

namespace Slab

def ids : Side → EndpointId
  | .left => peer 7
  | .right => peer 9

def pair : Network platform := ⟨.new (bound true false), .new (bound true false)⟩

theorem pair_initial : (relayed platform ids).Initial pair :=
  ⟨_, _, bound_initial true false, bound_initial true false, rfl⟩

def on (side : Side) (actions : List Action) : List Network.Action :=
  actions.map (.own side)

/-- The left endpoint dials the right one, asking for an upgrade. -/
def dials : List Network.Action :=
  List.flatten [on .left (turn [] 0), on .right (turn [] 0),
    on .left [.invoke (.connect ⟨(peer 9).bytes, [.webrtc "a://home"]⟩ []), .pump .tick]]

end Slab

/-- An offer overtakes the first packet of the connection it is to upgrade, and both end up
where they belong. -/
theorem signaling_and_quic_apart_dialing :
    ∃ network, (relayed Slab.platform Slab.ids).Reachable network ∧
      network.right.delivered = [⟨some 2, homeRelay, Slab.peer 9, [0, 1]⟩,
        ⟨none, homeRelay, Slab.peer 9, [1]⟩] ∧
      network.right.passed = [.signal [1], .datagram [1]] := by
  have passed : (relayed Slab.platform Slab.ids).runs (fun _ _ => true) Slab.pair
      (List.flatten [Slab.dials, Slab.on .left (Slab.turn [0] 1),
        Slab.on .left [.session 2 (.dataChannel (.ok ())), .session 2 (.description (.ok "")),
          .session 2 (.done (.ok ())), .pump .tick],
        Slab.on .left (Slab.turn [0] 1), [.deliver .right 1 0],
        Slab.on .right (Slab.turn [] 0), [.deliver .right 0 0]])
      (fun network => decide (network.right.delivered =
        [⟨some 2, homeRelay, Slab.peer 9, [0, 1]⟩, ⟨none, homeRelay, Slab.peer 9, [1]⟩])) =
      true := by
    decide +kernel
  rcases System.Reachable.of_runs Slab.pair_initial passed with ⟨network, reached, delivered⟩
  have delivered := of_decide_eq_true delivered
  refine ⟨network, reached, delivered, ?_⟩
  have apart := (signaling_and_quic_apart_iff reached .right).1.mpr (by
    intro parcel member
    rw [show network.get .right = network.right from rfl, delivered] at member
    rcases List.mem_cons.mp member with rfl | member
    · simp
    · rcases List.mem_cons.mp member with rfl | member
      · simp [signalPrefix]
      · cases member)
  rw [show network.get .right = network.right from rfl, delivered] at apart
  exact apart

/-- The packet that closes a connection comes out of header protection with a first byte of
zero, and starts a session at the other endpoint. -/
theorem quic_taken_for_signal :
    ∃ network, (relayed Slab.platform Slab.ids).Reachable network ∧
      network.right.passed ≠ network.right.delivered.map Parcel.due ∧
      ⟨none, homeRelay, Slab.peer 9, [0]⟩ ∈ network.right.delivered ∧
      Passed.signal [] ∈ network.right.passed ∧
      (network.right.config.sessions.get? 1).map Session.role = some .answerer := by
  have passed : (relayed Slab.platform Slab.ids).runs (fun _ _ => true) Slab.pair
      (List.flatten [Slab.dials, Slab.on .left (Slab.turn [0] 1),
        Slab.on .left [.invoke .closeEndpoint, .pump .tick], Slab.on .left (Slab.turn [0] 1),
        [.deliver .right 0 0], Slab.on .right (Slab.turn [0] 2), [.deliver .right 0 0]])
      (fun network => decide (network.right.passed ≠ network.right.delivered.map Parcel.due ∧
        ⟨none, homeRelay, Slab.peer 9, [0]⟩ ∈ network.right.delivered ∧
        Passed.signal [] ∈ network.right.passed ∧
        (network.right.config.sessions.get? 1).map Session.role = some .answerer)) = true := by
    decide +kernel
  rcases System.Reachable.of_runs Slab.pair_initial passed with ⟨network, reached, taken⟩
  exact ⟨network, reached, of_decide_eq_true taken⟩

end IrohEndpoint
