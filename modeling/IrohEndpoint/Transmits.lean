import IrohEndpoint.Effects
import IrohEndpoint.Slab

/-! # The packets of a drain

`drain` asks every connection for packets until none has anything left, and puts
each packet on the queue of the wire that its destination is routed to. A
connection is seen here only through what it answers, so the packets it gave are
read off its conversation with the endpoint. -/

namespace IrohEndpoint

variable {P : Platform}

/-! ## Conversations -/

def ConnCall.transmits {EndpointEvent ConnectionEvent : Type} :
    {Answer : Type} → ConnCall EndpointEvent ConnectionEvent Answer → Answer → List Transmit
  | _, .pollTransmit _, answer => answer.toList
  | _, _, _ => []

namespace Platform

/-- A connection is called any number of times and gives `sent`, in order. -/
inductive Emits (P : Platform) (start : P.Connection) : List Transmit → P.Connection → Prop
  | refl : Emits P start [] start
  | call {sent : List Transmit} {conn : P.Connection} {Answer : Type}
      (operation : ConnCall P.EndpointEvent P.ConnectionEvent Answer) :
      Emits P start sent conn →
      Emits P start (sent ++ operation.transmits (P.call operation conn).1)
        (P.call operation conn).2

namespace Emits

variable {start conn : P.Connection} {sent : List Transmit}

theorem trans {last : P.Connection} {more : List Transmit}
    (front : P.Emits start sent conn) (back : P.Emits conn more last) :
    P.Emits start (sent ++ more) last := by
  induction back with
  | refl =>
      rw [List.append_nil]
      exact front
  | call operation _ induction =>
      rw [← List.append_assoc]
      exact .call operation induction

theorem silent {Answer : Type}
    (operation : ConnCall P.EndpointEvent P.ConnectionEvent Answer)
    (quiet : ∀ answer, operation.transmits answer = []) (emits : P.Emits start sent conn) :
    P.Emits start sent (P.call operation conn).2 := by
  have called := Emits.call operation emits
  rw [quiet, List.append_nil] at called
  exact called

end Emits

/-- A connection that was asked for endpoint events, for application events and
for packets, in this order, and had none of them. -/
def Spent (P : Platform) (now : Instant) (conn : P.Connection) : Prop :=
  ∃ first second third, P.call .pollEndpointEvents first = (none, second) ∧
    P.call .poll second = (none, third) ∧ P.call (.pollTransmit now) third = (none, conn)

end Platform

/-! ## Queues -/

inductive Outbound where
  | relay (key : UInt32) (peer : EndpointId) (datagram : Bytes)
  | udp (addr : SocketAddr) (datagram : Bytes)
  | channel (id : UInt32) (datagram : Bytes)
  deriving DecidableEq

namespace Outbound

def relay? : Outbound → Option (UInt32 × EndpointId × Bytes)
  | .relay key peer datagram => some (key, peer, datagram)
  | _ => none

def udp? : Outbound → Option (SocketAddr × Bytes)
  | .udp addr datagram => some (addr, datagram)
  | _ => none

def channel? : Outbound → Option (UInt32 × Bytes)
  | .channel id datagram => some (id, datagram)
  | _ => none

def wire? : Outbound → Option RouteWire
  | .relay key _ _ => some (.relay key)
  | .udp _ _ => none
  | .channel id _ => some (.channel id)

def datagram : Outbound → Bytes
  | .relay _ _ datagram => datagram
  | .udp _ datagram => datagram
  | .channel _ datagram => datagram

end Outbound

namespace State

/-- The wire a packet's destination is routed to; a standin without a peer has
none. -/
def outbound (state : State P) (transmit : Transmit) : Option Outbound :=
  match state.routes.get? transmit.destination with
  | some (.relay key) =>
      (state.addrToPeer.get? transmit.destination).map (.relay key · transmit.datagram)
  | some (.channel id) => some (.channel id transmit.datagram)
  | none => some (.udp transmit.destination transmit.datagram)

theorem outbound_wire {state : State P} {transmit : Transmit} {item : Outbound}
    (queued : state.outbound transmit = some item) :
    item.wire? = state.routes.get? transmit.destination ∧
      item.datagram = transmit.datagram := by
  rw [outbound] at queued
  cases route : state.routes.get? transmit.destination with
  | none =>
      rw [route] at queued
      cases queued
      exact ⟨rfl, rfl⟩
  | some wire =>
      rw [route] at queued
      cases wire with
      | relay key =>
          rcases Option.map_eq_some_iff.mp queued with ⟨peer, _, rfl⟩
          exact ⟨rfl, rfl⟩
      | channel id =>
          cases queued
          exact ⟨rfl, rfl⟩

theorem outbound_udp {state : State P} {transmit : Transmit} {item : Outbound}
    (unrouted : state.routes.get? transmit.destination = none)
    (queued : state.outbound transmit = some item) :
    item = .udp transmit.destination transmit.datagram := by
  rw [outbound, unrouted] at queued
  exact (Option.some.inj queued).symm

/-- The queues grew by `items`, each at the end of its own queue. -/
structure Gains (state next : State P) (items : List Outbound) : Prop where
  relay : next.relayOutbound = state.relayOutbound ++ items.filterMap Outbound.relay?
  udp : next.udpOutbound = state.udpOutbound ++ items.filterMap Outbound.udp?
  channel : next.channelOutbound =
    state.channelOutbound ++ items.filterMap Outbound.channel?

namespace Gains

variable {state middle next : State P}

theorem of_same (relay : next.relayOutbound = state.relayOutbound)
    (udp : next.udpOutbound = state.udpOutbound)
    (channel : next.channelOutbound = state.channelOutbound) : state.Gains next [] := by
  constructor <;> simp [relay, udp, channel]

theorem trans {items more : List Outbound} (front : state.Gains middle items)
    (back : middle.Gains next more) : state.Gains next (items ++ more) := by
  constructor
  · rw [back.relay, front.relay, List.filterMap_append, List.append_assoc]
  · rw [back.udp, front.udp, List.filterMap_append, List.append_assoc]
  · rw [back.channel, front.channel, List.filterMap_append, List.append_assoc]

end Gains

private theorem routeTransmit_gains {state next : State P} {transmit : Transmit}
    (routed : state.routeTransmit transmit = .ok next) :
    next.outbound = state.outbound ∧
      ∃ item, state.outbound transmit = some item ∧ state.Gains next [item] := by
  rw [routeTransmit] at routed
  rw [outbound]
  cases route : state.routes.get? transmit.destination with
  | none =>
      rw [route] at routed
      cases routed
      exact ⟨rfl, _, rfl, by constructor <;> simp [Outbound.relay?, Outbound.udp?,
        Outbound.channel?]⟩
  | some wire =>
      rw [route] at routed
      cases wire with
      | channel id =>
          cases routed
          exact ⟨rfl, _, rfl, by constructor <;> simp [Outbound.relay?, Outbound.udp?,
            Outbound.channel?]⟩
      | relay key =>
          dsimp only at routed ⊢
          cases known : state.addrToPeer.get? transmit.destination with
          | none =>
              rw [known] at routed
              cases routed
          | some peer =>
              rw [known] at routed
              cases routed
              exact ⟨rfl, _, rfl, by constructor <;> simp [Outbound.relay?, Outbound.udp?,
                Outbound.channel?]⟩

end State

/-! ## Events -/

structure ConnEntry.Quietly (entry after : ConnEntry P) : Prop where
  emits : P.Emits entry.conn [] after.conn
  drained : after.drained = entry.drained

namespace ConnEntry.Quietly

theorem refl (entry : ConnEntry P) : entry.Quietly entry := ⟨.refl, rfl⟩

theorem trans {first middle last : ConnEntry P} (front : first.Quietly middle)
    (back : middle.Quietly last) : first.Quietly last :=
  ⟨front.emits.trans back.emits, back.drained.trans front.drained⟩

theorem call {Answer : Type} (entry : ConnEntry P)
    (operation : ConnCall P.EndpointEvent P.ConnectionEvent Answer)
    (quiet : ∀ answer, operation.transmits answer = []) :
    entry.Quietly (entry.call operation).2 :=
  ⟨.silent operation quiet .refl, rfl⟩

theorem acceptRound {dir : Dir} {entry next : ConnEntry P} {again : Bool}
    (stepped : IrohEndpoint.acceptRound dir entry = .ok (next, again)) :
    entry.Quietly next := by
  have called := call entry (.acceptStream dir) fun _ => rfl
  rw [IrohEndpoint.acceptRound] at stepped
  split at stepped <;> rename_i answer <;> rw [answer] at called <;> cases stepped
  · exact called
  · cases dir <;> exact ⟨called.emits, called.drained⟩

private theorem acceptLoop {dir : Dir} {fuel : Nat} {entry after : ConnEntry P}
    (ran : whileLoop .outOfFuel (IrohEndpoint.acceptRound dir) fuel entry = .ok after) :
    entry.Quietly after := by
  apply whileLoop.invariant entry.Quietly _ fuel (refl entry) ran
  intro current next again sofar stepped
  exact sofar.trans (acceptRound stepped)

theorem onConnected (entry : ConnEntry P) (now : Instant) :
    entry.Quietly (entry.onConnected now) := by
  have refused : ∀ seen : ConnEntry P, seen.conn = entry.conn →
      seen.drained = entry.drained → entry.Quietly (seen.refuse now) := by
    intro seen same kept
    have closed := call { seen with error := some (Error.connectFailed
      "authenticated key differs from the addressed peer") } (.close now 1
        "identity mismatch".toUTF8.data.toList) fun _ => rfl
    exact ⟨same ▸ closed.emits, closed.drained.trans kept⟩
  rw [ConnEntry.onConnected]
  dsimp only
  split
  · split
    · exact ⟨.refl, rfl⟩
    · exact refused _ rfl rfl
  · exact refused _ rfl rfl

end ConnEntry.Quietly

private theorem onEvent_quiet {fuel : Nat} {now : Instant} {handle : ConnectionHandle}
    {event : Event} {state next : State P} {entry after : ConnEntry P}
    (ran : onEvent fuel now handle event state entry = .ok (next, after)) :
    entry.Quietly after ∧ next.outbound = state.outbound ∧ state.Gains next [] := by
  cases event with
  | connected =>
      rw [onEvent] at ran
      have moved := ConnEntry.Quietly.onConnected entry now
      split at ran <;> cases ran
      · exact ⟨moved, rfl, .of_same rfl rfl rfl⟩
      · exact ⟨moved, rfl, .of_same rfl rfl rfl⟩
  | streamOpened =>
      rcases bind_eq_ok.mp ran with ⟨middle, first, rest⟩
      rcases bind_eq_ok.mp rest with ⟨final, second, result⟩
      cases result
      have bi := ConnEntry.Quietly.acceptLoop first
      have uni := ConnEntry.Quietly.acceptLoop second
      exact ⟨bi.trans uni, rfl, .of_same rfl rfl rfl⟩
  | connectionLost reason =>
      cases ran
      exact ⟨⟨.refl, rfl⟩, rfl, .of_same rfl rfl rfl⟩
  | _ =>
      cases ran
      exact ⟨.refl _, rfl, .of_same rfl rfl rfl⟩

/-! ## One connection's turn -/

/-- A turn that started from `first` with the entry `start`: every packet the
connection gave since is queued. -/
structure Turn.Sends (first : State P) (start : ConnEntry P) (turn : Turn P) : Prop where
  drained : turn.entry.drained = start.drained
  outbound : turn.state.outbound = first.outbound
  sent : ∃ sent items, P.Emits start.conn sent turn.entry.conn ∧
    sent.map first.outbound = items.map some ∧ first.Gains turn.state items

namespace Turn.Sends

variable {first : State P} {start : ConnEntry P}

theorem initial (first : State P) (start : ConnEntry P) (progressed : Bool) :
    Turn.Sends first start ⟨first, start, progressed⟩ :=
  ⟨rfl, rfl, [], [], .refl, rfl, .of_same rfl rfl rfl⟩

private theorem quietly {turn : Turn P} (sofar : turn.Sends first start) {state : State P}
    {after : ConnEntry P} (moved : turn.entry.Quietly after)
    (routes : state.outbound = turn.state.outbound) (gains : turn.state.Gains state [])
    (progressed : Bool) : Turn.Sends first start ⟨state, after, progressed⟩ := by
  rcases sofar.sent with ⟨sent, items, emits, queued, gained⟩
  refine ⟨moved.drained.trans sofar.drained, routes.trans sofar.outbound, sent, items, ?_,
    queued, ?_⟩
  · have both := emits.trans moved.emits
    rw [List.append_nil] at both
    exact both
  · have both := gained.trans gains
    rw [List.append_nil] at both
    exact both

theorem endpointEventRound {handle : ConnectionHandle} {turn next : Turn P} {again : Bool}
    (sofar : turn.Sends first start)
    (stepped : turn.endpointEventRound handle = .ok (next, again)) :
    next.Sends first start := by
  have called := ConnEntry.Quietly.call turn.entry .pollEndpointEvents fun _ => rfl
  rw [Turn.endpointEventRound] at stepped
  split at stepped <;> rename_i answer <;> rw [answer] at called <;> cases stepped
  · exact sofar.quietly called rfl (.of_same rfl rfl rfl) _
  · apply sofar.quietly
    · split
      · exact called.trans (.call _ _ fun _ => rfl)
      · exact called
    · rfl
    · exact .of_same rfl rfl rfl

theorem eventRound {fuel : Nat} {now : Instant} {handle : ConnectionHandle}
    {turn next : Turn P} {again : Bool} (sofar : turn.Sends first start)
    (stepped : turn.eventRound fuel now handle = .ok (next, again)) :
    next.Sends first start := by
  have called := ConnEntry.Quietly.call turn.entry .poll fun _ => rfl
  rw [Turn.eventRound] at stepped
  split at stepped <;> rename_i answer <;> rw [answer] at called
  · cases stepped
    exact sofar.quietly called rfl (.of_same rfl rfl rfl) _
  · rcases bind_eq_ok.mp stepped with ⟨⟨state, after⟩, ran, result⟩
    cases result
    rcases onEvent_quiet ran with ⟨moved, routes, gains⟩
    exact sofar.quietly (called.trans moved) routes gains true

theorem transmitRound {now : Instant} {turn next : Turn P} {again : Bool}
    (sofar : turn.Sends first start)
    (stepped : turn.transmitRound now = .ok (next, again)) : next.Sends first start := by
  rcases sofar.sent with ⟨sent, items, emits, queued, gained⟩
  have called := Platform.Emits.call (.pollTransmit now) emits
  rw [Turn.transmitRound] at stepped
  split at stepped <;> rename_i answer <;> cases answered : P.call (.pollTransmit now)
    turn.entry.conn <;> rw [answered] at called <;> rw [ConnEntry.call, answered] at answer <;>
    cases answer
  · cases stepped
    refine ⟨sofar.drained, sofar.outbound, sent, items, ?_, queued, gained⟩
    simpa [ConnCall.transmits] using called
  · rename_i transmit _
    rcases bind_eq_ok.mp stepped with ⟨state, routed, result⟩
    cases result
    rcases State.routeTransmit_gains routed with ⟨routes, item, wire, gains⟩
    rw [sofar.outbound] at wire
    refine ⟨sofar.drained, routes.trans sofar.outbound, sent ++ [transmit], items ++ [item],
      called, ?_, gained.trans gains⟩
    simp [queued, wire]

theorem round {fuel : Nat} {now : Instant} {handle : ConnectionHandle} {turn next : Turn P}
    {again : Bool} (sofar : turn.Sends first start)
    (stepped : turn.round fuel now handle = .ok (next, again)) : next.Sends first start := by
  rcases bind_eq_ok.mp stepped with ⟨one, firstLoop, rest⟩
  rcases bind_eq_ok.mp rest with ⟨two, secondLoop, rest⟩
  rcases bind_eq_ok.mp rest with ⟨three, thirdLoop, result⟩
  cases result
  have begun := sofar.quietly (.refl _) rfl (.of_same rfl rfl rfl) false
  have afterOne := whileLoop.invariant (Turn.Sends first start)
    (fun _ _ _ => endpointEventRound) fuel begun firstLoop
  have afterTwo := whileLoop.invariant (Turn.Sends first start)
    (fun _ _ _ => eventRound) fuel afterOne secondLoop
  exact whileLoop.invariant (Turn.Sends first start)
    (fun _ _ _ => transmitRound) fuel afterTwo thirdLoop

end Turn.Sends

/-! ## The last round -/

private theorem ConnEntry.call_eq {Answer : Type} {entry after : ConnEntry P}
    {operation : ConnCall P.EndpointEvent P.ConnectionEvent Answer} {answer : Answer}
    (called : entry.call operation = (answer, after)) :
    P.call operation entry.conn = (answer, after.conn) := by
  cases called
  rfl

namespace Turn

/-- A loop of a turn whose rounds that go on report progress. -/
structure Reports (body : Turn P → Except Abort (Turn P × Bool)) : Prop where
  marks : ∀ turn next, body turn = .ok (next, true) → next.progressed = true
  keeps : ∀ turn next again, turn.progressed = true → body turn = .ok (next, again) →
    next.progressed = true

theorem Reports.idle {body : Turn P → Except Abort (Turn P × Bool)} (reports : Reports body)
    {fuel : Nat} {turn final : Turn P}
    (ran : whileLoop .outOfFuel body fuel turn = .ok final)
    (still : final.progressed = false) :
    turn.progressed = false ∧ body turn = .ok (final, false) := by
  have unmarked : ¬ final.progressed = true := by simp [still]
  constructor
  · cases before : turn.progressed with
    | false => rfl
    | true =>
        exact absurd (whileLoop.invariant _ reports.keeps fuel before ran) unmarked
  · exact whileLoop.stops_at_once _ reports.marks reports.keeps ran unmarked

private theorem endpointEventRound_reports (handle : ConnectionHandle) :
    Reports (endpointEventRound (P := P) handle) := by
  constructor
  · intro turn next stepped
    rw [endpointEventRound] at stepped
    split at stepped <;> cases stepped
    rfl
  · intro turn next again marked stepped
    rw [endpointEventRound] at stepped
    split at stepped <;> cases stepped
    · exact marked
    · rfl

private theorem eventRound_reports (fuel : Nat) (now : Instant) (handle : ConnectionHandle) :
    Reports (eventRound (P := P) fuel now handle) := by
  constructor
  · intro turn next stepped
    rw [eventRound] at stepped
    split at stepped
    · cases stepped
    · rcases bind_eq_ok.mp stepped with ⟨_, _, result⟩
      cases result
      rfl
  · intro turn next again marked stepped
    rw [eventRound] at stepped
    split at stepped
    · cases stepped
      exact marked
    · rcases bind_eq_ok.mp stepped with ⟨_, _, result⟩
      cases result
      rfl

private theorem transmitRound_reports (now : Instant) :
    Reports (transmitRound (P := P) now) := by
  constructor
  · intro turn next stepped
    rw [transmitRound] at stepped
    split at stepped
    · cases stepped
    · rcases bind_eq_ok.mp stepped with ⟨_, _, result⟩
      cases result
      rfl
  · intro turn next again marked stepped
    rw [transmitRound] at stepped
    split at stepped
    · cases stepped
      exact marked
    · rcases bind_eq_ok.mp stepped with ⟨_, _, result⟩
      cases result
      rfl

private theorem round_spent {fuel : Nat} {now : Instant} {handle : ConnectionHandle}
    {turn next : Turn P} (stepped : turn.round fuel now handle = .ok (next, false)) :
    P.Spent now next.entry.conn := by
  rcases bind_eq_ok.mp stepped with ⟨one, firstLoop, rest⟩
  rcases bind_eq_ok.mp rest with ⟨two, secondLoop, rest⟩
  rcases bind_eq_ok.mp rest with ⟨three, thirdLoop, result⟩
  simp only [Except.ok.injEq, Prod.mk.injEq] at result
  rcases result with ⟨rfl, still⟩
  rcases (transmitRound_reports now).idle thirdLoop still with ⟨still, transmits⟩
  rcases (eventRound_reports fuel now handle).idle secondLoop still with ⟨still, events⟩
  rcases (endpointEventRound_reports handle).idle firstLoop still with ⟨_, endpointEvents⟩
  refine ⟨turn.entry.conn, one.entry.conn, two.entry.conn, ?_, ?_, ?_⟩
  · rw [endpointEventRound] at endpointEvents
    split at endpointEvents <;> rename_i answer <;> cases endpointEvents
    exact ConnEntry.call_eq answer
  · rw [eventRound] at events
    split at events <;> rename_i answer
    · cases events
      exact ConnEntry.call_eq answer
    · rcases bind_eq_ok.mp events with ⟨_, _, result⟩
      cases result
  · rw [transmitRound] at transmits
    split at transmits <;> rename_i answer
    · cases transmits
      exact ConnEntry.call_eq answer
    · rcases bind_eq_ok.mp transmits with ⟨_, _, result⟩
      cases result

end Turn

/-! ## The drain -/

/-- What draining made of one entry: the connection gave `sent` and has nothing
left, and the latch is set when it is drained. -/
structure ConnEntry.DrainedOf (entry : ConnEntry P) (now : Instant) (sent : List Transmit)
    (after : ConnEntry P) : Prop where
  emits : P.Emits entry.conn sent after.conn
  spent : P.Spent now after.conn
  latched : after.drained = (entry.drained || P.isDrained after.conn)

private theorem ConnEntry.latchDrained_spec (entry : ConnEntry P) :
    entry.latchDrained.conn = entry.conn ∧
      entry.latchDrained.drained = (entry.drained || P.isDrained entry.conn) := by
  rw [latchDrained]
  split
  · rename_i latches
    rw [Bool.and_eq_true] at latches
    simp [latches.2]
  · rename_i stays
    constructor
    · rfl
    · cases drained : entry.drained <;> simp_all

namespace State

private theorem drainEntry_sends {fuel : Nat} {now : Instant} {state next : State P}
    {handle : ConnectionHandle} (ran : drainEntry fuel now state handle = .ok next) :
    ∃ (entry after : ConnEntry P) (sent : List Transmit) (items : List Outbound),
      state.conns.get? handle = some entry ∧ next.conns = state.conns.set handle after ∧
      entry.DrainedOf now sent after ∧ next.outbound = state.outbound ∧
      sent.map state.outbound = items.map some ∧ state.Gains next items := by
  rw [drainEntry] at ran
  split at ran
  · cases ran
  · rename_i entry found
    rcases bind_eq_ok.mp ran with ⟨turn, looped, result⟩
    cases result
    have moved := whileLoop.invariant (Turn.From handle state entry)
      (fun _ _ _ => Turn.From.round) fuel (Turn.From.initial handle state entry) looped
    rcases moved.io with ⟨_, kept, _⟩
    rcases whileLoop.last_round (Turn.Sends state entry)
      (fun _ _ sends stepped => sends.round stepped) fuel (.initial state entry false) looped
      with ⟨before, sends, stopped⟩
    have sofar := sends.round stopped
    have spent := Turn.round_spent stopped
    rcases sofar.sent with ⟨sent, items, emits, queued, gained⟩
    rcases turn.entry.latchDrained_spec with ⟨conn, latched⟩
    refine ⟨entry, turn.entry.latchDrained, sent, items, found, ?_, ⟨?_, ?_, ?_⟩,
      sofar.outbound, queued, ⟨gained.relay, gained.udp, gained.channel⟩⟩
    · rw [kept]
      rfl
    · rw [conn]
      exact emits
    · rw [conn]
      exact spent
    · rw [latched, conn, sofar.drained]

private theorem drainEntries_sends {fuel : Nat} {now : Instant} :
    ∀ (order : List ConnectionHandle) {state next : State P}, order.Nodup →
      order.foldlM (drainEntry fuel now) state = .ok next →
      ∃ (emitted : ConnectionHandle → List Transmit) (items : List Outbound),
        (∀ handle ∈ order, ∃ entry after, state.conns.get? handle = some entry ∧
          next.conns.get? handle = some after ∧
          entry.DrainedOf now (emitted handle) after) ∧
        (∀ handle, handle ∉ order → next.conns.get? handle = state.conns.get? handle) ∧
        (order.flatMap emitted).map state.outbound = items.map some ∧
        state.Gains next items
  | [], state, next, _, ran => by
      simp only [List.foldlM_nil, pure, Except.pure, Except.ok.injEq] at ran
      subst ran
      exact ⟨fun _ => [], [], by simp, fun _ _ => rfl, rfl, .of_same rfl rfl rfl⟩
  | handle :: order, state, next, distinct, ran => by
      rw [List.foldlM_cons, bind_eq_ok] at ran
      rcases ran with ⟨middle, drained, rest⟩
      rw [List.nodup_cons] at distinct
      rcases drainEntry_sends drained with
        ⟨entry, after, sent, items, found, conns, own, routes, queued, gained⟩
      rcases drainEntries_sends order distinct.2 rest with
        ⟨emitted, more, others, untouched, restQueued, restGained⟩
      -- the other connections gave what they give in the rest of the order
      have apart : ∀ other ∈ order, other ≠ handle := by
        intro other member same
        exact distinct.1 (same ▸ member)
      have later : order.flatMap (Function.update emitted handle sent) =
          order.flatMap emitted := by
        apply List.flatMap_congr
        intro other member
        exact Function.update_of_ne (apart other member) sent emitted
      refine ⟨Function.update emitted handle sent, items ++ more, ?_, ?_, ?_,
        gained.trans restGained⟩
      · intro other member
        rcases List.mem_cons.mp member with rfl | elsewhere
        · refine ⟨entry, after, found, ?_, by rw [Function.update_self]; exact own⟩
          rw [untouched other distinct.1, conns, Table.get?_set, if_pos rfl]
        · have different := apart other elsewhere
          rcases others other elsewhere with ⟨before, last, stored, left, drainedOf⟩
          refine ⟨before, last, ?_, left, ?_⟩
          · rw [conns, Table.get?_set, if_neg different] at stored
            exact stored
          · rw [Function.update_of_ne different]
            exact drainedOf
      · intro other absent
        rw [List.mem_cons, not_or] at absent
        rw [untouched other absent.2, conns, Table.get?_set, if_neg absent.1]
      · rw [routes] at restQueued
        rw [List.flatMap_cons, Function.update_self, later, List.map_append, List.map_append,
          queued, restQueued]

/-- What one drain sent: the connections gave `emitted` and have nothing left, and
the queues gained `items`, one for each packet, in the order of the visits. -/
structure DrainOf (state : State P) (now : Instant) (order : List ConnectionHandle)
    (emitted : ConnectionHandle → List Transmit) (items : List Outbound)
    (next : State P) : Prop where
  conns : ∀ handle entry, state.conns.get? handle = some entry →
    ∃ after, next.conns.get? handle = some after ∧ entry.DrainedOf now (emitted handle) after
  visits : order.Perm state.conns.keys
  queued : (order.flatMap emitted).map state.outbound = items.map some
  gains : state.Gains next items

theorem drain_sends {state next : State P} {fuel : Nat} {now : Instant}
    {order : List ConnectionHandle} (ran : state.drain fuel now order = .ok next) :
    ∃ emitted items, state.DrainOf now order emitted items next := by
  rw [drain] at ran
  split at ran
  · rename_i visits
    have distinct : order.Nodup := visits.nodup_iff.mpr state.conns.nodupKeys
    rcases drainEntries_sends order distinct ran with
      ⟨emitted, items, drained, _, queued, gained⟩
    refine ⟨emitted, items, ?_, visits, queued, gained⟩
    intro handle entry found
    have visited : handle ∈ order := by
      rw [visits.mem_iff, Table.mem_keys]
      exact ⟨entry, found⟩
    rcases drained handle visited with ⟨before, after, stored, left, own⟩
    rw [found] at stored
    cases stored
    exact ⟨after, left, own⟩
  · cases ran

theorem DrainOf.each {state next : State P} {now : Instant} {order : List ConnectionHandle}
    {emitted : ConnectionHandle → List Transmit} {items : List Outbound}
    (drained : state.DrainOf now order emitted items next) :
    List.Forall₂ (fun transmit item => state.outbound transmit = some item)
      (order.flatMap emitted) items := by
  have same := drained.queued
  rw [← List.forall₂_eq_eq_eq, List.forall₂_map_left_iff, List.forall₂_map_right_iff] at same
  exact same

/-- A drain leaves no connection with anything to give: each was asked until it
had no endpoint event, no application event and no packet, in one go. Every
packet a connection gave is queued once, on the wire its destination is routed
to, and the queues gain nothing else; the order is that of the visits, and for
each connection the order in which it gave them. -/
theorem drain_queues_every_transmit {state next : State P} {fuel : Nat} {now : Instant}
    {order : List ConnectionHandle} (ran : state.drain fuel now order = .ok next) :
    ∃ (emitted : ConnectionHandle → List Transmit) (items : List Outbound),
      (∀ handle entry, state.conns.get? handle = some entry →
        ∃ after, next.conns.get? handle = some after ∧
          entry.DrainedOf now (emitted handle) after) ∧
      (order.flatMap emitted).map state.outbound = items.map some ∧
      state.Gains next items := by
  rcases drain_sends ran with ⟨emitted, items, drained⟩
  exact ⟨emitted, items, drained.conns, drained.queued, drained.gains⟩

/-- A state that a peer has just greeted through the home relay. -/
def greeted : State Slab.platform :=
  (State.new [] true).handleRelayDatagram 0 homeRelay (Slab.peer 7)
    (1 :: (Slab.peer 7).bytes)

/-- The handshake of the connection the greeting made goes back to its peer. -/
theorem drain_queues_every_transmit_greeted :
    ∃ (next : State Slab.platform) (emitted : ConnectionHandle → List Transmit)
      (items : List Outbound), greeted.drain 10 0 [0] = .ok next ∧
      next.relayOutbound = [(homeRelay, Slab.peer 7, [1])] ∧
      (emitted 0).map greeted.outbound = items.map some ∧ greeted.Gains next items := by
  have drained : (greeted.drain 10 0 [0]).toOption.any (fun next =>
      next.relayOutbound = [(homeRelay, Slab.peer 7, [1])]) = true := by
    decide +kernel
  cases ran : greeted.drain 10 0 [0] with
  | error error =>
      rw [ran] at drained
      cases drained
  | ok next =>
      rw [ran] at drained
      rcases drain_queues_every_transmit ran with ⟨emitted, items, _, queued, gained⟩
      refine ⟨next, emitted, items, rfl, of_decide_eq_true drained, ?_, gained⟩
      simpa using queued

end State

end IrohEndpoint
