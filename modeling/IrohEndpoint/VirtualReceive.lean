import IrohEndpoint.Foundation.Execution
import IrohEndpoint.VirtualSockets

/-! # Receiving from the virtual socket

`ready`, `block`, `poll` and `receive` all move datagrams from the source to the queue. What
is pending, in the queue and then in the source, is the end of the arrival sequence, and
`receive` takes from its front; how much depends on the low half of its argument. -/

namespace IrohEndpoint

namespace Virt

variable {H : Host}

/-! ## The source -/

/-- Between the two worlds datagrams may arrive at the end of the source, and nothing else
happens to it. -/
def Elapses (queued arrived : H.World → List Incoming) (world next : H.World) : Prop :=
  ∃ more, arrived next = arrived world ++ more ∧ queued next = queued world ++ more

/-- The event source of a host: what is queued, and all that has arrived. `drain` takes
everything queued since the last drain; datagrams may arrive during the other calls. -/
structure Source (H : Host) where
  queued : H.World → List Incoming
  arrived : H.World → List Incoming
  drain_all : ∀ world, (H.drain world).1 = queued world
  drain_queued : ∀ world, queued (H.drain world).2 = []
  drain_arrived : ∀ world, arrived (H.drain world).2 = arrived world
  ready_elapses : ∀ pollable world, Elapses queued arrived world (H.ready pollable world).2
  block_elapses : ∀ pollable world, Elapses queued arrived world (H.block pollable world)
  poll_elapses : ∀ refs world, Elapses queued arrived world (H.poll refs world).2

namespace Source

variable (source : Source H)

/-- What a socket has not delivered yet, in the order of arrival. -/
def pending (component : Component H Unit) : List Incoming :=
  component.queue () ++ source.queued component.world

def Gathers (component after : Component H Unit) : Prop :=
  ∃ more, source.arrived after.world = source.arrived component.world ++ more ∧
    source.pending after = source.pending component ++ more

variable {source} {component middle after : Component H Unit}

namespace Gathers

theorem refl (component : Component H Unit) : source.Gathers component component :=
  ⟨[], (List.append_nil _).symm, (List.append_nil _).symm⟩

theorem trans (front : source.Gathers component middle) (back : source.Gathers middle after) :
    source.Gathers component after := by
  rcases front with ⟨first, arrived, pending⟩
  rcases back with ⟨second, later, also⟩
  refine ⟨first ++ second, ?_, ?_⟩
  · rw [later, arrived, List.append_assoc]
  · rw [also, pending, List.append_assoc]

private theorem of_elapses
    (elapses : Elapses source.queued source.arrived component.world after.world)
    (queue : after.queue = component.queue) : source.Gathers component after := by
  rcases elapses with ⟨more, arrived, queued⟩
  refine ⟨more, arrived, ?_⟩
  rw [pending, pending, queue, queued, List.append_assoc]

theorem drain (component : Component H Unit) :
    source.Gathers component (component.drain ()) := by
  refine ⟨[], ?_, ?_⟩
  · rw [List.append_nil]
    exact source.drain_arrived component.world
  · simp only [pending, Component.drain, Function.update_self, source.drain_all,
      source.drain_queued, List.append_nil]

theorem hasData (component : Component H Unit) :
    source.Gathers component (component.hasData ()).2 := by
  rw [Component.hasData]
  split
  · exact drain component
  · exact refl component

theorem ready (component : Component H Unit) (pollable : Inner H Unit) :
    source.Gathers component (component.ready pollable).2 := by
  cases pollable with
  | udpIncoming _ => exact hasData component
  | host pollable => exact of_elapses (source.ready_elapses pollable component.world) rfl
  | alwaysReady => exact refl component
  | never => exact refl component

theorem blockRound (component : Component H Unit) :
    source.Gathers component (component.blockRound ()).1 := by
  rw [Component.blockRound]
  dsimp only
  split
  · exact hasData component
  · refine (hasData component).trans (of_elapses ?_ rfl)
    exact source.block_elapses _ _

theorem block {fuel : Nat} {pollable : Inner H Unit}
    (ran : component.block fuel pollable = .ok after) : source.Gathers component after := by
  cases pollable with
  | udpIncoming _ =>
      apply whileLoop.invariant (fun current => source.Gathers component current) _ fuel
        (refl component) ran
      intro current next again sofar round
      have made : (current.blockRound ()).1 = next := congrArg Prod.fst (Except.ok.inj round)
      rw [← made]
      exact sofar.trans (blockRound current)
  | host pollable =>
      cases ran
      exact of_elapses (source.block_elapses pollable component.world) rfl
  | alwaysReady =>
      cases ran
      exact refl component
  | never => cases ran

theorem pass1 (pollables : List (Inner H Unit)) (component : Component H Unit) (index : Nat) :
    source.Gathers component (component.pass1 index pollables).2 := by
  induction pollables generalizing component index with
  | nil => exact refl component
  | cons pollable rest induction =>
      have own : source.Gathers component (component.readyLocal pollable).2 := by
        cases pollable with
        | udpIncoming _ => exact hasData component
        | host _ => exact refl component
        | alwaysReady => exact refl component
        | never => exact refl component
      exact own.trans (induction _ _)

theorem collect {pollables : List (Inner H Unit)} {back : List Nat} {fired ready : List UInt32}
    (ran : component.collect pollables back fired = .ok (ready, after)) :
    source.Gathers component after := by
  induction fired generalizing component ready with
  | nil =>
      cases ran
      exact refl _
  | cons place rest induction =>
      rw [Component.collect.eq_def] at ran
      dsimp only at ran
      split at ran
      · cases ran
      · split at ran
        · cases ran
        · rcases bind_eq_ok.mp ran with ⟨⟨more, later⟩, collected, made⟩
          cases made
          exact induction collected
        · rcases bind_eq_ok.mp ran with ⟨⟨more, later⟩, collected, made⟩
          cases made
          exact (hasData component).trans (induction collected)
        · cases ran
        · cases ran

theorem pollRound {pollables : List (Inner H Unit)} {ready : List UInt32}
    (ran : component.pollRound pollables = .ok (ready, after)) :
    source.Gathers component after := by
  have first := @pass1 _ source pollables component 0
  rw [Component.pollRound] at ran
  dsimp only at ran
  split at ran
  · cases ran
    exact first
  · rcases bind_eq_ok.mp ran with ⟨⟨refs, back⟩, _, rest⟩
    dsimp only at rest
    split at rest
    · cases rest
    · have woken : source.Gathers (component.pass1 0 pollables).2
          ((component.pass1 0 pollables).2.hostPoll refs).2 :=
        of_elapses (source.poll_elapses refs _) rfl
      exact first.trans (woken.trans (collect rest))

theorem poll {fuel : Nat} {pollables : Vec (Inner H Unit)} {ready : List UInt32}
    (ran : component.poll fuel pollables = .ok (ready, after)) :
    source.Gathers component after := by
  rw [Component.poll] at ran
  split at ran
  · cases ran
  · refine whileLoop.invariant (fun state : List UInt32 × Component H Unit =>
      source.Gathers component state.2) ?_ fuel (refl component) ran
    rintro ⟨_, current⟩ ⟨_, next⟩ again sofar round
    rcases bind_eq_ok.mp round with ⟨⟨more, later⟩, ran, made⟩
    cases made
    exact sofar.trans (pollRound ran)

end Gathers

end Source

/-! ## Runs -/

/-- One socket with the answers of its `receive` calls. -/
structure Delivery (H : Host) where
  component : Component H Unit
  returned : List (List IncomingDatagram)

/-- A call of the guest, or a while in which datagrams may arrive. -/
inductive Call (H : Host) where
  | elapse (world : H.World)
  | ready (pollable : Inner H Unit)
  | block (fuel : Nat) (pollable : Inner H Unit)
  | poll (fuel : Nat) (pollables : Vec (Inner H Unit))
  | receive (maxResults : UInt64)

namespace Delivery

def step (delivery : Delivery H) : Call H → Except Abort (Delivery H)
  | .elapse world => .ok { delivery with component := { delivery.component with world } }
  | .ready pollable => .ok { delivery with component := (delivery.component.ready pollable).2 }
  | .block fuel pollable => do
      let component ← delivery.component.block fuel pollable
      .ok { delivery with component }
  | .poll fuel pollables => do
      let (_, component) ← delivery.component.poll fuel pollables
      .ok { delivery with component }
  | .receive maxResults =>
      let (answer, component) := delivery.component.receive () maxResults
      .ok ⟨component, delivery.returned ++ [answer]⟩

/-- All that `receive` has returned, in order. -/
def received (delivery : Delivery H) : List IncomingDatagram := delivery.returned.flatten

end Delivery

def socket (source : Source H) : System (Delivery H) (Call H) Abort where
  Initial delivery := delivery.component.queue () = [] ∧ delivery.returned = [] ∧
    source.arrived delivery.component.world = source.queued delivery.component.world
  step := Delivery.step

/-- While the guest does nothing, the source only gets datagrams. -/
def Source.Allows (source : Source H) (delivery : Delivery H) : Call H → Prop
  | .elapse world => Elapses source.queued source.arrived delivery.component.world world
  | _ => True

def Conserved (source : Source H) (delivery : Delivery H) : Prop :=
  ∃ delivered, delivery.received = delivered.map Incoming.datagram ∧
    source.arrived delivery.component.world = delivered ++ source.pending delivery.component

/-- How many datagrams have arrived and were not received. -/
def Source.undelivered (source : Source H) (delivery : Delivery H) : Nat :=
  (source.arrived delivery.component.world).length - delivery.received.length

section Conservation

variable {source : Source H} {delivery next : Delivery H} {call : Call H}

private theorem Conserved.undelivered_eq (conserved : Conserved source delivery) :
    source.undelivered delivery = (source.pending delivery.component).length := by
  rcases conserved with ⟨delivered, received, arrived⟩
  rw [Source.undelivered, received, arrived, List.length_append, List.length_map]
  omega

private theorem Conserved.gathers (conserved : Conserved source delivery)
    {component : Component H Unit} (gathers : source.Gathers delivery.component component) :
    Conserved source { delivery with component } := by
  rcases conserved with ⟨delivered, received, arrived⟩
  rcases gathers with ⟨more, later, pending⟩
  refine ⟨delivered, received, ?_⟩
  dsimp only
  rw [later, arrived, pending, List.append_assoc]

private theorem Source.receive_pending (source : Source H) (component : Component H Unit)
    (maxResults : UInt64) :
    (component.receive () maxResults).1 =
        ((source.pending component).take maxResults.toUInt32.toNat).map Incoming.datagram ∧
      source.pending (component.receive () maxResults).2 =
        (source.pending component).drop maxResults.toUInt32.toNat ∧
      source.arrived (component.receive () maxResults).2.world =
        source.arrived component.world := by
  have queue : (component.drain ()).queue () = source.pending component := by
    simp only [Component.drain, Function.update_self, source.drain_all, Source.pending]
  have queued : source.queued (component.drain ()).world = [] :=
    source.drain_queued component.world
  simp only [Component.receive, queue]
  refine ⟨?_, ?_, source.drain_arrived component.world⟩
  · rw [← List.take_take, List.take_length]
  · rw [Source.pending, queued, List.append_nil]
    dsimp only
    rw [Function.update_self]
    rcases Nat.le_total maxResults.toUInt32.toNat (source.pending component).length with
      few | all
    · rw [Nat.min_eq_left few]
    · rw [Nat.min_eq_right all, List.drop_length, List.drop_eq_nil_of_le all]

theorem Conserved.step (conserved : Conserved source delivery)
    (allowed : source.Allows delivery call)
    (stepped : (socket source).step delivery call = .ok next) : Conserved source next := by
  cases call with
  | elapse world =>
      cases stepped
      exact conserved.gathers (.of_elapses allowed rfl)
  | ready pollable =>
      cases stepped
      exact conserved.gathers (.ready delivery.component pollable)
  | block fuel pollable =>
      rcases bind_eq_ok.mp stepped with ⟨component, ran, made⟩
      cases made
      exact conserved.gathers (.block ran)
  | poll fuel pollables =>
      rcases bind_eq_ok.mp stepped with ⟨⟨ready, component⟩, ran, made⟩
      cases made
      exact conserved.gathers (.poll ran)
  | receive maxResults =>
      have made : next = ⟨(delivery.component.receive () maxResults).2,
          delivery.returned ++ [(delivery.component.receive () maxResults).1]⟩ :=
        (Except.ok.inj stepped).symm
      subst made
      rcases conserved with ⟨delivered, received, arrived⟩
      rcases source.receive_pending delivery.component maxResults with ⟨answer, pending, same⟩
      refine ⟨delivered ++ (source.pending delivery.component).take maxResults.toUInt32.toNat,
        ?_, ?_⟩
      · rw [Delivery.received] at received ⊢
        rw [List.flatten_append, List.flatten_singleton, received, answer, List.map_append]
      · dsimp only
        rw [same, arrived, pending, List.append_assoc, List.take_append_drop]

private theorem reaches_conserved (reached : (socket source).Reaches source.Allows delivery) :
    Conserved source delivery := by
  apply reached.invariant (Conserved source)
  · rintro delivery ⟨empty, unreturned, arrived⟩
    refine ⟨[], ?_, ?_⟩
    · rw [Delivery.received, unreturned]
      rfl
    · rw [arrived, Source.pending, empty]
      rfl
  · intro delivery call next conserved allowed stepped
    exact conserved.step allowed stepped

end Conservation

/-! ## Every datagram once, in order -/

private theorem min_low_iff (maxResults : UInt64) (count : Nat) :
    min maxResults.toUInt32.toNat count = min maxResults.toNat count ↔
      maxResults.toNat < 2 ^ 32 ∨ count ≤ maxResults.toNat % 2 ^ 32 := by
  rw [UInt64.toNat_toUInt32]
  omega

/-- In every run what was received is a prefix of what arrived, and the next `receive`
returns as many of the undelivered datagrams as it was asked for exactly when it was asked
for fewer than `2^32`, or there are no more than the low 32 bits of its argument say. -/
theorem virtual_receive_once (source : Source H) {delivery : Delivery H}
    (reached : (socket source).Reaches source.Allows delivery) :
    delivery.received <+:
        (source.arrived delivery.component.world).map Incoming.datagram ∧
      ∀ (maxResults : UInt64) (next : Delivery H),
        (socket source).step delivery (.receive maxResults) = .ok next →
        ∃ answer, next.returned = delivery.returned ++ [answer] ∧
          (answer.length = min maxResults.toNat (source.undelivered delivery) ↔
            maxResults.toNat < 2 ^ 32 ∨
              source.undelivered delivery ≤ maxResults.toNat % 2 ^ 32) := by
  have conserved := reaches_conserved reached
  have undelivered := conserved.undelivered_eq
  rcases conserved with ⟨delivered, received, arrived⟩
  refine ⟨?_, ?_⟩
  · rw [received, arrived, List.map_append]
    exact List.prefix_append _ _
  · intro maxResults next stepped
    have made : next.returned =
        delivery.returned ++ [(delivery.component.receive () maxResults).1] :=
      congrArg Delivery.returned (Except.ok.inj stepped).symm
    refine ⟨(delivery.component.receive () maxResults).1, made, ?_⟩
    rw [(source.receive_pending delivery.component maxResults).1, undelivered, List.length_map,
      List.length_take]
    exact min_low_iff maxResults _

/-- A host whose world is its source: what is queued and what has arrived. -/
def quietHost : Host where
  World := List Incoming × List Incoming
  Pollable := Unit
  drain world := (world.1, ([], world.2))
  ready _ world := (!world.1.isEmpty, world)
  block _ world := world
  poll _ world := ([0], world)

def quietSource : Source quietHost where
  queued := Prod.fst
  arrived := Prod.snd
  drain_all _ := rfl
  drain_queued _ := rfl
  drain_arrived _ := rfl
  ready_elapses _ _ := ⟨[], (List.append_nil _).symm, (List.append_nil _).symm⟩
  block_elapses _ _ := ⟨[], (List.append_nil _).symm, (List.append_nil _).symm⟩
  poll_elapses _ _ := ⟨[], (List.append_nil _).symm, (List.append_nil _).symm⟩

def quietSocket (world : List Incoming × List Incoming) : Delivery quietHost :=
  ⟨⟨world, fun _ => [], fun _ => (), []⟩, []⟩

private theorem quietSocket_reached (arrivals : List Incoming) :
    (socket quietSource).Reaches quietSource.Allows (quietSocket (arrivals, arrivals)) := by
  have start : (socket quietSource).Reaches quietSource.Allows (quietSocket ([], [])) :=
    ⟨quietSocket ([], []), ⟨rfl, rfl, rfl⟩, .refl⟩
  have arrive : quietSource.Allows (quietSocket ([], [])) (.elapse (arrivals, arrivals)) :=
    ⟨arrivals, rfl, rfl⟩
  exact start.step arrive rfl

/-- Two datagrams arrive, `ready` moves them to the queue, and one is received. -/
theorem virtual_receive_once_first :
    ∃ delivery : Delivery quietHost,
      (socket quietSource).Reaches quietSource.Allows delivery ∧
      quietSource.undelivered delivery = 2 ∧
      ∃ next answer, (socket quietSource).step delivery (.receive 1) = .ok next ∧
        next.returned = delivery.returned ++ [answer] ∧ answer.length = 1 := by
  have moved : ∃ delivery next, (socket quietSource).step
      (quietSocket ([⟨[1], 7⟩, ⟨[2], 8⟩], [⟨[1], 7⟩, ⟨[2], 8⟩])) (.ready (.udpIncoming ())) =
        .ok delivery ∧ quietSource.undelivered delivery = 2 ∧
      (socket quietSource).step delivery (.receive 1) = .ok next := ⟨_, _, rfl, rfl, rfl⟩
  rcases moved with ⟨delivery, next, readied, undelivered, stepped⟩
  have allowed : quietSource.Allows (quietSocket ([⟨[1], 7⟩, ⟨[2], 8⟩], [⟨[1], 7⟩, ⟨[2], 8⟩]))
      (.ready (.udpIncoming ())) := trivial
  have reached := (quietSocket_reached _).step allowed readied
  rcases (virtual_receive_once quietSource reached).2 1 next stepped with
    ⟨answer, returned, exact_⟩
  refine ⟨delivery, reached, undelivered, next, answer, stepped, returned, ?_⟩
  rw [undelivered] at exact_
  exact exact_.mpr (.inl (by decide))

/-- Asked for `2^32` datagrams, `receive` returns none of the one that has arrived. -/
theorem virtual_receive_truncated :
    ∃ delivery next : Delivery quietHost,
      (socket quietSource).Reaches quietSource.Allows delivery ∧
      quietSource.undelivered delivery = 1 ∧
      (socket quietSource).step delivery (.receive (2 ^ 32)) = .ok next ∧
      next.returned = [[]] :=
  ⟨quietSocket ([⟨[1], 7⟩], [⟨[1], 7⟩]), _, quietSocket_reached [⟨[1], 7⟩], rfl, rfl, rfl⟩

end Virt

end IrohEndpoint
