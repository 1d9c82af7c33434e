import IrohEndpoint.Foundation.Loop
import IrohEndpoint.Types
import Mathlib.Logic.Function.Basic

/-! # The virtual UDP socket

The virtualization layer of the UDP wake experiment: pollables and datagram streams in
guest code, over the host's pollables and one event source. A socket is a local queue that
every readiness check may fill from the source. -/

namespace IrohEndpoint

namespace Virt

/-! ## The host -/

/-- `probe:source/events.incoming`. -/
structure Incoming where
  payload : Bytes
  port : UInt16
  deriving DecidableEq

/-- The imports of the component. A call may suspend, and the world is then another one. -/
structure Host where
  World : Type
  Pollable : Type
  -- `probe:source/events.drain`
  drain : World → List Incoming × World
  -- `wasi:io/poll`
  ready : Pollable → World → Bool × World
  block : Pollable → World → World
  poll : List Pollable → World → List UInt32 × World

inductive HostCall (H : Host) (Socket : Type) where
  | drained (socket : Socket) (arrived : List Incoming)
  | polled (refs : List H.Pollable) (fired : List UInt32)

/-! ## The component -/

/-- The world and the sockets; `src` is the pollable of the source that each socket
subscribed to, and `calls` lists the calls that readiness came from. -/
structure Component (H : Host) (Socket : Type) where
  world : H.World
  queue : Socket → List Incoming
  src : Socket → H.Pollable
  calls : List (HostCall H Socket)

inductive Inner (H : Host) (Socket : Type) where
  | host (pollable : H.Pollable)
  | udpIncoming (shared : Socket)
  | alwaysReady
  | never

/-- Why a call does not return. `exhausted` is a loop that goes on. -/
inductive Abort where
  | emptyList
  | onlyNever
  | blocksForever
  | unreachable
  | outOfRange
  | exhausted
  deriving DecidableEq

def Vec (Item : Type) : Type := { items : List Item // items.length < 2 ^ 32 }

variable {H : Host} {Socket : Type} [DecidableEq Socket]

namespace Component

def drain (component : Component H Socket) (shared : Socket) : Component H Socket :=
  let (arrived, world) := H.drain component.world
  { component with
    world
    queue := Function.update component.queue shared (component.queue shared ++ arrived)
    calls := component.calls ++ [.drained shared arrived] }

def hasData (component : Component H Socket) (shared : Socket) :
    Bool × Component H Socket :=
  let component :=
    if (component.queue shared).isEmpty then component.drain shared else component
  (!(component.queue shared).isEmpty, component)

def readyLocal (component : Component H Socket) : Inner H Socket → Bool × Component H Socket
  | .alwaysReady => (true, component)
  | .udpIncoming shared => component.hasData shared
  | .host _ | .never => (false, component)

def ready (component : Component H Socket) : Inner H Socket → Bool × Component H Socket
  | .alwaysReady => (true, component)
  | .never => (false, component)
  | .udpIncoming shared => component.hasData shared
  | .host pollable =>
      let (ready, world) := H.ready pollable component.world
      (ready, { component with world })

/-- One check of `block`'s loop, and the wait for the source when it finds nothing. -/
def blockRound (shared : Socket) (component : Component H Socket) :
    Component H Socket × Bool :=
  let (data, component) := component.hasData shared
  if data then (component, false)
  else ({ component with world := H.block (component.src shared) component.world }, true)

def block (component : Component H Socket) (fuel : Nat) :
    Inner H Socket → Except Abort (Component H Socket)
  | .alwaysReady => .ok component
  | .host pollable => .ok { component with world := H.block pollable component.world }
  | .udpIncoming shared =>
      whileLoop .exhausted (fun component => .ok (component.blockRound shared)) fuel component
  | .never => .error .blocksForever

/-! ## poll -/

/-- Pass 1: the positions that are ready from local state alone, from `index` on. -/
def pass1 (component : Component H Socket) (index : Nat) :
    List (Inner H Socket) → List UInt32 × Component H Socket
  | [] => ([], component)
  | pollable :: rest =>
      let (ready, component) := component.readyLocal pollable
      let (more, component) := component.pass1 (index + 1) rest
      (if ready then UInt32.ofNat index :: more else more, component)

def hostRefs (component : Component H Socket) (index : Nat) :
    List (Inner H Socket) → Except Abort (List H.Pollable × List Nat)
  | [] => .ok ([], [])
  | pollable :: rest =>
      match pollable with
      | .host counterpart => do
          let (refs, back) ← component.hostRefs (index + 1) rest
          .ok (counterpart :: refs, index :: back)
      | .udpIncoming shared => do
          let (refs, back) ← component.hostRefs (index + 1) rest
          .ok (component.src shared :: refs, index :: back)
      | .alwaysReady => .error .unreachable
      | .never => component.hostRefs (index + 1) rest

def hostPoll (component : Component H Socket) (refs : List H.Pollable) :
    List UInt32 × Component H Socket :=
  let (fired, world) := H.poll refs component.world
  (fired, { component with world, calls := component.calls ++ [.polled refs fired] })

def collect (pollables : List (Inner H Socket)) (back : List Nat)
    (component : Component H Socket) :
    List UInt32 → Except Abort (List UInt32 × Component H Socket)
  | [] => .ok ([], component)
  | fired :: rest =>
      match back[fired.toNat]? with
      | none => .error .outOfRange
      | some index =>
          match pollables[index]? with
          | none => .error .outOfRange
          | some (.host _) => do
              let (ready, component) ← collect pollables back component rest
              .ok (UInt32.ofNat index :: ready, component)
          | some (.udpIncoming shared) => do
              let (data, component) := component.hasData shared
              let (ready, component) ← collect pollables back component rest
              .ok (if data then UInt32.ofNat index :: ready else ready, component)
          | some .alwaysReady | some .never => .error .unreachable

/-- One round of `poll`'s loop: what is ready, or nothing after a spurious wake. -/
def pollRound (pollables : List (Inner H Socket)) (component : Component H Socket) :
    Except Abort (List UInt32 × Component H Socket) :=
  let (ready, component) := component.pass1 0 pollables
  if ready ≠ [] then .ok (ready, component)
  else do
    let (refs, back) ← component.hostRefs 0 pollables
    if refs.isEmpty then .error .onlyNever
    else
      let (fired, component) := component.hostPoll refs
      component.collect pollables back fired

def pollAgain (pollables : List (Inner H Socket))
    (state : List UInt32 × Component H Socket) :
    Except Abort ((List UInt32 × Component H Socket) × Bool) := do
  let (ready, component) ← state.2.pollRound pollables
  .ok ((ready, component), ready.isEmpty)

def poll (component : Component H Socket) (fuel : Nat) (pollables : Vec (Inner H Socket)) :
    Except Abort (List UInt32 × Component H Socket) :=
  if pollables.1.isEmpty then .error .emptyList
  else
    whileLoop .exhausted (pollAgain pollables.1) fuel ([], component)

end Component

/-! ## Datagram streams -/

structure IncomingDatagram where
  data : Bytes
  remoteAddress : IpSocketAddress

def Incoming.datagram (incoming : Incoming) : IncomingDatagram :=
  ⟨incoming.payload, .ipv4 ⟨incoming.port, (127, 0, 0, 1)⟩⟩

/-- `max_results as usize` keeps the low 32 bits, all that `usize` has in wasm32. -/
def Component.receive (component : Component H Socket) (shared : Socket)
    (maxResults : UInt64) : List IncomingDatagram × Component H Socket :=
  let component := component.drain shared
  let count := min maxResults.toUInt32.toNat (component.queue shared).length
  (((component.queue shared).take count).map Incoming.datagram,
    { component with
      queue := Function.update component.queue shared ((component.queue shared).drop count) })

end Virt

end IrohEndpoint
