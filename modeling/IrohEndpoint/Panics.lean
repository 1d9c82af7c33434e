import IrohEndpoint.Handles
import IrohEndpoint.Routing
import IrohEndpoint.Writes

/-! # Traps

The program indexes its tables and slices where it expects an entry or a valid
range: a standin without a peer, a handle without a connection and an offset past
the end of its bytes would trap. No run gets there. -/

namespace IrohEndpoint

variable {P : Platform}

/-! ## Computations that do not trap -/

def Safely {α : Type} (Good : α → Prop) : Except Abort α → Prop
  | .ok value => Good value
  | .error (.panic _) => False
  | .error _ => True

namespace Safely

variable {α β : Type} {Good : α → Prop} {Better : β → Prop}

theorem bind {first : Except Abort α} {next : α → Except Abort β} (safely : Safely Good first)
    (rest : ∀ value, first = .ok value → Good value → Safely Better (next value)) :
    Safely Better (first >>= next) := by
  cases first with
  | ok value => exact rest value rfl safely
  | error abort =>
      cases abort with
      | panic message => exact safely
      | disabled => trivial
      | outOfFuel => trivial

private theorem not_panic {result : Except Abort α} (safely : Safely Good result)
    (message : String) :
    result ≠ .error (.panic message) := by
  rintro rfl
  exact safely

private theorem good {result : Except Abort α} (safely : Safely Good result) {value : α}
    (ran : result = .ok value) : Good value := by
  subst ran
  exact safely

private theorem of_not_panic {result : Except Abort α}
    (calm : ∀ message, result ≠ .error (.panic message))
    (good : ∀ value, result = .ok value → Good value) : Safely Good result := by
  cases result with
  | ok value => exact good value rfl
  | error abort =>
      cases abort with
      | panic message => exact calm message rfl
      | disabled => trivial
      | outOfFuel => trivial

theorem withEntry {state : State P} {handle : ConnectionHandle}
    {access : ConnEntry P → Except Abort (α × ConnEntry P)}
    (stored : ∃ entry, state.conns.get? handle = some entry)
    (safely : ∀ entry, Safely (fun _ => True) (access entry)) :
    Safely (fun _ => True) (state.withEntry handle access) := by
  rcases stored with ⟨entry, found⟩
  rw [State.withEntry, found]
  exact (safely entry).bind fun _ _ _ => trivial

theorem accessed {state : State P} {handle : ConnectionHandle}
    {access : ConnEntry P → α × ConnEntry P}
    (stored : ∃ entry, state.conns.get? handle = some entry) :
    Safely (fun _ => True) (state.withEntry handle fun entry => .ok (access entry)) :=
  withEntry stored fun _ => trivial

end Safely

/-! ## Writes within their bytes -/

def Call.Within : Call → Prop
  | .write _ _ bytes offset | .forwarding _ _ bytes offset _ => offset ≤ bytes.length
  | _ => True

namespace Config

def WritesWithin (config : Config P) : Prop :=
  ∀ id call, config.calls.get? id = some call → call.Within

namespace WritesWithin

variable {config : Config P}

theorem settle (writes : config.WritesWithin) (id : Nat) (outcome : Outcome)
    (resources : List Resource) : (config.settle id outcome resources).WritesWithin := by
  intro other call found
  rcases settle_frame config id outcome resources with ⟨_, _, _, frame⟩
  rw [frame, Table.get?_remove] at found
  split at found
  · cases found
  · exact writes other call found

theorem keep (writes : config.WritesWithin) {id : Nat} {call : Call} (within : call.Within) :
    (config.keep id call).WritesWithin := by
  intro other pending found
  rw [Config.keep, Table.get?_set] at found
  split at found
  · cases found
    exact within
  · exact writes other pending found

theorem addCall (writes : config.WritesWithin) {call : Call} (within : call.Within) :
    (config.addCall call).WritesWithin := by
  intro other pending found
  rw [Config.addCall, Table.get?_set] at found
  split at found
  · cases found
    exact within
  · exact writes other pending found

theorem connecting (writes : config.WritesWithin) (id : Nat) (addr : EndpointAddr)
    (progress : Connecting × State P) : (config.connecting id addr progress).WritesWithin := by
  intro other call found
  rcases connecting_calls config id addr progress found with ⟨_, _, _, rfl⟩ | ⟨_, old⟩
  · trivial
  · exact writes other call old

end WritesWithin

/-- Every handle that can still be used has an entry, and every write is within its
bytes. -/
structure Backed (config : Config P) : Prop where
  entries : ∀ target, config.Holds target →
    ∃ entry, config.state.conns.get? target.handle = some entry
  writes : config.WritesWithin

/-! ## Calls -/

section Calls

variable {config : Config P} {target : Target} {stream : StreamId} {id : Nat}

private theorem touch_safely (writes : config.WritesWithin)
    (stored : ∃ entry, config.state.conns.get? target.handle = some entry)
    (access : ConnEntry P → ConnEntry P) :
    Safely WritesWithin (config.touch target access) := by
  apply Safely.bind (.accessed stored)
  intro value _ _
  exact writes

private theorem finishStream_safely (writes : config.WritesWithin)
    (stored : ∃ entry, config.state.conns.get? target.handle = some entry) :
    Safely (fun finished => finished.2.WritesWithin) (config.finishStream target stream) := by
  apply Safely.bind (.accessed stored)
  intro value _ _
  exact writes

private theorem afterChunk_safely {last : Bool} (writes : config.WritesWithin)
    (stored : ∃ entry, config.state.conns.get? target.handle = some entry) :
    Safely WritesWithin (config.afterChunk id target stream last) := by
  rw [afterChunk]
  split
  · apply Safely.bind (finishStream_safely writes stored)
    intro finished _ kept
    exact kept.settle id _ []
  · exact writes.keep trivial

private theorem resumeStream_safely {shape : StreamShape}
    {check : ConnEntry P → Option (Except Error StreamId) × ConnEntry P}
    (writes : config.WritesWithin)
    (stored : ∃ entry, config.state.conns.get? target.handle = some entry) :
    Safely WritesWithin (config.resumeStream id target shape check) := by
  apply Safely.bind (.accessed stored)
  rintro ⟨answer, state⟩ _ _
  have moved : ({ config with state } : Config P).WritesWithin := writes
  dsimp only
  split
  · exact moved
  · exact moved.settle id _ _
  · exact moved.settle id _ _

private theorem resumeRead_safely {max : Nat} {reader : StreamReader} (writes : config.WritesWithin)
    (stored : ∃ entry, config.state.conns.get? target.handle = some entry) :
    Safely (fun read => read.2.WritesWithin)
      (config.resumeRead target stream max reader) := by
  apply Safely.bind (.accessed stored)
  intro value _ _
  exact writes

private theorem resumeWrite_safely (bounded : P.WritesWithin) {bytes : Bytes} {offset : Nat}
    (writes : config.WritesWithin)
    (stored : ∃ entry, config.state.conns.get? target.handle = some entry)
    (within : offset ≤ bytes.length) :
    Safely (fun wrote => wrote.2.WritesWithin ∧ wrote.1.2 ≤ bytes.length ∧
        ∃ entry, wrote.2.state.conns.get? target.handle = some entry)
      (config.resumeWrite target stream bytes offset) := by
  apply Safely.of_not_panic
  · have calm : Safely (fun _ => True) (config.resumeWrite target stream bytes offset) := by
      apply Safely.bind
      · apply Safely.withEntry stored
        intro entry
        rcases entry.writeAllCheck_ends bounded within with ⟨polled, ended⟩
        rw [ended]
        trivial
      · intro value _ _
        trivial
    exact calm.not_panic
  · rintro ⟨⟨answer, reached⟩, next⟩ ran
    rcases resumeWrite_spec bounded within ran with ⟨_, after, _, _, rfl, wrote, _⟩
    exact ⟨writes, wrote.within, after, withConn_held config target.handle after⟩

private theorem resumeConnect_safely {addr : EndpointAddr} {phase : ConnectPhase}
    {input : CallInput} (backed : config.Backed)
    (pending : config.calls.get? id = some (.connect addr phase)) :
    Safely WritesWithin (config.resumeConnect id addr phase input) := by
  have writes := backed.writes
  have later : ({ config with fresh := config.fresh + 1 } : Config P).WritesWithin := writes
  rw [resumeConnect.eq_def]
  split
  · exact later.connecting id addr _
  · split
    · exact writes
    · exact writes.connecting id addr _
  · split
    · rename_i peer handle serial _
      apply Safely.bind (.accessed
        (backed.entries ⟨handle, serial⟩ (.call id _ pending rfl)))
      rintro ⟨answer, state⟩ _ _
      have moved : ({ config with state } : Config P).WritesWithin := writes
      dsimp only
      split
      · exact moved
      · exact moved.settle id _ _
      · exact moved.settle id _ _
    · trivial
  · trivial

private theorem resumeAccept_safely (writes : config.WritesWithin) :
    Safely WritesWithin (config.resumeAccept id) := by
  have moved : ∀ state, ({ config with state } : Config P).WritesWithin := fun _ => writes
  rw [resumeAccept]
  split
  · exact writes
  · exact (moved _).settle id _ _
  · exact (moved _).settle id _ _

private theorem resumeCall_safely (bounded : P.WritesWithin) {call : Call} {input : CallInput}
    (backed : config.Backed) (pending : config.calls.get? id = some call) :
    Safely WritesWithin (config.resumeCall id call input) := by
  have writes := backed.writes
  have within := writes id call pending
  have moved : ∀ state, ({ config with state } : Config P).WritesWithin := fun _ => writes
  have entry : ∀ target, call.target? = some target →
      ∃ entry, config.state.conns.get? target.handle = some entry :=
    fun target same => backed.entries target (.call id call pending same)
  rw [resumeCall.eq_def]
  split
  · exact resumeConnect_safely backed pending
  · exact resumeAccept_safely writes
  · exact resumeStream_safely writes (entry _ rfl)
  · exact resumeStream_safely writes (entry _ rfl)
  · apply Safely.bind (.accessed (entry _ rfl))
    rintro ⟨answer, state⟩ _ _
    dsimp only
    split
    · exact writes
    · exact (moved state).settle id _ _
  · apply Safely.bind (.accessed (entry _ rfl))
    rintro ⟨answer, state⟩ _ _
    dsimp only
    split
    · exact writes
    · exact (moved state).settle id _ _
  · apply Safely.bind (resumeWrite_safely bounded writes (entry _ rfl) within)
    rintro ⟨⟨answer, offset⟩, next⟩ _ ⟨kept, fits, _⟩
    dsimp only
    split
    · exact kept.keep fits
    · exact kept.settle id _ _
  · apply Safely.bind (resumeRead_safely writes (entry _ rfl))
    rintro ⟨answer, next⟩ _ kept
    dsimp only
    split
    · exact kept
    · exact kept.settle id _ _
  · split
    · exact afterChunk_safely writes (entry _ rfl)
    · exact writes.keep (Nat.zero_le _)
  · apply Safely.bind (resumeWrite_safely bounded writes (entry _ rfl) within)
    rintro ⟨⟨answer, offset⟩, next⟩ _ ⟨kept, fits, stored⟩
    dsimp only
    split
    · exact kept.keep fits
    · exact kept.settle id _ _
    · exact afterChunk_safely kept stored
  · apply Safely.bind (resumeRead_safely writes (entry _ rfl))
    rintro ⟨answer, next⟩ _ kept
    dsimp only
    split
    · exact kept
    · exact kept.keep trivial
    · exact kept.settle id _ _
  · split
    · exact writes.settle id _ _
    · exact writes.keep trivial
  · trivial

/-! ## Methods -/

private theorem invokeConnection_safely (writes : config.WritesWithin)
    (stored : ∃ entry, config.state.conns.get? target.handle = some entry) (method : Method) :
    Safely WritesWithin (config.invokeConnection target method) := by
  rw [invokeConnection.eq_def]
  split
  case h_5 | h_7 => exact touch_safely writes stored _
  case h_9 => trivial
  all_goals exact writes.addCall trivial

private theorem invokeSend_safely (writes : config.WritesWithin)
    (stored : ∃ entry, config.state.conns.get? target.handle = some entry) (method : Method) :
    Safely WritesWithin (config.invokeSend target stream method) := by
  rw [invokeSend.eq_def]
  split
  · exact writes.addCall (Nat.zero_le _)
  · apply Safely.bind (finishStream_safely writes stored)
    intro finished _ kept
    exact kept
  · exact touch_safely writes stored _
  · exact writes.addCall trivial
  · trivial

private theorem invokeRecv_safely (writes : config.WritesWithin)
    (stored : ∃ entry, config.state.conns.get? target.handle = some entry) (resource : Nat)
    (streaming : Bool) (method : Method) :
    Safely WritesWithin (config.invokeRecv resource target stream streaming method) := by
  rw [invokeRecv.eq_def]
  split
  · split
    · exact writes
    · split
      · exact writes
      · exact writes.addCall trivial
  · exact touch_safely writes stored _
  · split
    · exact writes
    · exact WritesWithin.addCall writes trivial
  · trivial

private theorem invokeResource_safely (backed : config.Backed) (resource : Nat) (method : Method) :
    Safely WritesWithin (config.invokeResource resource method) := by
  have entry : ∀ held, config.resources.get? resource = some held →
      ∃ entry, config.state.conns.get? held.target.handle = some entry :=
    fun held found => backed.entries held.target (.resource resource held found rfl)
  rw [invokeResource.eq_def]
  split
  · trivial
  · exact backed.writes
  · exact invokeConnection_safely backed.writes (entry _ ‹_›) _
  · exact invokeSend_safely backed.writes (entry _ ‹_›) _
  · exact invokeRecv_safely backed.writes (entry _ ‹_›) _ _ _

private theorem invoke_safely (backed : config.Backed) (method : Method) :
    Safely WritesWithin (config.invoke method) := by
  have started : ({ config with fresh := config.fresh + 1 } : Config P).WritesWithin :=
    backed.writes
  rw [invoke.eq_def]
  split
  · exact invokeResource_safely backed _ _
  · split
    · exact started.connecting config.fresh _ _
    · trivial
  · split
    · exact backed.writes.addCall trivial
    · trivial
  · split
    · exact backed.writes
    · trivial
  · split
    · exact backed.writes
    · trivial
  · trivial

end Calls

end Config

/-! ## The other tasks -/

private theorem Session.resume_safely (session : Session) (now : Instant) (wire : ChannelWire)
    (state : State P) (input : SessionInput) :
    Safely (fun _ => True) (session.resume now wire state input) := by
  rw [Session.resume.eq_def]
  split <;> first | trivial | (split <;> trivial)

private theorem Pump.run_safely (pump : Pump) (udp : Bool) (now : Instant) {state : State P}
    (routing : Routing state) (fuel : Nat) (order : List ConnectionHandle) :
    Safely (fun _ => True) (pump.run udp now state fuel order) := by
  rw [Pump.run.eq_def]
  split
  · have drains : Safely (fun _ => True) (state.drain fuel now order) :=
      .of_not_panic (State.drain_not_panic routing fuel now order) fun _ _ => trivial
    exact drains.bind fun _ _ _ => trivial
  · split
    · trivial
    · dsimp only
      split <;> trivial
  · split <;> trivial
  · split
    · trivial
    · dsimp only
      split <;> trivial
  · trivial
  · split <;> trivial
  all_goals trivial

private theorem Pump.resume_safely (pump : Pump) (udp : Bool) (now : Instant) {state : State P}
    (routing : Routing state) (input : PumpInput) :
    Safely (fun _ => True) (pump.resume udp now state input) := by
  rw [Pump.resume.eq_def]
  split
  · split
    · trivial
    · exact pump.run_safely udp now routing _ _
  · split
    · split <;> trivial
    all_goals trivial
  · split
    · trivial
    · dsimp only
      split <;> trivial
  · split
    · trivial
    · split
      · trivial
      · trivial
      · split <;> trivial
      · trivial
  · split
    · trivial
    · dsimp only
      split
      · trivial
      · split <;> trivial
      · trivial
  · split <;> trivial

/-! ## Whole runs -/

namespace Config

variable {config next : Config P}

private theorem step_safely (bounded : P.WritesWithin) (backed : config.Backed)
    (routing : Routing config.state) (action : Action) :
    Safely WritesWithin (config.step action) := by
  cases action with
  | pump input =>
      apply Safely.bind (config.pump.resume_safely config.udp config.clock routing input)
      rintro ⟨state, pump, spawned⟩ _ _ id call found
      rcases addSessions_frame spawned ({ config with state, pump } : Config P) with
        ⟨_, _, frame⟩
      rw [frame] at found
      exact backed.writes id call found
  | advance elapsed =>
      rw [step]
      split
      · trivial
      · exact backed.writes
  | session id input =>
      rw [step]
      split
      · trivial
      · rw [stepSession]
        split
        · trivial
        · apply Safely.bind (Session.resume_safely _ _ _ _ _)
          intro resumed _ _
          exact backed.writes
  | invoke method =>
      rw [step]
      split
      · trivial
      · exact invoke_safely backed method
  | resume id input =>
      rw [step]
      split
      · trivial
      · split
        · trivial
        · exact resumeCall_safely bounded backed ‹_›

private theorem Backed.entries_step {action : Action} (backed : config.Backed)
    (stepped : config.step action = .ok next) (target : Target) (holds : next.Holds target) :
    ∃ entry, next.state.conns.get? target.handle = some entry := by
  rcases (step_move stepped).holds holds with held | ⟨entry, found, _⟩
  · rcases backed.entries target held with ⟨entry, found⟩
    rcases (ConnsFrom.moves stepped).kept target.handle entry found with ⟨after, kept, _⟩
    exact ⟨after, kept⟩
  · exact ⟨entry, found⟩

end Config

private theorem reachable_backed (bounded : P.WritesWithin) {config : Config P}
    (reached : (endpoint P).Reachable config) (small : Bounded config.state) :
    config.Backed := by
  apply reached.induction (fun config : Config P => Bounded config.state → config.Backed) _ _
    small
  · rintro config ⟨noq, webrtc, udp, relay, clock, url, _, rfl⟩ _
    constructor
    · intro target holds
      cases holds with
      | resource id resource found same => simp [Config.bind] at found
      | call id call found same => simp [Config.bind] at found
      | queued item member same =>
          simp [Config.bind, State.registerRelay, State.new] at member
    · intro id call found
      simp [Config.bind] at found
  · intro config action next reachable backed _ stepped small
    -- the bound holds before the step because it holds after it
    rcases (Config.step_move stepped).state with ⟨task, steps, _⟩
    have before := StateSteps.bounded steps small
    have routing := (reachable_sound reachable before).routing
    exact ⟨(backed before).entries_step stepped,
      (Config.step_safely bounded (backed before) routing action).good stepped⟩

/-- In no run does a step trap, whatever task moves and whatever the environment
answers: each standin a packet goes to has its peer, each handle that a resource, a
pending call or a queued connection still has is in the connection table, and no write
slices past the end of its bytes. -/
theorem no_step_traps (bounded : P.WritesWithin) {config : Config P}
    (reached : (endpoint P).Reachable config) (small : Bounded config.state) (action : Action)
    (message : String) : (endpoint P).step config action ≠ .error (.panic message) := by
  have routing := (reachable_sound reached small).routing
  exact (Config.step_safely bounded (reachable_backed bounded reached small) routing
    action).not_panic message

/-- An endpoint that has served a stream and still holds it. -/
theorem no_step_traps_serving :
    ∃ config : Config Slab.platform, (endpoint Slab.platform).Reachable config ∧
      config.Holds ⟨0, 0⟩ ∧
      ∀ action message, (endpoint Slab.platform).step config action ≠
        .error (.panic message) := by
  have passed : (endpoint Slab.platform).runs (fun _ _ => true) (Slab.bound true false)
      sentBack (fun config => decide (⟨0, 0⟩ ∈ config.holders) &&
        decide (config.state.peerToAddr.size < 2 ^ 32) &&
        decide (config.state.history.channels.length < 2 ^ 32)) = true := by
    decide +kernel
  rcases System.Reachable.of_runs (Slab.bound_initial true false) passed with
    ⟨config, reached, tested⟩
  simp only [Bool.and_eq_true, decide_eq_true_eq] at tested
  rcases tested with ⟨⟨held, peers⟩, channels⟩
  exact ⟨config, reached, (config.holds_iff_mem _).mpr held,
    no_step_traps Slab.writesWithin reached ⟨peers, channels⟩⟩

end IrohEndpoint
