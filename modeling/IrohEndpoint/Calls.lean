import IrohEndpoint.ConfigSteps

/-! # Which call a step moves

A resumed call moves no other call. A call that does not dial touches the entry of its
connection or the accept queue, and nothing else of the shared state. Only `accept`,
`accept_bi` and `accept_uni` take from a queue. -/

namespace IrohEndpoint

variable {P : Platform}

def Call.hands : Call → Bool
  | .accept | .acceptStream .. => true
  | _ => false

namespace Config

/-- No connection resource is given up, and new resources get new numbers. -/
structure Retains (config next : Config P) : Prop where
  kept : ∀ id target dialed, id < config.fresh →
    config.resources.get? id = some (.connection target dialed) →
    next.resources.get? id = some (.connection target dialed)
  numbered : ∀ id, next.resources.get? id ≠ none →
    config.resources.get? id ≠ none ∨ id < next.fresh

namespace Retains

variable {config middle next : Config P}

theorem of_same (resources : next.resources = config.resources) : Retains config next := by
  refine ⟨?_, ?_⟩
  · intro id target dialed _ found
    rw [resources]
    exact found
  · intro id found
    rw [resources] at found
    exact .inl found

theorem addResources (later : config.fresh ≤ middle.fresh) (retains : Retains config middle)
    (resources : List Resource) : Retains config (middle.addResources resources) := by
  induction resources generalizing middle with
  | nil => exact retains
  | cons resource rest induction =>
      refine induction (Nat.le_succ_of_le later) ⟨?_, ?_⟩
      · intro id target dialed old found
        have apart : id ≠ middle.fresh := by omega
        rw [Table.get?_set, if_neg apart]
        exact retains.kept id target dialed old found
      · intro id found
        dsimp only at found ⊢
        rw [Table.get?_set] at found
        split at found
        · rename_i same
          exact .inr (by omega)
        · exact (retains.numbered id found).imp_right Nat.lt_succ_of_lt

theorem settle (later : config.fresh ≤ middle.fresh) (retains : Retains config middle)
    (id : Nat) (outcome : Outcome) (resources : List Resource) :
    Retains config (middle.settle id outcome resources) := by
  have removed : Retains config ({ middle with
      calls := middle.calls.remove id
      outcomes := middle.outcomes ++ [(id, outcome)] } : Config P) :=
    ⟨retains.kept, retains.numbered⟩
  exact @addResources P config { middle with
    calls := middle.calls.remove id
    outcomes := middle.outcomes ++ [(id, outcome)] } later removed resources

end Retains

/-- What the call `id`, when it does not dial, may do to the configuration. -/
structure Touches (hands : Bool) (id : Nat) (config next : Config P) : Prop where
  state : ∃ conns acceptQueue closed closedAt,
    next.state = { config.state with conns, acceptQueue, closed, closedAt }
  others : ∀ other, other ≠ id → next.calls.get? other = config.calls.get? other
  undialed : ∀ addr phase, next.calls.get? id = some (.connect addr phase) →
    config.calls.get? id = some (.connect addr phase)
  numbered : next.calls.get? id ≠ none → config.calls.get? id ≠ none ∨ id < next.fresh
  fresh_le : config.fresh ≤ next.fresh
  outcomes : ∀ other outcome, other ≠ id → (other, outcome) ∈ next.outcomes →
    (other, outcome) ∈ config.outcomes
  surfaced : ∀ handle after, next.state.conns.get? handle = some after →
    ∃ entry, config.state.conns.get? handle = some entry ∧
      after.connected = entry.connected
  retains : Retains config next
  serves : hands = false → config.state.Serves next.state

namespace Touches

variable {hands : Bool} {id : Nat} {config middle next : Config P}

theorem refl (hands : Bool) (id : Nat) (config : Config P) :
    Touches hands id config config :=
  ⟨⟨_, _, _, _, rfl⟩, fun _ _ => rfl, fun _ _ found => found, .inl, Nat.le_refl _,
    fun _ _ _ found => found, fun _ after found => ⟨after, found, rfl⟩, .of_same rfl,
    fun _ => .refl _⟩

theorem settle (touches : Touches hands id config middle) (outcome : Outcome)
    (resources : List Resource) :
    Touches hands id config (middle.settle id outcome resources) := by
  have retained := touches.retains.settle touches.fresh_le id outcome resources
  have later := Nat.le_trans touches.fresh_le (settle_fresh middle id outcome resources)
  have resolved := settle_outcomes middle id outcome resources
  rcases settle_frame middle id outcome resources with ⟨_, _, _, frame⟩
  rw [frame] at later resolved retained ⊢
  refine ⟨touches.state, ?_, ?_, ?_, later, ?_, touches.surfaced, retained, touches.serves⟩
  · intro other apart
    rw [Table.get?_remove, if_neg apart]
    exact touches.others other apart
  · intro addr phase found
    rw [Table.get?_remove, if_pos rfl] at found
    cases found
  · intro found
    rw [Table.get?_remove, if_pos rfl] at found
    exact absurd rfl found
  · intro other reported apart member
    rw [resolved, List.mem_append, List.mem_singleton] at member
    rcases member with old | own
    · exact touches.outcomes other reported apart old
    · cases own
      exact absurd rfl apart

theorem keep (touches : Touches hands id config middle)
    (pending : config.calls.get? id ≠ none) {call : Call} (dials : call.dials = false) :
    Touches hands id config (middle.keep id call) := by
  refine ⟨touches.state, ?_, ?_, fun _ => .inl pending, touches.fresh_le, touches.outcomes,
    touches.surfaced, ⟨touches.retains.kept, touches.retains.numbered⟩, touches.serves⟩
  · intro other apart
    rw [Config.keep, Table.get?_set, if_neg apart]
    exact touches.others other apart
  · intro addr phase found
    rw [Config.keep, Table.get?_set, if_pos rfl] at found
    cases found
    cases dials

theorem access (touches : Touches hands id config middle) {α : Type}
    {handle : ConnectionHandle} {run : ConnEntry P → Except Abort (α × ConnEntry P)}
    {value : α} {state : State P}
    (ran : middle.state.withEntry handle run = .ok (value, state))
    (connected : ∀ entry value after, run entry = .ok (value, after) →
      after.connected = entry.connected)
    (serves : hands = false → ∀ entry value after, run entry = .ok (value, after) →
      Serving entry after) :
    Touches hands id config ({ middle with state } : Config P) := by
  rcases withEntry_ok ran with ⟨entry, after, found, accessed, rfl⟩
  rcases touches.state with ⟨conns, queue, closed, closedAt, equal⟩
  refine ⟨?_, touches.others, touches.undialed, touches.numbered, touches.fresh_le,
    touches.outcomes, ?_, ⟨touches.retains.kept, touches.retains.numbered⟩, ?_⟩
  · dsimp only
    rw [equal]
    exact ⟨_, _, _, _, rfl⟩
  · intro other later lookup
    simp only [Table.get?_set] at lookup
    split at lookup
    · rename_i same
      cases lookup
      rcases touches.surfaced handle entry found with ⟨before, here, equal⟩
      exact ⟨before, same ▸ here, (connected entry value _ accessed).trans equal⟩
    · exact touches.surfaced other later lookup
  · intro idle
    exact (touches.serves idle).trans (.setEntry found (serves idle entry value after accessed))

theorem check (touches : Touches hands id config middle) {α : Type}
    {handle : ConnectionHandle} {run : ConnEntry P → α × ConnEntry P} {value : α}
    {state : State P}
    (ran : middle.state.withEntry handle (fun entry => .ok (run entry)) = .ok (value, state))
    (connected : ∀ entry, (run entry).2.connected = entry.connected)
    (serves : hands = false → ∀ entry, Serving entry (run entry).2) :
    Touches hands id config ({ middle with state } : Config P) := by
  refine touches.access ran ?_ ?_
  · intro entry value after checked
    have same := connected entry
    rw [Except.ok.inj checked] at same
    exact same
  intro idle entry value after checked
  have served := serves idle entry
  rw [Except.ok.inj checked] at served
  exact served

theorem start {call : Call} (dials : call.dials = false) :
    Touches hands config.fresh config (config.addCall call) := by
  refine ⟨⟨_, _, _, _, rfl⟩, ?_, ?_, fun _ => .inr (Nat.lt_succ_self _), Nat.le_succ _,
    fun _ _ _ found => found, fun _ after found => ⟨after, found, rfl⟩, .of_same rfl,
    fun _ => .refl _⟩
  · intro other apart
    rw [addCall, Table.get?_set, if_neg apart]
  · intro addr phase found
    rw [addCall, Table.get?_set, if_pos rfl] at found
    cases found
    cases dials

theorem refused (config : Config P) (addr : EndpointAddr) (error : Error) :
    Touches false config.fresh config (({ config with fresh := config.fresh + 1 } :
      Config P).connecting config.fresh addr (.failed error, config.state)) := by
  have started : Touches false config.fresh config
      ({ config with fresh := config.fresh + 1 } : Config P) :=
    ⟨⟨_, _, _, _, rfl⟩, fun _ _ => rfl, fun _ _ found => found, .inl, Nat.le_succ _,
      fun _ _ _ found => found, fun _ after found => ⟨after, found, rfl⟩, .of_same rfl,
      fun _ => .refl _⟩
  exact started.settle _ _

end Touches

section Pending

variable {hands : Bool} {config middle next : Config P} {id : Nat}

private theorem resumeStream_touches {target : Target} {shape : StreamShape}
    {check : ConnEntry P → Option (Except Error StreamId) × ConnEntry P}
    (connected : ∀ entry, (check entry).2.connected = entry.connected)
    (serves : hands = false → ∀ entry, Serving entry (check entry).2)
    (ran : config.resumeStream id target shape check = .ok next) :
    Touches hands id config next := by
  rcases bind_eq_ok.mp ran with ⟨⟨answer, state⟩, accessed, rest⟩
  have touched := (Touches.refl hands id config).check accessed connected serves
  dsimp only at rest
  split at rest <;> cases rest
  · exact touched
  · exact touched.settle _ _
  · exact touched.settle _ _

private theorem resumeAccept_touches (ran : config.resumeAccept id = .ok next) :
    Touches true id config next := by
  have touched : ∀ answer state, config.state.acceptCheck = (answer, state) →
      Touches true id config ({ config with state } : Config P) := by
    intro answer state checked
    have framed : ∃ queue, state = { config.state with acceptQueue := queue } := by
      rw [State.acceptCheck] at checked
      split at checked
      · cases checked
        exact ⟨_, rfl⟩
      · split at checked <;> cases checked <;> exact ⟨_, rfl⟩
    rcases framed with ⟨queue, rfl⟩
    exact ⟨⟨_, _, _, _, rfl⟩, fun _ _ => rfl, fun _ _ found => found, .inl, Nat.le_refl _,
      fun _ _ _ found => found, fun _ after found => ⟨after, found, rfl⟩, .of_same rfl, by simp⟩
  rw [resumeAccept] at ran
  split at ran <;> rename_i checked <;> cases ran
  · exact touched _ _ checked
  · exact (touched _ _ checked).settle _ _
  · exact (touched _ _ checked).settle _ _

private theorem resumeWrite_touches {target : Target} {stream : StreamId} {bytes : Bytes}
    {offset : Nat} {answer : Option (Except Error Unit) × Nat}
    (ran : config.resumeWrite target stream bytes offset = .ok (answer, next)) :
    Touches hands id config next := by
  rcases bind_eq_ok.mp ran with ⟨⟨value, state⟩, accessed, result⟩
  cases result
  refine (Touches.refl hands id config).access accessed ?_ ?_
  · intro entry value after writing
    rcases bind_eq_ok.mp writing with ⟨⟨written, reached, moved⟩, wrote, same⟩
    cases same
    exact connected_covers.writeAllCheck wrote
  · intro _ entry value after writing
    rcases bind_eq_ok.mp writing with ⟨⟨written, reached, moved⟩, wrote, same⟩
    cases same
    exact Serving.covers.writeAllCheck wrote

private theorem resumeRead_touches {target : Target} {stream : StreamId} {max : Nat}
    {reader : StreamReader} {answer : Option (Except Error (Option Bytes))}
    (ran : config.resumeRead target stream max reader = .ok (answer, next)) :
    Touches hands id config next := by
  rcases bind_eq_ok.mp ran with ⟨⟨value, state⟩, accessed, result⟩
  cases result
  refine (Touches.refl hands id config).check accessed ?_
    fun _ entry => Serving.readSomeCheck entry stream max reader
  intro entry
  rw [ConnEntry.readSomeCheck]
  split <;> rfl

private theorem finishStream_touches {target : Target} {stream : StreamId}
    {answer : Except Error Unit} (touches : Touches hands id config middle)
    (ran : middle.finishStream target stream = .ok (answer, next)) :
    Touches hands id config next := by
  rcases bind_eq_ok.mp ran with ⟨⟨value, state⟩, accessed, result⟩
  cases result
  exact touches.check accessed (fun entry => connected_covers.finish entry stream)
    fun _ entry => Serving.covers.finish entry stream

private theorem afterChunk_touches {target : Target} {stream : StreamId} {last : Bool}
    (touches : Touches hands id config middle) (pending : config.calls.get? id ≠ none)
    (ran : middle.afterChunk id target stream last = .ok next) :
    Touches hands id config next := by
  rw [afterChunk] at ran
  split at ran
  · rcases bind_eq_ok.mp ran with ⟨⟨answer, finished⟩, finishing, result⟩
    cases result
    exact (finishStream_touches touches finishing).settle _ _
  · cases ran
    exact touches.keep pending rfl

/-- Resuming a call that does not dial. -/
theorem resumeCall_touches {call : Call} {input : CallInput}
    (pending : config.calls.get? id = some call) (dials : call.dials = false)
    (ran : config.resumeCall id call input = .ok next) :
    Touches call.hands id config next := by
  have present : config.calls.get? id ≠ none := by simp [pending]
  rw [resumeCall.eq_def] at ran
  split at ran
  · cases dials
  · exact resumeAccept_touches ran
  · rename_i target dir shape
    exact resumeStream_touches (fun entry => connected_covers.openStreamCheck entry dir)
      (fun _ entry => Serving.covers.openStreamCheck entry dir) ran
  · rename_i target dir shape
    refine resumeStream_touches ?_ ?_ ran
    · intro entry
      rw [ConnEntry.acceptStreamCheck]
      cases dir <;> split <;> rfl
    · intro impossible
      cases impossible
  · rcases bind_eq_ok.mp ran with ⟨⟨answer, state⟩, accessed, rest⟩
    have touched := (Touches.refl false id config).check accessed
      connected_covers.recvDatagramCheck fun _ => Serving.covers.recvDatagramCheck
    dsimp only at rest
    split at rest <;> cases rest
    · exact touched
    · exact touched.settle _ _
  · rcases bind_eq_ok.mp ran with ⟨⟨answer, state⟩, accessed, rest⟩
    have touched := (Touches.refl false id config).check accessed (fun _ => rfl)
      fun _ => .refl
    dsimp only at rest
    split at rest <;> cases rest
    · exact touched
    · exact touched.settle _ _
  · rcases bind_eq_ok.mp ran with ⟨⟨⟨answer, reached⟩, written⟩, writing, rest⟩
    have touched : Touches false id config written := resumeWrite_touches writing
    dsimp only at rest
    split at rest <;> cases rest
    · exact touched.keep present rfl
    · exact touched.settle _ _
  · rcases bind_eq_ok.mp ran with ⟨⟨answer, read⟩, reading, rest⟩
    have touched : Touches false id config read := resumeRead_touches reading
    dsimp only at rest
    split at rest <;> cases rest
    · exact touched
    · exact touched.settle _ _
  · split at ran
    · exact afterChunk_touches (.refl _ id config) present ran
    · cases ran
      exact (Touches.refl _ id config).keep present rfl
  · rcases bind_eq_ok.mp ran with ⟨⟨⟨answer, reached⟩, written⟩, writing, rest⟩
    have touched : Touches false id config written := resumeWrite_touches writing
    dsimp only at rest
    split at rest
    · cases rest
      exact touched.keep present rfl
    · cases rest
      exact touched.settle _ _
    · exact afterChunk_touches touched present rest
  · rcases bind_eq_ok.mp ran with ⟨⟨answer, read⟩, reading, rest⟩
    have touched : Touches false id config read := resumeRead_touches reading
    dsimp only at rest
    split at rest <;> cases rest
    · exact touched
    · exact touched.keep present rfl
    · exact touched.settle _ _
  · split at ran <;> cases ran
    · exact (Touches.refl _ id config).settle _ _
    · exact (Touches.refl _ id config).keep present rfl
  · cases ran

/-- Resuming a dial: the open it claimed resolves, it looks for another call's open, or
it waits for the handshake. -/
theorem resumeConnect_cases {addr : EndpointAddr} {phase : ConnectPhase} {input : CallInput}
    (ran : config.resumeConnect id addr phase input = .ok next) :
    (∃ url result, phase.ensure? = some (url, .opening) ∧ input = .opened result ∧
      next = ({ config with fresh := config.fresh + 1 } : Config P).connecting id addr
        ((config.state.finishOpen url (result.map fun _ => ⟨config.fresh, url⟩)).2.ensured
          config.clock phase
          (config.state.finishOpen url (result.map fun _ => ⟨config.fresh, url⟩)).1)) ∨
    (∃ url started, phase.ensure? = some (url, .waiting started) ∧ input = .poll ∧
      (((config.state.pollEnsure config.clock started url).1 = none ∧ next = config) ∨
        ∃ result, (config.state.pollEnsure config.clock started url).1 = some result ∧
        next = config.connecting id addr
          ((config.state.pollEnsure config.clock started url).2.ensured config.clock phase
            result))) ∨
    (phase.ensure? = none ∧ Touches false id config next) := by
  rw [resumeConnect.eq_def] at ran
  split at ran
  · rename_i url result suspended
    cases ran
    exact .inl ⟨url, result, suspended, rfl, rfl⟩
  · rename_i url started suspended
    refine .inr (.inl ⟨url, started, suspended, rfl, ?_⟩)
    split at ran <;> rename_i polled <;> cases ran
    · rw [Dialing.pollEnsure_none polled]
      exact .inl ⟨by rw [polled], rfl⟩
    · rw [polled]
      exact .inr ⟨_, rfl, rfl⟩
  · rename_i idle
    refine .inr (.inr ⟨idle, ?_⟩)
    split at ran
    · rcases bind_eq_ok.mp ran with ⟨⟨answer, state⟩, accessed, rest⟩
      have touched := (Touches.refl false id config).check accessed (fun _ => rfl)
        fun _ => .refl
      dsimp only at rest
      split at rest <;> cases rest
      · exact touched
      · exact touched.settle _ _
      · exact touched.settle _ _
    · cases ran
  · cases ran

/-- A poll of `connect` during the handshake: the entry is waited for, it has failed, or
its resource is handed out. -/
theorem resumeHandshake_cases {addr : EndpointAddr} {peer : EndpointId}
    {handle : ConnectionHandle} {serial : Nat} {input : CallInput}
    (ran : config.resumeConnect id addr (.handshake peer handle serial) input = .ok next) :
    ∃ entry conns, config.state.conns.get? handle = some entry ∧
      (next = ({ config with state := { config.state with conns } } : Config P) ∨
      (∃ error, entry.error = some error ∧
        next = ({ config with state := { config.state with conns } } : Config P).settle id
          (.connected (.error error)) []) ∨
      next = ({ config with state := { config.state with conns } } : Config P).settle id
        (.connected (.ok (.connection ⟨handle, serial⟩ (some addr))))
        [.connection ⟨handle, serial⟩ (some addr)]) := by
  rw [resumeConnect.eq_def] at ran
  split at ran
  · rename_i waits
    cases waits
  · rename_i waits
    cases waits
  · rcases bind_eq_ok.mp ran with ⟨⟨answer, state⟩, accessed, rest⟩
    rcases withEntry_ok accessed with ⟨entry, same, found, checked, rfl⟩
    refine ⟨entry, config.state.conns.set handle same, found, ?_⟩
    have answered : entry.connectCheck = answer := congrArg Prod.fst (Except.ok.inj checked)
    dsimp only at rest
    split at rest <;> cases rest
    · exact .inl rfl
    · rename_i error
      refine .inr (.inl ⟨error, ?_, rfl⟩)
      rw [ConnEntry.connectCheck.eq_def] at answered
      split at answered
      · rename_i failed
        cases answered
        exact failed
      · split at answered <;> cases answered
    · exact .inr (.inr rfl)
  · cases ran

end Pending

section Invocations

variable {config next : Config P} {resource : Nat} {target : Target} {method : Method}

private theorem touch_touches {access : ConnEntry P → ConnEntry P}
    (connected : ∀ entry, (access entry).connected = entry.connected)
    (serves : ∀ entry, Serving entry (access entry))
    (ran : config.touch target access = .ok next) :
    Touches false config.fresh config next := by
  rcases bind_eq_ok.mp ran with ⟨⟨value, state⟩, accessed, result⟩
  cases result
  exact (Touches.refl false _ config).check accessed connected fun _ => serves

private theorem invokeConnection_touches (ran : config.invokeConnection target method = .ok next) :
    Touches false config.fresh config next := by
  rw [invokeConnection.eq_def] at ran
  split at ran
  · cases ran
    exact .start rfl
  · cases ran
    exact .start rfl
  · cases ran
    exact .start rfl
  · cases ran
    exact .start rfl
  · rename_i data
    exact touch_touches (fun entry => connected_covers.sendDatagram entry data)
      (fun entry => Serving.covers.sendDatagram entry data) ran
  · cases ran
    exact .start rfl
  · rename_i code reason
    exact touch_touches (fun entry => connected_covers.close entry config.clock code reason)
      (fun entry => Serving.covers.close entry config.clock code reason) ran
  · cases ran
    exact .start rfl
  · cases ran

private theorem invokeSend_touches {stream : StreamId}
    (ran : config.invokeSend target stream method = .ok next) :
    Touches false config.fresh config next := by
  rw [invokeSend.eq_def] at ran
  split at ran
  · cases ran
    exact .start rfl
  · rcases bind_eq_ok.mp ran with ⟨⟨answer, finished⟩, finishing, result⟩
    cases result
    exact finishStream_touches (.refl false _ config) finishing
  · rename_i code
    exact touch_touches (fun entry => connected_covers.reset entry stream code)
      (fun entry => Serving.covers.reset entry stream code) ran
  · cases ran
    exact .start rfl
  · cases ran

private theorem invokeRecv_touches {stream : StreamId} {streaming : Bool}
    (held : config.resources.get? resource = some (.recvStream target stream streaming))
    (ran : config.invokeRecv resource target stream streaming method = .ok next) :
    Touches false config.fresh config next := by
  rw [invokeRecv.eq_def] at ran
  split at ran
  · split at ran
    · cases ran
      exact .refl _ _ config
    · split at ran <;> cases ran
      · exact .refl _ _ config
      · exact .start rfl
  · rename_i code
    refine touch_touches ?_ (fun entry => Serving.stop entry stream code) ran
    intro entry
    rfl
  · split at ran <;> cases ran
    · exact .refl _ _ config
    · have started := @Touches.start P false ({ config with
        resources := config.resources.set resource (.recvStream target stream true) } :
          Config P) (.streaming target stream) rfl
      refine ⟨started.state, started.others, started.undialed, started.numbered,
        started.fresh_le, started.outcomes, started.surfaced, ⟨?_, ?_⟩, started.serves⟩
      · intro id owner dialed _ found
        have apart : id ≠ resource := by
          rintro rfl
          rw [held] at found
          cases found
        rw [addCall, Table.get?_set, if_neg apart]
        exact found
      · intro id found
        rw [addCall, Table.get?_set] at found
        split at found
        · rename_i same
          rw [same, held]
          exact .inl (Option.some_ne_none _)
        · exact .inl found
  · cases ran

/-- A method that neither dials nor drops a resource starts a call, touches an entry or
closes the endpoint. -/
theorem invoke_cases (ran : config.invoke method = .ok next) :
    (∃ addr alpn, method = .connect addr alpn ∧
      next = ({ config with fresh := config.fresh + 1 } : Config P).connecting config.fresh
        addr (config.state.connect config.clock config.udp addr alpn)) ∨
    (∃ resource, method = .drop resource ∧
      next = { config with resources := config.resources.remove resource }) ∨
    ((∀ addr alpn, method ≠ .connect addr alpn) ∧ Touches false config.fresh config next) := by
  have closes : ∀ (live : Bool) (reason : Bytes), Touches false config.fresh config ({ config with
      endpointLive := live, state := config.state.close config.clock reason } :
        Config P) := by
    intro live reason
    rcases config.state.close_frame config.clock reason with ⟨closedAt, conns, frame⟩
    refine ⟨?_, fun _ _ => rfl, fun _ _ found => found, .inl, Nat.le_refl _,
      fun _ _ _ found => found, ?_, .of_same rfl,
      fun _ => .close config.state config.clock reason⟩
    · dsimp only
      rw [frame]
      exact ⟨_, _, _, _, rfl⟩
    · intro handle after found
      dsimp only at found
      rw [State.close] at found
      split at found
      · exact ⟨after, found, rfl⟩
      · rw [State.closeAll, Table.get?_mapValues, Option.map_eq_some_iff] at found
        rcases found with ⟨entry, lookup, rfl⟩
        exact ⟨entry, lookup, connected_covers.close entry config.clock 0 reason⟩
  rw [invoke.eq_def] at ran
  split at ran
  · rename_i own _ _ resource known
    have undialed : ∀ addr alpn, own ≠ .connect addr alpn := by
      rintro addr alpn rfl
      cases known
    rw [invokeResource.eq_def] at ran
    split at ran
    · cases ran
    · cases ran
      cases known
      exact .inr (.inl ⟨resource, rfl, rfl⟩)
    · exact .inr (.inr ⟨undialed, invokeConnection_touches ran⟩)
    · exact .inr (.inr ⟨undialed, invokeSend_touches ran⟩)
    · rename_i held _
      exact .inr (.inr ⟨undialed, invokeRecv_touches held ran⟩)
  · rename_i addr alpn _
    split at ran <;> cases ran
    exact .inl ⟨addr, alpn, rfl, rfl⟩
  · split at ran <;> cases ran
    exact .inr (.inr ⟨by simp, .start rfl⟩)
  · split at ran <;> cases ran
    exact .inr (.inr ⟨by simp, closes config.endpointLive _⟩)
  · split at ran <;> cases ran
    exact .inr (.inr ⟨by simp, closes false _⟩)
  · cases ran

end Invocations

/-! ## The other calls -/

/-- A step of another task leaves the call `id` where it is. -/
structure Bypasses (id : Nat) (config next : Config P) : Prop where
  calls : next.calls.get? id = config.calls.get? id
  outcomes : ∀ outcome, (id, outcome) ∈ next.outcomes → (id, outcome) ∈ config.outcomes
  fresh_le : config.fresh ≤ next.fresh

section Others

variable {config next : Config P} {id : Nat}

theorem Touches.bypasses {hands : Bool} {own : Nat} (touches : Touches hands own config next)
    (apart : id ≠ own) : Bypasses id config next :=
  ⟨touches.others id apart, fun outcome => touches.outcomes id outcome apart,
    touches.fresh_le⟩

private theorem connecting_bypasses {own fresh : Nat} (later : config.fresh ≤ fresh)
    (addr : EndpointAddr) (progress : Connecting × State P) (apart : id ≠ own) :
    Bypasses id config (({ config with fresh } : Config P).connecting own addr progress) := by
  refine ⟨connecting_other ({ config with fresh } : Config P) own addr progress apart, ?_,
    Nat.le_trans later (connecting_fresh ({ config with fresh } : Config P) own addr progress)⟩
  intro outcome member
  rw [connecting] at member
  dsimp only at member
  split at member
  · rw [settle_outcomes, List.mem_append, List.mem_singleton] at member
    rcases member with old | reported
    · exact old
    · cases reported
      exact absurd rfl apart
  · exact member

theorem resumeCall_bypasses {own : Nat} {call : Call} {input : CallInput}
    (pending : config.calls.get? own = some call) (apart : id ≠ own)
    (ran : config.resumeCall own call input = .ok next) : Bypasses id config next := by
  cases call with
  | connect addr phase =>
      rcases resumeConnect_cases ran with
        ⟨url, result, _, _, rfl⟩ | ⟨url, started, _, _, same⟩ | ⟨_, touches⟩
      · exact connecting_bypasses (Nat.le_succ _) addr _ apart
      · rcases same with ⟨_, rfl⟩ | ⟨result, _, rfl⟩
        · exact ⟨rfl, fun _ found => found, Nat.le_refl _⟩
        · exact connecting_bypasses (Nat.le_refl _) addr _ apart
      · exact touches.bypasses apart
  | _ => exact (resumeCall_touches pending rfl ran).bypasses apart

theorem invoke_bypasses {method : Method} (numbered : id < config.fresh)
    (ran : config.invoke method = .ok next) : Bypasses id config next := by
  have apart : id ≠ config.fresh := Nat.ne_of_lt numbered
  rcases invoke_cases ran with ⟨addr, alpn, _, rfl⟩ | ⟨_, _, rfl⟩ | ⟨_, touches⟩
  · exact connecting_bypasses (Nat.le_succ _) addr _ apart
  · exact ⟨rfl, fun _ found => found, Nat.le_refl _⟩
  · exact touches.bypasses apart

theorem addSessions_bypasses (config : Config P) (id : Nat) (state : State P) (pump : Pump)
    (spawned : List Session) :
    Bypasses id config (({ config with state, pump } : Config P).addSessions spawned) := by
  have later := addSessions_fresh spawned ({ config with state, pump } : Config P)
  rcases addSessions_frame spawned ({ config with state, pump } : Config P) with ⟨_, _, frame⟩
  rw [frame] at later ⊢
  exact ⟨rfl, fun _ found => found, later⟩

theorem Acts.bypasses {action : Action} (acts : config.Acts action next)
    (numbered : id < config.fresh) (apart : ∀ input, action ≠ .resume id input) :
    Bypasses id config next := by
  cases acts with
  | advanced elapsed => exact ⟨rfl, fun _ found => found, Nat.le_refl _⟩
  | pumped input state pump spawned _ => exact config.addSessions_bypasses id state pump spawned
  | resumed own input session after registration state _ _ _ =>
      exact ⟨rfl, fun _ found => found, Nat.le_succ _⟩
  | invoked method next _ ran => exact invoke_bypasses numbered ran
  | polled own input call next _ pending ran =>
      refine resumeCall_bypasses pending ?_ ran
      rintro rfl
      exact apart input rfl

theorem Acts.fresh_le {action : Action} (acts : config.Acts action next) :
    config.fresh ≤ next.fresh := by
  cases acts with
  | advanced elapsed => exact Nat.le_refl _
  | pumped input state pump spawned _ =>
      exact addSessions_fresh spawned ({ config with state, pump } : Config P)
  | resumed own input session after registration state _ _ _ => exact Nat.le_succ _
  | invoked method next _ ran =>
      have step : CallStep false config next := invoke_step ran
      exact step.fresh_le
  | polled own input call next _ pending ran => exact (resumeCall_step pending ran).fresh_le

private theorem touch_outcomes {target : Target} {access : ConnEntry P → ConnEntry P}
    (ran : config.touch target access = .ok next) : next.outcomes = config.outcomes := by
  rcases bind_eq_ok.mp ran with ⟨⟨value, state⟩, _, result⟩
  cases result
  rfl

private theorem invoke_outcomes {method : Method}
    (undialed : ∀ addr alpn, method ≠ .connect addr alpn)
    (ran : config.invoke method = .ok next) : next.outcomes = config.outcomes := by
  rw [invoke.eq_def] at ran
  split at ran
  · rw [invokeResource.eq_def] at ran
    split at ran
    · cases ran
    · cases ran
      rfl
    · rw [invokeConnection.eq_def] at ran
      split at ran
      case h_5 | h_7 => exact touch_outcomes ran
      all_goals
        cases ran
        try rfl
    · rw [invokeSend.eq_def] at ran
      split at ran
      · cases ran
        rfl
      · rcases bind_eq_ok.mp ran with ⟨⟨answer, finished⟩, finishing, result⟩
        cases result
        rcases finishStream_ok finishing with ⟨_, _, _, _, rfl⟩
        rfl
      · exact touch_outcomes ran
      · cases ran
        rfl
      · cases ran
    · rw [invokeRecv.eq_def] at ran
      split at ran
      · split at ran
        · cases ran
          rfl
        · split at ran <;> cases ran <;> rfl
      · exact touch_outcomes ran
      · split at ran <;> cases ran <;> rfl
      · cases ran
  · rename_i addr alpn _
    exact absurd rfl (undialed addr alpn)
  · split at ran <;> cases ran
    rfl
  · split at ran <;> cases ran
    rfl
  · split at ran <;> cases ran
    rfl
  · cases ran

/-- The calls that are pending or resolved have been given a number. -/
structure Numbered (config : Config P) : Prop where
  pending : ∀ id, config.calls.get? id ≠ none → id < config.fresh
  resolved : ∀ id outcome, (id, outcome) ∈ config.outcomes → id < config.fresh

theorem Touches.numbers {hands : Bool} {own : Nat} (touches : Touches hands own config next)
    (numbered : config.Numbered) (pending : next.calls.get? id ≠ none) : id < next.fresh := by
  by_cases same : id = own
  · subst same
    rcases touches.numbered pending with old | new
    · exact Nat.lt_of_lt_of_le (numbered.pending id old) touches.fresh_le
    · exact new
  · rw [touches.others id same] at pending
    exact Nat.lt_of_lt_of_le (numbered.pending id pending) touches.fresh_le

theorem Bypasses.numbers (bypasses : Bypasses id config next) (numbered : config.Numbered)
    (mentioned : next.calls.get? id ≠ none ∨ ∃ outcome, (id, outcome) ∈ next.outcomes) :
    id < next.fresh := by
  refine Nat.lt_of_lt_of_le ?_ bypasses.fresh_le
  rcases mentioned with pending | ⟨outcome, resolved⟩
  · rw [bypasses.calls] at pending
    exact numbered.pending id pending
  · exact numbered.resolved id outcome (bypasses.outcomes outcome resolved)

theorem Acts.numbers {action : Action} (acts : config.Acts action next)
    (numbered : config.Numbered)
    (mentioned : next.calls.get? id ≠ none ∨ ∃ outcome, (id, outcome) ∈ next.outcomes) :
    id < next.fresh := by
  cases acts with
  | advanced elapsed =>
      have bypasses : Bypasses id config { config with clock := config.clock + elapsed } :=
        ⟨rfl, fun _ found => found, Nat.le_refl _⟩
      exact bypasses.numbers numbered mentioned
  | pumped input state pump spawned _ =>
      exact (config.addSessions_bypasses id state pump spawned).numbers numbered mentioned
  | resumed own input session after registration state _ _ _ =>
      have bypasses : Bypasses id config { config with
          state
          sessions := config.sessions.set own after
          registrations := config.registrations ++ registration.toList
          fresh := config.fresh + 1 } := ⟨rfl, fun _ found => found, Nat.le_succ _⟩
      exact bypasses.numbers numbered mentioned
  | invoked method next _ ran =>
      rcases invoke_cases ran with ⟨addr, alpn, _, rfl⟩ | ⟨_, _, rfl⟩ | ⟨undialed, touches⟩
      · by_cases own : id = config.fresh
        · subst own
          exact connecting_fresh ({ config with fresh := config.fresh + 1 } : Config P)
            config.fresh addr (config.state.connect config.clock config.udp addr alpn)
        · exact (connecting_bypasses (Nat.le_succ _) addr _ own).numbers numbered mentioned
      · have bypasses : Bypasses id config { config with resources := _ } :=
          ⟨rfl, fun _ found => found, Nat.le_refl _⟩
        exact bypasses.numbers numbered mentioned
      · rcases mentioned with pending | ⟨outcome, resolved⟩
        · exact touches.numbers numbered pending
        · rw [invoke_outcomes undialed ran] at resolved
          exact Nat.lt_of_lt_of_le (numbered.resolved id outcome resolved) touches.fresh_le
  | polled own input call next _ pending ran =>
      by_cases same : id = own
      · subst same
        have known := numbered.pending id (by simp [pending])
        exact Nat.lt_of_lt_of_le known
          (resumeCall_bypasses pending (Nat.succ_ne_self id) ran).fresh_le
      · exact (resumeCall_bypasses pending same ran).numbers numbered mentioned

theorem reachable_numbered (reached : (endpoint P).Reachable config) : config.Numbered := by
  apply reached.invariant Numbered
  · rintro config ⟨noq, webrtc, udp, relay, clock, url, _, rfl⟩
    refine ⟨?_, ?_⟩ <;> simp [bind]
  · intro config action next numbered _ stepped
    have acts := step_acts stepped
    exact ⟨fun id pending => acts.numbers numbered (.inl pending),
      fun id outcome resolved => acts.numbers numbered (.inr ⟨outcome, resolved⟩)⟩

end Others

end Config

end IrohEndpoint
