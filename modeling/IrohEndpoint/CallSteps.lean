import IrohEndpoint.StateSteps
import IrohEndpoint.System

/-! # What a method call does in one step

The transitions of the resource methods and of the calls they leave pending, each
with the connection it acts on. -/

namespace IrohEndpoint

variable {P : Platform}

def AcceptItem.target (item : AcceptItem) : Target := ⟨item.handle, item.serial⟩

def Call.target? : Call → Option Target
  | .connect _ (.handshake _ handle serial) => some ⟨handle, serial⟩
  | .connect .. | .accept => none
  | .openStream target _ _ | .acceptStream target _ _ | .recvDatagram target
  | .waitClosed target | .write target _ _ _ | .read target _ _ | .sourcing target _
  | .forwarding target _ _ _ _ | .streaming target _ | .delivering target _ => some target

def Call.dials : Call → Bool
  | .connect .. => true
  | _ => false

def Resource.dialed? : Resource → Option EndpointAddr
  | .connection _ dialed => dialed
  | .sendStream .. | .recvStream .. => none

def CallInput.opens : CallInput → Bool
  | .opened (.ok _) => true
  | _ => false

namespace Config

/-- Someone can still reach the entry under the target's handle. -/
inductive Holds (config : Config P) (target : Target) : Prop
  | resource (id : Nat) (resource : Resource) :
      config.resources.get? id = some resource → resource.target = target →
      Holds config target
  | call (id : Nat) (call : Call) : config.calls.get? id = some call →
      call.target? = some target → Holds config target
  | queued (item : AcceptItem) : item ∈ config.state.acceptQueue →
      item.target = target → Holds config target

/-- What a call on a connection does besides its access to the entry. -/
inductive Follows (target : Target) (config : Config P) : Config P → Prop
  | waits : Follows target config config
  | keeps (id : Nat) (call : Call) : call.target? = some target → call.dials = false →
      Follows target config (config.keep id call)
  | starts (call : Call) : call.target? = some target → call.dials = false →
      Follows target config (config.addCall call)
  | settles (id : Nat) (outcome : Outcome) (resources : List Resource) :
      (∀ resource ∈ resources, resource.target = target ∧ resource.dialed? = none) →
      Follows target config (config.settle id outcome resources)
  | takes (resource : Nat) (stream : StreamId) :
      Follows target config (({ config with
        resources := config.resources.set resource (.recvStream target stream true) } :
          Config P).addCall (.streaming target stream))

def withConn (config : Config P) (handle : ConnectionHandle) (entry : ConnEntry P) :
    Config P :=
  { config with state := { config.state with
      conns := config.state.conns.set handle entry } }

inductive Dials (config : Config P) (id : Nat) (addr : EndpointAddr) :
    EndpointId → Option String → List UInt32 → Prop
  | invoked (peer : EndpointId) : id = config.fresh → peer.bytes = addr.endpointId →
      Dials config id addr peer none [homeRelay]
  | resumed (phase : ConnectPhase) : config.calls.get? id = some (.connect addr phase) →
      Dials config id addr phase.peer phase.claim phase.keys

inductive CallStep (opened : Bool) (config : Config P) : Config P → Prop
  | dialing (id fresh : Nat) (addr : EndpointAddr) (peer : EndpointId)
      (claim : Option String) (keys more : List UInt32) (between : State P)
      (progress : Connecting × State P) :
      config.Dials id addr peer claim keys →
      Resolution opened claim config.state more between →
      Dialing peer (more ++ keys) between progress → config.fresh ≤ fresh →
      CallStep opened config (({ config with fresh } : Config P).connecting id addr progress)
  | accessed (target : Target) (entry after : ConnEntry P) (next : Config P) :
      config.Holds target → config.state.conns.get? target.handle = some entry →
      EntrySteps entry after →
      Follows target (config.withConn target.handle after) next →
      CallStep opened config next
  | followed (target : Target) (next : Config P) : config.Holds target →
      Follows target config next → CallStep opened config next
  | connected (id : Nat) (addr : EndpointAddr) (peer : EndpointId) (target : Target)
      (entry : ConnEntry P) (outcome : Outcome) :
      config.calls.get? id =
        some (.connect addr (.handshake peer target.handle target.serial)) →
      config.state.conns.get? target.handle = some entry → entry.connected = true →
      CallStep opened config ((config.withConn target.handle entry).settle id outcome
        [.connection target (some addr)])
  | accepted (id : Nat) (item : AcceptItem) (rest : List AcceptItem) (outcome : Outcome) :
      config.state.acceptQueue = item :: rest →
      CallStep opened config (({ config with
        state := { config.state with acceptQueue := rest } } : Config P).settle id outcome
          [.connection item.target none])
  | settled (id : Nat) (outcome : Outcome) :
      CallStep opened config (config.settle id outcome [])
  | refused (id fresh : Nat) (outcome : Outcome) : config.fresh ≤ fresh →
      CallStep opened config (({ config with fresh } : Config P).settle id outcome [])
  | waited : CallStep opened config config
  | accepting : CallStep opened config (config.addCall .accept)
  | dropped (resource : Nat) : CallStep opened config
      { config with resources := config.resources.remove resource }
  | closed (endpointLive : Bool) (reason : Bytes) : CallStep opened config
      { config with endpointLive, state := config.state.close config.clock reason }

/-! ## Accesses -/

theorem withEntry_ok {α : Type} {state next : State P} {handle : ConnectionHandle}
    {access : ConnEntry P → Except Abort (α × ConnEntry P)} {value : α}
    (ran : state.withEntry handle access = .ok (value, next)) :
    ∃ entry after, state.conns.get? handle = some entry ∧
      access entry = .ok (value, after) ∧
      next = { state with conns := state.conns.set handle after } := by
  rw [State.withEntry] at ran
  split at ran
  · cases ran
  · rename_i entry found
    rcases bind_eq_ok.mp ran with ⟨⟨answer, after⟩, accessed, result⟩
    cases result
    exact ⟨entry, after, found, accessed, rfl⟩

section Pending

variable {opened : Bool} {config next : Config P} {id : Nat} {target : Target}

private theorem resumeStream_step {shape : StreamShape} (held : config.Holds target)
    {check : ConnEntry P → Option (Except Error StreamId) × ConnEntry P}
    (checks : ∀ entry, EntrySteps entry (check entry).2)
    (ran : config.resumeStream id target shape check = .ok next) :
    CallStep opened config next := by
  rcases bind_eq_ok.mp ran with ⟨⟨answer, state⟩, accessed, rest⟩
  rcases withEntry_ok accessed with ⟨entry, after, found, checked, rfl⟩
  have steps : EntrySteps entry after := by
    have moved := checks entry
    rw [Except.ok.inj checked] at moved
    exact moved
  refine .accessed target entry after next held found steps ?_
  dsimp only at rest
  split at rest <;> cases rest
  · exact .waits
  · exact .settles id _ [] (by simp)
  · apply Follows.settles id
    intro resource member
    cases shape <;> simp only [StreamShape.resources, List.mem_cons, List.not_mem_nil,
      or_false] at member
    · rcases member with rfl | rfl <;> exact ⟨rfl, rfl⟩
    · subst member
      exact ⟨rfl, rfl⟩
    · subst member
      exact ⟨rfl, rfl⟩

theorem resumeWrite_ok {stream : StreamId} {bytes : Bytes} {offset : Nat}
    {answer : Option (Except Error Unit) × Nat}
    (ran : config.resumeWrite target stream bytes offset = .ok (answer, next)) :
    ∃ entry after, config.state.conns.get? target.handle = some entry ∧
      EntrySteps entry after ∧ next = config.withConn target.handle after := by
  rcases bind_eq_ok.mp ran with ⟨⟨value, state⟩, accessed, result⟩
  cases result
  rcases withEntry_ok accessed with ⟨entry, after, found, checked, rfl⟩
  rcases bind_eq_ok.mp checked with ⟨⟨written, reached, moved⟩, wrote, same⟩
  cases same
  exact ⟨entry, after, found, EntrySteps.covers.writeAllCheck wrote, rfl⟩

theorem resumeRead_ok {stream : StreamId} {max : Nat} {reader : StreamReader}
    {answer : Option (Except Error (Option Bytes))}
    (ran : config.resumeRead target stream max reader = .ok (answer, next)) :
    ∃ entry after, config.state.conns.get? target.handle = some entry ∧
      EntrySteps entry after ∧ next = config.withConn target.handle after := by
  rcases bind_eq_ok.mp ran with ⟨⟨value, state⟩, accessed, result⟩
  cases result
  rcases withEntry_ok accessed with ⟨entry, after, found, checked, rfl⟩
  have read : EntrySteps entry (entry.readSomeCheck stream max reader).2 :=
    .single (.read stream max reader)
  rw [Except.ok.inj checked] at read
  exact ⟨entry, after, found, read, rfl⟩

theorem finishStream_ok {stream : StreamId} {answer : Except Error Unit}
    (ran : config.finishStream target stream = .ok (answer, next)) :
    ∃ entry after, config.state.conns.get? target.handle = some entry ∧
      EntrySteps entry after ∧ next = config.withConn target.handle after := by
  rcases bind_eq_ok.mp ran with ⟨⟨value, state⟩, accessed, result⟩
  cases result
  rcases withEntry_ok accessed with ⟨entry, after, found, checked, rfl⟩
  have finished := EntrySteps.covers.finish entry stream
  rw [Except.ok.inj checked] at finished
  exact ⟨entry, after, found, finished, rfl⟩

private theorem touch_step {access : ConnEntry P → ConnEntry P} (held : config.Holds target)
    (accesses : ∀ entry, EntrySteps entry (access entry))
    (ran : config.touch target access = .ok next) : CallStep opened config next := by
  rcases bind_eq_ok.mp ran with ⟨⟨value, state⟩, accessed, result⟩
  cases result
  rcases withEntry_ok accessed with ⟨entry, after, found, checked, rfl⟩
  cases checked
  exact .accessed target entry _ _ held found (accesses entry) .waits

private theorem afterChunk_step {stream : StreamId} {last : Bool} (held : config.Holds target)
    (ran : config.afterChunk id target stream last = .ok next) :
    CallStep opened config next := by
  rw [afterChunk] at ran
  split at ran
  · rcases bind_eq_ok.mp ran with ⟨⟨answer, finished⟩, finishing, result⟩
    cases result
    rcases finishStream_ok finishing with ⟨entry, after, found, steps, rfl⟩
    exact .accessed target entry after _ held found steps (.settles id _ [] (by simp))
  · cases ran
    exact .followed target _ held (.keeps id _ rfl rfl)

private theorem afterChunk_written {stream : StreamId} {last : Bool} (held : config.Holds target)
    {entry written : ConnEntry P}
    (found : config.state.conns.get? target.handle = some entry)
    (steps : EntrySteps entry written)
    (ran : (config.withConn target.handle written).afterChunk id target stream last =
      .ok next) : CallStep opened config next := by
  rw [afterChunk] at ran
  split at ran
  · rcases bind_eq_ok.mp ran with ⟨⟨answer, finished⟩, finishing, result⟩
    cases result
    rcases finishStream_ok finishing with ⟨current, after, lookup, more, rfl⟩
    simp only [withConn, Table.get?_set, if_true, Option.some.injEq] at lookup
    subst current
    refine .accessed target entry after _ held found (steps.trans more) ?_
    simp only [withConn, Table.set_set]
    exact .settles id _ [] (by simp)
  · cases ran
    exact .accessed target entry written _ held found steps (.keeps id _ rfl rfl)

private theorem resumeAccept_step (ran : config.resumeAccept id = .ok next) :
    CallStep opened config next := by
  rw [resumeAccept, State.acceptCheck] at ran
  cases queue : config.state.acceptQueue with
  | cons item rest =>
      rw [queue] at ran
      cases ran
      exact .accepted id item rest _ queue
  | nil =>
      rw [queue] at ran
      dsimp only at ran
      split at ran
      · rename_i answer
        split at answer <;> cases answer
        cases ran
        exact .waited
      · rename_i answer
        split at answer <;> cases answer
        cases ran
        exact .settled id _
      · rename_i answer
        split at answer <;> cases answer

private theorem resumeConnect_step {addr : EndpointAddr} {phase : ConnectPhase} {input : CallInput}
    (pending : config.calls.get? id = some (.connect addr phase))
    (ran : config.resumeConnect id addr phase input = .ok next) :
    CallStep input.opens config next := by
  rw [resumeConnect.eq_def] at ran
  split at ran
  · rename_i url result suspended
    cases ran
    have success : ∀ relay, (result.map fun _ => (⟨config.fresh, url⟩ : RelayConn)) =
        .ok relay → (CallInput.opened result).opens = true ∧ relay.server = url := by
      intro relay success
      cases result with
      | error detail => cases success
      | ok done =>
          cases success
          exact ⟨rfl, rfl⟩
    rcases Dialing.finishOpen _ config.state config.clock phase url _ suspended success with
      ⟨more, between, resolution, dialing⟩
    exact .dialing id (config.fresh + 1) addr phase.peer phase.claim phase.keys more between
      _ (.resumed phase pending) resolution dialing (Nat.le_succ _)
  · rename_i url started suspended
    split at ran
    · rename_i state polled
      cases ran
      rw [Dialing.pollEnsure_none polled]
      exact .waited
    · rename_i ensured state polled
      cases ran
      exact .dialing id config.fresh addr phase.peer phase.claim phase.keys [] config.state
        _ (.resumed phase pending) (.unclaimed (ConnectPhase.claim_of_waiting suspended))
        (Dialing.pollEnsure config.clock started phase (by rw [suspended]; rfl) polled)
        (Nat.le_refl _)
  · split at ran
    · rename_i peer handle serial _
      rcases bind_eq_ok.mp ran with ⟨⟨answer, state⟩, accessed, rest⟩
      rcases withEntry_ok accessed with ⟨entry, after, found, checked, rfl⟩
      cases checked
      have target : config.Holds ⟨handle, serial⟩ := .call id _ pending rfl
      dsimp only at rest
      rw [ConnEntry.connectCheck] at rest
      split at rest
      · rename_i answer
        cases rest
        exact .accessed ⟨handle, serial⟩ entry entry _ target found .refl .waits
      · rename_i error answer
        cases rest
        exact .accessed ⟨handle, serial⟩ entry entry _ target found .refl
          (.settles id _ [] (by simp))
      · rename_i answer
        cases rest
        refine .connected id addr peer ⟨handle, serial⟩ entry _ pending found ?_
        split at answer
        · cases answer
        · split at answer
          · assumption
          · cases answer
    · cases ran
  · cases ran

theorem resumeCall_step {call : Call} {input : CallInput}
    (pending : config.calls.get? id = some call)
    (ran : config.resumeCall id call input = .ok next) :
    CallStep input.opens config next := by
  rw [resumeCall.eq_def] at ran
  split at ran
  · exact resumeConnect_step pending ran
  · exact resumeAccept_step ran
  · rename_i target dir shape
    exact resumeStream_step (.call id _ pending rfl)
      (fun entry => EntrySteps.covers.openStreamCheck entry dir) ran
  · rename_i target dir shape
    exact resumeStream_step (.call id _ pending rfl)
      (fun entry => EntrySteps.acceptStreamCheck entry dir) ran
  · rename_i target
    rcases bind_eq_ok.mp ran with ⟨⟨answer, state⟩, accessed, rest⟩
    rcases withEntry_ok accessed with ⟨entry, after, found, checked, rfl⟩
    have steps := EntrySteps.covers.recvDatagramCheck entry
    rw [Except.ok.inj checked] at steps
    refine .accessed target entry after next (.call id _ pending rfl) found steps ?_
    dsimp only at rest
    split at rest <;> cases rest
    · exact .waits
    · exact .settles id _ [] (by simp)
  · rename_i target
    rcases bind_eq_ok.mp ran with ⟨⟨answer, state⟩, accessed, rest⟩
    rcases withEntry_ok accessed with ⟨entry, after, found, checked, rfl⟩
    cases checked
    refine .accessed target entry entry next (.call id _ pending rfl) found .refl ?_
    dsimp only at rest
    split at rest <;> cases rest
    · exact .waits
    · exact .settles id _ [] (by simp)
  · rename_i target stream bytes offset
    rcases bind_eq_ok.mp ran with ⟨⟨⟨answer, reached⟩, written⟩, writing, rest⟩
    rcases resumeWrite_ok writing with ⟨entry, after, found, steps, rfl⟩
    refine .accessed target entry after next (.call id _ pending rfl) found steps ?_
    dsimp only at rest
    split at rest <;> cases rest
    · exact .keeps id _ rfl rfl
    · exact .settles id _ [] (by simp)
  · rename_i target stream max
    rcases bind_eq_ok.mp ran with ⟨⟨answer, read⟩, reading, rest⟩
    rcases resumeRead_ok reading with ⟨entry, after, found, steps, rfl⟩
    refine .accessed target entry after next (.call id _ pending rfl) found steps ?_
    dsimp only at rest
    split at rest <;> cases rest
    · exact .waits
    · exact .settles id _ [] (by simp)
  · rename_i target stream bytes last
    split at ran
    · exact afterChunk_step (.call id _ pending rfl) ran
    · cases ran
      exact .followed target _ (.call id _ pending rfl) (.keeps id _ rfl rfl)
  · rename_i target stream bytes offset last
    rcases bind_eq_ok.mp ran with ⟨⟨⟨answer, reached⟩, written⟩, writing, rest⟩
    rcases resumeWrite_ok writing with ⟨entry, after, found, steps, rfl⟩
    have held : config.Holds target := .call id _ pending rfl
    dsimp only at rest
    split at rest
    · cases rest
      exact .accessed target entry after _ held found steps (.keeps id _ rfl rfl)
    · cases rest
      exact .accessed target entry after _ held found steps (.settles id _ [] (by simp))
    · exact afterChunk_written held found steps rest
  · rename_i target stream
    rcases bind_eq_ok.mp ran with ⟨⟨answer, read⟩, reading, rest⟩
    rcases resumeRead_ok reading with ⟨entry, after, found, steps, rfl⟩
    refine .accessed target entry after next (.call id _ pending rfl) found steps ?_
    dsimp only at rest
    split at rest <;> cases rest
    · exact .waits
    · exact .keeps id _ rfl rfl
    · exact .settles id _ [] (by simp)
  · rename_i target stream dropped
    have held : config.Holds target := .call id _ pending rfl
    split at ran <;> cases ran
    · exact .followed target _ held (.settles id _ [] (by simp))
    · exact .followed target _ held (.keeps id _ rfl rfl)
  · cases ran

end Pending

/-! ## Invocations -/

section Invocations

variable {opened : Bool} {config next : Config P} {resource : Nat} {target : Target}
  {method : Method}

private theorem invokeConnection_step (held : config.Holds target)
    (ran : config.invokeConnection target method = .ok next) :
    CallStep opened config next := by
  rw [invokeConnection.eq_def] at ran
  split at ran
  · cases ran
    exact .followed target _ held (.starts _ rfl rfl)
  · cases ran
    exact .followed target _ held (.starts _ rfl rfl)
  · cases ran
    exact .followed target _ held (.starts _ rfl rfl)
  · cases ran
    exact .followed target _ held (.starts _ rfl rfl)
  · rename_i data
    exact touch_step held (fun entry => EntrySteps.covers.sendDatagram entry data) ran
  · cases ran
    exact .followed target _ held (.starts _ rfl rfl)
  · rename_i code reason
    exact touch_step held (fun entry => EntrySteps.covers.close entry config.clock code reason) ran
  · cases ran
    exact .followed target _ held (.starts _ rfl rfl)
  · cases ran

private theorem invokeSend_step {stream : StreamId} (held : config.Holds target)
    (ran : config.invokeSend target stream method = .ok next) :
    CallStep opened config next := by
  rw [invokeSend.eq_def] at ran
  split at ran
  · cases ran
    exact .followed target _ held (.starts _ rfl rfl)
  · rcases bind_eq_ok.mp ran with ⟨⟨answer, finished⟩, finishing, result⟩
    cases result
    rcases finishStream_ok finishing with ⟨entry, after, found, steps, rfl⟩
    exact .accessed target entry after _ held found steps .waits
  · rename_i code
    exact touch_step held (fun entry => EntrySteps.covers.reset entry stream code) ran
  · cases ran
    exact .followed target _ held (.starts _ rfl rfl)
  · cases ran

private theorem invokeRecv_step {stream : StreamId} {streaming : Bool} (held : config.Holds target)
    (ran : config.invokeRecv resource target stream streaming method = .ok next) :
    CallStep opened config next := by
  rw [invokeRecv.eq_def] at ran
  split at ran
  · split at ran
    · cases ran
      exact .waited
    · split at ran <;> cases ran
      · exact .waited
      · exact .followed target _ held (.starts _ rfl rfl)
  · rename_i code
    exact touch_step held (fun entry => .single (.stop stream code)) ran
  · split at ran <;> cases ran
    · exact .waited
    · exact .followed target _ held (.takes resource stream)
  · cases ran

private theorem invokeResource_step (ran : config.invokeResource resource method = .ok next) :
    CallStep opened config next := by
  rw [invokeResource.eq_def] at ran
  split at ran
  · cases ran
  · cases ran
    exact .dropped resource
  · rename_i found _
    exact invokeConnection_step (.resource _ _ found rfl) ran
  · rename_i found _
    exact invokeSend_step (.resource _ _ found rfl) ran
  · rename_i found _
    exact invokeRecv_step (.resource _ _ found rfl) ran

theorem invoke_step (ran : config.invoke method = .ok next) :
    CallStep opened config next := by
  rw [invoke.eq_def] at ran
  split at ran
  · exact invokeResource_step ran
  · rename_i addr alpn _
    split at ran <;> cases ran
    rcases Dialing.connect config.state config.clock config.udp addr alpn
      (List.mem_singleton_self homeRelay) with ⟨_, failed⟩ | ⟨peer, same, dialing⟩
    · rw [failed]
      exact .refused config.fresh (config.fresh + 1) _ (Nat.le_succ _)
    · exact .dialing config.fresh (config.fresh + 1) addr peer none [homeRelay] []
        config.state _ (.invoked peer rfl same) (.unclaimed rfl) dialing (Nat.le_succ _)
  · split at ran <;> cases ran
    exact .accepting
  · split at ran <;> cases ran
    exact .closed config.endpointLive _
  · split at ran <;> cases ran
    exact .closed false _
  · cases ran

end Invocations

end Config

end IrohEndpoint
