import IrohEndpoint.Handoff
import IrohEndpoint.Handles
import IrohEndpoint.Shutdown

/-! # Who owns a connection

A connection that has connected is owned by the resource the application got for it, by
the `connect` that still waits for it, or by the accept queue. Ownership passes from the
call or the queue to the resource; it ends when the resource is dropped, and dropping a
connection resource does nothing to the connection. -/

namespace IrohEndpoint

open Relation

variable {P : Platform}

/-! ## Connections that were asked to close -/

/-- The operation is `close`. -/
def ConnCall.closes {EndpointEvent ConnectionEvent Answer : Type} :
    ConnCall EndpointEvent ConnectionEvent Answer → Bool
  | .close .. => true
  | _ => false

/-- Whether `close` has been called on a connection of noq's. -/
structure Closer (P : Platform) where
  closing : P.Connection → Bool
  created : ∀ connection, P.Creates connection → closing connection = false
  called : ∀ {Answer : Type} (operation : ConnCall P.EndpointEvent P.ConnectionEvent Answer)
    connection, closing (P.call operation connection).2 =
      (closing connection || operation.closes)

theorem Closer.touched (closer : Closer P) {before after : P.Connection}
    (touched : ReflTransGen P.Touches before after) (asked : closer.closing before = true) :
    closer.closing after = true := by
  induction touched with
  | refl => exact asked
  | tail _ last induction =>
      rcases last with ⟨Answer, operation, rfl⟩
      rw [closer.called, induction, Bool.true_or]

namespace ConnEntry

variable {closer : Closer P} {entry after : ConnEntry P}

def Loose (closer : Closer P) (entry : ConnEntry P) : Prop :=
  entry.isClosed = false ∧ closer.closing entry.conn = false

instance (closer : Closer P) (entry : ConnEntry P) : Decidable (entry.Loose closer) :=
  inferInstanceAs (Decidable (_ ∧ _))

theorem Loose.before (steps : EntrySteps entry after) (loose : after.Loose closer) :
    entry.Loose closer := by
  refine ⟨?_, ?_⟩
  · rw [← Bool.not_eq_true]
    intro closed
    rw [Loose, steps.evolves.isClosed closed] at loose
    cases loose.1
  · rw [← Bool.not_eq_true]
    intro asked
    rw [Loose, closer.touched steps.evolves.conn asked] at loose
    cases loose.2

private theorem close_loose (closer : Closer P) (entry : ConnEntry P) (now : Instant)
    (code : UInt32)
    (reason : Bytes) : ¬ (entry.close now code reason).Loose closer := by
  intro loose
  rw [ConnEntry.close] at loose
  split at loose
  · rcases loose with ⟨_, asked⟩
    have called := closer.called (.close now code reason) entry.conn
    rw [ConnCall.closes, Bool.or_true] at called
    rw [show closer.closing (entry.call (.close now code reason)).2.conn = true from called]
      at asked
    cases asked
  · rename_i over_
    rcases loose with ⟨opened, _⟩
    rw [ConnEntry.isClosed, Bool.or_eq_false_iff] at opened
    rw [Bool.and_eq_true, not_and, Option.isNone_iff_eq_none] at over_
    have unfailed : entry.error = none := by
      rw [← Option.not_isSome_iff_eq_none, opened.2]
      exact Bool.false_ne_true
    rw [opened.1] at over_
    exact over_ unfailed rfl

/-- The entry needs an owner: it was dialed, or it has connected. -/
def Claimed (entry : ConnEntry P) : Prop :=
  entry.connected = true ∨ entry.acceptedSide = false

end ConnEntry

/-! ## Owners -/

/-- A connection resource, a dial that waits for the handshake, or the accept queue. -/
inductive Config.Owns (config : Config P) (target : Target) : Prop
  | resource (id : Nat) (dialed : Option EndpointAddr) :
      config.resources.get? id = some (.connection target dialed) → Owns config target
  | dialing (id : Nat) (addr : EndpointAddr) (peer : EndpointId) :
      config.calls.get? id =
        some (.connect addr (.handshake peer target.handle target.serial)) →
      Owns config target
  | queued : (⟨target.handle, target.serial⟩ : AcceptItem) ∈ config.state.acceptQueue →
      Owns config target

theorem Config.Owns.holds {config : Config P} {target : Target} (owns : config.Owns target) :
    config.Holds target := by
  cases owns with
  | resource id dialed found => exact .resource id _ found rfl
  | dialing id addr peer found => exact .call id _ found rfl
  | queued member => exact .queued _ member rfl

/-! ## What connects is queued -/

/-- Outside the calls, an entry connects in a drain, which queues it if it was accepted. -/
theorem StateStep.connected {task : Task} {state next : State P}
    (step : StateStep task state next) (idle : task.calls = false) {handle : ConnectionHandle}
    {after : ConnEntry P} (found : next.conns.get? handle = some after)
    (connected : after.connected = true) :
    (∃ entry, state.conns.get? handle = some entry ∧ entry.Claimed) ∨
      ⟨handle, after.trace.serial⟩ ∈ next.acceptQueue := by
  have same : next.conns = state.conns → (∃ entry, state.conns.get? handle = some entry ∧
      entry.Claimed) ∨ ⟨handle, after.trace.serial⟩ ∈ next.acceptQueue := by
    intro equal
    rw [equal] at found
    exact .inl ⟨after, found, .inl connected⟩
  have mapped : ∀ {change : ConnEntry P → ConnEntry P},
      (∀ entry, (change entry).connected = entry.connected) →
      next.conns = state.conns.mapValues change → (∃ entry,
        state.conns.get? handle = some entry ∧ entry.Claimed) ∨
        ⟨handle, after.trace.serial⟩ ∈ next.acceptQueue := by
    intro change kept equal
    rw [equal, Table.get?_mapValues, Option.map_eq_some_iff] at found
    rcases found with ⟨entry, lookup, rfl⟩
    exact .inl ⟨entry, lookup, .inl ((kept entry).symm.trans connected)⟩
  cases step with
  | entry own entry moved io lookup steps _ surfaced _ drains _ =>
      simp only [Table.get?_set] at found
      split at found
      · rename_i here
        subst here
        cases found
        rcases (drains idle).2 connected with before | dialed | queued
        · exact .inl ⟨entry, lookup, .inl before⟩
        · exact .inl ⟨entry, lookup, .inr dialed⟩
        · right
          rcases List.exists_mem_of_ne_nil _ queued with ⟨item, member⟩
          rw [(surfaced item member).1] at member
          rw [steps.evolves.serial]
          exact List.mem_append_right _ member
      · exact .inl ⟨after, found, .inl connected⟩
  | inserted own conn expectedPeer acceptedSide origin _ _ _ =>
      rw [State.insertConn, Table.get?_set] at found
      split at found
      · cases found
        cases connected
      · exact .inl ⟨after, found, .inl connected⟩
  | markedDead reason _ =>
      have latches : ∀ entry : ConnEntry P, (if entry.error.isNone then
          { entry with error := some .closed } else entry).connected = entry.connected := by
        intro entry
        split <;> rfl
      exact mapped latches rfl
  | timedOut now =>
      have expires : ∀ entry : ConnEntry P, (if (P.pollTimeout entry.conn).any (· ≤ now) then
          (entry.call (.handleTimeout now)).2 else entry).connected = entry.connected := by
        intro entry
        split <;> rfl
      exact mapped expires rfl
  | closed now reason calls =>
      rw [idle] at calls
      cases calls
  | responded addr source payload =>
      rcases state.pushResponse_frame addr source payload with ⟨_, _, _, frame⟩
      exact same (by rw [frame])
  | sighted peer via =>
      rcases state.addrForPeer_frame peer via with ⟨_, _, _, _, frame⟩
      exact same (by rw [frame])
  | dialed peer key =>
      rcases state.dialStandin_frame peer key with ⟨_, _, _, _, frame⟩
      exact same (by rw [frame])
  | channelRegistered peer wire _ =>
      rcases state.registerChannel_frame peer wire with ⟨_, _, _, _, _, _, _, _, _, frame⟩
      exact same (by rw [frame])
  | channelDied id wire _ =>
      rcases state.channelDied_frame id wire with ⟨_, _, frame⟩
      exact same (by rw [frame])
  | _ => exact same rfl

theorem StateStep.claims {task : Task} {state next : State P}
    (step : StateStep task state next) (idle : task.calls = false) {handle : ConnectionHandle}
    {after : ConnEntry P} (found : next.conns.get? handle = some after)
    (claimed : after.Claimed) :
    (∃ entry, state.conns.get? handle = some entry ∧ EntrySteps entry after ∧
      entry.Claimed) ∨ ⟨handle, after.trace.serial⟩ ∈ next.acceptQueue := by
  cases step.conns with
  | moved related _ =>
      rcases rel_some_right (found ▸ related handle) with ⟨entry, lookup, steps⟩
      rcases claimed with connected | dialed
      · rcases step.connected idle found connected with ⟨other, here, known⟩ | queued
        · rw [lookup] at here
          cases here
          exact .inl ⟨entry, lookup, steps, known⟩
        · exact .inr queued
      · exact .inl ⟨entry, lookup, steps, .inr (steps.evolves.acceptedSide.symm.trans dialed)⟩
  | inserted own conn expectedPeer acceptedSide origin admits _ equal =>
      rw [equal, State.insertConn, Table.get?_set] at found
      split at found
      · -- the pump's own connections start unconnected
        cases found
        cases admits with
        | dialed peer calls _ =>
            rw [idle] at calls
            cases calls
        | relay via source _ => rcases claimed with impossible | impossible <;> cases impossible
        | channel id entry _ _ =>
            rcases claimed with impossible | impossible <;> cases impossible
        | udp remote _ => rcases claimed with impossible | impossible <;> cases impossible
      · exact .inl ⟨after, found, .refl, claimed⟩

theorem StateSteps.claims {task : Task} {state next : State P}
    (steps : StateSteps task state next) (idle : task.calls = false)
    {handle : ConnectionHandle} {after : ConnEntry P}
    (found : next.conns.get? handle = some after) (claimed : after.Claimed) :
    (∃ entry, state.conns.get? handle = some entry ∧ EntrySteps entry after ∧
      entry.Claimed) ∨ ⟨handle, after.trace.serial⟩ ∈ next.acceptQueue := by
  induction steps generalizing after with
  | refl => exact .inl ⟨after, found, .refl, claimed⟩
  | tail _ last induction =>
      rcases last.claims idle found claimed with ⟨between, lookup, moved, known⟩ | queued
      · rcases induction lookup known with ⟨entry, first, earlier, before⟩ | queued
        · exact .inl ⟨entry, first, earlier.trans moved, before⟩
        · right
          rcases (last.serves idle).queue with ⟨arrived, grown, _⟩
          rw [grown, moved.evolves.serial]
          exact List.mem_append_left _ queued
      · exact .inr queued

/-! ## Entries that need an owner -/

theorem Resolution.conns {opened : Bool} {claim : Option String} {keys : List UInt32}
    {state between : State P} (resolution : Resolution opened claim state keys between) :
    between.conns = state.conns := by
  cases resolution with
  | unclaimed _ => rfl
  | failed url _ => rfl
  | registered url conn _ _ _ => rfl

/-- A dial adds the entry whose handshake it then waits for, and no other. -/
theorem Dialing.added {peer : EndpointId} {keys : List UInt32} {state : State P}
    {result : Connecting × State P} (dialing : Dialing peer keys state result)
    {handle : ConnectionHandle} {after : ConnEntry P}
    (found : result.2.conns.get? handle = some after) :
    state.conns.get? handle = some after ∨
      ∃ dialed, result.1 = .suspended (.handshake dialed handle after.trace.serial) := by
  have remote : ∀ (state : State P) (dial : Dial) (dialKey : UInt32),
      (state.dialRemote dial dialKey).2.conns = state.conns := by
    intro state dial dialKey
    rcases state.dialRemote_frame dial dialKey with ⟨_, _, _, _, frame⟩
    rw [frame]
  induction dialing with
  | failed keys state error => exact .inl found
  | waiting keys state phase _ _ _ _ => exact .inl found
  | claimed keys state phase url _ _ _ _ _ _ => exact .inl found
  | ensured keys state url key result _ _ induction => exact induction found
  | rejected keys state dial dialKey noq error _ =>
      dsimp only at found
      rw [remote] at found
      exact .inl found
  | dialed keys state inserted next dial dialKey noq own conn upgrades _ _ _ _ _ insertion
      queueing _ _ =>
      subst insertion queueing
      simp only [State.insertConn, Table.get?_set] at found
      split at found
      · rename_i here
        cases found
        exact .inr ⟨dial.peer, by rw [here]; rfl⟩
      · rw [remote] at found
        exact .inl found

namespace Config

variable {config next : Config P} {action : Action} {handle : ConnectionHandle}
  {after : ConnEntry P}

def Accounts (config next : Config P) : Prop :=
  ∀ handle after, next.state.conns.get? handle = some after → after.Claimed →
    (∃ entry, config.state.conns.get? handle = some entry ∧ EntrySteps entry after ∧
      entry.Claimed) ∨ next.Owns ⟨handle, after.trace.serial⟩

theorem Touches.accounts {hands : Bool} {id : Nat} (touches : Touches hands id config next)
    (reached : (endpoint P).Reachable next) (moves : ConnsFrom config.state next.state) :
    Accounts config next := by
  intro handle after found claimed
  left
  rcases touches.surfaced handle after found with ⟨entry, lookup, connected⟩
  rcases moves.source handle after found with ⟨same, here, steps⟩ | ⟨newer, _⟩
  · rw [lookup] at here
    cases here
    refine ⟨entry, lookup, steps, ?_⟩
    rcases claimed with surfaced | dialed
    · exact .inl (connected.symm.trans surfaced)
    · exact .inr (steps.evolves.acceptedSide.symm.trans dialed)
  · have bound := reachable_serials reached found
    rcases touches.state with ⟨_, _, _, _, same⟩
    rw [same] at bound
    exact absurd bound (Nat.not_lt.mpr newer)

private theorem connecting_accounts {id fresh : Nat} {addr : EndpointAddr}
    {progress : Connecting × State P}
    (added : ∀ handle after, progress.2.conns.get? handle = some after →
      config.state.conns.get? handle = some after ∨
        ∃ dialed, progress.1 = .suspended (.handshake dialed handle after.trace.serial))
    (made : next = ({ config with fresh } : Config P).connecting id addr progress) :
    Accounts config next := by
  intro handle after found claimed
  rcases connecting_frame ({ config with fresh } : Config P) id addr progress with
    ⟨_, _, _, _, frame⟩
  have state : next.state = progress.2 := by rw [made, frame]
  rw [state] at found
  rcases added handle after found with old | ⟨dialed, waits⟩
  · exact .inl ⟨after, old, .refl, claimed⟩
  · right
    refine .dialing id addr dialed ?_
    rw [made, connecting, waits]
    simp [keep]

private theorem invoke_accounts {method : Method} (ran : config.invoke method = .ok next)
    (reached : (endpoint P).Reachable next) (moves : ConnsFrom config.state next.state) :
    Accounts config next := by
  rcases invoke_cases ran with ⟨addr, alpn, rfl, made⟩ | ⟨_, _, rfl⟩ | ⟨_, touches⟩
  · refine connecting_accounts ?_ made
    intro handle after found
    rcases Dialing.connect config.state config.clock config.udp addr alpn
      (List.mem_singleton_self homeRelay) with ⟨_, failed⟩ | ⟨peer, _, dialing⟩
    · rw [failed] at found
      exact .inl found
    · exact dialing.added found
  · intro handle after found claimed
    exact .inl ⟨after, found, .refl, claimed⟩
  · exact touches.accounts reached moves

private theorem resumeCall_accounts {id : Nat} {call : Call} {input : CallInput}
    (pending : config.calls.get? id = some call)
    (ran : config.resumeCall id call input = .ok next)
    (reached : (endpoint P).Reachable next) (moves : ConnsFrom config.state next.state) :
    Accounts config next := by
  cases dials : call.dials with
  | false => exact (resumeCall_touches pending dials ran).accounts reached moves
  | true =>
      cases call <;> try cases dials
      rename_i addr phase
      rcases resumeConnect_cases ran with ⟨url, result, suspended, rfl, made⟩ |
        ⟨url, started, suspended, rfl, ⟨_, rfl⟩ | ⟨result, polled, made⟩⟩ | ⟨_, touches⟩
      · refine connecting_accounts ?_ made
        intro handle after found
        rcases Dialing.opened config.state config.clock phase suspended result config.fresh with
          ⟨keys, between, resolution, dialing⟩
        rw [← resolution.conns]
        exact dialing.added found
      · intro handle after found claimed
        exact .inl ⟨after, found, .refl, claimed⟩
      · refine connecting_accounts ?_ made
        intro handle after found
        have opens : phase.ensure?.isSome = true := by rw [suspended]; rfl
        exact (Dialing.pollEnsure config.clock started phase opens (Prod.ext polled rfl)).added
          found
      · exact touches.accounts reached moves

theorem Acts.accounts (acts : config.Acts action next)
    (reached : (endpoint P).Reachable next) (moves : ConnsFrom config.state next.state) :
    Accounts config next := by
  have idle : ∀ task : Task, task.calls = false →
      StateSteps task config.state next.state → Accounts config next := by
    intro task idle steps handle after found claimed
    exact (StateSteps.claims steps idle found claimed).imp_right .queued
  cases acts with
  | advanced elapsed =>
      intro handle after found claimed
      exact .inl ⟨after, found, .refl, claimed⟩
  | pumped input state pump spawned ran =>
      rcases pumped_steps ran with ⟨task, quiet, steps⟩
      refine idle task quiet ?_
      rcases addSessions_frame spawned ({ config with state, pump } : Config P) with
        ⟨_, _, frame⟩
      rw [frame]
      exact steps
  | resumed id input session moved registration state _ _ ran =>
      exact idle .session rfl (StateSteps.resumes (Session.resumes ran))
  | invoked method next _ ran => exact invoke_accounts ran reached moves
  | polled id input call next _ pending ran =>
      exact resumeCall_accounts pending ran reached moves

/-! ## Owners after a step -/

private theorem connecting_retains {id fresh : Nat} {addr : EndpointAddr}
    {progress : Connecting × State P} (later : config.fresh ≤ fresh) :
    Retains config (({ config with fresh } : Config P).connecting id addr progress) := by
  have started : Retains config ({ config with state := progress.2, fresh } : Config P) :=
    .of_same rfl
  rw [connecting]
  dsimp only
  split
  · exact started.settle later _ _ _
  · exact .of_same rfl

private theorem resumeCall_retains {id : Nat} {call : Call} {input : CallInput}
    (pending : config.calls.get? id = some call)
    (ran : config.resumeCall id call input = .ok next) : Retains config next := by
  cases dials : call.dials with
  | false => exact (resumeCall_touches pending dials ran).retains
  | true =>
      cases call <;> try cases dials
      rename_i addr phase
      rcases resumeConnect_cases ran with ⟨url, result, _, _, made⟩ |
        ⟨url, started, _, _, ⟨_, rfl⟩ | ⟨result, _, made⟩⟩ | ⟨_, touches⟩
      · exact made ▸ connecting_retains (Nat.le_succ _)
      · exact .of_same rfl
      · exact made ▸ connecting_retains (Nat.le_refl _)
      · exact touches.retains

theorem Acts.retains (acts : config.Acts action next)
    (undropped : ∀ id, action ≠ .invoke (.drop id)) : Retains config next := by
  cases acts with
  | advanced elapsed => exact .of_same rfl
  | pumped input state pump spawned _ =>
      rcases addSessions_frame spawned ({ config with state, pump } : Config P) with
        ⟨_, _, frame⟩
      rw [frame]
      exact .of_same rfl
  | resumed id input session moved registration state _ _ _ => exact .of_same rfl
  | invoked method next _ ran =>
      rcases invoke_cases ran with ⟨addr, alpn, _, made⟩ | ⟨id, rfl, _⟩ | ⟨_, touches⟩
      · exact made ▸ connecting_retains (Nat.le_succ _)
      · exact absurd rfl (undropped id)
      · exact touches.retains
  | polled id input call next _ pending ran => exact resumeCall_retains pending ran

theorem Owns.stays {target : Target} (retains : Retains config next)
    (numbered : ∀ id, config.resources.get? id ≠ none → id < config.fresh)
    (calls : ∀ id addr peer, config.calls.get? id =
      some (.connect addr (.handshake peer target.handle target.serial)) →
      next.calls.get? id = config.calls.get? id)
    (queue : config.state.acceptQueue ⊆ next.state.acceptQueue)
    (owns : config.Owns target) : next.Owns target := by
  cases owns with
  | resource id dialed found =>
      have known := numbered id (by rw [found]; exact Option.some_ne_none _)
      exact .resource id dialed (retains.kept id target dialed known found)
  | dialing id addr peer pending =>
      exact .dialing id addr peer ((calls id addr peer pending).trans pending)
  | queued member => exact .queued (queue member)

private theorem settle_owns (config : Config P) (id : Nat) (outcome : Outcome) (target : Target)
    (dialed : Option EndpointAddr) :
    (config.settle id outcome [.connection target dialed]).Owns target := by
  refine .resource config.fresh dialed ?_
  simp [settle, addResources]

private theorem resumeAccept_owns {id : Nat} {target : Target}
    (ran : config.resumeAccept id = .ok next)
    (member : (⟨target.handle, target.serial⟩ : AcceptItem) ∈ config.state.acceptQueue) :
    next.Owns target := by
  rw [resumeAccept, State.acceptCheck] at ran
  cases queue : config.state.acceptQueue with
  | nil =>
      rw [queue] at member
      cases member
  | cons item rest =>
      rw [queue] at ran member
      cases ran
      rcases List.mem_cons.mp member with rfl | waiting
      · exact settle_owns _ _ _ _ _
      · refine .queued ?_
        rw [settle_state]
        exact waiting

theorem Touches.queue {id : Nat} (touches : Touches false id config next) :
    config.state.acceptQueue ⊆ next.state.acceptQueue := by
  rcases (touches.serves rfl).queue with ⟨arrived, grown, _⟩
  rw [grown]
  exact List.subset_append_left _ _

/-- A connection that is owned stays so through the poll of a call, unless it has failed. -/
theorem Owns.polled {id : Nat} {call : Call} {input : CallInput} {target : Target}
    (numbered : ∀ id, config.resources.get? id ≠ none → id < config.fresh)
    (pending : config.calls.get? id = some call)
    (ran : config.resumeCall id call input = .ok next) (owns : config.Owns target) :
    next.Owns target ∨ ∃ entry, config.state.conns.get? target.handle = some entry ∧
      entry.error.isSome = true := by
  have retains := resumeCall_retains pending ran
  have others : ∀ other, other ≠ id → next.calls.get? other = config.calls.get? other :=
    fun other apart => (resumeCall_bypasses pending apart ran).calls
  -- the poll is not that of the dial that owns the connection
  have elsewhere : (∀ addr peer,
      call ≠ .connect addr (.handshake peer target.handle target.serial)) →
      config.state.acceptQueue ⊆ next.state.acceptQueue → next.Owns target := by
    intro apart queue
    refine owns.stays retains numbered ?_ queue
    intro other addr peer found
    refine others other ?_
    rintro rfl
    rw [pending] at found
    exact apart addr peer (Option.some.inj found)
  have serves : call.hands = false → config.state.acceptQueue ⊆ next.state.acceptQueue := by
    intro hands
    rcases (resumeCall_serves pending hands ran).queue with ⟨arrived, grown, _⟩
    rw [grown]
    exact List.subset_append_left _ _
  cases call with
  | connect addr phase =>
      cases phase with
      | handshake peer handle serial =>
          by_cases own : handle = target.handle ∧ serial = target.serial
          · rcases own with ⟨rfl, rfl⟩
            rcases resumeHandshake_cases ran with
              ⟨entry, conns, found, rfl | ⟨error, failed, rfl⟩ | rfl⟩
            · exact .inl (owns.stays retains numbered (fun _ _ _ _ => rfl) (serves rfl))
            · exact .inr ⟨entry, found, by rw [failed]; rfl⟩
            · exact .inl (settle_owns _ _ _ _ _)
          · refine .inl (elsewhere ?_ (serves rfl))
            rintro addr peer ⟨⟩
            exact own ⟨rfl, rfl⟩
      | dialRelay dial url ensure => exact .inl (elsewhere (by simp) (serves rfl))
      | upgradeRelay dial key url ensure => exact .inl (elsewhere (by simp) (serves rfl))
  | accept =>
      left
      cases owns with
      | resource other dialed found =>
          have known := numbered other (by rw [found]; exact Option.some_ne_none _)
          exact .resource other dialed (retains.kept other target dialed known found)
      | dialing other addr peer found =>
          refine .dialing other addr peer ((others other ?_).trans found)
          rintro rfl
          rw [pending] at found
          cases found
      | queued member =>
          cases input with
          | poll => exact resumeAccept_owns ran member
          | _ => cases ran
  | acceptStream own dir shape =>
      refine .inl (elsewhere (by simp) ?_)
      cases input with
      | poll =>
          rcases resumeAcceptStream_cases ran with
            ⟨entry, _, ⟨_, _, same⟩ | ⟨_, _, _, same, _⟩⟩
          · rw [same]
            exact List.Subset.refl _
          · rw [same]
            exact List.Subset.refl _
      | _ => cases ran
  | _ => exact .inl (elsewhere (by simp) (serves rfl))

end Config

/-! ## No orphans -/

def Resource.connection? : Resource → Option Target
  | .connection target _ => some target
  | .sendStream .. | .recvStream .. => none

def Action.dropped? : Action → Option Nat
  | .invoke (.drop id) => some id
  | _ => none

/-- An open connection is not let go of: a connection resource is dropped only when its
connection is closed, or was asked to close. -/
def ClosesFirst (closer : Closer P) (config : Config P) (action : Action) : Prop :=
  ∀ id ∈ action.dropped?, ∀ resource ∈ config.resources.get? id,
    ∀ target ∈ resource.connection?, ∀ entry ∈ config.state.conns.get? target.handle,
      entry.trace.serial = target.serial → ¬ entry.Loose closer

instance (closer : Closer P) (config : Config P) (action : Action) :
    Decidable (ClosesFirst closer config action) :=
  inferInstanceAs (Decidable (∀ id ∈ action.dropped?, _))

/-- Every entry that needs an owner has one, unless it is closed or closing. -/
structure Owned (closer : Closer P) (config : Config P) : Prop where
  numbered : ∀ id, config.resources.get? id ≠ none → id < config.fresh
  owned : ∀ handle entry, config.state.conns.get? handle = some entry → entry.Claimed →
    entry.Loose closer → config.Owns ⟨handle, entry.trace.serial⟩

namespace Owned

variable {closer : Closer P} {config next : Config P} {action : Action}

/-- What is owned stays owned as long as it is open. -/
theorem passes (owned : Owned closer config) (numbered : config.Numbered)
    (closes : ClosesFirst closer config action) (acts : config.Acts action next)
    {target : Target} (owns : config.Owns target) :
    next.Owns target ∨ ∀ entry, config.state.conns.get? target.handle = some entry →
      entry.trace.serial = target.serial → ¬ entry.Loose closer := by
  -- steps that neither drop a resource nor poll a call
  have others : (∀ id, action ≠ .invoke (.drop id)) → (∀ id input, action ≠ .resume id input) →
      next.Owns target := by
    intro undropped unpolled
    refine owns.stays (acts.retains undropped) owned.numbered ?_ ?_
    · intro id addr peer found
      have known := numbered.pending id (by rw [found]; exact Option.some_ne_none _)
      exact (acts.bypasses known (unpolled id)).calls
    · rcases (acts.serves fun id input _ resumed _ => absurd resumed (unpolled id input)).queue
        with ⟨arrived, grown, _⟩
      rw [grown]
      exact List.subset_append_left _ _
  cases acts with
  | invoked method next _ ran =>
      rcases Config.invoke_cases ran with ⟨addr, alpn, rfl, _⟩ | ⟨id, rfl, rfl⟩ | ⟨_, touches⟩
      · exact .inl (others (by simp) (by simp))
      · cases owns with
        | resource other dialed found =>
            by_cases same : other = id
            · subst same
              exact .inr fun entry lookup =>
                closes other rfl _ found target rfl entry lookup
            · refine .inl (.resource other dialed ?_)
              rw [Table.get?_remove, if_neg same]
              exact found
        | dialing other addr peer found => exact .inl (.dialing other addr peer found)
        | queued member => exact .inl (.queued member)
      · left
        refine owns.stays touches.retains owned.numbered ?_ touches.queue
        intro id addr peer found
        have known := numbered.pending id (by rw [found]; exact Option.some_ne_none _)
        exact touches.others id (Nat.ne_of_lt known)
  | polled id input call next _ pending ran =>
      rcases owns.polled owned.numbered pending ran with kept | ⟨entry, found, failed⟩
      · exact .inl kept
      · right
        intro same lookup _ loose
        rw [found] at lookup
        cases lookup
        rw [ConnEntry.Loose, ConnEntry.isClosed, failed, Bool.or_true] at loose
        cases loose.1
  | _ => exact .inl (others (by simp) (by simp))

theorem numbers (owned : Owned closer config) (acts : config.Acts action next) {id : Nat}
    (held : next.resources.get? id ≠ none) : id < next.fresh := by
  by_cases drops : ∃ dropped, action = .invoke (.drop dropped)
  · rcases drops with ⟨dropped, rfl⟩
    cases acts with
    | invoked method next _ ran =>
        rcases Config.invoke_cases ran with ⟨_, _, impossible, _⟩ | ⟨own, _, rfl⟩ | ⟨_, touches⟩
        · cases impossible
        · rw [Table.get?_remove] at held
          split at held
          · exact absurd rfl held
          · exact owned.numbered id held
        · rcases touches.retains.numbered id held with old | new
          · exact Nat.lt_of_lt_of_le (owned.numbered id old) touches.fresh_le
          · exact new
  · rcases (acts.retains fun dropped same => drops ⟨dropped, same⟩).numbered id held with
      old | new
    · exact Nat.lt_of_lt_of_le (owned.numbered id old) acts.fresh_le
    · exact new

theorem step (owned : Owned closer config) (reached : (endpoint P).Reachable config)
    (closes : ClosesFirst closer config action)
    (stepped : (endpoint P).step config action = .ok next) : Owned closer next := by
  have acts := Config.step_acts stepped
  refine ⟨?_, ?_⟩
  · intro id held
    exact owned.numbers acts held
  · intro handle after found claimed loose
    rcases acts.accounts (reached.step trivial stepped) (ConnsFrom.moves stepped) handle after
      found claimed with ⟨entry, lookup, steps, before⟩ | owns
    · have open_ := loose.before steps
      have owns := owned.owned handle entry lookup before open_
      rw [← steps.evolves.serial] at owns
      rcases owned.passes (Config.reachable_numbered reached) closes acts owns with
        kept | over_
      · exact kept
      · exact absurd open_ (over_ entry lookup steps.evolves.serial.symm)
    · exact owns

end Owned

private theorem reachable_shut (closer : Closer P) {config : Config P}
    (reached : (endpoint P).Reachable config) (closed : config.state.closed = true)
    {handle : ConnectionHandle} {entry : ConnEntry P}
    (found : config.state.conns.get? handle = some entry) : ¬ entry.Loose closer := by
  refine reachable_state reached (fun state => state.closed = true → ∀ handle entry,
    state.conns.get? handle = some entry → ¬ entry.Loose closer) ?_ ?_ closed handle entry found
  · intro noq webrtc relay impossible
    cases impossible
  · intro task before after step shut closed handle entry found
    rcases step.flags.2.1 with same | ⟨_, now, reason, rfl⟩
    · rw [same] at closed
      cases step.conns with
      | moved related _ =>
          rcases rel_some_right (found ▸ related handle) with ⟨earlier, lookup, steps⟩
          exact fun loose => shut closed handle earlier lookup (loose.before steps)
      | inserted own conn expectedPeer acceptedSide origin _ open_ _ =>
          rw [closed] at open_
          cases open_
    · rw [State.close] at found
      split at found
      · rename_i already
        exact shut already handle entry found
      · rw [State.closeAll, Table.get?_mapValues, Option.map_eq_some_iff] at found
        rcases found with ⟨earlier, _, rfl⟩
        exact earlier.close_loose closer now 0 reason

/-- In runs that drop a connection resource only when its connection is closed or was
asked to close: every connection that has connected and is neither closed nor asked to
close is owned by a connection resource, by the dial that waits for it or by the accept
queue; and dropping the endpoint closes all. -/
theorem no_orphans (closer : Closer P) {config : Config P}
    (reached : (endpoint P).Reaches (ClosesFirst closer) config) :
    (∀ handle entry, config.state.conns.get? handle = some entry → entry.connected = true →
      entry.isClosed = false → closer.closing entry.conn = false →
      config.Owns ⟨handle, entry.trace.serial⟩) ∧
    ∀ next, (endpoint P).step config (.invoke .dropEndpoint) = .ok next →
      ∀ handle entry, next.state.conns.get? handle = some entry →
        entry.isClosed = true ∨ closer.closing entry.conn = true := by
  have owned : Owned closer config := by
    apply reached.induction (Owned closer)
    · rintro config ⟨noq, webrtc, udp, relay, clock, url, _, rfl⟩
      refine ⟨?_, ?_⟩
      · intro id held
        exact absurd rfl held
      · intro handle entry found
        cases found
    · intro config action next reachable owned closes stepped
      exact owned.step reachable closes stepped
  refine ⟨?_, ?_⟩
  · intro handle entry found connected opened unasked
    exact owned.owned handle entry found (.inl connected) ⟨opened, unasked⟩
  · intro next stepped handle entry found
    have closed : next.state.closed = true := by
      have acts : config.Acts (.invoke .dropEndpoint) next := Config.step_acts stepped
      cases acts with
      | invoked method next _ ran =>
          simp only [Config.invoke, Method.resource?] at ran
          split at ran <;> cases ran
          rcases config.state.close_frame config.clock "endpoint dropped".toUTF8.data.toList with
            ⟨_, _, frame⟩
          rw [frame]
    have shut := reachable_shut closer (reached.reachable.step trivial stepped) closed found
    rw [ConnEntry.Loose, not_and_or, Bool.not_eq_false, Bool.not_eq_false] at shut
    exact shut

/-! ## Any noq can be asked whether it was closed -/

def Platform.noted (P : Platform) (Note : Type) (start : Note)
    (note : ∀ {Answer : Type}, ConnCall P.EndpointEvent P.ConnectionEvent Answer →
      Note → Note) : Platform where
  Endpoint := P.Endpoint
  Connection := P.Connection × Note
  EndpointEvent := P.EndpointEvent
  ConnectionEvent := P.ConnectionEvent
  Incoming := P.Incoming
  ClientConfig := P.ClientConfig
  call operation connection :=
    let answered := P.call operation connection.1
    (answered.1, answered.2, note operation connection.2)
  isDrained connection := P.isDrained connection.1
  pollTimeout connection := P.pollTimeout connection.1
  handshakeProtocol connection := P.handshakeProtocol connection.1
  peerCertificates connection := P.peerCertificates connection.1
  networkPath connection := P.networkPath connection.1
  handle := P.handle
  accept noq incoming now :=
    let accepted := P.accept noq incoming now
    (accepted.1, accepted.2.map fun issued => (issued.1, issued.2, start))
  connect noq now config remote :=
    let dialed := P.connect noq now config remote
    (dialed.1, dialed.2.map fun issued => (issued.1, issued.2, start))
  handleEvent := P.handleEvent
  publicKeyFromEd25519Spki := P.publicKeyFromEd25519Spki
  clientConfig := P.clientConfig
  encodeSignal := P.encodeSignal
  decodeSignal := P.decodeSignal

private theorem Platform.noted_creates {Note : Type} {start : Note}
    {note : ∀ {Answer : Type}, ConnCall P.EndpointEvent P.ConnectionEvent Answer →
      Note → Note} {connection : (P.noted Note start note).Connection}
    (creates : (P.noted Note start note).Creates connection) : connection.2 = start := by
  rcases creates with ⟨noq, incoming, now, handle, issued⟩ |
    ⟨noq, now, config, remote, handle, issued⟩
  · simp only [Platform.noted] at issued
    cases accepted : (P.accept noq incoming now).2 with
    | error response =>
        rw [accepted] at issued
        cases issued
    | ok pair =>
        rw [accepted] at issued
        cases issued
        rfl
  · simp only [Platform.noted] at issued
    cases dialed : (P.connect noq now config remote).2 with
    | error display =>
        rw [dialed] at issued
        cases issued
    | ok pair =>
        rw [dialed] at issued
        cases issued
        rfl

/-- The platform with the calls of `close` noted. -/
def Platform.closable (P : Platform) : Platform :=
  P.noted Bool false fun operation closing => closing || operation.closes

def Closer.closable (P : Platform) : Closer P.closable where
  closing connection := connection.2
  created _ creates := Platform.noted_creates creates
  called _ _ := rfl

def closedThenDropped : List Action :=
  List.flatten [Slab.turn [] 0, [Slab.hello 0 7], Slab.turn [0] 1,
    [.invoke .accept, .resume 1 .poll, .invoke (.closeConnection 2 0 []), .invoke (.drop 2),
      Slab.hello 0 9], Slab.turn [0, 1] 2]

/-- The connection that waits is owned, and the drop of the endpoint closes it. -/
theorem no_orphans_waiting :
    ∃ (config next : Config Slab.platform.closable) (entry : ConnEntry Slab.platform.closable),
      (endpoint Slab.platform.closable).Reaches (ClosesFirst (.closable Slab.platform)) config ∧
      config.state.conns.get? 1 = some entry ∧ entry.connected = true ∧
      entry.Loose (.closable Slab.platform) ∧ config.Owns ⟨1, entry.trace.serial⟩ ∧
      (endpoint Slab.platform.closable).step config (.invoke .dropEndpoint) = .ok next ∧
      ∀ handle entry, next.state.conns.get? handle = some entry →
        entry.isClosed = true ∨ (Closer.closable Slab.platform).closing entry.conn = true := by
  have passed : (endpoint Slab.platform.closable).runs
      (fun config action => decide (ClosesFirst (.closable Slab.platform) config action))
      (.bind [] true false "a://home" 0) closedThenDropped
      (fun config => ((config.state.conns.get? 1).any fun entry =>
        decide (entry.connected = true ∧ entry.Loose (.closable Slab.platform))) &&
        (config.step (.invoke .dropEndpoint)).isOk) = true := by
    decide +kernel
  rcases System.ReachesFrom.of_runs (fun _ _ => of_decide_eq_true) _ passed with
    ⟨config, path, tested⟩
  simp only [Bool.and_eq_true, Option.any_eq_true, decide_eq_true_eq] at tested
  rcases tested with ⟨⟨entry, found, connected, loose⟩, drops⟩
  have reached : (endpoint Slab.platform.closable).Reaches
      (ClosesFirst (.closable Slab.platform)) config :=
    ⟨_, ⟨[], true, false, "a://home", 0, "wss://home/relay", by decide, rfl⟩, path⟩
  cases dropped : config.step (.invoke .dropEndpoint) with
  | error abort =>
      rw [dropped] at drops
      cases drops
  | ok next =>
      have both := no_orphans (.closable Slab.platform) reached
      exact ⟨config, next, entry, reached, found, connected, loose,
        both.1 1 entry found connected loose.1 loose.2, dropped, both.2 next dropped⟩

/-- The application drops the resource of a connection it has not closed: the connection
stays open, and nobody owns it. -/
theorem no_orphans_dropped :
    ∃ (config : Config Slab.platform.closable) (entry : ConnEntry Slab.platform.closable),
      (endpoint Slab.platform.closable).Reachable config ∧
      config.state.conns.get? 0 = some entry ∧ entry.connected = true ∧
      entry.isClosed = false ∧ (Closer.closable Slab.platform).closing entry.conn = false ∧
      ¬ config.Owns ⟨0, entry.trace.serial⟩ := by
  have passed : (endpoint Slab.platform.closable).runs (fun _ _ => true)
      (.bind [] true false "a://home" 0)
      (List.flatten [Slab.turn [] 0, [Slab.hello 0 7], Slab.turn [0] 1,
        [.invoke .accept, .resume 1 .poll, .invoke (.drop 2)]])
      (fun config => decide (config.holders = []) &&
        (config.state.conns.get? 0).any fun entry =>
          decide (entry.connected = true ∧ entry.Loose (.closable Slab.platform))) = true := by
    decide +kernel
  have initial : (endpoint Slab.platform.closable).Initial (.bind [] true false "a://home" 0) :=
    ⟨[], true, false, "a://home", 0, "wss://home/relay", by decide, rfl⟩
  rcases System.Reachable.of_runs initial passed with ⟨config, reached, tested⟩
  simp only [Bool.and_eq_true, Option.any_eq_true, decide_eq_true_eq] at tested
  rcases tested with ⟨unheld, entry, found, connected, opened, unasked⟩
  refine ⟨config, entry, reached, found, connected, opened, unasked, ?_⟩
  intro owns
  have held := (config.holds_iff_mem _).mp owns.holds
  rw [unheld] at held
  cases held

end IrohEndpoint
