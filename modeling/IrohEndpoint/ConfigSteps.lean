import IrohEndpoint.CallSteps

/-! # The steps of a configuration

Which task moves in a step, what it leaves alone, and how the shared state moves
with it. -/

namespace IrohEndpoint

open Relation

variable {P : Platform}

def Action.opens : Action → Bool
  | .resume _ input => input.opens
  | _ => false

namespace Config

/-! ## Frames -/

private theorem addResources_frame (resources : List Resource) (config : Config P) :
    ∃ table fresh, config.addResources resources =
      { config with resources := table, fresh } := by
  induction resources generalizing config with
  | nil => exact ⟨config.resources, config.fresh, rfl⟩
  | cons resource rest induction =>
      rcases induction { config with
        resources := config.resources.set config.fresh resource
        fresh := config.fresh + 1 } with ⟨table, fresh, equal⟩
      exact ⟨table, fresh, equal⟩

theorem addSessions_frame (sessions : List Session) (config : Config P) :
    ∃ table fresh, config.addSessions sessions =
      { config with sessions := table, fresh } := by
  induction sessions generalizing config with
  | nil => exact ⟨config.sessions, config.fresh, rfl⟩
  | cons session rest induction =>
      rcases induction { config with
        sessions := config.sessions.set config.fresh session
        fresh := config.fresh + 1 } with ⟨table, fresh, equal⟩
      exact ⟨table, fresh, equal⟩

theorem settle_frame (config : Config P) (id : Nat) (outcome : Outcome)
    (resources : List Resource) :
    ∃ outcomes table fresh, config.settle id outcome resources =
      { config with
        calls := config.calls.remove id, outcomes, resources := table, fresh } := by
  rcases addResources_frame resources { config with
    calls := config.calls.remove id
    outcomes := config.outcomes ++ [(id, outcome)] } with ⟨table, fresh, equal⟩
  exact ⟨_, table, fresh, equal⟩

theorem settle_state (config : Config P) (id : Nat) (outcome : Outcome)
    (resources : List Resource) :
    (config.settle id outcome resources).state = config.state := by
  rcases settle_frame config id outcome resources with ⟨_, _, _, frame⟩
  rw [frame]

theorem settle_outcomes (config : Config P) (id : Nat) (outcome : Outcome)
    (resources : List Resource) :
    (config.settle id outcome resources).outcomes = config.outcomes ++ [(id, outcome)] := by
  rcases addResources_frame resources ({ config with
    calls := config.calls.remove id
    outcomes := config.outcomes ++ [(id, outcome)] } : Config P) with ⟨_, _, frame⟩
  rw [settle, frame]

theorem Follows.frame {target : Target} {config next : Config P}
    (follows : Follows target config next) :
    ∃ calls resources outcomes fresh, next =
      { config with calls, resources, outcomes, fresh } := by
  cases follows with
  | waits => exact ⟨_, _, _, _, rfl⟩
  | keeps id call _ _ => exact ⟨_, _, _, _, rfl⟩
  | starts call _ _ => exact ⟨_, _, _, _, rfl⟩
  | settles id outcome resources _ =>
      rcases settle_frame config id outcome resources with ⟨outcomes, table, fresh, equal⟩
      rw [equal]
      exact ⟨_, _, _, _, rfl⟩
  | takes resource stream => exact ⟨_, _, _, _, rfl⟩

theorem connecting_frame (config : Config P) (id : Nat) (addr : EndpointAddr)
    (progress : Connecting × State P) :
    ∃ calls resources outcomes fresh, config.connecting id addr progress =
      { config with state := progress.2, calls, resources, outcomes, fresh } := by
  rcases progress with ⟨connecting, state⟩
  cases connecting with
  | failed error =>
      rcases settle_frame ({ config with state } : Config P) id (.connected (.error error))
        [] with ⟨outcomes, table, fresh, equal⟩
      exact ⟨_, _, _, _, equal⟩
  | suspended phase => exact ⟨_, _, _, _, rfl⟩

/-! ## Numbering -/

private theorem addResources_fresh (resources : List Resource) (config : Config P) :
    config.fresh ≤ (config.addResources resources).fresh := by
  induction resources generalizing config with
  | nil => exact Nat.le_refl _
  | cons resource rest induction =>
      have later := induction { config with
        resources := config.resources.set config.fresh resource
        fresh := config.fresh + 1 }
      exact Nat.le_trans (Nat.le_succ _) later

theorem addSessions_fresh (sessions : List Session) (config : Config P) :
    config.fresh ≤ (config.addSessions sessions).fresh := by
  induction sessions generalizing config with
  | nil => exact Nat.le_refl _
  | cons session rest induction =>
      have later := induction { config with
        sessions := config.sessions.set config.fresh session
        fresh := config.fresh + 1 }
      exact Nat.le_trans (Nat.le_succ _) later

theorem settle_fresh (config : Config P) (id : Nat) (outcome : Outcome)
    (resources : List Resource) :
    config.fresh ≤ (config.settle id outcome resources).fresh :=
  addResources_fresh resources { config with
    calls := config.calls.remove id
    outcomes := config.outcomes ++ [(id, outcome)] }

theorem Follows.fresh_le {target : Target} {config next : Config P}
    (follows : Follows target config next) : config.fresh ≤ next.fresh := by
  cases follows with
  | waits => exact Nat.le_refl _
  | keeps id call _ _ => exact Nat.le_refl _
  | starts call _ _ => exact Nat.le_succ _
  | settles id outcome resources _ => exact settle_fresh config id outcome resources
  | takes resource stream => exact Nat.le_succ _

theorem connecting_fresh (config : Config P) (id : Nat) (addr : EndpointAddr)
    (progress : Connecting × State P) :
    config.fresh ≤ (config.connecting id addr progress).fresh := by
  rcases progress with ⟨connecting, state⟩
  cases connecting with
  | failed error =>
      exact settle_fresh ({ config with state } : Config P) id (.connected (.error error)) []
  | suspended phase => exact Nat.le_refl _

theorem CallStep.fresh_le {opened : Bool} {config next : Config P}
    (step : CallStep opened config next) : config.fresh ≤ next.fresh := by
  cases step with
  | dialing id fresh addr peer claim keys more between progress _ _ _ later =>
      exact Nat.le_trans later
        (connecting_fresh ({ config with fresh } : Config P) id addr progress)
  | accessed target entry after next _ _ _ follows => exact follows.fresh_le
  | followed target next _ follows => exact follows.fresh_le
  | connected id addr peer target entry outcome _ _ _ =>
      exact settle_fresh (config.withConn target.handle entry) id outcome _
  | accepted id item rest outcome _ =>
      exact settle_fresh ({ config with
        state := { config.state with acceptQueue := rest } } : Config P) id outcome _
  | settled id outcome => exact settle_fresh config id outcome []
  | refused id fresh outcome later =>
      exact Nat.le_trans later
        (settle_fresh ({ config with fresh } : Config P) id outcome [])
  | waited => exact Nat.le_refl _
  | accepting => exact Nat.le_succ _
  | dropped resource => exact Nat.le_refl _
  | closed endpointLive reason => exact Nat.le_refl _

theorem connecting_calls (config : Config P) (id : Nat) (addr : EndpointAddr)
    (progress : Connecting × State P) {other : Nat} {call : Call}
    (found : (config.connecting id addr progress).calls.get? other = some call) :
    (other = id ∧ ∃ phase, progress.1 = .suspended phase ∧ call = .connect addr phase) ∨
    (other ≠ id ∧ config.calls.get? other = some call) := by
  rcases progress with ⟨connecting, state⟩
  cases connecting with
  | failed error =>
      change (config.calls.remove id).get? other = some call at found
      rw [Table.get?_remove] at found
      split at found
      · cases found
      · exact .inr ⟨‹_›, found⟩
  | suspended phase =>
      change (config.calls.set id (.connect addr phase)).get? other = some call at found
      rw [Table.get?_set] at found
      split at found
      · cases found
        exact .inl ⟨‹_›, phase, rfl, rfl⟩
      · exact .inr ⟨‹_›, found⟩

theorem connecting_other (config : Config P) (id : Nat) (addr : EndpointAddr)
    (progress : Connecting × State P) {other : Nat} (apart : other ≠ id) :
    (config.connecting id addr progress).calls.get? other = config.calls.get? other := by
  rcases progress with ⟨connecting, state⟩
  cases connecting with
  | failed error =>
      change (config.calls.remove id).get? other = _
      rw [Table.get?_remove, if_neg apart]
  | suspended phase =>
      change (config.calls.set id (.connect addr phase)).get? other = _
      rw [Table.get?_set, if_neg apart]

theorem connecting_own (config : Config P) (id : Nat) (addr : EndpointAddr)
    {progress : Connecting × State P} {phase : ConnectPhase}
    (suspended : progress.1 = .suspended phase) :
    (config.connecting id addr progress).calls.get? id = some (.connect addr phase) := by
  rcases progress with ⟨connecting, state⟩
  cases suspended
  change (config.calls.set id (.connect addr phase)).get? id = _
  rw [Table.get?_set, if_pos rfl]

/-! ## Calls -/

namespace CallStep

variable {opened : Bool} {config next : Config P}

/-- A call leaves the other tasks alone. -/
theorem frame (step : CallStep opened config next) :
    ∃ state endpointLive calls resources outcomes fresh, next =
      { config with state, endpointLive, calls, resources, outcomes, fresh } := by
  cases step with
  | dialing id fresh addr peer claim keys more between progress _ _ _ =>
      rcases connecting_frame ({ config with fresh } : Config P) id addr progress with
        ⟨_, _, _, _, equal⟩
      exact ⟨_, _, _, _, _, _, equal⟩
  | accessed target entry after next _ _ _ follows =>
      rcases follows.frame with ⟨_, _, _, _, equal⟩
      exact ⟨_, _, _, _, _, _, equal⟩
  | followed target next _ follows =>
      rcases follows.frame with ⟨_, _, _, _, equal⟩
      exact ⟨_, _, _, _, _, _, equal⟩
  | connected id addr peer target entry outcome _ _ _ =>
      rcases settle_frame (config.withConn target.handle entry) id outcome
        [.connection target (some addr)] with ⟨_, _, _, equal⟩
      exact ⟨_, _, _, _, _, _, equal⟩
  | accepted id item rest outcome _ =>
      rcases settle_frame ({ config with
        state := { config.state with acceptQueue := rest } } : Config P) id outcome
          [.connection item.target none] with ⟨_, _, _, equal⟩
      exact ⟨_, _, _, _, _, _, equal⟩
  | settled id outcome =>
      rcases settle_frame config id outcome [] with ⟨_, _, _, equal⟩
      exact ⟨_, _, _, _, _, _, equal⟩
  | refused id fresh outcome =>
      rcases settle_frame ({ config with fresh } : Config P) id outcome [] with
        ⟨_, _, _, equal⟩
      exact ⟨_, _, _, _, _, _, equal⟩
  | waited => exact ⟨_, _, _, _, _, _, rfl⟩
  | accepting => exact ⟨_, _, _, _, _, _, rfl⟩
  | dropped resource => exact ⟨_, _, _, _, _, _, rfl⟩
  | closed endpointLive reason => exact ⟨_, _, _, _, _, _, rfl⟩

theorem state (step : CallStep opened config next) :
    StateSteps (StateSteps.dialTask opened) config.state next.state := by
  cases step with
  | dialing id fresh addr peer claim keys more between progress _ resolution dialing =>
      rcases connecting_frame ({ config with fresh } : Config P) id addr progress with
        ⟨_, _, _, _, equal⟩
      rw [equal]
      exact (StateSteps.resolution resolution).trans
        (StateSteps.dialing (StateSteps.dialTask_calls opened) dialing)
  | accessed target entry after next _ found steps follows =>
      rcases follows.frame with ⟨_, _, _, _, rfl⟩
      exact StateSteps.setEntry found steps fun idle => by
        rw [StateSteps.dialTask_calls] at idle
        cases idle
  | followed target next _ follows =>
      rcases follows.frame with ⟨_, _, _, _, rfl⟩
      exact .refl
  | connected id addr peer target entry outcome _ found _ =>
      rcases settle_frame (config.withConn target.handle entry) id outcome
        [.connection target (some addr)] with ⟨_, _, _, equal⟩
      rw [equal]
      exact StateSteps.setEntry found .refl fun _ => ⟨.refl entry, rfl⟩
  | accepted id item rest outcome queue =>
      rcases settle_frame ({ config with
        state := { config.state with acceptQueue := rest } } : Config P) id outcome
          [.connection item.target none] with ⟨_, _, _, equal⟩
      rw [equal]
      exact StateSteps.single (.accepted item rest (StateSteps.dialTask_calls opened) queue)
  | settled id outcome =>
      rcases settle_frame config id outcome [] with ⟨_, _, _, equal⟩
      rw [equal]
  | refused id fresh outcome =>
      rcases settle_frame ({ config with fresh } : Config P) id outcome [] with
        ⟨_, _, _, equal⟩
      rw [equal]
  | waited => exact .refl
  | accepting => exact .refl
  | dropped resource => exact .refl
  | closed endpointLive reason =>
      exact StateSteps.single (.closed config.clock reason (StateSteps.dialTask_calls opened))

end CallStep

/-- The dials that are pending in `next` were pending before. -/
def Undialed (config next : Config P) : Prop :=
  ∀ id addr phase, next.calls.get? id = some (.connect addr phase) →
    config.calls.get? id = some (.connect addr phase)

namespace Undialed

variable {config next : Config P}

theorem removed {id : Nat} (calls : next.calls = config.calls.remove id) :
    config.Undialed next := by
  intro other addr phase found
  rw [calls, Table.get?_remove] at found
  split at found
  · cases found
  · exact found

theorem set {id : Nat} {call : Call} (dials : call.dials = false)
    (calls : next.calls = config.calls.set id call) : config.Undialed next := by
  intro other addr phase found
  rw [calls, Table.get?_set] at found
  split at found
  · cases found
    cases dials
  · exact found

theorem settle (config : Config P) (id : Nat) (outcome : Outcome)
    (resources : List Resource) :
    config.Undialed (config.settle id outcome resources) := by
  rcases settle_frame config id outcome resources with ⟨_, _, _, frame⟩
  exact removed (congrArg Config.calls frame)

theorem follows {target : Target} (follows : Follows target config next) :
    config.Undialed next := by
  cases follows with
  | waits => exact fun _ _ _ found => found
  | keeps id call _ dials => exact set dials rfl
  | starts call _ dials => exact set dials rfl
  | settles id outcome resources _ => exact settle config id outcome resources
  | takes resource stream => exact set rfl rfl

end Undialed

/-- A call dials, or it starts no dial and leaves the wires alone. -/
theorem CallStep.dials {opened : Bool} {config next : Config P}
    (step : CallStep opened config next) :
    (∃ id fresh addr peer claim keys more between progress,
      config.Dials id addr peer claim keys ∧
      Resolution opened claim config.state more between ∧
      Dialing peer (more ++ keys) between progress ∧
      next = ({ config with fresh } : Config P).connecting id addr progress) ∨
    (config.Undialed next ∧ ∃ conns acceptQueue closed closedAt,
      next.state = { config.state with conns, acceptQueue, closed, closedAt }) := by
  cases step with
  | dialing id fresh addr peer claim keys more between progress dials resolution dialing =>
      exact .inl ⟨id, fresh, addr, peer, claim, keys, more, between, progress, dials,
        resolution, dialing, rfl⟩
  | accessed target entry after next _ _ _ follows =>
      have undialed := Undialed.follows follows
      rcases follows.frame with ⟨_, _, _, _, rfl⟩
      exact .inr ⟨undialed, _, _, _, _, rfl⟩
  | followed target next _ follows =>
      have undialed := Undialed.follows follows
      rcases follows.frame with ⟨_, _, _, _, rfl⟩
      exact .inr ⟨undialed, _, _, _, _, rfl⟩
  | connected id addr peer target entry outcome _ _ _ =>
      exact .inr ⟨Undialed.settle (config.withConn target.handle entry) id outcome _, _, _, _,
        _, settle_state (config.withConn target.handle entry) id outcome _⟩
  | accepted id item rest outcome _ =>
      exact .inr ⟨Undialed.settle ({ config with
        state := { config.state with acceptQueue := rest } } : Config P) id outcome _, _, _, _,
        _, settle_state _ id outcome _⟩
  | settled id outcome =>
      exact .inr ⟨Undialed.settle config id outcome [], _, _, _, _,
        settle_state config id outcome []⟩
  | refused id fresh outcome =>
      exact .inr ⟨Undialed.settle ({ config with fresh } : Config P) id outcome [], _, _, _, _,
        settle_state _ id outcome []⟩
  | waited => exact .inr ⟨fun _ _ _ found => found, _, _, _, _, rfl⟩
  | accepting => exact .inr ⟨Undialed.set rfl rfl, _, _, _, _, rfl⟩
  | dropped resource => exact .inr ⟨fun _ _ _ found => found, _, _, _, _, rfl⟩
  | closed endpointLive reason =>
      rcases config.state.close_frame config.clock reason with ⟨_, _, frame⟩
      exact .inr ⟨fun _ _ _ found => found, _, _, _, _, frame⟩

/-! ## The pump -/

theorem handleSignal_steps (state : State P) (via : UInt32) (source : EndpointId)
    (payload : Bytes) :
    StateSteps .signal state (state.handleSignal via source payload).2 := by
  rw [State.handleSignal]
  split
  · exact .refl
  · dsimp only
    split
    · exact StateSteps.single (.signaled _ _ (.inl rfl))
    · exact StateSteps.single (.signaled _ _ (.inl rfl))

end Config

/-- The pump moves the state as a drain, as itself or filing a signal, and apart from
the answerer a signal may start it only spawns offerers. -/
inductive PumpMove (state : State P) (pumped : Pumped P) : Prop
  | drain : StateSteps .drain state pumped.1 → pumped.2.2 = [] → PumpMove state pumped
  | pump (task : Task) : task.pumps = true → StateSteps task state pumped.1 →
      (∀ session ∈ pumped.2.2, session.live = false) → PumpMove state pumped
  | signal (via : UInt32) (source : EndpointId) (payload : Bytes) :
      pumped.1 = (state.handleSignal via source payload).2 →
      pumped.2.2 = (state.handleSignal via source payload).1 → PumpMove state pumped

/-- The pump moved the state, and spawned no session that holds a slot. -/
inductive PumpQuiet (state : State P) (pumped : Pumped P) : Prop
  | drain : StateSteps .drain state pumped.1 → pumped.2.2 = [] → PumpQuiet state pumped
  | pump (task : Task) : task.pumps = true → StateSteps task state pumped.1 →
      (∀ session ∈ pumped.2.2, session.live = false) → PumpQuiet state pumped

/-- A step of the pump files an inbound signal or leaves signaling alone. -/
theorem PumpStep.hears {pump : Pump} {udp : Bool} {now : Instant}
    {state : State P} {pumped : Pumped P} (step : PumpStep pump udp now state pumped) :
    PumpQuiet state pumped ∨ (pump.phase = .selecting ∧ ∃ via source payload,
      pumped.1 = (state.handleSignal via source payload).2 ∧
      pumped.2.2 = (state.handleSignal via source payload).1) := by
  cases step with
  | relaySignal index key conn datagram selecting _ _ =>
      exact .inr ⟨selecting, key, datagram.source, _, rfl, rfl⟩
  | drained fuel order next _ drained => exact .inl (.drain (StateSteps.drain drained) rfl)
  | flushed phase relay sent channel _ _ relays udps channels =>
      exact .inl (.pump .flush rfl (.single (.popped _ _ _ rfl relays.1 udps channels)) (by simp))
  | armed _ =>
      refine .inl (.pump .arm rfl (.single (.armed rfl)) ?_)
      intro session member
      rcases List.mem_map.mp member with ⟨upgrade, _, rfl⟩
      rfl
  | relayDatagram index key conn datagram _ _ _ =>
      exact .inl (.pump .pump rfl (StateSteps.handleRelayDatagram _ _ _ _ _) (by simp))
  | relayLost index key conn _ _ foreign =>
      exact .inl (.pump .lost rfl (.single (.relayRemoved key conn rfl foreign)) (by simp))
  | died reason recvs _ _ =>
      exact .inl (.pump .lost rfl (.single (.markedDead reason rfl)) (by simp))
  | udpDatagram payload remote _ _ _ =>
      exact .inl (.pump .pump rfl (StateSteps.handleUdpDatagram _ _ _ _) (by simp))
  | channelMessage index id wire payload _ _ =>
      cases payload with
      | none => exact .inl (.pump .pump rfl .refl (by simp))
      | some datagram =>
          exact .inl (.pump .pump rfl (StateSteps.handleChannelDatagram _ _ _ _) (by simp))
  | channelLost index id wire _ _ =>
      exact .inl (.pump .lost rfl (.single (.channelDied id wire rfl)) (by simp))
  | ticked _ => exact .inl (.pump .pump rfl (.single (.timedOut now)) (by simp))
  | closedRelays _ =>
      have closed : StateStep .pump state _ := .wiresClosed state.relayPool.values []
      rw [List.append_nil] at closed
      exact .inl (.pump .pump rfl (.single closed) (by simp))
  | closedChannels _ =>
      have closed : StateStep .pump state _ :=
        .wiresClosed [] (state.channels.values.map ChannelEntry.wire)
      rw [List.append_nil] at closed
      exact .inl (.pump .pump rfl (.single closed) (by simp))
  | _ => exact .inl (.pump .pump rfl .refl (by simp))

theorem PumpStep.move {pump : Pump} {udp : Bool} {now : Instant}
    {state : State P} {pumped : Pumped P} (step : PumpStep pump udp now state pumped) :
    PumpMove state pumped := by
  rcases step.hears with quiet | ⟨_, via, source, payload, equal, spawned⟩
  · cases quiet with
    | drain steps none => exact .drain steps none
    | pump task own steps silent => exact .pump task own steps silent
  · exact .signal via source payload equal spawned

theorem PumpMove.state {state : State P} {pumped : Pumped P} (move : PumpMove state pumped) :
    ∃ task, StateSteps task state pumped.1 ∧ task ≠ .opened := by
  cases move with
  | drain steps _ => exact ⟨.drain, steps, by simp⟩
  | pump task own steps _ => exact ⟨task, steps, by rintro rfl; cases own⟩
  | signal via source payload equal _ =>
      exact ⟨.signal, equal ▸ Config.handleSignal_steps _ _ _ _, by simp⟩

/-! ## All tasks -/

namespace Config

inductive Move (opened : Bool) (config : Config P) : Config P → Prop
  | advanced (elapsed : Nat) : Move opened config
      { config with clock := config.clock + elapsed }
  | pumped (state : State P) (pump : Pump) (spawned : List Session) :
      PumpStep config.pump config.udp config.clock config.state (state, pump, spawned) →
      Move opened config (({ config with state, pump } : Config P).addSessions spawned)
  | resumed (id : Nat) (session after : Session) (registration : Option Registration)
      (state : State P) : config.pump.phase.awaits = true →
      config.sessions.get? id = some session →
      session.Resumes config.clock ⟨config.fresh⟩ config.state
        (after, registration, state) →
      Move opened config { config with
        state
        sessions := config.sessions.set id after
        registrations := config.registrations ++ registration.toList
        fresh := config.fresh + 1 }
  | called (next : Config P) : config.pump.phase.awaits = true →
      CallStep opened config next → Move opened config next

/-- The move a step makes, with the action that made it. -/
inductive Acts (config : Config P) : Action → Config P → Prop
  | advanced (elapsed : Nat) :
      Acts config (.advance elapsed) { config with clock := config.clock + elapsed }
  | pumped (input : PumpInput) (state : State P) (pump : Pump) (spawned : List Session) :
      config.pump.resume config.udp config.clock config.state input =
        .ok (state, pump, spawned) →
      Acts config (.pump input)
        (({ config with state, pump } : Config P).addSessions spawned)
  | resumed (id : Nat) (input : SessionInput) (session after : Session)
      (registration : Option Registration) (state : State P) :
      config.pump.phase.awaits = true → config.sessions.get? id = some session →
      session.resume config.clock ⟨config.fresh⟩ config.state input =
        .ok (after, registration, state) →
      Acts config (.session id input) { config with
        state
        sessions := config.sessions.set id after
        registrations := config.registrations ++ registration.toList
        fresh := config.fresh + 1 }
  | invoked (method : Method) (next : Config P) : config.pump.phase.awaits = true →
      config.invoke method = .ok next → Acts config (.invoke method) next
  | polled (id : Nat) (input : CallInput) (call : Call) (next : Config P) :
      config.pump.phase.awaits = true → config.calls.get? id = some call →
      config.resumeCall id call input = .ok next → Acts config (.resume id input) next

theorem step_acts {config next : Config P} {action : Action}
    (stepped : config.step action = .ok next) : Acts config action next := by
  cases action with
  | pump input =>
      rcases bind_eq_ok.mp stepped with ⟨⟨state, pump, spawned⟩, resumed, result⟩
      cases result
      exact .pumped input state pump spawned resumed
  | advance elapsed =>
      rw [step] at stepped
      split at stepped <;> cases stepped
      exact .advanced elapsed
  | session id input =>
      rw [step] at stepped
      split at stepped
      · cases stepped
      · rename_i awaits
        rw [stepSession] at stepped
        split at stepped
        · cases stepped
        · rename_i session found
          rcases bind_eq_ok.mp stepped with ⟨⟨after, registration, state⟩, resumed, result⟩
          cases result
          exact .resumed id input session after registration state (by simpa using awaits)
            found resumed
  | invoke method =>
      rw [step] at stepped
      split at stepped
      · cases stepped
      · rename_i awaits
        exact .invoked method next (by simpa using awaits) stepped
  | resume id input =>
      rw [step] at stepped
      split at stepped
      · cases stepped
      · rename_i awaits
        split at stepped
        · cases stepped
        · rename_i call pending
          exact .polled id input call next (by simpa using awaits) pending stepped

theorem step_move {config next : Config P} {action : Action}
    (stepped : config.step action = .ok next) : Move action.opens config next := by
  cases step_acts stepped with
  | advanced elapsed => exact .advanced elapsed
  | pumped input state pump spawned ran => exact .pumped state pump spawned (Pump.resume_step ran)
  | resumed id input session after registration state awaits found ran =>
      exact .resumed id session after registration state awaits found (Session.resumes ran)
  | invoked method next awaits ran => exact .called next awaits (invoke_step ran)
  | polled id input call next awaits pending ran =>
      exact .called next awaits (resumeCall_step pending ran)

theorem pumped_steps {config : Config P} {input : PumpInput} {state : State P} {pump : Pump}
    {spawned : List Session}
    (ran : config.pump.resume config.udp config.clock config.state input =
      .ok (state, pump, spawned)) :
    ∃ task : Task, task.calls = false ∧ StateSteps task config.state state := by
  cases (Pump.resume_step ran).move with
  | drain steps _ => exact ⟨.drain, rfl, steps⟩
  | pump task own steps _ =>
      refine ⟨task, ?_, steps⟩
      cases task <;> first | rfl | cases own
  | signal via source payload equal _ =>
      dsimp only at equal
      rw [equal]
      exact ⟨_, rfl, handleSignal_steps config.state via source payload⟩

theorem Move.state {opened : Bool} {config next : Config P}
    (move : Move opened config next) :
    ∃ task, StateSteps task config.state next.state ∧
      (task = .opened → opened = true) := by
  cases move with
  | advanced elapsed => exact ⟨.call, .refl, by simp⟩
  | pumped state pump spawned step =>
      rcases addSessions_frame spawned ({ config with state, pump } : Config P) with
        ⟨_, _, equal⟩
      rcases step.move.state with ⟨task, steps, unopened⟩
      rw [equal]
      exact ⟨task, steps, fun opened => absurd opened unopened⟩
  | resumed id session after registration state _ found resumes =>
      exact ⟨.session, StateSteps.resumes resumes, by simp⟩
  | called next _ step =>
      refine ⟨_, step.state, ?_⟩
      cases opened with
      | false => simp [StateSteps.dialTask]
      | true => simp

end Config

theorem reachable_state {config : Config P} (reached : (endpoint P).Reachable config)
    (Invariant : State P → Prop)
    (initially : ∀ noq webrtc relay,
      Invariant ((State.new noq webrtc).registerRelay relay ⟨0, relay⟩).2)
    (kept : ∀ task before after, StateStep task before after → Invariant before →
      Invariant after) : Invariant config.state := by
  apply reached.invariant (fun config : Config P => Invariant config.state)
  · rintro config ⟨noq, webrtc, udp, relay, clock, url, _, rfl⟩
    exact initially noq webrtc relay
  · intro config action next holds _ stepped
    rcases (Config.step_move stepped).state with ⟨task, steps, _⟩
    exact StateSteps.invariant steps Invariant (kept task) holds

end IrohEndpoint
