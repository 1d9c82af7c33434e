import IrohEndpoint.Channels
import IrohEndpoint.Connections

/-! # Shutdown

The endpoint is over once it is closed or dead. The pump then leaves its loop: at once
when it is dead, and when it is closed as soon as every connection is, or at the end of
the linger window. What is left is closed on the way out. -/

namespace IrohEndpoint

open Relation

variable {P : Platform}

/-! ## The flags -/

/-- Only the loss of a wire makes an endpoint dead, only a call closes it, and neither is
undone. Whether it signals at all is settled when it is bound. -/
theorem StateStep.flags {task : Task} {state next : State P}
    (step : StateStep task state next) :
    (task ≠ .lost → next.dead = state.dead) ∧
    (next.closed = state.closed ∨
      task.calls = true ∧ ∃ now reason, next = state.close now reason) ∧
    (state.isClosedOrDead = true → next.isClosedOrDead = true) ∧
    next.webrtcEnabled = state.webrtcEnabled := by
  have same : next.dead = state.dead → next.closed = state.closed →
      next.webrtcEnabled = state.webrtcEnabled → (task ≠ .lost → next.dead = state.dead) ∧
      (next.closed = state.closed ∨
        task.calls = true ∧ ∃ now reason, next = state.close now reason) ∧
      (state.isClosedOrDead = true → next.isClosedOrDead = true) ∧
      next.webrtcEnabled = state.webrtcEnabled := by
    intro dead closed enabled
    refine ⟨fun _ => dead, .inl closed, ?_, enabled⟩
    rw [State.isClosedOrDead, State.isClosedOrDead, dead, closed]
    exact id
  cases step with
  | markedDead reason lost =>
      exact ⟨fun other => absurd lost other, .inl rfl,
        fun _ => by simp [State.isClosedOrDead, State.markDead], rfl⟩
  | closed now reason calls =>
      rcases state.close_frame now reason with ⟨_, _, frame⟩
      refine ⟨?_, .inr ⟨calls, now, reason, rfl⟩, ?_, ?_⟩ <;> rw [frame]
      · exact fun _ => rfl
      · exact fun _ => by simp [State.isClosedOrDead]
  | responded addr source payload =>
      rcases state.pushResponse_frame addr source payload with ⟨_, _, _, frame⟩
      exact same (by rw [frame]) (by rw [frame]) (by rw [frame])
  | sighted peer via =>
      rcases state.addrForPeer_frame peer via with ⟨_, _, _, _, frame⟩
      exact same (by rw [frame]) (by rw [frame]) (by rw [frame])
  | dialed peer key =>
      rcases state.dialStandin_frame peer key with ⟨_, _, _, _, frame⟩
      exact same (by rw [frame]) (by rw [frame]) (by rw [frame])
  | channelRegistered peer wire _ =>
      rcases state.registerChannel_frame peer wire with ⟨_, _, _, _, _, _, _, _, _, frame⟩
      exact same (by rw [frame]) (by rw [frame]) (by rw [frame])
  | channelDied id wire _ =>
      rcases state.channelDied_frame id wire with ⟨_, _, frame⟩
      exact same (by rw [frame]) (by rw [frame]) (by rw [frame])
  | _ => exact same rfl rfl rfl

theorem StateSteps.flags {task : Task} {state next : State P}
    (steps : StateSteps task state next) :
    (task ≠ .lost → next.dead = state.dead) ∧
    (task.calls = false → next.closed = state.closed) ∧
    (state.isClosedOrDead = true → next.isClosedOrDead = true) ∧
    next.webrtcEnabled = state.webrtcEnabled := by
  induction steps with
  | refl => exact ⟨fun _ => rfl, fun _ => rfl, id, rfl⟩
  | tail _ step induction =>
      rcases step.flags with ⟨dead, closed, halted, enabled⟩
      refine ⟨fun other => (dead other).trans (induction.1 other), ?_,
        fun before => halted (induction.2.2.1 before), enabled.trans induction.2.2.2⟩
      intro idle
      rcases closed with same | ⟨calls, _⟩
      · exact same.trans (induction.2.1 idle)
      · rw [idle] at calls
        cases calls

/-! ## Leaving the loop -/

/-- What one step of the pump has to do with leaving its loop. -/
inductive PumpLeaves (pump : Pump) (now : Instant) (state : State P) (pumped : Pumped P) : Prop
  | stays : pump.phase.leaving = false → pumped.2.1.phase.leaving = false →
      pumped.1.dead = state.dead → pumped.1.closed = state.closed →
      PumpLeaves pump now state pumped
  | exits : pump.phase = .checking → state.pumpExits now = true → pumped.1 = state →
      pumped.2.1.phase = .closingRelays → PumpLeaves pump now state pumped
  | dies (reason : String) : pump.phase.leaving = false →
      pumped.1 = state.markDead reason → pumped.2.1.phase = .closingRelays →
      PumpLeaves pump now state pumped
  | left (relays : List RelayConn) (channels : List ChannelWire) :
      pump.phase.leaving = true → pumped.2.1.phase.leaving = true →
      pumped.1 = { state with history := { state.history with
        closedRelays := state.history.closedRelays ++ relays
        closedChannels := state.history.closedChannels ++ channels } } →
      PumpLeaves pump now state pumped

private theorem PumpPhase.flushes_not_leaving {phase : PumpPhase} (flushes : phase.flushes = true) :
    phase.leaving = false := by
  cases phase <;> first | rfl | cases flushes

theorem PumpStep.leaves {pump : Pump} {udp : Bool} {now : Instant} {state : State P}
    {pumped : Pumped P} (step : PumpStep pump udp now state pumped) :
    PumpLeaves pump now state pumped := by
  have loops : ∀ {phase : PumpPhase}, pump.phase = phase → phase.leaving = false →
      pump.phase.leaving = false := by
    rintro phase rfl
    exact id
  have stays : ∀ {task : Task}, StateSteps task state pumped.1 → task ≠ .lost →
      task.calls = false → pump.phase.leaving = false →
      pumped.2.1.phase.leaving = false → PumpLeaves pump now state pumped := by
    intro task steps other silent before after
    rcases StateSteps.flags steps with ⟨dead, closed, _⟩
    exact .stays before after (dead other) (closed silent)
  have done : ∀ {phase : PumpPhase}, pump.phase = phase → phase.leaving = true →
      pumped.2.1.phase.leaving = true → pumped.1 = state →
      PumpLeaves pump now state pumped := by
    rintro phase rfl before after same
    refine .left [] [] before after ?_
    rw [same, List.append_nil, List.append_nil]
  cases step with
  | drained fuel order next phase drained =>
      exact stays (StateSteps.drain drained) (by simp) rfl (loops phase rfl) rfl
  | flushed phase relay sent channel flushes after _ _ _ =>
      refine .stays (PumpPhase.flushes_not_leaving flushes) ?_ rfl rfl
      rcases after with flushing | rfl
      · exact PumpPhase.flushes_not_leaving flushing
      · rfl
  | armed phase => exact .stays (loops phase rfl) rfl rfl rfl
  | stayed phase _ => exact .stays (loops phase rfl) rfl rfl rfl
  | exited phase exits => exact .exits phase exits rfl rfl
  | relayDatagram index key conn datagram phase _ _ =>
      exact stays (StateSteps.handleRelayDatagram _ _ _ _ _) (by simp) rfl (loops phase rfl) rfl
  | relaySignal index key conn datagram phase _ _ =>
      exact stays (Config.handleSignal_steps _ _ _ _) (by simp) rfl (loops phase rfl) rfl
  | relayLost index key conn phase _ _ => exact .stays (loops phase rfl) rfl rfl rfl
  | died reason recvs before _ => exact .dies reason before rfl rfl
  | udpDatagram payload remote phase _ _ =>
      exact stays (StateSteps.handleUdpDatagram _ _ _ _) (by simp) rfl (loops phase rfl) rfl
  | udpLost phase => exact .stays (loops phase rfl) rfl rfl rfl
  | channelMessage index id wire payload phase _ =>
      cases payload with
      | none => exact .stays (loops phase rfl) rfl rfl rfl
      | some datagram =>
          exact stays (StateSteps.handleChannelDatagram _ _ _ _) (by simp) rfl
            (loops phase rfl) rfl
  | channelLost index id wire phase _ =>
      rcases state.channelDied_frame id wire with ⟨_, _, frame⟩
      refine .stays (loops phase rfl) rfl ?_ ?_ <;> dsimp only <;> rw [frame]
  | ticked phase => exact .stays (loops phase rfl) rfl rfl rfl
  | closedRelays phase =>
      refine .left state.relayPool.values [] (by rw [phase]; rfl) ?_ ?_
      · cases udp <;> rfl
      · rw [List.append_nil]
  | woken phase => exact done phase rfl rfl rfl
  | closedChannels phase =>
      refine .left [] (state.channels.values.map ChannelEntry.wire) (by rw [phase]; rfl) rfl ?_
      rw [List.append_nil]
  | joined relays channels recv phase _ _ =>
      refine done phase rfl ?_ rfl
      dsimp only
      rw [phase]
      rfl
  | finished phase _ _ => exact done phase rfl rfl rfl

/-- A dead endpoint's pump has left its loop, and a pump that has left leaves an endpoint
that is over. -/
structure Leaving (config : Config P) : Prop where
  dead : config.state.dead.isSome = true → config.pump.phase.leaving = true
  halted : config.pump.phase.leaving = true → config.state.isClosedOrDead = true

theorem Leaving.moved {config next : Config P} (leaving : Leaving config) {task : Task}
    (steps : StateSteps task config.state next.state) (other : task ≠ .lost)
    (pump : next.pump = config.pump) : Leaving next := by
  rcases StateSteps.flags steps with ⟨dead, _, halted, _⟩
  refine ⟨?_, ?_⟩
  · rw [dead other, pump]
    exact leaving.dead
  · rw [pump]
    exact fun left => halted (leaving.halted left)

theorem Leaving.pumped {config : Config P} (leaving : Leaving config) {state : State P}
    {pump : Pump} {spawned : List Session}
    (step : PumpLeaves config.pump config.clock config.state (state, pump, spawned)) :
    Leaving ({ config with state, pump } : Config P) := by
  cases step with
  | stays before after dead closed =>
      dsimp only at after dead closed
      refine ⟨?_, ?_⟩
      · intro died
        dsimp only at died
        rw [dead] at died
        rw [leaving.dead died] at before
        cases before
      · intro left
        dsimp only at left
        rw [after] at left
        cases left
  | exits phase exits same closing =>
      dsimp only at same closing
      subst same
      have gone : pump.phase.leaving = true := by rw [closing]; rfl
      refine ⟨fun _ => gone, fun _ => ?_⟩
      dsimp only
      simp only [State.pumpExits, State.isClosedOrDead, Bool.or_eq_true, Bool.and_eq_true]
        at exits ⊢
      exact exits.symm.imp_left And.left
  | dies reason before same closing =>
      dsimp only at same closing
      subst same
      have gone : pump.phase.leaving = true := by rw [closing]; rfl
      exact ⟨fun _ => gone, fun _ => by simp [State.isClosedOrDead, State.markDead]⟩
  | left relays channels before after same =>
      dsimp only at after same
      subst same
      exact ⟨fun _ => after, fun _ => leaving.halted before⟩

theorem Leaving.step {config next : Config P} {action : Action} (leaving : Leaving config)
    (stepped : (endpoint P).step config action = .ok next) : Leaving next := by
  cases Config.step_move stepped with
  | advanced elapsed => exact ⟨leaving.dead, leaving.halted⟩
  | pumped state pump spawned step =>
      rcases Config.addSessions_frame spawned ({ config with state, pump } : Config P) with
        ⟨_, _, frame⟩
      rw [frame]
      have moved := leaving.pumped step.leaves
      exact ⟨moved.dead, moved.halted⟩
  | resumed id session after registration state _ found resumes =>
      exact leaving.moved (StateSteps.resumes resumes) (by simp) rfl
  | called next _ step =>
      have steps := step.state
      rcases step.frame with ⟨state, _, _, _, _, _, rfl⟩
      exact leaving.moved steps (dialTask_ne_lost _) rfl

theorem Leaving.initially {config : Config P} (initial : (endpoint P).Initial config) :
    Leaving config := by
  rcases initial with ⟨noq, webrtc, udp, relay, clock, url, _, rfl⟩
  refine ⟨?_, ?_⟩ <;> simp [Config.bind, State.registerRelay, State.new, PumpPhase.leaving]

theorem reachable_leaving {config : Config P} (reached : (endpoint P).Reachable config) :
    Leaving config :=
  reached.invariant Leaving (fun _ => Leaving.initially)
    (fun _ _ _ leaving _ stepped => leaving.step stepped)

/-! ## No new connections -/

/-- An endpoint that is over takes no connection: the pump accepts none once it is
closed, and a dial fails. -/
private theorem StateStep.conns_over {task : Task} {state next : State P}
    (step : StateStep task state next) (halted : state.isClosedOrDead = true)
    (pumped : task = .pump → state.closed = true) {handle : ConnectionHandle}
    {after : ConnEntry P} (found : next.conns.get? handle = some after) :
    ∃ entry, state.conns.get? handle = some entry ∧ EntrySteps entry after := by
  cases step.conns with
  | moved related _ => exact rel_some_right (found ▸ related handle)
  | inserted new conn expectedPeer acceptedSide origin admits open_ _ =>
      have other : task ≠ .pump := by
        intro pump
        rw [pumped pump] at open_
        cases open_
      cases admits with
      | dialed peer _ alive => simp [State.isClosedOrDead, open_, alive] at halted
      | relay via source pump => exact absurd pump other
      | channel id entry pump _ => exact absurd pump other
      | udp remote pump => exact absurd pump other

private theorem StateSteps.closed_kept {task : Task} {state next : State P}
    (steps : StateSteps task state next) (pumped : task = .pump → state.closed = true) :
    task = .pump → next.closed = true := by
  rintro rfl
  rw [(StateSteps.flags steps).2.1 rfl]
  exact pumped rfl

private theorem StateSteps.conns_over {task : Task} {state next : State P}
    (steps : StateSteps task state next) (halted : state.isClosedOrDead = true)
    (pumped : task = .pump → state.closed = true) {handle : ConnectionHandle}
    {after : ConnEntry P} (found : next.conns.get? handle = some after) :
    ∃ entry, state.conns.get? handle = some entry ∧ EntrySteps entry after := by
  induction steps generalizing after with
  | refl => exact ⟨after, found, .refl⟩
  | tail before step induction =>
      have still := (StateSteps.flags before).2.2.1 halted
      rcases step.conns_over still (StateSteps.closed_kept before pumped) found with
        ⟨entry, lookup, steps⟩
      rcases induction lookup with ⟨first, start, earlier⟩
      exact ⟨first, start, earlier.trans steps⟩

/-! ## Nothing half-open -/

/-- The linger window does not end the loop while a connection is still closing. -/
def DrainsInTime (config : Config P) (_ : Action) : Prop :=
  config.pump.phase = .checking → config.state.closed = true →
    config.state.lingered config.clock = true → config.state.allDrained = true

instance (config : Config P) (action : Action) : Decidable (DrainsInTime config action) :=
  inferInstanceAs (Decidable (_ → _ → _ → _))

def State.AllClosed (state : State P) : Prop :=
  ∀ handle entry, state.conns.get? handle = some entry → entry.isClosed = true

private theorem State.allClosed_of_allDrained {state : State P}
    (drained : state.allDrained = true) :
    state.AllClosed := by
  intro handle entry found
  exact List.all_eq_true.mp drained entry ((state.conns.mem_values entry).mpr ⟨handle, found⟩)

private theorem State.markDead_allClosed (state : State P) (reason : String) :
    (state.markDead reason).AllClosed := by
  intro handle entry found
  rw [State.markDead, Table.get?_mapValues, Option.map_eq_some_iff] at found
  rcases found with ⟨before, _, rfl⟩
  split
  · simp [ConnEntry.isClosed]
  · rename_i failed
    simp only [Option.isNone_iff_eq_none, ← Option.isSome_iff_ne_none] at failed
    simp [ConnEntry.isClosed, failed]

theorem State.AllClosed.steps {task : Task} {state next : State P} (closed : state.AllClosed)
    (steps : StateSteps task state next) (halted : state.isClosedOrDead = true)
    (other : task ≠ .pump) : next.AllClosed := by
  intro handle after found
  rcases StateSteps.conns_over steps halted (fun pump => absurd pump other) found with
    ⟨entry, lookup, moved⟩
  exact moved.evolves.isClosed (closed handle entry lookup)

private theorem dialTask_ne_pump (opened : Bool) : StateSteps.dialTask opened ≠ .pump := by
  cases opened <;> simp [StateSteps.dialTask]

private theorem reaches_allClosed {config : Config P}
    (reached : (endpoint P).Reaches DrainsInTime config) :
    config.pump.phase.leaving = true → config.state.AllClosed := by
  apply reached.induction (fun config : Config P =>
    config.pump.phase.leaving = true → config.state.AllClosed)
  · rintro config ⟨noq, webrtc, udp, relay, clock, url, _, rfl⟩ left
    cases left
  · intro config action next reachable closed timely stepped
    have leaving := reachable_leaving reachable
    cases Config.step_move stepped with
    | advanced elapsed => exact closed
    | pumped state pump spawned step =>
        rcases Config.addSessions_frame spawned ({ config with state, pump } : Config P) with
          ⟨_, _, frame⟩
        rw [frame]
        intro left
        dsimp only at left ⊢
        cases step.leaves with
        | stays _ after _ _ =>
            dsimp only at after
            rw [after] at left
            cases left
        | exits phase exits same _ =>
            dsimp only at same
            subst same
            have alive : config.state.dead.isSome = false := by
              rw [Bool.eq_false_iff]
              intro dead
              have gone := leaving.dead dead
              rw [phase] at gone
              cases gone
            simp only [State.pumpExits, alive, Bool.false_or, Bool.and_eq_true,
              Bool.or_eq_true] at exits
            rcases exits with ⟨shut, drained | lingered⟩
            · exact State.allClosed_of_allDrained drained
            · exact State.allClosed_of_allDrained (timely phase shut lingered)
        | dies reason _ same _ =>
            dsimp only at same
            subst same
            exact State.markDead_allClosed _ reason
        | left relays channels before _ same =>
            dsimp only at same
            subst same
            exact closed before
    | resumed id session after registration state _ found resumes =>
        intro left
        exact (closed left).steps (StateSteps.resumes resumes) (leaving.halted left) (by simp)
    | called next _ step =>
        have steps := step.state
        rcases step.frame with ⟨state, _, _, _, _, _, rfl⟩
        intro left
        exact (closed left).steps steps (leaving.halted left) (dialTask_ne_pump _)

/-- In runs in which the linger window ends the loop only when every connection is
drained, a terminated pump leaves no connection half-open. -/
theorem pump_leaves_all_closed {config : Config P}
    (reached : (endpoint P).Reaches DrainsInTime config)
    (terminated : config.pump.phase = .terminated) :
    ∀ handle entry, config.state.conns.get? handle = some entry →
      (entry.drained = true ∨ entry.error.isSome = true) ∧
      entry.connectionState = .closed ∧ entry.waitClosedCheck = some () := by
  intro handle entry found
  have closed := reaches_allClosed reached (by rw [terminated]; rfl) handle entry found
  refine ⟨by simpa [ConnEntry.isClosed] using closed, entry.connectionState_closed.mpr closed,
    ?_⟩
  rw [ConnEntry.waitClosedCheck]
  exact if_pos closed

def closedEndpoint : List Action :=
  List.flatten [Slab.turn [] 0, [Slab.hello 0 7], Slab.turn [0] 1, [.invoke .closeEndpoint]]

def lastTurn : List Action :=
  List.flatten [Slab.turn [0] 1, [.pump (.run 10 []), .pump (.run 10 []),
    .pump (.relayEvent 0 (.error "closed")), .pump (.run 10 [])]]

theorem pump_leaves_all_closed_drained :
    ∃ config : Config Slab.platform,
      (endpoint Slab.platform).Reaches DrainsInTime config ∧
      config.pump.phase = .terminated ∧
      ∃ entry, config.state.conns.get? 0 = some entry ∧ entry.connectionState = .closed := by
  have passed : (endpoint Slab.platform).runs (fun config action =>
      decide (DrainsInTime config action)) (Slab.bound true false)
      (List.flatten [closedEndpoint, [.pump .tick], lastTurn])
      (fun config => decide (config.pump.phase = .terminated) &&
        (config.state.conns.get? 0).isSome) = true := by decide +kernel
  rcases System.ReachesFrom.of_runs (fun _ _ => of_decide_eq_true) _ passed with
    ⟨config, path, tested⟩
  simp only [Bool.and_eq_true, decide_eq_true_eq, Option.isSome_iff_exists] at tested
  rcases tested with ⟨terminated, entry, found⟩
  have reached : (endpoint Slab.platform).Reaches DrainsInTime config :=
    ⟨_, Slab.bound_initial true false, path⟩
  exact ⟨config, reached, terminated, entry, found,
    (pump_leaves_all_closed reached terminated 0 entry found).2.1⟩

/-- The window ends first: the pump terminates with the connection still open. -/
theorem pump_leaves_all_closed_lingered :
    ∃ config : Config Slab.platform, (endpoint Slab.platform).Reachable config ∧
      config.pump.phase = .terminated ∧
      ∃ entry, config.state.conns.get? 0 = some entry ∧ entry.drained = false ∧
        entry.error = none ∧ entry.connectionState = .open ∧
        entry.waitClosedCheck = none := by
  have passed : (endpoint Slab.platform).runs (fun _ _ => true) (Slab.bound true false)
      (List.flatten [closedEndpoint,
        [.advance linger, .pump (.relayEvent 0 (.ok ⟨Slab.peer 7, [9]⟩))], lastTurn])
      (fun config => decide (config.pump.phase = .terminated) &&
        (config.state.conns.get? 0).any fun entry =>
          decide (entry.drained = false ∧ entry.error = none ∧
            entry.connectionState = .open ∧ entry.waitClosedCheck = none)) = true := by
    decide +kernel
  rcases System.Reachable.of_runs (Slab.bound_initial true false) passed with
    ⟨config, reached, tested⟩
  simp only [Bool.and_eq_true, Option.any_eq_true, decide_eq_true_eq] at tested
  exact ⟨config, reached, tested⟩

/-! ## Nothing new -/

/-- From one state of an endpoint that is over to a later one: nothing is added, and what
was closed or retired stays so. -/
structure WindsDown (state next : State P) : Prop where
  conns : ∀ handle after, next.conns.get? handle = some after →
    ∃ entry, state.conns.get? handle = some entry ∧ EntrySteps entry after
  channels : ∀ id entry, next.channels.get? id = some entry →
    state.channels.get? id = some entry
  newChannels : next.newChannels ⊆ state.newChannels
  relayPool : ∀ key conn, next.relayPool.get? key = some conn →
    state.relayPool.get? key = some conn
  newRelays : next.newRelays ⊆ state.newRelays
  relays : next.history.relays = state.history.relays
  registered : next.history.channels = state.history.channels
  retiredRelays : state.history.retiredRelays ⊆ next.history.retiredRelays
  closedRelays : state.history.closedRelays ⊆ next.history.closedRelays
  retiredChannels : state.history.retiredChannels ⊆ next.history.retiredChannels
  closedChannels : state.history.closedChannels ⊆ next.history.closedChannels

namespace WindsDown

variable {state next : State P}

theorem refl (state : State P) : WindsDown state state :=
  ⟨fun _ entry found => ⟨entry, found, .refl⟩, fun _ _ found => found, List.Subset.refl _,
    fun _ _ found => found, List.Subset.refl _, rfl, rfl, List.Subset.refl _,
    List.Subset.refl _, List.Subset.refl _, List.Subset.refl _⟩

theorem trans {last : State P} (front : WindsDown state next) (back : WindsDown next last) :
    WindsDown state last where
  conns := by
    intro handle after found
    rcases back.conns handle after found with ⟨middle, lookup, late⟩
    rcases front.conns handle middle lookup with ⟨entry, start, early⟩
    exact ⟨entry, start, early.trans late⟩
  channels id entry found := front.channels id entry (back.channels id entry found)
  newChannels := List.Subset.trans back.newChannels front.newChannels
  relayPool key conn found := front.relayPool key conn (back.relayPool key conn found)
  newRelays := List.Subset.trans back.newRelays front.newRelays
  relays := back.relays.trans front.relays
  registered := back.registered.trans front.registered
  retiredRelays := List.Subset.trans front.retiredRelays back.retiredRelays
  closedRelays := List.Subset.trans front.closedRelays back.closedRelays
  retiredChannels := List.Subset.trans front.retiredChannels back.retiredChannels
  closedChannels := List.Subset.trans front.closedChannels back.closedChannels

private theorem of_conns (conns : ∀ handle after, next.conns.get? handle = some after →
      ∃ entry, state.conns.get? handle = some entry ∧ EntrySteps entry after)
    (wires : next.channels = state.channels ∧ next.newChannels = state.newChannels ∧
      next.pool = state.pool)
    (history : next.history.channels = state.history.channels ∧
      next.history.closedRelays = state.history.closedRelays ∧
      next.history.retiredChannels = state.history.retiredChannels ∧
      next.history.closedChannels = state.history.closedChannels) :
    WindsDown state next := by
  rcases wires with ⟨channels, newChannels, pool⟩
  rcases history with ⟨registered, closedRelays, retiredChannels, closedChannels⟩
  simp only [State.pool, Prod.mk.injEq] at pool
  rcases pool with ⟨relayPool, _, newRelays, _, relays, retiredRelays, _⟩
  refine ⟨conns, ?_, ?_, ?_, ?_, relays, registered, ?_, ?_, ?_, ?_⟩
  · rw [channels]
    exact fun _ _ found => found
  · rw [newChannels]
    exact List.Subset.refl _
  · rw [relayPool]
    exact fun _ _ found => found
  · rw [newRelays]
    exact List.Subset.refl _
  · rw [retiredRelays]
    exact List.Subset.refl _
  · rw [closedRelays]
    exact List.Subset.refl _
  · rw [retiredChannels]
    exact List.Subset.refl _
  · rw [closedChannels]
    exact List.Subset.refl _

theorem step {task : Task} (step : StateStep task state next)
    (halted : state.isClosedOrDead = true) (pumped : task = .pump → state.closed = true)
    (unopened : task ≠ .opened) : WindsDown state next := by
  have conns : ∀ handle after, next.conns.get? handle = some after →
      ∃ entry, state.conns.get? handle = some entry ∧ EntrySteps entry after :=
    fun _ _ => step.conns_over halted pumped
  have same := refl state
  cases step with
  | closed now reason _ =>
      rcases state.close_frame now reason with ⟨_, _, frame⟩
      rw [frame] at conns ⊢
      exact of_conns conns ⟨rfl, rfl, rfl⟩ ⟨rfl, rfl, rfl, rfl⟩
  | responded addr source payload =>
      rcases state.pushResponse_frame addr source payload with ⟨_, _, _, frame⟩
      rw [frame] at conns ⊢
      exact of_conns conns ⟨rfl, rfl, rfl⟩ ⟨rfl, rfl, rfl, rfl⟩
  | sighted peer via =>
      rcases state.addrForPeer_frame peer via with ⟨_, _, _, _, frame⟩
      rw [frame] at conns ⊢
      exact of_conns conns ⟨rfl, rfl, rfl⟩ ⟨rfl, rfl, rfl, rfl⟩
  | dialed peer key =>
      rcases state.dialStandin_frame peer key with ⟨_, _, _, _, frame⟩
      rw [frame] at conns ⊢
      exact of_conns conns ⟨rfl, rfl, rfl⟩ ⟨rfl, rfl, rfl, rfl⟩
  | channelRegistered peer wire _ =>
      rcases registerChannel_cases state peer wire with ⟨_, refused⟩ | ⟨_, alive, _, _⟩
      · rw [refused] at conns ⊢
        exact { same with conns, closedChannels := List.subset_append_left _ _ }
      · rw [halted] at alive
        cases alive
  | channelDied id wire _ =>
      have shrunk := state.retireChannel_channels id
      rcases state.retireChannel_frame id with ⟨_, _, frame⟩
      rw [State.channelDied] at conns ⊢
      rw [frame] at shrunk conns ⊢
      exact { same with
        conns, channels := shrunk, retiredChannels := List.subset_append_left _ _ }
  | relayRegistered url conn opened _ => exact absurd opened unopened
  | relayRemoved key conn _ _ =>
      refine { same with conns, relayPool := ?_, retiredRelays := List.subset_append_left _ _ }
      intro other stored found
      rw [State.removeRelay, Table.get?_remove] at found
      split at found
      · cases found
      · exact found
  | armed _ =>
      exact { same with
        conns, newRelays := List.nil_subset _, newChannels := List.nil_subset _ }
  | wiresClosed relays channels =>
      exact { same with
        conns
        closedRelays := List.subset_append_left _ _
        closedChannels := List.subset_append_left _ _ }
  | ensured url key _ _ => exact { same with conns }
  | _ => exact of_conns conns ⟨rfl, rfl, rfl⟩ ⟨rfl, rfl, rfl, rfl⟩

theorem steps {task : Task} (steps : StateSteps task state next)
    (halted : state.isClosedOrDead = true) (pumped : task = .pump → state.closed = true)
    (unopened : task ≠ .opened) : WindsDown state next := by
  induction steps with
  | refl => exact refl state
  | tail before last induction =>
      exact induction.trans (step last ((StateSteps.flags before).2.2.1 halted)
        (StateSteps.closed_kept before pumped) unopened)

end WindsDown

/-- No open of a relay succeeds once the endpoint is over. -/
def OpensInTime (config : Config P) (action : Action) : Prop :=
  action.opens = true → config.state.isClosedOrDead = false

instance (config : Config P) (action : Action) : Decidable (OpensInTime config action) :=
  inferInstanceAs (Decidable (_ → _))

/-- Every step of an endpoint that is over winds it down. -/
theorem WindsDown.moves {config next : Config P} {action : Action}
    (leaving : Leaving config) (timely : OpensInTime config action)
    (halted : config.state.isClosedOrDead = true)
    (stepped : (endpoint P).step config action = .ok next) :
    WindsDown config.state next.state := by
  cases Config.step_move stepped with
  | advanced elapsed => exact refl _
  | pumped state pump spawned step =>
      rcases Config.addSessions_frame spawned ({ config with state, pump } : Config P) with
        ⟨_, _, frame⟩
      rw [frame]
      dsimp only
      by_cases left : config.pump.phase.leaving = true
      · cases step.leaves with
        | stays before _ _ _ =>
            rw [left] at before
            cases before
        | exits _ _ same _ =>
            dsimp only at same
            rw [same]
            exact refl _
        | dies reason before _ _ =>
            rw [left] at before
            cases before
        | left relays channels _ _ same =>
            dsimp only at same
            rw [same]
            exact { refl config.state with
              closedRelays := List.subset_append_left _ _
              closedChannels := List.subset_append_left _ _ }
      · -- the pump is in its loop, so the endpoint is closed and not dead
        have closed : config.state.closed = true := by
          rcases Bool.or_eq_true _ _ ▸ halted with closed | dead
          · exact closed
          · exact absurd (leaving.dead dead) left
        cases step.move with
        | drain moved _ => exact steps moved halted (fun _ => closed) (by simp)
        | pump task own moved _ =>
            exact steps moved halted (fun _ => closed) (by rintro rfl; cases own)
        | signal via source payload equal _ =>
            dsimp only at equal
            rw [equal]
            exact steps (Config.handleSignal_steps _ _ _ _) halted (fun _ => closed) (by simp)
  | resumed id session after registration state _ found resumes =>
      exact steps (StateSteps.resumes resumes) halted (by simp) (by simp)
  | called next _ step =>
      refine steps step.state halted (fun pump => absurd pump (dialTask_ne_pump _)) ?_
      intro opened
      cases opens : action.opens with
      | true =>
          rw [timely opens] at halted
          cases halted
      | false =>
          rw [opens] at opened
          cases opened

/-! ## Every wire is closed -/

namespace PumpPhase

def relaysClosed : PumpPhase → Bool
  | .wakingUdp | .closingChannels | .joining | .terminated => true
  | _ => false

def channelsClosed : PumpPhase → Bool
  | .joining | .terminated => true
  | _ => false

private theorem relaysClosed_leaving {phase : PumpPhase} (closed : phase.relaysClosed = true) :
    phase.leaving = true := by
  cases phase <;> first | rfl | cases closed

private theorem channelsClosed_leaving {phase : PumpPhase} (closed : phase.channelsClosed = true) :
    phase.leaving = true := by
  cases phase <;> first | rfl | cases closed

end PumpPhase

private theorem PumpStep.closesRelays {pump : Pump} {udp : Bool} {now : Instant} {state : State P}
    {pumped : Pumped P} (step : PumpStep pump udp now state pumped)
    (before : pump.phase.relaysClosed = false)
    (after : pumped.2.1.phase.relaysClosed = true) :
    pumped.1 = { state with history := { state.history with
      closedRelays := state.history.closedRelays ++ state.relayPool.values } } := by
  cases step with
  | closedRelays _ => rfl
  | flushed phase relay sent channel _ flushes _ _ _ =>
      dsimp only [Pump.moveTo] at after
      have left := PumpPhase.relaysClosed_leaving after
      rcases flushes with flushing | rfl
      · rw [PumpPhase.flushes_not_leaving flushing] at left
        cases left
      · cases after
  | woken phase =>
      rw [phase] at before
      cases before
  | closedChannels phase =>
      rw [phase] at before
      cases before
  | joined relays channels recv phase _ _ =>
      rw [phase] at before
      cases before
  | finished phase _ _ =>
      rw [phase] at before
      cases before
  | _ => cases after

private theorem PumpStep.closesChannels {pump : Pump} {udp : Bool} {now : Instant} {state : State P}
    {pumped : Pumped P} (step : PumpStep pump udp now state pumped)
    (before : pump.phase.channelsClosed = false)
    (after : pumped.2.1.phase.channelsClosed = true) :
    pumped.1 = { state with history := { state.history with
      closedChannels := state.history.closedChannels ++
        state.channels.values.map ChannelEntry.wire } } := by
  cases step with
  | closedChannels _ => rfl
  | flushed phase relay sent channel _ flushes _ _ _ =>
      dsimp only [Pump.moveTo] at after
      have left := PumpPhase.channelsClosed_leaving after
      rcases flushes with flushing | rfl
      · rw [PumpPhase.flushes_not_leaving flushing] at left
        cases left
      · cases after
  | closedRelays _ => cases udp <;> cases after
  | joined relays channels recv phase _ _ =>
      rw [phase] at before
      cases before
  | finished phase _ _ =>
      rw [phase] at before
      cases before
  | _ => cases after

/-- The wires that were registered are closed or retired, as far as the pump has come. -/
structure TornDown (config : Config P) : Prop where
  relays : config.pump.phase.relaysClosed = true →
    config.state.history.relays.length < 2 ^ 32 →
    ∀ key conn, (key, conn) ∈ config.state.history.relays →
      conn ∈ config.state.history.closedRelays ∨
        (key, conn) ∈ config.state.history.retiredRelays
  channels : config.pump.phase.channelsClosed = true →
    config.state.history.channels.length < 2 ^ 32 →
    ∀ id entry, (id, entry) ∈ config.state.history.channels →
      entry.wire ∈ config.state.history.closedChannels ∨
        entry.wire ∈ config.state.history.retiredChannels

namespace TornDown

variable {config next : Config P}

theorem kept (torn : TornDown config) (winds : WindsDown config.state next.state)
    (relays : next.pump.phase.relaysClosed = true → config.pump.phase.relaysClosed = true)
    (channels : next.pump.phase.channelsClosed = true →
      config.pump.phase.channelsClosed = true) : TornDown next := by
  refine ⟨?_, ?_⟩
  · intro closed bound key conn member
    rw [winds.relays] at bound member
    exact (torn.relays (relays closed) bound key conn member).imp
      (fun here => winds.closedRelays here) (fun here => winds.retiredRelays here)
  · intro closed bound id entry member
    rw [winds.registered] at bound member
    exact (torn.channels (channels closed) bound id entry member).imp
      (fun here => winds.closedChannels here) (fun here => winds.retiredChannels here)

theorem pumped (torn : TornDown config) (wires : Relays config) (wired : config.Wired)
    {state : State P} {pump : Pump} {spawned : List Session}
    (step : PumpStep config.pump config.udp config.clock config.state (state, pump, spawned))
    (winds : config.pump.phase.leaving = true → WindsDown config.state state) :
    TornDown ({ config with state, pump } : Config P) := by
  refine ⟨?_, ?_⟩
  · intro after bound key conn member
    dsimp only at after bound member ⊢
    cases before : config.pump.phase.relaysClosed with
    | true =>
        have down := winds (PumpPhase.relaysClosed_leaving before)
        rw [down.relays] at bound member
        exact (torn.relays before bound key conn member).imp
          (fun here => down.closedRelays here) (fun here => down.retiredRelays here)
    | false =>
        have closes := step.closesRelays before after
        dsimp only at closes
        subst closes
        rcases (wires.pool bound).registry.kept key conn member with pooled | retired
        · exact .inl (List.mem_append_right _
            ((config.state.relayPool.mem_values conn).mpr ⟨key, pooled⟩))
        · exact .inr retired
  · intro after bound id entry member
    dsimp only at after bound member ⊢
    cases before : config.pump.phase.channelsClosed with
    | true =>
        have down := winds (PumpPhase.channelsClosed_leaving before)
        rw [down.registered] at bound member
        exact (torn.channels before bound id entry member).imp
          (fun here => down.closedChannels here) (fun here => down.retiredChannels here)
    | false =>
        have closes := step.closesChannels before after
        dsimp only at closes
        subst closes
        rcases (wired bound).1.registry with ⟨retired, registry, died⟩
        rcases registry.kept id entry member with stored | gone
        · exact .inl (List.mem_append_right _ (List.mem_map.mpr
            ⟨entry, (config.state.channels.mem_values entry).mpr ⟨id, stored⟩, rfl⟩))
        · exact .inr (died _ gone)

end TornDown

private theorem reaches_tornDown {config : Config P}
    (reached : (endpoint P).Reaches OpensInTime config) : TornDown config := by
  apply reached.induction TornDown
  · rintro config ⟨noq, webrtc, udp, relay, clock, url, _, rfl⟩
    refine ⟨?_, ?_⟩ <;> intro closed <;> cases closed
  · intro config action next reachable torn timely stepped
    have leaving := reachable_leaving reachable
    have winds : config.pump.phase.leaving = true → WindsDown config.state next.state :=
      fun left => .moves leaving timely (leaving.halted left) stepped
    -- only the pump moves the pump
    have still : next.pump = config.pump → TornDown next := by
      intro same
      cases left : config.pump.phase.leaving with
      | true => exact torn.kept (winds left) (by rw [same]; exact id) (by rw [same]; exact id)
      | false =>
          refine ⟨?_, ?_⟩
          · intro closed
            rw [same] at closed
            rw [PumpPhase.relaysClosed_leaving closed] at left
            cases left
          · intro closed
            rw [same] at closed
            rw [PumpPhase.channelsClosed_leaving closed] at left
            cases left
    cases Config.step_move stepped with
    | advanced elapsed => exact still rfl
    | pumped state pump spawned step =>
        rcases Config.addSessions_frame spawned ({ config with state, pump } : Config P) with
          ⟨_, _, frame⟩
        rw [frame] at winds ⊢
        have moved := torn.pumped (reachable_relays reachable) (reachable_wired reachable) step
          winds
        exact ⟨moved.relays, moved.channels⟩
    | resumed id session after registration state _ found resumes => exact still rfl
    | called next _ step =>
        rcases step.frame with ⟨state, _, _, _, _, _, rfl⟩
        exact still rfl

/-- In runs in which no open of a relay succeeds after the endpoint is over, no step adds
anything to an endpoint that is over; and once the pump has terminated every relay and
channel ever registered has been closed, or retired after its receive failed. -/
theorem shutdown_is_final {config : Config P}
    (reached : (endpoint P).Reaches OpensInTime config) :
    (config.state.isClosedOrDead = true → ∀ action next, OpensInTime config action →
      (endpoint P).step config action = .ok next →
      WindsDown config.state next.state ∧ next.state.isClosedOrDead = true) ∧
    (config.pump.phase = .terminated →
      config.state.history.relays.length < 2 ^ 32 →
      config.state.history.channels.length < 2 ^ 32 →
      (∀ key conn, (key, conn) ∈ config.state.history.relays →
        conn ∈ config.state.history.closedRelays ∨
          (key, conn) ∈ config.state.history.retiredRelays) ∧
      ∀ id entry, (id, entry) ∈ config.state.history.channels →
        entry.wire ∈ config.state.history.closedChannels ∨
          entry.wire ∈ config.state.history.retiredChannels) := by
  refine ⟨?_, ?_⟩
  · intro halted action next timely stepped
    refine ⟨.moves (reachable_leaving reached.reachable) timely halted stepped, ?_⟩
    rcases (Config.step_move stepped).state with ⟨task, steps, _⟩
    exact (StateSteps.flags steps).2.2.1 halted
  · intro terminated relays channels
    have torn := reaches_tornDown reached
    exact ⟨torn.relays (by rw [terminated]; rfl) relays,
      torn.channels (by rw [terminated]; rfl) channels⟩

theorem shutdown_is_final_closed :
    ∃ config : Config Slab.platform,
      (endpoint Slab.platform).Reaches OpensInTime config ∧
      config.pump.phase = .terminated ∧
      (0, ⟨0, "a://home"⟩) ∈ config.state.history.relays ∧
      ⟨0, "a://home"⟩ ∈ config.state.history.closedRelays := by
  have passed : (endpoint Slab.platform).runs (fun config action =>
      decide (OpensInTime config action)) (Slab.bound true false)
      (List.flatten [closedEndpoint, [.pump .tick], lastTurn])
      (fun config => decide (config.pump.phase = .terminated) &&
        decide (config.state.history.relays.length < 2 ^ 32) &&
        decide (config.state.history.channels.length < 2 ^ 32) &&
        decide ((0, ⟨0, "a://home"⟩) ∈ config.state.history.relays) &&
        decide (config.state.history.retiredRelays = [])) = true := by decide +kernel
  rcases System.ReachesFrom.of_runs (fun _ _ => of_decide_eq_true) _ passed with
    ⟨config, path, tested⟩
  simp only [Bool.and_eq_true, decide_eq_true_eq] at tested
  rcases tested with ⟨⟨⟨⟨terminated, relays⟩, channels⟩, registered⟩, none⟩
  have reached : (endpoint Slab.platform).Reaches OpensInTime config :=
    ⟨_, Slab.bound_initial true false, path⟩
  refine ⟨config, reached, terminated, registered, ?_⟩
  rcases ((shutdown_is_final reached).2 terminated relays channels).1 _ _ registered with
    closed | retired
  · exact closed
  · rw [none] at retired
    cases retired

/-- A relay that opens after the pump has terminated joins the pool, and nothing reads
from it or closes it. -/
theorem shutdown_is_final_late :
    ∃ config : Config Slab.platform, (endpoint Slab.platform).Reachable config ∧
      config.state.closed = true ∧ config.pump.phase = .terminated ∧
      config.state.relayPool.get? 1 = some ⟨2, "a://far"⟩ ∧
      config.state.newRelays = [(1, ⟨2, "a://far"⟩)] ∧
      ⟨2, "a://far"⟩ ∉ config.state.history.closedRelays ∧
      config.state.history.retiredRelays = [] := by
  have passed : (endpoint Slab.platform).runs (fun _ _ => true) (Slab.bound true false)
      (List.flatten [Slab.turn [] 0,
        [.invoke (.connect ⟨(Slab.peer 7).bytes, [.relay "a://far"]⟩ []),
          .invoke .closeEndpoint, .pump .tick], Slab.turn [] 0,
        [.pump (.run 10 []), .pump (.run 10 []), .pump (.relayEvent 0 (.error "closed")),
          .pump (.run 10 []), .resume 1 (.opened (.ok ()))]])
      (fun config => decide (config.state.closed = true ∧ config.pump.phase = .terminated ∧
        config.state.relayPool.get? 1 = some ⟨2, "a://far"⟩ ∧
        config.state.newRelays = [(1, ⟨2, "a://far"⟩)] ∧
        ⟨2, "a://far"⟩ ∉ config.state.history.closedRelays ∧
        config.state.history.retiredRelays = [])) = true := by decide +kernel
  rcases System.Reachable.of_runs (Slab.bound_initial true false) passed with
    ⟨config, reached, tested⟩
  exact ⟨config, reached, of_decide_eq_true tested⟩

end IrohEndpoint
