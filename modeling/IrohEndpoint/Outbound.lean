import IrohEndpoint.Foundation.Ledger
import IrohEndpoint.Network
import IrohEndpoint.Transmits

/-! # The outbound queues

Three queues lead out of the endpoint, one for each kind of wire. The pump empties
them one after the other, and is suspended at every send, so other tasks run while
it does; only the pump takes from a queue. -/

namespace IrohEndpoint

variable {P : Platform}

inductive Lane where
  | relay
  | udp
  | channel
  deriving DecidableEq, Repr

namespace Lane

def phase : Lane → PumpPhase
  | .relay => .relayOutbound
  | .udp => .udpOutbound
  | .channel => .channelOutbound

def queue (state : State P) : Lane → List Outbound
  | .relay => state.relayOutbound.map fun (key, peer, datagram) => .relay key peer datagram
  | .udp => state.udpOutbound.map fun (addr, datagram) => .udp addr datagram
  | .channel => state.channelOutbound.map fun (id, datagram) => .channel id datagram

end Lane

def Outbound.lane : Outbound → Lane
  | .relay .. => .relay
  | .udp .. => .udp
  | .channel .. => .channel

private theorem Lane.queue_lane {state : State P} {lane : Lane} {packet : Outbound}
    (waiting : packet ∈ lane.queue state) : packet.lane = lane := by
  cases lane <;> rcases List.mem_map.mp waiting with ⟨item, _, rfl⟩ <;> rfl

def Config.wired (config : Config P) : Outbound → Bool
  | .relay key _ _ => config.state.relayPool.contains key
  | .udp _ _ => config.udp
  | .channel id _ => config.state.channels.contains id

def PumpPhase.sends : PumpPhase → Outbound → Bool
  | .relaySending key _ peer datagram, packet => decide (packet = .relay key peer datagram)
  | .udpSending remote datagram, packet => decide (packet = .udp remote datagram)
  | .channelSending id _ datagram, packet => decide (packet = .channel id datagram)
  | _, _ => false

def PumpPhase.emptied : PumpPhase → List Lane
  | .udpOutbound | .udpSending .. => [.relay]
  | .channelOutbound | .channelSending .. => [.relay, .udp]
  | .arming | .checking | .selecting => [.relay, .udp, .channel]
  | _ => []

/-! ## What the pump does at a queue -/

/-- The pump at a queue takes its first packet, sends it if the wire is there, and goes
on to the next queue only when this one is empty. -/
structure Pump.Empties (lane : Lane) (config : Config P) (pumped : Pumped P) : Prop where
  front : lane.queue pumped.1 = (lane.queue config.state).tail
  others : ∀ other, other ≠ lane → other.queue pumped.1 = other.queue config.state
  sends : ∀ packet, (lane.queue config.state).head? = some packet →
    pumped.2.1.phase.sends packet = config.wired packet
  emptied : ∀ other ∈ pumped.2.1.phase.emptied,
    other ∈ config.pump.phase.emptied ∨ (other = lane ∧ lane.queue pumped.1 = [])

namespace Pump.Empties

variable {config : Config P} {fuel : Nat} {order : List ConnectionHandle} {pumped : Pumped P}

theorem relay (phase : config.pump.phase = .relayOutbound)
    (ran : config.pump.run config.udp config.clock config.state fuel order = .ok pumped) :
    Pump.Empties .relay config pumped := by
  simp only [Pump.run, phase] at ran
  cases queue : config.state.relayOutbound with
  | nil =>
      rw [queue] at ran
      cases ran
      refine ⟨by simp [Lane.queue, queue], fun _ _ => rfl, by simp [Lane.queue, queue], ?_⟩
      simp [Pump.moveTo, PumpPhase.emptied, Lane.queue, queue]
  | cons packet rest =>
      rw [queue] at ran
      dsimp only at ran
      cases pooled : config.state.relayPool.get? packet.1 with
      | none =>
          rw [pooled] at ran
          cases ran
          refine ⟨by simp [Lane.queue, queue], ?_, ?_, fun _ member => .inl member⟩
          · intro other apart
            cases other <;> first | rfl | exact absurd rfl apart
          · simp [Lane.queue, queue, phase, PumpPhase.sends, Config.wired, Table.contains, pooled]
      | some conn =>
          rw [pooled] at ran
          cases ran
          refine ⟨by simp [Lane.queue, queue], ?_, ?_, by simp [Pump.moveTo, PumpPhase.emptied]⟩
          · intro other apart
            cases other <;> first | rfl | exact absurd rfl apart
          · simp [Lane.queue, queue, Pump.moveTo, PumpPhase.sends, Config.wired, Table.contains,
              pooled]

theorem udp (phase : config.pump.phase = .udpOutbound)
    (ran : config.pump.run config.udp config.clock config.state fuel order = .ok pumped) :
    Pump.Empties .udp config pumped := by
  simp only [Pump.run, phase] at ran
  cases queue : config.state.udpOutbound with
  | nil =>
      rw [queue] at ran
      cases ran
      refine ⟨by simp [Lane.queue, queue], fun _ _ => rfl, by simp [Lane.queue, queue], ?_⟩
      simp [phase, Pump.moveTo, PumpPhase.emptied, Lane.queue, queue]
  | cons packet rest =>
      rw [queue] at ran
      cases ran
      have others : ∀ other, other ≠ Lane.udp →
          other.queue { config.state with udpOutbound := rest } = other.queue config.state := by
        intro other apart
        cases other <;> first | rfl | exact absurd rfl apart
      cases bound : config.udp with
      | false =>
          refine ⟨by simp [Lane.queue, queue], others, ?_, fun _ member => .inl member⟩
          simp [Lane.queue, queue, phase, PumpPhase.sends, Config.wired, bound]
      | true =>
          refine ⟨by simp [Lane.queue, queue], others, ?_, ?_⟩
          · simp [Lane.queue, queue, Pump.moveTo, PumpPhase.sends, Config.wired, bound]
          · simp [phase, Pump.moveTo, PumpPhase.emptied]

theorem channel (phase : config.pump.phase = .channelOutbound)
    (ran : config.pump.run config.udp config.clock config.state fuel order = .ok pumped) :
    Pump.Empties .channel config pumped := by
  simp only [Pump.run, phase] at ran
  cases queue : config.state.channelOutbound with
  | nil =>
      rw [queue] at ran
      cases ran
      refine ⟨by simp [Lane.queue, queue], fun _ _ => rfl, by simp [Lane.queue, queue], ?_⟩
      simp [phase, Pump.moveTo, PumpPhase.emptied, Lane.queue, queue]
  | cons packet rest =>
      rw [queue] at ran
      dsimp only at ran
      cases registered : config.state.channels.get? packet.1 with
      | none =>
          rw [registered] at ran
          cases ran
          refine ⟨by simp [Lane.queue, queue], ?_, ?_, fun _ member => .inl member⟩
          · intro other apart
            cases other <;> first | rfl | exact absurd rfl apart
          · simp [Lane.queue, queue, phase, PumpPhase.sends, Config.wired, Table.contains,
              registered]
      | some entry =>
          rw [registered] at ran
          cases ran
          refine ⟨by simp [Lane.queue, queue], ?_, ?_, ?_⟩
          · intro other apart
            cases other <;> first | rfl | exact absurd rfl apart
          · simp [Lane.queue, queue, Pump.moveTo, PumpPhase.sends, Config.wired, Table.contains,
              registered]
          · simp [phase, Pump.moveTo, PumpPhase.emptied]

end Pump.Empties

private theorem Pump.resume_empties {config : Config P} {input : PumpInput} {pumped : Pumped P}
    {lane : Lane} (phase : config.pump.phase = lane.phase)
    (ran : config.pump.resume config.udp config.clock config.state input = .ok pumped) :
    Pump.Empties lane config pumped := by
  cases input with
  | run fuel order =>
      cases lane with
      | relay =>
          simp only [Pump.resume, phase, Lane.phase, reduceCtorEq, false_and, if_false] at ran
          exact .relay phase ran
      | udp =>
          simp only [Pump.resume, phase, Lane.phase, reduceCtorEq, false_and, if_false] at ran
          exact .udp phase ran
      | channel =>
          simp only [Pump.resume, phase, Lane.phase, reduceCtorEq, false_and, if_false] at ran
          exact .channel phase ran
  | relayEvent index result =>
      rw [Pump.resume, phase] at ran
      cases lane <;> split at ran <;> cases ran
  | channelEvent index result =>
      rw [Pump.resume, phase] at ran
      cases lane <;> split at ran <;> cases ran
  | udpEvent received =>
      rw [Pump.resume.eq_def, phase] at ran
      dsimp only at ran
      cases lane <;> split at ran <;> cases ran
  | _ =>
      rw [Pump.resume, phase] at ran
      cases lane <;> cases ran

/-! ## What is appended -/

private theorem Lane.queue_congr {state next : State P}
    (relay : next.relayOutbound = state.relayOutbound)
    (udp : next.udpOutbound = state.udpOutbound)
    (channel : next.channelOutbound = state.channelOutbound) (lane : Lane) :
    lane.queue next = lane.queue state := by
  cases lane <;> simp only [Lane.queue, relay, udp, channel]

theorem StateStep.queues {task : Task} {state next : State P}
    (step : StateStep task state next) (other : task ≠ .flush) (lane : Lane) :
    lane.queue state <+: lane.queue next := by
  have same : next.relayOutbound = state.relayOutbound → next.udpOutbound = state.udpOutbound →
      next.channelOutbound = state.channelOutbound → lane.queue state <+: lane.queue next := by
    intro relay udp channel
    rw [Lane.queue_congr relay udp channel]
  cases step with
  | entry handle entry after io _ _ _ _ _ _ _ =>
      cases lane <;> exact (List.prefix_append _ _).map _
  | closed now reason _ =>
      rcases state.close_frame now reason with ⟨_, _, frame⟩
      rw [frame] at same ⊢
      exact same rfl rfl rfl
  | responded addr source payload =>
      rw [State.pushResponse.eq_def]
      split
      · cases lane <;> first | exact (List.prefix_append _ _).map _ | exact List.prefix_rfl
      · cases lane <;> first | exact (List.prefix_append _ _).map _ | exact List.prefix_rfl
      · cases lane <;> first | exact (List.prefix_append _ _).map _ | exact List.prefix_rfl
  | published relay peer payload =>
      cases lane <;> first | exact (List.prefix_append _ _).map _ | exact List.prefix_rfl
  | popped relay udp channel flush _ _ _ => exact absurd flush other
  | sighted peer via =>
      rcases state.addrForPeer_frame peer via with ⟨_, _, _, _, frame⟩
      rw [frame] at same ⊢
      exact same rfl rfl rfl
  | dialed peer key =>
      rcases state.dialStandin_frame peer key with ⟨_, _, _, _, frame⟩
      rw [frame] at same ⊢
      exact same rfl rfl rfl
  | channelRegistered peer wire _ =>
      rcases state.registerChannel_frame peer wire with ⟨_, _, _, _, _, _, _, _, _, frame⟩
      rw [frame] at same ⊢
      exact same rfl rfl rfl
  | channelDied id wire _ =>
      rcases state.channelDied_frame id wire with ⟨_, _, frame⟩
      rw [frame] at same ⊢
      exact same rfl rfl rfl
  | _ => exact same rfl rfl rfl

theorem StateSteps.queues {task : Task} {state next : State P}
    (steps : StateSteps task state next) (other : task ≠ .flush) (lane : Lane) :
    lane.queue state <+: lane.queue next := by
  induction steps with
  | refl => exact List.prefix_rfl
  | tail _ step induction => exact induction.trans (step.queues other lane)

/-- The pump away from the queues only appends to them, and does not touch those it has
emptied. -/
structure Pump.Appends (config : Config P) (pumped : Pumped P) : Prop where
  grows : ∀ lane : Lane, lane.queue config.state <+: lane.queue pumped.1
  emptied : ∀ lane ∈ pumped.2.1.phase.emptied,
    lane ∈ config.pump.phase.emptied ∧ lane.queue pumped.1 = lane.queue config.state

namespace Pump.Appends

variable {config : Config P} {pumped : Pumped P}

private theorem of_task (task : Task) (steps : StateSteps task config.state pumped.1)
    (other : task ≠ .flush) (fresh : pumped.2.1.phase.emptied = []) :
    Pump.Appends config pumped := by
  refine ⟨steps.queues other, ?_⟩
  intro lane member
  rw [fresh] at member
  cases member

theorem of_same (same : ∀ lane : Lane, lane.queue pumped.1 = lane.queue config.state)
    (kept : pumped.2.1.phase.emptied = config.pump.phase.emptied) :
    Pump.Appends config pumped := by
  constructor
  · intro lane
    rw [same lane]
  · intro lane member
    rw [kept] at member
    exact ⟨member, same lane⟩

theorem sent {result : Except String Unit}
    (ran : config.pump.resume config.udp config.clock config.state (.sent result) =
      .ok pumped) : Pump.Appends config pumped := by
  rw [Pump.resume] at ran
  split at ran <;> rename_i phase
  · split at ran <;> cases ran
    · exact of_task .lost (StateSteps.single (.markedDead _ rfl)) (by simp) rfl
    · exact of_same (fun _ => rfl) (by rw [phase]; rfl)
  · cases ran
    exact of_same (fun _ => rfl) (by rw [phase]; rfl)
  · cases ran
    exact of_same (fun _ => rfl) (by rw [phase]; rfl)
  · cases ran
    exact of_same (fun _ => rfl) (by rw [phase]; rfl)
  · cases ran

theorem step (step : PumpStep config.pump config.udp config.clock config.state pumped)
    (elsewhere : config.pump.phase.flushes = false) : Pump.Appends config pumped := by
  cases step with
  | drained fuel order next _ drained =>
      exact of_task .drain (StateSteps.drain drained) (by simp) rfl
  | flushed phase relay sent channel flushes =>
      rw [elsewhere] at flushes
      cases flushes
  | armed phase => exact of_same (fun lane => by cases lane <;> rfl) (by rw [phase]; rfl)
  | stayed phase _ => exact of_same (fun _ => rfl) (by rw [phase]; rfl)
  | exited _ _ => exact of_task .pump .refl (by simp) rfl
  | relayDatagram index key conn datagram _ _ _ =>
      exact of_task .pump (StateSteps.handleRelayDatagram _ _ _ _ _) (by simp) rfl
  | relaySignal index key conn datagram _ _ _ =>
      exact of_task .signal (Config.handleSignal_steps _ _ _ _) (by simp) rfl
  | relayLost index key conn _ _ foreign =>
      exact of_task .lost (StateSteps.single (.relayRemoved key conn rfl foreign)) (by simp) rfl
  | died reason recvs _ _ =>
      exact of_task .lost (StateSteps.single (.markedDead reason rfl)) (by simp) rfl
  | udpDatagram payload remote _ _ _ =>
      exact of_task .pump (StateSteps.handleUdpDatagram _ _ _ _) (by simp) rfl
  | channelMessage index id wire payload _ _ =>
      cases payload with
      | none => exact of_task .pump .refl (by simp) rfl
      | some datagram =>
          exact of_task .pump (StateSteps.handleChannelDatagram _ _ _ _) (by simp) rfl
  | channelLost index id wire _ _ =>
      exact of_task .lost (StateSteps.single (.channelDied id wire rfl)) (by simp) rfl
  | ticked _ => exact of_task .pump (StateSteps.single (.timedOut _)) (by simp) rfl
  | udpLost _ => exact of_task .pump .refl (by simp) rfl
  | closedRelays phase =>
      apply of_same (fun lane => by cases lane <;> rfl)
      rw [phase]
      cases config.udp <;> rfl
  | woken phase => exact of_same (fun _ => rfl) (by rw [phase]; rfl)
  | closedChannels phase =>
      exact of_same (fun lane => by cases lane <;> rfl) (by rw [phase]; rfl)
  | joined relays channels recv _ _ _ => exact of_same (fun _ => rfl) rfl
  | finished phase _ _ => exact of_same (fun _ => rfl) (by rw [phase]; rfl)

end Pump.Appends

private theorem Pump.resume_sending {pump : Pump} {udp : Bool} {now : Instant} {state : State P}
    {input : PumpInput} {pumped : Pumped P} (flushes : pump.phase.flushes = true)
    (away : ∀ lane : Lane, pump.phase ≠ lane.phase)
    (ran : pump.resume udp now state input = .ok pumped) : ∃ result, input = .sent result := by
  have sending : pump.phase.awaits = true ∧ pump.phase ≠ .selecting ∧
      pump.phase ≠ .joining := by
    cases phase : pump.phase with
    | relayOutbound => exact absurd phase (away .relay)
    | udpOutbound => exact absurd phase (away .udp)
    | channelOutbound => exact absurd phase (away .channel)
    | relaySending key conn peer datagram => simp [PumpPhase.awaits]
    | udpSending remote datagram => simp [PumpPhase.awaits]
    | channelSending id wire datagram => simp [PumpPhase.awaits]
    | _ =>
        rw [phase] at flushes
        cases flushes
  rcases sending with ⟨awaits, unselecting, unjoining⟩
  cases input with
  | sent result => exact ⟨result, rfl⟩
  | run fuel order =>
      rw [Pump.resume, if_neg (by simp [unjoining]), Pump.run.eq_def] at ran
      split at ran <;> rename_i phase <;>
        first | (rw [phase] at awaits; cases awaits) | cases ran
  | relayEvent index result =>
      rw [Pump.resume] at ran
      split at ran
      · cases ran
      · dsimp only at ran
        split at ran <;> rename_i phase
        · exact absurd phase unselecting
        · exact absurd phase unjoining
        · cases ran
  | udpEvent received =>
      rw [Pump.resume.eq_def] at ran
      dsimp only at ran
      split at ran
      · cases ran
      · split at ran <;> rename_i phase
        · exact absurd phase unselecting
        · exact absurd phase unselecting
        · exact absurd phase unjoining
        · cases ran
  | channelEvent index result =>
      rw [Pump.resume] at ran
      split at ran
      · cases ran
      · dsimp only at ran
        split at ran <;> rename_i phase
        · exact absurd phase unselecting
        · exact absurd phase unjoining
        · cases ran
  | tick =>
      rw [Pump.resume] at ran
      split at ran <;> rename_i phase
      · exact absurd phase unselecting
      · cases ran

private theorem Pump.resume_appends {config : Config P} {input : PumpInput} {pumped : Pumped P}
    (away : ∀ lane : Lane, config.pump.phase ≠ lane.phase)
    (ran : config.pump.resume config.udp config.clock config.state input = .ok pumped) :
    Pump.Appends config pumped := by
  cases flushes : config.pump.phase.flushes with
  | false => exact .step (Pump.resume_step ran) flushes
  | true =>
      rcases Pump.resume_sending flushes away ran with ⟨result, rfl⟩
      exact .sent ran

/-! ## The other tasks -/

theorem Dialing.queues {peer : EndpointId} {keys : List UInt32} {state : State P}
    {result : Connecting × State P} (dialing : Dialing peer keys state result) (lane : Lane) :
    lane.queue result.2 = lane.queue state := by
  induction dialing with
  | failed keys state error _ => rfl
  | waiting keys state phase _ _ _ _ _ => rfl
  | claimed keys state phase url _ _ _ _ _ _ => cases lane <;> rfl
  | ensured keys state url key result _ _ induction =>
      rw [induction]
      cases lane <;> rfl
  | rejected keys state dial dialKey noq error _ _ _ _ =>
      rcases state.dialRemote_frame dial dialKey with ⟨_, _, _, _, frame⟩
      rw [frame]
      cases lane <;> rfl
  | dialed keys state inserted next dial dialKey noq handle conn upgrades _ _ _ _ _ made same =>
      rcases state.dialRemote_frame dial dialKey with ⟨_, _, _, _, frame⟩
      rw [same, made, frame]
      cases lane <;> rfl

theorem Resolution.queues {opened : Bool} {claim : Option String} {state between : State P}
    {keys : List UInt32} (resolution : Resolution opened claim state keys between)
    (lane : Lane) : lane.queue between = lane.queue state := by
  cases resolution with
  | unclaimed _ => rfl
  | failed url _ => cases lane <;> rfl
  | registered url conn _ _ _ => cases lane <;> rfl

theorem Config.CallStep.queues {opened : Bool} {config next : Config P}
    (step : CallStep opened config next) (lane : Lane) :
    lane.queue next.state = lane.queue config.state := by
  rcases step.dials with ⟨id, fresh, addr, peer, claim, keys, more, between, progress, _,
    resolution, dialing, rfl⟩ | ⟨_, _, _, _, _, frame⟩
  · rcases connecting_frame ({ config with fresh } : Config P) id addr progress with
      ⟨_, _, _, _, frame⟩
    rw [frame]
    exact (dialing.queues lane).trans (resolution.queues lane)
  · rw [frame]
    cases lane <;> rfl

def Outbound.Signals (P : Platform) : Outbound → Prop
  | .relay _ _ payload => Session.Publishes P payload
  | _ => False

private theorem Session.register_direct (session : Session) (state : State P) (wire : ChannelWire) :
    (session.register state wire).2.2.udpOutbound = state.udpOutbound ∧
      (session.register state wire).2.2.channelOutbound = state.channelOutbound := by
  rcases state.registerChannel_frame session.peer wire with ⟨_, _, _, _, _, _, _, _, _, frame⟩
  rw [Session.register]
  split <;> rename_i next answer <;> rw [answer] at frame <;> dsimp only at frame ⊢ <;>
    rw [frame] <;> exact ⟨rfl, rfl⟩

theorem Session.Resumes.direct {session : Session} {now : Instant} {wire : ChannelWire}
    {state : State P} {resumed : Resumed P} (resumes : session.Resumes now wire state resumed) :
    resumed.2.2.udpOutbound = state.udpOutbound ∧
      resumed.2.2.channelOutbound = state.channelOutbound := by
  cases resumes with
  | continued after next _ _ _ _ _ quiet =>
      rcases quiet.frame with ⟨_, _, rfl⟩
      exact ⟨rfl, rfl⟩
  | failed started next error _ quiet =>
      rcases quiet.frame with ⟨_, _, rfl⟩
      exact ⟨rfl, rfl⟩
  | upgraded _ _ => exact session.register_direct (state.endSignaling session.peer) wire
  | answered _ _ => exact session.register_direct state wire
  | _ => exact ⟨rfl, rfl⟩

theorem Session.Resumes.queues {session : Session} {now : Instant} {wire : ChannelWire}
    {state : State P} {resumed : Resumed P} (resumes : session.Resumes now wire state resumed)
    (lane : Lane) :
    ∃ items, lane.queue resumed.2.2 = lane.queue state ++ items ∧
      ∀ item ∈ items, item.Signals P := by
  cases lane with
  | relay =>
      rcases resumes.outbound with ⟨items, queued, published⟩
      refine ⟨items.map fun (key, peer, datagram) => .relay key peer datagram, ?_, ?_⟩
      · rw [Lane.queue, Lane.queue, queued, List.map_append]
      · intro item member
        rcases List.mem_map.mp member with ⟨packet, queued, rfl⟩
        exact published packet queued
  | udp => exact ⟨[], by simp [Lane.queue, resumes.direct.1], by simp⟩
  | channel => exact ⟨[], by simp [Lane.queue, resumes.direct.2], by simp⟩

/-! ## One step -/

namespace Config

variable {config next : Config P} {action : Action}

inductive Queues (config next : Config P) : Prop
  | empties (lane : Lane) : config.pump.phase = lane.phase →
      Pump.Empties lane config (next.state, next.pump, []) → Queues config next
  | appends : (∀ lane : Lane, config.pump.phase ≠ lane.phase) →
      Pump.Appends config (next.state, next.pump, []) → Queues config next
  | others : config.pump.phase.awaits = true → next.pump = config.pump →
      (∀ lane : Lane, ∃ items, lane.queue next.state = lane.queue config.state ++ items ∧
        ∀ item ∈ items, item.Signals P) → Queues config next

private theorem step_queues (stepped : config.step action = .ok next) : Queues config next := by
  have quiet : ∀ lane : Lane, lane.queue next.state = lane.queue config.state →
      ∃ items, lane.queue next.state = lane.queue config.state ++ items ∧
        ∀ item ∈ items, item.Signals P := by
    intro lane same
    exact ⟨[], by rw [same, List.append_nil], by simp⟩
  have calls : ∀ {opened : Bool}, config.pump.phase.awaits = true →
      CallStep opened config next → Queues config next := by
    intro opened awaits step
    have pump : next.pump = config.pump := by
      rcases step.frame with ⟨_, _, _, _, _, _, rfl⟩
      rfl
    exact .others awaits pump fun lane => quiet lane (step.queues lane)
  cases step_acts stepped with
  | advanced elapsed =>
      rw [step] at stepped
      split at stepped
      · cases stepped
      · rename_i awaits
        exact .others (by simpa using awaits) rfl fun lane => quiet lane rfl
  | pumped input state pump spawned ran =>
      rcases addSessions_frame spawned ({ config with state, pump } : Config P) with ⟨_, _, frame⟩
      rw [frame]
      by_cases here : ∃ lane : Lane, config.pump.phase = lane.phase
      · rcases here with ⟨lane, phase⟩
        have empties := Pump.resume_empties phase ran
        exact .empties lane phase ⟨empties.front, empties.others, empties.sends, empties.emptied⟩
      · have away : ∀ lane : Lane, config.pump.phase ≠ lane.phase :=
          fun lane phase => here ⟨lane, phase⟩
        have appends := Pump.resume_appends away ran
        exact .appends away ⟨appends.grows, appends.emptied⟩
  | resumed id input session after registration state awaits _ ran =>
      exact .others awaits rfl (Session.resumes ran).queues
  | invoked method next awaits ran => exact calls awaits (invoke_step ran : CallStep false _ _)
  | polled id input call next awaits pending ran =>
      exact calls awaits (resumeCall_step pending ran)

private theorem Queues.lane (queues : Queues config next) (lane : Lane) :
    (config.pump.phase = lane.phase →
      lane.queue next.state = (lane.queue config.state).tail) ∧
    (config.pump.phase ≠ lane.phase →
      lane.queue config.state <+: lane.queue next.state) := by
  cases queues with
  | empties here phase empties =>
      constructor
      · intro also
        have same : lane = here := by
          rw [phase] at also
          cases lane <;> cases here <;> first | rfl | cases also
        rw [same]
        exact empties.front
      · intro away
        have apart : lane ≠ here := by
          rintro rfl
          exact away phase
        have kept := empties.others lane apart
        dsimp only at kept
        rw [kept]
  | appends away appends =>
      exact ⟨fun phase => absurd phase (away lane), fun _ => appends.grows lane⟩
  | others awaits _ grows =>
      constructor
      · intro phase
        rw [phase] at awaits
        cases lane <;> cases awaits
      · intro _
        rcases grows lane with ⟨items, queued, _⟩
        exact ⟨items, queued.symm⟩

def Emptied (config : Config P) : Prop :=
  ∀ lane ∈ config.pump.phase.emptied, ∀ packet ∈ lane.queue config.state, packet.Signals P

private theorem Queues.emptied (queues : Queues config next) (emptied : config.Emptied) :
    next.Emptied := by
  intro lane member packet waiting
  cases queues with
  | empties here phase empties =>
      rcases empties.emptied lane member with before | ⟨rfl, none⟩
      · have apart : lane ≠ here := by
          rintro rfl
          rw [phase] at before
          cases lane <;> simp [Lane.phase, PumpPhase.emptied] at before
        have kept := empties.others lane apart
        dsimp only at kept
        rw [kept] at waiting
        exact emptied lane before packet waiting
      · dsimp only at none
        rw [none] at waiting
        cases waiting
  | appends _ appends =>
      rcases appends.emptied lane member with ⟨before, kept⟩
      dsimp only at kept
      rw [kept] at waiting
      exact emptied lane before packet waiting
  | others _ pump grows =>
      rcases grows lane with ⟨items, queued, signals⟩
      rw [pump] at member
      rw [queued] at waiting
      rcases List.mem_append.mp waiting with old | new
      · exact emptied lane member packet old
      · exact signals packet new

end Config

/-! ## Whole runs -/

/-- A packet the pump took from a queue: whether its wire was there, and whether the
pump went on to send it. -/
structure Handed where
  packet : Outbound
  wired : Bool
  sent : Bool
  deriving DecidableEq

/-- The ledgers of the queues, and what became of the packets taken. -/
structure Dispatch where
  ledger : Lane → Ledger Outbound
  handed : List Handed

namespace Dispatch

def takes (config : Config P) (lane : Lane) : List Outbound :=
  if config.pump.phase = lane.phase then (lane.queue config.state).head?.toList else []

def taken (config : Config P) : List Outbound :=
  takes config .relay ++ takes config .udp ++ takes config .channel

def note (log : Dispatch) (config : Config P) (_ : Action) (next : Config P) : Dispatch where
  ledger lane := (log.ledger lane).book (decide (config.pump.phase = lane.phase))
    (lane.queue config.state) (lane.queue next.state)
  handed := log.handed ++ (taken config).map fun packet =>
    ⟨packet, config.wired packet, next.pump.phase.sends packet⟩

private theorem takes_lane (config : Config P) (lane other : Lane) :
    (takes config other).filter (·.lane = lane) =
      if other = lane then takes config lane else [] := by
  have own : ∀ packet ∈ takes config other, packet.lane = other := by
    intro packet member
    rw [takes] at member
    split at member
    · rw [Option.mem_toList] at member
      exact Lane.queue_lane (List.mem_of_mem_head? member)
    · cases member
  split
  · rename_i same
    subst same
    exact List.filter_eq_self.mpr fun packet member => by simp [own packet member]
  · rename_i apart
    exact List.filter_eq_nil_iff.mpr fun packet member => by simp [own packet member, apart]

private theorem taken_lane (config : Config P) (lane : Lane) :
    (taken config).filter (·.lane = lane) = takes config lane := by
  rw [taken, List.filter_append, List.filter_append, takes_lane, takes_lane, takes_lane]
  cases lane <;> simp

end Dispatch

def dispatching (P : Platform) : System (Config P × Dispatch) Action Abort :=
  (endpoint P).observed ⟨fun _ => .empty, []⟩ Dispatch.note

/-- The ledgers are balanced, and no packet is handed to a wire that is not there or
kept from one that is. -/
structure Dispatch.Accounts (log : Dispatch) (config : Config P) : Prop where
  balances : ∀ lane, (log.ledger lane).Balances (lane.queue config.state)
  taken : ∀ lane, (log.ledger lane).taken =
    (log.handed.map Handed.packet).filter (·.lane = lane)
  sent : ∀ handed ∈ log.handed, handed.sent = handed.wired

namespace Dispatch.Accounts

variable {log : Dispatch} {config next : Config P} {action : Action}

theorem step (accounts : log.Accounts config) (queues : Config.Queues config next) :
    (log.note config action next).Accounts next := by
  constructor
  · intro lane
    rcases queues.lane lane with ⟨pops, grows⟩
    by_cases here : config.pump.phase = lane.phase
    · simp only [Dispatch.note, here, decide_true]
      exact (accounts.balances lane).take (pops here)
    · simp only [Dispatch.note, here, decide_false]
      exact (accounts.balances lane).append (grows here)
  · intro lane
    have packets : ((Dispatch.taken config).map fun packet => (⟨packet, config.wired packet,
        next.pump.phase.sends packet⟩ : Handed)).map Handed.packet = Dispatch.taken config := by
      rw [List.map_map]
      exact List.map_id _
    rw [Dispatch.note, List.map_append, List.filter_append, packets, Dispatch.taken_lane,
      ← accounts.taken lane, Dispatch.takes]
    by_cases here : config.pump.phase = lane.phase
    · simp [Ledger.book, here]
    · simp [Ledger.book, here]
  · intro handed member
    rcases List.mem_append.mp member with old | new
    · exact accounts.sent handed old
    · rcases List.mem_map.mp new with ⟨packet, taken, rfl⟩
      have own : packet ∈ Dispatch.takes config packet.lane := by
        rw [← Dispatch.taken_lane, List.mem_filter]
        exact ⟨taken, by simp⟩
      rw [Dispatch.takes] at own
      split at own
      · rename_i phase
        cases queues with
        | empties here also empties =>
            have same : packet.lane = here := by
              rw [also] at phase
              cases lane : packet.lane <;> cases here <;> rw [lane] at phase <;>
                first | rfl | cases phase
            rw [same, Option.mem_toList] at own
            exact empties.sends packet own
        | appends away _ => exact absurd phase (away packet.lane)
        | others awaits _ _ =>
            rw [phase] at awaits
            cases lane : packet.lane <;> rw [lane] at awaits <;> cases awaits
      · cases own

end Dispatch.Accounts

/-- In every run packets leave in the order in which they were queued, each queue by
itself: what was ever queued is what the pump took, then what still waits. The pump sends
each packet it takes if and only if its relay is in the pool, its channel is registered,
or the endpoint has a socket. And whenever the pump waits for events, no packet of noq
waits on any queue: only signals that sessions published since. -/
theorem packets_leave_in_order {config : Config P} {log : Dispatch}
    (reached : (dispatching P).Reachable (config, log)) :
    (∀ lane, (log.ledger lane).put =
      (log.handed.map Handed.packet).filter (·.lane = lane) ++ lane.queue config.state) ∧
    (∀ handed ∈ log.handed, handed.sent = handed.wired) ∧
    (config.pump.phase = .selecting → config.state.udpOutbound = [] ∧
      config.state.channelOutbound = [] ∧
      ∀ key peer payload, (key, peer, payload) ∈ config.state.relayOutbound →
        Session.Publishes P payload) := by
  have kept : log.Accounts config ∧ config.Emptied := by
    refine (System.observed.reachable_invariant (fun config (log : Dispatch) =>
      log.Accounts config ∧ config.Emptied) ?_ ?_ reached).2
    · rintro config ⟨noq, webrtc, udp, relay, clock, url, _, rfl⟩
      refine ⟨⟨?_, fun _ => rfl, by simp⟩, ?_⟩
      · intro lane
        cases lane <;> rfl
      · intro lane member
        cases member
    · intro config log action next _ holds stepped
      have queues := Config.step_queues stepped
      exact ⟨holds.1.step queues, queues.emptied holds.2⟩
  rcases kept with ⟨accounts, emptied⟩
  refine ⟨?_, accounts.sent, ?_⟩
  · intro lane
    rw [accounts.balances lane, accounts.taken lane]
  · intro selecting
    have rest := fun lane => emptied lane
    simp only [selecting, PumpPhase.emptied] at rest
    refine ⟨?_, ?_, ?_⟩
    · apply List.eq_nil_iff_forall_not_mem.mpr
      intro item waiting
      exact rest .udp (by simp) (.udp item.1 item.2) (List.mem_map.mpr ⟨item, waiting, rfl⟩)
    · apply List.eq_nil_iff_forall_not_mem.mpr
      intro item waiting
      exact rest .channel (by simp) (.channel item.1 item.2)
        (List.mem_map.mpr ⟨item, waiting, rfl⟩)
    · intro key peer payload waiting
      exact rest .relay (by simp) (.relay key peer payload)
        (List.mem_map.mpr ⟨_, waiting, rfl⟩)

/-- The handshake with a peer goes out through the home relay. -/
theorem packets_leave_in_order_greeting :
    ∃ (config : Config Slab.platform) (log : Dispatch),
      (dispatching Slab.platform).Reachable (config, log) ∧
      config.pump.phase = .selecting ∧
      log.handed = [⟨.relay homeRelay (Slab.peer 7) [1], true, true⟩] ∧
      (log.ledger .relay).put = [.relay homeRelay (Slab.peer 7) [1]] ++
        Lane.relay.queue config.state := by
  have passed : (dispatching Slab.platform).runs (fun _ _ => true)
      (Slab.bound true false, ⟨fun _ => .empty, []⟩)
      (Slab.turn [] 0 ++ [Slab.hello 0 7] ++ Slab.turn [0] 1) (fun start =>
        decide (start.1.pump.phase = .selecting) && decide (start.2.handed =
          [⟨.relay homeRelay (Slab.peer 7) [1], true, true⟩])) = true := by
    decide +kernel
  have initial : (dispatching Slab.platform).Initial
      (Slab.bound true false, ⟨fun _ => .empty, []⟩) := ⟨Slab.bound_initial true false, rfl⟩
  rcases System.Reachable.of_runs initial passed with ⟨⟨config, log⟩, reached, tested⟩
  simp only [Bool.and_eq_true, decide_eq_true_eq] at tested
  have put := (packets_leave_in_order reached).1 .relay
  rw [tested.2] at put
  exact ⟨config, log, reached, tested.1, tested.2, put⟩

end IrohEndpoint
