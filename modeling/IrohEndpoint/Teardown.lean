import IrohEndpoint.Foundation.Progress
import IrohEndpoint.Shutdown

/-! # The end of the pump

A pump that has left its loop closes the pool, wakes its socket, closes the channels
and waits for the receives it still has in flight. Closing a wire ends its receive, so
this takes a bounded number of steps, and none of them can be missing. -/

namespace IrohEndpoint

variable {P : Platform}

def PumpPhase.ahead : PumpPhase → Nat
  | .closingRelays => 4
  | .wakingUdp => 3
  | .closingChannels => 2
  | .joining => 1
  | _ => 0

/-- How many steps the pump can still take once it has left its loop: the phases ahead
and one for each receive in flight. -/
def Pump.remaining (pump : Pump) : Nat :=
  pump.phase.ahead + pump.relayRecvs.length + pump.channelRecvs.length + pump.udpRecv.toNat

def Action.pumps : Action → Bool
  | .pump _ => true
  | _ => false

namespace Pump

variable {pump : Pump} {udp : Bool} {now : Instant} {state : State P}

private theorem resume_closer (left : pump.phase.leaving = true) {input : PumpInput}
    {pumped : Pumped P} (ran : pump.resume udp now state input = .ok pumped) :
    pumped.2.1.phase.leaving = true ∧ pumped.2.1.remaining < pump.remaining := by
  have shorter : ∀ {Wire : Type} {recvs : List (UInt32 × Wire)} {index : Nat}
      {recv : UInt32 × Wire}, recvs[index]? = some recv →
      (recvs.eraseIdx index).length < recvs.length := by
    intro Wire recvs index recv armed
    have within := (List.getElem?_eq_some_iff.mp armed).1
    rw [List.length_eraseIdx_of_lt within]
    omega
  cases input with
  | run fuel order =>
      rw [resume] at ran
      split at ran
      · rename_i finished
        cases ran
        refine ⟨rfl, ?_⟩
        simp [remaining, moveTo, finished.1, PumpPhase.ahead]
      · rw [run.eq_def] at ran
        split at ran <;> rename_i phase <;> try (rw [phase] at left; cases left)
        · cases ran
          cases udp <;> simp [remaining, moveTo, phase, PumpPhase.ahead, PumpPhase.leaving]
        · cases ran
          refine ⟨rfl, ?_⟩
          simp [remaining, moveTo, phase, PumpPhase.ahead]
        · cases ran
  | sent result =>
      rw [resume] at ran
      split at ran <;> rename_i phase <;> try (rw [phase] at left; cases left)
      · cases ran
        refine ⟨rfl, ?_⟩
        simp [remaining, moveTo, phase, PumpPhase.ahead]
      · cases ran
  | relayEvent index result =>
      rw [resume] at ran
      split at ran
      · cases ran
      · rename_i key conn armed
        have fewer := shorter armed
        dsimp only at ran
        split at ran <;> rename_i phase
        · rw [phase] at left
          cases left
        · cases ran
          refine ⟨left, ?_⟩
          dsimp only [remaining]
          omega
        · cases ran
  | udpEvent received =>
      rw [resume.eq_def] at ran
      dsimp only at ran
      split at ran
      · cases ran
      · rename_i armed
        simp only [Bool.not_eq_true', Bool.not_eq_false, Bool.and_eq_true] at armed
        split at ran <;> rename_i phase
        · exact absurd (phase ▸ left) (by decide)
        · exact absurd (phase ▸ left) (by decide)
        · split at ran <;> cases ran
          refine ⟨left, ?_⟩
          simp [remaining, armed.2]
        · cases ran
  | channelEvent index result =>
      rw [resume] at ran
      split at ran
      · cases ran
      · rename_i id wire armed
        have fewer := shorter armed
        dsimp only at ran
        split at ran <;> rename_i phase
        · rw [phase] at left
          cases left
        · split at ran <;> cases ran
          refine ⟨left, ?_⟩
          dsimp only [remaining]
          omega
        · cases ran
  | tick =>
      rw [resume] at ran
      split at ran <;> rename_i phase
      · rw [phase] at left
        cases left
      · cases ran

/-- A pump that has left its loop and is not at its end has a step to take: its own, or
the end of a receive it has in flight. -/
private theorem resume_enabled (left : pump.phase.leaving = true)
    (unfinished : pump.phase ≠ .terminated)
    (udp : Bool) (now : Instant) (state : State P) :
    ∃ input pumped, pump.resume udp now state input = .ok pumped := by
  cases phase : pump.phase with
  | closingRelays => exact ⟨.run 0 [], _, by rw [resume, if_neg (by simp [phase]), run, phase]⟩
  | wakingUdp => exact ⟨.sent (.ok ()), _, by rw [resume, phase]⟩
  | closingChannels => exact ⟨.run 0 [], _, by rw [resume, if_neg (by simp [phase]), run, phase]⟩
  | joining =>
      cases relays : pump.relayRecvs with
      | cons recv rest =>
          refine ⟨.relayEvent 0 (.error "closed"), (state, { pump with relayRecvs := rest }, []),
            ?_⟩
          simp [resume, relays, phase]
      | nil =>
          cases socket : udp && pump.udpRecv with
          | true =>
              refine ⟨.udpEvent none, (state, { pump with udpRecv := false }, []), ?_⟩
              simp [resume, socket, phase, relays]
          | false =>
              cases channels : pump.channelRecvs with
              | cons recv rest =>
                  refine ⟨.channelEvent 0 (.error "closed"),
                    (state, { pump with channelRecvs := rest }, []), ?_⟩
                  simp [resume, channels, phase, relays, socket]
              | nil =>
                  exact ⟨.run 0 [], _, by
                    rw [resume, if_pos ⟨phase, relays, socket, channels⟩]⟩
  | terminated => exact absurd phase unfinished
  | _ =>
      rw [phase] at left
      cases left

end Pump

/-! ## Schedules -/

namespace Config

variable {config next : Config P}

private theorem step_pump {input : PumpInput} (stepped : config.step (.pump input) = .ok next) :
    ∃ pumped, config.pump.resume config.udp config.clock config.state input = .ok pumped ∧
      next.pump = pumped.2.1 := by
  cases step_acts stepped with
  | pumped _ state pump spawned ran =>
      rcases addSessions_frame spawned ({ config with state, pump } : Config P) with ⟨_, _, frame⟩
      exact ⟨_, ran, by rw [frame]⟩

private theorem step_elsewhere_pump {action : Action} (other : action.pumps = false)
    (stepped : config.step action = .ok next) : next.pump = config.pump := by
  cases step_acts stepped with
  | advanced elapsed => rfl
  | pumped input state pump spawned ran => cases other
  | resumed id input session after registration state _ _ _ => rfl
  | invoked method next _ ran =>
      rcases (invoke_step ran : CallStep false config next).frame with ⟨_, _, _, _, _, _, rfl⟩
      rfl
  | polled id input call next _ pending ran =>
      rcases (resumeCall_step pending ran).frame with ⟨_, _, _, _, _, _, rfl⟩
      rfl

end Config

private theorem teardown_lowers : (endpoint P).Lowers
    (fun config => config.pump.phase.leaving = true)
    Action.pumps (fun config => config.pump.remaining) := by
  constructor
  · intro config action next left stepped
    cases pumps : action.pumps with
    | false =>
        rw [Config.step_elsewhere_pump pumps stepped]
        exact left
    | true =>
        cases action with
        | pump input =>
            rcases Config.step_pump stepped with ⟨pumped, ran, same⟩
            rw [same]
            exact (Pump.resume_closer left ran).1
        | _ => cases pumps
  · intro config action next left stepped pumps
    cases action with
    | pump input =>
        rcases Config.step_pump stepped with ⟨pumped, ran, same⟩
        rw [same]
        exact (Pump.resume_closer left ran).2
    | _ => cases pumps
  · intro config action next left stepped other
    rw [Config.step_elsewhere_pump other stepped]

/-- A pump that has left its loop comes to its end, whatever else runs: in no schedule
does it take more steps than the phases ahead of it, of which the last awaits the armed
tick, and the receives it has in flight, and as long as it has not terminated one of its
steps is enabled. -/
theorem teardown_ends {config : Config P} (left : config.pump.phase.leaving = true)
    {schedule : List Action} {later : Config P}
    (ran : (endpoint P).replay config schedule = .ok later) :
    later.pump.phase.leaving = true ∧
    schedule.countP Action.pumps + later.pump.remaining ≤ config.pump.remaining ∧
    (schedule.countP Action.pumps = config.pump.remaining → later.pump.phase = .terminated) ∧
    (later.pump.phase ≠ .terminated → ∃ input next,
      (endpoint P).step later (.pump input) = .ok next) := by
  rcases teardown_lowers.replay schedule left ran with ⟨still, bound⟩
  refine ⟨still, bound, ?_, ?_⟩
  · intro spent
    have ahead : later.pump.phase.ahead = 0 := by
      rw [Pump.remaining] at bound
      omega
    cases phase : later.pump.phase <;> simp_all [PumpPhase.ahead, PumpPhase.leaving]
  · intro unfinished
    rcases Pump.resume_enabled still unfinished later.udp later.clock later.state with
      ⟨input, ⟨state, pump, spawned⟩, resumed⟩
    exact ⟨input, _, bind_eq_ok.mpr ⟨_, resumed, rfl⟩⟩

def closedIdle : List Action :=
  List.flatten [Slab.turn [] 0, [.invoke .closeEndpoint, .pump .tick],
    List.replicate 6 (.pump (.run 10 []))]

def tearingDown : List Action :=
  [.pump (.run 0 []), .pump (.sent (.ok ())), .pump (.run 0 []),
    .pump (.relayEvent 0 (.error "closed")), .pump (.udpEvent none), .pump (.run 0 [])]

/-- Six steps are ahead of the pump of a closed endpoint with a socket: three phases, the
home relay's receive, the socket's, and its end. -/
theorem teardown_ends_idle :
    ∃ config later : Config Slab.platform, (endpoint Slab.platform).Reachable config ∧
      config.pump.phase = .closingRelays ∧ config.pump.remaining = 6 ∧
      (endpoint Slab.platform).replay config tearingDown = .ok later ∧
      later.pump.phase = .terminated := by
  have passed : (endpoint Slab.platform).runs (fun _ _ => true) (Slab.bound true true) closedIdle
      (fun config => decide (config.pump.phase = .closingRelays) &&
        decide (config.pump.remaining = 6) &&
        ((endpoint Slab.platform).replay config tearingDown).toOption.isSome) = true := by
    decide +kernel
  rcases System.Reachable.of_runs (Slab.bound_initial true true) passed with
    ⟨config, reached, tested⟩
  simp only [Bool.and_eq_true, decide_eq_true_eq] at tested
  rcases tested with ⟨⟨closing, ahead⟩, replayed⟩
  cases ran : (endpoint Slab.platform).replay config tearingDown with
  | error abort =>
      rw [ran] at replayed
      cases replayed
  | ok later =>
      have ended := (teardown_ends (by rw [closing]; rfl) ran).2.2.1
      exact ⟨config, later, reached, closing, ahead, ran, ended (by rw [ahead]; rfl)⟩

end IrohEndpoint
