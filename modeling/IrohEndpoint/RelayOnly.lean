import IrohEndpoint.Hints
import IrohEndpoint.Calls
import IrohEndpoint.Shutdown

/-! # An endpoint without WebRTC

With `webrtc = false` nothing of the WebRTC wire ever comes into being: no signaling slot
or inbox, no session, no channel, and no route but a relay's. Two gates carry it, the
selection of `connect` and the entry of `handle_signal`. -/

namespace IrohEndpoint

open Relation

variable {P : Platform}

/-- The WebRTC wire has nothing in it, apart from the upgrades a call asked for. -/
structure State.Wireless (state : State P) : Prop where
  signaling : state.signaling = .empty
  signalInboxes : state.signalInboxes = .empty
  channels : state.channels = .empty
  newChannels : state.newChannels = []
  channelOutbound : state.channelOutbound = []
  routes : ∀ addr wire, state.routes.get? addr = some wire → ∃ key, wire = .relay key

namespace State.Wireless

variable {state next : State P}

theorem of_same (wireless : state.Wireless) (signaling : next.signaling = state.signaling)
    (signalInboxes : next.signalInboxes = state.signalInboxes)
    (channels : next.channels = state.channels) (newChannels : next.newChannels = state.newChannels)
    (channelOutbound : next.channelOutbound = state.channelOutbound)
    (routes : next.routes = state.routes) : next.Wireless := by
  refine ⟨signaling.trans wireless.signaling, signalInboxes.trans wireless.signalInboxes,
    channels.trans wireless.channels, newChannels.trans wireless.newChannels,
    channelOutbound.trans wireless.channelOutbound, ?_⟩
  rw [routes]
  exact wireless.routes

private theorem reroute (wireless : state.Wireless) (addr : SocketAddr) (key : UInt32)
    {nextHost : UInt32} {peerToAddr : Table EndpointId SocketAddr}
    {addrToPeer : Table SocketAddr EndpointId} :
    State.Wireless { state with
      nextHost, peerToAddr, addrToPeer, routes := state.routes.set addr (.relay key) } := by
  refine ⟨wireless.signaling, wireless.signalInboxes, wireless.channels, wireless.newChannels,
    wireless.channelOutbound, ?_⟩
  intro other wire found
  rw [Table.get?_set] at found
  split at found
  · cases found
    exact ⟨key, rfl⟩
  · exact wireless.routes other wire found

theorem addrForPeer (wireless : state.Wireless) (peer : EndpointId) (via : UInt32) :
    (state.addrForPeer peer via).2.Wireless := by
  rw [State.addrForPeer]
  split
  · exact wireless
  · exact wireless.reroute _ via

theorem dialStandin (wireless : state.Wireless) (peer : EndpointId) (key : UInt32) :
    (state.dialStandin peer key).2.Wireless := by
  rw [State.dialStandin]
  dsimp only
  split
  · exact (wireless.addrForPeer peer key).reroute _ key
  · exact wireless.addrForPeer peer key

theorem pushResponse (wireless : state.Wireless) (addr : SocketAddr)
    (source : Option EndpointId) (payload : Bytes) :
    (state.pushResponse addr source payload).Wireless := by
  rw [State.pushResponse.eq_def]
  split
  · exact wireless.of_same rfl rfl rfl rfl rfl rfl
  · rename_i id routed
    rcases wireless.routes addr _ routed with ⟨key, impossible⟩
    cases impossible
  · exact wireless.of_same rfl rfl rfl rfl rfl rfl

theorem channelDied (wireless : state.Wireless) (id : UInt32) (wire : ChannelWire) :
    (state.channelDied id wire).Wireless := by
  have absent : state.channels.get? id = none := by rw [wireless.channels, Table.get?_empty]
  have same : state.retireChannel id = state := by rw [State.retireChannel, absent]
  rw [State.channelDied, same]
  exact wireless.of_same rfl rfl rfl rfl rfl rfl

end State.Wireless

private theorem StateStep.wireless {task : Task} {state next : State P}
    (step : StateStep task state next)
    (unheard : task ≠ .signal) (sessionless : task ≠ .session) (wireless : state.Wireless) :
    next.Wireless := by
  cases step with
  | entry handle entry after io _ _ routed =>
      have unsent : io.channel = [] := by
        apply List.eq_nil_iff_forall_not_mem.mpr
        rintro ⟨id, datagram⟩ member
        rcases routed.channel id datagram member with ⟨addr, route⟩
        rcases wireless.routes addr _ route with ⟨key, impossible⟩
        cases impossible
      refine wireless.of_same rfl rfl rfl rfl ?_ rfl
      rw [State.after]
      dsimp only
      rw [unsent, List.append_nil]
  | closed now reason _ =>
      rcases state.close_frame now reason with ⟨_, _, frame⟩
      rw [frame]
      exact wireless.of_same rfl rfl rfl rfl rfl rfl
  | responded addr source payload => exact wireless.pushResponse addr source payload
  | popped relay udp channel _ _ _ suffixes =>
      refine ⟨wireless.signaling, wireless.signalInboxes, wireless.channels,
        wireless.newChannels, ?_, wireless.routes⟩
      rw [wireless.channelOutbound] at suffixes
      exact List.suffix_nil.mp suffixes
  | sighted peer via => exact wireless.addrForPeer peer via
  | dialed peer key => exact wireless.dialStandin peer key
  | channelRegistered peer wire registers => exact absurd registers sessionless
  | channelDied id wire _ => exact wireless.channelDied id wire
  | signaled signaling inboxes signals =>
      rcases signals with rfl | rfl
      · exact absurd rfl unheard
      · exact absurd rfl sessionless
  | armed _ =>
      exact ⟨wireless.signaling, wireless.signalInboxes, wireless.channels, rfl,
        wireless.channelOutbound, wireless.routes⟩
  | _ => exact wireless.of_same rfl rfl rfl rfl rfl rfl

private theorem StateSteps.wireless {task : Task} {state next : State P}
    (steps : StateSteps task state next) (unheard : task ≠ .signal)
    (sessionless : task ≠ .session) (wireless : state.Wireless) : next.Wireless :=
  steps.invariant State.Wireless
    (fun _ _ step holds => step.wireless unheard sessionless holds) wireless

/-- Only a call asks for an upgrade. -/
theorem StateSteps.pendingUpgrades {task : Task} {state next : State P}
    (steps : StateSteps task state next) (uncalled : task.calls = false)
    (empty : state.pendingUpgrades = []) : next.pendingUpgrades = [] := by
  apply steps.invariant (fun current => current.pendingUpgrades = []) ?_ empty
  intro before after step holds
  cases step with
  | closed now reason _ =>
      rcases before.close_frame now reason with ⟨_, _, frame⟩
      rw [frame]
      exact holds
  | responded addr source payload =>
      rcases before.pushResponse_frame addr source payload with ⟨_, _, _, frame⟩
      rw [frame]
      exact holds
  | sighted peer via =>
      rcases before.addrForPeer_frame peer via with ⟨_, _, _, _, frame⟩
      rw [frame]
      exact holds
  | dialed peer key =>
      rcases before.dialStandin_frame peer key with ⟨_, _, _, _, frame⟩
      rw [frame]
      exact holds
  | channelRegistered peer wire _ =>
      rcases before.registerChannel_frame peer wire with ⟨_, _, _, _, _, _, _, _, _, frame⟩
      rw [frame]
      exact holds
  | channelDied id wire _ =>
      rcases before.channelDied_frame id wire with ⟨_, _, frame⟩
      rw [frame]
      exact holds
  | upgradesQueued upgrades calls =>
      rw [uncalled] at calls
      cases calls
  | armed _ => rfl
  | _ => exact holds

/-! ## Dials without a hint -/

def ConnectPhase.Hintless (addr : EndpointAddr) : ConnectPhase → Prop
  | .dialRelay dial url _ => dial.webrtcHint = none ∧ .relay url ∈ addr.addrs
  | .upgradeRelay .. => False
  | .handshake .. => True

structure Connecting.Hintless (addr : EndpointAddr) (state : State P)
    (result : Connecting × State P) : Prop where
  phase : ∀ phase, result.1 = .suspended phase → phase.Hintless addr
  upgrades : result.2.pendingUpgrades = state.pendingUpgrades

namespace Connecting.Hintless

variable {addr : EndpointAddr}

theorem dialNow (state : State P) (now : Instant) (dial : Dial) (dialKey : UInt32) :
    Connecting.Hintless addr state (state.dialNow now dial dialKey none) := by
  rw [State.dialNow]
  split
  · exact ⟨by rintro phase ⟨⟩, rfl⟩
  · split
    · exact ⟨by rintro phase ⟨⟩, rfl⟩
    · rcases state.dialRemote_frame dial dialKey with ⟨_, _, _, _, frame⟩
      dsimp only
      split
      · exact ⟨by rintro phase ⟨⟩, by rw [frame]⟩
      · refine ⟨?_, ?_⟩
        · rintro phase ⟨⟩
          trivial
        · dsimp only [State.insertConn]
          rw [frame]

theorem resolveUpgrade (state : State P) (now : Instant) {dial : Dial}
    (unhinted : dial.webrtcHint = none) (dialKey : UInt32) :
    Connecting.Hintless addr state (state.resolveUpgrade now dial dialKey) := by
  rw [State.resolveUpgrade.eq_def]
  split
  · rename_i hinted
    rw [unhinted] at hinted
    cases hinted
  · exact dialNow state now dial dialKey

theorem resolveDial (state : State P) (now : Instant) {dial : Dial}
    (unhinted : dial.webrtcHint = none)
    (named : ∀ url, dial.dialRelay = some url → .relay url ∈ addr.addrs) :
    Connecting.Hintless addr state (state.resolveDial now dial) := by
  rw [State.resolveDial.eq_def]
  split
  · rename_i url _ relay
    rcases Dialing.beginEnsure_cases state now url with
      ⟨key, known, equal⟩ | ⟨error, _, equal⟩ | ⟨claimed, equal⟩ |
        ⟨unknown, unclaimed, alive, equal⟩ <;>
      rw [equal]
    · have rest := @resolveUpgrade P addr (state.noteEnsured url key) now dial unhinted key
      exact ⟨rest.phase, rest.upgrades⟩
    · exact ⟨by rintro phase ⟨⟩, rfl⟩
    · refine ⟨?_, rfl⟩
      rintro phase ⟨⟩
      exact ⟨unhinted, named url relay⟩
    · refine ⟨?_, rfl⟩
      rintro phase ⟨⟩
      exact ⟨unhinted, named url relay⟩
  · exact resolveUpgrade state now unhinted homeRelay

theorem ensured (state : State P) (now : Instant) {phase : ConnectPhase}
    (hintless : phase.Hintless addr) (result : Except Error UInt32) :
    Connecting.Hintless addr state (state.ensured now phase result) := by
  cases result with
  | error error =>
      cases phase <;> exact ⟨by rintro phase ⟨⟩, rfl⟩
  | ok key =>
      cases phase with
      | dialRelay dial url ensure => exact resolveUpgrade state now hintless.1 key
      | upgradeRelay dial dialKey url ensure => exact hintless.elim
      | handshake peer handle serial =>
          refine ⟨?_, rfl⟩
          rintro phase ⟨⟩
          trivial

end Connecting.Hintless

private theorem Dial.select_disabled (udp : Bool) (peer : EndpointId) (alpn : Bytes)
    (addrs : List TransportAddr) :
    (Dial.select udp false peer alpn addrs).webrtcHint = none := by
  have folded : ∀ dial : Dial, dial.webrtcHint = none →
      (addrs.foldl (Dial.consider udp false) dial).webrtcHint = none := by
    induction addrs with
    | nil => exact fun _ unhinted => unhinted
    | cons entry addrs induction =>
        intro dial unhinted
        apply induction
        rw [Dial.consider.eq_def]
        split
        · split <;> exact unhinted
        · split <;> exact unhinted
        · exact unhinted
        · exact unhinted
  exact folded _ rfl

private theorem Dial.select_named {udp webrtcEnabled : Bool} {peer : EndpointId} {alpn : Bytes}
    {addrs : List TransportAddr} {url : String}
    (relay : (Dial.select udp webrtcEnabled peer alpn addrs).dialRelay = some url) :
    .relay url ∈ addrs := by
  rw [(Dial.select_first udp webrtcEnabled peer alpn addrs).2] at relay
  rcases List.exists_of_findSome?_eq_some relay with ⟨entry, member, found⟩
  cases entry with
  | relay named =>
      cases found
      exact member
  | _ => cases found

theorem Connecting.Hintless.connect {state : State P} (disabled : state.webrtcEnabled = false)
    (now : Instant) (udp : Bool) (addr : EndpointAddr) (alpn : Bytes) :
    Connecting.Hintless addr state (state.connect now udp addr alpn) := by
  rw [State.connect]
  split
  · exact ⟨by rintro phase ⟨⟩, rfl⟩
  · rw [disabled]
    exact resolveDial state now (Dial.select_disabled ..) fun url => Dial.select_named

/-! ## The gates over a run -/

private theorem State.handleSignal_disabled {state : State P}
    (disabled : state.webrtcEnabled = false)
    (via : UInt32) (source : EndpointId) (payload : Bytes) :
    state.handleSignal via source payload = ([], state) := by
  rw [handleSignal, disabled]
  rfl

/-- Nothing of the WebRTC wire is there, and no call asks for it. -/
structure RelayOnly (config : Config P) : Prop where
  disabled : config.state.webrtcEnabled = false
  wireless : config.state.Wireless
  pendingUpgrades : config.state.pendingUpgrades = []
  sessions : config.sessions = .empty
  hintless : ∀ id addr phase, config.calls.get? id = some (.connect addr phase) →
    phase.Hintless addr

namespace RelayOnly

variable {config next : Config P}

theorem initially (noq : P.Endpoint) (udp : Bool) (relay : String) (clock : Instant) :
    RelayOnly (Config.bind noq false udp relay clock) := by
  refine ⟨rfl, ⟨rfl, rfl, rfl, rfl, rfl, ?_⟩, rfl, rfl, ?_⟩
  · intro addr wire found
    cases found
  · intro id addr phase found
    cases found

theorem spawned {pumped : Pumped P} (only : RelayOnly config)
    (step : PumpStep config.pump config.udp config.clock config.state pumped) :
    pumped.2.2 = [] := by
  cases step with
  | armed _ =>
      dsimp only
      rw [only.pendingUpgrades]
      rfl
  | relaySignal index key conn datagram _ _ _ =>
      dsimp only
      rw [State.handleSignal_disabled only.disabled]
  | _ => rfl

theorem pumped {state : State P} {pump : Pump} {spawned : List Session} (only : RelayOnly config)
    (step : PumpStep config.pump config.udp config.clock config.state (state, pump, spawned)) :
    RelayOnly (({ config with state, pump } : Config P).addSessions spawned) := by
  have silent : spawned = [] := only.spawned step
  subst silent
  rw [Config.addSessions]
  rcases step.hears with quiet | ⟨_, via, source, payload, equal, _⟩
  · have moved : ∃ task, StateSteps task config.state state ∧ task ≠ .signal ∧
        task ≠ .session ∧ task.calls = false := by
      cases quiet with
      | drain steps _ => exact ⟨.drain, steps, by simp, by simp, rfl⟩
      | pump task own steps _ =>
          refine ⟨task, steps, ?_, ?_, ?_⟩ <;> cases task <;> simp_all [Task.pumps, Task.calls]
    rcases moved with ⟨task, steps, unheard, sessionless, uncalled⟩
    exact ⟨steps.flags.2.2.2.trans only.disabled,
      steps.wireless unheard sessionless only.wireless,
      steps.pendingUpgrades uncalled only.pendingUpgrades, only.sessions, only.hintless⟩
  · rw [State.handleSignal_disabled only.disabled] at equal
    dsimp only at equal
    subst equal
    exact ⟨only.disabled, only.wireless, only.pendingUpgrades, only.sessions, only.hintless⟩

/-- A call that moves the state and dials without a hint. -/
theorem connecting (only : RelayOnly config) {id fresh : Nat} {addr : EndpointAddr}
    {before : State P} {progress : Connecting × State P}
    (kept : before.pendingUpgrades = config.state.pendingUpgrades)
    (hintless : Connecting.Hintless addr before progress)
    (made : next = ({ config with fresh } : Config P).connecting id addr progress)
    {opened : Bool} (step : Config.CallStep opened config next) : RelayOnly next := by
  have steps := step.state
  have calls := StateSteps.dialTask_calls opened
  have wireless := steps.wireless (by rintro equal; rw [equal] at calls; cases calls)
    (by rintro equal; rw [equal] at calls; cases calls) only.wireless
  have enabled := steps.flags.2.2.2
  have named : ∀ other target phase,
      next.calls.get? other = some (.connect target phase) → phase.Hintless target := by
    intro other target phase found
    rw [made] at found
    rcases Config.connecting_calls _ id addr progress found with
      ⟨rfl, later, suspended, same⟩ | ⟨_, found⟩
    · cases same
      exact hintless.phase phase suspended
    · exact only.hintless other target phase found
  rcases Config.connecting_frame ({ config with fresh } : Config P) id addr progress with
    ⟨_, _, _, _, frame⟩
  have state : next.state = progress.2 := by
    rw [made, frame]
  have sessions : next.sessions = config.sessions := by
    rw [made, frame]
  refine ⟨enabled.trans only.disabled, wireless, ?_, sessions.trans only.sessions, named⟩
  rw [state, hintless.upgrades, kept]
  exact only.pendingUpgrades

theorem touches (only : RelayOnly config) {hands : Bool} {id : Nat}
    (touches : Config.Touches hands id config next) (sessions : next.sessions = config.sessions) :
    RelayOnly next := by
  rcases touches.state with ⟨_, _, _, _, frame⟩
  refine ⟨?_, ?_, ?_, sessions.trans only.sessions, ?_⟩
  · rw [frame]
    exact only.disabled
  · rw [frame]
    exact only.wireless.of_same rfl rfl rfl rfl rfl rfl
  · rw [frame]
    exact only.pendingUpgrades
  · intro other addr phase found
    by_cases own : other = id
    · subst own
      exact only.hintless other addr phase (touches.undialed addr phase found)
    · rw [touches.others other own] at found
      exact only.hintless other addr phase found

theorem invoked (only : RelayOnly config) {method : Method}
    (ran : config.invoke method = .ok next) : RelayOnly next := by
  have step : Config.CallStep false config next := Config.invoke_step ran
  rcases Config.invoke_cases ran with ⟨addr, alpn, rfl, made⟩ | ⟨_, _, rfl⟩ | ⟨_, touched⟩
  · exact only.connecting rfl (.connect only.disabled config.clock config.udp addr alpn) made step
  · exact ⟨only.disabled, only.wireless, only.pendingUpgrades, only.sessions, only.hintless⟩
  · rcases step.frame with ⟨_, _, _, _, _, _, rfl⟩
    exact only.touches touched rfl

theorem polled (only : RelayOnly config) {id : Nat} {call : Call} {input : CallInput}
    (pending : config.calls.get? id = some call)
    (ran : config.resumeCall id call input = .ok next) : RelayOnly next := by
  have step : Config.CallStep input.opens config next := Config.resumeCall_step pending ran
  cases dials : call.dials with
  | false =>
      have touched := Config.resumeCall_touches pending dials ran
      rcases step.frame with ⟨_, _, _, _, _, _, rfl⟩
      exact only.touches touched rfl
  | true =>
      cases call <;> try cases dials
      rename_i addr phase
      have hintless := only.hintless id addr phase pending
      rcases Config.resumeConnect_cases ran with ⟨url, result, suspended, rfl, made⟩ |
        ⟨url, started, suspended, rfl, ⟨_, rfl⟩ | ⟨result, polled, made⟩⟩ | ⟨handshake, touched⟩
      · refine only.connecting ?_ (.ensured _ config.clock hintless _) made step
        cases result <;> rfl
      · exact only
      · refine only.connecting ?_ (.ensured _ config.clock hintless result) made step
        rw [State.pollEnsure]
        split
        · rfl
        · split
          · rfl
          · split
            · rfl
            · split <;> rfl
      · rcases step.frame with ⟨_, _, _, _, _, _, rfl⟩
        exact only.touches touched rfl

end RelayOnly

private theorem reachable_relayOnly {config : Config P} (reached : (endpoint P).Reachable config)
    (disabled : config.state.webrtcEnabled = false) : RelayOnly config := by
  have holds : config.state.webrtcEnabled = false → RelayOnly config := by
    apply reached.invariant fun config : Config P =>
      config.state.webrtcEnabled = false → RelayOnly config
    · rintro config ⟨noq, webrtc, udp, relay, clock, url, _, rfl⟩ off
      have given : webrtc = false := off
      subst given
      exact RelayOnly.initially noq udp relay clock
    · intro config action next only _ stepped off
      rcases (Config.step_move stepped).state with ⟨task, steps, _⟩
      have before := only (steps.flags.2.2.2.symm.trans off)
      cases Config.step_acts stepped with
      | advanced elapsed =>
          exact ⟨before.disabled, before.wireless, before.pendingUpgrades, before.sessions,
            before.hintless⟩
      | pumped input state pump spawned ran => exact before.pumped (Pump.resume_step ran)
      | resumed id input session after registration state _ found ran =>
          rw [before.sessions, Table.get?_empty] at found
          cases found
      | invoked method next _ ran => exact before.invoked ran
      | polled id input call next _ pending ran => exact before.polled pending ran
  exact holds disabled

/-! ## No WebRTC -/

def TransportAddr.isWebrtc : TransportAddr → Bool
  | .webrtc _ => true
  | _ => false

private theorem Dial.select_filter (udp : Bool) (peer : EndpointId) (alpn : Bytes)
    (addrs : List TransportAddr) :
    Dial.select udp false peer alpn (addrs.filter fun entry => !entry.isWebrtc) =
      Dial.select udp false peer alpn addrs := by
  rw [Dial.select, Dial.select, List.foldl_filter]
  congr 1
  funext dial entry
  cases entry <;> rfl

/-- Over every run of an endpoint bound without WebRTC the wire's tables and queues stay
empty, no session is spawned and every route is a relay's. A webrtc entry is as good as
absent, and every relay a call awaits is one its relay entries name. A datagram with the
signal prefix changes nothing. -/
theorem webrtc_disabled {config : Config P} (reached : (endpoint P).Reachable config)
    (disabled : config.state.webrtcEnabled = false) :
    config.state.signaling = .empty ∧ config.state.signalInboxes = .empty ∧
    config.state.pendingUpgrades = [] ∧ config.state.channels = .empty ∧
    config.state.newChannels = [] ∧ config.state.channelOutbound = [] ∧
    config.sessions = .empty ∧
    (∀ addr wire, config.state.routes.get? addr = some wire → ∃ key, wire = .relay key) ∧
    (∀ now udp id addrs alpn, config.state.connect now udp ⟨id, addrs⟩ alpn =
      config.state.connect now udp ⟨id, addrs.filter fun entry => !entry.isWebrtc⟩ alpn) ∧
    (∀ id addr phase url ensure, config.calls.get? id = some (.connect addr phase) →
      phase.ensure? = some (url, ensure) → .relay url ∈ addr.addrs) ∧
    ∀ index datagram next, datagram.payload.head? = some signalPrefix →
      config.step (.pump (.relayEvent index (.ok datagram))) = .ok next →
      next.state = config.state := by
  have only := reachable_relayOnly reached disabled
  refine ⟨only.wireless.signaling, only.wireless.signalInboxes, only.pendingUpgrades,
    only.wireless.channels, only.wireless.newChannels, only.wireless.channelOutbound,
    only.sessions, only.wireless.routes, ?_, ?_, ?_⟩
  · intro now udp id addrs alpn
    rw [State.connect, State.connect, disabled]
    dsimp only
    split
    · rfl
    · rw [Dial.select_filter]
  · intro id addr phase url ensure pending suspended
    have hintless := only.hintless id addr phase pending
    cases phase with
    | dialRelay dial named waits =>
        cases suspended
        exact hintless.2
    | upgradeRelay dial dialKey named waits => exact hintless.elim
    | handshake peer handle serial => cases suspended
  · intro index datagram next signals stepped
    rcases bind_eq_ok.mp stepped with ⟨⟨state, pump, spawned⟩, resumed, result⟩
    cases result
    rcases Config.addSessions_frame spawned ({ config with state, pump } : Config P) with
      ⟨_, _, frame⟩
    rw [frame]
    dsimp only
    rw [Pump.resume] at resumed
    split at resumed
    · cases resumed
    · split at resumed
      · dsimp only [Pump.relayEvent] at resumed
        rw [if_pos signals, State.handleSignal_disabled disabled] at resumed
        cases resumed
        rfl
      · cases resumed
        rfl
      · cases resumed

/-- A signal from a stranger, at an endpoint bound without WebRTC. -/
theorem webrtc_disabled_signaled :
    ∃ config : Config Slab.platform, (endpoint Slab.platform).Reachable config ∧
      config.state.webrtcEnabled = false ∧ config.sessions = .empty ∧
      config.state.signaling = .empty := by
  have passed : (endpoint Slab.platform).runs (fun _ _ => true) (Slab.bound false false)
      (List.flatten [Slab.turn [] 0, [.pump (.relayEvent 0 (.ok ⟨Slab.peer 7, [0, 1, 2]⟩))]])
      (fun config => !config.state.webrtcEnabled) = true := by decide +kernel
  rcases System.Reachable.of_runs (Slab.bound_initial false false) passed with
    ⟨config, reached, tested⟩
  have disabled : config.state.webrtcEnabled = false := by simpa using tested
  have nothing := webrtc_disabled reached disabled
  exact ⟨config, reached, disabled, nothing.2.2.2.2.2.2.1, nothing.1⟩

end IrohEndpoint
