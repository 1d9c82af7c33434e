import IrohEndpoint.Bind
import IrohEndpoint.Connections
import IrohEndpoint.Calls

/-! # Invalid arguments

`bind`, `connect` and `send-datagram` can fail with `invalid-argument`. The endpoint id and
the datagram are checked before anything happens; a relay URL is only found malformed by
the relay client, and the UDP address only once the home relay has authenticated. -/

namespace IrohEndpoint

variable {P : Platform}

/-- `relay_url` rejects the URL. -/
def Rejected (url : String) : Prop := ∃ detail, relayUrl url = .error detail

/-! ## bind -/

def EndpointOptions.Malformed (options : EndpointOptions) : Prop :=
  ∃ url, options.relayUrl = some url ∧ Rejected url

def Binding.Refused (binding : Binding P) : Prop :=
  ∃ error, binding.outcome = .failed error ∧ error.refuses = true

/-- A malformed relay URL is refused, and a call that refuses an argument has opened no
websocket, had nothing signed and sent nothing. -/
def Binding.Meets (binding : Binding P) (options : EndpointOptions) : Prop :=
  (options.Malformed → binding.Refused) ∧
  (binding.Refused → binding.opened = [] ∧ binding.signed = [] ∧ binding.sent = [])

/-- If a relay URL and an ALPN are given: the URL is well formed, and where the home relay
authenticates and the QUIC endpoint can be built, so can the UDP socket be bound. -/
def BindHost.Binds (host : BindHost P) (options : EndpointOptions) : Prop :=
  ∀ url, options.relayUrl = some url → options.alpns ≠ [] → ¬ Rejected url ∧
    ((∃ receiver, (host.connect options.identity url).outcome = .connected receiver) →
      (∃ noq, host.quicEndpoint options = .ok noq) →
      ∀ bindAddr, options.udpBindAddr = some bindAddr →
        ∃ address, host.bindUdp bindAddr = .ok address)

namespace BindHost

variable {host : BindHost P} {options : EndpointOptions} {url : String}

private theorem bind_rejected (given : options.relayUrl = some url) (alpns : options.alpns ≠ [])
    (rejected : Rejected url) (clock : Instant) : ¬ (host.bind options clock).Refused := by
  rintro ⟨error, failed, refuses⟩
  rcases rejected with ⟨detail, rejected⟩
  rcases bind_cases given alpns clock with
    ⟨_, waits⟩ | ⟨_, _, fails⟩ | ⟨receiver, connected, _⟩
  · rw [waits] at failed
    cases failed
  · rw [fails] at failed
    cases failed
    cases refuses
  · rcases RelayHost.connected_opens connected with ⟨accepted, normal, _⟩
    rw [normal] at rejected
    cases rejected

/-- Past its checks, `bind` refuses an argument exactly when the home relay is connected,
the QUIC endpoint is built, and the socket cannot be bound. -/
private theorem bind_refused (given : options.relayUrl = some url) (alpns : options.alpns ≠ [])
    (clock : Instant) : (host.bind options clock).Refused ↔
      (∃ receiver, (host.connect options.identity url).outcome = .connected receiver) ∧
      (∃ noq, host.quicEndpoint options = .ok noq) ∧
      ∃ bindAddr detail, options.udpBindAddr = some bindAddr ∧
        host.bindUdp bindAddr = .error detail := by
  rw [← assemble_refuses options url clock]
  constructor
  · rintro ⟨error, failed, refuses⟩
    rcases bind_cases given alpns clock with ⟨_, waits⟩ | ⟨_, _, fails⟩ |
      ⟨receiver, connected, ⟨other, assembled, fails⟩ | ⟨_, _, done⟩⟩
    · rw [waits] at failed
      cases failed
    · rw [fails] at failed
      cases failed
      cases refuses
    · rw [fails] at failed
      cases failed
      exact ⟨⟨receiver, connected⟩, error, assembled, refuses⟩
    · rw [done] at failed
      cases failed
  · rintro ⟨⟨receiver, connected⟩, error, failed, refuses⟩
    rcases bind_cases given alpns clock with ⟨waits, _⟩ | ⟨_, fails, _⟩ |
      ⟨_, _, ⟨other, assembled, fails⟩ | ⟨_, assembled, _⟩⟩
    · rw [waits] at connected
      cases connected
    · rw [fails] at connected
      cases connected
    · rw [failed] at assembled
      cases assembled
      exact ⟨error, fails, refuses⟩
    · rw [failed] at assembled
      cases assembled

private theorem bind_meets_iff (host : BindHost P) (options : EndpointOptions) (clock : Instant) :
    (host.bind options clock).Meets options ↔ host.Binds options := by
  constructor
  · rintro ⟨refused, silent⟩ url given alpns
    refine ⟨?_, ?_⟩
    · intro rejected
      exact bind_rejected given alpns rejected clock (refused ⟨url, given, rejected⟩)
    · rintro ⟨receiver, connected⟩ built bindAddr addressed
      cases socket : host.bindUdp bindAddr with
      | ok address => exact ⟨address, rfl⟩
      | error detail =>
          have effects := silent ((bind_refused given alpns clock).mpr
            ⟨⟨receiver, connected⟩, built, bindAddr, detail, addressed, socket⟩)
          rw [bind_opened given alpns] at effects
          rcases RelayHost.connected_opens connected with ⟨accepted, _, opened⟩
          rw [opened] at effects
          cases effects.1
  · intro binds
    cases given : options.relayUrl with
    | none =>
        refine ⟨?_, fun _ => ?_⟩
        · rintro ⟨url, impossible, _⟩
          rw [given] at impossible
          cases impossible
        · rw [bind, given]
          exact ⟨rfl, rfl, rfl⟩
    | some url =>
        by_cases alpns : options.alpns = []
        · have checked : host.bind options clock =
              ⟨.failed (.invalidArgument "bind requires at least one alpn"), [], [], []⟩ := by
            rw [bind, given]
            dsimp only
            rw [if_pos (by simp [alpns])]
          rw [checked]
          exact ⟨fun _ => ⟨_, rfl, rfl⟩, fun _ => ⟨rfl, rfl, rfl⟩⟩
        · rcases binds url given alpns with ⟨wellFormed, bindable⟩
          refine ⟨?_, ?_⟩
          · rintro ⟨other, same, rejected⟩
            rw [given] at same
            cases same
            exact absurd rejected wellFormed
          · intro refused
            rcases (bind_refused given alpns clock).mp refused with
              ⟨connected, built, bindAddr, detail, addressed, unbound⟩
            rcases bindable connected built bindAddr addressed with ⟨address, bound⟩
            rw [unbound] at bound
            cases bound

end BindHost

/-! ## Errors of connections -/

def ConnEntry.Valid (entry : ConnEntry P) : Prop :=
  ∀ error, entry.error = some error → error.refuses = false

theorem EntryStep.valid {before after : ConnEntry P} (step : EntryStep before after)
    (valid : before.Valid) : after.Valid := by
  cases step with
  | connected now =>
      have refused : ∀ seen : ConnEntry P, (seen.refuse now).Valid := by
        rintro seen error ⟨⟩
        rfl
      rw [ConnEntry.onConnected]
      dsimp only
      split
      · split
        · exact valid
        · exact refused _
      · exact refused _
  | lost reason =>
      rintro error ⟨⟩
      cases reason <;> rfl
  | died _ =>
      rintro error ⟨⟩
      rfl
  | read id max reader =>
      rw [ConnEntry.readSomeCheck]
      split <;> exact valid
  | _ => exact valid

private theorem reachable_valid {config : Config P} (reached : (endpoint P).Reachable config)
    {handle : ConnectionHandle} {entry : ConnEntry P}
    (found : config.state.conns.get? handle = some entry) : entry.Valid := by
  refine reachable_entries reached ConnEntry.Valid ?_ ?_ handle entry found
  · rintro conn expectedPeer acceptedSide serial origin error ⟨⟩
  · intro before after step
    exact step.valid

/-! ## connect -/

def Outcome.refuses : Outcome → Bool
  | .connected (.error error) => error.refuses
  | _ => false

theorem Dialing.valid {peer : EndpointId} {keys : List UInt32} {state : State P}
    {result : Connecting × State P} (dialing : Dialing peer keys state result) {error : Error}
    (failed : result.1 = .failed error) : error.refuses = false := by
  induction dialing with
  | failed keys state other valid =>
      cases failed
      exact valid
  | rejected keys state dial dialKey noq other _ _ _ valid =>
      cases failed
      exact valid
  | ensured keys state url key result _ _ induction => exact induction failed
  | waiting keys state phase _ _ _ _ => cases failed
  | claimed keys state phase url _ _ _ _ _ _ => cases failed
  | dialed keys state inserted next dial dialKey noq handle conn upgrades _ _ _ _ _ _ _ _ _ =>
      cases failed

namespace Config

variable {config middle next : Config P} {id : Nat}

def Accepts (config next : Config P) : Prop :=
  ∀ id outcome, (id, outcome) ∈ next.outcomes → outcome.refuses = true →
    (id, outcome) ∈ config.outcomes

theorem Accepts.of_same (same : next.outcomes = config.outcomes) : Accepts config next := by
  intro id outcome member _
  rw [same] at member
  exact member

theorem Accepts.settle (accepts : Accepts config middle) {outcome : Outcome}
    (valid : outcome.refuses = false) (id : Nat) (resources : List Resource) :
    Accepts config (middle.settle id outcome resources) := by
  intro other reported member refuses
  rw [settle_outcomes, List.mem_append, List.mem_singleton] at member
  rcases member with old | new
  · exact accepts other reported old refuses
  · cases new
    rw [valid] at refuses
    cases refuses

private theorem connecting_accepts {fresh : Nat} {addr : EndpointAddr}
    {progress : Connecting × State P}
    (valid : ∀ error, progress.1 = .failed error → error.refuses = false) :
    Accepts config (({ config with fresh } : Config P).connecting id addr progress) := by
  rcases progress with ⟨connecting, state⟩
  cases connecting with
  | failed error =>
      have started : Accepts config ({ config with state, fresh } : Config P) := .of_same rfl
      have late : (Outcome.connected (.error error)).refuses = false := valid error rfl
      exact started.settle late id []
  | suspended phase => exact .of_same rfl

private theorem resumeHandshake_accepts {addr : EndpointAddr} {peer : EndpointId}
    {handle : ConnectionHandle} {serial : Nat} {input : CallInput}
    (reached : (endpoint P).Reachable config)
    (ran : config.resumeConnect id addr (.handshake peer handle serial) input = .ok next) :
    Accepts config next := by
  rcases resumeHandshake_cases ran with ⟨entry, conns, found, rfl | ⟨error, failed, rfl⟩ | rfl⟩
  · exact .of_same rfl
  · have kept : Accepts config ({ config with state := { config.state with conns } } :
        Config P) := .of_same rfl
    have late : (Outcome.connected (.error error)).refuses = false :=
      reachable_valid reached found error failed
    exact kept.settle late id []
  · have kept : Accepts config ({ config with state := { config.state with conns } } :
        Config P) := .of_same rfl
    have made : (Outcome.connected (.ok (.connection ⟨handle, serial⟩ (some addr)))).refuses =
        false := rfl
    exact kept.settle made id _

private theorem resumeConnect_accepts {addr : EndpointAddr} {phase : ConnectPhase}
    {input : CallInput}
    (reached : (endpoint P).Reachable config)
    (ran : config.resumeConnect id addr phase input = .ok next) : Accepts config next := by
  rcases resumeConnect_cases ran with ⟨url, result, suspended, rfl, made⟩ |
    ⟨url, started, suspended, rfl, ⟨_, rfl⟩ | ⟨result, polled, made⟩⟩ | ⟨idle, _⟩
  · rw [made]
    apply connecting_accepts
    intro error failed
    rcases Dialing.opened config.state config.clock phase suspended result config.fresh with
      ⟨keys, between, _, dialing⟩
    exact dialing.valid failed
  · exact .of_same rfl
  · rw [made]
    apply connecting_accepts
    intro error failed
    have opens : phase.ensure?.isSome = true := by rw [suspended]; rfl
    exact (Dialing.pollEnsure config.clock started phase opens (Prod.ext polled rfl)).valid failed
  · cases phase with
    | handshake peer handle serial => exact resumeHandshake_accepts reached ran
    | dialRelay dial url ensure => cases idle
    | upgradeRelay dial key url ensure => cases idle

private theorem resumeAccept_accepts (ran : config.resumeAccept id = .ok next) :
    Accepts config next := by
  have kept : ∀ state, Accepts config ({ config with state } : Config P) := fun _ => .of_same rfl
  rw [resumeAccept] at ran
  split at ran <;> rename_i checked <;> cases ran
  · exact kept _
  · rename_i error state
    have closed : error = .closed := by
      rw [State.acceptCheck] at checked
      split at checked
      · cases checked
      · split at checked <;> cases checked
        rfl
    subst closed
    have over_ : (Outcome.connected (.error .closed)).refuses = false := rfl
    exact (kept _).settle over_ id []
  · rename_i item state
    have made : (Outcome.connected (.ok (.connection ⟨item.handle, item.serial⟩ none))).refuses =
        false := rfl
    exact (kept _).settle made id _

private theorem resumeStream_accepts {target : Target} {shape : StreamShape}
    {check : ConnEntry P → Option (Except Error StreamId) × ConnEntry P}
    (ran : config.resumeStream id target shape check = .ok next) : Accepts config next := by
  rcases bind_eq_ok.mp ran with ⟨⟨answer, state⟩, _, rest⟩
  have kept : Accepts config ({ config with state } : Config P) := .of_same rfl
  have streams : ∀ result, (Outcome.stream result).refuses = false := fun _ => rfl
  dsimp only at rest
  split at rest <;> cases rest
  · exact kept
  · exact kept.settle (streams _) id _
  · exact kept.settle (streams _) id _

private theorem afterChunk_accepts {target : Target} {stream : StreamId} {last : Bool}
    (accepts : Accepts config middle)
    (ran : middle.afterChunk id target stream last = .ok next) : Accepts config next := by
  rw [afterChunk] at ran
  split at ran
  · rcases bind_eq_ok.mp ran with ⟨⟨answer, finished⟩, finishing, result⟩
    cases result
    rcases finishStream_ok finishing with ⟨_, after, _, _, rfl⟩
    have units : (Outcome.unit answer).refuses = false := rfl
    have kept : Accepts config (middle.withConn target.handle after) := accepts
    exact kept.settle units id []
  · cases ran
    exact accepts

private theorem resumeCall_accepts {call : Call} {input : CallInput}
    (reached : (endpoint P).Reachable config)
    (ran : config.resumeCall id call input = .ok next) : Accepts config next := by
  have kept : ∀ state, Accepts config ({ config with state } : Config P) := fun _ => .of_same rfl
  have bytes : ∀ result, (Outcome.bytes result).refuses = false := fun _ => rfl
  have units : ∀ result, (Outcome.unit result).refuses = false := fun _ => rfl
  have moved : ∀ handle after, Accepts config (config.withConn handle after) :=
    fun _ _ => .of_same rfl
  rw [resumeCall.eq_def] at ran
  split at ran
  · exact resumeConnect_accepts reached ran
  · exact resumeAccept_accepts ran
  · exact resumeStream_accepts ran
  · exact resumeStream_accepts ran
  · rcases bind_eq_ok.mp ran with ⟨⟨answer, state⟩, _, rest⟩
    dsimp only at rest
    split at rest <;> cases rest
    · exact kept state
    · exact (kept state).settle (bytes _) id []
  · rcases bind_eq_ok.mp ran with ⟨⟨answer, state⟩, _, rest⟩
    dsimp only at rest
    split at rest <;> cases rest
    · exact kept state
    · exact (kept state).settle (units _) id []
  · rcases bind_eq_ok.mp ran with ⟨⟨⟨answer, reached⟩, written⟩, writing, rest⟩
    rcases resumeWrite_ok writing with ⟨_, after, _, _, rfl⟩
    dsimp only at rest
    split at rest <;> cases rest
    · exact .of_same rfl
    · exact (moved _ after).settle (units _) id []
  · rcases bind_eq_ok.mp ran with ⟨⟨answer, read⟩, reading, rest⟩
    rcases resumeRead_ok reading with ⟨_, after, _, _, rfl⟩
    dsimp only at rest
    split at rest <;> cases rest
    · exact .of_same rfl
    · exact (moved _ after).settle (bytes _) id []
  · split at ran
    · exact afterChunk_accepts (.of_same rfl) ran
    · cases ran
      exact .of_same rfl
  · rcases bind_eq_ok.mp ran with ⟨⟨⟨answer, reached⟩, written⟩, writing, rest⟩
    rcases resumeWrite_ok writing with ⟨_, after, _, _, rfl⟩
    dsimp only at rest
    split at rest
    · cases rest
      exact .of_same rfl
    · cases rest
      exact (moved _ after).settle (units _) id []
    · exact afterChunk_accepts (moved _ after) rest
  · rcases bind_eq_ok.mp ran with ⟨⟨answer, read⟩, reading, rest⟩
    rcases resumeRead_ok reading with ⟨_, after, _, _, rfl⟩
    dsimp only at rest
    split at rest <;> cases rest
    · exact .of_same rfl
    · exact .of_same rfl
    · exact (moved _ after).settle (bytes _) id []
  · split at ran <;> cases ran
    · exact (Accepts.of_same rfl).settle (units _) id []
    · exact .of_same rfl
  · cases ran

private theorem refused_before {later : Config P} (reached : (endpoint P).Reachable config)
    (numbered : id < config.fresh)
    (path : (endpoint P).ReachesFrom (fun _ _ => True) config later) {outcome : Outcome}
    (member : (id, outcome) ∈ later.outcomes) (refuses : outcome.refuses = true) :
    (id, outcome) ∈ config.outcomes := by
  have held : (endpoint P).Reachable later ∧ id < later.fresh ∧
      ∀ outcome, (id, outcome) ∈ later.outcomes → outcome.refuses = true →
        (id, outcome) ∈ config.outcomes := by
    refine path.invariant (fun later => (endpoint P).Reachable later ∧ id < later.fresh ∧
      ∀ outcome, (id, outcome) ∈ later.outcomes → outcome.refuses = true →
        (id, outcome) ∈ config.outcomes) ?_ ⟨reached, numbered, fun _ member _ => member⟩
    rintro before action after ⟨sofar, below, known⟩ _ stepped
    have acts := step_acts stepped
    refine ⟨sofar.step trivial stepped, Nat.lt_of_lt_of_le below acts.fresh_le, ?_⟩
    intro outcome member refuses
    apply known outcome ?_ refuses
    by_cases own : ∃ input, action = .resume id input
    · rcases own with ⟨input, rfl⟩
      cases acts with
      | polled _ _ call _ _ _ ran => exact resumeCall_accepts sofar ran id outcome member refuses
    · have apart : ∀ input, action ≠ .resume id input := fun input same => own ⟨input, same⟩
      exact (acts.bypasses below apart).outcomes outcome member
  exact held.2.2 outcome member refuses

/-- The call `id` failed with `invalid-argument`. -/
def Refused (config : Config P) (id : Nat) : Prop :=
  ∃ error : Error, error.refuses = true ∧ (id, .connected (.error error)) ∈ config.outcomes

end Config

def TransportAddr.server? : TransportAddr → Option String
  | .relay url => some url
  | .webrtc url => some url
  | _ => none

def EndpointAddr.relayUrls (addr : EndpointAddr) : List String :=
  addr.addrs.filterMap TransportAddr.server?

/-- The endpoint id is not 32 bytes, or a relay URL is malformed. -/
def EndpointAddr.Malformed (addr : EndpointAddr) : Prop :=
  addr.endpointId.length ≠ 32 ∨ ∃ url ∈ addr.relayUrls, Rejected url

/-- A malformed relay URL comes only beside an endpoint id that is not 32 bytes. -/
def EndpointAddr.Dialable (addr : EndpointAddr) : Prop :=
  addr.endpointId.length ≠ 32 ∨ ∀ url ∈ addr.relayUrls, ¬ Rejected url

namespace Config

variable {config next : Config P} {addr : EndpointAddr} {alpn : Bytes}

/-- A malformed address is refused, and if the call is refused, then it was at once and left
the state as it was: no relay was opened for it. -/
def Meets (config next : Config P) (addr : EndpointAddr) : Prop :=
  (addr.Malformed → next.Refused config.fresh) ∧
  ∀ later, (endpoint P).ReachesFrom (fun _ _ => True) next later → later.Refused config.fresh →
    next.Refused config.fresh ∧ next.state = config.state ∧ next.calls.get? config.fresh = none

private theorem invoke_connect
    (stepped : (endpoint P).step config (.invoke (.connect addr alpn)) = .ok next) :
    next = ({ config with fresh := config.fresh + 1 } : Config P).connecting config.fresh addr
      (config.state.connect config.clock config.udp addr alpn) := by
  have acts : config.Acts (.invoke (.connect addr alpn)) next := step_acts stepped
  cases acts with
  | invoked method next _ ran =>
      simp only [invoke, Method.resource?] at ran
      split at ran <;> cases ran
      rfl

private theorem connect_refused (reached : (endpoint P).Reachable config)
    (stepped : (endpoint P).step config (.invoke (.connect addr alpn)) = .ok next) :
    next.Refused config.fresh ↔ addr.endpointId.length ≠ 32 := by
  have unknown : ∀ outcome, (config.fresh, outcome) ∉ config.outcomes := by
    intro outcome member
    exact absurd ((reachable_numbered reached).resolved config.fresh outcome member)
      (Nat.lt_irrefl _)
  rw [invoke_connect stepped]
  rcases Dialing.connect config.state config.clock config.udp addr alpn
    (List.mem_singleton_self homeRelay) with ⟨short, failed⟩ | ⟨peer, named, dialing⟩
  · refine iff_of_true ?_ short
    rw [failed]
    refine ⟨.invalidArgument "endpoint id is not 32 bytes", rfl, ?_⟩
    rw [connecting, settle_outcomes]
    exact List.mem_append_right _ (List.mem_singleton_self _)
  · refine iff_of_false ?_ (not_not.mpr (named ▸ peer.length_eq))
    rintro ⟨error, refuses, member⟩
    have accepts : Accepts config (({ config with fresh := config.fresh + 1 } : Config P).connecting
        config.fresh addr (config.state.connect config.clock config.udp addr alpn)) :=
      connecting_accepts fun error failed => dialing.valid failed
    exact unknown _ (accepts _ _ member refuses)

private theorem connect_unchanged (short : addr.endpointId.length ≠ 32)
    (stepped : (endpoint P).step config (.invoke (.connect addr alpn)) = .ok next) :
    next.state = config.state ∧ next.calls.get? config.fresh = none := by
  rw [invoke_connect stepped]
  rcases Dialing.connect config.state config.clock config.udp addr alpn
    (List.mem_singleton_self homeRelay) with ⟨_, failed⟩ | ⟨peer, named, _⟩
  · rw [failed]
    refine ⟨rfl, ?_⟩
    change (config.calls.remove config.fresh).get? config.fresh = none
    rw [Table.get?_remove, if_pos rfl]
  · exact absurd (named ▸ peer.length_eq) short

private theorem refused_later {later : Config P} (reached : (endpoint P).Reachable config)
    (stepped : (endpoint P).step config (.invoke (.connect addr alpn)) = .ok next)
    (path : (endpoint P).ReachesFrom (fun _ _ => True) next later)
    (refused : later.Refused config.fresh) : next.Refused config.fresh := by
  rcases refused with ⟨error, refuses, member⟩
  have numbered : config.fresh < next.fresh := by
    rw [invoke_connect stepped]
    exact connecting_fresh ({ config with fresh := config.fresh + 1 } : Config P) _ _ _
  exact ⟨error, refuses,
    refused_before (reached.step trivial stepped) numbered path member refuses⟩

private theorem connect_meets_iff (reached : (endpoint P).Reachable config)
    (stepped : (endpoint P).step config (.invoke (.connect addr alpn)) = .ok next) :
    config.Meets next addr ↔ addr.Dialable := by
  have refused := connect_refused reached stepped
  constructor
  · rintro ⟨malformed, _⟩
    by_cases short : addr.endpointId.length ≠ 32
    · exact .inl short
    · refine .inr fun url listed rejected => short (refused.mp (malformed (.inr ?_)))
      exact ⟨url, listed, rejected⟩
  · intro dialable
    refine ⟨?_, ?_⟩
    · rintro (short | ⟨url, listed, rejected⟩)
      · exact refused.mpr short
      · rcases dialable with short | accepted
        · exact refused.mpr short
        · exact absurd rejected (accepted url listed)
    · rintro later path late
      have made := refused_later reached stepped path late
      exact ⟨made, connect_unchanged (refused.mp made) stepped⟩

end Config

/-! ## send-datagram -/

def Platform.RefusesDatagrams (P : Platform) : Prop :=
  ∀ (data : Bytes) (conn : P.Connection) (error : SendDatagramError),
    (P.call (.sendDatagram data) conn).1 = .error error →
    error = .tooLarge ∨ error = .unsupportedByPeer → (P.call (.sendDatagram data) conn).2 = conn

private theorem ConnEntry.sendDatagram_refused (refuses : P.RefusesDatagrams) {entry : ConnEntry P}
    {data : Bytes} {error : Error} (failed : (entry.sendDatagram data).1 = .error error)
    (invalid : error.refuses = true) : (entry.sendDatagram data).2 = entry := by
  have kept : ∀ error, (entry.call (.sendDatagram data)).1 = .error error →
      error = .tooLarge ∨ error = .unsupportedByPeer →
      (entry.call (.sendDatagram data)).2 = entry := by
    intro error answered reason
    have same := refuses data entry.conn error answered reason
    rw [ConnEntry.call]
    dsimp only
    rw [same]
  rw [ConnEntry.sendDatagram] at failed ⊢
  split at failed
  · rfl
  · rcases called : entry.call (.sendDatagram data) with ⟨answer, after⟩
    rw [called] at failed kept
    dsimp only at failed kept ⊢
    rcases answer with (_ | _ | display) | done
    · exact kept .tooLarge rfl (.inl rfl)
    · exact kept .unsupportedByPeer rfl (.inr rfl)
    · cases failed
      cases invalid
    · cases failed

/-- The two configurations agree on everything, up to the order of the connection table. -/
structure Config.Same (config next : Config P) : Prop where
  frame : next = { config with state := { config.state with conns := next.state.conns } }
  conns : ∀ handle, next.state.conns.get? handle = config.state.conns.get? handle

private theorem Config.sendDatagram_same (refuses : P.RefusesDatagrams) {config next : Config P}
    {resource : Nat} {target : Target} {dialed : Option EndpointAddr} {data : Bytes}
    {entry : ConnEntry P} {error : Error}
    (held : config.resources.get? resource = some (.connection target dialed))
    (found : config.state.conns.get? target.handle = some entry)
    (failed : (entry.sendDatagram data).1 = .error error) (invalid : error.refuses = true)
    (stepped : (endpoint P).step config (.invoke (.sendDatagram resource data)) = .ok next) :
    config.Same next := by
  have acts : config.Acts (.invoke (.sendDatagram resource data)) next := step_acts stepped
  cases acts with
  | invoked method next _ ran =>
      simp only [invoke, Method.resource?, invokeResource, held, invokeConnection] at ran
      rcases bind_eq_ok.mp ran with ⟨⟨⟨⟩, state⟩, accessed, result⟩
      cases result
      rcases withEntry_ok accessed with ⟨other, after, lookup, access, rfl⟩
      rw [found] at lookup
      cases lookup
      have same : after = entry := by
        have moved : (entry.sendDatagram data).2 = after :=
          congrArg Prod.snd (Except.ok.inj access)
        rw [← moved]
        exact entry.sendDatagram_refused refuses failed invalid
      subst same
      refine ⟨rfl, ?_⟩
      intro handle
      dsimp only
      rw [Table.get?_set]
      split
      · rename_i equal
        rw [equal, found]
      · rfl

/-! ## No effect -/

/-- What `invalid-argument` promises, call by call. `bind` keeps it unless a malformed relay
URL is given together with an ALPN, or the home relay authenticates and the socket then
cannot be bound. `connect` keeps it unless a malformed relay URL is given with an endpoint id
of 32 bytes, and only an id of another length is ever refused. `send-datagram` keeps it. -/
theorem invalid_argument_no_effect (refuses : P.RefusesDatagrams) :
    (∀ (host : BindHost P) (options : EndpointOptions) (clock : Instant),
      (host.bind options clock).Meets options ↔ host.Binds options) ∧
    (∀ (config next : Config P) (addr : EndpointAddr) (alpn : Bytes),
      (endpoint P).Reachable config →
      (endpoint P).step config (.invoke (.connect addr alpn)) = .ok next →
      (config.Meets next addr ↔ addr.Dialable) ∧
      ∀ later, (endpoint P).ReachesFrom (fun _ _ => True) next later →
        later.Refused config.fresh → addr.endpointId.length ≠ 32) ∧
    ∀ (config next : Config P) (resource : Nat) (target : Target)
      (dialed : Option EndpointAddr) (entry : ConnEntry P) (data : Bytes) (error : Error),
      config.resources.get? resource = some (.connection target dialed) →
      config.state.conns.get? target.handle = some entry →
      (entry.sendDatagram data).1 = .error error → error.refuses = true →
      (endpoint P).step config (.invoke (.sendDatagram resource data)) = .ok next →
      config.Same next := by
  refine ⟨BindHost.bind_meets_iff, ?_, ?_⟩
  · intro config next addr alpn reached stepped
    refine ⟨Config.connect_meets_iff reached stepped, ?_⟩
    rintro later path refused
    have made := Config.refused_later reached stepped path refused
    exact (Config.connect_refused reached stepped).mp made
  · intro config next resource target dialed entry data error held found failed invalid stepped
    exact Config.sendDatagram_same refuses held found failed invalid stepped

/-! ## A noq with a datagram limit, and a relay that authenticates anyone -/

namespace Slab

def limitedCall (limit : Nat) {Answer : Type} :
    ConnCall Unit Bytes Answer → Connection → Answer × Connection
  | .sendDatagram data, connection =>
      if data.length > limit then (.error .tooLarge, connection)
      else call (.sendDatagram data) connection
  | operation, connection => call operation connection

/-- The platform, with connections that refuse datagrams longer than `limit`. -/
def limited (limit : Nat) : Platform := { platform with call := limitedCall limit }

private theorem limitedCall_refused {limit : Nat} {data : Bytes} {connection : Connection}
    {error : SendDatagramError}
    (refused : (limitedCall limit (.sendDatagram data) connection).1 = .error error) :
    (limitedCall limit (.sendDatagram data) connection).2 = connection := by
  rw [limitedCall] at refused ⊢
  by_cases long : data.length > limit
  · rw [if_pos long]
  · rw [if_neg long] at refused
    cases refused

private theorem limited_refuses (limit : Nat) : (limited limit).RefusesDatagrams :=
  fun _ _ _ refused _ => limitedCall_refused refused

/-- A peer connects, and the application accepts the connection. -/
def accepted : List Action :=
  List.flatten [turn [] 0, [hello 0 7], turn [0] 1, [.invoke .accept, .resume 1 .poll]]

end Slab

/-- A host whose relay authenticates anyone and whose sockets can be bound. -/
def bindingHost : BindHost Slab.platform where
  toRelayHost := greetingHost
  resetKey := .ok []
  tokenMaster := .ok []
  ServerTls := Unit
  QuicServerConfig := Unit
  serverConfig _ _ := .ok ()
  quicServerConfig _ := .ok ()
  noqEndpoint _ _ _ := []
  createSocket _ := .ok ()
  bindSocket _ := .ok ()
  localAddress addr := .ok addr

def bindingOptions (relayUrl udpBindAddr : String) : EndpointOptions :=
  ⟨sevens, [[1]], some relayUrl, some udpBindAddr, false⟩

def misdirected : EndpointAddr := ⟨(Slab.peer 7).bytes, [.relay "not a url"]⟩

/-- A datagram of five bytes is refused where four are allowed, and nothing changes. -/
theorem invalid_argument_no_effect_limited :
    ∃ (config next : Config (Slab.limited 4)) (target : Target)
      (entry : ConnEntry (Slab.limited 4)),
      (endpoint (Slab.limited 4)).Reachable config ∧
      config.resources.get? 2 = some (.connection target none) ∧
      config.state.conns.get? target.handle = some entry ∧
      (entry.sendDatagram [1, 2, 3, 4, 5]).1 =
        .error (.invalidArgument "datagram exceeds max-datagram-size") ∧
      (endpoint (Slab.limited 4)).step config (.invoke (.sendDatagram 2 [1, 2, 3, 4, 5])) =
        .ok next ∧ config.Same next := by
  have passed : (endpoint (Slab.limited 4)).runs (fun _ _ => true)
      (.bind [] true false "a://home" 0) Slab.accepted
      (fun config => config.resources.get? 2 = some (.connection ⟨0, 0⟩ none) &&
        ((config.state.conns.get? 0).any fun entry =>
          decide ((entry.sendDatagram [1, 2, 3, 4, 5]).1 =
            .error (.invalidArgument "datagram exceeds max-datagram-size"))) &&
        (config.step (.invoke (.sendDatagram 2 [1, 2, 3, 4, 5]))).isOk) = true := by
    decide +kernel
  have initial : (endpoint (Slab.limited 4)).Initial (.bind [] true false "a://home" 0) :=
    ⟨[], true, false, "a://home", 0, "wss://home/relay", by decide, rfl⟩
  rcases System.Reachable.of_runs initial passed with ⟨config, reached, tested⟩
  simp only [Bool.and_eq_true, Option.any_eq_true, decide_eq_true_eq] at tested
  rcases tested with ⟨⟨held, entry, found, failed⟩, sends⟩
  cases stepped : config.step (.invoke (.sendDatagram 2 [1, 2, 3, 4, 5])) with
  | error abort =>
      rw [stepped] at sends
      cases sends
  | ok next =>
      have same := (invalid_argument_no_effect (Slab.limited_refuses 4)).2.2 config next 2
        ⟨0, 0⟩ none entry [1, 2, 3, 4, 5] _ held found failed rfl stepped
      exact ⟨config, next, ⟨0, 0⟩, entry, reached, held, found, failed, stepped, same⟩

def Outcome.unreachable : Outcome → Bool
  | .connected (.error (.connectFailed _)) => true
  | _ => false

/-- A malformed relay URL fails `bind` and `connect` as an unreachable relay does, and `bind`
finds its UDP address malformed after a websocket was opened and a challenge signed. -/
theorem invalid_argument_late :
    (∃ options : EndpointOptions, options.Malformed ∧
      ¬ (bindingHost.bind options 0).Refused) ∧
    (∃ options : EndpointOptions, (bindingHost.bind options 0).Refused ∧
      (bindingHost.bind options 0).opened = ["wss://relay.example/relay"] ∧
      (bindingHost.bind options 0).signed = [List.replicate 32 1]) ∧
    ∃ (config next : Config Slab.platform) (addr : EndpointAddr),
      (endpoint Slab.platform).Reachable config ∧
      (endpoint Slab.platform).step config (.invoke (.connect addr [])) = .ok next ∧
      addr.Malformed ∧ ¬ next.Refused config.fresh ∧
      ∃ outcome, (config.fresh, outcome) ∈ next.outcomes ∧ outcome.unreachable = true := by
  have unreadable : Rejected "not a url" := ⟨_, rfl⟩
  refine ⟨?_, ?_, ?_⟩
  · refine ⟨bindingOptions "not a url" "0.0.0.0:0", ⟨_, rfl, unreadable⟩, ?_⟩
    exact BindHost.bind_rejected rfl (by decide) unreadable 0
  · refine ⟨bindingOptions "https://relay.example" "nowhere", ?_, ?_, ?_⟩
    · have unbound : ∃ detail, bindingHost.bindUdp "nowhere" = .error detail := ⟨_, rfl⟩
      rcases unbound with ⟨detail, unbound⟩
      exact (BindHost.bind_refused rfl (by decide) 0).mpr
        ⟨⟨_, rfl⟩, ⟨[], rfl⟩, "nowhere", detail, rfl, unbound⟩
    · decide +kernel
    · decide +kernel
  · have passed : (endpoint Slab.platform).runs (fun _ _ => true) (Slab.bound true false)
        (Slab.turn [] 0) (fun config => config.fresh = 1 &&
          ((config.step (.invoke (.connect misdirected []))).toOption.any fun next =>
            next.outcomes.any fun reported => reported.1 = 1 && reported.2.unreachable)) =
          true := by
      decide +kernel
    rcases System.Reachable.of_runs (Slab.bound_initial true false) passed with
      ⟨config, reached, tested⟩
    rw [Bool.and_eq_true, decide_eq_true_eq] at tested
    cases stepped : config.step (.invoke (.connect misdirected [])) with
    | error abort =>
        rw [stepped] at tested
        cases tested.2
    | ok next =>
        rw [stepped] at tested
        rcases tested with ⟨first, failed⟩
        refine ⟨config, next, misdirected, reached, stepped, ?_, ?_, ?_⟩
        · exact .inr ⟨"not a url", List.mem_singleton_self _, unreadable⟩
        · rw [Config.connect_refused reached stepped]
          exact not_not.mpr (Slab.peer 7).length_eq
        · rcases List.any_eq_true.mp failed with ⟨⟨id, outcome⟩, reported, fails⟩
          rw [Bool.and_eq_true, decide_eq_true_eq] at fails
          rcases fails with ⟨rfl, fails⟩
          exact ⟨outcome, first ▸ reported, fails⟩

end IrohEndpoint
