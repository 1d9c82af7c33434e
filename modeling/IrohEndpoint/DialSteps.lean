import IrohEndpoint.Dial

/-! # What a dial does between two awaits

Each stretch of `connect` is a few resolved relays followed by a failure, another
await or a dial. `keys` are the relay keys the call has resolved so far. -/

namespace IrohEndpoint

variable {P : Platform}

def ConnectPhase.peer : ConnectPhase → EndpointId
  | .dialRelay dial _ _ | .upgradeRelay dial _ _ _ => dial.peer
  | .handshake peer _ _ => peer

def ConnectPhase.keys : ConnectPhase → List UInt32
  | .dialRelay .. => [homeRelay]
  | .upgradeRelay _ dialKey _ _ => [homeRelay, dialKey]
  | .handshake .. => [homeRelay]

def ConnectPhase.claim (phase : ConnectPhase) : Option String :=
  match phase.ensure? with
  | some (url, .opening) => some url
  | _ => none

theorem ConnectPhase.claim_of_ensure {phase : ConnectPhase} {url : String}
    (suspended : phase.ensure? = some (url, .opening)) : phase.claim = some url := by
  rw [claim, suspended]

theorem ConnectPhase.claim_of_waiting {phase : ConnectPhase} {url : String}
    {started : Instant} (suspended : phase.ensure? = some (url, .waiting started)) :
    phase.claim = none := by
  rw [claim, suspended]

def State.release (state : State P) (url : String) : State P :=
  { state with
    relayOpening := state.relayOpening.filter (· ≠ normalizeRelayUrl url) }

/-- How the open a dial had in flight resolves, and the key it gives. -/
inductive Resolution (opened : Bool) (claim : Option String) (state : State P) :
    List UInt32 → State P → Prop
  | unclaimed : claim = none → Resolution opened claim state [] state
  | failed (url : String) : claim = some url →
      Resolution opened claim state [] (state.release url)
  | registered (url : String) (conn : RelayConn) : claim = some url → opened = true →
      conn.server = url → Resolution opened claim state [state.nextRelayKey]
        (((state.release url).registerRelay url conn).2.noteEnsured url state.nextRelayKey)

/-- noq is asked to dial, which leaves it as `noq`. -/
structure State.Asks (state : State P) (dial : Dial) (dialKey : UInt32) (noq : P.Endpoint) :
    Prop where
  open_ : state.closed = false
  alive : state.dead = none
  asked : ∃ now config, P.clientConfig dial.peer dial.alpn = .ok config ∧
    noq = (P.connect (state.dialRemote dial dialKey).2.noq now config
      (state.dialRemote dial dialKey).1).1

def Error.refuses : Error → Bool
  | .invalidArgument _ => true
  | _ => false

/-- The rest of a stretch of a dial to `peer`, which no longer finds fault with its
arguments. -/
inductive Dialing (peer : EndpointId) :
    List UInt32 → State P → Connecting × State P → Prop
  | failed (keys : List UInt32) (state : State P) (error : Error) : error.refuses = false →
      Dialing peer keys state (.failed error, state)
  | waiting (keys : List UInt32) (state : State P) (phase : ConnectPhase) :
      phase.ensure?.isSome = true → phase.claim = none → phase.keys ⊆ keys →
      phase.peer = peer →
      (∀ url started, phase.ensure? = some (url, .waiting started) →
        normalizeRelayUrl url ∈ state.relayOpening) →
      Dialing peer keys state (.suspended phase, state)
  | claimed (keys : List UInt32) (state : State P) (phase : ConnectPhase) (url : String) :
      phase.claim = some url → state.relayKeys.get? (normalizeRelayUrl url) = none →
      normalizeRelayUrl url ∉ state.relayOpening → state.isClosedOrDead = false →
      phase.keys ⊆ keys → phase.peer = peer →
      Dialing peer keys state (.suspended phase, { state with
        relayOpening := normalizeRelayUrl url :: state.relayOpening })
  | ensured (keys : List UInt32) (state : State P) (url : String) (key : UInt32)
      (result : Connecting × State P) :
      state.relayKeys.get? (normalizeRelayUrl url) = some key →
      Dialing peer (key :: keys) (state.noteEnsured url key) result →
      Dialing peer keys state result
  | rejected (keys : List UInt32) (state : State P) (dial : Dial) (dialKey : UInt32)
      (noq : P.Endpoint) (error : Error) : dialKey ∈ keys → dial.peer = peer →
      state.Asks dial dialKey noq → error.refuses = false →
      Dialing peer keys state
        (.failed error, { (state.dialRemote dial dialKey).2 with noq })
  | dialed (keys : List UInt32) (state inserted next : State P) (dial : Dial)
      (dialKey : UInt32) (noq : P.Endpoint) (handle : ConnectionHandle)
      (conn : P.Connection) (upgrades : List (EndpointId × UInt32)) :
      dialKey ∈ keys → (∀ upgrade ∈ upgrades, upgrade.1 = dial.peer ∧ upgrade.2 ∈ keys) →
      dial.peer = peer → state.closed = false → state.dead = none →
      inserted = ({ (state.dialRemote dial dialKey).2 with noq } : State P).insertConn
        handle conn (some dial.peer) false (.dialed dial.peer) →
      next = { inserted with pendingUpgrades := inserted.pendingUpgrades ++ upgrades } →
      state.Asks dial dialKey noq → P.Creates conn →
      Dialing peer keys state
        (.suspended (.handshake dial.peer handle
          (state.dialRemote dial dialKey).2.history.connections), next)

theorem select_target (udp webrtcEnabled : Bool) (peer : EndpointId) (alpn : Bytes)
    (addrs : List TransportAddr) :
    (Dial.select udp webrtcEnabled peer alpn addrs).peer = peer ∧
      (Dial.select udp webrtcEnabled peer alpn addrs).alpn = alpn := by
  have folded : ∀ dial : Dial,
      (addrs.foldl (Dial.consider udp webrtcEnabled) dial).peer = dial.peer ∧
      (addrs.foldl (Dial.consider udp webrtcEnabled) dial).alpn = dial.alpn := by
    induction addrs with
    | nil => exact fun _ => ⟨rfl, rfl⟩
    | cons entry addrs induction =>
        intro dial
        rw [List.foldl_cons, (induction _).1, (induction _).2]
        cases entry with
        | custom data => exact ⟨rfl, rfl⟩
        | _ => rw [Dial.consider]; split <;> exact ⟨rfl, rfl⟩
  exact folded ⟨peer, alpn, none, none, none⟩

namespace Dialing

variable {peer : EndpointId} {keys : List UInt32}

theorem dialNow (state : State P) (now : Instant) (dial : Dial) (dialKey : UInt32)
    (upgradeKey : Option UInt32) (held : dialKey ∈ keys)
    (upgradeHeld : ∀ key, upgradeKey = some key → key ∈ keys) (same : dial.peer = peer) :
    Dialing peer keys state (state.dialNow now dial dialKey upgradeKey) := by
  rw [State.dialNow]
  split
  · exact .failed keys state _ rfl
  · rename_i config _
    split
    · exact .failed keys state _ rfl
    · rename_i alive
      simp only [Bool.or_eq_true, not_or, Bool.not_eq_true, Option.isSome_eq_false_iff,
        Option.isNone_iff_eq_none] at alive
      have asks : state.Asks dial dialKey
          (P.connect (state.dialRemote dial dialKey).2.noq now config
            (state.dialRemote dial dialKey).1).1 := ⟨alive.2, alive.1, now, config, ‹_›, rfl⟩
      dsimp only
      split
      · exact .rejected keys state dial dialKey _ _ held same asks rfl
      · rename_i handle conn issued
        have created : P.Creates conn := .inr ⟨_, _, _, _, _, issued⟩
        cases upgradeKey with
        | none =>
            exact .dialed keys state _ _ dial dialKey
              (P.connect (state.dialRemote dial dialKey).2.noq now config
                (state.dialRemote dial dialKey).1).1
              handle conn [] held (by simp) same alive.2 alive.1 rfl (by simp) asks
              created
        | some key =>
            refine .dialed keys state _ _ dial dialKey _ handle conn [(dial.peer, key)]
              held ?_ same alive.2 alive.1 rfl rfl asks created
            simpa using upgradeHeld key rfl

theorem beginEnsure_cases (state : State P) (now : Instant) (url : String) :
    (∃ key, state.relayKeys.get? (normalizeRelayUrl url) = some key ∧
      state.beginEnsure now url = (.resolved (.ok key), state.noteEnsured url key)) ∨
    (∃ error : Error, error.refuses = false ∧
      state.beginEnsure now url = (.resolved (.error error), state)) ∨
    (normalizeRelayUrl url ∈ state.relayOpening ∧
      state.beginEnsure now url = (.suspended (.waiting now), state)) ∨
    (state.relayKeys.get? (normalizeRelayUrl url) = none ∧
      normalizeRelayUrl url ∉ state.relayOpening ∧ state.isClosedOrDead = false ∧
      state.beginEnsure now url = (.suspended .opening, { state with
        relayOpening := normalizeRelayUrl url :: state.relayOpening })) := by
  rw [State.beginEnsure]
  split
  · rename_i key known
    exact .inl ⟨key, known, rfl⟩
  · rename_i unknown
    split
    · exact .inr (.inl ⟨_, rfl, rfl⟩)
    · rename_i alive
      split
      · rename_i claimed
        exact .inr (.inr (.inl ⟨claimed, rfl⟩))
      · rename_i unclaimed
        split
        · exact .inr (.inl ⟨_, rfl, rfl⟩)
        · exact .inr (.inr (.inr ⟨unknown, unclaimed, by simpa using alive, rfl⟩))

theorem resolveUpgrade (state : State P) (now : Instant) (dial : Dial)
    (dialKey : UInt32) (home : homeRelay ∈ keys) (held : dialKey ∈ keys)
    (same : dial.peer = peer) :
    Dialing peer keys state (state.resolveUpgrade now dial dialKey) := by
  rw [State.resolveUpgrade.eq_def]
  split
  · rename_i url _ _
    rcases beginEnsure_cases state now url with
      ⟨key, known, equal⟩ | ⟨error, valid, equal⟩ | ⟨claimed, equal⟩ |
        ⟨unknown, unclaimed, alive, equal⟩ <;>
      rw [equal]
    · refine .ensured keys state url key _ known
        (dialNow _ now dial dialKey (some key) (by simp [held]) ?_ same)
      intro other equal
      cases equal
      simp
    · exact .failed keys state error valid
    · refine .waiting keys state _ rfl rfl ?_ same ?_
      · simp [ConnectPhase.keys, home, held]
      · rintro other started ⟨⟩
        exact claimed
    · refine .claimed keys state _ url rfl unknown unclaimed alive ?_ same
      simp [ConnectPhase.keys, home, held]
  · exact dialNow state now dial dialKey none held (by simp) same

theorem resolveDial (state : State P) (now : Instant) (dial : Dial)
    (home : homeRelay ∈ keys) (same : dial.peer = peer) :
    Dialing peer keys state (state.resolveDial now dial) := by
  rw [State.resolveDial.eq_def]
  split
  · rename_i url _ _
    rcases beginEnsure_cases state now url with
      ⟨key, known, equal⟩ | ⟨error, valid, equal⟩ | ⟨claimed, equal⟩ |
        ⟨unknown, unclaimed, alive, equal⟩ <;>
      rw [equal]
    · exact .ensured keys state url key _ known
        (resolveUpgrade _ now dial key (by simp [home]) (by simp) same)
    · exact .failed keys state error valid
    · refine .waiting keys state _ rfl rfl ?_ same ?_
      · simp [ConnectPhase.keys, home]
      · rintro other started ⟨⟩
        exact claimed
    · refine .claimed keys state _ url rfl unknown unclaimed alive ?_ same
      simp [ConnectPhase.keys, home]
  · exact resolveUpgrade state now dial homeRelay home home same

theorem connect (state : State P) (now : Instant) (udp : Bool) (addr : EndpointAddr)
    (alpn : Bytes) (home : homeRelay ∈ keys) :
    (addr.endpointId.length ≠ 32 ∧ state.connect now udp addr alpn =
      (.failed (.invalidArgument "endpoint id is not 32 bytes"), state)) ∨
    ∃ peer : EndpointId, peer.bytes = addr.endpointId ∧
      Dialing peer keys state (state.connect now udp addr alpn) := by
  rw [State.connect]
  split
  · rename_i unreadable
    rw [EndpointId.ofBytes?, dite_eq_right_iff] at unreadable
    have short : addr.endpointId.length ≠ 32 := by
      intro long
      cases unreadable long
    exact .inl ⟨short, rfl⟩
  · rename_i peer parsed
    exact .inr ⟨peer, EndpointId.ofBytes?_eq_some parsed,
      resolveDial state now _ home (select_target _ _ _ _ _).1⟩

theorem resumed (state : State P) (now : Instant) (phase : ConnectPhase)
    (result : Except Error UInt32) (suspended : phase.ensure?.isSome = true)
    (held : ∀ key, result = .ok key → key ∈ keys) (kept : phase.keys ⊆ keys)
    (valid : ∀ error, result = .error error → error.refuses = false) :
    Dialing phase.peer keys state (state.ensured now phase result) := by
  cases result with
  | error error => cases phase <;> exact .failed keys state error (valid error rfl)
  | ok key =>
      cases phase with
      | dialRelay dial url ensure =>
          exact resolveUpgrade state now dial key (kept (by simp [ConnectPhase.keys]))
            (held key rfl) rfl
      | upgradeRelay dial dialKey url ensure =>
          refine dialNow state now dial dialKey (some key)
            (kept (by simp [ConnectPhase.keys])) ?_ rfl
          intro other same
          cases same
          exact held key rfl
      | handshake peer handle serial => cases suspended

/-- The open this call claimed resolves and the call goes on. -/
theorem finishOpen (opened : Bool) (state : State P) (now : Instant)
    (phase : ConnectPhase) (url : String) (conn : Except String RelayConn)
    (suspended : phase.ensure? = some (url, .opening))
    (success : ∀ relay, conn = .ok relay → opened = true ∧ relay.server = url) :
    ∃ keys between, Resolution opened phase.claim state keys between ∧
      Dialing phase.peer (keys ++ phase.keys) between
        ((state.finishOpen url conn).2.ensured now phase (state.finishOpen url conn).1) := by
  have claim := ConnectPhase.claim_of_ensure suspended
  have suspends : phase.ensure?.isSome = true := by rw [suspended]; rfl
  cases conn with
  | error detail =>
      refine ⟨_, _, .failed url claim, resumed _ now phase _ suspends ?_
        (List.Subset.refl _) ?_⟩
      · intro key impossible
        cases impossible
      · rintro error ⟨⟩
        rfl
  | ok relay =>
      rcases success relay rfl with ⟨open_, server⟩
      refine ⟨_, _, .registered url relay claim open_ server,
        resumed _ now phase _ suspends ?_ (List.subset_cons_self _ _) ?_⟩
      · intro key same
        cases same
        exact List.mem_cons_self
      · intro error failed
        cases failed

theorem opened (state : State P) (now : Instant) (phase : ConnectPhase) {url : String}
    (suspended : phase.ensure? = some (url, .opening)) (result : Except String Unit)
    (socket : Nat) :
    ∃ keys between, Resolution true phase.claim state keys between ∧
      Dialing phase.peer (keys ++ phase.keys) between
        ((state.finishOpen url (result.map fun _ => ⟨socket, url⟩)).2.ensured now phase
          (state.finishOpen url (result.map fun _ => ⟨socket, url⟩)).1) := by
  refine finishOpen true state now phase url _ suspended ?_
  intro relay success
  cases result with
  | error detail => cases success
  | ok done =>
      cases success
      exact ⟨rfl, rfl⟩

theorem pollEnsure_none {state next : State P} {now started : Instant} {url : String}
    (polled : state.pollEnsure now started url = (none, next)) : next = state := by
  rw [State.pollEnsure] at polled
  split at polled
  · cases polled
  · split at polled
    · cases polled
    · split at polled
      · cases polled
      · split at polled <;> cases polled
        rfl

/-- A poll finds the relay another call opened, or fails. -/
theorem pollEnsure {state next : State P} (now started : Instant) (phase : ConnectPhase)
    {url : String} {result : Except Error UInt32}
    (suspended : phase.ensure?.isSome = true)
    (polled : state.pollEnsure now started url = (some result, next)) :
    Dialing phase.peer phase.keys state (next.ensured now phase result) := by
  rw [State.pollEnsure] at polled
  split at polled
  · rename_i key known
    cases polled
    refine .ensured phase.keys state url key _ known (resumed _ now phase _ suspended ?_
      (List.subset_cons_self _ _) (by simp))
    intro other same
    cases same
    simp
  · have failed : ∃ error : Error, result = .error error ∧ error.refuses = false ∧
        next = state := by
      split at polled
      · cases polled
        exact ⟨_, rfl, rfl, rfl⟩
      · split at polled
        · cases polled
          exact ⟨_, rfl, rfl, rfl⟩
        · split at polled <;> cases polled
          exact ⟨_, rfl, rfl, rfl⟩
    rcases failed with ⟨error, rfl, valid, rfl⟩
    refine resumed _ now phase _ suspended ?_ (List.Subset.refl _) ?_
    · intro key impossible
      cases impossible
    · rintro other ⟨⟩
      exact valid

end Dialing

end IrohEndpoint
