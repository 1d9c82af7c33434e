import IrohEndpoint.DialSteps
import IrohEndpoint.Slab

/-! # Upgrade hints

A connect call as a whole, from the address list to the dial. Around its two awaits the
rest of the system may do anything; two calls that differ in hints alone are compared in
the same surroundings. -/

namespace IrohEndpoint

variable {P : Platform}

/-! ## A call through its awaits -/

/-- What an await inside `ensure_relay` comes back with: its result, and the state and the
time it comes back to. -/
structure Awaited (P : Platform) where
  result : Except Error UInt32
  state : State P
  now : Instant

/-- The rest of the system, as a call suspended in `ensure_relay` sees it. -/
abbrev Surroundings (P : Platform) := State P → Instant → String → EnsurePhase → Awaited P

/-- A connect call followed through at most `awaits` of its awaits. -/
def Connecting.settle (around : Surroundings P) :
    Nat → Instant → Connecting × State P → Connecting × State P
  | awaits + 1, now, (.suspended phase, state) =>
      match phase.ensure? with
      | some (url, ensure) =>
          let back := around state now url ensure
          settle around awaits back.now (back.state.ensured back.now phase back.result)
      | none => (.suspended phase, state)
  | _, _, progress => progress

/-- `ensure_relay` as a whole. -/
def State.ensureRelay (state : State P) (around : Surroundings P) (now : Instant)
    (url : String) : Awaited P :=
  match state.beginEnsure now url with
  | (.resolved result, state) => ⟨result, state, now⟩
  | (.suspended phase, state) => around state now url phase

/-- What a connect call has settled when it comes to the dial. -/
structure Choice (P : Platform) where
  dial : Dial
  dialKey : UInt32
  upgradeKey : Option UInt32
  state : State P
  now : Instant

namespace State

variable (around : Surroundings P)

/-- The dial relay's key: that of the relay entry, the home relay's without one. -/
def dialRelay (state : State P) (now : Instant) (dial : Dial) : Awaited P :=
  match dial.direct, dial.dialRelay with
  | none, some url => state.ensureRelay around now url
  | _, _ => ⟨.ok homeRelay, state, now⟩

def upgradeRelay (state : State P) (now : Instant) (dial : Dial) : Awaited P × Bool :=
  match dial.direct, dial.webrtcHint with
  | none, some url => (state.ensureRelay around now url, true)
  | _, _ => (⟨.ok homeRelay, state, now⟩, false)

def chooseUpgrade (state : State P) (now : Instant)
    (dial : Dial) (dialKey : UInt32) : Except (Error × State P) (Choice P) :=
  let second := state.upgradeRelay around now dial
  match second.1.result with
  | .error error => .error (error, second.1.state)
  | .ok key => .ok ⟨dial, dialKey, if second.2 then some key else none, second.1.state,
      second.1.now⟩

def choose (state : State P) (now : Instant) (dial : Dial) :
    Except (Error × State P) (Choice P) :=
  let first := state.dialRelay around now dial
  match first.result with
  | .error error => .error (error, first.state)
  | .ok dialKey => first.state.chooseUpgrade around first.now dial dialKey

end State

/-- The address noq is asked to connect to, if it comes to that. -/
def Choice.remote (choice : Choice P) : Except Error SocketAddr :=
  match P.clientConfig choice.dial.peer choice.dial.alpn with
  | .error detail => .error (.other detail)
  | .ok _ =>
      if choice.state.isClosedOrDead then .error .closed
      else .ok (choice.state.dialRemote choice.dial choice.dialKey).1

/-- The dial of a connect call, or the error it fails with before. -/
def State.dials (state : State P) (around : Surroundings P) (now : Instant) (udp : Bool)
    (addr : EndpointAddr) (alpn : Bytes) : Except Error (Choice P × SocketAddr) :=
  match EndpointId.ofBytes? addr.endpointId with
  | none => .error (.invalidArgument "endpoint id is not 32 bytes")
  | some peer =>
      match state.choose around now (.select udp state.webrtcEnabled peer alpn addr.addrs) with
      | .error failure => .error failure.1
      | .ok choice =>
          match choice.remote with
          | .error error => .error error
          | .ok remote => .ok (choice, remote)

def State.dialChosen : Except (Error × State P) (Choice P) → Connecting × State P
  | .error (error, state) => (.failed error, state)
  | .ok choice =>
      choice.state.dialNow choice.now choice.dial choice.dialKey choice.upgradeKey

/-! ## The call is its choice and its dial -/

namespace State

variable {around : Surroundings P}

private theorem settle_ensured {awaits : Nat} {now : Instant} {state : State P}
    {phase : ConnectPhase}
    {url : String} {ensure : EnsurePhase} (waits : phase.ensure? = some (url, ensure)) :
    Connecting.settle around (awaits + 1) now (.suspended phase, state) =
      Connecting.settle around awaits (around state now url ensure).now
        ((around state now url ensure).state.ensured (around state now url ensure).now phase
          (around state now url ensure).result) := by
  rw [Connecting.settle, waits]

private theorem settle_dialNow (awaits : Nat) (now : Instant) (state : State P) (later : Instant)
    (dial : Dial) (dialKey : UInt32) (upgradeKey : Option UInt32) :
    Connecting.settle around awaits now (state.dialNow later dial dialKey upgradeKey) =
      state.dialNow later dial dialKey upgradeKey := by
  have ended : ∀ result : Connecting × State P,
      (∀ phase, result.1 = .suspended phase → phase.ensure? = none) →
      Connecting.settle around awaits now result = result := by
    rintro ⟨progress, next⟩ unwaiting
    cases awaits with
    | zero => rw [Connecting.settle]; intro _ _ _ absurd_; cases absurd_
    | succ awaits =>
        cases progress with
        | failed error => rfl
        | suspended phase => rw [Connecting.settle, unwaiting phase rfl]
  apply ended
  intro phase suspended
  rw [dialNow] at suspended
  split at suspended
  · cases suspended
  · split at suspended
    · cases suspended
    · dsimp only at suspended
      split at suspended
      · cases suspended
      · cases suspended
        rfl

private theorem settle_failed (awaits : Nat) (now : Instant) (error : Error) (state : State P) :
    Connecting.settle around awaits now (.failed error, state) = (.failed error, state) := by
  cases awaits <;> rfl

private theorem settle_resolveUpgrade (awaits : Nat) (now : Instant) (state : State P) (dial : Dial)
    (dialKey : UInt32) :
    Connecting.settle around (awaits + 1) now (state.resolveUpgrade now dial dialKey) =
      dialChosen (state.chooseUpgrade around now dial dialKey) := by
  rw [resolveUpgrade, chooseUpgrade, upgradeRelay]
  cases direct : dial.direct with
  | some real => exact settle_dialNow ..
  | none =>
      cases hint : dial.webrtcHint with
      | none => exact settle_dialNow ..
      | some url =>
          dsimp only
          rw [ensureRelay]
          rcases state.beginEnsure now url with ⟨start, next⟩
          cases start with
          | resolved result =>
              cases result with
              | error error => exact settle_failed ..
              | ok key => exact settle_dialNow ..
          | suspended phase =>
              dsimp only
              rw [settle_ensured (by rfl)]
              cases result : (around next now url phase).result with
              | error error => exact settle_failed ..
              | ok key =>
                  exact settle_dialNow awaits _ (around next now url phase).state _ dial dialKey
                    (some key)

private theorem settle_resolveDial (now : Instant) (state : State P) (dial : Dial) :
    Connecting.settle around 2 now (state.resolveDial now dial) =
      dialChosen (state.choose around now dial) := by
  rw [resolveDial, choose, dialRelay]
  cases direct : dial.direct with
  | some real => exact settle_resolveUpgrade 1 now state dial homeRelay
  | none =>
      cases relay : dial.dialRelay with
      | none => exact settle_resolveUpgrade 1 now state dial homeRelay
      | some url =>
          dsimp only
          rw [ensureRelay]
          rcases state.beginEnsure now url with ⟨start, next⟩
          cases start with
          | resolved result =>
              cases result with
              | error error => exact settle_failed ..
              | ok key => exact settle_resolveUpgrade 1 now next dial key
          | suspended phase =>
              dsimp only
              rw [settle_ensured (by rfl)]
              cases result : (around next now url phase).result with
              | error error => exact settle_failed ..
              | ok key => exact settle_resolveUpgrade 0 _ _ dial key

theorem settle_connect {peer : EndpointId} (now : Instant) (udp : Bool) (state : State P)
    {addr : EndpointAddr} (alpn : Bytes)
    (parsed : EndpointId.ofBytes? addr.endpointId = some peer) :
    Connecting.settle around 2 now (state.connect now udp addr alpn) =
      dialChosen (state.choose around now
        (.select udp state.webrtcEnabled peer alpn addr.addrs)) := by
  rw [connect, parsed]
  exact settle_resolveDial now state _

end State

theorem Choice.dialNow (choice : Choice P) :
    (∃ error, choice.remote = .error error ∧
      choice.state.dialNow choice.now choice.dial choice.dialKey choice.upgradeKey =
        (.failed error, choice.state)) ∨
    ∃ remote config, choice.remote = .ok remote ∧
      P.clientConfig choice.dial.peer choice.dial.alpn = .ok config ∧
      ((P.connect (choice.state.dialRemote choice.dial choice.dialKey).2.noq choice.now config
        remote).2.isOk = true ↔
      ∃ phase, (choice.state.dialNow choice.now choice.dial choice.dialKey
        choice.upgradeKey).1 = .suspended phase) := by
  rw [remote, State.dialNow, State.isClosedOrDead]
  cases P.clientConfig choice.dial.peer choice.dial.alpn with
  | error detail => exact .inl ⟨_, rfl, rfl⟩
  | ok config =>
      dsimp only
      rw [Bool.or_comm]
      split
      · exact .inl ⟨_, rfl, rfl⟩
      · refine .inr ⟨_, config, rfl, rfl, ?_⟩
        cases (P.connect (choice.state.dialRemote choice.dial choice.dialKey).2.noq choice.now
          config (choice.state.dialRemote choice.dial choice.dialKey).1).2 with
        | error detail => simp [Except.isOk, Except.toBool]
        | ok dialed => simp [Except.isOk, Except.toBool]

/-! ## Hints -/

def TransportAddr.hint : TransportAddr → Bool
  | .relay _ => false
  | .ip text => (SocketAddr.parse text).isNone
  | .webrtc _ => true
  | .custom _ => true

/-- The second list is the first with hints inserted, at any positions. -/
inductive Hinted : List TransportAddr → List TransportAddr → Prop
  | nil : Hinted [] []
  | kept {addrs hinted : List TransportAddr} (entry : TransportAddr) (rest : Hinted addrs hinted) :
      Hinted (entry :: addrs) (entry :: hinted)
  | inserted {addrs hinted : List TransportAddr} {entry : TransportAddr}
      (hint : entry.hint = true) (rest : Hinted addrs hinted) : Hinted addrs (entry :: hinted)

def Dial.SameTarget (left right : Dial) : Prop :=
  left.peer = right.peer ∧ left.alpn = right.alpn ∧ left.direct = right.direct ∧
    left.dialRelay = right.dialRelay

theorem Dial.SameTarget.consider {left right : Dial} (same : left.SameTarget right)
    (udp webrtcEnabled : Bool) (entry : TransportAddr) :
    (left.consider udp webrtcEnabled entry).SameTarget
      (right.consider udp webrtcEnabled entry) := by
  rcases same with ⟨peer, alpn, direct, relay⟩
  cases entry with
  | relay url =>
      simp only [Dial.consider, relay]
      split
      · exact ⟨peer, alpn, direct, rfl⟩
      · exact ⟨peer, alpn, direct, relay⟩
  | ip text =>
      simp only [Dial.consider, direct]
      split
      · exact ⟨peer, alpn, rfl, relay⟩
      · exact ⟨peer, alpn, direct, relay⟩
  | webrtc url =>
      simp only [Dial.consider]
      split <;> split <;> exact ⟨peer, alpn, direct, relay⟩
  | custom data => exact ⟨peer, alpn, direct, relay⟩

private theorem Dial.consider_hint {entry : TransportAddr} (hint : entry.hint = true)
    (udp webrtcEnabled : Bool) (dial : Dial) :
    dial.SameTarget (dial.consider udp webrtcEnabled entry) := by
  cases entry with
  | relay url => cases hint
  | ip text =>
      have unparsed : SocketAddr.parse text = none := by simpa [TransportAddr.hint] using hint
      simp only [Dial.consider, unparsed]
      split
      · rename_i free
        have none_ : dial.direct = none := by simp at free; exact free.1
        exact ⟨rfl, rfl, none_, rfl⟩
      · exact ⟨rfl, rfl, rfl, rfl⟩
  | webrtc url =>
      simp only [Dial.consider]
      split <;> exact ⟨rfl, rfl, rfl, rfl⟩
  | custom data => exact ⟨rfl, rfl, rfl, rfl⟩

theorem Dial.SameTarget.trans {left middle right : Dial} (first : left.SameTarget middle)
    (second : middle.SameTarget right) : left.SameTarget right :=
  ⟨first.1.trans second.1, first.2.1.trans second.2.1, first.2.2.1.trans second.2.2.1,
    first.2.2.2.trans second.2.2.2⟩

theorem Hinted.select {addrs hinted : List TransportAddr} (inserted : Hinted addrs hinted)
    (udp webrtcEnabled : Bool) (peer : EndpointId) (alpn : Bytes) :
    (Dial.select udp webrtcEnabled peer alpn addrs).SameTarget
      (Dial.select udp webrtcEnabled peer alpn hinted) := by
  have folded : ∀ {left right : Dial}, left.SameTarget right →
      (addrs.foldl (Dial.consider udp webrtcEnabled) left).SameTarget
        (hinted.foldl (Dial.consider udp webrtcEnabled) right) := by
    induction inserted with
    | nil => exact fun same => same
    | kept entry rest induction =>
        exact fun same => induction (same.consider udp webrtcEnabled entry)
    | inserted hint rest induction =>
        exact fun same => induction (same.trans (Dial.consider_hint hint udp webrtcEnabled _))
  exact folded ⟨rfl, rfl, rfl, rfl⟩

/-! ## What the selection picks -/

def TransportAddr.relayUrl? : TransportAddr → Option String
  | .relay url => some url
  | _ => none

def TransportAddr.address? : TransportAddr → Option SocketAddr
  | .ip text => SocketAddr.parse text
  | _ => none

/-- The dial path: the first parseable `ip` entry when a socket is bound, and the first
relay entry. -/
theorem Dial.select_first (udp webrtcEnabled : Bool) (peer : EndpointId) (alpn : Bytes)
    (addrs : List TransportAddr) :
    (Dial.select udp webrtcEnabled peer alpn addrs).direct =
      (if udp then addrs.findSome? TransportAddr.address? else none) ∧
    (Dial.select udp webrtcEnabled peer alpn addrs).dialRelay =
      addrs.findSome? TransportAddr.relayUrl? := by
  have folded : ∀ dial : Dial,
      (addrs.foldl (Dial.consider udp webrtcEnabled) dial).direct =
        dial.direct.or (if udp then addrs.findSome? TransportAddr.address? else none) ∧
      (addrs.foldl (Dial.consider udp webrtcEnabled) dial).dialRelay =
        dial.dialRelay.or (addrs.findSome? TransportAddr.relayUrl?) := by
    induction addrs with
    | nil => simp
    | cons entry addrs induction =>
        intro dial
        rw [List.foldl_cons, (induction _).1, (induction _).2]
        cases entry with
        | relay url =>
            cases held : dial.dialRelay <;>
              simp [Dial.consider, held, TransportAddr.address?,
                TransportAddr.relayUrl?, List.findSome?_cons]
        | ip text =>
            cases udp with
            | false => simp [Dial.consider, TransportAddr.relayUrl?, List.findSome?_cons]
            | true =>
                cases held : dial.direct <;> cases parsed : SocketAddr.parse text <;>
                  simp [Dial.consider, held, parsed, TransportAddr.address?,
                    TransportAddr.relayUrl?, List.findSome?_cons]
        | webrtc url =>
            by_cases free : (webrtcEnabled && dial.webrtcHint.isNone) = true <;>
              simp [Dial.consider, free, TransportAddr.address?,
                TransportAddr.relayUrl?, List.findSome?_cons]
        | custom data =>
            simp [Dial.consider, TransportAddr.address?, TransportAddr.relayUrl?,
              List.findSome?_cons]
  have start := folded ⟨peer, alpn, none, none, none⟩
  exact ⟨by simpa [Dial.select] using start.1, by simpa [Dial.select] using start.2⟩

/-! ## The dial and the hints -/

def State.obtains (state : State P) (around : Surroundings P) (now : Instant) (dial : Dial) :
    Bool :=
  (state.upgradeRelay around now dial).1.result.isOk &&
    !(state.upgradeRelay around now dial).1.state.isClosedOrDead

/-- Unless the call fails for its endpoint id, its dial relay or its TLS configuration, it
obtains the upgrade relay of one list as it does that of the other. -/
def State.ObtainsAlike (state : State P) (around : Surroundings P) (now : Instant) (udp : Bool)
    (id alpn : Bytes) (addrs hinted : List TransportAddr) : Prop :=
  ∀ peer config dialKey, EndpointId.ofBytes? id = some peer →
    P.clientConfig peer alpn = .ok config →
    (state.dialRelay around now (.select udp state.webrtcEnabled peer alpn addrs)).result =
      .ok dialKey →
    let relay := state.dialRelay around now (.select udp state.webrtcEnabled peer alpn addrs)
    relay.state.obtains around relay.now (.select udp state.webrtcEnabled peer alpn hinted) =
      relay.state.obtains around relay.now (.select udp state.webrtcEnabled peer alpn addrs)

private theorem State.dialRelay_sameTarget {left right : Dial} (same : left.SameTarget right)
    (state : State P) (around : Surroundings P) (now : Instant) :
    state.dialRelay around now left = state.dialRelay around now right := by
  rw [dialRelay, dialRelay, same.2.2.1, same.2.2.2]

private theorem State.choose_cases (state : State P) (around : Surroundings P) (now : Instant)
    (dial : Dial) :
    (∃ failure, state.choose around now dial = .error failure ∧
      ((∃ error, (state.dialRelay around now dial).result = .error error) ∨
        (state.dialRelay around now dial).state.obtains around
          (state.dialRelay around now dial).now dial = false)) ∨
    ∃ choice dialKey, state.choose around now dial = .ok choice ∧
      (state.dialRelay around now dial).result = .ok dialKey ∧
      choice.dial = dial ∧ choice.dialKey = dialKey ∧
      (state.dialRelay around now dial).state.obtains around
        (state.dialRelay around now dial).now dial = !choice.state.isClosedOrDead := by
  rw [choose]
  cases relay : (state.dialRelay around now dial).result with
  | error error => exact .inl ⟨_, rfl, .inl ⟨error, rfl⟩⟩
  | ok dialKey =>
      dsimp only
      rw [chooseUpgrade, obtains]
      cases upgrade : ((state.dialRelay around now dial).state.upgradeRelay around
          (state.dialRelay around now dial).now dial).1.result with
      | error error => exact .inl ⟨_, rfl, .inr rfl⟩
      | ok key => exact .inr ⟨_, dialKey, rfl, rfl, rfl, rfl, rfl⟩

private theorem State.dials_error {state : State P} {around : Surroundings P} {now : Instant}
    {udp : Bool}
    {addr : EndpointAddr} {alpn : Bytes} :
    (∃ error, state.dials around now udp addr alpn = .error error) ↔
      ∀ peer config dialKey, EndpointId.ofBytes? addr.endpointId = some peer →
        P.clientConfig peer alpn = .ok config →
        (state.dialRelay around now
          (.select udp state.webrtcEnabled peer alpn addr.addrs)).result = .ok dialKey →
        (state.dialRelay around now
          (.select udp state.webrtcEnabled peer alpn addr.addrs)).state.obtains around
            (state.dialRelay around now
              (.select udp state.webrtcEnabled peer alpn addr.addrs)).now
            (.select udp state.webrtcEnabled peer alpn addr.addrs) = false := by
  rw [dials]
  cases parsed : EndpointId.ofBytes? addr.endpointId with
  | none => simp
  | some peer =>
      dsimp only
      have selected := select_target udp state.webrtcEnabled peer alpn addr.addrs
      rcases state.choose_cases around now (.select udp state.webrtcEnabled peer alpn addr.addrs)
        with ⟨failure, chosen, cause⟩ | ⟨choice, key, chosen, had, dial, dialed, obtained⟩
      · rw [chosen]
        refine ⟨?_, fun _ => ⟨_, rfl⟩⟩
        rintro - other config dialKey ⟨⟩ _ relay
        rcases cause with ⟨error, failed⟩ | unobtained
        · rw [failed] at relay
          cases relay
        · exact unobtained
      · rw [chosen]
        dsimp only
        rw [Choice.remote, dial, selected.1, selected.2]
        cases configured : P.clientConfig peer alpn with
        | error detail =>
            refine ⟨?_, fun _ => ⟨_, rfl⟩⟩
            rintro - other config dialKey ⟨⟩ impossible
            rw [configured] at impossible
            cases impossible
        | ok config =>
            dsimp only
            cases shut : choice.state.isClosedOrDead with
            | true =>
                refine ⟨?_, fun _ => ⟨_, rfl⟩⟩
                rintro - other config dialKey ⟨⟩ _ _
                rw [obtained, shut]
                rfl
            | false =>
                rw [shut] at obtained
                constructor
                · rintro ⟨error, absurd_⟩
                  cases absurd_
                · intro unobtained
                  rw [unobtained peer config key rfl configured had] at obtained
                  cases obtained

private theorem State.dials_ok {state : State P} {around : Surroundings P} {now : Instant}
    {udp : Bool}
    {addr : EndpointAddr} {alpn : Bytes} {choice : Choice P} {remote : SocketAddr}
    (dialed : state.dials around now udp addr alpn = .ok (choice, remote)) :
    ∃ peer, EndpointId.ofBytes? addr.endpointId = some peer ∧
      choice.dial = .select udp state.webrtcEnabled peer alpn addr.addrs ∧
      (state.dialRelay around now choice.dial).result = .ok choice.dialKey ∧
      remote = (choice.state.dialRemote choice.dial choice.dialKey).1 := by
  rw [dials] at dialed
  cases parsed : EndpointId.ofBytes? addr.endpointId with
  | none =>
      rw [parsed] at dialed
      cases dialed
  | some peer =>
      rw [parsed] at dialed
      dsimp only at dialed
      refine ⟨peer, rfl, ?_⟩
      rcases state.choose_cases around now (.select udp state.webrtcEnabled peer alpn addr.addrs)
        with ⟨failure, chosen, _⟩ | ⟨other, key, chosen, had, dial, dialKey, _⟩
      · rw [chosen] at dialed
        cases dialed
      · rw [chosen] at dialed
        dsimp only at dialed
        cases given : other.remote with
        | error error =>
            rw [given] at dialed
            cases dialed
        | ok address =>
            rw [given] at dialed
            cases dialed
            refine ⟨dial, ?_, ?_⟩
            · rw [dial, dialKey]
              exact had
            · rw [Choice.remote] at given
              split at given
              · cases given
              · split at given
                · cases given
                · cases given
                  rfl

private theorem State.dialRemote_eq (state : State P) (dial : Dial) (dialKey : UInt32) :
    (state.dialRemote dial dialKey).1 =
      dial.direct.getD (state.addrForPeer dial.peer dialKey).1 := by
  rw [dialRemote]
  cases dial.direct with
  | some real => rfl
  | none =>
      dsimp only
      rw [dialStandin]
      dsimp only
      split <;> rfl

/-- Inserting hints into the address list changes neither the remote, which is the first
parseable `ip` entry when a socket is bound and the peer's standin otherwise, nor the dial
relay. It changes whether the call fails before dialing exactly when the upgrade relay of
one list cannot be obtained and that of the other can. -/
theorem hints_keep_dial_iff (state : State P) (around : Surroundings P) (now : Instant)
    (udp : Bool) (id alpn : Bytes) {addrs hinted : List TransportAddr}
    (inserted : Hinted addrs hinted) :
    (∀ choice remote, state.dials around now udp ⟨id, hinted⟩ alpn = .ok (choice, remote) →
      ∃ peer, EndpointId.ofBytes? id = some peer ∧
        remote = (if udp then addrs.findSome? TransportAddr.address? else none).getD
          (choice.state.addrForPeer peer choice.dialKey).1 ∧
        choice.dial.dialRelay = addrs.findSome? TransportAddr.relayUrl? ∧
        ∀ plain other, state.dials around now udp ⟨id, addrs⟩ alpn = .ok (plain, other) →
          plain.dialKey = choice.dialKey ∧ plain.dial.SameTarget choice.dial ∧
          other = (if udp then addrs.findSome? TransportAddr.address? else none).getD
            (plain.state.addrForPeer peer plain.dialKey).1) ∧
    (((∃ error, state.dials around now udp ⟨id, hinted⟩ alpn = .error error) ↔
        ∃ error, state.dials around now udp ⟨id, addrs⟩ alpn = .error error) ↔
      state.ObtainsAlike around now udp id alpn addrs hinted) := by
  have same := fun peer => inserted.select udp state.webrtcEnabled peer alpn
  refine ⟨?_, ?_⟩
  · intro choice remote dialed
    rcases State.dials_ok dialed with ⟨peer, parsed, dial, had, given⟩
    have first := Dial.select_first udp state.webrtcEnabled peer alpn addrs
    refine ⟨peer, parsed, ?_, ?_, ?_⟩
    · rw [given, State.dialRemote_eq, dial, (select_target _ _ _ _ _).1, ← (same peer).2.2.1,
        first.1]
    · rw [dial, ← (same peer).2.2.2, first.2]
    · intro plain other undisturbed
      rcases State.dials_ok undisturbed with ⟨peer', parsed', dial', had', given'⟩
      dsimp only at parsed parsed' dial dial'
      rw [parsed] at parsed'
      cases parsed'
      have targets : plain.dial.SameTarget choice.dial := by
        rw [dial, dial']
        exact same peer
      refine ⟨?_, targets, ?_⟩
      · rw [State.dialRelay_sameTarget targets, had] at had'
        exact (Except.ok.inj had').symm
      · rw [given', State.dialRemote_eq, dial', (select_target _ _ _ _ _).1, first.1]
  · rw [State.dials_error, State.dials_error]
    constructor
    · intro agree peer config dialKey parsed configured had
      dsimp only
      have relay := State.dialRelay_sameTarget (same peer) state around now
      cases obtained : (state.dialRelay around now (.select udp state.webrtcEnabled peer alpn
          addrs)).state.obtains around (state.dialRelay around now
            (.select udp state.webrtcEnabled peer alpn addrs)).now
          (.select udp state.webrtcEnabled peer alpn addrs) with
      | false =>
          have unobtained := agree.mpr (by
            intro other _ _ parses _ _
            rw [parsed] at parses
            cases parses
            exact obtained) peer config dialKey parsed configured (relay ▸ had)
          rw [← relay] at unobtained
          exact unobtained
      | true =>
          rw [← Bool.not_eq_false]
          intro lost
          have unobtained := agree.mp (by
            intro other _ _ parses _ _
            rw [parsed] at parses
            cases parses
            rw [← relay]
            exact lost) peer config dialKey parsed configured had
          rw [obtained] at unobtained
          cases unobtained
    · intro alike
      constructor
      · intro failing peer config dialKey parsed configured had
        have relay := State.dialRelay_sameTarget (same peer) state around now
        have lost := failing peer config dialKey parsed configured (relay ▸ had)
        rw [← relay] at lost
        rw [← alike peer config dialKey parsed configured had]
        exact lost
      · intro failing peer config dialKey parsed configured had
        have relay := State.dialRelay_sameTarget (same peer) state around now
        rw [← relay] at had
        have lost := failing peer config dialKey parsed configured had
        rw [← relay]
        exact (alike peer config dialKey parsed configured had).trans lost

/-- Surroundings in which nobody else acts: an open resolves as the relay answers. -/
def alone (answers : String → Except String Unit) : Surroundings P :=
  fun state now url phase =>
    match phase with
    | .opening =>
        let (result, state) := state.finishOpen url ((answers url).map fun _ => ⟨1, url⟩)
        ⟨result, state, now⟩
    | .waiting _ => ⟨.error (.connectFailed "relay open timed out"), state, now⟩

/-- A hint whose relay opens changes nothing. -/
theorem hints_keep_dial_opened :
    (∃ error, (Slab.bound true false).state.dials (alone fun _ => .ok ()) 0 false
        ⟨(Slab.peer 7).bytes, [.custom [1], .webrtc "a://far"]⟩ [] = .error error) ↔
      ∃ error, (Slab.bound true false).state.dials (alone fun _ => .ok ()) 0 false
        ⟨(Slab.peer 7).bytes, []⟩ [] = .error error := by
  apply (hints_keep_dial_iff (Slab.bound true false).state (alone fun _ => .ok ()) 0 false
    (Slab.peer 7).bytes [] (.inserted rfl (.inserted rfl .nil))).2.mpr
  intro peer config dialKey parsed _ _
  have seven : EndpointId.ofBytes? (Slab.peer 7).bytes = some (Slab.peer 7) := by decide
  rw [seven] at parsed
  cases parsed
  decide +kernel

/-- A hint whose relay refuses fails a call that would have dialed the home relay. -/
theorem unreachable_hint_fails_dial :
    Hinted [] [.webrtc "a://far"] ∧
    ((Slab.bound true false).state.dials (alone fun _ => .error "refused") 0 false
      ⟨(Slab.peer 7).bytes, []⟩ []).isOk = true ∧
    ((Slab.bound true false).state.dials (alone fun _ => .error "refused") 0 false
      ⟨(Slab.peer 7).bytes, [.webrtc "a://far"]⟩ []).isOk = false := by
  refine ⟨.inserted rfl .nil, ?_, ?_⟩
  · decide +kernel
  · decide +kernel

end IrohEndpoint
