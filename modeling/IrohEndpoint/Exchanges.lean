import IrohEndpoint.SecondOffers

/-! # What a session does to its exchange when it resumes

Seen from the two queues it works on, a session that resumes claims or gives up its slot,
publishes its description or what follows it, or reads from the front of its inbox. -/

namespace IrohEndpoint

variable {P : Platform}

namespace Signal

def isOffer : Signal → Bool
  | .offer _ => true
  | _ => false

def isAnswer : Signal → Bool
  | .answer _ => true
  | _ => false

def follows (signal : Signal) : Bool := !signal.isOffer && !signal.isAnswer

end Signal

namespace Session

variable (P) in
def Trickle (json : Bytes) : Prop :=
  ∃ signal, P.encodeSignal signal = .ok json ∧ signal.follows = true

/-- A session that reads its peer's signals has come to one of them. -/
inductive Hears (session after : Session) : Option Signal → Prop
  | nothing : after.phase.stage = .exchanging → after.applied = session.applied →
      Hears session after none
  | applied (signal : Signal) : signal.applies = true → after.phase.stage = .exchanging →
      after.applied = session.applied ++ [signal] → Hears session after (some signal)
  | done : after.phase.stage = .passed → after.applied = session.applied →
      Hears session after (some .done)

namespace Hears

variable {session after : Session} {heard : Option Signal}

theorem stage (hears : Hears session after heard) :
    after.phase.stage = .exchanging ∨ (after.phase.stage = .passed ∧ heard = some .done) := by
  cases hears with
  | nothing stage _ => exact .inl stage
  | applied signal _ stage _ => exact .inl stage
  | done stage _ => exact .inr ⟨stage, rfl⟩

theorem unoffered (hears : Hears session after heard) :
    ∀ signal ∈ heard.toList, signal.isOffer = false := by
  intro signal member
  cases hears with
  | nothing _ _ => cases member
  | applied first applies _ _ =>
      rw [Option.toList_some, List.mem_singleton] at member
      subst member
      cases signal with
      | offer sdp => cases applies
      | _ => rfl
  | done _ _ =>
      rw [Option.toList_some, List.mem_singleton] at member
      subst member
      rfl

theorem applied_read (hears : Hears session after heard) {read : List Bytes}
    (signals : signalsIn P read = heard.toList) :
    after.applied = session.applied ++ (signalsIn P read).filter
      fun signal => decide (signal ≠ .done) := by
  rw [signals]
  cases hears with
  | nothing _ applied => simpa using applied
  | applied signal applies _ applied =>
      rw [applied]
      cases signal with
      | answer sdp => rfl
      | candidate candidate mid index => rfl
      | _ => cases applies
  | done _ applied => simpa using applied

end Hears

inductive Exchanges (session : Session) (state : State P) (after : Session)
    (said : List Bytes) (next : State P) : Prop
  -- the session holds no slot and gets none
  | idle : session.live = false → after.live = false → said = [] →
      next.signaling.get? session.peer = state.signaling.get? session.peer →
      next.inbox session.peer = state.inbox session.peer →
      Exchanges session state after said next
  | claimed : session.role = .offerer → session.phase = .spawned →
      state.signaling.get? session.peer = none → after.live = true →
      after.phase.stage = .silent → after.applied = session.applied → said = [] →
      next.signaling.contains session.peer = true →
      next.inbox session.peer = state.inbox session.peer →
      Exchanges session state after said next
  | moved : session.live = true → after.live = true →
      after.phase.stage = session.phase.stage → after.applied = session.applied →
      said = [] → next.signaling.contains session.peer = true →
      next.inbox session.peer = state.inbox session.peer →
      Exchanges session state after said next
  | ended : session.live = true → after.live = false →
      (∀ json ∈ said, Trickle P json) → (said ≠ [] → session.phase.stage = .described) →
      next.signaling.get? session.peer = none →
      Exchanges session state after said next
  | described (sdp : String) (json : Bytes) : session.live = true →
      session.phase.stage = .silent → after.live = true → after.phase.stage = .described →
      after.applied = session.applied →
      P.encodeSignal (session.ownDescription sdp) = .ok json → said = [json] →
      next.signaling.contains session.peer = true →
      next.inbox session.peer = state.inbox session.peer →
      Exchanges session state after said next
  | consumed (heard : Option Signal) (read : List Bytes) : session.live = true →
      after.live = true → session.phase.stage = .described ∨ session.phase.stage = .exchanging →
      (∀ json ∈ said, Trickle P json) → (said ≠ [] → session.phase.stage = .described) →
      state.isClosedOrDead = false → Hears session after heard →
      state.inbox session.peer = read ++ next.inbox session.peer →
      signalsIn P read = heard.toList → next.signaling.contains session.peer = true →
      Exchanges session state after said next
  | took (sdp : String) (read : List Bytes) : session.role = .answerer →
      session.live = true → session.phase.stage = .starting → after.live = true →
      after.phase.stage = .silent → after.applied = session.applied ++ [.offer sdp] →
      said = [] → state.inbox session.peer = read ++ next.inbox session.peer →
      signalsIn P read = [.offer sdp] → next.signaling.contains session.peer = true →
      Exchanges session state after said next
  | waited (read : List Bytes) : session.role = .answerer → session.live = true →
      session.phase.stage = .starting → after.live = true →
      after.phase.stage = .starting → after.applied = session.applied → said = [] →
      state.inbox session.peer = read ++ next.inbox session.peer →
      signalsIn P read = [] → next.signaling.contains session.peer = true →
      Exchanges session state after said next

variable {session : Session} {now : Instant} {wire : ChannelWire} {state : State P}
variable {relay : UInt32}

private theorem read_significant {inbox rest : List Bytes} {heard : Option Signal}
    (next : nextSignificant P inbox = (heard, rest)) :
    ∃ read, inbox = read ++ rest ∧ signalsIn P read = heard.toList := by
  have suffix := nextSignificant_suffix P inbox
  have signals := signalsIn_eq (P := P) inbox
  rw [next] at suffix signals
  rcases suffix with ⟨read, rfl⟩
  rw [signalsIn_append] at signals
  exact ⟨read, rfl, List.append_cancel_right signals⟩

private theorem fail_exchanges (live : session.live = true) (middle : State P) (error : Error)
    {said : List Bytes} (trickles : ∀ json ∈ said, Trickle P json)
    (described : said ≠ [] → session.phase.stage = .described) :
    session.Exchanges state (session.fail middle error).1 said
      (session.fail middle error).2.2 :=
  .ended live (by simp [fail, moveTo, Session.live]) trickles described
    (by simp [fail, State.endSignaling])

private theorem consume_exchanges (live : session.live = true)
    (stage : session.phase.stage = .described ∨ session.phase.stage = .exchanging)
    (held : state.signaling.get? session.peer = some relay) {said : List Bytes}
    (trickles : ∀ json ∈ said, Trickle P json)
    (described : said ≠ [] → session.phase.stage = .described) :
    session.Exchanges state
      (session.consume now (state.speaks relay session.peer said)).1 said
      (session.consume now (state.speaks relay session.peer said)).2.2 := by
  cases open_ : state.isClosedOrDead with
  | true =>
      rw [consume_closed session now (show (state.speaks relay session.peer said).isClosedOrDead =
        true from open_)]
      exact fail_exchanges live _ _ trickles described
  | false =>
      rw [consume_eq session now (show (state.speaks relay session.peer said).isClosedOrDead =
        false from open_)]
      have inbox : (state.speaks relay session.peer said).inbox session.peer =
          state.inbox session.peer := rfl
      rw [inbox]
      cases next : nextSignificant P (state.inbox session.peer) with
      | mk heard rest =>
          rcases read_significant next with ⟨read, front, signals⟩
          rcases (state.speaks relay session.peer said).leaves_frame session.peer rest with
            ⟨inboxes, frame⟩
          have slot : ((state.speaks relay session.peer said).leaves session.peer
              rest).signaling.contains session.peer = true := by
            rw [frame]
            simp [Table.contains, State.speaks, held]
          have left : state.inbox session.peer = read ++
              ((state.speaks relay session.peer said).leaves session.peer rest).inbox
                session.peer := by
            rw [State.inbox_leaves]
            exact front
          have alive : ∀ {after : Session}, after.phase.dancing = true → after.live = true :=
            live_of_dancing
          -- the session goes on unless it waited too long or hears an offer
          have goes : ∀ {after : Session}, after.phase.dancing = true →
              Hears session after heard → session.Exchanges state after said
                ((state.speaks relay session.peer said).leaves session.peer rest) :=
            fun dancing hears => .consumed heard read live (alive dancing) stage trickles
              described open_ hears left signals slot
          dsimp only
          cases heard with
          | none =>
              rw [hears]
              split
              · exact fail_exchanges live _ _ trickles described
              · exact goes rfl (.nothing rfl rfl)
          | some signal =>
              cases signal with
              | offer sdp => exact fail_exchanges live _ _ trickles described
              | answer sdp => exact goes rfl (.applied _ rfl rfl rfl)
              | candidate candidate mid index => exact goes rfl (.applied _ rfl rfl rfl)
              | done => exact goes rfl (.done rfl rfl)
              | endOfCandidates =>
                  exact absurd (congrArg Prod.fst next) (nextSignificant_ne _)

private theorem takeOffer_exchanges (role : session.role = .answerer) (live : session.live = true)
    (stage : session.phase.stage = .starting)
    (held : state.signaling.get? session.peer = some relay) (started : Instant) :
    session.Exchanges state (({ session with started } : Session).takeOffer now state).1 []
      (({ session with started } : Session).takeOffer now state).2.2 := by
  have failed : ∀ (middle : State P) (error : Error), session.Exchanges state
      (({ session with started } : Session).fail middle error).1 []
      (({ session with started } : Session).fail middle error).2.2 := by
    intro middle error
    exact .ended live (by simp [fail, moveTo, Session.live]) (by simp) (by simp)
      (by simp [fail, State.endSignaling])
  cases open_ : state.isClosedOrDead with
  | true =>
      rw [takeOffer_closed _ now open_]
      exact failed _ _
  | false =>
      rw [takeOffer_eq _ now open_]
      dsimp only
      cases next : nextDecoded P (state.inbox session.peer) with
      | mk heard rest =>
          rcases state.leaves_frame session.peer rest with ⟨inboxes, frame⟩
          have slot : (state.leaves session.peer rest).signaling.contains session.peer = true := by
            rw [frame]
            simp [Table.contains, held]
          have significant := nextSignificant_eq P (state.inbox session.peer)
          rw [next] at significant
          have left : ∀ {read : List Bytes}, state.inbox session.peer = read ++ rest →
              state.inbox session.peer = read ++
                (state.leaves session.peer rest).inbox session.peer := by
            intro read front
            rw [State.inbox_leaves]
            exact front
          cases heard with
          | none =>
              rcases read_significant (significant.trans (if_neg (by simp))) with
                ⟨read, front, signals⟩
              rw [receives]
              split
              · exact failed _ _
              · exact .waited read role live stage (live_of_dancing rfl) rfl rfl rfl (left front)
                  signals slot
          | some signal =>
              cases signal with
              | offer sdp =>
                  rcases read_significant (significant.trans (if_neg (by simp))) with
                    ⟨read, front, signals⟩
                  exact .took sdp read role live stage (live_of_dancing rfl) rfl rfl rfl
                    (left front) signals slot
              | _ => exact failed _ _

variable (P) in
private theorem encodeAll_mem {signals : List Signal} {json : Bytes}
    (member : json ∈ (encodeAll P signals).2) :
    ∃ signal ∈ signals, P.encodeSignal signal = .ok json := by
  induction signals with
  | nil => cases member
  | cons signal rest induction =>
      rw [encodeAll] at member
      cases encoded : P.encodeSignal signal with
      | error detail =>
          rw [encoded] at member
          cases member
      | ok own =>
          rw [encoded] at member
          rcases List.mem_cons.mp member with rfl | later
          · exact ⟨signal, by simp, encoded⟩
          · rcases induction later with ⟨other, among, encodes⟩
            exact ⟨other, List.mem_cons_of_mem _ among, encodes⟩

private theorem trickled_follows {candidates : List IceCandidate} {json : Bytes}
    (member : json ∈ (encodeAll P (trickled candidates)).2) : Trickle P json := by
  rcases encodeAll_mem P member with ⟨signal, among, encoded⟩
  refine ⟨signal, encoded, ?_⟩
  rcases List.mem_append.mp among with early | late
  · rcases List.mem_map.mp early with ⟨candidate, _, rfl⟩
    rfl
  · rcases List.mem_cons.mp late with rfl | late
    · rfl
    · rw [List.mem_singleton] at late
      subst late
      rfl

theorem consume_outbound (session : Session) (now : Instant) (state : State P) :
    (session.consume now state).2.2.relayOutbound = state.relayOutbound := by
  cases open_ : state.isClosedOrDead with
  | true =>
      rw [consume_closed session now open_]
      rfl
  | false =>
      rcases state.leaves_frame session.peer (nextSignificant P (state.inbox session.peer)).2 with
        ⟨_, frame⟩
      rw [consume_eq session now open_, frame, hears.eq_def]
      split
      · split <;> rfl
      all_goals rfl

theorem takeOffer_outbound (session : Session) (now : Instant) (state : State P) :
    (session.takeOffer now state).2.2.relayOutbound = state.relayOutbound := by
  cases open_ : state.isClosedOrDead with
  | true =>
      rw [takeOffer_closed session now open_]
      rfl
  | false =>
      rcases state.leaves_frame session.peer (nextDecoded P (state.inbox session.peer)).2 with
        ⟨_, frame⟩
      rw [takeOffer_eq session now open_, frame, receives.eq_def]
      split
      · split <;> rfl
      all_goals rfl

private theorem begin_exchanges (offerer : session.role = .offerer)
    (spawned : session.phase = .spawned)
    (beside : state.signaling.get? session.peer = none →
      state.signalInboxes.get? session.peer = none) (channel : Except String Unit) :
    session.Exchanges state (session.begin now state channel).1 []
      (session.begin now state channel).2.2 ∧
    (session.begin now state channel).2.2.relayOutbound = state.relayOutbound := by
  have idle : session.live = false := by simp [Session.live, offerer, spawned]
  have over_ : ∀ error, (session.moveTo (.ended (.error error))).live = false :=
    fun error => by simp [moveTo, Session.live]
  rw [Session.begin, State.beginSignaling]
  cases taken : state.signaling.contains session.peer with
  | true => exact ⟨.idle idle (over_ _) rfl rfl rfl, rfl⟩
  | false =>
      have free : state.signaling.get? session.peer = none := by
        simpa [Table.contains] using taken
      rw [if_neg (by simp)]
      cases channel with
      | error detail =>
          refine ⟨.idle idle (by simp [fail, moveTo, Session.live]) rfl ?_ ?_, rfl⟩
          · simp [fail, State.endSignaling, free]
          · simp [fail, State.endSignaling, State.inbox, beside free]
      | ok done =>
          refine ⟨.claimed offerer spawned free (live_of_dancing rfl) rfl rfl rfl ?_ rfl, rfl⟩
          simp [Table.contains]

/-- A session that resumes does one of these things, and queues what it says. -/
theorem Advances.exchanges {input : SessionInput} {resumed : Resumed P}
    (held : session.live = true → state.signaling.get? session.peer = some relay)
    (beside : state.signaling.get? session.peer = none →
      state.signalInboxes.get? session.peer = none)
    (advances : session.Advances now wire state input resumed) :
    ∃ said, session.Exchanges state resumed.1 said resumed.2.2 ∧
      resumed.2.2.relayOutbound = state.relayOutbound ++
        said.map fun json => (relay, session.peer, signalPrefix :: json) := by
  have silent : ∀ {after : Session} {next : State P},
      session.Exchanges state after [] next → next.relayOutbound = state.relayOutbound →
      ∃ said, session.Exchanges state after said next ∧
        next.relayOutbound = state.relayOutbound ++
          said.map fun json => (relay, session.peer, signalPrefix :: json) := by
    intro after next exchanges same
    exact ⟨[], exchanges, by simp [same]⟩
  cases advances with
  | begun channel offerer spawned _ =>
      have exchanges := @begin_exchanges P session now state offerer spawned beside channel
      exact silent exchanges.1 exchanges.2
  | moved phase live dancing stage _ =>
      refine silent (.moved live (live_of_dancing dancing) stage rfl rfl ?_ rfl) rfl
      simp [Table.contains, held live]
  | failed error live _ => exact silent (fail_exchanges live _ _ (by simp) (by simp)) rfl
  | described sdp live phase _ =>
      have stage : session.phase.stage = .silent := by rw [phase]; rfl
      have slot : state.signaling.contains session.peer = true := by
        simp [Table.contains, held live]
      rcases describe_cases (held live) sdp with ⟨error, failed, equal⟩ | ⟨done, equal⟩ <;>
        rw [equal] <;> cases encoded : P.encodeSignal (session.ownDescription sdp)
      · refine silent (fail_exchanges live _ _ (by simp) (by simp)) ?_
        simp [fail, encodeAll, encoded, State.speaks, State.endSignaling]
      · simp [encodeAll, encoded] at failed
      · simp [encodeAll, encoded] at done
      · rename_i json
        refine ⟨[json], .described sdp json live stage (live_of_dancing rfl) rfl rfl encoded rfl
          slot rfl, ?_⟩
        simp [encodeAll, encoded, State.speaks]
  | gathered candidates live stage _ _ =>
      have trickles : ∀ json ∈ (encodeAll P (trickled candidates)).2, Trickle P json :=
        fun _ => trickled_follows
      refine ⟨(encodeAll P (trickled candidates)).2, ?_⟩
      rcases publishCandidates_cases (held live) candidates with ⟨error, _, equal⟩ | ⟨_, equal⟩ <;>
        rw [equal]
      · exact ⟨fail_exchanges live _ _ trickles fun _ => stage, rfl⟩
      · refine ⟨consume_exchanges live (.inl stage) (held live) trickles fun _ => stage, ?_⟩
        rw [consume_outbound]
        rfl
  | consumed live stage _ =>
      have exchanges := @consume_exchanges P session now state relay live (.inr stage)
        (held live) [] (by simp) (by simp)
      have unsaid : state.speaks relay session.peer [] = state := by simp [State.speaks]
      rw [unsaid] at exchanges
      exact silent exchanges (consume_outbound session now state)
  | polled started role live stage _ =>
      exact silent (takeOffer_exchanges role live stage (held live) started)
        (takeOffer_outbound _ now state)
  | upgraded role live stage _ =>
      have released := register_signaling session (state.endSignaling session.peer) wire
      refine silent (.ended live rfl (by simp) (by simp) ?_) (register_outbound _ _ _)
      rw [Session.upgraded]
      dsimp only
      rw [released]
      simp [State.endSignaling]
  | answered role live stage _ =>
      refine silent (.ended live ?_ (by simp) (by simp) ?_) (register_outbound _ _ _)
      · simp [Session.answered, moveTo, Session.live]
      · simp [Session.answered, State.endSignaling]

end Session

end IrohEndpoint
