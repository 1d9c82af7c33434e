import IrohEndpoint.SignalSteps
import IrohEndpoint.Signaling

/-! # One signaling session for each peer

A slot is taken exactly while a session for its peer is live, and an inbox exists only
beside a slot. So what a session reads was received from its peer while it lived. -/

namespace IrohEndpoint

variable {P : Platform}

/-! ## What the pump hears -/

/-- The signal an input of the pump brings, with its relay-authenticated source. -/
def Pump.heard (pump : Pump) : PumpInput → Option (EndpointId × Bytes)
  | .relayEvent _ (.ok datagram) =>
      if pump.phase = .selecting ∧ datagram.payload.head? = some signalPrefix then
        some (datagram.source, datagram.payload.drop 1)
      else none
  | _ => none

def Config.heard (config : Config P) : Action → Option (EndpointId × Bytes)
  | .pump input => config.pump.heard input
  | _ => none

def Config.heardFrom (config : Config P) (action : Action) (peer : EndpointId) : List Bytes :=
  (((config.heard action).filter fun signal => signal.1 = peer).map Prod.snd).toList

/-- What was heard from each peer since its slot was last claimed. -/
abbrev Log := EndpointId → List Bytes

def Config.listen (log : Log) (config : Config P) (action : Action) (next : Config P) : Log :=
  fun peer =>
    if next.state.signaling.contains peer then log peer ++ config.heardFrom action peer
    else []

variable (P) in
def listening : System (Config P × Log) Action Abort :=
  (endpoint P).observed (fun _ => []) Config.listen

namespace Pump

variable {pump : Pump} {udp : Bool} {now : Instant} {state : State P}

/-- An input of the pump brings a signal, which is filed, or leaves signaling alone. -/
theorem resume_hears {input : PumpInput} {pumped : Pumped P}
    (ran : pump.resume udp now state input = .ok pumped) :
    (∃ via source payload, pump.heard input = some (source, payload) ∧
      pumped.1 = (state.handleSignal via source payload).2 ∧
      pumped.2.2 = (state.handleSignal via source payload).1) ∨
    (pump.heard input = none ∧ PumpQuiet state pumped) := by
  have elsewhere : pump.phase ≠ .selecting → PumpQuiet state pumped := by
    intro away
    rcases (resume_step ran).hears with quiet | ⟨selecting, _⟩
    · exact quiet
    · exact absurd selecting away
  cases input with
  | run fuel order =>
      refine .inr ⟨rfl, elsewhere ?_⟩
      intro selecting
      simp [Pump.resume, Pump.run, selecting] at ran
  | sent result =>
      refine .inr ⟨rfl, elsewhere ?_⟩
      intro selecting
      simp [Pump.resume, selecting] at ran
  | relayEvent index result =>
      by_cases selecting : pump.phase = .selecting
      · rw [Pump.resume] at ran
        split at ran
        · cases ran
        · rename_i key conn armed
          rw [selecting] at ran
          cases ran
          cases result with
          | ok datagram =>
              rw [Pump.heard, Pump.relayEvent]
              dsimp only
              by_cases signal : datagram.payload.head? = some signalPrefix
              · rw [if_pos ⟨selecting, signal⟩, if_pos signal]
                exact .inl ⟨key, _, _, rfl, rfl, rfl⟩
              · rw [if_neg (by simp [signal]), if_neg signal]
                exact .inr ⟨rfl, .pump .pump rfl
                  (StateSteps.handleRelayDatagram _ _ _ _ _) (by simp)⟩
          | error detail =>
              refine .inr ⟨rfl, ?_⟩
              rw [Pump.relayEvent]
              split
              · exact .pump .lost rfl (.single (.markedDead detail rfl)) (by simp)
              · rename_i foreign
                exact .pump .lost rfl (.single (.relayRemoved key conn rfl foreign)) (by simp)
      · refine .inr ⟨?_, elsewhere selecting⟩
        cases result <;> simp [Pump.heard, selecting]
  | udpEvent received =>
      refine .inr ⟨rfl, ?_⟩
      by_cases selecting : pump.phase = .selecting
      · rw [Pump.resume.eq_def, selecting] at ran
        dsimp only at ran
        split at ran
        · cases ran
        · cases received with
          | none =>
              cases ran
              exact .pump .pump rfl .refl (by simp)
          | some received =>
              cases ran
              exact .pump .pump rfl (StateSteps.handleUdpDatagram _ _ _ _) (by simp)
      · exact elsewhere selecting
  | channelEvent index result =>
      refine .inr ⟨rfl, ?_⟩
      by_cases selecting : pump.phase = .selecting
      · rw [Pump.resume, selecting] at ran
        split at ran
        · cases ran
        · rename_i id wire armed
          cases ran
          rw [Pump.channelEvent.eq_def]
          split
          · dsimp only
            split
            · exact .pump .pump rfl (StateSteps.handleChannelDatagram _ _ _ _) (by simp)
            · exact .pump .pump rfl .refl (by simp)
          · exact .pump .lost rfl (.single (.channelDied id wire rfl)) (by simp)
      · exact elsewhere selecting
  | tick =>
      refine .inr ⟨rfl, ?_⟩
      rw [Pump.resume] at ran
      split at ran <;> cases ran
      exact .pump .pump rfl (.single (.timedOut now)) (by simp)

end Pump

/-! ## Filing -/

def fileSignal (inbox : List Bytes) (payload : Bytes) : List Bytes :=
  if inbox.length < inboxCap then inbox ++ [payload] else inbox

private theorem fileSignal_length {inbox : List Bytes} (capped : inbox.length ≤ inboxCap)
    (payload : Bytes) : (fileSignal inbox payload).length ≤ inboxCap := by
  rw [fileSignal]
  split
  · rw [List.length_append, List.length_singleton]
    omega
  · exact capped

private theorem fileSignal_sublist (inbox : List Bytes) (payload : Bytes) :
    (fileSignal inbox payload).Sublist (inbox ++ [payload]) := by
  rw [fileSignal]
  split
  · exact List.Sublist.refl _
  · exact List.sublist_append_left _ _

/-- An inbound signal is ignored, filed with the session of its source, or filed with
a new answerer that holds the slot. -/
theorem handleSignal_files (state : State P) (via : UInt32) (source : EndpointId)
    (payload : Bytes) :
    ((!state.webrtcEnabled || state.isClosedOrDead) = true ∧
      state.handleSignal via source payload = ([], state)) ∨
    (∃ relay, state.signaling.get? source = some relay ∧
      state.handleSignal via source payload = ([], { state with
        signalInboxes := state.signalInboxes.set source
          (fileSignal (state.inbox source) payload) })) ∨
    (state.signaling.get? source = none ∧
      state.handleSignal via source payload =
        ([⟨.answerer, source, via, 0, .spawned, []⟩], { state with
          signaling := state.signaling.set source via
          signalInboxes := state.signalInboxes.set source
            (fileSignal (state.inbox source) payload) })) := by
  rw [State.handleSignal]
  split
  · rename_i deaf
    exact .inl ⟨deaf, rfl⟩
  · right
    cases taken : state.signaling.contains source with
    | true =>
        rcases Option.isSome_iff_exists.mp taken with ⟨relay, held⟩
        exact .inl ⟨relay, held, rfl⟩
    | false => exact .inr ⟨by simpa [Table.contains] using taken, rfl⟩

/-! ## What a session reads -/

/-- A session takes from the front of its own inbox and gives up the inbox with the
slot. -/
structure Reads (peer : EndpointId) (state next : State P) : Prop where
  others : ∀ other, other ≠ peer →
    next.signalInboxes.get? other = state.signalInboxes.get? other
  own : next.inbox peer <:+ state.inbox peer
  beside : next.signaling.get? peer = none →
    next.signalInboxes.get? peer = none ∨
      next.signalInboxes.get? peer = state.signalInboxes.get? peer ∧
        state.signaling.get? peer = none

namespace Reads

variable {peer : EndpointId} {state middle next : State P}

theorem refl (peer : EndpointId) (state : State P) : Reads peer state state :=
  ⟨fun _ _ => rfl, List.suffix_refl _, fun empty => .inr ⟨rfl, empty⟩⟩

theorem of_same (reads : Reads peer state middle)
    (signaling : next.signaling = middle.signaling)
    (inboxes : next.signalInboxes = middle.signalInboxes) : Reads peer state next := by
  refine ⟨?_, ?_, ?_⟩
  · rw [inboxes]
    exact reads.others
  · rw [State.inbox, inboxes]
    exact reads.own
  · rw [signaling, inboxes]
    exact reads.beside

theorem leaves {relay : UInt32} (held : state.signaling.get? peer = some relay)
    {rest : List Bytes} (suffix : rest <:+ state.inbox peer) :
    Reads peer state (state.leaves peer rest) := by
  refine ⟨?_, ?_, ?_⟩
  · intro other apart
    rw [State.leaves]
    split
    · rfl
    · simp [apart]
  · rw [State.inbox_leaves]
    exact suffix
  · intro empty
    rcases state.leaves_frame peer rest with ⟨_, frame⟩
    rw [frame, held] at empty
    cases empty

theorem ended (reads : Reads peer state middle) :
    Reads peer state (middle.endSignaling peer) := by
  refine ⟨?_, ?_, ?_⟩
  · intro other apart
    rw [← reads.others other apart]
    simp [State.endSignaling, apart]
  · simp [State.inbox, State.endSignaling]
  · intro _
    exact .inl (by simp [State.endSignaling])

end Reads

namespace Session

variable {session : Session} {now : Instant} {wire : ChannelWire} {first state : State P}

private theorem hears_reads (reads : Reads session.peer first state) (heard : Option Signal) :
    Reads session.peer first (session.hears now state heard).2.2 := by
  rw [hears.eq_def]
  split
  · split
    · exact reads.ended
    · exact reads
  · exact reads
  · exact reads
  · exact reads
  · exact reads
  · exact reads.ended

private theorem consume_reads (now : Instant) {relay : UInt32}
    (held : state.signaling.get? session.peer = some relay) :
    Reads session.peer state (session.consume now state).2.2 := by
  cases open_ : state.isClosedOrDead with
  | true =>
      rw [consume_closed session now open_]
      exact (Reads.refl _ _).ended
  | false =>
      rw [consume_eq session now open_]
      exact hears_reads (.leaves held (nextSignificant_suffix P _)) _

private theorem takeOffer_reads (now : Instant) {relay : UInt32}
    (held : state.signaling.get? session.peer = some relay) :
    Reads session.peer state (session.takeOffer now state).2.2 := by
  cases open_ : state.isClosedOrDead with
  | true =>
      rw [takeOffer_closed session now open_]
      exact (Reads.refl _ _).ended
  | false =>
      have reads := Reads.leaves held (nextDecoded_suffix P (state.inbox session.peer))
      rw [takeOffer_eq session now open_, receives.eq_def]
      split
      · split
        · exact reads.ended
        · exact reads
      · exact reads
      · exact reads.ended

private theorem register_inboxes (session : Session) (state : State P) (wire : ChannelWire) :
    (session.register state wire).2.2.signalInboxes = state.signalInboxes := by
  rcases state.registerChannel_frame session.peer wire with ⟨_, _, _, _, _, _, _, _, _, frame⟩
  rw [Session.register]
  split <;> rename_i next answer <;> rw [answer] at frame <;> dsimp only at frame ⊢ <;>
    rw [frame]

theorem register_outbound (session : Session) (state : State P) (wire : ChannelWire) :
    (session.register state wire).2.2.relayOutbound = state.relayOutbound := by
  rcases state.registerChannel_frame session.peer wire with ⟨_, _, _, _, _, _, _, _, _, frame⟩
  rw [Session.register]
  split <;> rename_i next answer <;> rw [answer] at frame <;> dsimp only at frame ⊢ <;>
    rw [frame]

theorem Advances.reads {input : SessionInput} {resumed : Resumed P}
    (held : session.live = true → ∃ relay, state.signaling.get? session.peer = some relay)
    (advances : session.Advances now wire state input resumed) :
    Reads session.peer state resumed.2.2 := by
  have reads := Reads.refl session.peer state
  cases advances with
  | begun channel _ _ _ =>
      have claimed : Reads session.peer state
          { state with signaling := state.signaling.set session.peer session.via } :=
        ⟨reads.others, reads.own, by simp⟩
      rw [Session.begin, State.beginSignaling]
      split <;> rename_i answer
      · exact reads
      · split at answer <;> cases answer
        cases channel with
        | error detail => exact claimed.ended
        | ok done => exact claimed
  | moved phase _ _ _ _ => exact reads
  | failed error _ _ => exact reads.ended
  | described sdp live _ _ =>
      rcases held live with ⟨relay, slot⟩
      have said : Reads session.peer state (state.speaks relay session.peer
          (encodeAll P [session.ownDescription sdp]).2) := reads.of_same rfl rfl
      rcases describe_cases slot sdp with ⟨error, _, failed⟩ | ⟨_, published⟩
      · rw [failed]
        exact said.ended
      · rw [published]
        exact said
  | gathered candidates live _ _ _ =>
      rcases held live with ⟨relay, slot⟩
      have said : Reads session.peer state (state.speaks relay session.peer
          (encodeAll P (trickled candidates)).2) := reads.of_same rfl rfl
      rcases publishCandidates_cases slot candidates with ⟨error, _, failed⟩ | ⟨_, published⟩
      · rw [failed]
        exact said.ended
      · rw [published]
        have consumed : Reads session.peer (state.speaks relay session.peer
            (encodeAll P (trickled candidates)).2) _ := consume_reads now slot
        exact ⟨consumed.others, consumed.own, consumed.beside⟩
  | consumed live _ _ =>
      rcases held live with ⟨relay, slot⟩
      exact consume_reads now slot
  | polled started _ live _ _ =>
      rcases held live with ⟨relay, slot⟩
      exact @takeOffer_reads P { session with started } state now relay slot
  | upgraded _ live _ _ =>
      exact reads.ended.of_same (register_signaling _ _ _) (register_inboxes _ _ _)
  | answered _ live _ _ =>
      exact (reads.of_same (register_signaling _ _ _) (register_inboxes _ _ _)).ended

end Session

/-! ## Slots and their sessions -/

structure Occupied (config : Config P) (log : Log) : Prop where
  numbered : ∀ id session, config.sessions.get? id = some session → id < config.fresh
  owned : ∀ peer relay, config.state.signaling.get? peer = some relay →
    ∃ id session, config.sessions.get? id = some session ∧ session.live = true ∧
      session.peer = peer
  beside : ∀ peer, config.state.signaling.get? peer = none →
    config.state.signalInboxes.get? peer = none
  heard : ∀ peer, (config.state.inbox peer).Sublist (log peer)
  capped : ∀ peer, (config.state.inbox peer).length ≤ inboxCap

private theorem addSessions_kept (spawned : List Session) (config : Config P) {id : Nat}
    (old : id < config.fresh) :
    (config.addSessions spawned).sessions.get? id = config.sessions.get? id := by
  induction spawned generalizing config with
  | nil => rfl
  | cons session rest induction =>
      have later := induction { config with
        sessions := config.sessions.set config.fresh session
        fresh := config.fresh + 1 } (Nat.lt_succ_of_lt old)
      rw [Config.addSessions, later, Table.get?_set, if_neg (Nat.ne_of_lt old)]

private theorem addSessions_numbered (spawned : List Session) {config : Config P}
    (numbered : ∀ id session, config.sessions.get? id = some session → id < config.fresh) :
    ∀ id session, (config.addSessions spawned).sessions.get? id = some session →
      id < (config.addSessions spawned).fresh := by
  induction spawned generalizing config with
  | nil => exact numbered
  | cons session rest induction =>
      apply induction
      intro id other found
      rw [Table.get?_set] at found
      split at found
      · rename_i same
        rw [same]
        exact Nat.lt_succ_self _
      · exact Nat.lt_succ_of_lt (numbered id other found)

namespace Occupied

variable {config next : Config P} {log : Log} {action : Action}

theorem listens
    (beside : ∀ peer, next.state.signaling.get? peer = none →
      next.state.signalInboxes.get? peer = none)
    (filed : ∀ peer, (next.state.inbox peer).Sublist
      (log peer ++ config.heardFrom action peer)) (peer : EndpointId) :
    (next.state.inbox peer).Sublist (config.listen log action next peer) := by
  rw [Config.listen, Table.contains]
  cases held : next.state.signaling.get? peer with
  | none => simp [State.inbox, beside peer held]
  | some relay => simpa using filed peer

theorem quiet (occupied : Occupied config log)
    (signaling : next.state.signaling = config.state.signaling)
    (inboxes : next.state.signalInboxes = config.state.signalInboxes)
    (numbered : ∀ id session, next.sessions.get? id = some session → id < next.fresh)
    (kept : ∀ id session, config.sessions.get? id = some session → session.live = true →
      next.sessions.get? id = some session)
    (silent : config.heard action = none) :
    Occupied next (config.listen log action next) := by
  have beside : ∀ peer, next.state.signaling.get? peer = none →
      next.state.signalInboxes.get? peer = none := by
    rw [signaling, inboxes]
    exact occupied.beside
  refine ⟨numbered, ?_, beside, listens beside ?_, ?_⟩
  · intro peer relay held
    rw [signaling] at held
    rcases occupied.owned peer relay held with ⟨id, session, found, live, same⟩
    exact ⟨id, session, kept id session found live, live, same⟩
  · intro peer
    rw [State.inbox, inboxes, Config.heardFrom, silent]
    exact (occupied.heard peer).trans (List.sublist_append_left _ _)
  · intro peer
    rw [State.inbox, inboxes]
    exact occupied.capped peer

/-- A signal arrives and is filed. -/
theorem signaled (occupied : Occupied config log) {via : UInt32} {source : EndpointId}
    {payload : Bytes} (arrived : config.heard action = some (source, payload)) (pump : Pump) :
    Occupied (({ config with
        state := (config.state.handleSignal via source payload).2, pump } :
          Config P).addSessions (config.state.handleSignal via source payload).1)
      (config.listen log action (({ config with
        state := (config.state.handleSignal via source payload).2, pump } :
          Config P).addSessions (config.state.handleSignal via source payload).1)) := by
  have heardFrom : ∀ peer, config.heardFrom action peer =
      if source = peer then [payload] else [] := by
    intro peer
    rw [Config.heardFrom, arrived]
    by_cases same : source = peer <;> simp [same]
  -- every inbox is as it was, or has the payload filed in it
  have filed : ∀ (signaling : Table EndpointId UInt32) (peer : EndpointId),
      (({ config.state with
          signaling
          signalInboxes := config.state.signalInboxes.set source
            (fileSignal (config.state.inbox source) payload) } : State P).inbox peer).Sublist
        (log peer ++ config.heardFrom action peer) ∧
      (({ config.state with
          signaling
          signalInboxes := config.state.signalInboxes.set source
            (fileSignal (config.state.inbox source) payload) } : State P).inbox peer).length ≤
        inboxCap := by
    intro signaling peer
    rw [heardFrom, State.inbox, Table.get?_set]
    by_cases own : peer = source
    · subst own
      rw [if_pos rfl, if_pos rfl]
      exact ⟨(fileSignal_sublist _ payload).trans
        ((occupied.heard peer).append (List.Sublist.refl _)),
        fileSignal_length (occupied.capped peer) payload⟩
    · rw [if_neg own, if_neg (Ne.symm own), List.append_nil]
      exact ⟨occupied.heard peer, occupied.capped peer⟩
  rcases handleSignal_files config.state via source payload with
    ⟨_, ignored⟩ | ⟨relay, held, filing⟩ | ⟨empty, spawning⟩
  · rw [ignored]
    exact ⟨occupied.numbered, occupied.owned, occupied.beside,
      listens occupied.beside fun peer =>
        (occupied.heard peer).trans (List.sublist_append_left _ _), occupied.capped⟩
  · rw [filing]
    have beside : ∀ peer, config.state.signaling.get? peer = none →
        (config.state.signalInboxes.set source
          (fileSignal (config.state.inbox source) payload)).get? peer = none := by
      intro peer free
      rw [Table.get?_set, if_neg]
      · exact occupied.beside peer free
      · rintro rfl
        rw [held] at free
        cases free
    exact ⟨occupied.numbered, occupied.owned, beside,
      listens beside fun peer => (filed config.state.signaling peer).1,
      fun peer => (filed config.state.signaling peer).2⟩
  · rw [spawning]
    have beside : ∀ peer, (config.state.signaling.set source via).get? peer = none →
        (config.state.signalInboxes.set source
          (fileSignal (config.state.inbox source) payload)).get? peer = none := by
      intro peer free
      rw [Table.get?_set] at free ⊢
      split at free
      · cases free
      · rw [if_neg ‹_›]
        exact occupied.beside peer free
    refine ⟨addSessions_numbered _ occupied.numbered, ?_, beside,
      listens beside fun peer => (filed (config.state.signaling.set source via) peer).1,
      fun peer => (filed (config.state.signaling.set source via) peer).2⟩
    intro peer relay held
    dsimp only [Config.addSessions] at held ⊢
    rw [Table.get?_set] at held
    by_cases own : peer = source
    · subst own
      exact ⟨config.fresh, _, by rw [Table.get?_set, if_pos rfl], rfl, rfl⟩
    · rw [if_neg own] at held
      rcases occupied.owned peer relay held with ⟨id, session, found, live, same⟩
      refine ⟨id, session, ?_, live, same⟩
      rw [Table.get?_set, if_neg (Nat.ne_of_lt (occupied.numbered id session found))]
      exact found

end Occupied

/-- A session moves no slot but its own, which it keeps, gives up or never had. -/
theorem Session.Resumes.slot {session after : Session} {now : Instant} {wire : ChannelWire}
    {state next : State P} {registration : Option Registration}
    (resumes : session.Resumes now wire state (after, registration, next)) :
    after.peer = session.peer ∧
    (∀ peer, peer ≠ session.peer →
      next.signaling.get? peer = state.signaling.get? peer) ∧
    (after.live = true ∨ next.signaling.get? session.peer = none ∨
      session.live = false ∧ next.signaling = state.signaling) := by
  have released : ∀ before : State P, before.signaling = state.signaling →
      (∀ peer, peer ≠ session.peer →
        (before.endSignaling session.peer).signaling.get? peer =
          state.signaling.get? peer) ∧
      (before.endSignaling session.peer).signaling.get? session.peer = none := by
    intro before same
    refine ⟨?_, by simp [State.endSignaling]⟩
    intro peer apart
    simp [State.endSignaling, apart, same]
  generalize equal : (after, registration, next) = resumed at resumes
  cases resumes with
  | refused error offerer spawned _ =>
      cases equal
      exact ⟨rfl, fun _ _ => rfl, .inr (.inr ⟨by simp [Session.live, offerer, spawned], rfl⟩)⟩
  | claimed offerer _ _ =>
      cases equal
      refine ⟨rfl, ?_, .inl (Session.live_of_dancing rfl)⟩
      intro peer apart
      simp [apart]
  | claimedFailed error _ _ _ =>
      cases equal
      refine ⟨rfl, ?_, .inr (.inl (by simp [State.endSignaling]))⟩
      intro peer apart
      simp [State.endSignaling, apart]
  | continued after next _ peer _ _ live quiet =>
      rcases quiet.frame with ⟨_, _, rfl⟩
      cases equal
      exact ⟨peer, fun _ _ => rfl, .inl live⟩
  | failed started next error _ quiet =>
      rcases quiet.frame with ⟨_, _, rfl⟩
      cases equal
      exact ⟨rfl, (released _ rfl).1, .inr (.inl (released _ rfl).2)⟩
  | upgraded _ _ =>
      cases equal
      have kept := Session.register_signaling session (state.endSignaling session.peer) wire
      refine ⟨rfl, ?_, .inr (.inl ?_)⟩
      · intro peer apart
        exact (congrArg (Table.get? · peer) kept).trans ((released state rfl).1 peer apart)
      · exact (congrArg (Table.get? · session.peer) kept).trans (released state rfl).2
  | answered _ _ =>
      cases equal
      have kept := released _ (Session.register_signaling session state wire)
      exact ⟨rfl, kept.1, .inr (.inl kept.2)⟩

namespace Occupied

variable {config : Config P} {log : Log} {session after : Session} {id : Nat}
variable {registration : Option Registration} {state : State P} {input : SessionInput}

/-- A session's step leaves the other sessions' slots and inboxes alone. -/
theorem undisturbed (slots : Slots config) (found : config.sessions.get? id = some session)
    (ran : session.resume config.clock ⟨config.fresh⟩ config.state input =
      .ok (after, registration, state)) {other : Nat} {rival : Session}
    (different : other ≠ id) (lookup : config.sessions.get? other = some rival)
    (live : rival.live = true) :
    state.signaling.get? rival.peer = some rival.via ∧
      state.signalInboxes.get? rival.peer = config.state.signalInboxes.get? rival.peer := by
  have held := slots.claimed other rival lookup live
  have resumes := Session.resumes ran
  rcases resumes.slot with ⟨_, elsewhere, _⟩
  have reads : Reads session.peer config.state state :=
    (Session.advances ran).reads fun live => ⟨_, slots.claimed id session found live⟩
  by_cases apart : rival.peer = session.peer
  · -- the slot is the rival's, so this session holds none and is refused
    have idle : session.live = false := by
      cases alive : session.live with
      | false => rfl
      | true =>
          exact absurd (slots.alone other id rival session lookup found live alive apart)
            different
    have taken : config.state.signaling.get? session.peer ≠ none := by
      rw [← apart, held]
      simp
    generalize equal : (after, registration, state) = resumed at resumes
    cases resumes with
    | refused error _ _ _ =>
        cases equal
        exact ⟨held, rfl⟩
    | claimed _ _ empty => exact absurd empty taken
    | claimedFailed error _ _ empty => exact absurd empty taken
    | continued after next _ _ _ alive _ _ => simp [idle] at alive
    | failed started next error alive _ => simp [idle] at alive
    | upgraded _ alive => simp [idle] at alive
    | answered _ alive => simp [idle] at alive
  · exact ⟨(elsewhere _ apart).trans held, reads.others _ apart⟩

theorem resumed (slots : Slots config) (occupied : Occupied config log)
    (found : config.sessions.get? id = some session)
    (ran : session.resume config.clock ⟨config.fresh⟩ config.state input =
      .ok (after, registration, state)) :
    Occupied ({ config with
        state
        sessions := config.sessions.set id after
        registrations := config.registrations ++ registration.toList
        fresh := config.fresh + 1 } : Config P)
      (config.listen log (.session id input) { config with
        state
        sessions := config.sessions.set id after
        registrations := config.registrations ++ registration.toList
        fresh := config.fresh + 1 }) := by
  rcases (Session.resumes ran).slot with ⟨samePeer, elsewhere, own⟩
  have reads : Reads session.peer config.state state :=
    (Session.advances ran).reads fun live => ⟨_, slots.claimed id session found live⟩
  have beside : ∀ peer, state.signaling.get? peer = none →
      state.signalInboxes.get? peer = none := by
    intro peer empty
    by_cases mine : peer = session.peer
    · subst mine
      rcases reads.beside empty with gone | ⟨same, free⟩
      · exact gone
      · exact same.trans (occupied.beside _ free)
    · rw [reads.others peer mine]
      exact occupied.beside peer ((elsewhere peer mine).symm.trans empty)
  have shrunk : ∀ peer, state.inbox peer <:+ config.state.inbox peer := by
    intro peer
    by_cases mine : peer = session.peer
    · rw [mine]
      exact reads.own
    · rw [State.inbox, reads.others peer mine]
      exact List.suffix_refl _
  refine ⟨?_, ?_, beside, listens beside fun peer => ?_, fun peer => ?_⟩
  · intro other rival lookup
    rw [Table.get?_set] at lookup
    split at lookup
    · rename_i same
      rw [same]
      exact Nat.lt_succ_of_lt (occupied.numbered id session found)
    · exact Nat.lt_succ_of_lt (occupied.numbered other rival lookup)
  · intro peer relay held
    -- another session's slot stays with it
    have kept : ∀ {other : Nat} {rival : Session}, other ≠ id →
        config.sessions.get? other = some rival → rival.live = true → rival.peer = peer →
        ∃ id_1 session, (config.sessions.set id after).get? id_1 = some session ∧
          session.live = true ∧ session.peer = peer := by
      intro other rival different lookup live same
      exact ⟨other, rival, by rw [Table.get?_set, if_neg different]; exact lookup, live, same⟩
    by_cases mine : peer = session.peer
    · subst mine
      rcases own with live | gone | ⟨dead, same⟩
      · exact ⟨id, after, by rw [Table.get?_set, if_pos rfl], live, samePeer⟩
      · rw [gone] at held
        cases held
      · rcases occupied.owned _ relay (same ▸ held) with ⟨other, rival, lookup, live, peer⟩
        refine kept ?_ lookup live peer
        rintro rfl
        rw [found] at lookup
        cases lookup
        rw [dead] at live
        cases live
    · rcases occupied.owned peer relay ((elsewhere peer mine).symm.trans held) with
        ⟨other, rival, lookup, live, same⟩
      refine kept ?_ lookup live same
      rintro rfl
      rw [found] at lookup
      cases lookup
      exact mine same.symm
  · exact ((shrunk peer).sublist.trans (occupied.heard peer)).trans
      (List.sublist_append_left _ _)
  · exact Nat.le_trans (shrunk peer).length_le (occupied.capped peer)

theorem initially (noq : P.Endpoint) (webrtc udp : Bool) (relay : String) (clock : Instant) :
    Occupied (Config.bind noq webrtc udp relay clock) fun _ => [] := by
  refine ⟨?_, ?_, ?_, ?_, ?_⟩ <;> simp [Config.bind, State.registerRelay, State.new, State.inbox]

end Occupied

/-- A step moves the session it resumes and no other, and may add sessions. -/
theorem Config.step_sessions {config next : Config P} {action : Action}
    (numbered : ∀ id session, config.sessions.get? id = some session → id < config.fresh)
    (stepped : config.step action = .ok next) {other : Nat}
    (resting : ∀ input, action ≠ .session other input) {rival : Session}
    (lookup : config.sessions.get? other = some rival) :
    next.sessions.get? other = some rival := by
  cases step_acts stepped with
  | advanced elapsed => exact lookup
  | pumped input state pump spawned _ =>
      rw [addSessions_kept spawned ({ config with state, pump } : Config P)
        (numbered other rival lookup)]
      exact lookup
  | resumed id input session after registration state _ _ _ =>
      dsimp only
      rw [Table.get?_set, if_neg]
      · exact lookup
      · rintro rfl
        exact resting input rfl
  | invoked method next _ ran =>
      have step : CallStep false config next := invoke_step ran
      rcases step.frame with ⟨_, _, _, _, _, _, rfl⟩
      exact lookup
  | polled id input call next _ pending ran =>
      rcases (resumeCall_step pending ran).frame with ⟨_, _, _, _, _, _, rfl⟩
      exact lookup

theorem Occupied.called {config next : Config P} {log : Log} {action : Action}
    (occupied : Occupied config log) (step : Config.CallStep action.opens config next)
    (silent : config.heard action = none) :
    Occupied next (config.listen log action next) := by
  have frame := StateSteps.signaling step.state (dialTask_quiet _).1 (dialTask_quiet _).2
  have later := step.fresh_le
  rcases step.frame with ⟨_, _, _, _, _, _, rfl⟩
  refine occupied.quiet frame.1 frame.2.1 ?_ (fun _ _ found _ => found) silent
  intro id session found
  exact Nat.lt_of_lt_of_le (occupied.numbered id session found) later

theorem Occupied.step {config next : Config P} {log : Log} {action : Action}
    (slots : Slots config) (occupied : Occupied config log)
    (stepped : config.step action = .ok next) :
    Occupied next (config.listen log action next) := by
  have kept : ∀ id session, (∀ input, action ≠ .session id input) →
      config.sessions.get? id = some session → next.sessions.get? id = some session :=
    fun _ _ resting found => config.step_sessions occupied.numbered stepped resting found
  cases Config.step_acts stepped with
  | advanced elapsed =>
      exact occupied.quiet rfl rfl occupied.numbered (fun _ _ found _ => found) rfl
  | pumped input state pump spawned ran =>
      rcases Pump.resume_hears ran with ⟨via, source, payload, heard, equal, spawns⟩ |
        ⟨silent, quiet⟩
      · dsimp only at equal spawns
        subst equal spawns
        have arrived : config.heard (.pump input) = some (source, payload) := heard
        exact occupied.signaled arrived pump
      · have same : state.signaling = config.state.signaling ∧
            state.signalInboxes = config.state.signalInboxes := by
          cases quiet with
          | drain steps _ =>
              have frame := StateSteps.signaling steps (by simp) (by simp)
              exact ⟨frame.1, frame.2.1⟩
          | pump task own steps _ =>
              have frame := StateSteps.signaling steps (by rintro rfl; cases own)
                (by rintro rfl; cases own)
              exact ⟨frame.1, frame.2.1⟩
        rcases Config.addSessions_frame spawned ({ config with state, pump } : Config P) with
          ⟨_, _, frame⟩
        refine occupied.quiet (by rw [frame]; exact same.1) (by rw [frame]; exact same.2)
          (addSessions_numbered spawned occupied.numbered) ?_ silent
        intro id session found _
        exact kept id session (by simp) found
  | resumed id input session after registration state _ found ran =>
      exact occupied.resumed slots found ran
  | invoked method next _ ran => exact occupied.called (Config.invoke_step ran) rfl
  | polled id input call next _ pending ran =>
      exact occupied.called (Config.resumeCall_step pending ran) rfl

theorem listening_occupied {config : Config P} {log : Log}
    (reached : (listening P).Reachable (config, log)) :
    (endpoint P).Reachable config ∧ Occupied config log := by
  refine System.observed.reachable_invariant Occupied ?_ ?_ reached
  · rintro config ⟨noq, webrtc, udp, relay, clock, url, _, rfl⟩
    exact Occupied.initially noq webrtc udp relay clock
  · intro config log action next reachable occupied stepped
    exact occupied.step (reachable_slots reachable) stepped

private theorem Occupied.starts_empty {config next : Config P} {log : Log} {action : Action}
    (occupied : Occupied config log) (later : Slots next)
    (stepped : config.step action = .ok next) {id : Nat} {session : Session}
    (found : next.sessions.get? id = some session) (live : session.live = true)
    (idle : ∀ before, config.sessions.get? id = some before → before.live = false) :
    config.state.signalInboxes.get? session.peer = none := by
  apply occupied.beside
  cases held : config.state.signaling.get? session.peer with
  | none => rfl
  | some relay =>
      rcases occupied.owned session.peer relay held with ⟨other, rival, lookup, alive, same⟩
      have different : other ≠ id := by
        rintro rfl
        rw [idle rival lookup] at alive
        cases alive
      by_cases moved : ∃ input, action = .session other input
      · -- the rival's own step starts no other session
        rcases moved with ⟨input, rfl⟩
        cases Config.step_acts stepped with
        | resumed _ _ _ after registration state _ _ _ =>
            dsimp only at found
            rw [Table.get?_set, if_neg (Ne.symm different)] at found
            rw [idle session found] at live
            cases live
      · have stays := config.step_sessions occupied.numbered stepped
          (fun input equal => moved ⟨input, equal⟩) lookup
        exact absurd (later.alone other id rival session stays found alive live same) different

/-- One live session for each peer. A slot is held exactly while a session for its peer
is live, with the relay it was claimed with; an inbox exists only beside a slot, a session
starts without one, and it holds at most 64 payloads, in the order in which they were
heard from the peer while the session lived. What a session does, its end included, leaves
every other session's slot and inbox alone. -/
theorem one_session_per_peer {config : Config P} {log : Log}
    (reached : (listening P).Reachable (config, log)) :
    (∀ id other session rival, config.sessions.get? id = some session →
      config.sessions.get? other = some rival → session.live = true → rival.live = true →
      session.peer = rival.peer → id = other) ∧
    (∀ peer relay, config.state.signaling.get? peer = some relay ↔
      ∃ id session, config.sessions.get? id = some session ∧ session.live = true ∧
        session.peer = peer ∧ session.via = relay) ∧
    (∀ peer, config.state.signalInboxes.contains peer = true →
      config.state.signaling.contains peer = true) ∧
    (∀ action next id session, config.step action = .ok next →
      next.sessions.get? id = some session → session.live = true →
      (∀ before, config.sessions.get? id = some before → before.live = false) →
      config.state.signalInboxes.get? session.peer = none) ∧
    (∀ peer inbox, config.state.signalInboxes.get? peer = some inbox →
      inbox.length ≤ 64 ∧ inbox.Sublist (log peer)) ∧
    (∀ id input next other rival, config.step (.session id input) = .ok next →
      other ≠ id → config.sessions.get? other = some rival → rival.live = true →
      next.sessions.get? other = some rival ∧
      next.state.signaling.get? rival.peer = some rival.via ∧
      next.state.signalInboxes.get? rival.peer =
        config.state.signalInboxes.get? rival.peer) := by
  rcases listening_occupied reached with ⟨reachable, occupied⟩
  have slots := reachable_slots reachable
  refine ⟨slots.alone, ?_, ?_, ?_, ?_, ?_⟩
  · intro peer relay
    constructor
    · intro held
      rcases occupied.owned peer relay held with ⟨id, session, found, live, rfl⟩
      have claimed := slots.claimed id session found live
      rw [held] at claimed
      exact ⟨id, session, found, live, rfl, (Option.some.inj claimed).symm⟩
    · rintro ⟨id, session, found, live, rfl, rfl⟩
      exact slots.claimed id session found live
  · intro peer present
    cases held : config.state.signaling.get? peer with
    | some relay => simp [Table.contains, held]
    | none => simp [Table.contains, occupied.beside peer held] at present
  · intro action next id session stepped found live idle
    have later := reachable_slots (reachable.step trivial stepped)
    exact occupied.starts_empty later stepped found live idle
  · intro peer inbox found
    have capped := occupied.capped peer
    have heard := occupied.heard peer
    rw [State.inbox, found] at capped heard
    exact ⟨capped, heard⟩
  · intro id input next other rival stepped different lookup live
    have stays := config.step_sessions occupied.numbered stepped
      (fun _ equal => different (by cases equal; rfl)) lookup
    cases Config.step_acts stepped with
    | resumed _ _ session after registration state _ found ran =>
        exact ⟨stays, Occupied.undisturbed slots found ran different lookup live⟩

/-- A peer's signals start one answerer, and both wait in its inbox. -/
theorem one_session_per_peer_answering :
    ∃ config log, (listening Slab.platform).Reachable (config, log) ∧
      config.state.signalInboxes.get? (Slab.peer 7) = some [[1], [5]] ∧
      [[1], [5]].Sublist (log (Slab.peer 7)) ∧
      ∃ id session, config.sessions.get? id = some session ∧ session.live = true ∧
        session.peer = Slab.peer 7 ∧ session.via = homeRelay := by
  have passed : (listening Slab.platform).runs (fun _ _ => true)
      (Slab.bound true false, fun _ => [])
      (List.flatten [Slab.turn [] 0,
        [.pump (.relayEvent 0 (.ok ⟨Slab.peer 7, [0, 1]⟩))], Slab.turn [] 0,
        [.pump (.relayEvent 0 (.ok ⟨Slab.peer 7, [0, 5]⟩))]])
      (fun start =>
        decide (start.1.state.signalInboxes.get? (Slab.peer 7) = some [[1], [5]]) &&
          decide (start.1.state.signaling.get? (Slab.peer 7) = some homeRelay)) = true := by
    decide +kernel
  have initial : (listening Slab.platform).Initial (Slab.bound true false, fun _ => []) :=
    ⟨Slab.bound_initial true false, rfl⟩
  rcases System.Reachable.of_runs initial passed with
    ⟨⟨config, log⟩, reached, tested⟩
  simp only [Bool.and_eq_true, decide_eq_true_eq] at tested
  rcases one_session_per_peer reached with ⟨_, slot, _, _, inbox, _⟩
  exact ⟨config, log, reached, tested.1, (inbox _ _ tested.1).2, (slot _ _).mp tested.2⟩

end IrohEndpoint
