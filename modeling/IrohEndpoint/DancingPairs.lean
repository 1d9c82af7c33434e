import IrohEndpoint.Dances
import IrohEndpoint.Shutdown

/-! # Two endpoints at their dances

What the steps of the network do to the views the two endpoints have of each other. A
dance stays among the sessions it belongs to if it starts with nothing left over from
another. -/

namespace IrohEndpoint

variable {P : Platform}

/-! ## Sessions and slots -/

theorem PumpStep.spawns {pump : Pump} {udp : Bool} {now : Instant} {state : State P}
    {pumped : Pumped P} (step : PumpStep pump udp now state pumped) :
    ∀ session ∈ pumped.2.2, session.phase = .spawned ∧ session.applied = [] := by
  cases step with
  | armed _ =>
      intro session member
      rcases List.mem_map.mp member with ⟨upgrade, _, rfl⟩
      exact ⟨rfl, rfl⟩
  | relaySignal index key conn datagram _ _ _ =>
      intro session member
      rcases handleSignal_cases state key datagram.source (datagram.payload.drop 1) with
        ⟨none_, _⟩ | ⟨_, one, _⟩
      · rw [none_] at member
        cases member
      · rw [one, List.mem_singleton] at member
        subst member
        exact ⟨rfl, rfl⟩
  | _ => simp

theorem Session.Resumes.role {session after : Session} {now : Instant} {wire : ChannelWire}
    {state next : State P} {registration : Option Registration}
    (resumes : session.Resumes now wire state (after, registration, next)) :
    after.role = session.role := by
  generalize equal : (after, registration, next) = resumed at resumes
  cases resumes with
  | continued after next role _ _ _ _ _ =>
      cases equal
      exact role
  | _ =>
      cases equal
      rfl

private theorem Session.Advances.begun_phase {session : Session} {now : Instant}
    {wire : ChannelWire}
    {state : State P} {input : SessionInput} {resumed : Resumed P}
    (advances : session.Advances now wire state input resumed) :
    resumed.1.phase ≠ .spawned := by
  have hears : ∀ (state : State P) (heard : Option Signal),
      (session.hears now state heard).1.phase ≠ .spawned := by
    intro state heard
    rw [Session.hears.eq_def]
    split
    · split <;> simp [Session.fail, Session.moveTo]
    all_goals simp [Session.fail, Session.moveTo]
  have consume : ∀ state : State P, (session.consume now state).1.phase ≠ .spawned := by
    intro state
    cases open_ : state.isClosedOrDead with
    | true => simp [Session.consume_closed session now open_, Session.fail, Session.moveTo]
    | false =>
        rw [Session.consume_eq session now open_]
        exact hears _ _
  cases advances with
  | begun channel _ _ _ =>
      rw [Session.begin]
      split
      · simp [Session.moveTo]
      · split <;> simp [Session.fail, Session.moveTo]
  | moved phase _ dancing _ _ =>
      rintro spawned
      rw [show phase = .spawned from spawned] at dancing
      cases dancing
  | failed error _ _ => simp [Session.fail, Session.moveTo]
  | described sdp _ _ _ =>
      rw [Session.describe]
      split <;> simp [Session.fail, Session.moveTo]
  | gathered candidates _ _ _ _ =>
      rw [Session.publishCandidates]
      split
      · simp [Session.fail, Session.moveTo]
      · exact consume _
  | consumed _ _ _ => exact consume _
  | polled started _ _ _ _ =>
      rw [Session.takeOffer.eq_def]
      split <;> simp [Session.fail, Session.moveTo]
  | upgraded _ _ _ _ => simp [Session.upgraded, Session.moveTo]
  | answered _ _ _ _ => simp [Session.answered, Session.moveTo]

namespace Config

variable {config next : Config P} {action : Action} {peer : EndpointId}

/-- A session goes on, or it is new. -/
theorem step_spawns (numbered : ∀ id session, config.sessions.get? id = some session →
      id < config.fresh) (stepped : config.step action = .ok next) {id : Nat} {session : Session}
    (found : next.sessions.get? id = some session) :
    (∃ before, config.sessions.get? id = some before ∧ before.peer = session.peer ∧
      (session.phase = .spawned → before = session)) ∨
    (config.sessions.get? id = none ∧ session.phase = .spawned ∧ session.applied = []) := by
  cases before : config.sessions.get? id with
  | none =>
      refine .inr ⟨rfl, ?_⟩
      cases step_acts stepped with
      | advanced elapsed =>
          rw [before] at found
          cases found
      | pumped input state pump spawned ran =>
          rcases addSessions_sessions spawned ({ config with state, pump } : Config P) found with
            old | new
          · rw [before] at old
            cases old
          · exact (Pump.resume_step ran).spawns session new
      | resumed resumed input session after registration state _ held _ =>
          dsimp only at found
          rw [Table.get?_set] at found
          split at found
          · rename_i same
            rw [same, held] at before
            cases before
          · rw [before] at found
            cases found
      | invoked method next _ ran =>
          rcases (invoke_step ran : CallStep false config next).frame with ⟨_, _, _, _, _, _, rfl⟩
          rw [before] at found
          cases found
      | polled call input pending next _ held ran =>
          rcases (resumeCall_step held ran).frame with ⟨_, _, _, _, _, _, rfl⟩
          rw [before] at found
          cases found
  | some old =>
      refine .inl ⟨old, rfl, ?_⟩
      by_cases moved : ∃ input, action = .session id input
      · rcases moved with ⟨input, rfl⟩
        cases step_acts stepped with
        | resumed _ _ session after registration state _ held ran =>
            dsimp only at found
            rw [Table.get?_set, if_pos rfl] at found
            rw [held] at before
            cases before
            cases found
            exact ⟨(Session.resumes ran).slot.1.symm, fun spawned =>
              absurd spawned (Session.advances ran).begun_phase⟩
      · have stays := config.step_sessions numbered stepped
          (fun input equal => moved ⟨input, equal⟩) before
        rw [stays] at found
        cases found
        exact ⟨rfl, fun _ => rfl⟩

private theorem step_stays (numbered : ∀ id session, config.sessions.get? id = some session →
      id < config.fresh) (stepped : config.step action = .ok next) {id : Nat} {session : Session}
    (held : config.sessions.get? id = some session) :
    ∃ after, next.sessions.get? id = some after ∧ after.role = session.role := by
  by_cases moved : ∃ input, action = .session id input
  · rcases moved with ⟨input, rfl⟩
    cases step_acts stepped with
    | resumed _ _ before after registration state _ found ran =>
        rw [held] at found
        cases found
        refine ⟨after, ?_, (Session.resumes ran).role⟩
        dsimp only
        rw [Table.get?_set, if_pos rfl]
  · exact ⟨session, config.step_sessions numbered stepped
      (fun input equal => moved ⟨input, equal⟩) held, rfl⟩

/-- A step that neither hears from `peer` nor runs a session with it leaves their slot
and their inbox alone. -/
theorem step_elsewhere (slots : Slots config) (stepped : config.step action = .ok next)
    (silent : ∀ payload, config.heard action ≠ some (peer, payload))
    (apart : ∀ id input session, action = .session id input →
      config.sessions.get? id = some session → session.peer ≠ peer) :
    next.state.signaling.get? peer = config.state.signaling.get? peer ∧
      next.state.signalInboxes.get? peer = config.state.signalInboxes.get? peer := by
  have same : ∀ {task : Task} {state : State P}, StateSteps task config.state state →
      task ≠ .signal → task ≠ .session →
      state.signaling.get? peer = config.state.signaling.get? peer ∧
        state.signalInboxes.get? peer = config.state.signalInboxes.get? peer := by
    intro task state steps unheard idle
    have frame := StateSteps.signaling steps unheard idle
    rw [frame.1, frame.2.1]
    exact ⟨rfl, rfl⟩
  cases step_acts stepped with
  | advanced elapsed => exact ⟨rfl, rfl⟩
  | pumped input state pump spawned ran =>
      rcases addSessions_frame spawned ({ config with state, pump } : Config P) with ⟨_, _, frame⟩
      rw [frame]
      rcases Pump.resume_hears ran with ⟨via, source, payload, heard, equal, _⟩ | ⟨_, quiet⟩
      · have other : peer ≠ source := by
          rintro rfl
          exact silent payload heard
        dsimp only at equal ⊢
        rw [equal]
        rcases handleSignal_files config.state via source payload with
          ⟨_, ignored⟩ | ⟨relay, held, filing⟩ | ⟨empty, spawning⟩
        · rw [ignored]
          exact ⟨rfl, rfl⟩
        · rw [filing]
          exact ⟨rfl, by simp [other]⟩
        · rw [spawning]
          exact ⟨by simp [other], by simp [other]⟩
      · cases quiet with
        | drain steps _ => exact same steps (by simp) (by simp)
        | pump task own steps _ =>
            exact same steps (by rintro rfl; cases own) (by rintro rfl; cases own)
  | resumed id input session after registration state _ found ran =>
      have other := Ne.symm (apart id input session rfl found)
      have reads : Reads session.peer config.state state :=
        (Session.advances ran).reads fun live => ⟨_, slots.claimed id session found live⟩
      exact ⟨(Session.resumes ran).slot.2.1 peer other, reads.others peer other⟩
  | invoked method next _ ran =>
      exact same (invoke_step ran : CallStep false config next).state
        (dialTask_quiet _).1 (dialTask_quiet _).2
  | polled id input call next _ pending ran =>
      exact same (resumeCall_step pending ran).state (dialTask_quiet _).1 (dialTask_quiet _).2

private theorem step_deafens (stepped : config.step action = .ok next) :
    (config.state.isClosedOrDead = true → next.state.isClosedOrDead = true) ∧
      next.state.webrtcEnabled = config.state.webrtcEnabled := by
  rcases (step_move stepped).state with ⟨task, steps, _⟩
  exact (StateSteps.flags steps).2.2

private theorem step_exchanges {id : Nat} {input : SessionInput} (slots : Slots config)
    (beside : ∀ peer, config.state.signaling.get? peer = none →
      config.state.signalInboxes.get? peer = none)
    (stepped : config.step (.session id input) = .ok next) :
    ∃ session after said relay, config.sessions.get? id = some session ∧
      next.sessions = config.sessions.set id after ∧ after.role = session.role ∧
      after.peer = session.peer ∧ after.phase ≠ .spawned ∧
      session.Exchanges config.state after said next.state ∧
      next.state.relayOutbound = config.state.relayOutbound ++
        said.map fun json => (relay, session.peer, signalPrefix :: json) := by
  cases step_acts stepped with
  | resumed _ _ session after registration state _ found ran =>
      have advances := Session.advances ran
      have resumes := Session.resumes ran
      rcases advances.exchanges (slots.claimed id session found) (beside session.peer) with
        ⟨said, exchanges, queued⟩
      exact ⟨session, after, said, session.via, found, rfl, resumes.role, resumes.slot.1,
        advances.begun_phase, exchanges, queued⟩

end Config

/-! ## Signals and their encodings -/

/-- What is encoded as an offer or an answer decodes as one, and nothing else does. -/
def Platform.KeepsKinds (P : Platform) : Prop :=
  ∀ signal json, P.encodeSignal signal = .ok json → ∃ decoded,
    P.decodeSignal json = some decoded ∧ decoded.isOffer = signal.isOffer ∧
      decoded.isAnswer = signal.isAnswer

namespace Parcel

/-- A signal on its way to `peer`. -/
def published (id : Nat) (relay : UInt32) (peer : EndpointId) (json : Bytes) : Parcel :=
  ⟨some id, relay, peer, signalPrefix :: json⟩

private theorem carries_published (codec : P.KeepsKinds) {signal : Signal} {json : Bytes}
    (encoded : P.encodeSignal signal = .ok json) (id : Nat) (relay : UInt32)
    (peer : EndpointId) :
    (published id relay peer json).carries P Signal.isOffer = signal.isOffer ∧
      (published id relay peer json).carries P Signal.isAnswer = signal.isAnswer := by
  rcases codec signal json encoded with ⟨decoded, decodes, offer, answer⟩
  simp [carries, published, Parcel.json, decodes, offer, answer]

private theorem follows_published (codec : P.KeepsKinds) {json : Bytes}
    (trickle : Session.Trickle P json) (id : Nat) (relay : UInt32) (peer : EndpointId) :
    (published id relay peer json).Follows P := by
  rcases trickle with ⟨signal, encoded, follows⟩
  rcases carries_published codec encoded id relay peer with ⟨offer, answer⟩
  rw [Signal.follows, Bool.and_eq_true, Bool.not_eq_true', Bool.not_eq_true'] at follows
  exact ⟨offer.trans follows.1, answer.trans follows.2⟩

private theorem carries_read {parcels : List Parcel} {test : Signal → Bool}
    (ends : test .endOfCandidates = false) {parcel : Parcel} (member : parcel ∈ parcels)
    (carries : parcel.carries P test = true) :
    ∃ signal ∈ signalsIn P (parcels.map Parcel.json), test signal = true := by
  rcases (Option.any_eq_true _ _).mp carries with ⟨signal, decodes, holds⟩
  refine ⟨signal, List.mem_filterMap.mpr ⟨parcel.json, List.mem_map_of_mem member, ?_⟩, holds⟩
  rw [significant, decodes, Option.filter_some, if_pos]
  rw [decide_eq_true_eq]
  rintro rfl
  rw [ends] at holds
  cases holds

theorem read_carries {parcels : List Parcel} {signal : Signal}
    (member : signal ∈ signalsIn P (parcels.map Parcel.json)) :
    ∃ parcel ∈ parcels, P.decodeSignal parcel.json = some signal := by
  rcases List.mem_filterMap.mp member with ⟨json, among, decodes⟩
  rcases List.mem_map.mp among with ⟨parcel, found, rfl⟩
  exact ⟨parcel, found, (Option.filter_eq_some_iff.mp decodes).1⟩

end Parcel

/-! ## Parties -/

namespace Party

/-- The signals for `peer` that are queued or in flight. -/
def posted (party : Party P) (peer : EndpointId) : List Parcel :=
  party.flight.filter (fun parcel => parcel.publisher.isSome) ++
    party.outbox.filter fun parcel => parcel.publisher.isSome && decide (parcel.peer = peer)

def deaf (party : Party P) : Bool :=
  party.config.state.isClosedOrDead || !party.config.state.webrtcEnabled

/-- The session that holds the slot for `peer`. -/
def Dances (party : Party P) (peer : EndpointId) (dancer : Option (Nat × Session)) : Prop :=
  ∀ id session, (party.config.sessions.get? id = some session ∧ session.peer = peer ∧
    session.live = true) ↔ dancer = some (id, session)

def view (party : Party P) (peer : EndpointId) (dancer : Option (Nat × Session)) : View where
  dancer := dancer
  inbox := party.inbox
  posted := party.posted peer
  read := party.read
  role id := (party.config.sessions.get? id).map Session.role
  deaf := party.deaf

/-- The relays take every signal for `peer` that the pump hands them. -/
def delivering (party : Party P) (peer : EndpointId) : Bool :=
  decide (party.config.pump.phase ≠ .relayOutbound) ||
    party.outbox.head?.all fun parcel =>
      parcel.publisher.isNone || decide (parcel.peer ≠ peer) ||
        party.config.state.relayPool.contains parcel.relay

private theorem posted_steps {party : Party P} {peer : EndpointId} {action : Action}
    {next : Config P}
    (queued : party.Queued) (delivering : party.delivering peer = true)
    (stepped : party.config.step action = .ok next) :
    ∃ items, (party.config.pump.phase ≠ .relayOutbound →
        next.state.relayOutbound = party.config.state.relayOutbound ++ items) ∧
      (party.config.pump.phase = .relayOutbound → items = []) ∧
      (party.steps peer action next).posted peer = party.posted peer ++
        (items.map (Parcel.queued action.publisher)).filter fun parcel =>
          parcel.publisher.isSome && decide (parcel.peer = peer) := by
  rcases Config.step_outbound stepped with ⟨phase, popped, hands⟩ | ⟨phase, items, appended, _⟩
  · refine ⟨[], fun away => absurd phase away, fun _ => rfl, ?_⟩
    have outbox : party.queues action next = party.outbox.tail := if_pos phase
    have real := queued.outbox
    simp only [posted, steps, outbox, sends, phase, hands, true_and, List.map_nil,
      List.filter_nil, List.append_nil]
    cases queue : party.outbox with
    | nil =>
        rw [queue] at real
        rw [← real]
        simp
    | cons parcel rest =>
        rw [queue] at real
        rw [Party.delivering, queue] at delivering
        simp only [phase, ne_eq, not_true_eq_false, decide_false, Bool.false_or,
          List.head?_cons, Option.all_some, Bool.or_eq_true, decide_eq_true_eq] at delivering
        rw [← real]
        simp only [List.map_cons, List.head?_cons, List.tail_cons, List.take_succ_cons,
          List.take_zero, List.filter_append, List.append_assoc]
        cases publisher : parcel.publisher with
        | none => split <;> simp [publisher]
        | some id =>
            by_cases own : parcel.peer = peer
            · have pooled : party.config.state.relayPool.contains parcel.relay = true := by
                simpa [publisher, own] using delivering
              rw [if_pos (by simp [Option.filter_some, Parcel.item, pooled, own])]
              simp [publisher, own]
            · rw [if_neg]
              · simp [publisher, own]
              · rw [Option.filter_some]
                split
                · simpa [Parcel.item] using own
                · simp
  · have outbox : party.queues action next =
        party.outbox ++ items.map (Parcel.queued action.publisher) := by
      rw [queues, if_neg phase, appended, List.drop_left]
    have sends : party.sends peer next = [] := if_neg fun both => phase both.1
    refine ⟨items, fun _ => appended, fun same => absurd same phase, ?_⟩
    simp only [posted, steps, outbox, sends, List.append_nil, List.filter_append,
      List.append_assoc]

/-- The observed inbox is the real one, and what a session applied is what it read. -/
structure Files (party : Party P) (peer : EndpointId) : Prop where
  filed : party.inbox.map Parcel.json = party.config.state.inbox peer
  hears : party.config.state.webrtcEnabled = false → party.inbox = []
  unread : ∀ id, party.config.sessions.get? id = none → party.read id = []
  spawned : ∀ id session, party.config.sessions.get? id = some session →
    session.phase = .spawned → party.read id = [] ∧ session.applied = []
  applied : ∀ id session, party.config.sessions.get? id = some session →
    session.peer = peer → session.live = true →
    session.applied = (signalsIn P ((party.read id).map Parcel.json)).filter
      fun signal => decide (signal ≠ .done)

variable {party : Party P} {peer : EndpointId} {action : Action} {next : Config P}

theorem steps_rested (files : party.Files peer)
    (beside : next.state.signaling.get? peer = none → next.state.inbox peer = [])
    (longer : (party.config.state.inbox peer).length ≤ (next.state.inbox peer).length) :
    (party.steps peer action next).inbox = party.inbox ∧
      (party.steps peer action next).read = party.read := by
  rw [← files.filed, List.length_map] at longer
  have untaken : party.taken peer next = 0 := Nat.sub_eq_zero_of_le longer
  refine ⟨?_, ?_⟩
  · simp only [steps, untaken, List.drop_zero, Table.contains]
    cases held : next.state.signaling.get? peer with
    | none =>
        rw [beside held, List.length_nil, Nat.le_zero] at longer
        exact (List.length_eq_zero_iff.mp longer).symm
    | some relay => rfl
  · funext id
    simp [steps, untaken]

private theorem steps_read (files : party.Files peer) {id : Nat}
    (publisher : action.publisher = some id)
    (slot : next.state.signaling.contains peer = true) {read : List Bytes}
    (front : party.config.state.inbox peer = read ++ next.state.inbox peer) :
    ∃ parcels, party.inbox = parcels ++ (party.steps peer action next).inbox ∧
      parcels.map Parcel.json = read ∧
      (party.steps peer action next).inbox.map Parcel.json = next.state.inbox peer ∧
      (party.steps peer action next).read =
        fun other => if other = id then party.read id ++ parcels else party.read other := by
  have whole := files.filed
  rw [front] at whole
  have length : party.inbox.length = read.length + (next.state.inbox peer).length := by
    have total := congrArg List.length whole
    rwa [List.length_map, List.length_append] at total
  have count : party.taken peer next = read.length := by
    rw [taken, length]
    omega
  have inbox : (party.steps peer action next).inbox = party.inbox.drop read.length := by
    simp [steps, slot, count]
  refine ⟨party.inbox.take read.length, ?_, ?_, ?_, ?_⟩
  · rw [inbox, List.take_append_drop]
  · rw [List.map_take, whole, List.take_left]
  · rw [inbox, List.map_drop, whole, List.drop_left]
  · funext other
    simp only [steps, publisher, slot, count, Option.some.injEq, and_true]
    by_cases same : other = id
    · rw [if_pos same, if_pos same.symm, same]
    · rw [if_neg same, if_neg (Ne.symm same)]

private theorem steps_ended (free : next.state.signaling.get? peer = none) :
    (party.steps peer action next).inbox = [] ∧
      (party.steps peer action next).read = party.read := by
  have slot : next.state.signaling.contains peer = false := by
    rw [Table.contains, free]
    rfl
  refine ⟨by simp [steps, slot], ?_⟩
  funext id
  simp [steps, slot]

theorem view_grows {log : Log} (occupied : Occupied party.config log)
    (stepped : party.config.step action = .ok next) (dancer after : Option (Nat × Session)) :
    (party.view peer dancer).Grows ((party.steps peer action next).view peer after) := by
  refine ⟨?_, ?_, ?_⟩
  · intro id parcel member
    simp only [view, steps]
    split
    · exact List.mem_append_left _ member
    · exact member
  · intro id role known
    rcases Option.map_eq_some_iff.mp known with ⟨session, found, rfl⟩
    rcases Config.step_stays occupied.numbered stepped found with ⟨later, stays, same⟩
    simp [view, steps, stays, same]
  · intro deaf
    rcases Config.step_deafens stepped with ⟨halted, enabled⟩
    simp only [view, Party.deaf, steps, enabled, Bool.or_eq_true] at deaf ⊢
    rcases deaf with over_ | off
    · exact .inl (halted over_)
    · exact .inr off

/-- Only a session with `peer` queues signals for it. -/
theorem posted_elsewhere {log : Log} (slots : Slots party.config)
    (occupied : Occupied party.config log) (queued : party.Queued)
    (delivering : party.delivering peer = true) (stepped : party.config.step action = .ok next)
    (apart : ∀ id input session, action = .session id input →
      party.config.sessions.get? id = some session → session.peer ≠ peer) :
    (party.steps peer action next).posted peer = party.posted peer := by
  rcases posted_steps queued delivering stepped with ⟨items, appended, popped, posted⟩
  have unaddressed : ∀ parcel ∈ items.map (Parcel.queued action.publisher),
      ¬ (parcel.publisher.isSome && decide (parcel.peer = peer)) = true := by
    intro parcel member
    rcases List.mem_map.mp member with ⟨item, among, rfl⟩
    by_cases session : ∃ id input, action = .session id input
    · rcases session with ⟨id, input, rfl⟩
      rcases Config.step_exchanges slots occupied.beside stepped with
        ⟨session, _, said, relay, found, _, _, _, _, _, said_⟩
      have away : party.config.pump.phase ≠ .relayOutbound := by
        intro phase
        rw [popped phase] at among
        cases among
      rw [List.append_cancel_left ((appended away).symm.trans said_)] at among
      rcases List.mem_map.mp among with ⟨json, _, rfl⟩
      simp [Parcel.queued, apart id input session rfl found]
    · cases action with
      | session id input => exact absurd ⟨id, input, rfl⟩ session
      | _ => simp [Parcel.queued, Action.publisher]
  rw [posted, List.filter_eq_nil_iff.mpr unaddressed, List.append_nil]

section Kept

variable {log later : Log} {dancer : Option (Nat × Session)} {kept : Party P}

/-- Who holds the slot for `peer` goes on holding it. -/
theorem dances_kept (occupied : Occupied party.config log) (after : Slots next)
    (dances : party.Dances peer dancer) (stepped : party.config.step action = .ok next)
    (apart : ∀ id input session, action = .session id input →
      party.config.sessions.get? id = some session → session.peer ≠ peer)
    (slot : next.state.signaling.get? peer = party.config.state.signaling.get? peer)
    (config : kept.config = next) : kept.Dances peer dancer := by
  have stays : ∀ id session, party.config.sessions.get? id = some session →
      session.peer = peer → next.sessions.get? id = some session := by
    intro id session found own
    exact party.config.step_sessions occupied.numbered stepped
      (fun input equal => apart id input session equal found own) found
  have went : ∀ id session, next.sessions.get? id = some session → session.peer = peer →
      session.live = true → party.config.sessions.get? id = some session := by
    intro id session found own live
    rcases Config.step_spawns occupied.numbered stepped found with
      ⟨before, held, same, _⟩ | ⟨new, _, _⟩
    · rw [stays id before held (same.trans own)] at found
      cases found
      exact held
    · -- the slot of a new session would be another's
      have claimed := after.claimed id session found live
      rw [own, slot] at claimed
      rcases occupied.owned peer _ claimed with ⟨other, rival, lookup, alive, same⟩
      have alone := after.alone other id rival session (stays other rival lookup same) found
        alive live (same.trans own.symm)
      rw [← alone, lookup] at new
      cases new
  intro id session
  rw [← dances id session, config]
  constructor
  · rintro ⟨found, own, live⟩
    exact ⟨went id session found own live, own, live⟩
  · rintro ⟨found, own, live⟩
    exact ⟨stays id session found own, own, live⟩

/-- No session with `peer` runs, so none reads or applies a thing. -/
theorem files_kept (occupied : Occupied party.config log) (files : party.Files peer)
    (stepped : party.config.step action = .ok next)
    (apart : ∀ id input session, action = .session id input →
      party.config.sessions.get? id = some session → session.peer ≠ peer)
    (config : kept.config = next) (read : kept.read = party.read)
    (filed : kept.inbox.map Parcel.json = next.state.inbox peer)
    (hears : party.config.state.webrtcEnabled = false → kept.inbox = []) :
    kept.Files peer := by
  have spawned : ∀ id session, next.sessions.get? id = some session →
      session.phase = .spawned → party.read id = [] ∧ session.applied = [] := by
    intro id session found phase
    rcases Config.step_spawns occupied.numbered stepped found with
      ⟨before, held, _, same⟩ | ⟨new, _, applied⟩
    · rw [same phase] at held
      exact files.spawned id session held phase
    · exact ⟨files.unread id new, applied⟩
  refine ⟨by rw [filed, config], ?_, ?_, ?_, ?_⟩
  · intro off
    rw [config, (Config.step_deafens stepped).2] at off
    exact hears off
  · intro id new
    rw [read]
    apply files.unread
    cases before : party.config.sessions.get? id with
    | none => rfl
    | some session =>
        rcases Config.step_stays occupied.numbered stepped before with ⟨later, found, _⟩
        rw [config, found] at new
        cases new
  · intro id session found phase
    rw [config] at found
    rw [read]
    exact spawned id session found phase
  · intro id session found own live
    rw [config] at found
    rw [read]
    rcases Config.step_spawns occupied.numbered stepped found with
      ⟨before, held, same, _⟩ | ⟨_, phase, _⟩
    · have stays := party.config.step_sessions occupied.numbered stepped
        (fun input equal => apart id input before equal held (same.trans own)) held
      rw [stays] at found
      cases found
      exact files.applied id session held own live
    · rcases spawned id session found phase with ⟨unread, unapplied⟩
      simp [unread, unapplied, signalsIn]

theorem rested_elsewhere (slots : Slots party.config) (occupied : Occupied party.config log)
    (after : Slots next) (beyond : Occupied next later) (queued : party.Queued)
    (files : party.Files peer) (dances : party.Dances peer dancer)
    (delivering : party.delivering peer = true)
    (stepped : party.config.step action = .ok next)
    (slot : next.state.signaling.get? peer = party.config.state.signaling.get? peer)
    (inbox : next.state.inbox peer = party.config.state.inbox peer)
    (apart : ∀ id input session, action = .session id input →
      party.config.sessions.get? id = some session → session.peer ≠ peer) :
    (party.steps peer action next).Dances peer dancer ∧
      (party.steps peer action next).Files peer ∧
      (party.steps peer action next).inbox = party.inbox ∧
      (party.steps peer action next).read = party.read ∧
      (party.steps peer action next).posted peer = party.posted peer := by
  have beside : next.state.signaling.get? peer = none → next.state.inbox peer = [] := by
    intro free
    rw [State.inbox, beyond.beside peer free]
    rfl
  rcases @steps_rested P party peer action next files beside (by rw [inbox]) with ⟨still, read⟩
  refine ⟨dances_kept occupied after dances stepped apart slot rfl,
    files_kept occupied files stepped apart rfl read ?_ ?_, still, read,
    posted_elsewhere slots occupied queued delivering stepped apart⟩
  · rw [still, files.filed, inbox]
  · exact fun off => still.trans (files.hears off)

end Kept

/-! ## A session with the peer -/

section Resumed

variable {id : Nat} {input : SessionInput} {session after : Session}
variable {dancer : Option (Nat × Session)}

private theorem dances_resumed (dances : party.Dances peer dancer)
    (found : party.config.sessions.get? id = some session) (own : session.peer = peer)
    (live : session.live = true) (sessions : next.sessions = party.config.sessions.set id after)
    (same : after.peer = peer) :
    (party.steps peer action next).Dances peer (if after.live then some (id, after) else none) := by
  have dancing := (dances id session).mp ⟨found, own, live⟩
  intro other rival
  have lookup : (party.steps peer action next).config.sessions.get? other =
      if other = id then some after else party.config.sessions.get? other := by
    rw [show (party.steps peer action next).config.sessions = _ from sessions, Table.get?_set]
  rw [lookup]
  by_cases mine : other = id
  · rw [if_pos mine, mine]
    constructor
    · rintro ⟨equal, _, alive⟩
      cases equal
      rw [if_pos alive]
    · intro equal
      split at equal
      · cases equal
        exact ⟨rfl, same, by assumption⟩
      · cases equal
  · rw [if_neg mine]
    constructor
    · rintro held
      have rivals := (dances other rival).mp held
      rw [dancing] at rivals
      cases rivals
      exact absurd rfl mine
    · intro equal
      split at equal
      · cases equal
        exact absurd rfl mine
      · cases equal

private theorem files_resumed (files : party.Files peer)
    (sessions : next.sessions = party.config.sessions.set id after)
    (phase : after.phase ≠ .spawned)
    (enabled : next.state.webrtcEnabled = party.config.state.webrtcEnabled)
    (filed : (party.steps peer action next).inbox.map Parcel.json = next.state.inbox peer)
    (less : party.inbox = [] → (party.steps peer action next).inbox = [])
    (others : ∀ other, other ≠ id → (party.steps peer action next).read other = party.read other)
    (applied : after.peer = peer → after.live = true → after.applied =
      (signalsIn P (((party.steps peer action next).read id).map Parcel.json)).filter
        fun signal => decide (signal ≠ .done)) :
    (party.steps peer action next).Files peer := by
  have lookup : ∀ other, (party.steps peer action next).config.sessions.get? other =
      if other = id then some after else party.config.sessions.get? other := by
    intro other
    rw [show (party.steps peer action next).config.sessions = _ from sessions, Table.get?_set]
  refine ⟨filed, ?_, ?_, ?_, ?_⟩
  · intro off
    exact less (files.hears (enabled ▸ off))
  · intro other empty
    rw [lookup] at empty
    split at empty
    · cases empty
    · rename_i mine
      rw [others other mine]
      exact files.unread other empty
  · intro other rival held spawned
    rw [lookup] at held
    split at held
    · cases held
      exact absurd spawned phase
    · rename_i mine
      rw [others other mine]
      exact files.spawned other rival held spawned
  · intro other rival held own live
    rw [lookup] at held
    split at held
    · rename_i mine
      cases held
      rw [mine]
      exact applied own live
    · rename_i mine
      rw [others other mine]
      exact files.applied other rival held own live

private theorem posted_resumed (queued : party.Queued) (delivering : party.delivering peer = true)
    (stepped : party.config.step (.session id input) = .ok next) {said : List Bytes}
    {relay : UInt32} (speaks : next.state.relayOutbound = party.config.state.relayOutbound ++
      said.map fun json => (relay, peer, signalPrefix :: json)) :
    (party.steps peer (.session id input) next).posted peer =
      party.posted peer ++ said.map (Parcel.published id relay peer) := by
  rcases posted_steps queued delivering stepped with ⟨items, appended, _, posted⟩
  have away : party.config.pump.phase ≠ .relayOutbound := by
    intro phase
    simp [Config.step, phase, PumpPhase.awaits] at stepped
  have items_ := List.append_cancel_left ((appended away).symm.trans speaks)
  rw [posted, items_, List.map_map, List.filter_eq_self.mpr]
  · rfl
  · intro parcel member
    rcases List.mem_map.mp member with ⟨json, _, rfl⟩
    simp [Parcel.queued, Action.publisher]

private theorem dances_idle (dances : party.Dances peer dancer)
    (found : party.config.sessions.get? id = some session) (idle : session.live = false)
    (sessions : next.sessions = party.config.sessions.set id after)
    (over_ : after.live = false) : (party.steps peer action next).Dances peer dancer := by
  intro other rival
  rw [← dances other rival, show (party.steps peer action next).config.sessions = _ from sessions,
    Table.get?_set]
  by_cases mine : other = id
  · rw [if_pos mine, mine, found]
    constructor
    · rintro ⟨equal, _, live⟩
      cases equal
      rw [over_] at live
      cases live
    · rintro ⟨equal, _, live⟩
      cases equal
      rw [idle] at live
      cases live
  · rw [if_neg mine]

/-- The session gets the free slot for `peer`. -/
theorem dances_claimed (slots : Slots party.config) (dances : party.Dances peer dancer)
    (free : party.config.state.signaling.get? peer = none) {kept : Party P}
    (own : after.peer = peer) (live : after.live = true)
    (sessions : kept.config.sessions = party.config.sessions.set id after) :
    dancer = none ∧ kept.Dances peer (some (id, after)) := by
  -- whoever is live holds a slot, and this one is free
  have idle : ∀ other rival, party.config.sessions.get? other = some rival →
      rival.peer = peer → rival.live = true → False := by
    intro other rival found same alive
    have claimed := slots.claimed other rival found alive
    rw [same, free] at claimed
    cases claimed
  refine ⟨?_, ?_⟩
  · cases holds : dancer with
    | none => rfl
    | some held =>
        rcases (dances held.1 held.2).mpr holds with ⟨found, same, alive⟩
        exact (idle held.1 held.2 found same alive).elim
  · intro other rival
    rw [sessions, Table.get?_set]
    split
    · rename_i mine
      subst mine
      constructor
      · rintro ⟨equal, _, _⟩
        cases equal
        rfl
      · intro equal
        cases equal
        exact ⟨rfl, own, live⟩
    · rename_i mine
      constructor
      · rintro ⟨found, same, alive⟩
        exact (idle other rival found same alive).elim
      · intro equal
        cases equal
        exact absurd rfl mine

private theorem files_rested {log : Log} (files : party.Files peer) (beyond : Occupied next log)
    (stepped : party.config.step action = .ok next)
    (sessions : next.sessions = party.config.sessions.set id after)
    (phase : after.phase ≠ .spawned)
    (inbox : next.state.inbox peer = party.config.state.inbox peer)
    (applied : after.live = true → after.applied =
      (signalsIn P ((party.read id).map Parcel.json)).filter
        fun signal => decide (signal ≠ .done)) :
    (party.steps peer action next).inbox = party.inbox ∧
      (party.steps peer action next).read = party.read ∧
      (party.steps peer action next).Files peer := by
  have beside : next.state.signaling.get? peer = none → next.state.inbox peer = [] := by
    intro free
    rw [State.inbox, beyond.beside peer free]
    rfl
  rcases @steps_rested P party peer action next files beside (by rw [inbox]) with ⟨kept, read⟩
  refine ⟨kept, read, files_resumed files sessions phase (Config.step_deafens stepped).2
    ?_ ?_ ?_ ?_⟩
  · rw [kept, files.filed, inbox]
  · exact fun empty => kept.trans empty
  · intro other _
    rw [read]
  · intro _ live
    rw [read]
    exact applied live

private theorem files_fronted (files : party.Files peer)
    (stepped : party.config.step (.session id input) = .ok next)
    (found : party.config.sessions.get? id = some session) (own : session.peer = peer)
    (live : session.live = true) (sessions : next.sessions = party.config.sessions.set id after)
    (phase : after.phase ≠ .spawned) (slot : next.state.signaling.contains peer = true)
    {read : List Bytes}
    (front : party.config.state.inbox peer = read ++ next.state.inbox peer)
    (applied : after.applied = session.applied ++ (signalsIn P read).filter
      fun signal => decide (signal ≠ .done)) :
    ∃ parcels, parcels.map Parcel.json = read ∧
      party.inbox = parcels ++ (party.steps peer (.session id input) next).inbox ∧
      (party.steps peer (.session id input) next).read =
        (party.view peer dancer).reads id parcels ∧
      (party.steps peer (.session id input) next).Files peer := by
  rcases @steps_read P party peer (.session id input) next files id rfl slot read front with
    ⟨parcels, whole, jsons, filed, reading⟩
  refine ⟨parcels, jsons, whole, reading, files_resumed files sessions phase
    (Config.step_deafens stepped).2 filed ?_ ?_ ?_⟩
  · intro empty
    rw [empty] at whole
    exact (List.append_eq_nil_iff.mp whole.symm).2
  · intro other mine
    rw [reading]
    exact if_neg mine
  · intro _ _
    rw [reading]
    dsimp only
    rw [if_pos rfl, applied, files.applied id session found own live, List.map_append,
      signalsIn_append, List.filter_append, jsons]

/-- The session is an offerer that claims the slot for `peer`. -/
structure Claims (party : Party P) (peer : EndpointId) (id : Nat) (after : Session)
    (later : Party P) : Prop where
  session : ∃ session, party.config.sessions.get? id = some session ∧
    session.role = .offerer ∧ session.phase = .spawned ∧ session.peer = peer
  free : party.config.state.signaling.get? peer = none
  role : after.role = .offerer
  silent : after.phase.stage = .silent
  inbox : later.inbox = party.inbox
  posted : later.posted peer = party.posted peer
  unread : later.read id = []

theorem session_acts (codec : P.KeepsKinds) {log later : Log} (slots : Slots party.config)
    (occupied : Occupied party.config log) (beyond : Occupied next later)
    (queued : party.Queued) (files : party.Files peer) (dances : party.Dances peer dancer)
    (delivering : party.delivering peer = true)
    (stepped : party.config.step (.session id input) = .ok next)
    (found : party.config.sessions.get? id = some session) (own : session.peer = peer) :
    ∃ dancer', (party.steps peer (.session id input) next).Dances peer dancer' ∧
      (party.steps peer (.session id input) next).Files peer ∧
      ((party.view peer dancer).Acts P
          ((party.steps peer (.session id input) next).view peer dancer') ∨
        ∃ after, dancer' = some (id, after) ∧
          party.Claims peer id after (party.steps peer (.session id input) next)) := by
  rcases Config.step_exchanges slots occupied.beside stepped with
    ⟨before, after, said, relay, held, sessions, role, same, phase, exchanges, speaks⟩
  rw [found] at held
  cases held
  rw [own] at same speaks
  have posted := posted_resumed queued delivering stepped speaks
  subst own
  have rested := @files_rested P party session.peer (.session id input) next id after later files
    beyond stepped sessions phase
  have quiet : said = [] →
      (party.steps session.peer (.session id input) next).posted session.peer =
        party.posted session.peer := by
    intro silent
    rw [posted, silent, List.map_nil, List.append_nil]
  have dancing : session.live = true → dancer = some (id, session) := fun live =>
    (dances id session).mp ⟨found, rfl, live⟩
  have lasts := fun live => @dances_resumed P party session.peer (.session id input) next id
    session after dancer dances found rfl live sessions same
  have going : session.live = true → after.live = true →
      (party.steps session.peer (.session id input) next).Dances session.peer
        (some (id, after)) := by
    intro live alive
    have lasts := lasts live
    rwa [if_pos alive] at lasts
  have follows : (∀ json ∈ said, Session.Trickle P json) →
      ∀ parcel ∈ said.map (Parcel.published id relay session.peer),
        parcel.publisher = some id ∧ parcel.Follows P := by
    intro trickles parcel member
    rcases List.mem_map.mp member with ⟨json, among, rfl⟩
    exact ⟨rfl, Parcel.follows_published codec (trickles json among) id relay session.peer⟩
  have fronted := fun live slot read front applied => @files_fronted P party session.peer next id
    input session after dancer files stepped found rfl live sessions phase slot read front applied
  cases exchanges with
  | idle idle over_ silent slot inbox =>
      rcases rested inbox (by simp [over_]) with ⟨kept, read, files⟩
      exact ⟨dancer, dances_idle dances found idle sessions over_, files,
        .inl (.rested rfl kept (quiet silent) read)⟩
  | claimed offerer spawned free live stage applied silent slot inbox =>
      rcases files.spawned id session found spawned with ⟨unread, unapplied⟩
      rcases rested inbox (by simp [applied, unapplied, unread, signalsIn]) with
        ⟨kept, read, files⟩
      exact ⟨some (id, after), (dances_claimed slots dances free same live sessions).2, files,
        .inr ⟨after, rfl, ⟨session, found, offerer, spawned, rfl⟩, free, role.trans offerer, stage,
          kept, quiet silent, by rw [read]; exact unread⟩⟩
  | moved live alive stage applied silent slot inbox =>
      rcases rested inbox (fun _ => applied.trans (files.applied id session found rfl live)) with
        ⟨kept, read, files⟩
      exact ⟨_, going live alive, files, .inl (.moved id session after (dancing live) rfl role stage
        kept (quiet silent) read)⟩
  | ended live over_ trickles described free =>
      rcases @steps_ended P party session.peer (.session id input) next free with ⟨kept, read⟩
      have lasts := lasts live
      rw [if_neg (by simp [over_])] at lasts
      refine ⟨none, lasts, files_resumed files sessions phase (Config.step_deafens stepped).2 ?_
        (fun _ => kept) ?_ ?_, .inl (.ended id session _ (dancing live) rfl kept posted read
          (follows trickles) ?_)⟩
      · rw [kept, State.inbox, beyond.beside session.peer free]
        rfl
      · intro other _
        rw [read]
      · intro _ alive
        rw [over_] at alive
        cases alive
      · intro some_
        exact described (by simpa using some_)
  | described sdp json live stage alive later applied encoded speaks slot inbox =>
      rcases rested inbox (fun _ => applied.trans (files.applied id session found rfl live)) with
        ⟨kept, read, files⟩
      rcases Parcel.carries_published codec encoded id relay session.peer with ⟨offer, answer⟩
      rw [speaks, List.map_singleton] at posted
      refine ⟨_, going live alive, files, .inl (.described id session after _ (dancing live) stage
        rfl role later kept posted read rfl ?_ ?_)⟩
      · rw [offer]
        cases own : session.role <;> simp [Session.ownDescription, own, Signal.isOffer]
      · rw [answer]
        cases own : session.role <;> simp [Session.ownDescription, own, Signal.isAnswer]
  | consumed heard read live alive stages trickles described open_ hears front signals slot =>
      rcases fronted live slot _ front (hears.applied_read signals) with
        ⟨parcels, jsons, whole, reading, filed⟩
      refine ⟨_, going live alive, filed, .inl (.consumed id session after parcels _ (dancing live)
        stages rfl role ?_ whole posted reading ?_ (follows trickles) ?_ ?_)⟩
      · rcases hears.stage with exchanging | ⟨passed, done⟩
        · exact .inl exchanging
        · refine .inr ⟨passed, ?_⟩
          rintro rfl
          rw [← jsons, done] at signals
          cases signals
      · intro parcel member
        rw [← Bool.not_eq_true]
        intro carries
        rcases Parcel.carries_read rfl member carries with ⟨signal, among, offers⟩
        rw [jsons, signals] at among
        rw [hears.unoffered signal among] at offers
        cases offers
      · intro some_
        exact described (by simpa using some_)
      · intro some_
        have on : party.config.state.webrtcEnabled = true := by
          cases enabled : party.config.state.webrtcEnabled with
          | true => rfl
          | false =>
              rw [files.hears enabled] at whole
              exact absurd (List.append_eq_nil_iff.mp whole.symm).1 some_
        simp [view, deaf, open_, on]
  | took sdp read answerer live stage alive later applied silent front signals slot =>
      rcases fronted live slot _ front (by rw [applied, signals]; rfl) with
        ⟨parcels, jsons, whole, reading, filed⟩
      have offered : .offer sdp ∈ signalsIn P (parcels.map Parcel.json) := by
        rw [jsons, signals]
        exact List.mem_singleton_self _
      rcases Parcel.read_carries offered with ⟨offer, among, decodes⟩
      exact ⟨_, going live alive, filed, .inl (.took id session after parcels offer (dancing live)
        answerer stage rfl (role.trans answerer) later whole (quiet silent) reading among
        (by simp [Parcel.carries, decodes, Signal.isOffer]))⟩
  | waited read answerer live stage alive later applied silent front signals slot =>
      rcases fronted live slot _ front (by rw [applied, signals]; simp) with
        ⟨parcels, jsons, whole, reading, filed⟩
      exact ⟨_, going live alive, filed, .inl (.waited id session after parcels (dancing live)
        answerer stage rfl (role.trans answerer) later whole (quiet silent) reading)⟩

end Resumed

end Party

end IrohEndpoint
