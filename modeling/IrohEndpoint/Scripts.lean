import IrohEndpoint.OwnSignals

/-! # What a session says

A session publishes its description, then its candidates, then the two signals that
end its side. It may stop anywhere, but it never says anything else, nor anything
twice, nor to anyone but its peer through the relay its slot names. -/

namespace IrohEndpoint

variable {P : Platform}

def descriptionsIn (given : List SessionInput) : List String :=
  given.flatMap SessionInput.described

def candidatesIn (given : List SessionInput) : List IceCandidate :=
  given.flatMap SessionInput.gathered

def Session.script (session : Session) (given : List SessionInput) : List Signal :=
  (descriptionsIn given).flatMap fun sdp =>
    session.ownDescription sdp :: Session.trickled (candidatesIn given)

variable (P) in
/-- A queued packet carries the signal, from the session to its peer. -/
def Session.Carries (session : Session) (signal : Signal)
    (packet : UInt32 × EndpointId × Bytes) : Prop :=
  ∃ json, P.encodeSignal signal = .ok json ∧
    packet = (session.via, session.peer, signalPrefix :: json)

/-! ## Encoding -/

private theorem encodeAll_carries (session : Session) (signals : List Signal) :
    ∃ front, front <+: signals ∧ List.Forall₂ (session.Carries P) front
        ((encodeAll P signals).2.map fun json =>
          (session.via, session.peer, signalPrefix :: json)) ∧
      ((encodeAll P signals).1 = .ok () → front = signals) := by
  induction signals with
  | nil => exact ⟨[], List.prefix_rfl, .nil, fun _ => rfl⟩
  | cons signal rest induction =>
      rw [encodeAll]
      cases encoded : P.encodeSignal signal with
      | error detail => exact ⟨[], List.nil_prefix, .nil, by simp⟩
      | ok json =>
          rcases induction with ⟨front, begins, carried, whole⟩
          refine ⟨signal :: front, ?_, .cons ⟨json, encoded, rfl⟩ carried, ?_⟩
          · exact List.cons_prefix_cons.mpr ⟨rfl, begins⟩
          · intro done
            rw [whole done]

/-! ## One resumption -/

private theorem descriptionsIn_concat (given : List SessionInput) (input : SessionInput) :
    descriptionsIn (given ++ [input]) = descriptionsIn given ++ input.described := by
  simp [descriptionsIn]

private theorem candidatesIn_concat (given : List SessionInput) (input : SessionInput) :
    candidatesIn (given ++ [input]) = candidatesIn given ++ input.gathered := by
  simp [candidatesIn]

private theorem Phase.described_eq {phase : Phase} (stage : phase.stage ≠ .silent) :
    phase.described = [] := by
  cases phase with
  | settingLocal sdp => exact absurd rfl stage
  | _ => rfl

private theorem Phase.gathered_eq {phase : Phase} (stage : phase.stage ≠ .described) :
    phase.gathered = [] := by
  cases phase with
  | gathering candidates => exact absurd rfl stage
  | _ => rfl

private theorem Phase.described_few (phase : Phase) : phase.described.length ≤ 1 := by
  cases phase with
  | settingLocal sdp => exact le_refl 1
  | _ => exact Nat.zero_le 1

inductive Session.Spoke (session : Session) (given : List SessionInput) : List Signal → Prop
  | nothing : session.phase.stage = .starting ∨ session.phase.stage = .silent →
      descriptionsIn given = session.phase.described → candidatesIn given = [] →
      Spoke session given []
  | description (sdp : String) : session.phase.stage = .described →
      descriptionsIn given = [sdp] → candidatesIn given = session.phase.gathered →
      Spoke session given [session.ownDescription sdp]
  | everything (sdp : String) :
      session.phase.stage = .exchanging ∨ session.phase.stage = .passed →
      descriptionsIn given = [sdp] → Spoke session given (session.script given)
  | stopped (front : List Signal) : session.phase.stage = .over →
      (descriptionsIn given).length ≤ 1 → front <+: session.script given →
      Spoke session given front

namespace Session.Spoke

variable {session after : Session} {given : List SessionInput} {input : SessionInput}
variable {signals : List Signal}

private theorem script_single {sdp : String} (described : descriptionsIn given = [sdp]) :
    session.script given = session.ownDescription sdp :: trickled (candidatesIn given) := by
  rw [Session.script, described, List.flatMap_singleton]

private theorem begins (spoke : session.Spoke given signals) :
    signals <+: session.script given := by
  cases spoke with
  | nothing _ _ _ => exact List.nil_prefix
  | description sdp _ described _ =>
      rw [script_single described]
      exact List.cons_prefix_cons.mpr ⟨rfl, List.nil_prefix⟩
  | everything sdp _ _ => exact List.prefix_rfl
  | stopped _ _ _ front => exact front

theorem few (spoke : session.Spoke given signals) : (descriptionsIn given).length ≤ 1 := by
  cases spoke with
  | nothing _ described _ =>
      rw [described]
      exact session.phase.described_few
  | description sdp _ described _ => rw [described, List.length_singleton]
  | everything sdp _ described => rw [described, List.length_singleton]
  | stopped _ _ few _ => exact few

private theorem script_role (role : after.role = session.role) (given : List SessionInput) :
    after.script given = session.script given := by
  have own : after.ownDescription = session.ownDescription := by
    funext sdp
    rw [Session.ownDescription, Session.ownDescription, role]
  rw [Session.script, Session.script, own]

private theorem descriptionsIn_bare (bare : input.Bare) :
    descriptionsIn (given ++ [input]) = descriptionsIn given := by
  rw [descriptionsIn_concat, bare.described, List.append_nil]

private theorem candidatesIn_bare (bare : input.Bare) :
    candidatesIn (given ++ [input]) = candidatesIn given := by
  rw [candidatesIn_concat, bare.gathered, List.append_nil]

private theorem script_bare (bare : input.Bare) :
    session.script (given ++ [input]) = session.script given := by
  rw [Session.script, Session.script, descriptionsIn_bare bare, candidatesIn_bare bare]

theorem stop (spoke : session.Spoke given signals) (bare : input.Bare)
    (role : after.role = session.role) (over_ : after.phase.stage = .over) :
    after.Spoke (given ++ [input]) signals := by
  apply Spoke.stopped signals over_
  · rw [descriptionsIn_bare bare]
    exact spoke.few
  · rw [script_role role, script_bare bare]
    exact spoke.begins

theorem starts (spoke : session.Spoke given signals) (bare : input.Bare)
    (starting : session.phase.stage = .starting)
    (stage : after.phase.stage = .starting ∨ after.phase.stage = .silent)
    (holds : after.phase.described = []) : after.Spoke (given ++ [input]) signals := by
  cases spoke with
  | nothing _ described gathered =>
      apply Spoke.nothing stage
      · rw [descriptionsIn_bare bare, described, holds]
        exact Phase.described_eq (by simp [starting])
      · rw [candidatesIn_bare bare, gathered]
  | _ => simp_all

theorem reads (spoke : session.Spoke given signals) (bare : input.Bare)
    (role : after.role = session.role) (exchanging : session.phase.stage = .exchanging)
    (stage : after.phase.stage = .exchanging ∨ after.phase.stage = .passed) :
    after.Spoke (given ++ [input]) signals := by
  cases spoke with
  | everything sdp _ described =>
      rw [← script_bare bare, ← script_role role]
      exact .everything sdp stage ((descriptionsIn_bare bare).trans described)
  | _ => simp_all

/-- The session goes on to a phase of the same stage, with what it was given. -/
theorem moves (spoke : session.Spoke given signals) (role : after.role = session.role)
    (stage : after.phase.stage = session.phase.stage)
    (takes : session.phase.Takes input after.phase) :
    after.Spoke (given ++ [input]) signals := by
  have ungathered : session.phase.stage ≠ .described → input.gathered = [] := by
    intro other
    have none := takes.gathered
    rw [Phase.gathered_eq (stage ▸ other)] at none
    exact (List.append_eq_nil_iff.mp none.symm).2
  have undescribed : session.phase.stage ≠ .silent → input.described = [] := by
    intro other
    have none := takes.described
    rw [Phase.described_eq (stage ▸ other)] at none
    exact (List.append_eq_nil_iff.mp none.symm).2
  cases spoke with
  | nothing early described gathered =>
      apply Spoke.nothing (stage ▸ early)
      · rw [descriptionsIn_concat, described, takes.described]
      · rw [candidatesIn_concat, gathered, ungathered, List.append_nil]
        rcases early with early | early <;> simp [early]
  | description sdp published described gathered =>
      have own : session.ownDescription sdp = after.ownDescription sdp := by
        rw [Session.ownDescription, Session.ownDescription, role]
      rw [own]
      apply Spoke.description sdp (stage.trans published)
      · rw [descriptionsIn_concat, described, undescribed (by simp [published]),
          List.append_nil]
      · rw [candidatesIn_concat, gathered, takes.gathered]
  | everything sdp late described =>
      have bare : input.Bare := by
        constructor
        · exact undescribed (by rcases late with late | late <;> simp [late])
        · exact ungathered (by rcases late with late | late <;> simp [late])
      rw [← script_bare bare, ← script_role role]
      exact .everything sdp (stage ▸ late) ((descriptionsIn_bare bare).trans described)
  | stopped _ ended few front =>
      have bare : input.Bare := by
        constructor
        · exact undescribed (by simp [ended])
        · exact ungathered (by simp [ended])
      exact (Spoke.stopped signals ended few front).stop bare role (stage.trans ended)

end Session.Spoke

namespace Session

variable {session : Session} {now : Instant} {wire : ChannelWire} {state : State P}
variable {given : List SessionInput} {input : SessionInput} {signals : List Signal}

private theorem consume_stage (session : Session) (now : Instant) (state : State P) :
    (session.consume now state).1.role = session.role ∧
      ((session.consume now state).1.phase.stage = .exchanging ∨
        (session.consume now state).1.phase.stage = .passed ∨
        (session.consume now state).1.phase.stage = .over) := by
  cases open_ : state.isClosedOrDead with
  | true =>
      rw [consume_closed session now open_]
      exact ⟨rfl, .inr (.inr rfl)⟩
  | false =>
      rw [consume_eq session now open_, hears.eq_def]
      split
      · split
        · exact ⟨rfl, .inr (.inr rfl)⟩
        · exact ⟨rfl, .inl rfl⟩
      · exact ⟨rfl, .inr (.inl rfl)⟩
      · exact ⟨rfl, .inl rfl⟩
      · exact ⟨rfl, .inl rfl⟩
      · exact ⟨rfl, .inl rfl⟩
      · exact ⟨rfl, .inr (.inr rfl)⟩

private theorem takeOffer_stage (session : Session) (now : Instant) (state : State P) :
    (session.takeOffer now state).1.role = session.role ∧
      (session.takeOffer now state).1.phase.described = [] ∧
      ((session.takeOffer now state).1.phase.stage = .starting ∨
        (session.takeOffer now state).1.phase.stage = .silent ∨
        (session.takeOffer now state).1.phase.stage = .over) := by
  rw [takeOffer.eq_def]
  split
  · exact ⟨rfl, rfl, .inl rfl⟩
  · exact ⟨rfl, rfl, .inr (.inr rfl)⟩
  · exact ⟨rfl, rfl, .inr (.inl rfl)⟩
  all_goals exact ⟨rfl, rfl, .inr (.inr rfl)⟩

/-- The session, with the input, says the next part of its script, or nothing. -/
def Says (session : Session) (given : List SessionInput) (signals : List Signal)
    (state : State P) (resumed : Resumed P) : Prop :=
  ∃ more items, resumed.1.Spoke given (signals ++ more) ∧
    resumed.2.2.relayOutbound = state.relayOutbound ++ items ∧
    List.Forall₂ (session.Carries P) more items

private theorem says_nothing {resumed : Resumed P} (spoke : resumed.1.Spoke given signals)
    (same : resumed.2.2.relayOutbound = state.relayOutbound) :
    session.Says given signals state resumed :=
  ⟨[], [], by rwa [List.append_nil], by rw [same, List.append_nil], .nil⟩

private theorem describe_says (slot : state.signaling.get? session.peer = some session.via)
    {sdp : String} (described : descriptionsIn given = [sdp]) (gathered : candidatesIn given = []) :
    session.Says given [] state (session.describe state sdp) := by
  rcases encodeAll_carries (P := P) session [session.ownDescription sdp] with
    ⟨front, begins, carried, whole⟩
  rcases describe_cases slot sdp with ⟨error, failed, equal⟩ | ⟨done, equal⟩ <;> rw [equal]
  · refine ⟨front, _, .stopped front rfl (by rw [described, List.length_singleton]) ?_, rfl,
      carried⟩
    change front <+: session.script given
    rw [Spoke.script_single described]
    exact begins.trans (List.cons_prefix_cons.mpr ⟨rfl, List.nil_prefix⟩)
  · rw [whole done] at carried
    exact ⟨[session.ownDescription sdp], _, .description sdp rfl described gathered, rfl, carried⟩

private theorem publishCandidates_says
    (slot : state.signaling.get? session.peer = some session.via) {sdp : String}
    (described : descriptionsIn given = [sdp]) :
    session.Says given [session.ownDescription sdp] state
      (session.publishCandidates now state (candidatesIn given)) := by
  have few : (descriptionsIn given).length ≤ 1 := by rw [described, List.length_singleton]
  have script : session.script given =
      [session.ownDescription sdp] ++ trickled (candidatesIn given) :=
    Spoke.script_single described
  rcases encodeAll_carries (P := P) session (trickled (candidatesIn given)) with
    ⟨front, begins, carried, whole⟩
  rcases publishCandidates_cases slot (candidatesIn given) with
    ⟨error, _, equal⟩ | ⟨done, equal⟩ <;> rw [equal]
  · refine ⟨front, _, .stopped _ rfl few ?_, rfl, carried⟩
    change _ <+: session.script given
    rw [script]
    exact (List.prefix_append_right_inj _).mpr begins
  · rw [whole done] at carried
    have outbound := consume_outbound session now (state.speaks session.via session.peer
      (encodeAll P (trickled (candidatesIn given))).2)
    rcases consume_stage session now (state.speaks session.via session.peer
      (encodeAll P (trickled (candidatesIn given))).2) with ⟨role, stages⟩
    refine ⟨trickled (candidatesIn given), _, ?_, outbound, carried⟩
    rw [← script, ← Spoke.script_role role]
    rcases stages with exchanging | passed | over_
    · exact .everything sdp (.inl exchanging) described
    · exact .everything sdp (.inr passed) described
    · exact .stopped _ over_ few List.prefix_rfl

private theorem Advances.speaks {resumed : Resumed P}
    (held : session.live = true → state.signaling.get? session.peer = some session.via)
    (advances : session.Advances now wire state input resumed)
    (spoke : session.Spoke given signals) :
    session.Says (given ++ [input]) signals state resumed := by
  cases advances with
  | begun channel offerer spawned bare =>
      have starting : session.phase.stage = .starting := by rw [spawned]; rfl
      rw [Session.begin, State.beginSignaling]
      split <;> rename_i begun
      · split at begun <;> cases begun
        exact says_nothing (spoke.stop bare rfl rfl) rfl
      · split at begun <;> cases begun
        split
        · exact says_nothing (spoke.stop bare rfl rfl) rfl
        · exact says_nothing (spoke.starts bare starting (.inr rfl) rfl) rfl
  | moved phase live dancing stage takes => exact says_nothing (spoke.moves rfl stage takes) rfl
  | failed error live bare => exact says_nothing (spoke.stop bare rfl rfl) rfl
  | described sdp live phase bare =>
      have silent : session.phase.stage = .silent := by rw [phase]; rfl
      cases spoke with
      | nothing _ described gathered =>
          apply describe_says (held live)
          · rw [Spoke.descriptionsIn_bare bare, described, phase]
            rfl
          · rw [Spoke.candidatesIn_bare bare, gathered]
      | _ => simp_all
  | gathered candidates live stage all undescribed =>
      cases spoke with
      | description sdp _ described gathered =>
          rw [all, ← gathered, ← candidatesIn_concat]
          apply publishCandidates_says (held live)
          rw [descriptionsIn_concat, described, undescribed, List.append_nil]
      | _ => simp_all
  | consumed live stage bare =>
      rcases consume_stage session now state with ⟨role, stages⟩
      apply says_nothing _ (consume_outbound session now state)
      rcases stages with exchanging | passed | over_
      · exact spoke.reads bare role stage (.inl exchanging)
      · exact spoke.reads bare role stage (.inr passed)
      · exact spoke.stop bare role over_
  | polled started role live stage bare =>
      rcases takeOffer_stage ({ session with started } : Session) now state with
        ⟨same, holds, stages⟩
      apply says_nothing _ (takeOffer_outbound _ now state)
      rcases stages with starting | quiet | over_
      · exact spoke.starts bare stage (.inl starting) holds
      · exact spoke.starts bare stage (.inr quiet) holds
      · exact spoke.stop bare same over_
  | upgraded role live stage bare =>
      exact says_nothing (spoke.stop bare rfl rfl)
        (register_outbound session (state.endSignaling session.peer) wire)
  | answered role live stage bare =>
      exact says_nothing (spoke.stop bare rfl rfl) (register_outbound session state wire)

theorem Resumes.via {after : Session} {next : State P} {registration : Option Registration}
    (resumes : session.Resumes now wire state (after, registration, next)) :
    after.via = session.via := by
  cases resumes with
  | continued _ _ _ _ via _ _ _ => exact via
  | _ => rfl

end Session

/-! ## Whole runs -/

structure Speech where
  given : List SessionInput
  queued : List (UInt32 × EndpointId × Bytes)

abbrev Speeches := Nat → Speech

def Speeches.note (log : Speeches) (config : Config P) (action : Action) (next : Config P) :
    Speeches :=
  match action with
  | .session id input => Function.update log id {
      given := (log id).given ++ [input]
      queued := (log id).queued ++
        next.state.relayOutbound.drop config.state.relayOutbound.length }
  | _ => log

variable (P) in
/-- The endpoint beside the log of what its sessions are given and say. -/
def speaking : System (Config P × Speeches) Action Abort :=
  (endpoint P).observed (fun _ => ⟨[], []⟩) Speeches.note

/-- Every session has said as much of its script as its phase tells. -/
structure Speeches.Scripted (log : Speeches) (config : Config P) : Prop where
  spoken : ∀ id session, config.sessions.get? id = some session →
    ∃ signals, session.Spoke (log id).given signals ∧
      List.Forall₂ (session.Carries P) signals (log id).queued
  unspoken : ∀ id, config.sessions.get? id = none → log id = ⟨[], []⟩

namespace Speeches.Scripted

variable {log : Speeches} {config next : Config P} {action : Action}

/-- A step of another task: sessions stay, or start with their whole script ahead. -/
theorem rested (scripted : log.Scripted config)
    (numbered : ∀ id session, config.sessions.get? id = some session → id < config.fresh)
    (other : ∀ id input, action ≠ .session id input) (stepped : config.step action = .ok next) :
    log.Scripted next := by
  constructor
  · intro id session found
    cases before : config.sessions.get? id with
    | some old =>
        have stays := config.step_sessions numbered stepped (other id) before
        rw [stays] at found
        cases found
        exact scripted.spoken id session before
    | none =>
        rcases Config.step_spawns numbered stepped found with ⟨_, there, _⟩ | ⟨_, spawned, _⟩
        · rw [before] at there
          cases there
        · rw [scripted.unspoken id before]
          refine ⟨[], .nothing (.inl (by rw [spawned]; rfl)) ?_ rfl, .nil⟩
          rw [spawned]
          rfl
  · intro id absent
    apply scripted.unspoken
    cases before : config.sessions.get? id with
    | none => rfl
    | some old =>
        rw [config.step_sessions numbered stepped (other id) before] at absent
        cases absent

theorem resumed {id : Nat} {input : SessionInput} {session after : Session}
    {registration : Option Registration} {state : State P} (scripted : log.Scripted config)
    (slots : Slots config) (found : config.sessions.get? id = some session)
    (ran : session.resume config.clock ⟨config.fresh⟩ config.state input =
      .ok (after, registration, state))
    (stored : next.sessions = config.sessions.set id after) (moved : next.state = state) :
    (log.note config (.session id input) next).Scripted next := by
  have resumes := Session.resumes ran
  constructor
  · intro other current lookup
    rw [stored, Table.get?_set] at lookup
    split at lookup
    · rename_i same
      cases lookup
      subst same
      rcases scripted.spoken other session found with ⟨signals, spoke, carried⟩
      rcases (Session.advances ran).speaks (slots.claimed other session found) spoke with
        ⟨more, items, speaks, queued, carries⟩
      dsimp only at speaks queued
      have kept : session.Carries P = after.Carries P := by
        funext signal packet
        rw [Session.Carries, Session.Carries, resumes.via, resumes.slot.1]
      rw [note, moved, Function.update_self, queued, List.drop_left]
      refine ⟨signals ++ more, speaks, ?_⟩
      rw [← kept]
      exact List.rel_append carried carries
    · rename_i apart
      rw [note, Function.update_of_ne apart]
      exact scripted.spoken other current lookup
  · intro other absent
    rw [stored, Table.get?_set] at absent
    split at absent
    · cases absent
    · rename_i apart
      rw [note, Function.update_of_ne apart]
      exact scripted.unspoken other absent

end Speeches.Scripted

private theorem speaking_scripted {config : Config P} {log : Speeches}
    (reached : (speaking P).Reachable (config, log)) : log.Scripted config := by
  refine (System.observed.reachable_invariant (fun config (log : Speeches) =>
    log.Scripted config) ?_ ?_ reached).2
  · rintro config ⟨noq, webrtc, udp, relay, clock, url, _, rfl⟩
    constructor
    · intro id session found
      simp [Config.bind] at found
    · intro id _
      rfl
  · intro config log action next reachable scripted stepped
    rcases reachable_occupied reachable with ⟨_, occupied⟩
    by_cases speaks : ∃ id input, action = .session id input
    · rcases speaks with ⟨id, input, rfl⟩
      have acts : config.Acts (.session id input) next := Config.step_acts stepped
      cases acts with
      | resumed _ _ session after registration state _ found ran =>
          exact scripted.resumed (reachable_slots reachable) found ran rfl rfl
    · have other : ∀ id input, action ≠ .session id input :=
        fun id input same => speaks ⟨id, input, same⟩
      have unheard : log.note config action next = log := by
        cases action with
        | session id input => exact absurd rfl (other id input)
        | _ => rfl
      rw [unheard]
      exact scripted.rested occupied.numbered other stepped

/-- In every run, what a session has queued is a part, from the front, of one script: the
description that its peer connection made (the offer of an offerer, the answer of an
answerer), each candidate that its stream brought, in order, the end of the candidates,
`done`; each once, to its own peer, through the relay its slot was claimed with. Before it
has set its description it has said nothing, and once it reads its peer's signals it has
said everything. -/
theorem sessions_keep_to_their_script {config : Config P} {log : Speeches}
    (reached : (speaking P).Reachable (config, log)) {id : Nat} {session : Session}
    (found : config.sessions.get? id = some session) :
    ∃ signals, List.Forall₂ (session.Carries P) signals (log id).queued ∧
      (descriptionsIn (log id).given).length ≤ 1 ∧
      signals <+: session.script (log id).given ∧
      (session.phase.stage = .starting ∨ session.phase.stage = .silent → signals = []) ∧
      (session.phase.stage = .described → ∃ sdp,
        descriptionsIn (log id).given = [sdp] ∧ signals = [session.ownDescription sdp]) ∧
      (session.phase.stage = .exchanging ∨ session.phase.stage = .passed → ∃ sdp,
        descriptionsIn (log id).given = [sdp] ∧ signals = session.ownDescription sdp ::
          Session.trickled (candidatesIn (log id).given)) := by
  rcases (speaking_scripted reached).spoken id session found with ⟨signals, spoke, carried⟩
  refine ⟨signals, carried, spoke.few, spoke.begins, ?_⟩
  cases spoke with
  | nothing early _ _ => rcases early with stage | stage <;> simp [stage]
  | description sdp published described _ => simp [published, described]
  | everything sdp late described =>
      have script : session.script (log id).given = _ := Session.Spoke.script_single described
      rcases late with stage | stage <;> simp [stage, script, described]
  | stopped _ over_ _ _ => simp [over_]

def offered : List Action :=
  List.flatten [Slab.turn [] 0,
    [.invoke (.connect ⟨(Slab.peer 7).bytes, [.webrtc "a://home"]⟩ []), .pump .tick],
    Slab.turn [0] 1,
    [.session 2 (.dataChannel (.ok ())), .session 2 (.description (.ok "sdp")),
      .session 2 (.done (.ok ())), .session 2 (.candidates [⟨"candidate", none, none⟩] true)]]

theorem sessions_keep_to_their_script_offered :
    ∃ (config : Config Slab.platform) (log : Speeches) (session : Session),
      (speaking Slab.platform).Reachable (config, log) ∧
      config.sessions.get? 2 = some session ∧ session.phase = .consuming ∧
      List.Forall₂ (session.Carries Slab.platform)
        [.offer "sdp", .candidate "candidate" none none, .endOfCandidates, .done]
        (log 2).queued := by
  have passed : (speaking Slab.platform).runs (fun _ _ => true)
      (Slab.bound true false, fun _ => ⟨[], []⟩) offered (fun start =>
        decide (descriptionsIn (start.2 2).given = ["sdp"]) &&
        decide (candidatesIn (start.2 2).given = [⟨"candidate", none, none⟩]) &&
        (start.1.sessions.get? 2).any fun session =>
          decide (session.role = .offerer) && decide (session.phase = .consuming)) = true := by
    decide +kernel
  have initial : (speaking Slab.platform).Initial (Slab.bound true false, fun _ => ⟨[], []⟩) :=
    ⟨Slab.bound_initial true false, rfl⟩
  rcases System.Reachable.of_runs initial passed with ⟨⟨config, log⟩, reached, tested⟩
  simp only [Bool.and_eq_true, Option.any_eq_true, decide_eq_true_eq] at tested
  rcases tested with ⟨⟨description, candidates⟩, session, found, offerer, consuming⟩
  rcases sessions_keep_to_their_script reached found with ⟨signals, carried, _, _, _, _, whole⟩
  rcases whole (.inl (by rw [consuming]; rfl)) with ⟨sdp, sole, said⟩
  rw [description] at sole
  cases sole
  rw [candidates, Session.ownDescription, offerer] at said
  subst said
  exact ⟨config, log, session, reached, found, consuming, carried⟩

end IrohEndpoint
