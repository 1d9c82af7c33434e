import IrohEndpoint.DancingPairs

/-! # Signals and the sessions they belong to

A run of the two endpoints is one dance after another. Where each dance starts with nothing
left over from the one before, what its sessions consume was published for them. -/

namespace IrohEndpoint

variable {P : Platform}

private theorem Config.heard_source {config : Config P} {action : Action}
    {signal : EndpointId × Bytes}
    (heard : config.heard action = some signal) : action.source = some signal.1 := by
  cases action with
  | pump input =>
      cases input with
      | relayEvent index result =>
          cases result with
          | ok datagram =>
              simp only [Config.heard, Pump.heard] at heard
              split at heard
              · cases heard
                rfl
              · cases heard
          | error detail => cases heard
      | _ => cases heard
  | _ => cases heard

theorem reachable_occupied {config : Config P} (reached : (endpoint P).Reachable config) :
    ∃ log, Occupied config log := by
  rcases System.observed.of_reaches reached with ⟨log, observed⟩
  exact ⟨log, (listening_occupied observed).2⟩

private theorem reachable_step {config next : Config P} {action : Action}
    (reached : (endpoint P).Reachable config) (stepped : config.step action = .ok next) :
    (endpoint P).Reachable next :=
  @System.Reaches.step _ _ _ (endpoint P) _ _ _ action reached trivial stepped

namespace Party

variable {party : Party P} {peer : EndpointId}

/-- What holds of an endpoint while `dancer` is at its dance with `peer`. -/
structure Stands (party : Party P) (peer : EndpointId) (dancer : Option (Nat × Session)) :
    Prop where
  reached : (endpoint P).Reachable party.config
  queued : party.Queued
  files : party.Files peer
  dances : party.Dances peer dancer

/-! ## What arrives -/

section Arrivals

variable {next : Config P} {index : Nat} {parcel : Parcel}
variable {dancer : Option (Nat × Session)}

private theorem arrival_delivering {datagram : Datagram}
    (stepped : party.config.step (.pump (.relayEvent index (.ok datagram))) = .ok next) :
    party.delivering peer = true := by
  have away : party.config.pump.phase ≠ .relayOutbound := by
    intro phase
    rcases bind_eq_ok.mp stepped with ⟨pumped, ran, _⟩
    rw [Pump.resume, phase] at ran
    split at ran <;> cases ran
  simp [delivering, away]

private theorem heard_handles {action : Action} {source : EndpointId} {payload : Bytes}
    (heard : party.config.heard action = some (source, payload))
    (stepped : party.config.step action = .ok next) :
    ∃ via pump, next = ({ party.config with
      state := (party.config.state.handleSignal via source payload).2, pump } :
        Config P).addSessions (party.config.state.handleSignal via source payload).1 := by
  cases Config.step_acts stepped with
  | pumped input state pump spawned ran =>
      have heard : party.config.pump.heard input = some (source, payload) := heard
      rcases Pump.resume_hears ran with ⟨via, _, _, same, equal, spawns⟩ | ⟨silent, _⟩
      · rw [heard] at same
        cases same
        dsimp only at equal spawns
        rw [equal, spawns]
        exact ⟨via, pump, rfl⟩
      · rw [heard] at silent
        cases silent
  | _ => cases heard

/-- The endpoint once it took `parcel` of `peer`. -/
def takes (party : Party P) (peer : EndpointId) (index : Nat) (parcel : Parcel)
    (next : Config P) : Party P :=
  (party.steps peer (.pump (.relayEvent index (.ok ⟨peer, parcel.payload⟩))) next).receives
    peer party.config.pump parcel

private theorem takes_inbox {filed : List Parcel} (files : party.Files peer)
    (stepped : (party.steps peer (.pump (.relayEvent index (.ok ⟨peer, parcel.payload⟩)))
      next).inbox = party.inbox)
    (inbox : next.state.inbox peer = party.config.state.inbox peer ++ filed.map Parcel.json)
    (one : filed = [] ∨ filed = [parcel]) :
    (party.takes peer index parcel next).inbox = party.inbox ++ filed := by
  have length : party.inbox.length + filed.length = (next.state.inbox peer).length := by
    rw [inbox, ← files.filed, ← List.map_append, List.length_map, List.length_append]
  have taken : (party.takes peer index parcel next).inbox =
      if party.inbox.length < (next.state.inbox peer).length then party.inbox ++ [parcel]
      else party.inbox := by
    rw [takes, receives]
    dsimp only
    rw [stepped]
    rfl
  rw [taken]
  rcases one with rfl | rfl
  · rw [if_neg (by simp [← length]), List.append_nil]
  · rw [if_pos (by simp [← length])]

private theorem Stands.takes_queued (stands : party.Stands peer dancer)
    (stepped : party.config.step (.pump (.relayEvent index (.ok ⟨peer, parcel.payload⟩))) =
      .ok next) : (party.takes peer index parcel next).Queued := by
  have kept : (party.steps peer (.pump (.relayEvent index (.ok ⟨peer, parcel.payload⟩)))
      next).Queued := stands.queued.kept stepped
  exact ⟨kept.outbox, kept.published⟩

private theorem takes_rested (stands : party.Stands peer dancer)
    (stepped : party.config.step (.pump (.relayEvent index (.ok ⟨peer, parcel.payload⟩))) =
      .ok next)
    (slot : next.state.signaling.get? peer = party.config.state.signaling.get? peer)
    (inbox : next.state.inbox peer = party.config.state.inbox peer) :
    (party.takes peer index parcel next).Stands peer dancer ∧
      (party.takes peer index parcel next).inbox = party.inbox ∧
      (party.takes peer index parcel next).posted peer = party.posted peer ∧
      (party.takes peer index parcel next).read = party.read := by
  have later := reachable_step stands.reached stepped
  rcases reachable_occupied stands.reached with ⟨_, occupied⟩
  rcases reachable_occupied later with ⟨_, beyond⟩
  rcases rested_elsewhere (reachable_slots stands.reached) occupied (reachable_slots later) beyond
    stands.queued stands.files stands.dances (arrival_delivering stepped) stepped slot inbox
    (by simp) with ⟨still, kept, box, read, posted⟩
  have empty := takes_inbox stands.files box (by simpa using inbox) (.inl rfl)
  rw [List.append_nil] at empty
  refine ⟨⟨later, stands.takes_queued stepped, ⟨?_, ?_, kept.unread, kept.spawned, kept.applied⟩,
    still⟩, empty, posted, read⟩
  · rw [empty, ← box]
    exact kept.filed
  · intro off
    rw [empty, ← box]
    exact kept.hears off

private theorem takes_filed (stands : party.Stands peer dancer)
    (enabled : party.config.state.webrtcEnabled = true)
    (stepped : party.config.step (.pump (.relayEvent index (.ok ⟨peer, parcel.payload⟩))) =
      .ok next)
    (inbox : next.state.inbox peer = party.config.state.inbox peer ++ [parcel.json])
    {dancer' : Option (Nat × Session)}
    (dances : (party.takes peer index parcel next).Dances peer dancer') :
    (party.takes peer index parcel next).Stands peer dancer' ∧
      (party.takes peer index parcel next).inbox = party.inbox ++ [parcel] ∧
      (party.takes peer index parcel next).posted peer = party.posted peer ∧
      (party.takes peer index parcel next).read = party.read := by
  have later := reachable_step stands.reached stepped
  rcases reachable_occupied stands.reached with ⟨_, occupied⟩
  rcases reachable_occupied later with ⟨_, beyond⟩
  have beside : next.state.signaling.get? peer = none → next.state.inbox peer = [] := by
    intro free
    rw [State.inbox, beyond.beside peer free]
    rfl
  rcases @steps_rested P party peer (.pump (.relayEvent index (.ok ⟨peer, parcel.payload⟩)))
    next stands.files beside (by simp [inbox]) with ⟨box, read⟩
  have filed : (party.takes peer index parcel next).inbox = party.inbox ++ [parcel] :=
    takes_inbox stands.files box inbox (.inr rfl)
  have config : (party.takes peer index parcel next).config = next := rfl
  refine ⟨⟨later, stands.takes_queued stepped, ?_, dances⟩, filed,
    posted_elsewhere (reachable_slots stands.reached) occupied stands.queued
      (arrival_delivering stepped) stepped (by simp), read⟩
  apply files_kept occupied stands.files stepped (by simp) config read
  · rw [filed, List.map_append, stands.files.filed, inbox]
    rfl
  · intro off
    rw [enabled] at off
    cases off

private theorem answerer_starts (stands : party.Stands peer dancer)
    (enabled : party.config.state.webrtcEnabled = true)
    (free : party.config.state.signaling.get? peer = none)
    (stepped : party.config.step (.pump (.relayEvent index (.ok ⟨peer, parcel.payload⟩))) =
      .ok next) {via : UInt32}
    (inbox : next.state.inbox peer = fileSignal (party.config.state.inbox peer) parcel.json)
    (sessions : next.sessions = party.config.sessions.set party.config.fresh
      ⟨.answerer, peer, via, 0, .spawned, []⟩) :
    ∃ dancer', (party.takes peer index parcel next).Stands peer dancer' ∧
      View.Takes parcel (party.view peer dancer)
        ((party.takes peer index parcel next).view peer dancer') ∧
      (party.takes peer index parcel next).posted peer = party.posted peer ∧
      (party.takes peer index parcel next).read = party.read := by
  rcases reachable_occupied stands.reached with ⟨_, occupied⟩
  have empty : party.config.state.inbox peer = [] := by
    rw [State.inbox, occupied.beside peer free]
    rfl
  have box : next.state.inbox peer = party.config.state.inbox peer ++ [parcel.json] := by
    rw [inbox, empty]
    rfl
  have started : (party.takes peer index parcel next).config.sessions = _ := sessions
  rcases dances_claimed (reachable_slots stands.reached) stands.dances free rfl rfl started with
    ⟨idle, dances⟩
  rcases takes_filed stands enabled stepped box dances with ⟨later, filed, posted, read⟩
  refine ⟨_, later, .started party.config.fresh _ idle rfl rfl rfl ?_ ?_ filed, posted, read⟩
  · simp [view, started]
  · apply stands.files.unread
    cases found : party.config.sessions.get? party.config.fresh with
    | none => rfl
    | some session => exact absurd (occupied.numbered _ session found) (Nat.lt_irrefl _)

private theorem arrival_deaf (reached : (endpoint P).Reachable party.config) {datagram : Datagram}
    (stepped : party.config.step (.pump (.relayEvent index (.ok datagram))) = .ok next)
    (away : party.config.pump.phase ≠ .selecting) : party.deaf = true := by
  rcases bind_eq_ok.mp stepped with ⟨pumped, ran, _⟩
  have leaving : party.config.pump.phase.leaving = true := by
    rw [Pump.resume] at ran
    split at ran
    · cases ran
    · cases phase : party.config.pump.phase with
      | joining => rfl
      | selecting => exact absurd phase away
      | _ =>
          rw [phase] at ran
          cases ran
  simp [Party.deaf, (reachable_leaving reached).halted leaving]

private theorem signal_arrives (stands : party.Stands peer dancer)
    (signal : parcel.payload.head? = some signalPrefix)
    (stepped : party.config.step (.pump (.relayEvent index (.ok ⟨peer, parcel.payload⟩))) =
      .ok next) :
    ∃ dancer', (party.takes peer index parcel next).Stands peer dancer' ∧
      View.Takes parcel (party.view peer dancer)
        ((party.takes peer index parcel next).view peer dancer') ∧
      (party.takes peer index parcel next).posted peer = party.posted peer ∧
      (party.takes peer index parcel next).read = party.read := by
  by_cases selecting : party.config.pump.phase = .selecting
  · have heard : party.config.heard (.pump (.relayEvent index (.ok ⟨peer, parcel.payload⟩))) =
        some (peer, parcel.json) := if_pos ⟨selecting, signal⟩
    rcases heard_handles heard stepped with ⟨via, pump, handled⟩
    by_cases deaf : (!party.config.state.webrtcEnabled ||
        party.config.state.isClosedOrDead) = true
    · have ignored : party.config.state.handleSignal via peer parcel.json =
          ([], party.config.state) := if_pos deaf
      rw [ignored] at handled
      subst handled
      rcases takes_rested stands stepped rfl rfl with ⟨later, inbox, posted, read⟩
      exact ⟨dancer, later, .ignored (by simpa [view, Party.deaf, or_comm] using deaf) rfl inbox,
        posted, read⟩
    · have enabled : party.config.state.webrtcEnabled = true := by
        simp only [Bool.or_eq_true, not_or, Bool.not_eq_true'] at deaf
        simpa using deaf.1
      rcases handleSignal_files party.config.state via peer parcel.json with
        ⟨off, _⟩ | ⟨relay, held, filing⟩ | ⟨free, spawning⟩
      · exact absurd off deaf
      · have slot : next.state.signaling.get? peer =
            party.config.state.signaling.get? peer := by
          rw [handled, filing]
          rfl
        have box : next.state.inbox peer =
            fileSignal (party.config.state.inbox peer) parcel.json := by
          rw [handled, filing]
          simp [Config.addSessions, State.inbox]
        by_cases room : (party.config.state.inbox peer).length < inboxCap
        · rw [fileSignal, if_pos room] at box
          rcases reachable_occupied stands.reached with ⟨_, occupied⟩
          have config : (party.takes peer index parcel next).config = next := rfl
          have dances := dances_kept occupied
            (reachable_slots (reachable_step stands.reached stepped)) stands.dances stepped
            (by simp) slot config
          rcases takes_filed stands enabled stepped box dances with ⟨later, filed, posted, read⟩
          exact ⟨dancer, later, .filed rfl filed, posted, read⟩
        · rw [fileSignal, if_neg room] at box
          rcases takes_rested stands stepped slot box with ⟨later, inbox, posted, read⟩
          refine ⟨dancer, later, .lost rfl inbox ?_, posted, read⟩
          intro empty
          rw [← stands.files.filed, show party.inbox = [] from empty] at room
          exact room (by decide)
      · have box : next.state.inbox peer =
            fileSignal (party.config.state.inbox peer) parcel.json := by
          rw [handled, spawning]
          simp [Config.addSessions, State.inbox]
        have sessions : next.sessions = party.config.sessions.set party.config.fresh
            ⟨.answerer, peer, via, 0, .spawned, []⟩ := by
          rw [handled, spawning]
          rfl
        exact answerer_starts stands enabled free stepped box sessions
  · -- the pump drops what it takes after its loop
    have silent : ∀ payload, party.config.heard
        (.pump (.relayEvent index (.ok ⟨peer, parcel.payload⟩))) ≠ some (peer, payload) := by
      intro payload
      simp [Config.heard, Pump.heard, selecting]
    rcases Config.step_elsewhere (reachable_slots stands.reached) stepped silent (by simp) with
      ⟨slot, boxes⟩
    rcases takes_rested stands stepped slot (by rw [State.inbox, State.inbox, boxes]) with
      ⟨later, inbox, posted, read⟩
    exact ⟨dancer, later, .ignored (arrival_deaf stands.reached stepped selecting) rfl inbox,
      posted, read⟩

private theorem packet_arrives (stands : party.Stands peer dancer)
    (packet : parcel.payload.head? ≠ some signalPrefix)
    (stepped : party.config.step (.pump (.relayEvent index (.ok ⟨peer, parcel.payload⟩))) =
      .ok next) :
    (party.takes peer index parcel next).Stands peer dancer ∧
      (party.view peer dancer).Acts P ((party.takes peer index parcel next).view peer dancer) := by
  have silent : ∀ payload, party.config.heard
      (.pump (.relayEvent index (.ok ⟨peer, parcel.payload⟩))) ≠ some (peer, payload) := by
    intro payload
    simp [Config.heard, Pump.heard, packet]
  rcases Config.step_elsewhere (reachable_slots stands.reached) stepped silent (by simp) with
    ⟨slot, boxes⟩
  rcases takes_rested stands stepped slot (by rw [State.inbox, State.inbox, boxes]) with
    ⟨later, inbox, posted, read⟩
  exact ⟨later, .rested rfl inbox posted read⟩

private theorem takes_grows (reached : (endpoint P).Reachable party.config)
    (stepped : party.config.step (.pump (.relayEvent index (.ok ⟨peer, parcel.payload⟩))) =
      .ok next) (after : Option (Nat × Session)) :
    (party.view peer dancer).Grows ((party.takes peer index parcel next).view peer after) := by
  rcases reachable_occupied reached with ⟨_, occupied⟩
  have grows := @view_grows P party peer _ next _ occupied stepped dancer after
  exact ⟨grows.read, grows.role, grows.deaf⟩

end Arrivals

/-! ## What leaves -/

private theorem posted_delivers {parcel : Parcel} (found : party.flight[0]? = some parcel) :
    party.posted peer = (if parcel.publisher.isSome then [parcel] else []) ++
      (party.delivers 0).posted peer := by
  cases flight : party.flight with
  | nil =>
      rw [flight] at found
      cases found
  | cons first rest =>
      rw [flight] at found
      cases found
      rw [posted, posted, delivers, flight, List.filter_cons]
      split <;> rfl

theorem Stands.delivers {dancer : Option (Nat × Session)} (stands : party.Stands peer dancer) :
    (party.delivers 0).Stands peer dancer := by
  have files := stands.files
  exact ⟨stands.reached, stands.queued.delivers 0,
    ⟨files.filed, files.hears, files.unread, files.spawned, files.applied⟩, stands.dances⟩

/-! ## An endpoint's own steps -/

private theorem own_acts (codec : P.KeepsKinds) {action : Action} {next : Config P}
    {dancer : Option (Nat × Session)} (stands : party.Stands peer dancer)
    (delivering : party.delivering peer = true) (unspoken : action.source ≠ some peer)
    (stepped : party.config.step action = .ok next) :
    ∃ dancer', (party.steps peer action next).Stands peer dancer' ∧
      ((party.view peer dancer).Acts P ((party.steps peer action next).view peer dancer') ∨
        ∃ id input after, action = .session id input ∧ dancer' = some (id, after) ∧
          party.Claims peer id after (party.steps peer action next)) := by
  have later := reachable_step stands.reached stepped
  have slots := reachable_slots stands.reached
  have queued : (party.steps peer action next).Queued := stands.queued.kept stepped
  rcases reachable_occupied stands.reached with ⟨_, occupied⟩
  rcases reachable_occupied later with ⟨_, beyond⟩
  by_cases own : ∃ id input session, action = .session id input ∧
      party.config.sessions.get? id = some session ∧ session.peer = peer
  · rcases own with ⟨id, input, session, rfl, found, same⟩
    rcases session_acts codec slots occupied beyond stands.queued stands.files stands.dances
      delivering stepped found same with ⟨dancer', still, kept, acts | ⟨after, holds, claims⟩⟩
    · exact ⟨dancer', ⟨later, queued, kept, still⟩, .inl acts⟩
    · exact ⟨dancer', ⟨later, queued, kept, still⟩, .inr ⟨id, input, after, rfl, holds, claims⟩⟩
  · have apart : ∀ id input session, action = .session id input →
        party.config.sessions.get? id = some session → session.peer ≠ peer := by
      intro id input session equal found same
      exact own ⟨id, input, session, equal, found, same⟩
    have silent : ∀ payload, party.config.heard action ≠ some (peer, payload) :=
      fun payload heard => unspoken (Config.heard_source heard)
    rcases Config.step_elsewhere slots stepped silent apart with ⟨slot, boxes⟩
    rcases rested_elsewhere slots occupied (reachable_slots later) beyond stands.queued
      stands.files stands.dances delivering stepped slot (by rw [State.inbox, State.inbox, boxes])
      apart with ⟨still, kept, inbox, read, posted⟩
    exact ⟨dancer, ⟨later, queued, kept, still⟩, .inl (.rested rfl inbox posted read)⟩

/-- The endpoint is at no dance with `peer`, and none of their signals is queued, in flight
or unread here. -/
def rests (party : Party P) (peer : EndpointId) : Bool :=
  !party.config.state.signaling.contains peer && party.inbox.isEmpty &&
    (party.posted peer).isEmpty

theorem Stands.idle {dancer : Option (Nat × Session)} (stands : party.Stands peer dancer)
    (rest : party.rests peer = true) :
    party.inbox = [] ∧ party.posted peer = [] ∧ dancer = none := by
  simp only [rests, Bool.and_eq_true, Bool.not_eq_true', List.isEmpty_iff, Table.contains,
    Option.isSome_eq_false_iff, Option.isNone_iff_eq_none] at rest
  refine ⟨rest.1.2, rest.2, ?_⟩
  cases holds : dancer with
  | none => rfl
  | some held =>
      rcases (stands.dances held.1 held.2).mpr holds with ⟨found, own, live⟩
      have claimed := (reachable_slots stands.reached).claimed held.1 held.2 found live
      rw [own, rest.1.1] at claimed
      cases claimed

/-- The session that runs is an offerer that gets the slot for `peer`. -/
def claims (party : Party P) (peer : EndpointId) : Action → Bool
  | .session id _ => !party.config.state.signaling.contains peer &&
      (party.config.sessions.get? id).any fun session =>
        decide (session.role = .offerer ∧ session.phase = .spawned ∧ session.peer = peer)
  | _ => false

theorem Claims.claims {id : Nat} {input : SessionInput} {after : Session} {later : Party P}
    (claims : party.Claims peer id after later) :
    party.claims peer (.session id input) = true := by
  rcases claims.session with ⟨session, found, role, phase, own⟩
  simp [Party.claims, Table.contains, claims.free, found, role, phase, own]

theorem Stands.initially {config : Config P} (initial : (endpoint P).Initial config) :
    (Party.new config).Stands peer none := by
  have reached : (endpoint P).Reachable config := ⟨config, initial, .refl⟩
  rcases initial with ⟨noq, webrtc, udp, relay, clock, url, _, rfl⟩
  refine ⟨reached, ⟨rfl, by simp [Party.new]⟩, ⟨?_, ?_, ?_, ?_, ?_⟩, ?_⟩ <;>
    simp [Party.new, Party.Dances, Config.bind, State.registerRelay, State.new, State.inbox]

end Party

/-! ## Both endpoints -/

namespace Side

@[simp] theorem other_other (side : Side) : side.other.other = side := by
  cases side <;> rfl

private theorem other_ne (side : Side) : side.other ≠ side := by
  cases side <;> simp [other]

private theorem eq_or_other (side other : Side) : other = side ∨ other = side.other := by
  cases side <;> cases other <;> simp [Side.other]

theorem both {motive : Side → Prop} (side : Side) (here : motive side)
    (there : motive side.other) (other : Side) : motive other := by
  rcases side.eq_or_other other with rfl | rfl
  · exact here
  · exact there

end Side

theorem Dance.acts {views later : Side → View} {side offers : Side} {offerer : Nat}
    (dance : Dance P (views offers) (views offers.other) offerer)
    (grows : (views side).Grows (later side)) (acts : (views side).Acts P (later side))
    (other : later side.other = views side.other) :
    Dance P (later offers) (later offers.other) offerer := by
  rcases side.eq_or_other offers with rfl | rfl
  · rw [other]
    exact dance.acts_offering grows acts
  · rw [Side.other_other] at dance ⊢
    rw [other]
    exact dance.acts_answering grows acts

theorem Dance.delivers {views later : Side → View} {side offers : Side} {offerer : Nat}
    {parcel : Parcel} (dance : Dance P (views offers) (views offers.other) offerer)
    (delivers : View.Delivers parcel (views side.other) (later side.other) (views side)
      (later side)) :
    Dance P (later offers) (later offers.other) offerer := by
  rcases side.eq_or_other offers with rfl | rfl
  · exact dance.takes_offering delivers
  · rw [Side.other_other] at dance ⊢
    exact dance.takes_answering delivers

namespace Network

variable (ids : Side → EndpointId) (network : Network P)

/-- The relays pass on every signal, in the order they were sent, and no packet of noq
looks like one. -/
def relays : Action → Bool
  | .own side _ => (network.get side).delivering (ids side.other)
  | .deliver side position _ => decide (position = 0) &&
      (network.get side.other).flight.head?.all fun parcel =>
        parcel.publisher.isSome || decide (parcel.payload.head? ≠ some signalPrefix)

/-- No offerer gets its slot before the dances with its peer are over: neither endpoint is
at one, and nothing of the earlier ones is on its way. -/
def afresh : Action → Bool
  | .own side action => !(network.get side).claims (ids side.other) action ||
      ((network.get side).rests (ids side.other) &&
        (network.get side.other).rests (ids side))
  | .deliver _ _ _ => true

def views (dancers : Side → Option (Nat × Session)) (side : Side) : View :=
  (network.get side).view (ids side.other) (dancers side)

def Paired : Prop :=
  ∃ dancers, (∀ side, (network.get side).Stands (ids side.other) (dancers side)) ∧
    ∃ side offerer, Dance P (network.views ids dancers side)
      (network.views ids dancers side.other) offerer

variable {ids network}

theorem Paired.own (paired : network.Paired ids) (codec : P.KeepsKinds) {side : Side}
    {action : IrohEndpoint.Action} {next : Config P}
    (relays : network.relays ids (.own side action) = true)
    (afresh : network.afresh ids (.own side action) = true)
    (unspoken : action.source ≠ some (ids side.other))
    (stepped : (network.get side).config.step action = .ok next) :
    (network.set side ((network.get side).steps (ids side.other) action next)).Paired ids := by
  rcases paired with ⟨dancers, stands, offers, offerer, dance⟩
  rcases Party.own_acts codec (stands side) relays unspoken stepped with ⟨dancer, still, goes⟩
  have here : (network.set side ((network.get side).steps (ids side.other) action next)).views
      ids (Function.update dancers side dancer) side =
        ((network.get side).steps (ids side.other) action next).view (ids side.other) dancer := by
    simp [views]
  have there : (network.set side ((network.get side).steps (ids side.other) action next)).views
      ids (Function.update dancers side dancer) side.other =
        network.views ids dancers side.other := by
    simp [views, Side.other_ne]
  refine ⟨Function.update dancers side dancer, side.both ?_ ?_, ?_⟩
  · simpa using still
  · simpa [Side.other_ne] using stands side.other
  rcases goes with acts | ⟨id, input, after, rfl, rfl, claims⟩
  · rcases reachable_occupied (stands side).reached with ⟨_, occupied⟩
    refine ⟨offers, offerer, dance.acts ?_ ?_ there⟩
    · rw [here]
      exact Party.view_grows occupied stepped _ _
    · rw [here]
      exact acts
  · -- both endpoints were at rest
    have rest : (network.get side).rests (ids side.other) = true ∧
        (network.get side.other).rests (ids side) = true := by
      simpa [Network.afresh, claims.claims] using afresh
    have away := stands side.other
    rw [Side.other_other] at away
    rcases (stands side).idle rest.1 with ⟨inbox, posted, _⟩
    rcases away.idle rest.2 with ⟨otherInbox, otherPosted, idle⟩
    refine ⟨side, id, ?_⟩
    rw [here, there]
    refine Dance.starts ?_ ?_ idle ?_ claims.unread
    · simp [View.onWay, views, Party.view, otherInbox, claims.posted, posted]
    · simp [View.onWay, views, Party.view, otherPosted, claims.inbox, inbox]
    · intro other rival holds
      cases holds
      exact ⟨rfl, claims.role, claims.silent⟩

/-- What is in flight first reaches its endpoint. -/
theorem Paired.delivered (paired : network.Paired ids) {side : Side} {index : Nat}
    {parcel : Parcel} {next : Config P}
    (relays : network.relays ids (.deliver side 0 index) = true)
    (found : (network.get side.other).flight[0]? = some parcel)
    (stepped : (network.get side).config.step (arrives ids side index parcel) = .ok next) :
    ((network.set side ((network.get side).takes (ids side.other) index parcel next)).set
      side.other ((network.get side.other).delivers 0)).Paired ids := by
  rcases paired with ⟨dancers, stands, offers, offerer, dance⟩
  have sender : network.views ids dancers side.other =
      (network.get side.other).view (ids side) (dancers side.other) := by
    rw [views, Side.other_other]
  have posted := @Party.posted_delivers P (network.get side.other) (ids side) parcel found
  have arrival : ∃ dancer,
      ((network.get side).takes (ids side.other) index parcel next).Stands (ids side.other)
        dancer ∧
      ∀ later : Side → View,
        later side = ((network.get side).takes (ids side.other) index parcel next).view
          (ids side.other) dancer →
        later side.other = ((network.get side.other).delivers 0).view (ids side)
          (dancers side.other) →
        Dance P (later offers) (later offers.other) offerer := by
    cases publisher : parcel.publisher with
    | none =>
        have packet : parcel.payload.head? ≠ some signalPrefix := by
          rw [Network.relays, List.head?_eq_getElem?, found] at relays
          simpa [publisher] using relays
        rcases Party.packet_arrives (stands side) packet stepped with ⟨still, acts⟩
        refine ⟨dancers side, still, ?_⟩
        intro later here there
        refine @Dance.acts P (network.views ids dancers) later side offers offerer dance ?_ ?_ ?_
        · rw [here]
          exact Party.takes_grows (stands side).reached stepped _
        · rw [here]
          exact acts
        · rw [there, sender, Party.view, Party.view, posted, publisher]
          rfl
    | some id =>
        have signal : parcel.payload.head? = some signalPrefix := by
          rcases (stands side.other).queued.published parcel
            (List.mem_append_right _ (List.mem_of_getElem? found)) (by simp [publisher]) with
            ⟨_, _, _, payload⟩
          rw [payload]
          rfl
        rcases Party.signal_arrives (stands side) signal stepped with
          ⟨dancer, still, takes, queue, read⟩
        refine ⟨dancer, still, ?_⟩
        intro later here there
        apply @Dance.delivers P (network.views ids dancers) later side offers offerer parcel dance
        rw [here, there, sender]
        refine ⟨?_, rfl, rfl, rfl, rfl, rfl, takes, queue, read,
          Party.takes_grows (stands side).reached stepped _⟩
        rw [Party.view, posted, publisher]
        rfl
  rcases arrival with ⟨dancer, still, goes⟩
  refine ⟨Function.update dancers side dancer, side.both ?_ ?_, offers, offerer, goes _ ?_ ?_⟩
  · simpa [(Side.other_ne side).symm] using still
  · simpa [Side.other_ne] using (stands side.other).delivers
  · simp [views, (Side.other_ne side).symm]
  · simp [views, Side.other_ne]

private theorem reaches_paired (codec : P.KeepsKinds)
    (reached : (relayed P ids).Reaches (fun network action =>
      network.relays ids action = true ∧ network.afresh ids action = true) network) :
    network.Paired ids := by
  refine reached.invariant (fun network => network.Paired ids) ?_ ?_
  · rintro _ ⟨left, right, first, second, rfl⟩
    refine ⟨fun _ => none, Side.both .left (.initially first) (.initially second), .left, 0, ?_⟩
    apply Dance.starts rfl rfl rfl ?_ rfl
    intro id session holds
    cases holds
  · rintro network action next paired ⟨relays, afresh⟩ stepped
    cases step_steps stepped with
    | own side action config unspoken moved =>
        exact paired.own codec relays afresh unspoken moved
    | delivered side position index parcel config found moved =>
        have first : position = 0 := by
          simp only [Network.relays, Bool.and_eq_true, decide_eq_true_eq] at relays
          exact relays.1
        subst first
        exact paired.delivered relays found moved

end Network

private theorem countP_signalsIn {test : Signal → Bool} (ends : test .endOfCandidates = false)
    (parcels : List Parcel) :
    (signalsIn P (parcels.map Parcel.json)).countP test =
      parcels.countP (Parcel.carries P test) := by
  rw [signalsIn, List.countP_filterMap, List.countP_map]
  congr 1
  funext parcel
  rw [Function.comp_apply, significant, Parcel.carries]
  cases P.decodeSignal parcel.json with
  | none => rfl
  | some signal =>
      by_cases last : signal = .endOfCandidates
      · simp [Option.filter_some, last, ends]
      · simp [Option.filter_some, last]

namespace Party

/-- The parcel was published by a session of the endpoint that answers `offerer`. -/
def Answers (party : Party P) (offerer : Nat) (parcel : Parcel) : Prop :=
  ∃ id session, parcel.publisher = some id ∧ party.config.sessions.get? id = some session ∧
    session.role = .answerer ∧ Took P (party.read id) offerer

end Party

/-- In a run in which every dance starts afresh, a session that has consumed its peer's
signals to their end has consumed none but those of its own dance. -/
theorem sessions_consume_own_signals (codec : P.KeepsKinds) {ids : Side → EndpointId}
    {network : Network P}
    (reached : (relayed P ids).Reaches (fun network action =>
      network.relays ids action = true ∧ network.afresh ids action = true) network)
    {side : Side} {id : Nat} {session : Session}
    (found : (network.get side).config.sessions.get? id = some session)
    (own : session.peer = ids side.other) (passed : session.phase.stage = .passed) :
    (∀ signal ∈ session.applied, ∃ parcel ∈ (network.get side).read id,
      P.decodeSignal parcel.json = some signal) ∧
    (session.role = .offerer → session.applied.countP Signal.isAnswer = 1 ∧
      ∀ parcel ∈ (network.get side).read id, (network.get side.other).Answers id parcel) ∧
    (session.role = .answerer → ∃ offerer, Took P ((network.get side).read id) offerer) := by
  rcases Network.reaches_paired codec reached with ⟨dancers, stands, offers, offerer, dance⟩
  have live : session.live = true := by
    apply Session.live_of_dancing
    cases phase : session.phase <;> simp [phase, Phase.stage] at passed <;> rfl
  have applied := (stands side).files.applied id session found own live
  have dancing : dancers side = some (id, session) :=
    ((stands side).dances id session).mp ⟨found, own, live⟩
  refine ⟨?_, ?_, ?_⟩
  · intro signal member
    rw [applied] at member
    exact Parcel.read_carries (List.mem_filter.mp member).1
  · intro role
    rcases side.eq_or_other offers with rfl | rfl
    · rcases dance.offerers id session dancing role
      refine ⟨?_, ?_⟩
      · rcases dance.passed session dancing role passed with ⟨answer, among, carries⟩
        have some_ : 0 < ((network.get offers).read id).countP (Parcel.carries P Signal.isAnswer) :=
          List.countP_pos_iff.mpr ⟨answer, among, carries⟩
        have single : ((network.get offers).read id).countP (Parcel.carries P Signal.isAnswer) ≤
            1 := le_trans (Nat.le_add_left _ _) dance.single
        have counted : session.applied.countP Signal.isAnswer =
            ((network.get offers).read id).countP (Parcel.carries P Signal.isAnswer) := by
          rw [applied, List.countP_filter, ← countP_signalsIn rfl]
          congr 1
          funext signal
          cases signal <;> rfl
        omega
      · intro parcel member
        rcases dance.heard session dancing role parcel member with ⟨rival, publisher, known, took⟩
        rcases Option.map_eq_some_iff.mp known with ⟨answerer, holds, same⟩
        exact ⟨rival, answerer, publisher, holds, same, took⟩
    · -- the side that answers has no offerer
      rw [Side.other_other] at dance
      have answerer := (dance.answerer id session dancing).1
      rw [role] at answerer
      cases answerer
  · intro role
    rcases side.eq_or_other offers with rfl | rfl
    · have starting := dance.waits id session dancing role
      rw [passed] at starting
      cases starting
    · rw [Side.other_other] at dance
      exact ⟨offerer, (dance.answerer id session dancing).2.2.2 (by simp [passed])⟩

namespace Slab

private theorem keepsKinds : platform.KeepsKinds := by
  intro signal json encoded
  cases signal <;> cases encoded <;> exact ⟨_, rfl, rfl, rfl⟩

/-- The left endpoint dials the right one while its pump is sending, so that the session of
the upgrade starts before the packets of the connection are queued. -/
def courts : List Network.Action :=
  List.flatten [on .left (turn [] 0), on .right (turn [] 0),
    on .left [.invoke (.connect ⟨(peer 11).bytes, []⟩ []), .pump .tick, .pump (.run 10 [0]),
      .pump (.run 10 []), .invoke (.connect ⟨(peer 9).bytes, [.webrtc "a://home"]⟩ []),
      .pump (.sent (.ok ()))],
    on .left (List.replicate 5 (.pump (.run 10 [])))]

def offering (id : Nat) : List Action :=
  [.session id (.dataChannel (.ok ())), .session id (.description (.ok "")),
    .session id (.done (.ok ())), .session id (.candidates [] true), .pump .tick]

/-- An answerer takes its offer and publishes its signals. -/
def answering (id : Nat) : List Action :=
  [.session id .poll, .session id (.done (.ok ())), .session id (.description (.ok "")),
    .session id (.done (.ok ())), .session id (.candidates [] true), .pump .tick]

def hearing (side : Side) (order : List ConnectionHandle) : List Network.Action :=
  List.flatten (List.replicate 3 (.deliver side 0 0 :: on side (turn order 0)))

def dances : List Network.Action :=
  List.flatten [courts, on .left (offering 3), on .left (turn [0, 1] 4), hearing .right [],
    on .right (answering 1), on .right (turn [] 3)]

end Slab

/-- A dance in which both sessions come to the end of their peer's signals. -/
theorem sessions_consume_own_signals_dancing :
    ∃ network, (relayed Slab.platform Slab.ids).Reaches (fun network action =>
        network.relays Slab.ids action = true ∧ network.afresh Slab.ids action = true) network ∧
      (∃ session, network.left.config.sessions.get? 3 = some session ∧
        session.role = .offerer ∧ session.phase.stage = .passed ∧
        session.applied.countP Signal.isAnswer = 1 ∧
        ∀ parcel ∈ network.left.read 3, network.right.Answers 3 parcel) ∧
      ∃ session offerer, network.right.config.sessions.get? 1 = some session ∧
        session.role = .answerer ∧ session.phase.stage = .passed ∧
        Took Slab.platform (network.right.read 1) offerer := by
  have passed : (relayed Slab.platform Slab.ids).runs
      (fun network action => network.relays Slab.ids action && network.afresh Slab.ids action)
      Slab.pair
      (List.flatten [Slab.dances, Slab.hearing .left [0, 1],
        Slab.on .left [.session 3 .poll, .session 3 (.done (.ok ()))]])
      (fun network =>
        ((network.left.config.sessions.get? 3).any fun session => decide
          (session.role = .offerer ∧ session.peer = Slab.peer 9 ∧
            session.phase.stage = .passed)) &&
        ((network.right.config.sessions.get? 1).any fun session => decide
          (session.role = .answerer ∧ session.peer = Slab.peer 7 ∧
            session.phase.stage = .passed))) = true := by
    decide +kernel
  rcases System.ReachesFrom.of_runs (fun _ _ holds => (Bool.and_eq_true _ _).mp holds) _ passed
    with ⟨network, path, tested⟩
  have reached : (relayed Slab.platform Slab.ids).Reaches (fun network action =>
      network.relays Slab.ids action = true ∧ network.afresh Slab.ids action = true) network :=
    ⟨Slab.pair, Slab.pair_initial, path⟩
  rw [Bool.and_eq_true, Option.any_eq_true, Option.any_eq_true] at tested
  rcases tested with ⟨⟨offerer, left, first⟩, ⟨answerer, right, second⟩⟩
  rcases of_decide_eq_true first with ⟨offers, away, exchanged⟩
  rcases of_decide_eq_true second with ⟨answers, home, heard⟩
  have own := (@sessions_consume_own_signals Slab.platform Slab.keepsKinds Slab.ids network
    reached .left 3 offerer left away exchanged).2.1 offers
  rcases (@sessions_consume_own_signals Slab.platform Slab.keepsKinds Slab.ids network
    reached .right 1 answerer right home heard).2.2 answers with ⟨id, took⟩
  exact ⟨network, reached, ⟨offerer, left, offers, exchanged, own⟩,
    answerer, id, right, answers, heard, took⟩

/-- The left endpoint gives up on its offer while the right one answers it, and its next
session takes that answer for its own. -/
theorem stale_answer_consumed :
    ∃ network, (relayed Slab.platform Slab.ids).Reaches (fun network action =>
        network.relays Slab.ids action = true) network ∧
      ∃ session parcel, network.left.config.sessions.get? 10 = some session ∧
        session.role = .offerer ∧ session.peer = Slab.ids .right ∧
        session.phase.stage = .passed ∧ session.applied = [.answer ""] ∧
        parcel ∈ network.left.read 10 ∧
        Slab.platform.decodeSignal parcel.json = some (.answer "") ∧
        parcel.publisher = some 1 ∧ Took Slab.platform (network.right.read 1) 3 ∧
        ¬ network.right.Answers 10 parcel := by
  have passed : (relayed Slab.platform Slab.ids).runs
      (fun network action => network.relays Slab.ids action) Slab.pair
      (List.flatten [Slab.dances,
        Slab.on .left [.advance 30000000001, .session 3 .poll,
          .invoke (.connect ⟨(Slab.peer 9).bytes, [.webrtc "a://home"]⟩ []), .pump .tick],
        Slab.on .left (Slab.turn [0, 1, 2] 1), Slab.on .left (Slab.offering 10),
        Slab.on .left (Slab.turn [0, 1, 2] 3), Slab.hearing .left [0, 1, 2],
        Slab.on .left [.session 10 .poll, .session 10 (.done (.ok ()))]])
      (fun network =>
        ((network.left.config.sessions.get? 10).any fun session => decide
          (session.role = .offerer ∧ session.peer = Slab.peer 9 ∧
            session.phase.stage = .passed ∧ session.applied = [.answer ""])) &&
        decide (network.left.read 10 = [⟨some 1, homeRelay, Slab.peer 7, [0, 2]⟩,
          ⟨some 1, homeRelay, Slab.peer 7, [0, 4]⟩, ⟨some 1, homeRelay, Slab.peer 7, [0, 5]⟩]) &&
        decide (network.right.read 1 = [⟨some 3, homeRelay, Slab.peer 9, [0, 1]⟩,
          ⟨some 3, homeRelay, Slab.peer 9, [0, 4]⟩, ⟨some 3, homeRelay, Slab.peer 9, [0, 5]⟩])) =
      true := by
    decide +kernel
  rcases System.ReachesFrom.of_runs (fun _ _ holds => holds) _ passed with ⟨network, path, tested⟩
  rw [Bool.and_eq_true, Bool.and_eq_true, Option.any_eq_true, decide_eq_true_eq,
    decide_eq_true_eq] at tested
  rcases tested with ⟨⟨⟨session, found, holds⟩, heard⟩, read⟩
  rcases of_decide_eq_true holds with ⟨role, away, exchanged, applied⟩
  refine ⟨network, ⟨Slab.pair, Slab.pair_initial, path⟩, session,
    ⟨some 1, homeRelay, Slab.peer 7, [0, 2]⟩, found, role, away, exchanged, applied,
    by simp [heard], rfl, rfl, ?_, ?_⟩
  · refine ⟨⟨⟨some 3, homeRelay, Slab.peer 9, [0, 1]⟩, by simp [read], rfl⟩, by simp [read]⟩
  · rintro ⟨_, _, publisher, _, _, _, took⟩
    cases publisher
    have own := took ⟨some 3, homeRelay, Slab.peer 9, [0, 1]⟩ (by simp [read])
    simp at own

end IrohEndpoint
