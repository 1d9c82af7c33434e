import IrohEndpoint.Sessions

/-! # Offers to a session that is already active

A session reads its peer's signals in the order they arrive. What it makes of them depends
on the signals alone, so two runs can be compared by what arrives in them: here one in
which offers are inserted into what arrives in the other. -/

namespace IrohEndpoint

variable {P : Platform}

/-! ## What the signals amount to -/

variable (P) in
/-- The signal a session acts on. It skips what does not decode and the end of the
candidates. -/
def significant (payload : Bytes) : Option Signal :=
  (P.decodeSignal payload).filter fun signal => decide (signal ≠ .endOfCandidates)

variable (P) in
def signalsIn (payloads : List Bytes) : List Signal := payloads.filterMap (significant P)

def Signal.applies : Signal → Bool
  | .answer _ | .candidate .. => true
  | .offer _ | .endOfCandidates | .done => false

/-- What a session's awaits resolve to, but for its waits for signals. -/
structure Answers where
  remoteOffer : Except String Unit
  description : Except String String
  localDescription : Except String Unit
  -- the next batch of local candidates after those already read, and whether it is the last
  candidates : List IceCandidate → List IceCandidate × Bool
  -- an answer or a candidate is applied, after the ones before it
  applies : List Signal → Except String Unit

namespace Answers

variable (answers : Answers)

def input (session : Session) : SessionInput :=
  match session.phase with
  | .settingRemoteOffer => .done answers.remoteOffer
  | .creatingAnswer | .creatingOffer => .description answers.description
  | .settingLocal _ => .done answers.localDescription
  | .gathering sofar => .candidates (answers.candidates sofar).1 (answers.candidates sofar).2
  | .applyingAnswer | .applyingCandidate => .done (answers.applies session.applied)
  | _ => .poll

/-- How the rest of what the session does before it turns to its peer's next signal
resolves. -/
def prepares (session : Session) : Except Error Unit :=
  match session.phase with
  | .settingRemoteOffer => do
      answers.remoteOffer.mapError rtc
      let _ ← answers.description.mapError rtc
      answers.localDescription.mapError rtc
  | .creatingAnswer | .creatingOffer => do
      let _ ← answers.description.mapError rtc
      answers.localDescription.mapError rtc
  | .settingLocal _ => answers.localDescription.mapError rtc
  | .applyingAnswer | .applyingCandidate => (answers.applies session.applied).mapError rtc
  | _ => .ok ()

def concludes (applied : List Signal) : List Signal → Except Error Unit × List Signal
  | [] => (.error (.connectFailed "webrtc signaling timed out"), applied)
  | .done :: _ => (.ok (), applied)
  | .offer _ :: _ => (.error (.connectFailed "unexpected second offer"), applied)
  | .endOfCandidates :: rest => concludes applied rest
  | signal :: rest =>
      match answers.applies (applied ++ [signal]) with
      | .ok () => concludes (applied ++ [signal]) rest
      | .error detail => (.error (rtc detail), applied ++ [signal])

def readsPast (applied : List Signal) : List Signal → Bool
  | [] => true
  | .done :: _ | .offer _ :: _ => false
  | .endOfCandidates :: rest => readsPast applied rest
  | signal :: rest =>
      (answers.applies (applied ++ [signal])).isOk && readsPast (applied ++ [signal]) rest

private theorem concludes_applies {signal : Signal} (applies : signal.applies = true)
    (applied rest : List Signal) :
    (answers.applies (applied ++ [signal]) = .ok () ∧
      answers.concludes applied (signal :: rest) =
        answers.concludes (applied ++ [signal]) rest) ∨
    ∃ detail, answers.applies (applied ++ [signal]) = .error detail ∧
      answers.concludes applied (signal :: rest) = (.error (rtc detail), applied ++ [signal]) := by
  cases answer : answers.applies (applied ++ [signal]) with
  | ok done =>
      left
      refine ⟨rfl, ?_⟩
      cases signal with
      | answer sdp => simp only [concludes, answer]
      | candidate candidate mid index => simp only [concludes, answer]
      | _ => cases applies
  | error detail =>
      right
      refine ⟨detail, rfl, ?_⟩
      cases signal with
      | answer sdp => simp only [concludes, answer]
      | candidate candidate mid index => simp only [concludes, answer]
      | _ => cases applies

private theorem concludes_prefix (applied signals : List Signal) :
    applied <+: (answers.concludes applied signals).2 := by
  induction signals generalizing applied with
  | nil => exact List.prefix_rfl
  | cons signal rest induction =>
      cases signal with
      | done => exact List.prefix_rfl
      | offer sdp => exact List.prefix_rfl
      | endOfCandidates => exact induction applied
      | _ =>
          rw [concludes.eq_def]
          dsimp only
          split
          · exact (List.prefix_append _ _).trans (induction _)
          · exact List.prefix_append _ _

private theorem concludes_append {applied front : List Signal}
    (past : answers.readsPast applied front = true) :
    ∃ later, ∀ rest,
      answers.concludes applied (front ++ rest) = answers.concludes later rest ∧
      answers.readsPast applied (front ++ rest) = answers.readsPast later rest := by
  induction front generalizing applied with
  | nil => exact ⟨applied, fun _ => ⟨rfl, rfl⟩⟩
  | cons signal front induction =>
      cases signal with
      | done => cases past
      | offer sdp => cases past
      | endOfCandidates => exact induction past
      | _ =>
          rw [readsPast.eq_def] at past
          simp only [Bool.and_eq_true] at past
          rcases induction past.2 with ⟨later, same⟩
          refine ⟨later, ?_⟩
          intro rest
          rw [List.cons_append, concludes.eq_def, readsPast.eq_def]
          dsimp only
          rw [past.1, Bool.true_and]
          split
          · exact same rest
          · rename_i refused
            rw [refused] at past
            cases past.1

private theorem concludes_stopped {applied front : List Signal}
    (stops : answers.readsPast applied front = false) (rest other : List Signal) :
    answers.concludes applied (front ++ rest) = answers.concludes applied (front ++ other) := by
  induction front generalizing applied with
  | nil => cases stops
  | cons signal front induction =>
      cases signal with
      | done => rfl
      | offer sdp => rfl
      | endOfCandidates => exact induction stops
      | _ =>
          rw [readsPast.eq_def] at stops
          simp only [Bool.and_eq_false_iff] at stops
          rw [List.cons_append, List.cons_append, concludes.eq_def, concludes.eq_def]
          dsimp only
          split
          · rename_i accepted
            rw [accepted] at stops
            rcases stops with impossible | stops
            · cases impossible
            · exact induction stops
          · rfl

private theorem concludes_offer_iff (applied : List Signal) {signals : List Signal}
    (absent : .endOfCandidates ∉ signals) :
    answers.concludes applied signals =
      (.error (.connectFailed "unexpected second offer"), applied) ↔
      ∃ sdp, signals.head? = some (.offer sdp) := by
  constructor
  · intro ends
    have longer : ∀ signal rest, answers.concludes (applied ++ [signal]) rest ≠
        (.error (.connectFailed "unexpected second offer"), applied) := by
      intro signal rest same
      have length := (answers.concludes_prefix (applied ++ [signal]) rest).length_le
      rw [same, List.length_append, List.length_singleton] at length
      exact Nat.not_succ_le_self _ length
    cases signals with
    | nil => simp [concludes] at ends
    | cons signal rest =>
        cases signal with
        | done => simp [concludes] at ends
        | offer sdp => exact ⟨sdp, rfl⟩
        | endOfCandidates => exact absurd List.mem_cons_self absent
        | _ =>
            rw [concludes.eq_def] at ends
            dsimp only at ends
            split at ends
            · exact absurd ends (longer _ _)
            · simp at ends
  · rintro ⟨sdp, first⟩
    cases signals with
    | nil => cases first
    | cons signal rest =>
        cases first
        rfl

end Answers

theorem signalsIn_append (front rest : List Bytes) :
    signalsIn P (front ++ rest) = signalsIn P front ++ signalsIn P rest :=
  List.filterMap_append

private theorem signalsIn_offer {payload : Bytes} {sdp : String}
    (decodes : P.decodeSignal payload = some (.offer sdp)) (rest : List Bytes) :
    signalsIn P (payload :: rest) = .offer sdp :: signalsIn P rest := by
  have kept : significant P payload = some (.offer sdp) := by
    rw [significant, decodes]
    rfl
  exact List.filterMap_cons_some kept

private theorem endOfCandidates_not_mem (payloads : List Bytes) :
    .endOfCandidates ∉ signalsIn P payloads := by
  simp [signalsIn, significant, Option.filter_eq_some_iff]

/-! ## Insertions -/

variable (P) in
/-- The second sequence is the first with offers inserted. -/
inductive OffersInserted : List Bytes → List Bytes → Prop
  | nil : OffersInserted [] []
  | kept (payload : Bytes) {payloads more : List Bytes} : OffersInserted payloads more →
      OffersInserted (payload :: payloads) (payload :: more)
  | offer (payload : Bytes) (sdp : String) {payloads more : List Bytes} :
      P.decodeSignal payload = some (.offer sdp) → OffersInserted payloads more →
      OffersInserted payloads (payload :: more)

variable (P) in
/-- Behind what an inserted offer follows, the session reads no further, or it comes to an
offer anyway. -/
def Answers.Unheeded (answers : Answers) (applied : List Signal) (payloads more : List Bytes) :
    Prop :=
  ∀ front offer rest tail sdp, payloads = front ++ rest → more = front ++ offer :: tail →
    P.decodeSignal offer = some (.offer sdp) →
    answers.readsPast applied (signalsIn P front) = true →
    ∃ other, (signalsIn P rest).head? = some (.offer other)

namespace OffersInserted

variable {answers : Answers} {payloads more : List Bytes}

private theorem concludes_of_unheeded (inserted : OffersInserted P payloads more)
    {applied : List Signal} (unheeded : answers.Unheeded P applied payloads more) :
    answers.concludes applied (signalsIn P more) =
      answers.concludes applied (signalsIn P payloads) := by
  induction inserted generalizing applied with
  | nil => rfl
  | @offer payload sdp payloads more decodes _ _ =>
      have first := unheeded [] payload payloads more sdp rfl rfl decodes rfl
      have ends := (answers.concludes_offer_iff applied
        (endOfCandidates_not_mem payloads)).mpr first
      rw [signalsIn_offer decodes, ends]
      rfl
  | @kept payload payloads more _ induction =>
      have split_ : ∀ rest, signalsIn P (payload :: rest) =
          signalsIn P [payload] ++ signalsIn P rest := signalsIn_append [payload]
      rw [split_ more, split_ payloads]
      cases past : answers.readsPast applied (signalsIn P [payload]) with
      | false => exact answers.concludes_stopped past _ _
      | true =>
          rcases answers.concludes_append past with ⟨later, same⟩
          rw [(same _).1, (same _).1]
          apply induction
          intro front offer rest tail sdp early late decodes reads
          refine unheeded (payload :: front) offer rest tail sdp (by rw [early]; rfl)
            (by rw [late]; rfl) decodes ?_
          rw [split_ front, (same _).2]
          exact reads

private theorem concludes_iff (inserted : OffersInserted P payloads more) (applied : List Signal) :
    answers.concludes applied (signalsIn P more) =
      answers.concludes applied (signalsIn P payloads) ↔
    answers.Unheeded P applied payloads more := by
  refine ⟨?_, inserted.concludes_of_unheeded⟩
  intro unchanged front offer rest tail sdp early late decodes reads
  rcases answers.concludes_append reads with ⟨later, same⟩
  rw [early, late, signalsIn_append, signalsIn_append, (same _).1, (same _).1,
    signalsIn_offer decodes] at unchanged
  exact (answers.concludes_offer_iff later (endOfCandidates_not_mem rest)).mp unchanged.symm

end OffersInserted

/-! ## Runs of one session -/

/-- The session has its slot and has not yet read its peer's signals to their end. -/
def Session.reads (session : Session) : Bool :=
  match session.phase.stage with
  | .silent | .described | .exchanging => true
  | .starting | .passed | .over => false

/-- What its peer's signals came to, and what was applied of them. -/
def Session.verdict (session : Session) : Option (Except Error Unit) × List Signal :=
  match session.phase with
  | .ended result => (some result, session.applied)
  | .connecting | .opening | .receivingChannel => (some (.ok ()), session.applied)
  | _ => (none, session.applied)

/-- The endpoint is open and the session holds its peer's slot. -/
structure Session.Held (session : Session) (state : State P) : Prop where
  slot : ∃ relay, state.signaling.get? session.peer = some relay
  open_ : state.isClosedOrDead = false
  enabled : state.webrtcEnabled = true

/-- The session reads its peer's signals while `arrivals` come in. None of them finds the
inbox full, and a session that gives up waiting has had them all. -/
inductive Danced (answers : Answers) (wire : ChannelWire) :
    Session → State P → List Bytes → Session → Prop
  | settled (session : Session) (state : State P) (arrivals : List Bytes) :
      session.reads = false → Danced answers wire session state arrivals session
  | filed (session last : Session) (state : State P) (via : UInt32) (payload : Bytes)
      (arrivals : List Bytes) : session.reads = true →
      (state.inbox session.peer).length < inboxCap →
      Danced answers wire session (state.handleSignal via session.peer payload).2 arrivals
        last →
      Danced answers wire session state (payload :: arrivals) last
  | resumed (session after last : Session) (state next : State P)
      (registration : Option Registration) (now : Instant) (arrivals : List Bytes) :
      session.reads = true →
      session.resume now wire state (answers.input session) = .ok (after, registration, next) →
      (signalDeadline < now - session.started →
        signalsIn P (state.inbox session.peer) = [] → arrivals = []) →
      Danced answers wire after next arrivals last →
      Danced answers wire session state arrivals last

def Answers.foresees (answers : Answers) (session : Session) (signals : List Signal) :
    Option (Except Error Unit) × List Signal :=
  if session.reads then
    match answers.prepares session with
    | .ok () => (some (answers.concludes session.applied signals).1,
        (answers.concludes session.applied signals).2)
    | .error error => (some (.error error), session.applied)
  else session.verdict

theorem signalsIn_eq (inbox : List Bytes) :
    signalsIn P inbox = (nextSignificant P inbox).1.toList ++
      signalsIn P (nextSignificant P inbox).2 := by
  induction inbox with
  | nil => rfl
  | cons payload rest induction =>
      rw [signalsIn, List.filterMap_cons, nextSignificant, significant]
      cases decoded : P.decodeSignal payload with
      | none => exact induction
      | some signal =>
          cases signal with
          | endOfCandidates => exact induction
          | _ => rfl

private theorem nextSignificant_none {inbox : List Bytes}
    (none_ : (nextSignificant P inbox).1 = none) :
    (nextSignificant P inbox).2 = [] := by
  induction inbox with
  | nil => rfl
  | cons payload rest induction =>
      rw [nextSignificant] at none_ ⊢
      split at none_
      · exact induction none_
      · exact induction none_
      · cases none_

theorem nextSignificant_ne (inbox : List Bytes) :
    (nextSignificant P inbox).1 ≠ some .endOfCandidates := by
  intro first
  have member : .endOfCandidates ∈ signalsIn P inbox := by
    rw [signalsIn_eq, first]
    exact List.mem_cons_self
  exact endOfCandidates_not_mem inbox member

namespace Session.Held

variable {session : Session} {state : State P}

private theorem of_frame (held : session.Held state) {after : Session}
    (peer : after.peer = session.peer) (outbound : List (UInt32 × EndpointId × Bytes))
    (inboxes : Table EndpointId (List Bytes)) :
    after.Held { state with relayOutbound := outbound, signalInboxes := inboxes } :=
  ⟨by rw [peer]; exact held.slot, held.open_, held.enabled⟩

theorem speaks (held : session.Held state) (relay : UInt32) (jsons : List Bytes) :
    session.Held (state.speaks relay session.peer jsons) :=
  held.of_frame rfl _ state.signalInboxes

theorem filed (held : session.Held state) (via : UInt32) (payload : Bytes)
    (fits : (state.inbox session.peer).length < inboxCap) :
    session.Held (state.handleSignal via session.peer payload).2 ∧
      (state.handleSignal via session.peer payload).2.inbox session.peer =
        state.inbox session.peer ++ [payload] := by
  rcases held.slot with ⟨relay, slot⟩
  have taken : state.signaling.contains session.peer = true := by
    simp [Table.contains, slot]
  have filing : (state.handleSignal via session.peer payload).2 = { state with
      signalInboxes := state.signalInboxes.set session.peer
        (state.inbox session.peer ++ [payload]) } := by
    rw [State.handleSignal, if_neg (by simp [held.open_, held.enabled]), taken]
    dsimp only
    rw [if_neg (by simp), ← State.inbox, if_pos fits]
  rw [filing]
  exact ⟨held.of_frame rfl state.relayOutbound _, by simp [State.inbox]⟩

end Session.Held

namespace Answers

variable {answers : Answers} {session : Session} {state : State P}

private theorem foresees_settled (settles : session.reads = false) (signals : List Signal) :
    answers.foresees session signals = session.verdict := by
  rw [foresees, settles]
  rfl

private theorem foresees_reading (reads : session.reads = true)
    (prepared : answers.prepares session = .ok ()) (signals : List Signal) :
    answers.foresees session signals =
      (some (answers.concludes session.applied signals).1,
        (answers.concludes session.applied signals).2) := by
  rw [foresees, reads, prepared]
  rfl

private theorem foresees_applying {after : Session} (reads : after.reads = true)
    (phase : after.phase = .applyingAnswer ∨ after.phase = .applyingCandidate)
    {applied : List Signal} {signal : Signal} (appends : after.applied = applied ++ [signal])
    (applies : signal.applies = true) (signals : List Signal) :
    answers.foresees after signals =
      (some (answers.concludes applied (signal :: signals)).1,
        (answers.concludes applied (signal :: signals)).2) := by
  have prepares : answers.prepares after =
      (answers.applies (applied ++ [signal])).mapError rtc := by
    rw [← appends]
    rcases phase with phase | phase <;> rw [Answers.prepares, phase]
  rcases answers.concludes_applies applies applied signals with
    ⟨accepted, readsOn⟩ | ⟨detail, refused, stops⟩
  · rw [accepted] at prepares
    rw [foresees_reading reads prepares, readsOn, appends]
  · rw [refused] at prepares
    rw [foresees, reads, prepares, stops, appends]
    rfl

private theorem hears_foresees (now : Instant) {first : Option Signal} {behind : List Signal}
    (matters : first ≠ some .endOfCandidates)
    (gives : signalDeadline < now - session.started → first = none → behind = []) :
    answers.foresees (session.hears now state first).1 behind =
      (some (answers.concludes session.applied (first.toList ++ behind)).1,
        (answers.concludes session.applied (first.toList ++ behind)).2) ∧
    (session.hears now state first).1.peer = session.peer ∧
    ((session.hears now state first).1.reads = true →
      (session.hears now state first).2.2 = state) := by
  cases first with
  | none =>
      rw [Session.hears]
      by_cases late : signalDeadline < now - session.started
      · rw [if_pos late, gives late rfl]
        exact ⟨rfl, rfl, fun reads => by cases reads⟩
      · rw [if_neg late]
        exact ⟨foresees_reading rfl rfl behind, rfl, fun _ => rfl⟩
  | some signal =>
      cases signal with
      | endOfCandidates => exact absurd rfl matters
      | done => exact ⟨rfl, rfl, fun _ => rfl⟩
      | offer sdp => exact ⟨rfl, rfl, fun reads => by cases reads⟩
      | answer sdp =>
          exact ⟨foresees_applying rfl (.inl rfl) rfl rfl behind, rfl,
            fun _ => rfl⟩
      | candidate candidate mid index =>
          exact ⟨foresees_applying rfl (.inr rfl) rfl rfl behind, rfl,
            fun _ => rfl⟩

/-- A stretch of a session that leaves what it will have made of its peer's signals, those
in its inbox and those still to arrive. -/
def Keeps (answers : Answers) (session : Session) (state : State P) (arrivals : List Bytes)
    (resumed : Resumed P) : Prop :=
  answers.foresees session (signalsIn P (state.inbox session.peer ++ arrivals)) =
    answers.foresees resumed.1 (signalsIn P (resumed.2.2.inbox session.peer ++ arrivals)) ∧
  (resumed.1.reads = true →
    resumed.1.peer = session.peer ∧ resumed.1.Held resumed.2.2)

namespace Keeps

variable {arrivals : List Bytes}

theorem failed {error : Error} (reads : session.reads = true)
    (refused : answers.prepares session = .error error) :
    answers.Keeps session state arrivals (session.fail state error) := by
  refine ⟨?_, fun still => by cases still⟩
  rw [foresees, if_pos reads, refused]
  rfl

theorem moved {phase : Phase} {next : State P} (reads : session.reads = true)
    (goes : (session.moveTo phase).reads = true)
    (same : answers.prepares session = answers.prepares (session.moveTo phase))
    (held : session.Held next)
    (inbox : next.inbox session.peer = state.inbox session.peer) :
    answers.Keeps session state arrivals (session.moveTo phase, none, next) := by
  refine ⟨?_, fun _ => ⟨rfl, held.slot, held.open_, held.enabled⟩⟩
  rw [foresees, foresees, if_pos reads, if_pos goes, same, inbox]
  rfl

/-- The session reads on to the next signal to apply. -/
theorem consumed {next : State P} (reads : session.reads = true)
    (prepared : answers.prepares session = .ok ()) (held : session.Held next)
    (inbox : next.inbox session.peer = state.inbox session.peer) (now : Instant)
    (gives : signalDeadline < now - session.started →
      signalsIn P (state.inbox session.peer) = [] → arrivals = []) :
    answers.Keeps session state arrivals (session.consume now next) := by
  rw [← inbox] at gives
  have whole : signalsIn P (next.inbox session.peer ++ arrivals) =
      (nextSignificant P (next.inbox session.peer)).1.toList ++
        signalsIn P ((nextSignificant P (next.inbox session.peer)).2 ++ arrivals) := by
    rw [signalsIn_append, signalsIn_append, ← List.append_assoc, ← signalsIn_eq]
  have remains : ∀ after : Session, after.peer = session.peer → after.Held
      (next.leaves session.peer (nextSignificant P (next.inbox session.peer)).2) := by
    intro after peer
    rcases next.leaves_frame session.peer
      (nextSignificant P (next.inbox session.peer)).2 with ⟨inboxes, frame⟩
    rw [frame]
    exact held.of_frame peer next.relayOutbound inboxes
  have given : signalDeadline < now - session.started →
      (nextSignificant P (next.inbox session.peer)).1 = none →
      signalsIn P ((nextSignificant P (next.inbox session.peer)).2 ++ arrivals) = [] := by
    intro late none_
    have rest := nextSignificant_none none_
    have empty : signalsIn P (next.inbox session.peer) = [] := by
      rw [signalsIn_eq, none_, rest]
      rfl
    rw [rest, gives late empty]
    rfl
  rcases @hears_foresees P answers session
    (next.leaves session.peer (nextSignificant P (next.inbox session.peer)).2) now _ _
    (nextSignificant_ne (next.inbox session.peer)) given with ⟨same, peer, stays⟩
  rw [Keeps, ← inbox, foresees_reading reads prepared, session.consume_eq now held.open_,
    whole, ← same]
  cases goes : (session.hears now
    (next.leaves session.peer (nextSignificant P (next.inbox session.peer)).2)
    (nextSignificant P (next.inbox session.peer)).1).1.reads with
  | false => exact ⟨by rw [foresees_settled goes, foresees_settled goes], by simp⟩
  | true =>
      refine ⟨by rw [stays goes, State.inbox_leaves], fun _ => ⟨peer, ?_⟩⟩
      rw [stays goes]
      exact remains _ peer

end Keeps

private theorem encodeAll_ok (encodes : ∀ signal, ∃ json, P.encodeSignal signal = .ok json)
    (signals : List Signal) : (encodeAll P signals).1 = .ok () := by
  induction signals with
  | nil => rfl
  | cons signal rest induction =>
      rcases encodes signal with ⟨json, encoded⟩
      simp only [encodeAll, encoded]
      exact induction

section

variable {now : Instant} {wire : ChannelWire} {resumed : Resumed P} {arrivals : List Bytes}

private theorem answering_keeps (held : session.Held state) (reads : session.reads = true)
    (phase : session.phase = .settingRemoteOffer ∨ session.phase = .creatingAnswer)
    (ran : session.resume now wire state (answers.input session) = .ok resumed) :
    answers.Keeps session state arrivals resumed := by
  cases role : session.role with
  | offerer =>
      rcases phase with phase | phase <;> simp [Session.resume, input, phase, role] at ran
  | answerer =>
      rcases phase with phase | phase
      · cases answer : answers.remoteOffer with
        | error detail =>
            simp only [Session.resume, input, phase, role, answer] at ran
            cases ran
            exact .failed reads (by rw [prepares, phase, answer]; rfl)
        | ok done =>
            simp only [Session.resume, input, phase, role, answer] at ran
            cases ran
            exact .moved reads rfl (by rw [prepares, phase, answer]; rfl) held rfl
      · cases answer : answers.description with
        | error detail =>
            simp only [Session.resume, input, phase, role, answer] at ran
            cases ran
            exact .failed reads (by rw [prepares, phase, answer]; rfl)
        | ok sdp =>
            simp only [Session.resume, input, phase, role, answer] at ran
            cases ran
            exact .moved reads rfl (by rw [prepares, phase, answer]; rfl) held rfl

private theorem offering_keeps (held : session.Held state) (reads : session.reads = true)
    (phase : session.phase = .creatingOffer)
    (ran : session.resume now wire state (answers.input session) = .ok resumed) :
    answers.Keeps session state arrivals resumed := by
  cases role : session.role with
  | answerer => simp [Session.resume, input, phase, role] at ran
  | offerer =>
      cases answer : answers.description with
      | error detail =>
          simp only [Session.resume, input, phase, role, answer] at ran
          cases ran
          exact .failed reads (by rw [prepares, phase, answer]; rfl)
      | ok sdp =>
          simp only [Session.resume, input, phase, role, answer] at ran
          cases ran
          exact .moved reads rfl (by rw [prepares, phase, answer]; rfl) held rfl

private theorem describing_keeps (encodes : ∀ signal, ∃ json, P.encodeSignal signal = .ok json)
    (held : session.Held state) (reads : session.reads = true) {sdp : String}
    (phase : session.phase = .settingLocal sdp)
    (ran : session.resume now wire state (answers.input session) = .ok resumed) :
    answers.Keeps session state arrivals resumed := by
  rcases held.slot with ⟨relay, slot⟩
  cases answer : answers.localDescription with
  | error detail =>
      simp only [Session.resume, input, phase, answer] at ran
      cases ran
      exact .failed reads (by rw [prepares, phase, answer]; rfl)
  | ok done =>
      simp only [Session.resume, input, phase, answer] at ran
      cases ran
      rcases Session.describe_cases slot sdp with ⟨error, failed, _⟩ | ⟨_, described⟩
      · rw [encodeAll_ok encodes] at failed
        cases failed
      · rw [described]
        exact .moved reads rfl (by rw [prepares, phase, answer]; rfl)
          (held.speaks relay _) rfl

/-- The candidates are gathered; the last of them goes out to the peer, and the session
begins to read. -/
private theorem gathering_keeps (encodes : ∀ signal, ∃ json, P.encodeSignal signal = .ok json)
    (held : session.Held state) (reads : session.reads = true) {candidates : List IceCandidate}
    (phase : session.phase = .gathering candidates)
    (ran : session.resume now wire state (answers.input session) = .ok resumed)
    (gives : signalDeadline < now - session.started →
      signalsIn P (state.inbox session.peer) = [] → arrivals = []) :
    answers.Keeps session state arrivals resumed := by
  rcases held.slot with ⟨relay, slot⟩
  have prepared : answers.prepares session = .ok () := by rw [prepares, phase]
  simp only [Session.resume, input, phase] at ran
  split at ran
  · cases ran
    rcases Session.publishCandidates_cases slot
      (candidates ++ (answers.candidates candidates).1) with
      ⟨error, failed, _⟩ | ⟨_, published⟩
    · rw [encodeAll_ok encodes] at failed
      cases failed
    · rw [published]
      exact .consumed reads prepared (held.speaks relay _) rfl now gives
  · cases ran
    exact .moved reads rfl (by rw [prepared]; rfl) held rfl

private theorem applying_keeps (held : session.Held state) (reads : session.reads = true)
    (phase : session.phase = .applyingAnswer ∨ session.phase = .applyingCandidate)
    (ran : session.resume now wire state (answers.input session) = .ok resumed)
    (gives : signalDeadline < now - session.started →
      signalsIn P (state.inbox session.peer) = [] → arrivals = []) :
    answers.Keeps session state arrivals resumed := by
  have given : answers.input session = .done (answers.applies session.applied) := by
    rcases phase with phase | phase <;> rw [input, phase]
  have prepared : answers.prepares session =
      (answers.applies session.applied).mapError rtc := by
    rcases phase with phase | phase <;> rw [prepares, phase]
  rw [given] at ran
  cases answer : answers.applies session.applied with
  | error detail =>
      rw [answer] at ran prepared
      have failed : session.fail state (rtc detail) = resumed := by
        rcases phase with phase | phase <;> simpa only [Session.resume, phase, Except.ok.injEq]
          using ran
      rw [← failed]
      exact .failed reads prepared
  | ok done =>
      rw [answer] at ran prepared
      have read : session.consume now state = resumed := by
        rcases phase with phase | phase <;> simpa only [Session.resume, phase, Except.ok.injEq]
          using ran
      rw [← read]
      exact .consumed reads prepared held rfl now gives

private theorem resume_keeps (encodes : ∀ signal, ∃ json, P.encodeSignal signal = .ok json)
    (held : session.Held state) (reads : session.reads = true)
    (ran : session.resume now wire state (answers.input session) = .ok resumed)
    (gives : signalDeadline < now - session.started →
      signalsIn P (state.inbox session.peer) = [] → arrivals = []) :
    answers.Keeps session state arrivals resumed := by
  cases phase : session.phase with
  | settingRemoteOffer => exact answering_keeps held reads (.inl phase) ran
  | creatingAnswer => exact answering_keeps held reads (.inr phase) ran
  | creatingOffer => exact offering_keeps held reads phase ran
  | settingLocal sdp => exact describing_keeps encodes held reads phase ran
  | gathering candidates => exact gathering_keeps encodes held reads phase ran gives
  | consuming =>
      simp only [Session.resume, input, phase] at ran
      cases ran
      exact .consumed reads (by rw [prepares, phase]) held rfl now gives
  | applyingAnswer => exact applying_keeps held reads (.inl phase) ran gives
  | applyingCandidate => exact applying_keeps held reads (.inr phase) ran gives
  | _ =>
      rw [Session.reads, phase] at reads
      cases reads

end

end Answers

/-! ## Two runs -/

private theorem Danced.verdict {answers : Answers} {wire : ChannelWire} {session last : Session}
    {state : State P} {arrivals : List Bytes}
    (encodes : ∀ signal, ∃ json, P.encodeSignal signal = .ok json)
    (danced : Danced answers wire session state arrivals last)
    (held : session.reads = true → session.Held state) :
    last.verdict =
      answers.foresees session (signalsIn P (state.inbox session.peer ++ arrivals)) := by
  induction danced with
  | settled session state arrivals settles => rw [Answers.foresees_settled settles]
  | filed session last state via payload arrivals reads fits _ induction =>
      rcases (held reads).filed via payload fits with ⟨still, inbox⟩
      rw [induction fun _ => still, inbox, List.append_assoc]
      rfl
  | resumed session after last state next registration now arrivals reads ran gives _
      induction =>
      rcases Answers.resume_keeps encodes (held reads) reads ran gives with ⟨same, goes⟩
      rw [same, induction fun reading => (goes reading).2]
      cases reading : after.reads with
      | true => rw [(goes reading).1]
      | false => rw [Answers.foresees_settled reading, Answers.foresees_settled reading]

/-- Two runs of one session, of which the second has offers inserted into what arrives,
come to the same, and with the same signals applied, exactly when the session is past
reading or fails before it, or each inserted offer is behind a signal it does not read
past, or the next signal it acts on is an offer in the first run too. -/
theorem second_offers_unheeded_iff {answers : Answers} {wire otherWire : ChannelWire}
    {session last otherLast : Session} {state other : State P} {arrivals more : List Bytes}
    (encodes : ∀ signal, ∃ json, P.encodeSignal signal = .ok json)
    (held : session.Held state) (otherHeld : session.Held other)
    (danced : Danced answers wire session state arrivals last)
    (otherDanced : Danced answers otherWire session other more otherLast)
    (inserted : OffersInserted P (state.inbox session.peer ++ arrivals)
      (other.inbox session.peer ++ more)) :
    otherLast.verdict = last.verdict ↔
      (session.reads = true → answers.prepares session = .ok () →
        answers.Unheeded P session.applied (state.inbox session.peer ++ arrivals)
          (other.inbox session.peer ++ more)) := by
  rw [danced.verdict encodes fun _ => held, otherDanced.verdict encodes fun _ => otherHeld]
  cases reads : session.reads with
  | false =>
      rw [Answers.foresees_settled reads, Answers.foresees_settled reads]
      exact ⟨fun _ => by simp, fun _ => rfl⟩
  | true =>
      cases prepared : answers.prepares session with
      | error error =>
          rw [Answers.foresees, Answers.foresees, if_pos reads, if_pos reads, prepared]
          exact ⟨fun _ _ => by simp, fun _ => rfl⟩
      | ok done =>
          rw [Answers.foresees_reading reads prepared,
            Answers.foresees_reading reads prepared, ← inserted.concludes_iff]
          constructor
          · intro same _ _
            simp only [Prod.mk.injEq, Option.some.injEq] at same
            exact Prod.ext same.1 same.2
          · intro same
            rw [same rfl rfl]

def agreeable : Answers := ⟨.ok (), .ok "", .ok (), fun _ => ([], true), fun _ => .ok ()⟩

/-- An offerer that has published its signals, and the state that holds its slot. -/
def waitingOfferer : Session := ⟨.offerer, Slab.peer 7, 0, 0, .consuming, []⟩

def offererState : State Slab.platform :=
  { State.new [] true with signaling := Table.empty.set (Slab.peer 7) 0 }

private theorem waitingOfferer_held : waitingOfferer.Held offererState :=
  ⟨⟨0, by decide⟩, rfl, rfl⟩

theorem Slab.encodes (signal : Signal) :
    ∃ json, Slab.platform.encodeSignal signal = .ok json := by
  cases signal <;> exact ⟨_, rfl⟩

def connectingOfferer : Session :=
  { waitingOfferer with phase := .connecting, applied := [.answer ""] }

private theorem answeredOfferer :
    Danced agreeable ⟨1⟩ waitingOfferer offererState [[2], [5]] connectingOfferer := by
  refine .filed _ _ _ 0 [2] [[5]] rfl (by decide) (.filed _ _ _ 0 [5] [] rfl (by decide) ?_)
  refine .resumed _ _ _ _ _ none 0 [] rfl rfl (by decide) ?_
  refine .resumed _ _ _ _ _ none 0 [] rfl rfl (by decide) ?_
  exact .settled _ _ [] rfl

/-- An offer behind the peer's `done` is not read. -/
theorem second_offers_unheeded_late :
    ∃ last otherLast : Session,
      Danced agreeable ⟨1⟩ waitingOfferer offererState [[2], [5]] last ∧
      Danced agreeable ⟨1⟩ waitingOfferer offererState [[2], [5], [1]] otherLast ∧
      otherLast.verdict = last.verdict := by
  have second : Danced agreeable ⟨1⟩ waitingOfferer offererState [[2], [5], [1]]
      connectingOfferer := by
    refine .filed _ _ _ 0 [2] [[5], [1]] rfl (by decide)
      (.filed _ _ _ 0 [5] [[1]] rfl (by decide) (.filed _ _ _ 0 [1] [] rfl (by decide) ?_))
    refine .resumed _ _ _ _ _ none 0 [] rfl rfl (by decide) ?_
    refine .resumed _ _ _ _ _ none 0 [] rfl rfl (by decide) ?_
    exact .settled _ _ [] rfl
  have inserted : OffersInserted Slab.platform [[2], [5]] [[2], [5], [1]] :=
    .kept [2] (.kept [5] (.offer [1] "" rfl .nil))
  refine ⟨_, _, answeredOfferer, second, (second_offers_unheeded_iff Slab.encodes
    waitingOfferer_held waitingOfferer_held answeredOfferer second inserted).mpr ?_⟩
  intro _ _ front offer rest tail sdp early late decodes reads
  rcases front with _ | ⟨answer, _ | ⟨done, _ | ⟨third, front⟩⟩⟩
  · cases late
    cases decodes
  · cases late
    cases decodes
  · cases late
    cases reads
  · cases early

/-- The peer has upgraded at the same time, and its offer comes before its answer. -/
theorem second_offers_disturb :
    ∃ last otherLast : Session,
      waitingOfferer.reads = true ∧ waitingOfferer.Held offererState ∧
      OffersInserted Slab.platform [[2], [5]] [[1], [2], [5]] ∧
      Danced agreeable ⟨1⟩ waitingOfferer offererState [[2], [5]] last ∧
      Danced agreeable ⟨1⟩ waitingOfferer offererState [[1], [2], [5]] otherLast ∧
      last.verdict = (some (.ok ()), [.answer ""]) ∧
      otherLast.verdict =
        (some (.error (.connectFailed "unexpected second offer")), []) := by
  refine ⟨connectingOfferer, { waitingOfferer with
      phase := .ended (.error (.connectFailed "unexpected second offer")) }, rfl,
    waitingOfferer_held, .offer [1] "" rfl (.kept [2] (.kept [5] .nil)), answeredOfferer, ?_,
    rfl, rfl⟩
  refine .filed _ _ _ 0 [1] [[2], [5]] rfl (by decide) ?_
  refine .resumed _ _ _ _ _ none 0 [[2], [5]] rfl rfl (by decide) ?_
  exact .settled _ _ [[2], [5]] rfl

end IrohEndpoint
