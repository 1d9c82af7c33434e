import IrohEndpoint.SessionSteps

/-! # What a session reads and says

A session takes signals from the front of its peer's inbox and skips what it cannot
decode, so a poll is a function of the inbox alone. -/

namespace IrohEndpoint

variable {P : Platform}

/-! ## The inbox -/

namespace State

def inbox (state : State P) (peer : EndpointId) : List Bytes :=
  (state.signalInboxes.get? peer).getD []

/-- The state once `peer`'s inbox has been read down to `rest`. -/
def leaves (state : State P) (peer : EndpointId) (rest : List Bytes) : State P :=
  if state.inbox peer = rest then state
  else { state with signalInboxes := state.signalInboxes.set peer rest }

theorem leaves_frame (state : State P) (peer : EndpointId) (rest : List Bytes) :
    ∃ signalInboxes, state.leaves peer rest = { state with signalInboxes } := by
  rw [leaves]
  split <;> exact ⟨_, rfl⟩

@[simp] theorem leaves_self (state : State P) (peer : EndpointId) :
    state.leaves peer (state.inbox peer) = state := if_pos rfl

@[simp] theorem inbox_leaves (state : State P) (peer : EndpointId) (rest : List Bytes) :
    (state.leaves peer rest).inbox peer = rest := by
  rw [leaves]
  split
  · assumption
  · simp [inbox]

private theorem leaves_leaves (state : State P) (peer : EndpointId) {first rest : List Bytes}
    (shorter : rest <:+ first) (taken : first <:+ state.inbox peer) :
    (state.leaves peer first).leaves peer rest = state.leaves peer rest := by
  by_cases whole : state.inbox peer = first
  · rw [leaves.eq_def state peer first, if_pos whole]
  · have inside : (state.leaves peer first).inbox peer = first := inbox_leaves state peer first
    have apart : state.inbox peer ≠ rest := by
      intro same
      have same_length := shorter.length_le
      have less_length := taken.length_le
      rw [same] at less_length
      exact whole (same.trans (shorter.eq_of_length (by omega)))
    rw [leaves.eq_def _ peer rest, inside, leaves.eq_def state peer rest, if_neg apart,
      leaves.eq_def state peer first, if_neg whole]
    split
    · rename_i same
      rw [same]
    · dsimp only
      rw [Table.set_set]

private theorem popSignalInbox_eq (state : State P) (peer : EndpointId) :
    state.popSignalInbox peer =
      ((state.inbox peer).head?, state.leaves peer (state.inbox peer).tail) := by
  have lookup : state.inbox peer = (state.signalInboxes.get? peer).getD [] := rfl
  rw [popSignalInbox]
  split
  · rename_i payload rest found
    rw [found, Option.getD_some] at lookup
    rw [leaves, if_neg (by simp [lookup])]
    simp [lookup]
  · rename_i empty
    have nothing : state.inbox peer = [] := by
      rw [lookup]
      cases found : state.signalInboxes.get? peer with
      | none => rfl
      | some inbox =>
          cases inbox with
          | nil => rfl
          | cons payload rest => exact absurd found (empty payload rest)
    simp [leaves, nothing]

end State

/-! ## Reading -/

section Reading

variable (P)

def nextDecoded : List Bytes → Option Signal × List Bytes
  | [] => (none, [])
  | payload :: rest =>
      match P.decodeSignal payload with
      | none => nextDecoded rest
      | some signal => (some signal, rest)

/-- The first signal that is not `end-of-candidates`, and what follows it. -/
def nextSignificant : List Bytes → Option Signal × List Bytes
  | [] => (none, [])
  | payload :: rest =>
      match P.decodeSignal payload with
      | none | some .endOfCandidates => nextSignificant rest
      | some signal => (some signal, rest)

theorem nextDecoded_suffix (inbox : List Bytes) : (nextDecoded P inbox).2 <:+ inbox := by
  induction inbox with
  | nil => exact List.suffix_refl _
  | cons payload rest induction =>
      rw [nextDecoded]
      split
      · exact induction.trans (List.suffix_cons _ _)
      · exact List.suffix_cons _ _

theorem nextSignificant_suffix (inbox : List Bytes) :
    (nextSignificant P inbox).2 <:+ inbox := by
  induction inbox with
  | nil => exact List.suffix_refl _
  | cons payload rest induction =>
      rw [nextSignificant]
      split
      · exact induction.trans (List.suffix_cons _ _)
      · exact induction.trans (List.suffix_cons _ _)
      · exact List.suffix_cons _ _

private theorem nextDecoded_shorter {inbox : List Bytes} {signal : Signal}
    (found : (nextDecoded P inbox).1 = some signal) :
    (nextDecoded P inbox).2.length < inbox.length := by
  induction inbox with
  | nil => cases found
  | cons payload rest induction =>
      rw [nextDecoded] at found ⊢
      split
      · rename_i malformed
        rw [malformed] at found
        exact Nat.lt_succ_of_lt (induction found)
      · exact Nat.lt_succ_self _

theorem nextSignificant_eq (inbox : List Bytes) :
    nextSignificant P inbox =
      if (nextDecoded P inbox).1 = some .endOfCandidates then
        nextSignificant P (nextDecoded P inbox).2
      else nextDecoded P inbox := by
  induction inbox with
  | nil => rfl
  | cons payload rest induction =>
      rw [nextDecoded, nextSignificant]
      cases decoded : P.decodeSignal payload with
      | none => exact induction
      | some signal => cases signal <;> simp

end Reading

/-- What `nextSignal` makes of the first signal of the inbox. -/
def NextSignal.of (now started : Instant) : Option Signal → NextSignal
  | none =>
      if signalDeadline < now - started then
        .failed (.connectFailed "webrtc signaling timed out")
      else .sleeping
  | some .done => .done
  | some other => .signal other

private theorem nextSignal_eq (now started : Instant) (peer : EndpointId) {rounds : Nat}
    {state : State P} (enough : (state.inbox peer).length < rounds)
    (open_ : state.isClosedOrDead = false) :
    nextSignal now started peer rounds state =
      (.of now started (nextDecoded P (state.inbox peer)).1,
        state.leaves peer (nextDecoded P (state.inbox peer)).2) := by
  induction rounds generalizing state with
  | zero => cases enough
  | succ rounds induction =>
      rw [nextSignal, if_neg (by simp [open_]), State.popSignalInbox_eq]
      cases inbox : state.inbox peer with
      | nil =>
          have whole : state.leaves peer [] = state := by
            rw [← inbox]
            exact state.leaves_self peer
          simp only [List.head?_nil, List.tail_nil, nextDecoded, NextSignal.of, whole]
          split <;> rfl
      | cons payload rest =>
          simp only [List.head?_cons, List.tail_cons]
          rw [nextDecoded]
          have tail : rest <:+ state.inbox peer := by
            rw [inbox]
            exact List.suffix_cons _ _
          cases decoded : P.decodeSignal payload with
          | some signal => cases signal <;> rfl
          | none =>
              dsimp only
              have shorter : ((state.leaves peer rest).inbox peer).length < rounds := by
                rw [State.inbox_leaves]
                rw [inbox, List.length_cons] at enough
                omega
              rcases state.leaves_frame peer rest with ⟨_, frame⟩
              have later := induction shorter (by rw [frame]; exact open_)
              rw [later, State.inbox_leaves,
                state.leaves_leaves peer (nextDecoded_suffix P rest) tail]

private theorem nextSignal_inbox (now started : Instant) (peer : EndpointId) {state : State P}
    (open_ : state.isClosedOrDead = false) :
    nextSignal now started peer (state.inboxRounds peer) state =
      (.of now started (nextDecoded P (state.inbox peer)).1,
        state.leaves peer (nextDecoded P (state.inbox peer)).2) :=
  nextSignal_eq now started peer (Nat.lt_succ_self _) open_

namespace Session

def hears (session : Session) (now : Instant) (state : State P) :
    Option Signal → Resumed P
  | none =>
      if signalDeadline < now - session.started then
        session.fail state (.connectFailed "webrtc signaling timed out")
      else (session.moveTo .consuming, none, state)
  | some .done => (session.moveTo .connecting, none, state)
  | some (.answer sdp) =>
      ({ session with
        phase := .applyingAnswer
        applied := session.applied ++ [.answer sdp] }, none, state)
  | some (.candidate candidate sdpMid sdpMlineIndex) =>
      ({ session with
        phase := .applyingCandidate
        applied := session.applied ++ [.candidate candidate sdpMid sdpMlineIndex] },
        none, state)
  | some .endOfCandidates => (session.moveTo .consuming, none, state)
  | some (.offer _) =>
      session.fail state (.connectFailed "unexpected second offer")

private theorem consumeSignaling_eq (session : Session) (now : Instant) {rounds : Nat}
    {state : State P} (enough : (state.inbox session.peer).length < rounds)
    (open_ : state.isClosedOrDead = false) :
    session.consumeSignaling now rounds state =
      session.hears now
        (state.leaves session.peer (nextSignificant P (state.inbox session.peer)).2)
        (nextSignificant P (state.inbox session.peer)).1 := by
  induction rounds generalizing state with
  | zero => cases enough
  | succ rounds induction =>
      rw [consumeSignaling, nextSignal_inbox now session.started session.peer open_,
        nextSignificant_eq]
      cases heard : (nextDecoded P (state.inbox session.peer)).1 with
      | none =>
          rw [if_neg (by simp), heard, NextSignal.of, hears]
          by_cases late : signalDeadline < now - session.started
          · rw [if_pos late, if_pos late]
          · rw [if_neg late, if_neg late]
      | some signal =>
          cases signal with
          | endOfCandidates =>
              have shorter := nextDecoded_shorter P heard
              have suffix := nextDecoded_suffix P (state.inbox session.peer)
              rcases state.leaves_frame session.peer
                (nextDecoded P (state.inbox session.peer)).2 with ⟨_, frame⟩
              have later := @induction (state.leaves session.peer
                (nextDecoded P (state.inbox session.peer)).2)
                (by rw [State.inbox_leaves]; omega) (by rw [frame]; exact open_)
              rw [State.inbox_leaves, State.leaves_leaves _ _
                (nextSignificant_suffix P _) suffix] at later
              rw [if_pos rfl]
              exact later
          | _ =>
              rw [if_neg (by simp), heard]
              rfl

theorem consume_eq (session : Session) (now : Instant) {state : State P}
    (open_ : state.isClosedOrDead = false) :
    session.consume now state =
      session.hears now
        (state.leaves session.peer (nextSignificant P (state.inbox session.peer)).2)
        (nextSignificant P (state.inbox session.peer)).1 :=
  session.consumeSignaling_eq now (Nat.lt_succ_self _) open_

theorem consume_closed (session : Session) (now : Instant) {state : State P}
    (closed : state.isClosedOrDead = true) :
    session.consume now state = session.fail state .closed := by
  rw [consume, State.inboxRounds, consumeSignaling, State.inboxRounds, nextSignal, if_pos closed]

/-- What the answerer does with the first signal that decodes. -/
def receives (session : Session) (now : Instant) (state : State P) :
    Option Signal → Resumed P
  | none =>
      if signalDeadline < now - session.started then
        session.fail state (.connectFailed "webrtc signaling timed out")
      else (session.moveTo .awaitingOffer, none, state)
  | some (.offer sdp) =>
      ({ session with
        phase := .settingRemoteOffer
        applied := session.applied ++ [.offer sdp] }, none, state)
  | some _ => session.fail state (.other "expected an offer")

theorem takeOffer_eq (session : Session) (now : Instant) {state : State P}
    (open_ : state.isClosedOrDead = false) :
    session.takeOffer now state =
      session.receives now
        (state.leaves session.peer (nextDecoded P (state.inbox session.peer)).2)
        (nextDecoded P (state.inbox session.peer)).1 := by
  rw [takeOffer, nextSignal_inbox now session.started session.peer open_]
  cases heard : (nextDecoded P (state.inbox session.peer)).1 with
  | none =>
      rw [NextSignal.of, receives]
      by_cases late : signalDeadline < now - session.started
      · rw [if_pos late, if_pos late]
      · rw [if_neg late, if_neg late]
  | some signal => cases signal <;> rfl

theorem takeOffer_closed (session : Session) (now : Instant) {state : State P}
    (closed : state.isClosedOrDead = true) :
    session.takeOffer now state = session.fail state .closed := by
  rw [takeOffer, State.inboxRounds, nextSignal, if_pos closed]

end Session

/-! ## Saying -/

variable (P) in
/-- The encodings of the signals that come before one that does not encode, and how
publishing them all resolves. -/
def encodeAll : List Signal → Except Error Unit × List Bytes
  | [] => (.ok (), [])
  | signal :: rest =>
      match P.encodeSignal signal with
      | .error detail => (.error (.other s!"encode signal: {detail}"), [])
      | .ok json => ((encodeAll rest).1, json :: (encodeAll rest).2)

/-- The state once `jsons` are in the outbox, on their way to `peer`. -/
def State.speaks (state : State P) (relay : UInt32) (peer : EndpointId) (jsons : List Bytes) :
    State P :=
  { state with relayOutbound := state.relayOutbound ++
      jsons.map fun json => (relay, peer, signalPrefix :: json) }

private theorem publishAll_eq {state : State P} {peer : EndpointId} {relay : UInt32}
    (held : state.signaling.get? peer = some relay) (signals : List Signal) :
    publishAll state peer signals =
      ((encodeAll P signals).1, state.speaks relay peer (encodeAll P signals).2) := by
  induction signals generalizing state with
  | nil => simp [publishAll, encodeAll, State.speaks]
  | cons signal rest induction =>
      rw [publishAll, publish, encodeAll]
      cases P.encodeSignal signal with
      | error detail => simp [State.speaks]
      | ok json =>
          have slot : state.signalingRelay peer = some relay := held
          rw [slot]
          dsimp only
          rw [induction (by exact held)]
          simp [State.speaks, State.pushSignalOutbound]

private theorem publish_eq {state : State P} {peer : EndpointId} {relay : UInt32}
    (held : state.signaling.get? peer = some relay) (signal : Signal) :
    publish state peer signal =
      ((encodeAll P [signal]).1, state.speaks relay peer (encodeAll P [signal]).2) := by
  rw [← publishAll_eq held [signal], publishAll]
  cases published : publish state peer signal with
  | mk result next => cases result <;> rfl

namespace Session

def trickled (candidates : List IceCandidate) : List Signal :=
  candidates.map (fun candidate =>
    Signal.candidate candidate.candidate candidate.sdpMid candidate.sdpMlineIndex) ++
    [.endOfCandidates, .done]

variable {session : Session} {now : Instant} {state : State P} {relay : UInt32}

theorem describe_cases (held : state.signaling.get? session.peer = some relay)
    (sdp : String) :
    (∃ error, (encodeAll P [session.ownDescription sdp]).1 = .error error ∧
      session.describe state sdp = session.fail (state.speaks relay session.peer
        (encodeAll P [session.ownDescription sdp]).2) error) ∨
    ((encodeAll P [session.ownDescription sdp]).1 = .ok () ∧
      session.describe state sdp = (session.moveTo (.gathering []), none,
        state.speaks relay session.peer (encodeAll P [session.ownDescription sdp]).2)) := by
  rw [describe, publish_eq held]
  cases result : (encodeAll P [session.ownDescription sdp]).1 with
  | error error => exact .inl ⟨error, rfl, rfl⟩
  | ok done => exact .inr ⟨rfl, rfl⟩

theorem publishCandidates_cases (held : state.signaling.get? session.peer = some relay)
    (candidates : List IceCandidate) :
    (∃ error, (encodeAll P (trickled candidates)).1 = .error error ∧
      session.publishCandidates now state candidates = session.fail
        (state.speaks relay session.peer (encodeAll P (trickled candidates)).2) error) ∨
    ((encodeAll P (trickled candidates)).1 = .ok () ∧
      session.publishCandidates now state candidates = session.consume now
        (state.speaks relay session.peer (encodeAll P (trickled candidates)).2)) := by
  rw [publishCandidates, ← trickled, publishAll_eq held]
  cases result : (encodeAll P (trickled candidates)).1 with
  | error error => exact .inl ⟨error, rfl, rfl⟩
  | ok done => exact .inr ⟨rfl, rfl⟩

end Session

end IrohEndpoint
