import IrohEndpoint.Spike.Signaling

/-! # What a dance comes to

Each operation of a dance extends what was heard, what was sent and what the peer
connection was told. A dance that ends with a channel has published all it was told of its
own side and then `done`, and has told its connection all that the peer sent before the
peer's `done`. -/

namespace IrohEndpoint.Spike

/-! ## What a connection is told -/

inductive Told where
  | description (description : SessionDescription)
  | candidate (candidate : IceCandidate)
  deriving DecidableEq

def PeerRecord.remotes : PeerRecord → List Told
  | .setRemote description _ => [.description description]
  | .added candidate _ => [.candidate candidate]
  | _ => []

/-- What a record tells of its own side, which made a description of `kind`. -/
def PeerRecord.locals (kind : SdpType) : PeerRecord → List Told
  | .setLocal description _ => [.description ⟨kind, description.sdp⟩]
  | .gathered batch => batch.map .candidate
  | _ => []

def told : Signal → List Told
  | .offer sdp => [.description ⟨.offer, sdp⟩]
  | .answer sdp => [.description ⟨.answer, sdp⟩]
  | .candidate candidate sdpMid sdpMlineIndex =>
      [.candidate ⟨candidate, sdpMid, sdpMlineIndex⟩]
  | .endOfCandidates => []
  | .done => []

def Rtc.read (R : Rtc) : Bytes → Option Signal
  | [] => none
  | first :: json => if first ≠ signalPrefix then none else (R.decodeSignal json).toOption

def Rtc.signals (R : Rtc) (pin : Option EndpointId) (heard : List Datagram) : List Signal :=
  (Pinning.taken pin (tagged heard)).filterMap R.read

def Rtc.Posts (R : Rtc) (peer : Option EndpointId) (signals : List Signal)
    (posts : List (EndpointId × Bytes)) : Prop :=
  List.Forall₂ (fun signal post => some post.1 = peer ∧
    ∃ json, R.encodeSignal signal = .ok json ∧ post.2 = signalPrefix :: json) signals posts

variable {R : Rtc}

theorem Rtc.Posts.settled {peer : Option EndpointId} {signal : Signal} {signals : List Signal}
    {posts : List (EndpointId × Bytes)} (posted : R.Posts peer (signal :: signals) posts)
    (items : List (EndpointId × Bytes)) :
    R.Posts (Pinning.settled peer items) (signal :: signals) posts := by
  cases peer with
  | some peer => exact posted
  | none =>
      cases posted with
      | cons first rest => cases first.1

private theorem Rtc.signals_append (pin : Option EndpointId) (heard more : List Datagram) :
    R.signals pin (heard ++ more) =
      R.signals pin heard ++ R.signals (Pinning.settled pin (tagged heard)) more := by
  rw [signals, tagged, List.map_append, Pinning.taken_settled, List.filterMap_append]
  rfl

private theorem Rtc.signals_single (pin : Option EndpointId) (datagram : Datagram) :
    R.signals pin [datagram] =
      if (Pinning.accept pin datagram.source).2 then (R.read datagram.payload).toList else [] := by
  have single : Pinning.taken pin [(datagram.source, datagram.payload)] =
      Pinning.taken pin [] ++
        if (Pinning.accept (Pinning.settled pin ([] : List (EndpointId × Bytes)))
          datagram.source).2 then [datagram.payload] else [] :=
    Pinning.taken_append [] datagram.source datagram.payload
  rw [signals, tagged, List.map_singleton, single, Pinning.settled_nil]
  cases (Pinning.accept pin datagram.source).2 with
  | true =>
      cases read : R.read datagram.payload <;> simp [Pinning.taken, read]
  | false => rfl

private theorem told_candidateSignal (candidates : List IceCandidate) :
    (candidates.map candidateSignal).flatMap told = candidates.map .candidate := by
  induction candidates with
  | nil => rfl
  | cons candidate candidates induction =>
      rw [List.map_cons, List.flatMap_cons, induction]
      rfl

private theorem done_not_candidate (candidates : List IceCandidate) :
    Signal.done ∉ candidates.map candidateSignal := by
  simp [candidateSignal]

/-! ## What an operation adds -/

/-- What was sent, heard and recorded between two states of a line. -/
structure Line.Grows (line last : Line R) (posts : List (EndpointId × Bytes))
    (arrived : List Datagram) (noted : List PeerRecord) : Prop where
  sent : last.sent = line.sent ++ posts
  heard : last.heard = line.heard ++ arrived
  records : last.records = line.records ++ noted
  peer : last.peer = Pinning.settled line.peer (tagged arrived)

namespace Line.Grows

variable {line middle last : Line R}

theorem refl (line : Line R) : line.Grows line [] [] [] := by
  constructor
  · simp
  · simp
  · simp
  · cases line.peer <;> rfl

theorem trans {posts more : List (EndpointId × Bytes)} {arrived later : List Datagram}
    {noted further : List PeerRecord} (first : line.Grows middle posts arrived noted)
    (second : middle.Grows last more later further) :
    line.Grows last (posts ++ more) (arrived ++ later) (noted ++ further) where
  sent := by rw [second.sent, first.sent, List.append_assoc]
  heard := by rw [second.heard, first.heard, List.append_assoc]
  records := by rw [second.records, first.records, List.append_assoc]
  peer := by
    rw [second.peer, first.peer, Pinning.settled_settled]
    simp only [tagged, List.map_append]

theorem still {posts : List (EndpointId × Bytes)} {noted : List PeerRecord}
    (grows : line.Grows last posts [] noted) : last.peer = line.peer :=
  grows.peer.trans (Pinning.settled_nil _)

end Line.Grows

section Operations

variable {line last : Line R}

private theorem ask_grows {Answer : Type} {operation : PeerCall R.DataChannel Answer}
    {answer : Answer}
    (ran : ask operation line = .ok (.ok answer, last)) :
    line.Grows last [] [] (operation.record answer) := by
  rw [ask, Act.perform_eq_ok] at ran
  rcases ran with ⟨same, rfl⟩
  cases same
  constructor
  · simp
  · simp
  · rfl
  · cases line.peer <;> rfl

private theorem askRtc_grows {Value : Type}
    {operation : PeerCall R.DataChannel (Except String Value)}
    {value : Value} (ran : askRtc operation line = .ok (.ok value, last)) :
    line.Grows last [] [] (operation.record (.ok value)) := by
  rw [askRtc, Act.bind_eq_value] at ran
  rcases ran with ⟨answer, middle, asked, rest⟩
  cases answer with
  | error error => simp at rest
  | ok found =>
      simp only [Act.pure_eq_ok, Except.ok.injEq] at rest
      rcases rest with ⟨rfl, rfl⟩
      exact ask_grows asked

private theorem publish_grows {signal : Signal}
    (ran : (publish signal : DanceAct R Unit) line = .ok (.ok (), last)) :
    ∃ posts, line.Grows last posts [] [] ∧ R.Posts line.peer [signal] posts := by
  rw [publish, Act.view_bind] at ran
  cases known : line.peer with
  | none => simp [known] at ran
  | some peer =>
      simp only [known] at ran
      cases encoded : R.encodeSignal signal with
      | error error => simp [encoded] at ran
      | ok json =>
          simp only [encoded, sendDatagram] at ran
          split at ran
          · cases ran
          · cases ran
            refine ⟨[(peer, signalPrefix :: json)], ?_, ?_⟩
            · constructor
              · rfl
              · simp
              · simp
              · rw [known]
                rfl
            · exact .cons ⟨rfl, json, encoded, rfl⟩ .nil

private theorem publishAll_grows : ∀ {signals : List Signal} {line last : Line R},
    (publishAll signals : DanceAct R Unit) line = .ok (.ok (), last) →
    ∃ posts, line.Grows last posts [] [] ∧ R.Posts line.peer signals posts
  | [], line, last, ran => by
      rw [publishAll, Act.pure_eq_ok] at ran
      rw [ran.2]
      exact ⟨[], .refl line, .nil⟩
  | signal :: signals, line, last, ran => by
      rw [publishAll, Act.bind_eq_value] at ran
      rcases ran with ⟨_, middle, published, rest⟩
      rcases publish_grows published with ⟨posts, grew, first⟩
      rcases publishAll_grows rest with ⟨more, grows, others⟩
      rw [grew.still] at others
      exact ⟨posts ++ more, grew.trans grows, List.rel_append first others⟩

private theorem gather_grows (kind : SdpType) : ∀ {fuel : Nat} {before after : List IceCandidate}
    {line last : Line R}, (gather fuel before : DanceAct R _) line = .ok (.ok after, last) →
    ∃ candidates records, line.Grows last [] [] records ∧ after = before ++ candidates ∧
      records.flatMap PeerRecord.remotes = [] ∧
      records.flatMap (PeerRecord.locals kind) = candidates.map .candidate
  | 0, before, after, line, last, ran => by
      rw [gather] at ran
      exact absurd ran Act.abort_ne_ok
  | fuel + 1, before, after, line, last, ran => by
      rw [gather, Act.bind_eq_value] at ran
      rcases ran with ⟨⟨status, batch⟩, middle, asked, rest⟩
      have grew := ask_grows asked
      dsimp only at rest
      split at rest
      · simp only [Act.pure_eq_ok, Except.ok.injEq] at rest
        rcases rest with ⟨rfl, rfl⟩
        refine ⟨batch, _, grew, rfl, ?_, ?_⟩
        · rfl
        · simp [PeerCall.record, PeerRecord.locals]
      · rcases gather_grows kind rest with ⟨candidates, records, grows, rfl, silent, locals⟩
        refine ⟨batch ++ candidates, _, grew.trans grows, List.append_assoc _ _ _, ?_, ?_⟩
        · rw [List.flatMap_append, silent]
          rfl
        · rw [List.flatMap_append, locals]
          simp [PeerCall.record, PeerRecord.locals]

private theorem recvDatagram_grows {datagram : Datagram} {taken : Bool} {middle : Line R}
    (received : recvDatagram line = .ok (.ok datagram, middle))
    (admitted : admitSource datagram.source middle = .ok (.ok taken, last)) :
    line.Grows last [] [datagram] [] ∧
      taken = (Pinning.accept line.peer datagram.source).2 := by
  rw [recvDatagram] at received
  split at received
  · cases received
  · cases received
  · rename_i first arrivals rest
    cases received
    rw [admitSource, Act.perform_eq_ok] at admitted
    rcases admitted with ⟨same, rfl⟩
    cases same
    refine ⟨?_, rfl⟩
    constructor
    · simp
    · rfl
    · simp
    · have settled : Pinning.settled line.peer [(datagram.source, datagram.payload)] =
          (Pinning.accept (Pinning.settled line.peer ([] : List (EndpointId × Bytes)))
            datagram.source).1 :=
        Pinning.settled_append [] datagram.source datagram.payload
      rw [Pinning.settled_nil] at settled
      exact settled.symm

/-- A receive skips what is not the peer's or not a signal, and gives the signal after
that. -/
private theorem recv_grows : ∀ {fuel : Nat} {next : Option Signal} {line last : Line R},
    recv fuel line = .ok (.ok next, last) →
    ∃ arrived, line.Grows last [] arrived [] ∧
      R.signals line.peer arrived = [next.getD .done] ∧ next ≠ some .done
  | 0, next, line, last, ran => by
      rw [recv] at ran
      exact absurd ran Act.abort_ne_ok
  | fuel + 1, next, line, last, ran => by
      rw [recv, Act.bind_eq_value] at ran
      rcases ran with ⟨datagram, middle, received, rest⟩
      rw [Act.bind_eq_value] at rest
      rcases rest with ⟨taken, after, admitted, rest⟩
      rcases recvDatagram_grows received admitted with ⟨grew, admits⟩
      have single := Rtc.signals_single (R := R) line.peer datagram
      rw [← admits] at single
      have skips : recv fuel after = .ok (.ok next, last) → R.signals line.peer [datagram] = [] →
          ∃ arrived, line.Grows last [] arrived [] ∧
            R.signals line.peer arrived = [next.getD .done] ∧ next ≠ some .done := by
        intro again silent
        rcases recv_grows again with ⟨arrived, grows, signals, signal⟩
        refine ⟨datagram :: arrived, grew.trans grows, ?_, signal⟩
        have both := Rtc.signals_append (R := R) line.peer [datagram] arrived
        rw [List.singleton_append] at both
        rw [both, silent, ← grew.peer, signals]
        rfl
      cases taken with
      | false => exact skips rest single
      | true =>
          rw [if_pos rfl] at single rest
          cases payload : datagram.payload with
          | nil =>
              simp only [payload] at rest
              rw [payload] at single
              exact skips rest single
          | cons first json =>
              simp only [payload] at rest
              rw [payload, Rtc.read] at single
              split at rest
              · rename_i other
                rw [if_pos other] at single
                exact skips rest single
              · rename_i signal
                rw [if_neg signal] at single
                cases decoded : R.decodeSignal json with
                | error error => simp [decoded] at rest
                | ok signal =>
                    rw [decoded] at single
                    refine ⟨[datagram], ?_⟩
                    cases signal <;>
                      simp only [decoded, Act.pure_eq_ok, Except.ok.injEq] at rest <;>
                      rcases rest with ⟨rfl, rfl⟩ <;>
                      exact ⟨grew, single, by simp⟩

private theorem consumeRound_grows {fuel : Nat} {again : Bool}
    (ran : consumeRound fuel line = .ok (.ok again, last)) :
    ∃ arrived records signal, line.Grows last [] arrived records ∧
      R.signals line.peer arrived = [signal] ∧ (again = true ↔ signal ≠ .done) ∧
      records.flatMap PeerRecord.remotes = told signal ∧
      ∀ kind, records.flatMap (PeerRecord.locals kind) = [] := by
  rw [consumeRound, Act.bind_eq_value] at ran
  rcases ran with ⟨next, middle, received, rest⟩
  rcases recv_grows received with ⟨arrived, grew, signals, signal⟩
  cases next with
  | none =>
      simp only [Act.pure_eq_ok, Except.ok.injEq] at rest
      rcases rest with ⟨rfl, rfl⟩
      exact ⟨arrived, [], .done, grew, signals, by simp, rfl, fun _ => rfl⟩
  | some heard =>
      cases heard with
      | offer sdp => simp at rest
      | done => exact absurd rfl signal
      | endOfCandidates =>
          simp only [Act.pure_eq_ok, Except.ok.injEq] at rest
          rcases rest with ⟨rfl, rfl⟩
          exact ⟨arrived, [], .endOfCandidates, grew, signals, by simp, rfl, fun _ => rfl⟩
      | answer sdp =>
          dsimp only at rest
          rw [Act.bind_eq_value] at rest
          rcases rest with ⟨_, after, asked, rest⟩
          simp only [Act.pure_eq_ok, Except.ok.injEq] at rest
          rcases rest with ⟨rfl, rfl⟩
          have grows := grew.trans (askRtc_grows asked)
          rw [List.append_nil, List.append_nil] at grows
          exact ⟨arrived, _, .answer sdp, grows, signals, by simp, rfl, fun _ => rfl⟩
      | candidate candidate sdpMid sdpMlineIndex =>
          dsimp only at rest
          rw [Act.bind_eq_value] at rest
          rcases rest with ⟨_, after, asked, rest⟩
          simp only [Act.pure_eq_ok, Except.ok.injEq] at rest
          rcases rest with ⟨rfl, rfl⟩
          have grows := grew.trans (askRtc_grows asked)
          rw [List.append_nil, List.append_nil] at grows
          exact ⟨arrived, _, .candidate candidate sdpMid sdpMlineIndex, grows, signals, by simp,
            rfl, fun _ => rfl⟩

/-- What was consumed up to `done`, and what was told of it. -/
structure Line.Consumes (line last : Line R) (arrived : List Datagram)
    (records : List PeerRecord) (consumed : List Signal) : Prop where
  grows : line.Grows last [] arrived records
  signals : R.signals line.peer arrived = consumed ++ [.done]
  remains : Signal.done ∉ consumed
  remotes : records.flatMap PeerRecord.remotes = consumed.flatMap told
  locals : ∀ kind, records.flatMap (PeerRecord.locals kind) = []

private theorem consumeLoop_grows (fuel : Nat) : ∀ {rounds : Nat} {line last : Line R},
    (Act.loop .outOfFuel (consumeRound fuel) rounds : DanceAct R Unit) line =
      .ok (.ok (), last) →
    ∃ arrived records signals, line.Consumes last arrived records signals
  | 0, line, last, ran => by
      rw [Act.loop] at ran
      exact absurd ran Act.abort_ne_ok
  | rounds + 1, line, last, ran => by
      rw [Act.loop, Act.bind_eq_value] at ran
      rcases ran with ⟨again, middle, round, rest⟩
      rcases consumeRound_grows round with ⟨arrived, records, signal, grew, signals, more,
        remotes, locals⟩
      cases again with
      | false =>
          simp only [Bool.false_eq_true, false_iff, ne_eq, not_not] at more
          simp only [Bool.false_eq_true, if_false, Act.pure_eq_ok] at rest
          rcases rest with ⟨_, rfl⟩
          subst more
          exact ⟨arrived, records, [], grew, signals, by simp, remotes, locals⟩
      | true =>
          rcases consumeLoop_grows fuel rest with ⟨later, further, others, consumes⟩
          refine ⟨arrived ++ later, records ++ further, signal :: others, ?_⟩
          constructor
          · exact grew.trans consumes.grows
          · rw [Rtc.signals_append, signals, ← grew.peer, consumes.signals]
            rfl
          · simp only [List.mem_cons, not_or]
            exact ⟨fun same => more.mp rfl same.symm, consumes.remains⟩
          · rw [List.flatMap_append, remotes, consumes.remotes, List.flatMap_cons]
          · intro kind
            rw [List.flatMap_append, locals, consumes.locals]
            rfl

private theorem publishCandidates_grows (kind : SdpType) {fuel : Nat}
    (ran : (publishCandidates fuel : DanceAct R Unit) line = .ok (.ok (), last)) :
    ∃ posts records, ∃ candidates : List IceCandidate, line.Grows last posts [] records ∧
      R.Posts line.peer (candidates.map candidateSignal ++ [.endOfCandidates]) posts ∧
      records.flatMap PeerRecord.remotes = [] ∧
      records.flatMap (PeerRecord.locals kind) = candidates.map .candidate := by
  rw [publishCandidates, Act.bind_eq_value] at ran
  rcases ran with ⟨candidates, gathered, first, rest⟩
  rw [Act.bind_eq_value] at rest
  rcases rest with ⟨_, published, second, third⟩
  rcases gather_grows kind first with ⟨found, records, grew, every, silent, locals⟩
  rcases publishAll_grows second with ⟨posts, grows, signals⟩
  rcases publish_grows third with ⟨more, marked, ending⟩
  rw [List.nil_append] at every
  subst every
  rw [grew.still] at signals
  rw [grows.still, grew.still] at ending
  have all := (grew.trans grows).trans marked
  simp only [List.append_nil, List.nil_append] at all
  exact ⟨posts ++ more, records, candidates, all, List.rel_append signals ending, silent, locals⟩

private theorem awaitOpen_grows : ∀ {fuel : Nat} {line last : Line R},
    (awaitOpen fuel : DanceAct R Unit) line = .ok (.ok (), last) → line.Grows last [] [] []
  | 0, line, last, ran => by
      rw [awaitOpen] at ran
      exact absurd ran Act.abort_ne_ok
  | fuel + 1, line, last, ran => by
      rw [awaitOpen, Act.bind_eq_value] at ran
      rcases ran with ⟨⟨status, batch⟩, middle, asked, rest⟩
      have grew := ask_grows asked
      dsimp only at rest
      split at rest
      · rw [(Act.pure_eq_ok.mp rest).2]
        exact grew
      · split at rest
        · simp at rest
        · exact grew.trans (awaitOpen_grows rest)

end Operations

/-! ## Dances that end -/

/-- What one side of a finished exchange of signals published and consumed. -/
structure Line.Exchanges (line last : Line R) (kind : SdpType)
    (posts : List (EndpointId × Bytes)) (arrived : List Datagram)
    (records : List PeerRecord) : Prop where
  grows : line.Grows last posts arrived records
  posts : ∃ published, R.Posts last.peer (published ++ [.done]) posts ∧
    .done ∉ published ∧ published.flatMap told = records.flatMap (PeerRecord.locals kind)
  hears : ∃ consumed, R.signals line.peer arrived = consumed ++ [.done] ∧
    .done ∉ consumed ∧ consumed.flatMap told = records.flatMap PeerRecord.remotes

theorem Line.Exchanges.after {line middle last : Line R} {kind : SdpType}
    {posts : List (EndpointId × Bytes)} {arrived before : List Datagram}
    {records noted : List PeerRecord} {heard : List Signal}
    (grows : line.Grows middle [] before noted) (signals : R.signals line.peer before = heard)
    (opens : .done ∉ heard) (remotes : noted.flatMap PeerRecord.remotes = heard.flatMap told)
    (locals : noted.flatMap (PeerRecord.locals kind) = [])
    (rest : middle.Exchanges last kind posts arrived records) :
    line.Exchanges last kind posts (before ++ arrived) (noted ++ records) where
  grows := grows.trans rest.grows
  posts := by
    rcases rest.posts with ⟨published, posted, ends, tells⟩
    refine ⟨published, posted, ends, ?_⟩
    rw [tells, List.flatMap_append, locals]
    rfl
  hears := by
    rcases rest.hears with ⟨consumed, hears, ends, tells⟩
    refine ⟨heard ++ consumed, ?_, by simp [opens, ends], ?_⟩
    · rw [Rtc.signals_append, signals, ← grows.peer, hears, List.append_assoc]
    · rw [List.flatMap_append, tells, List.flatMap_append, remotes]

theorem Line.Exchanges.before {line middle last : Line R} {kind : SdpType}
    {posts : List (EndpointId × Bytes)} {arrived : List Datagram} {records : List PeerRecord}
    (exchanges : line.Exchanges middle kind posts arrived records)
    (rest : middle.Grows last [] [] []) : line.Exchanges last kind posts arrived records where
  grows := by
    have all := exchanges.grows.trans rest
    simpa only [List.append_nil] using all
  posts := by
    rw [rest.still]
    exact exchanges.posts
  hears := exchanges.hears

theorem Line.Exchanges.whole {last : Line R} {kind : SdpType} {pin : Option EndpointId}
    {conn : R.PeerConnection} {arrivals : List (Except String Datagram)}
    {answers : List (Except String Unit)} {posts : List (EndpointId × Bytes)}
    {arrived : List Datagram} {records : List PeerRecord}
    (exchanges : (Line.begin pin conn arrivals answers).Exchanges last kind posts arrived records) :
    (Line.begin pin conn arrivals answers).Exchanges last kind last.sent last.heard
      last.records := by
  have grows := exchanges.grows
  have sent : last.sent = posts := grows.sent
  have heard : last.heard = arrived := grows.heard
  have noted : last.records = records := grows.records
  rw [sent, heard, noted]
  exact exchanges

section Ends

variable {line described said trickled ended consumed last : Line R} {fuel : Nat}

private theorem half_exchanges {kind : SdpType} {description : SessionDescription} {signal : Signal}
    (tells : told signal = [.description ⟨kind, description.sdp⟩])
    (setting : askRtc (.setLocalDescription description) line = .ok (.ok (), described))
    (opening : (publish signal : DanceAct R Unit) described = .ok (.ok (), said))
    (trickling : (publishCandidates fuel : DanceAct R Unit) said = .ok (.ok (), trickled))
    (closing : (publish .done : DanceAct R Unit) trickled = .ok (.ok (), ended))
    (consuming : (consumeSignaling fuel : DanceAct R Unit) ended = .ok (.ok (), consumed))
    (connecting : askRtc .waitConnected consumed = .ok (.ok (), last)) :
    ∃ posts arrived records, line.Exchanges last kind posts arrived records := by
  have first := askRtc_grows setting
  rcases publish_grows opening with ⟨offer, second, offered⟩
  rcases publishCandidates_grows kind trickling with
    ⟨posts, records, candidates, third, candidacy, silent, locals⟩
  rcases publish_grows closing with ⟨ending, fourth, closed⟩
  rcases consumeLoop_grows fuel consuming with ⟨arrived, further, heard, consumes⟩
  have sixth := askRtc_grows connecting
  rw [first.still] at offered
  rw [second.still, first.still] at candidacy
  rw [third.still, second.still, first.still] at closed
  have upto := ((first.trans second).trans third).trans fourth
  have all := (upto.trans consumes.grows).trans sixth
  simp only [PeerCall.record, List.append_nil, List.nil_append] at all
  refine ⟨_, _, _, all, ?_, ?_⟩
  · refine ⟨signal :: (candidates.map candidateSignal ++ [.endOfCandidates]), ?_, ?_, ?_⟩
    · have posted : R.Posts line.peer (signal ::
          (candidates.map candidateSignal ++ [.endOfCandidates] ++ [.done])) _ :=
        List.rel_append (List.rel_append offered candidacy) closed
      rw [all.peer]
      exact posted.settled _
    · have other : signal ≠ .done := by
        rintro rfl
        cases tells
      simp [other.symm, done_not_candidate]
    · rw [List.flatMap_append, List.flatMap_append, locals, consumes.locals, List.append_nil,
        List.flatMap_cons, tells, List.flatMap_append, told_candidateSignal]
      simp [told, PeerRecord.locals]
  · refine ⟨heard, ?_, consumes.remains, ?_⟩
    · rw [← consumes.signals, fourth.still, third.still, second.still, first.still]
    · rw [List.flatMap_append, List.flatMap_append, silent, consumes.remotes]
      rfl

theorem connectOfferer_exchanges {channel : R.DataChannel}
    (ran : connectOfferer fuel line = .ok (.ok channel, last)) :
    ∃ posts arrived records, line.Exchanges last .offer posts arrived records := by
  simp only [connectOfferer, Act.bind_eq_value] at ran
  rcases ran with ⟨_, created, first, offer, offered, second, _, described, third, _, said, fourth,
    _, trickled, fifth, _, ended, sixth, _, consumed, seventh, _, connected, eighth, _, opened,
    ninth, rest⟩
  rw [(Act.pure_eq_ok.mp rest).2]
  rcases half_exchanges rfl third fourth fifth sixth seventh eighth with
    ⟨posts, arrived, records, exchanges⟩
  have begun := (askRtc_grows first).trans (askRtc_grows second)
  have whole := Line.Exchanges.after begun rfl (by simp [Rtc.signals, tagged, Pinning.taken])
    rfl rfl exchanges
  exact ⟨_, _, _, whole.before (awaitOpen_grows ninth)⟩

theorem connectAnswerer_exchanges {channel : R.DataChannel}
    (ran : connectAnswerer fuel line = .ok (.ok channel, last)) :
    ∃ posts arrived records, line.Exchanges last .answer posts arrived records := by
  rw [connectAnswerer, Act.bind_eq_value] at ran
  rcases ran with ⟨next, offered, received, rest⟩
  rcases recv_grows received with ⟨arrived, grew, signals, _⟩
  split at rest
  · rename_i sdp
    simp only [Act.bind_eq_value] at rest
    rcases rest with ⟨_, adopted, first, answer, answered, second, _, described, third, _, said,
      fourth, _, trickled, fifth, _, ended, sixth, _, consumed, seventh, _, connected, eighth,
      ⟨status, batch⟩, incoming, ninth, rest⟩
    have final : last = incoming := by
      cases batch with
      | nil => simp at rest
      | cons channel others => exact (Act.pure_eq_ok.mp rest).2
    rw [final]
    rcases half_exchanges rfl third fourth fifth sixth seventh eighth with
      ⟨posts, later, records, exchanges⟩
    have begun := (grew.trans (askRtc_grows first)).trans (askRtc_grows second)
    simp only [List.append_nil] at begun
    have whole := Line.Exchanges.after begun signals (by simp) rfl rfl exchanges
    exact ⟨_, _, _, whole.before (ask_grows ninth)⟩
  · simp at rest

end Ends

/-! ## Two dances -/

def Rtc.Understands (here there : Rtc) : Prop :=
  ∀ signal json, here.encodeSignal signal = .ok json → there.decodeSignal json = .ok signal

/-- A relay brings what one endpoint sent to another, in order and from the start. -/
def Relayed (source target : EndpointId) (sent : List (EndpointId × Bytes))
    (heard : List Datagram) : Prop :=
  (heard.filter fun datagram => datagram.source = source).map Datagram.payload <+:
    (sent.filter fun post => post.1 = target).map Prod.snd

instance (source target : EndpointId) (sent : List (EndpointId × Bytes))
    (heard : List Datagram) : Decidable (Relayed source target sent heard) :=
  inferInstanceAs (Decidable (_ <+: _))

section Pairs

variable {here there : Rtc}

theorem Rtc.Posts.read {peer : Option EndpointId} {signals : List Signal}
    {posts : List (EndpointId × Bytes)} (codec : here.Understands there)
    (posted : here.Posts peer signals posts) :
    (posts.map Prod.snd).filterMap there.read = signals := by
  rw [Posts] at posted
  induction posted with
  | nil => rfl
  | @cons signal post signals posts first rest induction =>
      rcases first with ⟨_, json, encoded, payload⟩
      have carried : there.read (signalPrefix :: json) = some signal := by
        rw [Rtc.read, if_neg (by simp), codec signal json encoded]
        rfl
      rw [List.map_cons, payload, List.filterMap_cons, carried, induction]

theorem Rtc.Posts.target {peer : EndpointId} {signals : List Signal}
    {posts : List (EndpointId × Bytes)} (posted : here.Posts (some peer) signals posts) :
    ∀ post ∈ posts, post.1 = peer := by
  rw [Posts] at posted
  induction posted with
  | nil => simp
  | cons first rest induction =>
      intro post member
      rcases List.mem_cons.mp member with rfl | old
      · exact Option.some.inj first.1
      · exact induction post old

private theorem consumed_published {source target : EndpointId} {pin : Option EndpointId}
    {published consumed : List Signal} {sent : List (EndpointId × Bytes)}
    {heard : List Datagram} (codec : here.Understands there)
    (posted : here.Posts (some target) (published ++ [.done]) sent)
    (ends : .done ∉ published)
    (hears : there.signals pin heard = consumed ++ [.done])
    (listens : Pinning.settled pin (tagged heard) = some source)
    (relayed : Relayed source target sent heard) : consumed = published := by
  have addressed : sent.filter (fun post => post.1 = target) = sent := by
    apply List.filter_eq_self.mpr
    intro post member
    exact decide_eq_true (posted.target post member)
  have taken : Pinning.taken pin (tagged heard) =
      (heard.filter fun datagram => datagram.source = source).map Datagram.payload := by
    rw [Pinning.taken, listens, tagged, List.filter_map, List.map_map]
    simp only [Function.comp_def, Option.some.injEq, eq_comm]
  rw [Relayed, addressed, ← taken] at relayed
  have read := relayed.filterMap there.read
  rw [posted.read codec] at read
  have shown : (Pinning.taken pin (tagged heard)).filterMap there.read = consumed ++ [.done] :=
    hears
  rw [shown] at read
  rcases read with ⟨rest, whole⟩
  rcases List.eq_nil_or_concat rest with rfl | ⟨more, final, rfl⟩
  · rw [List.append_nil] at whole
    exact List.append_cancel_right whole
  · rw [List.concat_eq_append, ← List.append_assoc] at whole
    have before := (List.append_inj' whole rfl).1
    exact absurd (before ▸ by simp) ends

variable {offererId answererId : EndpointId}
variable {offerer : Line here} {answerer : Line there}

/-- When both halves of a dance end with a channel, each peer connection was told the
description and the candidates of the other, all of them and in order, and no signal went
to anyone else. -/
theorem dances_agree {fuel fuel' : Nat} {pin pin' : Option EndpointId}
    {conn : here.PeerConnection} {conn' : there.PeerConnection}
    {arrivals arrivals' : List (Except String Datagram)}
    {answers answers' : List (Except String Unit)}
    {channel : here.DataChannel} {channel' : there.DataChannel}
    (encodes : here.Understands there) (decodes : there.Understands here)
    (offers : connectOfferer fuel (.begin pin conn arrivals answers) = .ok (.ok channel, offerer))
    (adopts : connectAnswerer fuel' (.begin pin' conn' arrivals' answers') =
      .ok (.ok channel', answerer))
    (known : offerer.peer = some answererId) (learned : answerer.peer = some offererId)
    (forth : Relayed offererId answererId offerer.sent answerer.heard)
    (back : Relayed answererId offererId answerer.sent offerer.heard) :
    answerer.records.flatMap PeerRecord.remotes =
        offerer.records.flatMap (PeerRecord.locals .offer) ∧
      offerer.records.flatMap PeerRecord.remotes =
        answerer.records.flatMap (PeerRecord.locals .answer) ∧
      (∀ post ∈ offerer.sent, post.1 = answererId) ∧
      ∀ post ∈ answerer.sent, post.1 = offererId := by
  rcases connectOfferer_exchanges offers with ⟨_, _, _, part⟩
  rcases connectAnswerer_exchanges adopts with ⟨_, _, _, part'⟩
  have offered := part.whole
  have answered := part'.whole
  rcases offered.posts with ⟨published, posted, ends, tells⟩
  rcases offered.hears with ⟨consumed, hears, _, told⟩
  rcases answered.posts with ⟨published', posted', ends', tells'⟩
  rcases answered.hears with ⟨consumed', hears', _, told'⟩
  rw [known] at posted
  rw [learned] at posted'
  have there : consumed' = published :=
    consumed_published encodes posted ends hears' (answered.grows.peer.symm.trans learned) forth
  have here : consumed = published' :=
    consumed_published decodes posted' ends' hears (offered.grows.peer.symm.trans known) back
  refine ⟨?_, ?_, posted.target, posted'.target⟩
  · rw [← told', ← tells, there]
  · rw [← told, ← tells', here]

end Pairs

namespace Loopback

def signalTable : List (Signal × Bytes) := [
  (.offer "o", asBytes "\x7b\"type\":\"offer\",\"sdp\":\"o\"\x7d"),
  (.answer "a", asBytes "\x7b\"type\":\"answer\",\"sdp\":\"a\"\x7d"),
  (.candidate "c" none none, asBytes
    "\x7b\"type\":\"candidate\",\"candidate\":\"c\",\"sdp_mid\":null,\"sdp_mline_index\":null\x7d"),
  (.endOfCandidates, asBytes "\x7b\"type\":\"end-of-candidates\"\x7d"),
  (.done, asBytes "\x7b\"type\":\"done\"\x7d")]

def peerCall {Answer : Type} : PeerCall Nat Answer → Unit → Answer × Unit
  | .createDataChannel _, _ => (.ok 0, ())
  | .createOffer, _ => (.ok ⟨.offer, "o"⟩, ())
  | .createAnswer, _ => (.ok ⟨.answer, "a"⟩, ())
  | .setLocalDescription _, _ => (.ok (), ())
  | .setRemoteDescription _, _ => (.ok (), ())
  | .addIceCandidate _, _ => (.ok (), ())
  | .waitConnected, _ => (.ok (), ())
  | .readCandidates, _ => ((.dropped, [⟨"c", none, none⟩]), ())
  | .readStates, _ => ((.complete, [.open]), ())
  | .readIncoming, _ => ((.complete, [0]), ())

/-- Peer connections with one candidate that connect at once. -/
def rtc : Rtc where
  PeerConnection := Unit
  DataChannel := Nat
  call := peerCall
  encodeSignal signal :=
    match signalTable.find? fun entry => entry.1 = signal with
    | some entry => .ok entry.2
    | none => .error "unknown signal"
  decodeSignal json :=
    match signalTable.find? fun entry => entry.2 = json with
    | some entry => .ok entry.1
    | none => .error "unknown signal"
  debugSignal _ := "signal"

private theorem rtc_understands : rtc.Understands rtc := by
  intro signal json encoded
  simp only [rtc] at encoded
  split at encoded
  · rename_i entry found
    cases encoded
    have same : entry.1 = signal := by simpa using List.find?_some found
    have decodes : ∀ entry ∈ signalTable, rtc.decodeSignal entry.2 = .ok entry.1 := by
      decide +kernel
    rw [decodes entry (List.mem_of_find?_eq_some found), same]
  · cases encoded

def channelLine {Channel : Type} (ran : Except Abort (Except String Channel × Line rtc)) :
    Option (Channel × Line rtc) :=
  match ran with
  | .ok (.ok channel, line) => some (channel, line)
  | _ => none

private theorem channelLine_eq {Channel : Type}
    {ran : Except Abort (Except String Channel × Line rtc)}
    {channel : Channel} {line : Line rtc} (ended : channelLine ran = some (channel, line)) :
    ran = .ok (.ok channel, line) := by
  unfold channelLine at ended
  split at ended
  · cases ended
    rfl
  · cases ended

def parcels (source : EndpointId) (signals : List Signal) : List (Except String Datagram) :=
  signals.map fun signal =>
    .ok ⟨source, signalPrefix :: ((signalTable.lookup signal).getD [])⟩

def trickle : Signal := .candidate "c" none none

def offering : Except Abort (Except String Nat × Line rtc) :=
  connectOfferer 9 (Line.begin (R := rtc) (some stranger) ()
    (parcels stranger [.answer "a", trickle, .endOfCandidates, .done])
    (List.replicate 4 (.ok ())))

/-- A server that hears its client, then somebody else, then its client again. -/
def answering : Except Abort (Except String Nat × Line rtc) :=
  connectAnswerer 9 (Line.begin (R := rtc) none ()
    (parcels key [.offer "o", trickle] ++ parcels stranger [.done] ++
      parcels key [.endOfCandidates, .done])
    (List.replicate 4 (.ok ())))

end Loopback

/-- A server that drops a stranger's `done` in the middle of its client's signals. -/
theorem dances_agree_strange :
    ∃ offerer answerer : Line Loopback.rtc,
      Loopback.offering = .ok (.ok 0, offerer) ∧ Loopback.answering = .ok (.ok 0, answerer) ∧
      answerer.records.flatMap PeerRecord.remotes =
        [.description ⟨.offer, "o"⟩, .candidate ⟨"c", none, none⟩] ∧
      answerer.records.flatMap PeerRecord.remotes =
        offerer.records.flatMap (PeerRecord.locals .offer) ∧
      offerer.records.flatMap PeerRecord.remotes =
        answerer.records.flatMap (PeerRecord.locals .answer) := by
  have passed : ((Loopback.channelLine Loopback.offering).any fun offered =>
      (Loopback.channelLine Loopback.answering).any fun answered =>
        decide (offered.1 = 0) && decide (answered.1 = 0) &&
        decide (offered.2.peer = some Loopback.stranger) &&
        decide (answered.2.peer = some Loopback.key) &&
        decide (Relayed Loopback.key Loopback.stranger offered.2.sent answered.2.heard) &&
        decide (Relayed Loopback.stranger Loopback.key answered.2.sent offered.2.heard) &&
        decide (answered.2.records.flatMap PeerRecord.remotes =
          [.description ⟨.offer, "o"⟩, .candidate ⟨"c", none, none⟩])) = true := by
    decide +kernel
  rw [Option.any_eq_true] at passed
  rcases passed with ⟨⟨channel, offerer⟩, offers, passed⟩
  rw [Option.any_eq_true] at passed
  rcases passed with ⟨⟨channel', answerer⟩, answers, passed⟩
  simp only [Bool.and_eq_true, decide_eq_true_eq] at passed
  rcases passed with ⟨⟨⟨⟨⟨⟨rfl, rfl⟩, known⟩, learned⟩, forth⟩, back⟩, shown⟩
  have offers := Loopback.channelLine_eq offers
  have answers := Loopback.channelLine_eq answers
  have agree := dances_agree Loopback.rtc_understands Loopback.rtc_understands offers answers
    known learned forth back
  exact ⟨offerer, answerer, offers, answers, shown, agree.1, agree.2.1⟩

end IrohEndpoint.Spike
