import IrohEndpoint.State

/-! # Signaling sessions

The offerer's and the answerer's dance as tasks: `Phase` is the await a session is
suspended at, and resuming it runs the task to its next await. The drop guard of
the source becomes the `endSignaling` on every path that leaves the dance. -/

namespace IrohEndpoint

inductive Role where
  | offerer
  | answerer
  deriving DecidableEq, Repr

inductive DataChannelState where
  | connecting
  | open
  | closing
  | closed
  deriving DecidableEq, Repr

structure IceCandidate where
  candidate : String
  sdpMid : Option String
  sdpMlineIndex : Option UInt16
  deriving DecidableEq, Repr

inductive Phase where
  -- spawned and not yet polled
  | spawned
  -- the answerer waits for its first signal
  | awaitingOffer
  | settingRemoteOffer
  | creatingAnswer
  | creatingOffer
  -- `set_local_description` of the session's own offer or answer
  | settingLocal (sdp : String)
  | gathering (candidates : List IceCandidate)
  | consuming
  | applyingAnswer
  | applyingCandidate
  -- `wait_connected`
  | connecting
  -- the offerer waits for its channel to open
  | opening
  -- the answerer waits for the incoming channel
  | receivingChannel
  | ended (result : Except Error Unit)
  deriving DecidableEq

/-- A signaling task. `via` is the relay its slot was claimed with (the offerer's
argument); `applied` lists the signals handed to the peer connection. -/
structure Session where
  role : Role
  peer : EndpointId
  via : UInt32
  started : Instant
  phase : Phase
  applied : List Signal
  deriving DecidableEq

structure Registration where
  role : Role
  peer : EndpointId
  via : UInt32
  id : UInt32
  entry : ChannelEntry
  deriving DecidableEq

inductive SessionInput where
  | poll
  | dataChannel (result : Except String Unit)
  | description (result : Except String String)
  | done (result : Except String Unit)
  | candidates (batch : List IceCandidate) (ended : Bool)
  | states (batch : List DataChannelState) (ended : Bool)
  | incoming (channel : Bool)

variable {P : Platform}

def rtc (detail : String) : Error := .connectFailed s!"webrtc: {detail}"

/-- Publish one signal to `peer` through the relay outbox. -/
def publish (state : State P) (peer : EndpointId) (signal : Signal) :
    Except Error Unit × State P :=
  match P.encodeSignal signal with
  | .error detail => (.error (.other s!"encode signal: {detail}"), state)
  | .ok json =>
      match state.signalingRelay peer with
      | none => (.error (.other "signal outside a session"), state)
      | some relay => (.ok (), state.pushSignalOutbound relay peer (signalPrefix :: json))

def publishAll (state : State P) (peer : EndpointId) :
    List Signal → Except Error Unit × State P
  | [] => (.ok (), state)
  | signal :: rest =>
      match publish state peer signal with
      | (.ok (), state) => publishAll state peer rest
      | (.error error, state) => (.error error, state)

inductive NextSignal where
  | sleeping
  | failed (error : Error)
  | done
  | signal (signal : Signal)

/-- One poll of `next_signal`: malformed payloads are skipped, so the rounds are
bounded by the inbox. -/
def nextSignal (now started : Instant) (peer : EndpointId) :
    Nat → State P → NextSignal × State P
  | 0, state => (.sleeping, state)
  | rounds + 1, state =>
      if state.isClosedOrDead then (.failed .closed, state)
      else
        match state.popSignalInbox peer with
        | (none, state) =>
            if signalDeadline < now - started then
              (.failed (.connectFailed "webrtc signaling timed out"), state)
            else (.sleeping, state)
        | (some payload, state) =>
            match P.decodeSignal payload with
            | none => nextSignal now started peer rounds state
            | some .done => (.done, state)
            | some signal => (.signal signal, state)

def State.inboxRounds (state : State P) (peer : EndpointId) : Nat :=
  ((state.signalInboxes.get? peer).getD []).length + 1

abbrev Resumed (P : Platform) := Session × Option Registration × State P

namespace Session

def moveTo (session : Session) (phase : Phase) : Session := { session with phase }

def fail (session : Session) (state : State P) (error : Error) : Resumed P :=
  (session.moveTo (.ended (.error error)), none, state.endSignaling session.peer)

def consumeSignaling (session : Session) (now : Instant) :
    Nat → State P → Resumed P
  | 0, state => (session.moveTo .consuming, none, state)
  | rounds + 1, state =>
      match nextSignal now session.started session.peer
          (state.inboxRounds session.peer) state with
      | (.sleeping, state) => (session.moveTo .consuming, none, state)
      | (.failed error, state) => session.fail state error
      | (.done, state) => (session.moveTo .connecting, none, state)
      | (.signal (.answer sdp), state) =>
          ({ session with
            phase := .applyingAnswer
            applied := session.applied ++ [.answer sdp] }, none, state)
      | (.signal (.candidate candidate sdpMid sdpMlineIndex), state) =>
          ({ session with
            phase := .applyingCandidate
            applied := session.applied ++ [.candidate candidate sdpMid sdpMlineIndex] },
            none, state)
      | (.signal .endOfCandidates, state) => consumeSignaling session now rounds state
      -- `done` never comes as a signal: `nextSignal` reports it as the end
      | (.signal (.offer _), state) | (.signal .done, state) =>
          session.fail state (.connectFailed "unexpected second offer")

def consume (session : Session) (now : Instant) (state : State P) : Resumed P :=
  session.consumeSignaling now (state.inboxRounds session.peer) state

/-- The candidate stream ended: trickle what it gave, then end this side's
signals and turn to the peer's. -/
def publishCandidates (session : Session) (now : Instant) (state : State P)
    (candidates : List IceCandidate) : Resumed P :=
  let signals := candidates.map fun candidate =>
    Signal.candidate candidate.candidate candidate.sdpMid candidate.sdpMlineIndex
  match publishAll state session.peer (signals ++ [.endOfCandidates, .done]) with
  | (.error error, state) => session.fail state error
  | (.ok (), state) => session.consume now state

def ownDescription (session : Session) (sdp : String) : Signal :=
  match session.role with
  | .offerer => .offer sdp
  | .answerer => .answer sdp

def register (session : Session) (state : State P) (wire : ChannelWire) :
    Option Registration × Except Error Unit × State P :=
  match state.registerChannel session.peer wire with
  | (.error error, state) => (none, .error error, state)
  | (.ok (), state) =>
      let registration := (state.channels.get? state.nextChannelId).map fun entry =>
        ⟨session.role, session.peer, session.via, state.nextChannelId, entry⟩
      (registration, .ok (), state)

/-- `dial` returns, which drops its guard, and `upgrade` registers the channel. -/
def upgraded (session : Session) (state : State P) (wire : ChannelWire) : Resumed P :=
  let (registration, _, state) :=
    session.register (state.endSignaling session.peer) wire
  (session.moveTo (.ended (.ok ())), registration, state)

/-- `answer_inner` registers the channel and `answer` drops its guard. -/
def answered (session : Session) (state : State P) (wire : ChannelWire) : Resumed P :=
  let (registration, result, state) := session.register state wire
  (session.moveTo (.ended result), registration, state.endSignaling session.peer)

def takeOffer (session : Session) (now : Instant) (state : State P) : Resumed P :=
  match nextSignal now session.started session.peer
      (state.inboxRounds session.peer) state with
  | (.sleeping, state) => (session.moveTo .awaitingOffer, none, state)
  | (.failed error, state) => session.fail state error
  | (.signal (.offer sdp), state) =>
      ({ session with
        phase := .settingRemoteOffer
        applied := session.applied ++ [.offer sdp] }, none, state)
  | (.done, state) | (.signal _, state) =>
      session.fail state (.other "expected an offer")

/-- `dial` up to its first await: claim the slot, make the channel. -/
def begin (session : Session) (now : Instant) (state : State P)
    (channel : Except String Unit) : Resumed P :=
  match state.beginSignaling session.peer session.via with
  | .error error => (session.moveTo (.ended (.error error)), none, state)
  | .ok state =>
      let session := { session with started := now }
      match channel with
      | .error detail => session.fail state (rtc detail)
      | .ok () => (session.moveTo .creatingOffer, none, state)

def describe (session : Session) (state : State P) (sdp : String) : Resumed P :=
  match publish state session.peer (session.ownDescription sdp) with
  | (.error error, state) => session.fail state error
  | (.ok (), state) => (session.moveTo (.gathering []), none, state)

def channelStates (session : Session) (now : Instant) (wire : ChannelWire)
    (state : State P) (batch : List DataChannelState) (ended : Bool) : Resumed P :=
  if batch.contains .open then session.upgraded state wire
  else if batch.contains .closed || ended then
    session.fail state (.connectFailed "webrtc channel closed before opening")
  else if signalDeadline < now - session.started then
    session.fail state (.connectFailed "webrtc channel open timed out")
  else (session, none, state)

/-- Resume a session's task; `wire` is the channel it would register. -/
def resume (session : Session) (now : Instant) (wire : ChannelWire) (state : State P)
    (input : SessionInput) : Except Abort (Resumed P) :=
  match session.role, session.phase, input with
  | .offerer, .spawned, .dataChannel channel => .ok (session.begin now state channel)
  | .offerer, .creatingOffer, .description (.ok sdp)
  | .answerer, .creatingAnswer, .description (.ok sdp) =>
      .ok (session.moveTo (.settingLocal sdp), none, state)
  | .offerer, .creatingOffer, .description (.error detail)
  | .answerer, .creatingAnswer, .description (.error detail) =>
      .ok (session.fail state (rtc detail))
  | _, .settingLocal sdp, .done (.ok ()) => .ok (session.describe state sdp)
  | _, .gathering candidates, .candidates batch ended =>
      if ended then .ok (session.publishCandidates now state (candidates ++ batch))
      else .ok (session.moveTo (.gathering (candidates ++ batch)), none, state)
  | _, .consuming, .poll => .ok (session.consume now state)
  | _, .applyingAnswer, .done (.ok ()) => .ok (session.consume now state)
  | _, .applyingCandidate, .done (.ok ()) => .ok (session.consume now state)
  | .offerer, .connecting, .done (.ok ()) => .ok (session.moveTo .opening, none, state)
  | .answerer, .connecting, .done (.ok ()) =>
      .ok (session.moveTo .receivingChannel, none, state)
  | .offerer, .opening, .states batch ended =>
      .ok (session.channelStates now wire state batch ended)
  | .answerer, .spawned, .poll =>
      .ok (({ session with started := now } : Session).takeOffer now state)
  | .answerer, .awaitingOffer, .poll => .ok (session.takeOffer now state)
  | .answerer, .settingRemoteOffer, .done (.ok ()) =>
      .ok (session.moveTo .creatingAnswer, none, state)
  | .answerer, .receivingChannel, .incoming channel =>
      if channel then .ok (session.answered state wire)
      else .ok (session.fail state (.other "no incoming data channel"))
  | _, .settingLocal _, .done (.error detail)
  | _, .applyingAnswer, .done (.error detail)
  | _, .applyingCandidate, .done (.error detail)
  | _, .connecting, .done (.error detail)
  | .answerer, .settingRemoteOffer, .done (.error detail) =>
      .ok (session.fail state (rtc detail))
  | _, _, _ => .error .disabled

end Session

end IrohEndpoint
