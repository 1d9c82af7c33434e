import IrohEndpoint.Session
import Mathlib.Logic.Relation

/-! # What a signaling session does when it resumes

A session between its claim and its end only publishes signals and takes payloads
from its inbox; the slot table changes when it claims, fails or registers. -/

namespace IrohEndpoint

open Relation

variable {P : Platform}

/-- The state changes of a session that leave the slot table alone. -/
inductive QuietStep (state : State P) : State P → Prop
  | published (relay : UInt32) (peer : EndpointId) (signal : Signal) (json : Bytes) :
      P.encodeSignal signal = .ok json →
      QuietStep state (state.pushSignalOutbound relay peer (signalPrefix :: json))
  | filed (inboxes : Table EndpointId (List Bytes)) :
      QuietStep state { state with signalInboxes := inboxes }

abbrev Quiet : State P → State P → Prop := ReflTransGen QuietStep

namespace Quiet

theorem frame {state next : State P} (quiet : Quiet state next) :
    ∃ outbound inboxes, next = { state with
      relayOutbound := outbound, signalInboxes := inboxes } := by
  induction quiet with
  | refl => exact ⟨state.relayOutbound, state.signalInboxes, rfl⟩
  | tail _ step induction =>
      rcases induction with ⟨outbound, inboxes, rfl⟩
      cases step with
      | published relay peer signal json _ => exact ⟨_, inboxes, rfl⟩
      | filed inboxes => exact ⟨outbound, inboxes, rfl⟩

theorem popSignalInbox (state : State P) (peer : EndpointId) :
    Quiet state (state.popSignalInbox peer).2 := by
  rw [State.popSignalInbox]
  split
  · exact .single (.filed _)
  · exact .refl

theorem publish (state : State P) (peer : EndpointId) (signal : Signal) :
    Quiet state (IrohEndpoint.publish state peer signal).2 := by
  rw [IrohEndpoint.publish]
  split
  · exact .refl
  · rename_i json encoded
    split
    · exact .refl
    · exact .single (.published _ _ signal json encoded)

theorem publishAll (peer : EndpointId) (signals : List Signal) (state : State P) :
    Quiet state (IrohEndpoint.publishAll state peer signals).2 := by
  induction signals generalizing state with
  | nil => exact .refl
  | cons signal rest induction =>
      have published := publish state peer signal
      rw [IrohEndpoint.publishAll]
      split <;> rename_i answer <;> rw [answer] at published
      · exact published.trans (induction _)
      · exact published

theorem nextSignal (now started : Instant) (peer : EndpointId) (rounds : Nat)
    (state : State P) :
    Quiet state (IrohEndpoint.nextSignal now started peer rounds state).2 := by
  induction rounds generalizing state with
  | zero => exact .refl
  | succ rounds induction =>
      have popped := popSignalInbox state peer
      rw [IrohEndpoint.nextSignal]
      split
      · exact .refl
      · split <;> rename_i answer <;> rw [answer] at popped
        · split <;> exact popped
        · split
          · exact popped.trans (induction _)
          · exact popped
          · exact popped

end Quiet

def Phase.dancing : Phase → Bool
  | .spawned | .ended _ => false
  | _ => true

/-- The session holds its peer's slot. The answerer's slot is claimed before its
task starts, the offerer's by its first poll. -/
def Session.live (session : Session) : Bool :=
  match session.role, session.phase with
  | _, .ended _ => false
  | .offerer, .spawned => false
  | _, _ => true

inductive Stage where
  -- the answerer has no offer yet; the offerer has no slot
  | starting
  -- nothing is published
  | silent
  -- the description is published
  | described
  -- every own signal is published, and the peer's are consumed
  | exchanging
  -- the peer's `done` was consumed
  | passed
  | over
  deriving DecidableEq, Repr

def Phase.stage : Phase → Stage
  | .spawned | .awaitingOffer => .starting
  | .settingRemoteOffer | .creatingAnswer | .creatingOffer | .settingLocal _ => .silent
  | .gathering _ => .described
  | .consuming | .applyingAnswer | .applyingCandidate => .exchanging
  | .connecting | .opening | .receivingChannel => .passed
  | .ended _ => .over

def SessionInput.described : SessionInput → List String
  | .description (.ok sdp) => [sdp]
  | _ => []

def SessionInput.gathered : SessionInput → List IceCandidate
  | .candidates batch _ => batch
  | _ => []

def Phase.described : Phase → List String
  | .settingLocal sdp => [sdp]
  | _ => []

def Phase.gathered : Phase → List IceCandidate
  | .gathering candidates => candidates
  | _ => []

/-- The session holds what it held, and what it is given. -/
structure Phase.Takes (before : Phase) (input : SessionInput) (phase : Phase) : Prop where
  described : phase.described = before.described ++ input.described
  gathered : phase.gathered = before.gathered ++ input.gathered

structure SessionInput.Bare (input : SessionInput) : Prop where
  described : input.described = []
  gathered : input.gathered = []

/-- The stretches of the dance, by what they do with the signals. -/
inductive Session.Advances (session : Session) (now : Instant) (wire : ChannelWire)
    (state : State P) (input : SessionInput) : Resumed P → Prop
  | begun (channel : Except String Unit) : session.role = .offerer →
      session.phase = .spawned → input.Bare →
      Advances session now wire state input (session.begin now state channel)
  | moved (phase : Phase) : session.live = true → phase.dancing = true →
      phase.stage = session.phase.stage → session.phase.Takes input phase →
      Advances session now wire state input (session.moveTo phase, none, state)
  | failed (error : Error) : session.live = true → input.Bare →
      Advances session now wire state input (session.fail state error)
  | described (sdp : String) : session.live = true → session.phase = .settingLocal sdp →
      input.Bare → Advances session now wire state input (session.describe state sdp)
  | gathered (candidates : List IceCandidate) : session.live = true →
      session.phase.stage = .described →
      candidates = session.phase.gathered ++ input.gathered → input.described = [] →
      Advances session now wire state input (session.publishCandidates now state candidates)
  | consumed : session.live = true → session.phase.stage = .exchanging → input.Bare →
      Advances session now wire state input (session.consume now state)
  | polled (started : Instant) : session.role = .answerer → session.live = true →
      session.phase.stage = .starting → input.Bare →
      Advances session now wire state input
        (({ session with started } : Session).takeOffer now state)
  | upgraded : session.role = .offerer → session.live = true →
      session.phase.stage = .passed → input.Bare →
      Advances session now wire state input (session.upgraded state wire)
  | answered : session.role = .answerer → session.live = true →
      session.phase.stage = .passed → input.Bare →
      Advances session now wire state input (session.answered state wire)

inductive Session.Resumes (session : Session) (now : Instant) (wire : ChannelWire)
    (state : State P) : Resumed P → Prop
  | refused (error : Error) : session.role = .offerer → session.phase = .spawned →
      state.signaling.contains session.peer = true →
      Resumes session now wire state (session.moveTo (.ended (.error error)), none, state)
  | claimed : session.role = .offerer → session.phase = .spawned →
      state.signaling.get? session.peer = none →
      Resumes session now wire state
        ({ session with started := now, phase := .creatingOffer }, none,
          { state with signaling := state.signaling.set session.peer session.via })
  | claimedFailed (error : Error) : session.role = .offerer → session.phase = .spawned →
      state.signaling.get? session.peer = none →
      Resumes session now wire state
        ({ session with started := now, phase := .ended (.error error) }, none,
          ({ state with signaling := state.signaling.set session.peer session.via } :
            State P).endSignaling session.peer)
  | continued (after : Session) (next : State P) : after.role = session.role →
      after.peer = session.peer → after.via = session.via → session.live = true →
      after.live = true → Quiet state next →
      Resumes session now wire state (after, none, next)
  | failed (started : Instant) (next : State P) (error : Error) : session.live = true →
      Quiet state next →
      Resumes session now wire state
        ({ session with started, phase := .ended (.error error) }, none,
          next.endSignaling session.peer)
  | upgraded : session.role = .offerer → session.live = true →
      Resumes session now wire state (session.upgraded state wire)
  | answered : session.role = .answerer → session.live = true →
      Resumes session now wire state (session.answered state wire)

namespace Session

variable {session : Session} {now : Instant} {wire : ChannelWire} {state : State P}

theorem live_of_dancing {session : Session} (dancing : session.phase.dancing = true) :
    session.live = true := by
  rcases session with ⟨role, _, _, _, phase, _⟩
  cases role <;> cases phase <;> simp_all [Session.live, Phase.dancing]

theorem Resumes.moved {next : State P} (live : session.live = true)
    (started : Instant) {phase : Phase} (applied : List Signal)
    (moved : Quiet state next) (dancing : phase.dancing = true) :
    Resumes session now wire state ({ session with started, phase, applied }, none, next) :=
  .continued _ next rfl rfl rfl live (live_of_dancing dancing) moved

private theorem consumeSignaling_resumes (live : session.live = true) (rounds : Nat)
    {first : State P} (sofar : Quiet first state) :
    Resumes session now wire first (session.consumeSignaling now rounds state) := by
  induction rounds generalizing state with
  | zero => exact .moved live session.started session.applied sofar rfl
  | succ rounds induction =>
      have polled := sofar.trans (Quiet.nextSignal now session.started session.peer
        (state.inboxRounds session.peer) state)
      rw [Session.consumeSignaling]
      split <;> rename_i answer <;> rw [answer] at polled
      · exact .moved live session.started session.applied polled rfl
      · exact .failed session.started _ _ live polled
      · exact .moved live session.started session.applied polled rfl
      · exact .moved live session.started _ polled rfl
      · exact .moved live session.started _ polled rfl
      · exact induction polled
      · exact .failed session.started _ _ live polled
      · exact .failed session.started _ _ live polled

private theorem publishCandidates_resumes (live : session.live = true)
    (candidates : List IceCandidate) :
    Resumes session now wire state (session.publishCandidates now state candidates) := by
  have published := Quiet.publishAll session.peer (candidates.map (fun candidate =>
    Signal.candidate candidate.candidate candidate.sdpMid candidate.sdpMlineIndex) ++
      [.endOfCandidates, .done]) state
  rw [Session.publishCandidates]
  split <;> rename_i answer <;> rw [answer] at published
  · exact .failed session.started _ _ live published
  · exact consumeSignaling_resumes live _ published

private theorem takeOffer_resumes (live : session.live = true) (started : Instant) :
    Resumes session now wire state
      (({ session with started } : Session).takeOffer now state) := by
  have polled := Quiet.nextSignal now started session.peer
    (state.inboxRounds session.peer) state
  rw [Session.takeOffer]
  split <;> rename_i answer <;> rw [answer] at polled
  · exact .moved live started session.applied polled rfl
  · exact .failed started _ _ live polled
  · exact .moved live started _ polled rfl
  · exact .failed started _ _ live polled
  · exact .failed started _ _ live polled

private theorem begin_resumes (offerer : session.role = .offerer)
    (spawned : session.phase = .spawned) (channel : Except String Unit) :
    Resumes session now wire state (session.begin now state channel) := by
  rw [Session.begin, State.beginSignaling]
  cases taken : state.signaling.contains session.peer with
  | true => exact .refused _ offerer spawned taken
  | false =>
      have absent : state.signaling.get? session.peer = none := by
        simpa [Table.contains] using taken
      cases channel with
      | error detail => exact .claimedFailed _ offerer spawned absent
      | ok done => exact .claimed offerer spawned absent

private theorem describe_resumes (live : session.live = true) (sdp : String) :
    Resumes session now wire state (session.describe state sdp) := by
  have published := Quiet.publish state session.peer (session.ownDescription sdp)
  rw [Session.describe]
  split <;> rename_i answer <;> rw [answer] at published
  · exact .failed session.started _ _ live published
  · exact .moved live session.started session.applied published rfl

private theorem channelStates_advances (offerer : session.role = .offerer)
    (opening : session.phase = .opening) (batch : List DataChannelState) (ended : Bool) :
    Advances session now wire state (.states batch ended)
      (session.channelStates now wire state batch ended) := by
  have live : session.live = true := live_of_dancing (by rw [opening]; rfl)
  have bare : (SessionInput.states batch ended).Bare := ⟨rfl, rfl⟩
  rw [Session.channelStates]
  split
  · exact .upgraded offerer live (by rw [opening]; rfl) bare
  · split
    · exact .failed _ live bare
    · split
      · exact .failed _ live bare
      · have same : session.moveTo .opening = session := by
          rw [Session.moveTo, ← opening]
        have stays : Advances session now wire state (.states batch ended)
            (session.moveTo .opening, none, state) :=
          .moved .opening live rfl (by rw [opening]) (by rw [opening]; exact ⟨rfl, rfl⟩)
        rw [same] at stays
        exact stays

/-- Resuming a session is one stretch of its dance. -/
theorem advances {input : SessionInput} {resumed : Resumed P}
    (ran : session.resume now wire state input = .ok resumed) :
    Advances session now wire state input resumed := by
  have alive : ∀ {phase : Phase}, session.phase = phase → phase.dancing = true →
      session.live = true := by
    rintro phase rfl
    exact live_of_dancing
  have stage : ∀ {phase : Phase}, session.phase = phase →
      session.phase.stage = phase.stage := by
    rintro phase rfl
    rfl
  have takes : ∀ {phase next : Phase}, session.phase = phase → phase.Takes input next →
      session.phase.Takes input next := by
    rintro phase next rfl
    exact id
  rw [Session.resume.eq_def] at ran
  split at ran <;> rename_i phase
  · cases ran
    exact .begun _ ‹_› phase ⟨rfl, rfl⟩
  · cases ran
    exact .moved _ (alive phase rfl) rfl (stage phase).symm (takes phase ⟨rfl, rfl⟩)
  · cases ran
    exact .moved _ (alive phase rfl) rfl (stage phase).symm (takes phase ⟨rfl, rfl⟩)
  · cases ran
    exact .failed _ (alive phase rfl) ⟨rfl, rfl⟩
  · cases ran
    exact .failed _ (alive phase rfl) ⟨rfl, rfl⟩
  · cases ran
    exact .described _ (alive phase rfl) phase ⟨rfl, rfl⟩
  · have live := alive phase rfl
    split at ran <;> cases ran
    · exact .gathered _ live (stage phase) (by rw [phase]; rfl) rfl
    · exact .moved _ live rfl (stage phase).symm (takes phase ⟨rfl, rfl⟩)
  · cases ran
    exact .consumed (alive phase rfl) (stage phase) ⟨rfl, rfl⟩
  · cases ran
    exact .consumed (alive phase rfl) (stage phase) ⟨rfl, rfl⟩
  · cases ran
    exact .consumed (alive phase rfl) (stage phase) ⟨rfl, rfl⟩
  · cases ran
    exact .moved _ (alive phase rfl) rfl (stage phase).symm (takes phase ⟨rfl, rfl⟩)
  · cases ran
    exact .moved _ (alive phase rfl) rfl (stage phase).symm (takes phase ⟨rfl, rfl⟩)
  · cases ran
    exact channelStates_advances ‹_› phase _ _
  · cases ran
    refine .polled now ‹_› ?_ (stage phase) ⟨rfl, rfl⟩
    simp [Session.live, phase, ‹session.role = .answerer›]
  · cases ran
    exact .polled session.started ‹_› (alive phase rfl) (stage phase) ⟨rfl, rfl⟩
  · cases ran
    exact .moved _ (alive phase rfl) rfl (stage phase).symm (takes phase ⟨rfl, rfl⟩)
  · have live := alive phase rfl
    split at ran <;> cases ran
    · exact .answered ‹_› live (stage phase) ⟨rfl, rfl⟩
    · exact .failed _ live ⟨rfl, rfl⟩
  · cases ran
    exact .failed _ (alive phase rfl) ⟨rfl, rfl⟩
  · cases ran
    exact .failed _ (alive phase rfl) ⟨rfl, rfl⟩
  · cases ran
    exact .failed _ (alive phase rfl) ⟨rfl, rfl⟩
  · cases ran
    exact .failed _ (alive phase rfl) ⟨rfl, rfl⟩
  · cases ran
    exact .failed _ (alive phase rfl) ⟨rfl, rfl⟩
  · cases ran

theorem resumes {input : SessionInput} {resumed : Resumed P}
    (ran : session.resume now wire state input = .ok resumed) :
    Resumes session now wire state resumed := by
  cases advances ran with
  | begun channel offerer spawned _ => exact begin_resumes offerer spawned channel
  | moved phase live dancing _ _ =>
      exact .moved live session.started session.applied .refl dancing
  | failed error live _ => exact .failed session.started state error live .refl
  | described sdp live _ _ => exact describe_resumes live sdp
  | gathered candidates live _ _ _ => exact publishCandidates_resumes live candidates
  | consumed live _ _ => exact consumeSignaling_resumes live _ .refl
  | polled started _ live _ _ => exact takeOffer_resumes live started
  | upgraded offerer live _ _ => exact .upgraded offerer live
  | answered answerer live _ _ => exact .answered answerer live

end Session

end IrohEndpoint
