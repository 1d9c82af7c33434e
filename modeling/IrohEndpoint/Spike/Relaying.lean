import IrohEndpoint.RelayFrames
import IrohEndpoint.Spike.Wires

/-! # A run on its relay connection

A relay wire is fed by the frames of a websocket. `Link` is a run beside the receiving side
of its relay connection: what the run's receive resolves to is what the connection's next
call gives. -/

namespace IrohEndpoint

/-! ## What a call takes -/

/-- The datagrams that a result of the websocket carries. -/
def Arrival.datagrams (arrival : Arrival) : List Datagram :=
  match arrival.result with
  | .ok message => message.datagrams
  | .error _ => []

def Received.datagrams : Received → List Datagram
  | .datagram given => [given]
  | .failed _ => []
  | .waiting => []

namespace RelayReceiver

/-- The datagrams that a connection is still to give out. -/
def ahead (receiver : RelayReceiver) : List Datagram :=
  receiver.pending ++ receiver.arrivals.flatMap Arrival.datagrams

private theorem recv_ahead (arrivals : List Arrival) : ∀ (pending : List Datagram)
    (sent : List Bytes),
    (recv pending sent arrivals).1.datagrams ++ (recv pending sent arrivals).2.ahead =
      pending ++ arrivals.flatMap Arrival.datagrams := by
  induction arrivals with
  | nil =>
      intro pending sent
      cases pending with
      | nil => rfl
      | cons datagram rest => rfl
  | cons arrival arrivals induction =>
      intro pending sent
      cases pending with
      | cons datagram rest => rfl
      | nil =>
          rw [recv, List.flatMap_cons, List.nil_append, Arrival.datagrams]
          dsimp only
          cases result : arrival.result with
          | error detail => rfl
          | ok message =>
              cases message with
              | string text => exact induction [] sent
              | binary frame =>
                  dsimp only [WsMessage.datagrams]
                  cases split : splitTag frame with
                  | none => exact induction [] sent
                  | some tagged =>
                      rcases tagged with ⟨tag, payload⟩
                      dsimp only
                      by_cases single : tag = Tag.relayToClientDatagram
                      · subst single
                        have apart : decide (Tag.relayToClientDatagram =
                            Tag.relayToClientDatagramBatch) = false := by decide
                        rw [if_pos (.inl rfl), if_pos rfl, apart]
                        cases decoded : decodeRelayDatagrams payload false with
                        | none => exact induction [] sent
                        | some datagrams => exact induction datagrams sent
                      · by_cases batch : tag = Tag.relayToClientDatagramBatch
                        · subst batch
                          rw [if_pos (.inr rfl), if_neg single, if_pos rfl]
                          cases decoded : decodeRelayDatagrams payload true with
                          | none => simpa [decoded] using induction [] sent
                          | some datagrams => simpa [decoded] using induction datagrams sent
                        · rw [if_neg (by simp [single, batch]), if_neg single, if_neg batch]
                          split
                          · split
                            · exact induction [] _
                            · rfl
                          · exact induction [] sent

end RelayReceiver

/-! ## A run and its connection -/

namespace Spike

variable {P : Platform}

structure Link (P : Platform) where
  run : Run P
  receiver : RelayReceiver
  -- all that the websocket ever gave; read by no operation
  delivered : List Arrival

inductive LinkInput where
  -- the websocket has something for the connection
  | delivered (arrival : Arrival)
  -- the receive of the run is polled
  | polled (fuel : Nat)
  | turned (input : Input)

namespace Link

/-- What a call of the connection resolves the run's receive to. -/
def arrived : Received → Option Arrived
  | .datagram datagram => some (.relay (.ok datagram))
  | .failed error => some (.relay (.error error))
  | .waiting => none

def step (link : Link P) : LinkInput → Except Abort (Link P)
  | .delivered arrival =>
      .ok { link with
        receiver := { link.receiver with arrivals := link.receiver.arrivals ++ [arrival] }
        delivered := link.delivered ++ [arrival] }
  | .polled fuel =>
      let (received, receiver) := link.receiver.recvDatagram
      match arrived received with
      | none => if link.run.recv then .ok { link with receiver } else .error .disabled
      | some arrived =>
          (link.run.step (.received fuel arrived)).map fun run => { link with run, receiver }
  | .turned input =>
      match input with
      | .received _ _ => .error .disabled
      | _ => (link.run.step input).map fun run => { link with run }

end Link

/-- The runs of one side on a relay connection whose handshake is done. -/
def linked (P : Platform) (role : Role) (peer : Option EndpointId) :
    System (Link P) LinkInput Abort where
  Initial link := (spike P role peer (.relay peer)).Initial link.run ∧
    link.receiver = .connected [] ∧ link.delivered = []
  step := Link.step

private theorem Run.step_arrivals {run next : Run P} {input : Input}
    (early : run.phase = .selecting → run.traffic.late = [])
    (stepped : run.step input = .ok next) :
    next.traffic.arrived ++ next.traffic.late =
      run.traffic.arrived ++ run.traffic.late ++ input.datagrams := by
  cases step_moves AppRelation.stable_true stepped with
  | turned advances nothing => rw [advances.arrived, advances.late, nothing, List.append_nil]
  | received arrived message wire selecting resolved flows skips brings =>
      have none := early selecting
      rw [flows.arrived, flows.late, brings]
      simp [Run.note, none]
  | failed arrived error wire resolved advances resolves nothing =>
      rw [advances.arrived, advances.late, nothing, List.append_nil]
  | late arrived message wire outcome closing resolved same brings =>
      rw [same, brings]
      simp [Run.noteLate]

/-- What the frames carried is what the run was given and what is ahead of it. -/
structure Link.Conserves (peer : Option EndpointId) (role : Role) (link : Link P) : Prop where
  reached : (spike P role peer (.relay peer)).Reachable link.run
  whole : link.run.traffic.arrived ++ link.run.traffic.late ++ link.receiver.ahead =
    link.delivered.flatMap Arrival.datagrams

namespace Link.Conserves

variable {peer : Option EndpointId} {role : Role} {link next : Link P}

theorem early (conserves : link.Conserves peer role) (selecting : link.run.phase = .selecting) :
    link.run.traffic.late = [] := by
  by_contra late
  have left := (spike_bound conserves.reached).late late
  rw [selecting] at left
  cases left

theorem moved (conserves : link.Conserves peer role) {input : Input} {run : Run P}
    {receiver : RelayReceiver} (stepped : link.run.step input = .ok run)
    (ahead : input.datagrams ++ receiver.ahead = link.receiver.ahead) :
    ({ link with run, receiver } : Link P).Conserves peer role where
  reached := conserves.reached.step trivial stepped
  whole := by
    rw [Run.step_arrivals conserves.early stepped, List.append_assoc, ahead]
    exact conserves.whole

theorem delivers (conserves : link.Conserves peer role) {arrival : Arrival}
    (stepped : link.step (.delivered arrival) = .ok next) : next.Conserves peer role := by
  cases stepped
  refine ⟨conserves.reached, ?_⟩
  have whole := conserves.whole
  rw [RelayReceiver.ahead] at whole ⊢
  dsimp only
  rw [List.flatMap_append, List.flatMap_append, ← whole]
  simp only [List.append_assoc]

theorem polls (conserves : link.Conserves peer role) {fuel : Nat}
    (stepped : link.step (.polled fuel) = .ok next) : next.Conserves peer role := by
  have ahead : link.receiver.recvDatagram.1.datagrams ++ link.receiver.recvDatagram.2.ahead =
      link.receiver.ahead := RelayReceiver.recv_ahead _ _ _
  simp only [Link.step] at stepped
  generalize link.receiver.recvDatagram = answered at ahead stepped
  rcases answered with ⟨answer, receiver⟩
  have resolves : ∀ arrived : Arrived, arrived.datagrams = answer.datagrams →
      (link.run.step (.received fuel arrived)).map (fun run => { link with run, receiver }) =
        .ok next → next.Conserves peer role := by
    intro arrived same ran
    cases moves : link.run.step (.received fuel arrived) with
    | error reason =>
        rw [moves] at ran
        cases ran
    | ok run =>
        rw [moves] at ran
        cases ran
        apply conserves.moved moves
        rw [← ahead, ← same]
        rfl
  cases answer with
  | datagram datagram => exact resolves _ rfl stepped
  | failed error => exact resolves _ rfl stepped
  | waiting =>
      -- the receive stays pending, and the connection may have read frames without datagrams
      simp only [Link.arrived] at stepped
      split at stepped
      · cases stepped
        refine ⟨conserves.reached, ?_⟩
        have same : receiver.ahead = link.receiver.ahead := ahead
        rw [same]
        exact conserves.whole
      · cases stepped

theorem turns (conserves : link.Conserves peer role) {input : Input}
    (stepped : link.step (.turned input) = .ok next) : next.Conserves peer role := by
  rw [Link.step.eq_def] at stepped
  dsimp only at stepped
  split at stepped
  · cases stepped
  · rename_i other
    cases moves : link.run.step input with
    | error reason =>
        rw [moves] at stepped
        cases stepped
    | ok run =>
        rw [moves] at stepped
        cases stepped
        apply conserves.moved moves
        cases input with
        | received fuel arrived => exact absurd rfl (other fuel arrived)
        | _ => rfl

theorem step (conserves : link.Conserves peer role) {input : LinkInput}
    (stepped : link.step input = .ok next) : next.Conserves peer role := by
  cases input with
  | delivered arrival => exact conserves.delivers stepped
  | polled fuel => exact conserves.polls stepped
  | turned input => exact conserves.turns stepped

end Link.Conserves

private theorem linked_conserves {role : Role} {peer : Option EndpointId} {link : Link P}
    (reached : (linked P role peer).Reachable link) : link.Conserves peer role := by
  apply reached.invariant (fun link : Link P => link.Conserves peer role)
  · rintro link ⟨initial, fresh, nothing⟩
    refine ⟨⟨_, initial, .refl⟩, ?_⟩
    rcases initial with ⟨draws, now, made, _, begun⟩
    rw [begun, fresh, nothing]
    rfl
  · intro link input next conserves _ stepped
    exact conserves.step stepped

/-- In every run over a relay connection, whatever frames its websocket delivers: the
datagrams the frames carried are those that reached the loop, then those that reached the
teardown, then those decoded or unread, each once and in order. What noq was handed is all of
the peer's that reached the loop, so a run that waits with nothing ahead of it has handed noq
every datagram that its peer ever sent. -/
theorem frames_reach_noq {role : Role} {peer : Option EndpointId} {link : Link P}
    (reached : (linked P role peer).Reachable link) :
    link.run.traffic.arrived ++ link.run.traffic.late ++ link.receiver.ahead =
      link.delivered.flatMap Arrival.datagrams ∧
    (∀ id, link.run.heard peer = some id → link.run.traffic.handed =
      (link.run.traffic.arrived.filter fun datagram => datagram.source = id).map
        Datagram.payload) ∧
    (link.run.phase.left = false → link.receiver.ahead = [] → ∀ id,
      link.run.heard peer = some id → link.run.traffic.handed =
        ((link.delivered.flatMap Arrival.datagrams).filter fun datagram =>
          datagram.source = id).map Datagram.payload) := by
  have conserves := linked_conserves reached
  have bound := spike_bound conserves.reached
  refine ⟨conserves.whole, fun id heard => bound.handed_from heard, ?_⟩
  intro looping empty id heard
  have early : link.run.traffic.late = [] := by
    by_contra late
    rw [bound.late late] at looping
    cases looping
  have whole := conserves.whole
  rw [early, empty, List.append_nil, List.append_nil] at whole
  rw [bound.handed_from heard, whole]

namespace Loopback

def framed (frame : Bytes) : LinkInput := .delivered (.message (.binary frame))

/-- A ping, a greeting, a stranger's greeting, and two packets in one frame. -/
def frames : List LinkInput := [
  .turned (.start 9), framed (9 :: List.replicate 8 1),
  framed (6 :: (key.bytes ++ [3, 0])), .polled 9, .turned (.sent 9 (.ok ())),
  framed (6 :: (stranger.bytes ++ [3, 0])), framed (7 :: (key.bytes ++ [3, 0, 1, 8, 9])),
  .polled 9, .polled 9, .polled 9, .polled 9]

end Loopback

/-- A server that hears its client, then a stranger, then two packets of one frame. -/
theorem frames_reach_noq_batch :
    ∃ link : Link Loopback.platform,
      (linked Loopback.platform .server none).Reachable link ∧
      link.run.traffic.handed = [[0], [8], [9]] ∧
      link.run.traffic.handed = ((link.delivered.flatMap Arrival.datagrams).filter
        fun datagram => datagram.source = Loopback.key).map Datagram.payload := by
  have passed : (linked Loopback.platform .server none).runs (fun _ _ => true)
      ⟨Loopback.begun .server (.relay none), .connected [], []⟩ Loopback.frames
      (fun link => decide (link.run.traffic.handed = [[0], [8], [9]]) &&
        decide (link.run.phase = .selecting) && decide (link.receiver.ahead = []) &&
        decide (link.run.heard none = some Loopback.key)) = true := by
    decide +kernel
  have initial : (linked Loopback.platform .server none).Initial
      ⟨Loopback.begun .server (.relay none), .connected [], []⟩ :=
    ⟨Loopback.begun_initial _ _ _ (by simp), rfl, rfl⟩
  rcases System.Reachable.of_runs initial passed with ⟨link, reached, tested⟩
  simp only [Bool.and_eq_true, decide_eq_true_eq] at tested
  rcases tested with ⟨⟨⟨handed, selecting⟩, nothing⟩, heard⟩
  have all := (frames_reach_noq reached).2.2 (by rw [selecting]; rfl) nothing Loopback.key heard
  exact ⟨link, reached, handed, all⟩

end Spike

end IrohEndpoint
