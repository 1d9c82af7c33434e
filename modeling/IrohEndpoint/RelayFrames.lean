import IrohEndpoint.Pump

/-! # Relay frames

One frame is one binary websocket message: a QUIC-varint frame type followed by the
payload. `recvDatagram` reads the websocket until it has a datagram to return; a batch
frame leaves the others pending for the calls after it. -/

namespace IrohEndpoint

/-! ## Frames -/

namespace Tag

def relayToClientDatagram : UInt64 := 6

def relayToClientDatagramBatch : UInt64 := 7

def ping : UInt64 := 9

def pong : UInt8 := 10

end Tag

/-- Split the QUIC-varint frame type off the front of a frame. -/
def splitTag (frame : Bytes) : Option (UInt64 × Bytes) :=
  match frame.head? with
  | none => none
  | some first =>
      let length := 1 <<< (first >>> 6).toNat
      if frame.length < length then none
      else
        let value := ((frame.take length).drop 1).foldl
          (fun (value : UInt64) byte => value <<< 8 ||| byte.toUInt64)
          (first &&& 0x3f).toUInt64
        some (value, frame.drop length)

/-- The slices of `size` bytes of a list, the last one possibly shorter. -/
def chunks (size : Nat) (bytes : Bytes) : List Bytes :=
  (List.range ((bytes.length + size - 1) / size)).map fun index =>
    (bytes.drop (index * size)).take size

/-- Decode a `relay-to-client-datagram` or `-batch` payload into individual
datagrams: the sender, an ECN byte, the segment size of a batch, the contents. -/
def decodeRelayDatagrams (payload : Bytes) (batch : Bool) : Option (List Datagram) :=
  match EndpointId.ofBytes? (payload.take 32) with
  | none => none
  | some source =>
      match batch, payload.drop 32 with
      | true, _ :: high :: low :: contents =>
          let segmentSize := high.toNat * 256 + low.toNat
          if segmentSize = 0 then none
          else some ((chunks segmentSize contents).map fun chunk => ⟨source, chunk⟩)
      | false, _ :: contents => some [⟨source, contents⟩]
      | _, _ => none

/-- Encode a `pong` frame echoing `payload`. -/
def encodePong (payload : Bytes) : Bytes := Tag.pong :: payload

/-! ## The connection -/

inductive WsMessage where
  | binary (frame : Bytes)
  | string (text : String)
  deriving DecidableEq

/-- One result of the websocket's `receive`, and how a send would resolve after it. -/
structure Arrival where
  result : Except String WsMessage
  send : Except String Unit

/-- The receiving side of a relay connection: what its websocket is still to deliver,
the datagrams decoded but not yet returned, and the frames sent. -/
structure RelayReceiver where
  arrivals : List Arrival
  pending : List Datagram
  sent : List Bytes

/-- How a call of `recv_datagram` stands: it returned, or it still awaits the
websocket. -/
inductive Received where
  | datagram (datagram : Datagram)
  | failed (detail : String)
  | waiting
  deriving DecidableEq

namespace RelayReceiver

/-- The loop of `recv_datagram`, on the websocket's results. -/
def recv (pending : List Datagram) (sent : List Bytes) :
    List Arrival → Received × RelayReceiver
  | [] =>
      match pending with
      | datagram :: rest => (.datagram datagram, ⟨[], rest, sent⟩)
      | [] => (.waiting, ⟨[], [], sent⟩)
  | arrival :: arrivals =>
      match pending with
      | datagram :: rest => (.datagram datagram, ⟨arrival :: arrivals, rest, sent⟩)
      | [] =>
          match arrival.result with
          | .error detail => (.failed s!"relay: {detail}", ⟨arrivals, [], sent⟩)
          | .ok (.string _) => recv [] sent arrivals
          | .ok (.binary frame) =>
              match splitTag frame with
              | none => recv [] sent arrivals
              | some (tag, payload) =>
                  if tag = Tag.relayToClientDatagram ∨
                      tag = Tag.relayToClientDatagramBatch then
                    let batch := decide (tag = Tag.relayToClientDatagramBatch)
                    match decodeRelayDatagrams payload batch with
                    | none => recv [] sent arrivals
                    | some datagrams => recv datagrams sent arrivals
                  else if tag = Tag.ping ∧ payload.length = 8 then
                    match arrival.send with
                    | .ok () => recv [] (sent ++ [encodePong payload]) arrivals
                    | .error detail => (.failed s!"relay pong: {detail}", ⟨arrivals, [],
                        sent ++ [encodePong payload]⟩)
                  else recv [] sent arrivals

def recvDatagram (receiver : RelayReceiver) : Received × RelayReceiver :=
  recv receiver.pending receiver.sent receiver.arrivals

/-- `calls` calls of `recvDatagram`, one after the other. -/
def receives : Nat → RelayReceiver → List Received × RelayReceiver
  | 0, receiver => ([], receiver)
  | calls + 1, receiver =>
      let (received, receiver) := receiver.recvDatagram
      let (rest, receiver) := receives calls receiver
      (received :: rest, receiver)

def connected (arrivals : List Arrival) : RelayReceiver := ⟨arrivals, [], []⟩

end RelayReceiver

/-! ## What a message is for -/

def Arrival.message (message : WsMessage) : Arrival := ⟨.ok message, .ok ()⟩

def Arrival.lost (detail : String) : Arrival := ⟨.error detail, .error detail⟩

namespace WsMessage

def datagrams : WsMessage → List Datagram
  | .string _ => []
  | .binary frame =>
      match splitTag frame with
      | none => []
      | some (tag, payload) =>
          if tag = Tag.relayToClientDatagram then
            (decodeRelayDatagrams payload false).getD []
          else if tag = Tag.relayToClientDatagramBatch then
            (decodeRelayDatagrams payload true).getD []
          else []

def pongs : WsMessage → List Bytes
  | .string _ => []
  | .binary frame =>
      match splitTag frame with
      | none => []
      | some (tag, payload) =>
          if tag = Tag.ping ∧ payload.length = 8 then [encodePong payload] else []

/-- The message carries a datagram or asks for an answer. -/
def speaks (message : WsMessage) : Bool :=
  !(message.datagrams.isEmpty && message.pongs.isEmpty)

end WsMessage

namespace RelayReceiver

private theorem recv_message (message : WsMessage) (sent : List Bytes) (arrivals : List Arrival) :
    recv [] sent (.message message :: arrivals) =
      recv message.datagrams (sent ++ message.pongs) arrivals := by
  cases message with
  | string text => simp [recv, Arrival.message, WsMessage.datagrams, WsMessage.pongs]
  | binary frame =>
      rw [recv]
      simp only [Arrival.message, WsMessage.datagrams, WsMessage.pongs]
      cases splitTag frame with
      | none => simp
      | some split =>
          rcases split with ⟨tag, payload⟩
          dsimp only
          by_cases single : tag = Tag.relayToClientDatagram
          · subst single
            have apart : Tag.relayToClientDatagram ≠ Tag.relayToClientDatagramBatch ∧
                Tag.relayToClientDatagram ≠ Tag.ping := by decide
            cases decoded : decodeRelayDatagrams payload false <;> simp [apart, decoded]
          · by_cases batch : tag = Tag.relayToClientDatagramBatch
            · subst batch
              have apart : Tag.relayToClientDatagramBatch ≠ Tag.ping := by decide
              cases decoded : decodeRelayDatagrams payload true <;>
                simp [single, apart, decoded]
            · rw [if_neg (by simp [single, batch]), if_neg single, if_neg batch]
              split <;> simp

private theorem recv_pending (datagram : Datagram) (rest : List Datagram) (sent : List Bytes)
    (arrivals : List Arrival) :
    recv (datagram :: rest) sent arrivals = (.datagram datagram, ⟨arrivals, rest, sent⟩) := by
  cases arrivals <;> rfl

/-- The messages that the websocket delivers before it fails. -/
def websocket (messages : List WsMessage) (detail : String) : List Arrival :=
  messages.map Arrival.message ++ [.lost detail]

/-- A call returns the next datagram of the messages, and reads no further than the
message that carries it. -/
private theorem recv_datagram (detail : String) {messages : List WsMessage}
    {pending more : List Datagram} (sent : List Bytes) {datagram : Datagram}
    (next : pending ++ messages.flatMap WsMessage.datagrams = datagram :: more) :
    ∃ read unread rest, messages = read ++ unread ∧
      pending ++ read.flatMap WsMessage.datagrams = datagram :: rest ∧
      rest ++ unread.flatMap WsMessage.datagrams = more ∧
      recv pending sent (websocket messages detail) = (.datagram datagram,
        ⟨websocket unread detail, rest, sent ++ read.flatMap WsMessage.pongs⟩) := by
  induction messages generalizing pending sent with
  | nil =>
      rw [List.flatMap_nil, List.append_nil] at next
      subst next
      exact ⟨[], [], more, rfl, by simp, by simp, by simp [recv_pending]⟩
  | cons message messages induction =>
      cases pending with
      | cons head rest =>
          cases next
          exact ⟨[], message :: messages, rest, rfl, by simp, rfl, by simp [recv_pending]⟩
      | nil =>
          rw [List.flatMap_cons, List.nil_append] at next
          rcases induction (sent ++ message.pongs) next with
            ⟨read, unread, rest, rfl, taken, remaining, returned⟩
          refine ⟨message :: read, unread, rest, rfl, by simpa using taken, remaining, ?_⟩
          rw [websocket, List.map_cons, List.cons_append, recv_message]
          rw [websocket] at returned
          rw [returned]
          simp

private theorem recv_lost (detail : String) {messages : List WsMessage} (sent : List Bytes)
    (none : messages.flatMap WsMessage.datagrams = []) :
    recv [] sent (websocket messages detail) =
      (.failed s!"relay: {detail}", ⟨[], [], sent ++ messages.flatMap WsMessage.pongs⟩) := by
  induction messages generalizing sent with
  | nil => simp [websocket, recv, Arrival.lost]
  | cons message messages induction =>
      rw [List.flatMap_cons, List.append_eq_nil_iff] at none
      rw [websocket, List.map_cons, List.cons_append, recv_message, none.1]
      have rest := induction (sent ++ message.pongs) none.2
      rw [websocket] at rest
      rw [rest]
      simp

private theorem receives_exhausted (calls : Nat) (sent : List Bytes) :
    receives calls ⟨[], [], sent⟩ = (List.replicate calls .waiting, ⟨[], [], sent⟩) := by
  induction calls with
  | zero => rfl
  | succ calls induction =>
      rw [receives, recvDatagram, recv]
      dsimp only
      rw [induction]
      rfl

/-- The results of `calls` calls, in terms of the datagrams still to come. -/
def results (datagrams : List Datagram) (detail : String) (calls : Nat) : List Received :=
  (datagrams.map Received.datagram ++ Received.failed s!"relay: {detail}" ::
    List.replicate calls Received.waiting).take calls

private theorem results_cons (datagram : Datagram) (datagrams : List Datagram) (detail : String)
    (calls : Nat) :
    results (datagram :: datagrams) detail (calls + 1) =
      .datagram datagram :: results datagrams detail calls := by
  simp only [results, List.map_cons, List.cons_append, List.take_succ_cons]
  rw [List.take_append, List.take_append]
  cases excess : calls - (datagrams.map Received.datagram).length with
  | zero => simp
  | succ after =>
      have within : after ≤ calls := by omega
      simp [List.take_replicate, Nat.min_eq_left within,
        Nat.min_eq_left (Nat.le_succ_of_le within)]

private theorem results_nil (detail : String) (calls : Nat) :
    results [] detail (calls + 1) =
      .failed s!"relay: {detail}" :: List.replicate calls .waiting := by
  simp [results, List.take_replicate]

private theorem receives_spec (detail : String) (calls : Nat) (messages : List WsMessage)
    (pending : List Datagram) (sent : List Bytes) :
    ∃ read unread, messages = read ++ unread ∧
      (receives calls ⟨websocket messages detail, pending, sent⟩).1 =
        results (pending ++ messages.flatMap WsMessage.datagrams) detail calls ∧
      (receives calls ⟨websocket messages detail, pending, sent⟩).2.sent =
        sent ++ read.flatMap WsMessage.pongs ∧
      ((pending ++ messages.flatMap WsMessage.datagrams).length < calls → unread = []) ∧
      (calls ≤ (pending ++ messages.flatMap WsMessage.datagrams).length →
        (receives calls ⟨websocket messages detail, pending, sent⟩).2.arrivals =
          websocket unread detail ∧
        (receives calls ⟨websocket messages detail, pending, sent⟩).2.pending =
          (pending ++ read.flatMap WsMessage.datagrams).drop calls) := by
  induction calls generalizing messages pending sent with
  | zero => exact ⟨[], messages, rfl, rfl, by simp [receives], by simp, by simp [receives]⟩
  | succ calls induction =>
      simp only [receives, recvDatagram]
      cases next : pending ++ messages.flatMap WsMessage.datagrams with
      | nil =>
          rw [List.append_eq_nil_iff] at next
          rcases next with ⟨rfl, none⟩
          rw [recv_lost detail sent none]
          dsimp only
          rw [receives_exhausted]
          refine ⟨messages, [], by simp, ?_, rfl, fun _ => rfl, by simp⟩
          exact (results_nil detail calls).symm
      | cons datagram more =>
          rcases recv_datagram detail sent next with
            ⟨read, unread, rest, rfl, taken, remaining, returned⟩
          rw [returned]
          dsimp only
          rcases induction unread rest (sent ++ read.flatMap WsMessage.pongs) with
            ⟨first, last, rfl, answers, frames, exhausted, left⟩
          rw [remaining] at answers exhausted left
          refine ⟨read ++ first, last, by simp, ?_, ?_, ?_, ?_⟩
          · rw [answers, results_cons]
          · rw [frames]
            simp
          · intro short
            exact exhausted (by simpa using short)
          · intro enough
            rcases left (by simpa using enough) with ⟨arrivals, queue⟩
            refine ⟨arrivals, ?_⟩
            rw [queue, List.flatMap_append, ← List.append_assoc, taken]
            simp

private theorem recv_speaking (detail : String) (messages : List WsMessage)
    (pending : List Datagram) (sent : List Bytes) :
    ∃ received left rest frames,
      recv pending sent (websocket messages detail) =
        (received, ⟨websocket left detail, rest, frames⟩) ∧
      recv pending sent (websocket (messages.filter WsMessage.speaks) detail) =
        (received, ⟨websocket (left.filter WsMessage.speaks) detail, rest, frames⟩) ∨
      (recv pending sent (websocket messages detail)) = (received, ⟨[], rest, frames⟩) ∧
      recv pending sent (websocket (messages.filter WsMessage.speaks) detail) =
        (received, ⟨[], rest, frames⟩) := by
  induction messages generalizing pending sent with
  | nil =>
      cases pending with
      | nil => exact ⟨_, [], _, _, .inr ⟨rfl, rfl⟩⟩
      | cons datagram rest => exact ⟨_, [], _, _, .inl ⟨rfl, rfl⟩⟩
  | cons message messages induction =>
      cases pending with
      | cons datagram rest =>
          refine ⟨.datagram datagram, message :: messages, rest, sent, .inl ⟨?_, ?_⟩⟩ <;>
            exact recv_pending datagram rest sent _
      | nil =>
          have head : ∀ more : List WsMessage, recv [] sent (websocket (message :: more) detail) =
              recv message.datagrams (sent ++ message.pongs) (websocket more detail) :=
            fun more => recv_message message sent (websocket more detail)
          cases speaks : message.speaks with
          | true =>
              rw [List.filter_cons_of_pos speaks, head, head]
              exact induction _ _
          | false =>
              have silent : message.datagrams = [] ∧ message.pongs = [] := by
                simpa [WsMessage.speaks] using speaks
              rw [List.filter_cons_of_neg (by simp [speaks]), head, silent.1, silent.2,
                List.append_nil]
              exact induction _ _

private theorem receives_speaking (detail : String) (calls : Nat) (messages : List WsMessage)
    (pending : List Datagram) (sent : List Bytes) :
    (receives calls ⟨websocket (messages.filter WsMessage.speaks) detail, pending, sent⟩).1 =
      (receives calls ⟨websocket messages detail, pending, sent⟩).1 ∧
    (receives calls ⟨websocket (messages.filter WsMessage.speaks) detail, pending,
        sent⟩).2.sent =
      (receives calls ⟨websocket messages detail, pending, sent⟩).2.sent := by
  induction calls generalizing messages pending sent with
  | zero => exact ⟨rfl, rfl⟩
  | succ calls induction =>
      simp only [receives, recvDatagram]
      rcases recv_speaking detail messages pending sent with
        ⟨received, left, rest, frames, ⟨all, some⟩ | ⟨all, some⟩⟩
      · rw [all, some]
        rcases induction left rest frames with ⟨answers, pongs⟩
        exact ⟨congrArg (received :: ·) answers, pongs⟩
      · rw [all, some]
        exact ⟨rfl, rfl⟩

end RelayReceiver

/-! ## Relay receive fidelity -/

open RelayReceiver in
/-- `calls` calls on a connection whose websocket delivers `messages` and then fails
return the datagrams of the messages, in order, then the failure; they answer the pings
they read, and read no further than the last datagram they return. A message that carries
nothing and asks for nothing changes neither. -/
theorem relay_receive_fidelity (messages : List WsMessage) (detail : String) (calls : Nat) :
    (receives calls (connected (websocket messages detail))).1 =
      (List.map Received.datagram (messages.flatMap WsMessage.datagrams) ++
        Received.failed s!"relay: {detail}" ::
          List.replicate calls Received.waiting).take calls ∧
    (∃ read unread, messages = read ++ unread ∧
      (receives calls (connected (websocket messages detail))).2.sent =
        read.flatMap WsMessage.pongs ∧
      ((messages.flatMap WsMessage.datagrams).length < calls → unread = []) ∧
      (calls ≤ (messages.flatMap WsMessage.datagrams).length →
        (receives calls (connected (websocket messages detail))).2.arrivals =
          websocket unread detail ∧
        (receives calls (connected (websocket messages detail))).2.pending =
          (read.flatMap WsMessage.datagrams).drop calls)) ∧
    (receives calls (connected (websocket (messages.filter WsMessage.speaks) detail))).1 =
      (receives calls (connected (websocket messages detail))).1 ∧
    (receives calls (connected (websocket (messages.filter WsMessage.speaks)
        detail))).2.sent =
      (receives calls (connected (websocket messages detail))).2.sent := by
  rcases receives_spec detail calls messages [] [] with
    ⟨read, unread, split, answers, frames, exhausted, left⟩
  rw [List.nil_append] at answers frames exhausted left
  exact ⟨answers, ⟨read, unread, split, frames, exhausted, left⟩,
    receives_speaking detail calls messages [] []⟩

/-- The segments of a batch come in the order of its contents, the last one short. -/
example : WsMessage.datagrams
      (.binary (7 :: (List.replicate 32 42 ++ [3, 0, 2, 10, 11, 12, 13, 14]))) =
    [⟨⟨List.replicate 32 42, rfl⟩, [10, 11]⟩, ⟨⟨List.replicate 32 42, rfl⟩, [12, 13]⟩,
      ⟨⟨List.replicate 32 42, rfl⟩, [14]⟩] := by
  decide

end IrohEndpoint
