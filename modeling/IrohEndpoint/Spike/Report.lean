import IrohEndpoint.Spike.Demo

/-! # Whom a report names

A process reports a peer only when the key of the QUIC handshake is that of the endpoint it
was given or, where it was given none, of the endpoint its wire was made with. -/

namespace IrohEndpoint.Spike

variable {P : Platform}

namespace Run

variable {run next : Run P}

theorem Moves.idle {Related : AppRelation} {brought : List Datagram}
    (moves : run.Moves Related brought next)
    (missing : next.connection = none) : run.connection = none ∧ next.app = run.app := by
  cases moves with
  | turned advances => exact advances.idle missing
  | received arrived message wire selecting resolved flows skips => exact flows.idle missing
  | failed arrived error wire resolved advances resolves => exact advances.idle missing
  | late arrived message wire outcome closing resolved same =>
      rw [same] at missing ⊢
      exact ⟨missing, rfl⟩

end Run

variable {H : Host}

/-! ## What a process has done so far -/

namespace Demo

variable {config : RunConfig} {demo : Demo H}

structure Configured (demo : Demo H) : Prop where
  identity : demo.identity.isSome = true
  peerArg : configured H.hexDecode demo.config = .ok demo.peerArg

inductive Wired (demo : Demo H) : Prop
  | relay (transport : demo.config.transport = .relay) (line : demo.line = none)
  | webrtc (transport : demo.config.transport = .webrtc) (line : Line H.rtc)
      (made : demo.line = some line) (known : line.peer.isSome = true)
      (conn : H.rtc.PeerConnection) (arrivals : List (Except String Datagram))
      (answers : List (Except String Unit)) (fuel : Nat) (channel : H.rtc.DataChannel)
      (danced : connect fuel demo.config.role (.begin demo.peerArg conn arrivals answers) =
        .ok (.ok channel, line))

def Runs (demo : Demo H) (run : Run H.quic) : Prop :=
  demo.run = some run ∧
    (spike H.quic demo.config.endpointRole demo.peerArg demo.wire).Reachable run

structure Reports (demo : Demo H) (report : RunReport) (run : Run H.quic) (outcome : Outcome) :
    Prop where
  runs : demo.Runs run
  returned : run.phase = .returned (.ok outcome)
  expected : demo.expected run = some outcome.peerId
  endpointId : ∀ id, demo.identity = some id → report.endpointId = H.hexEncode id.bytes
  peerId : report.peerId = H.hexEncode outcome.peerId.bytes

def Sound (config : RunConfig) (demo : Demo H) : Prop :=
  demo.config = config ∧
    match demo.stage with
    | .starting => demo.line = none
    | .connecting => demo.Configured ∧ demo.line = none
    | .dancing => demo.Configured ∧ demo.config.transport = .webrtc
    | .launching => demo.Configured ∧ demo.Wired
    | .running => demo.Configured ∧ demo.Wired ∧ ∃ run, demo.Runs run
    | .returned (.ok report) =>
        demo.Configured ∧ demo.Wired ∧ ∃ run outcome, demo.Reports report run outcome
    | .returned (.error _) => True

end Demo

private theorem danced_with {fuel : Nat} {half : Half} {pin : Option EndpointId}
    {conn : H.rtc.PeerConnection} {arrivals : List (Except String Datagram)}
    {answers : List (Except String Unit)} {channel : H.rtc.DataChannel} {line : Line H.rtc}
    (danced : Demo.connect fuel half (.begin pin conn arrivals answers) =
      .ok (.ok channel, line)) {peer : EndpointId} (known : line.peer = some peer) :
    Pinning.settled pin (tagged line.heard) = some peer ∧
    (∀ post ∈ line.sent, post.1 = peer) ∧
    line.records.flatMap PeerRecord.remotes =
      (H.rtc.signals (some peer) line.heard).flatMap told := by
  have exchanges : ∃ kind posts arrived records,
      (Line.begin pin conn arrivals answers).Exchanges line kind posts arrived records := by
    cases half with
    | client => exact ⟨.offer, connectOfferer_exchanges danced⟩
    | server => exact ⟨.answer, connectAnswerer_exchanges danced⟩
  rcases exchanges with ⟨kind, _, _, _, part⟩
  have whole := part.whole
  have settled : Pinning.settled pin (tagged line.heard) = some peer :=
    whole.grows.peer.symm.trans known
  rcases whole.posts with ⟨published, posted, _, _⟩
  rcases whole.hears with ⟨consumed, hears, _, tells⟩
  rw [known] at posted
  refine ⟨settled, posted.target, ?_⟩
  have pinned : H.rtc.signals (some peer) line.heard = H.rtc.signals pin line.heard := by
    rw [Rtc.signals, Rtc.signals, Pinning.taken, Pinning.taken, settled]
    rfl
  have heard : H.rtc.signals pin line.heard = consumed ++ [.done] := hears
  rw [pinned, heard, List.flatMap_append, tells]
  exact (List.append_nil _).symm

namespace Demo.Reports

variable {task : Demo H} {report : RunReport} {run : Run H.quic} {outcome : Outcome}

theorem given (reports : task.Reports report run outcome) (opened : task.Configured)
    {text : String} (given : task.config.peer = some text) :
    parseEndpointId H.hexDecode text = .ok outcome.peerId := by
  have peerArg := opened.peerArg
  rw [Demo.configured, given] at peerArg
  dsimp only at peerArg
  cases parsed : parseEndpointId H.hexDecode text with
  | error error =>
      rw [parsed] at peerArg
      cases peerArg
  | ok peer =>
      rw [parsed] at peerArg
      have known : task.peerArg = some peer := (Except.ok.inj peerArg).symm
      have expected := reports.expected
      rw [Demo.expected, known] at expected
      rw [← Option.some.inj expected]

theorem relayed (reports : task.Reports report run outcome) (line : task.line = none)
    (connected : run.connection.isSome = true) :
    run.traffic.handed = (run.traffic.arrived.filter fun datagram =>
      datagram.source = outcome.peerId).map Datagram.payload ∧
    ∀ entry ∈ run.traffic.sent, entry.1 = .ok (some outcome.peerId) := by
  have runs := reports.runs.2
  rw [Demo.wire, line] at runs
  have bound := spike_bound runs
  rcases Option.isSome_iff_exists.mp (bound.known connected) with ⟨peer, heard⟩
  have agreed : outcome.peerId = peer := by
    have expected := reports.expected
    rw [Demo.expected, line, bound.wire, tagged, List.map_append, Wire.peer] at expected
    rw [Run.heard, tagged] at heard
    rw [Pinning.settled_stays heard, Option.bind_none, Option.or_none,
      Pinning.or_settled heard] at expected
    exact (Option.some.inj expected).symm
  rw [agreed]
  refine ⟨bound.handed_from heard, ?_⟩
  intro entry member
  rcases bound.sent entry member with ⟨other, also, target⟩
  rw [heard] at also
  rw [target, Option.some.inj also]

theorem danced (reports : task.Reports report run outcome) {line : Line H.rtc}
    (made : task.line = some line) (known : line.peer.isSome = true) {fuel : Nat} {half : Half}
    {conn : H.rtc.PeerConnection} {arrivals : List (Except String Datagram)}
    {answers : List (Except String Unit)} {channel : H.rtc.DataChannel}
    (ran : Demo.connect fuel half (.begin task.peerArg conn arrivals answers) =
      .ok (.ok channel, line)) :
    (∀ post ∈ line.sent, post.1 = outcome.peerId) ∧
    line.records.flatMap PeerRecord.remotes =
      (H.rtc.signals (some outcome.peerId) line.heard).flatMap told := by
  rcases Option.isSome_iff_exists.mp known with ⟨peer, known⟩
  rcases danced_with ran known with ⟨settled, posts, told⟩
  have agreed : outcome.peerId = peer := by
    have expected := reports.expected
    rw [Demo.expected, made, Option.bind_some, known, Pinning.or_settled settled,
      Option.some_or] at expected
    exact (Option.some.inj expected).symm
  rw [agreed]
  exact ⟨posts, told⟩

end Demo.Reports

namespace Loopback

/-- What the `hex` of this host writes: two lower-case digits for each byte. -/
def encodeHex (bytes : Bytes) : String :=
  String.ofList (bytes.flatMap fun byte =>
    [Nat.digitChar (byte.toNat / 16), Nat.digitChar (byte.toNat % 16)])

-- either case is read
def hexValue? (digit : Char) : Option Nat :=
  (List.range 16).find? fun value => digit.toLower = Nat.digitChar value

def hexPairs : Nat → List Char → Except String Bytes
  | index, high :: low :: rest =>
      match hexValue? high, hexValue? low with
      | none, _ => .error s!"Invalid character {high.quote} at position {index}"
      | some _, none => .error s!"Invalid character {low.quote} at position {index + 1}"
      | some high, some low =>
          (hexPairs (index + 2) rest).map (UInt8.ofNat (16 * high + low) :: ·)
  | _, _ => .ok []

def decodeHex (text : String) : Except String Bytes :=
  if text.length % 2 = 1 then .error "Odd number of digits" else hexPairs 0 text.toList

def host : Host where
  quic := platform
  rtc := rtc
  hexEncode := encodeHex
  hexDecode := decodeHex

def open_ : RunConfig := ⟨"http://127.0.0.1:3340", .server, .relay, none, ""⟩

def visited : List (DemoInput host) :=
  .identified (.ok key) :: .connected (.ok ()) :: .launched ⟨.ok [], .ok []⟩ 0 ::
    List.map .ran (List.flatten [
      .start 9 :: relayed key [0] :: sends 1,
      [relayed stranger [4]],
      relayed key (2 :: asBytes "a") :: sends 1,
      relayed key (3 :: datagramFor "a") :: sends 3,
      [relayed key [4], .advance linger, .ticked 9, .received 9 (.relay (.error "closed")),
        .ticked 9]])

end Loopback

end IrohEndpoint.Spike
