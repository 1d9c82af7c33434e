import IrohEndpoint.RelayFraming

/-! # The relay handshake

`RelayConn::connect` opens the websocket and answers challenges until the server confirms:
each one is signed by the identity and answered with one `client-auth` frame. -/

namespace IrohEndpoint

namespace Tag

def serverChallenge : UInt64 := 0

def clientAuth : UInt8 := 1

def serverConfirmsAuth : UInt64 := 2

def serverDeniesAuth : UInt64 := 3

end Tag

def challengeDomain : String := "iroh-relay handshake v1 challenge signature"

/-- The websocket subprotocols this client offers, newest first. -/
def subprotocols : List String := ["iroh-relay-v2", "iroh-relay-v1"]

structure Signature where
  bytes : Bytes
  length_eq : bytes.length = 64
  deriving DecidableEq

def Signature.ofBytes? (bytes : Bytes) : Option Signature :=
  if equal : bytes.length = 64 then some ⟨bytes, equal⟩ else none

/-- The node identity: its public half, and what signing with the key handle answers. -/
structure Identity where
  endpointId : EndpointId
  sign : Bytes → Except String Bytes

/-- What the relay client calls: BLAKE3, the websocket and `postcard`. -/
structure RelayHost where
  deriveKey : String → Bytes → Bytes
  websocket : String → List String → Except String (List Arrival)
  postcardString : Bytes → Option String
  postcardClientAuth : EndpointId → Signature → Bytes

/-- How a call of `RelayConn::connect` stands. -/
inductive ConnectOutcome where
  | connected (receiver : RelayReceiver)
  | failed (detail : String)
  | waiting

/-- A call of `RelayConn::connect`, with the messages the identity was asked to sign and
the frames handed to the websocket. -/
structure RelayConnect where
  outcome : ConnectOutcome
  signed : List Bytes
  sent : List Bytes

namespace RelayHost

variable (host : RelayHost) (identity : Identity)

def encodeClientAuth (publicKey : EndpointId) (signature : Signature) : Bytes :=
  Tag.clientAuth :: host.postcardClientAuth publicKey signature

def decodeDenialReason (payload : Bytes) : String :=
  (host.postcardString payload).getD (fromUtf8Lossy payload)

def challengeMessage (challenge : Bytes) : Bytes := host.deriveKey challengeDomain challenge

def handshake (signed sent : List Bytes) : List Arrival → RelayConnect
  | [] => ⟨.waiting, signed, sent⟩
  | arrival :: arrivals =>
      match arrival.result with
      | .error detail => ⟨.failed s!"relay handshake: {detail}", signed, sent⟩
      | .ok (.string _) => handshake signed sent arrivals
      | .ok (.binary frame) =>
          match splitTag frame with
          | none => ⟨.failed "relay handshake: empty frame", signed, sent⟩
          | some (tag, payload) =>
              if tag = Tag.serverChallenge then
                if payload.length ≠ 16 then
                  ⟨.failed "relay handshake: malformed challenge", signed, sent⟩
                else
                  let message := host.challengeMessage payload
                  match identity.sign message with
                  | .error detail => ⟨.failed detail, signed ++ [message], sent⟩
                  | .ok bytes =>
                      match Signature.ofBytes? bytes with
                      | none => ⟨.failed "identity produced a non-64-byte signature",
                          signed ++ [message], sent⟩
                      | some signature =>
                          let auth := host.encodeClientAuth identity.endpointId signature
                          match arrival.send with
                          | .error detail => ⟨.failed s!"relay handshake: {detail}",
                              signed ++ [message], sent ++ [auth]⟩
                          | .ok () => handshake (signed ++ [message]) (sent ++ [auth]) arrivals
              else if tag = Tag.serverConfirmsAuth then
                ⟨.connected (.connected arrivals), signed, sent⟩
              else if tag = Tag.serverDeniesAuth then
                ⟨.failed s!"relay denied auth: {host.decodeDenialReason payload}", signed, sent⟩
              else
                ⟨.failed s!"relay handshake: unexpected frame type {tag.toNat}", signed, sent⟩

/-- Connect to the relay at `server` and run the authentication handshake. -/
def connect (server : String) : RelayConnect :=
  match relayUrl server with
  | .error detail => ⟨.failed detail, [], []⟩
  | .ok url =>
      match host.websocket url subprotocols with
      | .error detail => ⟨.failed s!"relay connect: {detail}", [], []⟩
      | .ok arrivals => host.handshake identity [] [] arrivals

end RelayHost

/-! ## What a websocket result is in the handshake -/

namespace Arrival

def isText (arrival : Arrival) : Prop := ∃ text, arrival.result = .ok (.string text)

def Challenges (arrival : Arrival) (challenge : Bytes) : Prop :=
  ∃ frame, arrival.result = .ok (.binary frame) ∧
    splitTag frame = some (Tag.serverChallenge, challenge) ∧ challenge.length = 16

def Confirms (arrival : Arrival) : Prop :=
  ∃ frame payload, arrival.result = .ok (.binary frame) ∧
    splitTag frame = some (Tag.serverConfirmsAuth, payload)

end Arrival

namespace RelayHost

variable (host : RelayHost) (identity : Identity)

/-- Signing the challenge yields the signature that the frame carries. -/
def Authenticates (challenge frame : Bytes) : Prop :=
  ∃ signature : Signature,
    identity.sign (host.challengeMessage challenge) = .ok signature.bytes ∧
    frame = host.encodeClientAuth identity.endpointId signature

/-- A stretch of the handshake in which every challenge is answered: the challenges, and
the frames that answer them. -/
inductive Greeted : List Arrival → List Bytes → List Bytes → Prop
  | nil : Greeted [] [] []
  | text {arrival arrivals challenges frames} (text : arrival.isText)
      (rest : Greeted arrivals challenges frames) :
      Greeted (arrival :: arrivals) challenges frames
  | challenge {arrival arrivals challenges frames challenge frame}
      (asked : arrival.Challenges challenge)
      (signed : host.Authenticates identity challenge frame) (sent : arrival.send = .ok ())
      (rest : Greeted arrivals challenges frames) :
      Greeted (arrival :: arrivals) (challenge :: challenges) (frame :: frames)

/-- A result that ends the handshake in failure, with the challenge it asked to sign and
the frame whose send failed. -/
inductive Deviates (arrival : Arrival) : List Bytes → List Bytes → Prop
  | other (speaks : ¬ arrival.isText) (unasked : ∀ challenge, ¬ arrival.Challenges challenge)
      (unconfirmed : ¬ arrival.Confirms) : Deviates arrival [] []
  | unsigned {challenge} (asked : arrival.Challenges challenge)
      (unsigned : ∀ frame, ¬ host.Authenticates identity challenge frame) :
      Deviates arrival [challenge] []
  | unsent {challenge frame detail} (asked : arrival.Challenges challenge)
      (signed : host.Authenticates identity challenge frame)
      (lost : arrival.send = .error detail) : Deviates arrival [challenge] [frame]

variable {host identity}

private theorem Signature.ofBytes?_bytes (signature : Signature) :
    Signature.ofBytes? signature.bytes = some signature := by
  rw [Signature.ofBytes?, dif_pos signature.length_eq]

private theorem handshake_text {arrival : Arrival} (text : arrival.isText)
    (signed sent : List Bytes)
    (arrivals : List Arrival) :
    host.handshake identity signed sent (arrival :: arrivals) =
      host.handshake identity signed sent arrivals := by
  rcases text with ⟨text, result⟩
  rw [handshake, result]

private theorem handshake_challenge {arrival : Arrival} {challenge frame : Bytes}
    (asked : arrival.Challenges challenge) (auth : host.Authenticates identity challenge frame)
    (succeeds : arrival.send = .ok ()) (signed sent : List Bytes) (arrivals : List Arrival) :
    host.handshake identity signed sent (arrival :: arrivals) =
      host.handshake identity (signed ++ [host.challengeMessage challenge]) (sent ++ [frame])
        arrivals := by
  rcases asked with ⟨message, result, parsed, length⟩
  rcases auth with ⟨signature, signs, rfl⟩
  rw [handshake, result]
  dsimp only
  rw [parsed]
  dsimp only
  rw [if_pos rfl, if_neg (by simp [length]), signs]
  dsimp only
  rw [Signature.ofBytes?_bytes, succeeds]

private theorem handshake_confirmed {arrival : Arrival} (confirms : arrival.Confirms)
    (signed sent : List Bytes) (arrivals : List Arrival) :
    host.handshake identity signed sent (arrival :: arrivals) =
      ⟨.connected (.connected arrivals), signed, sent⟩ := by
  rcases confirms with ⟨frame, payload, result, parsed⟩
  rw [handshake, result]
  dsimp only
  rw [parsed]
  dsimp only
  rw [if_neg (by decide), if_pos rfl]

private theorem handshake_greeted {read : List Arrival} {challenges frames : List Bytes}
    (greeted : host.Greeted identity read challenges frames) (signed sent : List Bytes)
    (arrivals : List Arrival) :
    host.handshake identity signed sent (read ++ arrivals) =
      host.handshake identity (signed ++ challenges.map host.challengeMessage)
        (sent ++ frames) arrivals := by
  induction greeted generalizing signed sent with
  | nil => simp
  | text text rest induction =>
      rw [List.cons_append, handshake_text text, induction]
  | challenge asked auth succeeds rest induction =>
      rw [List.cons_append, handshake_challenge asked auth succeeds, induction]
      simp

private theorem handshake_deviates {arrival : Arrival} {challenges frames : List Bytes}
    (deviates : host.Deviates identity arrival challenges frames) (signed sent : List Bytes)
    (arrivals : List Arrival) :
    ∃ detail, host.handshake identity signed sent (arrival :: arrivals) =
      ⟨.failed detail, signed ++ challenges.map host.challengeMessage, sent ++ frames⟩ := by
  cases deviates with
  | other speaks unasked unconfirmed =>
      simp only [List.map_nil, List.append_nil]
      rw [handshake]
      cases result : arrival.result with
      | error detail => exact ⟨_, rfl⟩
      | ok message =>
          cases message with
          | string text => exact absurd ⟨text, result⟩ speaks
          | binary frame =>
              dsimp only
              cases parsed : splitTag frame with
              | none => exact ⟨_, rfl⟩
              | some split_ =>
                  rcases split_ with ⟨tag, payload⟩
                  dsimp only
                  by_cases challenge : tag = Tag.serverChallenge
                  · subst challenge
                    have malformed : payload.length ≠ 16 :=
                      fun length => unasked payload ⟨frame, result, parsed, length⟩
                    rw [if_pos rfl, if_pos malformed]
                    exact ⟨_, rfl⟩
                  · have denied : tag ≠ Tag.serverConfirmsAuth := by
                      rintro rfl
                      exact unconfirmed ⟨frame, payload, result, parsed⟩
                    rw [if_neg challenge, if_neg denied]
                    split
                    · exact ⟨_, rfl⟩
                    · exact ⟨_, rfl⟩
  | unsigned asked unsigned =>
      rcases asked with ⟨message, result, parsed, length⟩
      rw [handshake, result]
      dsimp only
      rw [parsed]
      dsimp only
      rw [if_pos rfl, if_neg (by simp [length]), List.append_nil]
      split
      · exact ⟨_, rfl⟩
      · rename_i bytes signs
        rw [Signature.ofBytes?]
        split
        · exact ⟨_, rfl⟩
        · rename_i signature accepted
          split at accepted
          · rename_i equal
            exact absurd ⟨⟨bytes, equal⟩, signs, rfl⟩ (unsigned _)
          · cases accepted
  | unsent asked auth lost =>
      rcases asked with ⟨message, result, parsed, length⟩
      rcases auth with ⟨signature, signs, rfl⟩
      rw [handshake, result]
      dsimp only
      rw [parsed]
      dsimp only
      rw [if_pos rfl, if_neg (by simp [length]), signs]
      dsimp only
      rw [Signature.ofBytes?_bytes, lost]
      exact ⟨_, rfl⟩

private theorem arrival_cases (host : RelayHost) (identity : Identity) (arrival : Arrival) :
    arrival.isText ∨
    (∃ challenge frame, arrival.Challenges challenge ∧
      host.Authenticates identity challenge frame ∧ arrival.send = .ok ()) ∨
    arrival.Confirms ∨
    ∃ challenges frames, host.Deviates identity arrival challenges frames := by
  by_cases text : arrival.isText
  · exact .inl text
  · by_cases asked : ∃ challenge, arrival.Challenges challenge
    · rcases asked with ⟨challenge, asked⟩
      by_cases auth : ∃ frame, host.Authenticates identity challenge frame
      · rcases auth with ⟨frame, auth⟩
        cases sent : arrival.send with
        | ok _ => exact .inr (.inl ⟨challenge, frame, asked, auth, rfl⟩)
        | error detail => exact .inr (.inr (.inr ⟨_, _, .unsent asked auth sent⟩))
      · exact .inr (.inr (.inr ⟨_, _, .unsigned asked (not_exists.1 auth)⟩))
    · by_cases confirms : arrival.Confirms
      · exact .inr (.inr (.inl confirms))
      · exact .inr (.inr (.inr ⟨_, _, .other text (not_exists.1 asked) confirms⟩))

/-- A handshake answers a stretch of challenges, and then it still waits, was confirmed, or
met its first deviation. -/
private theorem greeted_cases (host : RelayHost) (identity : Identity) (arrivals : List Arrival) :
    ∃ read challenges frames, host.Greeted identity read challenges frames ∧
      (arrivals = read ∨
        (∃ confirmation unread, arrivals = read ++ confirmation :: unread ∧
          confirmation.Confirms) ∨
        ∃ deviation unread asked attempted, arrivals = read ++ deviation :: unread ∧
          host.Deviates identity deviation asked attempted) := by
  induction arrivals with
  | nil => exact ⟨[], [], [], .nil, .inl rfl⟩
  | cons arrival arrivals induction =>
      rcases induction with ⟨read, challenges, frames, greeted, ending⟩
      -- The stretch goes on over this result, with the ending the rest has.
      have further : ∀ {challenges frames : List Bytes},
          host.Greeted identity (arrival :: read) challenges frames →
          ∃ read challenges frames, host.Greeted identity read challenges frames ∧
            (arrival :: arrivals = read ∨
              (∃ confirmation unread, arrival :: arrivals = read ++ confirmation :: unread ∧
                confirmation.Confirms) ∨
              ∃ deviation unread asked attempted,
                arrival :: arrivals = read ++ deviation :: unread ∧
                host.Deviates identity deviation asked attempted) := by
        intro challenges frames greeted
        refine ⟨arrival :: read, challenges, frames, greeted, ?_⟩
        rcases ending with rfl | ⟨confirmation, unread, rfl, confirms⟩ |
          ⟨deviation, unread, asked, attempted, rfl, deviates⟩
        · exact .inl rfl
        · exact .inr (.inl ⟨confirmation, unread, rfl, confirms⟩)
        · exact .inr (.inr ⟨deviation, unread, asked, attempted, rfl, deviates⟩)
      rcases arrival_cases host identity arrival with text | ⟨challenge, frame, asked, auth, sent⟩ |
        confirms | ⟨asked, attempted, deviates⟩
      · exact further (.text text greeted)
      · exact further (.challenge asked auth sent greeted)
      · exact ⟨[], [], [], .nil, .inr (.inl ⟨arrival, arrivals, rfl, confirms⟩)⟩
      · exact ⟨[], [], [], .nil, .inr (.inr ⟨arrival, arrivals, asked, attempted, rfl, deviates⟩)⟩

theorem Greeted.authenticates {read : List Arrival} {challenges frames : List Bytes}
    (greeted : host.Greeted identity read challenges frames) :
    List.Forall₂ (host.Authenticates identity) challenges frames := by
  induction greeted with
  | nil => exact .nil
  | text _ _ induction => exact induction
  | challenge _ auth _ _ induction => exact .cons auth induction

end RelayHost

/-! ## The handshake's trace -/

open RelayHost in
/-- Over any results of the websocket, the call returns a connection exactly when an
answered stretch of challenges is followed by the server's confirmation: it has then signed
the challenges' messages and sent one `client-auth` frame for each, and reads nothing after
the confirmation. At the first deviation it fails, and beyond the challenge that failed to
be signed or sent it signs and sends nothing further. -/
theorem relay_handshake_trace (host : RelayHost) (identity : Identity) {server url : String}
    {arrivals : List Arrival} (accepted : relayUrl server = .ok url)
    (opened : host.websocket url subprotocols = .ok arrivals) :
    ((∃ receiver, (host.connect identity server).outcome = .connected receiver) ↔
      ∃ read challenges frames confirmation unread,
        host.Greeted identity read challenges frames ∧ confirmation.Confirms ∧
        arrivals = read ++ confirmation :: unread) ∧
    (∀ read challenges frames confirmation unread,
      host.Greeted identity read challenges frames → confirmation.Confirms →
      arrivals = read ++ confirmation :: unread →
        host.connect identity server = ⟨.connected (.connected unread),
          challenges.map host.challengeMessage, frames⟩ ∧
        List.Forall₂ (host.Authenticates identity) challenges frames) ∧
    (∀ read challenges frames deviation unread asked attempted,
      host.Greeted identity read challenges frames →
      host.Deviates identity deviation asked attempted →
      arrivals = read ++ deviation :: unread →
        ∃ detail, host.connect identity server = ⟨.failed detail,
          (challenges ++ asked).map host.challengeMessage, frames ++ attempted⟩) ∧
    ((∀ receiver, (host.connect identity server).outcome ≠ .connected receiver) →
      (∃ challenges frames, host.Greeted identity arrivals challenges frames) ∨
      ∃ read challenges frames deviation unread asked attempted,
        host.Greeted identity read challenges frames ∧
        host.Deviates identity deviation asked attempted ∧
        arrivals = read ++ deviation :: unread) := by
  have call : host.connect identity server = host.handshake identity [] [] arrivals := by
    rw [connect, accepted]
    dsimp only
    rw [opened]
  have confirmed : ∀ read challenges frames confirmation unread,
      host.Greeted identity read challenges frames → confirmation.Confirms →
      arrivals = read ++ confirmation :: unread →
        host.connect identity server = ⟨.connected (.connected unread),
          challenges.map host.challengeMessage, frames⟩ := by
    intro read challenges frames confirmation unread greeted confirms split_
    rw [call, split_, handshake_greeted greeted, handshake_confirmed confirms, List.nil_append,
      List.nil_append]
  have failed : ∀ read challenges frames deviation unread asked attempted,
      host.Greeted identity read challenges frames →
      host.Deviates identity deviation asked attempted →
      arrivals = read ++ deviation :: unread →
        ∃ detail, host.connect identity server = ⟨.failed detail,
          (challenges ++ asked).map host.challengeMessage, frames ++ attempted⟩ := by
    intro read challenges frames deviation unread asked attempted greeted deviates split_
    rw [call, split_, handshake_greeted greeted, List.nil_append, List.nil_append,
      List.map_append]
    exact handshake_deviates deviates _ _ unread
  rcases greeted_cases host identity arrivals with ⟨read, challenges, frames, greeted, ending⟩
  refine ⟨⟨?_, ?_⟩, ?_, failed, ?_⟩
  · rintro ⟨receiver, connected⟩
    rcases ending with whole | ⟨confirmation, unread, split_, confirms⟩ |
      ⟨deviation, unread, asked, attempted, split_, deviates⟩
    · rw [call, whole, ← List.append_nil read, handshake_greeted greeted, handshake] at connected
      cases connected
    · exact ⟨read, challenges, frames, confirmation, unread, greeted, confirms, split_⟩
    · rcases failed read challenges frames deviation unread asked attempted greeted deviates
        split_ with ⟨detail, fails⟩
      rw [fails] at connected
      cases connected
  · rintro ⟨read, challenges, frames, confirmation, unread, greeted, confirms, split_⟩
    rw [confirmed read challenges frames confirmation unread greeted confirms split_]
    exact ⟨_, rfl⟩
  · intro read challenges frames confirmation unread greeted confirms split_
    exact ⟨confirmed read challenges frames confirmation unread greeted confirms split_,
      greeted.authenticates⟩
  · intro unconnected
    rcases ending with whole | ⟨confirmation, unread, split_, confirms⟩ |
      ⟨deviation, unread, asked, attempted, split_, deviates⟩
    · rw [whole]
      exact .inl ⟨challenges, frames, greeted⟩
    · have connected := confirmed read challenges frames confirmation unread greeted confirms split_
      exact absurd (congrArg RelayConnect.outcome connected) (unconnected _)
    · exact .inr ⟨read, challenges, frames, deviation, unread, asked, attempted, greeted, deviates,
        split_⟩

/-- A server that greets in text, challenges once, confirms, and goes on to speak. -/
def greetingHost : RelayHost where
  deriveKey := fun _ challenge => challenge ++ challenge
  websocket := fun _ _ => .ok [.message (.string "hello"),
    .message (.binary (0 :: List.replicate 16 1)), .message (.binary [2]),
    .message (.binary [13])]
  postcardString := fun _ => none
  postcardClientAuth := fun publicKey signature => publicKey.bytes ++ 64 :: signature.bytes

def sevens : Identity := ⟨⟨List.replicate 32 42, rfl⟩, fun _ => .ok (List.replicate 64 7)⟩

open RelayHost in
theorem relay_handshake_trace_greeting :
    greetingHost.connect sevens "https://relay.example" =
      ⟨.connected (.connected [.message (.binary [13])]), [List.replicate 32 1],
        [1 :: (List.replicate 32 42 ++ 64 :: List.replicate 64 7)]⟩ := by
  have trace := @relay_handshake_trace greetingHost sevens "https://relay.example"
    "wss://relay.example/relay" _ (by decide) rfl
  have greeted : greetingHost.Greeted sevens
      [.message (.string "hello"), .message (.binary (0 :: List.replicate 16 1))]
      [List.replicate 16 1]
      [greetingHost.encodeClientAuth sevens.endpointId ⟨List.replicate 64 7, rfl⟩] :=
    .text ⟨"hello", rfl⟩
      (.challenge ⟨_, rfl, by decide, rfl⟩ ⟨⟨List.replicate 64 7, rfl⟩, rfl, rfl⟩ rfl .nil)
  exact (trace.2.1 _ _ _ (.message (.binary [2])) [.message (.binary [13])] greeted
    ⟨[2], [], rfl, by decide⟩ rfl).1

end IrohEndpoint
