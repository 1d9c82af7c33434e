import IrohEndpoint.RelayFrames

/-! # Relay framing

The datagram layouts: an endpoint id, an ECN byte, in a batch a big-endian segment size,
the contents. Decoding accepts exactly what is long enough, indexes nothing out of range,
and gives back what a relay framed. -/

namespace IrohEndpoint

/-! ## Chunks -/

/-- Consecutive pieces of `size` bytes, of which only the last may be shorter. -/
structure Segments (size : Nat) (pieces : List Bytes) : Prop where
  filled : ∀ piece ∈ pieces, piece ≠ []
  bounded : ∀ piece ∈ pieces, piece.length ≤ size
  full : ∀ piece ∈ pieces.dropLast, piece.length = size

private theorem chunks_nil {size : Nat} (positive : 0 < size) : chunks size [] = [] := by
  have none_ : (0 + size - 1) / size = 0 := Nat.div_eq_of_lt (by omega)
  rw [chunks, List.length_nil, none_]
  rfl

private theorem chunks_eq_cons {size : Nat} {bytes : Bytes} (positive : 0 < size)
    (some_ : bytes ≠ []) :
    chunks size bytes = bytes.take size :: chunks size (bytes.drop size) := by
  have nonempty : 0 < bytes.length := List.length_pos_iff.2 some_
  have count : (bytes.length + size - 1) / size =
      ((bytes.drop size).length + size - 1) / size + 1 := by
    rw [List.length_drop]
    by_cases short : bytes.length ≤ size
    · have none_ : (bytes.length - size + size - 1) / size = 0 :=
        Nat.div_eq_of_lt (by omega)
      have one : bytes.length + size - 1 = bytes.length - 1 + size := by omega
      rw [none_, one, Nat.add_div_right _ positive, Nat.div_eq_of_lt (by omega)]
    · have more : bytes.length + size - 1 = bytes.length - size + size - 1 + size := by omega
      rw [more, Nat.add_div_right _ positive]
  rw [chunks, count, List.range_succ_eq_map, List.map_cons, List.map_map]
  congr 1
  · rw [Nat.zero_mul, List.drop_zero]
  · apply List.map_congr_left
    intro index _
    rw [List.drop_drop, Function.comp_apply, Nat.succ_mul, Nat.add_comm size]

private theorem chunks_flatten {size : Nat} (positive : 0 < size) (bytes : Bytes) :
    (chunks size bytes).flatten = bytes := by
  induction length : bytes.length using Nat.strongRecOn generalizing bytes with
  | ind count induction =>
      by_cases some_ : bytes = []
      · rw [some_, chunks_nil positive]
        rfl
      · have nonempty : 0 < bytes.length := List.length_pos_iff.2 some_
        have rest := induction (bytes.drop size).length
          (by rw [List.length_drop]; omega) (bytes.drop size) rfl
        rw [chunks_eq_cons positive some_, List.flatten_cons, rest, List.take_append_drop]

private theorem chunks_segments {size : Nat} (positive : 0 < size) (bytes : Bytes) :
    Segments size (chunks size bytes) := by
  induction length : bytes.length using Nat.strongRecOn generalizing bytes with
  | ind count induction =>
      by_cases some_ : bytes = []
      · rw [some_, chunks_nil positive]
        exact ⟨by simp, by simp, by simp⟩
      · have nonempty : 0 < bytes.length := List.length_pos_iff.2 some_
        have rest := induction (bytes.drop size).length
          (by rw [List.length_drop]; omega) (bytes.drop size) rfl
        rw [chunks_eq_cons positive some_]
        have first : bytes.take size ≠ [] := by
          rw [← List.length_pos_iff, List.length_take]
          omega
        refine ⟨?_, ?_, ?_⟩
        · intro piece member
          rcases List.mem_cons.1 member with rfl | member
          · exact first
          · exact rest.filled piece member
        · intro piece member
          rcases List.mem_cons.1 member with rfl | member
          · rw [List.length_take]
            omega
          · exact rest.bounded piece member
        · intro piece member
          -- The first piece is full unless it is the last, when nothing is left to drop.
          by_cases last : chunks size (bytes.drop size) = []
          · rw [last] at member
            simp at member
          · rw [List.dropLast_cons_of_ne_nil last] at member
            rcases List.mem_cons.1 member with rfl | member
            · have left : bytes.drop size ≠ [] := by
                intro none_
                rw [none_, chunks_nil positive] at last
                exact last rfl
              rw [← List.length_pos_iff, List.length_drop] at left
              rw [List.length_take]
              omega
            · exact rest.full piece member

private theorem Segments.chunks_flatten {size : Nat} (positive : 0 < size) {pieces : List Bytes}
    (segments : Segments size pieces) : chunks size pieces.flatten = pieces := by
  induction pieces with
  | nil => exact chunks_nil positive
  | cons piece pieces induction =>
      have filled : piece ≠ [] := segments.filled piece List.mem_cons_self
      have bounded : piece.length ≤ size := segments.bounded piece List.mem_cons_self
      rw [List.flatten_cons]
      by_cases last : pieces = []
      · subst last
        rw [List.flatten_nil, List.append_nil, chunks_eq_cons positive filled,
          List.take_of_length_le bounded, List.drop_of_length_le bounded,
          chunks_nil positive]
      · have full : piece.length = size := by
          apply segments.full
          rw [List.dropLast_cons_of_ne_nil last]
          exact List.mem_cons_self
        have rest : Segments size pieces := by
          refine ⟨fun other member => segments.filled other (List.mem_cons_of_mem _ member),
            fun other member => segments.bounded other (List.mem_cons_of_mem _ member), ?_⟩
          intro other member
          apply segments.full
          rw [List.dropLast_cons_of_ne_nil last]
          exact List.mem_cons_of_mem _ member
        rw [chunks_eq_cons positive (by simp [filled]), List.take_left' full,
          List.drop_left' full, induction rest]

/-! ## Indexing -/

inductive Panic where
  | outOfRange
  | zeroChunk
  deriving DecidableEq

/-- `bytes.get(from..to)`. -/
def getSlice (start stop : Nat) (bytes : Bytes) : Option Bytes :=
  if start ≤ stop ∧ stop ≤ bytes.length then some ((bytes.take stop).drop start) else none

/-- `bytes.get(from..)`. -/
def getFrom (start : Nat) (bytes : Bytes) : Option Bytes :=
  if start ≤ bytes.length then some (bytes.drop start) else none

/-- `&bytes[from..]`. -/
def sliceFrom (start : Nat) (bytes : Bytes) : Except Panic Bytes :=
  if start ≤ bytes.length then .ok (bytes.drop start) else .error .outOfRange

/-- `u16::from_be_bytes` of a slice of two bytes. -/
def bigEndian : Bytes → Option Nat
  | [high, low] => some (high.toNat * 256 + low.toNat)
  | _ => none

/-- `decode_relay_datagrams` with each of its slice operations as one that may panic. -/
def decodeSliced (payload : Bytes) (batch : Bool) : Except Panic (Option (List Datagram)) :=
  match (getSlice 0 32 payload).bind EndpointId.ofBytes? with
  | none => .ok none
  | some source => do
      let rest ← sliceFrom 32 payload
      if batch then
        match (getSlice 1 3 rest).bind bigEndian with
        | none => return none
        | some segmentSize =>
            if segmentSize = 0 then return none
            else
              let contents ← sliceFrom 3 rest
              let pieces ← if segmentSize = 0 then Except.error Panic.zeroChunk
                else Except.ok (chunks segmentSize contents)
              return some (pieces.map fun chunk => ⟨source, chunk⟩)
      else
        match getFrom 1 rest with
        | none => return none
        | some contents => return some [⟨source, contents⟩]

private theorem ofBytes?_take (payload : Bytes) :
    (payload.length < 32 ∧ EndpointId.ofBytes? (payload.take 32) = none) ∨
    ∃ (source : EndpointId) (rest : Bytes), payload = source.bytes ++ rest ∧
      source.bytes = payload.take 32 ∧ rest = payload.drop 32 ∧
      EndpointId.ofBytes? (payload.take 32) = some source := by
  by_cases short : payload.length < 32
  · left
    refine ⟨short, ?_⟩
    rw [EndpointId.ofBytes?, dif_neg]
    rw [List.length_take]
    omega
  · right
    have length : (payload.take 32).length = 32 := by
      rw [List.length_take]
      omega
    refine ⟨⟨payload.take 32, length⟩, payload.drop 32,
      (List.take_append_drop 32 payload).symm, rfl, rfl, ?_⟩
    rw [EndpointId.ofBytes?, dif_pos length]

private theorem decodeSliced_eq (payload : Bytes) (batch : Bool) :
    decodeSliced payload batch = .ok (decodeRelayDatagrams payload batch) := by
  rcases ofBytes?_take payload with ⟨short, unread⟩ | ⟨source, rest, split_, front, rear, read⟩
  · have absent : getSlice 0 32 payload = none := by
      rw [getSlice, if_neg]
      omega
    rw [decodeSliced, decodeRelayDatagrams, unread, absent]
    rfl
  · have long : 32 ≤ payload.length := by
      rw [split_, List.length_append, source.length_eq]
      omega
    have present : (getSlice 0 32 payload).bind EndpointId.ofBytes? = some source := by
      rw [getSlice, if_pos ⟨by omega, long⟩, List.drop_zero]
      exact read
    have remaining : sliceFrom 32 payload = .ok rest := by
      rw [sliceFrom, if_pos long, rear]
    rw [decodeSliced, decodeRelayDatagrams, read, present, remaining, ← rear]
    dsimp only
    cases batch with
    | false =>
        cases rest with
        | nil => rfl
        | cons ecn contents => simp [getFrom, bind, Except.bind, pure, Except.pure]
    | true =>
        rcases rest with _ | ⟨ecn, _ | ⟨high, _ | ⟨low, contents⟩⟩⟩
        · rfl
        · rfl
        · rfl
        · simp only [getSlice, bigEndian, sliceFrom, bind, Except.bind, pure, Except.pure]
          generalize read_ : high.toNat * 256 + low.toNat = size
          by_cases zero : size = 0
          · simp [bigEndian, read_, zero]
          · simp [bigEndian, read_, zero]

/-! ## Decoding -/

def segmentSize (payload : Bytes) : Nat :=
  (payload.getD 33 0).toNat * 256 + (payload.getD 34 0).toNat

private theorem decode_single (payload : Bytes) :
    (payload.length < 33 ∧ decodeRelayDatagrams payload false = none) ∨
    ∃ source : EndpointId, 33 ≤ payload.length ∧ source.bytes = payload.take 32 ∧
      decodeRelayDatagrams payload false = some [⟨source, payload.drop 33⟩] := by
  rcases ofBytes?_take payload with ⟨short, unread⟩ | ⟨source, rest, split_, front, rear, read⟩
  · left
    rw [decodeRelayDatagrams, unread]
    exact ⟨by omega, rfl⟩
  · have length : payload.length = 32 + rest.length := by
      rw [split_, List.length_append, source.length_eq]
    rw [decodeRelayDatagrams, read, ← rear]
    cases rest with
    | nil => exact .inl ⟨by simp [length], rfl⟩
    | cons ecn contents =>
        refine .inr ⟨source, by simp [length]; omega, front, ?_⟩
        have left : payload.drop 33 = contents := by
          rw [← List.drop_drop (i := 1) (j := 32), ← rear]
          rfl
        rw [left]

private theorem decode_batch (payload : Bytes) :
    (¬ (35 ≤ payload.length ∧ segmentSize payload ≠ 0) ∧
      decodeRelayDatagrams payload true = none) ∨
    ∃ source : EndpointId, 35 ≤ payload.length ∧ segmentSize payload ≠ 0 ∧
      source.bytes = payload.take 32 ∧
      decodeRelayDatagrams payload true = some
        ((chunks (segmentSize payload) (payload.drop 35)).map fun chunk => ⟨source, chunk⟩) := by
  rcases ofBytes?_take payload with ⟨short, unread⟩ | ⟨source, rest, split_, front, rear, read⟩
  · left
    rw [decodeRelayDatagrams, unread]
    exact ⟨by omega, rfl⟩
  · have length : payload.length = 32 + rest.length := by
      rw [split_, List.length_append, source.length_eq]
    rw [decodeRelayDatagrams, read, ← rear]
    rcases rest with _ | ⟨ecn, _ | ⟨high, _ | ⟨low, contents⟩⟩⟩
    · exact .inl ⟨by simp [length], rfl⟩
    · exact .inl ⟨by simp [length], rfl⟩
    · exact .inl ⟨by simp [length], rfl⟩
    · have left : payload.drop 35 = contents := by
        rw [← List.drop_drop (i := 3) (j := 32), ← rear]
        rfl
      have size : segmentSize payload = high.toNat * 256 + low.toNat := by
        have first : payload.getD 33 0 = high := by
          rw [split_, List.getD_eq_getElem?_getD,
            List.getElem?_append_right (by simp [source.length_eq]), source.length_eq]
          rfl
        have second : payload.getD 34 0 = low := by
          rw [split_, List.getD_eq_getElem?_getD,
            List.getElem?_append_right (by simp [source.length_eq]), source.length_eq]
          rfl
        rw [segmentSize, first, second]
      dsimp only
      rw [← size, left]
      by_cases zero : segmentSize payload = 0
      · rw [if_pos zero]
        exact .inl ⟨fun accepted => accepted.2 zero, rfl⟩
      · rw [if_neg zero]
        exact .inr ⟨source, by simp [length]; omega, zero, front, rfl⟩

/-! ## What a relay frames -/

def frameBatch (source : EndpointId) (ecn : UInt8) (size : UInt16) (payloads : List Bytes) :
    Bytes :=
  source.bytes ++ ecn :: (size >>> 8).toUInt8 :: size.toUInt8 :: payloads.flatten

namespace Tag

def clientToRelayDatagram : UInt8 := 4

end Tag

/-- Encode a `client-to-relay-datagram` frame (single datagram, ECN 0). -/
def encodeClientDatagram (destination : EndpointId) (payload : Bytes) : Bytes :=
  Tag.clientToRelayDatagram :: (destination.bytes ++ 0 :: payload)

private theorem bigEndian_split (size : UInt16) :
    (size >>> 8).toUInt8.toNat * 256 + size.toUInt8.toNat = size.toNat := by
  have bound := size.toNat_lt
  simp only [UInt16.toNat_toUInt8, UInt16.toNat_shiftRight]
  rw [show UInt16.toNat 8 % 16 = 8 from rfl, Nat.shiftRight_eq_div_pow]
  omega

private theorem ofBytes?_front (source : EndpointId) (rest : Bytes) :
    EndpointId.ofBytes? ((source.bytes ++ rest).take 32) = some source := by
  rw [List.take_left' source.length_eq, EndpointId.ofBytes?, dif_pos source.length_eq]

private theorem decode_frameBatch (source : EndpointId) (ecn : UInt8) {size : UInt16}
    (positive : size ≠ 0) {payloads : List Bytes} (segments : Segments size.toNat payloads) :
    decodeRelayDatagrams (frameBatch source ecn size payloads) true =
      some (payloads.map fun payload => ⟨source, payload⟩) := by
  have nonzero : size.toNat ≠ 0 := by
    intro zero
    exact positive (UInt16.toNat_inj.1 zero)
  rw [frameBatch, decodeRelayDatagrams, ofBytes?_front, List.drop_left' source.length_eq]
  dsimp only
  rw [bigEndian_split, if_neg nonzero, segments.chunks_flatten (Nat.pos_of_ne_zero nonzero)]

private theorem splitTag_encodeClientDatagram (destination : EndpointId) (payload : Bytes) :
    splitTag (encodeClientDatagram destination payload) =
      some (4, destination.bytes ++ 0 :: payload) := by
  have value : (Tag.clientToRelayDatagram &&& 0x3f).toUInt64 = 4 := by decide
  have length : 1 <<< (Tag.clientToRelayDatagram >>> 6).toNat = 1 := by decide
  simp only [splitTag, encodeClientDatagram, List.head?_cons, value, length]
  simp

private theorem decode_encodeClientDatagram (destination : EndpointId) (payload : Bytes) :
    decodeRelayDatagrams (destination.bytes ++ 0 :: payload) false =
      some [⟨destination, payload⟩] := by
  rw [decodeRelayDatagrams, ofBytes?_front, List.drop_left' destination.length_eq]

/-- Decoding accepts a single payload of at least 33 bytes and a batch of at least 35
with a nonzero segment size, indexes nothing out of range, cuts a batch's contents into
segments, and inverts the framing of a relay and of this client. -/
theorem decode_inverts_framing :
    (∀ (payload : Bytes) (batch : Bool),
      decodeSliced payload batch = .ok (decodeRelayDatagrams payload batch)) ∧
    (∀ payload : Bytes,
      ((decodeRelayDatagrams payload false).isSome ↔ 33 ≤ payload.length) ∧
      ∀ datagrams, decodeRelayDatagrams payload false = some datagrams →
        ∃ source : EndpointId, source.bytes = payload.take 32 ∧
          datagrams = [⟨source, payload.drop 33⟩]) ∧
    (∀ payload : Bytes,
      ((decodeRelayDatagrams payload true).isSome ↔
        35 ≤ payload.length ∧ segmentSize payload ≠ 0) ∧
      ∀ datagrams, decodeRelayDatagrams payload true = some datagrams →
        (∀ datagram ∈ datagrams, datagram.source.bytes = payload.take 32) ∧
        (datagrams.map Datagram.payload).flatten = payload.drop 35 ∧
        Segments (segmentSize payload) (datagrams.map Datagram.payload)) ∧
    (∀ (source : EndpointId) (ecn : UInt8) (size : UInt16) (payloads : List Bytes),
      size ≠ 0 → Segments size.toNat payloads →
        decodeRelayDatagrams (frameBatch source ecn size payloads) true =
          some (payloads.map fun payload => ⟨source, payload⟩)) ∧
    ∀ (destination : EndpointId) (payload : Bytes), ∃ rest,
      splitTag (encodeClientDatagram destination payload) = some (4, rest) ∧
      decodeRelayDatagrams rest false = some [⟨destination, payload⟩] := by
  refine ⟨decodeSliced_eq, ?_, ?_, ?_, ?_⟩
  · intro payload
    rcases decode_single payload with ⟨short, rejected⟩ | ⟨source, long, front, accepted⟩
    · rw [rejected]
      exact ⟨by simpa using short, by simp⟩
    · rw [accepted]
      refine ⟨by simpa using long, ?_⟩
      rintro datagrams ⟨⟩
      exact ⟨source, front, rfl⟩
  · intro payload
    rcases decode_batch payload with
      ⟨malformed, rejected⟩ | ⟨source, long, nonzero, front, accepted⟩
    · rw [rejected]
      exact ⟨by simpa using malformed, by simp⟩
    · have positive := Nat.pos_of_ne_zero nonzero
      rw [accepted]
      refine ⟨by simpa using ⟨long, nonzero⟩, ?_⟩
      rintro datagrams ⟨⟩
      have contents : ((chunks (segmentSize payload) (payload.drop 35)).map
          fun chunk => (⟨source, chunk⟩ : Datagram)).map Datagram.payload =
            chunks (segmentSize payload) (payload.drop 35) := by
        rw [List.map_map]
        exact List.map_id _
      rw [contents]
      refine ⟨?_, chunks_flatten positive _, chunks_segments positive _⟩
      intro datagram member
      rcases List.mem_map.1 member with ⟨chunk, _, rfl⟩
      exact front
  · intro source ecn size payloads positive segments
    exact decode_frameBatch source ecn positive segments
  · intro destination payload
    exact ⟨_, splitTag_encodeClientDatagram destination payload,
      decode_encodeClientDatagram destination payload⟩

/-- A batch of two segments, the last one short. -/
theorem decode_inverts_framing_batch :
    decodeRelayDatagrams
        (frameBatch ⟨List.replicate 32 42, rfl⟩ 3 6 [[72, 101, 108, 108, 111, 32], [33]]) true =
      some [⟨⟨List.replicate 32 42, rfl⟩, [72, 101, 108, 108, 111, 32]⟩,
        ⟨⟨List.replicate 32 42, rfl⟩, [33]⟩] :=
  decode_inverts_framing.2.2.2.1 ⟨List.replicate 32 42, rfl⟩ 3 6
    [[72, 101, 108, 108, 111, 32], [33]] (by decide) ⟨by decide, by decide, by decide⟩

end IrohEndpoint
