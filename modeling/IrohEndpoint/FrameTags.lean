import IrohEndpoint.Foundation.Varint
import IrohEndpoint.RelayFrames

/-! # Frame tags

The type of a relay frame is a QUIC varint. `split_tag` reads every encoding of a value,
minimal or not, and refuses nothing but a frame that ends inside its tag. -/

namespace IrohEndpoint

/-! ## The length a first byte announces -/

/-- The form of the varint that starts with `first`. -/
def tagForm (first : UInt8) : Fin 4 :=
  ⟨first.toNat / 64, by have bound := first.toNat_lt; omega⟩

private theorem tagLength_eq (first : UInt8) :
    1 <<< (first >>> 6).toNat = 2 ^ (tagForm first).val := by
  have shifted : (first >>> 6).toNat = first.toNat / 64 := by
    rw [UInt8.toNat_shiftRight, Nat.shiftRight_eq_div_pow]
    rfl
  rw [shifted, Nat.one_shiftLeft]
  rfl

private theorem tagStart_eq (first : UInt8) :
    (first &&& 0x3f).toUInt64.toNat = first.toNat % 64 := by
  have mask : (0x3f : UInt8).toNat = 2 ^ 6 - 1 := rfl
  rw [UInt8.toNat_toUInt64, UInt8.toNat_and, mask, Nat.and_two_pow_sub_one_eq_mod]

/-! ## Splitting -/

private theorem splitTag_nil : splitTag [] = none := rfl

private theorem splitTag_short {first : UInt8} {rest : Bytes}
    (short : (first :: rest).length < 2 ^ (tagForm first).val) :
    splitTag (first :: rest) = none := by
  rw [← tagLength_eq] at short
  simp only [splitTag, List.head?_cons]
  rw [if_pos short]

private theorem tagWidth {first : UInt8} {digits : Bytes}
    (length : digits.length = Varint.more (tagForm first)) :
    (first :: digits).length = 1 <<< (first >>> 6).toNat := by
  rw [tagLength_eq, List.length_cons, length, Varint.more]
  exact Nat.sub_add_cancel Nat.one_le_two_pow

private theorem tagRoom {first : UInt8} {digits : Bytes}
    (length : digits.length = Varint.more (tagForm first)) :
    (first.toNat % 64 + 1) * 256 ^ digits.length ≤ 2 ^ 64 := by
  have high : first.toNat % 64 + 1 ≤ 64 := by omega
  have short : digits.length ≤ 7 := length ▸ Varint.more_le _
  calc (first.toNat % 64 + 1) * 256 ^ digits.length
      ≤ 64 * 256 ^ 7 := Nat.mul_le_mul high (Nat.pow_le_pow_right (by decide) short)
    _ ≤ 2 ^ 64 := by decide

private theorem splitTag_long {first : UInt8} {digits : Bytes} (rest : Bytes)
    (length : digits.length = Varint.more (tagForm first)) :
    ∃ value : UInt64, value.toNat = BigEndian.value (first.toNat % 64) digits ∧
      splitTag (first :: (digits ++ rest)) = some (value, rest) := by
  have width := tagWidth length
  have start := tagStart_eq first
  refine ⟨digits.foldl (fun (value : UInt64) byte => value <<< 8 ||| byte.toUInt64)
    (first &&& 0x3f).toUInt64, ?_, ?_⟩
  · rw [BigEndian.toNat_foldl, start]
    rw [start]
    exact tagRoom length
  · simp only [splitTag, List.head?_cons]
    rw [← List.cons_append, if_neg (by rw [List.length_append]; omega),
      List.take_left' width, List.drop_left' width]
    rfl

private theorem frame_cases (frame : Bytes) :
    frame = [] ∨
    (∃ first rest, frame = first :: rest ∧
      (first :: rest).length < 2 ^ (tagForm first).val) ∨
    ∃ first digits rest, frame = first :: (digits ++ rest) ∧
      digits.length = Varint.more (tagForm first) := by
  cases frame with
  | nil => exact .inl rfl
  | cons first tail =>
      right
      by_cases short : (first :: tail).length < 2 ^ (tagForm first).val
      · exact .inl ⟨first, tail, rfl, short⟩
      · right
        refine ⟨first, tail.take (Varint.more (tagForm first)),
          tail.drop (Varint.more (tagForm first)), ?_, ?_⟩
        · rw [List.take_append_drop]
        · rw [List.length_cons] at short
          rw [List.length_take, Varint.more]
          omega

/-! ## Slices and shifts -/

inductive TagFault where
  | outOfRange
  | lostBits
  deriving DecidableEq

/-- `&bytes[start..stop]`. -/
def slice (start stop : Nat) (bytes : Bytes) : Except TagFault Bytes :=
  if start ≤ stop ∧ stop ≤ bytes.length then .ok ((bytes.take stop).drop start)
  else .error .outOfRange

/-- `value << 8 | byte`, where shifting out a bit is a fault. -/
def shiftIn (value : Nat) (byte : UInt8) : Except TagFault Nat :=
  if value * 256 < 2 ^ 64 then .ok (value * 256 + byte.toNat) else .error .lostBits

/-- `split_tag` with slices that may be out of range and shifts that may lose bits. -/
def splitTagChecked (frame : Bytes) : Except TagFault (Option (Nat × Bytes)) :=
  match frame.head? with
  | none => .ok none
  | some first =>
      let length := 1 <<< (first >>> 6).toNat
      if frame.length < length then .ok none
      else do
        let digits ← slice 1 length frame
        let value ← digits.foldlM shiftIn (first &&& 0x3f).toNat
        let rest ← slice length frame.length frame
        .ok (some (value, rest))

private theorem shiftIn_foldlM {high : Nat} {digits : Bytes}
    (room : (high + 1) * 256 ^ digits.length ≤ 2 ^ 64) :
    digits.foldlM shiftIn high = .ok (BigEndian.value high digits) := by
  induction digits generalizing high with
  | nil => rfl
  | cons byte rest induction =>
      rcases BigEndian.room_cons room with ⟨front, back⟩
      have step : shiftIn high byte = .ok (high * 256 + byte.toNat) := if_pos front
      rw [List.foldlM_cons, step, BigEndian.value_cons]
      exact induction back

private theorem splitTagChecked_long {first : UInt8} {digits : Bytes} (rest : Bytes)
    (length : digits.length = Varint.more (tagForm first)) :
    splitTagChecked (first :: (digits ++ rest)) =
      .ok (some (BigEndian.value (first.toNat % 64) digits, rest)) := by
  have width := tagWidth length
  have long : 1 <<< (first >>> 6).toNat ≤ (first :: (digits ++ rest)).length := by
    rw [← width, ← List.cons_append, List.length_append]
    omega
  have positive : 1 ≤ 1 <<< (first >>> 6).toNat := by
    rw [← width, List.length_cons]
    omega
  have front : slice 1 (1 <<< (first >>> 6).toNat) (first :: (digits ++ rest)) = .ok digits := by
    rw [slice, if_pos ⟨positive, long⟩, ← List.cons_append, List.take_left' width]
    rfl
  have back : slice (1 <<< (first >>> 6).toNat) (first :: (digits ++ rest)).length
      (first :: (digits ++ rest)) = .ok rest := by
    rw [slice, if_pos ⟨long, Nat.le_refl _⟩, List.take_length, ← List.cons_append,
      List.drop_left' width]
  have start : (first &&& 0x3f).toNat = first.toNat % 64 := by
    rw [← tagStart_eq, UInt8.toNat_toUInt64]
  have loop : digits.foldlM shiftIn (first &&& 0x3f).toNat =
      .ok (BigEndian.value (first.toNat % 64) digits) := by
    rw [start]
    exact shiftIn_foldlM (tagRoom length)
  simp only [splitTagChecked, List.head?_cons]
  rw [if_neg (Nat.not_lt.mpr long), front, back]
  simp only [bind, Except.bind, loop]

private theorem splitTagChecked_eq (frame : Bytes) :
    splitTagChecked frame =
      .ok ((splitTag frame).map fun tagged => (tagged.1.toNat, tagged.2)) := by
  rcases frame_cases frame with rfl | ⟨first, rest, rfl, short⟩ | ⟨first, digits, rest, rfl, length⟩
  · rfl
  · rw [splitTag_short short]
    rw [← tagLength_eq] at short
    simp only [splitTagChecked, List.head?_cons]
    rw [if_pos short]
    rfl
  · rcases splitTag_long rest length with ⟨value, equal, splits⟩
    rw [splitTagChecked_long rest length, splits, ← equal]
    rfl

/-! ## Tags are varints -/

/-- Every varint encoding of a value, in each form that it fits in, is read back. Conversely
a frame without a tag is shorter than its first byte announces, and what is read as a tag is
a varint encoding of it; no slice on the way is out of range and no shift loses a bit. -/
theorem frame_tag_varints :
    (∀ (form : Fin 4) (value : Nat) (rest : Bytes), Varint.Fits form value →
      splitTag (Varint.encode form value ++ rest) = some (UInt64.ofNat value, rest)) ∧
    ∀ frame : Bytes,
      (splitTag frame = none ↔
        ∀ first, frame.head? = some first → frame.length < 2 ^ (first.toNat / 64)) ∧
      (∀ value rest, splitTag frame = some (value, rest) → value.toNat < 2 ^ 62 ∧
        ∃ form, Varint.Fits form value.toNat ∧
          frame = Varint.encode form value.toNat ++ rest) ∧
      splitTagChecked frame =
        .ok ((splitTag frame).map fun tagged => (tagged.1.toNat, tagged.2)) := by
  refine ⟨?_, fun frame => ⟨?_, ?_, splitTagChecked_eq frame⟩⟩
  · intro form value rest fits
    rcases Varint.encode_first fits with ⟨high, low⟩
    have announced : tagForm (UInt8.ofNat (form.val * 64 + value / 256 ^ Varint.more form)) =
        form := Fin.ext high
    have length : (BigEndian.bytes (Varint.more form) value).length = Varint.more
        (tagForm (UInt8.ofNat (form.val * 64 + value / 256 ^ Varint.more form))) := by
      rw [announced, BigEndian.length_bytes]
    rcases splitTag_long rest length with ⟨tag, equal, splits⟩
    rw [low, Varint.value_encode] at equal
    rw [Varint.encode, List.cons_append, splits, ← equal, UInt64.ofNat_toNat]
  · rcases frame_cases frame with
      rfl | ⟨first, rest, rfl, short⟩ | ⟨first, digits, rest, rfl, length⟩
    · refine iff_of_true splitTag_nil ?_
      rintro first ⟨⟩
    · refine iff_of_true (splitTag_short short) ?_
      rintro other ⟨⟩
      exact short
    · rcases splitTag_long rest length with ⟨value, _, splits⟩
      refine iff_of_false (by rw [splits]; simp) ?_
      intro short
      have width := (tagWidth length).trans (tagLength_eq first)
      have announced : (first :: (digits ++ rest)).length < 2 ^ (tagForm first).val :=
        short first rfl
      rw [← width, ← List.cons_append, List.length_append] at announced
      omega
  · intro value rest splits
    rcases frame_cases frame with
      rfl | ⟨first, tail, rfl, short⟩ | ⟨first, digits, tail, rfl, length⟩
    · cases splits
    · rw [splitTag_short short] at splits
      cases splits
    · rcases splitTag_long tail length with ⟨tag, equal, found⟩
      rw [found] at splits
      cases splits
      rcases Varint.encode_value first (tagForm first) digits rfl length with ⟨fits, encoded⟩
      rw [equal]
      refine ⟨fits.lt, tagForm first, fits, ?_⟩
      rw [encoded]
      rfl

/-- A two-byte tag in the eight-byte form, and a frame that ends inside such a tag. -/
theorem frame_tag_varints_padded :
    splitTag ([0xc0, 0, 0, 0, 0, 0, 0x12, 0x34] ++ [5]) = some (0x1234, [5]) ∧
      splitTag [0xc0, 0, 0, 0, 0, 0, 0x12] = none := by
  have fits : Varint.Fits 3 0x1234 := by
    rw [Varint.Fits]
    decide
  refine ⟨frame_tag_varints.1 3 0x1234 [5] fits, ?_⟩
  apply (frame_tag_varints.2 [0xc0, 0, 0, 0, 0, 0, 0x12]).1.mpr
  rintro first ⟨⟩
  decide

end IrohEndpoint
