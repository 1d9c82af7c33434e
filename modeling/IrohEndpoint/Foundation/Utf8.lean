import Mathlib.Data.UInt

/-! # Lossy UTF-8

Bytes read as text: each character they encode, and one replacement character for each
longest run that only begins one. -/

namespace IrohEndpoint

namespace Utf8

def replacement : Char := Char.ofNat 0xFFFD

/-- The bytes of the character that starts with `first`; none starts with a byte of width 0. -/
def width (first : UInt8) : Nat :=
  if first < 0x80 then 1
  else if first < 0xC2 then 0
  else if first < 0xE0 then 2
  else if first < 0xF0 then 3
  else if first < 0xF5 then 4
  else 0

def continues (byte : UInt8) : Bool := decide (0x80 ≤ byte ∧ byte < 0xC0)

def follows (first second : UInt8) : Bool :=
  if first = 0xE0 then decide (0xA0 ≤ second ∧ second < 0xC0)
  else if first = 0xED then decide (0x80 ≤ second ∧ second < 0xA0)
  else if first = 0xF0 then decide (0x90 ≤ second ∧ second < 0xC0)
  else if first = 0xF4 then decide (0x80 ≤ second ∧ second < 0x90)
  else continues second

def broken : List UInt8 → Nat
  | first :: second :: rest =>
      if 3 ≤ width first ∧ follows first second then
        if width first = 4 ∧ rest.head?.any continues then 3 else 2
      else 1
  | _ => 1

/-- The characters read after the next `skip` bytes, which belong to one already read. -/
def decode : Nat → List UInt8 → List Char
  | _, [] => []
  | skip + 1, _ :: rest => decode skip rest
  | 0, first :: rest =>
      match (first :: rest).toByteArray.utf8DecodeChar? 0 with
      | some character => character :: decode (character.utf8Size - 1) rest
      | none => replacement :: decode (broken (first :: rest) - 1) rest

def lossy (bytes : List UInt8) : String := String.ofList (decode 0 bytes)

theorem decode_skip (skipped bytes : List UInt8) :
    decode skipped.length (skipped ++ bytes) = decode 0 bytes := by
  induction skipped with
  | nil => rfl
  | cons byte rest induction => exact induction

theorem decode_encodeChar (character : Char) (bytes : List UInt8) :
    decode 0 (String.utf8EncodeChar character ++ bytes) = character :: decode 0 bytes := by
  have length := String.length_utf8EncodeChar character
  have read : (String.utf8EncodeChar character ++ bytes).toByteArray.utf8DecodeChar? 0 =
      some character := by
    rw [List.toByteArray_append]
    exact ByteArray.utf8DecodeChar?_utf8EncodeChar_append
  cases encoded : String.utf8EncodeChar character with
  | nil =>
      have positive := character.utf8Size_pos
      rw [encoded, List.length_nil] at length
      omega
  | cons first rest =>
      rw [encoded, List.cons_append] at read
      have remaining : character.utf8Size - 1 = rest.length := by
        rw [← length, encoded, List.length_cons, Nat.add_sub_cancel]
      rw [List.cons_append, decode, read]
      dsimp only
      rw [remaining, decode_skip]

theorem decode_encode (characters : List Char) :
    decode 0 (characters.flatMap String.utf8EncodeChar) = characters := by
  induction characters with
  | nil => rfl
  | cons character rest induction => rw [List.flatMap_cons, decode_encodeChar, induction]

theorem lossy_toUTF8 (text : String) : lossy text.toUTF8.data.toList = text := by
  have encoded : text.toUTF8.data.toList = text.toList.flatMap String.utf8EncodeChar := by
    rw [← String.ofList_toList (s := text), String.toUTF8, String.toByteArray_ofList,
      List.utf8Encode, List.toList_data_toByteArray, String.toList_ofList]
  rw [lossy, encoded, decode_encode, String.ofList_toList]

example : lossy [0x61, 0xFF, 0xE2, 0x82, 0x62, 0xF0, 0x9F, 0x98] = "a\uFFFD\uFFFDb\uFFFD" := by
  decide +kernel

end Utf8

end IrohEndpoint
