import Mathlib.Data.UInt
import Mathlib.Tactic.Ring

/-! # Variable-length integers

Big-endian numbers, and the QUIC varint over them: the two high bits of the first byte
announce a length of one, two, four or eight bytes, and the other bits are the number. -/

namespace IrohEndpoint

/-! ## Big-endian numbers -/

namespace BigEndian

/-- The `width` low bytes of a number, the most significant first. -/
def bytes : (width : Nat) → Nat → List UInt8
  | 0, _ => []
  | width + 1, value => UInt8.ofNat (value / 256 ^ width) :: bytes width value

/-- The number whose digits are those of `high` and then the bytes. -/
def value (high : Nat) (digits : List UInt8) : Nat :=
  digits.foldl (fun total byte => total * 256 + byte.toNat) high

@[simp] theorem length_bytes (width value : Nat) : (bytes width value).length = width := by
  induction width with
  | zero => rfl
  | succ width induction => rw [bytes, List.length_cons, induction]

@[simp] theorem value_nil (high : Nat) : value high [] = high := rfl

@[simp] theorem value_cons (high : Nat) (byte : UInt8) (rest : List UInt8) :
    value high (byte :: rest) = value (high * 256 + byte.toNat) rest := rfl

theorem value_bytes (high width number : Nat) :
    value high (bytes width number) = high * 256 ^ width + number % 256 ^ width := by
  induction width generalizing high with
  | zero => simp [bytes, Nat.mod_one]
  | succ width induction =>
      have digit : (UInt8.ofNat (number / 256 ^ width)).toNat = number / 256 ^ width % 256 :=
        UInt8.toNat_ofNat'
      rw [bytes, value_cons, induction, digit, pow_succ, Nat.mod_mul]
      ring

theorem value_bounds (high : Nat) (digits : List UInt8) :
    high * 256 ^ digits.length ≤ value high digits ∧
      value high digits < (high + 1) * 256 ^ digits.length := by
  induction digits generalizing high with
  | nil => simp
  | cons byte rest induction =>
      have bound := byte.toNat_lt
      rcases induction (high * 256 + byte.toNat) with ⟨lower, upper⟩
      rw [value_cons, List.length_cons, pow_succ]
      constructor
      · calc high * (256 ^ rest.length * 256)
            = high * 256 * 256 ^ rest.length := by ring
          _ ≤ (high * 256 + byte.toNat) * 256 ^ rest.length := by gcongr; omega
          _ ≤ value (high * 256 + byte.toNat) rest := lower
      · calc value (high * 256 + byte.toNat) rest
            < (high * 256 + byte.toNat + 1) * 256 ^ rest.length := upper
          _ ≤ ((high + 1) * 256) * 256 ^ rest.length := by gcongr; omega
          _ = (high + 1) * (256 ^ rest.length * 256) := by ring

theorem value_div (high : Nat) (digits : List UInt8) :
    value high digits / 256 ^ digits.length = high := by
  rcases value_bounds high digits with ⟨lower, upper⟩
  exact Nat.div_eq_of_lt_le lower upper

theorem bytes_value (high : Nat) (digits : List UInt8) :
    bytes digits.length (value high digits) = digits := by
  induction digits generalizing high with
  | nil => rfl
  | cons byte rest induction =>
      rw [value_cons, List.length_cons, bytes, value_div, induction]
      congr 1
      apply UInt8.toNat_inj.mp
      rw [UInt8.toNat_ofNat']
      have bound := byte.toNat_lt
      omega

/-! ## In a machine word -/

theorem toNat_shift_or {total : UInt64} (byte : UInt8) (room : total.toNat * 256 < 2 ^ 64) :
    (total <<< 8 ||| byte.toUInt64).toNat = total.toNat * 256 + byte.toNat := by
  have bound := byte.toNat_lt
  have shifted : (total <<< 8).toNat = 2 ^ 8 * total.toNat := by
    rw [UInt64.toNat_shiftLeft, Nat.shiftLeft_eq, Nat.mod_eq_of_lt]
    · exact Nat.mul_comm _ _
    · exact room
  rw [UInt64.toNat_or, shifted, UInt8.toNat_toUInt64, ← Nat.two_pow_add_eq_or_of_lt bound]
  omega

theorem room_cons {high limit : Nat} {byte : UInt8} {rest : List UInt8}
    (room : (high + 1) * 256 ^ (byte :: rest).length ≤ limit) :
    high * 256 < limit ∧ (high * 256 + byte.toNat + 1) * 256 ^ rest.length ≤ limit := by
  have bound := byte.toNat_lt
  have positive : 1 ≤ 256 ^ rest.length := Nat.one_le_pow _ _ (by decide)
  rw [List.length_cons, pow_succ] at room
  have front : (high + 1) * (1 * 256) ≤ limit := Nat.le_trans (by gcongr) room
  refine ⟨by omega, ?_⟩
  calc (high * 256 + byte.toNat + 1) * 256 ^ rest.length
      ≤ ((high + 1) * 256) * 256 ^ rest.length := by gcongr; omega
    _ = (high + 1) * (256 ^ rest.length * 256) := by ring
    _ ≤ limit := room

theorem toNat_foldl {high : UInt64} {digits : List UInt8}
    (room : (high.toNat + 1) * 256 ^ digits.length ≤ 2 ^ 64) :
    (digits.foldl (fun (total : UInt64) byte => total <<< 8 ||| byte.toUInt64) high).toNat =
      value high.toNat digits := by
  induction digits generalizing high with
  | nil => rfl
  | cons byte rest induction =>
      rcases room_cons room with ⟨front, back⟩
      have step := toNat_shift_or byte front
      rw [List.foldl_cons, value_cons, ← step]
      apply induction
      rw [step]
      exact back

end BigEndian

/-! ## Varints -/

namespace Varint

def more (form : Fin 4) : Nat := 2 ^ form.val - 1

/-- The value fits in the six bits of the first byte and the bytes after it. -/
def Fits (form : Fin 4) (value : Nat) : Prop := value < 64 * 256 ^ more form

def encode (form : Fin 4) (value : Nat) : List UInt8 :=
  UInt8.ofNat (form.val * 64 + value / 256 ^ more form) :: BigEndian.bytes (more form) value

theorem more_le (form : Fin 4) : more form ≤ 7 := by
  revert form
  decide

theorem Fits.lt {form : Fin 4} {value : Nat} (fits : Fits form value) : value < 2 ^ 62 := by
  have wide : 256 ^ more form ≤ 256 ^ 7 := Nat.pow_le_pow_right (by decide) (more_le form)
  rw [Fits] at fits
  omega

theorem encode_first {form : Fin 4} {value : Nat} (fits : Fits form value) :
    (UInt8.ofNat (form.val * 64 + value / 256 ^ more form)).toNat / 64 = form.val ∧
      (UInt8.ofNat (form.val * 64 + value / 256 ^ more form)).toNat % 64 =
        value / 256 ^ more form := by
  have top : value / 256 ^ more form < 64 := Nat.div_lt_of_lt_mul (Nat.mul_comm _ _ ▸ fits)
  have small := form.isLt
  rw [UInt8.toNat_ofNat']
  generalize value / 256 ^ more form = high at top
  omega

theorem value_encode (form : Fin 4) (value : Nat) :
    BigEndian.value (value / 256 ^ more form) (BigEndian.bytes (more form) value) = value := by
  rw [BigEndian.value_bytes, Nat.div_add_mod']

theorem encode_value (first : UInt8) (form : Fin 4) (digits : List UInt8)
    (announced : form.val = first.toNat / 64) (length : digits.length = more form) :
    Fits form (BigEndian.value (first.toNat % 64) digits) ∧
      encode form (BigEndian.value (first.toNat % 64) digits) = first :: digits := by
  have bound := first.toNat_lt
  refine ⟨?_, ?_⟩
  · rcases BigEndian.value_bounds (first.toNat % 64) digits with ⟨_, upper⟩
    rw [Fits, ← length]
    calc BigEndian.value (first.toNat % 64) digits
        < (first.toNat % 64 + 1) * 256 ^ digits.length := upper
      _ ≤ 64 * 256 ^ digits.length := by gcongr; omega
  · rw [encode, ← length, BigEndian.value_div, BigEndian.bytes_value]
    congr 1
    apply UInt8.toNat_inj.mp
    rw [UInt8.toNat_ofNat', announced]
    omega

end Varint

end IrohEndpoint
