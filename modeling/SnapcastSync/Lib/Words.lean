import Mathlib.Data.List.Basic
import Mathlib.Data.Nat.Bitwise
import Mathlib.Data.Nat.Digits.Defs

/-! Little-endian numbers: a word put together with shifts has the bytes as its digits. -/

namespace Words

def littleEndian (bytes : List UInt8) : Nat := Nat.ofDigits 256 (bytes.map UInt8.toNat)

@[simp] theorem littleEndian_nil : littleEndian [] = 0 := rfl

@[simp] theorem littleEndian_cons (byte : UInt8) (rest : List UInt8) :
    littleEndian (byte :: rest) = byte.toNat + 256 * littleEndian rest :=
  Nat.ofDigits_cons

def word (first second third fourth : UInt8) : UInt32 :=
  first.toUInt32 ||| second.toUInt32 <<< 8 ||| third.toUInt32 <<< 16 |||
    fourth.toUInt32 <<< 24

def halfWord (first second : UInt8) : UInt16 := first.toUInt16 ||| second.toUInt16 <<< 8

theorem or_shiftLeft (low high width : Nat) (small : low < 2 ^ width) :
    low ||| high <<< width = low + 2 ^ width * high := by
  rw [Nat.shiftLeft_eq, Nat.mul_comm high, Nat.or_comm, ← Nat.two_pow_add_eq_or_of_lt small,
    Nat.add_comm]

theorem toNat_shiftLeft (byte : UInt8) (shift : UInt32) (within : shift.toNat ≤ 24) :
    (byte.toUInt32 <<< shift).toNat = byte.toNat <<< shift.toNat := by
  have small := byte.toNat_lt
  have power : 2 ^ shift.toNat ≤ 2 ^ 24 := Nat.pow_le_pow_right (by omega) within
  have product : byte.toNat * 2 ^ shift.toNat < 2 ^ 8 * 2 ^ 24 :=
    Nat.mul_lt_mul_of_lt_of_le small power (by omega)
  rw [UInt32.toNat_shiftLeft, UInt8.toNat_toUInt32, Nat.mod_eq_of_lt (by omega : shift.toNat < 32),
    Nat.shiftLeft_eq]
  exact Nat.mod_eq_of_lt product

theorem word_toNat (first second third fourth : UInt8) :
    (word first second third fourth).toNat = littleEndian [first, second, third, fourth] := by
  have firstSmall := first.toNat_lt
  have secondSmall := second.toNat_lt
  have thirdSmall := third.toNat_lt
  rw [word, UInt32.toNat_or, UInt32.toNat_or, UInt32.toNat_or, toNat_shiftLeft second 8 (by decide),
    toNat_shiftLeft third 16 (by decide), toNat_shiftLeft fourth 24 (by decide),
    UInt8.toNat_toUInt32]
  change first.toNat ||| second.toNat <<< 8 ||| third.toNat <<< 16 ||| fourth.toNat <<< 24 = _
  rw [or_shiftLeft _ second.toNat 8 firstSmall, or_shiftLeft _ third.toNat 16 (by omega),
    or_shiftLeft _ fourth.toNat 24 (by omega)]
  simp only [littleEndian_cons, littleEndian_nil]
  omega

theorem halfWord_toNat (first second : UInt8) :
    (halfWord first second).toNat = littleEndian [first, second] := by
  have firstSmall := first.toNat_lt
  have secondSmall := second.toNat_lt
  have shifted : (second.toUInt16 <<< 8).toNat = second.toNat <<< 8 := by
    rw [UInt16.toNat_shiftLeft, UInt8.toNat_toUInt16, Nat.shiftLeft_eq, Nat.shiftLeft_eq]
    change second.toNat * 2 ^ 8 % 2 ^ 16 = second.toNat * 2 ^ 8
    omega
  rw [halfWord, UInt16.toNat_or, UInt8.toNat_toUInt16, shifted,
    or_shiftLeft _ second.toNat 8 firstSmall]
  simp only [littleEndian_cons, littleEndian_nil]
  omega

def wordBytes (value : UInt32) : List UInt8 :=
  [(value &&& 0xFF).toUInt8, ((value >>> 8) &&& 0xFF).toUInt8, ((value >>> 16) &&& 0xFF).toUInt8,
    ((value >>> 24) &&& 0xFF).toUInt8]

def halfWordBytes (value : UInt16) : List UInt8 :=
  [(value &&& 0xFF).toUInt8, ((value >>> 8) &&& 0xFF).toUInt8]

theorem wordBytes_toNat (value : UInt32) :
    (wordBytes value).map UInt8.toNat =
      [value.toNat % 256, value.toNat / 2 ^ 8 % 256, value.toNat / 2 ^ 16 % 256,
        value.toNat / 2 ^ 24 % 256] := by
  have masked (bits : UInt32) : (bits &&& 0xFF).toUInt8.toNat = bits.toNat % 256 := by
    rw [UInt32.toNat_toUInt8, UInt32.toNat_and]
    change (bits.toNat &&& 2 ^ 8 - 1) % 2 ^ 8 = _
    rw [Nat.and_two_pow_sub_one_eq_mod, Nat.mod_mod]
  rw [wordBytes, List.map_cons, List.map_cons, List.map_cons, List.map_singleton, masked, masked,
    masked, masked, UInt32.toNat_shiftRight, UInt32.toNat_shiftRight, UInt32.toNat_shiftRight,
    Nat.shiftRight_eq_div_pow, Nat.shiftRight_eq_div_pow, Nat.shiftRight_eq_div_pow]
  rfl

theorem halfWordBytes_toNat (value : UInt16) :
    (halfWordBytes value).map UInt8.toNat = [value.toNat % 256, value.toNat / 2 ^ 8 % 256] := by
  have masked (bits : UInt16) : (bits &&& 0xFF).toUInt8.toNat = bits.toNat % 256 := by
    rw [UInt16.toNat_toUInt8, UInt16.toNat_and]
    change (bits.toNat &&& 2 ^ 8 - 1) % 2 ^ 8 = _
    rw [Nat.and_two_pow_sub_one_eq_mod, Nat.mod_mod]
  rw [halfWordBytes, List.map_cons, List.map_singleton, masked, masked, UInt16.toNat_shiftRight,
    Nat.shiftRight_eq_div_pow]
  rfl

theorem littleEndian_wordBytes (value : UInt32) : littleEndian (wordBytes value) = value.toNat := by
  have small := value.toNat_lt
  rw [littleEndian, wordBytes_toNat]
  simp only [Nat.ofDigits_cons, Nat.ofDigits_nil]
  omega

theorem littleEndian_halfWordBytes (value : UInt16) :
    littleEndian (halfWordBytes value) = value.toNat := by
  have small := value.toNat_lt
  rw [littleEndian, halfWordBytes_toNat]
  simp only [Nat.ofDigits_cons, Nat.ofDigits_nil]
  omega

theorem wordBytes_injective : Function.Injective wordBytes := by
  intro left right same
  apply UInt32.toNat_inj.mp
  rw [← littleEndian_wordBytes, ← littleEndian_wordBytes, same]

theorem halfWordBytes_injective : Function.Injective halfWordBytes := by
  intro left right same
  apply UInt16.toNat_inj.mp
  rw [← littleEndian_halfWordBytes, ← littleEndian_halfWordBytes, same]

theorem wordBytes_word (first second third fourth : UInt8) :
    wordBytes (word first second third fourth) = [first, second, third, fourth] := by
  have firstSmall := first.toNat_lt
  have secondSmall := second.toNat_lt
  have thirdSmall := third.toNat_lt
  have fourthSmall := fourth.toNat_lt
  apply List.map_injective_iff.mpr (fun _ _ same => UInt8.toNat_inj.mp same)
  rw [wordBytes_toNat, word_toNat]
  simp only [littleEndian_cons, littleEndian_nil, List.map_cons, List.map_nil, List.cons.injEq,
    and_true]
  omega

theorem halfWordBytes_halfWord (first second : UInt8) :
    halfWordBytes (halfWord first second) = [first, second] := by
  have firstSmall := first.toNat_lt
  have secondSmall := second.toNat_lt
  apply List.map_injective_iff.mpr (fun _ _ same => UInt8.toNat_inj.mp same)
  rw [halfWordBytes_toNat, halfWord_toNat]
  simp only [littleEndian_cons, littleEndian_nil, List.map_cons, List.map_nil, List.cons.injEq,
    and_true]
  omega

/-- The bytes of a number in so many places; what does not fit is dropped. -/
def leBytes : Nat → Nat → List UInt8
  | 0, _ => []
  | width + 1, value => .ofNat value :: leBytes width (value / 256)

def FitsSigned (width : Nat) (value : Int) : Prop :=
  -(2 ^ (8 * width) : Nat) ≤ value * 2 ∧ value * 2 < (2 ^ (8 * width) : Nat)

instance (width : Nat) (value : Int) : Decidable (FitsSigned width value) :=
  inferInstanceAs (Decidable (_ ∧ _))

def signedBytes (width : Nat) (value : Int) : List UInt8 :=
  leBytes width (value % (2 ^ (8 * width) : Nat)).toNat

end Words
