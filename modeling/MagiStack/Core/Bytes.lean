import Mathlib.Data.UInt
import Mathlib.Tactic.IntervalCases
import Mathlib.Data.List.Basic

/-!
# Bytes — big-endian fields of a raw buffer

Every protocol module of the stack carries its own copy of `read_u16_be`, `read_u32_be`,
`write_u16_be` and `write_u32_be`.  Raw buffers are byte lists here; a read past the end yields `0`
(the parsers check the length first), and a write in place keeps the length.
-/

namespace MagiStack

/-! ## Readers and writers -/

/-- The 16-bit word of two bytes, high byte first. -/
def beWord (hi lo : UInt8) : UInt16 :=
  (hi.toUInt16 <<< 8) ||| lo.toUInt16

/-- `read_u16_be(raw + i)`. -/
def readU16Be (raw : List UInt8) (i : Nat) : UInt16 :=
  beWord (raw.getD i 0) (raw.getD (i + 1) 0)

/-- The 32-bit value of four bytes, highest byte first. -/
def beLong (b0 b1 b2 b3 : UInt8) : UInt32 :=
  (b0.toUInt32 <<< 24) ||| (b1.toUInt32 <<< 16) ||| (b2.toUInt32 <<< 8) ||| b3.toUInt32

/-- `read_u32_be(raw + i)`. -/
def readU32Be (raw : List UInt8) (i : Nat) : UInt32 :=
  beLong (raw.getD i 0) (raw.getD (i + 1) 0) (raw.getD (i + 2) 0) (raw.getD (i + 3) 0)

/-- The two bytes `write_u16_be` stores. -/
def writeU16Be (value : UInt16) : List UInt8 :=
  [(value >>> 8).toUInt8, (value &&& (0xFF : UInt16)).toUInt8]

/-- The four bytes `write_u32_be` stores. -/
def writeU32Be (value : UInt32) : List UInt8 :=
  [(value >>> 24).toUInt8, (value >>> 16).toUInt8, (value >>> 8).toUInt8,
    (value &&& (0xFF : UInt32)).toUInt8]

/-- `write_u16_be(out + i, value)` into a buffer that already holds bytes there. -/
def setU16Be (out : List UInt8) (i : Nat) (value : UInt16) : List UInt8 :=
  (out.set i (value >>> 8).toUInt8).set (i + 1) (value &&& (0xFF : UInt16)).toUInt8

@[simp] theorem writeU16Be_length (value : UInt16) : (writeU16Be value).length = 2 := rfl

@[simp] theorem writeU32Be_length (value : UInt32) : (writeU32Be value).length = 4 := rfl

@[simp] theorem setU16Be_length (out : List UInt8) (i : Nat) (value : UInt16) :
    (setU16Be out i value).length = out.length := by
  simp [setU16Be]

/-! ## Words as numbers -/

theorem beWord_toNat (hi lo : UInt8) : (beWord hi lo).toNat = 256 * hi.toNat + lo.toNat := by
  have hhi := hi.toNat_lt
  have hlo := lo.toNat_lt
  have hshift : (hi.toUInt16 <<< 8).toNat = hi.toNat <<< 8 := by
    rw [UInt16.toNat_shiftLeft]
    simp only [UInt8.toNat_toUInt16]
    rw [Nat.mod_eq_of_lt]
    · rfl
    · change hi.toNat <<< 8 < 2 ^ 16
      rw [Nat.shiftLeft_eq, Nat.mul_comm]
      omega
  rw [beWord, UInt16.toNat_or, hshift, UInt8.toNat_toUInt16,
    ← Nat.shiftLeft_add_eq_or_of_lt (by simpa using hlo), Nat.shiftLeft_eq, Nat.mul_comm]

@[simp] theorem beWord_zero : beWord 0 0 = 0 := rfl

theorem hiByte_toNat (value : UInt16) : (value >>> 8).toUInt8.toNat = value.toNat / 256 := by
  have hv := value.toNat_lt
  rw [UInt16.toNat_toUInt8, UInt16.toNat_shiftRight]
  change value.toNat >>> 8 % 256 = _
  rw [Nat.shiftRight_eq_div_pow]
  omega

/-- Masking a byte with all ones changes nothing. -/
@[simp] theorem and_ones (b : UInt8) : b &&& 255 = b := by
  apply UInt8.toNat_inj.1
  have hb := b.toNat_lt
  rw [UInt8.toNat_and]
  change b.toNat &&& (2 ^ 8 - 1) = _
  rw [Nat.and_two_pow_sub_one_eq_mod]
  omega

theorem loByte_eq (value : UInt16) : (value &&& (0xFF : UInt16)).toUInt8 = value.toUInt8 := by
  simp

/-- Reading back a stored word. -/
@[simp] theorem beWord_bytes (value : UInt16) :
    beWord (value >>> 8).toUInt8 value.toUInt8 = value := by
  apply UInt16.toNat_inj.1
  rw [beWord_toNat, hiByte_toNat, UInt16.toNat_toUInt8]
  omega

/-- A word determines its two bytes. -/
@[simp] theorem beWord_hi (hi lo : UInt8) : (beWord hi lo >>> 8).toUInt8 = hi := by
  apply UInt8.toNat_inj.1
  have hlo := lo.toNat_lt
  rw [hiByte_toNat, beWord_toNat]
  omega

@[simp] theorem beWord_lo (hi lo : UInt8) : (beWord hi lo).toUInt8 = lo := by
  apply UInt8.toNat_inj.1
  have hlo := lo.toNat_lt
  rw [UInt16.toNat_toUInt8, beWord_toNat]
  omega

/-- Reading back a stored 32-bit value. -/
@[simp] theorem beLong_bytes (value : UInt32) :
    beLong (value >>> 24).toUInt8 (value >>> 16).toUInt8 (value >>> 8).toUInt8 value.toUInt8 =
      value := by
  apply UInt32.toBitVec_inj.1
  apply BitVec.eq_of_getLsbD_eq
  intro i hi
  simp only [beLong, UInt32.toBitVec_or, UInt32.toBitVec_shiftLeft, UInt8.toBitVec_toUInt32,
    UInt32.toBitVec_toUInt8, UInt32.toBitVec_shiftRight, BitVec.getLsbD_or]
  interval_cases i <;>
    simp [BitVec.shiftLeft_eq', BitVec.ushiftRight_eq']

theorem lowByte_toUInt8 (value : UInt32) : (value &&& (0xFF : UInt32)).toUInt8 = value.toUInt8 := by
  simp

/-- Storing a 16-bit field that was read. -/
theorem writeU16Be_read (raw : List UInt8) (i : Nat) :
    writeU16Be (readU16Be raw i) = [raw.getD i 0, raw.getD (i + 1) 0] := by
  rw [writeU16Be, readU16Be, loByte_eq, beWord_hi, beWord_lo]

/-- The bytes of a 32-bit value. -/
theorem toUInt8_beLong (b0 b1 b2 b3 : UInt8) :
    (beLong b0 b1 b2 b3 >>> 24).toUInt8 = b0 ∧ (beLong b0 b1 b2 b3 >>> 16).toUInt8 = b1 ∧
      (beLong b0 b1 b2 b3 >>> 8).toUInt8 = b2 ∧ (beLong b0 b1 b2 b3).toUInt8 = b3 := by
  refine ⟨?_, ?_, ?_, ?_⟩
  -- Each of the four bytes agrees bit by bit.
  all_goals
    apply UInt8.toBitVec_inj.1
    apply BitVec.eq_of_getLsbD_eq
    intro j hj
    simp only [beLong, UInt32.toBitVec_or, UInt32.toBitVec_shiftLeft, UInt8.toBitVec_toUInt32,
      UInt32.toBitVec_toUInt8, UInt32.toBitVec_shiftRight]
    interval_cases j
  all_goals simp [BitVec.shiftLeft_eq', BitVec.ushiftRight_eq']

/-- The upper three bytes of a 32-bit value. -/
theorem beLong_and_mask24 (b0 b1 b2 b3 : UInt8) :
    beLong b0 b1 b2 b3 &&& 0xFFFFFF00 = beLong b0 b1 b2 0 := by
  apply UInt32.toBitVec_inj.1
  apply BitVec.eq_of_getLsbD_eq
  intro j hj
  simp only [beLong, UInt32.toBitVec_and, UInt32.toBitVec_or, UInt32.toBitVec_shiftLeft,
    UInt8.toBitVec_toUInt32]
  interval_cases j
  all_goals simp [BitVec.shiftLeft_eq']

/-- Storing a 32-bit field that was read. -/
theorem writeU32Be_read (raw : List UInt8) (i : Nat) :
    writeU32Be (readU32Be raw i) =
      [raw.getD i 0, raw.getD (i + 1) 0, raw.getD (i + 2) 0, raw.getD (i + 3) 0] := by
  rcases toUInt8_beLong (raw.getD i 0) (raw.getD (i + 1) 0) (raw.getD (i + 2) 0)
    (raw.getD (i + 3) 0) with ⟨h0, h1, h2, h3⟩
  rw [writeU32Be, readU32Be, lowByte_toUInt8, h0, h1, h2, h3]

/-! ## Reading at an offset -/

/-- Reading where a 16-bit field was written. -/
theorem readU16Be_append (before after : List UInt8) (value : UInt16) :
    readU16Be (before ++ (writeU16Be value ++ after)) before.length = value := by
  simp [readU16Be, writeU16Be, List.getD_eq_getElem?_getD]

/-- Reading where a 32-bit field was written. -/
theorem readU32Be_append (before after : List UInt8) (value : UInt32) :
    readU32Be (before ++ (writeU32Be value ++ after)) before.length = value := by
  simp [readU32Be, writeU32Be, List.getD_eq_getElem?_getD]

end MagiStack
