import Mathlib.Algebra.BigOperators.Group.Finset.Basic
import Mathlib.Data.List.GetD
import MagiStack.Core.Bytes
import MagiStack.Library.OnesComplement

/-!
# Checksum — the word loop shared by the four checksum functions

`ipv4_compute_checksum`, `icmp_compute_checksum`, `tcp_compute_checksum` and
`udp_compute_checksum` all run the same loop: add the next 16-bit word to a 32-bit accumulator and
fold the carry back until the accumulator fits 16 bits.  `foldCarry` and `sumWords` are that loop;
`sumWords_toNat` says that it computes the one's-complement normal form of the word sum.
-/

namespace MagiStack

open OnesComplement

/-! ## The loop -/

theorem shift16_toNat (sum : UInt32) : (sum >>> 16).toNat = sum.toNat / 65536 := by
  rw [UInt32.toNat_shiftRight]
  simp [Nat.shiftRight_eq_div_pow]

theorem mask16_toNat (sum : UInt32) :
    (sum &&& (0xFFFF : UInt32)).toNat = sum.toNat % 65536 := by
  rw [UInt32.toNat_and]
  exact Nat.and_two_pow_sub_one_eq_mod sum.toNat 16

theorem fold_toNat (sum : UInt32) :
    ((sum &&& (0xFFFF : UInt32)) + (sum >>> 16)).toNat =
      sum.toNat % 65536 + sum.toNat / 65536 := by
  have hsum := sum.toNat_lt
  rw [UInt32.toNat_add, shift16_toNat, mask16_toNat]
  omega

theorem shift16_ne_zero {sum : UInt32} : sum >>> 16 ≠ 0 ↔ 65536 ≤ sum.toNat := by
  have hzero : (sum >>> 16 = 0) ↔ (sum >>> 16).toNat = 0 := by
    rw [← UInt32.toNat_inj]
    rfl
  rw [Ne, hzero, shift16_toNat]
  omega

/-- `while (sum >> 16) sum = (sum & 0xFFFF) + (sum >> 16);` -/
def foldCarry (sum : UInt32) : UInt32 :=
  if sum >>> 16 ≠ 0 then foldCarry ((sum &&& (0xFFFF : UInt32)) + (sum >>> 16)) else sum
termination_by sum.toNat
decreasing_by
  rename_i h
  have hbig := shift16_ne_zero.1 h
  rw [fold_toNat]
  omega

/-- The word loop of a checksum, started at `sum`: an odd last byte is the high byte of its word. -/
def sumWords (sum : UInt32) : List UInt8 → UInt32
  | [] => sum
  | [a] => foldCarry (sum + (a.toUInt16 <<< 8).toUInt32)
  | a :: b :: rest => sumWords (foldCarry (sum + (beWord a b).toUInt32)) rest

/-- `(uint16_t)(~sum & 0xFFFF)`. -/
def complement16 (sum : UInt32) : UInt16 :=
  (~~~sum &&& (0xFFFF : UInt32)).toUInt16

/-! ## What the loop computes -/

theorem foldCarry_toNat (sum : UInt32) : (foldCarry sum).toNat = ocNorm sum.toNat := by
  induction sum using foldCarry.induct with
  | case1 sum h ih =>
      rw [foldCarry, if_pos h, ih, fold_toNat, ocNorm_fold]
  | case2 sum h =>
      have hsmall : sum.toNat ≤ 65535 := by
        have hle := mt shift16_ne_zero.2 h
        omega
      rw [foldCarry, if_neg h, ocNorm_of_le hsmall]

/-- The high byte alone, as the loop reads an odd last byte. -/
theorem shiftedByte_toNat (a : UInt8) : (a.toUInt16 <<< 8).toNat = 256 * a.toNat := by
  have hword := beWord_toNat a 0
  simpa [beWord] using hword

/-- Adding one word to a settled sum and folding settles at the sum with the word. -/
theorem foldCarry_add_toNat {sum : UInt32} {n : Nat} (hsum : sum.toNat = ocNorm n) (w : UInt16) :
    (foldCarry (sum + w.toUInt32)).toNat = ocNorm (n + w.toNat) := by
  have hw := w.toNat_lt
  have hn := ocNorm_le n
  have hadd : (sum + w.toUInt32).toNat = ocNorm n + w.toNat := by
    rw [UInt32.toNat_add, hsum, UInt16.toNat_toUInt32]
    omega
  rw [foldCarry_toNat, hadd, ocNorm_add]

/-- The loop adds the word sum of its bytes to the total it starts from. -/
theorem sumWords_toNat {sum : UInt32} {n : Nat} (hsum : sum.toNat = ocNorm n)
    (bytes : List UInt8) : (sumWords sum bytes).toNat = ocNorm (n + wordSum bytes) := by
  induction sum, bytes using sumWords.induct generalizing n with
  | case1 sum => simpa [sumWords] using hsum
  | case2 sum a =>
      rw [sumWords, foldCarry_add_toNat hsum, shiftedByte_toNat, wordSum_singleton]
  | case3 sum a b rest ih =>
      rw [sumWords, ih (foldCarry_add_toNat hsum (beWord a b)), beWord_toNat, wordSum_cons_cons,
        Nat.add_assoc n]

theorem complement16_toNat {sum : UInt32} (hsum : sum.toNat ≤ 65535) :
    (complement16 sum).toNat = 65535 - sum.toNat := by
  have hlt := sum.toNat_lt
  rw [complement16, UInt32.toNat_toUInt16, mask16_toNat, UInt32.toNat_not]
  have hsize : UInt32.size = 4294967296 := rfl
  omega

/-- The complement of a settled sum. -/
theorem complement16_of_ocNorm {sum : UInt32} {n : Nat} (hsum : sum.toNat = ocNorm n) :
    (complement16 sum).toNat = 65535 - ocNorm n := by
  rw [complement16_toNat (hsum ▸ ocNorm_le n), hsum]

/-- The word sum of a buffer, its first `k` words read one by one. -/
theorem wordSum_eq_sum_read (bytes : List UInt8) (k : Nat) (h : 2 * k ≤ bytes.length) :
    wordSum bytes =
      (∑ i ∈ Finset.range k, (readU16Be bytes (2 * i)).toNat) + wordSum (bytes.drop (2 * k)) := by
  induction k with
  | zero => simp
  | succ k ih =>
      have hprev := ih (by omega)
      have hword : wordSum (bytes.drop (2 * k)) =
          (readU16Be bytes (2 * k)).toNat + wordSum (bytes.drop (2 * (k + 1))) := by
        have hk : 2 * k < bytes.length := by omega
        have hk' : 2 * k + 1 < bytes.length := by omega
        rw [List.drop_eq_getElem_cons hk, List.drop_eq_getElem_cons hk', wordSum_cons_cons,
          readU16Be, beWord_toNat, List.getD_eq_getElem _ _ hk, List.getD_eq_getElem _ _ hk']
        rfl
      rw [hprev, hword, Finset.sum_range_succ, Nat.add_assoc]

/-- Reading a field below the cut of a prefix. -/
theorem readU16Be_take (bytes : List UInt8) {i n : Nat} (h : i + 1 < n) :
    readU16Be (bytes.take n) i = readU16Be bytes i := by
  have h0 : (bytes.take n).getD i 0 = bytes.getD i 0 := by
    simp only [List.getD_eq_getElem?_getD, List.getElem?_take_of_lt (Nat.lt_of_succ_lt h)]
  have h1 : (bytes.take n).getD (i + 1) 0 = bytes.getD (i + 1) 0 := by
    simp only [List.getD_eq_getElem?_getD, List.getElem?_take_of_lt h]
  rw [readU16Be, readU16Be, h0, h1]

/-- Replacing the word at an even offset changes the word sum by that word. -/
theorem wordSum_setU16Be (bytes : List UInt8) (k : Nat) (value : UInt16)
    (h : 2 * k + 1 < bytes.length) :
    wordSum (setU16Be bytes (2 * k) value) + (readU16Be bytes (2 * k)).toNat =
      wordSum bytes + value.toNat := by
  induction k generalizing bytes with
  | zero =>
      rcases bytes with _ | ⟨a, _ | ⟨b, rest⟩⟩
      · cases h
      · exact absurd h (Nat.lt_irrefl 1)
      · have hvalue : (beWord (value >>> 8).toUInt8 value.toUInt8).toNat = value.toNat := by
          rw [beWord_bytes]
        rw [beWord_toNat] at hvalue
        simp only [setU16Be, readU16Be, loByte_eq, Nat.mul_zero, List.set_cons_zero,
          List.set_cons_succ, List.getD_cons_zero, List.getD_cons_succ, wordSum_cons_cons,
          beWord_toNat]
        omega
  | succ k ih =>
      rcases bytes with _ | ⟨a, _ | ⟨b, rest⟩⟩
      · cases h
      · simp only [List.length_singleton] at h
        omega
      · have hrest : 2 * k + 1 < rest.length := by
          simp only [List.length_cons] at h
          omega
        have hstep := ih rest hrest
        have hidx : 2 * (k + 1) = 2 * k + 1 + 1 := by omega
        simp only [setU16Be, readU16Be, hidx, List.set_cons_succ, List.getD_cons_succ,
          wordSum_cons_cons] at hstep ⊢
        omega

/-- Replacing an odd last byte changes the word sum by the words of the two bytes. -/
theorem wordSum_set_last (bytes : List UInt8) (k : Nat) (value : UInt8)
    (h : bytes.length = 2 * k + 1) :
    wordSum (bytes.set (2 * k) value) + 256 * (bytes.getD (2 * k) 0).toNat =
      wordSum bytes + 256 * value.toNat := by
  induction k generalizing bytes with
  | zero =>
      match bytes, h with
      | [a], _ => exact Nat.add_comm _ _
  | succ k ih =>
      match bytes, h with
      | a :: b :: rest, h =>
          have hstep := ih rest (by rw [List.length_cons, List.length_cons] at h; omega)
          have hidx : 2 * (k + 1) = 2 * k + 1 + 1 := by omega
          simp only [hidx, List.set_cons_succ, List.getD_cons_succ, wordSum_cons_cons] at hstep ⊢
          omega

/-- Storing the checksum of a buffer into its zero checksum word makes the buffer verify.  The
total `n` is what the accumulator held before the buffer: `0`, or the pseudo-header. -/
theorem verifies_setU16Be {bytes : List UInt8} {k n : Nat} {value : UInt16}
    (h : 2 * k + 1 < bytes.length) (hzero : readU16Be bytes (2 * k) = 0)
    (hvalue : value.toNat = 65535 - ocNorm (n + wordSum bytes)) :
    Verifies (n + wordSum (setU16Be bytes (2 * k) value)) := by
  have hsum := wordSum_setU16Be bytes k value h
  have hword : (readU16Be bytes (2 * k)).toNat = 0 := by
    rw [hzero]
    rfl
  have htotal : n + wordSum (setU16Be bytes (2 * k) value) =
      n + wordSum bytes + (65535 - ocNorm (n + wordSum bytes)) := by
    omega
  rw [htotal]
  exact verifies_add_complement _

/-- A checksum comes out as zero exactly when the total verifies. -/
theorem complement16_eq_zero_iff {sum : UInt32} {n : Nat} (hsum : sum.toNat = ocNorm n) :
    complement16 sum = 0 ↔ Verifies n := by
  have hle := ocNorm_le n
  rw [← UInt16.toNat_inj, complement16_of_ocNorm hsum, Verifies]
  change 65535 - ocNorm n = 0 ↔ _
  omega

end MagiStack
