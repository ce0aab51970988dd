import Mathlib.Algebra.BigOperators.Group.List.Basic
import Mathlib.Data.List.Range
import Mathlib.Data.UInt

/-!
# Zlib — streams of stored blocks

The stored blocks of a deflate stream, the Adler-32 checksum, and the zlib stream that holds both: what a
reader takes out of such a stream, and how data is cut into blocks.  A stored block has at most 65535 bytes;
the data of a stream that was cut into full blocks and a rest is read back, and its length follows from the
number of blocks.
-/

namespace Zlib

/-! ## Adler-32 -/

def adlerModulus : Nat := 65521

/-- The first sum: one, and the bytes. -/
def adlerA (data : List UInt8) : Nat :=
  (1 + (data.map UInt8.toNat).sum) % adlerModulus

/-- The second sum: the first sums of all beginnings that are not empty. -/
def adlerB (data : List UInt8) : Nat :=
  ((List.range data.length).map fun i => 1 + ((data.take (i + 1)).map UInt8.toNat).sum).sum % adlerModulus

/-- Adler-32. -/
def adler32 (data : List UInt8) : Nat :=
  adlerB data * 65536 + adlerA data

theorem adlerA_concat (data : List UInt8) (b : UInt8) :
    adlerA (data ++ [b]) = (adlerA data + b.toNat) % adlerModulus := by
  rw [adlerA, adlerA, Nat.mod_add_mod, List.map_append, List.sum_append]
  simp [Nat.add_assoc]

theorem adlerB_concat (data : List UInt8) (b : UInt8) :
    adlerB (data ++ [b]) = (adlerB data + adlerA (data ++ [b])) % adlerModulus := by
  have hbefore : ((List.range data.length).map fun i =>
      1 + (((data ++ [b]).take (i + 1)).map UInt8.toNat).sum) =
      (List.range data.length).map fun i => 1 + ((data.take (i + 1)).map UInt8.toNat).sum := by
    refine List.map_congr_left fun i hi => ?_
    rw [List.take_append_of_le_length (List.mem_range.mp hi)]
  rw [adlerB, adlerB, adlerA, ← Nat.add_mod, List.length_append, List.length_singleton, List.range_succ,
    List.map_append, List.sum_append, hbefore]
  simp

theorem adlerA_lt (data : List UInt8) : adlerA data < adlerModulus := Nat.mod_lt _ (by decide)

theorem adlerB_lt (data : List UInt8) : adlerB data < adlerModulus := Nat.mod_lt _ (by decide)

/-! ## Stored blocks -/

/-- The most bytes that a stored block can have. -/
def maxStored : Nat := 65535

/-- The low and the high byte of a number of sixteen bits. -/
def le16 (n : Nat) : List UInt8 :=
  [UInt8.ofNat (n % 256), UInt8.ofNat (n / 256 % 256)]

/-- A stored block: the final flag, the length, its complement, and the data. -/
def storedBlock (final : Bool) (data : List UInt8) : List UInt8 :=
  (if final then 1 else 0) :: (le16 data.length ++ le16 (65535 - data.length)) ++ data

/-- Data in full blocks and a last one with the rest. -/
def storedBlocks (data : List UInt8) : List UInt8 :=
  if data.length ≤ maxStored then
    storedBlock true data
  else
    storedBlock false (data.take maxStored) ++ storedBlocks (data.drop maxStored)
  termination_by data.length
  decreasing_by
    rw [List.length_drop, maxStored] at *
    omega

/-- What a reader finds in stored blocks up to the final one, and what follows them. -/
def inflateStored : List UInt8 → Option (List UInt8 × List UInt8)
  | flags :: lenLow :: lenHigh :: nlenLow :: nlenHigh :: rest =>
      let len := lenLow.toNat + 256 * lenHigh.toNat
      if flags &&& 6 ≠ 0 ∨ len + (nlenLow.toNat + 256 * nlenHigh.toNat) ≠ 65535 ∨
          rest.length < len then
        none
      else if flags &&& 1 = 1 then
        some (rest.take len, rest.drop len)
      else
        (inflateStored (rest.drop len)).map fun found => (rest.take len ++ found.1, found.2)
  | _ => none
  termination_by stream => stream.length
  decreasing_by
    rw [List.length_drop]
    simp only [List.length_cons]
    omega

theorem storedBlock_length (final : Bool) (data : List UInt8) :
    (storedBlock final data).length = 5 + data.length := by
  simp only [storedBlock, le16, List.length_append, List.length_cons, List.length_nil]

/-- The flags of a block, its length and the complement are read, and then its data is taken off. -/
theorem inflateStored_block (final : Bool) {data : List UInt8} (h : data.length ≤ maxStored)
    (rest : List UInt8) :
    inflateStored (storedBlock final data ++ rest) =
      if final then some (data, rest)
      else (inflateStored rest).map fun found => (data ++ found.1, found.2) := by
  have hlow : ∀ n, (UInt8.ofNat (n % 256)).toNat + 256 * (UInt8.ofNat (n / 256 % 256)).toNat =
      n % 65536 := by
    intro n
    rw [UInt8.toNat_ofNat', UInt8.toNat_ofNat']
    omega
  rw [maxStored] at h
  have hlen : (UInt8.ofNat (data.length % 256)).toNat + 256 * (UInt8.ofNat (data.length / 256 % 256)).toNat =
      data.length := by
    rw [hlow]
    omega
  have hnlen : (UInt8.ofNat ((65535 - data.length) % 256)).toNat +
      256 * (UInt8.ofNat ((65535 - data.length) / 256 % 256)).toNat = 65535 - data.length := by
    rw [hlow]
    omega
  rw [storedBlock, le16, le16]
  simp only [List.cons_append, List.nil_append]
  rw [inflateStored]
  simp only [hlen, hnlen]
  rw [if_neg]
  · cases final with
    | true => simp
    | false => simp
  -- nothing that the reader turns away is the case
  · rintro (hflags | hcomplement | hshort)
    · cases final with
      | true => exact hflags rfl
      | false => exact hflags rfl
    · omega
    · rw [List.length_append] at hshort
      omega

/-- Data cut into blocks is read back, whatever follows it. -/
theorem inflateStored_storedBlocks (data rest : List UInt8) :
    inflateStored (storedBlocks data ++ rest) = some (data, rest) := by
  induction data using storedBlocks.induct with
  | case1 data hlast =>
      rw [storedBlocks, if_pos hlast, inflateStored_block true hlast]
      rfl
  | case2 data hmore ih =>
      have htake : (data.take maxStored).length ≤ maxStored := by
        rw [List.length_take]
        exact Nat.min_le_left _ _
      rw [storedBlocks, if_neg hmore, List.append_assoc, inflateStored_block false htake, ih]
      simp

/-- Each full block, and the rest, takes five bytes more. -/
theorem storedBlocks_length {data : List UInt8} (h : data ≠ []) :
    (storedBlocks data).length = data.length + 5 * ((data.length + maxStored - 1) / maxStored) := by
  induction data using storedBlocks.induct with
  | case1 data hlast =>
      have hpos := List.length_pos_iff.mpr h
      rw [storedBlocks, if_pos hlast, storedBlock_length]
      rw [maxStored] at *
      omega
  | case2 data hmore ih =>
      -- a full block is followed by a rest, so that the number of blocks goes down by one
      have hrest : data.drop maxStored ≠ [] := fun hnil => hmore (List.drop_eq_nil_iff.mp hnil)
      rw [storedBlocks, if_neg hmore, List.length_append, storedBlock_length, ih hrest, List.length_take,
        List.length_drop]
      rw [maxStored] at *
      omega

/-! ## Streams -/

/-- A number of four bytes, the highest first. -/
def be32 (b0 b1 b2 b3 : UInt8) : Nat :=
  b0.toNat * 2 ^ 24 + b1.toNat * 2 ^ 16 + b2.toNat * 2 ^ 8 + b3.toNat

/-- What a reader finds in a zlib stream of stored blocks: the header, without a dictionary; the blocks; and
the checksum of their data, with nothing behind it. -/
def decodeStored : List UInt8 → Option (List UInt8)
  | cmf :: flg :: body =>
      if cmf &&& 15 = 8 ∧ cmf >>> 4 ≤ 7 ∧ (cmf.toNat * 256 + flg.toNat) % 31 = 0 ∧ flg &&& 32 = 0 then
        match inflateStored body with
        | some (data, [b0, b1, b2, b3]) => if be32 b0 b1 b2 b3 = adler32 data then some data else none
        | _ => none
      else
        none
  | _ => none

/-- The header 0x78 0x01, the blocks of the data and its checksum are read as the data. -/
theorem decodeStored_eq {data : List UInt8} {b0 b1 b2 b3 : UInt8} (h : be32 b0 b1 b2 b3 = adler32 data) :
    decodeStored (0x78 :: 0x01 :: (storedBlocks data ++ [b0, b1, b2, b3])) = some data := by
  rw [decodeStored, if_pos (by decide), inflateStored_storedBlocks]
  exact if_pos h

end Zlib
