import MagiStack.Core.Bytes
import MagiStack.Core.Text
import MagiStack.Library.CheckedBuffer
import MagiStack.Library.Crc
import MagiStack.Library.Zlib

/-!
# PngExport — the image writer of the GUI

Embedding of the PNG export of `gui/app.c`: the CRC-32 from a table, the chunks, Adler-32, and
`png_save_rgb`, which puts the rows of an image into a zlib stream of stored blocks.  Every access to the
pixels and to the two allocations is checked.  The index of a row of pixels is an `int`, and its product
overflows for large images.
-/

namespace MagiStack

open CheckedBuffer

/-! ## CRC-32 -/

/-- The polynomial of CRC-32, reflected. -/
def crc32Polynomial : BitVec 32 := 0xEDB88320

/-- The inner loop of `crc32_init_table`, with `k` rounds left. -/
def crc32TableEntry : Nat → UInt32 → UInt32
  | 0, c => c
  | k + 1, c => crc32TableEntry k (if c &&& 1 ≠ 0 then (0xEDB88320 : UInt32) ^^^ (c >>> 1) else c >>> 1)

/-- `crc32_table` after `crc32_init_table`. -/
def crc32Table : Vector UInt32 256 :=
  Vector.ofFn fun n => crc32TableEntry 8 (UInt32.ofNat n.val)

/-- The loop of `crc32_update`. -/
def crc32Loop (crc : UInt32) (data : List UInt8) : UInt32 :=
  data.foldl
    (fun crc b => crc32Table[Fin.ofNat 256 ((crc ^^^ b.toUInt32) &&& 0xFF).toNat] ^^^ (crc >>> 8)) crc

/-- `crc32_update`. -/
def crc32Update (crc : UInt32) (data : List UInt8) : UInt32 :=
  crc32Loop (crc ^^^ 0xFFFFFFFF) data ^^^ 0xFFFFFFFF

theorem crc32TableEntry_eq (k : Nat) (c : UInt32) :
    (crc32TableEntry k c).toBitVec = Crc.steps crc32Polynomial k c.toBitVec := by
  induction k generalizing c with
  | zero => rfl
  | succ k ih =>
      -- the test of the loop is that of the lowest bit
      have hlow : c &&& 1 ≠ 0 ↔ c.toBitVec.getLsbD 0 = true := by
        rw [ne_eq, ← UInt32.toBitVec_inj, UInt32.toBitVec_and]
        change ¬ c.toBitVec &&& 1#32 = 0#32 ↔ _
        rw [BitVec.and_one_eq_setWidth_ofBool_getLsbD]
        cases c.toBitVec.getLsbD 0 with
        | false => simp
        | true => simp
      rw [crc32TableEntry, ih, Crc.steps, Crc.step]
      congr 1
      by_cases hbit : c.toBitVec.getLsbD 0 = true
      · rw [if_pos (hlow.mpr hbit), if_pos hbit, UInt32.toBitVec_xor, UInt32.toBitVec_shiftRight,
          BitVec.xor_comm]
        rfl
      · rw [if_neg fun h => hbit (hlow.mp h), if_neg hbit, UInt32.toBitVec_shiftRight]
        rfl

/-- One look into the table takes in one byte. -/
theorem crc32Loop_byte (crc : UInt32) (b : UInt8) :
    (crc32Loop crc [b]).toBitVec = (Crc.byteBits b).foldl (Crc.takeBit crc32Polynomial) crc.toBitVec := by
  have hindex : ((crc ^^^ b.toUInt32) &&& 0xFF).toNat < 256 := by
    rw [UInt32.toNat_and]
    exact Nat.lt_of_le_of_lt Nat.and_le_right (by decide)
  have hentry : crc32Table[Fin.ofNat 256 ((crc ^^^ b.toUInt32) &&& 0xFF).toNat] =
      crc32TableEntry 8 ((crc ^^^ b.toUInt32) &&& 0xFF) := by
    rw [crc32Table, Fin.getElem_fin, Vector.getElem_ofFn, Fin.val_ofNat, Nat.mod_eq_of_lt hindex,
      UInt32.ofNat_toNat]
  have hbyte : b.toUInt32.toBitVec = BitVec.ofNat 32 b.toNat := by
    apply BitVec.eq_of_toNat_eq
    simp
  rw [crc32Loop, List.foldl_cons, List.foldl_nil, hentry, UInt32.toBitVec_xor, crc32TableEntry_eq,
    UInt32.toBitVec_and, UInt32.toBitVec_xor, UInt32.toBitVec_shiftRight, hbyte,
    Crc.takeByte_eq (by decide)]
  rfl

/-- The loop takes in the bits of all bytes. -/
theorem crc32Loop_eq (crc : UInt32) (data : List UInt8) :
    (crc32Loop crc data).toBitVec = Crc.takeBytes crc32Polynomial crc.toBitVec data := by
  induction data generalizing crc with
  | nil => rfl
  | cons b data ih =>
      have hsplit : crc32Loop crc (b :: data) = crc32Loop (crc32Loop crc [b]) data := rfl
      rw [hsplit, ih, crc32Loop_byte]
      rfl

/-- Two pieces of data one after the other are one piece. -/
theorem crc32Update_append (crc : UInt32) (start rest : List UInt8) :
    crc32Update (crc32Update crc start) rest = crc32Update crc (start ++ rest) := by
  -- the complement at the end of one call is undone at the start of the next
  rw [crc32Update, crc32Update, crc32Update, UInt32.xor_assoc _ 0xFFFFFFFF 0xFFFFFFFF, UInt32.xor_self,
    UInt32.xor_zero, crc32Loop, crc32Loop, crc32Loop, List.foldl_append]

/-- From zero, the value is the CRC-32 of the data. -/
theorem crc32Update_zero (data : List UInt8) :
    (crc32Update 0 data).toBitVec = Crc.check crc32Polynomial data := by
  rw [crc32Update, UInt32.toBitVec_xor, crc32Loop_eq, Crc.check, ← BitVec.xor_allOnes]
  rfl

/-! ## Adler-32 -/

/-- The loop of `adler32_calc`: `a` and `b`. -/
def adler32Loop (data : List UInt8) : UInt32 × UInt32 :=
  data.foldl (fun sums byte =>
    let a := (sums.1 + byte.toUInt32) % 65521
    (a, (sums.2 + a) % 65521)) (1, 0)

/-- `adler32_calc`. -/
def adler32Calc (data : List UInt8) : UInt32 :=
  ((adler32Loop data).2 <<< 16) ||| (adler32Loop data).1

/-- The sums stay below the modulus, so that nothing overflows. -/
theorem adler32Loop_eq (data : List UInt8) :
    (adler32Loop data).1.toNat = Zlib.adlerA data ∧ (adler32Loop data).2.toNat = Zlib.adlerB data := by
  induction data using List.reverseRecOn with
  | nil => exact ⟨rfl, rfl⟩
  | append_singleton data byte ih =>
      obtain ⟨ha, hb⟩ := ih
      have hlta := Zlib.adlerA_lt data
      have hltb := Zlib.adlerB_lt data
      have hbyte := byte.toNat_lt
      have hnewA : (adler32Loop (data ++ [byte])).1.toNat = Zlib.adlerA (data ++ [byte]) := by
        rw [adler32Loop, List.foldl_concat, ← adler32Loop, Zlib.adlerA_concat]
        simp only [UInt32.toNat_mod, UInt32.toNat_add, ha, UInt8.toNat_toUInt32]
        rw [Zlib.adlerModulus] at *
        rw [Nat.mod_eq_of_lt (show Zlib.adlerA data + byte.toNat < 2 ^ 32 by omega)]
        rfl
      refine ⟨hnewA, ?_⟩
      have hltnew := Zlib.adlerA_lt (data ++ [byte])
      have hstep : (adler32Loop (data ++ [byte])).2 =
          ((adler32Loop data).2 + (adler32Loop (data ++ [byte])).1) % 65521 := by
        rw [adler32Loop, adler32Loop, List.foldl_concat]
      rw [hstep, Zlib.adlerB_concat]
      simp only [UInt32.toNat_mod, UInt32.toNat_add, hb, hnewA]
      rw [Zlib.adlerModulus] at *
      rw [Nat.mod_eq_of_lt (show Zlib.adlerB data + Zlib.adlerA (data ++ [byte]) < 2 ^ 32 by omega)]
      rfl

/-- The two sums, one behind the other, are Adler-32. -/
theorem adler32Calc_eq (data : List UInt8) : (adler32Calc data).toNat = Zlib.adler32 data := by
  obtain ⟨ha, hb⟩ := adler32Loop_eq data
  have hlta : (adler32Loop data).1.toNat < 2 ^ 16 := by
    rw [ha]
    exact (Zlib.adlerA_lt data).trans (by decide)
  have hltb : (adler32Loop data).2.toNat < 2 ^ 16 := by
    rw [hb]
    exact (Zlib.adlerB_lt data).trans (by decide)
  rw [adler32Calc, UInt32.toNat_or, UInt32.toNat_shiftLeft, Zlib.adler32, ← ha, ← hb]
  change ((adler32Loop data).2.toNat <<< 16 % 2 ^ 32) ||| _ = _
  rw [Nat.shiftLeft_eq, Nat.mod_eq_of_lt (by omega), ← Nat.shiftLeft_eq, ← Nat.shiftLeft_add_eq_or_of_lt hlta,
    Nat.shiftLeft_eq]

/-! ## Chunks -/

/-- What `png_write_chunk` writes. -/
structure PngChunk where
  length : UInt32
  type : Text
  data : List UInt8
  crc : UInt32
  deriving DecidableEq

/-- The bytes of a chunk in the file. -/
def PngChunk.bytes (chunk : PngChunk) : List UInt8 :=
  writeU32Be chunk.length ++ chunk.type ++ chunk.data ++ writeU32Be chunk.crc

/-- `png_write_chunk`; `data` is `none` for `NULL`. -/
def pngWriteChunk (type : Text) (data : Option (List UInt8)) (len : UInt32) : Access PngChunk :=
  let crc := crc32Update 0 type
  match data with
  | some data =>
      if 0 < len then do
        let written ← loadAt data 0 len.toNat
        pure { length := len, type := type, data := written, crc := crc32Update crc written }
      else
        pure { length := len, type := type, data := [], crc := crc }
  | none => pure { length := len, type := type, data := [], crc := crc }

/-- The CRC of a chunk is the one of its type and its data together. -/
theorem pngWriteChunk_crc {type : Text} {data : Option (List UInt8)} {len : UInt32} {chunk : PngChunk}
    (h : pngWriteChunk type data len = .ok chunk) :
    chunk.crc.toBitVec = Crc.check crc32Polynomial (chunk.type ++ chunk.data) := by
  rw [← crc32Update_zero]
  cases data with
  | none =>
      cases h
      rw [List.append_nil]
  | some data =>
      rw [pngWriteChunk] at h
      by_cases hlen : 0 < len
      · rw [if_pos hlen, loadAt] at h
        split at h
        · cases h
          rw [crc32Update_append]
        · cases h
      · rw [if_neg hlen] at h
        cases h
        rw [List.append_nil]

/-- A chunk as the format has it: the length of the data, the type, the data, and the CRC-32 of both. -/
def pngChunkFormat (type : Text) (data : List UInt8) : List UInt8 :=
  writeU32Be (UInt32.ofNat data.length) ++ type ++ data ++
    writeU32Be (UInt32.ofBitVec (Crc.check crc32Polynomial (type ++ data)))

theorem PngChunk.bytes_eq {chunk : PngChunk} (hlength : chunk.length = UInt32.ofNat chunk.data.length)
    (hcrc : chunk.crc.toBitVec = Crc.check crc32Polynomial (chunk.type ++ chunk.data)) :
    chunk.bytes = pngChunkFormat chunk.type chunk.data := by
  rw [PngChunk.bytes, pngChunkFormat, hlength, ← hcrc]

/-- A chunk is written if the data has as many bytes as the length says; and it has the format if that is
all of the data. -/
theorem pngWriteChunk_ok {type : Text} {data : List UInt8} {len : UInt32} (h : len.toNat ≤ data.length) :
    ∃ chunk, pngWriteChunk type (some data) len = .ok chunk ∧
      (len.toNat = data.length → chunk.bytes = pngChunkFormat type data) := by
  by_cases hlen : 0 < len
  · have hload : loadAt data 0 len.toNat = .ok (data.take len.toNat) :=
      loadAt_eq (by rw [Nat.zero_add]; exact h)
    have hwritten : pngWriteChunk type (some data) len =
        .ok ⟨len, type, data.take len.toNat, crc32Update (crc32Update 0 type) (data.take len.toNat)⟩ := by
      simp only [pngWriteChunk, if_pos hlen, hload]
      rfl
    refine ⟨_, hwritten, fun hall => ?_⟩
    have hdata : data.take len.toNat = data := List.take_of_length_le hall.ge
    have hbytes := PngChunk.bytes_eq (by rw [hdata, ← hall, UInt32.ofNat_toNat])
      (pngWriteChunk_crc hwritten)
    rw [hbytes, hdata]
  · have hwritten : pngWriteChunk type (some data) len = .ok ⟨len, type, [], crc32Update 0 type⟩ := by
      simp only [pngWriteChunk, if_neg hlen]
      rfl
    refine ⟨_, hwritten, fun hall => ?_⟩
    have hzero : len.toNat = 0 := by
      rw [UInt32.lt_iff_toNat_lt] at hlen
      exact Nat.le_zero.mp (Nat.not_lt.mp hlen)
    have hdata : data = [] := List.length_eq_zero_iff.mp (hall.symm.trans hzero)
    rw [hdata]
    exact PngChunk.bytes_eq (UInt32.toNat_inj.mp hzero) (pngWriteChunk_crc hwritten)

/-- A chunk without data has the format. -/
theorem pngWriteChunk_none (type : Text) :
    pngWriteChunk type none 0 = .ok ⟨0, type, [], crc32Update 0 type⟩ ∧
      (⟨0, type, [], crc32Update 0 type⟩ : PngChunk).bytes = pngChunkFormat type [] :=
  ⟨rfl, PngChunk.bytes_eq rfl (@pngWriteChunk_crc type none 0 _ rfl)⟩

/-! ## Images -/

/-- The pixels of an image: three bytes each, row by row.  Width and height are of type `int`. -/
structure PngImage where
  w : Nat
  h : Nat
  pixels : List UInt8
  w_pos : 1 ≤ w
  h_pos : 1 ≤ h
  w_int : w < 2 ^ 31
  h_int : h < 2 ^ 31
  pixels_length : pixels.length = h * (w * 3)

namespace PngImage

variable (img : PngImage)

/-- `raw_row`. -/
def rawRow : Nat := 1 + img.w * 3

/-- `raw_size`. -/
def rawSize : Nat := img.rawRow * img.h

/-- `deflate_size`. -/
def deflateSize : Nat := 2 + img.rawSize + 5 * ((img.rawSize + 65535 - 1) / 65535) + 4

/-- The sizes fit a `size_t`. -/
theorem deflateSize_lt : img.deflateSize < 2 ^ 64 := by
  have hw := img.w_int
  have hh := img.h_int
  have hraw : img.rawSize ≤ (1 + (2 ^ 31 - 1) * 3) * (2 ^ 31 - 1) :=
    Nat.mul_le_mul (by rw [rawRow]; omega) (by omega)
  rw [deflateSize]
  omega

/-- A zero byte and the bytes of a row. -/
def row (y : Nat) : List UInt8 :=
  0 :: (img.pixels.drop (y * img.w * 3)).take (img.w * 3)

/-- `count` rows from row `y` on. -/
def rows (y count : Nat) : List UInt8 :=
  (List.range' y count).flatMap img.row

/-- What an image is to be decoded to: all rows. -/
def scanlines : List UInt8 := img.rows 0 img.h

theorem row_length {y : Nat} (h : y < img.h) : (img.row y).length = img.rawRow := by
  have hpixels := img.pixels_length
  have hend : (y + 1) * (img.w * 3) ≤ img.h * (img.w * 3) := Nat.mul_le_mul_right _ h
  rw [row, List.length_cons, List.length_take, List.length_drop, rawRow, hpixels, Nat.mul_assoc]
  rw [Nat.add_mul, Nat.one_mul] at hend
  omega

theorem rows_cons (y count : Nat) : img.rows y (count + 1) = img.row y ++ img.rows (y + 1) count := by
  rw [rows, List.range'_succ, List.flatMap_cons, rows]

theorem rows_length {y count : Nat} (h : y + count ≤ img.h) :
    (img.rows y count).length = count * img.rawRow := by
  induction count generalizing y with
  | zero => simp [rows]
  | succ count ih =>
      rw [rows_cons, List.length_append, img.row_length (by omega), ih (by omega), Nat.add_mul, Nat.one_mul,
        Nat.add_comm]

theorem scanlines_length : img.scanlines.length = img.rawSize := by
  rw [scanlines, img.rows_length (by omega), rawSize, Nat.mul_comm]

end PngImage

/-! ## Saving -/

/-- The pixels of row `y`.  The product `y * w * 3` is of type `int`; one that overflows is no index. -/
def pngPixelRow (img : PngImage) (y : Nat) : Access (List UInt8) :=
  if y * img.w * 3 < 2 ^ 31 then loadAt img.pixels (y * img.w * 3) (img.w * 3)
  else .error (.read (y * img.w * 3))

/-- The loop that fills `raw`, from row `y` on with `left` rows to go. -/
def pngFillRows (img : PngImage) : Nat → Nat → List UInt8 → Access (List UInt8)
  | 0, _, raw => pure raw
  | left + 1, y, raw => do
      let raw ← storeAt raw (y * img.rawRow) [0]
      let pixels ← pngPixelRow img y
      let raw ← storeAt raw (y * img.rawRow + 1) pixels
      pngFillRows img left (y + 1) raw

/-- `max_block`. -/
def pngMaxBlock : Nat := 65535

/-- The loop that writes the stored blocks; the five bytes before a block are stored together. -/
def pngStoreBlocks (raw : List UInt8) (remaining srcOff zpos : Nat) (zdata : List UInt8) :
    Access (Nat × List UInt8) :=
  if remaining = 0 then
    pure (zpos, zdata)
  else do
    let block := if pngMaxBlock < remaining then pngMaxBlock else remaining
    let isFinal : UInt8 := if remaining ≤ pngMaxBlock then 1 else 0
    let zdata ← storeAt zdata zpos
      [isFinal, UInt8.ofNat (block % 256), UInt8.ofNat (block / 256 % 256),
        UInt8.ofNat ((2 ^ 64 - 1 - block) % 256), UInt8.ofNat ((2 ^ 64 - 1 - block) / 256 % 256)]
    let part ← loadAt raw srcOff block
    let zdata ← storeAt zdata (zpos + 5) part
    pngStoreBlocks raw (remaining - block) (srcOff + block) (zpos + 5 + block) zdata
  termination_by remaining
  decreasing_by
    rw [pngMaxBlock]
    split
    all_goals omega

/-- What `png_save_rgb` has made: `zpos` and `zdata`, and the chunks it has written. -/
structure PngSaved where
  zpos : Nat
  zdata : List UInt8
  chunks : List PngChunk

/-- The payload of the `IDAT` chunk. -/
def PngSaved.payload (saved : PngSaved) : List UInt8 :=
  saved.zdata.take saved.zpos

/-- `sig`. -/
def pngSignature : List UInt8 := [137, 80, 78, 71, 13, 10, 26, 10]

/-- The bytes of the file. -/
def PngSaved.bytes (saved : PngSaved) : List UInt8 :=
  pngSignature ++ saved.chunks.flatMap PngChunk.bytes

/-- `ihdr`: the size, eight bits for each of three colours, and no interlacing. -/
def pngIhdr (img : PngImage) : List UInt8 :=
  writeU32Be (UInt32.ofNat img.w) ++ writeU32Be (UInt32.ofNat img.h) ++ [8, 2, 0, 0, 0]

/-- `png_save_rgb` of an image, when the file can be opened and memory be had; `malloc` gives memory of any
content. -/
def pngSaveRgb (malloc : (n : Nat) → Vector UInt8 n) (img : PngImage) : Access PngSaved := do
  let header ← pngWriteChunk (text "IHDR") (some (pngIhdr img)) 13
  let raw ← pngFillRows img img.h 0 (malloc img.rawSize).toList
  let adler := adler32Calc raw
  let zdata ← storeAt (malloc img.deflateSize).toList 0 [0x78, 0x01]
  let (zpos, zdata) ← pngStoreBlocks raw img.rawSize 0 2 zdata
  let zdata ← storeAt zdata zpos (writeU32Be adler)
  let zpos := zpos + 4
  let idat ← pngWriteChunk (text "IDAT") (some zdata) (UInt32.ofNat zpos)
  let iend ← pngWriteChunk (text "IEND") none 0
  pure { zpos := zpos, zdata := zdata, chunks := [header, idat, iend] }

/-! ## The rows -/

/-- A row is read unless its index overflows. -/
theorem pngPixelRow_faultsUnless (img : PngImage) {y : Nat} (h : y < img.h) :
    FaultsUnless (pngPixelRow img y) ((img.pixels.drop (y * img.w * 3)).take (img.w * 3))
      (y * img.w * 3 < 2 ^ 31) := by
  refine ⟨fun hfits => ?_, fun hover => ⟨_, if_neg hover⟩⟩
  have hpixels := img.pixels_length
  have hend : (y + 1) * (img.w * 3) ≤ img.h * (img.w * 3) := Nat.mul_le_mul_right _ h
  rw [pngPixelRow, if_pos hfits, loadAt_eq]
  rw [Nat.add_mul, Nat.one_mul, ← Nat.mul_assoc] at hend
  omega

/-- The loop fills in one row after another, unless the index of one overflows. -/
theorem pngFillRows_faultsUnless (img : PngImage) (left : Nat) {y : Nat} {done rest : List UInt8}
    (hy : y + left = img.h) (hdone : done.length = y * img.rawRow) (hrest : rest.length = left * img.rawRow) :
    FaultsUnless (pngFillRows img left y (done ++ rest)) (done ++ img.rows y left)
      (∀ row, y ≤ row → row < img.h → row * img.w * 3 < 2 ^ 31) := by
  induction left generalizing y done rest with
  | zero =>
      obtain rfl : rest = [] := List.length_eq_zero_iff.mp (by rw [hrest, Nat.zero_mul])
      refine FaultsUnless.of_ok ?_ fun row hrow hlt => by omega
      rw [pngFillRows, PngImage.rows]
      rfl
  | succ left ih =>
      have hlt : y < img.h := by omega
      have hrow := img.row_length hlt
      rw [PngImage.row, List.length_cons] at hrow
      generalize hpixels : (img.pixels.drop (y * img.w * 3)).take (img.w * 3) = pixels at hrow
      -- What is left of `raw` holds this row and those that follow.
      have hlong : (1 + pixels.length) + left * img.rawRow = rest.length := by
        rw [hrest, Nat.add_mul, Nat.one_mul, ← hrow]
        omega
      have hfirst : storeAt (done ++ rest) (y * img.rawRow) [0] = .ok (done ++ [0] ++ rest.drop 1) := by
        rw [← hdone]
        exact storeAt_append done (by simp only [List.length_singleton]; omega)
      have hsecond : storeAt (done ++ [0] ++ rest.drop 1) (y * img.rawRow + 1) pixels =
          .ok (done ++ [0] ++ pixels ++ (rest.drop 1).drop pixels.length) := by
        have hat : (done ++ [0]).length = y * img.rawRow + 1 := by simp [hdone]
        rw [← hat]
        exact storeAt_append _ (by rw [List.length_drop]; omega)
      have hnext := @ih (y + 1) (done ++ [0] ++ pixels) ((rest.drop 1).drop pixels.length) (by omega)
        (by
          rw [List.length_append, List.length_append, hdone, List.length_singleton, Nat.add_mul, Nat.one_mul,
            ← hrow]
          omega)
        (by
          rw [List.length_drop, List.length_drop]
          omega)
      have hread := pngPixelRow_faultsUnless img hlt
      rw [hpixels] at hread
      have hvalue : done ++ [0] ++ pixels ++ img.rows (y + 1) left = done ++ img.rows y (left + 1) := by
        rw [img.rows_cons, PngImage.row, hpixels]
        simp
      rw [pngFillRows, ← hvalue]
      refine ((FaultsUnless.of_ok hfirst trivial).bind (hread.bind
        ((FaultsUnless.of_ok hsecond trivial).bind hnext))).congr ?_
      simp only [true_and]
      -- This row's index and the later ones' are the indices from this row on.
      constructor
      · rintro ⟨hfits, hlater⟩ row hle hlt'
        rcases Nat.eq_or_lt_of_le hle with rfl | hgt
        · exact hfits
        · exact hlater row hgt hlt'
      · exact fun hall => ⟨hall y (le_refl y) hlt, fun row hle hlt' => hall row (by omega) hlt'⟩

/-! ## The blocks -/

/-- The five bytes that are stored before a block are those of a stored block. -/
theorem pngBlockHeader_eq (final : Bool) {part : List UInt8} (h : part.length ≤ 65535) :
    [if final then 1 else 0, UInt8.ofNat (part.length % 256), UInt8.ofNat (part.length / 256 % 256),
        UInt8.ofNat ((2 ^ 64 - 1 - part.length) % 256), UInt8.ofNat ((2 ^ 64 - 1 - part.length) / 256 % 256)] ++
      part = Zlib.storedBlock final part := by
  -- The complement of a `size_t` and that of sixteen bits have the same two low bytes.
  have hlow : (2 ^ 64 - 1 - part.length) % 256 = (65535 - part.length) % 256 := by omega
  have hhigh : (2 ^ 64 - 1 - part.length) / 256 % 256 = (65535 - part.length) / 256 % 256 := by omega
  rw [hlow, hhigh]
  rfl

/-- One round of the loop writes one stored block behind what is done. -/
theorem pngStoreBlocks_round {final : Bool} {part after before done left : List UInt8} (hpart : part ≠ [])
    (hmax : part.length ≤ pngMaxBlock) (hfinal : final = true ↔ after = [])
    (hfull : after ≠ [] → part.length = pngMaxBlock)
    (hroom : (Zlib.storedBlock final part).length ≤ left.length) :
    pngStoreBlocks (before ++ (part ++ after)) (part ++ after).length before.length done.length
        (done ++ left) =
      pngStoreBlocks (before ++ (part ++ after)) after.length (before ++ part).length
        (done ++ Zlib.storedBlock final part).length
        (done ++ Zlib.storedBlock final part ++ left.drop (Zlib.storedBlock final part).length) := by
  have hpos := List.length_pos_iff.mpr hpart
  have hblock : (if pngMaxBlock < (part ++ after).length then pngMaxBlock else (part ++ after).length) =
      part.length := by
    rw [List.length_append]
    by_cases hnil : after = []
    · rw [hnil, List.length_nil, if_neg (by omega), Nat.add_zero]
    · have := List.length_pos_iff.mpr hnil
      rw [← hfull hnil, if_pos (by omega)]
  -- The flag is that of the last round, and only the last block can be short.
  have hflag : (if (part ++ after).length ≤ pngMaxBlock then (1 : UInt8) else 0) =
      if final then 1 else 0 := by
    refine if_congr ?_ rfl rfl
    rw [hfinal, List.length_append]
    constructor
    · intro hle
      by_contra hnil
      have := List.length_pos_iff.mpr hnil
      have := hfull hnil
      omega
    · rintro rfl
      simpa using hmax
  have hlength := Zlib.storedBlock_length final part
  have hheader := pngBlockHeader_eq final hmax
  generalize hfive : [if final then 1 else 0, UInt8.ofNat (part.length % 256),
    UInt8.ofNat (part.length / 256 % 256), UInt8.ofNat ((2 ^ 64 - 1 - part.length) % 256),
    UInt8.ofNat ((2 ^ 64 - 1 - part.length) / 256 % 256)] = five at hheader
  have hfiveLength : five.length = 5 := by rw [← hfive]; rfl
  have hfirst := storeAt_append done (show five.length ≤ left.length by omega)
  have hload : loadAt (before ++ (part ++ after)) before.length part.length = .ok part := by
    rw [loadAt_eq (by simp), List.drop_left, List.take_left]
  have hsecond : storeAt (done ++ five ++ left.drop five.length) (done.length + 5) part =
      .ok (done ++ Zlib.storedBlock final part ++ left.drop (Zlib.storedBlock final part).length) := by
    have hat : (done ++ five).length = done.length + 5 := by rw [List.length_append, hfiveLength]
    rw [← hat, storeAt_append _ (by rw [List.length_drop]; omega), List.drop_drop, List.append_assoc done,
      hheader, hlength, hfiveLength]
  rw [pngStoreBlocks, if_neg (by rw [List.length_append]; omega)]
  simp only [hblock, hflag, hfive, hfirst, hload, hsecond, bind, Except.bind]
  congr 1
  · rw [List.length_append]
    omega
  · rw [List.length_append]
  · rw [List.length_append, hlength]
    omega

/-- The loop writes the stored blocks of the data, and nothing behind them. -/
theorem pngStoreBlocks_eq (data : List UInt8) (hne : data ≠ []) (before done left : List UInt8)
    (hroom : (Zlib.storedBlocks data).length ≤ left.length) :
    pngStoreBlocks (before ++ data) data.length before.length done.length (done ++ left) =
      .ok ((done ++ Zlib.storedBlocks data).length,
        done ++ Zlib.storedBlocks data ++ left.drop (Zlib.storedBlocks data).length) := by
  induction data using Zlib.storedBlocks.induct generalizing before done left with
  | case1 data hlast =>
      rw [Zlib.storedBlocks, if_pos hlast] at hroom ⊢
      have hround := @pngStoreBlocks_round true data [] before done left hne hlast (by simp) (by simp) hroom
      rw [List.append_nil] at hround
      rw [hround, List.length_nil, pngStoreBlocks, if_pos rfl]
      rfl
  | case2 data hmore ih =>
      rw [Zlib.storedBlocks, if_neg hmore] at hroom ⊢
      have hlong : Zlib.maxStored < data.length := by omega
      have hrest : data.drop Zlib.maxStored ≠ [] := fun hnil => hmore (List.drop_eq_nil_iff.mp hnil)
      have hlength : (data.take Zlib.maxStored).length = pngMaxBlock := by
        rw [List.length_take]
        exact Nat.min_eq_left hlong.le
      -- From here on the data is one full block and what comes after it.
      have hsplit : data.take Zlib.maxStored ++ data.drop Zlib.maxStored = data :=
        List.take_append_drop _ data
      generalize data.take Zlib.maxStored = part at *
      generalize data.drop Zlib.maxStored = after at *
      subst hsplit
      have hpart : part ≠ [] := fun hnil => by
        rw [hnil, List.length_nil, pngMaxBlock] at hlength
        omega
      rw [List.length_append] at hroom
      have hround := @pngStoreBlocks_round false part after before done left hpart hlength.le
        (by simpa using hrest) (fun _ => hlength) (by omega)
      have hnext := ih hrest (before ++ part) (done ++ Zlib.storedBlock false part)
        (left.drop (Zlib.storedBlock false part).length) (by rw [List.length_drop]; omega)
      rw [List.append_assoc before] at hnext
      rw [hround, hnext, List.drop_drop, List.append_assoc done, ← List.length_append]

/-! ## The payload -/

/-- The zlib stream of an image. -/
def pngStream (img : PngImage) : List UInt8 :=
  [0x78, 0x01] ++ Zlib.storedBlocks img.scanlines ++ writeU32Be (adler32Calc img.scanlines)

theorem PngImage.scanlines_ne_nil (img : PngImage) : img.scanlines ≠ [] := by
  intro hnil
  have hlength := img.scanlines_length
  have hrow : 0 < img.rawRow := by
    rw [PngImage.rawRow]
    omega
  have hpos : 0 < img.rawSize := Nat.mul_pos hrow img.h_pos
  rw [hnil, List.length_nil] at hlength
  omega

/-- The stream is just as long as the allocation. -/
theorem pngStream_length (img : PngImage) : (pngStream img).length = img.deflateSize := by
  rw [pngStream, List.length_append, List.length_append, Zlib.storedBlocks_length img.scanlines_ne_nil,
    img.scanlines_length, writeU32Be_length, PngImage.deflateSize, Zlib.maxStored]
  simp only [List.length_cons, List.length_nil]
  omega

/-- A reader finds the rows in the stream. -/
theorem decodeStored_pngStream (img : PngImage) : Zlib.decodeStored (pngStream img) = some img.scanlines := by
  have hbytes : ∀ v : UInt32, Zlib.be32 (v >>> 24).toUInt8 (v >>> 16).toUInt8 (v >>> 8).toUInt8
      (v &&& (0xFF : UInt32)).toUInt8 = v.toNat := by
    intro v
    have hv := v.toNat_lt
    rw [lowByte_toUInt8]
    simp only [Zlib.be32, UInt32.toNat_toUInt8, UInt32.toNat_shiftRight, Nat.shiftRight_eq_div_pow]
    simp
    omega
  have hstream : pngStream img = 0x78 :: 0x01 :: (Zlib.storedBlocks img.scanlines ++
      writeU32Be (adler32Calc img.scanlines)) := by
    simp [pngStream]
  rw [hstream]
  exact Zlib.decodeStored_eq ((hbytes _).trans (adler32Calc_eq img.scanlines))

/-- The index of no row of pixels overflows an `int`. -/
def PngImage.IndexFits (img : PngImage) : Prop :=
  (img.h - 1) * img.w * 3 < 2 ^ 31

instance (img : PngImage) : Decidable img.IndexFits := inferInstanceAs (Decidable (_ < _))

theorem PngImage.indexFits_iff (img : PngImage) :
    img.IndexFits ↔ ∀ row, 0 ≤ row → row < img.h → row * img.w * 3 < 2 ^ 31 := by
  have hh := img.h_pos
  constructor
  · intro hfits row _ hrow
    refine Nat.lt_of_le_of_lt ?_ hfits
    exact Nat.mul_le_mul_right 3 (Nat.mul_le_mul_right img.w (by omega))
  · exact fun hall => hall (img.h - 1) (Nat.zero_le _) (by omega)

section Save

variable (malloc : (n : Nat) → Vector UInt8 n) (img : PngImage)

/-- The rows are filled in unless an index overflows. -/
theorem pngFillRows_image :
    FaultsUnless (pngFillRows img img.h 0 (malloc img.rawSize).toList) img.scanlines img.IndexFits := by
  refine (@pngFillRows_faultsUnless img img.h 0 [] (malloc img.rawSize).toList (Nat.zero_add _)
    (Nat.zero_mul _).symm ?_).congr img.indexFits_iff.symm
  rw [Vector.length_toList, PngImage.rawSize, Nat.mul_comm]

/-- Without an overflow, the allocation is filled with the stream, to its end; and if its length fits 32
bits, the file is the signature and three chunks as the format has them. -/
theorem pngSaveRgb_ok (h : img.IndexFits) :
    ∃ saved, pngSaveRgb malloc img = .ok saved ∧ saved.zpos = img.deflateSize ∧
      saved.zdata = pngStream img ∧
      (∀ chunk ∈ saved.chunks, chunk.crc.toBitVec = Crc.check crc32Polynomial (chunk.type ++ chunk.data)) ∧
      (img.deflateSize < 2 ^ 32 →
        saved.bytes = pngSignature ++ pngChunkFormat (text "IHDR") (pngIhdr img) ++
          pngChunkFormat (text "IDAT") (pngStream img) ++ pngChunkFormat (text "IEND") []) := by
  obtain ⟨header, hheader, hheaderBytes⟩ := @pngWriteChunk_ok (text "IHDR") (pngIhdr img) 13 (le_refl 13)
  obtain ⟨idat, hidat, hidatBytes⟩ := @pngWriteChunk_ok (text "IDAT") (pngStream img)
    (UInt32.ofNat img.deflateSize) (by
      rw [UInt32.toNat_ofNat', pngStream_length]
      exact Nat.mod_le _ _)
  obtain ⟨hiend, hiendBytes⟩ := pngWriteChunk_none (text "IEND")
  generalize (⟨0, text "IEND", [], crc32Update 0 (text "IEND")⟩ : PngChunk) = iend at hiend hiendBytes
  have hrows := (pngFillRows_image malloc img).gives h
  -- What is stored fits, because the stream is just as long as the allocation.
  have hlength := pngStream_length img
  rw [pngStream, List.length_append, List.length_append, writeU32Be_length] at hlength
  generalize hmemory : (malloc img.deflateSize).toList = memory
  have hsize : memory.length = img.deflateSize := by rw [← hmemory, Vector.length_toList]
  have hstart := @storeAt_append [] memory [0x78, 0x01] (by
    simp only [List.length_cons, List.length_nil]
    omega)
  rw [List.nil_append, List.nil_append, List.length_nil] at hstart
  have hblocks := pngStoreBlocks_eq img.scanlines img.scanlines_ne_nil [] [0x78, 0x01]
    (memory.drop ([0x78, 0x01] : List UInt8).length) (by
      rw [List.length_drop]
      omega)
  rw [List.nil_append, img.scanlines_length, List.length_nil] at hblocks
  have hadler := storeAt_append ([0x78, 0x01] ++ Zlib.storedBlocks img.scanlines)
    (show (writeU32Be (adler32Calc img.scanlines)).length ≤
      ((memory.drop ([0x78, 0x01] : List UInt8).length).drop (Zlib.storedBlocks img.scanlines).length).length by
        rw [List.length_drop, List.length_drop, writeU32Be_length]
        omega)
  -- Nothing is left behind the checksum.
  have hrest : (((memory.drop ([0x78, 0x01] : List UInt8).length).drop
      (Zlib.storedBlocks img.scanlines).length).drop (writeU32Be (adler32Calc img.scanlines)).length) = [] := by
    refine List.drop_eq_nil_of_le ?_
    rw [List.length_drop, List.length_drop, writeU32Be_length]
    omega
  rw [hrest, List.append_nil, ← pngStream] at hadler
  have hzpos : ([0x78, 0x01] ++ Zlib.storedBlocks img.scanlines).length + 4 = img.deflateSize := by
    rw [List.length_append]
    omega
  refine ⟨{ zpos := img.deflateSize, zdata := pngStream img, chunks := [header, idat, iend] }, ?_, rfl,
    rfl, ?_, ?_⟩
  · rw [pngSaveRgb, hmemory]
    simp only [hheader, hrows, hstart, bind, Except.bind]
    rw [show (2 : Nat) = ([0x78, 0x01] : List UInt8).length from rfl, hblocks]
    simp only [hadler, hzpos, hidat, hiend]
    rfl
  · intro chunk hchunk
    simp only [List.mem_cons, List.not_mem_nil, or_false] at hchunk
    rcases hchunk with rfl | rfl | rfl
    · exact pngWriteChunk_crc hheader
    · exact pngWriteChunk_crc hidat
    · exact pngWriteChunk_crc hiend
  · intro hfits
    have hlen : (UInt32.ofNat img.deflateSize).toNat = (pngStream img).length := by
      rw [UInt32.toNat_ofNat_of_lt' hfits, pngStream_length]
    rw [PngSaved.bytes, List.flatMap_cons, List.flatMap_cons, List.flatMap_cons, List.flatMap_nil,
      hheaderBytes rfl, hidatBytes hlen, hiendBytes]
    simp only [List.append_assoc, List.append_nil]

/-- With an overflow, there is no payload. -/
theorem pngSaveRgb_fault (h : ¬ img.IndexFits) : ∃ fault, pngSaveRgb malloc img = .error fault := by
  obtain ⟨fault, hrows⟩ := (pngFillRows_image malloc img).faults h
  obtain ⟨header, hheader, -⟩ := @pngWriteChunk_ok (text "IHDR") (pngIhdr img) 13 (le_refl 13)
  refine ⟨fault, ?_⟩
  rw [pngSaveRgb]
  simp only [hheader, hrows, bind, Except.bind]

/-! ## Framing -/

/-- What an export is to do: it stays inside its memory; the payload takes all of the allocation, whose size
fits a `size_t`, and is read as the rows of the image; and the CRC of every chunk is the one of its type and
data, bit by bit. -/
def PngFramed : Prop :=
  ∃ saved, pngSaveRgb malloc img = .ok saved ∧
    saved.payload.length = img.deflateSize ∧ img.deflateSize < 2 ^ 64 ∧
    Zlib.decodeStored saved.payload = some img.scanlines ∧
    ∀ chunk ∈ saved.chunks, chunk.crc.toBitVec = Crc.check crc32Polynomial (chunk.type ++ chunk.data)

/-- An image is framed as it should be, unless the index of a row of its pixels overflows an `int`. -/
theorem pngSaveRgb_framed_iff : PngFramed malloc img ↔ img.IndexFits := by
  constructor
  · rintro ⟨saved, hsaved, -⟩
    by_contra hover
    obtain ⟨fault, hfault⟩ := pngSaveRgb_fault malloc img hover
    rw [hsaved] at hfault
    cases hfault
  · intro hfits
    obtain ⟨saved, hsaved, hzpos, hzdata, hcrc, -⟩ := pngSaveRgb_ok malloc img hfits
    have hpayload : saved.payload = pngStream img := by
      rw [PngSaved.payload, hzdata, hzpos, ← pngStream_length img, List.take_length]
    refine ⟨saved, hsaved, ?_, img.deflateSize_lt, ?_, hcrc⟩
    · rw [hpayload, pngStream_length]
    · rw [hpayload, decodeStored_pngStream]

end Save

/-- A black column of three gibibytes. -/
def tallImage : PngImage where
  w := 1
  h := 2 ^ 30
  pixels := List.replicate (2 ^ 30 * 3) 0
  w_pos := le_refl 1
  h_pos := by decide
  w_int := by decide
  h_int := by decide
  pixels_length := List.length_replicate

/-- From row 715827883 on, the index of its pixels is no `int`. -/
theorem pngSaveRgb_not_framed : ¬ PngFramed (fun n => Vector.replicate n 0) tallImage := by
  rintro ⟨saved, hsaved, -⟩
  obtain ⟨fault, hfault⟩ := pngSaveRgb_fault (fun n => Vector.replicate n 0) tallImage (by decide)
  rw [hsaved] at hfault
  cases hfault

end MagiStack
