import Mathlib.Data.UInt
import Mathlib.Data.List.Basic
import Mathlib.Data.Vector.Basic

/-!
# CheckedBuffer — reads and writes that fault outside their buffer

A program over an input buffer and a fixed array, in which every access is checked: a read outside the
input or a write outside the array ends the program with a fault.  That such a program does not fault on
any input is its memory safety.
-/

namespace CheckedBuffer

/-- An access outside its buffer. -/
inductive Fault
  | read (index : Nat)
  | write (index : Nat)
  deriving DecidableEq, Repr

/-- The result of a program with checked accesses. -/
abbrev Access (α : Type) : Type := Except Fault α

variable {size : Nat}

/-- `raw[i]`. -/
def readByte (raw : List UInt8) (i : Nat) : Access UInt8 :=
  match raw[i]? with
  | some b => .ok b
  | none => .error (.read i)

/-- `dst[i] = b`. -/
def writeByte (dst : Vector UInt8 size) (i : Nat) (b : UInt8) : Access (Vector UInt8 size) :=
  if h : i < size then .ok (dst.set i b) else .error (.write i)

/-- `memcpy(dst, raw + offset, n)`. -/
def copyBytes (dst : Vector UInt8 size) (raw : List UInt8) (offset : Nat) :
    Nat → Access (Vector UInt8 size)
  | 0 => .ok dst
  | n + 1 => do
      let dst ← copyBytes dst raw offset n
      let b ← readByte raw (offset + n)
      writeByte dst n b

/-- Reading `count` elements from `start` on of an array of `size` elements. -/
def readRange (size start count : Nat) : Access Unit :=
  if start + count ≤ size then .ok () else .error (.read (start + count - 1))

/-- Writing `count` elements from `start` on of an array of `size` elements. -/
def writeRange (size start count : Nat) : Access Unit :=
  if start + count ≤ size then .ok () else .error (.write (start + count - 1))

/-- The `n` bytes at `src + offset`. -/
def loadAt (src : List UInt8) (offset n : Nat) : Access (List UInt8) :=
  if offset + n ≤ src.length then .ok ((src.drop offset).take n) else .error (.read (offset + n - 1))

/-- `memcpy(dst + offset, bytes, n)`, for a block of memory `dst`. -/
def storeAt (dst : List UInt8) (offset : Nat) (bytes : List UInt8) : Access (List UInt8) :=
  if offset + bytes.length ≤ dst.length then
    .ok (dst.take offset ++ bytes ++ dst.drop (offset + bytes.length))
  else
    .error (.write (offset + bytes.length - 1))

/-- `a - b` of sizes, which wraps around below zero. -/
def sizeSub (a b : Nat) : Nat :=
  if b ≤ a then a - b else a + 2 ^ 64 - b

/-! ## Accesses inside the buffers -/

theorem readByte_eq {raw : List UInt8} {i : Nat} (h : i < raw.length) :
    readByte raw i = .ok (raw.getD i 0) := by
  simp [readByte, h]

theorem writeByte_eq {dst : Vector UInt8 size} {i : Nat} (h : i < size) (b : UInt8) :
    writeByte dst i b = .ok (dst.set i b) :=
  dif_pos h

theorem readRange_eq {size start count : Nat} (h : start + count ≤ size) :
    readRange size start count = .ok () :=
  if_pos h

theorem writeRange_eq {size start count : Nat} (h : start + count ≤ size) :
    writeRange size start count = .ok () :=
  if_pos h

theorem loadAt_eq {src : List UInt8} {offset n : Nat} (h : offset + n ≤ src.length) :
    loadAt src offset n = .ok ((src.drop offset).take n) :=
  if_pos h

/-- What is stored behind the part that is done takes the place of as many bytes. -/
theorem storeAt_append (done : List UInt8) {left bytes : List UInt8} (h : bytes.length ≤ left.length) :
    storeAt (done ++ left) done.length bytes = .ok (done ++ bytes ++ left.drop bytes.length) := by
  rw [storeAt, if_pos (by rw [List.length_append]; omega), List.take_left, List.drop_append]
  simp

theorem sizeSub_eq {a b : Nat} (h : b ≤ a) : sizeSub a b = a - b :=
  if_pos h

/-- Copying inside both buffers does not fault, and fills the array from its start. -/
theorem copyBytes_eq (dst : Vector UInt8 size) {raw : List UInt8} {offset n : Nat}
    (hread : offset + n ≤ raw.length) (hwrite : n ≤ size) :
    ∃ copied, copyBytes dst raw offset n = .ok copied ∧
      copied.toList.take n = (raw.drop offset).take n ∧
      copied.toList.drop n = dst.toList.drop n := by
  induction n with
  | zero => exact ⟨dst, rfl, rfl, rfl⟩
  | succ n ih =>
      rcases ih (by omega) (by omega) with ⟨copied, hcopied, htake, hdrop⟩
      have hn : n < size := by omega
      refine ⟨copied.set n (raw.getD (offset + n) 0), ?_, ?_, ?_⟩
      · rw [copyBytes, hcopied]
        change (readByte raw (offset + n)).bind (writeByte copied n) = _
        rw [readByte_eq (by omega)]
        exact writeByte_eq hn _
      · rw [Vector.toList_set, List.take_add_one, List.take_set_of_le (le_refl n), htake,
          List.take_add_one]
        congr 1
        rw [List.getElem?_set_self (by simpa using hn), List.getElem?_drop,
          List.getElem?_eq_getElem (by omega)]
        simp [List.getD_eq_getElem?_getD, List.getElem?_eq_getElem (show offset + n < raw.length by omega)]
      · rw [Vector.toList_set, List.drop_set_of_lt (by omega)]
        calc
          copied.toList.drop (n + 1) = (copied.toList.drop n).drop 1 := by rw [List.drop_drop]
          _ = (dst.toList.drop n).drop 1 := by rw [hdrop]
          _ = dst.toList.drop (n + 1) := by rw [List.drop_drop]

/-! ## When a program faults -/

/-- The program gives the value where the condition holds, and faults where it does not. -/
structure FaultsUnless {α : Type} (program : Access α) (value : α) (inBounds : Prop) : Prop where
  gives : inBounds → program = .ok value
  faults : ¬ inBounds → ∃ fault, program = .error fault

namespace FaultsUnless

variable {α β : Type} {program : Access α} {value : α} {inBounds : Prop}

/-- A program that does not fault gives the value. -/
theorem exists_ok_iff (h : FaultsUnless program value inBounds) :
    (∃ result, program = .ok result) ↔ inBounds := by
  constructor
  · rintro ⟨result, hresult⟩
    by_contra hnot
    obtain ⟨fault, hfault⟩ := h.faults hnot
    rw [hresult] at hfault
    cases hfault
  · exact fun hin => ⟨value, h.gives hin⟩

theorem of_ok (hok : program = .ok value) (hin : inBounds) : FaultsUnless program value inBounds :=
  ⟨fun _ => hok, fun hnot => absurd hin hnot⟩

theorem congr {inBounds' : Prop} (h : FaultsUnless program value inBounds)
    (hiff : inBounds ↔ inBounds') : FaultsUnless program value inBounds' :=
  ⟨fun hin => h.gives (hiff.mpr hin), fun hnot => h.faults fun hin => hnot (hiff.mp hin)⟩

/-- One program after another. -/
theorem bind {next : α → Access β} {value' : β} {inBounds' : Prop}
    (h : FaultsUnless program value inBounds) (hnext : FaultsUnless (next value) value' inBounds') :
    FaultsUnless (program >>= next) value' (inBounds ∧ inBounds') := by
  by_cases hin : inBounds
  · rw [h.gives hin]
    exact hnext.congr (and_iff_right hin).symm
  · obtain ⟨fault, hfault⟩ := h.faults hin
    rw [hfault]
    exact ⟨fun hboth => absurd hboth.1 hin, fun _ => ⟨fault, rfl⟩⟩

theorem map (f : α → β) (h : FaultsUnless program value inBounds) :
    FaultsUnless (f <$> program) (f value) inBounds := by
  refine ⟨fun hin => ?_, fun hnot => ?_⟩
  · rw [h.gives hin]
    rfl
  · obtain ⟨fault, hfault⟩ := h.faults hnot
    exact ⟨fault, by rw [hfault]; rfl⟩

end FaultsUnless

theorem writeRange_faultsUnless (size start count : Nat) :
    FaultsUnless (writeRange size start count) () (start + count ≤ size) :=
  ⟨fun hin => if_pos hin, fun hnot => ⟨_, if_neg hnot⟩⟩

end CheckedBuffer
