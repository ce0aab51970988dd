import Mathlib.Data.UInt
import Mathlib.Data.List.TakeWhile
import Mathlib.Data.Vector.Basic

/-!
# TextBuffer — terminated text in arrays of a fixed size

A text is stored in an array as its bytes and a zero byte behind them.  `snprintf` stores as much of a text
as there is room for, and never writes behind the array.
-/

namespace TextBuffer

variable {size : Nat}

/-- The array starts with the text and the zero byte that ends it. -/
def Holds (array : Vector UInt8 size) (s : List UInt8) : Prop :=
  array.toList.take (s.length + 1) = s ++ [0]

/-- The text up to the first zero byte. -/
def read (array : Vector UInt8 size) : List UInt8 :=
  array.toList.takeWhile (· != 0)

/-- `snprintf(out, size, ...)` of a text: what does not fit is cut, and the bytes behind stay. -/
def print (out : Vector UInt8 size) (s : List UInt8) : Vector UInt8 size :=
  if h : 0 < size then
    ⟨(s.take (size - 1) ++ 0 :: out.toList.drop ((s.take (size - 1)).length + 1)).toArray, by
      simp only [List.size_toArray, List.length_append, List.length_cons, List.length_drop, List.length_take,
        Vector.length_toList]
      omega⟩
  else
    out

namespace Holds

variable {array : Vector UInt8 size} {s : List UInt8}

theorem length_lt (h : Holds array s) : s.length < size := by
  have hlength := congrArg List.length h
  rw [List.length_take, Vector.length_toList, List.length_append, List.length_singleton] at hlength
  omega

theorem end_byte (h : Holds array s) : array.toList[s.length]? = some 0 := by
  rw [← List.getElem?_take_of_lt (Nat.lt_succ_self s.length), h, List.getElem?_append_right (le_refl _)]
  simp

theorem byte (h : Holds array s) {i : Nat} (hi : i < s.length) : array.toList[i]? = s[i]? := by
  rw [← List.getElem?_take_of_lt (show i < s.length + 1 by omega), h, List.getElem?_append_left hi]

/-- A text without zero bytes is read back. -/
theorem read_eq (h : Holds array s) (hzero : 0 ∉ s) : read array = s := by
  have hplain : ∀ b ∈ s, (b != 0) = true := fun b hb => by
    simp only [bne_iff_ne, ne_eq]
    rintro rfl
    exact hzero hb
  rw [read, ← List.take_append_drop (s.length + 1) array.toList, h, List.append_assoc,
    List.takeWhile_append_of_pos hplain]
  simp

end Holds

theorem print_holds (hsize : 0 < size) (out : Vector UInt8 size) (s : List UInt8) :
    Holds (print out s) (s.take (size - 1)) := by
  rw [print, dif_pos hsize, Holds]
  change (s.take (size - 1) ++ 0 :: _).take _ = _
  rw [List.take_length_add_append]
  rfl

/-- A text that fits with its zero byte is read back. -/
theorem read_print (out : Vector UInt8 size) {s : List UInt8} (hfits : s.length < size) (hzero : 0 ∉ s) :
    read (print out s) = s := by
  have hholds := print_holds (show 0 < size by omega) out s
  rw [List.take_of_length_le (by omega)] at hholds
  exact hholds.read_eq hzero

end TextBuffer
