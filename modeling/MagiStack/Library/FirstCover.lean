import Mathlib.Data.List.Basic
import Mathlib.Data.Nat.Count

/-!
# FirstCover — chunks laid over places, first come first served

Chunks of elements are laid over the places of a line one after another.  At a place the element of the
first chunk that covers it counts.
-/

namespace FirstCover

variable {α : Type*}

/-- A chunk with the place of its first element. -/
abbrev Chunk (α : Type*) := Nat × List α

/-- The element a chunk has at a place. -/
def elementAt (chunk : Chunk α) (place : Nat) : Option α :=
  if chunk.1 ≤ place then chunk.2[place - chunk.1]? else none

/-- The element of the first chunk that covers the place. -/
def firstAt (chunks : List (Chunk α)) (place : Nat) : Option α :=
  chunks.findSome? fun chunk => elementAt chunk place

@[simp] theorem firstAt_nil (place : Nat) : firstAt ([] : List (Chunk α)) place = none := rfl

theorem firstAt_concat (chunks : List (Chunk α)) (chunk : Chunk α) (place : Nat) :
    firstAt (chunks ++ [chunk]) place = (firstAt chunks place).or (elementAt chunk place) := by
  rw [firstAt, List.findSome?_append, List.findSome?_singleton]
  rfl

/-- What is laid later does not count where something lies. -/
theorem firstAt_concat_of_some {chunks : List (Chunk α)} {chunk : Chunk α} {place : Nat} {a : α}
    (h : firstAt chunks place = some a) : firstAt (chunks ++ [chunk]) place = some a := by
  rw [firstAt_concat, h]
  rfl

/-- What lies at a place is of a chunk that ends behind it. -/
theorem exists_of_firstAt {chunks : List (Chunk α)} {place : Nat} {a : α}
    (h : firstAt chunks place = some a) :
    ∃ chunk ∈ chunks, place < chunk.1 + chunk.2.length := by
  obtain ⟨chunk, hchunk, helement⟩ := List.exists_of_findSome?_eq_some h
  rw [elementAt] at helement
  split at helement
  · obtain ⟨hlt, -⟩ := List.getElem?_eq_some_iff.mp helement
    exact ⟨chunk, hchunk, by omega⟩
  · cases helement

/-- A chunk that ends before a place does not cover it. -/
theorem elementAt_of_end_le {chunk : Chunk α} {place : Nat}
    (h : chunk.1 + chunk.2.length ≤ place) : elementAt chunk place = none := by
  rw [elementAt, if_pos (by omega), List.getElem?_eq_none (by omega)]

/-- Beyond its cut a chunk has the elements it had. -/
theorem elementAt_drop (elements : List α) {start cut place : Nat} (h : start + cut ≤ place) :
    elementAt (start + cut, elements.drop cut) place = elementAt (start, elements) place := by
  rw [elementAt, elementAt, if_pos h, if_pos (by omega), List.getElem?_drop]
  congr 1
  simp only
  omega

/-- The elements of a chunk at places counted from another one. -/
theorem elementAt_add (origin offset place : Nat) (elements : List α) :
    elementAt (origin + offset, elements) (origin + place) = elementAt (offset, elements) place := by
  rw [elementAt, elementAt]
  simp only [Nat.add_le_add_iff_left, Nat.add_sub_add_left]

/-- The head of a chunk lies at its place, the tail behind it. -/
theorem elementAt_cons (start : Nat) (a : α) (rest : List α) (place : Nat) :
    elementAt (start, a :: rest) place =
      if place = start then some a else elementAt (start + 1, rest) place := by
  rw [elementAt, elementAt]
  simp only
  by_cases hplace : place = start
  · simp [hplace]
  · rw [if_neg hplace]
    by_cases hle : start ≤ place
    · rw [if_pos hle, if_pos (by omega),
        show place - start = place - (start + 1) + 1 by omega, List.getElem?_cons_succ]
    · rw [if_neg hle, if_neg (by omega)]

/-! ## Counting places -/

theorem count_congr {p q : Nat → Prop} [DecidablePred p] [DecidablePred q] {n : Nat}
    (h : ∀ i < n, p i ↔ q i) : Nat.count p n = Nat.count q n :=
  le_antisymm (Nat.count_mono_left fun i hi => (h i hi).mp)
    (Nat.count_mono_left fun i hi => (h i hi).mpr)

/-- One more place is taken. -/
theorem count_update {valid : Nat → Bool} {i n : Nat} (hi : i < n) (hfree : valid i = false) :
    Nat.count (fun j => Function.update valid i true j = true) n =
      Nat.count (fun j => valid j = true) n + 1 := by
  induction n with
  | zero => exact absurd hi (Nat.not_lt_zero i)
  | succ n ih =>
      rw [Nat.count_succ, Nat.count_succ]
      rcases Nat.lt_succ_iff_lt_or_eq.mp hi with hlt | rfl
      · rw [ih hlt, Function.update_of_ne (Nat.ne_of_gt hlt)]
        omega
      · have hbefore : Nat.count (fun j => Function.update valid i true j = true) i =
            Nat.count (fun j => valid j = true) i := by
          refine count_congr fun j hj => ?_
          rw [Function.update_of_ne (Nat.ne_of_lt hj)]
        rw [hbefore, Function.update_self, if_pos rfl, hfree]
        rfl

end FirstCover
