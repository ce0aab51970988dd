import Mathlib.Data.List.Basic
import Mathlib.Logic.Function.Basic

/-!
# Reassembly — windows on a stream

A receiver holds some elements of a stream ahead of the position it has reached. The window agrees
with the stream when every element it holds is the stream's own. This file proves what keeps that
agreement: storing a slice of the stream, moving the position over a run of held elements, and
extending the stream.
-/

namespace Reassembly

variable {α : Type*} {stream stream' : List α} {pos : Nat} {valid : Nat → Bool} {held : Nat → α}

/-- Every element the window holds is the element of the stream at that place. -/
def Agrees (stream : List α) (pos : Nat) (valid : Nat → Bool) (held : Nat → α) : Prop :=
  ∀ i, valid i = true → stream[pos + i]? = some (held i)

theorem Agrees.lt_length (h : Agrees stream pos valid held) {i : Nat} (hi : valid i = true) :
    pos + i < stream.length := by
  obtain ⟨hlt, -⟩ := List.getElem?_eq_some_iff.1 (h i hi)
  exact hlt

theorem getElem?_of_prefix (h : stream <+: stream') {i : Nat} {a : α} (hi : stream[i]? = some a) :
    stream'[i]? = some a := by
  obtain ⟨rest, rfl⟩ := h
  obtain ⟨hlt, -⟩ := List.getElem?_eq_some_iff.1 hi
  rw [List.getElem?_append_left hlt, hi]

theorem Agrees.extend (h : Agrees stream pos valid held) (hstream : stream <+: stream') :
    Agrees stream' pos valid held :=
  fun i hi => getElem?_of_prefix hstream (h i hi)

/-! ## Storing -/

theorem Agrees.set (h : Agrees stream pos valid held) {i : Nat} {a : α}
    (hi : stream[pos + i]? = some a) :
    Agrees stream pos (Function.update valid i true) (Function.update held i a) := by
  intro j hj
  by_cases hij : j = i
  · subst hij
    simpa using hi
  · rw [Function.update_of_ne hij] at hj ⊢
    exact h j hj

/-- The head of a slice is the stream's element at the slice's place. -/
theorem getElem?_of_cons_prefix_drop {a : α} {rest : List α} {n : Nat}
    (h : a :: rest <+: stream.drop n) : stream[n]? = some a := by
  have hhead : (stream.drop n)[0]? = some a := getElem?_of_prefix h rfl
  simpa using hhead

theorem tail_prefix_drop {a : α} {rest : List α} {n : Nat} (h : a :: rest <+: stream.drop n) :
    rest <+: stream.drop (n + 1) := by
  obtain ⟨more, hmore⟩ := h
  refine ⟨more, ?_⟩
  rw [← List.tail_drop, ← hmore]
  rfl

/-- A slice of the stream with its first `k` elements cut off is a slice `k` places further. -/
theorem drop_prefix_drop {chunk : List α} {n : Nat} (h : chunk <+: stream.drop n) (k : Nat) :
    chunk.drop k <+: stream.drop (n + k) := by
  obtain ⟨more, hmore⟩ := h
  rw [← List.drop_drop, ← hmore]
  by_cases hk : k ≤ chunk.length
  · exact ⟨more, (List.drop_append_of_le_length hk).symm⟩
  · rw [List.drop_eq_nil_of_le (by omega)]
    exact List.nil_prefix

theorem length_le_of_prefix_drop {chunk : List α} {n : Nat} (h : chunk <+: stream.drop n)
    (hne : chunk ≠ []) : n + chunk.length ≤ stream.length := by
  have hlen := h.length_le
  have hpos := List.length_pos_iff.2 hne
  rw [List.length_drop] at hlen
  omega

/-! ## Moving on -/

/-- A run of held elements is the next part of the stream. -/
theorem Agrees.run (h : Agrees stream pos valid held) :
    ∀ n, (∀ i, i < n → valid i = true) →
      stream.take pos ++ (List.range n).map held = stream.take (pos + n) := by
  intro n
  induction n with
  | zero =>
      intro _
      simp
  | succ n ih =>
      intro hrun
      have hlast := h n (hrun n (Nat.lt_succ_self n))
      rw [List.range_succ, List.map_append, ← List.append_assoc,
        ih fun i hi => hrun i (Nat.lt_succ_of_lt hi)]
      rw [← Nat.add_assoc, List.take_add_one, hlast]
      rfl

/-- After the position moves by `n`, the window with its first `n` places dropped agrees. -/
theorem Agrees.advance (h : Agrees stream pos valid held) (n : Nat) {valid' : Nat → Bool}
    {held' : Nat → α} (hvalid : ∀ i, valid' i = true → valid (i + n) = true)
    (hheld : ∀ i, valid' i = true → held' i = held (i + n)) :
    Agrees stream (pos + n) valid' held' := by
  intro i hi
  have hnext := h (i + n) (hvalid i hi)
  rw [hheld i hi, ← hnext]
  congr 1
  omega

end Reassembly
