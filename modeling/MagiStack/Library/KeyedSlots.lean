import Mathlib.Logic.Function.Basic

/-!
# KeyedSlots — slots in which a key names at most one

A table of slots, some of whose values have a key.  Two slots never hold the same key as long as every
store into a slot drops the key there, keeps it, or brings in one that no other slot holds.
-/

namespace KeyedSlots

variable {ι α κ : Type*} {key : α → Option κ} {table : ι → α}

/-- No two slots hold the same key. -/
def Unique (key : α → Option κ) (table : ι → α) : Prop :=
  ∀ i j k, key (table i) = some k → key (table j) = some k → i = j

theorem unique_of_none (h : ∀ i, key (table i) = none) : Unique key table := by
  intro i j k hi hj
  cases (h i).symm.trans hi

section Update

variable [DecidableEq ι] {i : ι} {a : α}

/-- A store that brings in no key of another slot. -/
theorem Unique.update (h : Unique key table)
    (hother : ∀ k, key a = some k → ∀ j, j ≠ i → key (table j) ≠ some k) :
    Unique key (Function.update table i a) := by
  intro m n k hm hn
  by_cases hmi : m = i
  · by_cases hni : n = i
    · rw [hmi, hni]
    · rw [hmi, Function.update_self] at hm
      rw [Function.update_of_ne hni] at hn
      exact absurd hn (hother k hm n hni)
  · rw [Function.update_of_ne hmi] at hm
    by_cases hni : n = i
    · rw [hni, Function.update_self] at hn
      exact absurd hm (hother k hn m hmi)
    · rw [Function.update_of_ne hni] at hn
      exact h m n k hm hn

/-- A store that drops the slot's key or keeps it. -/
theorem Unique.update_keep (h : Unique key table) (hkeep : key a = none ∨ key a = key (table i)) :
    Unique key (Function.update table i a) := by
  refine h.update fun k hk j hj hother => ?_
  rcases hkeep with hnone | hsame
  · cases hnone.symm.trans hk
  · exact hj (h j i k hother (hsame.symm.trans hk))

end Update

end KeyedSlots
