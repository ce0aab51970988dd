import Mathlib.Data.Finset.Card
import Mathlib.Logic.Relation

/-!
# FiniteWalk — loops over finitely many states

A loop whose round is a function of its state either ends or comes back to a state.  Where the states it
can be in are finitely many, it ends if and only if no state on its way lies on a cycle, and then after
no more rounds than there are states.
-/

namespace FiniteWalk

open Relation

variable {α : Type*} (step : α → Option α)

/-- The next state, while the loop goes on. -/
def Next (a b : α) : Prop :=
  step a = some b

/-- The state after some rounds; `none` once the loop has ended. -/
def walk : Nat → α → Option α
  | 0, a => some a
  | n + 1, a => (step a).bind (walk n)

theorem walk_add (m n : Nat) (a : α) :
    walk step (m + n) a = (walk step m a).bind (walk step n) := by
  induction m generalizing a with
  | zero => rw [Nat.zero_add]; rfl
  | succ m ih =>
      rw [Nat.succ_add, walk, walk, Option.bind_assoc]
      exact Option.bind_congr fun b _ => ih b

theorem reflTransGen_of_walk {n : Nat} {a b : α} (h : walk step n a = some b) :
    ReflTransGen (Next step) a b := by
  induction n generalizing a with
  | zero =>
      obtain rfl := Option.some.inj h
      exact ReflTransGen.refl
  | succ n ih =>
      obtain ⟨c, hstep, hwalk⟩ := Option.bind_eq_some_iff.mp h
      exact ReflTransGen.head hstep (ih hwalk)

theorem transGen_of_walk {n : Nat} {a b : α} (hn : 0 < n) (h : walk step n a = some b) :
    TransGen (Next step) a b := by
  obtain ⟨m, rfl⟩ := Nat.exists_eq_add_of_lt hn
  rw [Nat.zero_add] at h
  obtain ⟨c, hstep, hwalk⟩ := Option.bind_eq_some_iff.mp h
  exact TransGen.head' hstep (reflTransGen_of_walk step hwalk)

/-- A loop that has ended stays so. -/
theorem walk_eq_none_of_le {m n : Nat} {a : α} (hmn : m ≤ n) (h : walk step m a = none) :
    walk step n a = none := by
  obtain ⟨k, rfl⟩ := Nat.exists_eq_add_of_le hmn
  rw [walk_add, h]
  rfl

/-- On the way to a cycle the loop never ends. -/
theorem walk_ne_none_of_cycle {a b : α} (hreach : ReflTransGen (Next step) a b)
    (hcycle : TransGen (Next step) b b) (n : Nat) : walk step n a ≠ none := by
  induction n generalizing a with
  | zero => simp [walk]
  | succ n ih =>
      have hnext : ∃ c, Next step a c ∧ ReflTransGen (Next step) c b := by
        rcases hreach.cases_head with rfl | hnext
        · exact TransGen.head'_iff.mp hcycle
        · exact hnext
      obtain ⟨c, hstep, hrest⟩ := hnext
      rw [walk, hstep]
      exact ih hrest

/-- A loop that outlasts its states has met one of them twice. -/
theorem exists_cycle_of_walk {states : Finset α} (hclosed : ∀ a ∈ states, ∀ b, Next step a b → b ∈ states)
    {a : α} (ha : a ∈ states) (h : walk step states.card a ≠ none) :
    ∃ b, ReflTransGen (Next step) a b ∧ TransGen (Next step) b b := by
  have hwalk : ∀ n ∈ Finset.range (states.card + 1), ∃ b, walk step n a = some b := fun n hn =>
    Option.ne_none_iff_exists'.mp fun hnone =>
      h (walk_eq_none_of_le step (Nat.lt_succ_iff.mp (Finset.mem_range.mp hn)) hnone)
  have hstay : ∀ b, ReflTransGen (Next step) a b → b ∈ states := by
    intro b hreach
    induction hreach with
    | refl => exact ha
    | tail _ hnext ih => exact hclosed _ ih _ hnext
  have : Nonempty α := ⟨a⟩
  choose! visited hvisited using hwalk
  have hmaps : Set.MapsTo visited (Finset.range (states.card + 1)) states := fun n hn =>
    hstay _ (reflTransGen_of_walk step (hvisited n hn))
  have hcard : states.card < (Finset.range (states.card + 1)).card := by
    rw [Finset.card_range]
    exact Nat.lt_succ_self _
  obtain ⟨i, hi, j, hj, hne, hsame⟩ :=
    Finset.exists_ne_map_eq_of_card_lt_of_maps_to hcard hmaps
  -- Between the two rounds the loop has gone round a cycle.
  have hloop : ∀ i j, i ∈ Finset.range (states.card + 1) → j ∈ Finset.range (states.card + 1) →
      visited i = visited j → i < j → TransGen (Next step) (visited i) (visited i) := by
    intro i j hi hj hsame hlt
    obtain ⟨k, rfl⟩ := Nat.exists_eq_add_of_lt hlt
    have hfurther := hvisited _ hj
    rw [Nat.add_assoc, walk_add, hvisited i hi, ← Nat.add_assoc, ← hsame] at hfurther
    exact transGen_of_walk step (Nat.succ_pos k) hfurther
  rcases Nat.lt_or_gt_of_ne hne with hlt | hlt
  · exact ⟨visited i, reflTransGen_of_walk step (hvisited i hi), hloop i j hi hj hsame hlt⟩
  · exact ⟨visited j, reflTransGen_of_walk step (hvisited j hj), hloop j i hj hi hsame.symm hlt⟩

/-- The loop ends if and only if no state on its way lies on a cycle. -/
theorem exists_walk_eq_none_iff {states : Finset α}
    (hclosed : ∀ a ∈ states, ∀ b, Next step a b → b ∈ states) {a : α} (ha : a ∈ states) :
    (∃ n, walk step n a = none) ↔
      ∀ b, ReflTransGen (Next step) a b → ¬TransGen (Next step) b b := by
  constructor
  · rintro ⟨n, hn⟩ b hreach hcycle
    exact walk_ne_none_of_cycle step hreach hcycle n hn
  · intro hacyclic
    refine ⟨states.card, ?_⟩
    by_contra hgoes
    obtain ⟨b, hreach, hcycle⟩ := exists_cycle_of_walk step hclosed ha hgoes
    exact hacyclic b hreach hcycle

/-- A loop that ends does so within as many rounds as there are states. -/
theorem walk_card_eq_none {states : Finset α}
    (hclosed : ∀ a ∈ states, ∀ b, Next step a b → b ∈ states) {a : α} (ha : a ∈ states) {n : Nat}
    (h : walk step n a = none) : walk step states.card a = none := by
  by_contra hgoes
  obtain ⟨b, hreach, hcycle⟩ := exists_cycle_of_walk step hclosed ha hgoes
  exact walk_ne_none_of_cycle step hreach hcycle n h

end FiniteWalk
