import Mathlib.Init

/-!
# Returning — systems that run until they are done

A system takes one step after another, the step `k` by `step k`: what a step does may depend on when it
is taken.  `Returns` says that it comes to a state in which it is done.  An invariant keeps it going for
ever when it excludes every such state, and a measure that falls with each step brings it to one.
-/

namespace MagiStack

namespace Returning

variable {σ : Type*}

/-- From `s` before step `k` the first state that is done is `s'`, before step `n`. -/
inductive Returns (step : Nat → σ → σ) (done : σ → Prop) : Nat → σ → Nat → σ → Prop
  | now {k : Nat} {s : σ} (h : done s) : Returns step done k s k s
  | later {k n : Nat} {s s' : σ} (h : ¬ done s) (rest : Returns step done (k + 1) (step k s) n s') :
      Returns step done k s n s'

variable {step : Nat → σ → σ} {done inv : σ → Prop} {k n : Nat} {s s' : σ}

theorem Returns.isDone (h : Returns step done k s n s') : done s' := by
  induction h with
  | now h => exact h
  | later _ _ ih => exact ih

/-- A system comes to one end only. -/
theorem Returns.unique {m : Nat} {s'' : σ} (h : Returns step done k s n s')
    (h' : Returns step done k s m s'') : s' = s'' := by
  induction h generalizing m s'' with
  | now hdone =>
      cases h' with
      | now _ => rfl
      | later hnot _ => exact absurd hdone hnot
  | later hnot _ ih =>
      cases h' with
      | now hdone => exact absurd hdone hnot
      | later _ rest => exact ih rest

/-- Steps that do not depend on when they are taken may be taken later. -/
theorem Returns.shift {step : σ → σ} (h : Returns (fun _ => step) done k s n s') :
    Returns (fun _ => step) done (k + 1) s (n + 1) s' := by
  induction h with
  | now h => exact .now h
  | later hnot _ ih => exact .later hnot ih

/-- What the steps of a system that is not done keep holds when it returns. -/
theorem Returns.invariant (h : Returns step done k s n s')
    (hstep : ∀ k s, ¬ done s → inv s → inv (step k s)) (hinv : inv s) : inv s' := by
  induction h with
  | now _ => exact hinv
  | later hnot _ ih => exact ih (hstep _ _ hnot hinv)

/-- An invariant that excludes the end keeps the system going. -/
theorem not_returns_of_invariant (hnot : ∀ s, inv s → ¬ done s)
    (hstep : ∀ k s, inv s → inv (step k s)) (hinv : inv s) : ¬ Returns step done k s n s' := by
  intro h
  exact hnot s' (h.invariant (fun k s _ => hstep k s) hinv) h.isDone

/-- Ranks that fall with each step bring the system to its end; a state may have several. -/
theorem exists_returns_of_rank {rank : σ → Nat → Prop}
    (hstep : ∀ k s m, ¬ done s → rank s m → ∃ m', m' < m ∧ rank (step k s) m') (k : Nat) {s : σ}
    {m : Nat} (hrank : rank s m) :
    ∃ n s' m', Returns step done k s n s' ∧ rank s' m' := by
  -- Strong induction on the rank; the number of the step only goes along.
  induction m using Nat.strongRecOn generalizing k s with
  | ind m ih =>
      by_cases hdone : done s
      · exact ⟨k, s, m, .now hdone, hrank⟩
      · obtain ⟨next, hless, hnext⟩ := hstep k s m hdone hrank
        obtain ⟨n, s', m', hreturns, hs'⟩ := ih next hless (k + 1) hnext
        exact ⟨n, s', m', .later hdone hreturns, hs'⟩

/-- A measure that falls with each step brings the system to its end, with all that its steps keep. -/
theorem exists_returns_of_measure (measure : σ → Nat)
    (hstep : ∀ k s, ¬ done s → inv s → inv (step k s) ∧ measure (step k s) < measure s)
    (k : Nat) {s : σ} (hinv : inv s) : ∃ n s', Returns step done k s n s' ∧ inv s' := by
  have hrank : ∀ k s m, ¬ done s → inv s ∧ measure s = m →
      ∃ m', m' < m ∧ inv (step k s) ∧ measure (step k s) = m' := by
    rintro k s m hnot ⟨hs, rfl⟩
    obtain ⟨hnext, hless⟩ := hstep k s hnot hs
    exact ⟨_, hless, hnext, rfl⟩
  obtain ⟨n, s', m', hreturns, hs', -⟩ := exists_returns_of_rank hrank k ⟨hinv, rfl⟩
  exact ⟨n, s', hreturns, hs'⟩

end Returning

end MagiStack
