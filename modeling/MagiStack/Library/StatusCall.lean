import Mathlib.Init

/-!
# StatusCall — functions that return `0` or `1` and write as they go

A function that changes a state and returns a flag is a `StateM σ Bool`: whatever it has written when it returns
stays written, also when it returns `0`.  `Commits` says of one that it behaves as if all was written at once,
after the last check.
-/

namespace MagiStack

namespace StatusCall

variable {σ : Type}

/-- `1` and the next state, or `0` and the old one. -/
def committed (next : Option σ) (s : σ) : Bool × σ :=
  match next with
  | none => (false, s)
  | some s' => (true, s')

theorem committed_keeps {next : Option σ} {s : σ} (h : (committed next s).1 = false) :
    (committed next s).2 = s := by
  cases next with
  | none => rfl
  | some s' => cases h

@[simp] theorem committed_snd (next : Option σ) (s : σ) : (committed next s).2 = next.getD s := by
  cases next with
  | none => rfl
  | some s' => rfl

/-- In every state the call commits `next` of it, if there is one. -/
def Commits (call : StateM σ Bool) (next : σ → Option σ) : Prop :=
  ∀ s, call.run s = committed (next s) s

/-- It returns `1` and leaves the next state where there is one. -/
theorem Commits.run_eq {call : StateM σ Bool} {next : σ → Option σ} (h : Commits call next) {s s' : σ}
    (hnext : next s = some s') : call.run s = (true, s') := by
  rw [h s, hnext]
  rfl

/-- It returns `0` where there is none. -/
theorem Commits.fails_iff {call : StateM σ Bool} {next : σ → Option σ} (h : Commits call next) {s : σ} :
    (call.run s).1 = false ↔ next s = none := by
  rw [h s]
  cases next s with
  | none => exact iff_of_true rfl rfl
  | some s' => exact iff_of_false (fun h => nomatch h) (Option.some_ne_none s')

/-- Such a call changes nothing when it returns `0`. -/
theorem Commits.keeps {call : StateM σ Bool} {next : σ → Option σ} (h : Commits call next) {s : σ}
    (hfails : (call.run s).1 = false) : (call.run s).2 = s := by
  rw [h s] at hfails ⊢
  exact committed_keeps hfails

/-- A loop that writes in each round, and what comes after it. -/
theorem run_forIn_bind {α β : Type} (xs : List α) (write : α → σ → σ) (after : PUnit → StateM σ β) (s : σ) :
    ((forIn xs PUnit.unit fun x _ => do
        modify (write x)
        pure (ForInStep.yield PUnit.unit)) >>= after : StateM σ β).run s =
      (after PUnit.unit).run (xs.foldl (fun s x => write x s) s) := by
  induction xs generalizing s with
  | nil => rfl
  | cons x xs ih =>
      rw [List.forIn_cons, List.foldl_cons, ← ih (write x s)]
      rfl

end StatusCall

end MagiStack
