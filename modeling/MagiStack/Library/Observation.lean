import Mathlib.Data.List.Basic

/-!
# Observation — what one observer sees of a run

A deterministic system takes actions, some of which concern an observer and may put something out for it.  The
observer is not disturbed when it sees the same in the run from which all other actions are left out.  As usual
for such statements it is enough to relate the states of the two runs step by step.
-/

namespace Observation

variable {State Action Output : Type*}

/-- The state after a run. -/
def run (step : State → Action → State) (s : State) (actions : List Action) : State :=
  actions.foldl step s

/-- Every step of a run meets a condition. -/
def RunOk (step : State → Action → State) (Ok : State → Action → Prop) : State → List Action → Prop
  | _, [] => True
  | s, action :: rest => Ok s action ∧ RunOk step Ok (step s action) rest

/-- What the actions that concern the observer put out, in order. -/
def observed (step : State → Action → State) (output : State → Action → Option Output)
    (concerns : Action → Bool) : State → List Action → List Output
  | _, [] => []
  | s, action :: rest =>
      (if concerns action then (output s action).toList else []) ++
        observed step output concerns (step s action) rest

variable {step : State → Action → State} {Ok : State → Action → Prop}
  {output : State → Action → Option Output} {concerns : Action → Bool}

@[simp] theorem run_append (s : State) (before after : List Action) :
    run step s (before ++ after) = run step (run step s before) after :=
  List.foldl_append

theorem runOk_append {s : State} {before after : List Action} :
    RunOk step Ok s (before ++ after) ↔
      RunOk step Ok s before ∧ RunOk step Ok (run step s before) after := by
  induction before generalizing s with
  | nil => exact ⟨fun h => ⟨trivial, h⟩, fun h => h.2⟩
  | cons action rest ih =>
      rw [List.cons_append, RunOk, RunOk, ih, and_assoc]
      rfl

theorem observed_append (s : State) (before after : List Action) :
    observed step output concerns s (before ++ after) =
      observed step output concerns s before ++
        observed step output concerns (run step s before) after := by
  induction before generalizing s with
  | nil => rfl
  | cons action rest ih =>
      rw [List.cons_append, observed, observed, ih, List.append_assoc]
      rfl

/-- A relation that every step keeps, whether its action concerns the observer or is left out. -/
structure Unwinding (step : State → Action → State) (Ok : State → Action → Prop)
    (output : State → Action → Option Output) (concerns : Action → Bool)
    (R : State → State → Prop) : Prop where
  same : ∀ {s t action}, R s t → Ok s action → concerns action = true →
    output s action = output t action ∧ R (step s action) (step t action)
  other : ∀ {s t action}, R s t → Ok s action → concerns action = false → R (step s action) t

namespace Unwinding

variable {R : State → State → Prop} (h : Unwinding step Ok output concerns R)

include h

theorem run {s t : State} (hst : R s t) {actions : List Action} (hok : RunOk step Ok s actions) :
    R (Observation.run step s actions) (Observation.run step t (actions.filter concerns)) := by
  induction actions generalizing s t with
  | nil => exact hst
  | cons action rest ih =>
      cases hconcerns : concerns action with
      | true =>
          rw [List.filter_cons_of_pos hconcerns]
          exact ih (h.same hst hok.1 hconcerns).2 hok.2
      | false =>
          rw [List.filter_cons_of_neg (Bool.eq_false_iff.mp hconcerns)]
          exact ih (h.other hst hok.1 hconcerns) hok.2

/-- The observer sees the same without the other actions. -/
theorem observed_eq {s t : State} (hst : R s t) {actions : List Action}
    (hok : RunOk step Ok s actions) :
    observed step output concerns s actions =
      observed step output concerns t (actions.filter concerns) := by
  induction actions generalizing s t with
  | nil => rfl
  | cons action rest ih =>
      cases hconcerns : concerns action with
      | true =>
          rcases h.same hst hok.1 hconcerns with ⟨houtput, hnext⟩
          rw [List.filter_cons_of_pos hconcerns, observed, observed, houtput, ih hnext hok.2]
      | false =>
          rw [List.filter_cons_of_neg (Bool.eq_false_iff.mp hconcerns), observed, hconcerns,
            if_neg Bool.false_ne_true, List.nil_append]
          exact ih (h.other hst hok.1 hconcerns) hok.2

end Unwinding

end Observation
