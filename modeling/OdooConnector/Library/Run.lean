import OdooConnector.Library.Fold

/-!
# Runs of a step function

A run takes one step for each action of a list. Where every step meets a condition on the state
before it, an invariant that such steps preserve holds in every state of the run.
-/

namespace OdooConnector

variable {σ α : Type*} (step : σ → α → σ)

/-- State after a run. -/
def runSteps (state : σ) (actions : List α) : σ := actions.foldl step state

/-- Every step of a run meets a condition on its action and on the state before it. -/
def Along (Cond : σ → α → Prop) : σ → List α → Prop
  | _, [] => True
  | state, action :: actions => Cond state action ∧ Along Cond (step state action) actions

variable {step} {Cond Goal : σ → α → Prop} {Inv : σ → Prop} {state : σ} {actions : List α}

@[simp]
theorem runSteps_cons (action : α) :
    runSteps step state (action :: actions) = runSteps step (step state action) actions := rfl

theorem runSteps_append (first second : List α) :
    runSteps step state (first ++ second) = runSteps step (runSteps step state first) second :=
  List.foldl_append

theorem along_append (first second : List α) :
    Along step Cond state (first ++ second) ↔
      Along step Cond state first ∧ Along step Cond (runSteps step state first) second := by
  induction first generalizing state with
  | nil => simp [Along, runSteps]
  | cons action first induction =>
      rw [List.cons_append, Along, Along, induction, runSteps_cons, and_assoc]

/-- What steps that meet the condition preserve holds after a run of such steps. -/
theorem runSteps_invariant
    (advance : ∀ state action, Inv state → Cond state action → Inv (step state action))
    (start : Inv state) (meets : Along step Cond state actions) :
    Inv (runSteps step state actions) := by
  induction actions generalizing state with
  | nil => exact start
  | cons action actions induction =>
      exact induction (advance state action start meets.1) meets.2

/-- Where two properties of the steps agree on every step that meets the condition, from the
invariant, they agree on every run of such steps. -/
theorem along_congr {Other : σ → α → Prop}
    (agree : ∀ state action, Inv state → Cond state action →
      (Goal state action ↔ Other state action))
    (advance : ∀ state action, Inv state → Cond state action → Inv (step state action))
    (start : Inv state) (meets : Along step Cond state actions) :
    Along step Goal state actions ↔ Along step Other state actions := by
  induction actions generalizing state with
  | nil => exact Iff.rfl
  | cons action actions induction =>
      rw [Along, Along, agree state action start meets.1]
      exact and_congr_right fun _ => induction (advance state action start meets.1) meets.2

/-- A goal that the condition and the invariant imply holds on every step. -/
theorem along_of_invariant
    (goal : ∀ state action, Inv state → Cond state action → Goal state action)
    (advance : ∀ state action, Inv state → Cond state action → Inv (step state action))
    (start : Inv state) (meets : Along step Cond state actions) :
    Along step Goal state actions :=
  (along_congr (fun state action holds meets =>
    iff_of_true (goal state action holds meets) meets) advance start meets).mpr meets

/-- Where a condition and a goal agree on every step from the invariant, which the goal preserves,
they agree on every run. -/
theorem along_iff (agree : ∀ state action, Inv state → (Cond state action ↔ Goal state action))
    (advance : ∀ state action, Inv state → Goal state action → Inv (step state action))
    (start : Inv state) : Along step Cond state actions ↔ Along step Goal state actions := by
  induction actions generalizing state with
  | nil => exact Iff.rfl
  | cons action actions induction =>
      rw [Along, Along, agree state action start]
      exact and_congr_right fun goal => induction (advance state action start goal)

/-- What every step preserves holds after a run. -/
theorem runSteps_preserves (advance : ∀ state action, Inv state → Inv (step state action))
    (start : Inv state) : Inv (runSteps step state actions) :=
  foldl_preserves step Inv actions start advance

end OdooConnector
