import Mathlib.Data.List.Induction
import OdooConnector.Library.Run

/-!
# What happens along a run

A run passes through states, and what it has passed through stays true of longer runs. Steps of one
kind are paid for by steps of another kind where a potential makes up for the difference.
-/

namespace OdooConnector

variable {σ α : Type*} (step : σ → α → σ)

/-- The run passes through a state with the property. -/
def Ever (property : σ → Prop) (state : σ) (actions : List α) : Prop :=
  ∃ front, front <+: actions ∧ property (runSteps step state front)

/-- How many steps of a run are of a kind. -/
def countSteps (kind : σ → α → Bool) : σ → List α → ℕ
  | _, [] => 0
  | state, action :: actions =>
      (kind state action).toNat + countSteps kind (step state action) actions

variable {step} {property other : σ → Prop} {state : σ} {actions : List α}

/-- What holds at the end of a run has happened. -/
theorem Ever.now (holds : property (runSteps step state actions)) :
    Ever step property state actions :=
  ⟨actions, List.prefix_rfl, holds⟩

theorem Ever.append (ever : Ever step property state actions) (later : List α) :
    Ever step property state (actions ++ later) := by
  obtain ⟨front, isPrefix, holds⟩ := ever
  exact ⟨front, isPrefix.trans (List.prefix_append _ _), holds⟩

theorem Ever.imp (ever : Ever step property state actions)
    (implies : ∀ state, property state → other state) : Ever step other state actions := by
  obtain ⟨front, isPrefix, holds⟩ := ever
  exact ⟨front, isPrefix, implies _ holds⟩

theorem ever_nil : Ever step property state [] ↔ property state := by
  constructor
  · rintro ⟨front, isPrefix, holds⟩
    rwa [List.prefix_nil.mp isPrefix] at holds
  · exact fun holds => ⟨[], List.prefix_rfl, holds⟩

/-- The last step adds the last state. -/
theorem ever_concat (action : α) : Ever step property state (actions ++ [action]) ↔
    Ever step property state actions ∨ property (step (runSteps step state actions) action) := by
  have last : runSteps step state (actions ++ [action]) =
      step (runSteps step state actions) action := by
    rw [runSteps_append]
    rfl
  constructor
  · rintro ⟨front, isPrefix, holds⟩
    rcases List.prefix_concat_iff.mp isPrefix with whole | earlier
    · right
      rwa [whole, last] at holds
    · exact .inl ⟨front, earlier, holds⟩
  · rintro (earlier | holds)
    · exact earlier.append [action]
    · exact Ever.now (last ▸ holds)

/-- What is claimed of a state and of the events that have happened, with those of the state itself,
holds along a run where each step keeps it while its own events are added. -/
theorem ever_induction {ι : Type*} {event : ι → σ → Prop} {Claim : (ι → Prop) → σ → Prop}
    (start : Claim (fun index => event index state) state)
    (advance : ∀ happened state action, (∀ index, event index state → happened index) →
      Claim happened state →
      Claim (fun index => happened index ∨ event index (step state action)) (step state action)) :
    Claim (fun index => Ever step (event index) state actions) (runSteps step state actions) := by
  induction actions using List.reverseRecOn with
  | nil =>
      have happened : (fun index => Ever step (event index) state []) =
          fun index => event index state := funext fun index => propext ever_nil
      rw [happened]
      exact start
  | append_singleton actions action induction =>
      have happened : (fun index => Ever step (event index) state (actions ++ [action])) =
          fun index => Ever step (event index) state actions ∨
            event index (step (runSteps step state actions) action) :=
        funext fun index => propext (ever_concat action)
      rw [happened, runSteps_append]
      exact advance _ _ action (fun index => Ever.now) induction

/-- Where every step that earns draws on the potential, and only steps that pay add to it, no run
earns more often than it pays. -/
theorem countSteps_le {Inv : σ → Prop} {earns pays : σ → α → Bool} (potential : σ → ℕ)
    (advance : ∀ state action, Inv state → Inv (step state action))
    (balance : ∀ state action, Inv state →
      (earns state action).toNat + potential (step state action) ≤
        (pays state action).toNat + potential state)
    (start : Inv state) :
    countSteps step earns state actions + potential (runSteps step state actions) ≤
      countSteps step pays state actions + potential state := by
  induction actions generalizing state with
  | nil => simp [countSteps, runSteps]
  | cons action actions induction =>
      have later := induction (advance state action start)
      have now := balance state action start
      rw [countSteps, countSteps, runSteps_cons]
      omega

end OdooConnector
