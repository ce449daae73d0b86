import Mathlib.Data.List.Basic

/-!
# Attempts that are not taken back

An attempt changes a state until an error stops it, and what it changed before the error stays.
-/

namespace OdooConnector

variable {α σ ε : Type*}

/-- Change the elements of a list one after another, up to the first error. -/
def attemptMap (change : σ → α → α × Except ε σ) : σ → List α → List α × Except ε σ
  | state, [] => ([], .ok state)
  | state, element :: rest =>
      match change state element with
      | (changed, .error error) => (changed :: rest, .error error)
      | (changed, .ok state) =>
          let (others, result) := attemptMap change state rest
          (changed :: others, result)

/-- Take steps one after another, up to the first error. -/
def attemptAll : List (σ → σ × Except ε Unit) → σ → σ × Except ε Unit
  | [], state => (state, .ok ())
  | step :: steps, state =>
      match step state with
      | (after, .error error) => (after, .error error)
      | (after, .ok ()) => attemptAll steps after

/-- Without an error, every element is changed, with the state that its predecessor has left. -/
theorem attemptMap_cons_eq_ok {change : σ → α → α × Except ε σ} {state final : σ} {element : α}
    {rest all : List α} (goes : attemptMap change state (element :: rest) = (all, .ok final)) :
    ∃ changed after others, change state element = (changed, .ok after) ∧
      attemptMap change after rest = (others, .ok final) ∧ all = changed :: others := by
  rw [attemptMap] at goes
  cases first : change state element with
  | mk changed result =>
      rw [first] at goes
      cases result with
      | error error => cases goes
      | ok after =>
          obtain ⟨rfl, done⟩ := Prod.mk.inj goes
          exact ⟨changed, after, _, rfl, Prod.ext rfl done, rfl⟩

/-- Without an error, every step is taken. -/
theorem attemptAll_cons_eq_ok {step : σ → σ × Except ε Unit}
    {steps : List (σ → σ × Except ε Unit)} {state final : σ}
    (goes : attemptAll (step :: steps) state = (final, .ok ())) :
    ∃ after, step state = (after, .ok ()) ∧ attemptAll steps after = (final, .ok ()) := by
  rw [attemptAll] at goes
  cases first : step state with
  | mk after result =>
      rw [first] at goes
      cases result with
      | error error => cases goes
      | ok _ => exact ⟨after, rfl, goes⟩

end OdooConnector
