import Mathlib.Algebra.GroupWithZero.Nat
import Mathlib.Algebra.Order.BigOperators.Group.List
import Mathlib.Algebra.Order.Group.Nat

/-!
# Giving out a quantity

A quantity is given out to a list of holders. Giving everything to the first of them that holds
anything is right only when this one holds enough.
-/

namespace OdooConnector

/-- The first holder that holds anything gets everything. -/
def firstTakesAll : ℕ → List ℕ → List ℕ
  | _, [] => []
  | available, held :: others =>
      if held = 0 then 0 :: firstTakesAll available others
      else available :: firstTakesAll 0 others

theorem firstTakesAll_zero (held : List ℕ) : firstTakesAll 0 held = held.map fun _ => 0 := by
  induction held with
  | nil => rfl
  | cons first others induction =>
      rw [firstTakesAll, induction, ite_self, List.map_cons]

private theorem zeros_le (held : List ℕ) :
    List.Forall₂ (· ≤ ·) (held.map fun _ => 0) held := by
  induction held with
  | nil => exact List.Forall₂.nil
  | cons first others induction =>
      exact List.Forall₂.cons (Nat.zero_le first) induction

/-- Giving everything to the first holder gives out the right total, and nobody more than it holds,
exactly when the first holder that holds anything holds the whole quantity. -/
theorem firstTakesAll_correct_iff (available : ℕ) (held : List ℕ) :
    ((firstTakesAll available held).sum = min available held.sum ∧
        List.Forall₂ (· ≤ ·) (firstTakesAll available held) held) ↔
      ∀ first, held.find? (fun quantity => 0 < quantity) = some first → available ≤ first := by
  induction held with
  | nil => simp [firstTakesAll]
  | cons first others induction =>
      rw [firstTakesAll]
      by_cases empty : first = 0
      · rw [if_pos empty, List.find?_cons_of_neg (by simp [empty]), ← induction, List.sum_cons,
          List.sum_cons, List.forall₂_cons, empty, Nat.zero_add, Nat.zero_add]
        simp
      · have positive : 0 < first := Nat.pos_of_ne_zero empty
        rw [if_neg empty, List.find?_cons_of_pos (by simp [positive]), firstTakesAll_zero,
          List.forall₂_cons, List.sum_cons, List.sum_cons]
        constructor
        · intro correct only same
          rw [← Option.some.inj same]
          exact correct.2.1
        · intro enough
          have fits := enough first rfl
          refine ⟨?_, fits, zeros_le others⟩
          have nothing : (others.map fun _ => 0).sum = 0 := by simp
          rw [nothing]
          omega

end OdooConnector
