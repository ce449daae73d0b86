import Mathlib.Algebra.Order.BigOperators.Group.List
import Mathlib.Algebra.Order.Monoid.Unbundled.MinMax
import Mathlib.Algebra.Order.Sub.Basic

/-!
# Filling holders from a quantity

Holders get what they hold from a quantity as long as it lasts. A holder of more than is left gets
what is left, which is not used up by it, and from an empty quantity every holder keeps what it
holds. The total is right only when the quantity does not run out before the last holder.
-/

namespace OdooConnector

section

variable {α : Type*} [AddCommMonoid α] [LinearOrder α] [Sub α]

/-- What each holder gets, and what is left. -/
def fill : α → List α → List α × α
  | left, [] => ([], left)
  | left, held :: others =>
      if left = 0 then (held :: (fill left others).1, (fill left others).2)
      else if held ≤ left then
        (held :: (fill (left - held) others).1, (fill (left - held) others).2)
      else (left :: (fill left others).1, (fill left others).2)

/-- A quantity covers all that is held, or does not run out before the last holder. -/
def Fits (quantity : α) (held : List α) : Prop :=
  held.sum ≤ quantity ∨ ∃ before last after,
    held = before ++ last :: after ∧ before.sum < quantity ∧ after.sum = 0

theorem fill_append (left : α) (first second : List α) : fill left (first ++ second) =
    ((fill left first).1 ++ (fill (fill left first).2 second).1,
      (fill (fill left first).2 second).2) := by
  induction first generalizing left with
  | nil => rfl
  | cons held others induction =>
      rw [List.cons_append, fill, fill, induction, induction]
      split_ifs <;> rfl

@[simp]
theorem fill_zero (held : List α) : fill 0 held = (held, 0) := by
  induction held with
  | nil => rfl
  | cons first others induction => rw [fill, if_pos rfl, induction]

end

variable {α : Type*} [AddCommMonoid α] [LinearOrder α] [IsOrderedCancelAddMonoid α]
  [CanonicallyOrderedAdd α] [Sub α] [OrderedSub α]

omit [IsOrderedCancelAddMonoid α] in
theorem fill_sum_eq_zero_iff {left : α} (left_ne : left ≠ 0) (held : List α) :
    (fill left held).1.sum = 0 ↔ held.sum = 0 := by
  induction held with
  | nil => rfl
  | cons first others induction =>
      rw [fill, if_neg left_ne, List.sum_cons, add_eq_zero]
      split_ifs with enough
      · rw [List.sum_cons, add_eq_zero]
        refine and_congr_right fun empty => ?_
        rw [empty, tsub_zero, induction]
      · rw [List.sum_cons, add_eq_zero]
        refine iff_of_false (fun zero => left_ne zero.1) fun zero => enough ?_
        rw [zero.1]
        exact zero_le

theorem fits_cons_of_le {quantity first : α} (enough : first ≤ quantity)
    (others : List α) : Fits quantity (first :: others) ↔ Fits (quantity - first) others := by
  have covers : (first :: others).sum ≤ quantity ↔ others.sum ≤ quantity - first := by
    rw [List.sum_cons, le_tsub_iff_left enough]
  constructor
  · rintro (all | ⟨before, last, after, split, less, zero⟩)
    · exact .inl (covers.1 all)
    · cases before with
      | nil =>
          obtain ⟨rfl, rfl⟩ := List.cons.inj split
          exact .inl (zero.trans_le zero_le)
      | cons head before =>
          obtain ⟨rfl, rfl⟩ := List.cons.inj split
          rw [List.sum_cons] at less
          exact .inr ⟨before, last, after, rfl, lt_tsub_iff_left.2 less, zero⟩
  · rintro (all | ⟨before, last, after, rfl, less, zero⟩)
    · exact .inl (covers.2 all)
    · refine .inr ⟨first :: before, last, after, rfl, ?_, zero⟩
      rw [List.sum_cons]
      exact lt_tsub_iff_left.1 less

omit [IsOrderedCancelAddMonoid α] [Sub α] [OrderedSub α] in
theorem fits_cons_of_lt {quantity first : α} (quantity_ne : quantity ≠ 0) (more : quantity < first)
    (others : List α) : Fits quantity (first :: others) ↔ others.sum = 0 := by
  constructor
  · rintro (all | ⟨before, last, after, split, less, zero⟩)
    · rw [List.sum_cons] at all
      exact absurd ((le_self_add).trans all) more.not_ge
    · cases before with
      | nil =>
          obtain ⟨rfl, rfl⟩ := List.cons.inj split
          exact zero
      | cons head before =>
          obtain ⟨rfl, rfl⟩ := List.cons.inj split
          rw [List.sum_cons] at less
          exact absurd (le_self_add.trans less.le) more.not_ge
  · intro zero
    exact .inr ⟨[], first, others, rfl, pos_iff_ne_zero.2 quantity_ne, zero⟩

/-- The total is as large as it should be exactly when the quantity fits. -/
theorem fill_sum_iff (quantity : α) (held : List α) :
    (fill quantity held).1.sum = min quantity held.sum ↔ Fits quantity held := by
  induction held generalizing quantity with
  | nil => exact iff_of_true (min_eq_right zero_le).symm (.inl zero_le)
  | cons first others induction =>
      by_cases empty : quantity = 0
      · subst empty
        rw [fill_zero, min_eq_left zero_le]
        constructor
        · exact fun zero => .inl zero.le
        · rintro (all | ⟨before, _, _, _, less, _⟩)
          · exact le_zero_iff.1 all
          · exact absurd less not_lt_zero
      · rw [fill, if_neg empty, List.sum_cons]
        by_cases enough : first ≤ quantity
        · rw [if_pos enough, fits_cons_of_le enough, ← induction, List.sum_cons]
          have whole : quantity = first + (quantity - first) := (add_tsub_cancel_of_le enough).symm
          have split : min quantity (first + others.sum) =
              first + min (quantity - first) others.sum := by
            rw [← min_add_add_left, ← whole]
          rw [split, add_right_inj]
        · have more := not_le.1 enough
          rw [if_neg enough, fits_cons_of_lt empty more, List.sum_cons,
            min_eq_left (more.le.trans le_self_add), ← fill_sum_eq_zero_iff empty others]
          exact add_eq_left

end OdooConnector
