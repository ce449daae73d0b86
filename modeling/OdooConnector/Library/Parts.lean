import Mathlib.Data.List.Perm.Subperm
import Mathlib.Data.List.Nodup

/-!
# Parts of lists

How a list splits at an element, and what a part of a list that has no element twice takes from it.
-/

namespace OdooConnector

variable {α β : Type*}

/-- A list splits at its head, or where its tail splits. -/
theorem exists_split_cons {head item : α} {rest : List α} {property : List α → Prop} :
    (∃ front back, head :: rest = front ++ item :: back ∧ property back) ↔
      (head = item ∧ property rest) ∨
        ∃ front back, rest = front ++ item :: back ∧ property back := by
  constructor
  · rintro ⟨front, back, equal, holds⟩
    cases front with
    | nil =>
        obtain ⟨rfl, rfl⟩ := List.cons.inj equal
        exact .inl ⟨rfl, holds⟩
    | cons first front =>
        rw [List.cons_append] at equal
        exact .inr ⟨front, back, (List.cons.inj equal).2, holds⟩
  · rintro (⟨rfl, holds⟩ | ⟨front, back, rfl, holds⟩)
    · exact ⟨[], rest, rfl, holds⟩
    · exact ⟨head :: front, back, rfl, holds⟩

/-- A part of a list, in the order of the list, is what the list has of it. -/
theorem filter_eq_of_sublist [DecidableEq α] {part whole : List α}
    (sublist : part.Sublist whole) (nodup : whole.Nodup) :
    (whole.filter fun element => element ∈ part) = part := by
  have kept : part.Sublist (whole.filter fun element => element ∈ part) := by
    have all : (part.filter fun element => element ∈ part) = part :=
      List.filter_eq_self.mpr fun element member => decide_eq_true member
    have filtered := sublist.filter fun element => decide (element ∈ part)
    rwa [all] at filtered
  have none_else : (whole.filter fun element => element ∈ part) ⊆ part := by
    intro element member
    exact of_decide_eq_true (List.mem_filter.mp member).2
  exact (kept.eq_of_length_le ((nodup.filter _).subperm none_else).length_le).symm

/-- Parts, one after the other, are part of the wholes. -/
theorem flatMap_subperm {part whole : α → List β} {list : List α}
    (within : ∀ element, (part element).Subperm (whole element)) :
    (list.flatMap part).Subperm (list.flatMap whole) := by
  induction list with
  | nil => exact List.Subperm.refl []
  | cons head tail induction =>
      obtain ⟨first, firstPerm, firstSublist⟩ := within head
      obtain ⟨rest, restPerm, restSublist⟩ := induction
      rw [List.flatMap_cons, List.flatMap_cons]
      exact ⟨first ++ rest, firstPerm.append restPerm, firstSublist.append restSublist⟩

/-- An element that is there once is neither in front of itself nor behind. -/
theorem not_mem_of_nodup {front back : List (Option α)} {element : α}
    (nodup : ((front ++ some element :: back).filterMap id).Nodup) :
    some element ∉ front ∧ some element ∉ back := by
  rw [List.filterMap_append] at nodup
  obtain ⟨-, later, apart⟩ := List.nodup_append.mp nodup
  constructor
  · intro member
    exact apart element (List.mem_filterMap.mpr ⟨_, member, rfl⟩) element List.mem_cons_self rfl
  · intro member
    exact (List.nodup_cons.mp later).1 (List.mem_filterMap.mpr ⟨_, member, rfl⟩)

end OdooConnector
