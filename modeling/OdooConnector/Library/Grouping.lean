import Mathlib.Data.List.Perm.Basic
import Mathlib.Data.List.Dedup

/-!
# Sets as lists, and grouping

A set that a program goes through is a list of its elements in some order. The groups of a list by a
key, in any order of the keys, hold the elements of the list.
-/

namespace OdooConnector

/-- A list goes through the set of the elements of another. -/
structure Enumerates {α : Type*} (order source : List α) : Prop where
  nodup : order.Nodup
  mem_iff : ∀ element, element ∈ order ↔ element ∈ source

theorem enumerates_dedup {α : Type*} [DecidableEq α] (source : List α) :
    Enumerates source.dedup source :=
  ⟨source.nodup_dedup, fun _ => List.mem_dedup⟩

section

variable {α β κ : Type*} [DecidableEq κ] (key : α → κ)

theorem filter_cons_perm (first : κ) (keys : List κ) (other : first ∉ keys) (list : List α) :
    ((list.filter fun element => key element = first) ++
      (list.filter fun element => key element ∈ keys)).Perm
      (list.filter fun element => key element ∈ first :: keys) := by
  induction list with
  | nil => exact .refl _
  | cons head tail induction =>
      by_cases same : key head = first
      · have absent : ¬ key head ∈ keys := fun member => other (same ▸ member)
        simpa [List.filter_cons, same, other] using induction
      · by_cases member : key head ∈ keys
        · have moved := @List.perm_middle _ head
            (tail.filter fun element => key element = first)
            (tail.filter fun element => key element ∈ keys)
          have both := moved.trans (induction.cons head)
          simpa [List.filter_cons, same, member] using both
        · simpa [List.filter_cons, same, member] using induction

theorem flatMap_filter_perm_filter (keys : List κ) (nodup : keys.Nodup) (list : List α) :
    (keys.flatMap fun group => list.filter fun element => key element = group).Perm
      (list.filter fun element => key element ∈ keys) := by
  induction keys with
  | nil => simp
  | cons first keys induction =>
      obtain ⟨other, rest⟩ := List.nodup_cons.mp nodup
      rw [List.flatMap_cons]
      exact ((induction rest).append_left _).trans (filter_cons_perm key first keys other list)

/-- The groups, one after the other, are the list in another order. -/
theorem flatMap_filter_perm {keys : List κ} {list : List α}
    (order : Enumerates keys (list.map key)) :
    (keys.flatMap fun group => list.filter fun element => key element = group).Perm list := by
  have groups := flatMap_filter_perm_filter key keys order.nodup list
  have all : (list.filter fun element => key element ∈ keys) = list := by
    apply List.filter_eq_self.mpr
    intro element member
    exact decide_eq_true ((order.mem_iff (key element)).mpr (List.mem_map_of_mem member))
  rwa [all] at groups

end

end OdooConnector
