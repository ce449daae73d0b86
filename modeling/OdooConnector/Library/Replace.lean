import Mathlib.Algebra.GroupWithZero.Nat
import Mathlib.Algebra.Order.BigOperators.Group.List
import Mathlib.Algebra.Order.Group.Nat
import Mathlib.Data.List.Nodup

/-!
# Lists with distinct keys

In a list whose elements have distinct keys a key selects one element. Replacing this element
changes a sum over the list by the difference of the new and the old element.
-/

namespace OdooConnector

variable {α κ : Type} [DecidableEq κ]

theorem filter_key_eq {key : α → κ} {list : List α} (nodup : (list.map key).Nodup) {element : α}
    (member : element ∈ list) :
    (list.filter fun other => key other = key element) = [element] := by
  refine List.perm_singleton.mp ((List.perm_ext_iff_of_nodup ?_ (List.nodup_singleton _)).mpr ?_)
  · exact (List.Nodup.of_map key nodup).filter _
  · intro other
    rw [List.mem_filter, List.mem_singleton, decide_eq_true_eq]
    constructor
    · exact fun both => List.inj_on_of_nodup_map nodup both.1 member both.2
    · rintro rfl
      exact ⟨member, rfl⟩

theorem filter_key_of_absent {key : α → κ} {target : κ} {list : List α}
    (absent : ∀ element ∈ list, key element ≠ target) :
    (list.filter fun element => key element = target) = [] := by
  rw [List.filter_eq_nil_iff]
  intro element member
  rw [decide_eq_true_eq]
  exact absent element member

/-- A sum over the elements with a key, one element at a time. -/
theorem sum_key_cons {μ : Type} [AddMonoid μ] (key : α → κ) (value : α → μ) (target : κ)
    (element : α) (list : List α) :
    (((element :: list).filter fun other => key other = target).map value).sum =
      (if key element = target then value element else 0) +
        ((list.filter fun other => key other = target).map value).sum := by
  rw [List.filter_cons]
  by_cases same : key element = target
  · simp [same]
  · simp [same]

/-- Put an element in the place of the one that has its key. -/
def replaceBy (key : α → κ) (new : α) (list : List α) : List α :=
  list.map fun element => if key element = key new then new else element

theorem map_key_replaceBy (key : α → κ) (new : α) (list : List α) :
    (replaceBy key new list).map key = list.map key := by
  rw [replaceBy, List.map_map]
  refine List.map_congr_left fun element _ => ?_
  rw [Function.comp_apply]
  split
  · rename_i same
    exact same.symm
  · rfl

theorem mem_replaceBy_of_ne {key : α → κ} {new other : α} {list : List α}
    (different : key other ≠ key new) : other ∈ replaceBy key new list ↔ other ∈ list := by
  rw [replaceBy, List.mem_map]
  constructor
  · rintro ⟨element, member, image⟩
    split at image
    · rw [← image] at different
      contradiction
    · exact image ▸ member
  · exact fun member => ⟨other, member, if_neg different⟩

theorem mem_replaceBy {key : α → κ} {new other : α} {list : List α}
    (member : other ∈ replaceBy key new list) :
    other = new ∨ (other ∈ list ∧ key other ≠ key new) := by
  by_cases same : key other = key new
  · left
    obtain ⟨element, _, image⟩ := List.mem_map.mp member
    split at image
    · exact image.symm
    · rename_i different
      rw [image] at different
      contradiction
  · exact Or.inr ⟨(mem_replaceBy_of_ne same).mp member, same⟩

private theorem replaceBy_of_not_mem {key : α → κ} {new : α} {list : List α}
    (absent : key new ∉ list.map key) : replaceBy key new list = list := by
  conv_rhs => rw [← List.map_id list]
  refine List.map_congr_left fun element member => if_neg fun same => absent ?_
  exact same ▸ List.mem_map_of_mem member

theorem sum_replaceBy {key : α → κ} {new old : α} {list : List α}
    (nodup : (list.map key).Nodup) (member : old ∈ list) (sameKey : key new = key old)
    (weight : α → ℕ) :
    ((replaceBy key new list).map weight).sum + weight old =
      (list.map weight).sum + weight new := by
  induction list with
  | nil => contradiction
  | cons element list induction =>
      obtain ⟨fresh, rest⟩ := List.nodup_cons.mp nodup
      have unfolded : replaceBy key new (element :: list) =
          (if key element = key new then new else element) :: replaceBy key new list := rfl
      rw [unfolded, List.map_cons, List.sum_cons, List.map_cons, List.sum_cons]
      rcases List.mem_cons.mp member with rfl | later
      · rw [← sameKey] at fresh
        rw [if_pos sameKey.symm, replaceBy_of_not_mem fresh]
        omega
      · have different : key element ≠ key new := by
          rintro same
          rw [same, sameKey] at fresh
          exact fresh (List.mem_map_of_mem later)
        have others := induction rest later
        rw [if_neg different]
        omega

/-- Changing the element with a key puts the changed element in its place. -/
theorem map_ite_eq_replaceBy {key : α → κ} {old : α} {list : List α} (change : α → α)
    (nodup : (list.map key).Nodup) (member : old ∈ list) (sameKey : key (change old) = key old) :
    (list.map fun element => if key element = key old then change element else element) =
      replaceBy key (change old) list := by
  refine List.map_congr_left fun element elementMember => ?_
  rw [sameKey]
  split
  · rename_i same
    rw [List.inj_on_of_nodup_map nodup elementMember member same]
  · rfl

end OdooConnector
