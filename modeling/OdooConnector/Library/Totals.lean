import Mathlib.Algebra.BigOperators.Group.Finset.Basic
import OdooConnector.Library.NestedDict

/-!
# Totals over dictionaries

A measure of entries is summed up over a dictionary. Where an update adds a gain to the measure of
its key, it adds the same gain to the total.
-/

namespace OdooConnector

variable {κ α β M : Type*} [AddCommMonoid M]

theorem sum_map_flatMap (list : List α) (parts : α → List β) (value : β → M) :
    ((list.flatMap parts).map value).sum =
      (list.map fun item => ((parts item).map value).sum).sum := by
  rw [List.map_flatMap, List.flatMap_def, List.sum_flatten, List.map_map]
  rfl

namespace Dict

theorem nodup_keys (dict : Dict κ α) : dict.keys.Nodup := dict.keys_nodup

variable [DecidableEq κ]

def total (measure : κ → α → M) (dict : Dict κ α) : M :=
  (dict.entries.map fun entry => measure entry.1 entry.2).sum

/-- The measure of what stands under a key. -/
def share (measure : κ → α → M) (dict : Dict κ α) (key : κ) : M :=
  (dict.get? key).elim 0 (measure key)

theorem get?_eq_none_iff (dict : Dict κ α) (key : κ) :
    dict.get? key = none ↔ key ∉ dict.keys := by
  rw [Option.eq_none_iff_forall_ne_some]
  constructor
  · intro absent listed
    obtain ⟨entry, member, same⟩ := List.mem_map.mp listed
    exact absent entry.2 ((get?_eq_some_iff dict key entry.2).mpr (same ▸ member))
  · intro absent value found
    exact absent (List.mem_map.mpr ⟨_, (get?_eq_some_iff dict key value).mp found, rfl⟩)

variable (measure : κ → α → M)

theorem total_eq_sum (dict : Dict κ α) :
    total measure dict = ∑ key ∈ dict.keys.toFinset, share measure dict key := by
  rw [List.sum_toFinset _ dict.nodup_keys, total, keys, List.map_map]
  refine congrArg List.sum (List.map_congr_left fun entry member => ?_)
  have found := (get?_eq_some_iff dict entry.1 entry.2).mpr member
  rw [Function.comp_apply, share, found, Option.elim_some]

/-- The total, with one key on its own. -/
theorem total_eq_add (dict : Dict κ α) (key : κ) :
    total measure dict =
      share measure dict key +
        ∑ other ∈ dict.keys.toFinset.erase key, share measure dict other := by
  rw [total_eq_sum]
  by_cases present : key ∈ dict.keys
  · exact (Finset.add_sum_erase _ _ (List.mem_toFinset.mpr present)).symm
  · have absent : key ∉ dict.keys.toFinset := by rwa [List.mem_toFinset]
    have nothing : share measure dict key = 0 := by
      rw [share, (get?_eq_none_iff dict key).mpr present, Option.elim_none]
    rw [Finset.erase_eq_of_notMem absent, nothing, zero_add]

theorem total_update (dict : Dict κ α) (key : κ) (change : Option α → α) (gain : M)
    (grows : measure key (change (dict.get? key)) = share measure dict key + gain) :
    total measure (dict.update key change) = total measure dict + gain := by
  have same : (dict.update key change).keys.toFinset.erase key = dict.keys.toFinset.erase key := by
    ext other
    simp only [Finset.mem_erase, List.mem_toFinset, mem_keys_update, and_congr_right_iff]
    intro different
    simp [different]
  have others : ∀ other ∈ dict.keys.toFinset.erase key,
      share measure (dict.update key change) other = share measure dict other := by
    intro other member
    rw [share, get?_update, if_neg (Finset.ne_of_mem_erase member), share]
  have written : share measure (dict.update key change) key = share measure dict key + gain := by
    rw [share, get?_update, if_pos rfl, Option.elim_some, grows]
  rw [total_eq_add measure _ key, total_eq_add measure dict key, same,
    Finset.sum_congr rfl others, written, add_right_comm]

/-- Updates for the elements of a list add up their gains. -/
theorem total_updateAll (key : β → κ) (change : β → Option α → α) (gain : β → M) (dict : Dict κ α)
    (list : List β)
    (grows : ∀ item ∈ list, ∀ old,
      measure (key item) (change item old) = old.elim 0 (measure (key item)) + gain item) :
    total measure (updateAll key change dict list) = total measure dict + (list.map gain).sum := by
  induction list generalizing dict with
  | nil => rw [updateAll, List.foldl_nil, List.map_nil, List.sum_nil, add_zero]
  | cons item list induction =>
      have first := total_update measure dict (key item) (change item) (gain item)
        (grows item List.mem_cons_self _)
      rw [updateAll, List.foldl_cons, ← updateAll,
        induction _ fun item member => grows item (List.mem_cons_of_mem _ member), first,
        List.map_cons, List.sum_cons, add_assoc]

/-- Where each element adds its amount to its key, a key holds the sum of its amounts. -/
theorem get?_updateAll_add (key : β → κ) (amount : β → M) (list : List β) (target : κ) :
    (updateAll key (fun item (old : Option M) => old.getD 0 + amount item) ∅ list).get? target =
      if (list.filter fun item => key item = target) = [] then none
      else some ((list.filter fun item => key item = target).map amount).sum := by
  rw [get?_updateAll, get?_empty]
  generalize list.filter (fun item => key item = target) = kept
  induction kept using List.reverseRecOn with
  | nil => rfl
  | append_singleton kept last induction =>
      have nonempty : kept ++ [last] ≠ [] := by simp
      rw [List.foldl_append, induction, if_neg nonempty, List.map_append, List.sum_append]
      by_cases empty : kept = []
      · simp [empty]
      · simp [empty]

/-- The first key that is written stays the first one. -/
theorem head_updateAll (key : β → κ) (change : β → Option α → α) (item : β) (list : List β) :
    ∃ rest, (updateAll key change ∅ (item :: list)).keys = key item :: rest := by
  have keep : ∀ (list : List β) (dict : Dict κ α), (∃ rest, dict.keys = key item :: rest) →
      ∃ rest, (updateAll key change dict list).keys = key item :: rest := by
    intro list
    induction list with
    | nil => exact fun dict first => first
    | cons next list induction =>
        intro dict first
        refine induction (dict.update (key next) (change next)) ?_
        obtain ⟨rest, first⟩ := first
        rw [keys_update]
        split
        · exact ⟨rest, first⟩
        · exact ⟨rest ++ [key next], by rw [first, List.cons_append]⟩
  refine keep list ((∅ : Dict κ α).update (key item) (change item)) ⟨[], ?_⟩
  rw [keys_update]
  exact if_neg List.not_mem_nil

end Dict
end OdooConnector
