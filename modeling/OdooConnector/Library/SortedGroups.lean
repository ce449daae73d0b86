import Mathlib.Data.List.SplitBy
import Mathlib.Order.Lattice
import OdooConnector.Library.Grouping

/-!
# Groups of a sorted list

A list is sorted by a key and cut wherever the key changes. Each key has one group then, with its
elements in the order that they had before the sort.
-/

namespace OdooConnector

variable {α β : Type*} [LinearOrder β] (key : α → β)

/-- The smallest keys first; the sort is stable. -/
def sortedBy (list : List α) : List α := list.mergeSort fun first second => key first ≤ key second

/-- Neighbours with one key are in one group. -/
def groupAdjacent (list : List α) : List (List α) :=
  list.splitBy fun first second => key first == key second

theorem sortedBy_perm (list : List α) : (sortedBy key list).Perm list := List.mergeSort_perm _ _

private theorem key_trans (first second third : α) :
    decide (key first ≤ key second) = true → decide (key second ≤ key third) = true →
      decide (key first ≤ key third) = true := by
  intro one two
  exact decide_eq_true ((of_decide_eq_true one).trans (of_decide_eq_true two))

private theorem key_total (first second : α) :
    (decide (key first ≤ key second) || decide (key second ≤ key first)) = true := by
  simpa using le_total (key first) (key second)

theorem pairwise_sortedBy (list : List α) :
    (sortedBy key list).Pairwise fun first second => key first ≤ key second := by
  have sorted := List.pairwise_mergeSort (key_trans key) (key_total key) list
  exact sorted.imp fun le => of_decide_eq_true le

/-- Elements with one key keep their order. -/
theorem filter_sortedBy (list : List α) (group : β) :
    ((sortedBy key list).filter fun element => key element = group) =
      list.filter fun element => key element = group := by
  have same : ∀ element ∈ list.filter fun element => key element = group, key element = group := by
    intro element member
    exact of_decide_eq_true (List.mem_filter.mp member).2
  have ordered : (list.filter fun element => key element = group).Pairwise
      fun first second => decide (key first ≤ key second) = true := by
    refine List.pairwise_iff_forall_sublist.mpr fun {first second} sublist => ?_
    have one := same first (sublist.subset (by simp))
    have two := same second (sublist.subset (by simp))
    exact decide_eq_true (one.trans two.symm).le
  have kept := (List.sublist_mergeSort (key_trans key) (key_total key) ordered
    List.filter_sublist).filter fun element => decide (key element = group)
  rw [List.filter_filter] at kept
  simp only [Bool.and_self] at kept
  have length := ((sortedBy_perm key list).filter fun element =>
    decide (key element = group)).length_eq
  exact (kept.eq_of_length length.symm).symm

/-- The key of a group whose neighbours have one key. -/
theorem key_eq_of_isChain {first : α} {rest : List α}
    (chain : (first :: rest).IsChain fun one two => (key one == key two) = true) :
    ∀ element ∈ first :: rest, key element = key first := by
  induction rest generalizing first with
  | nil =>
      intro element member
      rw [List.mem_singleton.mp member]
  | cons second rest induction =>
      obtain ⟨same, chain⟩ := List.isChain_cons_cons.mp chain
      intro element member
      rcases List.mem_cons.mp member with rfl | later
      · rfl
      · rw [induction chain element later, beq_iff_eq.mp same]

/-- The next group starts with another key, and all that follows has no smaller one. -/
theorem key_lt_of_mem_flatten {first : α} {group : List α} {groups : List (List α)}
    (own : ∀ element ∈ group, key element = key first)
    (between : (group :: groups).IsChain fun left right =>
      ∃ leftNonempty rightNonempty,
        (key (left.getLast leftNonempty) == key (right.head rightNonempty)) = false)
    (across : ∀ one ∈ group, ∀ two ∈ groups.flatten, key one ≤ key two)
    (sorted : groups.flatten.Pairwise fun one two => key one ≤ key two) :
    ∀ element ∈ groups.flatten, key first < key element := by
  intro element member
  cases groups with
  | nil => simp at member
  | cons next groups =>
      obtain ⟨lastNonempty, nextNonempty, different⟩ := (List.isChain_cons_cons.mp between).1
      obtain ⟨start, tail, rfl⟩ := List.exists_cons_of_ne_nil nextNonempty
      have last := List.getLast_mem lastNonempty
      have other : key first ≠ key start := by
        rw [← own _ last]
        exact beq_eq_false_iff_ne.mp different
      rw [List.flatten_cons, List.cons_append] at member sorted across
      have least : key first ≤ key start := by
        rw [← own _ last]
        exact across _ last start List.mem_cons_self
      refine (lt_of_le_of_ne least other).trans_le ?_
      rcases List.mem_cons.mp member with rfl | later
      · exact le_rfl
      · exact (List.pairwise_cons.mp sorted).1 element later

/-- What holds of the groups of a sorted list. -/
theorem exists_keys_of_sorted (groups : List (List α)) (nonempty : [] ∉ groups)
    (inside : ∀ group ∈ groups, group.IsChain fun one two => (key one == key two) = true)
    (between : groups.IsChain fun left right =>
      ∃ leftNonempty rightNonempty,
        (key (left.getLast leftNonempty) == key (right.head rightNonempty)) = false)
    (sorted : groups.flatten.Pairwise fun one two => key one ≤ key two) :
    ∃ keys : List β, keys.Pairwise (· < ·) ∧
      (∀ group, group ∈ keys ↔ group ∈ groups.flatten.map key) ∧
      groups = keys.map fun group => groups.flatten.filter fun element => key element = group := by
  induction groups with
  | nil => exact ⟨[], by simp⟩
  | cons head groups induction =>
      rw [List.mem_cons, not_or] at nonempty
      obtain ⟨headNonempty, nonempty⟩ := nonempty
      obtain ⟨first, rest, rfl⟩ := List.exists_cons_of_ne_nil (Ne.symm headNonempty)
      rw [List.flatten_cons, List.pairwise_append] at sorted
      obtain ⟨-, sortedGroups, across⟩ := sorted
      obtain ⟨keys, strict, members, equal⟩ := induction nonempty
        (fun group member => inside group (List.mem_cons_of_mem _ member)) between.tail sortedGroups
      have own := key_eq_of_isChain key (inside _ List.mem_cons_self)
      have larger := key_lt_of_mem_flatten key own between across sortedGroups
      have keysLarger : ∀ group ∈ keys, key first < group := by
        intro group member
        obtain ⟨element, listed, rfl⟩ := List.mem_map.mp ((members group).mp member)
        exact larger element listed
      refine ⟨key first :: keys, List.pairwise_cons.mpr ⟨keysLarger, strict⟩, ?_, ?_⟩
      · intro group
        rw [List.flatten_cons, List.map_append, List.mem_append, ← members group, List.mem_cons]
        refine or_congr_left ⟨fun same => ?_, fun member => ?_⟩
        · exact same ▸ List.mem_map_of_mem List.mem_cons_self
        · obtain ⟨element, listed, rfl⟩ := List.mem_map.mp member
          exact own element listed
      · rw [List.map_cons, List.flatten_cons]
        congr 1
        · rw [List.filter_append, List.filter_eq_self.mpr fun element member =>
              decide_eq_true (own element member),
            List.filter_eq_nil_iff.mpr fun element member same =>
              (larger element member).ne' (of_decide_eq_true same), List.append_nil]
        · conv_lhs => rw [equal]
          refine List.map_congr_left fun group member => ?_
          rw [List.filter_append, List.filter_eq_nil_iff.mpr fun element listed same =>
            (keysLarger group member).ne ((own element listed).symm.trans (of_decide_eq_true same)),
            List.nil_append]

/-- Each key of the list has one group, and the groups are in the order of their keys. -/
theorem exists_keys_groupAdjacent_sortedBy (list : List α) :
    ∃ keys : List β, keys.Pairwise (· < ·) ∧ Enumerates keys (list.map key) ∧
      groupAdjacent key (sortedBy key list) =
        keys.map fun group => list.filter fun element => key element = group := by
  have sorted := pairwise_sortedBy key list
  have flatten := List.flatten_splitBy (fun one two => key one == key two) (sortedBy key list)
  have between := List.isChain_getLast_head_splitBy (fun one two => key one == key two)
    (sortedBy key list)
  obtain ⟨keys, strict, members, equal⟩ := exists_keys_of_sorted key
    (groupAdjacent key (sortedBy key list)) (List.nil_notMem_splitBy _ _)
    (fun group => List.isChain_of_mem_splitBy) between (by rwa [groupAdjacent, flatten])
  refine ⟨keys, strict, ⟨strict.imp fun less => less.ne, fun group => ?_⟩, ?_⟩
  · rw [members group, groupAdjacent, flatten]
    exact ((sortedBy_perm key list).map key).mem_iff
  · rw [equal]
    refine List.map_congr_left fun group _ => ?_
    rw [groupAdjacent, flatten, filter_sortedBy]

end OdooConnector
