import Mathlib.Data.List.Nodup
import Mathlib.Order.Lattice

/-!
# Rankings

A list is sorted by descending scores, and elements of one score keep their order. The first ones of
the ranking are those that few others stand ahead of.
-/

namespace OdooConnector

variable {α β : Type*} [LinearOrder β] (score : α → β) (list : List α)

/-- The largest scores first; the sort is stable. -/
def ranking : List α := list.mergeSort fun first second => score second ≤ score first

/-- The first element has the larger score, or the same one and comes earlier in the list. -/
def Ahead (first second : α) : Prop :=
  score second < score first ∨ score first = score second ∧ [first, second].Sublist list

instance [DecidableEq α] : DecidableRel (Ahead score list) := fun first second => by
  unfold Ahead
  infer_instance

theorem ranking_perm : (ranking score list).Perm list := List.mergeSort_perm _ _

variable {score list}

theorem not_sublist_swap (nodup : list.Nodup) {first second : α}
    (sublist : [first, second].Sublist list) : ¬ [second, first].Sublist list := by
  intro swapped
  induction list with
  | nil => cases sublist
  | cons head tail induction =>
      rw [List.nodup_cons] at nodup
      cases sublist with
      | cons _ sublist =>
          cases swapped with
          | cons _ swapped => exact induction nodup.2 sublist swapped
          | cons_cons _ swapped => exact nodup.1 (sublist.subset (by simp))
      | cons_cons _ sublist =>
          cases swapped with
          | cons _ swapped => exact nodup.1 (swapped.subset (by simp))
          | cons_cons _ swapped => exact nodup.1 (sublist.subset (by simp))

theorem sublist_or_swap {first second : α} (firstMember : first ∈ list)
    (secondMember : second ∈ list) (different : first ≠ second) :
    [first, second].Sublist list ∨ [second, first].Sublist list := by
  obtain ⟨before, after, rfl⟩ := List.append_of_mem firstMember
  have place : second ∈ before ∨ second ∈ after := by
    rw [List.mem_append, List.mem_cons] at secondMember
    rcases secondMember with early | same | late
    · exact .inl early
    · exact absurd same.symm different
    · exact .inr late
  rcases place with early | late
  · refine .inr ?_
    have front : [second].Sublist before := List.singleton_sublist.mpr early
    exact front.append (List.singleton_sublist.mpr List.mem_cons_self)
  · refine .inl ?_
    have back : [first, second].Sublist (first :: after) :=
      (List.singleton_sublist.mpr late).cons_cons first
    exact back.trans (List.sublist_append_right _ _)

theorem ahead_asymm (nodup : list.Nodup) {first second : α}
    (ahead : Ahead score list first second) :
    ¬ Ahead score list second first := by
  rintro (larger | ⟨same, swapped⟩)
  · rcases ahead with other | ⟨same, -⟩
    · exact lt_asymm larger other
    · exact absurd same larger.ne
  · rcases ahead with other | ⟨-, sublist⟩
    · exact absurd same other.ne
    · exact not_sublist_swap nodup sublist swapped

/-- Each element of the ranking is ahead of the ones after it. -/
theorem pairwise_ranking (nodup : list.Nodup) :
    (ranking score list).Pairwise (Ahead score list) := by
  have trans : ∀ first second third : α, decide (score second ≤ score first) = true →
      decide (score third ≤ score second) = true → decide (score third ≤ score first) = true := by
    intro first second third one two
    exact decide_eq_true ((of_decide_eq_true two).trans (of_decide_eq_true one))
  have total : ∀ first second : α,
      (decide (score second ≤ score first) || decide (score first ≤ score second)) = true := by
    intro first second
    simpa using le_total (score second) (score first)
  have sorted := List.pairwise_mergeSort trans total list
  have distinct : (ranking score list).Nodup := (ranking_perm score list).nodup_iff.mpr nodup
  rw [List.pairwise_iff_forall_sublist]
  intro first second sublist
  have order := of_decide_eq_true (List.pairwise_iff_forall_sublist.mp sorted sublist)
  rcases lt_or_eq_of_le order with larger | same
  · exact .inl larger
  · refine .inr ⟨same.symm, ?_⟩
    have different : first ≠ second :=
      (List.nodup_cons.mp (distinct.sublist sublist)).1 ∘ fun equal => equal ▸ List.mem_cons_self
    have members := (ranking_perm score list).subset
    have place := sublist_or_swap (members (sublist.subset (by simp)))
      (members (sublist.subset (by simp))) different
    -- A pair in the other order would keep that order in the ranking.
    refine place.resolve_right fun swapped => ?_
    have kept := List.pair_sublist_mergeSort trans total (decide_eq_true same.ge) swapped
    exact not_sublist_swap distinct sublist kept

/-- The first elements of the ranking are those with few ones ahead. -/
theorem mem_take_ranking_iff [DecidableEq α] (nodup : list.Nodup) {item : α} {count : ℕ} :
    item ∈ (ranking score list).take count ↔
      item ∈ list ∧ (list.filter fun other => Ahead score list other item).length < count := by
  have perm := ranking_perm score list
  have size : (list.filter fun other => Ahead score list other item).length =
      ((ranking score list).filter fun other => Ahead score list other item).length :=
    ((perm.filter _).length_eq).symm
  by_cases member : item ∈ list
  · obtain ⟨before, after, split⟩ := List.append_of_mem (perm.mem_iff.mpr member)
    have pairwise : (ranking score list).Pairwise (Ahead score list) := pairwise_ranking nodup
    rw [split, List.pairwise_append, List.pairwise_cons] at pairwise
    obtain ⟨-, ⟨late, -⟩, early⟩ := pairwise
    have front : before.filter (fun other => Ahead score list other item) = before :=
      List.filter_eq_self.mpr fun other listed =>
        decide_eq_true (early other listed item List.mem_cons_self)
    have itself : ¬ Ahead score list item item := fun ahead => ahead_asymm nodup ahead ahead
    have back : after.filter (fun other => Ahead score list other item) = [] :=
      List.filter_eq_nil_iff.mpr fun other listed =>
        (ahead_asymm nodup (late other listed)) ∘ of_decide_eq_true
    have ahead : (list.filter fun other => Ahead score list other item).length = before.length := by
      rw [size, split, List.filter_append, List.filter_cons_of_neg (by simpa using itself), front,
        back, List.append_nil]
    have absent : item ∉ before := by
      have distinct := perm.nodup_iff.mpr nodup
      rw [split] at distinct
      exact fun listed => (List.disjoint_of_nodup_append distinct) listed List.mem_cons_self
    rw [ahead, split, List.take_append, List.mem_append]
    constructor
    · rintro (listed | listed)
      · exact absurd (List.mem_of_mem_take listed) absent
      · refine ⟨member, ?_⟩
        by_contra large
        rw [Nat.sub_eq_zero_of_le (Nat.not_lt.mp large), List.take_zero] at listed
        exact absurd listed List.not_mem_nil
    · rintro ⟨-, small⟩
      refine .inr ?_
      obtain ⟨left, same⟩ : ∃ left, count - before.length = left + 1 :=
        ⟨count - before.length - 1, by omega⟩
      rw [same, List.take_succ_cons]
      exact List.mem_cons_self
  · refine iff_of_false (fun listed => ?_) fun both => member both.1
    exact member (perm.mem_iff.mp (List.mem_of_mem_take listed))

end OdooConnector
