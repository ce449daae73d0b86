import Mathlib.Data.List.Perm.Basic
import Mathlib.Data.List.Nodup

/-!
# Unique constraints

The records of a table in which no two have one key. A record may be without a key, like a row with
a null value in a column of the constraint; such records do not count.

All records that a condition selects get a new value at once. If this gives them one key, then the
constraint allows it only for a single record, and only if no other record has that key.
-/

namespace OdooConnector

variable {α κ : Type*} {key : α → Option κ} {records : List α}

/-- No two records have one key. -/
def UniqueKey (key : α → Option κ) (records : List α) : Prop := (records.filterMap key).Nodup

instance [DecidableEq κ] (key : α → Option κ) (records : List α) :
    Decidable (UniqueKey key records) := inferInstanceAs (Decidable (List.Nodup _))

/-- Change the records that are selected. -/
def updateWhere (selected : α → Bool) (change : α → α) (records : List α) : List α :=
  records.map fun record => if selected record then change record else record

@[simp] theorem uniqueKey_nil : UniqueKey key [] := List.nodup_nil

theorem UniqueKey.sublist {fewer : List α} (unique : UniqueKey key records)
    (less : fewer.Sublist records) : UniqueKey key fewer :=
  (less.filterMap key).nodup unique

theorem UniqueKey.perm {others : List α} (same : records.Perm others) :
    UniqueKey key records ↔ UniqueKey key others :=
  (same.filterMap key).nodup_iff

/-- At most one record has a given key. -/
theorem UniqueKey.eq_of_mem (unique : UniqueKey key records) {record other : α} {value : κ}
    (listed : record ∈ records) (among : other ∈ records) (own : key record = some value)
    (same : key other = some value) : record = other := by
  induction records with
  | nil => cases listed
  | cons first records induction =>
      unfold UniqueKey at unique induction
      have rest : (records.filterMap key).Nodup :=
        ((List.sublist_cons_self first records).filterMap key).nodup unique
      have apart : ∀ later ∈ records, key first = some value → key later ≠ some value := by
        intro later listed leads also
        rw [List.filterMap_cons_some leads, List.nodup_cons] at unique
        exact unique.1 (List.mem_filterMap.mpr ⟨later, listed, also⟩)
      cases listed with
      | head =>
          cases among with
          | head => rfl
          | tail _ among => exact absurd same (apart other among own)
      | tail _ listed =>
          cases among with
          | head => exact absurd own (apart record listed same)
          | tail _ among => exact induction rest listed among

theorem uniqueKey_append_singleton {record : α} : UniqueKey key (records ++ [record]) ↔
    UniqueKey key records ∧ ∀ value, key record = some value →
      ∀ other ∈ records, key other ≠ some value := by
  unfold UniqueKey
  cases own : key record with
  | none => simp [own]
  | some value =>
      simp only [List.filterMap_append, List.filterMap_cons_some own, List.filterMap_nil,
        Option.some.injEq, forall_eq']
      rw [← List.concat_eq_append, List.nodup_concat, List.mem_filterMap, and_comm]
      refine and_congr_right fun _ => ?_
      push Not
      rfl

/-- Records that all have one key. -/
theorem filterMap_eq_replicate {value : κ} (own : ∀ record ∈ records, key record = some value) :
    records.filterMap key = List.replicate records.length value := by
  rw [List.filterMap_congr own, List.filterMap_eq_map', List.map_const']

section Update

variable {selected : α → Bool} {change : α → α}

/-- The records that are changed and the records that are not. -/
theorem updateWhere_perm : (updateWhere selected change records).Perm
    ((records.filter selected).map change ++ records.filter fun record => !selected record) := by
  induction records with
  | nil => exact .nil
  | cons record records induction =>
      cases chosen : selected record with
      | true => simpa [updateWhere, chosen] using induction.cons (change record)
      | false =>
          have step := induction.cons record
          have swapped : ((records.filter selected).map change ++
              record :: records.filter fun record => !selected record).Perm (record ::
              ((records.filter selected).map change ++
                records.filter fun record => !selected record)) := List.perm_middle
          simpa [updateWhere, chosen] using step.trans swapped.symm

/-- The records that a condition selects, after a change that keeps them selected. -/
theorem filter_updateWhere (keeps : ∀ record, selected record → selected (change record)) :
    (updateWhere selected change records).filter selected =
      (records.filter selected).map change := by
  induction records with
  | nil => rfl
  | cons record records induction =>
      rw [updateWhere] at induction ⊢
      cases chosen : selected record with
      | true => simp [chosen, keeps record chosen, induction]
      | false => simp [chosen, induction]

/-- A change of other records. -/
theorem filter_updateWhere_of_disjoint {other : α → Bool}
    (before : ∀ record, selected record → other record = false)
    (after : ∀ record, selected record → other (change record) = false) :
    (updateWhere selected change records).filter other = records.filter other := by
  induction records with
  | nil => rfl
  | cons record records induction =>
      rw [updateWhere] at induction ⊢
      cases chosen : selected record with
      | true => simp [chosen, before record chosen, after record chosen, induction]
      | false => simp [chosen, List.filter_cons, induction]

/-- Records may lose their key. -/
theorem UniqueKey.updateWhere_none (unique : UniqueKey key records)
    (lost : ∀ record ∈ records, selected record → key (change record) = none) :
    UniqueKey key (updateWhere selected change records) := by
  rw [UniqueKey.perm updateWhere_perm]
  have gone : ((records.filter selected).map change).filterMap key = [] := by
    rw [List.filterMap_map, List.filterMap_eq_nil_iff]
    intro record chosen
    exact lost record (List.mem_of_mem_filter chosen) (List.of_mem_filter chosen)
  unfold UniqueKey
  rw [List.filterMap_append, gone]
  exact unique.sublist List.filter_sublist

/-- At most one record can be selected by its key. -/
theorem UniqueKey.length_filter_le (unique : UniqueKey key records) {value : κ}
    (own : ∀ record ∈ records, selected record → key record = some value) :
    (records.filter selected).length ≤ 1 := by
  have constant : (records.filter selected).filterMap key =
      List.replicate (records.filter selected).length value :=
    filterMap_eq_replicate fun record chosen =>
      own record (List.mem_of_mem_filter chosen) (List.of_mem_filter chosen)
  have nodup : ((records.filter selected).filterMap key).Nodup :=
    unique.sublist List.filter_sublist
  rwa [constant, List.nodup_replicate] at nodup

/-- Records that get one key. -/
theorem UniqueKey.updateWhere_iff (unique : UniqueKey key records) {value : κ}
    (set : ∀ record ∈ records, selected record → key (change record) = some value)
    (some_selected : ∃ record ∈ records, selected record) :
    UniqueKey key (updateWhere selected change records) ↔
      (records.filter selected).length ≤ 1 ∧
        ∀ record ∈ records, selected record = false → key record ≠ some value := by
  rw [UniqueKey.perm updateWhere_perm]
  have same : ((records.filter selected).map change).filterMap key =
      List.replicate (records.filter selected).length value := by
    rw [List.filterMap_map]
    exact filterMap_eq_replicate fun record chosen =>
      set record (List.mem_of_mem_filter chosen) (List.of_mem_filter chosen)
  have rest : ((records.filter fun record => !selected record).filterMap key).Nodup :=
    unique.sublist List.filter_sublist
  obtain ⟨chosen, listed, hit⟩ := some_selected
  have positive : (records.filter selected).length ≠ 0 := by
    rw [ne_eq, List.length_eq_zero_iff]
    exact List.ne_nil_of_mem (List.mem_filter.mpr ⟨listed, hit⟩)
  unfold UniqueKey
  rw [List.filterMap_append, same, List.nodup_append', List.nodup_replicate]
  refine and_congr_right fun _ => ⟨?_, ?_⟩
  · rintro ⟨_, disjoint⟩ record mem other own
    refine disjoint (List.mem_replicate.mpr ⟨positive, rfl⟩) ?_
    rw [List.mem_filterMap]
    exact ⟨record, List.mem_filter.mpr ⟨mem, by simp [other]⟩, own⟩
  · intro apart
    refine ⟨rest, ?_⟩
    intro other copied kept
    obtain ⟨_, rfl⟩ := List.mem_replicate.mp copied
    obtain ⟨record, among, own⟩ := List.mem_filterMap.mp kept
    obtain ⟨mem, unselected⟩ := List.mem_filter.mp among
    exact apart record mem (by simpa using unselected) own

end Update

end OdooConnector
