import Mathlib.Data.List.Basic
import Mathlib.Order.Basic
import Mathlib.Order.Nat

/-!
# Transactions on snapshots

Rows stand under unique keys. A transaction reads them as they were when it began, and writes a row
only as long as nobody else has written it since, so that it writes what it has read.
-/

namespace OdooConnector

/-- Rows under their keys, and how often each of them was written. -/
structure Rows (κ ρ : Type) where
  row : κ → Option ρ
  version : κ → ℕ

namespace Rows

variable {κ ρ : Type}

def empty : Rows κ ρ := ⟨fun _ => none, fun _ => 0⟩

/-- Write those rows that there is something to write for, nothing where one is deleted. -/
def rewrite (rows : Rows κ ρ) (value : κ → Option (Option ρ)) : Rows κ ρ where
  row key := (value key).getD (rows.row key)
  version key := rows.version key + (value key).isSome.toNat

/-- Change the rows that are selected. -/
def updateWhere (rows : Rows κ ρ) (select : ρ → Bool) (change : ρ → ρ) : Rows κ ρ :=
  rows.rewrite fun key => ((rows.row key).filter select).map fun row => some (change row)

def deleteWhere (rows : Rows κ ρ) (select : ρ → Bool) : Rows κ ρ :=
  rows.rewrite fun key => ((rows.row key).filter select).map fun _ => none

section Keys

variable [DecidableEq κ]

def write (rows : Rows κ ρ) (key : κ) (value : Option ρ) : Rows κ ρ :=
  rows.rewrite fun other => if other = key then some value else none

def writeAll (rows : Rows κ ρ) (writes : List (κ × ρ)) : Rows κ ρ :=
  writes.foldl (fun rows write => rows.write write.1 (some write.2)) rows

end Keys

/-- A row that the snapshot has must not have been written since, and under a key that was free
none must have come in. -/
def writable (snapshot rows : Rows κ ρ) (key : κ) : Bool :=
  if (snapshot.row key).isNone then (rows.row key).isNone
  else rows.version key = snapshot.version key

/-- The rows some time after a snapshot. -/
structure Later (snapshot rows : Rows κ ρ) : Prop where
  version : ∀ key, snapshot.version key ≤ rows.version key
  row : ∀ key, rows.version key = snapshot.version key → rows.row key = snapshot.row key

variable {snapshot rows : Rows κ ρ}

theorem Later.refl (rows : Rows κ ρ) : Later rows rows := ⟨fun _ => le_rfl, fun _ _ => rfl⟩

theorem Later.trans {middle : Rows κ ρ} (first : Later snapshot middle)
    (second : Later middle rows) : Later snapshot rows where
  version key := (first.version key).trans (second.version key)
  row key same := by
    have before := first.version key
    have after := second.version key
    rw [second.row key (by omega), first.row key (by omega)]

theorem Later.rewrite (later : Later snapshot rows) (value : κ → Option (Option ρ)) :
    Later snapshot (rows.rewrite value) where
  version key := (later.version key).trans (Nat.le_add_right _ _)
  row key same := by
    have before := later.version key
    change rows.version key + (value key).isSome.toNat = snapshot.version key at same
    change (value key).getD (rows.row key) = snapshot.row key
    cases written : value key with
    | none =>
        rw [written] at same
        exact later.row key same
    | some row =>
        rw [written, Option.isSome_some, Bool.toNat_true] at same
        omega

/-- A transaction that may write a row has read it. -/
theorem Later.row_of_writable (later : Later snapshot rows) {key : κ}
    (free : snapshot.writable rows key) : rows.row key = snapshot.row key := by
  rw [writable] at free
  split at free
  · rename_i absent
    rw [Option.isNone_iff_eq_none] at absent free
    rw [absent, free]
  · exact later.row key (of_decide_eq_true free)

section Keys

variable [DecidableEq κ]

theorem row_write (key other : κ) (value : Option ρ) :
    (rows.write key value).row other = if other = key then value else rows.row other := by
  change (if other = key then some value else none).getD (rows.row other) = _
  split <;> rfl

theorem version_write (key other : κ) (value : Option ρ) :
    (rows.write key value).version other =
      rows.version other + if other = key then 1 else 0 := by
  change rows.version other + (if other = key then some value else none).isSome.toNat = _
  split <;> rfl

theorem Later.writeAll (later : Later snapshot rows) (writes : List (κ × ρ)) :
    Later snapshot (rows.writeAll writes) := by
  induction writes generalizing rows with
  | nil => exact later
  | cons write writes induction => exact induction (later.rewrite _)

/-- One row is written under several keys. -/
theorem row_writeAll_map (keys : List κ) (value : ρ) (other : κ) :
    (rows.writeAll (keys.map fun key => (key, value))).row other =
      if other ∈ keys then some value else rows.row other := by
  induction keys generalizing rows with
  | nil => rfl
  | cons key keys induction =>
      have later := @induction (rows.write key (some value))
      rw [row_write] at later
      change (Rows.writeAll _ (keys.map fun key => (key, value))).row other = _
      rw [later]
      by_cases listed : other ∈ keys
      · rw [if_pos listed, if_pos (List.mem_cons_of_mem _ listed)]
      · by_cases same : other = key
        · rw [if_neg listed, if_pos same, if_pos (List.mem_cons.mpr (.inl same))]
        · rw [if_neg listed, if_neg same, if_neg fun member =>
            (List.mem_cons.mp member).elim same listed]

/-- A row after several writes is one of those written, or was there. -/
theorem row_writeAll (writes : List (κ × ρ)) {key : κ} {row : ρ}
    (found : (rows.writeAll writes).row key = some row) :
    (key, row) ∈ writes ∨ rows.row key = some row := by
  induction writes generalizing rows with
  | nil => exact .inr found
  | cons write writes induction =>
      rcases induction found with later | before
      · exact .inl (List.mem_cons_of_mem _ later)
      · rw [row_write] at before
        split at before
        · rename_i same
          refine .inl (List.mem_cons.mpr (.inl ?_))
          exact Prod.ext same (Option.some.inj before).symm
        · exact .inr before

end Keys

theorem row_updateWhere {select : ρ → Bool} {change : ρ → ρ} {key : κ} {after : ρ} :
    (rows.updateWhere select change).row key = some after ↔
      ∃ before, rows.row key = some before ∧
        after = if select before then change before else before := by
  change (((rows.row key).filter select).map fun row => some (change row)).getD (rows.row key) = _ ↔
    _
  cases rows.row key with
  | none => simp
  | some before =>
      have same : (∃ row, some before = some row ∧
          after = if select row then change row else row) ↔
            after = if select before then change before else before := by
        constructor
        · rintro ⟨row, found, value⟩
          rwa [← Option.some_inj.mp found] at value
        · exact fun value => ⟨before, rfl, value⟩
      rw [same, Option.filter_some]
      split
      · exact Option.some_inj.trans eq_comm
      · exact Option.some_inj.trans eq_comm

theorem row_deleteWhere {select : ρ → Bool} {key : κ} {row : ρ} :
    (rows.deleteWhere select).row key = some row ↔
      rows.row key = some row ∧ select row = false := by
  change (((rows.row key).filter select).map fun _ => none).getD (rows.row key) = _ ↔ _
  cases rows.row key with
  | none => simp
  | some before =>
      by_cases selected : select before
      · simp only [Option.filter_some, selected, if_true, Option.map_some, Option.getD_some,
          Option.some_inj]
        refine iff_of_false nofun ?_
        rintro ⟨rfl, other⟩
        exact absurd selected (by simp [other])
      · simp only [Option.filter_some, selected, Bool.false_eq_true, if_false, Option.map_none,
          Option.getD_none, Option.some_inj]
        refine ⟨?_, And.left⟩
        rintro rfl
        exact ⟨rfl, by simpa using selected⟩

end Rows

end OdooConnector
