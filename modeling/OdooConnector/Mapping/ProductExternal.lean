import Mathlib.Data.List.MinMax
import OdooConnector.Library.Fold
import OdooConnector.Library.UniqueKey
import OdooConnector.Mapping.MappingLayer

/-!
# External products

External records of the products of a store: templates and their variants. The tables of both are
written row by row, and each write is checked against the unique constraints on integration and code
and on integration and reference.
-/

namespace OdooConnector.Mapping

/-- The columns that templates and variants have in common. -/
structure ProductExternal extends IntegrationExternal where
  name : Option String
  externalBarcode : Option String
deriving DecidableEq

structure ProductTemplateExternal extends ProductExternal
deriving DecidableEq

/-- A variant with the ids of its template and of its attribute values. -/
structure ProductProductExternal extends ProductExternal where
  externalProductTemplateId : Option ℕ
  externalAttributeValueIds : List ℕ
deriving DecidableEq

/-- Rows of a model that inherits the mixin for external records. -/
class ExternalRow (ρ : Type) where
  external : ρ → IntegrationExternal
  withId : ℕ → ρ → ρ
  external_withId : ∀ id row, external (withId id row) = { external row with id := id }

instance : ExternalRow ProductTemplateExternal where
  external row := row.toIntegrationExternal
  withId id row := { row with id := id }
  external_withId _ _ := rfl

instance : ExternalRow ProductProductExternal where
  external row := row.toIntegrationExternal
  withId id row := { row with id := id }
  external_withId _ _ := rfl

namespace ExternalRow

variable {ρ : Type} [ExternalRow ρ]

def rowId (row : ρ) : ℕ := (external row).id

def idKey (row : ρ) : Option ℕ := some (rowId row)

/-- The columns of the unique constraint on codes. -/
def codeKey (row : ρ) : Option (ℕ × String) :=
  some ((external row).integrationId, (external row).code)

/-- The columns of the unique constraint on references, which null values do not violate. -/
def referenceKey (row : ρ) : Option (ℕ × String) :=
  (external row).externalReference.map fun reference => ((external row).integrationId, reference)

variable (id : ℕ) (row : ρ)

@[simp] theorem rowId_withId : rowId (withId id row) = id := by
  simp [rowId, external_withId]

@[simp] theorem codeKey_withId : codeKey (withId id row) = codeKey row := by
  simp [codeKey, external_withId]

@[simp] theorem referenceKey_withId : referenceKey (withId id row) = referenceKey row := by
  simp [referenceKey, external_withId]

end ExternalRow

open ExternalRow

/-- Rows that meet the constraints. -/
structure ExternalTable (ρ : Type) [ExternalRow ρ] where
  records : List ρ
  primaryKey : UniqueKey (idKey : ρ → _) records
  uniqCode : UniqueKey (codeKey : ρ → _) records
  uniqReference : UniqueKey (referenceKey : ρ → _) records

inductive ExternalError
  | missing (id : ℕ)
  | primaryKey
  | uniqCode
  | uniqReference
  deriving DecidableEq

namespace ExternalTable

variable {ρ : Type} [ExternalRow ρ]

def ofRecords (records : List ρ) : Except ExternalError (ExternalTable ρ) :=
  if primaryKey : UniqueKey (idKey : ρ → _) records then
    if uniqCode : UniqueKey (codeKey : ρ → _) records then
      if uniqReference : UniqueKey (referenceKey : ρ → _) records then
        .ok ⟨records, primaryKey, uniqCode, uniqReference⟩
      else .error .uniqReference
    else .error .uniqCode
  else .error .primaryKey

variable (table : ExternalTable ρ)

def nextId : ℕ := (table.records.map rowId).foldr max 0 + 1

/-- All columns of a row but its id are written. -/
def write (id : ℕ) (row : ρ) : Except ExternalError (ExternalTable ρ) :=
  if (table.records.any fun other => rowId other = id) then
    ofRecords (updateWhere (fun other => rowId other = id) (fun _ => withId id row) table.records)
  else .error (.missing id)

def create (row : ρ) : Except ExternalError (ExternalTable ρ) :=
  ofRecords (table.records ++ [withId table.nextId row])

/-- The row with the integration and the code of the given one is written, or a new one is created.
-/
def createOrUpdate (row : ρ) : Except ExternalError (ExternalTable ρ × ℕ) :=
  match table.records.find? fun other => codeKey other = codeKey row with
  | some other => do
      let after ← table.write (rowId other) row
      return (after, rowId other)
  | none => do
      let after ← table.create row
      return (after, table.nextId)

def unlink (id : ℕ) : ExternalTable ρ where
  records := table.records.filter fun row => rowId row ≠ id
  primaryKey := table.primaryKey.sublist List.filter_sublist
  uniqCode := table.uniqCode.sublist List.filter_sublist
  uniqReference := table.uniqReference.sublist List.filter_sublist

/-- A record is written under its id if it is known, else under its code. -/
def save (originId : Option ℕ) (row : ρ) : Except ExternalError (ExternalTable ρ × ℕ) :=
  match originId with
  | some id => do
      let after ← table.write id row
      return (after, id)
  | none => table.createOrUpdate row

/-- The record with the code of the row is the given one. -/
structure Origin (originId : Option ℕ) (row : ρ) : Prop where
  own : ∀ other ∈ table.records, codeKey other = codeKey row ↔ originId = some (rowId other)
  present : ∀ id, originId = some id → ∃ other ∈ table.records, rowId other = id

/-- No other record has the reference of the row. -/
def Free (row : ρ) : Prop :=
  ∀ other ∈ table.records, codeKey other ≠ codeKey row →
    ∀ key, referenceKey row = some key → referenceKey other ≠ some key

variable {table : ExternalTable ρ} {originId : Option ℕ} {row : ρ}

theorem exists_ofRecords_iff {records : List ρ} : (∃ after, ofRecords records = .ok after) ↔
    UniqueKey (idKey : ρ → _) records ∧ UniqueKey (codeKey : ρ → _) records ∧
      UniqueKey (referenceKey : ρ → _) records := by
  unfold ofRecords
  split
  · split
    · split <;> simp_all
    · simp_all
  · simp_all

theorem ofRecords_eq_ok {records : List ρ} {after : ExternalTable ρ}
    (ran : ofRecords records = .ok after) : after.records = records := by
  unfold ofRecords at ran
  split at ran
  · split at ran
    · split at ran
      · cases ran
        rfl
      · cases ran
    · cases ran
  · cases ran

theorem rowId_lt_nextId (table : ExternalTable ρ) {other : ρ} (listed : other ∈ table.records) :
    rowId other < table.nextId :=
  Nat.lt_succ_of_le (List.le_max_of_le' 0 (List.mem_map_of_mem listed) le_rfl)

theorem eq_of_rowId {first second : ρ} (listed : first ∈ table.records)
    (among : second ∈ table.records) (same : rowId first = rowId second) : first = second :=
  table.primaryKey.eq_of_mem listed among rfl (congrArg some same.symm)

section Write

variable {id : ℕ} (own : ∀ other ∈ table.records, codeKey other = codeKey row ↔ id = rowId other)

include own

theorem exists_write_iff (present : ∃ other ∈ table.records, rowId other = id) :
    (∃ after, table.write id row = .ok after) ↔ table.Free row := by
  have selected : ∃ other ∈ table.records, decide (rowId other = id) = true := by
    simpa using present
  have chosen : ∀ other ∈ table.records, decide (rowId other = id) = true →
      idKey other = some id := by
    simp [idKey]
  have few := table.primaryKey.length_filter_le chosen
  have given : ∀ other ∈ table.records, decide (rowId other = id) = true →
      idKey (withId id row) = some id := by
    simp [idKey]
  have ids : UniqueKey (idKey : ρ → _)
      (updateWhere (fun other => rowId other = id) (fun _ => withId id row) table.records) := by
    refine (table.primaryKey.updateWhere_iff given selected).mpr ⟨few, ?_⟩
    simp [idKey]
  have codes : UniqueKey (codeKey : ρ → _)
      (updateWhere (fun other => rowId other = id) (fun _ => withId id row) table.records) := by
    refine (table.uniqCode.updateWhere_iff (fun _ _ _ => codeKey_withId id row) selected).mpr
      ⟨few, ?_⟩
    intro other listed different same
    have equal := (own other listed).mp same
    simp [equal] at different
  rw [write, if_pos (List.any_eq_true.mpr selected), exists_ofRecords_iff,
    and_iff_right ids, and_iff_right codes]
  cases reference : referenceKey row with
  | none =>
      refine iff_of_true ?_ ?_
      · exact table.uniqReference.updateWhere_none fun _ _ _ =>
          (referenceKey_withId id row).trans reference
      · intro _ _ _ key some
        rw [reference] at some
        cases some
  | some key =>
      rw [table.uniqReference.updateWhere_iff
        (fun _ _ _ => (referenceKey_withId id row).trans reference) selected, and_iff_right few]
      constructor
      · intro apart other listed different key' some
        obtain rfl := Option.some.inj (reference.symm.trans some)
        refine apart other listed ?_
        rw [decide_eq_false_iff_not]
        exact fun equal => different ((own other listed).mpr equal.symm)
      · intro free other listed different
        refine free other listed ?_ key reference
        rw [decide_eq_false_iff_not] at different
        exact fun same => different ((own other listed).mp same).symm

theorem mem_write {after : ExternalTable ρ} (ran : table.write id row = .ok after) {other : ρ} :
    other ∈ after.records ↔
      (other ∈ table.records ∧ codeKey other ≠ codeKey row) ∨ other = withId id row := by
  unfold write at ran
  split at ran
  · rename_i found
    obtain ⟨origin, present, chosen⟩ := List.any_eq_true.mp found
    rw [ofRecords_eq_ok ran, updateWhere, List.mem_map]
    constructor
    · rintro ⟨before, listed, rfl⟩
      by_cases same : rowId before = id
      · exact .inr (by simp [same])
      · refine .inl ⟨by simpa [same] using listed, ?_⟩
        simp only [same, decide_false, Bool.false_eq_true, if_false]
        exact fun equal => same ((own before listed).mp equal).symm
    · rintro (⟨listed, different⟩ | rfl)
      · refine ⟨other, listed, ?_⟩
        have ne : rowId other ≠ id := fun equal => different ((own other listed).mpr equal.symm)
        simp [ne]
      · exact ⟨origin, present, if_pos chosen⟩
  · cases ran

end Write

section Create

variable (fresh : ∀ other ∈ table.records, codeKey other ≠ codeKey row)

include fresh

theorem createOrUpdate_eq : table.createOrUpdate row = (do
    let after ← table.create row
    return (after, table.nextId)) := by
  have none : table.records.find? (fun other => codeKey other = codeKey row) = none := by
    rw [List.find?_eq_none]
    simpa using fresh
  rw [createOrUpdate, none]

theorem exists_create_iff : (∃ after, table.create row = .ok after) ↔ table.Free row := by
  have ids : UniqueKey (idKey : ρ → _) (table.records ++ [withId table.nextId row]) := by
    refine uniqueKey_append_singleton.mpr ⟨table.primaryKey, ?_⟩
    intro id own other listed same
    have less := table.rowId_lt_nextId listed
    simp only [idKey, rowId_withId, Option.some.injEq] at own same
    omega
  have codes : UniqueKey (codeKey : ρ → _) (table.records ++ [withId table.nextId row]) := by
    refine uniqueKey_append_singleton.mpr ⟨table.uniqCode, ?_⟩
    intro key own other listed same
    rw [codeKey_withId] at own
    exact fresh other listed (same.trans own.symm)
  rw [create, exists_ofRecords_iff, and_iff_right ids, and_iff_right codes,
    uniqueKey_append_singleton, and_iff_right table.uniqReference, referenceKey_withId]
  constructor
  · exact fun free other listed _ key own => free key own other listed
  · exact fun free key own other listed => free other listed (fresh other listed) key own

theorem mem_create {after : ExternalTable ρ} (ran : table.create row = .ok after) {other : ρ} :
    other ∈ after.records ↔ (other ∈ table.records ∧ codeKey other ≠ codeKey row) ∨
      other = withId table.nextId row := by
  rw [ofRecords_eq_ok ran, List.mem_append, List.mem_singleton]
  exact or_congr_left ⟨fun listed => ⟨listed, fresh other listed⟩, And.left⟩

end Create

/-- A row can be saved if no other record has its reference. -/
theorem exists_save_iff (origin : table.Origin originId row) :
    (∃ saved, table.save originId row = .ok saved) ↔ table.Free row := by
  cases originId with
  | some id =>
      rw [← exists_write_iff (fun other listed => by simpa using origin.own other listed)
        (origin.present id rfl)]
      simp only [save, bind_eq_ok_iff, pure, Except.pure, Except.ok.injEq]
      constructor
      · rintro ⟨saved, after, ran, _⟩
        exact ⟨after, ran⟩
      · rintro ⟨after, ran⟩
        exact ⟨(after, id), after, ran, rfl⟩
  | none =>
      have fresh : ∀ other ∈ table.records, codeKey other ≠ codeKey row := by
        intro other listed same
        have impossible := (origin.own other listed).mp same
        cases impossible
      rw [← exists_create_iff fresh, save, createOrUpdate_eq fresh]
      simp only [bind_eq_ok_iff, pure, Except.pure, Except.ok.injEq]
      constructor
      · rintro ⟨saved, after, ran, _⟩
        exact ⟨after, ran⟩
      · rintro ⟨after, ran⟩
        exact ⟨(after, table.nextId), after, ran, rfl⟩

/-- The record with the code of the row is replaced, or the row is added. -/
theorem mem_save (origin : table.Origin originId row) {saved : ExternalTable ρ × ℕ}
    (ran : table.save originId row = .ok saved) {other : ρ} :
    other ∈ saved.1.records ↔
      (other ∈ table.records ∧ codeKey other ≠ codeKey row) ∨ other = withId saved.2 row := by
  cases originId with
  | some id =>
      simp only [save, bind_eq_ok_iff, pure, Except.pure, Except.ok.injEq] at ran
      obtain ⟨after, ran, rfl⟩ := ran
      exact mem_write (fun other listed => by simpa using origin.own other listed) ran
  | none =>
      have fresh : ∀ other ∈ table.records, codeKey other ≠ codeKey row := by
        intro other listed same
        have impossible := (origin.own other listed).mp same
        cases impossible
      rw [save, createOrUpdate_eq fresh] at ran
      simp only [bind_eq_ok_iff, pure, Except.pure, Except.ok.injEq] at ran
      obtain ⟨after, ran, rfl⟩ := ran
      exact mem_create fresh ran

/-- A record that is known keeps its id. -/
theorem save_id {id : ℕ} {saved : ExternalTable ρ × ℕ}
    (ran : table.save (some id) row = .ok saved) : saved.2 = id := by
  simp only [save, bind_eq_ok_iff, pure, Except.pure, Except.ok.injEq] at ran
  obtain ⟨after, _, rfl⟩ := ran
  rfl

/-! ## Saving rows one after another -/

/-- The table after some rows have been saved: they have replaced the records with their codes. -/
structure Saved (start : ExternalTable ρ) (done : List ρ) (table : ExternalTable ρ) : Prop where
  known : ∀ other ∈ table.records,
    (other ∈ start.records ∧ ∀ row ∈ done, codeKey other ≠ codeKey row) ∨
      ∃ row ∈ done, ∃ id, other = withId id row
  kept : ∀ other ∈ start.records, (∀ row ∈ done, codeKey other ≠ codeKey row) →
    other ∈ table.records
  stored : ∀ row ∈ done, ∃ id, withId id row ∈ table.records

/-- No record that is still to be replaced has the reference of the row. -/
def FreeAfter (start : ExternalTable ρ) (done : List ρ) (row : ρ) : Prop :=
  ∀ other ∈ start.records, codeKey other ≠ codeKey row →
    (∀ row ∈ done, codeKey other ≠ codeKey row) →
    ∀ key, referenceKey row = some key → referenceKey other ≠ some key

namespace Saved

variable {start : ExternalTable ρ} {done : List ρ}

theorem nil (start : ExternalTable ρ) : Saved start [] start where
  known _ listed := .inl ⟨listed, by simp⟩
  kept _ listed _ := listed
  stored := by simp

variable (saved : Saved start done table)

include saved

theorem free_iff
    (apart : ∀ other ∈ done, ∀ key, referenceKey row = some key → referenceKey other ≠ some key) :
    table.Free row ↔ start.FreeAfter done row := by
  constructor
  · intro free other listed different unsaved
    exact free other (saved.kept other listed unsaved) different
  · intro free other listed different
    obtain ⟨before, unsaved⟩ | ⟨before, among, id, rfl⟩ := saved.known other listed
    · exact free other before different unsaved
    · rw [referenceKey_withId]
      exact apart before among

variable (fresh : ∀ other ∈ done, codeKey other ≠ codeKey row)

include fresh

/-- A row that has not been saved yet still has its origin. -/
theorem origin (origin : start.Origin originId row) : table.Origin originId row := by
  have present : ∀ id, originId = some id → ∃ other ∈ start.records, other ∈ table.records ∧
      rowId other = id ∧ codeKey other = codeKey row := by
    intro id known
    obtain ⟨other, listed, same⟩ := origin.present id known
    have code := (origin.own other listed).mpr (same.symm ▸ known)
    refine ⟨other, listed, saved.kept other listed ?_, same, code⟩
    exact fun row among equal => fresh row among (equal.symm.trans code)
  constructor
  · intro other listed
    obtain ⟨before, _⟩ | ⟨before, among, id, rfl⟩ := saved.known other listed
    · exact origin.own other before
    · rw [codeKey_withId]
      refine iff_of_false (fresh before among) ?_
      intro known
      obtain ⟨record, _, present, same, code⟩ := present _ known
      rw [eq_of_rowId present listed same, codeKey_withId] at code
      exact fresh before among code
  · intro id known
    obtain ⟨other, _, listed, same, _⟩ := present id known
    exact ⟨other, listed, same⟩

theorem append {after : ExternalTable ρ × ℕ} (origin : table.Origin originId row)
    (ran : table.save originId row = .ok after) : Saved start (done ++ [row]) after.1 := by
  constructor
  · intro other listed
    obtain ⟨present, different⟩ | rfl := (mem_save origin ran).mp listed
    · obtain ⟨before, unsaved⟩ | ⟨before, among, id, rfl⟩ := saved.known other present
      · refine .inl ⟨before, ?_⟩
        simpa [or_imp, forall_and] using And.intro unsaved different
      · exact .inr ⟨before, List.mem_append_left _ among, id, rfl⟩
    · exact .inr ⟨row, by simp, after.2, rfl⟩
  · intro other listed unsaved
    refine (mem_save origin ran).mpr (.inl ⟨saved.kept other listed ?_, ?_⟩)
    · exact fun row among => unsaved row (List.mem_append_left _ among)
    · exact unsaved row (by simp)
  · intro other among
    obtain before | last := List.mem_append.mp among
    · obtain ⟨id, present⟩ := saved.stored other before
      refine ⟨id, (mem_save origin ran).mpr (.inl ⟨present, ?_⟩)⟩
      rw [codeKey_withId]
      exact fresh other before
    · rw [List.mem_singleton.mp last]
      exact ⟨after.2, (mem_save origin ran).mpr (.inr rfl)⟩

end Saved

end ExternalTable

end OdooConnector.Mapping
