import Mathlib.Data.List.Dedup
import OdooConnector.Library.UniqueKey
import OdooConnector.Mapping.MappingLayer

/-!
# The table of a mapping model

The mappings of one model, with its unique constraint on integration, record of Odoo and external
record. A mapping to no record of Odoo is not bound by the constraint, so that an external record
can have several such mappings.
-/

namespace OdooConnector.Mapping

/-- The columns of the unique constraint. -/
def IntegrationMapping.uniq (mapping : IntegrationMapping) : Option (ℕ × ℕ × ℕ) :=
  mapping.internal.map fun internal => (mapping.integrationId, internal, mapping.external)

/-- Mappings that meet the constraint. -/
structure MappingTable where
  records : List IntegrationMapping
  uniq : UniqueKey IntegrationMapping.uniq records

inductive MappingError
  | uniqueViolation
  | expectedSingleton (records : List ℕ)
  deriving DecidableEq

def IntegrationMapping.belongsTo (integration external : ℕ) (mapping : IntegrationMapping) :
    Bool :=
  mapping.integrationId = integration && mapping.external = external

def IntegrationMapping.setInternal (odooId : Option ℕ) (mapping : IntegrationMapping) :
    IntegrationMapping :=
  { mapping with internal := odooId }

namespace MappingTable

def empty : MappingTable := ⟨[], uniqueKey_nil⟩

def ofRecords (records : List IntegrationMapping) : Except MappingError MappingTable :=
  if uniq : UniqueKey IntegrationMapping.uniq records then .ok ⟨records, uniq⟩
  else .error .uniqueViolation

variable (table : MappingTable) (integration external : ℕ)

def mappingRecord : List IntegrationMapping :=
  table.records.filter (IntegrationMapping.belongsTo integration external)

def odooRecord : List ℕ :=
  ((table.mappingRecord integration external).filterMap IntegrationMapping.internal).dedup

def nextId : ℕ := (table.records.map IntegrationMapping.id).foldr max 0 + 1

def create (odooId : Option ℕ) : Except MappingError MappingTable :=
  ofRecords (table.records ++ [⟨table.nextId, integration, odooId, external⟩])

/-- All mappings of the external record are written. -/
def write (odooId : Option ℕ) : Except MappingError MappingTable :=
  ofRecords (updateWhere (IntegrationMapping.belongsTo integration external)
    (IntegrationMapping.setInternal odooId) table.records)

def unmap : Except MappingError MappingTable := table.write integration external none

/-- `create_or_update_mapping`, where `odoo_id` is `None`, `False` or an id. -/
def createOrUpdateMapping (odooId : Option (Option ℕ)) : Except MappingError MappingTable :=
  if table.mappingRecord integration external = [] then
    table.create integration external odooId.join
  else match odooId with
    | none => .ok table
    | some odooId =>
        match table.odooRecord integration external with
        | [] => if odooId = none then .ok table else table.write integration external odooId
        | [record] =>
            if odooId = some record then .ok table else table.write integration external odooId
        | records => .error (.expectedSingleton records)

/-- The mappings of an external record are deleted with it. -/
def unlinkExternal : MappingTable where
  records := table.records.filter fun mapping => mapping.external ≠ external
  uniq := table.uniq.sublist List.filter_sublist

/-- The external record is mapped to a record of Odoo. -/
def Maps (product : ℕ) : Prop :=
  ∃ mapping ∈ table.mappingRecord integration external, mapping.internal = some product

/-- The only record of Odoo that the external record can be mapped to without an error, or any
record if the external record has at most one mapping. -/
def Mappable (odooId : ℕ) : Prop :=
  (table.mappingRecord integration external).length ≤ 1 ∨
    table.odooRecord integration external = [odooId]

instance (odooId : ℕ) : Decidable (table.Mappable integration external odooId) :=
  inferInstanceAs (Decidable (_ ∨ _))

variable {table : MappingTable} {integration external : ℕ} {after : MappingTable}

theorem ofRecords_eq_ok {records : List IntegrationMapping}
    (ran : ofRecords records = .ok after) : after.records = records := by
  unfold ofRecords at ran
  split at ran
  · cases ran
    rfl
  · cases ran

theorem exists_ofRecords_iff {records : List IntegrationMapping} :
    (∃ after, ofRecords records = .ok after) ↔ UniqueKey IntegrationMapping.uniq records := by
  unfold ofRecords
  split <;> simp_all

@[simp] theorem belongsTo_iff {mapping : IntegrationMapping} :
    mapping.belongsTo integration external ↔
      mapping.integrationId = integration ∧ mapping.external = external := by
  simp [IntegrationMapping.belongsTo]

theorem mem_mappingRecord {mapping : IntegrationMapping} :
    mapping ∈ table.mappingRecord integration external ↔
      mapping ∈ table.records ∧ mapping.belongsTo integration external := List.mem_filter

theorem mem_odooRecord {product : ℕ} :
    product ∈ table.odooRecord integration external ↔ table.Maps integration external product := by
  rw [odooRecord, List.mem_dedup, List.mem_filterMap]
  rfl

/-! ## Writing -/

section Write

variable {odooId : Option ℕ} (ran : table.write integration external odooId = .ok after)

include ran

theorem mappingRecord_write : after.mappingRecord integration external =
    (table.mappingRecord integration external).map (IntegrationMapping.setInternal odooId) := by
  have keeps : ∀ mapping : IntegrationMapping, mapping.belongsTo integration external →
      (mapping.setInternal odooId).belongsTo integration external := fun _ own => own
  rw [mappingRecord, ofRecords_eq_ok ran, filter_updateWhere keeps]
  rfl

theorem mappingRecord_write_of_ne {other : ℕ} (ne : other ≠ external) :
    after.mappingRecord integration other = table.mappingRecord integration other := by
  rw [mappingRecord, ofRecords_eq_ok ran]
  refine filter_updateWhere_of_disjoint ?_ ?_
  · intro mapping chosen
    rw [belongsTo_iff] at chosen
    simp [IntegrationMapping.belongsTo, chosen.2, ne.symm]
  · intro mapping chosen
    rw [belongsTo_iff] at chosen
    simp [IntegrationMapping.belongsTo, IntegrationMapping.setInternal, chosen.2, ne.symm]

end Write

/-- Unmapping meets the constraint. -/
theorem exists_unmap (table : MappingTable) (integration external : ℕ) :
    ∃ after, table.unmap integration external = .ok after := by
  rw [unmap, write, exists_ofRecords_iff]
  exact table.uniq.updateWhere_none fun _ _ _ => rfl

/-- Two mappings of the external record cannot be written. -/
theorem exists_write_iff {odooId : ℕ} (mapped : table.mappingRecord integration external ≠ []) :
    (∃ after, table.write integration external (some odooId) = .ok after) ↔
      (table.mappingRecord integration external).length ≤ 1 := by
  obtain ⟨mapping, member⟩ := List.exists_mem_of_ne_nil _ mapped
  rw [mem_mappingRecord] at member
  have key : ∀ mapping ∈ table.records, mapping.belongsTo integration external →
      (mapping.setInternal (some odooId)).uniq = some (integration, odooId, external) := by
    intro mapping _ own
    rw [belongsTo_iff] at own
    simp [IntegrationMapping.setInternal, IntegrationMapping.uniq, own]
  rw [write, exists_ofRecords_iff, table.uniq.updateWhere_iff key ⟨mapping, member⟩]
  refine and_iff_left ?_
  intro other _ foreign same
  refine absurd foreign ?_
  simp only [IntegrationMapping.uniq, Option.map_eq_some_iff, Prod.mk.injEq] at same
  obtain ⟨internal, _, integrationId, _, externalId⟩ := same
  rw [Bool.not_eq_false, belongsTo_iff]
  exact ⟨integrationId, externalId⟩

/-! ## Creating -/

section Create

variable {odooId : Option ℕ} (ran : table.create integration external odooId = .ok after)

include ran

theorem mappingRecord_create : after.mappingRecord integration external =
    table.mappingRecord integration external ++
      [⟨table.nextId, integration, odooId, external⟩] := by
  rw [mappingRecord, ofRecords_eq_ok ran, List.filter_append]
  simp [mappingRecord, IntegrationMapping.belongsTo]

theorem mappingRecord_create_of_ne {other : ℕ} (ne : other ≠ external) :
    after.mappingRecord integration other = table.mappingRecord integration other := by
  rw [mappingRecord, ofRecords_eq_ok ran, List.filter_append]
  simp [mappingRecord, IntegrationMapping.belongsTo, ne.symm]

end Create

theorem exists_create (unmapped : table.mappingRecord integration external = [])
    (odooId : Option ℕ) : ∃ after, table.create integration external odooId = .ok after := by
  rw [create, exists_ofRecords_iff, uniqueKey_append_singleton]
  refine ⟨table.uniq, ?_⟩
  intro value own mapping listed same
  have foreign : mapping ∉ table.mappingRecord integration external := by simp [unmapped]
  refine foreign (mem_mappingRecord.mpr ⟨listed, ?_⟩)
  simp only [IntegrationMapping.uniq, Option.map_eq_some_iff] at own same
  obtain ⟨_, _, rfl⟩ := own
  obtain ⟨_, _, equal⟩ := same
  simp only [Prod.mk.injEq] at equal
  exact belongsTo_iff.mpr ⟨equal.1, equal.2.2⟩

/-! ## Mapping an external record -/

/-- What `create_or_update_mapping` does. -/
theorem createOrUpdateMapping_cases (table : MappingTable) (integration external odooId : ℕ) :
    let ran := table.createOrUpdateMapping integration external (some (some odooId))
    (table.mappingRecord integration external = [] ∧
        ran = table.create integration external (some odooId)) ∨
      (table.odooRecord integration external = [odooId] ∧ ran = .ok table) ∨
      (table.mappingRecord integration external ≠ [] ∧
        table.odooRecord integration external ≠ [odooId] ∧
        (table.odooRecord integration external).length ≤ 1 ∧
        ran = table.write integration external (some odooId)) ∨
      (1 < (table.odooRecord integration external).length ∧
        ran = .error (.expectedSingleton (table.odooRecord integration external))) := by
  intro ran
  by_cases unmapped : table.mappingRecord integration external = []
  · exact .inl ⟨unmapped, by simp [ran, createOrUpdateMapping, unmapped]⟩
  · refine .inr ?_
    cases found : table.odooRecord integration external with
    | nil =>
        exact .inr (.inl ⟨unmapped, by simp, by simp,
          by simp [ran, createOrUpdateMapping, unmapped, found]⟩)
    | cons record records =>
        cases records with
        | nil =>
            by_cases same : odooId = record
            · subst same
              exact .inl ⟨rfl, by simp [ran, createOrUpdateMapping, unmapped, found]⟩
            · exact .inr (.inl ⟨unmapped, by simpa using Ne.symm same, by simp,
                by simp [ran, createOrUpdateMapping, unmapped, found, same]⟩)
        | cons next records =>
            exact .inr (.inr ⟨by simp, by simp [ran, createOrUpdateMapping, unmapped, found]⟩)

/-- A mapping can always be created if there is none yet. -/
theorem exists_createOrUpdateMapping_none (table : MappingTable) (integration external : ℕ) :
    ∃ after, table.createOrUpdateMapping integration external none = .ok after := by
  unfold createOrUpdateMapping
  split
  · rename_i unmapped
    exact exists_create unmapped none
  · exact ⟨table, rfl⟩

theorem length_odooRecord_le (table : MappingTable) (integration external : ℕ) :
    (table.odooRecord integration external).length ≤
      (table.mappingRecord integration external).length :=
  (List.dedup_sublist _).length_le.trans (List.length_filterMap_le _ _)

theorem exists_createOrUpdateMapping_iff {odooId : ℕ} :
    (∃ after, table.createOrUpdateMapping integration external (some (some odooId)) = .ok after) ↔
      table.Mappable integration external odooId := by
  have lengths := table.length_odooRecord_le integration external
  obtain ⟨unmapped, ran⟩ | ⟨own, ran⟩ | ⟨mapped, ne, _, ran⟩ | ⟨many, ran⟩ :=
    table.createOrUpdateMapping_cases integration external odooId
  · rw [ran]
    exact iff_of_true (exists_create unmapped _) (.inl (by simp [unmapped]))
  · rw [ran]
    exact iff_of_true ⟨table, rfl⟩ (.inr own)
  · rw [ran, exists_write_iff mapped, Mappable, or_iff_left ne]
  · rw [ran]
    refine iff_of_false (by simp) ?_
    rintro (few | own)
    · omega
    · simp [own] at many

section Map

variable {odooId : ℕ}
  (ran : table.createOrUpdateMapping integration external (some (some odooId)) = .ok after)

include ran

/-- The external record is mapped to the given record and to no other. -/
theorem maps_createOrUpdateMapping_iff {product : ℕ} :
    after.Maps integration external product ↔ product = odooId := by
  obtain ⟨unmapped, done⟩ | ⟨own, done⟩ | ⟨mapped, _, _, done⟩ | ⟨_, done⟩ :=
    table.createOrUpdateMapping_cases integration external odooId
  · rw [done] at ran
    rw [Maps, mappingRecord_create ran, unmapped]
    simp [eq_comm]
  · rw [done] at ran
    cases ran
    rw [← mem_odooRecord, own, List.mem_singleton]
  · rw [done] at ran
    rw [Maps, mappingRecord_write ran]
    obtain ⟨mapping, member⟩ := List.exists_mem_of_ne_nil _ mapped
    constructor
    · rintro ⟨written, changed, own⟩
      obtain ⟨_, _, rfl⟩ := List.mem_map.mp changed
      exact (Option.some.inj own).symm
    · rintro rfl
      exact ⟨_, List.mem_map_of_mem member, rfl⟩
  · rw [done] at ran
    cases ran

theorem mappingRecord_createOrUpdateMapping_of_ne {other : ℕ} (ne : other ≠ external) :
    after.mappingRecord integration other = table.mappingRecord integration other := by
  obtain ⟨_, done⟩ | ⟨_, done⟩ | ⟨_, _, _, done⟩ | ⟨_, done⟩ :=
    table.createOrUpdateMapping_cases integration external odooId
  · exact mappingRecord_create_of_ne (done ▸ ran) ne
  · rw [done] at ran
    cases ran
    rfl
  · exact mappingRecord_write_of_ne (done ▸ ran) ne
  · rw [done] at ran
    cases ran

end Map

end MappingTable

end OdooConnector.Mapping
