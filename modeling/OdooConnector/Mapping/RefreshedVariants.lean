import Mathlib.Data.List.Basic
import OdooConnector.Library.OneToOne
import OdooConnector.Mapping.ImportWizard

/-!
# Refreshed external variants

After approval the external variants of a product are the incoming ones, unless the writes get in
each other's way: they come one after another, and a reference that one variant takes over from
another one must have been given up before.
-/

namespace OdooConnector.Mapping

open ExternalRow

section Statement

variable (attributes : List AttributeValueExternal) (integrationId : ℕ)

/-- The attribute values with one of the codes. -/
def HasAttribute (codes : List String) (id : ℕ) : Prop :=
  ∃ value ∈ attributes, value.integrationId = integrationId ∧ value.code ∈ codes ∧ value.id = id

/-- An external template has all values of an incoming line. -/
structure ShowsTemplate (line : ImportProductLine) (row : ProductTemplateExternal) : Prop where
  store : row.integrationId = integrationId
  code : row.code = line.code
  name : row.name = line.name
  reference : row.externalReference = line.reference
  barcode : row.externalBarcode = line.barcode

/-- An external variant has all values of an incoming line, and its attribute values. -/
structure ShowsVariant (line : ImportProductLine) (row : ProductProductExternal) : Prop where
  store : row.integrationId = integrationId
  code : row.code = line.code
  name : row.name = line.name
  reference : row.externalReference = line.reference
  barcode : row.externalBarcode = line.barcode
  values : ∀ id, id ∈ row.externalAttributeValueIds ↔
    HasAttribute attributes integrationId line.attributeList id

/-- The external template and its variants are exactly the incoming ones. -/
structure Mirrors (template : ℕ) (main : ImportProductLine) (lines : List ImportProductLine)
    (tables : ExternalTables) : Prop where
  templateShown : ∃ row ∈ tables.templates.records, row.id = template ∧
    ShowsTemplate integrationId main row
  variantsShown :
    OneToOne (ShowsVariant attributes integrationId) lines (tables.variantsOf template)

end Statement

/-- An incoming product that belongs to an external template. Its codes and references are distinct,
and no other product uses them. -/
structure Importable (tables : ExternalTables) (template : ProductTemplateExternal)
    (main : ImportProductLine) (lines : List ImportProductLine) : Prop where
  stored : template ∈ tables.templates.records
  code : main.code = template.code
  sameStore : ∀ row ∈ tables.variantsOf template.id, row.integrationId = template.integrationId
  codes : (lines.map ImportProductLine.code).Nodup
  references : UniqueKey ImportProductLine.reference lines
  unusedTemplateReference : ∀ row ∈ tables.templates.records,
    row.integrationId = template.integrationId → row.id ≠ template.id →
      ∀ reference, main.reference = some reference → row.externalReference ≠ some reference
  unusedCodes : ∀ row ∈ tables.variants.records, row.integrationId = template.integrationId →
    row.externalProductTemplateId ≠ some template.id → ∀ line ∈ lines, row.code ≠ line.code
  unusedReferences : ∀ row ∈ tables.variants.records, row.integrationId = template.integrationId →
    row.externalProductTemplateId ≠ some template.id → ∀ line ∈ lines,
      ∀ reference, line.reference = some reference → row.externalReference ≠ some reference

/-- The attribute values are known, no line takes over the reference of a variant whose own line
comes later, and no variant that is gone has the code of the template. -/
structure RefreshSafe (attributes : List AttributeValueExternal) (tables : ExternalTables)
    (template : ProductTemplateExternal) (lines : List ImportProductLine) : Prop where
  known : ∀ line ∈ lines, ∀ code ∈ line.attributeList, ∃ value ∈ attributes,
    value.integrationId = template.integrationId ∧ value.code = code
  inOrder : lines.Pairwise fun line later => ∀ row ∈ tables.variantsOf template.id,
    row.code = later.code → ∀ reference, line.reference = some reference →
      row.externalReference ≠ some reference
  noNamesake : ∀ row ∈ tables.variantsOf template.id, row.code = template.code →
    row.code ∈ lines.map ImportProductLine.code

/-! ## Attribute values -/

section Attributes

variable {attributes : List AttributeValueExternal} {integrationId : ℕ}

def attributeIds (attributes : List AttributeValueExternal) (integrationId : ℕ)
    (codes : List String) : List ℕ :=
  codes.foldl (fun ids code => ids ∪ attributesWithCode attributes integrationId code) []

theorem mem_attributesWithCode {code : String} {id : ℕ} :
    id ∈ attributesWithCode attributes integrationId code ↔
      ∃ value ∈ attributes, value.integrationId = integrationId ∧ value.code = code ∧
        value.id = id := by
  simp only [attributesWithCode, List.mem_map, List.mem_filter, Bool.and_eq_true, decide_eq_true_eq]
  constructor
  · rintro ⟨value, ⟨listed, same, store⟩, rfl⟩
    exact ⟨value, listed, store, same, rfl⟩
  · rintro ⟨value, listed, store, same, rfl⟩
    exact ⟨value, ⟨listed, same, store⟩, rfl⟩

theorem mem_attributeIds (codes : List String) : ∀ id,
    id ∈ attributeIds attributes integrationId codes ↔
      HasAttribute attributes integrationId codes id := by
  refine foldl_visited (fun ids code => ids ∪ attributesWithCode attributes integrationId code)
    (fun seen ids => ∀ id, id ∈ ids ↔ HasAttribute attributes integrationId seen id) codes ?_ ?_
  · simp [HasAttribute]
  · intro seen code rest ids _ holds id
    rw [List.mem_union_iff, holds, mem_attributesWithCode]
    unfold HasAttribute
    constructor
    · rintro (⟨value, listed, store, among, same⟩ | ⟨value, listed, store, rfl, same⟩)
      · exact ⟨value, listed, store, List.mem_append_left _ among, same⟩
      · exact ⟨value, listed, store, by simp, same⟩
    · rintro ⟨value, listed, store, among, same⟩
      obtain before | last := List.mem_append.mp among
      · exact .inl ⟨value, listed, store, before, same⟩
      · exact .inr ⟨value, listed, store, List.mem_singleton.mp last, same⟩

/-- The codes can be parsed if each one is known. -/
theorem parseAttributes_eq_ok_iff {codes : List String} {ids : List ℕ} :
    parseAttributes attributes integrationId codes = .ok ids ↔
      (∀ code ∈ codes, ∃ value ∈ attributes,
        value.integrationId = integrationId ∧ value.code = code) ∧
      attributeIds attributes integrationId codes = ids := by
  unfold parseAttributes attributeIds
  generalize ([] : List ℕ) = start
  induction codes generalizing start with
  | nil => simp [pure, Except.pure]
  | cons code codes induction =>
      rw [List.foldlM_cons, List.foldl_cons, List.forall_mem_cons]
      cases found : attributesWithCode attributes integrationId code with
      | nil =>
          refine iff_of_false (by simp [bind, Except.bind]) ?_
          rintro ⟨⟨⟨value, listed, store, same⟩, _⟩, _⟩
          have member := mem_attributesWithCode.mpr ⟨value, listed, store, same, rfl⟩
          rw [found] at member
          cases member
      | cons id others =>
          have member : id ∈ attributesWithCode attributes integrationId code := by simp [found]
          obtain ⟨value, listed, store, same, _⟩ := mem_attributesWithCode.mp member
          rw [and_iff_right (show ∃ value ∈ attributes, _ from ⟨value, listed, store, same⟩)]
          exact induction (start ∪ (id :: others))

end Attributes

/-! ## Deleting what is gone -/

section Drop

variable {tables : ExternalTables} {rows : List ProductProductExternal}
  {attributes : List AttributeValueExternal}

theorem foldl_drop :
    ((rows.map (ProductProductExternal.createInternalImportLine attributes)).foldl
        ExternalTables.drop tables).templates = tables.templates ∧
      ∀ row, row ∈ ((rows.map (ProductProductExternal.createInternalImportLine attributes)).foldl
          ExternalTables.drop tables).variants.records ↔
        row ∈ tables.variants.records ∧ ∀ gone ∈ rows, row.id ≠ gone.id := by
  induction rows generalizing tables with
  | nil => simp
  | cons first rows induction =>
      obtain ⟨templates, variants⟩ := @induction (tables.dropVariant first.id)
      refine ⟨templates, ?_⟩
      intro row
      have unlinked : row ∈ (tables.dropVariant first.id).variants.records ↔
          row ∈ tables.variants.records ∧ row.id ≠ first.id :=
        List.mem_filter.trans (and_congr_right fun _ => decide_eq_true_iff)
      rw [List.forall_mem_cons, ← and_assoc, ← unlinked]
      exact variants row

end Drop

/-! ## The wizard after the check -/

section Checked

variable (tables : ExternalTables) (attributes : List AttributeValueExternal)
  (template : ProductTemplateExternal) (main : ImportProductLine) (lines : List ImportProductLine)

/-- The wizard with the incoming lines. -/
def checkedWizard : ImportProductWizard where
  state := .checked
  integrationId := template.integrationId
  externalTemplate := template
  internalLines := (ImportProductWizard.create tables attributes template).internalLines
  incomingLines := main :: lines

/-- The external variant that an incoming line stands for. -/
def originOf (line : ImportProductLine) : Option ℕ :=
  ((tables.variantsOf template.id).find? fun row => row.code = line.code).map fun row => row.id

/-- The row that is saved for an incoming line. -/
def incomingRow (line : ImportProductLine) : ProductProductExternal :=
  { line with originParentId := some template.id }.variantVals template.integrationId
    (attributeIds attributes template.integrationId line.attributeList)

/-- The external variants that remain. -/
def remainingTables : ExternalTables :=
  (checkedWizard tables attributes template main lines).goneLines.foldl ExternalTables.drop tables

variable {tables attributes template main lines}

theorem mem_variantsOf {row : ProductProductExternal} : row ∈ tables.variantsOf template.id ↔
    row ∈ tables.variants.records ∧ row.externalProductTemplateId = some template.id := by
  simp [ExternalTables.variantsOf]

/-- The internal lines of a variant. -/
theorem internalRec_variant {line : ImportProductLine} (listed : line ∈ lines)
    (isVariant : line.modelName = .productProduct) :
    ImportProductWizard.internalRec (checkedWizard tables attributes template main lines).keptLines
      line = ((tables.variantsOf template.id).filter fun row => row.code = line.code).map
        (ProductProductExternal.createInternalImportLine attributes) := by
  unfold ImportProductWizard.internalRec ImportProductWizard.keptLines checkedWizard
    ImportProductWizard.create
  rw [List.filter_filter, List.filter_cons_of_neg, List.filter_map]
  · congr 1
    refine List.filter_congr fun row _ => ?_
    have comes : line.code = main.code ∨ ∃ other ∈ lines, other.code = line.code :=
      .inr ⟨line, listed, rfl⟩
    by_cases same : row.code = line.code
    · simpa [ProductProductExternal.createInternalImportLine, isVariant, same] using comes
    · simp [ProductProductExternal.createInternalImportLine, same]
  · simp [ProductTemplateExternal.createInternalImportLine, isVariant]

variable (importable : Importable tables template main lines)

include importable

theorem remainingTables_spec (attributes : List AttributeValueExternal) :
    (remainingTables tables attributes template main lines).templates = tables.templates ∧
      ∀ row, row ∈ (remainingTables tables attributes template main lines).variants.records ↔
        row ∈ tables.variants.records ∧
          (row.externalProductTemplateId = some template.id →
            row.code = template.code ∨ row.code ∈ lines.map ImportProductLine.code) := by
  have gone : (checkedWizard tables attributes template main lines).goneLines =
      ((tables.variantsOf template.id).filter fun row =>
        ¬ (row.code = template.code ∨ row.code ∈ lines.map ImportProductLine.code)).map
          (ProductProductExternal.createInternalImportLine attributes) := by
    unfold ImportProductWizard.goneLines checkedWizard ImportProductWizard.create
    simp only [List.map_cons, List.mem_cons, importable.code]
    rw [List.filter_cons_of_neg (by simp [ProductTemplateExternal.createInternalImportLine]),
      List.filter_map]
    rfl
  rw [remainingTables, gone]
  refine ⟨foldl_drop.1, ?_⟩
  intro row
  rw [foldl_drop.2]
  refine and_congr_right fun listed => ?_
  simp only [List.mem_filter, mem_variantsOf, decide_eq_true_eq, and_imp]
  constructor
  · intro present own
    by_contra unwanted
    exact present row listed own unwanted rfl
  · intro wanted other among own unwanted same
    have equal := ExternalTable.eq_of_rowId listed among same
    exact unwanted (equal ▸ wanted (equal ▸ own))

/-- The internal line of the template. -/
theorem internalRec_main (isTemplate : main.modelName = .productTemplate) :
    ImportProductWizard.internalRec (checkedWizard tables attributes template main lines).keptLines
      main = [template.createInternalImportLine] := by
  unfold ImportProductWizard.internalRec ImportProductWizard.keptLines checkedWizard
    ImportProductWizard.create
  rw [List.filter_filter, List.filter_cons_of_pos, List.filter_eq_nil_iff.mpr]
  · intro line listed
    obtain ⟨row, _, rfl⟩ := List.mem_map.mp listed
    simp [ProductProductExternal.createInternalImportLine, isTemplate]
  · simp [ProductTemplateExternal.createInternalImportLine, isTemplate, importable.code]

/-- At most one external variant has the code of a line. -/
theorem filter_code (code : String) :
    ((tables.variantsOf template.id).filter fun row => row.code = code).length ≤ 1 := by
  have unique : UniqueKey (codeKey : ProductProductExternal → _) (tables.variantsOf template.id) :=
    tables.variants.uniqCode.sublist List.filter_sublist
  have own : ∀ row ∈ tables.variantsOf template.id, decide (row.code = code) = true →
      codeKey row = some (template.integrationId, code) := by
    intro row listed same
    simp only [decide_eq_true_eq] at same
    simp [codeKey, external, same, importable.sameStore row listed]
  exact unique.length_filter_le own

/-- The record that an incoming line stands for. -/
theorem originOf_eq_some_iff {line : ImportProductLine} {id : ℕ} :
    originOf tables template line = some id ↔
      ∃ row ∈ tables.variantsOf template.id, row.code = line.code ∧ row.id = id := by
  unfold originOf
  rw [Option.map_eq_some_iff]
  constructor
  · rintro ⟨row, found, rfl⟩
    exact ⟨row, List.mem_of_find?_eq_some found, by simpa using List.find?_some found, rfl⟩
  · rintro ⟨row, own, code, rfl⟩
    cases found : (tables.variantsOf template.id).find? fun row => row.code = line.code with
    | none =>
        have none := List.find?_eq_none.mp found row own
        simp [code] at none
    | some other =>
        have among := List.mem_of_find?_eq_some found
        have same : other.code = line.code := by simpa using List.find?_some found
        have key : codeKey row = codeKey other := by
          simp [codeKey, external, importable.sameStore row own, importable.sameStore other among,
            code, same]
        have equal : other = row := tables.variants.uniqCode.eq_of_mem (mem_variantsOf.mp among).1
          (mem_variantsOf.mp own).1 rfl key
        exact ⟨other, rfl, equal ▸ rfl⟩

/-- An iteration over a variant saves its row. -/
theorem approveLine_variant {line : ImportProductLine} (listed : line ∈ lines)
    (isVariant : line.modelName = .productProduct) (current : ExternalTables) :
    (checkedWizard tables attributes template main lines).approveLine attributes
        (checkedWizard tables attributes template main lines).keptLines (some template.id) current
        line =
      { line with
        originId := originOf tables template line
        originParentId := some template.id }.createOrUpdateOrigin template.integrationId attributes
          current := by
  unfold ImportProductWizard.approveLine
  rw [internalRec_variant listed isVariant]
  have few := filter_code importable line.code
  have head := List.head?_filter (p := fun row => decide (row.code = line.code))
    (l := tables.variantsOf template.id)
  unfold originOf
  cases found : (tables.variantsOf template.id).filter fun row => row.code = line.code with
  | nil =>
      rw [found] at head
      rw [← head]
      rfl
  | cons row rows =>
      rw [found] at few head
      obtain rfl := List.length_eq_zero_iff.mp (Nat.le_zero.mp (Nat.le_of_succ_le_succ few))
      have member : row ∈ (tables.variantsOf template.id).filter fun row => row.code = line.code :=
        found ▸ List.mem_singleton_self row
      obtain ⟨present, same⟩ := List.mem_filter.mp member
      rw [← head]
      simp only [decide_eq_true_eq] at same
      simp [ProductProductExternal.createInternalImportLine, isVariant, same,
        (mem_variantsOf.mp present).2]
      rfl

end Checked

/-! ## Writing the incoming lines -/

section Write

variable {attributes : List AttributeValueExternal} {template : ProductTemplateExternal}
  {main line : ImportProductLine} {originId : Option ℕ} {current after : ExternalTables}

theorem createOrUpdateOrigin_variant_iff (isVariant : line.modelName = .productProduct) :
    { line with
      originId
      originParentId := some template.id }.createOrUpdateOrigin template.integrationId attributes
        current = .ok after ↔
      (∀ code ∈ line.attributeList, ∃ value ∈ attributes,
          value.integrationId = template.integrationId ∧ value.code = code) ∧
        ∃ saved, current.variants.save originId (incomingRow attributes template line) = .ok saved ∧
          ∃ variantMappings, current.variantMappings.createOrUpdateMapping template.integrationId
              saved.2 none = .ok variantMappings ∧
            { current with variants := saved.1, variantMappings } = after := by
  simp only [ImportProductLine.createOrUpdateOrigin, isVariant, bind_eq_ok_iff, mapError_eq_ok_iff,
    parseAttributes_eq_ok_iff, pure, Except.pure, Except.ok.injEq]
  constructor
  · rintro ⟨ids, ⟨known, rfl⟩, saved⟩
    exact ⟨known, saved⟩
  · rintro ⟨known, saved⟩
    exact ⟨_, ⟨known, rfl⟩, saved⟩

/-- The row of a variant can be written if the attribute values are known and no other variant has
the reference at that moment. -/
theorem exists_createOrUpdateOrigin_variant_iff (isVariant : line.modelName = .productProduct)
    (origin : current.variants.Origin originId (incomingRow attributes template line)) :
    (∃ after, { line with
      originId
      originParentId := some template.id }.createOrUpdateOrigin template.integrationId attributes
        current = .ok after) ↔
      (∀ code ∈ line.attributeList, ∃ value ∈ attributes,
          value.integrationId = template.integrationId ∧ value.code = code) ∧
        current.variants.Free (incomingRow attributes template line) := by
  simp only [createOrUpdateOrigin_variant_iff isVariant, exists_and_left]
  refine and_congr_right fun _ => ?_
  rw [← ExternalTable.exists_save_iff origin]
  constructor
  · rintro ⟨after, saved, ran, _⟩
    exact ⟨saved, ran⟩
  · rintro ⟨saved, ran⟩
    obtain ⟨variantMappings, created⟩ := current.variantMappings.exists_createOrUpdateMapping_none
      template.integrationId saved.2
    exact ⟨_, saved, ran, variantMappings, created, rfl⟩

/-- The row of the template can be written if no other template has the reference. -/
theorem createOrUpdateOrigin_template (attributes : List AttributeValueExternal)
    (isTemplate : main.modelName = .productTemplate)
    (origin : current.templates.Origin (some template.id)
      (main.templateVals template.integrationId))
    (free : current.templates.Free (main.templateVals template.integrationId)) :
    ∃ after, { main with
        originId := some template.id
        originParentId := none }.createOrUpdateOrigin template.integrationId attributes current =
          .ok after ∧
      after.variants = current.variants ∧
        withId template.id (main.templateVals template.integrationId) ∈
          after.templates.records := by
  obtain ⟨saved, ran⟩ := (ExternalTable.exists_save_iff origin).mpr free
  obtain ⟨templateMappings, created⟩ := current.templateMappings.exists_createOrUpdateMapping_none
    template.integrationId saved.2
  refine ⟨{ current with templates := saved.1, templateMappings }, ?_, rfl, ?_⟩
  · simp only [ImportProductLine.createOrUpdateOrigin, isTemplate, bind_eq_ok_iff,
      mapError_eq_ok_iff, pure, Except.pure, Except.ok.injEq]
    exact ⟨saved, ran, templateMappings, created, rfl⟩
  · rw [← ExternalTable.save_id ran]
    exact (ExternalTable.mem_save origin ran).mpr (.inr rfl)

end Write

section Loop

variable {tables : ExternalTables} {attributes : List AttributeValueExternal}
  {template : ProductTemplateExternal} {main : ImportProductLine} {lines : List ImportProductLine}
  (importable : Importable tables template main lines)
  (areVariants : ∀ line ∈ lines, line.modelName = .productProduct)

theorem codeKey_incomingRow (line : ImportProductLine) :
    codeKey (incomingRow attributes template line) = some (template.integrationId, line.code) := rfl

theorem referenceKey_incomingRow (line : ImportProductLine) :
    referenceKey (incomingRow attributes template line) =
      line.reference.map fun reference => (template.integrationId, reference) := rfl

include importable

/-- The record of an incoming line is the external variant with its code. -/
theorem origin_incomingRow {line : ImportProductLine} (listed : line ∈ lines) :
    (remainingTables tables attributes template main lines).variants.Origin
      (originOf tables template line) (incomingRow attributes template line) := by
  have remaining := (remainingTables_spec importable attributes).2
  constructor
  · intro row present
    obtain ⟨present, _⟩ := (remaining row).mp present
    rw [codeKey_incomingRow, originOf_eq_some_iff importable]
    constructor
    · intro same
      obtain ⟨store, code⟩ := Prod.mk.inj (Option.some.inj same)
      refine ⟨row, mem_variantsOf.mpr ⟨present, ?_⟩, code, rfl⟩
      by_contra foreign
      exact importable.unusedCodes row present store foreign line listed code
    · rintro ⟨origin, own, code, same⟩
      obtain rfl := ExternalTable.eq_of_rowId (mem_variantsOf.mp own).1 present same
      rw [← code, ← importable.sameStore origin own]
      rfl
  · intro id known
    obtain ⟨row, own, code, same⟩ := (originOf_eq_some_iff importable).mp known
    refine ⟨row, (remaining row).mpr ⟨(mem_variantsOf.mp own).1, fun _ => .inr ?_⟩, same⟩
    exact List.mem_map.mpr ⟨line, listed, code.symm⟩

/-- Rows of lines with distinct codes and references. -/
theorem apart_of_split {seen rest : List ImportProductLine} {line : ImportProductLine}
    (split : lines = seen ++ line :: rest) :
    (∀ row ∈ seen.map (incomingRow attributes template),
        codeKey row ≠ codeKey (incomingRow attributes template line)) ∧
      ∀ row ∈ seen.map (incomingRow attributes template), ∀ key,
        referenceKey (incomingRow attributes template line) = some key →
          referenceKey row ≠ some key := by
  have codes := importable.codes
  have references := importable.references
  rw [split, List.map_append, List.map_cons, List.nodup_append'] at codes
  unfold UniqueKey at references
  rw [split, List.filterMap_append, List.nodup_append'] at references
  simp only [List.forall_mem_map, codeKey_incomingRow, referenceKey_incomingRow, ne_eq,
    Option.some.injEq, Prod.mk.injEq, true_and, Option.map_eq_some_iff, not_exists, not_and]
  constructor
  · intro other among same
    exact codes.2.2 (List.mem_map_of_mem among) (by simp [same])
  · rintro other among key ⟨reference, own, rfl⟩ shared also equal
    obtain rfl := (Prod.mk.inj equal).2
    refine references.2.2 (List.mem_filterMap.mpr ⟨other, among, also⟩) ?_
    exact List.mem_filterMap.mpr ⟨line, List.mem_cons_self, own⟩

include areVariants

/-- The loop over the variants saves their rows one after another. -/
theorem foldlM_variants (attributes : List AttributeValueExternal) {start : ExternalTables}
    (same : start.variants = (remainingTables tables attributes template main lines).variants) :
    ((∃ after, lines.foldlM ((checkedWizard tables attributes template main lines).approveLine
          attributes (checkedWizard tables attributes template main lines).keptLines
          (some template.id)) start = .ok after) ↔
        ∀ seen line rest, lines = seen ++ line :: rest →
          (∀ code ∈ line.attributeList, ∃ value ∈ attributes,
            value.integrationId = template.integrationId ∧ value.code = code) ∧
          start.variants.FreeAfter (seen.map (incomingRow attributes template))
            (incomingRow attributes template line)) ∧
      ∀ after, lines.foldlM ((checkedWizard tables attributes template main lines).approveLine
          attributes (checkedWizard tables attributes template main lines).keptLines
          (some template.id)) start = .ok after →
        after.templates = start.templates ∧
          start.variants.Saved (lines.map (incomingRow attributes template)) after.variants := by
  have first : start.templates = start.templates ∧
      start.variants.Saved (([] : List ImportProductLine).map (incomingRow attributes template))
        start.variants := ⟨rfl, .nil _⟩
  have origins : ∀ seen line rest current, lines = seen ++ line :: rest →
      start.variants.Saved (seen.map (incomingRow attributes template)) current →
        current.Origin (originOf tables template line) (incomingRow attributes template line) := by
    intro seen line rest current split saved
    refine saved.origin (apart_of_split importable split).1 ?_
    rw [same]
    exact origin_incomingRow importable (by simp [split])
  have advance : ∀ seen line rest current after, lines = seen ++ line :: rest →
      (current.templates = start.templates ∧
        start.variants.Saved (seen.map (incomingRow attributes template)) current.variants) →
      (checkedWizard tables attributes template main lines).approveLine attributes
        (checkedWizard tables attributes template main lines).keptLines (some template.id) current
        line = .ok after →
      after.templates = start.templates ∧
        start.variants.Saved ((seen ++ [line]).map (incomingRow attributes template))
          after.variants := by
    rintro seen line rest current after split ⟨templates, saved⟩ ran
    have listed : line ∈ lines := by simp [split]
    rw [approveLine_variant importable listed (areVariants line listed),
      createOrUpdateOrigin_variant_iff (areVariants line listed)] at ran
    obtain ⟨_, stored, ran, variantMappings, _, rfl⟩ := ran
    refine ⟨templates, ?_⟩
    rw [List.map_append]
    exact saved.append (apart_of_split importable split).1
      (origins seen line rest _ split saved) ran
  constructor
  · refine exists_foldlM_iff
      (fun seen current => current.templates = start.templates ∧
        start.variants.Saved (seen.map (incomingRow attributes template)) current.variants)
      (fun seen line => (∀ code ∈ line.attributeList, ∃ value ∈ attributes,
          value.integrationId = template.integrationId ∧ value.code = code) ∧
        start.variants.FreeAfter (seen.map (incomingRow attributes template))
          (incomingRow attributes template line)) lines first advance ?_
    rintro seen line rest current split ⟨_, saved⟩
    have listed : line ∈ lines := by simp [split]
    rw [approveLine_variant importable listed (areVariants line listed),
      exists_createOrUpdateOrigin_variant_iff (areVariants line listed)
        (origins seen line rest _ split saved),
      saved.free_iff (apart_of_split importable split).2]
  · intro after ran
    exact foldlM_visited
      (fun seen current => current.templates = start.templates ∧
        start.variants.Saved (seen.map (incomingRow attributes template)) current.variants)
      lines first advance ran

end Loop

/-! ## Approval -/

section Approve

variable {tables : ExternalTables} {attributes : List AttributeValueExternal}
  {template : ProductTemplateExternal} {main : ImportProductLine} {lines : List ImportProductLine}
  (importable : Importable tables template main lines)
  (isTemplate : main.modelName = .productTemplate)
  (areVariants : ∀ line ∈ lines, line.modelName = .productProduct)

theorem orderedLines_checkedWizard (isTemplate : main.modelName = .productTemplate)
    (areVariants : ∀ line ∈ lines, line.modelName = .productProduct) :
    (checkedWizard tables attributes template main lines).orderedLines = main :: lines := by
  have noTemplates : lines.filter (fun line => line.modelName = .productTemplate) = [] := by
    rw [List.filter_eq_nil_iff]
    intro line listed
    simp [areVariants line listed]
  have allVariants : lines.filter (fun line => line.modelName = .productProduct) = lines := by
    rw [List.filter_eq_self]
    intro line listed
    simp [areVariants line listed]
  simp [ImportProductWizard.orderedLines, checkedWizard, isTemplate, noTemplates, allVariants]

include importable isTemplate

/-- The first iteration writes the template. -/
theorem approveLine_main (attributes : List AttributeValueExternal) : ∃ after,
    (checkedWizard tables attributes template main lines).approveLine attributes
        (checkedWizard tables attributes template main lines).keptLines (some template.id)
        (remainingTables tables attributes template main lines) main = .ok after ∧
      after.variants = (remainingTables tables attributes template main lines).variants ∧
        withId template.id (main.templateVals template.integrationId) ∈
          after.templates.records := by
  have templates := (remainingTables_spec importable attributes).1
  have key : codeKey (main.templateVals template.integrationId) = codeKey template := by
    simp [codeKey, external, ImportProductLine.templateVals, importable.code]
  have origin : (remainingTables tables attributes template main lines).templates.Origin
      (some template.id) (main.templateVals template.integrationId) := by
    rw [templates]
    constructor
    · intro other listed
      rw [key, Option.some.injEq]
      constructor
      · intro same
        rw [tables.templates.uniqCode.eq_of_mem listed importable.stored same rfl]
        rfl
      · intro same
        rw [ExternalTable.eq_of_rowId listed importable.stored same.symm]
    · intro id known
      exact ⟨template, importable.stored, Option.some.inj known⟩
  have free : (remainingTables tables attributes template main lines).templates.Free
      (main.templateVals template.integrationId) := by
    rw [templates]
    intro other listed different shared own same
    obtain ⟨reference, given, rfl⟩ := Option.map_eq_some_iff.mp own
    obtain ⟨reference', also, equal⟩ := Option.map_eq_some_iff.mp same
    obtain ⟨store, rfl⟩ := Prod.mk.inj equal
    refine importable.unusedTemplateReference other listed store ?_ reference' given also
    intro sameId
    rw [key, ExternalTable.eq_of_rowId listed importable.stored sameId] at different
    exact different rfl
  obtain ⟨after, ran, variants, stored⟩ :=
    createOrUpdateOrigin_template attributes isTemplate origin free
  refine ⟨after, ?_, variants, stored⟩
  rw [← ran, ImportProductWizard.approveLine, internalRec_main importable isTemplate]
  simp [ProductTemplateExternal.createInternalImportLine, importable.code, isTemplate]
  rfl

include areVariants

/-- Approval writes the template and then the variants. -/
theorem approve_eq_ok_iff {result : ExternalTables × ImportProductWizard} :
    (checkedWizard tables attributes template main lines).approve attributes tables true =
        .ok result ↔
      ∃ middle, (checkedWizard tables attributes template main lines).approveLine attributes
          (checkedWizard tables attributes template main lines).keptLines (some template.id)
          (remainingTables tables attributes template main lines) main = .ok middle ∧
        ∃ after, lines.foldlM ((checkedWizard tables attributes template main lines).approveLine
            attributes (checkedWizard tables attributes template main lines).keptLines
            (some template.id)) middle = .ok after ∧
          (after, { checkedWizard tables attributes template main lines with
            state := .approved }) = result := by
  have parent : (checkedWizard tables attributes template main lines).originParentId =
      some template.id := by
    rw [ImportProductWizard.originParentId, orderedLines_checkedWizard isTemplate areVariants]
    simp only [List.head?_cons, Option.bind_some]
    rw [internalRec_main importable isTemplate]
    rfl
  unfold ImportProductWizard.approve
  rw [parent, orderedLines_checkedWizard isTemplate areVariants]
  simp only [Bool.not_true, Bool.false_and, Bool.false_eq_true, if_false, bind_eq_ok_iff, pure,
    Except.pure, Except.ok.injEq, List.foldlM_cons, remainingTables]
  constructor
  · rintro ⟨after, ⟨middle, first, rest⟩, done⟩
    exact ⟨middle, first, after, rest, done⟩
  · rintro ⟨middle, first, after, rest, done⟩
    exact ⟨after, ⟨middle, first, rest⟩, done⟩

end Approve

section Mirror

variable {tables : ExternalTables} {attributes : List AttributeValueExternal}
  {template : ProductTemplateExternal} {main : ImportProductLine} {lines : List ImportProductLine}
  (importable : Importable tables template main lines)

theorem showsVariant_incomingRow (line : ImportProductLine) (id : ℕ) :
    ShowsVariant attributes template.integrationId line
      (withId id (incomingRow attributes template line)) where
  store := rfl
  code := rfl
  name := rfl
  reference := rfl
  barcode := rfl
  values := mem_attributeIds line.attributeList

include importable

/-- The writes succeed one after another if no reference is taken over too early. -/
theorem freeAfter_of_inOrder
    (inOrder : lines.Pairwise fun line later => ∀ row ∈ tables.variantsOf template.id,
      row.code = later.code → ∀ reference, line.reference = some reference →
        row.externalReference ≠ some reference)
    (noNamesake : ∀ row ∈ tables.variantsOf template.id, row.code = template.code →
      row.code ∈ lines.map ImportProductLine.code)
    {seen rest : List ImportProductLine} {line : ImportProductLine}
    (split : lines = seen ++ line :: rest) :
    (remainingTables tables attributes template main lines).variants.FreeAfter
      (seen.map (incomingRow attributes template)) (incomingRow attributes template line) := by
  intro row present different unsaved key own same
  obtain ⟨listed, wanted⟩ := ((remainingTables_spec importable attributes).2 row).mp present
  obtain ⟨reference, given, rfl⟩ := Option.map_eq_some_iff.mp own
  obtain ⟨reference', also, equal⟩ := Option.map_eq_some_iff.mp same
  obtain ⟨store, rfl⟩ := Prod.mk.inj equal
  change row.integrationId = template.integrationId at store
  by_cases foreign : row.externalProductTemplateId = some template.id
  · have mine := mem_variantsOf.mpr ⟨listed, foreign⟩
    have comes : row.code ∈ lines.map ImportProductLine.code :=
      (wanted foreign).elim (noNamesake row mine) fun comes => comes
    obtain ⟨other, among, code⟩ := List.mem_map.mp comes
    have key : codeKey row = codeKey (incomingRow attributes template other) := by
      rw [codeKey_incomingRow, code, ← store]
      rfl
    rw [split, List.pairwise_append, List.pairwise_cons] at inOrder
    rw [split, List.mem_append, List.mem_cons] at among
    obtain before | rfl | after := among
    · exact unsaved _ (List.mem_map_of_mem before) key
    · exact different key
    · exact inOrder.2.1.1 other after row mine code.symm reference' given also
  · exact importable.unusedReferences row listed store foreign line (by simp [split]) reference'
      given also

/-- If the writes succeed, then no reference is taken over too early. -/
theorem inOrder_of_freeAfter
    (free : ∀ seen line rest, lines = seen ++ line :: rest →
      (remainingTables tables attributes template main lines).variants.FreeAfter
        (seen.map (incomingRow attributes template)) (incomingRow attributes template line)) :
    lines.Pairwise fun line later => ∀ row ∈ tables.variantsOf template.id,
      row.code = later.code → ∀ reference, line.reference = some reference →
        row.externalReference ≠ some reference := by
  rw [List.pairwise_iff_forall_sublist]
  intro line later both row mine code reference given also
  obtain ⟨front, back, rfl, first, second⟩ := List.cons_sublist_iff.mp both
  obtain ⟨seen, rest, rfl⟩ := List.append_of_mem first
  have after : later ∈ back := List.singleton_sublist.mp second
  have codes := importable.codes
  simp only [List.map_append, List.map_cons, List.append_assoc, List.cons_append] at codes
  rw [List.nodup_append', List.nodup_cons] at codes
  have own : later.code ∈ rest.map ImportProductLine.code ++ back.map ImportProductLine.code :=
    List.mem_append_right _ (List.mem_map_of_mem after)
  have present := ((remainingTables_spec importable attributes).2 row).mpr
    ⟨(mem_variantsOf.mp mine).1, fun _ => .inr (by
      rw [code]
      exact List.mem_map_of_mem (List.mem_append_right _ after))⟩
  have store := importable.sameStore row mine
  refine free seen line (rest ++ back) (by simp) row present ?_ ?_
    (template.integrationId, reference) ?_ ?_
  · intro same
    have equal : row.code = line.code := (Prod.mk.inj (Option.some.inj same)).2
    exact codes.2.1.1 (code.symm.trans equal ▸ own)
  · intro saved among same
    obtain ⟨other, listed, rfl⟩ := List.mem_map.mp among
    have equal : row.code = other.code := (Prod.mk.inj (Option.some.inj same)).2
    refine codes.2.2 (List.mem_map_of_mem listed) (List.mem_cons_of_mem _ ?_)
    exact code.symm.trans equal ▸ own
  · rw [referenceKey_incomingRow, given]
    rfl
  · change Option.map _ row.externalReference = _
    rw [also, ← store]
    rfl

variable {after : ExternalTables}
  (saved : (remainingTables tables attributes template main lines).variants.Saved
    (lines.map (incomingRow attributes template)) after.variants)

include saved

/-- The variants after all rows have been saved, if no other one is left. -/
theorem oneToOne_of_saved
    (noNamesake : ∀ row ∈ tables.variantsOf template.id, row.code = template.code →
      row.code ∈ lines.map ImportProductLine.code) :
    OneToOne (ShowsVariant attributes template.integrationId) lines
      (after.variantsOf template.id) := by
  constructor
  · intro line listed
    obtain ⟨id, stored⟩ := saved.stored _ (List.mem_map_of_mem listed)
    refine ⟨_, ⟨mem_variantsOf.mpr ⟨stored, rfl⟩, showsVariant_incomingRow line id⟩, ?_⟩
    rintro row ⟨among, shown⟩
    refine after.variants.uniqCode.eq_of_mem (mem_variantsOf.mp among).1 stored ?_ rfl
    change some (row.integrationId, row.code) = some (template.integrationId, line.code)
    rw [shown.store, shown.code]
  · intro row among
    obtain ⟨stored, own⟩ := mem_variantsOf.mp among
    have shown : ∃ line ∈ lines, ShowsVariant attributes template.integrationId line row := by
      obtain ⟨present, unsaved⟩ | ⟨_, given, id, rfl⟩ := saved.known row stored
      · obtain ⟨listed, wanted⟩ := ((remainingTables_spec importable attributes).2 row).mp present
        have mine := mem_variantsOf.mpr ⟨listed, own⟩
        have comes : row.code ∈ lines.map ImportProductLine.code :=
          (wanted own).elim (noNamesake row mine) fun comes => comes
        obtain ⟨line, given, code⟩ := List.mem_map.mp comes
        refine absurd ?_ (unsaved _ (List.mem_map_of_mem given))
        change some (row.integrationId, row.code) = some (template.integrationId, line.code)
        rw [importable.sameStore row mine, code]
      · obtain ⟨line, listed, rfl⟩ := List.mem_map.mp given
        exact ⟨line, listed, showsVariant_incomingRow line id⟩
    obtain ⟨line, listed, shown⟩ := shown
    refine ⟨line, ⟨listed, shown⟩, ?_⟩
    rintro other ⟨given, also⟩
    exact List.inj_on_of_nodup_map importable.codes given listed (also.code.symm.trans shown.code)

/-- A variant that is gone but has the code of the template is left. -/
theorem noNamesake_of_oneToOne
    (mirrored : OneToOne (ShowsVariant attributes template.integrationId) lines
      (after.variantsOf template.id))
    (row : ProductProductExternal) (mine : row ∈ tables.variantsOf template.id)
    (code : row.code = template.code) : row.code ∈ lines.map ImportProductLine.code := by
  by_contra gone
  have present := ((remainingTables_spec importable attributes).2 row).mpr
    ⟨(mem_variantsOf.mp mine).1, fun _ => .inl code⟩
  have kept := saved.kept row present fun other given same => by
    obtain ⟨line, listed, rfl⟩ := List.mem_map.mp given
    have equal : row.code = line.code := (Prod.mk.inj (Option.some.inj same)).2
    exact gone (equal ▸ List.mem_map_of_mem listed)
  obtain ⟨line, ⟨listed, shown⟩, _⟩ :=
    mirrored.right row (mem_variantsOf.mpr ⟨kept, (mem_variantsOf.mp mine).2⟩)
  exact gone (shown.code ▸ List.mem_map_of_mem listed)

end Mirror

/-- The lines of incoming data. -/
theorem modelName_templateLine (data : ExternalData) (template : ProductTemplateExternal) :
    (data.templateLine template).modelName = .productTemplate := by
  cases data <;> rfl

theorem modelName_variantLines (data : ExternalData) (template : ProductTemplateExternal) :
    ∀ line ∈ data.variantLines template, line.modelName = .productProduct := by
  intro line listed
  cases data with
  | tryMap data =>
      simp only [ExternalData.variantLines] at listed
      split at listed
      · rw [List.mem_singleton.mp listed]
        rfl
      · obtain ⟨variant, _, rfl⟩ := List.mem_map.mp listed
        rfl
  | importProduct data =>
      simp only [ExternalData.variantLines] at listed
      split at listed
      · rw [List.mem_singleton.mp listed]
        rfl
      · obtain ⟨variant, _, rfl⟩ := List.mem_map.mp listed
        rfl

/-- Approval by force ends with the external template and its variants as they came in, exactly if
all attribute values are known, no line takes over the reference of a variant whose own line comes
later, and no variant that is gone has the code of the template. -/
theorem refreshed_variants_mirror_iff (tables : ExternalTables)
    (attributes : List AttributeValueExternal) (template : ProductTemplateExternal)
    (data : ExternalData) (checked : ImportProductWizard)
    (came : (ImportProductWizard.create tables attributes template).check (some data) =
      .ok checked)
    (importable : Importable tables template (data.templateLine template)
      (data.variantLines template)) :
    (∃ result, checked.approve attributes tables true = .ok result ∧
        Mirrors attributes template.integrationId template.id (data.templateLine template)
          (data.variantLines template) result.1) ↔
      RefreshSafe attributes tables template (data.variantLines template) := by
  have isTemplate := modelName_templateLine data template
  have areVariants := modelName_variantLines data template
  have wizard : checked = checkedWizard tables attributes template (data.templateLine template)
      (data.variantLines template) := (Except.ok.inj came).symm
  obtain ⟨middle, first, variants, stored⟩ :=
    approveLine_main importable isTemplate attributes
  obtain ⟨possible, loop⟩ := foldlM_variants importable areVariants attributes variants
  rw [variants] at possible loop
  rw [wizard]
  constructor
  · rintro ⟨result, ran, mirrors⟩
    obtain ⟨_, also, after, rest, rfl⟩ :=
      (approve_eq_ok_iff importable isTemplate areVariants).mp ran
    obtain rfl := Except.ok.inj (first.symm.trans also)
    have steps := possible.mp ⟨after, rest⟩
    refine ⟨?_, ?_, ?_⟩
    · intro line listed
      obtain ⟨seen, later, split⟩ := List.append_of_mem listed
      exact (steps seen line later split).1
    · exact inOrder_of_freeAfter importable fun seen line later split =>
        (steps seen line later split).2
    · exact noNamesake_of_oneToOne importable (loop after rest).2 mirrors.variantsShown
  · intro safe
    obtain ⟨after, rest⟩ := possible.mpr fun seen line later split =>
      ⟨safe.known line (by simp [split]),
        freeAfter_of_inOrder importable safe.inOrder safe.noNamesake split⟩
    obtain ⟨templates, saved⟩ := loop after rest
    have ran := (approve_eq_ok_iff importable isTemplate areVariants).mpr
      ⟨middle, first, after, rest, rfl⟩
    refine ⟨_, ran, ?_, oneToOne_of_saved importable saved safe.noNamesake⟩
    rw [← templates] at stored
    exact ⟨_, stored, rfl, rfl, rfl, rfl, rfl, rfl⟩

/-! ## A cup in two colours -/

def cup : ProductTemplateExternal := ⟨⟨⟨5, 1, "100", none⟩, some "Cup", none⟩⟩

def cupVariant (id : ℕ) (code reference : String) : ProductProductExternal :=
  ⟨⟨⟨id, 1, code, some reference⟩, some "Cup", none⟩, some 5, []⟩

def cupTables : ExternalTables where
  templates := ⟨[cup], by decide, by decide, by decide⟩
  variants := ⟨[cupVariant 1 "100-1" "RED", cupVariant 2 "100-2" "BLUE"], by decide, by decide,
    by decide⟩
  templateMappings := .empty
  variantMappings := .empty

/-- The cup as the store sends it, with the references of its variants. -/
def cupData (first second : String) : ExternalData :=
  .tryMap
    { id := "100", name := some "Cup", externalReference := none, barcode := none
      variants := [⟨"100-1", some "Cup", some first, none, []⟩,
        ⟨"100-2", some "Cup", some second, none, []⟩] }

theorem importable_cup {first second : String} (distinct : first ≠ second) :
    Importable cupTables cup ((cupData first second).templateLine cup)
      ((cupData first second).variantLines cup) where
  stored := List.mem_singleton_self cup
  code := rfl
  sameStore := by decide
  codes := by simp [cupData, ExternalData.variantLines]
  references := by simp [cupData, ExternalData.variantLines, UniqueKey, distinct]
  unusedTemplateReference := by
    intro row listed _ other
    exact absurd (congrArg (fun row => row.id) (List.mem_singleton.mp listed)) other
  unusedCodes := by
    have own : ∀ row ∈ cupTables.variants.records, row.externalProductTemplateId = some 5 := by
      decide
    exact fun row listed _ foreign => absurd (own row listed) foreign
  unusedReferences := by
    have own : ∀ row ∈ cupTables.variants.records, row.externalProductTemplateId = some 5 := by
      decide
    exact fun row listed _ foreign => absurd (own row listed) foreign

/-- The second variant takes over the reference that the first one has given up. -/
theorem taken_over_reference_mirrored :
    ∃ result, (checkedWizard cupTables [] cup ((cupData "GREEN" "RED").templateLine cup)
        ((cupData "GREEN" "RED").variantLines cup)).approve [] cupTables true = .ok result ∧
      Mirrors [] 1 5 ((cupData "GREEN" "RED").templateLine cup)
        ((cupData "GREEN" "RED").variantLines cup) result.1 := by
  refine (refreshed_variants_mirror_iff cupTables [] cup (cupData "GREEN" "RED") _ rfl
    (importable_cup (by decide))).mpr ⟨?_, ?_, ?_⟩
  · simp [cupData, ExternalData.variantLines]
  · simp [cupData, ExternalData.variantLines, cupTables, ExternalTables.variantsOf, cupVariant, cup]
  · simp [cupTables, ExternalTables.variantsOf, cupVariant, cup]

/-- The variants have swapped their references: the first write violates the constraint. -/
theorem swapped_references_refused :
    Importable cupTables cup ((cupData "BLUE" "RED").templateLine cup)
        ((cupData "BLUE" "RED").variantLines cup) ∧
      ∃ checked, (ImportProductWizard.create cupTables [] cup).check (some (cupData "BLUE" "RED")) =
          .ok checked ∧
        ¬ ∃ result, checked.approve [] cupTables true = .ok result := by
  refine ⟨importable_cup (by decide), _, rfl, ?_⟩
  rintro ⟨result, ran⟩
  have refused : ((checkedWizard cupTables [] cup ((cupData "BLUE" "RED").templateLine cup)
      ((cupData "BLUE" "RED").variantLines cup)).approve [] cupTables true).isOk = false := by
    decide +kernel
  have ended : ((checkedWizard cupTables [] cup ((cupData "BLUE" "RED").templateLine cup)
      ((cupData "BLUE" "RED").variantLines cup)).approve [] cupTables true) = .ok result := ran
  rw [ended] at refused
  cases refused

end OdooConnector.Mapping
