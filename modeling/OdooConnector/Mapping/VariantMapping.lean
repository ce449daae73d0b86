import OdooConnector.Library.Fold
import OdooConnector.Library.OneToOne
import OdooConnector.Mapping.MappingTable
import OdooConnector.Mapping.ProductExternal
import OdooConnector.Resource.DeliveryMethod

/-!
# Mapping the variants of a product

Each external variant is mapped to the variant of Odoo that has its reference, else its barcode,
else its attribute values. Variants that are already taken are not left out, so that the mapping is
one to one only if the external variants without a reference in Odoo do not find the variant of
another one.
-/

namespace OdooConnector.Mapping

open Resource (truthy)

structure AttributeValue where
  id : ℕ
  excludeFromSynchronization : Bool
  deriving DecidableEq

structure ProductProduct where
  id : ℕ
  active : Bool
  field : String → Option String
  attributeValues : List AttributeValue

structure ProductTemplate where
  id : ℕ
  active : Bool
  variants : List ProductProduct
  distinct : (variants.map ProductProduct.id).Nodup

/-- Archived variants belong to archived templates only. -/
def ProductTemplate.productVariantIds (template : ProductTemplate) : List ProductProduct :=
  if template.active then template.variants.filter ProductProduct.active else template.variants

structure TemplateWithVariants where
  template : ProductTemplateExternal
  variants : List ProductProductExternal
  distinct : (variants.map fun variant => variant.id).Nodup

structure SaleIntegration where
  id : ℕ
  productReferenceName : String
  productBarcodeName : String
  barcodeValidationRequired : Bool
  /-- What an external attribute value is mapped to. -/
  attributeOdooRecord : ℕ → List AttributeValue

inductive SelfValidationError
  | referenceMissing (code : String)
  | referencesMissing (variants : List ProductProductExternal)
  | referencesDuplicated (variants : List ProductProductExternal)
  | barcodesMissing (variants : List ProductProductExternal)
  deriving DecidableEq

inductive UpdateError
  | countMismatch (external odoo : ℕ)
  | configurable (template : ℕ)
  | variantNotFound (external : ProductProductExternal) (odooVariants : List ℕ)
  | mapping (error : MappingError)
  deriving DecidableEq

/-- The mappings of variants and templates, and the integrations of each variant of Odoo. -/
structure ProductMappings where
  variants : MappingTable
  templates : MappingTable
  integrationIds : List (ℕ × ℕ)

def TemplateWithVariants.oneVariantCode (external : TemplateWithVariants) : String :=
  external.template.code ++ "-0"

namespace SaleIntegration

variable (integration : SaleIntegration)

def selfValidation (external : TemplateWithVariants) : Except SelfValidationError Unit :=
  let variants := external.variants.filter (·.code ≠ external.oneVariantCode)
  if !truthy external.template.externalReference ∧ variants = [] then
    .error (.referenceMissing external.template.code)
  else if variants = [] then .ok ()
  else if !variants.all fun variant => truthy variant.externalReference then
    .error (.referencesMissing variants)
  else if ¬ (variants.map fun variant => variant.externalReference).Nodup then
    .error (.referencesDuplicated variants)
  else if integration.barcodeValidationRequired ∧
      (variants.any fun variant => truthy variant.externalBarcode) ∧
      !variants.all fun variant => truthy variant.externalBarcode then
    .error (.barcodesMissing variants)
  else .ok ()

/-- Both filters by a field: a router from values to records keeps the last record of a value. -/
def filterVariantsByField (field : String) (value : Option String)
    (odooRecords : List ProductProduct) : Option ProductProduct :=
  if truthy value then odooRecords.reverse.find? fun record => record.field field = value else none

def filterVariantsByReference (external : ProductProductExternal) :
    List ProductProduct → Option ProductProduct :=
  filterVariantsByField integration.productReferenceName external.externalReference

def filterVariantsByBarcode (external : ProductProductExternal) :
    List ProductProduct → Option ProductProduct :=
  filterVariantsByField integration.productBarcodeName external.externalBarcode

end SaleIntegration

def synchronizedIds (values : List AttributeValue) : List ℕ :=
  (values.filter fun value => !value.excludeFromSynchronization).map AttributeValue.id

/-- The records have the same attribute values, in whatever order. -/
def SaleIntegration.SameAttributes (integration : SaleIntegration)
    (external : ProductProductExternal) (record : ProductProduct) : Prop :=
  synchronizedIds record.attributeValues ⊆
      synchronizedIds (external.externalAttributeValueIds.flatMap integration.attributeOdooRecord) ∧
    synchronizedIds (external.externalAttributeValueIds.flatMap integration.attributeOdooRecord) ⊆
      synchronizedIds record.attributeValues

instance (integration : SaleIntegration) (external : ProductProductExternal)
    (record : ProductProduct) : Decidable (integration.SameAttributes external record) :=
  inferInstanceAs (Decidable (_ ∧ _))

namespace SaleIntegration

variable (integration : SaleIntegration)

def filterVariantsByAttrs (external : ProductProductExternal) (odooRecords : List ProductProduct) :
    Option ProductProduct :=
  odooRecords.find? fun record => integration.SameAttributes external record

def findSuitableVariant (external : ProductProductExternal) (odooVariants : List ProductProduct) :
    Option ProductProduct :=
  match integration.filterVariantsByReference external odooVariants with
  | some variant => some variant
  | none =>
      match integration.filterVariantsByBarcode external odooVariants with
      | some variant => some variant
      | none => integration.filterVariantsByAttrs external odooVariants

/-- `create_or_update_mapping` of a variant also links the variant of Odoo to the integration. -/
def mapVariant (mappings : ProductMappings) (external : ProductProductExternal) (odooId : ℕ) :
    Except UpdateError ProductMappings := do
  let variants ← (mappings.variants.createOrUpdateMapping integration.id external.id
    (some (some odooId))).mapError .mapping
  return { mappings with
    variants
    integrationIds := mappings.integrationIds.insert (odooId, integration.id) }

def mapTemplate (mappings : ProductMappings) (external : ProductTemplateExternal) (odooId : ℕ) :
    Except UpdateError ProductMappings := do
  let templates ← (mappings.templates.createOrUpdateMapping integration.id external.id
    (some (some odooId))).mapError .mapping
  return { mappings with templates }

/-- One iteration over the external variants. -/
def remapVariant (odooVariants : List ProductProduct) (mappings : ProductMappings)
    (external : ProductProductExternal) : Except UpdateError ProductMappings := do
  let unmapped ← (mappings.variants.unmap integration.id external.id).mapError .mapping
  match integration.findSuitableVariant external odooVariants with
  | none => .error (.variantNotFound external (odooVariants.map ProductProduct.id))
  | some variant =>
      integration.mapVariant { mappings with variants := unmapped } external variant.id

def tryToUpdateMappings (mappings : ProductMappings) (template : ProductTemplate)
    (external : TemplateWithVariants) : Except UpdateError ProductMappings :=
  let odooVariants := template.productVariantIds
  if odooVariants.length ≠ external.variants.length then
    .error (.countMismatch external.variants.length odooVariants.length)
  else match external.variants with
    | [single] =>
        match odooVariants with
        | [variant] => do
            let mappings ← integration.mapTemplate mappings external.template template.id
            integration.mapVariant mappings single variant.id
        | _ => .error (.configurable template.id)
    | variants => do
        let mappings ← variants.foldlM (integration.remapVariant odooVariants) mappings
        integration.mapTemplate mappings external.template template.id

end SaleIntegration

/-- A product that passes `_self_validation` has distinct references that are not empty. -/
theorem references_of_selfValidation {integration : SaleIntegration}
    {external : TemplateWithVariants} (valid : integration.selfValidation external = .ok ())
    (real : ∀ variant ∈ external.variants, variant.code ≠ external.oneVariantCode) :
    (∀ variant ∈ external.variants, truthy variant.externalReference) ∧
      (external.variants.map fun variant => variant.externalReference).Nodup := by
  have all : external.variants.filter (fun variant => variant.code ≠ external.oneVariantCode) =
      external.variants := List.filter_eq_self.mpr (by simpa using real)
  unfold SaleIntegration.selfValidation at valid
  simp only [all] at valid
  split at valid
  · cases valid
  · split at valid
    · rename_i empty
      simp [empty]
    · split at valid
      · cases valid
      · rename_i present
        split at valid
        · cases valid
        · rename_i distinct
          refine ⟨?_, not_not.mp distinct⟩
          simpa using present

/-! ## The variant that is found -/

/-- The record has a value, and not an empty one. -/
def Carries (field : String) (value : Option String) (record : ProductProduct) : Prop :=
  truthy value ∧ record.field field = value

instance (field : String) (value : Option String) (record : ProductProduct) :
    Decidable (Carries field value record) := inferInstanceAs (Decidable (_ ∧ _))

/-- The last of the records that meet a condition. -/
def LastWith (holds : ProductProduct → Prop) (records : List ProductProduct)
    (record : ProductProduct) : Prop :=
  ∃ before after, records = before ++ record :: after ∧ holds record ∧
    ∀ other ∈ after, ¬ holds other

/-- The first of the records that meet a condition. -/
def FirstWith (holds : ProductProduct → Prop) (records : List ProductProduct)
    (record : ProductProduct) : Prop :=
  ∃ before after, records = before ++ record :: after ∧ holds record ∧
    ∀ other ∈ before, ¬ holds other

section Criteria

variable (integration : SaleIntegration) (external : ProductProductExternal)
  (odooVariants : List ProductProduct)

/-- No variant of Odoo has the reference. -/
def Unreferenced : Prop :=
  ∀ variant ∈ odooVariants,
    ¬ Carries integration.productReferenceName external.externalReference variant

/-- No variant of Odoo has the barcode. -/
def Unbarcoded : Prop :=
  ∀ variant ∈ odooVariants,
    ¬ Carries integration.productBarcodeName external.externalBarcode variant

/-- The variant that an external variant finds: by its reference, else by its barcode, else by its
attribute values. -/
inductive Suits : ProductProduct → Prop
  | reference {variant : ProductProduct}
      (last : LastWith (Carries integration.productReferenceName external.externalReference)
        odooVariants variant) : Suits variant
  | barcode {variant : ProductProduct}
      (unreferenced : Unreferenced integration external odooVariants)
      (last : LastWith (Carries integration.productBarcodeName external.externalBarcode)
        odooVariants variant) : Suits variant
  | attributes {variant : ProductProduct}
      (unreferenced : Unreferenced integration external odooVariants)
      (unbarcoded : Unbarcoded integration external odooVariants)
      (first : FirstWith (integration.SameAttributes external) odooVariants variant) :
      Suits variant

end Criteria

/-- No external variant without a reference in Odoo finds the variant of another one. -/
def FallbacksApart (integration : SaleIntegration) (externals : List ProductProductExternal)
    (odooVariants : List ProductProduct) : Prop :=
  ∀ external ∈ externals, Unreferenced integration external odooVariants →
    ∀ other ∈ externals, other ≠ external → ∀ variant,
      Suits integration external odooVariants variant →
        ¬ Suits integration other odooVariants variant

/-- Something keeps the mappings from being updated: an external variant that finds nothing, one
that is mapped twice, or a template that is mapped to several others. -/
def Refused (integration : SaleIntegration) (mappings : ProductMappings)
    (template : ProductTemplate) (external : TemplateWithVariants) : Prop :=
  (∃ variant ∈ external.variants,
      ∀ record, ¬ Suits integration variant template.productVariantIds record) ∨
    (∃ variant ∈ external.variants,
      1 < (mappings.variants.mappingRecord integration.id variant.id).length) ∨
    ¬ mappings.templates.Mappable integration.id external.template.id template.id

section Find

variable {holds : ProductProduct → Prop} [DecidablePred holds] {records : List ProductProduct}
  {record : ProductProduct}

theorem find?_eq_some_iff_first :
    (records.find? fun record => holds record) = some record ↔ FirstWith holds records record := by
  rw [List.find?_eq_some_iff_append]
  simp only [decide_eq_true_eq, Bool.not_eq_true', decide_eq_false_iff_not, FirstWith]
  constructor
  · rintro ⟨own, before, after, split, others⟩
    exact ⟨before, after, split, own, others⟩
  · rintro ⟨before, after, split, own, others⟩
    exact ⟨own, before, after, split, others⟩

theorem find?_reverse_eq_some_iff_last :
    (records.reverse.find? fun record => holds record) = some record ↔
      LastWith holds records record := by
  rw [find?_eq_some_iff_first]
  constructor
  · rintro ⟨before, after, split, own, others⟩
    refine ⟨after.reverse, before.reverse, ?_, own, by simpa using others⟩
    simpa using congrArg List.reverse split
  · rintro ⟨before, after, rfl, own, others⟩
    exact ⟨after.reverse, before.reverse, by simp, own, by simpa using others⟩

end Find

section Suitable

variable {integration : SaleIntegration} {external : ProductProductExternal}
  {odooVariants : List ProductProduct} {variant : ProductProduct}

theorem LastWith.mem {holds : ProductProduct → Prop} (last : LastWith holds odooVariants variant) :
    variant ∈ odooVariants ∧ holds variant := by
  obtain ⟨before, after, rfl, own, _⟩ := last
  exact ⟨by simp, own⟩

theorem FirstWith.mem {holds : ProductProduct → Prop}
    (first : FirstWith holds odooVariants variant) : variant ∈ odooVariants := by
  obtain ⟨before, after, rfl, _⟩ := first
  simp

theorem filterVariantsByField_eq {field : String} {value : Option String} :
    SaleIntegration.filterVariantsByField field value odooVariants =
      odooVariants.reverse.find? fun record => Carries field value record := by
  unfold SaleIntegration.filterVariantsByField Carries
  by_cases present : truthy value = true
  · simp [present]
  · rw [if_neg present, eq_comm, List.find?_eq_none]
    simp [present]

theorem filterVariantsByField_eq_none_iff {field : String} {value : Option String} :
    SaleIntegration.filterVariantsByField field value odooVariants = none ↔
      ∀ record ∈ odooVariants, ¬ Carries field value record := by
  simp [filterVariantsByField_eq]

theorem filterVariantsByField_eq_some_iff {field : String} {value : Option String} :
    SaleIntegration.filterVariantsByField field value odooVariants = some variant ↔
      LastWith (Carries field value) odooVariants variant := by
  rw [filterVariantsByField_eq, find?_reverse_eq_some_iff_last]

/-- What `_find_suitable_variant` finds. -/
theorem findSuitableVariant_eq_some_iff :
    integration.findSuitableVariant external odooVariants = some variant ↔
      Suits integration external odooVariants variant := by
  unfold SaleIntegration.findSuitableVariant SaleIntegration.filterVariantsByReference
    SaleIntegration.filterVariantsByBarcode SaleIntegration.filterVariantsByAttrs
  constructor
  · intro found
    cases referenced : SaleIntegration.filterVariantsByField integration.productReferenceName
        external.externalReference odooVariants with
    | some record =>
        simp only [referenced, Option.some.injEq] at found
        subst found
        exact .reference (filterVariantsByField_eq_some_iff.mp referenced)
    | none =>
        have unreferenced := filterVariantsByField_eq_none_iff.mp referenced
        cases barcoded : SaleIntegration.filterVariantsByField integration.productBarcodeName
            external.externalBarcode odooVariants with
        | some record =>
            simp only [referenced, barcoded, Option.some.injEq] at found
            subst found
            exact .barcode unreferenced (filterVariantsByField_eq_some_iff.mp barcoded)
        | none =>
            simp only [referenced, barcoded] at found
            exact .attributes unreferenced (filterVariantsByField_eq_none_iff.mp barcoded)
              (find?_eq_some_iff_first.mp found)
  · intro suits
    cases suits with
    | reference last => simp only [filterVariantsByField_eq_some_iff.mpr last]
    | barcode unreferenced last =>
        simp only [filterVariantsByField_eq_none_iff.mpr unreferenced,
          filterVariantsByField_eq_some_iff.mpr last]
    | attributes unreferenced unbarcoded first =>
        simp only [filterVariantsByField_eq_none_iff.mpr unreferenced,
          filterVariantsByField_eq_none_iff.mpr unbarcoded, find?_eq_some_iff_first.mpr first]

theorem Suits.mem (suits : Suits integration external odooVariants variant) :
    variant ∈ odooVariants := by
  cases suits with
  | reference last => exact last.mem.1
  | barcode _ last => exact last.mem.1
  | attributes _ _ first => exact first.mem

theorem Suits.unique {other : ProductProduct}
    (suits : Suits integration external odooVariants variant)
    (also : Suits integration external odooVariants other) : variant = other := by
  rw [← findSuitableVariant_eq_some_iff] at suits also
  exact Option.some.inj (suits.symm.trans also)

/-- A variant that is found by a reference has this reference. -/
theorem Suits.carries (suits : Suits integration external odooVariants variant)
    (referenced : ¬ Unreferenced integration external odooVariants) :
    variant.field integration.productReferenceName = external.externalReference := by
  cases suits with
  | reference last => exact last.mem.2.2
  | barcode unreferenced _ => exact absurd unreferenced referenced
  | attributes unreferenced _ _ => exact absurd unreferenced referenced

end Suitable

/-! ## The loop over the external variants -/

section Loop

variable {integration : SaleIntegration} {odooVariants : List ProductProduct}
  {mappings after : ProductMappings} {external : ProductProductExternal}

theorem mapVariant_eq_ok_iff {odooId : ℕ} :
    integration.mapVariant mappings external odooId = .ok after ↔
      ∃ variants, mappings.variants.createOrUpdateMapping integration.id external.id
          (some (some odooId)) = .ok variants ∧
        { mappings with
          variants
          integrationIds := mappings.integrationIds.insert (odooId, integration.id) } = after := by
  simp only [SaleIntegration.mapVariant, bind_eq_ok_iff, mapError_eq_ok_iff, pure, Except.pure,
    Except.ok.injEq]

theorem mapTemplate_eq_ok_iff {template : ProductTemplateExternal} {odooId : ℕ} :
    integration.mapTemplate mappings template odooId = .ok after ↔
      ∃ templates, mappings.templates.createOrUpdateMapping integration.id template.id
          (some (some odooId)) = .ok templates ∧ { mappings with templates } = after := by
  simp only [SaleIntegration.mapTemplate, bind_eq_ok_iff, mapError_eq_ok_iff, pure, Except.pure,
    Except.ok.injEq]

theorem remapVariant_eq_ok_iff :
    integration.remapVariant odooVariants mappings external = .ok after ↔
      ∃ unmapped, mappings.variants.unmap integration.id external.id = .ok unmapped ∧
        ∃ variant, Suits integration external odooVariants variant ∧
          integration.mapVariant { mappings with variants := unmapped } external variant.id =
            .ok after := by
  simp only [SaleIntegration.remapVariant, bind_eq_ok_iff, mapError_eq_ok_iff,
    ← findSuitableVariant_eq_some_iff]
  refine exists_congr fun unmapped => and_congr_right fun _ => ?_
  cases found : integration.findSuitableVariant external odooVariants with
  | none => simp
  | some variant => simp

/-- An iteration can be done if the external variant finds something and is mapped at most once. -/
theorem exists_remapVariant_iff :
    (∃ after, integration.remapVariant odooVariants mappings external = .ok after) ↔
      (∃ variant, Suits integration external odooVariants variant) ∧
        (mappings.variants.mappingRecord integration.id external.id).length ≤ 1 := by
  simp only [remapVariant_eq_ok_iff]
  obtain ⟨unmapped, ran⟩ := mappings.variants.exists_unmap integration.id external.id
  have freed : unmapped.odooRecord integration.id external.id = [] := by
    rw [MappingTable.odooRecord, MappingTable.mappingRecord_write ran]
    simp [IntegrationMapping.setInternal]
  have lengths : (unmapped.mappingRecord integration.id external.id).length =
      (mappings.variants.mappingRecord integration.id external.id).length := by
    rw [MappingTable.mappingRecord_write ran, List.length_map]
  have mappable : ∀ odooId, (∃ mapped, unmapped.createOrUpdateMapping integration.id external.id
      (some (some odooId)) = .ok mapped) ↔
        (mappings.variants.mappingRecord integration.id external.id).length ≤ 1 := by
    intro odooId
    rw [MappingTable.exists_createOrUpdateMapping_iff, MappingTable.Mappable, freed, lengths]
    simp
  constructor
  · rintro ⟨after, other, also, variant, suits, mapped⟩
    cases ran.symm.trans also
    obtain ⟨variants, mapped, _⟩ := mapVariant_eq_ok_iff.mp mapped
    exact ⟨⟨variant, suits⟩, (mappable variant.id).mp ⟨variants, mapped⟩⟩
  · rintro ⟨⟨variant, suits⟩, few⟩
    obtain ⟨variants, mapped⟩ := (mappable variant.id).mpr few
    exact ⟨_, unmapped, ran, variant, suits, mapVariant_eq_ok_iff.mpr ⟨variants, mapped, rfl⟩⟩

/-- After an iteration the external variant is mapped to what it finds; the mappings of the other
ones are unchanged. -/
theorem remapVariant_spec
    (ran : integration.remapVariant odooVariants mappings external = .ok after) :
    (∀ product, after.variants.Maps integration.id external.id product ↔
        ∃ variant, Suits integration external odooVariants variant ∧ variant.id = product) ∧
      (∀ other, other ≠ external.id → after.variants.mappingRecord integration.id other =
        mappings.variants.mappingRecord integration.id other) ∧
      after.templates = mappings.templates := by
  obtain ⟨unmapped, freed, variant, suits, mapped⟩ := remapVariant_eq_ok_iff.mp ran
  obtain ⟨variants, stored, rfl⟩ := mapVariant_eq_ok_iff.mp mapped
  refine ⟨?_, ?_, rfl⟩
  · intro product
    rw [MappingTable.maps_createOrUpdateMapping_iff stored]
    constructor
    · rintro rfl
      exact ⟨variant, suits, rfl⟩
    · rintro ⟨other, also, rfl⟩
      rw [suits.unique also]
  · intro other ne
    exact (MappingTable.mappingRecord_createOrUpdateMapping_of_ne stored ne).trans
      (MappingTable.mappingRecord_write_of_ne freed ne)

variable {externals : List ProductProductExternal}

theorem exists_foldlM_remapVariant_iff
    (distinct : (externals.map fun external => external.id).Nodup) :
    (∃ after, externals.foldlM (integration.remapVariant odooVariants) mappings = .ok after) ↔
      ∀ external ∈ externals, (∃ variant, Suits integration external odooVariants variant) ∧
        (mappings.variants.mappingRecord integration.id external.id).length ≤ 1 := by
  induction externals generalizing mappings with
  | nil => exact iff_of_true ⟨mappings, rfl⟩ (by simp)
  | cons external externals induction =>
      obtain ⟨fresh, distinct⟩ := List.nodup_cons.mp distinct
      have unchanged : ∀ middle,
          integration.remapVariant odooVariants mappings external = .ok middle →
          ∀ other ∈ externals, middle.variants.mappingRecord integration.id other.id =
            mappings.variants.mappingRecord integration.id other.id := by
        intro middle ran other listed
        refine (remapVariant_spec ran).2.1 other.id ?_
        intro same
        exact fresh (List.mem_map.mpr ⟨other, listed, same⟩)
      simp only [List.foldlM_cons, bind_eq_ok_iff, List.forall_mem_cons]
      rw [← exists_remapVariant_iff]
      constructor
      · rintro ⟨after, middle, first, rest⟩
        refine ⟨⟨middle, first⟩, ?_⟩
        intro other listed
        rw [← unchanged middle first other listed]
        exact (induction distinct).mp ⟨after, rest⟩ other listed
      · rintro ⟨⟨middle, first⟩, others⟩
        have remaining : ∃ after,
            externals.foldlM (integration.remapVariant odooVariants) middle = .ok after := by
          rw [induction distinct]
          intro other listed
          rw [unchanged middle first other listed]
          exact others other listed
        obtain ⟨after, rest⟩ := remaining
        exact ⟨after, middle, first, rest⟩

theorem foldlM_remapVariant_spec
    (distinct : (externals.map fun external => external.id).Nodup)
    (ran : externals.foldlM (integration.remapVariant odooVariants) mappings = .ok after) :
    (∀ external ∈ externals, ∀ product,
        after.variants.Maps integration.id external.id product ↔
          ∃ variant, Suits integration external odooVariants variant ∧ variant.id = product) ∧
      (∀ other, other ∉ externals.map (fun external => external.id) →
        after.variants.mappingRecord integration.id other =
          mappings.variants.mappingRecord integration.id other) ∧
      after.templates = mappings.templates := by
  induction externals generalizing mappings with
  | nil =>
      cases ran
      simp
  | cons external externals induction =>
      obtain ⟨fresh, distinct⟩ := List.nodup_cons.mp distinct
      rw [List.foldlM_cons, bind_eq_ok_iff] at ran
      obtain ⟨middle, first, rest⟩ := ran
      obtain ⟨own, others, templates⟩ := remapVariant_spec first
      obtain ⟨mapped, unchanged, same⟩ := induction distinct rest
      refine ⟨?_, ?_, same.trans templates⟩
      · intro other listed product
        cases listed with
        | head => rw [MappingTable.Maps, unchanged _ fresh, ← MappingTable.Maps, own]
        | tail _ listed => exact mapped other listed product
      · intro other unlisted
        rw [List.map_cons, List.mem_cons, not_or] at unlisted
        exact (unchanged other unlisted.2).trans (others other unlisted.1)

end Loop

/-! ## The whole update -/

section Update

variable {integration : SaleIntegration} {mappings after : ProductMappings}
  {template : ProductTemplate} {external : TemplateWithVariants}

theorem ProductTemplate.nodup_productVariantIds (template : ProductTemplate) :
    (template.productVariantIds.map ProductProduct.id).Nodup := by
  unfold ProductTemplate.productVariantIds
  split
  · exact (List.filter_sublist.map _).nodup template.distinct
  · exact template.distinct

/-- The only external variant is mapped without a search. -/
theorem tryToUpdateMappings_single {single : ProductProductExternal} {variant : ProductProduct}
    (externals : external.variants = [single]) (variants : template.productVariantIds = [variant])
    (ran : integration.tryToUpdateMappings mappings template external = .ok after)
    (product : ℕ) :
    after.variants.Maps integration.id single.id product ↔ product = variant.id := by
  simp only [SaleIntegration.tryToUpdateMappings, externals, variants, List.length_singleton,
    ne_eq, not_true_eq_false, if_false, bind_eq_ok_iff] at ran
  obtain ⟨middle, _, mapped⟩ := ran
  obtain ⟨table, stored, rfl⟩ := mapVariant_eq_ok_iff.mp mapped
  exact MappingTable.maps_createOrUpdateMapping_iff stored

/-- Otherwise there is a search for each external variant. -/
theorem tryToUpdateMappings_several
    (same : template.productVariantIds.length = external.variants.length)
    (several : external.variants.length ≠ 1) :
    integration.tryToUpdateMappings mappings template external =
      external.variants.foldlM (integration.remapVariant template.productVariantIds) mappings >>=
        fun mappings => integration.mapTemplate mappings external.template template.id := by
  unfold SaleIntegration.tryToUpdateMappings
  simp only [same, ne_eq, not_true_eq_false, if_false]
  split
  · rename_i single externals
    simp [externals] at several
  · rfl

/-- An update of several variants succeeds unless something keeps it from that. -/
theorem exists_tryToUpdateMappings_iff
    (same : template.productVariantIds.length = external.variants.length)
    (several : external.variants.length ≠ 1) :
    (∃ after, integration.tryToUpdateMappings mappings template external = .ok after) ↔
      ¬ Refused integration mappings template external := by
  unfold Refused
  push Not
  rw [tryToUpdateMappings_several same several]
  constructor
  · rintro ⟨after, ran⟩
    obtain ⟨middle, loop, mapped⟩ := bind_eq_ok_iff.mp ran
    obtain ⟨templates, stored, _⟩ := mapTemplate_eq_ok_iff.mp mapped
    have suited := (exists_foldlM_remapVariant_iff external.distinct).mp ⟨middle, loop⟩
    refine ⟨fun variant listed => (suited variant listed).1,
      fun variant listed => (suited variant listed).2, ?_⟩
    rw [← (foldlM_remapVariant_spec external.distinct loop).2.2]
    exact MappingTable.exists_createOrUpdateMapping_iff.mp ⟨templates, stored⟩
  · rintro ⟨suited, few, mappable⟩
    have loop : ∃ middle, external.variants.foldlM
        (integration.remapVariant template.productVariantIds) mappings = .ok middle := by
      rw [exists_foldlM_remapVariant_iff external.distinct]
      exact fun variant listed => ⟨suited variant listed, few variant listed⟩
    obtain ⟨middle, loop⟩ := loop
    rw [← (foldlM_remapVariant_spec external.distinct loop).2.2] at mappable
    obtain ⟨templates, stored⟩ := MappingTable.exists_createOrUpdateMapping_iff.mpr mappable
    have mapped := mapTemplate_eq_ok_iff.mpr ⟨templates, stored, rfl⟩
    exact ⟨_, bind_eq_ok_iff.mpr ⟨middle, loop, mapped⟩⟩

/-- After an update each external variant is mapped to what it finds. -/
theorem tryToUpdateMappings_spec
    (same : template.productVariantIds.length = external.variants.length)
    (several : external.variants.length ≠ 1)
    (ran : integration.tryToUpdateMappings mappings template external = .ok after) :
    (∀ variant ∈ external.variants,
        ∃ record, Suits integration variant template.productVariantIds record) ∧
      ∀ variant ∈ external.variants, ∀ record ∈ template.productVariantIds,
        after.variants.Maps integration.id variant.id record.id ↔
          Suits integration variant template.productVariantIds record := by
  rw [tryToUpdateMappings_several same several, bind_eq_ok_iff] at ran
  obtain ⟨middle, loop, mapped⟩ := ran
  obtain ⟨templates, _, rfl⟩ := mapTemplate_eq_ok_iff.mp mapped
  have suited := (exists_foldlM_remapVariant_iff external.distinct).mp ⟨middle, loop⟩
  refine ⟨fun variant listed => (suited variant listed).1, ?_⟩
  intro variant listed record present
  rw [(foldlM_remapVariant_spec external.distinct loop).1 variant listed record.id]
  constructor
  · rintro ⟨found, suits, equal⟩
    have own := List.inj_on_of_nodup_map template.nodup_productVariantIds suits.mem present equal
    exact own ▸ suits
  · exact fun suits => ⟨record, suits, rfl⟩

/-- External variants with distinct references do not share a variant of Odoo unless one of them
falls back on it. -/
theorem FallbacksApart.apart
    (apart : FallbacksApart integration external.variants template.productVariantIds)
    (distinct : (external.variants.map fun variant => variant.externalReference).Nodup)
    {variant other : ProductProductExternal} (listed : variant ∈ external.variants)
    (among : other ∈ external.variants) (ne : variant ≠ other) (record : ProductProduct)
    (suits : Suits integration variant template.productVariantIds record) :
    ¬ Suits integration other template.productVariantIds record := by
  intro also
  by_cases unreferenced : Unreferenced integration variant template.productVariantIds
  · exact apart variant listed unreferenced other among ne.symm record suits also
  · by_cases fallback : Unreferenced integration other template.productVariantIds
    · exact apart other among fallback variant listed ne record also suits
    · have equal := (suits.carries unreferenced).symm.trans (also.carries fallback)
      exact ne (List.inj_on_of_nodup_map distinct listed among equal)

end Update

/-- If the update returns, then the variants of Odoo and the external variants are mapped one to
one, exactly if something keeps it from returning or no external variant without a reference in Odoo
finds the variant of another one. -/
theorem variants_mapped_one_to_one_iff (integration : SaleIntegration) (mappings : ProductMappings)
    (template : ProductTemplate) (external : TemplateWithVariants)
    (same : template.productVariantIds.length = external.variants.length)
    (distinct : (external.variants.map fun variant => variant.externalReference).Nodup) :
    (∀ after, integration.tryToUpdateMappings mappings template external = .ok after →
      OneToOne (fun (record : ProductProduct) (variant : ProductProductExternal) =>
          after.variants.Maps integration.id variant.id record.id)
        template.productVariantIds external.variants) ↔
      Refused integration mappings template external ∨
        FallbacksApart integration external.variants template.productVariantIds := by
  constructor
  · intro bijective
    rw [or_iff_not_imp_left]
    intro accepted variant listed unreferenced other among ne record suits also
    have several : external.variants.length ≠ 1 := by
      intro one
      obtain ⟨single, only⟩ := List.length_eq_one_iff.mp one
      rw [only, List.mem_singleton] at listed among
      exact ne (among.trans listed.symm)
    obtain ⟨after, ran⟩ := (exists_tryToUpdateMappings_iff same several).mpr accepted
    have mapped := (tryToUpdateMappings_spec same several ran).2
    obtain ⟨_, _, only⟩ := (bijective after ran).left record suits.mem
    have first := only variant ⟨listed, (mapped variant listed record suits.mem).mpr suits⟩
    have second := only other ⟨among, (mapped other among record suits.mem).mpr also⟩
    exact ne (second.trans first.symm)
  · intro condition after ran
    by_cases one : external.variants.length = 1
    · obtain ⟨single, externals⟩ := List.length_eq_one_iff.mp one
      obtain ⟨variant, variants⟩ := List.length_eq_one_iff.mp (same.trans one)
      have mapped := tryToUpdateMappings_single externals variants ran
      rw [externals, variants]
      constructor
      · intro record present
        rw [List.mem_singleton.mp present]
        refine ⟨single, ⟨List.mem_singleton_self single, (mapped _).mpr rfl⟩, ?_⟩
        exact fun other own => List.mem_singleton.mp own.1
      · intro own listed
        rw [List.mem_singleton.mp listed]
        refine ⟨variant, ⟨List.mem_singleton_self variant, (mapped _).mpr rfl⟩, ?_⟩
        exact fun other own => List.mem_singleton.mp own.1
    · obtain ⟨suited, mapped⟩ := tryToUpdateMappings_spec same one ran
      have fallbacks := condition.resolve_left
        ((exists_tryToUpdateMappings_iff same one).mp ⟨after, ran⟩)
      have apart : external.variants.Pairwise fun variant other => ∀ record,
          Suits integration variant template.productVariantIds record →
            ¬ Suits integration other template.productVariantIds record :=
        external.distinct.of_map.pairwise_of_forall_ne fun variant listed other among ne =>
          fallbacks.apart distinct listed among ne
      have covered : ∀ variant ∈ external.variants, ∃ record ∈ template.productVariantIds,
          Suits integration variant template.productVariantIds record := by
        intro variant listed
        obtain ⟨record, suits⟩ := suited variant listed
        exact ⟨record, suits.mem, suits⟩
      have matched := matched_of_length same covered apart
      have found := matched.oneToOne template.nodup_productVariantIds.of_map
        fun record other variant suits also => suits.unique also
      exact found.congr_rel fun record present variant listed =>
        (mapped variant listed record present).symm

/-! ## A shirt in two sizes -/

def shirtIntegration : SaleIntegration where
  id := 1
  productReferenceName := "default_code"
  productBarcodeName := "barcode"
  barcodeValidationRequired := false
  attributeOdooRecord := fun _ => []

def shirtVariant (id : ℕ) (defaultCode barcode : String) : ProductProduct where
  id := id
  active := true
  field := fun name =>
    if name = "default_code" then some defaultCode
    else if name = "barcode" then some barcode
    else none
  attributeValues := []

def shirt : ProductTemplate where
  id := 10
  active := true
  variants := [shirtVariant 11 "SHIRT-S" "111", shirtVariant 12 "SHIRT-M" "222"]
  distinct := by decide

def shirtExternalVariant (id : ℕ) (code reference : String) (barcode : Option String) :
    ProductProductExternal where
  id := id
  integrationId := 1
  code := code
  externalReference := some reference
  name := some "Shirt"
  externalBarcode := barcode
  externalProductTemplateId := some 5
  externalAttributeValueIds := []

/-- The shirt in the store, where the second size has a reference and maybe a barcode. -/
def shirtExternal (reference : String) (barcode : Option String) : TemplateWithVariants where
  template := ⟨⟨⟨5, 1, "100", none⟩, some "Shirt", none⟩⟩
  variants := [shirtExternalVariant 1 "100-1" "SHIRT-S" none,
    shirtExternalVariant 2 "100-2" reference barcode]
  distinct := by simp [shirtExternalVariant]

def unmappedProducts : ProductMappings where
  variants := .empty
  templates := .empty
  integrationIds := []

theorem shirt_mapped_one_to_one :
    ∃ after, shirtIntegration.tryToUpdateMappings unmappedProducts shirt
        (shirtExternal "SHIRT-M" none) = .ok after ∧
      OneToOne (fun (record : ProductProduct) (variant : ProductProductExternal) =>
          after.variants.Maps 1 variant.id record.id)
        shirt.productVariantIds (shirtExternal "SHIRT-M" none).variants := by
  have succeeds : (shirtIntegration.tryToUpdateMappings unmappedProducts shirt
    (shirtExternal "SHIRT-M" none)).isOk = true := by decide +kernel
  cases ran : shirtIntegration.tryToUpdateMappings unmappedProducts shirt
      (shirtExternal "SHIRT-M" none) with
  | error error =>
      rw [ran] at succeeds
      cases succeeds
  | ok after =>
      refine ⟨after, rfl, (variants_mapped_one_to_one_iff shirtIntegration unmappedProducts shirt
        (shirtExternal "SHIRT-M" none) (by decide) (by decide)).mpr (.inr ?_) after ran⟩
      intro variant listed unreferenced
      have referenced : ∀ variant ∈ (shirtExternal "SHIRT-M" none).variants,
          ∃ record ∈ shirt.productVariantIds,
            Carries "default_code" variant.externalReference record := by decide
      obtain ⟨record, present, carries⟩ := referenced variant listed
      exact absurd carries (unreferenced record present)

/-- The second size has the barcode of the first one in Odoo and a reference that Odoo does not
know: both sizes of the store are mapped to the first one, and the second one of Odoo to none. -/
theorem shirt_mapped_twice :
    shirtIntegration.selfValidation (shirtExternal "SHIRT-X" (some "111")) = .ok () ∧
      ∃ after, shirtIntegration.tryToUpdateMappings unmappedProducts shirt
          (shirtExternal "SHIRT-X" (some "111")) = .ok after ∧
        ¬ OneToOne (fun (record : ProductProduct) (variant : ProductProductExternal) =>
            after.variants.Maps 1 variant.id record.id)
          shirt.productVariantIds (shirtExternal "SHIRT-X" (some "111")).variants := by
  refine ⟨by decide, ?_⟩
  have several : (shirtExternal "SHIRT-X" (some "111")).variants.length ≠ 1 := by decide
  cases ran : shirtIntegration.tryToUpdateMappings unmappedProducts shirt
      (shirtExternal "SHIRT-X" (some "111")) with
  | error error =>
      have succeeds : (shirtIntegration.tryToUpdateMappings unmappedProducts shirt
        (shirtExternal "SHIRT-X" (some "111"))).isOk = true := by decide +kernel
      rw [ran] at succeeds
      cases succeeds
  | ok after =>
      refine ⟨after, rfl, ?_⟩
      intro bijective
      have mapped := (tryToUpdateMappings_spec (by decide) several ran).2
      have second : shirtVariant 12 "SHIRT-M" "222" ∈ shirt.productVariantIds := by
        simp [ProductTemplate.productVariantIds, shirt, shirtVariant]
      obtain ⟨variant, ⟨listed, own⟩, _⟩ := bijective.left _ second
      have suits := (mapped variant listed _ second).mp own
      have found := congrArg (Option.map ProductProduct.id)
        (findSuitableVariant_eq_some_iff.mpr suits)
      have other : ∀ variant ∈ (shirtExternal "SHIRT-X" (some "111")).variants,
          (shirtIntegration.findSuitableVariant variant shirt.productVariantIds).map
            ProductProduct.id ≠ some 12 := by decide
      exact other variant listed found

end OdooConnector.Mapping
