import OdooConnector.Catalog.TemplateHub
import OdooConnector.Library.Fold

/-!
# Validation of products

Products of the store and of Odoo are validated before an import: variants are to be found by their
references, and by their barcodes where these are validated.
-/

namespace OdooConnector.Catalog

structure StoreVariant where
  id : ℕ
  productId : ℕ
  barcode : String
  ref : String

structure StoreProduct where
  id : ℕ
  variants : List StoreVariant

def StoreVariant.serializeVariantForTest (variant : StoreVariant) : ProductTuple where
  id := variant.id
  barcode := variant.barcode
  ref := variant.ref
  parentId := some variant.productId
  skipRef := false
  jointNamespace := false

namespace StoreProduct

variable (product : StoreProduct)

def serializeTemplateForTest : ProductTuple where
  id := product.id
  barcode := ""
  ref := ""
  parentId := none
  skipRef := true
  jointNamespace := false

def serializeForValidationTest : List ProductTuple :=
  product.serializeTemplateForTest :: product.variants.map StoreVariant.serializeVariantForTest

end StoreProduct

/-- The products by their identifiers, of which the last ones are kept. -/
def validationData (templates : List StoreProduct) : Dict ℕ (List ProductTuple) :=
  Dict.updateAll StoreProduct.id (fun template _ => template.serializeForValidationTest) ∅ templates

def getTemplatesAndProductsForValidationTest (templates : List StoreProduct) : TemplateHub :=
  (validationData templates).values.flatten

/-- A row that `search_read` returns of `product.product`. -/
structure OdooVariant where
  id : ℕ
  templateId : ℕ
  barcode : String
  ref : String

/-- The rows of a search, each of another record. -/
structure OdooVariants where
  rows : List OdooVariant
  nodup : (rows.map OdooVariant.id).Nodup

def OdooVariant.parseArgs (row : OdooVariant) : ProductTuple where
  id := row.id
  barcode := row.barcode
  ref := row.ref
  parentId := some row.templateId
  skipRef := false
  jointNamespace := true

def fromOdoo (searchList : OdooVariants) : TemplateHub := searchList.rows.map OdooVariant.parseArgs

structure BarcodeSettings where
  validateBarcode : Bool
  /-- The mappings of the barcode fields of templates and variants. -/
  mappingIds : List ℕ

def noBarcodeMappings : String :=
  "Barcode validation is enabled, but no active mappings exist for the barcode fields " ++
  "between Odoo and the e-commerce system.\n\n" ++
  "To proceed, please add the required mappings for barcode fields in the integration settings, " ++
  "or disable the \"Variant Barcode Validation\" property if barcode validation is not needed."

def BarcodeSettings.isBarcodeValidationRequired (settings : BarcodeSettings) :
    Except ValidationError Bool :=
  if !settings.validateBarcode then .ok false
  else if settings.mappingIds = [] then .error (.user noBarcodeMappings)
  else .ok true

inductive ReportItems where
  | products (items : List ProductTuple)
  | byValue (items : List (String × List ProductTuple))
  | byProduct (items : List (ProductTuple × List ProductTuple))

def ReportItems.isEmpty : ReportItems → Bool
  | products items => items.isEmpty
  | byValue items => items.isEmpty
  | byProduct items => items.isEmpty

structure ReportEntry where
  key : String
  title : String
  items : ReportItems

structure ValidationResults where
  ecommerceSystem : List ReportEntry
  odooSystem : List ReportEntry
  hasErrors : Bool

/-- Checks that find nothing are not reported. -/
def reported (entries : List ReportEntry) : List ReportEntry :=
  entries.filter fun entry => !entry.items.isEmpty

/-- What the checks of barcodes find: variants of which some have none, duplicates, and variants
without one. -/
abbrev BarcodeFindings :=
  List ProductTuple × List (String × List ProductTuple) × List (ProductTuple × List ProductTuple)

def checkHubBarcodes (hub : TemplateHub) : Except ValidationError BarcodeFindings := do
  let noBarcodeVariants ← hub.getProductsWithNoBarcodesOnVariants
  return (hub.getProductsWithPartialBarcodes, hub.getProductsWithDuplicateBarcodes,
    noBarcodeVariants)

def barcodeFindings (checkBarcodes : Bool) (hub : TemplateHub) :
    Except ValidationError BarcodeFindings :=
  if checkBarcodes then checkHubBarcodes hub else .ok ([], [], [])

def ecommerceErrors (refFieldName : String) (hub : TemplateHub)
    (repeatedConfigurations nestedConfigurations : List (ProductTuple × List ProductTuple))
    (duplicatedRef : List (String × List ProductTuple)) (barcodes : BarcodeFindings) :
    List ReportEntry :=
  reported [
    ⟨"missing_references", "Products without \"" ++ refFieldName ++ "\" in the e-commerce system:",
      .products hub.getProductsWithEmptyReferences.1⟩,
    -- the entry is written twice, and its second title remains
    ⟨"partial_barcodes",
      "Products with partially filled barcodes on variants in the e-Commerce system:",
      .products barcodes.1⟩,
    ⟨"missing_variant_references",
      "Product variants IDs without \"" ++ refFieldName ++ "\" in e-commerce System:",
      .products hub.getProductsWithEmptyReferences.2⟩,
    ⟨"repeated_configurations", "Simple products assigned to multiple configurable products:",
      .byProduct repeatedConfigurations⟩,
    ⟨"nested_configurations", "Configurable Product contains another Configurable Product.",
      .byProduct nestedConfigurations⟩,
    ⟨"duplicated_references", "Duplicated references in the e-commerce system:",
      .byValue duplicatedRef⟩,
    ⟨"duplicated_barcodes", "Duplicated barcodes in e-commerce System:", .byValue barcodes.2.1⟩,
    ⟨"no_barcode_variants", "Product variants without barcodes in the e-Commerce system:",
      .byProduct barcodes.2.2⟩]

def odooErrors (refFieldName : String) (hub : TemplateHub)
    (duplicatedRef duplicatedBar : List (String × List ProductTuple)) : List ReportEntry :=
  reported [
    ⟨"missing_variant_references", "Product variants without \"" ++ refFieldName ++ "\" in Odoo:",
      .products hub.getProductsWithEmptyReferences.2⟩,
    ⟨"duplicated_references", "Duplicated references in Odoo:", .byValue duplicatedRef⟩,
    ⟨"duplicated_barcodes", "Duplicated barcodes in Odoo:", .byValue duplicatedBar⟩]

def validateProductTemplates (tmplHub : TemplateHub) (odooVariantIds : OdooVariants)
    (settings : BarcodeSettings) (refFieldName : String) :
    Except ValidationError ValidationResults := do
  let repeatedConfigurations ← tmplHub.getProductsWithRepeatedConfigurations
  let nestedConfigurations ← tmplHub.getProductsWithNestedConfigurations
  let duplicatedRef ← tmplHub.getProductsWithDuplicateReferences
  let checkBarcodes ← settings.isBarcodeValidationRequired
  let barcodes ← barcodeFindings checkBarcodes tmplHub
  let ecommerceSystem :=
    ecommerceErrors refFieldName tmplHub repeatedConfigurations nestedConfigurations duplicatedRef
      barcodes
  let tmplHubOdoo := fromOdoo odooVariantIds
  let duplicatedRefOdoo ← tmplHubOdoo.getProductsWithDuplicateReferences
  let duplicatedBarOdoo :=
    if checkBarcodes then tmplHubOdoo.getProductsWithDuplicateBarcodes else []
  let odooSystem := odooErrors refFieldName tmplHubOdoo duplicatedRefOdoo duplicatedBarOdoo
  return ⟨ecommerceSystem, odooSystem, !ecommerceSystem.isEmpty || !odooSystem.isEmpty⟩

/-! ## Catalogues without errors -/

/-- References, and barcodes where they are checked, identify the variants of a store. -/
structure StoreSound (variants : List ProductTuple) (checkBarcodes : Bool) : Prop where
  once : (variants.map ProductTuple.id).Nodup
  referenced : ∀ variant ∈ variants, variant.ref ≠ ""
  references : (variants.map ProductTuple.ref).Nodup
  barcoded : checkBarcodes = true → ∀ variant ∈ variants, variant.barcode ≠ ""
  barcodes : checkBarcodes = true → (variants.map ProductTuple.barcode).Nodup

/-- Odoo's variants may be without a barcode. -/
structure OdooSound (variants : List OdooVariant) (checkBarcodes : Bool) : Prop where
  referenced : ∀ variant ∈ variants, variant.ref ≠ ""
  references : (variants.map OdooVariant.ref).Nodup
  barcodes : checkBarcodes = true →
    ((variants.filter fun variant => variant.barcode ≠ "").map OdooVariant.barcode).Nodup

theorem mapM_eq_ok_nil {ε α β : Type} {list : List α} {next : α → Except ε β} :
    list.mapM next = .ok [] ↔ list = [] := by
  cases list with
  | nil => exact iff_of_true rfl rfl
  | cons head tail =>
      refine iff_of_false (fun done => ?_) (List.cons_ne_nil _ _)
      rw [List.mapM_cons, bind_eq_ok_iff] at done
      obtain ⟨value, -, done⟩ := done
      obtain ⟨values, -, done⟩ := bind_eq_ok_iff.mp done
      cases done

variable {hub : TemplateHub} {checkBarcodes : Bool}

theorem groupByParent_iff {variants : List ProductTuple} :
    hub.groupByParent variants = .ok [] ↔ variants = [] := by
  rw [TemplateHub.groupByParent, bind_eq_ok_iff]
  constructor
  · rintro ⟨parents, found, done⟩
    have none := Dict.groupBy_entries_eq_nil.mp (List.map_eq_nil_iff.mp (Except.ok.inj done))
    subst none
    exact mapM_eq_ok_nil.mp found
  · rintro rfl
    exact ⟨[], rfl, rfl⟩

theorem emptyReferences_iff :
    hub.getProductsWithEmptyReferences.1 = [] ∧ hub.getProductsWithEmptyReferences.2 = [] ↔
      ∀ product ∈ hub, product.ref ≠ "" ∨ product.skipRef = true := by
  simp only [TemplateHub.getProductsWithEmptyReferences, List.filter_eq_nil_iff, List.mem_filter,
    and_imp]
  constructor
  · intro none product member
    by_contra neither
    rw [not_or, not_not] at neither
    have empty : (product.ref = "" && !product.skipRef) = true := by simp [neither]
    cases kind : product.isVariant with
    | false => exact none.1 product member empty (by simp [kind])
    | true => exact none.2 product member empty kind
  · intro all
    have absent (product : ProductTuple) (member : product ∈ hub) :
        ¬ (decide (product.ref = "") && !product.skipRef) = true := by
      rcases all product member with given | skipped
      · simp [given]
      · simp [skipped]
    exact ⟨fun product member empty => absurd empty (absent product member),
      fun product member empty => absurd empty (absent product member)⟩

theorem repeatedConfigurations_iff : hub.getProductsWithRepeatedConfigurations = .ok [] ↔
    ((hub.filter ProductTuple.isVariant).map ProductTuple.id).Nodup := by
  rw [TemplateHub.getProductsWithRepeatedConfigurations, mapM_eq_ok_nil,
    Dict.largeGroups_eq_nil_iff,
    ← Dict.nodup_map_iff]
  exact ((sortedBy_perm ProductTuple.id _).map ProductTuple.id).nodup_iff

theorem mem_getVariants {product : ProductTuple} :
    product ∈ hub.getVariants ↔ product ∈ hub.filter ProductTuple.isVariant :=
  (sortedBy_perm ProductTuple.id _).mem_iff

theorem noBarcodesOnVariants_iff : hub.getProductsWithNoBarcodesOnVariants = .ok [] ↔
    ∀ product ∈ hub.filter ProductTuple.isVariant, product.barcode ≠ "" := by
  rw [TemplateHub.getProductsWithNoBarcodesOnVariants, groupByParent_iff, List.filter_eq_nil_iff]
  simp only [mem_getVariants, decide_eq_true_eq, ne_eq]

/-- No variant is without a barcode where all have one. -/
theorem partialBarcodes_of_all
    (all : ∀ product ∈ hub.filter ProductTuple.isVariant, product.barcode ≠ "") :
    hub.getProductsWithPartialBarcodes = [] := by
  have none : (Dict.groupBy ProductTuple.parentId hub.getVariants).entries.filter (fun entry =>
      (entry.2.any fun product => product.barcode ≠ "") &&
        !entry.2.all fun product => product.barcode ≠ "") = [] := by
    refine List.filter_eq_nil_iff.mpr fun entry member => ?_
    have full : (entry.2.all fun product => product.barcode ≠ "") = true := by
      refine List.all_eq_true.mpr fun product inside => decide_eq_true ?_
      rw [(Dict.mem_groupBy_entries member).2] at inside
      exact all product (mem_getVariants.mp (List.mem_of_mem_filter inside))
    rw [full]
    simp
  rw [TemplateHub.getProductsWithPartialBarcodes, none]
  exact List.filter_false _

theorem duplicateBarcodes_iff : hub.getProductsWithDuplicateBarcodes = [] ↔
    ((hub.filter fun product => product.barcode ≠ "").map ProductTuple.barcode).Nodup := by
  rw [TemplateHub.getProductsWithDuplicateBarcodes, Dict.largeGroups_eq_nil_iff,
    ← Dict.nodup_map_iff]

/-- Where templates have no reference, the references distinguish the variants. -/
theorem duplicateReferences_variants
    (unique : ((hub.filter fun product => !product.isVariant).map ProductTuple.id).Nodup)
    (once : ((hub.filter ProductTuple.isVariant).map ProductTuple.id).Nodup)
    (plain : ∀ product ∈ hub, product.isVariant = false → product.ref = "")
    (referenced : ∀ product ∈ hub.filter ProductTuple.isVariant, product.ref ≠ "") :
    hub.getProductsWithDuplicateReferences = .ok [] ↔
      ((hub.filter ProductTuple.isVariant).map ProductTuple.ref).Nodup := by
  rw [TemplateHub.duplicateReferences_iff unique once, Dict.nodup_map_iff]
  refine forall_congr' fun reference => ?_
  have both : ((hub.filter ProductTuple.isVariant).filter fun product =>
      product.ref = reference) =
      hub.filter fun product => product.ref = reference && product.isVariant :=
    List.filter_filter
  rw [both]
  constructor
  · intro distinguishes
    by_cases given : reference = ""
    · have none :
          (hub.filter fun product => product.ref = reference && product.isVariant) = [] := by
        refine List.filter_eq_nil_iff.mpr fun product member found => ?_
        obtain ⟨empty, kind⟩ : product.ref = reference ∧ product.isVariant = true := by
          simpa using found
        exact referenced product (List.mem_filter.mpr ⟨member, kind⟩) (empty.trans given)
      rw [none]
      exact Nat.zero_le 1
    · exact (distinguishes given).variants
  · intro few given
    refine ⟨few, ?_, fun template member same kind => ?_⟩
    · have none : (hub.filter fun product => product.ref = reference && !product.isVariant) =
          [] := by
        refine List.filter_eq_nil_iff.mpr fun product member found => ?_
        obtain ⟨same, kind⟩ : product.ref = reference ∧ product.isVariant = false := by
          simpa using found
        exact given (same.symm.trans (plain product member kind))
      rw [none]
      exact Nat.zero_le 1
    · exact absurd (same.symm.trans (plain template member kind)) given

/-! ## The hubs of the store and of Odoo -/

/-- A hub in which templates are there for their variants only. -/
structure IsStore (hub : TemplateHub) : Prop where
  unique : ((hub.filter fun product => !product.isVariant).map ProductTuple.id).Nodup
  template : ∀ product ∈ hub, product.isVariant = false →
    product.ref = "" ∧ product.barcode = "" ∧ product.skipRef = true
  variant : ∀ product ∈ hub, product.isVariant = true → product.skipRef = false
  separate : ∀ product ∈ hub, product.jointNamespace = false

theorem mem_validationData {templates : List StoreProduct} {id : ℕ} {products : List ProductTuple}
    (member : (id, products) ∈ (validationData templates).entries) :
    ∃ template ∈ templates, template.id = id ∧
      products = template.serializeForValidationTest := by
  have found := (Dict.get?_eq_some_iff _ _ _).mpr member
  rw [validationData, Dict.get?_updateAll, Dict.get?_empty] at found
  obtain none | ⟨front, last, split⟩ := List.eq_nil_or_concat
    (templates.filter fun template => template.id = id)
  · rw [none] at found
    cases found
  · have kept : last ∈ templates.filter fun template => template.id = id := by simp [split]
    obtain ⟨listed, same⟩ := List.mem_filter.mp kept
    rw [split, List.concat_eq_append, List.foldl_append] at found
    exact ⟨last, listed, of_decide_eq_true same, (Option.some.inj found).symm⟩

/-- What the store serializes are its templates and their variants. -/
theorem mem_validationTest {templates : List StoreProduct} {product : ProductTuple}
    (member : product ∈ getTemplatesAndProductsForValidationTest templates) :
    ∃ template ∈ templates, product = template.serializeTemplateForTest ∨
      ∃ variant ∈ template.variants, product = variant.serializeVariantForTest := by
  obtain ⟨products, listed, inside⟩ := List.mem_flatten.mp member
  obtain ⟨⟨id, _⟩, entry, rfl⟩ := List.mem_map.mp listed
  obtain ⟨template, among, -, rfl⟩ := mem_validationData entry
  refine ⟨template, among, (List.mem_cons.mp inside).imp_right fun variant => ?_⟩
  obtain ⟨own, listed, rfl⟩ := List.mem_map.mp variant
  exact ⟨own, listed, rfl⟩

/-- Under each id there is one template. -/
theorem templateIds_validationData {templates : List StoreProduct} {entry : ℕ × List ProductTuple}
    (member : entry ∈ (validationData templates).entries) :
    (entry.2.filter fun product => !product.isVariant).map ProductTuple.id = [entry.1] := by
  obtain ⟨template, -, same, products⟩ := mem_validationData member
  have variants : ((template.variants.map StoreVariant.serializeVariantForTest).filter
      fun product => !product.isVariant) = [] := by
    refine List.filter_eq_nil_iff.mpr fun product listed => ?_
    obtain ⟨variant, -, rfl⟩ := List.mem_map.mp listed
    exact Bool.false_ne_true
  rw [products, StoreProduct.serializeForValidationTest, List.filter_cons_of_pos rfl, variants,
    ← same]
  rfl

theorem templateIds_validationTest (templates : List StoreProduct) :
    ((getTemplatesAndProductsForValidationTest templates).filter fun product =>
      !product.isVariant).map ProductTuple.id = (validationData templates).keys := by
  calc ((getTemplatesAndProductsForValidationTest templates).filter fun product =>
        !product.isVariant).map ProductTuple.id
      = (validationData templates).entries.flatMap fun entry =>
          (entry.2.filter fun product => !product.isVariant).map ProductTuple.id := by
        rw [getTemplatesAndProductsForValidationTest, List.filter_flatten, List.map_flatten,
          List.map_map, Dict.values, List.map_map, ← List.flatMap_def]
        rfl
    _ = (validationData templates).entries.flatMap fun entry => [entry.1] :=
        List.flatMap_congr fun _ => templateIds_validationData
    _ = (validationData templates).keys := List.flatMap_pure_eq_map _ _

theorem isStore_validationTest (templates : List StoreProduct) :
    IsStore (getTemplatesAndProductsForValidationTest templates) := by
  constructor
  case unique =>
    rw [templateIds_validationTest]
    exact (validationData templates).keys_nodup
  case template =>
    intro product member kind
    obtain ⟨template, -, rfl | ⟨variant, -, rfl⟩⟩ := mem_validationTest member
    · exact ⟨rfl, rfl, rfl⟩
    · cases kind
  case variant =>
    intro product member kind
    obtain ⟨template, -, rfl | ⟨variant, -, rfl⟩⟩ := mem_validationTest member
    · cases kind
    · rfl
  case separate =>
    intro product member
    obtain ⟨template, -, rfl | ⟨variant, -, rfl⟩⟩ := mem_validationTest member
    · rfl
    · rfl

theorem checkHubBarcodes_iff : checkHubBarcodes hub = .ok ([], [], []) ↔
    (∀ product ∈ hub.filter ProductTuple.isVariant, product.barcode ≠ "") ∧
      ((hub.filter fun product => product.barcode ≠ "").map ProductTuple.barcode).Nodup := by
  rw [checkHubBarcodes, bind_eq_ok_iff, ← duplicateBarcodes_iff, ← noBarcodesOnVariants_iff]
  constructor
  · rintro ⟨without, found, done⟩
    obtain ⟨-, duplicates, none⟩ : hub.getProductsWithPartialBarcodes = [] ∧
        hub.getProductsWithDuplicateBarcodes = [] ∧ without = [] := by
      simpa using Except.ok.inj done
    exact ⟨none ▸ found, duplicates⟩
  · rintro ⟨found, duplicates⟩
    refine ⟨[], found, ?_⟩
    rw [partialBarcodes_of_all (noBarcodesOnVariants_iff.mp found), duplicates]
    rfl

/-- Where templates have no barcode, those that have one are variants. -/
theorem filter_barcode (store : IsStore hub)
    (all : ∀ product ∈ hub.filter ProductTuple.isVariant, product.barcode ≠ "") :
    (hub.filter fun product => product.barcode ≠ "") = hub.filter ProductTuple.isVariant := by
  refine List.filter_congr fun product member => ?_
  cases kind : product.isVariant with
  | true =>
      have given := all product (List.mem_filter.mpr ⟨member, kind⟩)
      simp [given]
  | false => simp [(store.template product member kind).2.1]

/-- The templates of a store have no configurations of their own. -/
theorem nestedConfigurations_store (store : IsStore hub) :
    hub.getProductsWithNestedConfigurations = .ok [] := by
  rw [TemplateHub.getProductsWithNestedConfigurations, groupByParent_iff, List.filter_eq_nil_iff]
  intro variant _
  have none : hub.getTemplates.filter ProductTuple.jointNamespace = [] := by
    refine List.filter_eq_nil_iff.mpr fun template member => ?_
    have listed := List.mem_of_mem_filter ((sortedBy_perm ProductTuple.id _).mem_iff.mp member)
    rw [store.separate template listed]
    exact Bool.false_ne_true
  rw [none]
  exact Bool.false_ne_true

theorem emptyReferences_store (store : IsStore hub) :
    (hub.getProductsWithEmptyReferences.1 = [] ∧ hub.getProductsWithEmptyReferences.2 = []) ↔
      ∀ product ∈ hub.filter ProductTuple.isVariant, product.ref ≠ "" := by
  rw [emptyReferences_iff]
  constructor
  · intro all product member
    obtain ⟨listed, kind⟩ := List.mem_filter.mp member
    refine (all product listed).resolve_right fun skipped => ?_
    rw [store.variant product listed kind] at skipped
    cases skipped
  · intro all product member
    cases kind : product.isVariant with
    | true => exact .inl (all product (List.mem_filter.mpr ⟨member, kind⟩))
    | false => exact .inr (store.template product member kind).2.2

theorem barcodeFindings_store (store : IsStore hub) :
    barcodeFindings checkBarcodes hub = .ok ([], [], []) ↔
      (checkBarcodes = true →
        (∀ product ∈ hub.filter ProductTuple.isVariant, product.barcode ≠ "") ∧
          ((hub.filter ProductTuple.isVariant).map ProductTuple.barcode).Nodup) := by
  rw [barcodeFindings]
  cases checkBarcodes with
  | false => simp
  | true =>
      rw [if_pos rfl, checkHubBarcodes_iff, imp_iff_right rfl]
      exact and_congr_right fun all => by rw [filter_barcode store all]

/-- The checks of the products of a store. -/
theorem storeSound_iff (store : IsStore hub) :
    (hub.getProductsWithRepeatedConfigurations = .ok [] ∧
      hub.getProductsWithNestedConfigurations = .ok [] ∧
      hub.getProductsWithDuplicateReferences = .ok [] ∧
      barcodeFindings checkBarcodes hub = .ok ([], [], []) ∧
      hub.getProductsWithEmptyReferences.1 = [] ∧ hub.getProductsWithEmptyReferences.2 = []) ↔
      StoreSound (hub.filter ProductTuple.isVariant) checkBarcodes := by
  have plain (product : ProductTuple) (member : product ∈ hub) (kind : product.isVariant = false) :=
    (store.template product member kind).1
  rw [repeatedConfigurations_iff, and_iff_right (nestedConfigurations_store store),
    barcodeFindings_store store, emptyReferences_store store]
  constructor
  · rintro ⟨once, duplicates, barcoded, referenced⟩
    exact ⟨once, referenced,
      (duplicateReferences_variants store.unique once plain referenced).mp duplicates,
      fun check => (barcoded check).1, fun check => (barcoded check).2⟩
  · rintro ⟨once, referenced, references, barcoded, distinct⟩
    exact ⟨once, (duplicateReferences_variants store.unique once plain referenced).mpr references,
      fun check => ⟨barcoded check, distinct check⟩, referenced⟩

/-! ## The products of Odoo -/

theorem filter_fromOdoo (odoo : OdooVariants) :
    (fromOdoo odoo).filter ProductTuple.isVariant = fromOdoo odoo :=
  List.filter_eq_self.mpr fun product member => by
    obtain ⟨row, -, rfl⟩ := List.mem_map.mp member
    rfl

theorem templates_fromOdoo (odoo : OdooVariants) :
    ((fromOdoo odoo).filter fun product => !product.isVariant) = [] := by
  refine List.filter_eq_nil_iff.mpr fun product member => ?_
  obtain ⟨row, -, rfl⟩ := List.mem_map.mp member
  exact Bool.false_ne_true

theorem emptyReferences_fromOdoo (odoo : OdooVariants) :
    (fromOdoo odoo).getProductsWithEmptyReferences.2 = [] ↔ ∀ row ∈ odoo.rows, row.ref ≠ "" := by
  have first : (fromOdoo odoo).getProductsWithEmptyReferences.1 = [] := by
    refine List.filter_eq_nil_iff.mpr fun product member => ?_
    obtain ⟨row, -, rfl⟩ := List.mem_map.mp (List.mem_of_mem_filter member)
    exact Bool.false_ne_true
  refine (and_iff_right first).symm.trans ?_
  rw [emptyReferences_iff, fromOdoo, List.forall_mem_map]
  exact forall₂_congr fun row _ => or_iff_left Bool.false_ne_true

theorem duplicateReferences_fromOdoo {odoo : OdooVariants}
    (referenced : ∀ row ∈ odoo.rows, row.ref ≠ "") :
    (fromOdoo odoo).getProductsWithDuplicateReferences = .ok [] ↔
      (odoo.rows.map OdooVariant.ref).Nodup := by
  have once : (((fromOdoo odoo).filter ProductTuple.isVariant).map ProductTuple.id).Nodup := by
    rw [filter_fromOdoo, fromOdoo, List.map_map]
    exact odoo.nodup
  rw [duplicateReferences_variants (by rw [templates_fromOdoo]; exact List.nodup_nil) once,
    filter_fromOdoo, fromOdoo, List.map_map]
  · rfl
  · intro product member kind
    have listed : product ∈ (fromOdoo odoo).filter fun product => !product.isVariant :=
      List.mem_filter.mpr ⟨member, by simp [kind]⟩
    rw [templates_fromOdoo] at listed
    cases listed
  · rw [filter_fromOdoo, fromOdoo, List.forall_mem_map]
    exact referenced

theorem odooSound_iff (odoo : OdooVariants) :
    ((fromOdoo odoo).getProductsWithDuplicateReferences = .ok [] ∧
      (fromOdoo odoo).getProductsWithEmptyReferences.2 = [] ∧
      (if checkBarcodes then (fromOdoo odoo).getProductsWithDuplicateBarcodes else []) = []) ↔
      OdooSound odoo.rows checkBarcodes := by
  have barcodes : (if checkBarcodes then (fromOdoo odoo).getProductsWithDuplicateBarcodes else []) =
      [] ↔ (checkBarcodes = true →
        ((odoo.rows.filter fun row => row.barcode ≠ "").map OdooVariant.barcode).Nodup) := by
    cases checkBarcodes with
    | false => simp
    | true =>
        rw [if_pos rfl, duplicateBarcodes_iff, imp_iff_right rfl, fromOdoo, List.filter_map,
          List.map_map]
        rfl
  rw [emptyReferences_fromOdoo, barcodes]
  constructor
  · rintro ⟨duplicates, referenced, distinct⟩
    exact ⟨referenced, (duplicateReferences_fromOdoo referenced).mp duplicates, distinct⟩
  · rintro ⟨referenced, distinct, barcoded⟩
    exact ⟨(duplicateReferences_fromOdoo referenced).mpr distinct, referenced, barcoded⟩

/-! ## What is reported -/

theorem reported_eq_nil {entries : List ReportEntry} :
    reported entries = [] ↔ ∀ entry ∈ entries, entry.items.isEmpty = true := by
  rw [reported, List.filter_eq_nil_iff]
  simp only [Bool.not_eq_true', Bool.not_eq_false]

theorem ecommerceErrors_eq_nil {refFieldName : String}
    {repeatedConfigurations nestedConfigurations : List (ProductTuple × List ProductTuple)}
    {duplicatedRef : List (String × List ProductTuple)} {barcodes : BarcodeFindings} :
    ecommerceErrors refFieldName hub repeatedConfigurations nestedConfigurations duplicatedRef
        barcodes = [] ↔
      repeatedConfigurations = [] ∧ nestedConfigurations = [] ∧ duplicatedRef = [] ∧
        barcodes = ([], [], []) ∧ hub.getProductsWithEmptyReferences.1 = [] ∧
        hub.getProductsWithEmptyReferences.2 = [] := by
  obtain ⟨partFill, duplicated, without⟩ := barcodes
  rw [ecommerceErrors, reported_eq_nil]
  simp only [List.forall_mem_cons, ReportItems.isEmpty, List.isEmpty_iff, Prod.mk.injEq,
    List.not_mem_nil, false_imp_iff, implies_true, and_true]
  tauto

theorem odooErrors_eq_nil {refFieldName : String}
    {duplicatedRef duplicatedBar : List (String × List ProductTuple)} :
    odooErrors refFieldName hub duplicatedRef duplicatedBar = [] ↔
      duplicatedRef = [] ∧ hub.getProductsWithEmptyReferences.2 = [] ∧ duplicatedBar = [] := by
  rw [odooErrors, reported_eq_nil]
  simp only [List.forall_mem_cons, ReportItems.isEmpty, List.isEmpty_iff, List.not_mem_nil,
    false_imp_iff, implies_true, and_true]
  tauto

end OdooConnector.Catalog
