import OdooConnector.Library.OneToOne
import OdooConnector.Resource.ExternalCode

/-!
# The product that a template already has in the store

Before a template is exported for the first time, the store is searched for its references. The
product that is found counts as the same one if it has as many variants and each of them has a
reference of the template with the same codes of attribute values. The codes do not always tell
attribute values apart, so that this is not enough for the variants to belong together.
-/

namespace OdooConnector.Resource

inductive ReferenceField
  | sku
  | barcode
  deriving DecidableEq

/-- Serialized variant of a template, with names of options and values. -/
structure OdooVariant where
  reference : Option String
  referenceApiField : ReferenceField
  attributeValues : List (String × String)
  deriving DecidableEq

structure ProductVariant where
  sku : Option String
  barcode : Option String
  selectedOptions : List (String × String)
  deriving DecidableEq

namespace ProductVariant

def reference (variant : ProductVariant) : ReferenceField → Option String
  | .sku => variant.sku
  | .barcode => variant.barcode

def formattedSelectedOptions (variant : ProductVariant) : List (String × String) :=
  variant.selectedOptions.filter fun option =>
    !(option.1 = attributeDefaultTitle ∧ option.2 = attributeDefaultValue)

end ProductVariant

structure StoreProduct where
  title : String
  variants : List ProductVariant
  deriving DecidableEq

/-- What the store answers: the products of the variants that a search for references finds, and the
product of an id. -/
structure StoreContent where
  search : ReferenceField → List (Option String) → List ℕ
  product : ℕ → Option StoreProduct

inductive TemplateError
  | indexError
  | manyProducts (references : List (Option String)) (products : List ℕ)
  | notFound (product : ℕ)
  | countMismatch (shopify odoo product : ℕ)
  | lacksReference (product : ℕ)
  | noOdooVariant (reference : Option String) (product : ℕ)
  | valueMismatch (reference : Option String) (shopify odoo : List String)
  deriving DecidableEq

def sameSet (left right : List String) : Bool :=
  left.all right.contains && right.all left.contains

def lowerCodes (table : CaseTable) (values : List (String × String)) : List String :=
  values.map fun value => table.strLower (formatAttrValueCode value.1 value.2)

/-- The checks of one variant of the product that was found. -/
def checkVariant (table : CaseTable) (field : ReferenceField) (products : List OdooVariant)
    (id : ℕ) (variant : ProductVariant) : Except TemplateError Unit :=
  let reference := variant.reference field
  if !truthy reference then .error (.lacksReference id)
  else match products.find? (·.reference = reference) with
    | none => .error (.noOdooVariant reference id)
    | some current =>
        let odoo := lowerCodes table current.attributeValues
        let shopify := lowerCodes table variant.formattedSelectedOptions
        if sameSet odoo shopify then .ok ()
        else .error (.valueMismatch reference shopify odoo)

/-- `find_existing_template`: id and title of the product. -/
def findExistingTemplate (table : CaseTable) (store : StoreContent)
    (products : List OdooVariant) : Except TemplateError (Option (ℕ × String)) :=
  match products with
  | [] => .error .indexError
  | first :: _ =>
      let field := first.referenceApiField
      let references := products.map (·.reference)
      match store.search field references with
      | [] => .ok none
      | id :: ids =>
          if (id :: ids).dedup.length > 1 then .error (.manyProducts references (id :: ids))
          else match store.product id with
            | none => .error (.notFound id)
            | some product =>
                if references.length ≠ product.variants.length then
                  .error (.countMismatch product.variants.length references.length id)
                else do
                  forM product.variants (checkVariant table field products id)
                  return some (id, product.title)

/-! ## One product -/

/-- Names of option and value agree up to letter case. -/
def SameUpToCase (table : CaseTable) (left right : String × String) : Prop :=
  table.strLower left.1 = table.strLower right.1 ∧ table.strLower left.2 = table.strLower right.2

instance (table : CaseTable) (left right : String × String) :
    Decidable (SameUpToCase table left right) := inferInstanceAs (Decidable (_ ∧ _))

def SameValues (table : CaseTable) (left right : List (String × String)) : Prop :=
  (∀ value ∈ left, ∃ other ∈ right, SameUpToCase table value other) ∧
    ∀ other ∈ right, ∃ value ∈ left, SameUpToCase table value other

instance (table : CaseTable) (left right : List (String × String)) :
    Decidable (SameValues table left right) := inferInstanceAs (Decidable (_ ∧ _))

/-- An Odoo variant and a store variant with one reference and the same attribute values. -/
def SameVariant (table : CaseTable) (field : ReferenceField) (odoo : OdooVariant)
    (variant : ProductVariant) : Prop :=
  odoo.reference = variant.reference field ∧
    SameValues table odoo.attributeValues variant.formattedSelectedOptions

instance (table : CaseTable) (field : ReferenceField) (odoo : OdooVariant)
    (variant : ProductVariant) : Decidable (SameVariant table field odoo variant) :=
  inferInstanceAs (Decidable (_ ∧ _))

/-- The variants of the store have distinct attribute values. -/
def DistinctVariants (table : CaseTable) (product : StoreProduct) : Prop :=
  product.variants.Pairwise fun variant other =>
    ¬ SameValues table variant.formattedSelectedOptions other.formattedSelectedOptions

/-- Each variant of the store has an Odoo variant with its reference and its attribute values. -/
def Recognized (table : CaseTable) (field : ReferenceField) (products : List OdooVariant)
    (product : StoreProduct) : Prop :=
  ∀ variant ∈ product.variants, ∃ odoo ∈ products, SameVariant table field odoo variant

/-- Attribute values of variants with one reference that have one code up to letter case agree up to
letter case. -/
def CodesIdentify (table : CaseTable) (field : ReferenceField) (products : List OdooVariant)
    (product : StoreProduct) : Prop :=
  ∀ odoo ∈ products, ∀ variant ∈ product.variants, odoo.reference = variant.reference field →
    ∀ value ∈ odoo.attributeValues, ∀ other ∈ variant.formattedSelectedOptions,
      table.strLower (formatAttrValueCode value.1 value.2) =
        table.strLower (formatAttrValueCode other.1 other.2) → SameUpToCase table value other

variable {table : CaseTable} {field : ReferenceField} {products : List OdooVariant}
  {product : StoreProduct} {store : StoreContent} {id : ℕ}

theorem SameUpToCase.symm {left right : String × String} (same : SameUpToCase table left right) :
    SameUpToCase table right left := ⟨same.1.symm, same.2.symm⟩

theorem SameUpToCase.trans {left middle right : String × String}
    (first : SameUpToCase table left middle) (second : SameUpToCase table middle right) :
    SameUpToCase table left right := ⟨first.1.trans second.1, first.2.trans second.2⟩

/-- Values that agree with the same values agree. -/
theorem SameValues.of_common {common left right : List (String × String)}
    (first : SameValues table common left) (second : SameValues table common right) :
    SameValues table left right := by
  constructor
  · intro value member
    obtain ⟨middle, listed, same⟩ := first.2 value member
    obtain ⟨other, among, also⟩ := second.1 middle listed
    exact ⟨other, among, same.symm.trans also⟩
  · intro other member
    obtain ⟨middle, listed, same⟩ := second.2 other member
    obtain ⟨value, among, also⟩ := first.1 middle listed
    exact ⟨value, among, also.symm.trans same⟩

theorem forM_eq_ok_iff {α ε : Type} {check : α → Except ε Unit} {list : List α} :
    forM list check = .ok () ↔ ∀ element ∈ list, check element = .ok () := by
  induction list with
  | nil => simp [pure, Except.pure]
  | cons head tail induction =>
      rw [List.forM_cons, List.forall_mem_cons, ← induction]
      cases check head with
      | error error => simp [bind, Except.bind]
      | ok value => simp [bind, Except.bind]

/-- What has been checked of a product that is returned. -/
structure Checked (table : CaseTable) (field : ReferenceField) (products : List OdooVariant)
    (id : ℕ) (product : StoreProduct) : Prop where
  count : products.length = product.variants.length
  variants : ∀ variant ∈ product.variants, checkVariant table field products id variant = .ok ()

theorem checked_of_found {first : OdooVariant} {rest : List OdooVariant} {title : String}
    (found : store.product id = some product)
    (returned : findExistingTemplate table store (first :: rest) = .ok (some (id, title))) :
    Checked table first.referenceApiField (first :: rest) id product := by
  simp only [findExistingTemplate] at returned
  cases searched : store.search first.referenceApiField ((first :: rest).map (·.reference)) with
  | nil => rw [searched] at returned; cases returned
  | cons other ids =>
      rw [searched] at returned
      dsimp only at returned
      split_ifs at returned with many
      cases read : store.product other with
      | none => rw [read] at returned; cases returned
      | some content =>
          rw [read] at returned
          dsimp only at returned
          split_ifs at returned with count
          cases checks : forM content.variants
              (checkVariant table first.referenceApiField (first :: rest) other) with
          | error error => rw [checks] at returned; cases returned
          | ok done =>
              rw [checks] at returned
              cases returned
              rw [found, Option.some_inj] at read
              subst read
              rw [not_not, List.length_map] at count
              exact ⟨count, forM_eq_ok_iff.mp checks⟩

theorem mem_of_sameSet {left right : List String} (same : sameSet left right = true) :
    (∀ text ∈ left, text ∈ right) ∧ ∀ text ∈ right, text ∈ left := by
  rw [sameSet, Bool.and_eq_true, List.all_eq_true, List.all_eq_true] at same
  exact ⟨fun text member => List.contains_iff_mem.mp (same.1 text member),
    fun text member => List.contains_iff_mem.mp (same.2 text member)⟩

/-- The first Odoo variant with the reference of a checked variant has its codes. -/
theorem exists_of_checkVariant {variant : ProductVariant}
    (checked : checkVariant table field products id variant = .ok ()) :
    ∃ odoo ∈ products, odoo.reference = variant.reference field ∧
      sameSet (lowerCodes table odoo.attributeValues)
        (lowerCodes table variant.formattedSelectedOptions) = true := by
  rw [checkVariant] at checked
  dsimp only at checked
  split_ifs at checked
  cases found : products.find? (·.reference = variant.reference field) with
  | none => rw [found] at checked; cases checked
  | some odoo =>
      rw [found] at checked
      dsimp only at checked
      split_ifs at checked with same
      have reference := List.find?_some found
      exact ⟨odoo, List.mem_of_find?_eq_some found, of_decide_eq_true reference, same⟩

/-- Codes that identify the attribute values make the check a comparison of these. -/
theorem recognized_of_codesIdentify (checked : Checked table field products id product)
    (identify : CodesIdentify table field products product) :
    Recognized table field products product := by
  intro variant listed
  obtain ⟨odoo, member, reference, codes⟩ :=
    exists_of_checkVariant (checked.variants variant listed)
  have own := identify odoo member variant listed reference
  obtain ⟨front, back⟩ := mem_of_sameSet codes
  refine ⟨odoo, member, reference, fun value among => ?_, fun other among => ?_⟩
  · obtain ⟨other, listed, same⟩ := List.mem_map.mp (front _ (List.mem_map_of_mem among))
    exact ⟨other, listed, own value among other listed same.symm⟩
  · obtain ⟨value, listed, same⟩ := List.mem_map.mp (back _ (List.mem_map_of_mem among))
    exact ⟨value, listed, own value listed other among same⟩

/-- A product with as many variants is the same one as soon as each variant is recognized. -/
theorem matched_iff_recognized (count : products.length = product.variants.length)
    (distinct : DistinctVariants table product) :
    Matched (SameVariant table field) products product.variants ↔
      Recognized table field products product := by
  refine ⟨Matched.covered, fun recognized => matched_of_length count recognized ?_⟩
  refine distinct.imp fun differ odoo same also => ?_
  exact differ (same.2.of_common also.2)

/-- The product that is returned is the same one exactly when each of its variants has an Odoo
variant with its reference and its attribute values, not just their codes; it is if the codes
identify the attribute values. -/
theorem existing_template_same_iff (table : CaseTable) (store : StoreContent) (first : OdooVariant)
    (rest : List OdooVariant) (id : ℕ) (title : String) (product : StoreProduct)
    (returned : findExistingTemplate table store (first :: rest) = .ok (some (id, title)))
    (found : store.product id = some product) (distinct : DistinctVariants table product) :
    (Matched (SameVariant table first.referenceApiField) (first :: rest) product.variants ↔
        Recognized table first.referenceApiField (first :: rest) product) ∧
      (CodesIdentify table first.referenceApiField (first :: rest) product →
        Recognized table first.referenceApiField (first :: rest) product) := by
  have checked := checked_of_found found returned
  exact ⟨matched_iff_recognized checked.count distinct, recognized_of_codesIdentify checked⟩

/-- A shoe of one variant, in the store with another option of the same code. -/
def shoe : OdooVariant where
  reference := some "SHOE"
  referenceApiField := .sku
  attributeValues := [("Size", "EU-42")]

def shoeStore (options : List (String × String)) : StoreContent where
  search _ _ := [7]
  product id := if id = 7 then some ⟨"Shoe", [⟨some "SHOE", none, options⟩]⟩ else none

theorem distinct_of_single (title : String) (variant : ProductVariant) :
    DistinctVariants table ⟨title, [variant]⟩ := List.pairwise_singleton _ variant

/-- The same shoe is found. -/
theorem shoe_found :
    Matched (SameVariant .ascii .sku) [shoe] [⟨some "SHOE", none, [("size", "EU-42")]⟩] := by
  refine (existing_template_same_iff .ascii (shoeStore [("size", "EU-42")]) shoe [] 7 "Shoe"
    ⟨"Shoe", [⟨some "SHOE", none, [("size", "EU-42")]⟩]⟩ (by decide +kernel) rfl
    (distinct_of_single _ _)).1.mpr ?_
  intro variant member
  rw [List.mem_singleton.mp member]
  exact ⟨shoe, List.mem_cons_self, by decide +kernel⟩

/-- A product is returned whose only variant has another option. -/
theorem shifted_template_returned :
    findExistingTemplate .ascii (shoeStore [("Size-EU", "42")]) [shoe] = .ok (some (7, "Shoe")) ∧
      DistinctVariants .ascii ⟨"Shoe", [⟨some "SHOE", none, [("Size-EU", "42")]⟩]⟩ ∧
      ¬ Matched (SameVariant .ascii .sku) [shoe] [⟨some "SHOE", none, [("Size-EU", "42")]⟩] := by
  refine ⟨by decide +kernel, distinct_of_single _ _, fun matched => ?_⟩
  obtain ⟨odoo, member, same⟩ := matched.covered _ List.mem_cons_self
  rw [List.mem_singleton.mp member] at same
  revert same
  decide +kernel

end OdooConnector.Resource
