import OdooConnector.Library.Dict
import OdooConnector.Library.SortedGroups

/-!
# Products that are to be validated

Templates and variants of a store are listed together and grouped by what they have in common. A
template may share its reference with its only variant.
-/

namespace OdooConnector.Catalog

/-- What the validation reads of a template or of a variant, which has a parent. Identifiers are
numbers. -/
structure ProductTuple where
  id : ℕ
  barcode : String
  ref : String
  parentId : Option ℕ
  skipRef : Bool
  jointNamespace : Bool
deriving DecidableEq

namespace ProductTuple

variable (product : ProductTuple)

def isVariant : Bool := product.parentId.isSome

end ProductTuple

inductive ValidationError where
  | value (message : String)
  | user (message : String)
deriving DecidableEq

abbrev TemplateHub := List ProductTuple

namespace TemplateHub

variable (hub : TemplateHub)

def getTemplates : List ProductTuple :=
  sortedBy ProductTuple.id (hub.filter fun product => !product.isVariant)

def getVariants : List ProductTuple :=
  sortedBy ProductTuple.id (hub.filter ProductTuple.isVariant)

/-- Templates of which some variants have a barcode and others have none. -/
def getProductsWithPartialBarcodes : List ProductTuple :=
  let partFilled := (Dict.groupBy ProductTuple.parentId hub.getVariants).entries.filter fun entry =>
    (entry.2.any fun product => product.barcode ≠ "") &&
      !entry.2.all fun product => product.barcode ≠ ""
  hub.filter fun product => (partFilled.any fun entry => entry.1 = some product.id)

def getProductsWithEmptyReferences : List ProductTuple × List ProductTuple :=
  let empty := hub.filter fun product => product.ref = "" && !product.skipRef
  (empty.filter fun product => !product.isVariant, empty.filter ProductTuple.isVariant)

def findRecordById (recId : ℕ) : Except ValidationError ProductTuple :=
  match hub.find? fun product => product.id = recId with
  | some product => .ok product
  | none => .error (.value ("Parent record not found for id: " ++ toString recId))

/-- The parent of a variant. -/
def parentOf (variant : ProductTuple) : Except ValidationError ProductTuple :=
  match variant.parentId with
  | some parentId => hub.findRecordById parentId
  | none => .error (.value "Parent record not found for id: ")

/-- Variants that are listed more than once, each with its parents. -/
def getProductsWithRepeatedConfigurations :
    Except ValidationError (List (ProductTuple × List ProductTuple)) :=
  (Dict.largeGroups ProductTuple.id 2 hub.getVariants).mapM fun entry => do
    let record ← hub.findRecordById entry.1
    let parents ← entry.2.mapM hub.parentOf
    return (record, parents)

def getRepeatedProductIds : Except ValidationError (List ℕ) :=
  hub.getProductsWithRepeatedConfigurations.map fun repeated =>
    repeated.map fun entry => entry.1.id

/-- The template that need not be told from the variants: its reference is that of its only variant,
or of several variants, which are reported themselves. -/
def templateToSkip : List ProductTuple → List ProductTuple → Option ℕ
  | [template], [variant] =>
      if variant.parentId = some template.id then some template.id else none
  | [template], _ => some template.id
  | _, _ => none

/-- The template of a group with one reference that is skipped. -/
def skippedTemplate (recordList : List ProductTuple) : Option ℕ :=
  templateToSkip (recordList.filter fun product => !product.isVariant)
    (recordList.filter ProductTuple.isVariant)

/-- The products that may not be told apart by their references. -/
def duplicateReferences (repeatedIds : List ℕ) : List (String × List ProductTuple) :=
  let products := hub.filter fun product => product.ref ≠ "" && product.id ∉ repeatedIds
  let templatesToSkipIds :=
    (Dict.largeGroups ProductTuple.ref 2 products).filterMap fun entry => skippedTemplate entry.2
  let kept := products.filter fun product =>
    product.id ∉ templatesToSkipIds || product.isVariant
  Dict.largeGroups ProductTuple.ref 2 kept

def getProductsWithDuplicateReferences :
    Except ValidationError (List (String × List ProductTuple)) :=
  hub.getRepeatedProductIds.map hub.duplicateReferences

def getProductsWithDuplicateBarcodes : List (String × List ProductTuple) :=
  Dict.largeGroups ProductTuple.barcode 2 (hub.filter fun product => product.barcode ≠ "")

/-- The variants with each parent. -/
def groupByParent (variants : List ProductTuple) :
    Except ValidationError (List (ProductTuple × List ProductTuple)) := do
  let parents ← variants.mapM fun variant => do
    let parent ← hub.parentOf variant
    return (parent, variant)
  return (Dict.groupBy Prod.fst parents).entries.map fun entry => (entry.1, entry.2.map Prod.snd)

def getProductsWithNoBarcodesOnVariants :
    Except ValidationError (List (ProductTuple × List ProductTuple)) :=
  hub.groupByParent (hub.getVariants.filter fun variant => variant.barcode = "")

/-- Variants that are templates as well. -/
def getProductsWithNestedConfigurations :
    Except ValidationError (List (ProductTuple × List ProductTuple)) :=
  let templates := hub.getTemplates.filter ProductTuple.jointNamespace
  hub.groupByParent (hub.getVariants.filter fun variant =>
    templates.any fun template => template.id = variant.id)

/-! ## Duplicates -/

/-- Which products may share a reference: a template and its only variant. -/
structure Distinguishes (reference : String) : Prop where
  variants : (hub.filter fun product => product.ref = reference && product.isVariant).length ≤ 1
  templates : (hub.filter fun product => product.ref = reference && !product.isVariant).length ≤ 1
  own : ∀ template ∈ hub, template.ref = reference → template.isVariant = false →
    ∀ variant ∈ hub, variant.ref = reference → variant.isVariant = true →
      variant.parentId = some template.id

variable {hub} {reference : String} {template product : ProductTuple}

theorem getRepeatedProductIds_of_nodup
    (once : ((hub.filter ProductTuple.isVariant).map ProductTuple.id).Nodup) :
    hub.getProductsWithRepeatedConfigurations = .ok [] := by
  have none : Dict.largeGroups ProductTuple.id 2 hub.getVariants = [] := by
    rw [Dict.largeGroups_eq_nil_iff, ← Dict.nodup_map_iff]
    exact ((sortedBy_perm ProductTuple.id _).map ProductTuple.id).nodup_iff.mpr once
  rw [getProductsWithRepeatedConfigurations, none]
  rfl

/-- The products with a reference. -/
def sharing (hub : TemplateHub) (reference : String) : List ProductTuple :=
  hub.filter fun product => product.ref = reference

def skippedIds (hub : TemplateHub) : List ℕ :=
  (Dict.largeGroups ProductTuple.ref 2 (hub.filter fun product => product.ref ≠ "")).filterMap
    fun entry => skippedTemplate entry.2

theorem filter_sharing (given : reference ≠ "") :
    ((hub.filter fun product => product.ref ≠ "").filter fun product => product.ref = reference) =
      hub.sharing reference := by
  rw [List.filter_filter, sharing]
  refine List.filter_congr fun product _ => ?_
  by_cases same : product.ref = reference
  · simp [same, given]
  · simp [same]

theorem duplicateReferences_of_nodup
    (once : ((hub.filter ProductTuple.isVariant).map ProductTuple.id).Nodup) :
    hub.getProductsWithDuplicateReferences = .ok (Dict.largeGroups ProductTuple.ref 2
      ((hub.filter fun product => product.ref ≠ "").filter fun product =>
        product.id ∉ hub.skippedIds || product.isVariant)) := by
  have all : (hub.filter fun product => product.ref ≠ "" && product.id ∉ ([] : List ℕ)) =
      hub.filter fun product => product.ref ≠ "" := List.filter_congr fun product _ => by simp
  rw [getProductsWithDuplicateReferences, getRepeatedProductIds,
    getRepeatedProductIds_of_nodup once, Except.map, Except.map, List.map_nil, duplicateReferences,
    all, skippedIds]

theorem mem_of_templateToSkip {templates variants : List ProductTuple} {id : ℕ}
    (skipped : templateToSkip templates variants = some id) :
    ∃ template ∈ templates, template.id = id := by
  match templates, variants with
  | [template], [variant] =>
      rw [templateToSkip] at skipped
      split at skipped
      · exact ⟨template, List.mem_singleton_self _, Option.some.inj skipped⟩
      · cases skipped
  | [template], [] => exact ⟨template, List.mem_singleton_self _, Option.some.inj skipped⟩
  | [template], _ :: _ :: _ =>
      exact ⟨template, List.mem_singleton_self _, Option.some.inj skipped⟩

/-- Where templates are listed once, a template is skipped because of its own reference. -/
theorem mem_skippedIds
    (unique : ((hub.filter fun product => !product.isVariant).map ProductTuple.id).Nodup)
    (listed : template ∈ hub) (isTemplate : template.isVariant = false)
    (given : template.ref ≠ "") :
    template.id ∈ hub.skippedIds ↔ 2 ≤ (hub.sharing template.ref).length ∧
      skippedTemplate (hub.sharing template.ref) = some template.id := by
  rw [skippedIds, List.mem_filterMap]
  constructor
  · rintro ⟨entry, member, skipped⟩
    obtain ⟨same, large⟩ := (Dict.mem_largeGroups Nat.zero_lt_two).mp member
    obtain ⟨other, inside, sameId⟩ := mem_of_templateToSkip skipped
    obtain ⟨inside, isOther⟩ := List.mem_filter.mp inside
    rw [same] at inside
    obtain ⟨inside, ref⟩ := List.mem_filter.mp inside
    have equal : other = template := List.inj_on_of_nodup_map unique
      (List.mem_filter.mpr ⟨(List.mem_filter.mp inside).1, isOther⟩)
      (List.mem_filter.mpr ⟨listed, by simp [isTemplate]⟩) sameId
    have reference : template.ref = entry.1 := equal ▸ of_decide_eq_true ref
    rw [← reference, filter_sharing given] at same
    exact same ▸ ⟨large, skipped⟩
  · rintro ⟨large, skipped⟩
    exact ⟨(template.ref, hub.sharing template.ref),
      (Dict.mem_largeGroups Nat.zero_lt_two).mpr ⟨(filter_sharing given).symm, large⟩, skipped⟩

theorem length_filter_or (list : List ProductTuple) (first second : ProductTuple → Bool) :
    (list.filter fun product => first product || second product).length =
      (list.filter second).length +
        ((list.filter fun product => !second product).filter first).length := by
  rw [List.length_eq_length_filter_add second, List.filter_filter, List.filter_filter,
    List.filter_filter]
  congr 2
  · refine List.filter_congr fun product _ => ?_
    cases second product <;> simp
  · refine List.filter_congr fun product _ => ?_
    cases second product <;> simp

/-- What is left where the template is skipped that may be. -/
theorem skipped_count {templates variants : List ProductTuple} {skippedIds : List ℕ}
    (skipped : ∀ template ∈ templates, template.id ∈ skippedIds ↔
      2 ≤ variants.length + templates.length ∧
        templateToSkip templates variants = some template.id) :
    variants.length + (templates.filter fun product => product.id ∉ skippedIds).length ≤ 1 ↔
      variants.length ≤ 1 ∧ templates.length ≤ 1 ∧ ∀ template ∈ templates,
        ∀ variant ∈ variants, variant.parentId = some template.id := by
  match templates, variants with
  | [], variants => simp
  | [template], [] =>
      have none : template.id ∉ skippedIds := by
        rw [skipped template (List.mem_singleton_self _)]
        simp
      simp [none]
  | [template], [variant] =>
      have rule : template.id ∈ skippedIds ↔ variant.parentId = some template.id := by
        rw [skipped template (List.mem_singleton_self _)]
        simp [templateToSkip]
      by_cases own : variant.parentId = some template.id
      · simp [rule, own]
      · simp [rule, own]
  | [template], first :: second :: rest =>
      simp only [List.length_cons]
      omega
  | first :: second :: rest, variants =>
      have kept : ((first :: second :: rest).filter fun product => product.id ∉ skippedIds) =
          first :: second :: rest := by
        refine List.filter_eq_self.mpr fun template member => ?_
        rw [decide_eq_true_eq, skipped template member]
        exact fun both => nomatch both.2
      rw [kept]
      simp only [List.length_cons]
      omega

theorem templates_sharing :
    (hub.filter fun product => product.ref = reference && !product.isVariant) =
      (hub.sharing reference).filter fun product => !product.isVariant := by
  rw [sharing, List.filter_filter]
  exact List.filter_congr fun product _ => Bool.and_comm _ _

theorem variants_sharing :
    (hub.filter fun product => product.ref = reference && product.isVariant) =
      (hub.sharing reference).filter ProductTuple.isVariant := by
  rw [sharing, List.filter_filter]
  exact List.filter_congr fun product _ => Bool.and_comm _ _

theorem distinguishes_iff : hub.Distinguishes reference ↔
    ((hub.sharing reference).filter ProductTuple.isVariant).length ≤ 1 ∧
      ((hub.sharing reference).filter fun product => !product.isVariant).length ≤ 1 ∧
      ∀ template ∈ (hub.sharing reference).filter fun product => !product.isVariant,
        ∀ variant ∈ (hub.sharing reference).filter ProductTuple.isVariant,
          variant.parentId = some template.id := by
  have own : (∀ template ∈ hub, template.ref = reference → template.isVariant = false →
      ∀ variant ∈ hub, variant.ref = reference → variant.isVariant = true →
        variant.parentId = some template.id) ↔
      ∀ template ∈ (hub.sharing reference).filter fun product => !product.isVariant,
        ∀ variant ∈ (hub.sharing reference).filter ProductTuple.isVariant,
          variant.parentId = some template.id := by
    simp only [sharing, List.mem_filter, decide_eq_true_eq, Bool.not_eq_true', and_imp]
  rw [← own, ← templates_sharing, ← variants_sharing]
  exact ⟨fun holds => ⟨holds.variants, holds.templates, holds.own⟩,
    fun holds => ⟨holds.1, holds.2.1, holds.2.2⟩⟩

/-- A reference is reported unless it distinguishes its products. -/
theorem kept_length_le_iff
    (unique : ((hub.filter fun product => !product.isVariant).map ProductTuple.id).Nodup)
    (given : reference ≠ "") :
    ((hub.sharing reference).filter fun product =>
        product.id ∉ hub.skippedIds || product.isVariant).length ≤ 1 ↔
      hub.Distinguishes reference := by
  have skipped (template : ProductTuple)
      (member : template ∈ (hub.sharing reference).filter fun product => !product.isVariant) :
      template.id ∈ hub.skippedIds ↔ 2 ≤ (hub.sharing reference).length ∧
        skippedTemplate (hub.sharing reference) = some template.id := by
    rw [← templates_sharing, List.mem_filter] at member
    obtain ⟨listed, both⟩ := member
    obtain ⟨same, isTemplate⟩ : template.ref = reference ∧ template.isVariant = false := by
      simpa using both
    subst same
    exact mem_skippedIds unique listed isTemplate given
  have count : ((hub.sharing reference).filter fun product =>
        product.id ∉ hub.skippedIds || product.isVariant).length =
      ((hub.sharing reference).filter ProductTuple.isVariant).length +
        (((hub.sharing reference).filter fun product => !product.isVariant).filter fun product =>
          product.id ∉ hub.skippedIds).length := length_filter_or _ _ _
  have total : (hub.sharing reference).length =
      ((hub.sharing reference).filter ProductTuple.isVariant).length +
        ((hub.sharing reference).filter fun product => !product.isVariant).length :=
    List.length_eq_length_filter_add _
  rw [count, distinguishes_iff]
  refine skipped_count fun template member => ?_
  rw [skipped template member, total, skippedTemplate]

/-- Nothing is reported if and only if the references distinguish the products. -/
theorem duplicateReferences_iff
    (unique : ((hub.filter fun product => !product.isVariant).map ProductTuple.id).Nodup)
    (once : ((hub.filter ProductTuple.isVariant).map ProductTuple.id).Nodup) :
    hub.getProductsWithDuplicateReferences = .ok [] ↔
      ∀ reference, reference ≠ "" → hub.Distinguishes reference := by
  rw [duplicateReferences_of_nodup once, Except.ok.injEq, Dict.largeGroups_eq_nil_iff]
  refine forall_congr' fun reference => ?_
  rw [List.filter_comm]
  by_cases given : reference = ""
  · have none : ((hub.filter fun product => product.ref ≠ "").filter fun product =>
        product.ref = reference) = [] := by
      rw [List.filter_filter, List.filter_eq_nil_iff]
      intro product _
      simp [given]
    rw [none]
    simp [given]
  · rw [filter_sharing given, kept_length_le_iff unique given]
    exact (imp_iff_right given).symm

end TemplateHub

end OdooConnector.Catalog
