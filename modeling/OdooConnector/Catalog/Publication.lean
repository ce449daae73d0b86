import OdooConnector.Catalog.PriceBatches

/-!
# Publication of templates

A template is included for every variant with a price rule and excluded for every variant without
one. This is right exactly when no template has variants of both kinds.
-/

namespace OdooConnector.Catalog

namespace CatalogLine

variable {line : CatalogLine} {recordList : List Pair} {batches : List PriceBatch}

/-- The batches include a template exactly when one of its variants is priced, they exclude it
exactly when none is, and every pair is in one batch, as a price to add or a variant to delete. -/
structure Consistent (line : CatalogLine) (recordList : List Pair) (batches : List PriceBatch) :
    Prop where
  included : ∀ template, (∃ batch ∈ batches, template ∈ batch.productToInclude) ↔
    line.IsTemplateOf recordList true template
  excluded : ∀ template, (∃ batch ∈ batches, template ∈ batch.productToExclude) ↔
    line.IsTemplateOf recordList false template ∧ ¬ line.IsTemplateOf recordList true template
  disjoint : ∀ template, ¬ ((∃ batch ∈ batches, template ∈ batch.productToInclude) ∧
    ∃ batch ∈ batches, template ∈ batch.productToExclude)
  distributed : ∃ slices : List (List Pair), slices.flatten = recordList ∧
    List.Forall₂ (fun slice batch => batch.pricesToAdd = slice.filterMap line.priceRow ∧
      batch.variantToDelete = slice.filterMap line.deletedVariant) slices batches
  once : ∀ pair ∈ recordList, (line.deletedVariant pair).isSome = !(line.priceRow pair).isSome

theorem exists_batch_iff {published : PriceBatch → Finset String} {priced : Bool}
    {slices : List (List Pair)}
    (holds : List.Forall₂ (fun slice batch => ∀ template,
      template ∈ published batch ↔ line.IsTemplateOf slice priced template) slices batches)
    (template : String) :
    (∃ batch ∈ batches, template ∈ published batch) ↔
      line.IsTemplateOf slices.flatten priced template := by
  induction holds with
  | nil => simp [IsTemplateOf]
  | cons own _ induction =>
      rw [List.flatten_cons, isTemplateOf_append, ← own, ← induction]
      simp only [List.mem_cons, or_and_right, exists_or, exists_eq_left]

theorem deletedVariant_isSome {pair : Pair} (parts : (splitCode pair.1).isSome = true) :
    (line.deletedVariant pair).isSome = !(line.priceRow pair).isSome := by
  obtain ⟨code, parts⟩ := Option.isSome_iff_exists.mp parts
  rw [deletedVariant, priceRow, isPriced, parts]
  cases (line.preparePrices pair.2).1 with
  | none => rfl
  | some price => rfl

/-- Templates with variants of both kinds are the only ones that are both included and excluded. -/
theorem isTemplateOf_both_iff (priced : ∀ pair ∈ recordList, (splitCode pair.1).isSome = true) :
    (∀ template, ¬ (line.IsTemplateOf recordList true template ∧
        line.IsTemplateOf recordList false template)) ↔
      ∀ first ∈ recordList, ∀ second ∈ recordList,
        (splitCode first.1).map Prod.fst = (splitCode second.1).map Prod.fst →
          line.isPriced first = line.isPriced second := by
  constructor
  · intro apart first member second member' same
    obtain ⟨code, parts⟩ := Option.isSome_iff_exists.mp (priced first member)
    obtain ⟨code', parts'⟩ := Option.isSome_iff_exists.mp (priced second member')
    rw [parts, parts', Option.map_some, Option.map_some, Option.some.injEq] at same
    have template := isTemplateOf_of_mem line member parts
    have template' := isTemplateOf_of_mem line member' parts'
    rw [← same] at template'
    cases kind : line.isPriced first <;> cases kind' : line.isPriced second
    · rfl
    · rw [kind] at template
      rw [kind'] at template'
      exact absurd ⟨template', template⟩ (apart code.1)
    · rw [kind] at template
      rw [kind'] at template'
      exact absurd ⟨template, template'⟩ (apart code.1)
    · rfl
  · rintro uniform template ⟨⟨first, member, yes, variant, parts⟩,
      ⟨second, member', no, variant', parts'⟩⟩
    have same := uniform first member second member' (by rw [parts, parts']; rfl)
    rw [yes, no] at same
    contradiction

/-- The batches are made exactly for codes of two parts, and they are consistent exactly when all
variants of a template have a price rule or none has. -/
theorem createPriceBatches_consistent_iff (line : CatalogLine) (runExport : Bool)
    (recordList : List Pair) :
    (line.createPriceBatches runExport recordList).isSome =
        (recordList.all fun pair => (splitCode pair.1).isSome) ∧
      ∀ batches, line.createPriceBatches runExport recordList = some batches →
        (line.Consistent recordList batches ↔
          ∀ first ∈ recordList, ∀ second ∈ recordList,
            (splitCode first.1).map Prod.fst = (splitCode second.1).map Prod.fst →
              line.isPriced first = line.isPriced second) := by
  refine ⟨isSome_createPriceBatches line runExport recordList, fun batches result => ?_⟩
  have codes : ∀ pair ∈ recordList, (splitCode pair.1).isSome = true := by
    have all := isSome_createPriceBatches line runExport recordList
    rwa [result, Option.isSome_some, eq_comm, List.all_eq_true] at all
  obtain ⟨slices, rfl, holds⟩ := createPriceBatches_spec result
  have included := exists_batch_iff (holds.imp fun _ _ => Holds.included)
  have excluded := exists_batch_iff (holds.imp fun _ _ => Holds.excluded)
  rw [← isTemplateOf_both_iff codes]
  constructor
  · intro consistent template both
    rw [← included, ← excluded] at both
    exact consistent.disjoint template both
  · intro apart
    refine ⟨included, fun template => ?_, fun template => ?_, ⟨slices, rfl, ?_⟩, ?_⟩
    · rw [excluded]
      exact ⟨fun no => ⟨no, fun yes => apart template ⟨yes, no⟩⟩, And.left⟩
    · rw [included, excluded]
      exact apart template
    · exact holds.imp fun _ _ own => ⟨own.prices, own.deleted⟩
    · exact fun pair member => deletedVariant_isSome (codes pair member)

/-! ## A shirt in two sizes -/

/-- Only the first product has a price rule. -/
def summerCatalog : CatalogLine where
  pricelistId := ⟨fun variant => (10, if variant = 1 then some 1 else none)⟩
  pricelistCompareAtId := none
  floatRound price := price
  displayName _ := ""

def shirtBatch : PriceBatch where
  pricesToAdd := [⟨"small", 10, none, 1, ""⟩]
  variantToDelete := ["large"]
  productToInclude := {"shirt"}
  productToExclude := {"shirt"}
  state := none
  batchNumber := 1
  batchCount := 1

/-- The shirt is included for one size and excluded for the other. -/
theorem createPriceBatches_inconsistent :
    ∃ batches, summerCatalog.createPriceBatches true [("shirt-small", 1), ("shirt-large", 2)] =
        some batches ∧
      ¬ summerCatalog.Consistent [("shirt-small", 1), ("shirt-large", 2)] batches := by
  refine ⟨[shirtBatch], ?_, fun consistent => ?_⟩
  · rfl
  · have member : shirtBatch ∈ [shirtBatch] := List.mem_singleton_self _
    exact consistent.disjoint "shirt"
      ⟨⟨shirtBatch, member, by decide⟩, ⟨shirtBatch, member, by decide⟩⟩

/-- A priced shirt and a hat without a price are told apart. -/
theorem createPriceBatches_consistent_two_templates :
    ∃ batches, summerCatalog.createPriceBatches true [("shirt-small", 1), ("hat-large", 2)] =
        some batches ∧
      summerCatalog.Consistent [("shirt-small", 1), ("hat-large", 2)] batches := by
  obtain ⟨made, consistent⟩ := createPriceBatches_consistent_iff summerCatalog true
    [("shirt-small", 1), ("hat-large", 2)]
  obtain ⟨batches, found⟩ := Option.isSome_iff_exists.mp (made.trans (by decide))
  exact ⟨batches, found, (consistent batches found).mpr (by decide)⟩

end CatalogLine

end OdooConnector.Catalog
