import OdooConnector.Library.Fold
import OdooConnector.Resource.ExternalCode
import Mathlib.Data.List.Pairwise

/-!
# Variants of an exported product

An export first brings the options of the product in the store in line, which deletes and creates
variants there. Then the serialized variants are matched with the variants that exist, and those
that have a gid are updated, the others created. A variant that is not matched keeps the gid that
it came with.
-/

namespace OdooConnector.Resource

variable {φ ε : Type}

/-- Option of a product in the store; values with their ids. -/
structure ShopOption where
  name : String
  gid : ℕ
  optionValues : List (String × ℕ)
  deriving DecidableEq

structure ShopVariant where
  gid : ℕ
  externalId : String
  selectedOptions : List (String × String)
  deriving DecidableEq

namespace ShopVariant

/-- The option sets of two variants are equal. -/
def Alike (left right : ShopVariant) : Prop :=
  ∀ option, option ∈ left.selectedOptions ↔ option ∈ right.selectedOptions

end ShopVariant

/-- Product in the store: its variants have ids of their own, and no two have the same options. -/
structure ShopProduct where
  hasOnlyDefaultVariant : Bool
  options : List ShopOption
  variants : List ShopVariant
  distinctGids : (variants.map ShopVariant.gid).Nodup
  distinctOptions : variants.Pairwise fun left right => ¬ left.Alike right

/-- Variant that is exported, with the gid of its mapping and the values of its fields. -/
structure SerializedVariant (φ : Type) where
  gid : Option ℕ
  externalId : Option String
  attributeValues : List (String × String)
  fields : φ

/-- What the mutations of the store do to the product. -/
structure ProductMutations (φ ε : Type) where
  deleteOptions : List ℕ → ShopProduct → Except ε ShopProduct
  deleteOptionValues : ℕ → List ℕ → ShopProduct → Except ε ShopProduct
  createOptions : List (String × List String) → ShopProduct → Except ε ShopProduct
  bulkUpdateVariants : List (ℕ × φ) → ShopProduct → Except ε ShopProduct

/-- Options with all their values in the serialized variants. -/
def exportedOptions (products : List (SerializedVariant φ)) : List (String × List String) :=
  let pairs := products.flatMap (·.attributeValues)
  (keepFirst id (pairs.map Prod.fst)).map fun name =>
    (name, keepFirst id ((pairs.filter (·.1 = name)).map Prod.snd))

/-! ## Options -/

def runOptionsDeleteIfNeeded (mutations : ProductMutations φ ε)
    (attributeValues : List (String × List String)) (product : ShopProduct) :
    Except ε ShopProduct :=
  let deprecated := product.options.filter fun option =>
    !(attributeValues.map Prod.fst).contains option.name
  if deprecated.isEmpty then .ok product
  else mutations.deleteOptions (deprecated.map (·.gid)) product

/-- Values of an option that are not exported any more. -/
def valuesToDelete (attributeValues : List (String × List String)) (option : ShopOption) :
    List ℕ :=
  match attributeValues.find? (·.1 = option.name) with
  | none => []
  | some exported =>
      (option.optionValues.filter fun value => !exported.2.contains value.1).map Prod.snd

def runOptionValuesDeleteIfNeeded (mutations : ProductMutations φ ε)
    (attributeValues : List (String × List String)) (product : ShopProduct) :
    Except ε ShopProduct :=
  product.options.foldlM (fun current option =>
    let deleted := valuesToDelete attributeValues option
    if deleted.isEmpty then .ok current
    else mutations.deleteOptionValues option.gid deleted current) product

def runOptionsCreateIfNeeded (mutations : ProductMutations φ ε)
    (attributeValues : List (String × List String)) (product : ShopProduct) :
    Except ε ShopProduct :=
  let payload := attributeValues.filter fun exported =>
    !(product.options.map (·.name)).contains exported.1
  if payload.isEmpty then .ok product else mutations.createOptions payload product

def updateOptions (mutations : ProductMutations φ ε)
    (attributeValues : List (String × List String)) (product : ShopProduct) :
    Except ε ShopProduct := do
  let kept ← if product.hasOnlyDefaultVariant then pure product
    else do
      let remaining ← runOptionsDeleteIfNeeded mutations attributeValues product
      runOptionValuesDeleteIfNeeded mutations attributeValues remaining
  runOptionsCreateIfNeeded mutations attributeValues kept

/-! ## Matching -/

def sameOptions (left right : List (String × String)) : Bool :=
  left.all right.contains && right.all left.contains

def findSuitableVariantByOptions (product : ShopProduct) (options : List (String × String)) :
    Option ShopVariant :=
  product.variants.find? fun variant => sameOptions variant.selectedOptions options

def SerializedVariant.assign (variant : SerializedVariant φ) (existing : ShopVariant) :
    SerializedVariant φ :=
  { variant with gid := some existing.gid, externalId := some existing.externalId }

/-- The matching step; a single variant is taken by a single exported one, whatever its options. -/
def matchVariants (product : ShopProduct) (products : List (SerializedVariant φ)) :
    List (SerializedVariant φ) :=
  match product.variants with
  | [existing] =>
      if products.length = 1 then products.modifyHead (·.assign existing) else products
  | _ => products.map fun variant =>
      if variant.attributeValues.isEmpty then variant
      else match findSuitableVariantByOptions product variant.attributeValues with
        | some existing => variant.assign existing
        | none => variant

/-- Payload of the bulk update. -/
def variantsToUpdate (products : List (SerializedVariant φ)) : List (ℕ × φ) :=
  products.filterMap fun variant => variant.gid.map fun gid => (gid, variant.fields)

def getOptionIdByName (product : ShopProduct) (name : String) : Option ℕ :=
  (product.options.find? (·.name = name)).map (·.gid)

/-- Payload of the bulk create: values with the ids of their options. -/
def variantsToCreate (product : ShopProduct) (products : List (SerializedVariant φ)) :
    List (φ × List (String × Option ℕ)) :=
  (products.filter (·.gid.isNone)).map fun variant =>
    (variant.fields, variant.attributeValues.map fun value =>
      (value.2, getOptionIdByName product value.1))

/-- What is sent for the variants, and the product that they were matched with. -/
structure VariantsSent (φ : Type) where
  existing : ShopProduct
  matched : List (SerializedVariant φ)
  updates : List (ℕ × φ)
  creates : List (φ × List (String × Option ℕ))

/-- The product after the bulk update, which is left out where there is nothing to update. -/
def bulkUpdateIfAny (mutations : ProductMutations φ ε) (updates : List (ℕ × φ))
    (product : ShopProduct) : Except ε ShopProduct :=
  if updates.isEmpty then .ok product else mutations.bulkUpdateVariants updates product

/-- The part of `_update_product` that is about variants. -/
def updateProduct (mutations : ProductMutations φ ε) (product : ShopProduct)
    (products : List (SerializedVariant φ)) : Except ε (VariantsSent φ) := do
  let existing ← updateOptions mutations (exportedOptions products) product
  let matched := matchVariants existing products
  let updates := variantsToUpdate matched
  let updated ← bulkUpdateIfAny mutations updates existing
  return { existing, matched, updates, creates := variantsToCreate updated matched }

/-! ## What should be sent -/

namespace SerializedVariant

/-- A variant without attributes has the option that stands for none. -/
def optionSet (variant : SerializedVariant φ) : List (String × String) :=
  if variant.attributeValues.isEmpty then [(attributeDefaultTitle, attributeDefaultValue)]
  else variant.attributeValues

def SameOptions (variant : SerializedVariant φ) (existing : ShopVariant) : Prop :=
  ∀ option, option ∈ variant.optionSet ↔ option ∈ existing.selectedOptions

/-- The gid is that of the existing variant with the same options, and there is none if there is no
such variant. -/
structure Right (existing : ShopProduct) (variant : SerializedVariant φ) (gid : Option ℕ) :
    Prop where
  found : ∀ own ∈ existing.variants, variant.SameOptions own → gid = some own.gid
  fresh : (∀ own ∈ existing.variants, ¬ variant.SameOptions own) → gid = none

end SerializedVariant

/-- Variants with the options of an existing one are updated with its gid, all others are created,
no gid is sent twice, and every gid that is sent exists. -/
structure SentRight (products : List (SerializedVariant φ)) (sent : VariantsSent φ) : Prop where
  updated : ∀ (idx : ℕ) (variant : SerializedVariant φ) (own : ShopVariant),
    products[idx]? = some variant → own ∈ sent.existing.variants → variant.SameOptions own →
      ∃ after, sent.matched[idx]? = some after ∧ after.gid = some own.gid ∧
        after.fields = variant.fields
  created : ∀ (idx : ℕ) (variant : SerializedVariant φ), products[idx]? = some variant →
    (∀ own ∈ sent.existing.variants, ¬ variant.SameOptions own) →
      ∃ after, sent.matched[idx]? = some after ∧ after.gid = none ∧
        after.fields = variant.fields ∧ after.attributeValues = variant.attributeValues
  once : (sent.updates.map Prod.fst).Nodup
  known : ∀ gid ∈ sent.updates.map Prod.fst, gid ∈ sent.existing.variants.map ShopVariant.gid
  updates : sent.updates = variantsToUpdate sent.matched
  creates : ∃ product, sent.creates = variantsToCreate product sent.matched

/-- No two serialized variants have the options of one existing variant. A single existing variant
has the options of the only serialized one; where several are serialized, they came with the right
gids. Otherwise the variants without attributes came with the right gid, and those whose options no
variant has came without one. -/
structure MappedRight (existing : ShopProduct) (products : List (SerializedVariant φ)) : Prop where
  rivals : products.Pairwise fun variant rival => ∀ own ∈ existing.variants,
    variant.SameOptions own → ¬ rival.SameOptions own
  single : ∀ own, existing.variants = [own] → ∀ variant, products = [variant] →
    variant.SameOptions own
  several : ∀ own, existing.variants = [own] → products.length ≠ 1 → ∀ variant ∈ products,
    variant.Right existing variant.gid
  stale : existing.variants.length ≠ 1 → ∀ variant ∈ products, variant.attributeValues ≠ [] →
    (∀ own ∈ existing.variants, ¬ variant.SameOptions own) → variant.gid = none
  bare : existing.variants.length ≠ 1 → ∀ variant ∈ products, variant.attributeValues = [] →
    variant.Right existing variant.gid

/-! ## One variant -/

variable {existing : ShopProduct} {products : List (SerializedVariant φ)}
  {variant : SerializedVariant φ} {own : ShopVariant}

/-- The matching step for one of so many serialized variants. -/
def matchOne (existing : ShopProduct) (count : ℕ) (variant : SerializedVariant φ) :
    SerializedVariant φ :=
  match existing.variants with
  | [own] => if count = 1 then variant.assign own else variant
  | _ =>
      if variant.attributeValues.isEmpty then variant
      else match findSuitableVariantByOptions existing variant.attributeValues with
        | some own => variant.assign own
        | none => variant

theorem matchVariants_eq (existing : ShopProduct) (products : List (SerializedVariant φ)) :
    matchVariants existing products = products.map (matchOne existing products.length) := by
  unfold matchVariants matchOne
  cases existing.variants with
  | nil => rfl
  | cons own others =>
      cases others with
      | cons other others => rfl
      | nil =>
          dsimp only
          split_ifs with single
          · obtain ⟨variant, rfl⟩ := List.length_eq_one_iff.mp single
            rfl
          · simp

theorem matchOne_fields (count : ℕ) :
    (matchOne existing count variant).fields = variant.fields ∧
      (matchOne existing count variant).attributeValues = variant.attributeValues := by
  unfold matchOne
  split
  · split_ifs <;> exact ⟨rfl, rfl⟩
  · split_ifs
    · exact ⟨rfl, rfl⟩
    · split <;> exact ⟨rfl, rfl⟩

theorem matchOne_single (alone : existing.variants = [own]) :
    matchOne existing 1 variant = variant.assign own := by
  rw [matchOne, alone]
  rfl

theorem matchOne_several {count : ℕ} (alone : existing.variants = [own]) (several : count ≠ 1) :
    matchOne existing count variant = variant := by
  rw [matchOne, alone]
  exact if_neg several

theorem matchOne_many (count : ℕ) (many : existing.variants.length ≠ 1) :
    matchOne existing count variant =
      if variant.attributeValues.isEmpty then variant
      else match findSuitableVariantByOptions existing variant.attributeValues with
        | some own => variant.assign own
        | none => variant := by
  rw [matchOne]
  cases variants : existing.variants with
  | nil => rfl
  | cons own others =>
      cases others with
      | nil => simp [variants] at many
      | cons other others => rfl

theorem sameOptions_iff {left right : List (String × String)} :
    sameOptions left right = true ↔ ∀ option, option ∈ left ↔ option ∈ right := by
  simp only [sameOptions, Bool.and_eq_true, List.all_eq_true, List.contains_iff_mem]
  exact ⟨fun both option => ⟨both.1 option, both.2 option⟩,
    fun same => ⟨fun option => (same option).mp, fun option => (same option).mpr⟩⟩

/-- No two existing variants have the options of one serialized variant. -/
theorem own_unique {other : ShopVariant} (listed : own ∈ existing.variants)
    (among : other ∈ existing.variants) (same : variant.SameOptions own)
    (also : variant.SameOptions other) : own = other := by
  have : Std.Symm fun left right : ShopVariant => ¬ left.Alike right :=
    ⟨fun left right differ alike => differ fun option => (alike option).symm⟩
  by_contra differ
  refine existing.distinctOptions.forall listed among differ fun option => ?_
  exact (same option).symm.trans (also option)

theorem optionSet_of_ne {variant : SerializedVariant φ}
    (attributes : variant.attributeValues ≠ []) :
    variant.optionSet = variant.attributeValues := by
  rw [SerializedVariant.optionSet, if_neg]
  rwa [List.isEmpty_iff]

/-- A single variant is taken rightly if its options are those of the serialized one. -/
theorem right_single_iff (alone : existing.variants = [own]) :
    variant.Right existing (matchOne existing 1 variant).gid ↔ variant.SameOptions own := by
  have gid : (matchOne existing 1 variant).gid = some own.gid := by
    rw [matchOne_single alone]
    rfl
  rw [gid]
  constructor
  · intro right
    by_contra differ
    have none := right.fresh (by rw [alone]; simpa using differ)
    contradiction
  · intro same
    constructor
    · intro other listed _
      rw [alone, List.mem_singleton] at listed
      rw [listed]
    · intro fresh
      exact absurd same (fresh own (by rw [alone]; exact List.mem_cons_self))

/-- A variant with attributes that is looked for is matched rightly, unless nothing is found and it
came with a gid. -/
theorem right_many_iff (count : ℕ) (many : existing.variants.length ≠ 1)
    (attributes : variant.attributeValues ≠ []) :
    variant.Right existing (matchOne existing count variant).gid ↔
      ((∀ own ∈ existing.variants, ¬ variant.SameOptions own) → variant.gid = none) := by
  have notEmpty : ¬ variant.attributeValues.isEmpty = true := by rwa [List.isEmpty_iff]
  rw [matchOne_many count many, if_neg notEmpty]
  cases found : findSuitableVariantByOptions existing variant.attributeValues with
  | some own =>
      have listed : own ∈ existing.variants := List.mem_of_find?_eq_some found
      have same : variant.SameOptions own := by
        intro option
        rw [optionSet_of_ne attributes]
        have fits := List.find?_some found
        exact ((sameOptions_iff.mp fits) option).symm
      refine iff_of_true ⟨fun other among also => ?_, fun fresh => absurd same (fresh own listed)⟩
        fun fresh => absurd same (fresh own listed)
      rw [own_unique among listed also same]
      rfl
  | none =>
      have fresh : ∀ own ∈ existing.variants, ¬ variant.SameOptions own := by
        intro own listed same
        refine List.find?_eq_none.mp found own listed (sameOptions_iff.mpr fun option => ?_)
        rw [← same option, optionSet_of_ne attributes]
      constructor
      · exact fun right _ => right.fresh fresh
      · exact fun stale => ⟨fun own listed same => absurd same (fresh own listed),
          fun _ => stale fresh⟩

theorem right_bare_iff (count : ℕ) (many : existing.variants.length ≠ 1)
    (bare : variant.attributeValues = []) :
    variant.Right existing (matchOne existing count variant).gid ↔
      variant.Right existing variant.gid := by
  rw [matchOne_many count many, if_pos (by rw [bare]; rfl)]

/-! ## All variants -/

theorem exists_of_right {gid : ℕ} (right : variant.Right existing (some gid)) :
    ∃ own ∈ existing.variants, variant.SameOptions own ∧ own.gid = gid := by
  by_contra missing
  have none := right.fresh fun own listed same => missing
    ⟨own, listed, same, (Option.some_inj.mp (right.found own listed same)).symm⟩
  contradiction

theorem gids_eq (matched : List (SerializedVariant φ)) :
    (variantsToUpdate matched).map Prod.fst = matched.filterMap (·.gid) := by
  rw [variantsToUpdate, List.map_filterMap]
  refine List.filterMap_congr fun variant _ => ?_
  cases variant.gid <;> rfl

/-- Gids of variants that are matched rightly are distinct where there are no rivals. -/
theorem nodup_gids_iff {gid : SerializedVariant φ → Option ℕ}
    (rights : ∀ variant ∈ products, variant.Right existing (gid variant)) :
    (products.filterMap gid).Nodup ↔ products.Pairwise fun variant rival =>
      ∀ own ∈ existing.variants, variant.SameOptions own → ¬ rival.SameOptions own := by
  rw [List.Nodup, List.pairwise_filterMap]
  refine List.Pairwise.iff_of_mem fun {variant rival} member among => ?_
  constructor
  · intro distinct own listed same also
    exact distinct _ ((rights variant member).found own listed same) _
      ((rights rival among).found own listed also) rfl
  · rintro apart first firstGid second secondGid rfl
    obtain ⟨own, listed, same, rfl⟩ := exists_of_right (firstGid ▸ rights variant member)
    obtain ⟨other, also, sameOther, gids⟩ := exists_of_right (secondGid ▸ rights rival among)
    have one : other = own :=
      List.inj_on_of_nodup_map existing.distinctGids also listed gids
    exact apart own listed same (one ▸ sameOther)

/-- What the matching step leaves to the gids that the variants came with. -/
theorem mappedRight_iff : MappedRight existing products ↔
    (∀ variant ∈ products,
      variant.Right existing (matchOne existing products.length variant).gid) ∧
      products.Pairwise fun variant rival => ∀ own ∈ existing.variants,
        variant.SameOptions own → ¬ rival.SameOptions own := by
  constructor
  · intro mapped
    refine ⟨fun variant member => ?_, mapped.rivals⟩
    by_cases single : existing.variants.length = 1
    · obtain ⟨own, alone⟩ := List.length_eq_one_iff.mp single
      by_cases only : products.length = 1
      · obtain ⟨other, rfl⟩ := List.length_eq_one_iff.mp only
        rw [List.mem_singleton.mp member]
        exact (right_single_iff alone).mpr (mapped.single own alone other rfl)
      · rw [matchOne_several alone only]
        exact mapped.several own alone only variant member
    · by_cases bare : variant.attributeValues = []
      · exact (right_bare_iff _ single bare).mpr (mapped.bare single variant member bare)
      · exact (right_many_iff _ single bare).mpr (mapped.stale single variant member bare)
  · rintro ⟨rights, rivals⟩
    refine ⟨rivals, fun own alone variant only => ?_, fun own alone several variant member => ?_,
      fun many variant member attributes => ?_, fun many variant member bare => ?_⟩
    · subst only
      exact (right_single_iff alone).mp (rights variant List.mem_cons_self)
    · have right := rights variant member
      rwa [matchOne_several alone several] at right
    · exact (right_many_iff _ many attributes).mp (rights variant member)
    · exact (right_bare_iff _ many bare).mp (rights variant member)

theorem updateProduct_eq {mutations : ProductMutations φ ε} {product : ShopProduct}
    {sent : VariantsSent φ} (ran : updateProduct mutations product products = .ok sent) :
    sent.matched = products.map (matchOne sent.existing products.length) ∧
      sent.updates = variantsToUpdate sent.matched ∧
      ∃ updated, sent.creates = variantsToCreate updated sent.matched := by
  rw [updateProduct, bind_eq_ok_iff] at ran
  obtain ⟨existing, -, ran⟩ := ran
  obtain ⟨updated, -, ran⟩ := bind_eq_ok_iff.mp ran
  cases ran
  exact ⟨matchVariants_eq existing products, rfl, updated, rfl⟩

/-- The right variants are updated and created exactly when the matching step finds the gids right
where it does not look. -/
theorem variants_sent_right_iff (mutations : ProductMutations φ ε) (product : ShopProduct)
    (products : List (SerializedVariant φ)) (sent : VariantsSent φ)
    (ran : updateProduct mutations product products = .ok sent) :
    SentRight products sent ↔ MappedRight sent.existing products := by
  obtain ⟨matched, updates, creates⟩ := updateProduct_eq ran
  have gids : sent.updates.map Prod.fst =
      products.filterMap fun variant => (matchOne sent.existing products.length variant).gid := by
    rw [updates, gids_eq, matched, List.filterMap_map]
    rfl
  have after : ∀ {idx : ℕ} {variant : SerializedVariant φ}, products[idx]? = some variant →
      sent.matched[idx]? = some (matchOne sent.existing products.length variant) := by
    intro idx variant at_idx
    rw [matched, List.getElem?_map, at_idx, Option.map_some]
  rw [mappedRight_iff]
  constructor
  · intro right
    have rights : ∀ variant ∈ products,
        variant.Right sent.existing (matchOne sent.existing products.length variant).gid := by
      intro variant member
      obtain ⟨idx, at_idx⟩ := List.mem_iff_getElem?.mp member
      constructor
      · intro own listed same
        obtain ⟨found, is_found, gid, -⟩ := right.updated idx variant own at_idx listed same
        rw [after at_idx, Option.some_inj] at is_found
        exact is_found ▸ gid
      · intro fresh
        obtain ⟨found, is_found, gid, -⟩ := right.created idx variant at_idx fresh
        rw [after at_idx, Option.some_inj] at is_found
        exact is_found ▸ gid
    exact ⟨rights, (nodup_gids_iff rights).mp (gids ▸ right.once)⟩
  · rintro ⟨rights, rivals⟩
    refine ⟨?_, ?_, ?_, ?_, updates, creates⟩
    · intro idx variant own at_idx listed same
      have right := rights variant (List.mem_of_getElem? at_idx)
      exact ⟨_, after at_idx, right.found own listed same, (matchOne_fields _).1⟩
    · intro idx variant at_idx fresh
      have right := rights variant (List.mem_of_getElem? at_idx)
      exact ⟨_, after at_idx, right.fresh fresh, matchOne_fields _⟩
    · rw [gids]
      exact (nodup_gids_iff rights).mpr rivals
    · intro gid member
      rw [gids, List.mem_filterMap] at member
      obtain ⟨variant, listed, is_gid⟩ := member
      have right := rights variant listed
      rw [is_gid] at right
      obtain ⟨own, among, -, same⟩ := exists_of_right right
      exact same ▸ List.mem_map_of_mem among

/-- A store whose mutations leave the product as it is. -/
def quietStore : ProductMutations Unit Empty where
  deleteOptions _ := .ok
  deleteOptionValues _ _ := .ok
  createOptions _ := .ok
  bulkUpdateVariants _ := .ok

/-- A shirt in one size. -/
def shirt : ShopProduct where
  hasOnlyDefaultVariant := false
  options := [⟨"Size", 1, [("M", 11)]⟩]
  variants := [⟨5, "3-5", [("Size", "M")]⟩]
  distinctGids := by decide
  distinctOptions := List.pairwise_singleton _ _

def exported (gid : Option ℕ) (size : String) : SerializedVariant Unit where
  gid
  externalId := none
  attributeValues := [("Size", size)]
  fields := ()

theorem exported_same (gid : Option ℕ) :
    (exported gid "M").SameOptions ⟨5, "3-5", [("Size", "M")]⟩ :=
  fun _ => Iff.rfl

/-- Only size M, without a mapping: the existing variant is updated. -/
theorem single_shirt_sent :
    SentRight [exported none "M"] ⟨shirt, [(exported none "M").assign ⟨5, "3-5", [("Size", "M")]⟩],
      [(5, ())], []⟩ := by
  refine (variants_sent_right_iff quietStore shirt [exported none "M"] _ rfl).mpr ?_
  refine ⟨List.pairwise_singleton _ _, fun own alone variant only => ?_,
    fun own _ several => absurd rfl several, fun many => absurd rfl many,
    fun many => absurd rfl many⟩
  cases alone
  cases only
  exact exported_same none

/-- Sizes M and L, without mappings: both are created, although size M exists. -/
theorem single_variant_not_matched :
    ∃ sent, updateProduct quietStore shirt [exported none "M", exported none "L"] = .ok sent ∧
      sent.updates = [] ∧ ¬ SentRight [exported none "M", exported none "L"] sent := by
  refine ⟨_, rfl, rfl, fun right => ?_⟩
  obtain ⟨after, is_after, gid, -⟩ :=
    right.updated 0 (exported none "M") _ rfl List.mem_cons_self (exported_same none)
  cases is_after
  cases gid

end OdooConnector.Resource
