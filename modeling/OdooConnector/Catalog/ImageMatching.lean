import OdooConnector.Catalog.ImageMapping
import OdooConnector.Library.OneToOne

/-!
# Images and their mappings

Every image gets a mapping of its own, on whatever level it finds one. Only the first two levels can
go wrong: they take a mapping by its variant code and leave the record that it names.
-/

namespace OdooConnector.Catalog

open ImageStore

/-- A mapping names the record of an image. -/
def ImageMapping.NamesOwner (mapping : ImageMapping) (image : ProductImage) : Prop :=
  mapping.ttype = image.ttype ∧ mapping.resId = image.resId

/-- What the export sees to on every level. -/
structure ImageMapping.Matches (mapping : ImageMapping) (image : ProductImage) : Prop where
  variantCode : mapping.variantCode = image.variantCode
  imageId : mapping.imageId = image.imageId
  isCover : mapping.isCover = image.imageId.isNone
  checksum : mapping.checksum = some image.checksum

/-- A mapping carries the values of an image. -/
def ProductImage.Carried (image : ProductImage) (mapping : ImageMapping) : Prop :=
  mapping.NamesOwner image ∧ mapping.Matches image

/-- An image of a product, if the product has a record and the image a content. -/
def OdooImages.imageOf (odoo : OdooImages) (entry : ExternalProduct × Option ℕ) :
    Option ProductImage :=
  match entry.1.productImage odoo entry.2 with
  | .ok image => image
  | .error _ => none

/-- Mappings that are taken on the first two levels name the records of their images. -/
def ImageStore.TakesOwn : List ProductImage → ImageStore → Prop
  | [], _ => True
  | image :: images, store =>
      (∀ mapping, (store.findSuitableMappingOut image .high).or
        (store.findSuitableMappingOut image .middle) = some mapping → mapping.NamesOwner image) ∧
      TakesOwn images (store.matchImage image).1

namespace ImageStore

variable {store : ImageStore}

/-! ## What the operations do to the mappings -/

theorem allImageMappingIds_mapMappings_map (change : ImageMapping → ImageMapping) :
    (store.mapMappings fun mappings => mappings.map change).allImageMappingIds =
      store.allImageMappingIds.map change := by
  rw [allImageMappingIds, allImageMappingIds, mapMappings, List.flatMap_map, List.map_flatMap]

theorem allImageMappingIds_write (written : ImageMapping) :
    (store.write written).allImageMappingIds = store.allImageMappingIds.map fun mapping =>
      if mapping.id = written.id then written else mapping :=
  allImageMappingIds_mapMappings_map _

theorem allImageMappingIds_markPending :
    store.markImageMappingsAsPending.allImageMappingIds =
      store.allImageMappingIds.map fun mapping => mapping.mark .pending :=
  allImageMappingIds_mapMappings_map _

theorem allImageMappingIds_unlinkPending :
    store.unlinkImageMappingsPending.allImageMappingIds =
      store.allImageMappingIds.filter fun mapping => !mapping.inPending := by
  rw [unlinkImageMappingsPending, mapMappings, allImageMappingIds, allImageMappingIds,
    List.filter_flatMap]
  induction store.externals with
  | nil => rfl
  | cons external externals induction =>
      rw [List.map_cons, List.filter_cons, List.flatMap_cons]
      split
      · rw [List.flatMap_cons, induction]
      · rename_i empty
        rw [Bool.not_eq_true, Bool.not_eq_false', List.isEmpty_iff] at empty
        dsimp only at empty
        rw [induction, empty, List.nil_append]

theorem create_perm (remote : RemoteImage) (written : ImageMapping) :
    (store.create remote written).allImageMappingIds.Perm
      (written :: store.allImageMappingIds) := by
  rw [create, allImageMappingIds, List.flatMap_append]
  exact List.perm_append_singleton _ _

/-- Mappings have identifiers of their own, and a cover has no image. -/
structure Consistent (store : ImageStore) : Prop where
  distinct : (store.allImageMappingIds.map ImageMapping.id).Nodup
  fresh : ∀ mapping ∈ store.allImageMappingIds, mapping.id < store.nextId
  covers : ∀ mapping ∈ store.allImageMappingIds, mapping.isCover = true → mapping.imageId = none

theorem Consistent.eq_of_id (consistent : store.Consistent) {first second : ImageMapping}
    (one : first ∈ store.allImageMappingIds) (two : second ∈ store.allImageMappingIds)
    (same : first.id = second.id) : first = second :=
  List.inj_on_of_nodup_map consistent.distinct one two same

/-- Only the written mapping is replaced. -/
theorem Consistent.write_eq_append (consistent : store.Consistent) {mapping written : ImageMapping}
    (mem : mapping ∈ store.allImageMappingIds) (same : written.id = mapping.id) :
    ∃ before after, store.allImageMappingIds = before ++ mapping :: after ∧
      (store.write written).allImageMappingIds = before ++ written :: after := by
  obtain ⟨before, after, split⟩ := List.append_of_mem mem
  refine ⟨before, after, split, ?_⟩
  have apart := consistent.distinct
  rw [split, List.map_append, List.map_cons, List.nodup_append, List.nodup_cons] at apart
  obtain ⟨-, ⟨notAfter, -⟩, notBefore⟩ := apart
  have stays (others : List ImageMapping) (differ : ∀ other ∈ others, other.id ≠ mapping.id) :
      others.map (fun other => if other.id = written.id then written else other) = others := by
    conv_rhs => rw [← List.map_id others]
    refine List.map_congr_left fun other listed => ?_
    exact if_neg (same ▸ differ other listed)
  rw [allImageMappingIds_write, split, List.map_append, List.map_cons, if_pos same.symm,
    stays before ?_, stays after ?_]
  · intro other listed equal
    exact notAfter (equal ▸ List.mem_map_of_mem listed)
  · intro other listed
    exact notBefore _ (List.mem_map_of_mem listed) _ List.mem_cons_self

/-- The mappings after a write, up to their order. -/
theorem Consistent.write_perm (consistent : store.Consistent) {mapping written : ImageMapping}
    (mem : mapping ∈ store.allImageMappingIds) (same : written.id = mapping.id) :
    ∃ others, store.allImageMappingIds.Perm (mapping :: others) ∧
      (store.write written).allImageMappingIds.Perm (written :: others) := by
  obtain ⟨before, after, split, wrote⟩ := consistent.write_eq_append mem same
  exact ⟨before ++ after, split ▸ List.perm_middle, wrote ▸ List.perm_middle⟩

/-- A copy adds one mapping. -/
theorem Consistent.copy_perm (consistent : store.Consistent) {source : ImageMapping}
    (mem : source ∈ store.allImageMappingIds) (written : ImageMapping) :
    (store.copy source written).allImageMappingIds.Perm (written :: store.allImageMappingIds) := by
  have apart := consistent.distinct
  have lacks {mappings : List ImageMapping} (notIn : source.id ∉ mappings.map ImageMapping.id) :
      (mappings.any fun mapping => mapping.id = source.id) = false := by
    rw [List.any_eq_false]
    intro mapping listed same
    exact notIn (of_decide_eq_true same ▸ List.mem_map_of_mem listed)
  revert mem apart
  rw [copy, mapMappings, allImageMappingIds, allImageMappingIds]
  dsimp only
  clear consistent
  induction store.externals with
  | nil => exact fun mem => absurd mem List.not_mem_nil
  | cons external externals induction =>
      intro mem apart
      rw [List.map_cons, List.flatMap_cons, List.flatMap_cons]
      rw [List.flatMap_cons, List.map_append, List.nodup_append] at apart
      rw [List.flatMap_cons, List.mem_append] at mem
      obtain ⟨-, others, differ⟩ := apart
      rcases mem with here | there
      · have found : (external.mappingIds.any fun mapping => mapping.id = source.id) = true :=
          List.any_eq_true.2 ⟨source, here, decide_eq_true rfl⟩
        have unchanged : (externals.map fun external => { external with
            mappingIds := if external.mappingIds.any fun mapping => mapping.id = source.id then
              external.mappingIds ++ [written] else external.mappingIds }) = externals := by
          conv_rhs => rw [← List.map_id externals]
          refine List.map_congr_left fun other listed => ?_
          rw [lacks, if_neg Bool.false_ne_true]
          · rfl
          · intro among
            obtain ⟨mapping, mem, same⟩ := List.mem_map.1 among
            have elsewhere := List.mem_map_of_mem (f := ImageMapping.id)
              (List.mem_flatMap.2 ⟨other, listed, mem⟩)
            exact differ _ (List.mem_map_of_mem here) _ elsewhere same.symm
        rw [unchanged, found, if_pos rfl, List.append_assoc, List.singleton_append]
        exact List.perm_middle
      · rw [lacks, if_neg Bool.false_ne_true]
        · exact ((induction there others).append_left _).trans List.perm_middle
        · intro among
          exact differ _ among _ (List.mem_map_of_mem there) rfl

/-- What a change does to the mappings is consistent if it keeps what identifies them. -/
theorem Consistent.of_perm (consistent : store.Consistent) {after : ImageStore}
    {mapping written : ImageMapping} {others : List ImageMapping}
    (before : store.allImageMappingIds.Perm (mapping :: others))
    (wrote : after.allImageMappingIds.Perm (written :: others))
    (same : written.id = mapping.id) (next : after.nextId = store.nextId)
    (cover : written.isCover = true → written.imageId = none) : after.Consistent := by
  have listed {other : ImageMapping} (mem : other ∈ others) : other ∈ store.allImageMappingIds :=
    before.mem_iff.2 (List.mem_cons_of_mem _ mem)
  have own : mapping ∈ store.allImageMappingIds := before.mem_iff.2 List.mem_cons_self
  refine ⟨?_, ?_, ?_⟩
  · have apart := (before.map ImageMapping.id).nodup_iff.1 consistent.distinct
    rw [(wrote.map ImageMapping.id).nodup_iff]
    rw [List.map_cons] at apart ⊢
    exact same ▸ apart
  · intro other mem
    rw [next]
    rcases List.mem_cons.1 (wrote.mem_iff.1 mem) with rfl | rest
    · exact same ▸ consistent.fresh mapping own
    · exact consistent.fresh other (listed rest)
  · intro other mem
    rcases List.mem_cons.1 (wrote.mem_iff.1 mem) with rfl | rest
    · exact cover
    · exact consistent.covers other (listed rest)

/-- A new mapping is consistent with all others. -/
theorem Consistent.of_add (consistent : store.Consistent) {after : ImageStore}
    {written : ImageMapping}
    (wrote : after.allImageMappingIds.Perm (written :: store.allImageMappingIds))
    (id : written.id = store.nextId) (next : after.nextId = store.nextId + 1)
    (cover : written.isCover = true → written.imageId = none) : after.Consistent := by
  refine ⟨?_, ?_, ?_⟩
  · rw [(wrote.map ImageMapping.id).nodup_iff, List.map_cons, List.nodup_cons, id]
    refine ⟨fun listed => ?_, consistent.distinct⟩
    obtain ⟨other, mem, same⟩ := List.mem_map.1 listed
    have less := consistent.fresh other mem
    omega
  · intro other mem
    rcases List.mem_cons.1 (wrote.mem_iff.1 mem) with rfl | rest
    · omega
    · have less := consistent.fresh other rest
      omega
  · intro other mem
    rcases List.mem_cons.1 (wrote.mem_iff.1 mem) with rfl | rest
    · exact cover
    · exact consistent.covers other rest

/-- Mappings that are no longer pending. -/
def settledMappings (store : ImageStore) : List ImageMapping :=
  store.allImageMappingIds.filter fun mapping => !mapping.inPending

/-- What `matchImage` does for an image, on whatever level. -/
structure MatchedTo (store : ImageStore) (image : ProductImage)
    (result : ImageStore × ImageMapping) : Prop where
  consistent : result.1.Consistent
  holds : result.2.Matches image
  settled : result.1.settledMappings.Perm (result.2 :: store.settledMappings)
  owner : result.2.NamesOwner image ↔
    ∀ mapping, (store.findSuitableMappingOut image .high).or
      (store.findSuitableMappingOut image .middle) = some mapping → mapping.NamesOwner image

theorem findSuitableMappingOut_middle {image : ProductImage} {mapping : ImageMapping}
    (found : store.findSuitableMappingOut image .middle = some mapping) :
    mapping ∈ store.allImageMappingIds ∧ mapping.variantCode = image.variantCode ∧
      mapping.inPending = true ∧ mapping.checksum = some image.checksum := by
  obtain ⟨mem, code⟩ := List.mem_filter.1 (List.mem_of_find?_eq_some found)
  have holds := List.find?_some found
  rw [Bool.and_eq_true, decide_eq_true_eq] at holds
  exact ⟨mem, of_decide_eq_true code, holds.1, holds.2⟩

theorem findSuitableMappingOut_low {image : ProductImage} {mapping : ImageMapping}
    (found : store.findSuitableMappingOut image .low = some mapping) :
    mapping ∈ store.allImageMappingIds ∧ mapping.inPending = true ∧
      mapping.checksum = some image.checksum := by
  have holds := List.find?_some found
  rw [Bool.and_eq_true, decide_eq_true_eq] at holds
  exact ⟨List.mem_of_find?_eq_some found, holds.1, holds.2⟩

theorem findSuitableMappingOut_minimal {image : ProductImage} {mapping : ImageMapping}
    (found : store.findSuitableMappingOut image .minimal = some mapping) :
    mapping ∈ store.allImageMappingIds ∧ mapping.checksum = some image.checksum := by
  have holds := List.find?_some found
  exact ⟨List.mem_of_find?_eq_some found, of_decide_eq_true holds⟩

/-- A mapping of the first level has all values of the image but its record. -/
theorem Consistent.findSuitableMappingOut_high (consistent : store.Consistent)
    {image : ProductImage} {mapping : ImageMapping}
    (found : store.findSuitableMappingOut image .high = some mapping) :
    mapping ∈ store.allImageMappingIds ∧ mapping.inPending = true ∧ mapping.Matches image := by
  obtain ⟨mem, code⟩ := List.mem_filter.1 (List.mem_of_find?_eq_some found)
  have holds := List.find?_some found
  rw [Bool.and_eq_true, Bool.and_eq_true, decide_eq_true_eq] at holds
  obtain ⟨⟨pending, checksum⟩, own⟩ := holds
  have covers := consistent.covers mapping mem
  refine ⟨mem, pending, of_decide_eq_true code, ?_, ?_, checksum⟩
  · cases imageId : image.imageId with
    | some id =>
        rw [imageId] at own
        exact of_decide_eq_true own
    | none =>
        rw [imageId] at own
        exact covers own
  · cases imageId : image.imageId with
    | some id =>
        rw [imageId] at own
        rw [of_decide_eq_true own] at covers
        exact Bool.eq_false_iff.2 fun isCover => nomatch covers isCover
    | none =>
        rw [imageId] at own
        exact own

theorem cover_of_matches {image : ProductImage} {mapping : ImageMapping}
    (holds : mapping.Matches image) (isCover : mapping.isCover = true) :
    mapping.imageId = none := by
  rw [holds.isCover, Option.isNone_iff_eq_none] at isCover
  rw [holds.imageId, isCover]

/-- A pending mapping that is written becomes the image's own one. -/
theorem Consistent.settled_write (consistent : store.Consistent) {image : ProductImage}
    {mapping written : ImageMapping} (mem : mapping ∈ store.allImageMappingIds)
    (pending : mapping.inPending = true) (same : written.id = mapping.id)
    (settled : written.inPending = false) (holds : written.Matches image) :
    (store.write written).Consistent ∧
      (store.write written).settledMappings.Perm (written :: store.settledMappings) := by
  obtain ⟨others, before, wrote⟩ := consistent.write_perm mem same
  refine ⟨consistent.of_perm before wrote same rfl (cover_of_matches holds), ?_⟩
  have settledBefore := before.filter fun mapping => !mapping.inPending
  have settledAfter := wrote.filter fun mapping => !mapping.inPending
  rw [List.filter_cons_of_neg (by rw [pending]; exact Bool.false_ne_true)] at settledBefore
  rw [List.filter_cons_of_pos (by rw [settled]; rfl)] at settledAfter
  exact settledAfter.trans (settledBefore.symm.cons _)

/-- A mapping that is added becomes the image's own one. -/
theorem Consistent.settled_add (consistent : store.Consistent) {after : ImageStore}
    {image : ProductImage} {written : ImageMapping}
    (wrote : after.allImageMappingIds.Perm (written :: store.allImageMappingIds))
    (id : written.id = store.nextId) (next : after.nextId = store.nextId + 1)
    (settled : written.inPending = false) (holds : written.Matches image) :
    after.Consistent ∧ after.settledMappings.Perm (written :: store.settledMappings) := by
  refine ⟨consistent.of_add wrote id next (cover_of_matches holds), ?_⟩
  have settledAfter := wrote.filter fun mapping => !mapping.inPending
  rw [List.filter_cons_of_pos (by rw [settled]; rfl)] at settledAfter
  exact settledAfter

theorem matches_toMapping (image : ProductImage) (id : ℕ) (action : ActionType) :
    (image.toMapping id (some image.checksum) action).Matches image := ⟨rfl, rfl, rfl, rfl⟩

/-- On every level the image gets a mapping of its own, and only on the first two levels this may
name another record. -/
theorem Consistent.matchImage (consistent : store.Consistent) (image : ProductImage) :
    store.MatchedTo image (store.matchImage image) := by
  rw [ImageStore.matchImage]
  have named {level : Option ImageMapping} {mapping : ImageMapping} (first : level = some mapping)
      {written : ImageMapping} (ttype : written.ttype = mapping.ttype)
      (resId : written.resId = mapping.resId) : written.NamesOwner image ↔
        ∀ mapping, level = some mapping → mapping.NamesOwner image := by
    rw [ImageMapping.NamesOwner, ttype, resId]
    constructor
    · rintro names _ found
      cases first.symm.trans found
      exact names
    · exact fun all => all mapping first
  cases high : store.findSuitableMappingOut image .high with
  | some mapping =>
      obtain ⟨mem, pending, holds⟩ := consistent.findSuitableMappingOut_high high
      have marked : (mapping.mark .none).Matches image :=
        ⟨holds.variantCode, holds.imageId, holds.isCover, holds.checksum⟩
      obtain ⟨after, settled⟩ := consistent.settled_write mem pending
        (show (mapping.mark .none).id = mapping.id from rfl) rfl marked
      refine ⟨after, marked, settled, ?_⟩
      rw [high]
      exact named rfl rfl rfl
  | none =>
      cases middle : store.findSuitableMappingOut image .middle with
      | some mapping =>
          obtain ⟨mem, code, pending, checksum⟩ := findSuitableMappingOut_middle middle
          have holds : ({ mapping with
              imageId := image.imageId
              isCover := image.imageId.isNone
              actionType := .assign } : ImageMapping).Matches image := ⟨code, rfl, rfl, checksum⟩
          obtain ⟨after, settled⟩ := consistent.settled_write mem pending (by rfl) rfl holds
          refine ⟨after, holds, settled, ?_⟩
          rw [high, middle]
          exact named rfl rfl rfl
      | none =>
          have never : ∀ mapping, (store.findSuitableMappingOut image .high).or
              (store.findSuitableMappingOut image .middle) = some mapping →
                mapping.NamesOwner image := by
            rw [high, middle]
            nofun
          cases low : store.findSuitableMappingOut image .low with
          | some mapping =>
              obtain ⟨mem, pending, checksum⟩ := findSuitableMappingOut_low low
              have holds := matches_toMapping image mapping.id .assign
              rw [← checksum] at holds
              obtain ⟨after, settled⟩ := consistent.settled_write mem pending (by rfl) rfl holds
              exact ⟨after, holds, settled, iff_of_true ⟨rfl, rfl⟩ never⟩
          | none =>
              cases minimal : store.findSuitableMappingOut image .minimal with
              | some source =>
                  obtain ⟨mem, checksum⟩ := findSuitableMappingOut_minimal minimal
                  have holds := matches_toMapping image store.nextId .assign
                  rw [← checksum] at holds
                  obtain ⟨after, settled⟩ := consistent.settled_add
                    (consistent.copy_perm mem _) rfl rfl rfl holds
                  exact ⟨after, holds, settled, iff_of_true ⟨rfl, rfl⟩ never⟩
              | none =>
                  have holds := matches_toMapping image store.nextId .create
                  obtain ⟨after, settled⟩ := consistent.settled_add
                    (create_perm emptyRemote _) rfl rfl rfl holds
                  exact ⟨after, holds, settled, iff_of_true ⟨rfl, rfl⟩ never⟩

/-! ## The loop over all images -/

/-- A mapping that has been handed out, with what it says for the store. -/
def Reported (odoo : OdooImages) (mapping : ImageMapping) (datacls : ExternalImage) : Prop :=
  ∃ store : ImageStore, store.fromMapping odoo mapping = .ok datacls

/-- The mappings of some images, one for each, are the settled ones that are added. -/
structure Prepared (odoo : OdooImages) (store : ImageStore) (images : List ProductImage)
    (after : ImageStore) (result : List ExternalImage) (own : List ImageMapping) : Prop where
  consistent : after.Consistent
  matching : List.Forall₂ (fun image mapping => mapping.Matches image) images own
  settled : after.settledMappings.Perm (own ++ store.settledMappings)
  owners : List.Forall₂ (fun image mapping => mapping.NamesOwner image) images own ↔
    store.TakesOwn images
  reported : List.Forall₂ (Reported odoo) own result

theorem Consistent.prepareImages {odoo : OdooImages} {slots : List (ExternalProduct × Option ℕ)}
    (consistent : store.Consistent) {after : ImageStore} {result : List ExternalImage}
    (run : prepareImages odoo slots store = .ok (after, result)) :
    ∃ own, Prepared odoo store (slots.filterMap odoo.imageOf) after result own := by
  induction slots generalizing store result with
  | nil =>
      cases run
      exact ⟨[], consistent, .nil, .refl _, iff_of_true .nil trivial, .nil⟩
  | cons entry slots induction =>
      obtain ⟨product, imageId⟩ := entry
      rw [ImageStore.prepareImages, initImageDataclassOut] at run
      cases slot : product.productImage odoo imageId with
      | error error =>
          rw [slot] at run
          cases run
      | ok found =>
          have image : odoo.imageOf (product, imageId) = found := by
            rw [OdooImages.imageOf, slot]
          rw [slot] at run
          cases found with
          | none =>
              rw [List.filterMap_cons_none image]
              dsimp only at run
              cases rest : ImageStore.prepareImages odoo slots store with
              | error error =>
                  rw [rest] at run
                  cases run
              | ok done =>
                  rw [rest] at run
                  cases run
                  exact induction consistent rest
          | some found =>
              rw [List.filterMap_cons_some image]
              have matched := consistent.matchImage found
              have takes : store.TakesOwn (found :: slots.filterMap odoo.imageOf) ↔
                  (store.matchImage found).2.NamesOwner found ∧
                    (store.matchImage found).1.TakesOwn (slots.filterMap odoo.imageOf) := by
                rw [ImageStore.TakesOwn, matched.owner]
              dsimp only at run
              cases pair : store.matchImage found with
              | mk next mapping =>
                  rw [pair] at matched takes run
                  dsimp only at run
                  cases handed : next.fromMapping odoo mapping with
                  | error error =>
                      rw [handed] at run
                      cases run
                  | ok datacls =>
                      rw [handed] at run
                      dsimp only at run
                      cases rest : ImageStore.prepareImages odoo slots next with
                      | error error =>
                          rw [rest] at run
                          cases run
                      | ok done =>
                          rw [rest] at run
                          cases run
                          obtain ⟨own, prepared⟩ := induction matched.consistent rest
                          refine ⟨mapping :: own, prepared.consistent,
                            .cons matched.holds prepared.matching, ?_, ?_,
                            .cons ⟨next, handed⟩ prepared.reported⟩
                          · exact prepared.settled.trans
                              ((matched.settled.append_left own).trans List.perm_middle)
                          · rw [takes, List.forall₂_cons, prepared.owners]

end ImageStore

end OdooConnector.Catalog
