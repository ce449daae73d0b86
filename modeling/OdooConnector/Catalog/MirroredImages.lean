import OdooConnector.Catalog.ImageMatching
import OdooConnector.Library.Run

/-!
# Mappings that mirror the images

After an export every image has exactly one mapping, and every mapping belongs to an image. This is
right exactly when no image takes a mapping that names another record, and stays so while nothing
changes.
-/

namespace OdooConnector.Catalog

open ImageStore

/-- Every image has exactly one mapping, every mapping exactly one image, and none is pending. -/
structure ImageStore.Mirrors (store : ImageStore) (images : List ProductImage) : Prop where
  oneToOne : OneToOne ProductImage.Carried images store.allImageMappingIds
  distinct : (store.allImageMappingIds.map ImageMapping.id).Nodup
  settled : ∀ mapping ∈ store.allImageMappingIds, mapping.inPending = false

/-- The images of a template and of its exported variants that have a content. -/
def ExternalTemplate.images (external : ExternalTemplate) (odoo : OdooImages) :
    List ProductImage :=
  (exportedImageIds odoo external).filterMap odoo.imageOf

/-- If an export succeeds, the mappings mirror the images. When its result is handed to the store,
another export of the same finds every mapping unchanged. -/
def ImageStore.MirrorsExported (store : ImageStore) (odoo : OdooImages)
    (external : ExternalTemplate) : Prop :=
  ∀ after result, store.toImagesExportFormat odoo external = .ok (after, result) →
    after.Mirrors (external.images odoo) ∧
    ∀ answer, ∃ again others,
      (after.syncImagesDataOut odoo answer result).toImagesExportFormat odoo external =
        .ok (again, others) ∧
      again.Mirrors (external.images odoo) ∧
      ∀ mapping ∈ again.allImageMappingIds, mapping.actionType = .none

/-- The export fails, or it takes mappings of other records on no level. -/
def ImageStore.TakesOnlyOwn (store : ImageStore) (odoo : OdooImages)
    (external : ExternalTemplate) : Prop :=
  (store.toImagesExportFormat odoo external).isOk = true →
    store.pendingStore.TakesOwn (external.images odoo)

namespace ImageStore

variable {store : ImageStore}

/-! ## An export -/

theorem Consistent.of_sublist (consistent : store.Consistent) {after : ImageStore}
    (sublist : after.allImageMappingIds.Sublist store.allImageMappingIds)
    (next : after.nextId = store.nextId) : after.Consistent := by
  refine ⟨consistent.distinct.sublist (sublist.map _), ?_, ?_⟩
  · intro mapping mem
    rw [next]
    exact consistent.fresh mapping (sublist.subset mem)
  · exact fun mapping mem => consistent.covers mapping (sublist.subset mem)

theorem Consistent.of_map (consistent : store.Consistent) {after : ImageStore}
    {change : ImageMapping → ImageMapping}
    (maps : after.allImageMappingIds = store.allImageMappingIds.map change)
    (next : after.nextId = store.nextId) (keeps : ∀ mapping, (change mapping).id = mapping.id)
    (cover : ∀ mapping ∈ store.allImageMappingIds, (change mapping).isCover = true →
      (change mapping).imageId = none) : after.Consistent := by
  refine ⟨?_, ?_, ?_⟩
  · rw [maps, List.map_map]
    have same : ImageMapping.id ∘ change = ImageMapping.id := funext keeps
    rw [same]
    exact consistent.distinct
  · rw [maps, next]
    intro mapping mem
    obtain ⟨other, listed, rfl⟩ := List.mem_map.1 mem
    rw [keeps]
    exact consistent.fresh other listed
  · rw [maps]
    intro mapping mem
    obtain ⟨other, listed, rfl⟩ := List.mem_map.1 mem
    exact cover other listed

theorem Consistent.unlinkPending (consistent : store.Consistent) :
    store.unlinkImageMappingsPending.Consistent := by
  refine consistent.of_sublist ?_ rfl
  rw [allImageMappingIds_unlinkPending]
  exact List.filter_sublist

theorem Consistent.markPending (consistent : store.Consistent) :
    store.markImageMappingsAsPending.Consistent :=
  consistent.of_map allImageMappingIds_markPending rfl (fun _ => rfl) consistent.covers

theorem consistent_unlinkAll : store.unlinkAll.Consistent := ⟨.nil, nofun, nofun⟩

theorem Consistent.pendingStore (consistent : store.Consistent) :
    store.pendingStore.Consistent := by
  rw [ImageStore.pendingStore]
  split
  · exact consistent.markPending
  · exact consistent_unlinkAll.markPending

theorem settledMappings_markPending : store.markImageMappingsAsPending.settledMappings = [] := by
  rw [settledMappings, allImageMappingIds_markPending, List.filter_eq_nil_iff]
  intro mapping mem
  obtain ⟨other, -, rfl⟩ := List.mem_map.1 mem
  exact Bool.false_ne_true

theorem settledMappings_pendingStore : store.pendingStore.settledMappings = [] :=
  settledMappings_markPending

/-- What a successful export has prepared are the mappings after it. -/
theorem Consistent.toImagesExportFormat (consistent : store.Consistent) {odoo : OdooImages}
    {external : ExternalTemplate} {after : ImageStore} {result : List ExternalImage}
    (exported : store.toImagesExportFormat odoo external = .ok (after, result)) :
    ∃ prepared own, ImageStore.prepareImages odoo (exportedImageIds odoo external)
        store.pendingStore = .ok (prepared, result) ∧
      Prepared odoo store.pendingStore (external.images odoo) prepared result own ∧
      after.Consistent ∧ after.allImageMappingIds.Perm own ∧
      ∀ mapping ∈ after.allImageMappingIds, mapping.inPending = false := by
  rw [ImageStore.toImagesExportFormat] at exported
  cases run : ImageStore.prepareImages odoo (exportedImageIds odoo external)
      store.pendingStore with
  | error error =>
      rw [run] at exported
      cases exported
  | ok done =>
      rw [run] at exported
      cases exported
      obtain ⟨own, prepared⟩ := consistent.pendingStore.prepareImages run
      refine ⟨done.1, own, rfl, prepared, prepared.consistent.unlinkPending, ?_, ?_⟩
      · have settled := prepared.settled
        rw [settledMappings_pendingStore, List.append_nil] at settled
        rw [allImageMappingIds_unlinkPending]
        exact settled
      · rw [allImageMappingIds_unlinkPending]
        intro mapping mem
        rw [← Bool.not_eq_true']
        exact (List.mem_filter.1 mem).2

end ImageStore

/-! ## Images are apart -/

namespace ExternalTemplate

variable {external : ExternalTemplate} {odoo : OdooImages}

theorem entry_of_imageOf {entry : ExternalProduct × Option ℕ} {image : ProductImage}
    (found : odoo.imageOf entry = some image) :
    entry = (⟨image.ttype, image.variantCode, some image.resId⟩, image.imageId) ∧
      odoo.checksum image.ttype image.resId image.imageId = some image.checksum := by
  obtain ⟨⟨ttype, code, record⟩, imageId⟩ := entry
  rw [OdooImages.imageOf, ExternalProduct.productImage] at found
  cases record with
  | none => cases found
  | some resId =>
      cases content : odoo.checksum ttype resId imageId with
      | none =>
          dsimp only at found
          rw [content] at found
          cases found
      | some checksum =>
          dsimp only at found
          rw [content] at found
          cases found
          exact ⟨rfl, content⟩

theorem products_distinct : (external.products.map ExternalProduct.variantCode).Nodup := by
  have codes : external.products.map ExternalProduct.variantCode =
      "" :: external.childIds.map Prod.fst := by
    rw [products, List.map_cons, List.map_map]
    rfl
  rw [codes]
  exact external.distinct

theorem nodup_exportedImageIds : (exportedImageIds odoo external).Nodup := by
  rw [exportedImageIds, List.nodup_flatMap]
  constructor
  · intro product _
    refine List.Nodup.map (fun _ _ => congrArg Prod.snd) ?_
    rw [ExternalProduct.imageIds, List.nodup_cons]
    cases product.odooRecord with
    | none => exact ⟨List.not_mem_nil, .nil⟩
    | some resId =>
        refine ⟨?_, (odoo.distinct product.ttype resId).map (fun _ _ => Option.some.inj)⟩
        rw [List.mem_map]
        nofun
  · refine (List.Nodup.of_map _ products_distinct).imp ?_
    intro first second apart entry one two
    obtain ⟨_, -, rfl⟩ := List.mem_map.1 one
    obtain ⟨_, -, same⟩ := List.mem_map.1 two
    exact apart (congrArg Prod.fst same).symm

theorem nodup_images : (external.images odoo).Nodup := by
  refine nodup_exportedImageIds.filterMap ?_
  intro first second image one two
  rw [(entry_of_imageOf one).1, (entry_of_imageOf two).1]

/-- Variant code and image determine an image. -/
theorem eq_of_code_of_imageId {first second : ProductImage}
    (one : first ∈ external.images odoo) (two : second ∈ external.images odoo)
    (code : first.variantCode = second.variantCode) (same : first.imageId = second.imageId) :
    first = second := by
  obtain ⟨entry, listed, found⟩ := List.mem_filterMap.1 one
  obtain ⟨other, listed', found'⟩ := List.mem_filterMap.1 two
  obtain ⟨rfl, checksum⟩ := entry_of_imageOf found
  obtain ⟨rfl, checksum'⟩ := entry_of_imageOf found'
  obtain ⟨product, mem, own⟩ := List.mem_flatMap.1 listed
  obtain ⟨product', mem', own'⟩ := List.mem_flatMap.1 listed'
  obtain ⟨_, -, pair⟩ := List.mem_map.1 own
  obtain ⟨_, -, pair'⟩ := List.mem_map.1 own'
  have eq := congrArg Prod.fst pair
  have eq' := congrArg Prod.fst pair'
  dsimp only at eq eq'
  subst eq eq'
  have sameProduct := List.inj_on_of_nodup_map products_distinct mem mem' code
  obtain ⟨ttype, resId, code, imageId, sum⟩ := first
  obtain ⟨ttype', resId', code', imageId', sum'⟩ := second
  cases sameProduct
  cases same
  cases checksum.symm.trans checksum'
  rfl

end ExternalTemplate

/-! ## An export mirrors the images exactly when it takes own mappings -/

namespace ImageStore

variable {store : ImageStore} {odoo : OdooImages} {external : ExternalTemplate}

/-- If every mapping belongs to some image, each belongs to the image that it matches. -/
theorem namesOwner_of_carried {own : List ImageMapping}
    (matching : List.Forall₂ (fun image mapping => mapping.Matches image)
      (external.images odoo) own)
    (carried : ∀ mapping ∈ own, ∃ image ∈ external.images odoo, image.Carried mapping) :
    List.Forall₂ (fun image mapping => mapping.NamesOwner image) (external.images odoo) own := by
  rw [List.forall₂_iff_zip] at matching ⊢
  refine ⟨matching.1, ?_⟩
  intro image mapping paired
  have holds := matching.2 paired
  obtain ⟨mem, listed⟩ := List.of_mem_zip paired
  obtain ⟨other, among, names, also⟩ := carried mapping listed
  have same := ExternalTemplate.eq_of_code_of_imageId mem among
    (holds.variantCode.symm.trans also.variantCode) (holds.imageId.symm.trans also.imageId)
  exact same ▸ names

/-- The mappings after an export mirror the images exactly if they name their records. -/
theorem mirrors_iff_owners {own : List ImageMapping} (consistent : store.Consistent)
    (matching : List.Forall₂ (fun image mapping => mapping.Matches image)
      (external.images odoo) own)
    (perm : store.allImageMappingIds.Perm own)
    (settled : ∀ mapping ∈ store.allImageMappingIds, mapping.inPending = false) :
    store.Mirrors (external.images odoo) ↔
      List.Forall₂ (fun image mapping => mapping.NamesOwner image) (external.images odoo) own := by
  constructor
  · intro mirrors
    apply namesOwner_of_carried matching
    intro mapping listed
    obtain ⟨image, ⟨mem, carried⟩, -⟩ := mirrors.oneToOne.right mapping (perm.mem_iff.2 listed)
    exact ⟨image, mem, carried⟩
  · intro owners
    have carried : List.Forall₂ ProductImage.Carried (external.images odoo) own :=
      forall₂_and.2 ⟨owners, matching⟩
    have oneToOne := oneToOne_of_forall₂ carried ExternalTemplate.nodup_images
      fun first one second two mapping _ holds also =>
        ExternalTemplate.eq_of_code_of_imageId one two
          (holds.2.variantCode.symm.trans also.2.variantCode)
          (holds.2.imageId.symm.trans also.2.imageId)
    exact ⟨oneToOne.congr fun mapping => perm.mem_iff.symm, consistent.distinct, settled⟩

/-- A successful export mirrors the images exactly if it takes own mappings. -/
theorem Consistent.mirrors_iff (consistent : store.Consistent) {after : ImageStore}
    {result : List ExternalImage}
    (exported : store.toImagesExportFormat odoo external = .ok (after, result)) :
    after.Mirrors (external.images odoo) ↔
      store.pendingStore.TakesOwn (external.images odoo) := by
  obtain ⟨_, own, -, prepared, after, perm, settled⟩ := consistent.toImagesExportFormat exported
  rw [mirrors_iff_owners after prepared.matching perm settled, prepared.owners]

/-! ## The answer of the store -/

/-- An image that has been handed to the store says what its mapping says. -/
structure Agrees (odoo : OdooImages) (datacls : ExternalImage) (mapping : ImageMapping) :
    Prop where
  ttype : datacls.ttype = mapping.ttype
  variantCode : datacls.variantCode = mapping.variantCode
  isCover : datacls.isCover = mapping.isCover
  checksum : datacls.b64Bytes.map odoo.sha1 = mapping.checksum

/-- The answer for an image is written on its mapping. -/
theorem allImageMappingIds_writeAnswer (remote : RemoteImage) (datacls : ExternalImage) :
    (store.writeAnswer odoo remote datacls).allImageMappingIds =
      store.allImageMappingIds.map fun mapping =>
        if mapping.id = datacls.productImageMappingId then
          { mapping with
            ttype := datacls.ttype
            isCover := datacls.isCover
            checksum := datacls.b64Bytes.map odoo.sha1
            variantCode := datacls.variantCode
            actionType := .none }
        else mapping := by
  rw [writeAnswer, allImageMappingIds, allImageMappingIds]
  dsimp only
  rw [List.flatMap_map, List.map_flatMap]
  refine List.flatMap_congr fun external listed => ?_
  split_ifs with found
  · rfl
  · rw [List.any_eq_true] at found
    conv_lhs => rw [← List.map_id external.mappingIds]
    refine List.map_congr_left fun mapping mem => ?_
    rw [if_neg fun same => found ⟨mapping, mem, decide_eq_true same⟩]
    rfl

/-- An answer for an image that agrees with its mapping settles it. -/
theorem allImageMappingIds_writeAnswer_of_agrees (remote : RemoteImage)
    {datacls : ExternalImage} (agrees : ∀ mapping ∈ store.allImageMappingIds,
      mapping.id = datacls.productImageMappingId → Agrees odoo datacls mapping) :
    (store.writeAnswer odoo remote datacls).allImageMappingIds =
      store.allImageMappingIds.map fun mapping =>
        if mapping.id = datacls.productImageMappingId then mapping.mark .none else mapping := by
  rw [allImageMappingIds_writeAnswer]
  refine List.map_congr_left fun mapping mem => ?_
  split_ifs with same
  · have agreed := agrees mapping mem same
    rw [agreed.ttype, agreed.variantCode, agreed.isCover, agreed.checksum]
    rfl
  · rfl

/-- The answers settle the mappings of all images that were handed over. -/
theorem allImageMappingIds_foldl_writeAnswer (answer : ExternalImage → RemoteImage)
    {result : List ExternalImage}
    (agrees : ∀ datacls ∈ result, ∀ mapping ∈ store.allImageMappingIds,
      mapping.id = datacls.productImageMappingId → Agrees odoo datacls mapping) :
    (result.foldl (fun store datacls => store.writeAnswer odoo (answer datacls) datacls)
      store).allImageMappingIds = store.allImageMappingIds.map fun mapping =>
        if result.any fun datacls => mapping.id = datacls.productImageMappingId then
          mapping.mark .none
        else mapping := by
  induction result generalizing store with
  | nil => exact (List.map_id _).symm
  | cons datacls result induction =>
      have first := allImageMappingIds_writeAnswer_of_agrees (answer datacls)
        (agrees datacls List.mem_cons_self)
      rw [List.foldl_cons, induction, first, List.map_map]
      · refine List.map_congr_left fun mapping mem => ?_
        rw [Function.comp_apply, List.any_cons]
        by_cases same : mapping.id = datacls.productImageMappingId
        · rw [if_pos same, decide_eq_true same, Bool.true_or, if_pos rfl]
          split_ifs <;> rfl
        · rw [if_neg same, decide_eq_false same, Bool.false_or]
      · intro other later mapping mem same
        rw [first] at mem
        obtain ⟨earlier, listed, rfl⟩ := List.mem_map.1 mem
        have id : (if earlier.id = datacls.productImageMappingId then earlier.mark .none
            else earlier).id = earlier.id := by split_ifs <;> rfl
        have agreed := agrees other (List.mem_cons_of_mem _ later) earlier listed
          (id.symm.trans same)
        split_ifs
        · exact ⟨agreed.ttype, agreed.variantCode, agreed.isCover, agreed.checksum⟩
        · exact agreed

theorem nextId_foldl_writeAnswer (answer : ExternalImage → RemoteImage)
    (result : List ExternalImage) :
    (result.foldl (fun store datacls => store.writeAnswer odoo (answer datacls) datacls)
      store).nextId = store.nextId := by
  induction result generalizing store with
  | nil => rfl
  | cons datacls result induction => exact induction

theorem productChecksum_eq (ttype : ProductType) (resId : ℕ) :
    odoo.productChecksum ttype resId = (odoo.getB64Data ttype resId).map odoo.sha1 := by
  cases ttype with
  | template => rfl
  | variant =>
      rw [OdooImages.productChecksum, OdooImages.getB64Data]
      cases odoo.image1920 .variant resId <;> rfl

/-- A mapping that carries the values of an image has its content. -/
theorem mappingData_of_carried {image : ProductImage} {mapping : ImageMapping}
    (mem : image ∈ external.images odoo) (carried : image.Carried mapping) :
    (odoo.mappingData mapping).map odoo.sha1 = mapping.checksum := by
  obtain ⟨entry, -, found⟩ := List.mem_filterMap.1 mem
  have content := (ExternalTemplate.entry_of_imageOf found).2
  obtain ⟨⟨ttype, resId⟩, holds⟩ := carried
  rw [holds.checksum, OdooImages.mappingData, holds.imageId, ttype, resId, ← content]
  cases image.imageId with
  | some imageId => rfl
  | none => exact (productChecksum_eq _ _).symm

/-- What has been handed to the store for an own mapping agrees with it. -/
theorem agrees_of_reported {image : ProductImage} {mapping : ImageMapping}
    {datacls : ExternalImage} (mem : image ∈ external.images odoo)
    (carried : image.Carried mapping) (reported : Reported odoo mapping datacls) :
    datacls.productImageMappingId = mapping.id ∧ Agrees odoo datacls mapping ∧
      odoo.isMapped image.ttype image.resId = true := by
  obtain ⟨store, handed⟩ := reported
  rw [fromMapping] at handed
  split at handed
  · rename_i mapped
    cases handed
    rw [carried.1.1, carried.1.2] at mapped
    exact ⟨rfl, ⟨rfl, rfl, rfl, mappingData_of_carried mem carried⟩, mapped⟩
  · cases handed

/-- After an export that mirrors the images, the answers only settle the mappings. -/
theorem allImageMappingIds_sync {own : List ImageMapping} {result : List ExternalImage}
    (consistent : store.Consistent) (perm : store.allImageMappingIds.Perm own)
    (carried : List.Forall₂ ProductImage.Carried (external.images odoo) own)
    (reported : List.Forall₂ (Reported odoo) own result)
    (answer : ExternalImage → RemoteImage) :
    (store.syncImagesDataOut odoo answer result).allImageMappingIds =
      store.allImageMappingIds.map fun mapping => mapping.mark .none := by
  have agreed {mapping : ImageMapping} {datacls : ExternalImage} (listed : mapping ∈ own)
      (said : Reported odoo mapping datacls) :
      datacls.productImageMappingId = mapping.id ∧ Agrees odoo datacls mapping := by
    obtain ⟨image, mem, holds⟩ := exists_of_forall₂_right carried listed
    obtain ⟨id, agrees, -⟩ := agrees_of_reported mem holds said
    exact ⟨id, agrees⟩
  rw [syncImagesDataOut, allImageMappingIds_unlinkPending, allImageMappingIds_foldl_writeAnswer]
  · rw [List.filter_eq_self.2]
    · refine List.map_congr_left fun mapping mem => if_pos ?_
      obtain ⟨datacls, handed, said⟩ := exists_of_forall₂_left reported (perm.mem_iff.1 mem)
      exact List.any_eq_true.2
        ⟨datacls, handed, decide_eq_true (agreed (perm.mem_iff.1 mem) said).1.symm⟩
    · intro mapping mem
      obtain ⟨other, listed, rfl⟩ := List.mem_map.1 mem
      obtain ⟨datacls, handed, said⟩ := exists_of_forall₂_left reported (perm.mem_iff.1 listed)
      rw [if_pos]
      · rfl
      · exact List.any_eq_true.2
          ⟨datacls, handed, decide_eq_true (agreed (perm.mem_iff.1 listed) said).1.symm⟩
  · intro datacls handed mapping mem same
    obtain ⟨other, listed, said⟩ := exists_of_forall₂_right reported handed
    obtain ⟨id, agrees⟩ := agreed listed said
    have equal := consistent.eq_of_id mem (perm.mem_iff.2 listed) (same.trans id)
    exact equal ▸ agrees

/-! ## Another export of the same -/

/-- An image finds its own mapping on the first level. -/
theorem Consistent.find_high_of_carried (consistent : store.Consistent) {image : ProductImage}
    {images : List ProductImage} (listed : image ∈ images)
    (single : ∀ first ∈ images, ∀ second ∈ images, first.variantCode = second.variantCode →
      first.imageId = second.imageId → first = second)
    (belongs : ∀ mapping ∈ store.allImageMappingIds, ∃ image ∈ images, image.Carried mapping)
    (waits : ∃ mapping ∈ store.allImageMappingIds, mapping.inPending = true ∧
      image.Carried mapping) :
    ∃ mapping, store.findSuitableMappingOut image .high = some mapping ∧ image.Carried mapping := by
  obtain ⟨own, mem, pending, names, holds⟩ := waits
  have among : own ∈ store.imageMappingIds image.variantCode :=
    List.mem_filter.2 ⟨mem, decide_eq_true holds.variantCode⟩
  cases found : store.findSuitableMappingOut image .high with
  | none =>
      have never := List.find?_eq_none.1 found own among
      rw [pending, holds.checksum, decide_eq_true rfl] at never
      have imageId := holds.imageId
      have isCover := holds.isCover
      cases own' : image.imageId with
      | some id =>
          rw [own'] at never imageId
          exact absurd (decide_eq_true imageId) never
      | none =>
          rw [own'] at never isCover
          exact absurd isCover never
  | some mapping =>
      refine ⟨mapping, rfl, ?_⟩
      obtain ⟨mem, -, matched⟩ := consistent.findSuitableMappingOut_high found
      obtain ⟨other, listed', names', also⟩ := belongs mapping mem
      have same := single image listed other listed'
        (matched.variantCode.symm.trans also.variantCode)
        (matched.imageId.symm.trans also.imageId)
      exact same ▸ ⟨names', also⟩

/-- Mappings of some images before an export that changes nothing. -/
structure Unchanged (store : ImageStore) (images : List ProductImage) : Prop where
  consistent : store.Consistent
  belongs : ∀ mapping ∈ store.allImageMappingIds, ∃ image ∈ images, image.Carried mapping
  settled : ∀ mapping ∈ store.allImageMappingIds,
    mapping.inPending = false → mapping.actionType = .none

/-- An image that finds its own mapping marks it, and leaves those of the others pending. -/
theorem Unchanged.matchImage {images : List ProductImage} (unchanged : store.Unchanged images)
    (single : ∀ first ∈ images, ∀ second ∈ images, first.variantCode = second.variantCode →
      first.imageId = second.imageId → first = second) {image : ProductImage}
    (listed : image ∈ images)
    (waits : ∃ mapping ∈ store.allImageMappingIds, mapping.inPending = true ∧
      image.Carried mapping) :
    (store.matchImage image).1.Unchanged images ∧ image.Carried (store.matchImage image).2 ∧
      ∀ other ∈ images, other ≠ image →
        (∃ mapping ∈ store.allImageMappingIds, mapping.inPending = true ∧
          other.Carried mapping) →
        ∃ mapping ∈ (store.matchImage image).1.allImageMappingIds, mapping.inPending = true ∧
          other.Carried mapping := by
  have consistent := unchanged.consistent
  obtain ⟨mapping, found, names, holds⟩ :=
    consistent.find_high_of_carried listed single unchanged.belongs waits
  have mem := (consistent.findSuitableMappingOut_high found).1
  have marked : image.Carried (mapping.mark .none) :=
    ⟨names, holds.variantCode, holds.imageId, holds.isCover, holds.checksum⟩
  have after := (consistent.matchImage image).consistent
  have result : store.matchImage image =
      (store.write (mapping.mark .none), mapping.mark .none) := by
    rw [ImageStore.matchImage, found]
  rw [result] at after ⊢
  -- a mapping after the step is the marked one or an old one
  have cases {written : ImageMapping}
      (now : written ∈ (store.write (mapping.mark .none)).allImageMappingIds) :
      written = mapping.mark .none ∨ written ∈ store.allImageMappingIds := by
    rw [allImageMappingIds_write] at now
    obtain ⟨earlier, before, rfl⟩ := List.mem_map.1 now
    split_ifs
    · exact .inl rfl
    · exact .inr before
  refine ⟨⟨after, ?_, ?_⟩, marked, ?_⟩
  · intro written now
    obtain rfl | before := cases now
    · exact ⟨image, listed, marked⟩
    · exact unchanged.belongs written before
  · intro written now
    obtain rfl | before := cases now
    · exact fun _ => rfl
    · exact unchanged.settled written before
  · rintro other listed' apart ⟨own, before, pending, names', also⟩
    refine ⟨own, ?_, pending, names', also⟩
    rw [allImageMappingIds_write, List.mem_map]
    refine ⟨own, before, if_neg fun same => ?_⟩
    have equal := consistent.eq_of_id before mem same
    subst equal
    exact apart (single other listed' image listed
      (also.variantCode.symm.trans holds.variantCode) (also.imageId.symm.trans holds.imageId))

/-- Where every image finds its own mapping, all mappings that are handed out are unchanged. -/
theorem Unchanged.prepareImages {images : List ProductImage}
    {slots : List (ExternalProduct × Option ℕ)} (unchanged : store.Unchanged images)
    (single : ∀ first ∈ images, ∀ second ∈ images, first.variantCode = second.variantCode →
      first.imageId = second.imageId → first = second)
    (among : ∀ image ∈ slots.filterMap odoo.imageOf, image ∈ images)
    (nodup : (slots.filterMap odoo.imageOf).Nodup)
    (waits : ∀ image ∈ slots.filterMap odoo.imageOf, ∃ mapping ∈ store.allImageMappingIds,
      mapping.inPending = true ∧ image.Carried mapping)
    (recorded : ∀ entry ∈ slots, ∃ found, entry.1.productImage odoo entry.2 = .ok found)
    (mapped : ∀ image ∈ slots.filterMap odoo.imageOf,
      odoo.isMapped image.ttype image.resId = true) :
    ∃ after result, ImageStore.prepareImages odoo slots store = .ok (after, result) ∧
      after.Unchanged images := by
  induction slots generalizing store with
  | nil => exact ⟨store, [], rfl, unchanged⟩
  | cons entry slots induction =>
      obtain ⟨product, imageId⟩ := entry
      obtain ⟨found, slot⟩ := recorded _ List.mem_cons_self
      have later := fun entry mem => recorded entry (List.mem_cons_of_mem _ mem)
      have image : odoo.imageOf (product, imageId) = found := by
        rw [OdooImages.imageOf, slot]
      rw [ImageStore.prepareImages, initImageDataclassOut, slot]
      cases found with
      | none =>
          rw [List.filterMap_cons_none image] at among nodup waits mapped
          obtain ⟨after, result, run, kept⟩ :=
            induction unchanged among nodup waits later mapped
          dsimp only
          rw [run]
          exact ⟨after, _, rfl, kept⟩
      | some found =>
          rw [List.filterMap_cons_some image] at among nodup waits mapped
          obtain ⟨fresh, nodup⟩ := List.nodup_cons.1 nodup
          have listed := among found List.mem_cons_self
          obtain ⟨next, carried, others⟩ := unchanged.matchImage single listed
            (waits found List.mem_cons_self)
          obtain ⟨after, result, run, kept⟩ := induction next
            (fun other mem => among other (List.mem_cons_of_mem _ mem)) nodup
            (fun other mem => others other (among other (List.mem_cons_of_mem _ mem))
              (fun same => fresh (same ▸ mem)) (waits other (List.mem_cons_of_mem _ mem)))
            later (fun other mem => mapped other (List.mem_cons_of_mem _ mem))
          dsimp only
          rw [fromMapping, carried.1.1, carried.1.2, mapped found List.mem_cons_self, if_pos rfl]
          dsimp only
          rw [run]
          exact ⟨after, _, rfl, kept⟩

/-- A loop that has succeeded has found a record for every product. -/
theorem recorded_of_prepareImages {slots : List (ExternalProduct × Option ℕ)}
    {done : ImageStore × List ExternalImage}
    (run : ImageStore.prepareImages odoo slots store = .ok done) :
    ∀ entry ∈ slots, ∃ found, entry.1.productImage odoo entry.2 = .ok found := by
  induction slots generalizing store done with
  | nil => exact fun _ => nofun
  | cons entry slots induction =>
      obtain ⟨product, imageId⟩ := entry
      rw [ImageStore.prepareImages] at run
      cases first : store.initImageDataclassOut odoo product imageId with
      | error error =>
          rw [first] at run
          cases run
      | ok handed =>
          rw [first] at run
          dsimp only at run
          cases rest : ImageStore.prepareImages odoo slots handed.1 with
          | error error =>
              rw [rest] at run
              cases run
          | ok _ =>
              intro entry mem
              rcases List.mem_cons.1 mem with rfl | later
              · rw [initImageDataclassOut] at first
                cases slot : product.productImage odoo imageId with
                | error error =>
                    rw [slot] at first
                    cases first
                | ok found => exact ⟨found, rfl⟩
              · exact induction rest entry later

/-- After an export that mirrors the images and the answer of the store, another export of the same
finds every mapping unchanged. -/
theorem Consistent.export_again (consistent : store.Consistent) {after : ImageStore}
    {result : List ExternalImage}
    (exported : store.toImagesExportFormat odoo external = .ok (after, result))
    (mirrors : after.Mirrors (external.images odoo)) (answer : ExternalImage → RemoteImage) :
    ∃ again others, (after.syncImagesDataOut odoo answer result).toImagesExportFormat odoo
        external = .ok (again, others) ∧ again.Mirrors (external.images odoo) ∧
      ∀ mapping ∈ again.allImageMappingIds, mapping.actionType = .none := by
  obtain ⟨_, own, run, prepared, kept, perm, settled⟩ := consistent.toImagesExportFormat exported
  have owners := (mirrors_iff_owners kept prepared.matching perm settled).1 mirrors
  have carried : List.Forall₂ ProductImage.Carried (external.images odoo) own :=
    forall₂_and.2 ⟨owners, prepared.matching⟩
  have answered := allImageMappingIds_sync kept perm carried prepared.reported answer
  have synced : (after.syncImagesDataOut odoo answer result).Consistent :=
    kept.of_map answered (nextId_foldl_writeAnswer answer result) (fun _ => rfl) kept.covers
  have lacks : (after.syncImagesDataOut odoo answer result).imageMappingsLackOrInNoneState =
      true := by
    rw [imageMappingsLackOrInNoneState, answered, List.all_map, List.all_eq_true]
    exact fun _ _ => rfl
  have start : (after.syncImagesDataOut odoo answer result).pendingStore.allImageMappingIds =
      after.allImageMappingIds.map fun mapping => mapping.mark .pending := by
    rw [ImageStore.pendingStore, lacks, if_pos rfl, allImageMappingIds_markPending, answered,
      List.map_map]
    rfl
  have unchanged : (after.syncImagesDataOut odoo answer result).pendingStore.Unchanged
      (external.images odoo) := by
    refine ⟨synced.pendingStore, ?_, ?_⟩
    · rw [start]
      intro mapping mem
      obtain ⟨earlier, before, rfl⟩ := List.mem_map.1 mem
      obtain ⟨image, ⟨listed, names, holds⟩, -⟩ := mirrors.oneToOne.right earlier before
      exact ⟨image, listed, names, holds.variantCode, holds.imageId, holds.isCover,
        holds.checksum⟩
    · rw [start]
      intro mapping mem
      obtain ⟨earlier, -, rfl⟩ := List.mem_map.1 mem
      nofun
  have waits : ∀ image ∈ external.images odoo, ∃ mapping ∈
      (after.syncImagesDataOut odoo answer result).pendingStore.allImageMappingIds,
        mapping.inPending = true ∧ image.Carried mapping := by
    rw [start]
    intro image listed
    obtain ⟨mapping, ⟨mem, names, holds⟩, -⟩ := mirrors.oneToOne.left image listed
    exact ⟨mapping.mark .pending, List.mem_map_of_mem mem, rfl, names, holds.variantCode,
      holds.imageId, holds.isCover, holds.checksum⟩
  have mapped : ∀ image ∈ external.images odoo,
      odoo.isMapped image.ttype image.resId = true := by
    intro image listed
    obtain ⟨mapping, mem, holds⟩ := exists_of_forall₂_left carried listed
    obtain ⟨datacls, -, said⟩ := exists_of_forall₂_left prepared.reported mem
    exact (agrees_of_reported listed holds said).2.2
  obtain ⟨last, others, rerun, same⟩ := unchanged.prepareImages
    (fun _ one _ two => ExternalTemplate.eq_of_code_of_imageId one two) (fun _ mem => mem)
    ExternalTemplate.nodup_images waits (recorded_of_prepareImages run) mapped
  have again : (after.syncImagesDataOut odoo answer result).toImagesExportFormat odoo external =
      .ok (last.unlinkImageMappingsPending, others) := by
    rw [ImageStore.toImagesExportFormat, rerun]
  have left {mapping : ImageMapping}
      (mem : mapping ∈ last.unlinkImageMappingsPending.allImageMappingIds) :
      mapping ∈ last.allImageMappingIds ∧ (!mapping.inPending) = true := by
    rw [allImageMappingIds_unlinkPending] at mem
    exact List.mem_filter.1 mem
  refine ⟨_, others, again, ?_, ?_⟩
  · obtain ⟨_, own', -, prepared', kept', perm', settled'⟩ := synced.toImagesExportFormat again
    refine (mirrors_iff_owners kept' prepared'.matching perm' settled').2 ?_
    apply namesOwner_of_carried prepared'.matching
    intro mapping listed
    exact same.belongs mapping (left (perm'.mem_iff.2 listed)).1
  · intro mapping mem
    obtain ⟨before, open'⟩ := left mem
    rw [Bool.not_eq_true'] at open'
    exact same.settled mapping before open'

theorem Consistent.mirrorsExported_iff (consistent : store.Consistent) :
    store.MirrorsExported odoo external ↔ store.TakesOnlyOwn odoo external := by
  rw [MirrorsExported, TakesOnlyOwn]
  cases exported : store.toImagesExportFormat odoo external with
  | error error => exact iff_of_true (fun _ _ => nofun) nofun
  | ok done =>
      obtain ⟨after, result⟩ := done
      have mirrors := consistent.mirrors_iff exported
      constructor
      · intro all _
        exact mirrors.1 (all after result rfl).1
      · rintro takes _ _ ⟨⟩
        have holds := mirrors.2 (takes rfl)
        exact ⟨holds, consistent.export_again exported holds⟩

/-! ## Runs -/

theorem consistent_empty : empty.Consistent := ⟨.nil, nofun, nofun⟩

theorem Consistent.imagesDeleted (consistent : store.Consistent) (images : List ℕ) :
    (store.imagesDeleted images).Consistent := by
  refine consistent.of_map (allImageMappingIds_mapMappings_map _) rfl ?_ ?_
  · intro mapping
    split_ifs <;> rfl
  · intro mapping mem
    split_ifs
    · exact fun _ => rfl
    · exact consistent.covers mapping mem

theorem Consistent.receiveImage (consistent : store.Consistent) (mappingId newImage : ℕ)
    (checksum : Option String) : (store.receiveImage mappingId newImage checksum).Consistent := by
  rw [ImageStore.receiveImage]
  split
  · exact consistent
  · rename_i mapping found
    have mem := List.mem_of_find?_eq_some found
    have deleted := consistent.imagesDeleted mapping.imageId.toList
    -- the mapping itself has lost its image as well
    obtain ⟨left, listed, same⟩ : ∃ left ∈
        (store.imagesDeleted mapping.imageId.toList).allImageMappingIds, left.id = mapping.id := by
      refine ⟨_, allImageMappingIds_mapMappings_map _ ▸ List.mem_map_of_mem mem, ?_⟩
      split_ifs <;> rfl
    have own : ({ mapping with
        imageId := if mapping.isCover then none else some newImage
        checksum := checksum } : ImageMapping).id = left.id := same.symm
    obtain ⟨others, before, wrote⟩ := deleted.write_perm listed own
    refine deleted.of_perm before wrote own rfl ?_
    exact fun isCover => if_pos isCover

/-- A mapping is added to an external image. -/
theorem set_perm {external : ImageExternal} {index : ℕ}
    (listed : store.externals[index]? = some external) (written : ImageMapping) (next : ℕ) :
    (⟨store.externals.set index { external with
      mappingIds := external.mappingIds ++ [written] }, next⟩ : ImageStore).allImageMappingIds.Perm
        (written :: store.allImageMappingIds) := by
  obtain ⟨less, rfl⟩ := List.getElem?_eq_some_iff.1 listed
  rw [allImageMappingIds, allImageMappingIds, List.set_eq_take_append_cons_drop, if_pos less]
  conv_rhs => rw [← List.take_append_drop index store.externals, List.drop_eq_getElem_cons less]
  simp only [List.flatMap_append, List.flatMap_cons, List.append_assoc]
  exact (List.perm_middle.append_left _).trans List.perm_middle

theorem Consistent.updateImageMappingIn (consistent : store.Consistent)
    {product : ExternalProduct} {datacls : ImportedImage} {after : ImageStore}
    (updates : store.updateImageMappingIn product datacls = .ok after) : after.Consistent := by
  rw [ImageStore.updateImageMappingIn] at updates
  split at updates
  · cases updates
    exact consistent.of_add (create_perm _ _) rfl rfl fun _ => rfl
  · rename_i external index only
    cases updates
    have listed : store.externals[index]? = some external := by
      have mem : (external, index) ∈ store.externals.zipIdx :=
        (List.mem_filter.1 (only ▸ List.mem_singleton_self _)).1
      exact List.mem_zipIdx_iff_getElem?.1 mem
    rw [createOrUpdateImageMappingIn]
    split
    · rename_i mapping found
      have mem : mapping ∈ store.allImageMappingIds := List.mem_flatMap.2
        ⟨external, List.mem_of_getElem? listed, List.mem_of_find?_eq_some found⟩
      obtain ⟨others, before, wrote⟩ := consistent.write_perm mem
        (show (mapping.mark .none).id = mapping.id from rfl)
      exact consistent.of_perm before wrote rfl rfl (consistent.covers mapping mem)
    · exact consistent.of_add (set_perm listed _ _) rfl rfl fun _ => rfl
  · cases updates

theorem Consistent.processImagesIn (consistent : store.Consistent) {images : List ImportedImage}
    {after : ImageStore} (imports : store.processImagesIn external images = .ok after) :
    after.Consistent := by
  rw [ImageStore.processImagesIn] at imports
  split at imports
  · cases imports
  · rename_i updated run
    cases imports
    refine Consistent.unlinkPending ?_
    exact foldlM_preserves (fun current next after updates (kept : current.Consistent) =>
      kept.updateImageMappingIn updates) consistent.markPending run

/-- The answers of the store keep covers without an image. -/
theorem Consistent.foldl_writeAnswer (consistent : store.Consistent)
    (answer : ExternalImage → RemoteImage) {result : List ExternalImage}
    (covers : ∀ datacls ∈ result, ∀ mapping ∈ store.allImageMappingIds,
      mapping.id = datacls.productImageMappingId → datacls.isCover = mapping.isCover) :
    (result.foldl (fun store datacls => store.writeAnswer odoo (answer datacls) datacls)
      store).Consistent := by
  induction result generalizing store with
  | nil => exact consistent
  | cons datacls result induction =>
      have first := covers datacls List.mem_cons_self
      refine induction (consistent.of_map (allImageMappingIds_writeAnswer _ _) rfl ?_ ?_) ?_
      · intro mapping
        split_ifs <;> rfl
      · intro mapping mem
        split_ifs with same
        · rw [first mapping mem same]
          exact consistent.covers mapping mem
        · exact consistent.covers mapping mem
      · intro other later mapping mem same
        rw [allImageMappingIds_writeAnswer] at mem
        obtain ⟨earlier, listed, rfl⟩ := List.mem_map.1 mem
        split_ifs at same ⊢ with own
        · rw [first earlier listed own]
          exact covers other (List.mem_cons_of_mem _ later) earlier listed same
        · exact covers other (List.mem_cons_of_mem _ later) earlier listed same

/-- An export with the answer of the store is consistent. -/
theorem Consistent.exported (consistent : store.Consistent) {after : ImageStore}
    {result : List ExternalImage}
    (exported : store.toImagesExportFormat odoo external = .ok (after, result))
    (answer : ExternalImage → RemoteImage) :
    (after.syncImagesDataOut odoo answer result).Consistent := by
  obtain ⟨_, own, -, prepared, kept, perm, -⟩ := consistent.toImagesExportFormat exported
  refine (kept.foldl_writeAnswer answer ?_).unlinkPending
  intro datacls handed mapping mem same
  obtain ⟨other, listed, _, said⟩ := exists_of_forall₂_right prepared.reported handed
  rw [fromMapping] at said
  split at said
  · cases said
    rw [kept.eq_of_id mem (perm.mem_iff.2 listed) same]
  · cases said

theorem Consistent.step (consistent : store.Consistent) (action : ImageAction) :
    (store.step action).Consistent := by
  cases action with
  | imported external images =>
      rw [ImageStore.step]
      split
      · rename_i after imports
        exact consistent.processImagesIn imports
      · exact consistent
  | received mappingId newImage checksum => exact consistent.receiveImage _ _ _
  | imagesDeleted images => exact consistent.imagesDeleted images
  | erased => exact consistent_unlinkAll
  | exported odoo external answer =>
      rw [ImageStore.step]
      split
      · rename_i after result exported
        exact consistent.exported exported answer
      · exact consistent

end ImageStore

open ImageStore in
/-- Whatever imports, exports and changes in Odoo came before, a successful export mirrors the
images and is repeated without a change exactly if it takes no mapping that names another record on
the first two levels. -/
theorem image_mappings_mirror_images_iff (actions : List ImageAction) (odoo : OdooImages)
    (external : ExternalTemplate) :
    (runSteps ImageStore.step ImageStore.empty actions).MirrorsExported odoo external ↔
      (runSteps ImageStore.step ImageStore.empty actions).TakesOnlyOwn odoo external := by
  apply Consistent.mirrorsExported_iff
  exact runSteps_preserves (fun _ action consistent => consistent.step action) consistent_empty

namespace SwapExample

/-- A template with an image, and two variants without images of their own. -/
def odoo : OdooImages where
  image1920 ttype resId := if ttype = .template && resId = 9 then some "hat.png" else none
  productTmplId _ := 9
  extraImages _ _ := []
  imageData _ := none
  sha1 data := data
  isMapped _ _ := true
  distinct _ _ := .nil

/-- The external variants are mapped to two Odoo variants. -/
def external (first second : ℕ) : ExternalTemplate where
  odooRecord := some 9
  childIds := [("11", some first), ("12", some second)]
  distinct := show ["", "11", "12"].Nodup by decide

def answer (_ : ExternalImage) : RemoteImage := ⟨some "gid://shopify/MediaImage/1", none, none⟩

/-- The mappings after an export with the first Odoo variant for the first external one. -/
def exported : ImageStore :=
  runSteps ImageStore.step ImageStore.empty [.exported odoo (external 1 2) answer]

end SwapExample

open SwapExample in
/-- Once the Odoo variants are swapped, the mapping of the inherited cover keeps the old record. -/
theorem swapped_variant_keeps_record : ¬ exported.MirrorsExported odoo (external 2 1) := by
  have consistent : exported.Consistent :=
    ImageStore.consistent_empty.step (.exported odoo (external 1 2) answer)
  rw [consistent.mirrorsExported_iff]
  intro takes
  have own := takes (by decide +kernel)
  exact absurd (own.2.1 _ rfl).2 (by decide +kernel)

end OdooConnector.Catalog
