import Mathlib.Data.List.Basic

/-!
# Image mappings of a template

The store keeps a mapping for every image of a template and of its variants. Before an export the
mappings are marked as pending, every image of Odoo looks for a suitable one of them in four levels,
and mappings that stay pending are dropped.
-/

namespace OdooConnector.Catalog

/-- The content of an image. -/
abbrev Binary := String

inductive ProductType where
  | template
  | variant
deriving DecidableEq

inductive ActionType where
  | none
  | pending
  | assign
  | create
deriving DecidableEq

inductive MatchLevel where
  | high
  | middle
  | low
  | minimal

/-- An image in the store. -/
structure RemoteImage where
  code : Option String
  name : Option String
  src : Option String

/-- `integration.product.image.mapping`. Mappings of the template have an empty variant code. -/
structure ImageMapping where
  id : ℕ
  ttype : ProductType
  resId : ℕ
  variantCode : String
  imageId : Option ℕ
  isCover : Bool
  checksum : Option String
  actionType : ActionType

/-- `integration.product.image.external` with its mappings. -/
structure ImageExternal where
  remote : RemoteImage
  mappingIds : List ImageMapping

/-- External images of a template, and the identifier of the next mapping. -/
structure ImageStore where
  externals : List ImageExternal
  nextId : ℕ

/-- Products and images of Odoo. The image of a variant is its own one. -/
structure OdooImages where
  image1920 : ProductType → ℕ → Option Binary
  productTmplId : ℕ → ℕ
  extraImages : ProductType → ℕ → List ℕ
  imageData : ℕ → Option Binary
  sha1 : Binary → String
  /-- The record has an external one. -/
  isMapped : ProductType → ℕ → Bool
  distinct : ∀ ttype resId, (extraImages ttype resId).Nodup

/-- An external template or variant with the Odoo record that it is mapped to. -/
structure ExternalProduct where
  ttype : ProductType
  variantCode : String
  odooRecord : Option ℕ

/-- An external template with its exported variants. -/
structure ExternalTemplate where
  odooRecord : Option ℕ
  childIds : List (String × Option ℕ)
  /-- Codes of external variants are unique, and none is empty. -/
  distinct : ("" :: childIds.map Prod.fst).Nodup

/-- An image of a product that is to be exported. -/
structure ProductImage where
  ttype : ProductType
  resId : ℕ
  variantCode : String
  imageId : Option ℕ
  checksum : String

/-- An image as it is handed to the store. -/
structure ExternalImage where
  productImageMappingId : ℕ
  remote : RemoteImage
  ttype : ProductType
  variantCode : String
  isCover : Bool
  b64Bytes : Option Binary
  actionType : ActionType

inductive ImageError where
  | missedOdooMapping (product : ExternalProduct)
  | notMappedToExternal (ttype : ProductType) (resId : ℕ)
  | expectedSingleton

/-! ## Odoo's images -/

namespace OdooImages

variable (odoo : OdooImages)

/-- `get_b64_data` of a product. A variant without an image of its own has that of its template. -/
def getB64Data : ProductType → ℕ → Option Binary
  | .template, resId => odoo.image1920 .template resId
  | .variant, resId =>
      match odoo.image1920 .variant resId with
      | some data => some data
      | none => odoo.image1920 .template (odoo.productTmplId resId)

/-- `image_checksum` of a product. -/
def productChecksum : ProductType → ℕ → Option String
  | .template, resId => (odoo.image1920 .template resId).map odoo.sha1
  | .variant, resId =>
      match (odoo.image1920 .variant resId).map odoo.sha1 with
      | some checksum => some checksum
      | none => (odoo.image1920 .template (odoo.productTmplId resId)).map odoo.sha1

def checksum (ttype : ProductType) (resId : ℕ) : Option ℕ → Option String
  | some image => (odoo.imageData image).map odoo.sha1
  | none => odoo.productChecksum ttype resId

/-- Data of the image that a mapping stands for. -/
def mappingData (mapping : ImageMapping) : Option Binary :=
  match mapping.imageId with
  | some image => odoo.imageData image
  | none => odoo.getB64Data mapping.ttype mapping.resId

end OdooImages

namespace ExternalTemplate

def product (external : ExternalTemplate) : ExternalProduct :=
  ⟨.template, "", external.odooRecord⟩

/-- The template and its exported variants. -/
def products (external : ExternalTemplate) : List ExternalProduct :=
  external.product :: external.childIds.map fun child => ⟨.variant, child.1, child.2⟩

end ExternalTemplate

namespace ExternalProduct

variable (odoo : OdooImages) (product : ExternalProduct)

/-- The cover and the extra images, which are not read where there is no record. -/
def imageIds : List (Option ℕ) :=
  none :: match product.odooRecord with
    | some resId => (odoo.extraImages product.ttype resId).map some
    | none => []

/-- First lines of `_init_image_dataclass_out`: the image, if it has a content. -/
def productImage (imageId : Option ℕ) : Except ImageError (Option ProductImage) :=
  match product.odooRecord with
  | none => .error (.missedOdooMapping product)
  | some resId => .ok ((odoo.checksum product.ttype resId imageId).map fun checksum =>
      ⟨product.ttype, resId, product.variantCode, imageId, checksum⟩)

end ExternalProduct

namespace ProductImage

variable (image : ProductImage)

/-- A mapping with the values of an image. -/
def toMapping (id : ℕ) (checksum : Option String) (actionType : ActionType) : ImageMapping where
  id := id
  ttype := image.ttype
  resId := image.resId
  variantCode := image.variantCode
  imageId := image.imageId
  isCover := image.imageId.isNone
  checksum := checksum
  actionType := actionType

end ProductImage

/-! ## The store of mappings -/

namespace ImageMapping

variable (mapping : ImageMapping)

def inPending : Bool := mapping.actionType = .pending

def toNone : Bool := mapping.actionType = .none

def mark (actionType : ActionType) : ImageMapping := { mapping with actionType := actionType }

end ImageMapping

namespace ImageStore

variable (store : ImageStore)

def empty : ImageStore := ⟨[], 0⟩

def allImageMappingIds : List ImageMapping := store.externals.flatMap ImageExternal.mappingIds

def imageMappingIds (variantCode : String) : List ImageMapping :=
  store.allImageMappingIds.filter fun mapping => mapping.variantCode = variantCode

/-- Change the mappings of each external image. -/
def mapMappings (change : List ImageMapping → List ImageMapping) : ImageStore :=
  { store with externals := store.externals.map fun external =>
      { external with mappingIds := change external.mappingIds } }

/-- Write a mapping. -/
def write (written : ImageMapping) : ImageStore :=
  store.mapMappings fun mappings => mappings.map fun mapping =>
    if mapping.id = written.id then written else mapping

/-- Add a copy of a mapping, of the same external image. -/
def copy (source written : ImageMapping) : ImageStore :=
  { store.mapMappings fun mappings =>
      if mappings.any fun mapping => mapping.id = source.id then mappings ++ [written]
      else mappings with
    nextId := store.nextId + 1 }

/-- Add a mapping of a new external image. -/
def create (remote : RemoteImage) (written : ImageMapping) : ImageStore :=
  { externals := store.externals ++ [⟨remote, [written]⟩], nextId := store.nextId + 1 }

/-- `_init_empty_external_image`. -/
def emptyRemote : RemoteImage := ⟨none, none, none⟩

/-- Drop all external images with their mappings. -/
def unlinkAll : ImageStore := { store with externals := [] }

def markImageMappingsAsPending : ImageStore :=
  store.mapMappings fun mappings => mappings.map fun mapping => mapping.mark .pending

/-- `_unlink_image_mappings_pending`. -/
def unlinkImageMappingsPending : ImageStore :=
  let kept := store.mapMappings fun mappings => mappings.filter fun mapping => !mapping.inPending
  { kept with externals := kept.externals.filter fun external => !external.mappingIds.isEmpty }

def imageMappingsLackOrInNoneState : Bool :=
  store.allImageMappingIds.all ImageMapping.toNone

/-- The external image of a mapping. -/
def remoteOf (mapping : ImageMapping) : RemoteImage :=
  match store.externals.find? fun external =>
      external.mappingIds.any fun other => other.id = mapping.id with
  | some external => external.remote
  | none => emptyRemote

/-! ## Export -/

/-- `_find_suitable_mapping_out`. -/
def findSuitableMappingOut (image : ProductImage) : MatchLevel → Option ImageMapping
  | .high => (store.imageMappingIds image.variantCode).find? fun mapping =>
      mapping.inPending && mapping.checksum = some image.checksum &&
        match image.imageId with
        | some imageId => mapping.imageId = some imageId
        | none => mapping.isCover
  | .middle => (store.imageMappingIds image.variantCode).find? fun mapping =>
      mapping.inPending && mapping.checksum = some image.checksum
  | .low => store.allImageMappingIds.find? fun mapping =>
      mapping.inPending && mapping.checksum = some image.checksum
  | .minimal => store.allImageMappingIds.find? fun mapping =>
      mapping.checksum = some image.checksum

/-- The levels of `_init_image_dataclass_out`: the mapping that an image gets. -/
def matchImage (image : ProductImage) : ImageStore × ImageMapping :=
  match store.findSuitableMappingOut image .high with
  | some mapping =>
      -- nothing is written
      let mapping := mapping.mark .none
      (store.write mapping, mapping)
  | none =>
      match store.findSuitableMappingOut image .middle with
      | some mapping =>
          -- type and record are not written
          let mapping := { mapping with
            imageId := image.imageId, isCover := image.imageId.isNone, actionType := .assign }
          (store.write mapping, mapping)
      | none =>
          match store.findSuitableMappingOut image .low with
          | some mapping =>
              let mapping := image.toMapping mapping.id mapping.checksum .assign
              (store.write mapping, mapping)
          | none =>
              match store.findSuitableMappingOut image .minimal with
              | some source =>
                  let mapping := image.toMapping store.nextId source.checksum .assign
                  (store.copy source mapping, mapping)
              | none =>
                  let mapping := image.toMapping store.nextId (some image.checksum) .create
                  (store.create emptyRemote mapping, mapping)

/-- `from_mapping`, which reads the external record of the mapped product. -/
def fromMapping (odoo : OdooImages) (mapping : ImageMapping) : Except ImageError ExternalImage :=
  if odoo.isMapped mapping.ttype mapping.resId then
    .ok ⟨mapping.id, store.remoteOf mapping, mapping.ttype, mapping.variantCode, mapping.isCover,
      odoo.mappingData mapping, mapping.actionType⟩
  else .error (.notMappedToExternal mapping.ttype mapping.resId)

/-- `_init_image_dataclass_out`. -/
def initImageDataclassOut (odoo : OdooImages) (product : ExternalProduct) (imageId : Option ℕ) :
    Except ImageError (ImageStore × Option ExternalImage) :=
  match product.productImage odoo imageId with
  | .error error => .error error
  | .ok none => .ok (store, none)
  | .ok (some image) =>
      let (store, mapping) := store.matchImage image
      match store.fromMapping odoo mapping with
      | .error error => .error error
      | .ok datacls => .ok (store, some datacls)

/-- `_prepare_images_mappings_to_export` of some products, one image after another. -/
def prepareImages (odoo : OdooImages) : List (ExternalProduct × Option ℕ) → ImageStore →
    Except ImageError (ImageStore × List ExternalImage)
  | [], store => .ok (store, [])
  | (product, imageId) :: rest, store =>
      match store.initImageDataclassOut odoo product imageId with
      | .error error => .error error
      | .ok (store, datacls) =>
          match prepareImages odoo rest store with
          | .error error => .error error
          | .ok (store, others) => .ok (store, datacls.toList ++ others)

/-- All images of the template and of its exported variants. -/
def exportedImageIds (odoo : OdooImages) (external : ExternalTemplate) :
    List (ExternalProduct × Option ℕ) :=
  external.products.flatMap fun product => (product.imageIds odoo).map fun imageId =>
    (product, imageId)

/-- The mappings that an export starts with. -/
def pendingStore : ImageStore :=
  (if store.imageMappingsLackOrInNoneState then store
  else store.unlinkAll).markImageMappingsAsPending

/-- `to_images_export_format`. -/
def toImagesExportFormat (odoo : OdooImages) (external : ExternalTemplate) :
    Except ImageError (ImageStore × List ExternalImage) :=
  match prepareImages odoo (exportedImageIds odoo external) store.pendingStore with
  | .error error => .error error
  | .ok (store, result) => .ok (store.unlinkImageMappingsPending, result)

/-- Write what the store has answered on a mapping and its external image. -/
def writeAnswer (odoo : OdooImages) (remote : RemoteImage) (datacls : ExternalImage) :
    ImageStore :=
  { store with externals := store.externals.map fun external =>
      if external.mappingIds.any fun mapping => mapping.id = datacls.productImageMappingId then
        { remote := remote
          mappingIds := external.mappingIds.map fun mapping =>
            if mapping.id = datacls.productImageMappingId then
              { mapping with
                ttype := datacls.ttype
                isCover := datacls.isCover
                checksum := datacls.b64Bytes.map odoo.sha1
                variantCode := datacls.variantCode
                actionType := .none }
            else mapping }
      else external }

/-- `_sync_images_data_out`, with the image in the store that the answer names for each exported
one. -/
def syncImagesDataOut (odoo : OdooImages) (answer : ExternalImage → RemoteImage)
    (dataclsList : List ExternalImage) : ImageStore :=
  (dataclsList.foldl (fun store datacls => store.writeAnswer odoo (answer datacls) datacls)
    store).unlinkImageMappingsPending

/-! ## Import -/

/-- An image that the store reports. -/
structure ImportedImage where
  remote : RemoteImage
  ttype : ProductType
  variantCode : String
  isCover : Bool

/-- `_create_or_update_image_mapping_in` of an external image, by its position. -/
def createOrUpdateImageMappingIn (product : ExternalProduct) (isCover : Bool) (index : ℕ)
    (external : ImageExternal) : ImageStore :=
  let resId := product.odooRecord.getD 0
  match external.mappingIds.find? fun mapping => mapping.inPending &&
      mapping.ttype = product.ttype && mapping.resId = resId && mapping.isCover = isCover &&
      mapping.variantCode = product.variantCode with
  | some mapping => store.write (mapping.mark .none)
  | none =>
      { externals := store.externals.set index { external with
          mappingIds := external.mappingIds ++
            [⟨store.nextId, product.ttype, resId, product.variantCode, none, isCover, none,
              .none⟩] }
        nextId := store.nextId + 1 }

/-- A step of `_update_image_mappings_in`. -/
def updateImageMappingIn (product : ExternalProduct) (datacls : ImportedImage) :
    Except ImageError ImageStore :=
  match store.externals.zipIdx.filter fun entry => entry.1.remote.code = datacls.remote.code with
  | [] => .ok (store.create datacls.remote
      ⟨store.nextId, product.ttype, product.odooRecord.getD 0, product.variantCode, none,
        datacls.isCover, none, .none⟩)
  | [(external, index)] =>
      .ok (store.createOrUpdateImageMappingIn product datacls.isCover index external)
  | _ => .error .expectedSingleton

/-- First part of `_process_images_in`. -/
def processImagesIn (external : ExternalTemplate) (images : List ImportedImage) :
    Except ImageError ImageStore :=
  let imported := external.products.flatMap fun product =>
    (images.filter fun image =>
      match product.ttype with
      | .template => image.ttype = .template
      | .variant => image.ttype = .variant && image.variantCode = product.variantCode).map
        fun image => (product, image)
  match imported.foldlM (fun store entry => store.updateImageMappingIn entry.1 entry.2)
      store.markImageMappingsAsPending with
  | .error error => .error error
  | .ok store => .ok store.unlinkImageMappingsPending

/-- Images of Odoo are deleted. -/
def imagesDeleted (images : List ℕ) : ImageStore :=
  store.mapMappings fun mappings => mappings.map fun mapping =>
    if (mapping.imageId.any fun image => images.contains image) then
      { mapping with imageId := none }
    else mapping

/-- A step of `_sync_images_data_in`: the image of a mapping is received, and a new one replaces it
in Odoo unless it is a cover. -/
def receiveImage (mappingId newImage : ℕ) (checksum : Option String) : ImageStore :=
  match store.allImageMappingIds.find? fun mapping => mapping.id = mappingId with
  | none => store
  | some mapping =>
      (store.imagesDeleted mapping.imageId.toList).write { mapping with
        imageId := if mapping.isCover then none else some newImage
        checksum := checksum }

end ImageStore

/-! ## Runs -/

/-- What happens to the mappings of a template. Odoo's products and images and the mapped records
may be others each time. -/
inductive ImageAction where
  | imported (external : ExternalTemplate) (images : List ImageStore.ImportedImage)
  | received (mappingId newImage : ℕ) (checksum : Option String)
  | imagesDeleted (images : List ℕ)
  | erased
  | exported (odoo : OdooImages) (external : ExternalTemplate)
      (answer : ExternalImage → RemoteImage)

/-- An action, which an error undoes. -/
def ImageStore.step (store : ImageStore) : ImageAction → ImageStore
  | .imported external images =>
      match store.processImagesIn external images with
      | .ok after => after
      | .error _ => store
  | .received mappingId newImage checksum => store.receiveImage mappingId newImage checksum
  | .imagesDeleted images => store.imagesDeleted images
  | .erased => store.unlinkAll
  | .exported odoo external answer =>
      match store.toImagesExportFormat odoo external with
      | .ok (after, dataclsList) => after.syncImagesDataOut odoo answer dataclsList
      | .error _ => store

end OdooConnector.Catalog
