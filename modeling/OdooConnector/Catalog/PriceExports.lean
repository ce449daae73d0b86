import OdooConnector.Catalog.PriceBatches
import OdooConnector.Library.Deliveries
import OdooConnector.Library.Run

/-!
# Jobs that export prices

Prices of catalogs are exported in numbered batches, specific prices of pricelists in numbered
blocks of templates. The identity of a job names the batch or the block, or the pricelists of the
items that are to be exported, and not what the job exports.
-/

namespace OdooConnector.Catalog

/-- What the prices of a store belong to: a variant or a template of a catalog, or a template with
specific prices. -/
inductive PricedProduct where
  | variant (lineId : ℕ) (code : String)
  | publication (lineId : ℕ) (code : String)
  | template (integrationId : ℕ) (templateId : ℕ)
deriving DecidableEq

/-- A fixed price with its compare-at price, or none; a place in a catalog; or the specific prices
of a template. -/
inductive PriceValue (PriceData : Type*) where
  | fixedPrice (price : Option (ℚ × Option ℚ))
  | publication (included excluded : Bool)
  | specificPrices (data : PriceData) (updating : Bool)
deriving DecidableEq

/-- What `export_pricelists_multi` is asked to export. -/
structure PricelistArgs where
  pricelistIds : List ℕ
  itemIds : List ℕ
  updating : Bool

inductive ExportKey where
  | createPriceBatches (lineId : ℕ)
  | pricelistBatch (lineId batchNumber batchCount : ℕ)
  | prepareSpecificPrices (integrationId : ℕ) (pricelistIds : List ℕ)
  | specificPricesBlock (integrationId idx : ℕ)
  | specificPricesTemplate (integrationId templateId : ℕ)
deriving DecidableEq

inductive ExportWork (PriceData : Type*) where
  | createPriceBatches (lineId : ℕ)
  | exportPrices (lineId : ℕ) (batch : PriceBatch)
  | exportPricelistsMulti (integrationId : ℕ) (args : PricelistArgs)
  | exportPricelistData (integrationId : ℕ) (block : List (ℕ × PriceData)) (updating : Bool)
  | exportPricelistsOne (integrationId templateId : ℕ)

/-- What a trigger asks for that is computed later. -/
inductive PriceRequest where
  | line (lineId : ℕ)
  | item (integrationId itemId : ℕ)
  | pricelist (integrationId pricelistId : ℕ)
  | everything (integrationId : ℕ)
  | template (integrationId templateId : ℕ)
deriving DecidableEq

def PricelistArgs.requests (integrationId : ℕ) (args : PricelistArgs) : List PriceRequest :=
  if args.pricelistIds = [] ∧ args.itemIds = [] then [.everything integrationId]
  else args.itemIds.map (.item integrationId) ++ args.pricelistIds.map (.pricelist integrationId)

/-- The database when prices are computed. -/
structure PriceDatabase (PriceData : Type*) where
  catalogLine : ℕ → CatalogLine
  /-- Pairs of external variants and products of the line's integration. -/
  recordList : ℕ → List Pair
  pricelistOfItem : ℕ → ℕ
  searchTemplates : ℕ → PricelistArgs → List ℕ
  /-- The template and all its variants are mapped. -/
  isMapped : ℕ → ℕ → Bool
  convertPricelists : ℕ → ℕ → PricelistArgs → Option PriceData
  hasNoDuplicates : PriceData → Bool
  isValid : PriceData → Bool

variable {PriceData : Type*}

abbrev ExportJob (PriceData : Type*) := Job ExportKey (ExportWork PriceData)

/-- The state of the exports: waiting jobs, latest values and requests, and what the stores have. -/
abbrev PriceExports (PriceData : Type*) :=
  Deliveries ExportKey (ExportWork PriceData) PricedProduct (PriceValue PriceData) PriceRequest

/-! ## What the jobs export -/

/-- The fixed price that a batch sets for a variant or deletes. -/
def PriceBatch.fixedPrice (batch : PriceBatch) (code : String) : Option (Option (ℚ × Option ℚ)) :=
  if code ∈ batch.variantToDelete then some none
  else (batch.pricesToAdd.reverse.find? fun row => row.externalVariantId = code).map fun row =>
    some (row.price, row.compareAtPrice)

/-- The place that a batch gives a template in the catalog. -/
def PriceBatch.publication (batch : PriceBatch) (code : String) : Option (Bool × Bool) :=
  if code ∈ batch.productToInclude ∨ code ∈ batch.productToExclude then
    some (code ∈ batch.productToInclude, code ∈ batch.productToExclude)
  else none

/-- The values that a job has in its arguments or in the batch that it is bound to. -/
def ExportWork.carries : ExportWork PriceData → PricedProduct → Option (PriceValue PriceData)
  | .exportPrices lineId batch, .variant ownId code =>
      if ownId = lineId then (batch.fixedPrice code).map .fixedPrice else none
  | .exportPrices lineId batch, .publication ownId code =>
      if ownId = lineId then
        (batch.publication code).map fun place => .publication place.1 place.2
      else none
  | .exportPricelistData integrationId block updating, .template ownId templateId =>
      if ownId = integrationId then
        (block.reverse.find? fun row => row.1 = templateId).map fun row =>
          .specificPrices row.2 updating
      else none
  | _, _ => none

/-- The requests that a job computes prices for when it runs. -/
def ExportWork.answers : ExportWork PriceData → List PriceRequest
  | .createPriceBatches lineId => [.line lineId]
  | .exportPricelistsMulti integrationId args => args.requests integrationId
  | .exportPricelistsOne integrationId templateId => [.template integrationId templateId]
  | .exportPrices .. | .exportPricelistData .. => []

namespace PriceDatabase

variable (odoo : PriceDatabase PriceData)

/-- `create_job` of a batch. -/
def createJob (lineId : ℕ) (batch : PriceBatch) : ExportJob PriceData :=
  ⟨.pricelistBatch lineId batch.batchNumber batch.batchCount, .exportPrices lineId batch⟩

/-- `create_price_batches` of a catalog line: the jobs of its batches, or none after an error. -/
def createPriceBatches (lineId : ℕ) : List (ExportJob PriceData) :=
  match (odoo.catalogLine lineId).createPriceBatches true (odoo.recordList lineId) with
  | none => []
  | some batches => batches.map (createJob lineId)

/-- State of the loop of `export_pricelists_multi`. -/
structure MultiLoop (PriceData : Type*) where
  blockNumber : ℕ
  blockList : List (ℕ × PriceData)
  invalidTemplateIds : List ℕ
  calls : List (ExportJob PriceData)

def exportExternalBlock : ℕ := 500

def MultiLoop.release (integrationId : ℕ) (updating : Bool) (loop : MultiLoop PriceData) :
    MultiLoop PriceData :=
  { loop with
    blockNumber := loop.blockNumber + 1
    blockList := []
    calls := loop.calls ++ [⟨.specificPricesBlock integrationId loop.blockNumber,
      .exportPricelistData integrationId loop.blockList updating⟩] }

def MultiLoop.releaseFull (integrationId : ℕ) (updating : Bool) (loop : MultiLoop PriceData) :
    MultiLoop PriceData :=
  if exportExternalBlock / 10 ≤ loop.blockList.length then loop.release integrationId updating
  else loop

def addTemplate (integrationId : ℕ) (args : PricelistArgs) (loop : MultiLoop PriceData)
    (templateId : ℕ) : MultiLoop PriceData :=
  if !odoo.isMapped integrationId templateId then loop
  else
    match odoo.convertPricelists integrationId templateId args with
    | none => loop.releaseFull integrationId args.updating
    | some data =>
        if !odoo.hasNoDuplicates data then
          { loop with invalidTemplateIds := loop.invalidTemplateIds ++ [templateId] }
        else if odoo.isValid data then
          { loop with blockList := loop.blockList ++ [(templateId, data)] }.releaseFull
            integrationId args.updating
        else
          { loop with invalidTemplateIds := loop.invalidTemplateIds ++ [templateId] }.releaseFull
            integrationId args.updating

/-- The jobs that `export_pricelists_multi` releases. -/
def exportPricelistsMulti (integrationId : ℕ) (args : PricelistArgs) :
    List (ExportJob PriceData) :=
  let loop := (odoo.searchTemplates integrationId args).foldl
    (odoo.addTemplate integrationId args) ⟨1, [], [], []⟩
  let loop := if loop.blockList = [] then loop else loop.release integrationId args.updating
  loop.calls ++ loop.invalidTemplateIds.map fun templateId =>
    ⟨.specificPricesTemplate integrationId templateId,
      .exportPricelistsOne integrationId templateId⟩

/-- The values that `export_pricelists_one` computes and sends, unless it raises an error. -/
def exportPricelistsOne (integrationId templateId : ℕ) (product : PricedProduct) :
    Option (PriceValue PriceData) :=
  if product = .template integrationId templateId then
    ((odoo.convertPricelists integrationId templateId ⟨[], [], false⟩).filter fun data =>
      odoo.hasNoDuplicates data && odoo.isValid data).map fun data => .specificPrices data false
  else none

/-- The jobs that a job releases when it runs. -/
def calls : ExportWork PriceData → List (ExportJob PriceData)
  | .createPriceBatches lineId => odoo.createPriceBatches lineId
  | .exportPricelistsMulti integrationId args => odoo.exportPricelistsMulti integrationId args
  | _ => []

/-- The values that a job computes and sends at once. -/
def sendsNow : ExportWork PriceData → PricedProduct → Option (PriceValue PriceData)
  | .exportPricelistsOne integrationId templateId =>
      odoo.exportPricelistsOne integrationId templateId
  | _ => fun _ => none

end PriceDatabase

/-- A trigger of exports, or the start of a waiting job, with the database at that time. -/
inductive ExportAction (PriceData : Type*) where
  | createPriceBatches (odoo : PriceDatabase PriceData) (lineId : ℕ)
  | createPriceBatchesWithDelay (lineId : ℕ)
  | triggerUpdateItems (odoo : PriceDatabase PriceData) (integrationId : ℕ) (itemIds : List ℕ)
      (forceSyncPricelist : Bool)
  | triggerForceExport (integrationId : ℕ) (pricelistIds : List ℕ)
  | exportPricelistsMulti (odoo : PriceDatabase PriceData) (integrationId : ℕ)
      (args : PricelistArgs)
  | start (odoo : PriceDatabase PriceData) (idx : ℕ)

/-- The jobs that a trigger calls. -/
def ExportAction.calls : ExportAction PriceData → List (ExportJob PriceData)
  | .createPriceBatches odoo lineId => odoo.createPriceBatches lineId
  | .createPriceBatchesWithDelay lineId =>
      [⟨.createPriceBatches lineId, .createPriceBatches lineId⟩]
  | .triggerUpdateItems odoo integrationId itemIds forceSyncPricelist =>
      if itemIds = [] ∧ forceSyncPricelist = false then []
      else
        [⟨.prepareSpecificPrices integrationId (itemIds.map odoo.pricelistOfItem).eraseDups,
          .exportPricelistsMulti integrationId ⟨[], itemIds, true⟩⟩]
  | .triggerForceExport integrationId pricelistIds =>
      [⟨.prepareSpecificPrices integrationId pricelistIds,
        .exportPricelistsMulti integrationId ⟨pricelistIds, [], false⟩⟩]
  | .exportPricelistsMulti odoo integrationId args => odoo.exportPricelistsMulti integrationId args
  | .start .. => []

namespace PriceExports

/-- The job at a place of the queue starts. -/
def started (state : PriceExports PriceData) (idx : ℕ) (job : ExportJob PriceData) :
    PriceExports PriceData :=
  state.deliver ExportWork.carries ExportWork.answers job (state.jobs.eraseIdx idx)

def step (state : PriceExports PriceData) (action : ExportAction PriceData) :
    PriceExports PriceData :=
  match action with
  | .start odoo idx =>
      match state.jobs[idx]? with
      | none => state
      | some job =>
          ((started state idx job).sendNow (odoo.sendsNow job.work)).trigger ExportWork.carries
            ExportWork.answers (odoo.calls job.work)
  | action => state.trigger ExportWork.carries ExportWork.answers action.calls

end PriceExports

end OdooConnector.Catalog
