import OdooConnector.Inventory.Reservation
import OdooConnector.Library.Run
import OdooConnector.Library.Upsert

/-!
# External fulfillments of an order

Fulfillments that the store reports are kept as records of the order, known by their positions. A
record is validated by delivering a pending picking that holds its lines, and exporting pickings
makes the store report fulfillments of its own.
-/

namespace OdooConnector.Order

open Inventory (MoveState)

/-- States of a picking. -/
inductive PickingState where
  | draft
  | waiting
  | confirmed
  | assigned
  | done
  | cancel
deriving DecidableEq

/-- A move of a picking, with what is left to deliver of its order line. -/
structure DeliveryMove where
  state : MoveState
  integrationExternalId : String
  quantity : ℚ
  productQty : ℚ
  qtyToDeliver : Option ℚ

def DeliveryMove.hasEnoughQty (move : DeliveryMove) : Bool := move.quantity ≤ move.productQty

structure DeliveryPicking where
  id : ℕ
  state : PickingState
  moves : List DeliveryMove
  warehouseId : Option ℕ
  trackingExported : Bool

/-- One line of an external fulfillment. -/
structure FulfillmentLine where
  externalStrId : String
  quantity : ℤ

namespace DeliveryPicking

def getMovesByExternalLine (picking : DeliveryPicking) (lineId : String) : List DeliveryMove :=
  picking.moves.filter fun move =>
    move.state ≠ .done && move.state ≠ .cancel && move.integrationExternalId = lineId &&
      move.hasEnoughQty

def checkQtyAvailability (picking : DeliveryPicking) (lineId : String) (qty : ℤ) : Bool :=
  ((picking.getMovesByExternalLine lineId).filterMap DeliveryMove.qtyToDeliver).any
    fun toDeliver => qty ≤ toDeliver

/-- Whether the picking holds all lines of a fulfillment. -/
def checkForFulfill (picking : DeliveryPicking) (lines : List FulfillmentLine) : Bool :=
  lines.all fun line => picking.checkQtyAvailability line.externalStrId line.quantity

/-- A picking that can still be delivered. -/
def toHandle (picking : DeliveryPicking) : Bool :=
  picking.state = .confirmed || picking.state = .assigned

end DeliveryPicking

/-- How far a record has been processed in Odoo. -/
inductive InternalStatus where
  | draft
  | skipped
  | failed
  | done
deriving DecidableEq

/-- A fulfillment as the store reports it. -/
structure FulfillmentData where
  externalStrId : String
  externalStatus : String
  externalLocationId : String
  lines : List FulfillmentLine

structure ExternalOrderFulfillment extends FulfillmentData where
  internalStatus : InternalStatus
  internalInfo : Option String

namespace ExternalOrderFulfillment

variable (record : ExternalOrderFulfillment)

def isDone : Bool := record.internalStatus = .done

def isEcommerceOk : Bool := record.externalStatus = "success"

def mark (status : InternalStatus) : ExternalOrderFulfillment :=
  { record with internalStatus := status }

def setInfo (info : Option String) : ExternalOrderFulfillment :=
  { record with internalInfo := info }

/-- A new record for reported data, in a given status or in the default one. -/
def create (status : Option InternalStatus) (data : FulfillmentData) : ExternalOrderFulfillment :=
  ⟨data, status.getD .draft, none⟩

/-- Overwrite a record by reported data. -/
def writeExternal (status : Option InternalStatus) (data : FulfillmentData) :
    ExternalOrderFulfillment :=
  { record with toFulfillmentData := data, internalStatus := status.getD record.internalStatus }

@[simp]
theorem mark_externalStrId (status : InternalStatus) :
    (record.mark status).externalStrId = record.externalStrId := rfl

@[simp]
theorem setInfo_externalStrId (info : Option String) :
    (record.setInfo info).externalStrId = record.externalStrId := rfl

@[simp]
theorem setInfo_isDone (info : Option String) : (record.setInfo info).isDone = record.isDone := rfl

@[simp]
theorem mark_isDone (status : InternalStatus) :
    (record.mark status).isDone = decide (status = .done) := rfl

end ExternalOrderFulfillment

/-- A picking that was validated for a fulfillment whose lines it held. -/
structure Delivery where
  index : ℕ
  fulfillment : ExternalOrderFulfillment
  picking : DeliveryPicking
  holds : picking.checkForFulfill fulfillment.lines = true

/-- What `button_validate` does with a picking: it delivers it and leaves backorders, it returns a
wizard that waits for input, or it raises, before or after it has delivered the picking. -/
inductive ValidationOutcome where
  | validated (backorders : List DeliveryPicking)
  | wizard
  | error (message : String)
  | errorAfter (backorders : List DeliveryPicking) (message : String)

/-- An order with its pickings and external fulfillments; the last two fields remember which
pickings were really validated, and which fulfillments the store made for exported pickings. -/
structure FulfilledOrder where
  pickings : List DeliveryPicking
  fulfillments : List ExternalOrderFulfillment
  isConfirmed : Bool
  isAvailableMultiStock : Bool
  applyExternalFulfillments : Bool
  whFromExternalLocation : String → Option ℕ
  deliveries : List Delivery
  exported : List String

namespace FulfilledOrder

/-- Change a record. -/
def modifyRecord (order : FulfilledOrder) (index : ℕ)
    (change : ExternalOrderFulfillment → ExternalOrderFulfillment) : FulfilledOrder :=
  { order with fulfillments := order.fulfillments.modify index change }

def modifyPickings (order : FulfilledOrder) (ids : List ℕ)
    (change : DeliveryPicking → DeliveryPicking) : FulfilledOrder :=
  { order with pickings := order.pickings.map fun picking =>
      if picking.id ∈ ids then change picking else picking }

def markIntegrationSent (order : FulfilledOrder) (ids : List ℕ) : FulfilledOrder :=
  order.modifyPickings ids fun picking => { picking with trackingExported := true }

/-- Pending pickings of the order, of the fulfillment's warehouse if there are several. -/
def getPickings (order : FulfilledOrder) (record : ExternalOrderFulfillment) :
    List DeliveryPicking :=
  let pickings := order.pickings.filter DeliveryPicking.toHandle
  if order.isAvailableMultiStock then
    match order.whFromExternalLocation record.externalLocationId with
    | some warehouse => pickings.filter fun picking => picking.warehouseId = some warehouse
    | none => pickings
  else pickings

/-- The picking is delivered, and what it leaves undelivered waits in backorders. -/
def deliver (order : FulfilledOrder) (delivery : Delivery) (backorders : List DeliveryPicking) :
    FulfilledOrder :=
  let order := order.modifyPickings [delivery.picking.id] fun picking =>
    { picking with state := .done }
  { order with
    pickings := order.pickings ++ backorders
    deliveries := order.deliveries ++ [delivery] }

/-- `_validate` of a record, with what `button_validate` does if it is called; it returns whether
the record counts as processed, and the picking. -/
def validateRecord (order : FulfilledOrder) (index : ℕ) (record : ExternalOrderFulfillment)
    (outcome : ValidationOutcome) : FulfilledOrder × Bool × List ℕ :=
  let order := order.modifyRecord index fun record => record.setInfo none
  if record.isDone then (order, true, [])
  else if !record.isEcommerceOk then
    (order.modifyRecord index fun record => (record.setInfo
      (some "Fulfillment skipped - external status does not allow processing")).mark .skipped,
      false, [])
  else if order.getPickings record = [] then
    (order.modifyRecord index fun record => (record.setInfo
      (some "No pending deliveries found for this order")).mark .done, true, [])
  else
    match found : (order.getPickings record).find? fun picking =>
        picking.checkForFulfill record.lines with
    | none =>
        (order.modifyRecord index fun record => record.setInfo
          (some "No matching delivery found for the fulfilled items"), false, [])
    | some picking =>
        let delivery := ⟨index, record, picking, by simpa using List.find?_some found⟩
        let failed (message : String) (record : ExternalOrderFulfillment) :=
          (record.setInfo (some ("Delivery validation failed: " ++ message))).mark .failed
        match outcome with
        | .error message => (order.modifyRecord index (failed message), false, [])
        | .errorAfter backorders message =>
            -- what was done before the error is not taken back
            ((order.deliver delivery backorders).modifyRecord index (failed message), false, [])
        | .wizard =>
            ((order.markIntegrationSent [picking.id]).modifyRecord index fun record =>
              record.mark .done, true, [picking.id])
        | .validated backorders =>
            (((order.deliver delivery backorders).markIntegrationSent [picking.id]).modifyRecord
              index fun record => record.mark .done, true, [picking.id])

/-- `_validate` of a record. -/
def validate (order : FulfilledOrder) (index : ℕ) (outcome : ValidationOutcome) :
    FulfilledOrder × Bool × List ℕ :=
  match order.fulfillments[index]? with
  | some record => order.validateRecord index record outcome
  | none => (order, false, [])

/-- Records that the store reports as successful and that are not done. -/
def toValidate (order : FulfilledOrder) : List ℕ :=
  (List.range order.fulfillments.length).filter fun index =>
    (order.fulfillments[index]?).any fun record => record.isEcommerceOk && !record.isDone

/-- `_integration_apply_external_fulfillments`: validate every record that the store reports as
successful and that is not done. -/
def integrationApplyExternalFulfillments (order : FulfilledOrder)
    (outcomes : ℕ → ValidationOutcome) : FulfilledOrder :=
  if order.applyExternalFulfillments then
    order.toValidate.foldl (fun order index => (order.validate index (outcomes index)).1) order
  else order

/-- Find or create a record for each reported fulfillment. A created record is found only after it
was linked to the order, at the end. -/
def storeFulfillments (status : Option InternalStatus) (order : FulfilledOrder)
    (data : List FulfillmentData) : FulfilledOrder :=
  { order with
    fulfillments := upsertBatch (fun record => record.externalStrId)
      (fun report => report.externalStrId) (fun report record => record.writeExternal status report)
      (fun report => .create status report) order.fulfillments data }

/-- `_apply_values_from_external` with reported fulfillments. -/
def applyValuesFromExternal (order : FulfilledOrder) (status : Option InternalStatus)
    (data : List FulfillmentData) (outcomes : ℕ → ValidationOutcome) : FulfilledOrder :=
  let order := order.storeFulfillments status data
  if order.isConfirmed then order.integrationApplyExternalFulfillments outcomes else order

/-- All external fulfillments of the order are marked done. -/
def markDone (order : FulfilledOrder) : FulfilledOrder :=
  { order with fulfillments := order.fulfillments.map fun record => record.mark .done }

/-- The store answers an export with the fulfillments that it made. -/
def recordExport (order : FulfilledOrder) (result : List FulfillmentData) : FulfilledOrder :=
  { order with exported := order.exported ++ result.map FulfillmentData.externalStrId }

/-- `export_tracking` of a Shopify integration, up to the marking of the records. -/
def exportedOrder (order : FulfilledOrder) (pickings : List ℕ) (result : List FulfillmentData)
    (outcomes : ℕ → ValidationOutcome) : FulfilledOrder :=
  ((order.recordExport result).markIntegrationSent pickings).applyValuesFromExternal none result
    outcomes

/-- `export_tracking` of a Shopify integration, with the answer of the store. -/
def exportTracking (order : FulfilledOrder) (pickings : List ℕ) (result : List FulfillmentData)
    (outcomes : ℕ → ValidationOutcome) : FulfilledOrder :=
  if result = [] then order else (order.exportedOrder pickings result outcomes).markDone

/-- `send_picking`, with the answer of the store. -/
def sendPicking (order : FulfilledOrder) (picking : ℕ) (result : List FulfillmentData)
    (outcomes : ℕ → ValidationOutcome) : FulfilledOrder :=
  if result = [] then order
  else ((order.recordExport result).markIntegrationSent [picking]).applyValuesFromExternal
    (some .done) result outcomes

end FulfilledOrder

end OdooConnector.Order
