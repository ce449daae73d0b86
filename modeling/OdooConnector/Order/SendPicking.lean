import Mathlib.Data.Finset.Card
import Mathlib.Data.List.Sort
import OdooConnector.Store.Shop

/-!
# Sending pickings to the store

A picking is sent as fulfillments of the open fulfillment orders. When it has a location, a first
pass finds out what has to be moved there, and splits and moves fulfillment orders; a second pass
over the orders read again makes the fulfillments.
-/

namespace OdooConnector.Order

open Store

structure TrackingLine where
  id : ℕ
  qty : ℕ
  deriving DecidableEq

/-- Data of a picking; a missing location is zero. -/
structure TrackingPicking where
  externalLocationId : ℕ
  lines : List TrackingLine
  carrierCode : String
  tracking : String
  carrierTrackingUrl : Option String
  deriving DecidableEq

/-- A call that creates a fulfillment, with the fulfillment order as the connector has read it. -/
structure Fulfillment where
  fulfillmentOrder : FulfillmentOrder
  carrier : String
  trackingNumbers : List String
  url : Option String
  linesData : List LineData
  notifyCustomer : Bool
  deriving DecidableEq

/-- Open fulfillment orders of the order; the query reads one page of them. -/
def getFulfillmentOrders (orders : List FulfillmentOrder) : List FulfillmentOrder :=
  (orders.take 25).filter fun order =>
    order.status.openOrInProgress && order.lineItems ≠ []

/-- What a fulfillment order gives to the lines of a picking, and what the lines still need. -/
def takeLines (order : FulfillmentOrder) :
    List TrackingLine → List LineData × List TrackingLine
  | [] => ([], [])
  | line :: lines =>
      let (linesData, left) := takeLines order lines
      match order.prepareFulfillmentSingleLineData line.id line.qty with
      | none => (linesData, line :: left)
      | some data => (data :: linesData, { line with qty := line.qty - data.quantity } :: left)

/-- Lines after all given fulfillment orders were used. -/
def useOrders (orders : List FulfillmentOrder) (lines : List TrackingLine) : List TrackingLine :=
  orders.foldl (fun left order => (takeLines order left).2) lines

def listsAreEqual (left right : List LineData) : Bool :=
  left.toFinset = right.toFinset

/-- Number of ids that are both in the picking and in the order. The order has strings and the
picking has numbers. -/
def matchingLines (lines : List TrackingLine) (order : FulfillmentOrder) : ℕ :=
  let lineItemIds : List (String ⊕ ℕ) :=
    (order.lineItems.filter fun line => line.remainingQuantity ≠ 0).map fun line =>
      .inl (toString line.saleLineItem)
  let lineIdsToFulfill : List (String ⊕ ℕ) := lines.map fun line => .inr line.id
  (lineItemIds.toFinset ∩ lineIdsToFulfill.toFinset).card

variable (shop : Shop)

/-- Move an order, unless it is at the location already. -/
def moveOrder (locationId : ℕ) (order : FulfillmentOrder) (store : List FulfillmentOrder) :
    List FulfillmentOrder :=
  if order.location = locationId then store else shop.move order.id locationId store

/-- Move what the lines need from orders at other locations; tells whether anything was moved. -/
def moveOrders (locationId : ℕ) : List FulfillmentOrder → List TrackingLine →
    List FulfillmentOrder → List FulfillmentOrder × Bool
  | [], _, store => (store, false)
  | order :: orders, lines, store =>
      let (linesToMove, left) := takeLines order lines
      let moved :=
        if linesToMove = [] then store
        else if listsAreEqual linesToMove order.prepareFulfillmentLinesData then
          moveOrder shop locationId order store
        else
          let (newOrder, split) := shop.split order.id linesToMove store
          moveOrder shop locationId newOrder split
      if left.all fun line => line.qty = 0 then (moved, linesToMove ≠ [])
      else
        let (final, others) := moveOrders locationId orders left moved
        (final, linesToMove ≠ [] || others)

def prepareFulfillmentOrders (picking : TrackingPicking) (orders store : List FulfillmentOrder) :
    List FulfillmentOrder × Bool :=
  let locationId := picking.externalLocationId
  let sameLocation := orders.filter fun order => order.location = locationId
  let differentLocation := orders.filter fun order => order.location ≠ locationId
  let lines := (useOrders sameLocation picking.lines).filter fun line => line.qty ≠ 0
  if lines = [] then (store, false)
  else
    let sorted := differentLocation.insertionSort fun left right =>
      matchingLines lines left ≥ matchingLines lines right
    moveOrders shop locationId sorted lines store

/-- Fulfill the orders one after the other until the lines need nothing more. -/
def fulfillOrders (picking : TrackingPicking) (forceDone : Bool) :
    List FulfillmentOrder → List TrackingLine → List FulfillmentOrder →
      List FulfillmentOrder × List Fulfillment
  | [], _, store => (store, [])
  | order :: orders, lines, store =>
      let (linesData, left) :=
        if forceDone then (order.prepareFulfillmentLinesData, lines) else takeLines order lines
      let (fulfilled, made) :=
        if linesData = [] then (store, [])
        else
          (shop.fulfill order.id linesData store,
            [{ fulfillmentOrder := order
               carrier := picking.carrierCode
               trackingNumbers := if picking.tracking = "" then [] else [picking.tracking]
               url := picking.carrierTrackingUrl
               linesData
               notifyCustomer := true }])
      if !forceDone && left.all fun line => line.qty = 0 then (fulfilled, made)
      else
        let (final, others) := fulfillOrders picking forceDone orders left fulfilled
        (final, made ++ others)

/-- Orders of the picking's location first. -/
def sameLocationFirst (locationId : ℕ) (orders : List FulfillmentOrder) : List FulfillmentOrder :=
  orders.insertionSort fun left right =>
    (decide (left.location = locationId)).toNat ≥ (decide (right.location = locationId)).toNat

def sendPicking (picking : TrackingPicking) (forceDone : Bool) (store : List FulfillmentOrder) :
    List FulfillmentOrder × List Fulfillment :=
  let orders := getFulfillmentOrders store
  if picking.externalLocationId = 0 then
    fulfillOrders shop picking forceDone orders picking.lines store
  else
    let (prepared, isAnythingWasMoved) := prepareFulfillmentOrders shop picking orders store
    let refreshed := if isAnythingWasMoved then getFulfillmentOrders prepared else orders
    fulfillOrders shop picking forceDone
      (sameLocationFirst picking.externalLocationId refreshed) picking.lines prepared

/-- Send pickings in turn; only the last one may be forced. -/
def sendPickings (forceDone : Bool) : List TrackingPicking → List FulfillmentOrder →
    List FulfillmentOrder × List Fulfillment
  | [], store => (store, [])
  | picking :: pickings, store =>
      let (sent, made) := sendPicking shop picking (forceDone && pickings = []) store
      let (final, others) := sendPickings forceDone pickings sent
      (final, made ++ others)

/-- Pickings with the greatest location first. -/
def exportTracking (trackingDataList : List TrackingPicking) (forceDone : Bool)
    (store : List FulfillmentOrder) : List FulfillmentOrder × List Fulfillment :=
  sendPickings shop forceDone
    (trackingDataList.insertionSort fun left right =>
      left.externalLocationId ≥ right.externalLocationId) store

end OdooConnector.Order
