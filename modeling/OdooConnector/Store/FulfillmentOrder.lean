import Mathlib.Algebra.GroupWithZero.Nat
import Mathlib.Algebra.Order.BigOperators.Group.List
import Mathlib.Algebra.Order.Group.Nat

/-!
# Fulfillment orders

A store order is fulfilled through fulfillment orders. Each belongs to a location and holds, for
the lines of the order, a total and a remaining quantity. Ids are the numbers in the store's
global ids.
-/

namespace OdooConnector.Store

inductive FulfillmentOrderStatus
  | cancelled
  | closed
  | incomplete
  | inProgress
  | onHold
  | «open»
  | scheduled
  deriving DecidableEq

namespace FulfillmentOrderStatus

def openOrInProgress (status : FulfillmentOrderStatus) : Bool :=
  status = .open ∨ status = .inProgress

end FulfillmentOrderStatus

/-- Line of a fulfillment order; `saleLineItem` is the id of the order line. -/
structure FulfillmentOrderLineItem where
  id : ℕ
  saleLineItem : ℕ
  totalQuantity : ℕ
  remainingQuantity : ℕ
  deriving DecidableEq

/-- Quantity of a line of a fulfillment order, by the id of this line. -/
structure LineData where
  id : ℕ
  quantity : ℕ
  deriving DecidableEq

/-- Fulfillment order; a missing assigned location has id zero. -/
structure FulfillmentOrder where
  id : ℕ
  status : FulfillmentOrderStatus
  location : ℕ
  lineItems : List FulfillmentOrderLineItem
  deriving DecidableEq

namespace FulfillmentOrder

def isClosed (order : FulfillmentOrder) : Bool :=
  order.status = .closed

def isCancelled (order : FulfillmentOrder) : Bool :=
  order.status = .cancelled

def closedBeforeFulfill (order : FulfillmentOrder) : Bool :=
  order.isClosed && order.lineItems.all fun line =>
    line.totalQuantity = line.remainingQuantity

/-- First line that still has something of an order line. -/
def getFulfillmentLine (order : FulfillmentOrder) (saleLineId : ℕ) :
    Option FulfillmentOrderLineItem :=
  order.lineItems.find? fun line =>
    line.remainingQuantity ≠ 0 && line.saleLineItem = saleLineId

/-- Everything that remains. -/
def prepareFulfillmentLinesData (order : FulfillmentOrder) : List LineData :=
  (order.lineItems.filter fun line => line.remainingQuantity ≠ 0).map fun line =>
    { id := line.id, quantity := line.remainingQuantity }

/-- As much of an order line as is asked for and remains. -/
def prepareFulfillmentSingleLineData (order : FulfillmentOrder) (saleLineId qty : ℕ) :
    Option LineData :=
  if qty ≤ 0 then none
  else
    match order.getFulfillmentLine saleLineId with
    | none => none
    | some line =>
        let pendingQty := line.remainingQuantity
        if pendingQty = 0 then none
        else some { id := line.id, quantity := if qty > pendingQty then pendingQty else qty }

end FulfillmentOrder
end OdooConnector.Store
