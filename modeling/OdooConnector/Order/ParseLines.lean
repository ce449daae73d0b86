import OdooConnector.Library.Dict
import OdooConnector.Library.Rounding
import OdooConnector.Store.FulfillmentOrder

/-!
# Order lines by location

An imported order is split over the locations of its fulfillment orders. Every line item keeps the
quantity that is still to be placed, and every usable fulfillment order takes from it. Amounts of
money are rational numbers.
-/

namespace OdooConnector.Order

open Store

/-- Amount in the currency of the customer and in that of the shop. -/
structure MoneyBag where
  presentmentMoney : Option ℚ
  shopMoney : Option ℚ
  deriving DecidableEq

def MoneyBag.getAmount (useCustomerCurrency : Bool) (bag : MoneyBag) : ℚ :=
  (if useCustomerCurrency then bag.presentmentMoney else bag.shopMoney).getD 0

/-- Tax of an order line; `ratePercentage` is the number as it is printed. -/
structure TaxLine where
  title : String
  ratePercentage : String
  rate : ℚ
  shopAmount : ℚ
  deriving DecidableEq

/-- A tax with a rate but without an amount. -/
def TaxLine.isZeroAmountTax (tax : TaxLine) : Bool :=
  tax.rate ≠ 0 ∧ tax.shopAmount = 0

def TaxLine.toOdooFormat (taxesIncluded : Bool) (tax : TaxLine) : String :=
  let taxOption := if taxesIncluded then "included" else "excluded"
  tax.title ++ " " ++ tax.ratePercentage ++ "% [" ++ taxOption ++ "]"

structure DiscountAllocation where
  code : String
  title : String
  allocatedAmountSet : MoneyBag
  deriving DecidableEq

def DiscountAllocation.discountApplication (allocation : DiscountAllocation) : String :=
  if allocation.code = "" then allocation.title else allocation.code

structure ProductVariant where
  productId : ℕ
  id : ℕ
  deriving DecidableEq

def ProductVariant.externalId (variant : ProductVariant) : String :=
  toString variant.productId ++ "-" ++ toString variant.id

structure OrderLineItem where
  id : ℕ
  name : String
  sku : String
  originalUnitPriceSet : MoneyBag
  variant : Option ProductVariant
  currentQuantity : ℕ
  taxLines : List TaxLine
  discountAllocations : List DiscountAllocation
  deriving DecidableEq

structure StoreOrder where
  useCustomerCurrency : Bool
  taxExempt : Bool
  taxesIncludedInPrice : Bool
  orderLineItems : List OrderLineItem
  fulfillmentOrders : List FulfillmentOrder

structure ParsedAllocation where
  code : String
  discountAmount : ℚ
  discountAmountTaxIncl : ℚ
  deriving DecidableEq

structure DiscountTotal where
  discountAmount : ℚ
  discountPercent : ℚ
  discountAmountTaxIncl : ℚ
  deriving DecidableEq

/-- The discount of a line: no total without an amount, no allocations when all are zero. -/
structure ParsedDiscount where
  total : Option DiscountTotal
  discountAllocations : List ParsedAllocation
  deriving DecidableEq

structure ParsedLine where
  id : ℕ
  name : String
  reference : String
  priceUnit : ℚ
  productUomQty : ℕ
  productId : Option String
  priceUnitTaxIncl : ℚ
  taxes : List String
  discount : ParsedDiscount
  externalLocationId : ℕ
  deriving DecidableEq

/-- A line id that the order does not have. -/
structure KeyError where
  key : ℕ
  deriving DecidableEq

/-- Round to four decimals. -/
def roundMoney (amount : ℚ) : ℚ :=
  roundHalfEven (amount * 10 ^ 4) / 10 ^ 4

/-- The number, or one when it is zero. -/
def orOne (value : ℚ) : ℚ :=
  if value = 0 then 1 else value

namespace OrderLineItem

def price (order : StoreOrder) (line : OrderLineItem) : ℚ :=
  line.originalUnitPriceSet.getAmount order.useCustomerCurrency

def parseDiscount (order : StoreOrder) (requestedQuantity : ℕ) (line : OrderLineItem) :
    ParsedDiscount :=
  if line.discountAllocations = [] ∨ line.currentQuantity = 0 then
    { total := none, discountAllocations := [] }
  else
    let getAmount (allocation : DiscountAllocation) :=
      allocation.allocatedAmountSet.getAmount order.useCustomerCurrency
    let share (amount : ℚ) := roundMoney (amount * requestedQuantity / line.currentQuantity)
    let amount := (line.discountAllocations.map getAmount).sum
    { total :=
        if amount = 0 then none
        else some
          { discountAmount := share amount
            discountPercent :=
              100 * share amount / orOne (line.price order) / orOne requestedQuantity
            discountAmountTaxIncl := 0 }
      discountAllocations :=
        (line.discountAllocations.filter fun allocation => getAmount allocation ≠ 0).map
          fun allocation =>
            { code := allocation.discountApplication
              discountAmount := share (getAmount allocation)
              discountAmountTaxIncl := 0 } }

/-- Row of an order line for a requested quantity at a location. -/
def parse (order : StoreOrder) (requestedQuantity location : ℕ) (line : OrderLineItem) :
    ParsedLine where
  id := line.id
  name := line.name
  reference := line.sku
  priceUnit := line.price order
  productUomQty := requestedQuantity
  productId := line.variant.map ProductVariant.externalId
  priceUnitTaxIncl := if order.taxesIncludedInPrice then line.price order else 0
  taxes :=
    if order.taxExempt then []
    else (line.taxLines.filter fun tax => !tax.isZeroAmountTax).map
      (TaxLine.toOdooFormat order.taxesIncludedInPrice)
  discount := line.parseDiscount order requestedQuantity
  externalLocationId := location

/-- Quantity still to be placed; untouched lines still have their whole current quantity. -/
def currentQuantityTmp (tmp : Dict ℕ ℕ) (line : OrderLineItem) : ℕ :=
  (tmp.get? line.id).getD line.currentQuantity

end OrderLineItem

/-- Entries of a fulfillment order that parsing uses: closed orders only count what was shipped. -/
def usableItems (order : FulfillmentOrder) : List (ℕ × ℕ) :=
  if order.isCancelled then []
  else
    let lineItems :=
      if order.isClosed then
        if order.closedBeforeFulfill then []
        else order.lineItems.filter fun line => line.remainingQuantity = 0
      else order.lineItems
    (lineItems.filter fun line => line.totalQuantity ≠ 0).map fun line =>
      (line.saleLineItem, line.totalQuantity)

namespace StoreOrder

/-- The line item with an id; of several the last one. -/
def getOrderLineById (order : StoreOrder) (lineId : ℕ) : Except KeyError OrderLineItem :=
  match (order.orderLineItems.filter fun line => line.id = lineId).getLast? with
  | some line => .ok line
  | none => .error { key := lineId }

def groupLinesByLocation (order : StoreOrder) : List (ℕ × List (ℕ × ℕ)) :=
  (order.fulfillmentOrders.map fun fOrder => (fOrder.location, usableItems fOrder)).filter
    fun group => group.2 ≠ []

/-- Rows for the entries of one fulfillment order, and the quantities left after it. The quantity
of the entry is overwritten before it is used. -/
def parseItems (order : StoreOrder) (location : ℕ) :
    List (ℕ × ℕ) → Dict ℕ ℕ → Except KeyError (List ParsedLine × Dict ℕ ℕ)
  | [], tmp => .ok ([], tmp)
  | (lineId, _) :: items, tmp => do
      let orderLine ← order.getOrderLineById lineId
      let availableQty := orderLine.currentQuantityTmp tmp
      if availableQty ≤ 0 then order.parseItems location items tmp
      else
        let fulfillmentOrderQty := orderLine.currentQuantityTmp tmp
        let requestedQty :=
          if availableQty ≥ fulfillmentOrderQty then fulfillmentOrderQty else availableQty
        let placed := tmp.update orderLine.id fun _ => availableQty - requestedQty
        let (rows, left) ← order.parseItems location items placed
        return (orderLine.parse order requestedQty location :: rows, left)

/-- Rows of every usable fulfillment order. -/
def parseGroups (order : StoreOrder) :
    List (ℕ × List (ℕ × ℕ)) → Dict ℕ ℕ → Except KeyError (List (List ParsedLine))
  | [], _ => .ok []
  | (location, items) :: groups, tmp => do
      let (rows, left) ← order.parseItems location items tmp
      let others ← order.parseGroups groups left
      return rows :: others

/-- Rows of an order, fulfillment order by fulfillment order. -/
def parseLocations (order : StoreOrder) : Except KeyError (List (List ParsedLine)) :=
  order.parseGroups order.groupLinesByLocation ∅

/-- Rows of an order in one list. -/
def parseLines (order : StoreOrder) : Except KeyError (List ParsedLine) :=
  order.parseLocations.map List.flatten

end StoreOrder
end OdooConnector.Order
