import OdooConnector.Library.Replace
import OdooConnector.Store.FulfillmentOrder

/-!
# Remaining quantities

Fulfillments and splits name the lines of a fulfillment order. What they take is compared here
with what remains, by line of the fulfillment order and by order line.
-/

namespace OdooConnector.Store

/-- Quantity that a list of data gives to one line of a fulfillment order. -/
def dataQty (itemId : ℕ) (data : List LineData) : ℕ :=
  ((data.filter fun entry => entry.id = itemId).map LineData.quantity).sum

theorem dataQty_cons (itemId : ℕ) (entry : LineData) (data : List LineData) :
    dataQty itemId (entry :: data) =
      (if entry.id = itemId then entry.quantity else 0) + dataQty itemId data :=
  sum_key_cons LineData.id LineData.quantity itemId entry data

namespace FulfillmentOrder

/-- Remaining quantity of an order line. -/
def remainingQty (saleLineId : ℕ) (order : FulfillmentOrder) : ℕ :=
  ((order.lineItems.filter fun line => line.saleLineItem = saleLineId).map
    FulfillmentOrderLineItem.remainingQuantity).sum

/-- Quantity that a list of data gives to an order line. -/
def lineQty (saleLineId : ℕ) (data : List LineData) (order : FulfillmentOrder) : ℕ :=
  ((order.lineItems.filter fun line => line.saleLineItem = saleLineId).map fun line =>
    dataQty line.id data).sum

/-- At most one line for each order line. -/
structure WellFormed (order : FulfillmentOrder) : Prop where
  id_nodup : (order.lineItems.map FulfillmentOrderLineItem.id).Nodup
  saleLineItem_nodup : (order.lineItems.map FulfillmentOrderLineItem.saleLineItem).Nodup

/-- The data asks for something, and for no more than remains. -/
structure Fits (order : FulfillmentOrder) (data : List LineData) : Prop where
  nonempty : data ≠ []
  enough : ∀ line ∈ order.lineItems, dataQty line.id data ≤ line.remainingQuantity

/-! ## One line of a fulfillment order -/

section WellFormed

variable {order : FulfillmentOrder}

theorem remainingQty_of_mem (wellFormed : order.WellFormed) {item : FulfillmentOrderLineItem}
    (member : item ∈ order.lineItems) :
    order.remainingQty item.saleLineItem = item.remainingQuantity := by
  rw [remainingQty, filter_key_eq wellFormed.saleLineItem_nodup member]
  simp

theorem lineQty_of_mem (wellFormed : order.WellFormed) {item : FulfillmentOrderLineItem}
    (member : item ∈ order.lineItems) (data : List LineData) :
    order.lineQty item.saleLineItem data = dataQty item.id data := by
  rw [lineQty, filter_key_eq wellFormed.saleLineItem_nodup member]
  simp

theorem remainingQty_of_absent {saleLineId : ℕ}
    (absent : ∀ item ∈ order.lineItems, item.saleLineItem ≠ saleLineId) :
    order.remainingQty saleLineId = 0 := by
  rw [remainingQty, filter_key_of_absent absent]
  rfl

theorem lineQty_of_absent {saleLineId : ℕ}
    (absent : ∀ item ∈ order.lineItems, item.saleLineItem ≠ saleLineId) (data : List LineData) :
    order.lineQty saleLineId data = 0 := by
  rw [lineQty, filter_key_of_absent absent]
  rfl

/-- An order holds a line of the sale in one item, or not at all. -/
theorem saleLine_cases (wellFormed : order.WellFormed) (saleLineId : ℕ) :
    (∃ item ∈ order.lineItems, item.saleLineItem = saleLineId ∧
        order.remainingQty saleLineId = item.remainingQuantity ∧
        ∀ data, order.lineQty saleLineId data = dataQty item.id data) ∨
      (∀ item ∈ order.lineItems, item.saleLineItem ≠ saleLineId) ∧
        order.remainingQty saleLineId = 0 ∧ ∀ data, order.lineQty saleLineId data = 0 := by
  by_cases present : ∃ item ∈ order.lineItems, item.saleLineItem = saleLineId
  · obtain ⟨item, member, rfl⟩ := present
    exact Or.inl ⟨item, member, rfl, remainingQty_of_mem wellFormed member,
      lineQty_of_mem wellFormed member⟩
  · push Not at present
    exact Or.inr ⟨present, remainingQty_of_absent present, lineQty_of_absent present⟩

/-- The data for one line of a picking, if something is asked for and remains. -/
theorem singleLineData_cases (wellFormed : order.WellFormed) (saleLineId qty : ℕ) :
    (order.prepareFulfillmentSingleLineData saleLineId qty = none ∧
        min qty (order.remainingQty saleLineId) = 0) ∨
      ∃ item ∈ order.lineItems, item.saleLineItem = saleLineId ∧
        0 < min qty item.remainingQuantity ∧
        order.prepareFulfillmentSingleLineData saleLineId qty =
          some { id := item.id, quantity := min qty item.remainingQuantity } := by
  rw [prepareFulfillmentSingleLineData]
  by_cases nothing : qty ≤ 0
  · left
    rw [if_pos nothing]
    exact ⟨rfl, by omega⟩
  · rw [if_neg nothing]
    cases found : order.getFulfillmentLine saleLineId with
    | none =>
        left
        refine ⟨rfl, ?_⟩
        have used : ∀ item ∈ order.lineItems,
            item.remainingQuantity ≠ 0 → item.saleLineItem ≠ saleLineId := by
          simpa [getFulfillmentLine] using found
        rcases saleLine_cases wellFormed saleLineId with
          ⟨item, member, same, remaining, _⟩ | ⟨_, remaining, _⟩
        · have empty : item.remainingQuantity = 0 := by
            by_contra positive
            exact used item member positive same
          rw [remaining, empty, Nat.min_zero]
        · rw [remaining, Nat.min_zero]
    | some item =>
        right
        have member := List.mem_of_find?_eq_some found
        have test := List.find?_some found
        rw [Bool.and_eq_true, decide_eq_true_eq, decide_eq_true_eq] at test
        refine ⟨item, member, test.2, by omega, ?_⟩
        simp only [if_neg test.1, Option.some.injEq, LineData.mk.injEq, true_and]
        split <;> omega

end WellFormed

theorem lineQty_le_remainingQty {order : FulfillmentOrder} (wellFormed : order.WellFormed)
    {data : List LineData}
    (enough : ∀ item ∈ order.lineItems, dataQty item.id data ≤ item.remainingQuantity)
    (saleLineId : ℕ) : order.lineQty saleLineId data ≤ order.remainingQty saleLineId := by
  rcases saleLine_cases wellFormed saleLineId with
    ⟨item, member, _, remaining, taken⟩ | ⟨_, _, taken⟩
  · rw [taken, remaining]
    exact enough item member
  · rw [taken]
    exact Nat.zero_le _

/-- The data for everything that remains. -/
theorem dataQty_prepareFulfillmentLinesData {order : FulfillmentOrder}
    (wellFormed : order.WellFormed) {item : FulfillmentOrderLineItem}
    (member : item ∈ order.lineItems) :
    dataQty item.id order.prepareFulfillmentLinesData = item.remainingQuantity := by
  have own : (order.prepareFulfillmentLinesData.filter fun entry => entry.id = item.id) =
      ([item].filter fun line => line.remainingQuantity ≠ 0).map fun line =>
        { id := line.id, quantity := line.remainingQuantity } := by
    rw [← filter_key_eq wellFormed.id_nodup member, prepareFulfillmentLinesData,
      List.filter_map, List.filter_filter, List.filter_filter]
    refine congrArg _ (List.filter_congr fun line _ => Bool.and_comm _ _)
  rw [dataQty, own]
  by_cases empty : item.remainingQuantity = 0
  · simp [empty]
  · simp [empty]

end FulfillmentOrder
end OdooConnector.Store
