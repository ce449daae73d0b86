import OdooConnector.Order.SendPicking

/-!
# What fulfillment orders give to a picking

The lines of a picking take from a fulfillment order what they need and it has. The same loop is
used to find out what must be moved and to make the fulfillments; the results here hold for both.
-/

namespace OdooConnector.Order

open Store FulfillmentOrder

/-- Quantity that lines of a picking ask for an order line. -/
def requestedQty (saleLineId : ℕ) (lines : List TrackingLine) : ℕ :=
  ((lines.filter fun line => line.id = saleLineId).map TrackingLine.qty).sum

theorem requestedQty_cons (saleLineId : ℕ) (line : TrackingLine) (lines : List TrackingLine) :
    requestedQty saleLineId (line :: lines) =
      (if line.id = saleLineId then line.qty else 0) + requestedQty saleLineId lines :=
  sum_key_cons TrackingLine.id TrackingLine.qty saleLineId line lines

theorem requestedQty_of_absent {saleLineId : ℕ} {lines : List TrackingLine}
    (absent : saleLineId ∉ lines.map TrackingLine.id) : requestedQty saleLineId lines = 0 := by
  rw [requestedQty, filter_key_of_absent]
  · rfl
  · intro line member same
    exact absent (same ▸ List.mem_map_of_mem member)

theorem requestedQty_eq_zero_iff {saleLineId : ℕ} {lines : List TrackingLine} :
    requestedQty saleLineId lines = 0 ↔ ∀ line ∈ lines, line.id = saleLineId → line.qty = 0 := by
  simp only [requestedQty, List.sum_eq_zero_iff, List.mem_map, List.mem_filter, decide_eq_true_eq]
  constructor
  · exact fun zeros line member same => zeros line.qty ⟨line, ⟨member, same⟩, rfl⟩
  · rintro zeros qty ⟨line, ⟨member, same⟩, rfl⟩
    exact zeros line member same

/-! ## One fulfillment order -/

section TakeLines

variable {order : FulfillmentOrder}

private theorem takeLines_cons_none {line : TrackingLine} {lines : List TrackingLine}
    (none : order.prepareFulfillmentSingleLineData line.id line.qty = none) :
    takeLines order (line :: lines) =
      ((takeLines order lines).1, line :: (takeLines order lines).2) := by
  rw [takeLines, none]

private theorem takeLines_cons_some {line : TrackingLine} {lines : List TrackingLine}
    {data : LineData}
    (some : order.prepareFulfillmentSingleLineData line.id line.qty = some data) :
    takeLines order (line :: lines) =
      (data :: (takeLines order lines).1,
        { line with qty := line.qty - data.quantity } :: (takeLines order lines).2) := by
  rw [takeLines, some]

theorem takeLines_ids (order : FulfillmentOrder) (lines : List TrackingLine) :
    (takeLines order lines).2.map TrackingLine.id = lines.map TrackingLine.id := by
  induction lines with
  | nil => rfl
  | cons line lines induction =>
      cases own : order.prepareFulfillmentSingleLineData line.id line.qty with
      | none => rw [takeLines_cons_none own, List.map_cons, List.map_cons, induction]
      | some data => rw [takeLines_cons_some own, List.map_cons, List.map_cons, induction]

/-- A line of the order gives what is asked for and remains. -/
theorem takeLines_dataQty (wellFormed : order.WellFormed) {lines : List TrackingLine}
    (nodup : (lines.map TrackingLine.id).Nodup) {item : FulfillmentOrderLineItem}
    (member : item ∈ order.lineItems) :
    dataQty item.id (takeLines order lines).1 =
      min (requestedQty item.saleLineItem lines) item.remainingQuantity := by
  induction lines with
  | nil => simp [takeLines, dataQty, requestedQty]
  | cons line lines induction =>
      obtain ⟨fresh, rest⟩ := List.nodup_cons.mp nodup
      have others := induction rest
      rw [requestedQty_cons]
      rcases singleLineData_cases wellFormed line.id line.qty with
        ⟨own, nothing⟩ | ⟨given, givenMember, sameLine, positive, own⟩
      · rw [takeLines_cons_none own]
        by_cases same : line.id = item.saleLineItem
        · rw [same, remainingQty_of_mem wellFormed member] at nothing
          rw [if_pos same, others]
          rw [same] at fresh
          rw [requestedQty_of_absent fresh]
          omega
        · rw [if_neg same, others, Nat.zero_add]
      · rw [takeLines_cons_some own, dataQty_cons, others]
        by_cases same : line.id = item.saleLineItem
        · obtain rfl : given = item :=
            List.inj_on_of_nodup_map wellFormed.saleLineItem_nodup givenMember member
              (sameLine.trans same)
          rw [same] at fresh
          rw [if_pos same, if_pos rfl, requestedQty_of_absent fresh]
          dsimp only
          omega
        · have different : given.id ≠ item.id := by
            intro sameId
            have sameItem := List.inj_on_of_nodup_map wellFormed.id_nodup givenMember member sameId
            rw [sameItem] at sameLine
            exact same sameLine.symm
          rw [if_neg same, if_neg different, Nat.zero_add, Nat.zero_add]

theorem takeLines_lineQty (wellFormed : order.WellFormed) {lines : List TrackingLine}
    (nodup : (lines.map TrackingLine.id).Nodup) (saleLineId : ℕ) :
    order.lineQty saleLineId (takeLines order lines).1 =
      min (requestedQty saleLineId lines) (order.remainingQty saleLineId) := by
  rcases saleLine_cases wellFormed saleLineId with
    ⟨item, member, rfl, remaining, taken⟩ | ⟨_, remaining, taken⟩
  · rw [taken, remaining]
    exact takeLines_dataQty wellFormed nodup member
  · rw [taken, remaining, Nat.min_zero]

/-- The lines need less by what the order has. -/
theorem takeLines_left (wellFormed : order.WellFormed) {lines : List TrackingLine}
    (nodup : (lines.map TrackingLine.id).Nodup) (saleLineId : ℕ) :
    requestedQty saleLineId (takeLines order lines).2 =
      requestedQty saleLineId lines - order.remainingQty saleLineId := by
  induction lines with
  | nil => simp [takeLines, requestedQty]
  | cons line lines induction =>
      obtain ⟨fresh, rest⟩ := List.nodup_cons.mp nodup
      have others := induction rest
      rw [requestedQty_cons]
      rcases singleLineData_cases wellFormed line.id line.qty with
        ⟨own, nothing⟩ | ⟨given, givenMember, sameLine, positive, own⟩
      · rw [takeLines_cons_none own, requestedQty_cons, others]
        by_cases same : line.id = saleLineId
        · rw [same] at fresh nothing
          rw [if_pos same, requestedQty_of_absent fresh]
          omega
        · rw [if_neg same, Nat.zero_add, Nat.zero_add]
      · rw [takeLines_cons_some own, requestedQty_cons, others]
        by_cases same : line.id = saleLineId
        · have remaining := remainingQty_of_mem wellFormed givenMember
          rw [sameLine, same] at remaining
          rw [same] at fresh
          rw [if_pos same, if_pos same, requestedQty_of_absent fresh, remaining]
          dsimp only
          omega
        · rw [if_neg same, if_neg same, Nat.zero_add, Nat.zero_add]

/-- Data taken from an order asks for no more than remains. -/
theorem takeLines_fits (wellFormed : order.WellFormed) {lines : List TrackingLine}
    (nodup : (lines.map TrackingLine.id).Nodup) (nonempty : (takeLines order lines).1 ≠ []) :
    order.Fits (takeLines order lines).1 where
  nonempty := nonempty
  enough item member := by
    rw [takeLines_dataQty wellFormed nodup member]
    exact Nat.min_le_right _ _

theorem prepareFulfillmentLinesData_fits (wellFormed : order.WellFormed)
    (nonempty : order.prepareFulfillmentLinesData ≠ []) :
    order.Fits order.prepareFulfillmentLinesData where
  nonempty := nonempty
  enough _ member := Nat.le_of_eq (dataQty_prepareFulfillmentLinesData wellFormed member)

/-- Nothing is taken when nothing that is asked for remains. -/
theorem takeLines_eq_nil (wellFormed : order.WellFormed) {lines : List TrackingLine}
    (nodup : (lines.map TrackingLine.id).Nodup)
    (nothing : ∀ saleLineId, requestedQty saleLineId lines = 0 ∨
      order.remainingQty saleLineId = 0) : takeLines order lines = ([], lines) := by
  induction lines with
  | nil => rfl
  | cons line lines induction =>
      obtain ⟨fresh, rest⟩ := List.nodup_cons.mp nodup
      have others := induction rest fun saleLineId => by
        have own := nothing saleLineId
        rw [requestedQty_cons] at own
        omega
      rcases singleLineData_cases wellFormed line.id line.qty with
        ⟨own, _⟩ | ⟨given, givenMember, sameLine, positive, _⟩
      · rw [takeLines_cons_none own, others]
      · have remaining := remainingQty_of_mem wellFormed givenMember
        have own := nothing line.id
        rw [requestedQty_cons, if_pos rfl] at own
        rw [sameLine] at remaining
        omega

end TakeLines

/-! ## Several fulfillment orders -/

/-- Remaining quantity of an order line over a list of orders. -/
def totalQty (saleLineId : ℕ) (orders : List FulfillmentOrder) : ℕ :=
  (orders.map (remainingQty saleLineId)).sum

theorem useOrders_ids (orders : List FulfillmentOrder) (lines : List TrackingLine) :
    (useOrders orders lines).map TrackingLine.id = lines.map TrackingLine.id := by
  induction orders generalizing lines with
  | nil => rfl
  | cons order orders induction =>
      rw [useOrders, List.foldl_cons]
      exact (induction _).trans (takeLines_ids order lines)

theorem useOrders_left {orders : List FulfillmentOrder}
    (wellFormed : ∀ order ∈ orders, order.WellFormed) {lines : List TrackingLine}
    (nodup : (lines.map TrackingLine.id).Nodup) (saleLineId : ℕ) :
    requestedQty saleLineId (useOrders orders lines) =
      requestedQty saleLineId lines - totalQty saleLineId orders := by
  induction orders generalizing lines with
  | nil => rfl
  | cons order orders induction =>
      obtain ⟨own, others⟩ := List.forall_mem_cons.mp wellFormed
      have leftNodup : ((takeLines order lines).2.map TrackingLine.id).Nodup := by
        rw [takeLines_ids]
        exact nodup
      have rest := induction others leftNodup
      rw [useOrders] at rest
      rw [useOrders, List.foldl_cons, rest, takeLines_left own nodup, totalQty, totalQty,
        List.map_cons, List.sum_cons]
      omega

/-- Lines that need nothing may be left out. -/
theorem requestedQty_filter (saleLineId : ℕ) (lines : List TrackingLine) :
    requestedQty saleLineId (lines.filter fun line => line.qty ≠ 0) =
      requestedQty saleLineId lines := by
  induction lines with
  | nil => rfl
  | cons line lines induction =>
      rw [List.filter_cons, requestedQty_cons]
      by_cases empty : line.qty = 0
      · simp [empty, ← induction]
      · simp [empty, requestedQty_cons, ← induction]

theorem requestedQty_of_all {lines : List TrackingLine}
    (done : (lines.all fun line => line.qty = 0) = true) (saleLineId : ℕ) :
    requestedQty saleLineId lines = 0 := by
  rw [requestedQty_eq_zero_iff]
  intro line member _
  simpa using List.all_eq_true.mp done line member

end OdooConnector.Order
