import OdooConnector.Order.MoveOrders

/-!
# Fulfilling what a picking ships

The second pass fulfills, for every order line, the minimum of what is asked for and what remains,
and a forced picking fulfills everything. After the moves of a picking with a location all of it
is fulfilled there.
-/

namespace OdooConnector.Order

open Store FulfillmentOrder

/-- Quantity of an order line in the fulfillments that were made. -/
def fulfilledQty (saleLineId : ℕ) (made : List Fulfillment) : ℕ :=
  (made.map fun fulfillment =>
    fulfillment.fulfillmentOrder.lineQty saleLineId fulfillment.linesData).sum

theorem fulfilledQty_append (saleLineId : ℕ) (made others : List Fulfillment) :
    fulfilledQty saleLineId (made ++ others) =
      fulfilledQty saleLineId made + fulfilledQty saleLineId others := by
  rw [fulfilledQty, List.map_append, List.sum_append]
  rfl

/-! ## One order -/

/-- Data of the fulfillment of one order, and what the lines still need. -/
def orderData (forceDone : Bool) (order : FulfillmentOrder) (lines : List TrackingLine) :
    List LineData × List TrackingLine :=
  if forceDone then (order.prepareFulfillmentLinesData, lines) else takeLines order lines

/-- The fulfillment that is made of one order, if there is anything to fulfill. -/
def orderFulfillment (picking : TrackingPicking) (order : FulfillmentOrder)
    (linesData : List LineData) : List Fulfillment :=
  if linesData = [] then []
  else
    [{ fulfillmentOrder := order
       carrier := picking.carrierCode
       trackingNumbers := if picking.tracking = "" then [] else [picking.tracking]
       url := picking.carrierTrackingUrl
       linesData
       notifyCustomer := true }]

variable (shop : Shop)

def fulfillOrder (order : FulfillmentOrder) (linesData : List LineData)
    (store : List FulfillmentOrder) : List FulfillmentOrder :=
  if linesData = [] then store else shop.fulfill order.id linesData store

theorem fulfillOrders_cons (picking : TrackingPicking) (forceDone : Bool)
    (order : FulfillmentOrder) (orders : List FulfillmentOrder) (lines : List TrackingLine)
    (store : List FulfillmentOrder) :
    fulfillOrders shop picking forceDone (order :: orders) lines store =
      if !forceDone && (orderData forceDone order lines).2.all fun line => line.qty = 0 then
        (fulfillOrder shop order (orderData forceDone order lines).1 store,
          orderFulfillment picking order (orderData forceDone order lines).1)
      else
        ((fulfillOrders shop picking forceDone orders (orderData forceDone order lines).2
            (fulfillOrder shop order (orderData forceDone order lines).1 store)).1,
          orderFulfillment picking order (orderData forceDone order lines).1 ++
            (fulfillOrders shop picking forceDone orders (orderData forceDone order lines).2
              (fulfillOrder shop order (orderData forceDone order lines).1 store)).2) := by
  have data : (if forceDone = true then (order.prepareFulfillmentLinesData, lines)
      else takeLines order lines) = orderData forceDone order lines := rfl
  rw [fulfillOrders, data]
  simp only [orderFulfillment, fulfillOrder, apply_ite Prod.fst, apply_ite Prod.snd]

section Order

variable {shop : Shop} {picking : TrackingPicking} {forceDone : Bool} {order : FulfillmentOrder}
  {lines : List TrackingLine}

theorem orderData_ids : (orderData forceDone order lines).2.map TrackingLine.id =
    lines.map TrackingLine.id := by
  rw [orderData]
  split
  · rfl
  · exact takeLines_ids order lines

theorem orderData_fits (forceDone : Bool) (wellFormed : order.WellFormed)
    (nodup : (lines.map TrackingLine.id).Nodup)
    (nonempty : (orderData forceDone order lines).1 ≠ []) :
    order.Fits (orderData forceDone order lines).1 := by
  rw [orderData] at nonempty ⊢
  split at nonempty
  · rename_i forced
    rw [if_pos forced]
    exact prepareFulfillmentLinesData_fits wellFormed nonempty
  · rename_i unforced
    rw [if_neg unforced]
    exact takeLines_fits wellFormed nodup nonempty

theorem lineQty_prepareFulfillmentLinesData (wellFormed : order.WellFormed) (saleLineId : ℕ) :
    order.lineQty saleLineId order.prepareFulfillmentLinesData =
      order.remainingQty saleLineId := by
  rcases saleLine_cases wellFormed saleLineId with
    ⟨item, member, _, remaining, taken⟩ | ⟨_, remaining, taken⟩
  · rw [taken, remaining]
    exact dataQty_prepareFulfillmentLinesData wellFormed member
  · rw [taken, remaining]

theorem fulfilledQty_orderFulfillment (saleLineId : ℕ) (linesData : List LineData) :
    fulfilledQty saleLineId (orderFulfillment picking order linesData) =
      order.lineQty saleLineId linesData := by
  rw [orderFulfillment]
  split
  · rename_i nothing
    rw [nothing, fulfilledQty, lineQty]
    simp [dataQty]
  · simp [fulfilledQty]

/-- Fulfilling one order subtracts what is fulfilled and leaves all other orders alone. -/
theorem fulfillOrder_store (lawful : shop.Lawful) {store : List FulfillmentOrder}
    (wellFormed : WellFormed store) (member : order ∈ store)
    (isOpen : order.status.openOrInProgress = true) {linesData : List LineData}
    (fits : linesData ≠ [] → order.Fits linesData) :
    WellFormed (fulfillOrder shop order linesData store) ∧
      (fulfillOrder shop order linesData store).length = store.length ∧
      (∀ other ∈ store, other.id ≠ order.id →
        other ∈ fulfillOrder shop order linesData store) ∧
      ∀ saleLineId,
        openQty anywhere saleLineId (fulfillOrder shop order linesData store) +
            order.lineQty saleLineId linesData =
          openQty anywhere saleLineId store := by
  rw [fulfillOrder]
  split
  · rename_i nothing
    refine ⟨wellFormed, rfl, fun _ otherMember _ => otherMember, fun saleLineId => ?_⟩
    rw [nothing, lineQty]
    simp [dataQty]
  · rename_i nonempty
    obtain ⟨after, reduced, perm⟩ := lawful.fulfill wellFormed member (fits nonempty)
    refine ⟨(wellFormed.replaceBy reduced.wellFormed).perm perm, ?_, ?_, fun saleLineId => ?_⟩
    · rw [perm.length_eq, replaceBy, List.length_map]
    · intro other otherMember different
      rw [← reduced.id] at different
      exact perm.mem_iff.mpr ((mem_replaceBy_of_ne different).mpr otherMember)
    · have weights := openQty_replaceBy wellFormed member reduced.id anywhere saleLineId
      rw [← openQty_perm perm, openWeight_reduced reduced isOpen] at weights
      have enough := lineQty_le_remainingQty (wellFormed.each order member)
        (fits nonempty).enough saleLineId
      simp only [openWeight, isOpen, anywhere, Bool.and_self, if_true] at weights
      omega

end Order

/-! ## All orders -/

section Orders

variable {shop : Shop} {picking : TrackingPicking} {forceDone : Bool}
  {orders : List FulfillmentOrder} {lines : List TrackingLine} {store : List FulfillmentOrder}

/-- Every order is fulfilled at most once, with no more than remains. -/
theorem fulfillOrders_fits (wellFormed : ∀ order ∈ orders, order.WellFormed)
    (nodup : (lines.map TrackingLine.id).Nodup) :
    ((fulfillOrders shop picking forceDone orders lines store).2.map
        Fulfillment.fulfillmentOrder).Sublist orders ∧
      ∀ fulfillment ∈ (fulfillOrders shop picking forceDone orders lines store).2,
        fulfillment.fulfillmentOrder.Fits fulfillment.linesData := by
  induction orders generalizing lines store with
  | nil => exact ⟨List.Sublist.refl _, fun _ member => absurd member List.not_mem_nil⟩
  | cons order orders induction =>
      obtain ⟨own, others⟩ := List.forall_mem_cons.mp wellFormed
      have leftNodup : ((orderData forceDone order lines).2.map TrackingLine.id).Nodup := by
        rw [orderData_ids]
        exact nodup
      set linesData := (orderData forceDone order lines).1 with linesData_eq
      have ownSublist : ((orderFulfillment picking order linesData).map
          Fulfillment.fulfillmentOrder).Sublist [order] := by
        rw [orderFulfillment]
        split
        · exact List.nil_sublist _
        · exact List.Sublist.refl _
      have ownFits : ∀ fulfillment ∈ orderFulfillment picking order linesData,
          fulfillment.fulfillmentOrder.Fits fulfillment.linesData := by
        intro fulfillment member
        rw [orderFulfillment] at member
        split at member
        · exact absurd member List.not_mem_nil
        · rename_i nonempty
          rw [List.mem_singleton.mp member]
          exact orderData_fits forceDone own nodup nonempty
      rw [fulfillOrders_cons]
      split
      · exact ⟨ownSublist.trans (List.singleton_sublist.mpr List.mem_cons_self), ownFits⟩
      · obtain ⟨restSublist, restFits⟩ := induction others leftNodup
        rw [List.map_append]
        refine ⟨ownSublist.append restSublist, fun fulfillment member => ?_⟩
        rcases List.mem_append.mp member with first | later
        · exact ownFits fulfillment first
        · exact restFits fulfillment later

/-- The fulfillments take from the open quantities of the store what they report. -/
theorem fulfillOrders_store (lawful : shop.Lawful) (wellFormed : WellFormed store)
    (listed : ∀ order ∈ orders, order ∈ store)
    (different : (orders.map FulfillmentOrder.id).Nodup)
    (isOpen : ∀ order ∈ orders, order.status.openOrInProgress = true)
    (nodup : (lines.map TrackingLine.id).Nodup) :
    WellFormed (fulfillOrders shop picking forceDone orders lines store).1 ∧
      (fulfillOrders shop picking forceDone orders lines store).1.length = store.length ∧
      ∀ saleLineId,
        openQty anywhere saleLineId (fulfillOrders shop picking forceDone orders lines store).1 +
            fulfilledQty saleLineId
              (fulfillOrders shop picking forceDone orders lines store).2 =
          openQty anywhere saleLineId store := by
  induction orders generalizing lines store with
  | nil => exact ⟨wellFormed, rfl, fun _ => rfl⟩
  | cons order orders induction =>
      obtain ⟨member, others⟩ := List.forall_mem_cons.mp listed
      obtain ⟨fresh, differentOthers⟩ := List.nodup_cons.mp different
      obtain ⟨ownOpen, othersOpen⟩ := List.forall_mem_cons.mp isOpen
      have leftNodup : ((orderData forceDone order lines).2.map TrackingLine.id).Nodup := by
        rw [orderData_ids]
        exact nodup
      obtain ⟨nextWellFormed, sameLength, untouched, taken⟩ :=
        fulfillOrder_store lawful wellFormed member ownOpen
          (orderData_fits forceDone (wellFormed.each order member) nodup)
      rw [fulfillOrders_cons]
      split
      · refine ⟨nextWellFormed, sameLength, fun saleLineId => ?_⟩
        rw [fulfilledQty_orderFulfillment]
        exact taken saleLineId
      · have stillListed : ∀ other ∈ orders, other ∈ _ := fun other otherMember =>
          untouched other (others other otherMember) fun same =>
            fresh (same ▸ List.mem_map_of_mem otherMember)
        obtain ⟨finalWellFormed, finalLength, rest⟩ := induction nextWellFormed stillListed
          differentOthers othersOpen leftNodup
        refine ⟨finalWellFormed, finalLength.trans sameLength, fun saleLineId => ?_⟩
        have own := taken saleLineId
        have later := rest saleLineId
        rw [fulfilledQty_append, fulfilledQty_orderFulfillment]
        dsimp only
        omega

/-- Without force the minimum of what is asked for and what remains is fulfilled. -/
theorem fulfillOrders_unforced (wellFormed : ∀ order ∈ orders, order.WellFormed)
    (nodup : (lines.map TrackingLine.id).Nodup) (saleLineId : ℕ) :
    fulfilledQty saleLineId (fulfillOrders shop picking false orders lines store).2 =
      min (requestedQty saleLineId lines) (totalQty saleLineId orders) := by
  induction orders generalizing lines store with
  | nil => exact (Nat.min_zero _).symm
  | cons order orders induction =>
      obtain ⟨own, others⟩ := List.forall_mem_cons.mp wellFormed
      have leftNodup : ((takeLines order lines).2.map TrackingLine.id).Nodup := by
        rw [takeLines_ids]
        exact nodup
      have unforced : orderData false order lines = takeLines order lines := rfl
      have given := takeLines_lineQty own nodup saleLineId
      have left := takeLines_left own nodup saleLineId
      rw [fulfillOrders_cons, unforced, totalQty, List.map_cons, List.sum_cons]
      split
      · rename_i done
        have nothing := requestedQty_of_all (by simpa using done) saleLineId
        rw [fulfilledQty_orderFulfillment, given]
        omega
      · rw [fulfilledQty_append, fulfilledQty_orderFulfillment, given, induction others leftNodup,
          left, totalQty]
        omega

/-- With force everything that remains is fulfilled. -/
theorem fulfillOrders_forced (wellFormed : ∀ order ∈ orders, order.WellFormed)
    (saleLineId : ℕ) :
    fulfilledQty saleLineId (fulfillOrders shop picking true orders lines store).2 =
      totalQty saleLineId orders := by
  induction orders generalizing store with
  | nil => rfl
  | cons order orders induction =>
      obtain ⟨own, others⟩ := List.forall_mem_cons.mp wellFormed
      have forced : orderData true order lines = (order.prepareFulfillmentLinesData, lines) := rfl
      rw [fulfillOrders_cons, forced, totalQty, List.map_cons, List.sum_cons, Bool.not_true,
        Bool.false_and, if_neg Bool.false_ne_true, fulfilledQty_append,
        fulfilledQty_orderFulfillment, lineQty_prepareFulfillmentLinesData own, induction others,
        totalQty]

/-- Orders that have nothing of what is asked for are not fulfilled. -/
theorem fulfillOrders_nothing (wellFormed : ∀ order ∈ orders, order.WellFormed)
    (nodup : (lines.map TrackingLine.id).Nodup)
    (nothing : ∀ saleLineId, requestedQty saleLineId lines = 0 ∨
      totalQty saleLineId orders = 0) :
    (fulfillOrders shop picking false orders lines store).2 = [] := by
  induction orders generalizing store with
  | nil => rfl
  | cons order orders induction =>
      obtain ⟨own, others⟩ := List.forall_mem_cons.mp wellFormed
      have split (saleLineId : ℕ) : totalQty saleLineId (order :: orders) =
          order.remainingQty saleLineId + totalQty saleLineId orders := rfl
      have untouched : orderData false order lines = ([], lines) :=
        takeLines_eq_nil own nodup fun saleLineId => by
          have either := nothing saleLineId
          rw [split] at either
          omega
      rw [fulfillOrders_cons, untouched]
      have rest (saleLineId : ℕ) : requestedQty saleLineId lines = 0 ∨
          totalQty saleLineId orders = 0 := by
        have either := nothing saleLineId
        rw [split] at either
        omega
      split
      · rfl
      · exact induction others rest

/-- When the first orders have all that is asked for, or the later ones have nothing of it, only
the first orders are fulfilled. -/
theorem fulfillOrders_append {front back : List FulfillmentOrder}
    (frontWellFormed : ∀ order ∈ front, order.WellFormed)
    (backWellFormed : ∀ order ∈ back, order.WellFormed)
    (nodup : (lines.map TrackingLine.id).Nodup)
    (enough : ∀ saleLineId, requestedQty saleLineId lines ≤ totalQty saleLineId front ∨
      totalQty saleLineId back = 0) :
    ∀ fulfillment ∈ (fulfillOrders shop picking false (front ++ back) lines store).2,
      fulfillment.fulfillmentOrder ∈ front := by
  induction front generalizing lines store with
  | nil =>
      have nothing : (fulfillOrders shop picking false back lines store).2 = [] :=
        fulfillOrders_nothing backWellFormed nodup fun saleLineId =>
          (enough saleLineId).imp_left Nat.le_zero.mp
      intro fulfillment member
      rw [List.nil_append, nothing] at member
      exact absurd member List.not_mem_nil
  | cons order front induction =>
      obtain ⟨own, others⟩ := List.forall_mem_cons.mp frontWellFormed
      have unforced : orderData false order lines = takeLines order lines := rfl
      have leftNodup : ((takeLines order lines).2.map TrackingLine.id).Nodup := by
        rw [takeLines_ids]
        exact nodup
      have ownOrder : ∀ fulfillment ∈ orderFulfillment picking order (takeLines order lines).1,
          fulfillment.fulfillmentOrder = order := by
        intro fulfillment member
        rw [orderFulfillment] at member
        split at member
        · exact absurd member List.not_mem_nil
        · rw [List.mem_singleton.mp member]
      have stillEnough (saleLineId : ℕ) :
          requestedQty saleLineId (takeLines order lines).2 ≤ totalQty saleLineId front ∨
            totalQty saleLineId back = 0 := by
        have either := enough saleLineId
        rw [totalQty, List.map_cons, List.sum_cons] at either
        rw [takeLines_left own nodup, totalQty]
        omega
      intro fulfillment member
      rw [List.cons_append, fulfillOrders_cons, unforced] at member
      split at member
      · exact List.mem_cons.mpr (Or.inl (ownOrder fulfillment member))
      · rcases List.mem_append.mp member with first | later
        · exact List.mem_cons.mpr (Or.inl (ownOrder fulfillment first))
        · exact List.mem_cons_of_mem order
            (induction others leftNodup stillEnough fulfillment later)

end Orders

end OdooConnector.Order
