import OdooConnector.Order.TakeLines

/-!
# Moving fulfillment orders to the location of a picking

The first pass of a picking with a location gathers what the picking needs there. Afterwards the
open orders at the location have all that is asked for, or nothing that is asked for is left
elsewhere.
-/

namespace OdooConnector.Order

open Store FulfillmentOrder

/-- Data that equals everything that remains takes all of it. -/
theorem lineQty_of_listsAreEqual {order : FulfillmentOrder} (wellFormed : order.WellFormed)
    {data : List LineData} (fits : order.Fits data)
    (equal : listsAreEqual data order.prepareFulfillmentLinesData = true) (saleLineId : ℕ) :
    order.lineQty saleLineId data = order.remainingQty saleLineId := by
  rcases saleLine_cases wellFormed saleLineId with
    ⟨item, member, _, remaining, taken⟩ | ⟨_, remaining, taken⟩
  · rw [taken, remaining]
    refine Nat.le_antisymm (fits.enough item member) ?_
    by_cases empty : item.remainingQuantity = 0
    · rw [empty]
      exact Nat.zero_le _
    · have listed : ({ id := item.id, quantity := item.remainingQuantity } : LineData) ∈ data := by
        rw [listsAreEqual, decide_eq_true_eq, Finset.ext_iff] at equal
        rw [← List.mem_toFinset, equal, List.mem_toFinset, prepareFulfillmentLinesData]
        refine List.mem_map.mpr ⟨item, List.mem_filter.mpr ⟨member, ?_⟩, rfl⟩
        exact decide_eq_true empty
      rw [dataQty]
      refine List.single_le_sum (by simp) _ ?_
      exact List.mem_map.mpr ⟨_, List.mem_filter.mpr ⟨listed, decide_eq_true rfl⟩, rfl⟩
  · rw [taken, remaining]

variable {shop : Shop}

/-- One order gives what it has and the lines need. -/
theorem movedTo_of_takeLines (lawful : shop.Lawful) {store : List FulfillmentOrder}
    (wellFormed : WellFormed store) {order : FulfillmentOrder} (member : order ∈ store)
    (isOpen : order.status.openOrInProgress = true) {locationId : ℕ}
    (elsewhere : order.location ≠ locationId) {lines : List TrackingLine}
    (nodup : (lines.map TrackingLine.id).Nodup) {linesToMove : List LineData}
    (taken : linesToMove = (takeLines order lines).1) :
    MovedTo locationId
      (fun saleLineId => min (requestedQty saleLineId lines) (order.remainingQty saleLineId))
      order.id store
      (if linesToMove = [] then store
      else if listsAreEqual linesToMove order.prepareFulfillmentLinesData then
        moveOrder shop locationId order store
      else
        moveOrder shop locationId (shop.split order.id linesToMove store).1
          (shop.split order.id linesToMove store).2) := by
  have own := wellFormed.each order member
  have given := takeLines_lineQty own nodup
  rw [← taken] at given
  simp only [← given]
  split
  · rename_i nothing
    refine ⟨Gathered.refl wellFormed fun saleLineId => ?_, fun other otherMember _ => otherMember⟩
    rw [nothing, lineQty]
    simp [dataQty]
  · rename_i nonempty
    have fits : order.Fits linesToMove := by
      rw [taken] at nonempty ⊢
      exact takeLines_fits own nodup nonempty
    split
    · rename_i equal
      have everything := lineQty_of_listsAreEqual own fits equal
      simp only [everything]
      rw [moveOrder, if_neg elsewhere]
      exact lawful.moved wellFormed member isOpen elsewhere
    · obtain ⟨splitElsewhere, moved⟩ :=
        lawful.splitMoved wellFormed member isOpen elsewhere fits
      rw [moveOrder, if_neg splitElsewhere]
      exact moved

/-- The loop gathers what the lines need and the orders have. -/
theorem moveOrders_gathered (lawful : shop.Lawful) {locationId : ℕ}
    {orders : List FulfillmentOrder} {lines : List TrackingLine} {store : List FulfillmentOrder}
    (wellFormed : WellFormed store) (listed : ∀ order ∈ orders, order ∈ store)
    (different : (orders.map FulfillmentOrder.id).Nodup)
    (isOpen : ∀ order ∈ orders, order.status.openOrInProgress = true)
    (elsewhere : ∀ order ∈ orders, order.location ≠ locationId)
    (nodup : (lines.map TrackingLine.id).Nodup) :
    Gathered locationId
        (fun saleLineId => min (requestedQty saleLineId lines) (totalQty saleLineId orders)) store
        (moveOrders shop locationId orders lines store).1 ∧
      ((moveOrders shop locationId orders lines store).2 = false →
        (moveOrders shop locationId orders lines store).1 = store) := by
  induction orders generalizing lines store with
  | nil =>
      exact ⟨Gathered.refl wellFormed fun _ => Nat.min_zero _, fun _ => rfl⟩
  | cons order orders induction =>
      obtain ⟨member, others⟩ := List.forall_mem_cons.mp listed
      obtain ⟨fresh, differentOthers⟩ := List.nodup_cons.mp different
      obtain ⟨ownOpen, othersOpen⟩ := List.forall_mem_cons.mp isOpen
      obtain ⟨ownElsewhere, othersElsewhere⟩ := List.forall_mem_cons.mp elsewhere
      have own := wellFormed.each order member
      have moved := movedTo_of_takeLines lawful wellFormed member ownOpen ownElsewhere nodup rfl
      have left := takeLines_left own nodup
      have leftNodup : ((takeLines order lines).2.map TrackingLine.id).Nodup := by
        rw [takeLines_ids]
        exact nodup
      rw [moveOrders]
      dsimp only
      split
      · rename_i done
        refine ⟨?_, fun unmoved => if_pos (by simpa using unmoved)⟩
        convert moved.toGathered using 2 with saleLineId
        have nothing := requestedQty_of_all done saleLineId
        rw [left] at nothing
        rw [totalQty, List.map_cons, List.sum_cons]
        omega
      · have stillListed : ∀ other ∈ orders, other ∈ _ := fun other otherMember =>
          moved.others other (others other otherMember) fun same =>
            fresh (same ▸ List.mem_map_of_mem otherMember)
        obtain ⟨gathered, untouched⟩ := induction moved.wellFormed stillListed differentOthers
          othersOpen othersElsewhere leftNodup
        refine ⟨moved.toGathered.trans gathered fun saleLineId => ?_, fun unmoved => ?_⟩
        · rw [left, totalQty, totalQty, List.map_cons, List.sum_cons]
          omega
        · rw [Bool.or_eq_false_iff] at unmoved
          rw [untouched unmoved.2]
          exact if_pos (by simpa using unmoved.1)

end OdooConnector.Order
