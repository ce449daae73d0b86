import OdooConnector.Order.FulfillOrders
import OdooConnector.Store.StandardShop

/-!
# Fulfilment of the pickings of an order

A picking fulfills the minimum of what it ships and what the open fulfillment orders still have,
at its own location if it has one. The forced last picking of an export fulfills
everything. Both hold as long as the order has no more fulfillment orders than one page of the
query.
-/

namespace OdooConnector.Order

open Store FulfillmentOrder

/-! ## Reading the open orders -/

theorem mem_getFulfillmentOrders {store : List FulfillmentOrder} {order : FulfillmentOrder}
    (member : order ∈ getFulfillmentOrders store) :
    order ∈ store ∧ order.status.openOrInProgress = true := by
  obtain ⟨taken, test⟩ := List.mem_filter.mp member
  rw [Bool.and_eq_true] at test
  exact ⟨List.mem_of_mem_take taken, test.1⟩

theorem getFulfillmentOrders_sublist (store : List FulfillmentOrder) :
    (getFulfillmentOrders store).Sublist store :=
  (List.filter_sublist).trans (List.take_sublist 25 store)

theorem totalQty_perm {orders others : List FulfillmentOrder} (same : orders.Perm others)
    (saleLineId : ℕ) : totalQty saleLineId orders = totalQty saleLineId others :=
  (same.map _).sum_eq

/-- One page holds all orders of the store, so that reading finds every open quantity. -/
theorem totalQty_getFulfillmentOrders {store : List FulfillmentOrder}
    (onePage : store.length ≤ 25) (here : ℕ → Bool) (saleLineId : ℕ) :
    totalQty saleLineId ((getFulfillmentOrders store).filter fun order => here order.location) =
      openQty here saleLineId store := by
  rw [getFulfillmentOrders, List.take_of_length_le onePage]
  clear onePage
  induction store with
  | nil => rfl
  | cons order store induction =>
      rw [openQty, List.map_cons, List.sum_cons, ← openQty, ← induction, openWeight,
        List.filter_cons]
      cases isOpen : order.status.openOrInProgress with
      | false => simp
      | true =>
          by_cases empty : order.lineItems = []
          · have nothing : order.remainingQty saleLineId = 0 := by
              rw [remainingQty, empty]
              rfl
            simp [empty, nothing]
          · cases own : here order.location with
            | false => simp [empty, own]
            | true => simp [empty, own, totalQty]

theorem totalQty_open {store : List FulfillmentOrder} (onePage : store.length ≤ 25)
    (saleLineId : ℕ) :
    totalQty saleLineId (getFulfillmentOrders store) = openQty anywhere saleLineId store := by
  have everything := totalQty_getFulfillmentOrders onePage anywhere saleLineId
  have all : ((getFulfillmentOrders store).filter fun order => anywhere order.location) =
      getFulfillmentOrders store := List.filter_eq_self.mpr fun _ _ => rfl
  rwa [all] at everything

/-! ## The first pass -/

variable {shop : Shop} {picking : TrackingPicking} {store : List FulfillmentOrder}

/-- Orders of the store after the moves for a picking. -/
def preparedStore (shop : Shop) (picking : TrackingPicking) (store : List FulfillmentOrder) :
    List FulfillmentOrder :=
  if picking.externalLocationId = 0 then store
  else (prepareFulfillmentOrders shop picking (getFulfillmentOrders store) store).1

/-- Orders in the sequence in which a picking fulfills them. -/
def ordersToFulfill (shop : Shop) (picking : TrackingPicking) (store : List FulfillmentOrder) :
    List FulfillmentOrder :=
  if picking.externalLocationId = 0 then getFulfillmentOrders store
  else
    sameLocationFirst picking.externalLocationId
      (getFulfillmentOrders (preparedStore shop picking store))

theorem prepareFulfillmentOrders_gathered (lawful : shop.Lawful) (wellFormed : WellFormed store)
    (nodup : (picking.lines.map TrackingLine.id).Nodup) :
    Gathered picking.externalLocationId
        (fun saleLineId =>
          min (requestedQty saleLineId picking.lines - totalQty saleLineId
              ((getFulfillmentOrders store).filter fun order =>
                order.location = picking.externalLocationId))
            (totalQty saleLineId ((getFulfillmentOrders store).filter fun order =>
              order.location ≠ picking.externalLocationId)))
        store (prepareFulfillmentOrders shop picking (getFulfillmentOrders store) store).1 ∧
      ((prepareFulfillmentOrders shop picking (getFulfillmentOrders store) store).2 = false →
        (prepareFulfillmentOrders shop picking (getFulfillmentOrders store) store).1 = store) := by
  set orders := getFulfillmentOrders store
  set locationId := picking.externalLocationId
  have members {order : FulfillmentOrder} (member : order ∈ orders) :=
    mem_getFulfillmentOrders member
  set same := orders.filter fun order => order.location = locationId
  have left (saleLineId : ℕ) : requestedQty saleLineId
      ((useOrders same picking.lines).filter fun line => line.qty ≠ 0) =
        requestedQty saleLineId picking.lines - totalQty saleLineId same := by
    rw [requestedQty_filter]
    refine useOrders_left (fun order member => ?_) nodup saleLineId
    exact wellFormed.each order (members (List.mem_filter.mp member).1).1
  rw [prepareFulfillmentOrders]
  dsimp only
  split
  · rename_i nothing
    refine ⟨Gathered.refl wellFormed fun saleLineId => ?_, fun _ => rfl⟩
    rw [← left, nothing]
    exact Nat.zero_min _
  · set lines := (useOrders same picking.lines).filter fun line => line.qty ≠ 0
    set different := orders.filter fun order => order.location ≠ locationId
    have sorted := List.perm_insertionSort (fun left right : FulfillmentOrder =>
      matchingLines lines left ≥ matchingLines lines right) different
    have differentMember {order : FulfillmentOrder}
        (member : order ∈ different.insertionSort fun left right =>
          matchingLines lines left ≥ matchingLines lines right) :
        order ∈ orders ∧ order.location ≠ locationId := by
      obtain ⟨listed, elsewhere⟩ := List.mem_filter.mp (sorted.mem_iff.mp member)
      exact ⟨listed, of_decide_eq_true elsewhere⟩
    have idNodup : (different.map FulfillmentOrder.id).Nodup :=
      (wellFormed.id_nodup.sublist ((getFulfillmentOrders_sublist store).map _)).sublist
        (List.filter_sublist.map _)
    have lineNodup : (lines.map TrackingLine.id).Nodup := by
      refine List.Nodup.sublist (List.filter_sublist.map _) ?_
      rw [useOrders_ids]
      exact nodup
    have gathered := moveOrders_gathered lawful wellFormed
      (fun order member => (members (differentMember member).1).1)
      ((sorted.map _).nodup_iff.mpr idNodup)
      (fun order member => (members (differentMember member).1).2)
      (fun order member => (differentMember member).2) lineNodup
    simpa only [left, totalQty_perm sorted] using gathered

theorem preparedStore_gathered (lawful : shop.Lawful) (wellFormed : WellFormed store)
    (nodup : (picking.lines.map TrackingLine.id).Nodup) :
    WellFormed (preparedStore shop picking store) ∧
      store.length ≤ (preparedStore shop picking store).length ∧
      ∀ saleLineId, openQty anywhere saleLineId (preparedStore shop picking store) =
        openQty anywhere saleLineId store := by
  rw [preparedStore]
  split
  · exact ⟨wellFormed, Nat.le_refl _, fun _ => rfl⟩
  · obtain ⟨gathered, _⟩ := prepareFulfillmentOrders_gathered lawful wellFormed nodup
    exact ⟨gathered.wellFormed, gathered.length_le, gathered.total⟩

/-- After the moves the location has what is asked for, or nothing of it is open elsewhere. -/
theorem preparedStore_enough (lawful : shop.Lawful) (wellFormed : WellFormed store)
    (nodup : (picking.lines.map TrackingLine.id).Nodup) (located : picking.externalLocationId ≠ 0)
    (onePage : store.length ≤ 25) (saleLineId : ℕ) :
    requestedQty saleLineId picking.lines ≤
        openQty (fun location => location = picking.externalLocationId) saleLineId
          (preparedStore shop picking store) ∨
      openQty (fun location => !decide (location = picking.externalLocationId)) saleLineId
        (preparedStore shop picking store) = 0 := by
  obtain ⟨gathered, _⟩ := prepareFulfillmentOrders_gathered lawful wellFormed nodup
  have here := gathered.here saleLineId
  have total := gathered.total saleLineId
  have same := totalQty_getFulfillmentOrders onePage
    (fun location => location = picking.externalLocationId) saleLineId
  have different := totalQty_getFulfillmentOrders onePage
    (fun location => !decide (location = picking.externalLocationId)) saleLineId
  rw [openQty_split (fun location => location = picking.externalLocationId),
    openQty_split (fun location => location = picking.externalLocationId) saleLineId store] at total
  simp only [ne_eq, decide_not] at here
  rw [same, different] at here
  rw [preparedStore, if_neg located]
  omega

/-- Both ways of reading the orders before the second pass agree. -/
theorem sendPicking_eq (lawful : shop.Lawful) (wellFormed : WellFormed store)
    (nodup : (picking.lines.map TrackingLine.id).Nodup) (forceDone : Bool) :
    sendPicking shop picking forceDone store =
      fulfillOrders shop picking forceDone (ordersToFulfill shop picking store) picking.lines
        (preparedStore shop picking store) := by
  rw [sendPicking, ordersToFulfill, preparedStore]
  dsimp only
  split
  · rfl
  · obtain ⟨_, unmoved⟩ := prepareFulfillmentOrders_gathered lawful wellFormed nodup
    cases moved :
        (prepareFulfillmentOrders shop picking (getFulfillmentOrders store) store).2 with
    | true => rw [if_pos rfl]
    | false => rw [unmoved moved, if_neg Bool.false_ne_true]

theorem ordersToFulfill_perm (shop : Shop) (picking : TrackingPicking)
    (store : List FulfillmentOrder) :
    (ordersToFulfill shop picking store).Perm
      (getFulfillmentOrders (preparedStore shop picking store)) := by
  rw [ordersToFulfill, preparedStore]
  split
  · exact List.Perm.refl _
  · exact List.perm_insertionSort _ _

private theorem exists_front_back {α : Type} (here : α → Bool) {list : List α}
    (sorted : list.Pairwise fun left right => (here left).toNat ≥ (here right).toNat) :
    ∃ front back, list = front ++ back ∧ (∀ element ∈ front, here element = true) ∧
      ∀ element ∈ back, here element = false := by
  induction list with
  | nil => exact ⟨[], [], rfl, by simp, by simp⟩
  | cons element list induction =>
      obtain ⟨first, rest⟩ := List.pairwise_cons.mp sorted
      cases own : here element with
      | true =>
          obtain ⟨front, back, rfl, frontHere, backElsewhere⟩ := induction rest
          exact ⟨element :: front, back, rfl, List.forall_mem_cons.mpr ⟨own, frontHere⟩,
            backElsewhere⟩
      | false =>
          refine ⟨[], element :: list, rfl, by simp, List.forall_mem_cons.mpr ⟨own, ?_⟩⟩
          intro other member
          have later := first other member
          rw [own] at later
          cases elsewhere : here other with
          | false => rfl
          | true =>
              rw [elsewhere] at later
              contradiction

/-! ## Sending pickings -/

theorem sendPicking_store (lawful : shop.Lawful) (wellFormed : WellFormed store)
    (nodup : (picking.lines.map TrackingLine.id).Nodup) (forceDone : Bool) :
    WellFormed (sendPicking shop picking forceDone store).1 ∧
      (sendPicking shop picking forceDone store).1.length =
        (preparedStore shop picking store).length ∧
      ∀ saleLineId,
        openQty anywhere saleLineId (sendPicking shop picking forceDone store).1 +
            fulfilledQty saleLineId (sendPicking shop picking forceDone store).2 =
          openQty anywhere saleLineId store := by
  obtain ⟨preparedWellFormed, _, sameTotal⟩ := preparedStore_gathered lawful wellFormed nodup
  have perm := ordersToFulfill_perm shop picking store
  have members {order : FulfillmentOrder} (member : order ∈ ordersToFulfill shop picking store) :=
    mem_getFulfillmentOrders (perm.mem_iff.mp member)
  have different : ((ordersToFulfill shop picking store).map FulfillmentOrder.id).Nodup :=
    (perm.map _).nodup_iff.mpr
      (preparedWellFormed.id_nodup.sublist ((getFulfillmentOrders_sublist _).map _))
  rw [sendPicking_eq lawful wellFormed nodup]
  simp only [← sameTotal]
  exact fulfillOrders_store lawful preparedWellFormed (fun _ member => (members member).1)
    different (fun _ member => (members member).2) nodup

theorem ordersToFulfill_wellFormed (lawful : shop.Lawful) (wellFormed : WellFormed store)
    (nodup : (picking.lines.map TrackingLine.id).Nodup) :
    ∀ order ∈ ordersToFulfill shop picking store, order.WellFormed := by
  intro order member
  have read := (ordersToFulfill_perm shop picking store).mem_iff.mp member
  exact (preparedStore_gathered lawful wellFormed nodup).1.each order
    (mem_getFulfillmentOrders read).1

theorem totalQty_ordersToFulfill (lawful : shop.Lawful) (wellFormed : WellFormed store)
    (nodup : (picking.lines.map TrackingLine.id).Nodup)
    (onePage : (preparedStore shop picking store).length ≤ 25) (saleLineId : ℕ) :
    totalQty saleLineId (ordersToFulfill shop picking store) =
      openQty anywhere saleLineId store := by
  rw [totalQty_perm (ordersToFulfill_perm shop picking store), totalQty_open onePage]
  exact (preparedStore_gathered lawful wellFormed nodup).2.2 saleLineId

/-- Every order is fulfilled at most once, with no more than remains. -/
theorem sendPicking_fits (lawful : shop.Lawful) (wellFormed : WellFormed store)
    (nodup : (picking.lines.map TrackingLine.id).Nodup) (forceDone : Bool) :
    ((sendPicking shop picking forceDone store).2.map Fulfillment.fulfillmentOrder).Sublist
        (ordersToFulfill shop picking store) ∧
      ∀ fulfillment ∈ (sendPicking shop picking forceDone store).2,
        fulfillment.fulfillmentOrder.Fits fulfillment.linesData := by
  rw [sendPicking_eq lawful wellFormed nodup]
  exact fulfillOrders_fits (ordersToFulfill_wellFormed lawful wellFormed nodup) nodup

/-- A picking with a location is fulfilled there. -/
theorem sendPicking_location (lawful : shop.Lawful) (wellFormed : WellFormed store)
    (nodup : (picking.lines.map TrackingLine.id).Nodup)
    (onePage : (preparedStore shop picking store).length ≤ 25)
    (located : picking.externalLocationId ≠ 0) :
    ∀ fulfillment ∈ (sendPicking shop picking false store).2,
      fulfillment.fulfillmentOrder.location = picking.externalLocationId := by
  have storePage : store.length ≤ 25 :=
    (preparedStore_gathered lawful wellFormed nodup).2.1.trans onePage
  have orders_eq : ordersToFulfill shop picking store =
      sameLocationFirst picking.externalLocationId
        (getFulfillmentOrders (preparedStore shop picking store)) := if_neg located
  obtain ⟨front, back, split, frontHere, backElsewhere⟩ := exists_front_back
    (fun order : FulfillmentOrder => order.location = picking.externalLocationId)
    (List.pairwise_insertionSort _ (getFulfillmentOrders (preparedStore shop picking store)))
  have orders_split : ordersToFulfill shop picking store = front ++ back := orders_eq.trans split
  have perm := ordersToFulfill_perm shop picking store
  rw [orders_split] at perm
  have allWellFormed := ordersToFulfill_wellFormed lawful wellFormed nodup
  rw [orders_split, List.forall_mem_append] at allWellFormed
  have frontQty (saleLineId : ℕ) : totalQty saleLineId front =
      openQty (fun location => location = picking.externalLocationId) saleLineId
        (preparedStore shop picking store) := by
    rw [← totalQty_getFulfillmentOrders onePage, ← totalQty_perm (perm.filter _),
      List.filter_append, List.filter_eq_self.mpr frontHere, List.filter_eq_nil_iff.mpr,
      List.append_nil]
    intro order member
    simpa using backElsewhere order member
  have backQty (saleLineId : ℕ) : totalQty saleLineId back =
      openQty (fun location => !decide (location = picking.externalLocationId)) saleLineId
        (preparedStore shop picking store) := by
    rw [← totalQty_getFulfillmentOrders onePage, ← totalQty_perm (perm.filter _),
      List.filter_append, List.filter_eq_nil_iff.mpr, List.nil_append, List.filter_eq_self.mpr]
    · intro order member
      simpa using backElsewhere order member
    · intro order member
      simpa using frontHere order member
  intro fulfillment member
  rw [sendPicking_eq lawful wellFormed nodup, orders_split] at member
  have here := fulfillOrders_append allWellFormed.1 allWellFormed.2 nodup (fun saleLineId => by
    rw [frontQty, backQty]
    exact preparedStore_enough lawful wellFormed nodup located storePage saleLineId)
    fulfillment member
  exact of_decide_eq_true (frontHere _ here)

/-- A forced picking leaves nothing open. -/
theorem sendPicking_forced (lawful : shop.Lawful) (wellFormed : WellFormed store)
    (nodup : (picking.lines.map TrackingLine.id).Nodup)
    (onePage : (preparedStore shop picking store).length ≤ 25) (saleLineId : ℕ) :
    openQty anywhere saleLineId (sendPicking shop picking true store).1 = 0 := by
  have kept := (sendPicking_store lawful wellFormed nodup true).2.2 saleLineId
  have everything : fulfilledQty saleLineId (sendPicking shop picking true store).2 =
      openQty anywhere saleLineId store := by
    rw [sendPicking_eq lawful wellFormed nodup,
      fulfillOrders_forced (ordersToFulfill_wellFormed lawful wellFormed nodup),
      totalQty_ordersToFulfill lawful wellFormed nodup onePage]
  omega

theorem sendPickings_forced (lawful : shop.Lawful) {pickings : List TrackingPicking}
    (nonempty : pickings ≠ []) {store : List FulfillmentOrder} (wellFormed : WellFormed store)
    (nodup : ∀ picking ∈ pickings, (picking.lines.map TrackingLine.id).Nodup)
    (onePage : (sendPickings shop true pickings store).1.length ≤ 25) :
    WellFormed (sendPickings shop true pickings store).1 ∧
      ∀ saleLineId, openQty anywhere saleLineId (sendPickings shop true pickings store).1 = 0 := by
  induction pickings generalizing store with
  | nil => contradiction
  | cons picking pickings induction =>
      obtain ⟨own, others⟩ := List.forall_mem_cons.mp nodup
      cases pickings with
      | nil =>
          have sent := sendPicking_store lawful wellFormed own true
          have onePicking : (sendPickings shop true [picking] store).1 =
              (sendPicking shop picking true store).1 := rfl
          rw [onePicking] at onePage ⊢
          refine ⟨sent.1, sendPicking_forced lawful wellFormed own ?_⟩
          rw [← sent.2.1]
          exact onePage
      | cons next rest =>
          have sent := sendPicking_store lawful wellFormed own false
          exact induction (List.cons_ne_nil next rest) sent.1 others onePage

/-- Open fulfillment order with one piece of one order line. -/
def singlePiece (id location saleLineItem : ℕ) : FulfillmentOrder where
  id := id
  status := .open
  location := location
  lineItems := [{ id := id, saleLineItem, totalQuantity := 1, remainingQuantity := 1 }]

theorem singlePiece_wellFormed (id location saleLineItem : ℕ) :
    (singlePiece id location saleLineItem).WellFormed where
  id_nodup := List.nodup_singleton _
  saleLineItem_nodup := List.nodup_singleton _

/-- A picking of some pieces of line 11. -/
def shipped (externalLocationId qty : ℕ) : TrackingPicking where
  externalLocationId := externalLocationId
  lines := [{ id := 11, qty }]
  carrierCode := ""
  tracking := "tracking_ref1"
  carrierTrackingUrl := none

/-- Two pieces at different locations. -/
def twoPieces : List FulfillmentOrder := [singlePiece 1 101 11, singlePiece 2 102 11]

theorem twoPieces_wellFormed : WellFormed twoPieces where
  id_nodup := by decide
  each := by simp [twoPieces, singlePiece_wellFormed]

/-- More fulfillment orders than one page. -/
def manyPieces : List FulfillmentOrder :=
  (List.range 26).map fun index => singlePiece (index + 1) 101 11

end OdooConnector.Order
