import OdooConnector.Store.RemainingQty

/-!
# What the store does with fulfillment orders

The store itself is not part of the connector. It is given by three operations on the fulfillment
orders of one order, and by laws for them: moving changes the location, splitting puts the given
quantities into a new order, and fulfilling subtracts them. The store may list its orders in any
order.
-/

namespace OdooConnector.Store

namespace FulfillmentOrder

/-- The same order at another location. -/
def relocated (location : ℕ) (order : FulfillmentOrder) : FulfillmentOrder :=
  { order with location }

@[simp]
theorem relocated_location (location : ℕ) (order : FulfillmentOrder) :
    (order.relocated location).location = location := rfl

@[simp]
theorem relocated_status (location : ℕ) (order : FulfillmentOrder) :
    (order.relocated location).status = order.status := rfl

@[simp]
theorem relocated_remainingQty (location saleLineId : ℕ) (order : FulfillmentOrder) :
    (order.relocated location).remainingQty saleLineId = order.remainingQty saleLineId := rfl

/-- What is left of a fulfillment order after some of it was taken; it stays open or in progress
unless nothing remains. -/
structure Reduced (before : FulfillmentOrder) (data : List LineData) (after : FulfillmentOrder) :
    Prop where
  id : after.id = before.id
  location : after.location = before.location
  wellFormed : after.WellFormed
  remaining : ∀ saleLineId, after.remainingQty saleLineId =
    before.remainingQty saleLineId - before.lineQty saleLineId data
  status : after.status.openOrInProgress = before.status.openOrInProgress ∨
    ∀ saleLineId, after.remainingQty saleLineId = 0

/-- A fulfillment order with exactly the quantities that were split out. -/
structure SplitOut (before : FulfillmentOrder) (data : List LineData) (out : FulfillmentOrder) :
    Prop where
  location : out.location = before.location
  wellFormed : out.WellFormed
  remaining : ∀ saleLineId, out.remainingQty saleLineId = before.lineQty saleLineId data
  status : out.status.openOrInProgress = before.status.openOrInProgress

end FulfillmentOrder

/-- Operations of the store, on the fulfillment orders of one order. -/
structure Shop where
  move : ℕ → ℕ → List FulfillmentOrder → List FulfillmentOrder
  split : ℕ → List LineData → List FulfillmentOrder → FulfillmentOrder × List FulfillmentOrder
  fulfill : ℕ → List LineData → List FulfillmentOrder → List FulfillmentOrder

/-- Fulfillment orders have different ids, and each of them is well formed. -/
structure WellFormed (orders : List FulfillmentOrder) : Prop where
  id_nodup : (orders.map FulfillmentOrder.id).Nodup
  each : ∀ order ∈ orders, order.WellFormed

open FulfillmentOrder in
/-- Documented behaviour of the operations. -/
structure Shop.Lawful (shop : Shop) : Prop where
  move : ∀ {orders order}, WellFormed orders → order ∈ orders → ∀ location,
    (shop.move order.id location orders).Perm
      (replaceBy FulfillmentOrder.id (order.relocated location) orders)
  split : ∀ {orders order data}, WellFormed orders → order ∈ orders → order.Fits data →
    ∃ rest, order.Reduced data rest ∧
      order.SplitOut data (shop.split order.id data orders).1 ∧
      (shop.split order.id data orders).1.id ∉ orders.map FulfillmentOrder.id ∧
      (shop.split order.id data orders).2.Perm
        ((shop.split order.id data orders).1 :: replaceBy FulfillmentOrder.id rest orders)
  fulfill : ∀ {orders order data}, WellFormed orders → order ∈ orders → order.Fits data →
    ∃ after, order.Reduced data after ∧
      (shop.fulfill order.id data orders).Perm (replaceBy FulfillmentOrder.id after orders)

theorem WellFormed.perm {orders others : List FulfillmentOrder} (wellFormed : WellFormed orders)
    (same : others.Perm orders) : WellFormed others where
  id_nodup := (same.map FulfillmentOrder.id).nodup_iff.mpr wellFormed.id_nodup
  each order member := wellFormed.each order (same.mem_iff.mp member)

theorem WellFormed.replaceBy {orders : List FulfillmentOrder} (wellFormed : WellFormed orders)
    {new : FulfillmentOrder} (newWellFormed : new.WellFormed) :
    WellFormed (replaceBy FulfillmentOrder.id new orders) where
  id_nodup := by
    rw [map_key_replaceBy]
    exact wellFormed.id_nodup
  each order member := by
    rcases mem_replaceBy member with rfl | ⟨old, _⟩
    · exact newWellFormed
    · exact wellFormed.each order old

/-! ## Sums over the orders of the store -/

/-- Remaining quantity of an order line in an open order with some location. -/
def openWeight (here : ℕ → Bool) (saleLineId : ℕ) (order : FulfillmentOrder) : ℕ :=
  if order.status.openOrInProgress && here order.location then order.remainingQty saleLineId else 0

/-- Remaining quantity of an order line over the open orders with some location. -/
def openQty (here : ℕ → Bool) (saleLineId : ℕ) (orders : List FulfillmentOrder) : ℕ :=
  (orders.map (openWeight here saleLineId)).sum

def anywhere (_ : ℕ) : Bool := true

theorem openQty_perm {orders others : List FulfillmentOrder} (same : orders.Perm others)
    (here : ℕ → Bool) (saleLineId : ℕ) :
    openQty here saleLineId orders = openQty here saleLineId others :=
  (same.map _).sum_eq

theorem openQty_replaceBy {orders : List FulfillmentOrder} (wellFormed : WellFormed orders)
    {old new : FulfillmentOrder} (member : old ∈ orders) (sameId : new.id = old.id)
    (here : ℕ → Bool) (saleLineId : ℕ) :
    openQty here saleLineId (replaceBy FulfillmentOrder.id new orders) +
        openWeight here saleLineId old =
      openQty here saleLineId orders + openWeight here saleLineId new :=
  sum_replaceBy wellFormed.id_nodup member sameId _

/-- Open orders are here or not. -/
theorem openQty_split (here : ℕ → Bool) (saleLineId : ℕ) (orders : List FulfillmentOrder) :
    openQty anywhere saleLineId orders =
      openQty here saleLineId orders +
        openQty (fun location => !here location) saleLineId orders := by
  induction orders with
  | nil => rfl
  | cons order orders induction =>
      have own : openWeight anywhere saleLineId order =
          openWeight here saleLineId order +
            openWeight (fun location => !here location) saleLineId order := by
        rw [openWeight, openWeight, openWeight, anywhere]
        cases order.status.openOrInProgress <;> cases here order.location <;> simp
      rw [openQty] at induction
      rw [openQty, List.map_cons, List.sum_cons, induction, own, openQty, openQty, openQty, openQty,
        List.map_cons, List.map_cons, List.sum_cons, List.sum_cons]
      omega

theorem openWeight_reduced {before after : FulfillmentOrder} {data : List LineData}
    (reduced : before.Reduced data after) (isOpen : before.status.openOrInProgress = true)
    (here : ℕ → Bool) (saleLineId : ℕ) :
    openWeight here saleLineId after =
      if here before.location then
        before.remainingQty saleLineId - before.lineQty saleLineId data
      else 0 := by
  rw [openWeight, reduced.location, ← reduced.remaining]
  rcases reduced.status with same | nothing
  · rw [same, isOpen, Bool.true_and]
  · rw [nothing, ite_self, ite_self]

/-! ## Moving quantities to a location -/

/-- Open quantities were moved to a location; nothing was lost. -/
structure Gathered (locationId : ℕ) (gain : ℕ → ℕ) (before after : List FulfillmentOrder) :
    Prop where
  wellFormed : WellFormed after
  length_le : before.length ≤ after.length
  here : ∀ saleLineId, openQty (fun location => location = locationId) saleLineId after =
    openQty (fun location => location = locationId) saleLineId before + gain saleLineId
  total : ∀ saleLineId,
    openQty anywhere saleLineId after = openQty anywhere saleLineId before

theorem Gathered.refl {locationId : ℕ} {gain : ℕ → ℕ} {store : List FulfillmentOrder}
    (wellFormed : WellFormed store) (nothing : ∀ saleLineId, gain saleLineId = 0) :
    Gathered locationId gain store store where
  wellFormed := wellFormed
  length_le := Nat.le_refl _
  here saleLineId := by rw [nothing, Nat.add_zero]
  total _ := rfl

theorem Gathered.trans {locationId : ℕ} {first second gain : ℕ → ℕ}
    {before middle after : List FulfillmentOrder} (left : Gathered locationId first before middle)
    (right : Gathered locationId second middle after)
    (sum : ∀ saleLineId, gain saleLineId = first saleLineId + second saleLineId) :
    Gathered locationId gain before after where
  wellFormed := right.wellFormed
  length_le := left.length_le.trans right.length_le
  here saleLineId := by rw [right.here, left.here, sum, Nat.add_assoc]
  total saleLineId := (right.total saleLineId).trans (left.total saleLineId)

/-- The quantities come from one order, and all others are untouched. -/
structure MovedTo (locationId : ℕ) (gain : ℕ → ℕ) (id : ℕ) (before after : List FulfillmentOrder) :
    Prop extends Gathered locationId gain before after where
  others : ∀ order ∈ before, order.id ≠ id → order ∈ after

theorem Shop.Lawful.moved {shop : Shop} (lawful : shop.Lawful) {orders : List FulfillmentOrder}
    (wellFormed : WellFormed orders) {order : FulfillmentOrder} (member : order ∈ orders)
    (isOpen : order.status.openOrInProgress = true) {locationId : ℕ}
    (elsewhere : order.location ≠ locationId) :
    MovedTo locationId (fun saleLineId => order.remainingQty saleLineId) order.id orders
      (shop.move order.id locationId orders) := by
  have perm := lawful.move wellFormed member locationId
  have sameId : (order.relocated locationId).id = order.id := rfl
  have relocatedWellFormed : (order.relocated locationId).WellFormed :=
    ⟨(wellFormed.each order member).id_nodup, (wellFormed.each order member).saleLineItem_nodup⟩
  refine ⟨⟨(wellFormed.replaceBy relocatedWellFormed).perm perm, ?_, ?_, ?_⟩, ?_⟩
  · rw [perm.length_eq, replaceBy, List.length_map]
  · intro saleLineId
    have weights := openQty_replaceBy wellFormed member sameId
      (fun location => location = locationId) saleLineId
    rw [← openQty_perm perm] at weights
    simpa [openWeight, isOpen, elsewhere] using weights
  · intro saleLineId
    have weights := openQty_replaceBy wellFormed member sameId anywhere saleLineId
    rw [← openQty_perm perm] at weights
    simpa [openWeight, isOpen, anywhere] using weights
  · intro other otherMember different
    have kept : other.id ≠ (order.relocated locationId).id := different
    exact perm.mem_iff.mpr ((mem_replaceBy_of_ne kept).mpr otherMember)

theorem Shop.Lawful.splitMoved {shop : Shop} (lawful : shop.Lawful)
    {orders : List FulfillmentOrder} (wellFormed : WellFormed orders) {order : FulfillmentOrder}
    (member : order ∈ orders) (isOpen : order.status.openOrInProgress = true) {locationId : ℕ}
    (elsewhere : order.location ≠ locationId) {data : List LineData} (fits : order.Fits data) :
    (shop.split order.id data orders).1.location ≠ locationId ∧
      MovedTo locationId (fun saleLineId => order.lineQty saleLineId data) order.id orders
        (shop.move (shop.split order.id data orders).1.id locationId
          (shop.split order.id data orders).2) := by
  obtain ⟨rest, reduced, splitOut, fresh, perm⟩ := lawful.split wellFormed member fits
  set out := (shop.split order.id data orders).1
  set split := (shop.split order.id data orders).2
  have outElsewhere : out.location ≠ locationId := splitOut.location ▸ elsewhere
  have outOpen : out.status.openOrInProgress = true := splitOut.status.trans isOpen
  have listed : WellFormed (out :: replaceBy FulfillmentOrder.id rest orders) := by
    have replaced := wellFormed.replaceBy reduced.wellFormed
    refine ⟨?_, List.forall_mem_cons.mpr ⟨splitOut.wellFormed, replaced.each⟩⟩
    rw [List.map_cons, List.nodup_cons, map_key_replaceBy]
    exact ⟨fresh, wellFormed.id_nodup⟩
  have outMember : out ∈ split := perm.mem_iff.mpr List.mem_cons_self
  have moved := lawful.moved (listed.perm perm) outMember outOpen outElsewhere
  -- the split itself leaves the quantity here as it is, and adds nothing anywhere
  have splitQty (here : ℕ → Bool) (saleLineId : ℕ) :
      openQty here saleLineId split + openWeight here saleLineId order =
        openWeight here saleLineId out +
          (openQty here saleLineId orders + openWeight here saleLineId rest) := by
    rw [openQty_perm perm, openQty, List.map_cons, List.sum_cons, Nat.add_assoc]
    exact congrArg _ (openQty_replaceBy wellFormed member reduced.id here saleLineId)
  refine ⟨outElsewhere, ⟨moved.wellFormed, ?_, ?_, ?_⟩, ?_⟩
  · have lengths := perm.length_eq
    rw [List.length_cons, replaceBy, List.length_map] at lengths
    have longer := moved.length_le
    omega
  · intro saleLineId
    have qty := splitQty (fun location => location = locationId) saleLineId
    rw [openWeight_reduced reduced isOpen] at qty
    rw [moved.here, splitOut.remaining]
    simpa [openWeight, isOpen, outOpen, elsewhere, outElsewhere] using qty
  · intro saleLineId
    have qty := splitQty anywhere saleLineId
    have enough := FulfillmentOrder.lineQty_le_remainingQty (wellFormed.each order member)
      fits.enough saleLineId
    rw [openWeight_reduced reduced isOpen] at qty
    simp only [openWeight, isOpen, outOpen, anywhere, Bool.and_self, if_true,
      splitOut.remaining] at qty
    rw [moved.total]
    omega
  · intro other otherMember different
    refine moved.others other ?_ ?_
    · refine perm.mem_iff.mpr (List.mem_cons_of_mem out ?_)
      exact (mem_replaceBy_of_ne (reduced.id ▸ different)).mpr otherMember
    · intro same
      exact fresh (same ▸ List.mem_map_of_mem otherMember)

end OdooConnector.Store
