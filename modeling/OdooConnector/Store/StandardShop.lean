import OdooConnector.Store.Shop

/-!
# A lawful store

A store that changes its orders in place and appends what is split off.
-/

namespace OdooConnector.Store

namespace FulfillmentOrder

/-- What is left of an order after some data was taken from it. -/
def without (data : List LineData) (order : FulfillmentOrder) : FulfillmentOrder :=
  { order with
    lineItems := order.lineItems.map fun item =>
      { item with remainingQuantity := item.remainingQuantity - dataQty item.id data } }

/-- An order with just the given data. -/
def splitOff (id : ℕ) (data : List LineData) (order : FulfillmentOrder) : FulfillmentOrder :=
  { order with
    id
    lineItems := (order.lineItems.filter fun item => dataQty item.id data ≠ 0).map fun item =>
      { item with
        totalQuantity := dataQty item.id data
        remainingQuantity := dataQty item.id data } }

theorem reduced_without {order : FulfillmentOrder} (wellFormed : order.WellFormed)
    (data : List LineData) : order.Reduced data (without data order) := by
  have own : (without data order).WellFormed := by
    refine ⟨?_, ?_⟩
    · rw [without, List.map_map]
      exact wellFormed.id_nodup
    · rw [without, List.map_map]
      exact wellFormed.saleLineItem_nodup
  refine ⟨rfl, rfl, own, fun saleLineId => ?_, Or.inl rfl⟩
  rcases saleLine_cases wellFormed saleLineId with
    ⟨item, member, rfl, remaining, taken⟩ | ⟨absent, remaining, _⟩
  · rw [remaining, taken]
    exact remainingQty_of_mem own (List.mem_map_of_mem member)
  · rw [remaining, Nat.zero_sub]
    refine remainingQty_of_absent fun item member => ?_
    obtain ⟨old, oldMember, rfl⟩ := List.mem_map.mp member
    exact absent old oldMember

theorem splitOut_splitOff {order : FulfillmentOrder} (wellFormed : order.WellFormed) (id : ℕ)
    (data : List LineData) : order.SplitOut data (splitOff id data order) := by
  have own : (splitOff id data order).WellFormed := by
    refine ⟨?_, ?_⟩
    · rw [splitOff, List.map_map]
      exact wellFormed.id_nodup.sublist (List.filter_sublist.map _)
    · rw [splitOff, List.map_map]
      exact wellFormed.saleLineItem_nodup.sublist (List.filter_sublist.map _)
  refine ⟨rfl, own, fun saleLineId => ?_, rfl⟩
  rcases saleLine_cases own saleLineId with
    ⟨item, member, rfl, remaining, _⟩ | ⟨absent, remaining, _⟩
  · rw [remaining]
    obtain ⟨old, oldMember, rfl⟩ := List.mem_map.mp member
    exact (lineQty_of_mem wellFormed (List.mem_filter.mp oldMember).1 data).symm
  · rw [remaining]
    rcases saleLine_cases wellFormed saleLineId with
      ⟨item, member, same, _, taken⟩ | ⟨_, _, taken⟩
    · rw [taken]
      by_contra positive
      exact absent _ (List.mem_map_of_mem (List.mem_filter.mpr
        ⟨member, decide_eq_true (Ne.symm positive)⟩)) same
    · rw [taken]

end FulfillmentOrder

open FulfillmentOrder

/-- Keeps the orders in sequence; a new order gets an id greater than all others. -/
def standardShop : Shop where
  move id location orders :=
    orders.map fun order => if order.id = id then order.relocated location else order
  split id data orders :=
    let fresh := (orders.map FulfillmentOrder.id).sum + 1
    match orders.find? fun order => order.id = id with
    | none => ({ id := fresh, status := .open, location := 0, lineItems := [] }, orders)
    | some order =>
        (order.splitOff fresh data,
          (orders.map fun other => if other.id = id then other.without data else other) ++
            [order.splitOff fresh data])
  fulfill id data orders :=
    orders.map fun order => if order.id = id then order.without data else order

theorem standardShop_lawful : standardShop.Lawful where
  move {orders order} wellFormed member location := by
    refine List.Perm.of_eq ?_
    exact map_ite_eq_replaceBy (relocated location) wellFormed.id_nodup member rfl
  split {orders order data} wellFormed member _ := by
    have own := wellFormed.each order member
    have found : (orders.find? fun other => other.id = order.id) = some order := by
      obtain ⟨other, hit⟩ : ∃ other,
          (orders.find? fun other => other.id = order.id) = some other := by
        rw [← Option.isSome_iff_exists, List.find?_isSome]
        exact ⟨order, member, decide_eq_true rfl⟩
      have sameId : other.id = order.id := by simpa using List.find?_some hit
      rw [hit, List.inj_on_of_nodup_map wellFormed.id_nodup (List.mem_of_find?_eq_some hit) member
        sameId]
    have split : standardShop.split order.id data orders =
        (order.splitOff ((orders.map FulfillmentOrder.id).sum + 1) data,
          (orders.map fun other => if other.id = order.id then other.without data else other) ++
            [order.splitOff ((orders.map FulfillmentOrder.id).sum + 1) data]) := by
      simp only [standardShop, found]
    rw [split]
    refine ⟨order.without data, reduced_without own data, splitOut_splitOff own _ data, ?_, ?_⟩
    · intro known
      have bounded := List.single_le_sum (fun _ _ => Nat.zero_le _) _ known
      exact absurd bounded (Nat.not_succ_le_self _)
    · rw [← map_ite_eq_replaceBy (without data) wellFormed.id_nodup member rfl]
      exact List.perm_append_singleton _ _
  fulfill {orders order data} wellFormed member _ := by
    refine ⟨order.without data, reduced_without (wellFormed.each order member) data, ?_⟩
    refine List.Perm.of_eq ?_
    exact map_ite_eq_replaceBy (without data) wellFormed.id_nodup member rfl

end OdooConnector.Store
