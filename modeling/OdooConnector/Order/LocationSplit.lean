import OdooConnector.Library.Allocation
import OdooConnector.Library.Replace
import OdooConnector.Order.ParseLines

/-!
# Splitting an order over locations

Parsing gives the whole current quantity of a line item to the first usable fulfillment order that
holds the line. The split is right exactly for the orders in which this one holds enough.
-/

namespace OdooConnector.Order

open Store

/-- Quantity of an order line in parsed rows. -/
def qtyOf (lineId : ℕ) (rows : List ParsedLine) : ℕ :=
  ((rows.filter fun row => row.id = lineId).map ParsedLine.productUomQty).sum

/-- Quantity that the entries of a fulfillment order hold for an order line. -/
def heldQty (lineId : ℕ) (group : ℕ × List (ℕ × ℕ)) : ℕ :=
  ((group.2.filter fun item => item.1 = lineId).map Prod.snd).sum

theorem qtyOf_flatten (lineId : ℕ) (rows : List (List ParsedLine)) :
    qtyOf lineId rows.flatten = (rows.map (qtyOf lineId)).sum := by
  induction rows with
  | nil => rfl
  | cons own others induction =>
      rw [List.map_cons, List.sum_cons, ← induction, List.flatten_cons, qtyOf, List.filter_append,
        List.map_append, List.sum_append]
      rfl

private theorem qtyOf_cons (lineId : ℕ) (row : ParsedLine) (rows : List ParsedLine) :
    qtyOf lineId (row :: rows) =
      (if row.id = lineId then row.productUomQty else 0) + qtyOf lineId rows :=
  sum_key_cons ParsedLine.id ParsedLine.productUomQty lineId row rows

private theorem forall₂_and {α β : Type} {first second : α → β → Prop} {left : List α}
    {right : List β} (holdsFirst : List.Forall₂ first left right)
    (holdsSecond : List.Forall₂ second left right) :
    List.Forall₂ (fun own other => first own other ∧ second own other) left right := by
  induction holdsFirst with
  | nil => exact List.Forall₂.nil
  | cons head _ induction =>
      obtain ⟨other, rest⟩ := List.forall₂_cons.mp holdsSecond
      exact List.Forall₂.cons ⟨head, other⟩ (induction rest)

namespace StoreOrder

theorem getOrderLineById_id {order : StoreOrder} {lineId : ℕ} {line : OrderLineItem}
    (found : order.getOrderLineById lineId = .ok line) : line.id = lineId := by
  rw [getOrderLineById] at found
  split at found
  · rename_i last present
    have member := List.mem_of_getLast? present
    rw [Except.ok.inj found] at member
    simpa using (List.mem_filter.mp member).2
  · contradiction

theorem currentQuantityTmp_update (line : OrderLineItem) (tmp : Dict ℕ ℕ) (lineId qty : ℕ) :
    line.currentQuantityTmp (tmp.update lineId fun _ => qty) =
      if line.id = lineId then qty else line.currentQuantityTmp tmp := by
  rw [OrderLineItem.currentQuantityTmp, Dict.get?_update]
  by_cases same : line.id = lineId
  · simp [same]
  · simp [same, OrderLineItem.currentQuantityTmp]

/-! ## One fulfillment order -/

/-- An entry places everything that is left of its line, or nothing when nothing is left. -/
theorem parseItems_cons {order : StoreOrder} {location lineId qty : ℕ} {items : List (ℕ × ℕ)}
    {tmp left : Dict ℕ ℕ} {rows : List ParsedLine}
    (parsed : order.parseItems location ((lineId, qty) :: items) tmp = .ok (rows, left)) :
    ∃ line, order.getOrderLineById lineId = .ok line ∧
      ((line.currentQuantityTmp tmp = 0 ∧
          order.parseItems location items tmp = .ok (rows, left)) ∨
        ∃ rest, rows = line.parse order (line.currentQuantityTmp tmp) location :: rest ∧
          order.parseItems location items (tmp.update lineId fun _ => 0) = .ok (rest, left)) := by
  rw [parseItems] at parsed
  cases found : order.getOrderLineById lineId with
  | error _ =>
      rw [found] at parsed
      contradiction
  | ok line =>
      refine ⟨line, rfl, ?_⟩
      rw [found] at parsed
      simp only [bind, Except.bind, ge_iff_le, le_refl, if_true, Nat.sub_self,
        getOrderLineById_id found] at parsed
      split at parsed
      · rename_i nothing
        exact Or.inl ⟨Nat.le_zero.mp nothing, parsed⟩
      · right
        cases rest : order.parseItems location items (tmp.update lineId fun _ => 0) with
        | error _ =>
            rw [rest] at parsed
            contradiction
        | ok result =>
            rw [rest] at parsed
            obtain ⟨rfl, rfl⟩ := Prod.mk.inj (Except.ok.inj parsed)
            exact ⟨result.1, rfl, rfl⟩

/-- A line with an entry is placed as a whole, any other line is left alone. -/
theorem parseItems_placed {order : StoreOrder} {location : ℕ} {items : List (ℕ × ℕ)}
    {tmp left : Dict ℕ ℕ} {rows : List ParsedLine}
    (parsed : order.parseItems location items tmp = .ok (rows, left)) {lineId : ℕ}
    {line : OrderLineItem} (found : order.getOrderLineById lineId = .ok line) :
    (lineId ∈ items.map Prod.fst ∧ qtyOf lineId rows = line.currentQuantityTmp tmp ∧
        line.currentQuantityTmp left = 0) ∨
      (lineId ∉ items.map Prod.fst ∧ qtyOf lineId rows = 0 ∧
        line.currentQuantityTmp left = line.currentQuantityTmp tmp) := by
  induction items generalizing tmp rows with
  | nil =>
      obtain ⟨rfl, rfl⟩ := Prod.mk.inj (Except.ok.inj parsed)
      exact Or.inr ⟨List.not_mem_nil, rfl, rfl⟩
  | cons item items induction =>
      obtain ⟨itemId, qty⟩ := item
      rw [List.map_cons, List.mem_cons]
      obtain ⟨own, ownFound, ⟨nothing, rest⟩ | ⟨rest, rfl, placed⟩⟩ := parseItems_cons parsed
      · by_cases same : lineId = itemId
        · rw [same, ownFound] at found
          rw [Except.ok.inj found] at nothing
          rcases induction rest with ⟨_, sum, remaining⟩ | ⟨_, sum, remaining⟩
          · exact Or.inl ⟨Or.inl same, sum, remaining⟩
          · exact Or.inl ⟨Or.inl same, sum.trans nothing.symm, remaining.trans nothing⟩
        · simpa only [same, false_or] using induction rest
      · have others := induction placed
        rw [currentQuantityTmp_update, getOrderLineById_id found] at others
        rw [qtyOf_cons, OrderLineItem.parse, getOrderLineById_id ownFound]
        by_cases same : lineId = itemId
        · left
          rw [if_pos same] at others
          rw [same, ownFound] at found
          rw [if_pos same.symm, Except.ok.inj found]
          rcases others with ⟨_, sum, remaining⟩ | ⟨_, sum, remaining⟩
          · exact ⟨Or.inl same, by rw [sum, Nat.add_zero], remaining⟩
          · exact ⟨Or.inl same, by rw [sum, Nat.add_zero], remaining⟩
        · rw [if_neg same] at others
          rw [if_neg (Ne.symm same), Nat.zero_add]
          simpa only [same, false_or] using others

theorem parseItems_location {order : StoreOrder} {location : ℕ} {items : List (ℕ × ℕ)}
    {tmp left : Dict ℕ ℕ} {rows : List ParsedLine}
    (parsed : order.parseItems location items tmp = .ok (rows, left)) :
    ∀ row ∈ rows, row.externalLocationId = location := by
  induction items generalizing tmp rows with
  | nil =>
      obtain ⟨rfl, rfl⟩ := Prod.mk.inj (Except.ok.inj parsed)
      simp
  | cons item items induction =>
      obtain ⟨own, _, ⟨_, rest⟩ | ⟨rest, rfl, placed⟩⟩ := parseItems_cons parsed
      · exact induction rest
      · exact List.forall_mem_cons.mpr ⟨rfl, induction placed⟩

/-- Parsing an entry fails only when the order does not have its line. -/
theorem parseItems_isOk {order : StoreOrder} (location : ℕ) {items : List (ℕ × ℕ)}
    (tmp : Dict ℕ ℕ) :
    (∃ result, order.parseItems location items tmp = .ok result) ↔
      ∀ item ∈ items, ∃ line, order.getOrderLineById item.1 = .ok line := by
  induction items generalizing tmp with
  | nil => simp [parseItems]
  | cons item items induction =>
      obtain ⟨itemId, qty⟩ := item
      rw [List.forall_mem_cons]
      constructor
      · rintro ⟨⟨rows, left⟩, parsed⟩
        obtain ⟨own, found, ⟨_, rest⟩ | ⟨rest, _, placed⟩⟩ := parseItems_cons parsed
        · exact ⟨⟨own, found⟩, (induction tmp).mp ⟨_, rest⟩⟩
        · exact ⟨⟨own, found⟩, (induction _).mp ⟨_, placed⟩⟩
      · rintro ⟨⟨own, found⟩, others⟩
        rw [parseItems, found]
        simp only [bind, Except.bind]
        split
        · exact (induction tmp).mpr others
        · obtain ⟨result, parsed⟩ := (induction _).mpr others
          rw [parsed]
          exact ⟨_, rfl⟩

/-! ## All fulfillment orders -/

theorem parseGroups_cons {order : StoreOrder} {group : ℕ × List (ℕ × ℕ)}
    {groups : List (ℕ × List (ℕ × ℕ))} {tmp : Dict ℕ ℕ} {rows : List (List ParsedLine)}
    (parsed : order.parseGroups (group :: groups) tmp = .ok rows) :
    ∃ own left others, order.parseItems group.1 group.2 tmp = .ok (own, left) ∧
      order.parseGroups groups left = .ok others ∧ rows = own :: others := by
  rw [parseGroups] at parsed
  cases first : order.parseItems group.1 group.2 tmp with
  | error _ =>
      rw [first] at parsed
      contradiction
  | ok result =>
      rw [first] at parsed
      simp only [bind, Except.bind] at parsed
      cases rest : order.parseGroups groups result.2 with
      | error _ =>
          rw [rest] at parsed
          contradiction
      | ok others =>
          rw [rest] at parsed
          exact ⟨result.1, result.2, others, rfl, rest, (Except.ok.inj parsed).symm⟩

private theorem heldQty_eq_zero_iff {lineId : ℕ} {group : ℕ × List (ℕ × ℕ)}
    (positive : ∀ item ∈ group.2, item.2 ≠ 0) :
    heldQty lineId group = 0 ↔ lineId ∉ group.2.map Prod.fst := by
  simp only [heldQty, List.sum_eq_zero_iff, List.mem_map, List.mem_filter, decide_eq_true_eq]
  constructor
  · rintro zeros ⟨item, member, same⟩
    exact positive item member (zeros item.2 ⟨item, ⟨member, same⟩, rfl⟩)
  · rintro absent qty ⟨item, ⟨member, same⟩, _⟩
    exact absurd ⟨item, member, same⟩ absent

/-- The first fulfillment order that holds a line gets all of it. -/
theorem parseGroups_placed {order : StoreOrder} {groups : List (ℕ × List (ℕ × ℕ))}
    {tmp : Dict ℕ ℕ} {rows : List (List ParsedLine)}
    (parsed : order.parseGroups groups tmp = .ok rows)
    (positive : ∀ group ∈ groups, ∀ item ∈ group.2, item.2 ≠ 0) {lineId : ℕ}
    {line : OrderLineItem} (found : order.getOrderLineById lineId = .ok line) :
    rows.map (qtyOf lineId) =
      firstTakesAll (line.currentQuantityTmp tmp) (groups.map (heldQty lineId)) := by
  induction groups generalizing tmp rows with
  | nil =>
      rw [← Except.ok.inj parsed]
      rfl
  | cons group groups induction =>
      obtain ⟨own, left, others, first, rest, rfl⟩ := parseGroups_cons parsed
      obtain ⟨ownPositive, othersPositive⟩ := List.forall_mem_cons.mp positive
      rw [List.map_cons, List.map_cons, firstTakesAll, induction rest othersPositive]
      rcases parseItems_placed first found with ⟨held, sum, remaining⟩ | ⟨absent, sum, remaining⟩
      · have positiveQty : heldQty lineId group ≠ 0 := by
          rw [Ne, heldQty_eq_zero_iff ownPositive]
          exact not_not_intro held
        rw [if_neg positiveQty, sum, remaining]
      · rw [if_pos ((heldQty_eq_zero_iff ownPositive).mpr absent), sum, remaining]

theorem parseGroups_location {order : StoreOrder} {groups : List (ℕ × List (ℕ × ℕ))}
    {tmp : Dict ℕ ℕ} {rows : List (List ParsedLine)}
    (parsed : order.parseGroups groups tmp = .ok rows) :
    List.Forall₂ (fun own group => ∀ row ∈ own, row.externalLocationId = group.1) rows groups := by
  induction groups generalizing tmp rows with
  | nil =>
      rw [← Except.ok.inj parsed]
      exact List.Forall₂.nil
  | cons group groups induction =>
      obtain ⟨own, left, others, first, rest, rfl⟩ := parseGroups_cons parsed
      exact List.Forall₂.cons (parseItems_location first) (induction rest)

theorem parseGroups_isOk {order : StoreOrder} {groups : List (ℕ × List (ℕ × ℕ))}
    (tmp : Dict ℕ ℕ) :
    (∃ rows, order.parseGroups groups tmp = .ok rows) ↔
      ∀ group ∈ groups, ∀ item ∈ group.2, ∃ line, order.getOrderLineById item.1 = .ok line := by
  induction groups generalizing tmp with
  | nil => simp [parseGroups]
  | cons group groups induction =>
      rw [List.forall_mem_cons]
      constructor
      · rintro ⟨rows, parsed⟩
        obtain ⟨own, left, others, first, rest, _⟩ := parseGroups_cons parsed
        exact ⟨(parseItems_isOk group.1 tmp).mp ⟨_, first⟩, (induction left).mp ⟨_, rest⟩⟩
      · rintro ⟨own, others⟩
        obtain ⟨⟨rows, left⟩, first⟩ := (parseItems_isOk group.1 tmp).mpr own
        obtain ⟨rest, parsed⟩ := (induction left).mpr others
        rw [parseGroups, first]
        simp only [bind, Except.bind]
        rw [parsed]
        exact ⟨_, rfl⟩

/-! ## The split of an order -/

/-- A line item is split without loss, and no fulfillment order gets more than it holds. -/
def SplitRight (order : StoreOrder) (rows : List (List ParsedLine)) (lineId : ℕ)
    (line : OrderLineItem) : Prop :=
  qtyOf lineId rows.flatten =
      min line.currentQuantity (order.groupLinesByLocation.map (heldQty lineId)).sum ∧
    List.Forall₂ (fun own group => (∀ row ∈ own, row.externalLocationId = group.1) ∧
      qtyOf lineId own ≤ heldQty lineId group) rows order.groupLinesByLocation

/-- All entries that parsing uses name a line item of the order. -/
def Known (order : StoreOrder) : Prop :=
  ∀ group ∈ order.groupLinesByLocation, ∀ item ∈ group.2,
    ∃ line, order.getOrderLineById item.1 = .ok line

/-- The first usable fulfillment order that holds a line item holds its whole current quantity. -/
def FirstHoldsAll (order : StoreOrder) (lineId : ℕ) (line : OrderLineItem) : Prop :=
  ∀ first, (order.groupLinesByLocation.map (heldQty lineId)).find? (fun qty => 0 < qty) =
    some first → line.currentQuantity ≤ first

theorem groupLinesByLocation_positive {order : StoreOrder} :
    ∀ group ∈ order.groupLinesByLocation, ∀ item ∈ group.2, item.2 ≠ 0 := by
  intro group member item itemMember
  obtain ⟨fOrder, _, rfl⟩ := List.mem_map.mp (List.mem_filter.mp member).1
  rw [usableItems] at itemMember
  split at itemMember
  · simp at itemMember
  · obtain ⟨line, lineMember, rfl⟩ := List.mem_map.mp itemMember
    simpa using (List.mem_filter.mp lineMember).2

theorem splitRight_iff {order : StoreOrder} {rows : List (List ParsedLine)}
    (parsed : order.parseLocations = .ok rows) {lineId : ℕ} {line : OrderLineItem}
    (found : order.getOrderLineById lineId = .ok line) :
    order.SplitRight rows lineId line ↔ order.FirstHoldsAll lineId line := by
  have placed := parseGroups_placed parsed groupLinesByLocation_positive found
  have untouched : line.currentQuantityTmp ∅ = line.currentQuantity := rfl
  have located := parseGroups_location parsed
  rw [untouched] at placed
  rw [FirstHoldsAll, ← firstTakesAll_correct_iff, ← placed, SplitRight, qtyOf_flatten,
    List.forall₂_map_left_iff, List.forall₂_map_right_iff]
  refine and_congr_right fun _ => ⟨fun both => both.imp fun _ _ pair => pair.2, fun fits => ?_⟩
  exact forall₂_and located fits

/-- Every order that parses is split rightly if and only if the first usable fulfillment order that
holds a line item holds all of it. -/
theorem parseLines_split_iff (order : StoreOrder) :
    (∀ rows, order.parseLocations = .ok rows →
      order.parseLines = .ok rows.flatten ∧
        ∀ lineId line, order.getOrderLineById lineId = .ok line →
          order.SplitRight rows lineId line) ↔
      (order.Known → ∀ lineId line, order.getOrderLineById lineId = .ok line →
        order.FirstHoldsAll lineId line) := by
  constructor
  · intro right known lineId line found
    obtain ⟨rows, parsed⟩ := (parseGroups_isOk ∅).mpr known
    exact (splitRight_iff parsed found).mp ((right rows parsed).2 lineId line found)
  · intro holds rows parsed
    have known : order.Known := (parseGroups_isOk ∅).mp ⟨rows, parsed⟩
    refine ⟨?_, fun lineId line found => ?_⟩
    · rw [parseLines, parsed]
      rfl
    · exact (splitRight_iff parsed found).mpr (holds known lineId line found)

/-- Three pieces of one line, one of them at the first location and two at the second. -/
def twoLocations : StoreOrder where
  useCustomerCurrency := false
  taxExempt := false
  taxesIncludedInPrice := false
  orderLineItems :=
    [{ id := 11, name := "Product", sku := "SKU"
       originalUnitPriceSet := { presentmentMoney := none, shopMoney := some 15 }
       variant := none, currentQuantity := 3, taxLines := [], discountAllocations := [] }]
  fulfillmentOrders :=
    [{ id := 1, status := .open, location := 101
       lineItems := [{ id := 21, saleLineItem := 11, totalQuantity := 1
                       remainingQuantity := 1 }] },
     { id := 2, status := .open, location := 102
       lineItems := [{ id := 22, saleLineItem := 11, totalQuantity := 2
                       remainingQuantity := 2 }] }]

/-- All three pieces are placed at the first location, which holds one. -/
theorem parseLines_overallocates :
    (∃ rows, twoLocations.parseLocations = .ok rows ∧ rows.map (qtyOf 11) = [3, 0] ∧
      (rows.flatten.map fun row => (row.id, row.productUomQty, row.externalLocationId)) =
        [(11, 3, 101)]) ∧
    twoLocations.groupLinesByLocation.map (heldQty 11) = [1, 2] :=
  ⟨⟨_, rfl, by decide, by decide⟩, by decide⟩

end StoreOrder
end OdooConnector.Order
