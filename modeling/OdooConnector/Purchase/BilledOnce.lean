import OdooConnector.Purchase.BilledPart

/-!
# Each line is billed once

The lines to bill of an order stand together in the one bill that has the key of the order. They are
as they should be where no marked section leads to a regular line.
-/

namespace OdooConnector.Purchase

variable (odoo : Bookkeeping) (final : Bool)

/-- The bills have every line once, under the key of its order. -/
structure BilledOnce (orders : PurchaseOrders) (bills : List BillVals) : Prop where
  once : ∀ order ∈ orders.orders, odoo.isBilled final order →
    ∀ line ∈ odoo.getBillableLines final order,
      (bills.flatMap BillVals.purchaseLineIds).count line.id = 1
  own : ∀ bill ∈ bills, ∀ id ∈ bill.purchaseLineIds,
    ∃ order ∈ orders.orders, odoo.isBilled final order ∧ bill.groupingKeys = odoo.billKey order ∧
      ∃ line ∈ odoo.getBillableLines final order, line.id = id
  keys : (bills.map BillVals.groupingKeys).Nodup
  /-- No other section that the bill adds is right above the lines of an order. -/
  together : ∀ order ∈ orders.orders, odoo.isBilled final order →
    ∃ bill ∈ bills, bill.groupingKeys = odoo.billKey order ∧
      ∃ before after, bill.lineIds = before ++ odoo.billedPart final order ++ after ∧
        before.getLast? ≠ some none
  inOrder : ∀ bill ∈ bills, bill.InOrder
  sections : ∀ order ∈ orders.orders, odoo.isBilled final order →
    ∀ heading ∈ odoo.getBillableLines final order, heading.isSection →
      ∃ front back, order.orderLine = front ++ heading :: back ∧
        ∃ line ∈ back.takeWhile fun line => !line.isSection,
          line ∈ odoo.getBillableLines final order ∧ !line.isPrepayment

/-- What the bills of the orders should be; without a line to bill the user gets the error. -/
def AdvanceBilled (orders : PurchaseOrders) : Except String (List Move) → Prop
  | .error message =>
      message = odoo.nothingToInvoiceError ∧
        ∀ order ∈ orders.orders, ¬ odoo.isBilled final order
  | .ok moves => BilledOnce odoo final orders (moves.map Move.vals)

/-- In no order with a billable product line does a section that is marked as a down payment lead to
a regular line. -/
def Bookkeeping.SectionsApart (orders : PurchaseOrders) : Prop :=
  ∀ order ∈ orders.orders,
    (∃ line ∈ order.orderLine, line.displayType = none ∧ odoo.isBillable final line) →
      ∀ front heading back, order.orderLine = front ++ heading :: back →
        heading.isSection → heading.isDownpayment → ¬ odoo.Leads final back

variable {odoo final}

/-! ### All orders -/

/-- The orders that are billed. -/
def Bookkeeping.billed (odoo : Bookkeeping) (final : Bool) (orders : PurchaseOrders) :
    List PurchaseOrder :=
  orders.orders.filter (odoo.isBilled final)

/-- No line is to be billed twice. -/
theorem nodup_billableLines (orders : PurchaseOrders) :
    ((odoo.billed final orders).flatMap fun order =>
      (odoo.getBillableLines final order).map PurchaseLine.id).Nodup := by
  have lines : ((odoo.billed final orders).flatMap (odoo.getBillableLines final)).Subperm
      (orders.orders.flatMap PurchaseOrder.orderLine) :=
    (flatMap_subperm getBillableLines_subperm).trans
      (List.filter_sublist.flatMap PurchaseOrder.orderLine).subperm
  obtain ⟨list, perm, sublist⟩ := lines
  rw [← List.map_flatMap]
  exact (perm.map PurchaseLine.id).nodup_iff.mp (orders.nodup.sublist (sublist.map _))

theorem nodup_orderLine {orders : PurchaseOrders} {order : PurchaseOrder}
    (member : order ∈ orders.orders) : (order.orderLine.map PurchaseLine.id).Nodup := by
  have sublist : order.orderLine.Sublist (orders.orders.flatMap PurchaseOrder.orderLine) := by
    rw [List.flatMap_def]
    exact List.sublist_flatten_of_mem (List.mem_map_of_mem member)
  exact orders.nodup.sublist (sublist.map PurchaseLine.id)

/-! ### The bills of a run -/

/-- The bills that are put together for a key have the lines of all orders with the key. -/
theorem flatMap_lineIds_of_key (lawful : odoo.Lawful) (orders : PurchaseOrders) (key : List ℕ) :
    ((odoo.billsFrom final 0 orders.orders).filter fun bill =>
        bill.groupingKeys = key).flatMap BillVals.lineIds =
      ((odoo.billed final orders).filter fun order =>
        odoo.billKey order = key).flatMap (odoo.addedIds final) := by
  have pairs := congrArg (fun pairs : List (List ℕ × List (Option ℕ)) =>
    (pairs.filter fun pair => pair.1 = key).flatMap Prod.snd)
    (@map_billsFrom odoo final lawful 0 orders.orders)
  simp only [List.filter_map, List.flatMap_map, Function.comp_def] at pairs
  exact pairs

theorem map_groupingKeys (lawful : odoo.Lawful) (orders : PurchaseOrders) :
    (odoo.billsFrom final 0 orders.orders).map BillVals.groupingKeys =
      (odoo.billed final orders).map odoo.billKey := by
  have pairs := congrArg (List.map Prod.fst)
    (@map_billsFrom odoo final lawful 0 orders.orders)
  rwa [List.map_map, List.map_map] at pairs

theorem inOrder_of_sublist (lawful : odoo.Lawful) {orders : PurchaseOrders} {bill : BillVals}
    {bills : List BillVals} (sublist : bills.Sublist (odoo.billsFrom final 0 orders.orders))
    (lines : bill.invoiceLineIds = bills.flatMap BillVals.invoiceLineIds) : bill.InOrder := by
  obtain ⟨count, all⟩ := @sequences_billsFrom odoo final lawful 0 orders.orders
  have own : bill.sequences = bills.flatMap BillVals.sequences := by
    rw [BillVals.sequences, lines, List.map_flatMap]
    rfl
  have kept := sublist.flatMap BillVals.sequences
  rw [← own, all, List.sublist_map_iff] at kept
  obtain ⟨numbers, within, equal⟩ := kept
  exact ⟨numbers, equal, List.Pairwise.sublist within List.pairwise_lt_range'⟩

/-- A run that makes bills makes one for each key. -/
theorem exists_bills (lawful : odoo.Lawful) {orders : PurchaseOrders} {moves : List Move}
    (result : odoo.advanceBillPayment final false orders = .ok moves) :
    ∃ (keys : List (List ℕ)) (merged : List ℕ → BillVals),
      Enumerates keys ((odoo.billed final orders).map odoo.billKey) ∧
      moves.map Move.vals = keys.map merged ∧
      ∀ key ∈ keys, (merged key).groupingKeys = key ∧ (merged key).InOrder ∧
        (merged key).lineIds = ((odoo.billed final orders).filter fun order =>
          odoo.billKey order = key).flatMap (odoo.addedIds final) := by
  obtain ⟨keys, merged, enumerates, bills, holds⟩ :=
    @exists_groupBills odoo (odoo.billsFrom final 0 orders.orders)
  rw [map_groupingKeys lawful] at enumerates
  have lineIds : ∀ key ∈ keys, (merged key).lineIds =
      ((odoo.billed final orders).filter fun order =>
        odoo.billKey order = key).flatMap (odoo.addedIds final) := by
    intro key member
    rw [BillVals.lineIds, (holds key member).2, List.map_flatMap, ← flatMap_lineIds_of_key lawful]
    rfl
  have inOrder : ∀ key ∈ keys, (merged key).InOrder := fun key member =>
    inOrder_of_sublist lawful List.filter_sublist (holds key member).2
  rw [Bookkeeping.advanceBillPayment, foldl_addOrder, List.nil_append] at result
  simp only [Bool.false_eq_true, if_false, bills] at result
  split at result
  · contradiction
  · have equal := Except.ok.inj result
    split at equal
    · refine ⟨keys, fun key => Bookkeeping.resequence (merged key), enumerates, ?_, ?_⟩
      · rw [← equal]
        simp [Function.comp_def]
      · intro key member
        exact ⟨(holds key member).1, inOrder_resequence (inOrder key member),
          (lineIds_resequence _).trans (lineIds key member)⟩
    · refine ⟨keys, merged, enumerates, ?_, fun key member =>
        ⟨(holds key member).1, inOrder key member, lineIds key member⟩⟩
      rw [← equal]
      simp [Function.comp_def]

/-- A run that raises the error has no order to bill. -/
theorem billed_eq_nil (lawful : odoo.Lawful) {orders : PurchaseOrders} {message : String}
    (result : odoo.advanceBillPayment final false orders = .error message) :
    message = odoo.nothingToInvoiceError ∧ odoo.billed final orders = [] := by
  rw [Bookkeeping.advanceBillPayment, foldl_addOrder, List.nil_append] at result
  simp only at result
  split at result
  · rename_i nothing
    refine ⟨(Except.error.inj result).symm, ?_⟩
    have keys := @map_groupingKeys odoo final lawful orders
    rw [List.isEmpty_iff.mp nothing, List.map_nil] at keys
    exact List.map_eq_nil_iff.mp keys.symm
  · contradiction

/-! ### What the bills have -/

section

variable {orders : PurchaseOrders} {order : PurchaseOrder} {keys : List (List ℕ)}
  {merged : List ℕ → BillVals}
  (enumerates : Enumerates keys ((odoo.billed final orders).map odoo.billKey))
  (lineIds : ∀ key ∈ keys, (merged key).lineIds =
    ((odoo.billed final orders).filter fun order =>
      odoo.billKey order = key).flatMap (odoo.addedIds final))

theorem purchaseLineIds_eq (bill : BillVals) :
    bill.purchaseLineIds = bill.lineIds.filterMap id := by
  rw [BillVals.purchaseLineIds, BillVals.lineIds, List.filterMap_map]
  rfl

theorem filterMap_flatMap_addedIds (list : List PurchaseOrder) :
    (list.flatMap (odoo.addedIds final)).filterMap id =
      list.flatMap fun order => (odoo.getBillableLines final order).map PurchaseLine.id := by
  rw [List.filterMap_flatMap]
  exact List.flatMap_congr fun order _ => filterMap_addedIds order

theorem getLast?_flatMap_addedIds (list : List PurchaseOrder) :
    (list.flatMap (odoo.addedIds final)).getLast? ≠ some none := by
  induction list with
  | nil => simp
  | cons head tail induction =>
      rw [List.flatMap_cons, List.getLast?_append]
      cases last : (tail.flatMap (odoo.addedIds final)).getLast? with
      | none => exact getLast?_addedIds head
      | some entry =>
          rw [last] at induction
          exact induction

include enumerates lineIds

/-- Together the bills have the lines to bill of all orders. -/
theorem purchaseLineIds_perm :
    ((keys.map merged).flatMap BillVals.purchaseLineIds).Perm
      ((odoo.billed final orders).flatMap fun order =>
        (odoo.getBillableLines final order).map PurchaseLine.id) := by
  have bills : (keys.map merged).flatMap BillVals.purchaseLineIds =
      (keys.flatMap fun key => (odoo.billed final orders).filter fun order =>
        odoo.billKey order = key).flatMap fun order =>
          (odoo.getBillableLines final order).map PurchaseLine.id := by
    rw [List.flatMap_map, List.flatMap_assoc]
    refine List.flatMap_congr fun key member => ?_
    rw [purchaseLineIds_eq, lineIds key member, filterMap_flatMap_addedIds]
  rw [bills]
  exact (flatMap_filter_perm odoo.billKey enumerates).flatMap_right _

theorem nodup_purchaseLineIds :
    ((keys.map merged).flatMap BillVals.purchaseLineIds).Nodup :=
  (purchaseLineIds_perm enumerates lineIds).nodup_iff.mpr (nodup_billableLines orders)

/-- The lines that an order adds stand together in the bill of its key. -/
theorem exists_lineIds (member : order ∈ odoo.billed final orders) :
    odoo.billKey order ∈ keys ∧ ∃ before after,
      (merged (odoo.billKey order)).lineIds = before ++ odoo.addedIds final order ++ after ∧
        before.getLast? ≠ some none := by
  have key := (enumerates.mem_iff _).mpr (List.mem_map_of_mem member)
  have own : order ∈ (odoo.billed final orders).filter fun other =>
      odoo.billKey other = odoo.billKey order :=
    List.mem_filter.mpr ⟨member, decide_eq_true rfl⟩
  obtain ⟨front, back, split⟩ := List.append_of_mem own
  refine ⟨key, front.flatMap (odoo.addedIds final), back.flatMap (odoo.addedIds final), ?_,
    getLast?_flatMap_addedIds front⟩
  rw [lineIds _ key, split, List.flatMap_append, List.flatMap_cons, List.append_assoc]

end

/-! ### Bills as they should be -/

theorem exists_regular_behind {order : PurchaseOrder} {heading : PurchaseLine}
    (member : heading ∈ odoo.getBillableLines final order) (isSection : heading.isSection) :
    ∃ front back, order.orderLine = front ++ heading :: back ∧
      ∃ line ∈ back.takeWhile fun line => !line.isSection,
        line ∈ odoo.getBillableLines final order ∧ !line.isPrepayment := by
  rcases mem_getBillableLines.mp member with regular | downPayment
  · rcases (mem_regularLines_of_isSection isSection none _).mp regular with
      ⟨nothing, -⟩ | ⟨front, back, split, line, behind, own⟩
    · simp at nothing
    · have listed : line ∈ order.orderLine := by
        rw [split]
        exact List.mem_append_right _ (List.mem_cons_of_mem _ (List.takeWhile_subset _ behind))
      have kept := (mem_regularLines (not_isSection_of_isRegular own)).mpr ⟨listed, own⟩
      refine ⟨front, back, split, line, behind, mem_getBillableLines.mpr (.inl kept), ?_⟩
      rw [not_isPrepayment_of_mem_regularLines kept, Bool.not_false]
  · have billable := (mem_downPayments.mp downPayment).2.1
    rw [not_isBillable_of_isSection isSection] at billable
    contradiction

theorem mem_billed {orders : PurchaseOrders} {order : PurchaseOrder} :
    order ∈ odoo.billed final orders ↔ order ∈ orders.orders ∧ odoo.isBilled final order :=
  List.mem_filter

theorem billedOnce_of_sectionsApart (lawful : odoo.Lawful) {orders : PurchaseOrders}
    (apart : odoo.SectionsApart final orders) {moves : List Move}
    (result : odoo.advanceBillPayment final false orders = .ok moves) :
    BilledOnce odoo final orders (moves.map Move.vals) := by
  obtain ⟨keys, merged, enumerates, bills, holds⟩ := exists_bills lawful result
  have lineIds := fun key member => (holds key member).2.2
  have nodup := nodup_purchaseLineIds enumerates lineIds
  rw [bills]
  constructor
  · intro order member billed line listed
    refine List.count_eq_one_of_mem nodup ((purchaseLineIds_perm enumerates lineIds).mem_iff.mpr ?_)
    exact List.mem_flatMap.mpr ⟨order, mem_billed.mpr ⟨member, billed⟩, List.mem_map_of_mem listed⟩
  · intro bill member id listed
    obtain ⟨key, keyMember, rfl⟩ := List.mem_map.mp member
    rw [purchaseLineIds_eq, lineIds key keyMember, filterMap_flatMap_addedIds] at listed
    obtain ⟨order, own, listed⟩ := List.mem_flatMap.mp listed
    obtain ⟨billed, same⟩ := List.mem_filter.mp own
    obtain ⟨line, lineMember, rfl⟩ := List.mem_map.mp listed
    refine ⟨order, (mem_billed.mp billed).1, (mem_billed.mp billed).2, ?_, line, lineMember, rfl⟩
    exact (holds key keyMember).1.trans (of_decide_eq_true same).symm
  · have own : (keys.map merged).map BillVals.groupingKeys = keys := by
      rw [List.map_map]
      exact (List.map_congr_left fun key member => (holds key member).1).trans (List.map_id keys)
    rw [own]
    exact enumerates.nodup
  · intro order member billed
    obtain ⟨key, before, after, lines, last⟩ :=
      exists_lineIds enumerates lineIds (mem_billed.mpr ⟨member, billed⟩)
    refine ⟨_, List.mem_map_of_mem key, (holds _ key).1, before, after, ?_, last⟩
    have distinct := (nodup_orderLine member).of_map
    rwa [← addedIds_eq_billedPart distinct (apart order member (isBilled_iff.mp billed))]
  · intro bill member
    obtain ⟨key, keyMember, rfl⟩ := List.mem_map.mp member
    exact (holds key keyMember).2.1
  · intro order _ _ heading listed isSection
    exact exists_regular_behind listed isSection

theorem getLast?_append_map {before : List (Option ℕ)} (last : before.getLast? ≠ some none)
    (lines : List PurchaseLine) :
    (before ++ lines.map fun line => some line.id).getLast? ≠ some none := by
  rw [List.getLast?_append, List.getLast?_map]
  cases lines.getLast? with
  | none => exact last
  | some line => simp

/-- Where a bill has of an order what it should have, no section that it adds is right above a regular
line. -/
theorem not_section_above_regular {order : PurchaseOrder} {line : PurchaseLine}
    {above below before after : List (Option ℕ)} (distinct : order.orderLine.Nodup)
    (regular : line ∈ odoo.regularLines final none order.orderLine)
    (nodup : ((above ++ [none] ++ some line.id :: below).filterMap id).Nodup)
    (last : before.getLast? ≠ some none) :
    above ++ [none] ++ some line.id :: below ≠ before ++ odoo.billedPart final order ++ after := by
  obtain ⟨front, back, split⟩ := List.append_of_mem regular
  intro part
  have equal : above ++ [none] ++ some line.id :: below =
      (before ++ front.map fun line => some line.id) ++ some line.id ::
        (back.map (fun line => some line.id) ++
          ((if (odoo.downPayments final order).isEmpty then []
            else none :: (odoo.downPayments final order).map fun line => some line.id) ++
            after)) := by
    rw [part, billedPart_eq distinct, split]
    simp
  -- The line is in the bill once, so that what is above it is the same.
  obtain ⟨early, late⟩ := not_mem_of_nodup nodup
  have same := ((List.append_cons_inj_of_notMem early late).mp equal).1
  have ends := getLast?_append_map last front
  rw [← same, List.getLast?_append] at ends
  exact ends rfl

theorem sectionsApart_of_billedOnce (lawful : odoo.Lawful) {orders : PurchaseOrders}
    {moves : List Move} (result : odoo.advanceBillPayment final false orders = .ok moves)
    (once : BilledOnce odoo final orders (moves.map Move.vals)) :
    odoo.SectionsApart final orders := by
  intro order member product front heading back split isSection marked leads
  have billed := isBilled_iff.mpr product
  obtain ⟨keys, merged, enumerates, bills, holds⟩ := exists_bills lawful result
  have lineIds := fun key member => (holds key member).2.2
  obtain ⟨bill, billMember, own, before, after, part, last⟩ := once.together order member billed
  rw [bills] at billMember
  obtain ⟨key, keyMember, rfl⟩ := List.mem_map.mp billMember
  obtain rfl := (holds key keyMember).1.symm.trans own
  obtain ⟨-, earlier, later, lines, -⟩ :=
    exists_lineIds enumerates lineIds (mem_billed.mpr ⟨member, billed⟩)
  obtain ⟨above, line, below, regular, added⟩ :=
    exists_addedIds_of_leads split isSection marked leads
  have nodup : ((merged (odoo.billKey order)).lineIds.filterMap id).Nodup := by
    rw [← purchaseLineIds_eq]
    exact (List.nodup_flatMap.mp (nodup_purchaseLineIds enumerates lineIds)).1 _
      (List.mem_map_of_mem keyMember)
  have code : (merged (odoo.billKey order)).lineIds =
      (earlier ++ above) ++ [none] ++ some line.id :: (below ++ later) := by
    rw [lines, added]
    simp
  rw [code] at nodup part
  exact not_section_above_regular (nodup_orderLine member).of_map regular nodup last part

theorem sectionsApart_of_advanceBilled (lawful : odoo.Lawful) {orders : PurchaseOrders}
    (billed : AdvanceBilled odoo final orders (odoo.advanceBillPayment final false orders)) :
    odoo.SectionsApart final orders := by
  cases result : odoo.advanceBillPayment final false orders with
  | error message =>
      rw [result] at billed
      intro order member product
      exact absurd (isBilled_iff.mpr product) (billed.2 order member)
  | ok moves =>
      rw [result] at billed
      exact sectionsApart_of_billedOnce lawful result billed

theorem advanceBilled_of_sectionsApart (lawful : odoo.Lawful) {orders : PurchaseOrders}
    (apart : odoo.SectionsApart final orders) :
    AdvanceBilled odoo final orders (odoo.advanceBillPayment final false orders) := by
  cases result : odoo.advanceBillPayment final false orders with
  | error message =>
      obtain ⟨text, nothing⟩ := billed_eq_nil lawful result
      refine ⟨text, fun order member billed => ?_⟩
      have listed := mem_billed.mpr ⟨member, billed⟩
      rw [nothing] at listed
      exact List.not_mem_nil listed
  | ok moves => exact billedOnce_of_sectionsApart lawful apart result

/-- The bills are as they should be exactly where no section that is marked as a down payment leads
to a regular line. -/
theorem advanceBilled_iff_sectionsApart (lawful : odoo.Lawful) (orders : PurchaseOrders) :
    AdvanceBilled odoo final orders (odoo.advanceBillPayment final false orders) ↔
      odoo.SectionsApart final orders :=
  ⟨sectionsApart_of_advanceBilled lawful, advanceBilled_of_sectionsApart lawful⟩

/-! ### One order -/

/-- Odoo where each vendor has his own invoice address and no text is translated. -/
def plainOdoo : Bookkeeping where
  floatIsZero quantity := quantity = 0
  prepareInvoice order :=
    { companyId := order.companyId
      partnerId := order.partnerId
      currencyId := order.currencyId
      ref := order.partnerRef.getD ""
      invoiceOrigin := order.name
      paymentReference := some (order.partnerRef.getD "")
      invoiceLineIds := [] }
  prepareAccountMoveLine line :=
    { displayType := match line.displayType with
        | none => .product
        | some .lineSection => .lineSection
        | some .lineNote => .lineNote
      name := line.name
      productId := none
      productUomId := none
      quantity := line.qtyToInvoice
      discount := 0
      priceUnit := 1
      purchaseLineId := some line.id
      sequence := none
      withoutAccount := false }
  invoiceAddress vendor := vendor
  translate text := text
  setOrder := List.dedup
  enumerates := enumerates_dedup
  amountTotal bill :=
    bill.invoiceLineIds.foldl (fun total line => total + line.quantity * line.priceUnit) 0

theorem plainOdoo_lawful : plainOdoo.Lawful where
  companyId _ := rfl
  partnerId _ := rfl
  currencyId _ := rfl
  invoiceLineIds _ := rfl
  purchaseLineId _ := rfl

/-- An order with the section and the line of a down payment between two products. What stands
behind them is a section, or a product that has not been received. -/
def prepaidOrder (display : Option DisplayType) : PurchaseOrder where
  name := "P00001"
  companyId := 1
  partnerId := 7
  currencyId := 1
  partnerRef := none
  orderLine :=
    [⟨1, "Desk", none, 1, false⟩, ⟨2, "Pre Payments", some .lineSection, 0, true⟩,
      ⟨3, "Advance", none, -1, true⟩, ⟨4, "Lighting", display, 0, false⟩,
      ⟨5, "Lamp", none, 1, false⟩]

theorem nodup_prepaidOrder (display : Option DisplayType) :
    (([prepaidOrder display].flatMap PurchaseOrder.orderLine).map PurchaseLine.id).Nodup := by
  simp [prepaidOrder]

def prepaidOrders (display : Option DisplayType) : PurchaseOrders :=
  ⟨[prepaidOrder display], nodup_prepaidOrder display⟩

/-- Behind a section of its own the lamp is in its place. -/
theorem advanceBilled_prepaidOrders :
    AdvanceBilled plainOdoo true (prepaidOrders (some .lineSection))
      (plainOdoo.advanceBillPayment true false (prepaidOrders (some .lineSection))) := by
  refine (advanceBilled_iff_sectionsApart plainOdoo_lawful _).mpr ?_
  intro order member _ front heading back split isSection marked
  obtain rfl := List.mem_singleton.mp member
  rcases front with _ | ⟨first, _ | ⟨second, front⟩⟩
  · obtain ⟨rfl, rfl⟩ := List.cons.inj split
    contradiction
  · obtain ⟨rfl, rfl⟩ := List.cons.inj (List.cons.inj split).2
    intro ⟨line, behind, regular⟩
    obtain rfl := List.mem_singleton.mp behind
    revert regular
    decide
  · have later := (List.cons.inj (List.cons.inj split).2).2
    have listed : heading ∈ front.append (heading :: back) :=
      List.mem_append_right front List.mem_cons_self
    rw [← later] at listed
    simp only [List.mem_cons, List.not_mem_nil, or_false] at listed
    rcases listed with rfl | rfl | rfl
    · contradiction
    · contradiction
    · contradiction

/-- Without it, the section of the down payments is above the lamp, and the down payment is not
under it alone. -/
theorem not_advanceBilled_prepaidOrders :
    (plainOdoo.advanceBillPayment true false (prepaidOrders none)).map
        (List.map fun move : Move => move.vals.lineIds) =
      .ok [[some 1, none, some 2, some 5, some 3]] ∧
    ¬ AdvanceBilled plainOdoo true (prepaidOrders none)
      (plainOdoo.advanceBillPayment true false (prepaidOrders none)) := by
  refine ⟨by decide +kernel, fun billed => ?_⟩
  have apart := sectionsApart_of_advanceBilled plainOdoo_lawful billed
  refine apart (prepaidOrder none) List.mem_cons_self ?_
    [⟨1, "Desk", none, 1, false⟩] ⟨2, "Pre Payments", some .lineSection, 0, true⟩ _ rfl rfl rfl ?_
  · exact ⟨⟨1, "Desk", none, 1, false⟩, List.mem_cons_self, rfl, by decide⟩
  · exact ⟨⟨5, "Lamp", none, 1, false⟩, by decide, by decide⟩

end OdooConnector.Purchase
