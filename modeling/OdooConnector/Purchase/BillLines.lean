import OdooConnector.Purchase.BillableLines

/-!
# Lines of vendor bills

An order with a product line to bill gives its billable lines, numbered in one count over all
orders. Bills with one key have the lines of all their orders.
-/

namespace OdooConnector.Purchase

variable (odoo : Bookkeeping) (final : Bool)

namespace BillVals

/-- The purchase lines of the lines, with nothing for a section that the bill adds. -/
def lineIds (bill : BillVals) : List (Option ℕ) :=
  bill.invoiceLineIds.map MoveLineVals.purchaseLineId

def sequences (bill : BillVals) : List (Option ℕ) := bill.invoiceLineIds.map MoveLineVals.sequence

/-- The sequences of the lines agree with their order. -/
def InOrder (bill : BillVals) : Prop :=
  ∃ numbers : List ℕ, bill.sequences = numbers.map some ∧ numbers.Pairwise (· < ·)

end BillVals

/-- The key of the bill of an order. -/
def Bookkeeping.billKey (order : PurchaseOrder) : List ℕ :=
  [order.companyId, odoo.invoiceAddress order.partnerId, order.currencyId]

/-- The order has a billable line that is no display line. -/
def Bookkeeping.isBilled (order : PurchaseOrder) : Bool :=
  (odoo.getBillableLines final order).any fun line => line.displayType.isNone

/-- The billable lines, with nothing for the section that is added before the first down payment. -/
def withSection (added : Bool) : List PurchaseLine → List (Option PurchaseLine)
  | [] => []
  | line :: rest =>
      if !added && line.isDownpayment then none :: some line :: withSection true rest
      else some line :: withSection added rest

/-- The purchase lines of the lines that an order adds to a bill. -/
def Bookkeeping.addedIds (order : PurchaseOrder) : List (Option ℕ) :=
  (withSection false (odoo.getBillableLines final order)).map (Option.map PurchaseLine.id)

def Bookkeeping.entryVals (entry : Option PurchaseLine × ℕ) : MoveLineVals :=
  match entry.1 with
  | some line => odoo.prepareBillLine (some entry.2) line
  | none => odoo.prepareDownPaymentSectionLine entry.2

/-- The lines of the bill of an order, numbered from the sequence on. -/
def Bookkeeping.orderLineVals (sequence : ℕ) (order : PurchaseOrder) : List MoveLineVals :=
  ((withSection false (odoo.getBillableLines final order)).zipIdx sequence).map odoo.entryVals

/-- The bills of the orders, numbered from the sequence on. -/
def Bookkeeping.billsFrom (sequence : ℕ) : List PurchaseOrder → List BillVals
  | [] => []
  | order :: rest =>
      if odoo.isBilled final order then
        { odoo.prepareInvoice order with
          invoiceLineIds := (odoo.prepareInvoice order).invoiceLineIds ++
            odoo.orderLineVals final sequence order } ::
          billsFrom (sequence + (odoo.orderLineVals final sequence order).length) rest
      else billsFrom sequence rest

variable {odoo final}

/-! ### The loops -/

theorem foldl_addLine (lines : BillLines) (rest : List PurchaseLine) :
    (rest.foldl odoo.addLine lines).billLineVals = lines.billLineVals ++
        ((withSection lines.downPaymentSectionAdded rest).zipIdx lines.billItemSequence).map
          odoo.entryVals ∧
      (rest.foldl odoo.addLine lines).billItemSequence = lines.billItemSequence +
        (withSection lines.downPaymentSectionAdded rest).length := by
  induction rest generalizing lines with
  | nil => simp [withSection]
  | cons line rest induction =>
      rw [List.foldl_cons, (induction _).1, (induction _).2, withSection, Bookkeeping.addLine]
      by_cases first : (!lines.downPaymentSectionAdded && line.isDownpayment) = true
      · rw [if_pos first, if_pos first]
        constructor
        · simp [Bookkeeping.addSection, Bookkeeping.entryVals]
        · simp only [Bookkeeping.addSection, List.length_cons]
          omega
      · rw [if_neg first, if_neg first]
        constructor
        · simp [Bookkeeping.entryVals]
        · simp only [List.length_cons]
          omega

theorem foldl_addOrder (bills : Bills) (orders : List PurchaseOrder) :
    (orders.foldl (odoo.addOrder final) bills).billValsList =
      bills.billValsList ++ odoo.billsFrom final bills.billItemSequence orders := by
  induction orders generalizing bills with
  | nil => simp [Bookkeeping.billsFrom]
  | cons order rest induction =>
      rw [List.foldl_cons, induction, Bookkeeping.billsFrom, Bookkeeping.addOrder,
        ← Bookkeeping.isBilled]
      by_cases billed : odoo.isBilled final order
      · have lines := @foldl_addLine odoo ⟨[], false, bills.billItemSequence⟩
          (odoo.getBillableLines final order)
        rw [if_pos billed, if_pos billed]
        simp [lines.1, lines.2, Bookkeeping.orderLineVals]
      · rw [if_neg billed, if_neg billed]

/-! ### Keys, lines and sequences -/

theorem purchaseLineId_entryVals (lawful : odoo.Lawful) (entry : Option PurchaseLine × ℕ) :
    (odoo.entryVals entry).purchaseLineId = entry.1.map PurchaseLine.id := by
  obtain ⟨line, sequence⟩ := entry
  cases line with
  | none => rfl
  | some line => exact lawful.purchaseLineId line

theorem sequence_entryVals (entry : Option PurchaseLine × ℕ) :
    (odoo.entryVals entry).sequence = some entry.2 := by
  obtain ⟨line, sequence⟩ := entry
  cases line with
  | none => rfl
  | some line => rfl

theorem purchaseLineId_orderLineVals (lawful : odoo.Lawful) (sequence : ℕ)
    (order : PurchaseOrder) :
    (odoo.orderLineVals final sequence order).map MoveLineVals.purchaseLineId =
      odoo.addedIds final order := by
  have entries : MoveLineVals.purchaseLineId ∘ odoo.entryVals =
      Option.map PurchaseLine.id ∘ Prod.fst :=
    funext fun entry => purchaseLineId_entryVals lawful entry
  rw [Bookkeeping.orderLineVals, List.map_map, entries, ← List.map_map, List.zipIdx_map_fst]
  rfl

theorem sequence_orderLineVals (sequence : ℕ) (order : PurchaseOrder) :
    (odoo.orderLineVals final sequence order).map MoveLineVals.sequence =
      (List.range' sequence (odoo.orderLineVals final sequence order).length).map some := by
  have entries : MoveLineVals.sequence ∘ odoo.entryVals = some ∘ Prod.snd :=
    funext fun entry => sequence_entryVals entry
  rw [Bookkeeping.orderLineVals, List.map_map, entries, ← List.map_map, List.zipIdx_map_snd,
    List.length_map, List.length_zipIdx]

/-- Each order with a product line to bill has a bill, with its own key and lines. -/
theorem map_billsFrom (lawful : odoo.Lawful) (sequence : ℕ) (orders : List PurchaseOrder) :
    ((odoo.billsFrom final sequence orders).map fun bill => (bill.groupingKeys, bill.lineIds)) =
      (orders.filter (odoo.isBilled final)).map fun order =>
        (odoo.billKey order, odoo.addedIds final order) := by
  induction orders generalizing sequence with
  | nil => rfl
  | cons order rest induction =>
      rw [Bookkeeping.billsFrom]
      by_cases billed : odoo.isBilled final order
      · rw [if_pos billed, List.filter_cons_of_pos billed, List.map_cons, List.map_cons, induction]
        simp only [BillVals.groupingKeys, BillVals.lineIds, lawful.companyId, lawful.partnerId,
          lawful.currencyId, lawful.invoiceLineIds, List.nil_append, Bookkeeping.billKey,
          purchaseLineId_orderLineVals lawful]
      · rw [if_neg billed, List.filter_cons_of_neg billed, induction]

/-- One count goes through the lines of all bills. -/
theorem sequences_billsFrom (lawful : odoo.Lawful) (sequence : ℕ) (orders : List PurchaseOrder) :
    ∃ count, (odoo.billsFrom final sequence orders).flatMap BillVals.sequences =
      (List.range' sequence count).map some := by
  induction orders generalizing sequence with
  | nil => exact ⟨0, rfl⟩
  | cons order rest induction =>
      rw [Bookkeeping.billsFrom]
      by_cases billed : odoo.isBilled final order
      · obtain ⟨count, later⟩ :=
          induction (sequence + (odoo.orderLineVals final sequence order).length)
        refine ⟨(odoo.orderLineVals final sequence order).length + count, ?_⟩
        rw [if_pos billed, List.flatMap_cons, later, BillVals.sequences, lawful.invoiceLineIds,
          List.nil_append, sequence_orderLineVals, ← List.map_append, List.range'_append_1]
      · rw [if_neg billed]
        exact induction sequence

/-! ### Bills put together -/

theorem foldl_lines (lines : List MoveLineVals) (bills : List BillVals) :
    bills.foldl (fun lines billVals => lines ++ billVals.invoiceLineIds) lines =
      lines ++ bills.flatMap BillVals.invoiceLineIds := by
  induction bills generalizing lines with
  | nil => simp
  | cons bill bills induction =>
      rw [List.foldl_cons, induction, List.flatMap_cons, List.append_assoc]

/-- A group of bills gives one bill with its key and all its lines. -/
theorem exists_mergeBills {key : List ℕ} {group : List BillVals} (nonempty : group ≠ [])
    (same : ∀ bill ∈ group, bill.groupingKeys = key) :
    ∃ merged, odoo.mergeBills group = some merged ∧ merged.groupingKeys = key ∧
      merged.invoiceLineIds = group.flatMap BillVals.invoiceLineIds := by
  cases group with
  | nil => exact absurd rfl nonempty
  | cons bill bills =>
      refine ⟨_, rfl, same bill List.mem_cons_self, ?_⟩
      rw [foldl_lines, List.flatMap_cons]

/-- Each key has one bill, with the lines of all bills that have the key. -/
theorem exists_groupBills (bills : List BillVals) :
    ∃ (keys : List (List ℕ)) (merged : List ℕ → BillVals),
      Enumerates keys (bills.map BillVals.groupingKeys) ∧
      odoo.groupBills bills = keys.map merged ∧
      ∀ key ∈ keys, (merged key).groupingKeys = key ∧ (merged key).invoiceLineIds =
        (bills.filter fun bill => bill.groupingKeys = key).flatMap BillVals.invoiceLineIds := by
  obtain ⟨keys, -, enumerates, groups⟩ :=
    exists_keys_groupAdjacent_sortedBy BillVals.groupingKeys bills
  have merges : ∀ key ∈ keys, ∃ merged,
      odoo.mergeBills (bills.filter fun bill => bill.groupingKeys = key) = some merged ∧
        merged.groupingKeys = key ∧ merged.invoiceLineIds =
          (bills.filter fun bill => bill.groupingKeys = key).flatMap BillVals.invoiceLineIds := by
    intro key member
    obtain ⟨bill, listed, own⟩ := List.mem_map.mp ((enumerates.mem_iff key).mp member)
    refine exists_mergeBills ?_ fun other member => of_decide_eq_true (List.mem_filter.mp member).2
    exact List.ne_nil_of_mem (List.mem_filter.mpr ⟨listed, decide_eq_true own⟩)
  choose! merged holds using merges
  refine ⟨keys, merged, enumerates, ?_, fun key member => (holds key member).2⟩
  rw [Bookkeeping.groupBills, groups, List.filterMap_map, ← List.filterMap_eq_map]
  refine List.filterMap_congr fun key member => ?_
  rw [Function.comp_apply, Function.comp_apply]
  convert (holds key member).1

/-! ### New sequences -/

theorem lineIds_resequence (bill : BillVals) :
    (Bookkeeping.resequence bill).lineIds = bill.lineIds := by
  refine List.ext_getElem (by simp [BillVals.lineIds, Bookkeeping.resequence]) fun index _ _ => ?_
  simp [BillVals.lineIds, Bookkeeping.resequence]

theorem inOrder_resequence {bill : BillVals} (ordered : bill.InOrder) :
    (Bookkeeping.resequence bill).InOrder := by
  obtain ⟨numbers, sequences, -⟩ := ordered
  refine ⟨List.range' 1 numbers.length, ?_, List.pairwise_lt_range'⟩
  rw [BillVals.sequences] at sequences ⊢
  have length : bill.invoiceLineIds.length = numbers.length := by
    simpa using congrArg List.length sequences
  refine List.ext_getElem (by simp [Bookkeeping.resequence, length]) fun index _ within => ?_
  have inside : index < numbers.length := by simpa using within
  have listed : index < bill.invoiceLineIds.length := length ▸ inside
  have old : bill.invoiceLineIds[index].sequence = some numbers[index] := by
    have equal := List.getElem_of_eq sequences (by simpa using listed)
    simpa using equal
  simp [Bookkeeping.resequence, old, getBillLineSequence, Nat.add_comm]

end OdooConnector.Purchase
