import Mathlib.Algebra.Order.Ring.Rat
import Mathlib.Data.List.Lex
import Mathlib.Data.String.Basic
import OdooConnector.Library.SortedGroups

/-!
# Vendor bills of purchase orders

The billable lines of each order become the lines of a bill, with the down payments behind a section
of their own. Bills of one company, vendor and currency are put together.
-/

namespace OdooConnector.Purchase

/-- `display_type` of the lines that are no product. -/
inductive DisplayType
  | lineSection
  | lineNote
deriving DecidableEq

structure PurchaseLine where
  id : ℕ
  name : String
  displayType : Option DisplayType
  qtyToInvoice : ℚ
  isDownpayment : Bool
deriving DecidableEq

structure PurchaseOrder where
  name : String
  companyId : ℕ
  partnerId : ℕ
  currencyId : ℕ
  partnerRef : Option String
  orderLine : List PurchaseLine

/-- A recordset of orders. It has each order once, and a line has one order. -/
structure PurchaseOrders where
  orders : List PurchaseOrder
  nodup : ((orders.flatMap PurchaseOrder.orderLine).map PurchaseLine.id).Nodup

/-- `display_type` of the lines of a bill. -/
inductive MoveDisplayType
  | product
  | lineSection
  | lineNote
deriving DecidableEq

/-- The values of a line of a bill. -/
structure MoveLineVals where
  displayType : MoveDisplayType
  name : String
  productId : Option ℕ
  productUomId : Option ℕ
  quantity : ℚ
  discount : ℚ
  priceUnit : ℚ
  purchaseLineId : Option ℕ
  sequence : Option ℕ
  /-- `account_id` is false, and not left to Odoo. -/
  withoutAccount : Bool

/-- The values of a bill. -/
structure BillVals where
  companyId : ℕ
  partnerId : ℕ
  currencyId : ℕ
  ref : String
  invoiceOrigin : String
  paymentReference : Option String
  invoiceLineIds : List MoveLineVals
deriving Inhabited

/-- A bill in Odoo, with whether it has become a refund. -/
structure Move where
  vals : BillVals
  isRefund : Bool

/-- What the bills use of Odoo and of Python. -/
structure Bookkeeping where
  /-- `float_is_zero` with the digits of product quantities -/
  floatIsZero : ℚ → Bool
  /-- `_prepare_invoice`, in the company of the order -/
  prepareInvoice : PurchaseOrder → BillVals
  /-- `_prepare_account_move_line` of Odoo -/
  prepareAccountMoveLine : PurchaseLine → MoveLineVals
  /-- `address_get(['invoice'])` -/
  invoiceAddress : ℕ → ℕ
  /-- `_` -/
  translate : String → String
  /-- A set of texts, in the order in which it is joined. -/
  setOrder : List String → List String
  enumerates : ∀ texts, Enumerates (setOrder texts) texts
  /-- `amount_total` of the bill that the values make -/
  amountTotal : BillVals → ℚ

/-- What Odoo puts into bills and their lines. -/
structure Bookkeeping.Lawful (odoo : Bookkeeping) : Prop where
  companyId : ∀ order, (odoo.prepareInvoice order).companyId = order.companyId
  partnerId : ∀ order,
    (odoo.prepareInvoice order).partnerId = odoo.invoiceAddress order.partnerId
  currencyId : ∀ order, (odoo.prepareInvoice order).currencyId = order.currencyId
  invoiceLineIds : ∀ order, (odoo.prepareInvoice order).invoiceLineIds = []
  purchaseLineId : ∀ line, (odoo.prepareAccountMoveLine line).purchaseLineId = some line.id

/-- What `_get_billable_lines` has met so far. -/
structure BillableLines where
  pendingSection : Option PurchaseLine
  billableLineIds : List PurchaseLine
  downPaymentLineIds : List PurchaseLine

/-- The lines of the bill of an order so far. -/
structure BillLines where
  billLineVals : List MoveLineVals
  downPaymentSectionAdded : Bool
  billItemSequence : ℕ

/-- The bills so far. -/
structure Bills where
  billValsList : List BillVals
  billItemSequence : ℕ

namespace BillVals

/-- The values under `_get_invoice_grouping_keys`. -/
def groupingKeys (bill : BillVals) : List ℕ := [bill.companyId, bill.partnerId, bill.currencyId]

/-- The purchase lines of the lines of a bill. -/
def purchaseLineIds (bill : BillVals) : List ℕ :=
  bill.invoiceLineIds.filterMap MoveLineVals.purchaseLineId

end BillVals

/-- `_get_bill_line_sequence` -/
def getBillLineSequence (new old : ℕ) : ℕ := if new ≠ 0 then new else old

namespace Bookkeeping

variable (odoo : Bookkeeping) (final : Bool)

/-! ### Lines of an order -/

def billableStep (lines : BillableLines) (line : PurchaseLine) : BillableLines :=
  if line.displayType = some .lineSection then
    { lines with pendingSection := some line }
  else if line.displayType ≠ some .lineNote ∧ odoo.floatIsZero line.qtyToInvoice then lines
  else if 0 < line.qtyToInvoice ∨ line.qtyToInvoice < 0 ∧ final ∨
      line.displayType = some .lineNote then
    if line.isDownpayment then
      { lines with downPaymentLineIds := lines.downPaymentLineIds ++ [line] }
    else
      { lines with
        pendingSection := none
        billableLineIds := lines.billableLineIds ++ lines.pendingSection.toList ++ [line] }
  else lines

def getBillableLines (order : PurchaseOrder) : List PurchaseLine :=
  let lines := order.orderLine.foldl (odoo.billableStep final) ⟨none, [], []⟩
  lines.billableLineIds ++ lines.downPaymentLineIds

/-! ### Lines of a bill -/

/-- `_prepare_account_move_line`, with the sequence of the context -/
def prepareBillLine (sequence : Option ℕ) (line : PurchaseLine) : MoveLineVals :=
  let res := odoo.prepareAccountMoveLine line
  { res with
    sequence := match sequence with
      | some sequence => some sequence
      | none => res.sequence
    withoutAccount := line.displayType.isSome || res.withoutAccount }

def prepareDownPaymentSectionLine (sequence : ℕ) : MoveLineVals where
  displayType := .lineSection
  name := odoo.translate "Pre Payments"
  productId := none
  productUomId := none
  quantity := 0
  discount := 0
  priceUnit := 0
  purchaseLineId := none
  sequence := some sequence
  withoutAccount := true

def addSection (lines : BillLines) : BillLines where
  billLineVals :=
    lines.billLineVals ++ [odoo.prepareDownPaymentSectionLine lines.billItemSequence]
  downPaymentSectionAdded := true
  billItemSequence := lines.billItemSequence + 1

def addLine (lines : BillLines) (line : PurchaseLine) : BillLines :=
  let lines := if !lines.downPaymentSectionAdded && line.isDownpayment then odoo.addSection lines
    else lines
  { lines with
    billLineVals := lines.billLineVals ++ [odoo.prepareBillLine (some lines.billItemSequence) line]
    billItemSequence := lines.billItemSequence + 1 }

def addOrder (bills : Bills) (order : PurchaseOrder) : Bills :=
  let billVals := odoo.prepareInvoice order
  let billableLines := odoo.getBillableLines final order
  if billableLines.any fun line => line.displayType.isNone then
    let lines := billableLines.foldl odoo.addLine ⟨[], false, bills.billItemSequence⟩
    let billVals :=
      { billVals with invoiceLineIds := billVals.invoiceLineIds ++ lines.billLineVals }
    ⟨bills.billValsList ++ [billVals], lines.billItemSequence⟩
  else bills

/-! ### Bills with one key -/

/-- Put the bills of a group together, in the first one. -/
def mergeBills : List BillVals → Option BillVals
  | [] => none
  | refBillVals :: bills =>
      let group := refBillVals :: bills
      some { refBillVals with
        invoiceLineIds := bills.foldl (fun lines billVals => lines ++ billVals.invoiceLineIds)
          refBillVals.invoiceLineIds
        ref := String.ofList
          ((", ".intercalate (odoo.setOrder (group.map BillVals.ref))).toList.take 2000)
        invoiceOrigin := ", ".intercalate (odoo.setOrder (group.map BillVals.invoiceOrigin))
        paymentReference := match (group.map BillVals.paymentReference).dedup with
          | [reference] => reference.filter (· ≠ "")
          | _ => none }

def groupBills (bills : List BillVals) : List BillVals :=
  (groupAdjacent BillVals.groupingKeys (sortedBy BillVals.groupingKeys bills)).filterMap
    odoo.mergeBills

/-- Number the lines of a bill from one on. -/
def resequence (bill : BillVals) : BillVals :=
  { bill with
    invoiceLineIds := bill.invoiceLineIds.mapIdx fun index line =>
      { line with sequence := line.sequence.map (getBillLineSequence (index + 1)) } }

def nothingToInvoiceError : String :=
  odoo.translate ("There is nothing to bill!\n\n" ++
    "Reason(s) of this behavior could be:\n" ++
    "- You should recieve your products before billing them: Click on the \"truck\" icon " ++
    "(top-right of your screen) and follow instructions.\n" ++
    "- You should modify the control policy of your product: Open the product, go to the " ++
    "\"Purchase\" tab and modify control policy from \"On received quantities\" to \"On ordered " ++
    "quantities\".")

/-- `_advance_bill_payment`; the error is the one of a user. -/
def advanceBillPayment (grouped : Bool) (orders : PurchaseOrders) : Except String (List Move) :=
  let billValsList := (orders.orders.foldl (odoo.addOrder final) ⟨[], 0⟩).billValsList
  if billValsList.isEmpty then .error odoo.nothingToInvoiceError
  else
    let billValsList := if grouped then billValsList else odoo.groupBills billValsList
    let billValsList :=
      if billValsList.length < orders.orders.length then billValsList.map resequence
      else billValsList
    .ok (billValsList.map fun bill => ⟨bill, final && odoo.amountTotal bill < 0⟩)

end Bookkeeping

end OdooConnector.Purchase
