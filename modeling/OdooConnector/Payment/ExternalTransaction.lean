import OdooConnector.Library.Upsert
import OdooConnector.Payment.AdvancePayment

/-!
# Payment transactions of an order

Transactions that the store reports are kept as records of the order, known by their positions. A
record is validated by an advance payment, or by payments of the invoices that are still to be
paid.
-/

namespace OdooConnector.Payment

inductive TransactionKind where
  | authorization
  | capture
  | sale
  | void
  | refund
  | other
deriving DecidableEq

/-- A transaction as the store reports it. -/
structure TransactionData where
  externalStrId : String
  kind : TransactionKind
  floatAmount : ℚ
  currency : String
  gateway : String
  externalStatus : String

/-- A record of a transaction. -/
structure StoredTransaction extends TransactionData where
  internalStatus : InternalStatus
  internalInfo : Option String

/-- What Odoo does when payments are registered on invoices: it makes them, or it refuses to. What
it had made before it refused is not taken back. -/
inductive RegisterOutcome where
  | created (payments : List ℕ)
  | refused (message : String) (payments : List ℕ)

/-- What Odoo's accounting says at a validation. -/
structure PaymentSituation where
  /-- The validation is asked to leave advance payments out. -/
  skipAdvancePayment : Bool
  /-- Invoices of the order are posted and still to be paid. -/
  unpaidInvoices : Bool
  /-- The amount is greater than what the invoices say. -/
  paymentDifference : Bool
  writeoffAccount : Bool
  register : RegisterOutcome
  posting : PostingOutcome

/-- An order with its advance payments, the payments registered on its invoices, and its
transactions. The last field remembers each validation that made payments by the position of its
transaction. -/
structure PaidOrder where
  integrationName : String
  sale : SaleOrder
  registered : List ℕ
  transactions : List StoredTransaction
  createAdvancePayments : Bool
  applyExternalPayments : Bool
  booked : List ℕ

namespace StoredTransaction

variable (txn : StoredTransaction)

def isDone : Bool := txn.internalStatus = .done

def isEcommerceOk : Bool := txn.externalStatus = "success"

def isRefund : Bool := txn.kind = .refund

def create (data : TransactionData) : StoredTransaction := ⟨data, .draft, none⟩

def writeExternal (data : TransactionData) : StoredTransaction :=
  { txn with toTransactionData := data }

def mark (status : InternalStatus) (info : Option String) : StoredTransaction :=
  { txn with internalStatus := status, internalInfo := info }

/-- The record as a transaction of an advance payment. -/
def toOrderTransaction (index : ℕ) : ExternalOrderTransaction where
  id := index
  floatAmount := txn.floatAmount
  currency := txn.currency
  gateway := txn.gateway
  externalStatus := txn.externalStatus
  internalStatus := txn.internalStatus
  internalInfo := txn.internalInfo

end StoredTransaction

def AdvanceError.message : AdvanceError → String
  | user message => message
  | other message => message

def refundFoundError : String :=
  "\n\n\n⚠️  REFUND TRANSACTION DETECTED ⚠️\n\n" ++
  "This order contains a refund transaction that cannot be processed automatically.\n\n" ++
  "To resolve this issue, please choose one of the following options:\n\n" ++
  "OPTION 1: Adjust Auto-Workflow Settings\n" ++
  "    • Go to E-Commerce Integrations → Stores → [Your Store] → Sales Orders tab\n" ++
  "    • Uncheck \"Auto-Apply Payments from E-Commerce System\"\n" ++
  "    • Re-run the integration job to validate invoices and register payments automatically\n" ++
  "    • The system will ignore e-commerce transaction details and use validated invoice data " ++
  "instead\n\n" ++
  "OPTION 2: Manual Transaction Processing\n" ++
  "    • Open the sales order in Odoo\n" ++
  "    • Review transaction details in the E-Commerce Integration tab\n" ++
  "    • Process payments and refunds manually in the associated invoice\n" ++
  "    • Mark auto-workflow steps as completed using the \"Integration Workflow\" button\n\n" ++
  "For assistance, contact your system administrator or refer to the integration " ++
  "documentation.\n"

namespace PaidOrder

variable (odoo : Accounting) (order : PaidOrder)

def modifyTransaction (index : ℕ) (change : StoredTransaction → StoredTransaction) : PaidOrder :=
  { order with transactions := order.transactions.modify index change }

/-- Remember a validation if it made payments. -/
def book (index : ℕ) (made : Bool) : PaidOrder :=
  if made then { order with booked := order.booked ++ [index] } else order

@[simp]
theorem book_transactions (index : ℕ) (made : Bool) :
    (order.book index made).transactions = order.transactions := by
  cases made <;> rfl

@[simp]
theorem book_booked (index : ℕ) (made : Bool) :
    (order.book index made).booked = if made then order.booked ++ [index] else order.booked := by
  cases made <;> rfl

/-- `_validate_as_advance_payment` of a record, as the only transaction of its order. -/
def validateAsAdvancePayment (index : ℕ) (txn : StoredTransaction) (posting : PostingOutcome) :
    Except String (PaidOrder × Bool) := do
  let record := txn.toOrderTransaction index
  let (sale, result) ← ({ order.sale with
    transactions := [record] } : SaleOrder).validateAsAdvancePayment odoo record posting
  let made := sale.accountPayments.length ≠ order.sale.accountPayments.length
  let marked := sale.transactions.headD record
  let order := { order with sale := { sale with transactions := order.sale.transactions } }
  return ((order.modifyTransaction index fun txn =>
    txn.mark marked.internalStatus marked.internalInfo).book index made, result)

/-- `_validate` of a record. -/
def validateWithInvoices (index : ℕ) (txn : StoredTransaction) (situation : PaymentSituation) :
    Except String (PaidOrder × Bool) :=
  let mark := fun status info => order.modifyTransaction index fun txn => txn.mark status info
  if txn.isDone then .ok (mark txn.internalStatus none, true)
  else if !txn.isEcommerceOk then
    .ok (mark .skipped
      (some "Transaction skipped - external status does not allow processing"), false)
  else if !situation.unpaidInvoices then
    .ok (mark .skipped (some "No unpaid invoices found for this order"), false)
  else
    match order.sale.getAmount odoo (txn.toOrderTransaction index) false with
    | .error error => .error error.message
    | .ok _ =>
        match odoo.getJournal txn.gateway with
        | .error error => .error error.message
        | .ok _ =>
            if situation.paymentDifference && !situation.writeoffAccount then
              .error ("Integration \"" ++ order.integrationName ++
                "\": Write-off account is not configured. " ++
                "Please set up a write-off account in the integration settings.")
            else
              match situation.register with
              | .refused message payments =>
                  .ok (({ mark .failed (some ("Payment creation failed: " ++ message)) with
                    registered := order.registered ++ payments }).book index (payments ≠ []),
                    false)
              | .created payments =>
                  .ok (({ mark .done none with
                    registered := order.registered ++ payments }).book index (payments ≠ []), true)

/-- `validate` of a record. An error is one that is not reported on the record. -/
def validate (index : ℕ) (situation : PaymentSituation) : Except String (PaidOrder × Bool) :=
  match order.transactions[index]? with
  | none => .ok (order, false)
  | some txn =>
      if situation.skipAdvancePayment || !order.createAdvancePayments then
        order.validateWithInvoices odoo index txn situation
      else order.validateAsAdvancePayment odoo index txn situation.posting

/-- Records that the store reports as successful and that are not done. -/
def toValidate : List ℕ :=
  (List.range order.transactions.length).filter fun index =>
    (order.transactions[index]?).any fun txn => txn.isEcommerceOk && !txn.isDone

/-- `_integration_apply_external_payments`. -/
def integrationApplyExternalPayments (situations : ℕ → PaymentSituation) :
    Except String PaidOrder :=
  if !order.applyExternalPayments || order.toValidate = [] then .ok order
  else if order.transactions.any fun txn => txn.isRefund && !txn.isDone then
    .error refundFoundError
  else
    order.toValidate.foldlM (fun order index => do
      return (← order.validate odoo index (situations index)).1) order

/-- Find or create a record for each reported transaction. -/
def storeTransactions (data : List TransactionData) : PaidOrder :=
  { order with
    transactions := upsertBatch (fun txn => txn.externalStrId) (fun report => report.externalStrId)
      (fun report txn => txn.writeExternal report) .create order.transactions data }

end PaidOrder

end OdooConnector.Payment
