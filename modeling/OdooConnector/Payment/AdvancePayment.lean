import Mathlib.Algebra.BigOperators.Group.List.Basic
import Mathlib.Data.Rat.Defs
import Mathlib.Algebra.Order.Ring.Rat
import OdooConnector.Library.Run

/-!
# Advance payments of an order

A payment transaction of the store is registered through the wizard for advance payments. What
is still to be paid is computed from the posted payments of the order.
-/

namespace OdooConnector.Payment

/-- Errors of a validation: those that it reports on the transaction, and all others. -/
inductive AdvanceError where
  | user (message : String)
  | other (message : String)

structure Journal where
  id : ℕ
  currencyId : ℕ

/-- Odoo's currencies and the journals of payment gateways. -/
structure Accounting where
  searchCurrency : String → Option ℕ
  /-- Value of an amount of the first currency in the second one. -/
  convert : ℚ → ℕ → ℕ → ℚ
  /-- Rounding of amounts to the precision of a currency. -/
  roundAmount : ℕ → ℚ → ℚ
  /-- Rounding to two digits. -/
  roundDigits : ℚ → ℚ
  getJournal : String → Except AdvanceError Journal
  /-- Default of the wizard's reference, where the user has set one. -/
  defaultPaymentRef : Option String

/-- How far a transaction has been processed. -/
inductive InternalStatus where
  | draft
  | skipped
  | failed
  | done
deriving DecidableEq

structure ExternalOrderTransaction where
  id : ℕ
  /-- The amount, as a number. -/
  floatAmount : ℚ
  currency : String
  gateway : String
  externalStatus : String
  internalStatus : InternalStatus
  internalInfo : Option String

def ExternalOrderTransaction.isDone (txn : ExternalOrderTransaction) : Bool :=
  txn.internalStatus = .done

def ExternalOrderTransaction.isEcommerceOk (txn : ExternalOrderTransaction) : Bool :=
  txn.externalStatus = "success"

/-- A payment of a customer, with the currency of its journal. -/
structure AccountPayment where
  amount : ℚ
  currencyId : ℕ
  ref : String
  isPosted : Bool

/-- An order with its registered payments and its transactions in the store. -/
structure SaleOrder where
  name : String
  amountTotal : ℚ
  currencyId : ℕ
  accountPayments : List AccountPayment
  transactions : List ExternalOrderTransaction

/-- The wizard for advance payments. -/
structure AccountVoucherWizard where
  amountTotal : ℚ
  amountAdvance : ℚ
  journal : Journal
  paymentRef : String

/-- What Odoo does when the wizard's payment is posted: it posts it, it refuses to, or it posts it
and refuses to confirm the order that is paid by it. -/
inductive PostingOutcome where
  | posted
  | refused (message : String)
  | notConfirmed (message : String)

namespace SaleOrder

variable (odoo : Accounting) (order : SaleOrder)

/-- What the receivable line of a payment is worth in the currency of the order. -/
def lineAmount (payment : AccountPayment) : ℚ :=
  if payment.currencyId ≠ order.currencyId then
    odoo.convert payment.amount payment.currencyId order.currencyId
  else payment.amount

def advanceAmount : ℚ :=
  ((order.accountPayments.filter AccountPayment.isPosted).map (order.lineAmount odoo)).sum

def amountResidual : ℚ := order.amountTotal - order.advanceAmount odoo

/-- Whether the order counts as paid, which makes Odoo confirm it. -/
def isPaid : Bool :=
  order.accountPayments.any AccountPayment.isPosted &&
    odoo.roundAmount order.currencyId (order.amountResidual odoo) ≤ 0

/-- Amount of a transaction in the currency of the order. -/
def getAmount (txn : ExternalOrderTransaction) (noWriteoff : Bool) : Except AdvanceError ℚ :=
  if txn.currency = "" then .error (.user "Currency code is missing in the transaction data.")
  else
    match odoo.searchCurrency txn.currency with
    | none => .error (.other ("Currency \"" ++ txn.currency ++
        "\" is not configured in Odoo. Please add this currency to continue."))
    | some externalCurrency =>
        let amount :=
          if order.currencyId ≠ externalCurrency then
            odoo.convert txn.floatAmount externalCurrency order.currencyId
          else txn.floatAmount
        .ok (if noWriteoff && amount < order.amountResidual odoo then order.amountResidual odoo
          else amount)

/-- `check_amount` of the wizard; its limit is checked where the context names the active order. -/
def checkAmount (activeId : Bool) (wizard : AccountVoucherWizard) : Except AdvanceError Unit :=
  if wizard.amountAdvance ≤ 0 then .error (.user "Amount of advance must be positive.")
  else
    let currencyAmount :=
      if wizard.journal.currencyId ≠ order.currencyId then
        odoo.convert wizard.amountAdvance wizard.journal.currencyId order.currencyId
      else wizard.amountAdvance
    if activeId && odoo.roundDigits (order.amountResidual odoo) < odoo.roundDigits currencyAmount
    then .error (.user "Amount of advance is greater than residual amount on sale")
    else .ok ()

/-- The wizard that a validation creates, without an active order in its context. -/
def createWizard (txn : ExternalOrderTransaction) : Except AdvanceError AccountVoucherWizard := do
  let amountAdvance ← order.getAmount odoo txn true
  let journal ← odoo.getJournal txn.gateway
  match odoo.defaultPaymentRef with
  | none => .error (.other "null value in column \"payment_ref\" violates not-null constraint")
  | some paymentRef =>
      let wizard : AccountVoucherWizard := ⟨order.amountResidual odoo,
        odoo.roundAmount journal.currencyId amountAdvance, journal, paymentRef⟩
      order.checkAmount odoo false wizard
      return wizard

def addPayment (wizard : AccountVoucherWizard) (isPosted : Bool) : SaleOrder :=
  { order with accountPayments := order.accountPayments ++
      [⟨wizard.amountAdvance, wizard.journal.currencyId,
        if wizard.paymentRef = "" then order.name else wizard.paymentRef, isPosted⟩] }

/-- `make_advance_payment`: the order after it, and the error that it ends with, if any. -/
def makeAdvancePayment (wizard : AccountVoucherWizard) (outcome : PostingOutcome) :
    SaleOrder × Option String :=
  match outcome with
  | .posted => (order.addPayment wizard true, none)
  | .refused message => (order.addPayment wizard false, some message)
  | .notConfirmed message =>
      let order := order.addPayment wizard true
      (order, if order.isPaid odoo then some message else none)

def markTransaction (txnId : ℕ) (status : InternalStatus) (info : Option String) : SaleOrder :=
  { order with transactions := order.transactions.map fun txn =>
      if txn.id = txnId then { txn with internalStatus := status, internalInfo := info } else txn }

/-- `_validate_as_advance_payment` of a transaction: the order after it and whether it succeeded,
or an error that it does not report on the transaction. -/
def validateAsAdvancePayment (txn : ExternalOrderTransaction) (outcome : PostingOutcome) :
    Except String (SaleOrder × Bool) :=
  if txn.isDone then .ok (order.markTransaction txn.id txn.internalStatus none, true)
  else if !txn.isEcommerceOk then
    .ok (order.markTransaction txn.id .skipped
      (some "Transaction skipped - external status does not allow processing"), false)
  else
    match order.createWizard odoo txn with
    | .error (.other message) => .error message
    | .error (.user message) =>
        .ok (order.markTransaction txn.id .failed
          (some ("Advance payment creation failed: " ++ message)), false)
    | .ok wizard =>
        match order.makeAdvancePayment odoo wizard outcome with
        | (order, some message) =>
            .ok (order.markTransaction txn.id .failed
              (some ("Advance payment creation failed: " ++ message)), false)
        | (order, none) => .ok (order.markTransaction txn.id .done none, true)

/-- A transaction of the order is validated; an error that leaves the validation undoes it. -/
def step (action : ℕ × PostingOutcome) : SaleOrder :=
  match order.transactions.find? fun txn => txn.id = action.1 with
  | none => order
  | some txn =>
      match order.validateAsAdvancePayment odoo txn action.2 with
      | .ok (order, _) => order
      | .error _ => order

end SaleOrder

end OdooConnector.Payment
