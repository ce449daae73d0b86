import Mathlib.Data.List.Dedup
import OdooConnector.Order.ExternalFulfillment
import OdooConnector.Payment.AdvanceLimit
import OdooConnector.Payment.ExternalTransaction

/-!
# Fulfillments and payments booked once

Data of the store is applied to an order again and again, between validations of its records.
There is one record for each external id, each fulfillment validates one picking at most, and each
transaction makes payments in one validation at most, as long as no list brings a new id twice and
no validation fails after it has delivered a picking or made payments.
-/

namespace OdooConnector.Order

open Payment (Accounting PaidOrder PaymentSituation TransactionData StoredTransaction)

/-- An order with its deliveries and payments, and the external ids that were received. -/
structure SyncedOrder where
  fulfilled : FulfilledOrder
  paid : PaidOrder
  receivedFulfillments : List String
  receivedTransactions : List String

/-- A call of `_apply_values_from_external`: the data, what the order and its invoices say, and
what happens in the validations that follow. -/
structure ExternalCall where
  isShopify : Bool
  skipPostAction : Bool
  orderFulfillments : List FulfillmentData
  paymentTransactions : List TransactionData
  invoicesPosted : Bool
  fullyPaid : Bool
  outcomes : ℕ → ValidationOutcome
  situations : ℕ → PaymentSituation

/-- What can happen to an order: data is applied to it, a record is validated, or its pickings and
payments change otherwise. -/
inductive OrderAction where
  | apply (call : ExternalCall)
  | validateFulfillment (index : ℕ) (outcome : ValidationOutcome)
  | validateTransaction (index : ℕ) (situation : PaymentSituation)
  | other (pickings : List DeliveryPicking) (sale : Payment.SaleOrder) (isConfirmed : Bool)

namespace SyncedOrder

variable (odoo : Accounting) (order : SyncedOrder)

/-- The part of `_apply_values_from_external` that stores the data. -/
def storeValues (call : ExternalCall) : SyncedOrder :=
  let order := { order with
    paid := order.paid.storeTransactions call.paymentTransactions
    receivedTransactions := order.receivedTransactions ++
      call.paymentTransactions.map fun report => report.externalStrId }
  if call.isShopify then
    { order with
      fulfilled := order.fulfilled.storeFulfillments none call.orderFulfillments
      receivedFulfillments := order.receivedFulfillments ++
        call.orderFulfillments.map fun report => report.externalStrId }
  else order

/-- `_apply_values_from_external`. -/
def applyValuesFromExternal (call : ExternalCall) : Except String SyncedOrder := do
  let order := order.storeValues call
  if call.skipPostAction || !order.fulfilled.isConfirmed then return order
  let order := { order with
    fulfilled := order.fulfilled.integrationApplyExternalFulfillments call.outcomes }
  if order.paid.createAdvancePayments || (call.invoicesPosted && !call.fullyPaid) then
    return { order with
      paid := ← order.paid.integrationApplyExternalPayments odoo call.situations }
  return order

/-- The order after an action; an error that leaves it undoes it. -/
def step : OrderAction → SyncedOrder
  | .apply call => (order.applyValuesFromExternal odoo call).toOption.getD order
  | .validateFulfillment index outcome =>
      { order with fulfilled := (order.fulfilled.validate index outcome).1 }
  | .validateTransaction index situation =>
      match order.paid.validate odoo index situation with
      | .ok (paid, _) => { order with paid := paid }
      | .error _ => order
  | .other pickings sale isConfirmed =>
      { order with
        fulfilled := { order.fulfilled with pickings := pickings, isConfirmed := isConfirmed }
        paid := { order.paid with sale := sale } }

/-- No data was received and no record was validated. -/
structure Fresh : Prop where
  fulfillments : order.fulfilled.fulfillments = []
  deliveries : order.fulfilled.deliveries = []
  transactions : order.paid.transactions = []
  booked : order.paid.booked = []
  receivedFulfillments : order.receivedFulfillments = []
  receivedTransactions : order.receivedTransactions = []

/-- There is exactly one record for each received id, each fulfillment has validated one picking at
most, and each transaction has made payments in one validation at most. -/
structure BookedOnce : Prop where
  oneFulfillment : (order.fulfilled.fulfillments.map fun record => record.externalStrId).Perm
    order.receivedFulfillments.dedup
  oneTransaction : (order.paid.transactions.map fun txn => txn.externalStrId).Perm
    order.receivedTransactions.dedup
  onePicking : ∀ index,
    (order.fulfilled.deliveries.filter fun delivery => delivery.index = index).length ≤ 1
  onePayment : ∀ index, order.paid.booked.count index ≤ 1

end SyncedOrder

/-- The button does not raise after it has delivered the picking. -/
def ValidationOutcome.Clean (outcome : ValidationOutcome) : Prop :=
  ∀ backorders message, outcome ≠ .errorAfter backorders message

/-- The wizards do not fail after they have made payments. -/
structure CleanSituation (situation : PaymentSituation) : Prop where
  register : ∀ message payments, situation.register = .refused message payments → payments = []
  posting : situation.posting = .posted

namespace SyncedOrder

/-- The call brings no new id twice, and its validations do not fail after they have delivered a
picking or made payments. -/
structure CleanCall (order : SyncedOrder) (call : ExternalCall) : Prop where
  fulfillments : (newKeys (fun record => record.externalStrId) (fun report => report.externalStrId)
    order.fulfilled.fulfillments call.orderFulfillments).Nodup
  transactions : (newKeys (fun txn => txn.externalStrId) (fun report => report.externalStrId)
    order.paid.transactions call.paymentTransactions).Nodup
  outcomes : ∀ index, (call.outcomes index).Clean
  situations : ∀ index, CleanSituation (call.situations index)

def CleanStep (order : SyncedOrder) : OrderAction → Prop
  | .apply call => order.CleanCall call
  | .validateFulfillment _ outcome => outcome.Clean
  | .validateTransaction _ situation => CleanSituation situation
  | .other .. => True

end SyncedOrder

/-! ## Fulfillments -/

namespace FulfilledOrder

/-- The order has records for some external ids, each delivered once at most. -/
structure Booked (strIds : List String) (order : FulfilledOrder) : Prop where
  strIds : order.fulfillments.map (fun record => record.externalStrId) = strIds
  once : AtMostOnce (fun record => record.externalStrId) ExternalOrderFulfillment.isDone
    order.fulfillments (order.deliveries.map Delivery.index)

variable {strIds : List String} {order : FulfilledOrder}

theorem Booked.modifyRecord (booked : order.Booked strIds) {index : ℕ}
    {change : ExternalOrderFulfillment → ExternalOrderFulfillment}
    (sameId : ∀ record, (change record).externalStrId = record.externalStrId)
    (stays : ∀ record, order.fulfillments[index]? = some record → record.isDone = true →
      (change record).isDone = true) :
    (order.modifyRecord index change).Booked strIds where
  strIds := (map_modify fun record _ => sameId record).trans booked.strIds
  once := booked.once.modify (fun record _ => sameId record) stays

theorem Booked.markIntegrationSent (booked : order.Booked strIds) (ids : List ℕ) :
    (order.markIntegrationSent ids).Booked strIds := ⟨booked.strIds, booked.once⟩

/-- A record is delivered and marked done. -/
theorem Booked.deliver (booked : order.Booked strIds) {index : ℕ}
    {record : ExternalOrderFulfillment} (found : order.fulfillments[index]? = some record)
    (isOpen : record.isDone = false) {delivery : Delivery} (own : delivery.index = index)
    (backorders : List DeliveryPicking) (ids : List ℕ) :
    (((order.deliver delivery backorders).markIntegrationSent ids).modifyRecord index fun record =>
      record.mark .done).Booked strIds where
  strIds := by
    refine Eq.trans ?_ booked.strIds
    exact @map_modify _ _ _ order.fulfillments index (fun record => record.mark .done)
      fun _ _ => rfl
  once := by
    have log : (order.deliveries ++ [delivery]).map Delivery.index =
        order.deliveries.map Delivery.index ++ [index] := by
      rw [List.map_append, List.map_singleton, own]
    have acted : AtMostOnce (fun record => record.externalStrId) ExternalOrderFulfillment.isDone
        (order.fulfillments.modify index fun record => record.mark .done)
        (order.deliveries.map Delivery.index ++ [index]) :=
      booked.once.act found isOpen rfl rfl
    exact log ▸ acted

/-- A validation that does not fail after a delivery delivers an open record at most. -/
theorem Booked.validate (booked : order.Booked strIds) (index : ℕ) {outcome : ValidationOutcome}
    (clean : outcome.Clean) : (order.validate index outcome).1.Booked strIds := by
  rw [FulfilledOrder.validate]
  split
  · rename_i record found
    have cleared : (order.modifyRecord index fun record => record.setInfo none).Booked strIds :=
      booked.modifyRecord (fun _ => rfl) fun _ _ done => done
    have listed : (order.modifyRecord index fun record =>
        record.setInfo none).fulfillments[index]? = some (record.setInfo none) := by
      rw [FulfilledOrder.modifyRecord, List.getElem?_modify_eq, found]
      rfl
    rw [validateRecord]
    split
    · exact cleared
    · rename_i notDone
      have isOpen : (record.setInfo none).isDone = false := by simpa using notDone
      -- a change of the open record keeps what is done
      have changed (change : ExternalOrderFulfillment → ExternalOrderFulfillment)
          (sameId : ∀ record, (change record).externalStrId = record.externalStrId) :
          ((order.modifyRecord index fun record => record.setInfo none).modifyRecord index
            change).Booked strIds := by
        refine cleared.modifyRecord sameId fun other found' done => ?_
        rw [← Option.some_inj.1 (listed.symm.trans found'), isOpen] at done
        contradiction
      split
      · exact changed _ fun _ => rfl
      · split
        · exact changed _ fun _ => rfl
        · split
          · exact changed _ fun _ => rfl
          · rename_i picking _
            cases outcome with
            | error message => exact changed _ fun _ => rfl
            | errorAfter backorders message => exact absurd rfl (clean backorders message)
            | wizard =>
                exact (changed (fun record => record.mark .done) fun _ =>
                  rfl).markIntegrationSent [picking.id]
            | validated backorders => exact cleared.deliver listed isOpen rfl backorders _
  · exact booked

theorem Booked.integrationApplyExternalFulfillments (booked : order.Booked strIds)
    {outcomes : ℕ → ValidationOutcome} (clean : ∀ index, (outcomes index).Clean) :
    (order.integrationApplyExternalFulfillments outcomes).Booked strIds := by
  rw [FulfilledOrder.integrationApplyExternalFulfillments]
  split
  · exact List.foldlRecOn _ _ booked fun _ booked index _ => booked.validate index (clean index)
  · exact booked

theorem Booked.storeFulfillments (booked : order.Booked strIds) {data : List FulfillmentData}
    (distinct : (newKeys (fun record => record.externalStrId)
      (fun report => report.externalStrId) order.fulfillments data).Nodup) :
    (order.storeFulfillments none data).Booked
      (strIds ++ newKeys (fun record => record.externalStrId)
        (fun report => report.externalStrId) order.fulfillments data) where
  strIds := by
    rw [← booked.strIds]
    exact map_upsertBatch (fun _ _ same => same.symm) fun _ => rfl
  once := booked.once.upsert (fun _ _ same => same.symm) (fun _ => rfl) (fun _ _ done => done)
    distinct

end FulfilledOrder

/-! ## Transactions -/

namespace PaidOrder

open Payment (ExternalOrderTransaction SaleOrder)

/-- The order has transactions with some external ids, each paid once at most. -/
structure Booked (strIds : List String) (order : PaidOrder) : Prop where
  strIds : order.transactions.map (fun txn => txn.externalStrId) = strIds
  once : AtMostOnce (fun txn => txn.externalStrId) StoredTransaction.isDone order.transactions
    order.booked

variable {odoo : Accounting} {strIds : List String} {order after : PaidOrder}

/-- A record is marked, and stays done if it was. -/
theorem Booked.mark (booked : Booked strIds order) {index : ℕ} {status : Payment.InternalStatus}
    {info : Option String}
    (stays : ∀ txn, order.transactions[index]? = some txn → txn.isDone = true → status = .done)
    (same : after.transactions = order.transactions.modify index fun txn => txn.mark status info)
    (log : after.booked = order.booked) : Booked strIds after where
  strIds := by
    refine Eq.trans ?_ booked.strIds
    rw [same]
    exact map_modify fun _ _ => rfl
  once := by
    rw [same, log]
    refine booked.once.modify (fun _ _ => rfl) fun txn found done => ?_
    exact decide_eq_true (stays txn found done)

/-- An open record is paid and marked done. -/
theorem Booked.pay (booked : Booked strIds order) {index : ℕ} {txn : StoredTransaction}
    (found : order.transactions[index]? = some txn) (isOpen : txn.isDone = false)
    {status : Payment.InternalStatus} {info : Option String} (closes : status = .done)
    (same : after.transactions = order.transactions.modify index fun txn => txn.mark status info)
    (log : after.booked = order.booked ++ [index]) : Booked strIds after where
  strIds := by
    refine Eq.trans ?_ booked.strIds
    rw [same]
    exact map_modify fun _ _ => rfl
  once := by
    rw [same, log]
    exact booked.once.act found isOpen rfl (decide_eq_true closes)

/-- A validation on invoices that does not fail after it has made payments pays an open record at
most. -/
theorem Booked.validateWithInvoices (booked : Booked strIds order) {index : ℕ}
    {txn : StoredTransaction} (found : order.transactions[index]? = some txn)
    {situation : PaymentSituation} (clean : CleanSituation situation) {result : Bool}
    (validates : order.validateWithInvoices odoo index txn situation = .ok (after, result)) :
    Booked strIds after := by
  have only {other : StoredTransaction} (found' : order.transactions[index]? = some other) :
      other = txn := Option.some_inj.1 (found'.symm.trans found)
  rw [PaidOrder.validateWithInvoices] at validates
  cases done : txn.isDone with
  | true =>
      rw [done, if_pos rfl] at validates
      cases validates
      exact booked.mark (fun other found' _ => of_decide_eq_true (only found' ▸ done)) rfl rfl
  | false =>
      have never {status : Payment.InternalStatus} (other : StoredTransaction)
          (found' : order.transactions[index]? = some other) (closed : other.isDone = true) :
          status = .done := by
        rw [only found', done] at closed
        contradiction
      rw [done, if_neg Bool.false_ne_true] at validates
      split at validates
      · cases validates
        exact booked.mark never rfl rfl
      · split at validates
        · cases validates
          exact booked.mark never rfl rfl
        · split at validates
          · contradiction
          · split at validates
            · contradiction
            · split at validates
              · contradiction
              · cases outcome : situation.register with
                | refused message payments =>
                    rw [outcome] at validates
                    cases validates
                    obtain rfl := clean.register message payments outcome
                    exact booked.mark never (PaidOrder.book_transactions ..)
                      (PaidOrder.book_booked ..)
                | created payments =>
                    rw [outcome] at validates
                    cases validates
                    by_cases made : payments = []
                    · subst made
                      exact booked.mark never (PaidOrder.book_transactions ..)
                        (PaidOrder.book_booked ..)
                    · refine booked.pay found done rfl (PaidOrder.book_transactions ..) ?_
                      rw [PaidOrder.book_booked, decide_eq_true made, if_pos rfl]
                      rfl

/-- An advance payment that is posted closes its transaction, and without a payment a closed
transaction stays closed. -/
theorem advance_cases {sale paid : SaleOrder} {record : ExternalOrderTransaction} {result : Bool}
    (validated : ({ sale with transactions := [record] } : SaleOrder).validateAsAdvancePayment odoo
      record .posted = .ok (paid, result)) :
    (paid.accountPayments.length = sale.accountPayments.length ∧ (record.isDone = true →
        (paid.transactions.headD record).internalStatus = .done)) ∨
      (paid.accountPayments.length ≠ sale.accountPayments.length ∧ record.isDone = false ∧
        (paid.transactions.headD record).internalStatus = .done) := by
  have marked (payments : List Payment.AccountPayment) (status : Payment.InternalStatus)
      (info : Option String) : ((({ sale with
          transactions := [record], accountPayments := payments } : SaleOrder).markTransaction
            record.id status info).transactions.headD record).internalStatus = status := by
    simp [SaleOrder.markTransaction]
  rw [SaleOrder.validateAsAdvancePayment] at validated
  cases done : record.isDone with
  | true =>
      rw [done, if_pos rfl] at validated
      cases validated
      exact .inl ⟨rfl, fun _ => (marked _ _ _).trans (of_decide_eq_true done)⟩
  | false =>
      rw [done, if_neg Bool.false_ne_true] at validated
      split at validated
      · cases validated
        exact .inl ⟨rfl, fun closed => by contradiction⟩
      · split at validated
        · contradiction
        · cases validated
          exact .inl ⟨rfl, fun closed => by contradiction⟩
        · cases validated
          refine .inr ⟨?_, rfl, marked _ _ _⟩
          simp [SaleOrder.markTransaction, SaleOrder.addPayment]

/-- A validation by an advance payment that is posted pays an open record at most. -/
theorem Booked.validateAsAdvancePayment (booked : Booked strIds order) {index : ℕ}
    {txn : StoredTransaction} (found : order.transactions[index]? = some txn) {result : Bool}
    (validates : order.validateAsAdvancePayment odoo index txn .posted = .ok (after, result)) :
    Booked strIds after := by
  have only {other : StoredTransaction} (found' : order.transactions[index]? = some other) :
      other = txn := Option.some_inj.1 (found'.symm.trans found)
  rw [PaidOrder.validateAsAdvancePayment] at validates
  cases validated : ({ order.sale with
      transactions := [txn.toOrderTransaction index] } : SaleOrder).validateAsAdvancePayment odoo
        (txn.toOrderTransaction index) .posted with
  | error message =>
      rw [validated] at validates
      contradiction
  | ok answer =>
      obtain ⟨paid, _⟩ := answer
      rw [validated] at validates
      cases validates
      obtain ⟨none, stays⟩ | ⟨made, isOpen, closes⟩ := advance_cases validated
      · refine booked.mark (fun other found' done => stays ?_) (PaidOrder.book_transactions ..) ?_
        · exact only found' ▸ done
        · rw [PaidOrder.book_booked, none, decide_eq_false (not_not.2 rfl),
            if_neg Bool.false_ne_true]
          rfl
      · refine booked.pay found isOpen closes (PaidOrder.book_transactions ..) ?_
        rw [PaidOrder.book_booked, decide_eq_true made, if_pos rfl]
        rfl

theorem Booked.validate (booked : Booked strIds order) {index : ℕ} {situation : PaymentSituation}
    (clean : CleanSituation situation) {result : Bool}
    (validates : order.validate odoo index situation = .ok (after, result)) :
    Booked strIds after := by
  rw [PaidOrder.validate] at validates
  split at validates
  · cases validates
    exact booked
  · rename_i txn found
    split at validates
    · exact booked.validateWithInvoices found clean validates
    · rw [clean.posting] at validates
      exact booked.validateAsAdvancePayment found validates

theorem Booked.validateAll (booked : Booked strIds order) {indices : List ℕ}
    {situations : ℕ → PaymentSituation} (clean : ∀ index, CleanSituation (situations index))
    (validates : indices.foldlM (fun order index => do
      return (← order.validate odoo index (situations index)).1) order = .ok after) :
    Booked strIds after := by
  induction indices generalizing order with
  | nil =>
      cases validates
      exact booked
  | cons index indices induction =>
      rw [List.foldlM_cons] at validates
      cases validated : order.validate odoo index (situations index) with
      | error message =>
          rw [validated] at validates
          contradiction
      | ok answer =>
          rw [validated] at validates
          exact induction (booked.validate (clean index) validated) validates

theorem Booked.integrationApplyExternalPayments (booked : Booked strIds order)
    {situations : ℕ → PaymentSituation} (clean : ∀ index, CleanSituation (situations index))
    (applies : order.integrationApplyExternalPayments odoo situations = .ok after) :
    Booked strIds after := by
  rw [PaidOrder.integrationApplyExternalPayments] at applies
  split at applies
  · cases applies
    exact booked
  · split at applies
    · contradiction
    · exact booked.validateAll clean applies

theorem Booked.storeTransactions (booked : Booked strIds order) {data : List TransactionData}
    (distinct : (newKeys (fun txn => txn.externalStrId) (fun report => report.externalStrId)
      order.transactions data).Nodup) :
    Booked (strIds ++ newKeys (fun txn => txn.externalStrId) (fun report => report.externalStrId)
      order.transactions data) (order.storeTransactions data) where
  strIds := by
    rw [← booked.strIds]
    exact map_upsertBatch (fun _ _ same => same.symm) fun _ => rfl
  once := booked.once.upsert (fun _ _ same => same.symm) (fun _ => rfl) (fun _ _ done => done)
    distinct

end PaidOrder

/-! ## Runs -/

namespace SyncedOrder

/-- The records are booked once at most and have the received ids. -/
structure Sound (order : SyncedOrder) : Prop where
  fulfillments : ∃ strIds, order.fulfilled.Booked strIds ∧
    ∀ strId, strId ∈ strIds ↔ strId ∈ order.receivedFulfillments
  transactions : ∃ strIds, PaidOrder.Booked strIds order.paid ∧
    ∀ strId, strId ∈ strIds ↔ strId ∈ order.receivedTransactions

variable {odoo : Accounting} {order after : SyncedOrder}

/-- The ids of a batch are stored before it, or are new. -/
theorem mem_append_newKeys {ρ δ : Type} {key : ρ → String} {dataKey : δ → String}
    {stored : List ρ} {batch : List δ} {strIds received : List String}
    (keys : stored.map key = strIds) (known : ∀ strId, strId ∈ strIds ↔ strId ∈ received)
    (strId : String) : strId ∈ strIds ++ newKeys key dataKey stored batch ↔
      strId ∈ received ++ batch.map dataKey := by
  rw [List.mem_append, List.mem_append, mem_newKeys, keys, known]
  tauto

theorem Sound.storeValues (sound : order.Sound) {call : ExternalCall}
    (clean : order.CleanCall call) : (order.storeValues call).Sound := by
  obtain ⟨txnIds, paid, knownTxns⟩ := sound.transactions
  obtain ⟨strIds, booked, known⟩ := sound.fulfillments
  have transactions := paid.storeTransactions clean.transactions
  rw [SyncedOrder.storeValues]
  split
  · exact ⟨⟨_, booked.storeFulfillments clean.fulfillments, mem_append_newKeys booked.strIds known⟩,
      ⟨_, transactions, mem_append_newKeys paid.strIds knownTxns⟩⟩
  · exact ⟨sound.fulfillments, ⟨_, transactions, mem_append_newKeys paid.strIds knownTxns⟩⟩

theorem Sound.applyValuesFromExternal (sound : order.Sound) {call : ExternalCall}
    (clean : order.CleanCall call)
    (applies : order.applyValuesFromExternal odoo call = .ok after) : after.Sound := by
  have stored := sound.storeValues clean
  rw [SyncedOrder.applyValuesFromExternal] at applies
  generalize order.storeValues call = order at stored applies
  obtain ⟨strIds, booked, known⟩ := stored.fulfillments
  have delivered := booked.integrationApplyExternalFulfillments clean.outcomes
  dsimp only at applies
  split at applies
  · cases applies
    exact stored
  · split at applies
    · cases paid : order.paid.integrationApplyExternalPayments odoo call.situations with
      | error message =>
          rw [paid] at applies
          contradiction
      | ok paidOrder =>
          rw [paid] at applies
          cases applies
          obtain ⟨txnIds, bookedTxns, knownTxns⟩ := stored.transactions
          have payments := bookedTxns.integrationApplyExternalPayments clean.situations paid
          exact ⟨⟨strIds, delivered, known⟩, ⟨txnIds, payments, knownTxns⟩⟩
    · cases applies
      exact ⟨⟨strIds, delivered, known⟩, stored.transactions⟩

theorem Sound.step (sound : order.Sound) {action : OrderAction} (clean : order.CleanStep action) :
    (order.step odoo action).Sound := by
  cases action with
  | apply call =>
      rw [SyncedOrder.step]
      cases applies : order.applyValuesFromExternal odoo call with
      | error message => exact sound
      | ok after => exact sound.applyValuesFromExternal clean applies
  | validateFulfillment index outcome =>
      obtain ⟨strIds, booked, known⟩ := sound.fulfillments
      exact ⟨⟨strIds, booked.validate index clean, known⟩, sound.transactions⟩
  | validateTransaction index situation =>
      rw [SyncedOrder.step]
      cases validates : order.paid.validate odoo index situation with
      | error message => exact sound
      | ok answer =>
          obtain ⟨strIds, booked, known⟩ := sound.transactions
          exact ⟨sound.fulfillments, ⟨strIds, booked.validate clean validates, known⟩⟩
  | other pickings sale isConfirmed =>
      obtain ⟨strIds, booked, known⟩ := sound.fulfillments
      obtain ⟨txnIds, paid, knownTxns⟩ := sound.transactions
      exact ⟨⟨strIds, ⟨booked.strIds, booked.once⟩, known⟩,
        ⟨txnIds, ⟨paid.strIds, paid.once⟩, knownTxns⟩⟩

theorem Fresh.sound (fresh : order.Fresh) : order.Sound := by
  refine ⟨⟨[], ⟨?_, ?_⟩, ?_⟩, ⟨[], ⟨?_, ?_⟩, ?_⟩⟩
  · rw [fresh.fulfillments, List.map_nil]
  · rw [fresh.fulfillments, fresh.deliveries, List.map_nil]
    exact AtMostOnce.nil
  · simp [fresh.receivedFulfillments]
  · rw [fresh.transactions, List.map_nil]
  · rw [fresh.transactions, fresh.booked]
    exact AtMostOnce.nil
  · simp [fresh.receivedTransactions]

theorem Sound.bookedOnce (sound : order.Sound) : order.BookedOnce := by
  obtain ⟨strIds, booked, known⟩ := sound.fulfillments
  obtain ⟨txnIds, paid, knownTxns⟩ := sound.transactions
  refine ⟨?_, ?_, fun index => ?_, fun index => ?_⟩
  · rw [List.perm_ext_iff_of_nodup booked.once.keys (List.nodup_dedup _), booked.strIds]
    simpa using known
  · rw [List.perm_ext_iff_of_nodup paid.once.keys (List.nodup_dedup _), paid.strIds]
    simpa using knownTxns
  · have once := List.nodup_iff_count_le_one.1 booked.once.once index
    rw [List.count, List.countP_map, List.countP_eq_length_filter] at once
    exact once
  · exact List.nodup_iff_count_le_one.1 paid.once.once index

/-- In every run of an order whose calls bring no new id twice, and whose validations do not fail
after they have delivered a picking or made payments, nothing is booked twice. -/
theorem fulfillments_and_payments_booked_once (odoo : Accounting) {order : SyncedOrder}
    (fresh : order.Fresh) {actions : List OrderAction}
    (clean : Along (step odoo) CleanStep order actions) :
    (runSteps (step odoo) order actions).BookedOnce := by
  have sound : (runSteps (step odoo) order actions).Sound :=
    runSteps_invariant (fun _ _ sound clean => sound.step clean) fresh.sound clean
  exact sound.bookedOnce

/-! ## Two parcels of a hat -/

/-- An order over 100 with a hat in each of two pending pickings. -/
def hatsOrder : SyncedOrder where
  fulfilled :=
    { pickings := [⟨2, .assigned, [⟨.assigned, "hat", 1, 1, some 2⟩], none, false⟩,
        ⟨3, .assigned, [⟨.assigned, "hat", 1, 1, some 2⟩], none, false⟩]
      fulfillments := []
      isConfirmed := true
      isAvailableMultiStock := false
      applyExternalFulfillments := true
      whFromExternalLocation := fun _ => none
      deliveries := []
      exported := [] }
  paid :=
    { integrationName := "Shop"
      sale := ⟨"S00001", 100, 1, [], []⟩
      registered := []
      transactions := []
      createAdvancePayments := true
      applyExternalPayments := true
      booked := [] }
  receivedFulfillments := []
  receivedTransactions := []

/-- The accounting makes payments and posts them as told. -/
def situation (posting : Payment.PostingOutcome) : PaymentSituation where
  skipAdvancePayment := false
  unpaidInvoices := false
  paymentDifference := false
  writeoffAccount := true
  register := .created [1]
  posting := posting

/-- The store reports parcels of a hat and payments of the whole order. -/
def report (parcels payments : List String) (outcome : ValidationOutcome)
    (posting : Payment.PostingOutcome) : ExternalCall where
  isShopify := true
  skipPostAction := false
  orderFulfillments := parcels.map fun strId => ⟨strId, "success", "7", [⟨"hat", 1⟩]⟩
  paymentTransactions := payments.map fun strId =>
    ⟨strId, .sale, 100, "EUR", "shopify_payments", "success"⟩
  invoicesPosted := false
  fullyPaid := false
  outcomes _ := outcome
  situations _ := situation posting

/-- A parcel and a payment are reported twice. -/
theorem fulfillments_and_payments_booked_once_hats :
    (runSteps (step Payment.SaleOrder.euroAccounting) hatsOrder
      [.apply (report ["F1"] ["T1"] (.validated []) .posted),
        .apply (report ["F1"] ["T1"] (.validated []) .posted)]).BookedOnce := by
  have clean : CleanSituation (situation .posted) := ⟨fun _ _ other => (nomatch other), rfl⟩
  refine fulfillments_and_payments_booked_once Payment.SaleOrder.euroAccounting
    ⟨rfl, rfl, rfl, rfl, rfl, rfl⟩ ⟨⟨?_, ?_, fun _ _ _ => nofun, fun _ => clean⟩,
      ⟨?_, ?_, fun _ _ _ => nofun, fun _ => clean⟩, trivial⟩
  all_goals decide +kernel

/-- A parcel that one list brings twice has two records, each of which delivers a hat. A payment
that could not be posted is made once more by the next call, and so is the delivery of a parcel
whose picking was delivered before an error. -/
theorem parcel_and_payment_booked_twice :
    ¬ (runSteps (step Payment.SaleOrder.euroAccounting) hatsOrder
        [.apply (report ["F1", "F1"] [] (.validated []) .posted)]).BookedOnce ∧
    ¬ (runSteps (step Payment.SaleOrder.euroAccounting) hatsOrder
        [.apply (report [] ["T1"] (.validated []) (.refused "No sequence")),
          .apply (report [] ["T1"] (.validated []) .posted)]).BookedOnce ∧
    ¬ (runSteps (step Payment.SaleOrder.euroAccounting) hatsOrder
        [.apply (report ["F1"] [] (.errorAfter [] "No label") .posted),
          .apply (report ["F1"] [] (.validated []) .posted)]).BookedOnce := by
  refine ⟨fun once => ?_, fun once => ?_, fun once => ?_⟩
  · exact absurd once.oneFulfillment.length_eq (by decide +kernel)
  · exact absurd (once.onePayment 0) (by decide +kernel)
  · exact absurd (once.onePicking 0) (by decide +kernel)

end SyncedOrder

end OdooConnector.Order
