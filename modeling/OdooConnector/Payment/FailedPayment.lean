import OdooConnector.Payment.ExternalTransaction

/-!
# Failed validations of payments

A validation that creates a payment keeps it when what follows its creation fails. A later
validation pays again.
-/

namespace OdooConnector.Payment

/-- What Odoo does with an advance payment: it refuses to create it, or posts it in some way. -/
structure AdvanceSituation where
  creation : Option String
  posting : PostingOutcome

namespace PaidOrder

variable (odoo : Accounting)

/-- The validation comes to create an advance payment. -/
def opensWizard (order : PaidOrder) (index : ℕ) (txn : StoredTransaction) : Bool :=
  !txn.isDone && txn.isEcommerceOk &&
    (order.sale.createWizard odoo (txn.toOrderTransaction index)).isOk

/-- `_validate_as_advance_payment` of a record, where Odoo may refuse to create the payment. -/
def attemptAdvancePayment (index : ℕ) (situation : AdvanceSituation) (order : PaidOrder)
    (txn : StoredTransaction) : Except String (PaidOrder × Bool) :=
  match situation.creation with
  | none => order.validateAsAdvancePayment odoo index txn situation.posting
  | some message =>
      if order.opensWizard odoo index txn then
        .ok (order.modifyTransaction index fun txn =>
          txn.mark .failed (some ("Advance payment creation failed: " ++ message)), false)
      else order.validateAsAdvancePayment odoo index txn situation.posting

/-- If a validation of a record fails, only its status and information are changed, and a later
validation does what it would have done before. -/
def FailureLeavesNoTrace {S : Type}
    (validates : S → PaidOrder → StoredTransaction → Except String (PaidOrder × Bool))
    (index : ℕ) (situation : S) (order : PaidOrder) (txn : StoredTransaction) : Prop :=
  ∀ after, validates situation order txn = .ok (after, false) → ∃ status info,
    after = order.modifyTransaction index (fun txn => txn.mark status info) ∧
      ∀ later, validates later after (txn.mark status info) = validates later order txn

/-- The validation comes to register payments of invoices. -/
def opensRegister (order : PaidOrder) (index : ℕ) (situation : PaymentSituation)
    (txn : StoredTransaction) : Bool :=
  !txn.isDone && txn.isEcommerceOk && situation.unpaidInvoices &&
    (order.sale.getAmount odoo (txn.toOrderTransaction index) false).isOk &&
    (odoo.getJournal txn.gateway).isOk &&
    !(situation.paymentDifference && !situation.writeoffAccount)

/-- Where Odoo refuses to register payments, it has made none. -/
def RefusedBeforePayment (index : ℕ) (situation : PaymentSituation) (order : PaidOrder)
    (txn : StoredTransaction) : Prop :=
  order.opensRegister odoo index situation txn = true →
    ∀ message payments, situation.register = .refused message payments → payments = []

/-- Where Odoo creates an advance payment, it posts it and confirms an order that is paid by it. -/
def PostedOnceCreated (index : ℕ) (situation : AdvanceSituation) (order : PaidOrder)
    (txn : StoredTransaction) : Prop :=
  txn.isDone = false → txn.isEcommerceOk = true → situation.creation = none → ∀ wizard,
    order.sale.createWizard odoo (txn.toOrderTransaction index) = .ok wizard →
      match situation.posting with
      | .posted => True
      | .refused _ => False
      | .notConfirmed _ => (order.sale.addPayment wizard true).isPaid odoo = false

variable {odoo} {index : ℕ} {order : PaidOrder} {txn : StoredTransaction}

theorem modifyTransaction_mark (status other : InternalStatus) (info note : Option String) :
    ((order.modifyTransaction index fun txn => txn.mark status info).modifyTransaction index
      fun txn => txn.mark other note) =
        order.modifyTransaction index fun txn => txn.mark other note := by
  rw [modifyTransaction, modifyTransaction, modifyTransaction, List.modify_modify_eq]
  rfl

/-- The mark of the only transaction is carried over to the record. -/
theorem book_markTransaction (payments : List AccountPayment) (status : InternalStatus)
    (info : Option String) (result : Bool) :
    let sale := SaleOrder.markTransaction { order.sale with
      transactions := [txn.toOrderTransaction index], accountPayments := payments } index
        status info
    let marked := sale.transactions.headD (txn.toOrderTransaction index)
    let paid := { order with sale := { sale with transactions := order.sale.transactions } }
    (.ok ((paid.modifyTransaction index fun txn =>
        txn.mark marked.internalStatus marked.internalInfo).book index
          (sale.accountPayments.length ≠ order.sale.accountPayments.length), result) :
            Except String (PaidOrder × Bool)) =
      .ok (({ order.modifyTransaction index fun txn => txn.mark status info with
        sale := { order.sale with accountPayments := payments } }).book index
          (payments.length ≠ order.sale.accountPayments.length), result) := by
  simp [SaleOrder.markTransaction, modifyTransaction, StoredTransaction.toOrderTransaction]

/-- Where no payment is made, only the record is marked. -/
theorem book_unpaid (status : InternalStatus) (info : Option String) (result : Bool) :
    (.ok (({ order.modifyTransaction index fun txn => txn.mark status info with
      sale := order.sale }).book index
        (order.sale.accountPayments.length ≠ order.sale.accountPayments.length), result) :
          Except String (PaidOrder × Bool)) =
      .ok (order.modifyTransaction index fun txn => txn.mark status info, result) := by
  rw [decide_eq_false (not_not.2 rfl)]
  rfl

/-- What a validation by an advance payment does, with the payment that it adds to the order. -/
theorem validateAsAdvancePayment_eq (posting : PostingOutcome) :
    order.validateAsAdvancePayment odoo index txn posting =
      let mark := fun status info => order.modifyTransaction index fun txn => txn.mark status info
      if txn.isDone then .ok (mark txn.internalStatus none, true)
      else if !txn.isEcommerceOk then
        .ok (mark .skipped
          (some "Transaction skipped - external status does not allow processing"), false)
      else
        match order.sale.createWizard odoo (txn.toOrderTransaction index) with
        | .error (.other message) => .error message
        | .error (.user message) =>
            .ok (mark .failed (some ("Advance payment creation failed: " ++ message)), false)
        | .ok wizard =>
            match order.sale.makeAdvancePayment odoo wizard posting with
            | (sale, some message) =>
                .ok (({ mark .failed (some ("Advance payment creation failed: " ++ message)) with
                  sale := sale }).book index true, false)
            | (sale, none) =>
                .ok (({ mark .done none with sale := sale }).book index true, true) := by
  have sameDone : (txn.toOrderTransaction index).isDone = txn.isDone := rfl
  have sameOk : (txn.toOrderTransaction index).isEcommerceOk = txn.isEcommerceOk := rfl
  -- the wizard does not read the transactions of the order
  have sameWizard : ({ order.sale with
      transactions := [txn.toOrderTransaction index] } : SaleOrder).createWizard odoo
        (txn.toOrderTransaction index) =
      order.sale.createWizard odoo (txn.toOrderTransaction index) := rfl
  have samePaid (wizard : AccountVoucherWizard) : (({ order.sale with
      transactions := [txn.toOrderTransaction index] } : SaleOrder).addPayment wizard true).isPaid
        odoo = (order.sale.addPayment wizard true).isPaid odoo := rfl
  rw [validateAsAdvancePayment, SaleOrder.validateAsAdvancePayment, sameDone, sameOk, sameWizard]
  dsimp only
  have paid (wizard : AccountVoucherWizard) (isPosted : Bool) :
      decide ((order.sale.addPayment wizard isPosted).accountPayments.length ≠
        order.sale.accountPayments.length) = true := by
    simp [SaleOrder.addPayment]
  cases txn.isDone with
  | true => exact (book_markTransaction _ txn.internalStatus none true).trans (book_unpaid _ _ _)
  | false =>
      cases txn.isEcommerceOk with
      | false => exact (book_markTransaction _ .skipped _ false).trans (book_unpaid _ _ _)
      | true =>
          cases order.sale.createWizard odoo (txn.toOrderTransaction index) with
          | error error =>
              cases error with
              | user message =>
                  exact (book_markTransaction _ .failed _ false).trans (book_unpaid _ _ _)
              | other message => rfl
          | ok wizard =>
              have carried := fun isPosted => @book_markTransaction index order txn
                (order.sale.addPayment wizard isPosted).accountPayments
              simp only [paid] at carried
              cases posting with
              | posted => exact carried true .done none true
              | refused message => exact carried false .failed _ false
              | notConfirmed message =>
                  simp only [SaleOrder.makeAdvancePayment, samePaid]
                  cases (order.sale.addPayment wizard true).isPaid odoo with
                  | true => exact carried true .failed _ false
                  | false => exact carried true .done none true

theorem isDone_mark {status : InternalStatus} (isOpen : status ≠ .done) (info : Option String) :
    (txn.mark status info).isDone = false := decide_eq_false isOpen

/-- Status and information of a record that is not done do not matter to its validation. -/
theorem validateWithInvoices_mark (notDone : txn.isDone = false) {status : InternalStatus}
    (isOpen : status ≠ .done) (info : Option String) (situation : PaymentSituation) :
    (order.modifyTransaction index fun txn => txn.mark status info).validateWithInvoices odoo index
      (txn.mark status info) situation =
        order.validateWithInvoices odoo index txn situation := by
  rw [validateWithInvoices, validateWithInvoices, isDone_mark isOpen, notDone]
  simp only [modifyTransaction_mark]
  rfl

theorem validateAsAdvancePayment_mark (notDone : txn.isDone = false) {status : InternalStatus}
    (isOpen : status ≠ .done) (info : Option String) (posting : PostingOutcome) :
    (order.modifyTransaction index fun txn => txn.mark status info).validateAsAdvancePayment odoo
      index (txn.mark status info) posting =
        order.validateAsAdvancePayment odoo index txn posting := by
  rw [validateAsAdvancePayment_eq, validateAsAdvancePayment_eq, isDone_mark isOpen, notDone]
  simp only [modifyTransaction_mark]
  rfl

theorem attemptAdvancePayment_mark (notDone : txn.isDone = false) {status : InternalStatus}
    (isOpen : status ≠ .done) (info : Option String) (situation : AdvanceSituation) :
    attemptAdvancePayment odoo index situation
      (order.modifyTransaction index fun txn => txn.mark status info) (txn.mark status info) =
        attemptAdvancePayment odoo index situation order txn := by
  rw [attemptAdvancePayment, attemptAdvancePayment, validateAsAdvancePayment_mark notDone isOpen,
    opensWizard, opensWizard, isDone_mark isOpen, notDone]
  simp only [modifyTransaction_mark]
  rfl

/-- A validation that only marks its record as failed or skipped leaves no other trace. -/
theorem FailureLeavesNoTrace.of_mark {S : Type}
    {validates : S → PaidOrder → StoredTransaction → Except String (PaidOrder × Bool)}
    {situation : S} {status : InternalStatus} {info : Option String}
    (marks : validates situation order txn =
      .ok (order.modifyTransaction index fun txn => txn.mark status info, false))
    (same : ∀ later, validates later (order.modifyTransaction index fun txn =>
      txn.mark status info) (txn.mark status info) = validates later order txn) :
    FailureLeavesNoTrace validates index situation order txn := by
  intro after failed
  cases marks.symm.trans failed
  exact ⟨status, info, rfl, same⟩

@[simp]
theorem book_registered (made : Bool) : (order.book index made).registered = order.registered := by
  cases made <;> rfl

theorem FailureLeavesNoTrace.of_ne {S : Type}
    {validates : S → PaidOrder → StoredTransaction → Except String (PaidOrder × Bool)}
    {situation : S} (never : ∀ after, validates situation order txn ≠ .ok (after, false)) :
    FailureLeavesNoTrace validates index situation order txn :=
  fun after failed => absurd failed (never after)

section

variable {situation : PaymentSituation}

theorem validateWithInvoices_of_open
    (opens : order.opensRegister odoo index situation txn = true) :
    order.validateWithInvoices odoo index txn situation =
      match situation.register with
      | .refused message payments =>
          .ok (({ order.modifyTransaction index fun txn =>
              txn.mark .failed (some ("Payment creation failed: " ++ message)) with
            registered := order.registered ++ payments }).book index (payments ≠ []), false)
      | .created payments =>
          .ok (({ order.modifyTransaction index fun txn => txn.mark .done none with
            registered := order.registered ++ payments }).book index (payments ≠ []), true) := by
  simp only [opensRegister, Bool.and_eq_true, Bool.not_eq_true'] at opens
  obtain ⟨⟨⟨⟨⟨notDone, ok⟩, unpaid⟩, amount⟩, journal⟩, writeoff⟩ := opens
  cases value : order.sale.getAmount odoo (txn.toOrderTransaction index) false with
  | error error =>
      rw [value] at amount
      contradiction
  | ok _ =>
      cases account : odoo.getJournal txn.gateway with
      | error error =>
          rw [account] at journal
          contradiction
      | ok _ =>
          rw [validateWithInvoices, notDone, ok, unpaid, value, account]
          dsimp only
          rw [writeoff]
          rfl

/-- A validation that does not come to the payments leaves no trace. -/
theorem validateWithInvoices_of_not_open
    (closed : order.opensRegister odoo index situation txn = false) :
    FailureLeavesNoTrace (fun situation order txn =>
      order.validateWithInvoices odoo index txn situation) index situation order txn := by
  have raised {message : String}
      (error : order.validateWithInvoices odoo index txn situation = .error message) :
      FailureLeavesNoTrace (fun situation order txn =>
        order.validateWithInvoices odoo index txn situation) index situation order txn :=
    .of_ne fun after failed => by cases error.symm.trans failed
  cases notDone : txn.isDone with
  | true =>
      apply FailureLeavesNoTrace.of_ne
      intro after
      rw [validateWithInvoices, notDone]
      nofun
  | false =>
      have isOpen : InternalStatus.skipped ≠ .done := nofun
      have same := @validateWithInvoices_mark odoo index order txn notDone .skipped isOpen
      cases ok : txn.isEcommerceOk with
      | false =>
          apply FailureLeavesNoTrace.of_mark _ (same (some
            "Transaction skipped - external status does not allow processing"))
          rw [validateWithInvoices, notDone, ok]
          rfl
      | true =>
          cases unpaid : situation.unpaidInvoices with
          | false =>
              apply FailureLeavesNoTrace.of_mark _ (same (some
                "No unpaid invoices found for this order"))
              rw [validateWithInvoices, notDone, ok, unpaid]
              rfl
          | true =>
              cases amount : order.sale.getAmount odoo (txn.toOrderTransaction index) false with
              | error error =>
                  apply raised
                  rw [validateWithInvoices, notDone, ok, unpaid, amount]
                  rfl
              | ok value =>
                  cases journal : odoo.getJournal txn.gateway with
                  | error error =>
                      apply raised
                      rw [validateWithInvoices, notDone, ok, unpaid, amount, journal]
                      rfl
                  | ok account =>
                      rw [opensRegister, notDone, ok, unpaid, amount, journal] at closed
                      have writeoff : (!(situation.paymentDifference &&
                        !situation.writeoffAccount)) = false := closed
                      rw [Bool.not_eq_false'] at writeoff
                      apply raised
                      rw [validateWithInvoices, notDone, ok, unpaid, amount, journal]
                      exact if_pos writeoff

/-- A failed registration of payments leaves no trace exactly when it is refused before the first
payment. -/
theorem validateWithInvoices_noTrace_iff :
    FailureLeavesNoTrace (fun situation order txn =>
      order.validateWithInvoices odoo index txn situation) index situation order txn ↔
        RefusedBeforePayment odoo index situation order txn := by
  rw [RefusedBeforePayment]
  cases opens : order.opensRegister odoo index situation txn with
  | false => exact iff_of_true (validateWithInvoices_of_not_open opens) nofun
  | true =>
      rw [forall_prop_of_true rfl]
      have result := validateWithInvoices_of_open opens
      have notDone : txn.isDone = false := by
        simp only [opensRegister, Bool.and_eq_true, Bool.not_eq_true'] at opens
        exact opens.1.1.1.1.1
      cases register : situation.register with
      | created payments =>
          rw [register] at result
          refine iff_of_true (.of_ne fun after failed => ?_) nofun
          cases result.symm.trans failed
      | refused message payments =>
          rw [register] at result
          constructor
          · rintro trace _ _ ⟨⟩
            obtain ⟨status, info, same, -⟩ := trace _ result
            have kept := congrArg PaidOrder.registered same
            rw [book_registered] at kept
            exact List.append_right_eq_self.1 kept
          · intro none
            cases none message payments rfl
            dsimp only at result
            rw [List.append_nil] at result
            have isOpen : InternalStatus.failed ≠ .done := nofun
            exact .of_mark result fun later => validateWithInvoices_mark notDone isOpen _ later

end

section

variable {situation : AdvanceSituation}

/-- A validation that does not open the wizard leaves no trace. -/
theorem attemptAdvancePayment_of_not_open
    (closed : order.opensWizard odoo index txn = false) :
    FailureLeavesNoTrace (attemptAdvancePayment odoo index) index situation order txn := by
  have attempt : attemptAdvancePayment odoo index situation order txn =
      order.validateAsAdvancePayment odoo index txn situation.posting := by
    rw [attemptAdvancePayment, closed]
    split <;> rfl
  rw [validateAsAdvancePayment_eq] at attempt
  cases notDone : txn.isDone with
  | true =>
      rw [notDone] at attempt
      exact .of_ne fun after failed => by cases attempt.symm.trans failed
  | false =>
      have same {status : InternalStatus} (isOpen : status ≠ .done) :=
        @attemptAdvancePayment_mark odoo index order txn notDone status isOpen
      cases ok : txn.isEcommerceOk with
      | false =>
          rw [notDone, ok] at attempt
          have isOpen : InternalStatus.skipped ≠ .done := nofun
          exact .of_mark attempt (same isOpen _)
      | true =>
          cases wizard : order.sale.createWizard odoo (txn.toOrderTransaction index) with
          | error error =>
              rw [notDone, ok, wizard] at attempt
              cases error with
              | user message =>
                  have isOpen : InternalStatus.failed ≠ .done := nofun
                  exact .of_mark attempt (same isOpen _)
              | other message =>
                  exact .of_ne fun after failed => by cases attempt.symm.trans failed
          | ok wizard' =>
              rw [opensWizard, notDone, ok, wizard] at closed
              cases closed

/-- A payment that a failed validation has added stays. -/
theorem not_noTrace_of_addPayment {info : Option String} {wizard : AccountVoucherWizard}
    {isPosted : Bool} (attempt : attemptAdvancePayment odoo index situation order txn =
      .ok (({ order.modifyTransaction index fun txn => txn.mark .failed info with
        sale := order.sale.addPayment wizard isPosted }).book index true, false)) :
    ¬FailureLeavesNoTrace (attemptAdvancePayment odoo index) index situation order txn := by
  intro trace
  obtain ⟨status, note, same, -⟩ := trace _ attempt
  have kept := congrArg (fun order => order.sale.accountPayments.length) same
  simp [book, modifyTransaction, SaleOrder.addPayment] at kept

/-- A failed advance payment leaves no trace exactly when no payment is created, or the created
one is posted and leaves nothing to refuse. -/
theorem attemptAdvancePayment_noTrace_iff :
    FailureLeavesNoTrace (attemptAdvancePayment odoo index) index situation order txn ↔
      PostedOnceCreated odoo index situation order txn := by
  rw [PostedOnceCreated]
  cases opens : order.opensWizard odoo index txn with
  | false =>
      refine iff_of_true (attemptAdvancePayment_of_not_open opens) ?_
      intro notDone ok _ wizard created
      rw [opensWizard, notDone, ok, created] at opens
      cases opens
  | true =>
      have open' := opens
      rw [opensWizard, Bool.and_eq_true, Bool.and_eq_true, Bool.not_eq_true'] at open'
      obtain ⟨⟨notDone, ok⟩, created⟩ := open'
      rw [forall_prop_of_true notDone, forall_prop_of_true ok]
      cases creation : situation.creation with
      | some message =>
          refine iff_of_true ?_ nofun
          have attempt : attemptAdvancePayment odoo index situation order txn =
              .ok (order.modifyTransaction index fun txn =>
                txn.mark .failed (some ("Advance payment creation failed: " ++ message)),
                  false) := by
            rw [attemptAdvancePayment, creation, opens]
            rfl
          have isOpen : InternalStatus.failed ≠ .done := nofun
          exact .of_mark attempt fun later => attemptAdvancePayment_mark notDone isOpen _ later
      | none =>
          rw [forall_prop_of_true rfl]
          cases wizard : order.sale.createWizard odoo (txn.toOrderTransaction index) with
          | error error =>
              rw [wizard] at created
              cases created
          | ok wizard' =>
              have attempt : attemptAdvancePayment odoo index situation order txn =
                  order.validateAsAdvancePayment odoo index txn situation.posting := by
                rw [attemptAdvancePayment, creation]
              rw [validateAsAdvancePayment_eq, notDone, ok, wizard] at attempt
              have only (claim : AccountVoucherWizard → Prop) :
                  (∀ wizard, Except.ok wizard' = (Except.ok wizard : Except AdvanceError _) →
                    claim wizard) ↔ claim wizard' := by
                constructor
                · exact fun all => all wizard' rfl
                · rintro holds _ ⟨⟩
                  exact holds
              rw [only]
              cases result : situation.posting with
              | posted =>
                  rw [result] at attempt
                  exact iff_of_true (.of_ne fun after failed => by
                    cases attempt.symm.trans failed) trivial
              | refused message =>
                  rw [result] at attempt
                  exact iff_of_false (not_noTrace_of_addPayment attempt) id
              | notConfirmed message =>
                  rw [result] at attempt
                  simp only [SaleOrder.makeAdvancePayment] at attempt
                  cases paid : (order.sale.addPayment wizard' true).isPaid odoo with
                  | true =>
                      rw [paid] at attempt
                      exact iff_of_false (not_noTrace_of_addPayment attempt) nofun
                  | false =>
                      rw [paid] at attempt
                      exact iff_of_true (.of_ne fun after failed => by
                        cases attempt.symm.trans failed) rfl

end

end PaidOrder

end OdooConnector.Payment
