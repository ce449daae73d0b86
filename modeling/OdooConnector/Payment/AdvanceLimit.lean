import Mathlib.Tactic.Linarith
import OdooConnector.Payment.AdvancePayment

/-!
# The limit of advance payments

Transactions of an order are validated one after another. Each registers at most its own amount,
and the payments stay within the total, exactly as long as every amount is what is still to be
paid: a smaller amount is raised to it, and a larger one is not cut.
-/

namespace OdooConnector.Payment

/-- Whether Odoo posts the payment. -/
def PostingOutcome.isPosted : PostingOutcome → Bool
  | .posted => true
  | .refused _ => false
  | .notConfirmed _ => true

namespace SaleOrder

variable (odoo : Accounting) (order : SaleOrder)

/-- Payments that a step adds. -/
def newPayments (after : SaleOrder) : List AccountPayment :=
  after.accountPayments.drop order.accountPayments.length

/-- Every transaction is in the currency of the order. -/
def SameCurrency : Prop :=
  ∀ txn ∈ order.transactions, ∀ currencyId, odoo.searchCurrency txn.currency = some currencyId →
    currencyId = order.currencyId

/-- A validated transaction registers at most its own amount, and no more than the total of the
order is paid after it. -/
structure WithinLimit (action : ℕ × PostingOutcome) : Prop where
  ownAmount : ∀ txn, order.transactions.find? (fun txn => txn.id = action.1) = some txn →
    ∀ payment ∈ order.newPayments (order.step odoo action),
      order.lineAmount odoo payment ≤ txn.floatAmount
  residual : 0 ≤ (order.step odoo action).amountResidual odoo

/-- A transaction that its validation opens the wizard for. -/
structure OpensWizard (txn : ExternalOrderTransaction) (journal : Journal) : Prop where
  notDone : txn.isDone = false
  ecommerceOk : txn.isEcommerceOk = true
  hasCurrency : txn.currency ≠ ""
  currency : (odoo.searchCurrency txn.currency).isSome
  journal : odoo.getJournal txn.gateway = .ok journal
  paymentRef : odoo.defaultPaymentRef.isSome

/-- What an amount counts for once it is paid to a journal. -/
def countedAmount (journal : Journal) (amount : ℚ) : ℚ :=
  if journal.currencyId ≠ order.currencyId then
    odoo.convert (odoo.roundAmount journal.currencyId amount) journal.currencyId order.currencyId
  else odoo.roundAmount journal.currencyId amount

/-- Where the wizard opens and takes the amount, the greater of the transaction's amount and of
what is still to be paid counts for no more than the smaller. -/
def PaysResidual (action : ℕ × PostingOutcome) : Prop :=
  ∀ txn, order.transactions.find? (fun txn => txn.id = action.1) = some txn →
    ∀ journal, OpensWizard odoo txn journal →
      0 < odoo.roundAmount journal.currencyId (max txn.floatAmount (order.amountResidual odoo)) →
      order.countedAmount odoo journal (max txn.floatAmount (order.amountResidual odoo)) ≤
          txn.floatAmount ∧
        (action.2.isPosted = true →
          order.countedAmount odoo journal (max txn.floatAmount (order.amountResidual odoo)) ≤
            order.amountResidual odoo)

variable {odoo order} {txn : ExternalOrderTransaction} {action : ℕ × PostingOutcome}

/-! ## What a validation registers -/

/-- An amount below what is still to be paid is raised to it. -/
theorem getAmount_eq (same : order.SameCurrency odoo) (listed : txn ∈ order.transactions)
    (hasCurrency : txn.currency ≠ "") (found : (odoo.searchCurrency txn.currency).isSome) :
    order.getAmount odoo txn true = .ok (max txn.floatAmount (order.amountResidual odoo)) := by
  obtain ⟨currencyId, known⟩ := Option.isSome_iff_exists.mp found
  have own := same txn listed currencyId known
  simp only [getAmount, hasCurrency, known, own, if_false, ne_eq, not_true_eq_false, Bool.true_and,
    decide_eq_true_eq, Except.ok.injEq]
  split
  case isTrue below => exact (max_eq_right below.le).symm
  case isFalse above => exact (max_eq_left (not_lt.mp above)).symm

/-- The wizard takes every positive amount. -/
theorem checkAmount_eq (wizard : AccountVoucherWizard) :
    order.checkAmount odoo false wizard =
      if wizard.amountAdvance ≤ 0 then .error (.user "Amount of advance must be positive.")
      else .ok () := by
  simp [checkAmount]

theorem createWizard_of_opens {journal : Journal} (same : order.SameCurrency odoo)
    (listed : txn ∈ order.transactions) (opens : OpensWizard odoo txn journal)
    (positive : 0 < odoo.roundAmount journal.currencyId
      (max txn.floatAmount (order.amountResidual odoo))) :
    ∃ paymentRef, order.createWizard odoo txn = .ok ⟨order.amountResidual odoo,
      odoo.roundAmount journal.currencyId (max txn.floatAmount (order.amountResidual odoo)),
      journal, paymentRef⟩ := by
  obtain ⟨paymentRef, default⟩ := Option.isSome_iff_exists.mp opens.paymentRef
  refine ⟨paymentRef, ?_⟩
  simp [createWizard, getAmount_eq same listed opens.hasCurrency opens.currency, opens.journal,
    default, checkAmount_eq, not_le.mpr positive, Except.bind, bind, pure, Except.pure]

/-- A wizard is created only for a transaction that opens it, with a positive amount. -/
theorem opens_of_createWizard {wizard : AccountVoucherWizard} (same : order.SameCurrency odoo)
    (listed : txn ∈ order.transactions) (notDone : txn.isDone = false)
    (ecommerceOk : txn.isEcommerceOk = true) (created : order.createWizard odoo txn = .ok wizard) :
    OpensWizard odoo txn wizard.journal ∧ 0 < odoo.roundAmount wizard.journal.currencyId
      (max txn.floatAmount (order.amountResidual odoo)) := by
  have hasCurrency : txn.currency ≠ "" := by
    intro empty
    simp [createWizard, getAmount, empty, bind, Except.bind] at created
  have found : (odoo.searchCurrency txn.currency).isSome := by
    cases known : odoo.searchCurrency txn.currency with
    | none => simp [createWizard, getAmount, hasCurrency, known, bind, Except.bind] at created
    | some currencyId => rfl
  rw [createWizard, getAmount_eq same listed hasCurrency found] at created
  cases journal : odoo.getJournal txn.gateway with
  | error error => simp [journal, bind, Except.bind] at created
  | ok own =>
      cases default : odoo.defaultPaymentRef with
      | none => simp [journal, default, bind, Except.bind] at created
      | some paymentRef =>
          simp only [journal, default, checkAmount_eq, bind, Except.bind, pure, Except.pure]
            at created
          split at created
          · cases created
          · rename_i positive
            split at positive
            · cases positive
            · rename_i above
              cases created
              exact ⟨⟨notDone, ecommerceOk, hasCurrency, found, journal, by simp [default]⟩,
                not_le.mp above⟩

@[simp]
theorem markTransaction_accountPayments (txnId : ℕ) (status : InternalStatus)
    (info : Option String) :
    (order.markTransaction txnId status info).accountPayments = order.accountPayments := rfl

variable (odoo order) in
/-- Posted or not, the wizard's payment is added to the order. -/
theorem makeAdvancePayment_fst (wizard : AccountVoucherWizard) (outcome : PostingOutcome) :
    (order.makeAdvancePayment odoo wizard outcome).1 =
      order.addPayment wizard outcome.isPosted := by
  cases outcome <;> rfl

/-- What a validation leaves as it is: the total, the currency and what the transactions say. -/
structure SameTerms (before after : SaleOrder) : Prop where
  amountTotal : after.amountTotal = before.amountTotal
  currencyId : after.currencyId = before.currencyId
  transactions : ∀ txn ∈ after.transactions, ∃ earlier ∈ before.transactions,
    earlier.currency = txn.currency

theorem sameTerms_markTransaction (payments : List AccountPayment) (txnId : ℕ)
    (status : InternalStatus) (info : Option String) :
    SameTerms order
      (SaleOrder.markTransaction { order with accountPayments := payments } txnId status info) := by
  refine ⟨rfl, rfl, fun txn member => ?_⟩
  obtain ⟨earlier, listed, rfl⟩ := List.mem_map.mp member
  refine ⟨earlier, listed, ?_⟩
  split <;> rfl

/-- With a wizard, a validation registers its payment and marks the transaction. -/
theorem validate_of_wizard {wizard : AccountVoucherWizard} (notDone : txn.isDone = false)
    (ecommerceOk : txn.isEcommerceOk = true) (created : order.createWizard odoo txn = .ok wizard)
    (outcome : PostingOutcome) :
    ∃ status info success, order.validateAsAdvancePayment odoo txn outcome =
      .ok ((order.addPayment wizard outcome.isPosted).markTransaction txn.id status info,
        success) := by
  rw [← makeAdvancePayment_fst odoo]
  cases result : order.makeAdvancePayment odoo wizard outcome with
  | mk paid error =>
      cases error with
      | none =>
          exact ⟨.done, none, true, by
            simp [validateAsAdvancePayment, notDone, ecommerceOk, created, result]⟩
      | some message =>
          exact ⟨.failed, some ("Advance payment creation failed: " ++ message), false, by
            simp [validateAsAdvancePayment, notDone, ecommerceOk, created, result]⟩

/-- What a validation can do to an order: it registers the payment of a wizard, or none. -/
theorem validate_cases (same : order.SameCurrency odoo) (listed : txn ∈ order.transactions)
    (outcome : PostingOutcome) :
    (∃ journal ref, OpensWizard odoo txn journal ∧
        0 < odoo.roundAmount journal.currencyId (max txn.floatAmount (order.amountResidual odoo)) ∧
        ∃ after, order.validateAsAdvancePayment odoo txn outcome = .ok after ∧
          SameTerms order after.1 ∧ after.1.accountPayments = order.accountPayments ++
            [⟨odoo.roundAmount journal.currencyId
              (max txn.floatAmount (order.amountResidual odoo)), journal.currencyId, ref,
              outcome.isPosted⟩]) ∨
      ((∀ journal, OpensWizard odoo txn journal → odoo.roundAmount journal.currencyId
          (max txn.floatAmount (order.amountResidual odoo)) ≤ 0) ∧
        ∀ after, order.validateAsAdvancePayment odoo txn outcome = .ok after →
          SameTerms order after.1 ∧ after.1.accountPayments = order.accountPayments) := by
  have marked (validated : ∃ status info success,
      order.validateAsAdvancePayment odoo txn outcome =
        .ok (order.markTransaction txn.id status info, success)) :
      ∀ after, order.validateAsAdvancePayment odoo txn outcome = .ok after →
        SameTerms order after.1 ∧ after.1.accountPayments = order.accountPayments := by
    intro after result
    obtain ⟨status, info, success, validated⟩ := validated
    cases validated.symm.trans result
    exact ⟨sameTerms_markTransaction order.accountPayments txn.id status info, rfl⟩
  cases done : txn.isDone with
  | true =>
      refine Or.inr ⟨fun journal opens => ?_, marked ?_⟩
      · simp [opens.notDone] at done
      · exact ⟨txn.internalStatus, none, true, by simp [validateAsAdvancePayment, done]⟩
  | false =>
      cases ecommerceOk : txn.isEcommerceOk with
      | false =>
          refine Or.inr ⟨fun journal opens => ?_, marked ?_⟩
          · simp [opens.ecommerceOk] at ecommerceOk
          · simp [validateAsAdvancePayment, done, ecommerceOk]
      | true =>
          cases created : order.createWizard odoo txn with
          | error error =>
              refine Or.inr ⟨fun journal opens => ?_, ?_⟩
              · by_contra positive
                obtain ⟨paymentRef, made⟩ :=
                  createWizard_of_opens same listed opens (not_le.mp positive)
                rw [made] at created
                cases created
              · cases error with
                | user message =>
                    exact marked (by simp [validateAsAdvancePayment, done, ecommerceOk, created])
                | other message => simp [validateAsAdvancePayment, done, ecommerceOk, created]
          | ok wizard =>
              obtain ⟨opens, positive⟩ :=
                opens_of_createWizard same listed done ecommerceOk created
              obtain ⟨paymentRef, made⟩ := createWizard_of_opens same listed opens positive
              have amount := congrArg AccountVoucherWizard.amountAdvance
                (Except.ok.inj (created.symm.trans made))
              obtain ⟨status, info, success, validated⟩ :=
                validate_of_wizard done ecommerceOk created outcome
              refine Or.inl ⟨wizard.journal,
                if wizard.paymentRef = "" then order.name else wizard.paymentRef,
                opens, positive, _, validated, ?_, ?_⟩
              · exact sameTerms_markTransaction _ txn.id status info
              · rw [markTransaction_accountPayments, addPayment, amount]

/-- A step validates a listed transaction, which registers a payment or leaves the payments. -/
theorem step_cases (same : order.SameCurrency odoo) (action : ℕ × PostingOutcome) :
    SameTerms order (order.step odoo action) ∧
      ((∃ txn journal ref, order.transactions.find? (fun txn => txn.id = action.1) = some txn ∧
          OpensWizard odoo txn journal ∧ 0 < odoo.roundAmount journal.currencyId
            (max txn.floatAmount (order.amountResidual odoo)) ∧
          (order.step odoo action).accountPayments = order.accountPayments ++
            [⟨odoo.roundAmount journal.currencyId
              (max txn.floatAmount (order.amountResidual odoo)), journal.currencyId, ref,
              action.2.isPosted⟩]) ∨
        ((∀ txn, order.transactions.find? (fun txn => txn.id = action.1) = some txn →
            ∀ journal, OpensWizard odoo txn journal → odoo.roundAmount journal.currencyId
              (max txn.floatAmount (order.amountResidual odoo)) ≤ 0) ∧
          (order.step odoo action).accountPayments = order.accountPayments)) := by
  have unchanged : SameTerms order order := ⟨rfl, rfl, fun txn member => ⟨txn, member, rfl⟩⟩
  cases known : order.transactions.find? (fun txn => txn.id = action.1) with
  | none => simpa [step, known] using unchanged
  | some txn =>
      cases validate_cases same (List.mem_of_find?_eq_some known) action.2 with
      | inl registers =>
          obtain ⟨journal, ref, opens, positive, after, validated, terms, payments⟩ := registers
          have result : order.step odoo action = after.1 := by simp [step, known, validated]
          rw [result]
          exact ⟨terms, Or.inl ⟨txn, journal, ref, rfl, opens, positive, payments⟩⟩
      | inr leaves =>
          obtain ⟨closed, leaves⟩ := leaves
          have closed' : ∀ other, some txn = some other → ∀ journal,
              OpensWizard odoo other journal → odoo.roundAmount journal.currencyId
                (max other.floatAmount (order.amountResidual odoo)) ≤ 0 := by
            rintro other ⟨⟩
            exact closed
          cases validated : order.validateAsAdvancePayment odoo txn action.2 with
          | error message =>
              have result : order.step odoo action = order := by simp [step, known, validated]
              rw [result]
              exact ⟨unchanged, Or.inr ⟨closed', rfl⟩⟩
          | ok after =>
              have result : order.step odoo action = after.1 := by simp [step, known, validated]
              rw [result]
              exact ⟨(leaves after validated).1, Or.inr ⟨closed', (leaves after validated).2⟩⟩

/-! ## What is still to be paid -/

theorem SameTerms.lineAmount {after : SaleOrder} (terms : SameTerms order after)
    (payment : AccountPayment) : after.lineAmount odoo payment = order.lineAmount odoo payment := by
  rw [SaleOrder.lineAmount, SaleOrder.lineAmount, terms.currencyId]

theorem SameTerms.sameCurrency {after : SaleOrder} (terms : SameTerms order after)
    (same : order.SameCurrency odoo) : after.SameCurrency odoo := by
  intro txn member currencyId known
  obtain ⟨earlier, listed, own⟩ := terms.transactions txn member
  rw [terms.currencyId]
  exact same earlier listed currencyId (own ▸ known)

theorem SameTerms.amountResidual {after : SaleOrder} (terms : SameTerms order after)
    (payments : after.accountPayments = order.accountPayments) :
    after.amountResidual odoo = order.amountResidual odoo := by
  have same : after.lineAmount odoo = order.lineAmount odoo :=
    funext fun payment => terms.lineAmount payment
  rw [SaleOrder.amountResidual, SaleOrder.amountResidual, advanceAmount, advanceAmount, payments,
    same, terms.amountTotal]

/-- A posted payment lowers what is still to be paid. -/
theorem SameTerms.amountResidual_append {after : SaleOrder} {payment : AccountPayment}
    (terms : SameTerms order after)
    (payments : after.accountPayments = order.accountPayments ++ [payment]) :
    after.amountResidual odoo = order.amountResidual odoo -
      if payment.isPosted then order.lineAmount odoo payment else 0 := by
  have same : after.lineAmount odoo = order.lineAmount odoo :=
    funext fun payment => terms.lineAmount payment
  rw [SaleOrder.amountResidual, SaleOrder.amountResidual, advanceAmount, advanceAmount, payments,
    same, terms.amountTotal, List.filter_append, List.map_append, List.sum_append]
  cases posted : payment.isPosted <;> simp [posted, sub_sub]

/-- One validation stays within the limit exactly when it pays what is still to be paid. -/
theorem paysResidual_iff (same : order.SameCurrency odoo)
    (residual : 0 ≤ order.amountResidual odoo) :
    order.PaysResidual odoo action ↔ order.WithinLimit odoo action := by
  obtain ⟨terms, registers | leaves⟩ := step_cases same action
  · obtain ⟨txn, journal, ref, known, opens, positive, payments⟩ := registers
    have added : order.newPayments (order.step odoo action) = [⟨odoo.roundAmount journal.currencyId
        (max txn.floatAmount (order.amountResidual odoo)), journal.currencyId, ref,
        action.2.isPosted⟩] := by
      rw [newPayments, payments, List.drop_left]
    have counted : order.lineAmount odoo ⟨odoo.roundAmount journal.currencyId
        (max txn.floatAmount (order.amountResidual odoo)), journal.currencyId, ref,
        action.2.isPosted⟩ = order.countedAmount odoo journal
          (max txn.floatAmount (order.amountResidual odoo)) := rfl
    have left : (order.step odoo action).amountResidual odoo = _ :=
      terms.amountResidual_append payments
    rw [counted] at left
    constructor
    · intro pays
      obtain ⟨own, limit⟩ := pays txn known journal opens positive
      constructor
      · rintro other known' payment member
        cases known.symm.trans known'
        rw [added, List.mem_singleton] at member
        rw [member, counted]
        exact own
      · rw [left]
        split
        · linarith [limit ‹_›]
        · linarith
    · intro within other known' journal' opens' _
      cases known.symm.trans known'
      cases opens.journal.symm.trans opens'.journal
      refine ⟨?_, fun posted => ?_⟩
      · rw [← counted]
        exact within.ownAmount txn known _ (by rw [added]; exact List.mem_singleton_self _)
      · have rest := within.residual
        rw [left, if_pos posted] at rest
        linarith
  · obtain ⟨closed, payments⟩ := leaves
    refine iff_of_true ?_ ⟨?_, ?_⟩
    · intro txn known journal opens positive
      exact absurd positive (not_lt.mpr (closed txn known journal opens))
    · intro txn known payment member
      rw [newPayments, payments, List.drop_length] at member
      cases member
    · rw [terms.amountResidual payments]
      exact residual

/-- Paid to a journal in the order's currency, without rounding, the amount has to be what is still
to be paid. -/
theorem paysResidual_iff_eq {journal : Journal}
    (known : order.transactions.find? (fun txn => txn.id = action.1) = some txn)
    (opens : OpensWizard odoo txn journal) (own : journal.currencyId = order.currencyId)
    (rounded : odoo.roundAmount journal.currencyId
      (max txn.floatAmount (order.amountResidual odoo)) =
        max txn.floatAmount (order.amountResidual odoo))
    (positive : 0 < txn.floatAmount) (posted : action.2.isPosted = true) :
    order.PaysResidual odoo action ↔ txn.floatAmount = order.amountResidual odoo := by
  have counted : order.countedAmount odoo journal (max txn.floatAmount (order.amountResidual odoo))
      = max txn.floatAmount (order.amountResidual odoo) := by
    rw [countedAmount, if_neg (not_not.mpr own), rounded]
  constructor
  · intro pays
    obtain ⟨amount, limit⟩ := pays txn known journal opens
      (rounded.symm ▸ lt_max_of_lt_left positive)
    rw [counted] at amount limit
    exact le_antisymm (le_of_max_le_left (limit posted)) (le_of_max_le_right amount)
  · intro whole other known' journal' opens' _
    cases known.symm.trans known'
    cases opens.journal.symm.trans opens'.journal
    rw [counted, ← whole, max_self]
    exact ⟨le_rfl, fun _ => le_rfl⟩

/-- Validations of a run all stay within the limit exactly when each pays what is still to be
paid. -/
theorem advancePayments_withinLimit_iff (odoo : Accounting) (order : SaleOrder)
    (actions : List (ℕ × PostingOutcome)) (same : order.SameCurrency odoo)
    (residual : 0 ≤ order.amountResidual odoo) :
    Along (step odoo) (WithinLimit odoo) order actions ↔
      Along (step odoo) (PaysResidual odoo) order actions := by
  have agree (order : SaleOrder) (action : ℕ × PostingOutcome)
      (holds : order.SameCurrency odoo ∧ 0 ≤ order.amountResidual odoo) :
      order.WithinLimit odoo action ↔ order.PaysResidual odoo action :=
    (paysResidual_iff holds.1 holds.2).symm
  refine along_iff agree ?_ ⟨same, residual⟩
  intro order action holds pays
  obtain ⟨terms, _⟩ := step_cases holds.1 action
  exact ⟨terms.sameCurrency holds.1, ((agree order action holds).mpr pays).residual⟩

/-! ## An order paid in two parts -/

/-- A shop with one currency, whose amounts are not rounded. -/
def euroAccounting : Accounting where
  searchCurrency _ := some 1
  convert amount _ _ := amount
  roundAmount _ amount := amount
  roundDigits amount := amount
  getJournal _ := .ok ⟨1, 1⟩
  defaultPaymentRef := some ""

/-- A successful transaction in the currency of the shop. -/
def successful (id : ℕ) (amount : ℚ) : ExternalOrderTransaction :=
  ⟨id, amount, "EUR", "shopify_payments", "success", .draft, none⟩

def orderOf (amounts : List (ℕ × ℚ)) : SaleOrder :=
  ⟨"S00001", 100, 1, [], amounts.map fun amount => successful amount.1 amount.2⟩

/-- A transaction over the whole order stays within the limit. -/
theorem advancePayments_withinLimit_whole :
    Along (step euroAccounting) (WithinLimit euroAccounting) (orderOf [(7, 100)])
      [(7, .posted)] := by
  refine (advancePayments_withinLimit_iff euroAccounting (orderOf [(7, 100)]) [(7, .posted)]
    (fun _ _ _ known => (Option.some.inj known).symm) ?_).mpr ⟨?_, trivial⟩
  · norm_num [amountResidual, advanceAmount, orderOf]
  · intro txn known journal opens _
    cases known
    cases opens.journal
    norm_num [countedAmount, euroAccounting, orderOf, successful, amountResidual, advanceAmount]

/-- Of 100, a first transaction over 30 registers 100, and a second one over 70 registers 70. -/
theorem advancePayments_parts_not_withinLimit :
    ¬ ∀ (odoo : Accounting) (order : SaleOrder) (actions : List (ℕ × PostingOutcome)),
      order.SameCurrency odoo → (∀ txn ∈ order.transactions, 0 < txn.floatAmount) →
      0 ≤ order.amountResidual odoo →
        Along (step odoo) (WithinLimit odoo) order actions ∧
          0 ≤ (runSteps (step odoo) order actions).amountResidual odoo := by
  intro limited
  obtain ⟨-, residual⟩ := limited euroAccounting (orderOf [(7, 30), (8, 70)])
    [(7, .posted), (8, .posted)] (fun _ _ _ known => (Option.some.inj known).symm)
    (by norm_num [orderOf, successful]) (by norm_num [amountResidual, advanceAmount, orderOf])
  have overpaid : (runSteps (step euroAccounting) (orderOf [(7, 30), (8, 70)])
      [(7, .posted), (8, .posted)]).amountResidual euroAccounting < 0 := by decide +kernel
  exact absurd residual (not_le.mpr overpaid)

end SaleOrder

end OdooConnector.Payment
