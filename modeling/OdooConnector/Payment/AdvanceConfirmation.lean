import Mathlib.Algebra.BigOperators.Group.List.Basic
import Mathlib.Data.Rat.Defs
import Mathlib.Logic.Function.Basic
import OdooConnector.Library.Calendar
import OdooConnector.Library.Fold

/-!
# Confirmation of paid orders

The advance payments of a batch of orders are computed order by order. An order that is paid makes
Odoo confirm the whole batch, and orders that are confirmed cannot be confirmed again.
-/

namespace OdooConnector.Payment

/-- A journal item of a payment's entry. -/
structure PaymentMoveLine where
  id : ℕ
  accountType : String
  parentState : String
  currencyId : Option ℕ
  companyCurrencyId : ℕ
  amountCurrency : ℚ
  balance : ℚ
  date : Option Date

/-- An order with the journal items of its payments. -/
structure AdvanceOrder where
  amountTotal : ℚ
  currencyId : ℕ
  companyId : ℕ
  paymentLines : List PaymentMoveLine

inductive AdvanceStatus
  | notPaid | paid | partlyPaid
deriving DecidableEq

structure AdvanceValues where
  paymentLineIds : List ℕ
  amountResidual : ℚ
  advancePaymentStatus : AdvanceStatus

/-- Odoo's currencies. -/
structure CurrencyTable where
  convert : Option ℕ → ℚ → ℕ → ℕ → Date → ℚ
  rounding : ℕ → ℚ
  floatCompare : ℚ → ℚ → ℚ → ℤ
  today : Date

namespace AdvanceOrder

variable (odoo : CurrencyTable) (order : AdvanceOrder)

def mls : List PaymentMoveLine :=
  order.paymentLines.filter fun line =>
    line.accountType = "asset_receivable" && line.parentState = "posted"

/-- What a journal item is worth in the currency of the order. -/
def lineAmount (line : PaymentMoveLine) : ℚ :=
  let lineCurrency := line.currencyId.getD line.companyCurrencyId
  let lineAmount := (if line.currencyId.isSome then line.amountCurrency else line.balance) * -1
  if lineCurrency ≠ order.currencyId then
    odoo.convert line.currencyId lineAmount order.currencyId order.companyId
      (line.date.getD odoo.today)
  else lineAmount

def amountResidual : ℚ := order.amountTotal - (order.mls.map (order.lineAmount odoo)).sum

/-- Something is paid, and nothing is due any more. -/
def isPaid : Bool :=
  !order.mls.isEmpty &&
    odoo.floatCompare (order.amountResidual odoo) 0 (odoo.rounding order.currencyId) ≤ 0

def advanceValues : AdvanceValues where
  paymentLineIds := order.mls.map PaymentMoveLine.id
  amountResidual := order.amountResidual odoo
  advancePaymentStatus :=
    if order.mls.isEmpty then .notPaid
    else if odoo.floatCompare (order.amountResidual odoo) 0 (odoo.rounding order.currencyId) ≤ 0
      then .paid
    else .partlyPaid

theorem advanceValues_paid_iff :
    (order.advanceValues odoo).advancePaymentStatus = .paid ↔ order.isPaid odoo = true := by
  rw [advanceValues, isPaid]
  cases order.mls.isEmpty with
  | true => simp
  | false => split <;> simp_all

end AdvanceOrder

/-- The database, and what Odoo does to confirm a recordset of orders: it confirms all of them or
raises an error, as it does where one of them is confirmed or could not be confirmed alone. -/
structure Confirmation (σ ι ε : Type) where
  order : σ → ι → AdvanceOrder
  isConfirmed : σ → ι → Bool
  actionConfirm : List ι → σ → Except ε σ
  confirms : ∀ {orders before after}, actionConfirm orders before = .ok after →
    ∀ order ∈ orders, isConfirmed after order = true
  refuses : ∀ {orders before after}, actionConfirm orders before = .ok after →
    ∀ order ∈ orders, isConfirmed before order = false
  alone : ∀ {orders before after}, actionConfirm orders before = .ok after →
    ∀ order ∈ orders, ∃ single, actionConfirm [order] before = .ok single

namespace Confirmation

variable {σ ι ε : Type} [DecidableEq ι] (odoo : CurrencyTable) (sale : Confirmation σ ι ε)

/-- The values that have been assigned, and the database. -/
abbrev Progress (σ ι : Type) := (ι → Option AdvanceValues) × σ

/-- The loop body of `_compute_advance_payment`. -/
def computeOrder (batch : List ι) (progress : Progress σ ι) (order : ι) :
    Except ε (Progress σ ι) := do
  let values := (sale.order progress.2 order).advanceValues odoo
  let written := Function.update progress.1 order (some values)
  if values.advancePaymentStatus = .paid then
    let after ← sale.actionConfirm batch progress.2
    return (written, after)
  else return (written, progress.2)

def computeAdvancePayment (batch : List ι) (state : σ) : Except ε (Progress σ ι) :=
  batch.foldlM (sale.computeOrder odoo batch) (fun _ => none, state)

/-- Residual, status and confirmation of an order after a computation that does not fail. -/
def outcome (order : ι) : Except ε (Progress σ ι) → Option (Option (ℚ × AdvanceStatus) × Bool)
  | .error _ => none
  | .ok (written, after) =>
      some ((written order).map fun values => (values.amountResidual, values.advancePaymentStatus),
        sale.isConfirmed after order)

/-- Only paid orders are confirmed, and the computation does with each order of the batch what it
does with that order alone. -/
structure ConfirmsOnlyPaid (batch : List ι) (state : σ) : Prop where
  onlyPaid : ∀ written after, sale.computeAdvancePayment odoo batch state = .ok (written, after) →
    ∀ order ∈ batch, sale.isConfirmed state order = false → sale.isConfirmed after order = true →
      (written order).map AdvanceValues.advancePaymentStatus = some .paid
  asAlone : ∀ order ∈ batch,
    sale.outcome order (sale.computeAdvancePayment odoo batch state) =
      sale.outcome order (sale.computeAdvancePayment odoo [order] state)

/-- The order is paid, by its data before the computation. -/
def isPaid (state : σ) (order : ι) : Bool := (sale.order state order).isPaid odoo

/-- There is one order at most, or none of the orders is paid, or all of them are and none can be
confirmed. -/
def ConfirmsAlike (batch : List ι) (state : σ) : Prop :=
  batch.length ≤ 1 ∨ (∀ order ∈ batch, sale.isPaid odoo state order = false) ∨
    ∀ order ∈ batch, sale.isPaid odoo state order = true ∧
      ∃ error, sale.actionConfirm [order] state = .error error

variable {odoo sale} {batch orders : List ι} {written : ι → Option AdvanceValues} {state : σ}
  {order : ι}

/-- The values of some orders, assigned in a state of the database. -/
def assign (odoo : CurrencyTable) (sale : Confirmation σ ι ε) (state : σ)
    (written : ι → Option AdvanceValues) (orders : List ι) : ι → Option AdvanceValues :=
  fun order =>
    if order ∈ orders then some ((sale.order state order).advanceValues odoo) else written order

theorem assign_nil : assign odoo sale state written [] = written := by
  funext order
  rw [assign, if_neg List.not_mem_nil]

theorem assign_update : assign odoo sale state
    (Function.update written order (some ((sale.order state order).advanceValues odoo))) orders =
      assign odoo sale state written (order :: orders) := by
  funext other
  rw [assign, assign]
  by_cases later : other ∈ orders
  · rw [if_pos later, if_pos (List.mem_cons_of_mem _ later)]
  · rw [if_neg later]
    by_cases same : other = order
    · rw [same, Function.update_self, if_pos List.mem_cons_self]
    · rw [Function.update_of_ne same, if_neg (by simp [same, later])]

theorem computeOrder_unpaid (unpaid : sale.isPaid odoo state order = false) :
    sale.computeOrder odoo batch (written, state) order = .ok (Function.update written order
      (some ((sale.order state order).advanceValues odoo)), state) := by
  have status : ((sale.order state order).advanceValues odoo).advancePaymentStatus ≠ .paid := by
    rw [Ne, AdvanceOrder.advanceValues_paid_iff, ← isPaid, unpaid]
    exact Bool.false_ne_true
  rw [computeOrder]
  exact if_neg status

theorem computeOrder_paid (paid : sale.isPaid odoo state order = true) :
    sale.computeOrder odoo batch (written, state) order =
      (sale.actionConfirm batch state).map fun after => (Function.update written order
        (some ((sale.order state order).advanceValues odoo)), after) := by
  have status : ((sale.order state order).advanceValues odoo).advancePaymentStatus = .paid :=
    (AdvanceOrder.advanceValues_paid_iff odoo _).mpr paid
  rw [computeOrder]
  dsimp only
  rw [if_pos status]
  cases sale.actionConfirm batch state <;> rfl

/-- Orders that are not paid get their values, and nothing else happens. -/
theorem loop_unpaid (unpaid : ∀ order ∈ orders, sale.isPaid odoo state order = false) :
    orders.foldlM (sale.computeOrder odoo batch) (written, state) =
      .ok (assign odoo sale state written orders, state) := by
  induction orders generalizing written with
  | nil => rw [assign_nil]; rfl
  | cons order orders induction =>
      rw [List.foldlM_cons, computeOrder_unpaid (unpaid order List.mem_cons_self)]
      refine (induction fun other member => unpaid other (List.mem_cons_of_mem _ member)).trans ?_
      rw [assign_update]

/-- Once the batch is confirmed, a loop that ends has come to no order that is paid. -/
theorem unpaid_of_loop {final : Progress σ ι}
    (confirmed : ∀ order ∈ batch, sale.isConfirmed state order = true)
    (among : ∀ order ∈ orders, order ∈ batch)
    (ends : orders.foldlM (sale.computeOrder odoo batch) (written, state) = .ok final) :
    ∀ order ∈ orders, sale.isPaid odoo state order = false := by
  induction orders generalizing written with
  | nil => exact fun _ member => absurd member List.not_mem_nil
  | cons order orders induction =>
      have member := among order List.mem_cons_self
      rw [List.foldlM_cons] at ends
      cases paid : sale.isPaid odoo state order with
      | true =>
          rw [computeOrder_paid paid] at ends
          cases again : sale.actionConfirm batch state with
          | error error =>
              rw [again] at ends
              cases ends
          | ok after =>
              have before := sale.refuses again order member
              rw [confirmed order member] at before
              cases before
      | false =>
          rw [computeOrder_unpaid paid] at ends
          intro other listed
          rcases List.mem_cons.mp listed with rfl | later
          · exact paid
          · exact induction (fun other member => among other (List.mem_cons_of_mem _ member)) ends
              other later

theorem computeAlone_unpaid (unpaid : sale.isPaid odoo state order = false) :
    sale.computeAdvancePayment odoo [order] state =
      .ok (assign odoo sale state (fun _ => none) [order], state) :=
  loop_unpaid (by simpa using unpaid)

theorem computeAlone_paid (paid : sale.isPaid odoo state order = true) :
    sale.computeAdvancePayment odoo [order] state =
      (sale.actionConfirm [order] state).map fun after =>
        (assign odoo sale state (fun _ => none) [order], after) := by
  rw [computeAdvancePayment, List.foldlM_cons, computeOrder_paid paid, ← assign_update, assign_nil]
  cases sale.actionConfirm [order] state <;> rfl

omit [DecidableEq ι] in
theorem outcome_eq_none_iff {run : Except ε (Progress σ ι)} :
    sale.outcome order run = none ↔ ∃ error, run = .error error := by
  cases run with
  | error error => exact iff_of_true rfl ⟨error, rfl⟩
  | ok final => exact iff_of_false (Option.some_ne_none _) fun ⟨_, same⟩ => nomatch same

theorem assign_of_mem (member : order ∈ orders) :
    assign odoo sale state written orders order =
      some ((sale.order state order).advanceValues odoo) :=
  if_pos member

/-- The computation of a batch up to its first paid order, which makes Odoo confirm the batch. -/
theorem compute_split {before rest : List ι} {paidOrder : ι}
    (split : batch = before ++ paidOrder :: rest)
    (unpaid : ∀ order ∈ before, sale.isPaid odoo state order = false)
    (paid : sale.isPaid odoo state paidOrder = true) :
    sale.computeAdvancePayment odoo batch state = (sale.actionConfirm batch state).bind fun after =>
      rest.foldlM (sale.computeOrder odoo batch) (Function.update
        (assign odoo sale state (fun _ => none) before) paidOrder
          (some ((sale.order state paidOrder).advanceValues odoo)), after) := by
  have loop : sale.computeAdvancePayment odoo batch state =
      (before ++ paidOrder :: rest).foldlM (sale.computeOrder odoo batch) (fun _ => none, state) :=
    congrArg (fun orders : List ι =>
      orders.foldlM (sale.computeOrder odoo batch) (fun _ => none, state)) split
  rw [loop, List.foldlM_append, loop_unpaid unpaid]
  change ((paidOrder :: rest).foldlM (sale.computeOrder odoo batch) _) = _
  rw [List.foldlM_cons, computeOrder_paid paid]
  cases sale.actionConfirm batch state <;> rfl

/-- Once the batch is confirmed, another order of it has not been treated as it is alone. -/
theorem outcome_ne_alone {after final : σ} {values : ι → Option AdvanceValues}
    (confirmed : sale.actionConfirm batch state = .ok after) (member : order ∈ batch)
    (kept : sale.isConfirmed final order = true)
    (later : sale.isPaid odoo state order = true →
      (values order).map AdvanceValues.advancePaymentStatus ≠ some .paid) :
    sale.outcome order (.ok (values, final)) ≠
      sale.outcome order (sale.computeAdvancePayment odoo [order] state) := by
  intro same
  cases paid : sale.isPaid odoo state order with
  | true =>
      obtain ⟨single, ran⟩ := sale.alone confirmed order member
      rw [computeAlone_paid paid, ran, outcome, Except.map, outcome,
        assign_of_mem List.mem_cons_self] at same
      refine later paid ?_
      have pair := (Prod.ext_iff.mp (Option.some.inj same)).1
      have status := congrArg (Option.map Prod.snd) pair
      rw [Option.map_map] at status
      refine status.trans (congrArg some ?_)
      exact (AdvanceOrder.advanceValues_paid_iff odoo _).mpr paid
  | false =>
      rw [computeAlone_unpaid paid] at same
      have unconfirmed := (Prod.ext_iff.mp (Option.some.inj same)).2
      dsimp only at unconfirmed
      rw [kept, sale.refuses confirmed order member] at unconfirmed
      cases unconfirmed

/-- A batch of several orders, one of which is paid, is not treated like its orders alone if Odoo
confirms it. -/
theorem not_asAlone_of_confirmed {before rest : List ι} {paidOrder : ι} {after : σ}
    (split : batch = before ++ paidOrder :: rest) (several : 1 < batch.length)
    (unpaid : ∀ order ∈ before, sale.isPaid odoo state order = false)
    (paid : sale.isPaid odoo state paidOrder = true)
    (confirmed : sale.actionConfirm batch state = .ok after) :
    ¬ ∀ order ∈ batch, sale.outcome order (sale.computeAdvancePayment odoo batch state) =
      sale.outcome order (sale.computeAdvancePayment odoo [order] state) := by
  intro asAlone
  have run := compute_split split unpaid paid
  rw [confirmed, Except.bind] at run
  have paidMember : paidOrder ∈ batch := split ▸ List.mem_append_right _ List.mem_cons_self
  have kept := sale.confirms confirmed
  cases ends : sale.computeAdvancePayment odoo batch state with
  | error error =>
      obtain ⟨single, ran⟩ := sale.alone confirmed paidOrder paidMember
      have nothing := asAlone paidOrder paidMember
      rw [ends, computeAlone_paid paid, ran] at nothing
      cases nothing
  | ok final =>
      rw [ends] at run asAlone
      have among : ∀ order ∈ rest, order ∈ batch := fun order member =>
        split ▸ List.mem_append_right _ (List.mem_cons_of_mem _ member)
      have rested := unpaid_of_loop kept among run.symm
      rw [loop_unpaid rested] at run
      obtain rfl := Except.ok.inj run
      cases rest with
      | cons other rest =>
          have member := among other List.mem_cons_self
          refine outcome_ne_alone confirmed member (kept other member) ?_ (asAlone other member)
          intro _ paidThen
          rw [assign_of_mem List.mem_cons_self, Option.map_some, Option.some_inj,
            AdvanceOrder.advanceValues_paid_iff] at paidThen
          have unpaidThen := rested other List.mem_cons_self
          rw [isPaid, paidThen] at unpaidThen
          cases unpaidThen
      | nil =>
          cases before with
          | nil =>
              rw [split] at several
              simp at several
          | cons other before =>
              have member : other ∈ batch := split ▸ List.mem_cons_self
              refine outcome_ne_alone confirmed member (kept other member) ?_ (asAlone other member)
              intro paidBefore
              rw [unpaid other List.mem_cons_self] at paidBefore
              cases paidBefore

/-- An order is confirmed for itself only where it is paid. -/
theorem confirmsOnlyPaid_single : sale.ConfirmsOnlyPaid odoo [order] state := by
  refine ⟨fun written after ran other member before confirmed => ?_, fun other member => ?_⟩
  · rw [List.mem_singleton] at member
    subst member
    cases paid : sale.isPaid odoo state other with
    | true =>
        rw [computeAlone_paid paid] at ran
        cases confirms : sale.actionConfirm [other] state with
        | error error =>
            rw [confirms] at ran
            cases ran
        | ok single =>
            rw [confirms] at ran
            cases ran
            rw [assign_of_mem List.mem_cons_self, Option.map_some]
            exact congrArg some ((AdvanceOrder.advanceValues_paid_iff odoo _).mpr paid)
    | false =>
        rw [computeAlone_unpaid paid] at ran
        cases ran
        rw [before] at confirmed
        cases confirmed
  · rw [List.mem_singleton.mp member]

theorem confirmsOnlyPaid_of_unpaid
    (unpaid : ∀ order ∈ batch, sale.isPaid odoo state order = false) :
    sale.ConfirmsOnlyPaid odoo batch state := by
  have run : sale.computeAdvancePayment odoo batch state =
      .ok (assign odoo sale state (fun _ => none) batch, state) := loop_unpaid unpaid
  refine ⟨fun written after ran order _ before confirmed => ?_, fun order member => ?_⟩
  · rw [run] at ran
    cases ran
    rw [before] at confirmed
    cases confirmed
  · rw [run, computeAlone_unpaid (unpaid order member), outcome, outcome, assign_of_mem member,
      assign_of_mem List.mem_cons_self]

theorem confirmsOnlyPaid_of_refused
    (refused : ∀ order ∈ batch, sale.isPaid odoo state order = true ∧
      ∃ error, sale.actionConfirm [order] state = .error error) :
    sale.ConfirmsOnlyPaid odoo batch state := by
  cases batch with
  | nil => exact confirmsOnlyPaid_of_unpaid (by simp)
  | cons first others =>
      obtain ⟨paid, error, fails⟩ := refused first List.mem_cons_self
      have run := compute_split (List.nil_append (first :: others)).symm (by simp) paid
      cases whole : sale.actionConfirm (first :: others) state with
      | ok after =>
          obtain ⟨single, ran⟩ := sale.alone whole first List.mem_cons_self
          rw [ran] at fails
          cases fails
      | error error =>
          rw [whole, Except.bind] at run
          refine ⟨fun written after ran => ?_, fun order member => ?_⟩
          · rw [run] at ran
            cases ran
          · obtain ⟨paidToo, own, refuses⟩ := refused order member
            rw [run, computeAlone_paid paidToo, refuses]
            rfl

variable (odoo sale) in
/-- Only paid orders are confirmed, each as it is alone, exactly if there is one order at most, or
none of them is paid, or all of them are and none can be confirmed. -/
theorem confirmsOnlyPaid_iff (batch : List ι) (state : σ) :
    sale.ConfirmsOnlyPaid odoo batch state ↔ sale.ConfirmsAlike odoo batch state := by
  constructor
  · rintro ⟨-, asAlone⟩
    by_cases several : batch.length ≤ 1
    · exact Or.inl several
    refine Or.inr ?_
    cases first : batch.find? (sale.isPaid odoo state) with
    | none =>
        refine Or.inl fun order member => ?_
        simpa using List.find?_eq_none.mp first order member
    | some paidOrder =>
        obtain ⟨paid, before, rest, split, unpaid⟩ := List.find?_eq_some_iff_append.mp first
        cases confirmed : sale.actionConfirm batch state with
        | ok after =>
            exact absurd asAlone (not_asAlone_of_confirmed split (by omega)
              (fun order member => by simpa using unpaid order member) paid confirmed)
        | error error =>
            have run := compute_split split (fun order member => by simpa using unpaid order member)
              paid
            rw [confirmed] at run
            refine Or.inr fun order member => ?_
            have nothing := (asAlone order member).symm.trans
              (outcome_eq_none_iff.mpr ⟨error, run⟩)
            obtain ⟨own, fails⟩ := outcome_eq_none_iff.mp nothing
            cases paidToo : sale.isPaid odoo state order with
            | false =>
                rw [computeAlone_unpaid paidToo] at fails
                cases fails
            | true =>
                rw [computeAlone_paid paidToo] at fails
                refine ⟨rfl, ?_⟩
                cases refused : sale.actionConfirm [order] state with
                | error error => exact ⟨error, rfl⟩
                | ok after =>
                    rw [refused] at fails
                    cases fails
  · rintro (single | none | all)
    · cases batch with
      | nil => exact confirmsOnlyPaid_of_unpaid (by simp)
      | cons order others =>
          have rest : others = [] := List.length_eq_zero_iff.mp (by simpa using single)
          rw [rest]
          exact confirmsOnlyPaid_single
    · exact confirmsOnlyPaid_of_unpaid none
    · exact confirmsOnlyPaid_of_refused all

/-! ## An order that is confirmed along with a paid one -/

/-- Orders of a hundred, of which the first one is paid. -/
def shopOrder (order : ℕ) : AdvanceOrder where
  amountTotal := 100
  currencyId := 1
  companyId := 1
  paymentLines :=
    if order = 1 then [⟨7, "asset_receivable", "posted", some 1, 1, -100, -100, none⟩] else []

/-- Orders are confirmed unless one of them is confirmed already. -/
def shopSale : Confirmation (List ℕ) ℕ String where
  order _ := shopOrder
  isConfirmed confirmed order := order ∈ confirmed
  actionConfirm orders confirmed :=
    if ∃ order ∈ orders, order ∈ confirmed then
      .error "Some orders are not in a state requiring confirmation."
    else .ok (orders ++ confirmed)
  confirms := by
    intro orders before after ran order member
    split at ran
    · cases ran
    · cases ran
      simp [member]
  refuses := by
    intro orders before after ran order member
    split at ran
    · cases ran
    · rename_i fresh
      simpa using fun listed => fresh ⟨order, member, listed⟩
  alone := by
    intro orders before after ran order member
    split at ran
    · cases ran
    · rename_i fresh
      refine ⟨[order] ++ before, if_neg ?_⟩
      rintro ⟨other, listed, confirmed⟩
      rw [List.mem_singleton.mp listed] at confirmed
      exact fresh ⟨order, member, confirmed⟩

def plainCurrencies : CurrencyTable where
  convert _ amount _ _ _ := amount
  rounding _ := 1 / 100
  floatCompare left right _ := if left < right then -1 else if left = right then 0 else 1
  today := ⟨2024, 1, 1, by decide⟩

/-- An order without payments is confirmed along with one that is paid. -/
theorem unpaid_order_confirmed : ¬ shopSale.ConfirmsOnlyPaid plainCurrencies [1, 2] [] := by
  rintro ⟨onlyPaid, -⟩
  have first : shopSale.isPaid plainCurrencies [] 1 = true := by decide +kernel
  have second : ∀ order ∈ [2], shopSale.isPaid plainCurrencies [1, 2] order = false := by
    decide +kernel
  have run := compute_split (List.nil_append [1, 2]).symm (by simp) first
  have rest := run.trans (loop_unpaid second)
  have paid := onlyPaid _ _ rest 2 (by decide) (by decide) (by decide)
  rw [assign_of_mem (by decide), Option.map_some, Option.some_inj,
    AdvanceOrder.advanceValues_paid_iff] at paid
  exact Bool.false_ne_true ((second 2 (by decide)).symm.trans paid)

end Confirmation

end OdooConnector.Payment
