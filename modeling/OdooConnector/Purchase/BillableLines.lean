import OdooConnector.Library.Parts
import OdooConnector.Purchase.AdvanceBill

/-!
# Billable lines

A section waits for the first regular line behind it, and the next section takes its place. Down
payments go behind all other lines.
-/

namespace OdooConnector.Purchase

variable (odoo : Bookkeeping) (final : Bool)

/-! ### Lines of an order -/

def PurchaseLine.isSection (line : PurchaseLine) : Bool := line.displayType = some .lineSection

/-- A line that is billed by itself, and not because of another one. -/
def Bookkeeping.isBillable (line : PurchaseLine) : Bool :=
  match line.displayType with
  | some .lineSection => false
  | some .lineNote => true
  | none =>
      !odoo.floatIsZero line.qtyToInvoice &&
        (0 < line.qtyToInvoice || (line.qtyToInvoice < 0 && final))

def Bookkeeping.isRegular (line : PurchaseLine) : Bool :=
  odoo.isBillable final line && !line.isDownpayment

/-- Down payments that are billed. -/
def Bookkeeping.downPayments (order : PurchaseOrder) : List PurchaseLine :=
  order.orderLine.filter fun line => odoo.isBillable final line && line.isDownpayment

/-- The other lines, where a section is waiting. -/
def Bookkeeping.regularLines (pending : Option PurchaseLine) :
    List PurchaseLine → List PurchaseLine
  | [] => []
  | line :: rest =>
      if line.isSection then regularLines (some line) rest
      else if odoo.isRegular final line then
        pending.toList ++ line :: regularLines none rest
      else regularLines pending rest

/-- A regular line comes before the next section. -/
def Bookkeeping.Leads (rest : List PurchaseLine) : Prop :=
  ∃ line ∈ rest.takeWhile fun line => !line.isSection, odoo.isRegular final line

variable {odoo final} {line : PurchaseLine} {rest : List PurchaseLine}

theorem not_isBillable_of_isSection (isSection : line.isSection) :
    odoo.isBillable final line = false := by
  have display := of_decide_eq_true isSection
  rw [Bookkeeping.isBillable, display]

theorem not_isSection_of_isRegular (regular : odoo.isRegular final line) :
    line.isSection = false := by
  rw [Bookkeeping.isRegular, Bool.and_eq_true] at regular
  by_contra other
  rw [Bool.not_eq_false] at other
  rw [not_isBillable_of_isSection other] at regular
  exact Bool.false_ne_true regular.1

theorem leads_cons_of_isSection (isSection : line.isSection) :
    ¬ odoo.Leads final (line :: rest) := by
  rintro ⟨other, member, -⟩
  rw [List.takeWhile_cons_of_neg (by simp [isSection])] at member
  exact List.not_mem_nil member

theorem leads_cons_of_isRegular (regular : odoo.isRegular final line) :
    odoo.Leads final (line :: rest) := by
  refine ⟨line, ?_, regular⟩
  rw [List.takeWhile_cons_of_pos (by simp [not_isSection_of_isRegular regular])]
  exact List.mem_cons_self

theorem leads_cons_of_not (noSection : line.isSection = false)
    (irregular : ¬ odoo.isRegular final line) :
    odoo.Leads final (line :: rest) ↔ odoo.Leads final rest := by
  rw [Bookkeeping.Leads, List.takeWhile_cons_of_pos (by simp [noSection])]
  constructor
  · rintro ⟨other, member, regular⟩
    rcases List.mem_cons.mp member with rfl | later
    · exact absurd regular irregular
    · exact ⟨other, later, regular⟩
  · intro leads
    obtain ⟨other, member, regular⟩ := leads
    exact ⟨other, List.mem_cons_of_mem _ member, regular⟩

/-! ### The loop over the lines -/

theorem billableStep_eq (lines : BillableLines) (line : PurchaseLine) :
    odoo.billableStep final lines line =
      if line.isSection then { lines with pendingSection := some line }
      else if odoo.isBillable final line then
        if line.isDownpayment then
          { lines with downPaymentLineIds := lines.downPaymentLineIds ++ [line] }
        else
          { lines with
            pendingSection := none
            billableLineIds := lines.billableLineIds ++ lines.pendingSection.toList ++ [line] }
      else lines := by
  rw [Bookkeeping.billableStep, PurchaseLine.isSection, Bookkeeping.isBillable]
  cases display : line.displayType with
  | none =>
      cases zero : odoo.floatIsZero line.qtyToInvoice with
      | true => simp
      | false => simp
  | some type =>
      cases type with
      | lineSection => simp
      | lineNote => simp

/-- The loop gathers the regular lines with their sections, and the down payments. -/
theorem foldl_billableStep (lines : BillableLines) (rest : List PurchaseLine) :
    (rest.foldl (odoo.billableStep final) lines).billableLineIds =
        lines.billableLineIds ++ odoo.regularLines final lines.pendingSection rest ∧
      (rest.foldl (odoo.billableStep final) lines).downPaymentLineIds =
        lines.downPaymentLineIds ++
          rest.filter fun line => odoo.isBillable final line && line.isDownpayment := by
  induction rest generalizing lines with
  | nil => simp [Bookkeeping.regularLines]
  | cons line rest induction =>
      rw [List.foldl_cons, (induction _).1, (induction _).2, billableStep_eq,
        Bookkeeping.regularLines]
      by_cases isSection : line.isSection
      · simp [isSection, not_isBillable_of_isSection isSection]
      · by_cases billable : odoo.isBillable final line
        · by_cases downPayment : line.isDownpayment
          · simp [isSection, billable, downPayment, Bookkeeping.isRegular]
          · simp [isSection, billable, downPayment, Bookkeeping.isRegular]
        · simp [isSection, billable, Bookkeeping.isRegular]

theorem getBillableLines_eq (order : PurchaseOrder) :
    odoo.getBillableLines final order =
      odoo.regularLines final none order.orderLine ++ odoo.downPayments final order := by
  rw [Bookkeeping.getBillableLines, (foldl_billableStep _ _).1, (foldl_billableStep _ _).2]
  rfl

/-! ### Regular lines and their sections -/

theorem regularLines_sublist (pending : Option PurchaseLine) (lines : List PurchaseLine) :
    (odoo.regularLines final pending lines).Sublist (pending.toList ++ lines) := by
  induction lines generalizing pending with
  | nil => exact List.nil_sublist _
  | cons line rest induction =>
      rw [Bookkeeping.regularLines]
      split
      · have kept := induction (some line)
        exact kept.trans (List.sublist_append_right pending.toList _)
      · split
        · exact ((induction none).cons_cons line).append_left pending.toList
        · exact (induction pending).trans ((List.sublist_cons_self line rest).append_left _)

/-- The regular lines of an order are its regular lines and the sections that lead to one. -/
theorem mem_regularLines_of_not_isSection (noSection : line.isSection = false)
    {pending : Option PurchaseLine} (waiting : ∀ other ∈ pending, other.isSection)
    (lines : List PurchaseLine) :
    line ∈ odoo.regularLines final pending lines ↔ line ∈ lines ∧ odoo.isRegular final line := by
  induction lines generalizing pending with
  | nil => simp [Bookkeeping.regularLines]
  | cons head rest induction =>
      rw [Bookkeeping.regularLines]
      by_cases isSection : head.isSection
      · have other : line ≠ head := fun same => by simp [same, isSection] at noSection
        have kept := @induction (some head) fun other member =>
          Option.mem_some.mp member ▸ isSection
        simp [isSection, kept, other]
      · by_cases regular : odoo.isRegular final head
        · have absent : line ∉ pending.toList := fun member => by
            have isSection := waiting line (Option.mem_toList.mp member)
            exact Bool.false_ne_true (noSection.symm.trans isSection)
          have kept := @induction none fun other member => by simp at member
          simp only [isSection, regular, if_true, Bool.false_eq_true, if_false, List.mem_append,
            absent, false_or, List.mem_cons, kept]
          refine ⟨?_, fun both => both.1.imp_right fun later => ⟨later, both.2⟩⟩
          rintro (rfl | ⟨later, own⟩)
          · exact ⟨.inl rfl, regular⟩
          · exact ⟨.inr later, own⟩
        · simp only [isSection, regular, Bool.false_eq_true, if_false, induction waiting,
            List.mem_cons]
          refine ⟨fun both => ⟨.inr both.1, both.2⟩, ?_⟩
          rintro ⟨rfl | later, own⟩
          · exact absurd own regular
          · exact ⟨later, own⟩

/-- A section is billed where it leads to a regular line. -/
theorem mem_regularLines_of_isSection {heading : PurchaseLine} (isSection : heading.isSection)
    (pending : Option PurchaseLine) (lines : List PurchaseLine) :
    heading ∈ odoo.regularLines final pending lines ↔
      (heading ∈ pending ∧ odoo.Leads final lines) ∨
        ∃ front back, lines = front ++ heading :: back ∧ odoo.Leads final back := by
  induction lines generalizing pending with
  | nil => simp [Bookkeeping.regularLines, Bookkeeping.Leads]
  | cons head rest induction =>
      rw [Bookkeeping.regularLines, exists_split_cons]
      by_cases other : head.isSection
      · rw [if_pos other, induction (some head), Option.mem_some]
        simp only [leads_cons_of_isSection other, and_false, false_or]
      · have different : head ≠ heading := fun same => other (same ▸ isSection)
        rw [if_neg other]
        by_cases regular : odoo.isRegular final head
        · rw [if_pos regular, List.mem_append, List.mem_cons, induction none, Option.mem_toList]
          simp [leads_cons_of_isRegular regular, different, Ne.symm different]
        · rw [if_neg regular, induction pending,
            leads_cons_of_not (Bool.eq_false_iff.mpr other) regular]
          simp [different]

end OdooConnector.Purchase
