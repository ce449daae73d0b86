import OdooConnector.Purchase.BillLines

/-!
# What a bill has of an order

The section of the down payments is put before the first line that is marked as a down payment. The
wizard marks the section above the down payments of an order too, and that section may be this line.
-/

namespace OdooConnector.Purchase

variable (odoo : Bookkeeping) (final : Bool)

/-- A down payment. A section may be marked as one too, and is none. -/
def PurchaseLine.isPrepayment (line : PurchaseLine) : Bool := line.isDownpayment && !line.isSection

/-- What the bill should have of an order: its lines to bill as the order has them, with the down
payments last, under a section. -/
def Bookkeeping.billedPart (order : PurchaseOrder) : List (Option ℕ) :=
  let billed := order.orderLine.filter fun line => line ∈ odoo.getBillableLines final order
  let downPayments := billed.filter PurchaseLine.isPrepayment
  (billed.filter fun line => !line.isPrepayment).map (fun line => some line.id) ++
    if downPayments.isEmpty then [] else none :: downPayments.map fun line => some line.id

variable {odoo final} {order : PurchaseOrder} {line : PurchaseLine}

/-! ### Billable lines of an order -/

theorem mem_downPayments :
    line ∈ odoo.downPayments final order ↔
      line ∈ order.orderLine ∧ odoo.isBillable final line ∧ line.isDownpayment := by
  rw [Bookkeeping.downPayments, List.mem_filter, Bool.and_eq_true]

theorem mem_regularLines (noSection : line.isSection = false) :
    line ∈ odoo.regularLines final none order.orderLine ↔
      line ∈ order.orderLine ∧ odoo.isRegular final line :=
  mem_regularLines_of_not_isSection noSection (by simp) order.orderLine

theorem isSection_or_isRegular
    (member : line ∈ odoo.regularLines final none order.orderLine) :
    line.isSection ∨ odoo.isRegular final line := by
  by_cases isSection : line.isSection
  · exact .inl isSection
  · exact .inr ((mem_regularLines (Bool.eq_false_iff.mpr isSection)).mp member).2

theorem isPrepayment_of_mem_downPayments (member : line ∈ odoo.downPayments final order) :
    line.isPrepayment := by
  obtain ⟨-, billable, downPayment⟩ := mem_downPayments.mp member
  rw [PurchaseLine.isPrepayment, downPayment, Bool.true_and, Bool.not_eq_true']
  by_contra isSection
  rw [not_isBillable_of_isSection (Bool.not_eq_false _ ▸ isSection)] at billable
  exact Bool.false_ne_true billable

theorem not_isPrepayment_of_mem_regularLines
    (member : line ∈ odoo.regularLines final none order.orderLine) : line.isPrepayment = false := by
  rcases isSection_or_isRegular member with isSection | regular
  · simp [PurchaseLine.isPrepayment, isSection]
  · rw [Bookkeeping.isRegular, Bool.and_eq_true, Bool.not_eq_true'] at regular
    rw [PurchaseLine.isPrepayment, regular.2, Bool.false_and]

theorem mem_getBillableLines :
    line ∈ odoo.getBillableLines final order ↔
      line ∈ odoo.regularLines final none order.orderLine ∨
        line ∈ odoo.downPayments final order := by
  rw [getBillableLines_eq, List.mem_append]

theorem isBilled_iff :
    odoo.isBilled final order ↔
      ∃ line ∈ order.orderLine, line.displayType = none ∧ odoo.isBillable final line := by
  rw [Bookkeeping.isBilled, List.any_eq_true]
  simp only [mem_getBillableLines, Option.isNone_iff_eq_none]
  constructor
  · rintro ⟨line, member, display⟩
    have noSection : line.isSection = false := by simp [PurchaseLine.isSection, display]
    rcases member with regular | downPayment
    · obtain ⟨listed, own⟩ := (mem_regularLines noSection).mp regular
      rw [Bookkeeping.isRegular, Bool.and_eq_true] at own
      exact ⟨line, listed, display, own.1⟩
    · obtain ⟨listed, billable, -⟩ := mem_downPayments.mp downPayment
      exact ⟨line, listed, display, billable⟩
  · rintro ⟨line, listed, display, billable⟩
    have noSection : line.isSection = false := by simp [PurchaseLine.isSection, display]
    refine ⟨line, ?_, display⟩
    by_cases downPayment : line.isDownpayment
    · exact .inr (mem_downPayments.mpr ⟨listed, billable, downPayment⟩)
    · refine .inl ((mem_regularLines noSection).mpr ⟨listed, ?_⟩)
      simp [Bookkeeping.isRegular, billable, downPayment]

theorem getBillableLines_subperm (order : PurchaseOrder) :
    (odoo.getBillableLines final order).Subperm order.orderLine := by
  have regular : (odoo.regularLines final none order.orderLine).Sublist
      (order.orderLine.filter fun line =>
        !(odoo.isBillable final line && line.isDownpayment)) := by
    have kept := (@regularLines_sublist odoo final none order.orderLine).filter fun line =>
      !(odoo.isBillable final line && line.isDownpayment)
    rwa [List.filter_eq_self.mpr] at kept
    intro line member
    have plain := not_isPrepayment_of_mem_regularLines member
    rw [Bool.not_eq_true', Bool.and_eq_false_iff]
    rcases isSection_or_isRegular member with isSection | own
    · exact .inl (not_isBillable_of_isSection isSection)
    · rw [PurchaseLine.isPrepayment, not_isSection_of_isRegular own, Bool.not_false,
        Bool.and_true] at plain
      exact .inr plain
  rw [getBillableLines_eq]
  have both := regular.append_right (odoo.downPayments final order)
  refine both.subperm.trans (List.perm_append_comm.trans ?_).subperm
  exact List.filter_append_perm _ order.orderLine

/-! ### What the bill should have of an order -/

theorem billedPart_eq (nodup : order.orderLine.Nodup) :
    odoo.billedPart final order =
      ((odoo.regularLines final none order.orderLine).map fun line => some line.id) ++
        if (odoo.downPayments final order).isEmpty then []
        else none :: (odoo.downPayments final order).map fun line => some line.id := by
  have sublist := @regularLines_sublist odoo final none order.orderLine
  have regular : ((order.orderLine.filter fun line =>
      line ∈ odoo.getBillableLines final order).filter fun line => !line.isPrepayment) =
      odoo.regularLines final none order.orderLine := by
    rw [List.filter_filter]
    conv_rhs => rw [← filter_eq_of_sublist sublist nodup]
    refine List.filter_congr fun line _ => ?_
    rw [Bool.eq_iff_iff]
    simp only [mem_getBillableLines, Bool.and_eq_true, Bool.not_eq_true', decide_eq_true_eq]
    constructor
    · rintro ⟨plain, own | downPayment⟩
      · exact own
      · rw [isPrepayment_of_mem_downPayments downPayment] at plain
        contradiction
    · exact fun own => ⟨not_isPrepayment_of_mem_regularLines own, .inl own⟩
  have downPayments : ((order.orderLine.filter fun line =>
      line ∈ odoo.getBillableLines final order).filter PurchaseLine.isPrepayment) =
      odoo.downPayments final order := by
    rw [List.filter_filter]
    refine List.filter_congr fun line listed => ?_
    rw [Bool.eq_iff_iff]
    simp only [mem_getBillableLines, Bool.and_eq_true, decide_eq_true_eq]
    constructor
    · rintro ⟨downPayment, own | own⟩
      · rw [not_isPrepayment_of_mem_regularLines own] at downPayment
        contradiction
      · exact (mem_downPayments.mp own).2
    · intro own
      have member := mem_downPayments.mpr ⟨listed, own⟩
      exact ⟨isPrepayment_of_mem_downPayments member, .inr member⟩
  simp only [Bookkeeping.billedPart, regular, downPayments]

/-! ### What the bill has of an order -/

theorem withSection_true (lines : List PurchaseLine) : withSection true lines = lines.map some := by
  induction lines with
  | nil => rfl
  | cons line rest induction => rw [withSection, if_neg (by simp), induction, List.map_cons]

theorem withSection_append {plain : List PurchaseLine}
    (unmarked : ∀ line ∈ plain, line.isDownpayment = false) (rest : List PurchaseLine) :
    withSection false (plain ++ rest) = plain.map some ++ withSection false rest := by
  induction plain with
  | nil => rfl
  | cons line plain induction =>
      have own := unmarked line List.mem_cons_self
      rw [List.cons_append, withSection, if_neg (by simp [own]), List.map_cons, List.cons_append,
        induction fun other member => unmarked other (List.mem_cons_of_mem _ member)]

theorem withSection_cons (marked : line.isDownpayment) (rest : List PurchaseLine) :
    withSection false (line :: rest) = none :: (line :: rest).map some := by
  rw [withSection, if_pos (by simp [marked]), withSection_true, List.map_cons]

theorem filterMap_withSection (added : Bool) (lines : List PurchaseLine) :
    (withSection added lines).filterMap id = lines := by
  induction lines generalizing added with
  | nil => rfl
  | cons line rest induction =>
      rw [withSection]
      split
      · exact congrArg (List.cons line) (induction true)
      · exact congrArg (List.cons line) (induction added)

theorem getLast?_withSection (added : Bool) (lines : List PurchaseLine) :
    (withSection added lines).getLast? ≠ some none := by
  induction lines generalizing added with
  | nil => simp [withSection]
  | cons line rest induction =>
      have later : ∀ added, (some line :: withSection added rest).getLast? ≠ some none := by
        intro added
        have last := induction added
        cases entries : withSection added rest with
        | nil => simp
        | cons first others => rwa [entries, ← List.getLast?_cons_cons] at last
      rw [withSection]
      split
      · rw [List.getLast?_cons_cons]
        exact later true
      · exact later added

theorem filterMap_addedIds (order : PurchaseOrder) :
    (odoo.addedIds final order).filterMap id =
      (odoo.getBillableLines final order).map PurchaseLine.id := by
  conv_rhs => rw [← filterMap_withSection false (odoo.getBillableLines final order)]
  rw [Bookkeeping.addedIds, List.filterMap_map, List.map_filterMap]
  rfl

theorem getLast?_addedIds (order : PurchaseOrder) :
    (odoo.addedIds final order).getLast? ≠ some none := by
  have last := getLast?_withSection false (odoo.getBillableLines final order)
  rw [Bookkeeping.addedIds, List.getLast?_map]
  intro found
  obtain ⟨entry, same, nothing⟩ := Option.map_eq_some_iff.mp found
  rw [Option.map_eq_none_iff.mp nothing] at same
  exact last same

/-- Without a marked section among its lines, the order adds what it should. -/
theorem addedIds_eq_billedPart (nodup : order.orderLine.Nodup)
    (apart : ∀ front heading back, order.orderLine = front ++ heading :: back →
      heading.isSection → heading.isDownpayment → ¬ odoo.Leads final back) :
    odoo.addedIds final order = odoo.billedPart final order := by
  have unmarked : ∀ line ∈ odoo.regularLines final none order.orderLine,
      line.isDownpayment = false := by
    intro line member
    by_cases isSection : line.isSection
    · rw [mem_regularLines_of_isSection isSection] at member
      rcases member with ⟨nothing, -⟩ | ⟨front, back, split, leads⟩
      · simp at nothing
      · by_contra marked
        exact apart front line back split isSection (Bool.not_eq_false _ ▸ marked) leads
    · have plain := not_isPrepayment_of_mem_regularLines member
      simpa [PurchaseLine.isPrepayment, isSection] using plain
  rw [billedPart_eq nodup, Bookkeeping.addedIds, getBillableLines_eq, withSection_append unmarked]
  cases downPayments : odoo.downPayments final order with
  | nil => simp [withSection]
  | cons first others =>
      have marked : first.isDownpayment := by
        have member : first ∈ odoo.downPayments final order :=
          downPayments ▸ List.mem_cons_self
        exact (mem_downPayments.mp member).2.2
      rw [withSection_cons marked]
      simp [Function.comp_def]

/-- A marked section that leads to a line puts the section of the down payments above a line that is
no down payment. -/
theorem exists_addedIds_of_leads {front back : List PurchaseLine} {heading : PurchaseLine}
    (split : order.orderLine = front ++ heading :: back) (isSection : heading.isSection)
    (marked : heading.isDownpayment) (leads : odoo.Leads final back) :
    ∃ above line below, line ∈ odoo.regularLines final none order.orderLine ∧
      odoo.addedIds final order = above ++ none :: some line.id :: below := by
  have member : heading ∈ odoo.regularLines final none order.orderLine :=
    (mem_regularLines_of_isSection isSection none _).mpr (.inr ⟨front, back, split, leads⟩)
  obtain ⟨first, found⟩ := Option.isSome_iff_exists.mp
    (List.find?_isSome.mpr ⟨heading, member, marked⟩)
  obtain ⟨own, plain, others, regular, unmarked⟩ := List.find?_eq_some_iff_append.mp found
  have kept : first ∈ odoo.regularLines final none order.orderLine := by
    rw [regular]
    exact List.mem_append_right _ List.mem_cons_self
  refine ⟨plain.map fun line => some line.id, first,
    (others ++ odoo.downPayments final order).map fun line => some line.id, kept, ?_⟩
  rw [Bookkeeping.addedIds, getBillableLines_eq, regular, List.append_assoc,
    withSection_append fun line member => by simpa using unmarked line member, List.cons_append,
    withSection_cons own]
  simp [Function.comp_def]

end OdooConnector.Purchase
