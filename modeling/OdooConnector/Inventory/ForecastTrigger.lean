import Mathlib.Algebra.BigOperators.Group.List.Basic
import Mathlib.Tactic.Linarith
import OdooConnector.Inventory.BomParents
import OdooConnector.Inventory.Reservation
import OdooConnector.Library.Run

/-!
# Export of a changed forecast

The forecasted quantity of a product is its stock on hand with what comes in and without what goes
out. A change of it is exported by a trigger on quants and by one on moves, which leaves some
changes to the other.
-/

namespace OdooConnector.Inventory

/-- Quantity that an integration synchronises. -/
inductive QtyField where
  | freeQty
  | qtyAvailable
  | virtualAvailable
deriving DecidableEq

structure SaleIntegration where
  id : ℕ
  active : Bool
  exportInventoryJobEnabled : Bool
  synchroniseQtyField : QtyField
  companyId : ℕ
deriving DecidableEq

/-- Kind of operation that a move belongs to. -/
inductive PickingCode where
  | incoming
  | outgoing
  | internal
  | manufacturing
deriving DecidableEq

structure Move (ι : Type) where
  id : ℕ
  productId : ι
  productUomQty : ℚ
  state : MoveState
  locationId : ℕ
  locationDestId : ℕ
  pickingTypeCode : Option PickingCode

structure Quant (ι : Type) where
  id : ℕ
  productId : ι
  lotId : Option ℕ
  locationId : ℕ
  quantity : ℚ
  reservedQuantity : ℚ

structure Stock (ι : Type) where
  moves : List (Move ι)
  quants : List (Quant ι)

/-- Values written to moves, as far as they affect the forecast. -/
structure MoveVals where
  productUomQty : Option ℚ
  state : Option MoveState
  locationId : Option ℕ
  locationDestId : Option ℕ

/-- Values written to quants, as far as they are tracked. -/
structure QuantVals where
  lotId : Option (Option ℕ)
  quantity : Option ℚ
  reservedQuantity : Option ℚ
  locationId : Option ℕ

inductive QuantOperation (ι : Type) where
  | create (quants : List (Quant ι))
  | write (ids : List ℕ) (vals : QuantVals)
  | unlink (ids : List ℕ)

/-- An operation, with what Odoo does to quants in the course of it. -/
inductive Action (ι : Type) where
  | createMoves (moves : List (Move ι)) (quants : List (QuantOperation ι))
  | writeMoves (ids : List ℕ) (vals : MoveVals) (quants : List (QuantOperation ι))
  | quant (operation : QuantOperation ι)

/-- Context keys that the triggers look at. -/
structure ExportContext where
  skipInventoryExport : Bool
  fromVentor : Bool
  buttonValidatePickingIds : Bool

structure Operation (ι : Type) where
  context : ExportContext
  action : Action ι

/-- `VIRTUAL_AVAILABLE_STATES`. -/
def MoveState.isActive : MoveState → Bool
  | .waiting | .confirmed | .partiallyAvailable | .assigned => true
  | .draft | .done | .cancel => false

namespace MoveVals

/-- A field of `VIRTUAL_AVAILABLE_AFFECTING_FIELDS` is written. -/
def affects (vals : MoveVals) : Bool :=
  vals.productUomQty.isSome || vals.state.isSome || vals.locationId.isSome ||
    vals.locationDestId.isSome

/-- A move with the values written to it. -/
def apply {ι : Type} (vals : MoveVals) (move : Move ι) : Move ι :=
  { move with
    productUomQty := vals.productUomQty.getD move.productUomQty
    state := vals.state.getD move.state
    locationId := vals.locationId.getD move.locationId
    locationDestId := vals.locationDestId.getD move.locationDestId }

end MoveVals

namespace QuantVals

/-- A field of `TRACKABLE_FIELDS` is written. -/
def tracked (vals : QuantVals) : Bool :=
  vals.lotId.isSome || vals.quantity.isSome || vals.reservedQuantity.isSome ||
    vals.locationId.isSome

/-- A quant with the values written to it. -/
def apply {ι : Type} (vals : QuantVals) (quant : Quant ι) : Quant ι :=
  { quant with
    lotId := vals.lotId.getD quant.lotId
    quantity := vals.quantity.getD quant.quantity
    reservedQuantity := vals.reservedQuantity.getD quant.reservedQuantity
    locationId := vals.locationId.getD quant.locationId }

end QuantVals

section Forecast

variable {ι : Type} [DecidableEq ι] (internal : ℕ → Bool)

/-- What a move adds to the forecast of a product: active moves into the stock and out of it count,
and moves within it or outside of it do not. -/
def Move.expected (product : ι) (move : Move ι) : ℚ :=
  if move.productId = product ∧ move.state.isActive then
    if !internal move.locationId && internal move.locationDestId then move.productUomQty
    else if internal move.locationId && !internal move.locationDestId then -move.productUomQty
    else 0
  else 0

/-- What a quant adds to the stock on hand of a product. -/
def Quant.onHand (product : ι) (quant : Quant ι) : ℚ :=
  if quant.productId = product ∧ internal quant.locationId then quant.quantity else 0

/-- Forecasted quantity: on hand, with incoming and without outgoing moves. -/
def Stock.virtualAvailable (stock : Stock ι) (product : ι) : ℚ :=
  (stock.quants.map (Quant.onHand internal product)).sum +
    (stock.moves.map (Move.expected internal product)).sum

end Forecast

section Effects

variable {ι : Type}

/-- Quants after an operation on them. -/
def QuantOperation.run (quants : List (Quant ι)) : QuantOperation ι → List (Quant ι)
  | .create new => quants ++ new
  | .write ids vals =>
      quants.map fun quant => if ids.contains quant.id then vals.apply quant else quant
  | .unlink ids => quants.filter fun quant => !ids.contains quant.id

/-- Products whose quants an operation creates, deletes or writes a tracked field of. -/
def QuantOperation.touched (quants : List (Quant ι)) : QuantOperation ι → List ι
  | .create new => new.map Quant.productId
  | .write ids vals =>
      if vals.tracked then
        (quants.filter fun quant => ids.contains quant.id).map Quant.productId
      else []
  | .unlink ids => (quants.filter fun quant => ids.contains quant.id).map Quant.productId

/-- Quants after some operations. -/
def runQuants (quants : List (Quant ι)) (operations : List (QuantOperation ι)) : List (Quant ι) :=
  operations.foldl QuantOperation.run quants

/-- Products whose quants are touched by some operations, one after the other. -/
def touchedAll : List (Quant ι) → List (QuantOperation ι) → List ι
  | _, [] => []
  | quants, operation :: operations =>
      operation.touched quants ++ touchedAll (operation.run quants) operations

/-- Moves after values are written to some of them. -/
def writtenMoves (moves : List (Move ι)) (ids : List ℕ) (vals : MoveVals) : List (Move ι) :=
  moves.map fun move => if ids.contains move.id then vals.apply move else move

/-- Stock after an operation. -/
def Stock.step (stock : Stock ι) (operation : Operation ι) : Stock ι :=
  match operation.action with
  | .createMoves moves quants => ⟨stock.moves ++ moves, runQuants stock.quants quants⟩
  | .writeMoves ids vals quants =>
      ⟨writtenMoves stock.moves ids vals, runQuants stock.quants quants⟩
  | .quant quantOperation => ⟨stock.moves, quantOperation.run stock.quants⟩

end Effects

/-- What the exports depend on, besides the stock. -/
structure ExportSettings (ι τ : Type) where
  catalog : Catalog ι τ
  integrations : List SaleIntegration

namespace ExportSettings

variable {ι τ : Type} [DecidableEq ι] (settings : ExportSettings ι τ)

/-- `get_integrations('export_inventory')`. -/
def getIntegrations : List SaleIntegration :=
  settings.integrations.filter fun integration =>
    integration.active && integration.exportInventoryJobEnabled

/-- Those that synchronise the forecast. -/
def forecastIntegrations : List SaleIntegration :=
  settings.getIntegrations.filter fun integration =>
    integration.synchroniseQtyField = .virtualAvailable

/-- Templates to export for a product: its own and those that use it. -/
def templates (product : ι) : List τ :=
  (settings.catalog.productTmplId product ::
    settings.catalog.getBomParentTemplatesRecursively product).filter
      settings.catalog.integrationShouldExportInventory

/-- An integration takes a template: one of the template's company, or any without a company. -/
def relevant (template : τ) (integration : SaleIntegration) : Bool :=
  match settings.catalog.companyId template with
  | some company => integration.companyId = company
  | none => true

/-- Calls of `_export_inventory_on_template` for products and integrations. -/
def exportsOf (integrations : List SaleIntegration) (products : List ι) :
    List (τ × SaleIntegration) :=
  (products.flatMap settings.templates).flatMap fun template =>
    (integrations.filter (settings.relevant template)).map fun integration =>
      (template, integration)

/-- `StockMove._export_virtual_available`. -/
def exportVirtualAvailable (moves : List (Move ι)) : List (τ × SaleIntegration) :=
  settings.exportsOf settings.forecastIntegrations (moves.map Move.productId)

/-- `StockQuant.trigger_export`. -/
def triggerExport (skipInventoryExport : Bool) (products : List ι) : List (τ × SaleIntegration) :=
  if skipInventoryExport then [] else settings.exportsOf settings.getIntegrations products

/-- Exports triggered by `create`, `write` and `unlink` of `StockQuant`. -/
def quantExports (context : ExportContext) (quants : List (Quant ι))
    (operation : QuantOperation ι) : List (τ × SaleIntegration) :=
  let trigger := settings.triggerExport context.skipInventoryExport (operation.touched quants)
  match operation with
  | .create new =>
      if context.fromVentor then [] else settings.triggerExport false (new.map Quant.productId)
  | .write _ _ =>
      if context.fromVentor then
        if context.buttonValidatePickingIds then trigger ++ trigger else trigger
      else trigger
  | .unlink _ => trigger

/-- Exports triggered by operations on quants, one after the other. -/
def quantExportsAll (context : ExportContext) :
    List (Quant ι) → List (QuantOperation ι) → List (τ × SaleIntegration)
  | _, [] => []
  | quants, operation :: operations =>
      settings.quantExports context quants operation ++
        quantExportsAll context (operation.run quants) operations

/-- Moves that `StockMove.write` exports, from the moves before and after it. -/
def movesToExport (moves : List (Move ι)) (ids : List ℕ) (vals : MoveVals) : List (Move ι) :=
  let before := moves.filter fun move => ids.contains move.id
  let after := before.map vals.apply
  match vals.state with
  | some .cancel =>
      before.filter fun move => move.state.isActive && move.pickingTypeCode = some .incoming
  | some state => if state.isActive then after.filter fun move => move.state.isActive else []
  | none => after.filter fun move => move.state.isActive

/-- Exports triggered by `StockMove.write` itself. -/
def moveWriteExports (moves : List (Move ι)) (ids : List ℕ) (vals : MoveVals) :
    List (τ × SaleIntegration) :=
  if !vals.affects then []
  else if settings.forecastIntegrations.isEmpty then []
  else settings.exportVirtualAvailable (movesToExport moves ids vals)

/-- Exports triggered by an operation. -/
def exports (stock : Stock ι) (operation : Operation ι) : List (τ × SaleIntegration) :=
  match operation.action with
  | .createMoves moves quants =>
      settings.exportVirtualAvailable (moves.filter fun move => move.state.isActive) ++
        settings.quantExportsAll operation.context stock.quants quants
  | .writeMoves ids vals quants =>
      settings.moveWriteExports stock.moves ids vals ++
        settings.quantExportsAll operation.context stock.quants quants
  | .quant quantOperation =>
      settings.quantExports operation.context stock.quants quantOperation

end ExportSettings

/-- An operation that is not meant to be reported. -/
def Operation.excepted {ι : Type} (operation : Operation ι) : Bool :=
  operation.context.skipInventoryExport || operation.context.fromVentor

section Reported

variable {ι τ : Type} [DecidableEq ι] (internal : ℕ → Bool) (settings : ExportSettings ι τ)

/-- An integration that synchronises the forecast has to hear of a template when the forecast of a
product changes: the template is the product's or uses it at any depth, and is to be exported. -/
structure Due (product : ι) (template : τ) (integration : SaleIntegration) : Prop where
  concerns : template = settings.catalog.productTmplId product ∨
    settings.catalog.Uses product template
  exported : settings.catalog.integrationShouldExportInventory template = true
  known : integration ∈ settings.integrations
  active : integration.active = true
  enabled : integration.exportInventoryJobEnabled = true
  synchronises : integration.synchroniseQtyField = .virtualAvailable
  company : ∀ company, settings.catalog.companyId template = some company →
    integration.companyId = company

/-- A changed forecast is exported. -/
def Reported (stock : Stock ι) (operation : Operation ι) : Prop :=
  operation.excepted = false → ∀ product,
    (stock.step operation).virtualAvailable internal product ≠
        stock.virtualAvailable internal product →
      ∀ template integration, Due settings product template integration →
        (template, integration) ∈ settings.exports stock operation

/-- What the moves that a write takes out of the active states added to the forecast. -/
def droppedQty (moves : List (Move ι)) (ids : List ℕ) (product : ι) : ℚ :=
  ((moves.filter fun move => ids.contains move.id).map (Move.expected internal product)).sum

/-- Products that a write to an inactive state reports: those with a touched quant and, where moves
are cancelled, those with an active move of a receipt. -/
def reportedProducts (stock : Stock ι) (ids : List ℕ) (state : MoveState)
    (quants : List (QuantOperation ι)) : List ι :=
  touchedAll stock.quants quants ++
    if state = .cancel then
      ((stock.moves.filter fun move => ids.contains move.id).filter fun move =>
        move.state.isActive && move.pickingTypeCode = some .incoming).map Move.productId
    else []

/-- The operation does not move active moves to draft, done or cancel, or what these moves added to
the forecast of each product is nothing, or each template that should hear of it hears of a product
of which a quant is touched or, in a cancellation, an active receipt move is cancelled. -/
def Heard (stock : Stock ι) (operation : Operation ι) : Prop :=
  operation.excepted = true ∨
    match operation.action with
    | .writeMoves ids ⟨_, some state, _, _⟩ quants =>
        state.isActive = true ∨ ∀ product, droppedQty internal stock.moves ids product ≠ 0 →
          ∀ template integration, Due settings product template integration →
            ∃ other ∈ reportedProducts stock ids state quants,
              template = settings.catalog.productTmplId other ∨
                settings.catalog.Uses other template
    | _ => True

end Reported

namespace ExportSettings

variable {ι τ : Type} [DecidableEq ι] (settings : ExportSettings ι τ)

theorem mem_exportsOf {integrations : List SaleIntegration} {products : List ι} {template : τ}
    {integration : SaleIntegration} :
    (template, integration) ∈ settings.exportsOf integrations products ↔
      (∃ product ∈ products, template ∈ settings.templates product) ∧
        integration ∈ integrations ∧ settings.relevant template integration = true := by
  simp only [exportsOf, List.mem_flatMap, List.mem_map, List.mem_filter, Prod.mk.injEq]
  constructor
  · rintro ⟨_, listed, _, taken, rfl, rfl⟩
    exact ⟨listed, taken⟩
  · rintro ⟨listed, taken⟩
    exact ⟨template, listed, integration, taken, rfl, rfl⟩

theorem mem_templates {product : ι} {template : τ} :
    template ∈ settings.templates product ↔
      (template = settings.catalog.productTmplId product ∨ settings.catalog.Uses product template) ∧
        settings.catalog.integrationShouldExportInventory template = true := by
  rw [templates, List.mem_filter, List.mem_cons,
    settings.catalog.mem_getBomParentTemplatesRecursively]

omit [DecidableEq ι] in
theorem relevant_iff {template : τ} {integration : SaleIntegration} :
    settings.relevant template integration = true ↔
      ∀ company, settings.catalog.companyId template = some company →
        integration.companyId = company := by
  rw [relevant]
  cases settings.catalog.companyId template with
  | none => simp
  | some company => simp

variable {settings}

/-- What is due is exported for an integration that synchronises the forecast exactly when the
template is among those of an exported product. -/
theorem due_exports_iff {product : ι} {template : τ} {integration : SaleIntegration}
    (due : Due settings product template integration) (products : List ι) :
    ((template, integration) ∈ settings.exportsOf settings.getIntegrations products ↔
      ∃ other ∈ products, template = settings.catalog.productTmplId other ∨
        settings.catalog.Uses other template) ∧
    ((template, integration) ∈ settings.exportsOf settings.forecastIntegrations products ↔
      ∃ other ∈ products, template = settings.catalog.productTmplId other ∨
        settings.catalog.Uses other template) := by
  have taken := settings.relevant_iff.mpr due.company
  have found : integration ∈ settings.getIntegrations :=
    List.mem_filter.mpr ⟨due.known, by rw [due.active, due.enabled]; rfl⟩
  have synchronises : integration ∈ settings.forecastIntegrations :=
    List.mem_filter.mpr ⟨found, by simpa using due.synchronises⟩
  rw [mem_exportsOf, mem_exportsOf]
  simp only [found, synchronises, taken, and_self, and_true, mem_templates, due.exported]

/-- Outside of the excepted contexts, operations on quants export the products they touch. -/
theorem quantExportsAll_eq {context : ExportContext} (shown : context.skipInventoryExport = false)
    (regular : context.fromVentor = false) (quants : List (Quant ι))
    (operations : List (QuantOperation ι)) :
    settings.quantExportsAll context quants operations =
      settings.exportsOf settings.getIntegrations (touchedAll quants operations) := by
  induction operations generalizing quants with
  | nil => rfl
  | cons operation operations induction =>
      have here : settings.quantExports context quants operation =
          settings.exportsOf settings.getIntegrations (operation.touched quants) := by
        cases operation <;> simp [quantExports, triggerExport, shown, regular,
          QuantOperation.touched]
      rw [quantExportsAll, touchedAll, induction, here]
      simp [exportsOf, List.flatMap_append]

end ExportSettings

section Sums

variable {ι : Type} [DecidableEq ι] {internal : ℕ → Bool} {product : ι}

theorem Quant.onHand_of_ne {quant : Quant ι} (other : quant.productId ≠ product) :
    quant.onHand internal product = 0 := if_neg fun both => other both.1

theorem Move.expected_of_ne {move : Move ι} (other : move.productId ≠ product) :
    move.expected internal product = 0 := if_neg fun both => other both.1

theorem Move.expected_of_inactive {move : Move ι} (inactive : move.state.isActive = false) :
    move.expected internal product = 0 :=
  if_neg fun both => Bool.false_ne_true (inactive ▸ both.2)

omit [DecidableEq ι] in
theorem sum_filter_of_zero {α : Type} (value : α → ℚ) (keep : α → Bool) (list : List α)
    (zero : ∀ item ∈ list, keep item = false → value item = 0) :
    ((list.filter keep).map value).sum = (list.map value).sum := by
  induction list with
  | nil => rfl
  | cons item list induction =>
      have rest := induction fun other member => zero other (List.mem_cons_of_mem _ member)
      cases kept : keep item with
      | true => simp [kept, rest]
      | false => simp [kept, rest, zero item List.mem_cons_self kept]

/-- Quants of a product that is not touched keep what is on hand of it. -/
theorem onHand_run (quants : List (Quant ι)) (operation : QuantOperation ι)
    (untouched : product ∉ operation.touched quants) :
    ((operation.run quants).map (Quant.onHand internal product)).sum =
      (quants.map (Quant.onHand internal product)).sum := by
  cases operation with
  | create new =>
      have nothing : (new.map (Quant.onHand internal product)).sum = 0 := by
        refine List.sum_eq_zero fun value member => ?_
        obtain ⟨quant, created, rfl⟩ := List.mem_map.mp member
        refine Quant.onHand_of_ne fun same => untouched ?_
        exact same ▸ List.mem_map_of_mem created
      rw [QuantOperation.run, List.map_append, List.sum_append, nothing, add_zero]
  | write ids vals =>
      rw [QuantOperation.run, List.map_map]
      refine congrArg List.sum (List.map_congr_left fun quant member => ?_)
      rw [Function.comp_apply]
      split
      · rename_i listed
        rw [QuantOperation.touched] at untouched
        split at untouched
        · have other : quant.productId ≠ product := fun same => untouched
            (same ▸ List.mem_map_of_mem (List.mem_filter.mpr ⟨member, listed⟩))
          have stillOther : (vals.apply quant).productId ≠ product := other
          rw [Quant.onHand_of_ne other, Quant.onHand_of_ne stillOther]
        · rename_i untracked
          obtain ⟨lotId, quantity, reservedQuantity, locationId⟩ := vals
          simp only [QuantVals.tracked, Bool.or_eq_true, not_or, Option.not_isSome_iff_eq_none]
            at untracked
          obtain ⟨⟨⟨rfl, rfl⟩, rfl⟩, rfl⟩ := untracked
          rfl
      · rfl
  | unlink ids =>
      refine sum_filter_of_zero _ _ quants fun quant member removed => ?_
      refine Quant.onHand_of_ne fun same => untouched ?_
      rw [Bool.not_eq_false'] at removed
      exact same ▸ List.mem_map_of_mem (List.mem_filter.mpr ⟨member, removed⟩)

theorem onHand_runQuants (quants : List (Quant ι)) (operations : List (QuantOperation ι))
    (untouched : product ∉ touchedAll quants operations) :
    ((runQuants quants operations).map (Quant.onHand internal product)).sum =
      (quants.map (Quant.onHand internal product)).sum := by
  induction operations generalizing quants with
  | nil => rfl
  | cons operation operations induction =>
      rw [touchedAll, List.mem_append, not_or] at untouched
      rw [runQuants, List.foldl_cons, ← runQuants, induction _ untouched.2,
        onHand_run quants operation untouched.1]

/-- A write that takes moves to an inactive state takes what they added out of the forecast. -/
theorem expected_writtenMoves_inactive (moves : List (Move ι)) (ids : List ℕ) (vals : MoveVals)
    {state : MoveState} (written : vals.state = some state) (inactive : state.isActive = false) :
    ((writtenMoves moves ids vals).map (Move.expected internal product)).sum =
      (moves.map (Move.expected internal product)).sum - droppedQty internal moves ids product := by
  induction moves with
  | nil => simp [writtenMoves, droppedQty]
  | cons move moves induction =>
      have dropped : (vals.apply move).expected internal product = 0 :=
        Move.expected_of_inactive (by rw [MoveVals.apply, written]; exact inactive)
      simp only [writtenMoves, droppedQty] at induction ⊢
      rw [List.map_cons, List.map_cons, List.sum_cons, List.map_cons, List.sum_cons, induction,
        List.filter_cons]
      cases listed : ids.contains move.id with
      | true =>
          rw [if_pos rfl, if_pos rfl, List.map_cons, List.sum_cons, dropped]
          ring
      | false =>
          rw [if_neg Bool.false_ne_true, if_neg Bool.false_ne_true]
          ring

omit [DecidableEq ι] in
theorem movesToExport_of_active (moves : List (Move ι)) (ids : List ℕ) (vals : MoveVals)
    (active : ∀ state, vals.state = some state → state.isActive = true) :
    ExportSettings.movesToExport moves ids vals =
      ((moves.filter fun move => ids.contains move.id).map vals.apply).filter
        fun move => move.state.isActive := by
  unfold ExportSettings.movesToExport
  split
  · rename_i written
    have impossible := active _ written
    contradiction
  · rename_i state _ written
    rw [if_pos (active state written)]
  · rfl

/-- A write that keeps moves active or leaves their states alone reports every product whose
expected moves it changes. -/
theorem expected_writtenMoves_active (moves : List (Move ι)) (ids : List ℕ) (vals : MoveVals)
    (active : ∀ state, vals.state = some state → state.isActive = true)
    (unreported : product ∉ (ExportSettings.movesToExport moves ids vals).map Move.productId) :
    ((writtenMoves moves ids vals).map (Move.expected internal product)).sum =
      (moves.map (Move.expected internal product)).sum := by
  rw [writtenMoves, List.map_map]
  refine congrArg List.sum (List.map_congr_left fun move member => ?_)
  rw [Function.comp_apply]
  split
  · rename_i listed
    cases decEq move.productId product with
    | isFalse other =>
        have stillOther : (vals.apply move).productId ≠ product := other
        rw [Move.expected_of_ne other, Move.expected_of_ne stillOther]
    | isTrue same =>
        have written : vals.apply move ∈
            (moves.filter fun move => ids.contains move.id).map vals.apply :=
          List.mem_map_of_mem (List.mem_filter.mpr ⟨member, listed⟩)
        have inactive : (vals.apply move).state.isActive = false := by
          by_contra exported
          rw [Bool.not_eq_false] at exported
          rw [movesToExport_of_active moves ids vals active] at unreported
          exact unreported (List.mem_map.mpr
            ⟨_, List.mem_filter.mpr ⟨written, exported⟩, same⟩)
        cases new : vals.state with
        | none =>
            have unchanged : (vals.apply move).state = move.state := by
              rw [MoveVals.apply, new, Option.getD_none]
            rw [Move.expected_of_inactive inactive,
              Move.expected_of_inactive (unchanged ▸ inactive)]
        | some state =>
            have changed : (vals.apply move).state = state := by
              rw [MoveVals.apply, new, Option.getD_some]
            rw [changed, active state new] at inactive
            contradiction
  · rfl

end Sums

section Reports

variable {ι τ : Type} [DecidableEq ι] {internal : ℕ → Bool} {settings : ExportSettings ι τ}

theorem virtualAvailable_createMoves (stock : Stock ι) (context : ExportContext)
    (moves : List (Move ι)) (quants : List (QuantOperation ι)) (product : ι) :
    (stock.step ⟨context, .createMoves moves quants⟩).virtualAvailable internal product =
      ((runQuants stock.quants quants).map (Quant.onHand internal product)).sum +
        ((stock.moves ++ moves).map (Move.expected internal product)).sum := rfl

theorem virtualAvailable_writeMoves (stock : Stock ι) (context : ExportContext) (ids : List ℕ)
    (vals : MoveVals) (quants : List (QuantOperation ι)) (product : ι) :
    (stock.step ⟨context, .writeMoves ids vals quants⟩).virtualAvailable internal product =
      ((runQuants stock.quants quants).map (Quant.onHand internal product)).sum +
        ((writtenMoves stock.moves ids vals).map (Move.expected internal product)).sum := rfl

/-- A product of which a quant is touched is exported to everyone who should hear of it. -/
theorem due_of_touched {context : ExportContext} (shown : context.skipInventoryExport = false)
    (regular : context.fromVentor = false) {quants : List (Quant ι)}
    {operations : List (QuantOperation ι)} {product : ι} {template : τ}
    {integration : SaleIntegration} (due : Due settings product template integration)
    (touched : product ∈ touchedAll quants operations) :
    (template, integration) ∈ settings.quantExportsAll context quants operations := by
  rw [ExportSettings.quantExportsAll_eq shown regular, (ExportSettings.due_exports_iff due _).1]
  exact ⟨product, touched, due.concerns⟩

theorem exists_active_of_sum_ne_zero {moves : List (Move ι)} {product : ι}
    (nonzero : (moves.map (Move.expected internal product)).sum ≠ 0) :
    product ∈ (moves.filter fun move => move.state.isActive).map Move.productId := by
  by_contra absent
  refine nonzero (List.sum_eq_zero fun value member => ?_)
  obtain ⟨move, created, rfl⟩ := List.mem_map.mp member
  cases active : move.state.isActive with
  | false => exact Move.expected_of_inactive active
  | true =>
      refine Move.expected_of_ne fun same => absent ?_
      exact same ▸ List.mem_map_of_mem (List.mem_filter.mpr ⟨created, active⟩)

/-- `StockMove.write` exports its moves to everyone who should hear of one of their products. -/
theorem moveWriteExports_eq {moves : List (Move ι)} {ids : List ℕ} {vals : MoveVals} {product : ι}
    {template : τ} {integration : SaleIntegration}
    (due : Due settings product template integration) (affects : vals.affects = true) :
    settings.moveWriteExports moves ids vals =
      settings.exportVirtualAvailable (ExportSettings.movesToExport moves ids vals) := by
  have found : integration ∈ settings.forecastIntegrations := by
    refine List.mem_filter.mpr ⟨List.mem_filter.mpr ⟨due.known, ?_⟩, ?_⟩
    · rw [due.active, due.enabled]
      rfl
    · simpa using due.synchronises
  have nonempty : settings.forecastIntegrations.isEmpty = false := by
    rw [List.isEmpty_eq_false_iff]
    exact List.ne_nil_of_mem found
  rw [ExportSettings.moveWriteExports, affects, nonempty]
  rfl

theorem reported_createMoves {stock : Stock ι} {context : ExportContext} {moves : List (Move ι)}
    {quants : List (QuantOperation ι)} :
    Reported internal settings stock ⟨context, .createMoves moves quants⟩ := by
  intro regular product changed template integration due
  rw [Operation.excepted, Bool.or_eq_false_iff] at regular
  rw [ExportSettings.exports, List.mem_append]
  by_cases touched : product ∈ touchedAll stock.quants quants
  · exact Or.inr (due_of_touched regular.1 regular.2 due touched)
  · refine Or.inl ?_
    rw [ExportSettings.exportVirtualAvailable, (ExportSettings.due_exports_iff due _).2]
    refine ⟨product, @exists_active_of_sum_ne_zero _ _ internal _ _ fun zero => changed ?_,
      due.concerns⟩
    rw [virtualAvailable_createMoves, onHand_runQuants _ _ touched, List.map_append,
      List.sum_append, zero, add_zero]
    rfl

theorem reported_quant {stock : Stock ι} {context : ExportContext}
    {quantOperation : QuantOperation ι} :
    Reported internal settings stock ⟨context, .quant quantOperation⟩ := by
  intro regular product changed template integration due
  rw [Operation.excepted, Bool.or_eq_false_iff] at regular
  have single : settings.exports stock ⟨context, .quant quantOperation⟩ =
      settings.quantExportsAll context stock.quants [quantOperation] :=
    (List.append_nil _).symm
  rw [single]
  refine due_of_touched regular.1 regular.2 due ?_
  by_contra untouched
  refine changed ?_
  have kept := @onHand_runQuants _ _ internal product stock.quants [quantOperation] untouched
  rw [Stock.virtualAvailable, Stock.virtualAvailable]
  exact congrArg (· + _) kept

/-- A write of nothing that the forecast depends on changes no move. -/
theorem writtenMoves_of_not_affects {moves : List (Move ι)} {ids : List ℕ} {vals : MoveVals}
    (nothing : ¬ vals.affects = true) : writtenMoves moves ids vals = moves := by
  obtain ⟨productUomQty, state, locationId, locationDestId⟩ := vals
  simp only [MoveVals.affects, Bool.or_eq_true, not_or, Option.not_isSome_iff_eq_none] at nothing
  obtain ⟨⟨⟨rfl, rfl⟩, rfl⟩, rfl⟩ := nothing
  exact (List.map_congr_left fun move _ => ite_self move).trans (List.map_id _)

/-- A write of moves that makes none of them inactive reports what it changes. -/
theorem reported_writeMoves {stock : Stock ι} {context : ExportContext} {ids : List ℕ}
    {vals : MoveVals} {quants : List (QuantOperation ι)}
    (active : ∀ state, vals.state = some state → state.isActive = true) :
    Reported internal settings stock ⟨context, .writeMoves ids vals quants⟩ := by
  intro regular product changed template integration due
  rw [Operation.excepted, Bool.or_eq_false_iff] at regular
  rw [ExportSettings.exports, List.mem_append]
  by_cases touched : product ∈ touchedAll stock.quants quants
  · exact Or.inr (due_of_touched regular.1 regular.2 due touched)
  · refine Or.inl ?_
    rw [virtualAvailable_writeMoves, onHand_runQuants _ _ touched] at changed
    have reported : product ∈
        (ExportSettings.movesToExport stock.moves ids vals).map Move.productId := by
      by_contra unreported
      refine changed ?_
      rw [expected_writtenMoves_active _ _ _ active unreported]
      rfl
    have affects : vals.affects = true := by
      by_contra nothing
      refine changed ?_
      rw [writtenMoves_of_not_affects nothing]
      rfl
    rw [moveWriteExports_eq due affects, ExportSettings.exportVirtualAvailable,
      (ExportSettings.due_exports_iff due _).2]
    exact ⟨product, reported, due.concerns⟩

/-- Of the moves that are written to an inactive state those are exported which are received, and
only when they are cancelled. -/
theorem movesToExport_inactive {moves : List (Move ι)} {ids : List ℕ} {vals : MoveVals}
    {state : MoveState} (written : vals.state = some state) (inactive : state.isActive = false) :
    (ExportSettings.movesToExport moves ids vals).map Move.productId =
      if state = .cancel then
        ((moves.filter fun move => ids.contains move.id).filter fun move =>
          move.state.isActive && move.pickingTypeCode = some .incoming).map Move.productId
      else [] := by
  rw [ExportSettings.movesToExport, written]
  cases state with
  | cancel => rfl
  | draft => rfl
  | done => rfl
  | waiting => contradiction
  | confirmed => contradiction
  | partiallyAvailable => contradiction
  | assigned => contradiction

theorem reported_inactive_iff {stock : Stock ι} {context : ExportContext} {ids : List ℕ}
    {vals : MoveVals} {quants : List (QuantOperation ι)} {state : MoveState}
    (regular : (Operation.mk context (.writeMoves ids vals quants)).excepted = false)
    (written : vals.state = some state) (inactive : state.isActive = false) :
    Reported internal settings stock ⟨context, .writeMoves ids vals quants⟩ ↔
      ∀ product, droppedQty internal stock.moves ids product ≠ 0 →
        ∀ template integration, Due settings product template integration →
          ∃ other ∈ reportedProducts stock ids state quants,
            template = settings.catalog.productTmplId other ∨
              settings.catalog.Uses other template := by
  have affects : vals.affects = true := by simp [MoveVals.affects, written]
  have contexts := regular
  rw [Operation.excepted, Bool.or_eq_false_iff] at contexts
  obtain ⟨shown, ventor⟩ := contexts
  have exported {product : ι} {template : τ} {integration : SaleIntegration}
      (due : Due settings product template integration) :
      (template, integration) ∈ settings.exports stock ⟨context, .writeMoves ids vals quants⟩ ↔
        ∃ other ∈ reportedProducts stock ids state quants,
          template = settings.catalog.productTmplId other ∨
            settings.catalog.Uses other template := by
    rw [ExportSettings.exports, List.mem_append, moveWriteExports_eq due affects,
      ExportSettings.exportVirtualAvailable, (ExportSettings.due_exports_iff due _).2,
      ExportSettings.quantExportsAll_eq shown ventor, (ExportSettings.due_exports_iff due _).1,
      reportedProducts]
    rw [movesToExport_inactive written inactive]
    simp only [List.mem_append, or_and_right, exists_or]
    exact or_comm
  constructor
  · intro reported product dropped template integration due
    by_cases touched : product ∈ touchedAll stock.quants quants
    · exact ⟨product, List.mem_append_left _ touched, due.concerns⟩
    · refine (exported due).mp (reported regular product ?_ template integration due)
      rw [virtualAvailable_writeMoves, onHand_runQuants _ _ touched,
        expected_writtenMoves_inactive _ _ _ written inactive, Stock.virtualAvailable]
      intro same
      exact dropped (by linarith)
  · intro heard _ product changed template integration due
    refine (exported due).mpr ?_
    by_cases touched : product ∈ touchedAll stock.quants quants
    · exact ⟨product, List.mem_append_left _ touched, due.concerns⟩
    · refine heard product (fun zero => changed ?_) template integration due
      rw [virtualAvailable_writeMoves, onHand_runQuants _ _ touched,
        expected_writtenMoves_inactive _ _ _ written inactive, zero, sub_zero]
      rfl

theorem reported_iff_heard (stock : Stock ι) (operation : Operation ι) :
    Reported internal settings stock operation ↔ Heard internal settings stock operation := by
  cases regular : operation.excepted with
  | true =>
      refine iff_of_true (fun shown => ?_) (Or.inl regular)
      rw [regular] at shown
      contradiction
  | false =>
      obtain ⟨context, action⟩ := operation
      rw [Heard, regular, or_iff_right Bool.false_ne_true]
      cases action with
      | createMoves moves quants =>
          exact iff_of_true reported_createMoves trivial
      | quant quantOperation =>
          exact iff_of_true reported_quant trivial
      | writeMoves ids vals quants =>
          obtain ⟨productUomQty, state, locationId, locationDestId⟩ := vals
          cases state with
          | none => exact iff_of_true (reported_writeMoves (by simp)) trivial
          | some state =>
              cases inactive : state.isActive with
              | true =>
                  exact iff_of_true (reported_writeMoves (by simp [inactive])) (Or.inl inactive)
              | false =>
                  have heard := @reported_inactive_iff _ _ _ internal settings stock context ids
                    ⟨productUomQty, some state, locationId, locationDestId⟩ quants state regular rfl
                    inactive
                  refine heard.trans ?_
                  dsimp only
                  rw [inactive, or_iff_right Bool.false_ne_true]

/-- No forecast change escapes in a run exactly when every write of moves to draft, done or cancel
is heard. -/
theorem forecast_reported_iff (stock : Stock ι) (operations : List (Operation ι)) :
    Along Stock.step (Reported internal settings) stock operations ↔
      Along Stock.step (Heard internal settings) stock operations :=
  (@along_iff _ _ Stock.step (Heard internal settings) (Reported internal settings) (fun _ => True)
    stock operations (fun stock operation _ => (reported_iff_heard stock operation).symm)
    (fun _ _ _ _ => trivial) trivial).symm

/-- Settings with one template, which is its own product, and one integration that synchronises the
forecast. -/
def oneTemplate : ExportSettings ℕ ℕ where
  catalog :=
    { productTmplId := id
      productVariantIds := fun template => [template]
      boms := []
      integrationShouldExportInventory := fun _ => true
      companyId := fun _ => none }
  integrations := [⟨1, true, true, .virtualAvailable, 1⟩]

/-- Twenty pieces in stock and a delivery of five that waits for nothing but is not reserved. -/
def unreservedDelivery : Stock ℕ where
  moves := [⟨1, 7, 5, .confirmed, 8, 5, some .outgoing⟩]
  quants := [⟨1, 7, none, 8, 20, 0⟩]

/-- The delivery is cancelled; nothing was reserved and so no quant is written. -/
def cancelDelivery : Operation ℕ where
  context := ⟨false, false, false⟩
  action := .writeMoves [1] ⟨none, some .cancel, none, none⟩ []

/-- Cancelling an unreserved delivery raises the forecast, and nothing is exported. -/
theorem cancelled_delivery_unreported :
    ¬ Along Stock.step (Reported (fun location => location = 8) oneTemplate) unreservedDelivery
      [cancelDelivery] := by
  intro along
  have silent : oneTemplate.exports unreservedDelivery cancelDelivery = [] := by decide
  have exported := along.1 rfl 7 (by decide +kernel) 7 ⟨1, true, true, .virtualAvailable, 1⟩
    { concerns := Or.inl rfl
      exported := rfl
      known := List.mem_cons_self
      active := rfl
      enabled := rfl
      synchronises := rfl
      company := fun _ none => by contradiction }
  rw [silent] at exported
  exact List.not_mem_nil exported

end Reports

end OdooConnector.Inventory
