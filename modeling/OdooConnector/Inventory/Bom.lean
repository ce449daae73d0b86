import Mathlib.Algebra.Order.Floor.Defs
import Mathlib.Data.Fintype.Card
import Mathlib.Data.Rat.Floor

/-!
# Producible quantity

Bills of materials as they are found and exploded for a location and its company, and the quantity
of a product that they say can be made of the stock.
-/

namespace OdooConnector.Inventory

structure Uom where
  id : ℕ
  categoryId : ℕ
  /-- Units in one reference unit of the category. -/
  factor : ℚ
  rounding : ℚ
  factor_pos : 0 < factor
deriving DecidableEq

inductive ProductType where
  | service
  | consu
  | product
deriving DecidableEq

inductive BomType where
  | normal
  | phantom
deriving DecidableEq

structure Product where
  type : ProductType
  uomId : Uom
  /-- Types of all bills of the product, of any company. -/
  bomIds : List BomType

structure Bom where
  id : ℕ
  productQty : ℚ
  productUomId : Uom
  productQty_pos : 0 < productQty

/-- A line of an exploded bill with the quantity of its line data. -/
structure BomLine (ι : Type) where
  productId : ι
  productUomId : Uom
  qty : ℚ
  qty_nonneg : 0 ≤ qty
deriving DecidableEq

/-- Products and the functions of the framework. -/
structure Odoo (ι : Type) where
  product : ι → Product
  /-- A value, and the precision it is rounded to. -/
  floatIsZero : ℚ → ℚ → Bool
  /-- There is no conversion between units of different categories. -/
  computeQuantity : Uom → ℚ → Uom → Option ℚ

/-- Stock and bills as a location and its company see them. -/
structure Warehouse (ι : Type) where
  /-- Value of the quantity field. -/
  qtyField : ι → ℚ
  /-- The normal bill of a product. -/
  bomFind : ι → Option Bom
  explode : Bom → ι → List (BomLine ι)

variable {ι : Type}

namespace Odoo

variable (odoo : Odoo ι)

/-- Services and consumables without bills do not constrain production. -/
def isSkipped (component : ι) : Bool :=
  (odoo.product component).type = .service ||
    ((odoo.product component).type = .consu && (odoo.product component).bomIds.isEmpty)

def hasOwnBom (component : ι) : Bool :=
  !(odoo.product component).bomIds.isEmpty &&
    ((odoo.product component).type = .consu || (odoo.product component).type = .product)

def isRequiredZero (line : BomLine ι) : Bool :=
  odoo.floatIsZero line.qty (1 / 10 ^ 6)

def isAvailableZero (component : ι) (available : ℚ) : Bool :=
  odoo.floatIsZero available (odoo.product component).uomId.rounding || available ≤ 0

/-- Available quantity in the unit of the line. -/
def toLineUom (line : BomLine ι) (available : ℚ) : Option ℚ :=
  if line.productUomId ≠ (odoo.product line.productId).uomId then
    odoo.computeQuantity (odoo.product line.productId).uomId available line.productUomId
  else
    some available

/-- Stock of a component, and what can be made of it when it has bills. -/
def availableComponentQty (loc : Warehouse ι) (producible : ι → Option ℚ) (component : ι) :
    Option ℚ :=
  if odoo.hasOwnBom component then
    (producible component).map fun made => loc.qtyField component + made
  else
    some (loc.qtyField component)

/-- Batches that all lines allow; no line may constrain them. -/
def minPossibleQty (loc : Warehouse ι) (producible : ι → Option ℚ) :
    Option ℤ → List (BomLine ι) → Option (Option ℤ)
  | minimum, [] => some minimum
  | minimum, line :: lines =>
      if odoo.isSkipped line.productId then minPossibleQty loc producible minimum lines
      else do
        let available ← odoo.availableComponentQty loc producible line.productId
        if odoo.isRequiredZero line then minPossibleQty loc producible minimum lines
        else if odoo.isAvailableZero line.productId available then some (some 0)
        else do
          let available ← odoo.toLineUom line available
          let possible := ⌊available / line.qty⌋
          minPossibleQty loc producible (some (minimum.elim possible (min · possible))) lines

/-- Quantity made in some batches, in the unit of the product when its category allows it. -/
def batchesQty (product : Product) (bom : Bom) (batches : ℤ) : Option ℚ :=
  let qty := batches * bom.productQty
  if qty ≠ 0 ∧ product.uomId ≠ bom.productUomId ∧
      product.uomId.categoryId = bom.productUomId.categoryId then
    odoo.computeQuantity bom.productUomId qty product.uomId
  else
    some qty

def totalProducible (product : Product) (bom : Bom) : Option ℤ → Option ℚ
  | none => some 0
  | some batches => if batches = 0 then some 0 else odoo.batchesQty product bom batches

/-- Maximum quantity of a product that can be made; products on the way down are visited. -/
def computeQtyProducible [Fintype ι] [DecidableEq ι] (loc : Warehouse ι) (visited : Finset ι)
    (product : ι) : Option ℚ :=
  if _ : product ∈ visited then some 0
  else
    match loc.bomFind product with
    | none => some (loc.qtyField product)
    | some bom => do
        let minimum ← odoo.minPossibleQty loc
          (fun component => computeQtyProducible loc (insert product visited) component) none
          (loc.explode bom product)
        odoo.totalProducible (odoo.product product) bom minimum
termination_by visitedᶜ.card
decreasing_by
  exact Finset.card_lt_card (Finset.compl_ssubset_compl.mpr
    (Finset.ssubset_insert ‹product ∉ visited›))

/-- The line bounds the number of batches. -/
def constrains (line : BomLine ι) : Bool :=
  !odoo.isSkipped line.productId && !odoo.isRequiredZero line

variable {odoo} {loc : Warehouse ι}

theorem isAvailableZero_pos {component : ι} {available : ℚ}
    (left : odoo.isAvailableZero component available = false) : 0 < available := by
  rw [isAvailableZero, Bool.or_eq_false_iff, decide_eq_false_iff_not, not_le] at left
  exact left.2

/-- There is enough of the component for the batches. -/
def Allows (odoo : Odoo ι) (loc : Warehouse ι) (producible : ι → Option ℚ) (batches : ℤ)
    (line : BomLine ι) : Prop :=
  ∃ available converted,
    odoo.availableComponentQty loc producible line.productId = some available ∧
    0 < available ∧ odoo.toLineUom line available = some converted ∧
    batches ≤ ⌊converted / line.qty⌋

/-- Batches are made only when every line that bounds them allows them. -/
theorem minPossibleQty_allows {producible : ι → Option ℚ} {minimum : Option ℤ}
    {lines : List (BomLine ι)} {batches : ℤ} (nonzero : batches ≠ 0)
    (result : odoo.minPossibleQty loc producible minimum lines = some (some batches)) :
    (∀ bound, minimum = some bound → batches ≤ bound) ∧
      ∀ line ∈ lines, odoo.constrains line = true → odoo.Allows loc producible batches line := by
  induction lines generalizing minimum with
  | nil =>
      have reached := Option.some.inj result
      refine ⟨fun bound given => ?_, fun line member => absurd member List.not_mem_nil⟩
      rw [reached] at given
      exact (Option.some.inj given).le
  | cons line lines induction =>
      -- what the rest of the lines establishes, whatever this line does
      have rest : ∀ {least}, odoo.minPossibleQty loc producible least lines = some (some batches) →
          (odoo.constrains line = true → odoo.Allows loc producible batches line) →
          ∀ other ∈ line :: lines, odoo.constrains other = true →
            odoo.Allows loc producible batches other := by
        intro least result own other member
        rcases List.mem_cons.mp member with rfl | member
        · exact own
        · exact (induction result).2 other member
      rw [minPossibleQty] at result
      split at result
      · rename_i skipped
        exact ⟨(induction result).1, rest result (by simp [Odoo.constrains, skipped])⟩
      · obtain ⟨available, found, result⟩ := Option.bind_eq_some_iff.mp result
        split at result
        · rename_i zero
          exact ⟨(induction result).1, rest result (by simp [Odoo.constrains, zero])⟩
        · split at result
          · exact absurd (Option.some.inj (Option.some.inj result)).symm nonzero
          · rename_i left
            obtain ⟨converted, conversion, result⟩ := Option.bind_eq_some_iff.mp result
            have least := (induction result).1 _ rfl
            refine ⟨fun bound given => ?_, rest result fun _ => ?_⟩
            · rw [given] at least
              exact least.trans (min_le_left _ _)
            · refine ⟨available, converted, found,
                isAvailableZero_pos (Bool.not_eq_true _ ▸ left), conversion, least.trans ?_⟩
              cases minimum with
              | none => exact le_rfl
              | some bound => exact min_le_right _ _

/-- Only what can be made of components with bills matters. -/
theorem minPossibleQty_congr {producible : ι → Option ℚ} (producible' : ι → Option ℚ)
    {lines : List (BomLine ι)} (agree : ∀ line ∈ lines, odoo.hasOwnBom line.productId = true →
      producible line.productId = producible' line.productId) (minimum : Option ℤ) :
    odoo.minPossibleQty loc producible minimum lines =
      odoo.minPossibleQty loc producible' minimum lines := by
  induction lines generalizing minimum with
  | nil => rfl
  | cons line lines induction =>
      have rest := induction fun other member => agree other (List.mem_cons_of_mem _ member)
      have same : odoo.availableComponentQty loc producible line.productId =
          odoo.availableComponentQty loc producible' line.productId := by
        rw [availableComponentQty, availableComponentQty]
        split
        · rename_i ownBom
          rw [agree line List.mem_cons_self ownBom]
        · rfl
      simp only [minPossibleQty, same, rest]

variable [Fintype ι] [DecidableEq ι] {visited : Finset ι} {product : ι}

theorem computeQtyProducible_of_mem (seen : product ∈ visited) :
    odoo.computeQtyProducible loc visited product = some 0 := by
  rw [computeQtyProducible, dif_pos seen]

theorem computeQtyProducible_of_none (fresh : product ∉ visited)
    (noBom : loc.bomFind product = none) :
    odoo.computeQtyProducible loc visited product = some (loc.qtyField product) := by
  rw [computeQtyProducible, dif_neg fresh, noBom]

theorem computeQtyProducible_of_some {bom : Bom} (fresh : product ∉ visited)
    (found : loc.bomFind product = some bom) :
    odoo.computeQtyProducible loc visited product =
      (odoo.minPossibleQty loc (odoo.computeQtyProducible loc (insert product visited)) none
        (loc.explode bom product)).bind (odoo.totalProducible (odoo.product product) bom) := by
  rw [computeQtyProducible, dif_neg fresh, found]
  rfl

end Odoo

end OdooConnector.Inventory
