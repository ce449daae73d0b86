import Mathlib.Logic.Relation
import OdooConnector.Inventory.Producible

/-!
# Calculating the exported quantity

The report on a product repeats the computation of the exported quantity for each location. It
starts the recursion anew at every component, counts the stock of a product without a bill once,
and converts units without comparing their categories.
-/

namespace OdooConnector.Inventory

variable {ι : Type}

structure Location (ι : Type) where
  companyId : Option ℕ
  /-- Stock and bills in the company of the location. -/
  warehouse : Warehouse ι

structure LocationResult where
  availableQty : ℚ
  producibleQty : ℚ
  sendableQty : ℚ

structure InventoryData where
  qty : ℚ
  externalReference : String
  externalLocationId : String

namespace Odoo

variable (odoo : Odoo ι)

/-- Quantity of the batches at a location, in the unit of the product. -/
def producedQty (product : Product) (bom : Bom) (minimum : Option ℤ) : Option ℚ :=
  let produced := minimum.elim 0 fun batches => batches * bom.productQty
  if produced ≠ 0 ∧ product.uomId ≠ bom.productUomId then
    odoo.computeQuantity bom.productUomId produced product.uomId
  else
    some produced

def isKit (product : ι) : Bool :=
  (odoo.product product).bomIds.any fun type => type = .phantom

/-- Stock that the export counts once more than the report. -/
def doubledQty (loc : Warehouse ι) (product : ι) : ℚ :=
  if loc.bomFind product = none ∧ (odoo.product product).bomIds.isEmpty = false then
    loc.qtyField product
  else 0

variable {odoo}

/-- In one category the report makes as much of the batches as the export. -/
theorem producedQty_eq {product : ι} {bom : Bom}
    (category : bom.productUomId.categoryId = (odoo.product product).uomId.categoryId)
    (minimum : Option ℤ) :
    odoo.producedQty (odoo.product product) bom minimum =
      odoo.totalProducible (odoo.product product) bom minimum := by
  cases minimum with
  | none => rw [producedQty, totalProducible, Option.elim_none, if_neg fun both => both.1 rfl]
  | some batches =>
      rw [producedQty, totalProducible, Option.elim_some]
      by_cases zero : batches = 0
      · simp [zero]
      · rw [if_neg zero, batchesQty, category]
        simp only [and_true]

private theorem sum_doubledQty {locations : List (Location ι)} {product : ι}
    (bills : (odoo.product product).bomIds.isEmpty = false) :
    (locations.map fun location => odoo.doubledQty location.warehouse product).sum =
      ((locations.filter fun location => location.warehouse.bomFind product = none).map
        fun location => location.warehouse.qtyField product).sum := by
  induction locations with
  | nil => rfl
  | cons location locations induction =>
      rw [List.map_cons, List.sum_cons, induction, doubledQty, List.filter_cons]
      cases found : location.warehouse.bomFind product with
      | none => simp [bills]
      | some bom => simp

private theorem mapM_sum_eq {α β : Type} {exported : α → Option ℚ} {reported : α → Option β}
    {value : β → ℚ} {more : α → ℚ} {list : List α}
    (each : ∀ element ∈ list, exported element = (reported element).map fun result =>
      value result + more element) :
    (list.mapM exported).map List.sum =
      (list.mapM reported).map fun results => (results.map value).sum + (list.map more).sum := by
  induction list with
  | nil => simp
  | cons element list induction =>
      have rest := induction fun other member => each other (List.mem_cons_of_mem _ member)
      rw [List.mapM_cons, List.mapM_cons, each element List.mem_cons_self]
      cases reported element with
      | none => rfl
      | some result =>
          cases all : list.mapM reported with
          | none =>
              rw [all, Option.map_none, Option.map_eq_none_iff] at rest
              simp [rest]
          | some results =>
              rw [all, Option.map_some, Option.map_eq_some_iff] at rest
              obtain ⟨quantities, found, total⟩ := rest
              simp only [found, total, Option.pure_def, Option.bind_eq_bind, Option.bind_some,
                Option.map_some, List.map_cons, List.sum_cons]
              rw [add_add_add_comm]

/-! ## The report and the export -/

variable [Fintype ι] [DecidableEq ι] (odoo)

def locationResult (loc : Warehouse ι) (product : ι) : Option LocationResult :=
  match loc.bomFind product with
  | none => some ⟨loc.qtyField product, 0, loc.qtyField product⟩
  | some bom => do
      let minimum ← odoo.minPossibleQty loc (odoo.computeQtyProducible loc ∅) none
        (loc.explode bom product)
      let produced ← odoo.producedQty (odoo.product product) bom minimum
      some ⟨loc.qtyField product, produced, loc.qtyField product + produced⟩

/-- The results of the report; locations without a company are left out. -/
def prepareCalculationQtyWithBom (locations : List (Location ι)) (product : ι) :
    Option (List LocationResult) :=
  (locations.filter fun loc => loc.companyId.isSome).mapM fun loc =>
    odoo.locationResult loc.warehouse product

/-- Quantity of a product at one location. -/
def inventoryQty (updateStockForManufactureBoms : Bool) (loc : Warehouse ι) (product : ι) :
    Option ℚ :=
  if updateStockForManufactureBoms && !(odoo.product product).bomIds.isEmpty && !odoo.isKit product
  then
    (odoo.computeQtyProducible loc ∅ product).map fun made => made + loc.qtyField product
  else
    some (loc.qtyField product)

def prepareInventoryData (updateStockForManufactureBoms : Bool) (product : ι)
    (locations : List (Location ι)) (externalReference externalLocationId : String) :
    Option InventoryData :=
  (locations.mapM fun loc =>
      odoo.inventoryQty updateStockForManufactureBoms loc.warehouse product).map fun quantities =>
    ⟨quantities.sum, externalReference, externalLocationId⟩

/-! ## Where the recursion starts -/

variable {odoo} {loc : Warehouse ι} {product root : ι}

/-- A component that has bills itself. -/
def Expands (odoo : Odoo ι) (loc : Warehouse ι) (product component : ι) : Prop :=
  ∃ bom, loc.bomFind product = some bom ∧
    (∃ line ∈ loc.explode bom product, line.productId = component) ∧
      odoo.hasOwnBom component = true

omit [Fintype ι] in
theorem not_mem_insert_of_apart {visited : Finset ι} (fresh : product ∉ visited)
    (apart : ¬ Relation.ReflTransGen (odoo.Expands loc) product root) :
    product ∉ insert root visited := by
  rw [Finset.mem_insert, not_or]
  refine ⟨?_, fresh⟩
  rintro rfl
  exact apart Relation.ReflTransGen.refl

/-- Visiting a product that does not occur below makes no difference. -/
theorem computeQtyProducible_insert (visited : Finset ι)
    (apart : ¬ Relation.ReflTransGen (odoo.Expands loc) product root) :
    odoo.computeQtyProducible loc (insert root visited) product =
      odoo.computeQtyProducible loc visited product := by
  induction visited, product using computeQtyProducible.induct loc with
  | case1 visited product seen =>
      rw [computeQtyProducible_of_mem seen,
        computeQtyProducible_of_mem (Finset.mem_insert_of_mem seen)]
  | case2 visited product fresh noBom =>
      have outside := not_mem_insert_of_apart fresh apart
      rw [computeQtyProducible_of_none fresh noBom, computeQtyProducible_of_none outside noBom]
  | case3 visited product fresh bom found induction =>
      have outside := not_mem_insert_of_apart fresh apart
      rw [computeQtyProducible_of_some fresh found, computeQtyProducible_of_some outside found,
        Finset.insert_comm]
      congr 1
      refine minPossibleQty_congr _ (fun line listed ownBom => ?_) none
      refine induction line.productId fun below => apart ?_
      exact Relation.ReflTransGen.head ⟨bom, found, ⟨line, listed, rfl⟩, ownBom⟩ below

/-! ## One location -/

/-- What makes the report and the export follow the same path at a location. -/
structure Mirrored (odoo : Odoo ι) (loc : Warehouse ι) (product : ι) : Prop where
  listed : ∀ bom, loc.bomFind product = some bom → (odoo.product product).bomIds.isEmpty = false
  acyclic : ¬ Relation.TransGen (odoo.Expands loc) product product
  category : ∀ bom, loc.bomFind product = some bom →
    bom.productUomId.categoryId = (odoo.product product).uomId.categoryId

/-- The export counts what the report does, and the stock of a product without a bill twice. -/
theorem inventoryQty_eq (mirrored : odoo.Mirrored loc product)
    (noKit : odoo.isKit product = false) :
    odoo.inventoryQty true loc product = (odoo.locationResult loc product).map fun result =>
      result.sendableQty + odoo.doubledQty loc product := by
  rw [inventoryQty, locationResult, doubledQty, noKit]
  cases bills : (odoo.product product).bomIds.isEmpty with
  | true =>
      cases found : loc.bomFind product with
      | none => simp
      | some bom =>
          rw [mirrored.listed bom found] at bills
          contradiction
  | false =>
      cases found : loc.bomFind product with
      | none =>
          rw [computeQtyProducible_of_none (Finset.notMem_empty product) found]
          simp
      | some bom =>
          have below : ∀ line ∈ loc.explode bom product, odoo.hasOwnBom line.productId = true →
              odoo.computeQtyProducible loc (insert product ∅) line.productId =
                odoo.computeQtyProducible loc ∅ line.productId := by
            intro line listed ownBom
            refine computeQtyProducible_insert ∅ fun back => mirrored.acyclic ?_
            exact Relation.TransGen.head' ⟨bom, found, ⟨line, listed, rfl⟩, ownBom⟩ back
          rw [computeQtyProducible_of_some (Finset.notMem_empty product) found,
            minPossibleQty_congr _ below]
          dsimp only
          cases odoo.minPossibleQty loc (odoo.computeQtyProducible loc ∅) none
              (loc.explode bom product) with
          | none => rfl
          | some minimum =>
              dsimp only [Option.bind_eq_bind, Option.bind_some]
              rw [producedQty_eq (mirrored.category bom found)]
              cases odoo.totalProducible (odoo.product product) bom minimum with
              | none => rfl
              | some made =>
                  simp [add_comm]

/-! ## All locations -/

end Odoo

/-! ## Two locations -/

/-- Tables in stock of a company that has no bill for them. -/
def shop : Location Furniture where
  companyId := some 2
  warehouse := { scarceWood with qtyField := fun _ => 5 }

private theorem not_expands_table (product : Furniture) :
    ¬ furnitureOdoo.Expands workshop product .table := by
  rintro ⟨bom, _, ⟨line, listed, component⟩, _⟩
  rw [workshop] at listed
  dsimp only at listed
  split at listed
  · rcases List.mem_pair.mp listed with rfl | rfl <;> contradiction
  · obtain rfl := List.mem_singleton.mp listed
    contradiction

private theorem workshop_mirrored : furnitureOdoo.Mirrored workshop .table where
  listed _ _ := rfl
  acyclic := by
    intro cycle
    obtain ⟨product, _, expands⟩ := Relation.TransGen.tail'_iff.mp cycle
    exact not_expands_table product expands
  category bom found := by
    obtain rfl := Option.some.inj found
    rfl

end OdooConnector.Inventory
