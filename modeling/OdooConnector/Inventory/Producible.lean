import Mathlib.Algebra.Order.BigOperators.Group.List
import OdooConnector.Inventory.Bom
import OdooConnector.Library.Production
import OdooConnector.Library.Replace

/-!
# What is producible

The bills of a warehouse are recipes, and a quantity is producible when some sequence of batches
adds it to the stock. Every line of a bill is served from the whole stock of its component and
from all that can be made of it, so the computed quantity is producible when no product serves two
lines.
-/

namespace OdooConnector.Inventory

variable {ι : Type}

namespace Odoo

variable (odoo : Odoo ι)

/-- Quantity a line takes in one batch, in the unit of its component. -/
def lineNeed (line : BomLine ι) : ℚ :=
  line.qty / line.productUomId.factor * (odoo.product line.productId).uomId.factor

theorem lineNeed_nonneg (line : BomLine ι) : 0 ≤ odoo.lineNeed line :=
  mul_nonneg (div_nonneg line.qty_nonneg line.productUomId.factor_pos.le)
    (odoo.product line.productId).uomId.factor_pos.le

variable [DecidableEq ι]

/-- A batch of a bill takes the components that are in stock and makes the quantity of the bill. -/
def recipe (loc : Warehouse ι) (product : ι) (bom : Bom) : Recipe ι ℚ where
  output := bom.productQty / bom.productUomId.factor * (odoo.product product).uomId.factor
  need item := (((loc.explode bom product).filter fun line =>
    !odoo.isSkipped line.productId && line.productId = item).map odoo.lineNeed).sum
  need_nonneg _ := List.sum_nonneg fun _ member => by
    obtain ⟨line, _, rfl⟩ := List.mem_map.mp member
    exact odoo.lineNeed_nonneg line

def recipes (loc : Warehouse ι) (product : ι) : Option (Recipe ι ℚ) :=
  (loc.bomFind product).map (odoo.recipe loc product)

/-- The current stock suffices to make the quantity. -/
def Manufacturable (loc : Warehouse ι) (product : ι) (qty : ℚ) : Prop :=
  CanProduce (odoo.recipes loc) loc.qtyField product qty

/-- A quantity that can be made of a product. -/
def MadeQty (loc : Warehouse ι) (product : ι) (made : ℚ) : Prop :=
  made = 0 ∨ ∃ bom batches, loc.bomFind product = some bom ∧
    odoo.batchesQty (odoo.product product) bom batches = some made

/-- Units and precisions do not let a bill make more than its lines take. -/
structure ExactBom (loc : Warehouse ι) (product : ι) (bom : Bom) : Prop where
  output : ∀ (batches : ℤ) made, odoo.batchesQty (odoo.product product) bom batches = some made →
    made ≤ batches * (odoo.recipe loc product bom).output
  available : ∀ line ∈ loc.explode bom product, odoo.constrains line = true →
    ∀ made, odoo.MadeQty loc line.productId made →
      ∀ converted, odoo.toLineUom line (loc.qtyField line.productId + made) = some converted →
        converted ≤ (loc.qtyField line.productId + made) /
          (odoo.product line.productId).uomId.factor * line.productUomId.factor
  zero : ∀ line ∈ loc.explode bom product, odoo.isSkipped line.productId = false →
    odoo.isRequiredZero line = true → line.qty = 0

variable {odoo} {loc : Warehouse ι} {product : ι} {bom : Bom}

/-- Only lines that bound the batches take something. -/
theorem recipe_need_eq (exactBom : odoo.ExactBom loc product bom) (item : ι) :
    (odoo.recipe loc product bom).need item =
      ((((loc.explode bom product).filter odoo.constrains).filter fun line =>
        line.productId = item).map odoo.lineNeed).sum := by
  have all := exactBom.zero
  dsimp only [recipe]
  generalize loc.explode bom product = lines at all ⊢
  induction lines with
  | nil => rfl
  | cons line lines induction =>
      have rest := induction fun other member => all other (List.mem_cons_of_mem _ member)
      have first := all line List.mem_cons_self
      rw [List.filter_cons, List.filter_cons, constrains]
      cases skipped : odoo.isSkipped line.productId with
      | true => simpa using rest
      | false =>
          cases zero : odoo.isRequiredZero line with
          | true =>
              by_cases same : line.productId = item
              · simpa [same, lineNeed, first skipped zero] using rest
              · simpa [same] using rest
          | false =>
              by_cases same : line.productId = item
              · simpa [same] using rest
              · simpa [same] using rest

/-- When no component is on two lines, one line takes all that a batch needs of it. -/
theorem exists_line_of_need (exactBom : odoo.ExactBom loc product bom)
    (nodup : (((loc.explode bom product).filter odoo.constrains).map BomLine.productId).Nodup)
    {item : ι} (needed : (odoo.recipe loc product bom).need item ≠ 0) :
    ∃ line ∈ (loc.explode bom product).filter odoo.constrains, line.productId = item ∧
      (odoo.recipe loc product bom).need item = odoo.lineNeed line := by
  rw [recipe_need_eq exactBom] at needed ⊢
  have nonempty : (((loc.explode bom product).filter odoo.constrains).filter fun line =>
      line.productId = item) ≠ [] := by
    intro empty
    rw [empty] at needed
    exact needed rfl
  obtain ⟨line, member⟩ := List.exists_mem_of_ne_nil _ nonempty
  rw [List.mem_filter, decide_eq_true_eq] at member
  refine ⟨line, member.1, member.2, ?_⟩
  rw [← member.2, filter_key_eq nodup member.1, List.map_singleton, List.sum_singleton]

/-- The batches that a line allows take no more of its component than there will be. -/
theorem batches_mul_lineNeed_le (exactBom : odoo.ExactBom loc product bom) {line : BomLine ι}
    (listed : line ∈ loc.explode bom product) (constrains : odoo.constrains line = true)
    {made converted : ℚ} (some_made : odoo.MadeQty loc line.productId made)
    (positive : 0 < loc.qtyField line.productId + made)
    (conversion : odoo.toLineUom line (loc.qtyField line.productId + made) = some converted)
    {batches : ℤ} (allowed : batches ≤ ⌊converted / line.qty⌋) :
    batches * odoo.lineNeed line ≤ loc.qtyField line.productId + made := by
  have exactly := exactBom.available line listed constrains made some_made converted conversion
  have unit := (odoo.product line.productId).uomId.factor_pos
  have lineUnit := line.productUomId.factor_pos
  rcases line.qty_nonneg.eq_or_lt with none | some
  · rw [lineNeed, ← none]
    simpa using positive.le
  · have total : batches * line.qty ≤ converted :=
      (le_div_iff₀ some).mp (Int.le_floor.mp allowed)
    calc batches * odoo.lineNeed line
        = batches * line.qty / line.productUomId.factor *
            (odoo.product line.productId).uomId.factor := by
          rw [lineNeed]
          ring
      _ ≤ (loc.qtyField line.productId + made) / (odoo.product line.productId).uomId.factor *
            line.productUomId.factor / line.productUomId.factor *
              (odoo.product line.productId).uomId.factor := by
          exact mul_le_mul_of_nonneg_right
            (div_le_div_of_nonneg_right (total.trans exactly) lineUnit.le) unit.le
      _ = loc.qtyField line.productId + made := by
          field_simp

/-- Bills in the units of their products are exact. -/
theorem exactBom_of_uom (uom : (odoo.product product).uomId = bom.productUomId)
    (lineUom : ∀ line ∈ loc.explode bom product,
      line.productUomId = (odoo.product line.productId).uomId)
    (zero : ∀ line ∈ loc.explode bom product, odoo.isRequiredZero line = true → line.qty = 0) :
    odoo.ExactBom loc product bom where
  output := by
    intro batches made total
    have same : ¬ (batches * bom.productQty ≠ 0 ∧ (odoo.product product).uomId ≠ bom.productUomId ∧
        (odoo.product product).uomId.categoryId = bom.productUomId.categoryId) :=
      fun differ => differ.2.1 uom
    rw [batchesQty, if_neg same, Option.some.injEq] at total
    have unit := bom.productUomId.factor_pos.ne'
    rw [← total, recipe, uom, div_mul_cancel₀ _ unit]
  available := by
    intro line listed _ made _ converted conversion
    have unit := (odoo.product line.productId).uomId.factor_pos.ne'
    rw [toLineUom, if_neg (not_not.mpr (lineUom line listed)), Option.some.injEq] at conversion
    rw [← conversion, lineUom line listed, div_mul_cancel₀ _ unit]
  zero := fun line listed _ => zero line listed

/-! ## Products that serve several lines -/

variable (odoo)

/-- Components of all lines that computing the quantity visits. -/
def demanded [Fintype ι] (loc : Warehouse ι) (visited : Finset ι) (product : ι) : List ι :=
  if _ : product ∈ visited then []
  else
    match loc.bomFind product with
    | none => []
    | some bom => ((loc.explode bom product).filter odoo.constrains).flatMap fun line =>
        line.productId :: if odoo.hasOwnBom line.productId then
          demanded loc (insert product visited) line.productId else []
termination_by visitedᶜ.card
decreasing_by
  exact Finset.card_lt_card (Finset.compl_ssubset_compl.mpr
    (Finset.ssubset_insert ‹product ∉ visited›))

variable [Fintype ι]

/-- Products that serve a line: its component and what is visited below it. -/
def reserve (loc : Warehouse ι) (visited : Finset ι) (line : BomLine ι) : List ι :=
  line.productId :: if odoo.hasOwnBom line.productId then
    odoo.demanded loc visited line.productId else []

theorem demanded_of_some {loc : Warehouse ι} {visited : Finset ι} {product : ι} {bom : Bom}
    (fresh : product ∉ visited) (found : loc.bomFind product = some bom) :
    odoo.demanded loc visited product =
      ((loc.explode bom product).filter odoo.constrains).flatMap
        (odoo.reserve loc (insert product visited)) := by
  rw [demanded, dif_neg fresh, found]
  rfl

/-- No product serves two lines, and products whose bill is missing are out of stock. -/
structure Independent (loc : Warehouse ι) (visited : Finset ι) (product : ι) : Prop where
  nodup : (product :: odoo.demanded loc visited product).Nodup
  supplied : ∀ item ∈ product :: odoo.demanded loc visited product,
    (item = product ∨ odoo.hasOwnBom item = true) → loc.bomFind item = none → loc.qtyField item ≤ 0
  exact : ∀ item ∈ product :: odoo.demanded loc visited product, ∀ bom,
    loc.bomFind item = some bom → odoo.ExactBom loc item bom

/-! ## Production under the condition -/

variable {odoo} {visited : Finset ι}

/-- A computed quantity is made by a bill, except that a product without one counts its stock. -/
theorem madeQty_of_computeQtyProducible {made : ℚ}
    (result : odoo.computeQtyProducible loc visited product = some made) :
    odoo.MadeQty loc product made ∨ loc.bomFind product = none ∧ made = loc.qtyField product := by
  by_cases seen : product ∈ visited
  · rw [computeQtyProducible_of_mem seen] at result
    exact Or.inl (Or.inl (Option.some.inj result).symm)
  · cases found : loc.bomFind product with
    | none =>
        rw [computeQtyProducible_of_none seen found] at result
        exact Or.inr ⟨rfl, (Option.some.inj result).symm⟩
    | some bom =>
        rw [computeQtyProducible_of_some seen found] at result
        obtain ⟨minimum, _, total⟩ := Option.bind_eq_some_iff.mp result
        left
        cases minimum with
        | none => exact Or.inl (Option.some.inj total).symm
        | some batches =>
            rw [totalProducible] at total
            split at total
            · exact Or.inl (Option.some.inj total).symm
            · exact Or.inr ⟨bom, batches, found, total⟩

theorem nodup_productId {lines : List (BomLine ι)}
    (nodup : (lines.flatMap (odoo.reserve loc visited)).Nodup) :
    (lines.map BomLine.productId).Nodup := by
  rw [List.Nodup, List.pairwise_map]
  refine (List.nodup_flatMap.mp nodup).2.imp fun disjoint same => ?_
  exact disjoint List.mem_cons_self (same ▸ List.mem_cons_self)

theorem Independent.of_line (independent : odoo.Independent loc visited product)
    (fresh : product ∉ visited) (found : loc.bomFind product = some bom) {line : BomLine ι}
    (member : line ∈ (loc.explode bom product).filter odoo.constrains)
    (ownBom : odoo.hasOwnBom line.productId = true) :
    odoo.Independent loc (insert product visited) line.productId := by
  have reserved : line.productId :: odoo.demanded loc (insert product visited) line.productId =
      odoo.reserve loc (insert product visited) line := by
    rw [reserve, if_pos ownBom]
  have demanded := odoo.demanded_of_some fresh found
  have subset : ∀ item ∈ odoo.reserve loc (insert product visited) line,
      item ∈ product :: odoo.demanded loc visited product := by
    intro item inReserve
    rw [demanded]
    exact List.mem_cons_of_mem _ (List.mem_flatMap.mpr ⟨line, member, inReserve⟩)
  have nodup := (List.nodup_cons.mp independent.nodup).2
  rw [demanded] at nodup
  refine ⟨?_, fun item inReserve rooted => ?_, fun item inReserve => ?_⟩
  · rw [reserved]
    exact (List.nodup_flatMap.mp nodup).1 line member
  · rw [reserved] at inReserve
    refine independent.supplied item (subset item inReserve) (Or.inr ?_)
    rcases rooted with rfl | own
    · exact ownBom
    · exact own
  · rw [reserved] at inReserve
    exact independent.exact item (subset item inReserve)

/-- What a line counts on can be made without touching products of other lines. -/
theorem serves_of_line (independent : odoo.Independent loc visited product)
    (fresh : product ∉ visited) (found : loc.bomFind product = some bom) {line : BomLine ι}
    (member : line ∈ (loc.explode bom product).filter odoo.constrains)
    (below : ∀ component, odoo.Independent loc (insert product visited) component → ∀ made,
      odoo.computeQtyProducible loc (insert product visited) component = some made →
        Serves (odoo.recipes loc) loc.qtyField
          (component :: odoo.demanded loc (insert product visited) component) component
          (loc.qtyField component + made))
    {batches : ℤ}
    (allows : odoo.Allows loc (odoo.computeQtyProducible loc (insert product visited)) batches
      line) :
    Serves (odoo.recipes loc) loc.qtyField (odoo.reserve loc (insert product visited) line)
      line.productId (batches * odoo.lineNeed line) := by
  obtain ⟨listed, constrains⟩ := List.mem_filter.mp member
  obtain ⟨available, converted, counted, positive, conversion, allowed⟩ := allows
  have exactBom := independent.exact product List.mem_cons_self bom found
  rw [availableComponentQty] at counted
  split at counted
  · rename_i ownBom
    obtain ⟨made, computed, rfl⟩ := Option.map_eq_some_iff.mp counted
    have own := independent.of_line fresh found member ownBom
    rw [reserve, if_pos ownBom]
    refine (below _ own made computed).mono ?_
    rcases madeQty_of_computeQtyProducible computed with made | ⟨missing, rfl⟩
    · exact batches_mul_lineNeed_le exactBom listed constrains made positive conversion allowed
    · have supplied := own.supplied _ List.mem_cons_self (Or.inl rfl) missing
      linarith
  · rw [← Option.some.inj counted, ← add_zero (loc.qtyField line.productId)] at positive conversion
    refine serves_self List.mem_cons_self ?_
    rw [← add_zero (loc.qtyField line.productId)]
    exact batches_mul_lineNeed_le exactBom listed constrains (Or.inl rfl) positive conversion
      allowed

theorem recipe_need_self (independent : odoo.Independent loc visited product)
    (fresh : product ∉ visited) (found : loc.bomFind product = some bom) :
    (odoo.recipe loc product bom).need product = 0 := by
  have exactBom := independent.exact product List.mem_cons_self bom found
  have outside := (List.nodup_cons.mp independent.nodup).1
  rw [odoo.demanded_of_some fresh found] at outside
  rw [recipe_need_eq exactBom, filter_key_of_absent, List.map_nil, List.sum_nil]
  intro line member same
  refine outside (List.mem_flatMap.mpr ⟨line, member, ?_⟩)
  rw [reserve, same]
  exact List.mem_cons_self

/-- A whole number of batches is made when every line can be served. -/
theorem serves_of_batches (independent : odoo.Independent loc visited product)
    (fresh : product ∉ visited) (found : loc.bomFind product = some bom) (batches : ℕ)
    (served : ∀ line ∈ (loc.explode bom product).filter odoo.constrains,
      Serves (odoo.recipes loc) loc.qtyField (odoo.reserve loc (insert product visited) line)
        line.productId (batches * odoo.lineNeed line)) :
    Serves (odoo.recipes loc) loc.qtyField (product :: odoo.demanded loc visited product) product
      (loc.qtyField product + batches * (odoo.recipe loc product bom).output) := by
  intro stock agree
  have exactBom := independent.exact product List.mem_cons_self bom found
  have apart := recipe_need_self independent fresh found
  obtain ⟨outside, nodup⟩ := List.nodup_cons.mp independent.nodup
  rw [odoo.demanded_of_some fresh found] at nodup outside agree ⊢
  obtain ⟨middle, first, reached, kept⟩ := serves_all (fun line => batches * odoo.lineNeed line)
    (fun _ => List.mem_cons_self) nodup served
    fun item member => agree item (List.mem_cons_of_mem _ member)
  have needed : ∀ item, (odoo.recipe loc product bom).need item ≠ 0 →
      item ∈ ((loc.explode bom product).filter odoo.constrains).flatMap
        (odoo.reserve loc (insert product visited)) ∧
      batches * (odoo.recipe loc product bom).need item ≤ middle item := by
    intro item needs
    obtain ⟨line, member, rfl, amount⟩ :=
      exists_line_of_need exactBom (nodup_productId nodup) needs
    rw [amount]
    exact ⟨List.mem_flatMap.mpr ⟨line, member, List.mem_cons_self⟩, reached line member⟩
  have recipe : odoo.recipes loc product = some (odoo.recipe loc product bom) := by
    rw [recipes, found, Option.map_some]
  have second := production_batches recipe apart batches fun item needs => (needed item needs).2
  refine ⟨_, first.trans second, ?_, fun item untouched => ?_⟩
  · rw [Recipe.stockAfter, if_pos rfl, apart, mul_zero, sub_zero, kept product outside,
      agree product List.mem_cons_self]
  · rw [List.mem_cons, not_or] at untouched
    rw [Recipe.stockAfter_of_ne untouched.1, ← kept item untouched.2]
    have unused : (odoo.recipe loc product bom).need item = 0 := by
      by_contra needs
      exact untouched.2 (needed item needs).1
    rw [unused, mul_zero, sub_zero]

/-- The computed quantity can be made of the product's own components. -/
theorem serves_of_computeQtyProducible (loc : Warehouse ι) (visited : Finset ι) (product : ι)
    (independent : odoo.Independent loc visited product) (made : ℚ)
    (computed : odoo.computeQtyProducible loc visited product = some made) :
    Serves (odoo.recipes loc) loc.qtyField (product :: odoo.demanded loc visited product) product
      (loc.qtyField product + made) := by
  induction visited, product using computeQtyProducible.induct loc generalizing made with
  | case1 visited product seen =>
      rw [computeQtyProducible_of_mem seen] at computed
      exact serves_of_nonpos List.mem_cons_self (Option.some.inj computed).ge
  | case2 visited product fresh noBom =>
      rw [computeQtyProducible_of_none fresh noBom] at computed
      have supplied := independent.supplied product List.mem_cons_self (Or.inl rfl) noBom
      exact serves_of_nonpos List.mem_cons_self ((Option.some.inj computed).symm.trans_le supplied)
  | case3 visited product fresh bom found induction =>
      rw [computeQtyProducible_of_some fresh found] at computed
      obtain ⟨minimum, least, total⟩ := Option.bind_eq_some_iff.mp computed
      cases minimum with
      | none => exact serves_of_nonpos List.mem_cons_self (Option.some.inj total).ge
      | some batches =>
          rw [totalProducible] at total
          split at total
          · exact serves_of_nonpos List.mem_cons_self (Option.some.inj total).ge
          · rename_i nonzero
            have exactBom := independent.exact product List.mem_cons_self bom found
            have output : 0 < (odoo.recipe loc product bom).output :=
              mul_pos (div_pos bom.productQty_pos bom.productUomId.factor_pos)
                (odoo.product product).uomId.factor_pos
            have most := exactBom.output batches made total
            rcases Int.le_total batches 0 with negative | positive
            · refine serves_of_nonpos List.mem_cons_self
                (most.trans (mul_nonpos_of_nonpos_of_nonneg ?_ output.le))
              exact_mod_cast negative
            · obtain ⟨count, rfl⟩ := Int.eq_ofNat_of_zero_le positive
              refine (serves_of_batches independent fresh found count fun line member => ?_).mono
                (by simpa using most)
              obtain ⟨listed, constrains⟩ := List.mem_filter.mp member
              have served := serves_of_line independent fresh found member induction
                ((minPossibleQty_allows nonzero least).2 line listed constrains)
              simpa using served

/-- The exported quantity can be made. -/
def IsReliable (odoo : Odoo ι) (loc : Warehouse ι) (product : ι) : Prop :=
  ∀ qty, odoo.computeQtyProducible loc ∅ product = some qty → odoo.Manufacturable loc product qty

end Odoo

/-! ## Two warehouses -/

inductive Furniture where
  | table
  | top
  | leg
  | wood
deriving DecidableEq

instance : Fintype Furniture where
  elems := {.table, .top, .leg, .wood}
  complete := by
    intro item
    cases item <;> decide

def unitUom : Uom where
  id := 1
  categoryId := 1
  factor := 1
  rounding := 1 / 100
  factor_pos := one_pos

/-- Every product is stored by the unit; tables and legs are made. -/
def furnitureOdoo : Odoo Furniture where
  product
    | .table | .leg => ⟨.product, unitUom, [.normal]⟩
    | .top | .wood => ⟨.product, unitUom, []⟩
  floatIsZero value rounding := max value (-value) < rounding / 2
  computeQuantity source qty target :=
    if source.categoryId = target.categoryId then
      some (⌈qty / source.factor * target.factor / target.rounding⌉ * target.rounding)
    else none

def unitBom (id : ℕ) : Bom := ⟨id, 1, unitUom, one_pos⟩

def unitLine (component : Furniture) (qty : ℕ) : BomLine Furniture :=
  ⟨component, unitUom, qty, Nat.cast_nonneg qty⟩

/-- A leg takes wood for its ends and wood for its middle; there is wood for one of them. -/
def scarceWood : Warehouse Furniture where
  qtyField
    | .wood => 1
    | _ => 0
  bomFind
    | .leg => some (unitBom 1)
    | _ => none
  explode _ _ := [unitLine .wood 1, unitLine .wood 1]

/-- A table takes a top and four legs; there is one leg, and wood for more. -/
def workshop : Warehouse Furniture where
  qtyField
    | .table => 0
    | .top => 5
    | .leg => 1
    | .wood => 10
  bomFind
    | .table => some (unitBom 1)
    | .leg => some (unitBom 2)
    | _ => none
  explode bom _ :=
    if bom.id = 1 then [unitLine .top 1, unitLine .leg 4] else [unitLine .wood 1]

private theorem workshop_exactBom (product : Furniture) {bom : Bom}
    (found : workshop.bomFind product = some bom) :
    furnitureOdoo.ExactBom workshop product bom := by
  cases product with
  | table =>
      obtain rfl := Option.some.inj found
      exact Odoo.exactBom_of_uom rfl (by decide +kernel) (by decide +kernel)
  | leg =>
      obtain rfl := Option.some.inj found
      exact Odoo.exactBom_of_uom rfl (by decide +kernel) (by decide +kernel)
  | top => contradiction
  | wood => contradiction

private theorem bomFind_table : workshop.bomFind .table = some (unitBom 1) := rfl

private theorem bomFind_leg : workshop.bomFind .leg = some (unitBom 2) := rfl

private theorem demanded_workshop : furnitureOdoo.demanded workshop ∅ .table =
    [.top, .leg, .wood] := by
  have leg : furnitureOdoo.demanded workshop {.table} .leg = [.wood] := by
    rw [Odoo.demanded_of_some _ (by decide) bomFind_leg]
    decide +kernel
  have lines : (workshop.explode (unitBom 1) .table).filter furnitureOdoo.constrains =
      [unitLine .top 1, unitLine .leg 4] := by decide +kernel
  rw [Odoo.demanded_of_some _ (Finset.notMem_empty _) bomFind_table, lines]
  change [.top] ++ (.leg :: furnitureOdoo.demanded workshop {.table} .leg) ++ [] = _
  rw [leg]
  rfl

private theorem workshop_computed :
    furnitureOdoo.computeQtyProducible workshop ∅ .table = some 2 := by
  have leg : furnitureOdoo.computeQtyProducible workshop {.table} .leg = some 10 := by
    rw [Odoo.computeQtyProducible_of_some (by decide) bomFind_leg]
    decide +kernel
  have components : ∀ line ∈ workshop.explode (unitBom 1) .table,
      furnitureOdoo.hasOwnBom line.productId = true →
        furnitureOdoo.computeQtyProducible workshop {.table} line.productId = some 10 := by
    intro line listed ownBom
    rcases List.mem_pair.mp listed with rfl | rfl
    · contradiction
    · exact leg
  rw [Odoo.computeQtyProducible_of_some (Finset.notMem_empty _) bomFind_table,
    insert_empty_eq, Odoo.minPossibleQty_congr (fun _ => some 10) components]
  decide +kernel

end OdooConnector.Inventory
