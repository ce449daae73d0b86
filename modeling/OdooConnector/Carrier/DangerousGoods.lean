import Mathlib.Algebra.Order.BigOperators.Group.List
import OdooConnector.Library.Rounding
import OdooConnector.Library.Totals

/-!
# Dangerous goods of a picking

The packed quantities of a picking are collected for each package and product, and the dangerous
goods lines of the products are merged by their ONU number.
-/

namespace OdooConnector.Carrier

/-- `product.dangerous.goods.line` -/
structure DangerousGoodsLine where
  noOnu : String
  groupeEmballage : Option String
  classeAdr : Option String
  codeTypeEmballage : Option String
  nomTechnique : Option String
  codeQuantite : Option String
  dangerEnv : Bool
  poidsMatiereDangereuse : ℚ

/-- `stock.move.line` -/
structure MoveLine (ι π : Type) where
  resultPackageId : Option ι
  productId : Option π
  quantity : ℚ
  qtyDone : ℚ

structure Picking (ι π : Type) where
  packageIds : List ι
  moveLineIds : List (MoveLine ι π)

/-- A move line that passes the filter. -/
structure PackedLine (ι π : Type) where
  package : ι
  product : π
  quantity : ℚ
  qtyDone : ℚ

/-- What is declared of a goods line besides its number, its weight and the packages. -/
structure GoodsAttributes where
  groupeEmballage : String
  classeAdr : String
  codeTypeEmballage : String
  nomTechnique : String
  codeQuantite : String
  dangerEnv : Bool
deriving DecidableEq

structure AggregatedGoods (ι : Type) extends GoodsAttributes where
  noOnu : String
  poidsVolume : ℚ
  packageIds : Finset ι

/-- An element of `listMatieresDangereuses`. -/
structure DeclaredGoods extends GoodsAttributes where
  noOnu : String
  nbEmballages : ℕ
  poidsVolume : ℚ
deriving DecidableEq

def DangerousGoodsLine.attributes (line : DangerousGoodsLine) : GoodsAttributes where
  groupeEmballage := line.groupeEmballage.getD ""
  classeAdr := line.classeAdr.getD ""
  codeTypeEmballage := line.codeTypeEmballage.getD ""
  nomTechnique := line.nomTechnique.getD ""
  codeQuantite := line.codeQuantite.getD ""
  dangerEnv := line.dangerEnv

variable {ι π : Type} [DecidableEq ι] [DecidableEq π]

def MoveLine.packed? (packageIds : List ι) (line : MoveLine ι π) : Option (PackedLine ι π) :=
  match line.resultPackageId, line.productId with
  | some package, some product =>
      if package ∈ packageIds ∧ 0 < line.quantity then
        some ⟨package, product, line.quantity, line.qtyDone⟩
      else none
  | _, _ => none

namespace Picking

variable (picking : Picking ι π) (dangerousGoodsLineIds : π → List DangerousGoodsLine)

def packagedMoveLines : List (PackedLine ι π) :=
  picking.moveLineIds.filterMap (MoveLine.packed? picking.packageIds)

def getPackagedQuantitiesByPackage : Dict ι (Dict π ℚ) :=
  if picking.packageIds = [] then ∅
  else Dict.updateAll PackedLine.package
    (fun line bucket => (bucket.getD ∅).update line.product fun qty => qty.getD 0 + line.qtyDone) ∅
    picking.packagedMoveLines

/-- One goods line of a product of which there is a quantity in a package. -/
def aggregateLine (package : ι) (qty : ℚ) (aggregated : Dict String (AggregatedGoods ι))
    (line : DangerousGoodsLine) : Dict String (AggregatedGoods ι) :=
  if line.noOnu = "" then aggregated
  else aggregated.update line.noOnu fun item =>
    let item := item.getD
      { line.attributes with noOnu := line.noOnu, poidsVolume := 0, packageIds := ∅ }
    { item with
      poidsVolume := item.poidsVolume + line.poidsMatiereDangereuse * qty
      packageIds := insert package item.packageIds }

def aggregateDangerousGoodsByOnu : Dict String (AggregatedGoods ι) :=
  picking.getPackagedQuantitiesByPackage.entries.foldl (fun aggregated bucket =>
    bucket.2.entries.foldl (fun aggregated entry =>
      (dangerousGoodsLineIds entry.1).foldl (aggregateLine bucket.1 entry.2) aggregated)
      aggregated) ∅

def declare (item : AggregatedGoods ι) : DeclaredGoods :=
  { item.toGoodsAttributes with
    noOnu := item.noOnu
    nbEmballages := item.packageIds.card
    poidsVolume := roundDigits 6 item.poidsVolume }

def buildGeodisDangerousGoodsList : List DeclaredGoods :=
  let aggregated := picking.aggregateDangerousGoodsByOnu dangerousGoodsLineIds
  (aggregated.keys.mergeSort (· ≤ ·)).filterMap fun key => (aggregated.get? key).map declare

/-! ### The loops as one -/

/-- A goods line, with the package and the quantity that it stands for. -/
structure Portion (ι : Type) where
  package : ι
  qty : ℚ
  line : DangerousGoodsLine

/-- The goods lines with a number, in the order in which they are met. -/
def portions : List (Portion ι) :=
  picking.getPackagedQuantitiesByPackage.entries.flatMap fun bucket =>
    bucket.2.entries.flatMap fun entry =>
      ((dangerousGoodsLineIds entry.1).filter fun line => line.noOnu ≠ "").map
        (Portion.mk bucket.1 entry.2)

def Portion.aggregate (portion : Portion ι) (item : Option (AggregatedGoods ι)) :
    AggregatedGoods ι :=
  let line := portion.line
  let item := item.getD
    { line.attributes with noOnu := line.noOnu, poidsVolume := 0, packageIds := ∅ }
  { item with
    poidsVolume := item.poidsVolume + line.poidsMatiereDangereuse * portion.qty
    packageIds := insert portion.package item.packageIds }

theorem aggregate_eq_updateAll :
    picking.aggregateDangerousGoodsByOnu dangerousGoodsLineIds =
      Dict.updateAll (fun portion => portion.line.noOnu) Portion.aggregate ∅
        (picking.portions dangerousGoodsLineIds) := by
  rw [aggregateDangerousGoodsByOnu, Dict.updateAll, portions, List.foldl_flatMap]
  congr 1
  funext aggregated bucket
  rw [List.foldl_flatMap]
  congr 1
  funext aggregated entry
  rw [List.foldl_map, List.foldl_filter]
  congr 1
  funext aggregated line
  by_cases unnamed : line.noOnu = ""
  · rw [aggregateLine, if_pos unnamed, if_neg (by simp [unnamed])]
  · rw [aggregateLine, if_neg unnamed, if_pos (by simp [unnamed])]
    rfl

/-- The goods merged under a number have the attributes of the first portion. -/
theorem foldl_aggregate (first : Portion ι) (others : List (Portion ι)) :
    (first :: others).foldl (fun item portion => some (portion.aggregate item)) none =
      some { first.line.attributes with
        noOnu := first.line.noOnu
        poidsVolume := ((first :: others).map fun portion =>
          portion.line.poidsMatiereDangereuse * portion.qty).sum
        packageIds := ((first :: others).map Portion.package).toFinset } := by
  induction others using List.reverseRecOn with
  | nil => simp [Portion.aggregate]
  | append_singleton others last induction =>
      rw [← List.cons_append, List.foldl_append, induction, List.foldl_cons, List.foldl_nil,
        Portion.aggregate]
      simp only [Option.getD_some, List.map_append, List.sum_append, List.map_singleton,
        List.sum_singleton, List.toFinset_append]
      congr 2
      ext package
      simp [or_left_comm]

end Picking

end OdooConnector.Carrier
