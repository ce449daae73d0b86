import Mathlib.Algebra.BigOperators.Ring.List
import Mathlib.Data.List.Sort
import OdooConnector.Carrier.DangerousGoods
import OdooConnector.Library.NestedDict

/-!
# What the list of dangerous goods declares

Each ONU number has one entry, with the weight of all its lines by done quantities, with the
packages that hold it and with the attributes of the line that is met first.
-/

namespace OdooConnector.Carrier.Picking

variable {ι π : Type} (goods : π → List DangerousGoodsLine)

/-! ### Packed quantities -/

/-- The first goods line of a product with a number. -/
def firstGoods (product : π) (number : String) : Option DangerousGoodsLine :=
  (goods product).find? fun line => line.noOnu = number

/-- The weight of the goods with a number in a unit of a product. -/
def unitWeight (product : π) (number : String) : ℚ :=
  (((goods product).filter fun line => line.noOnu = number).map
    DangerousGoodsLine.poidsMatiereDangereuse).sum

section

variable {goods} {number : String}

theorem isSome_firstGoods_iff {product : π} :
    (firstGoods goods product number).isSome ↔ ∃ line ∈ goods product, line.noOnu = number := by
  rw [firstGoods, List.find?_isSome]
  simp

theorem mem_of_firstGoods {product : π} {goodsLine : DangerousGoodsLine}
    (first : firstGoods goods product number = some goodsLine) :
    goodsLine ∈ goods product ∧ goodsLine.noOnu = number := by
  rw [firstGoods] at first
  have same := List.find?_some first
  exact ⟨List.mem_of_find?_eq_some first, by simpa using same⟩

theorem find?_lines (named : number ≠ "") (package : ι) (product : π) (qty : ℚ) :
    ((((goods product).filter fun line => line.noOnu ≠ "").map (Portion.mk package qty)).find?
      fun portion => portion.line.noOnu = number) =
        (firstGoods goods product number).map (Portion.mk package qty) := by
  rw [List.find?_map, List.find?_filter, firstGoods]
  congr 2
  funext line
  by_cases equal : line.noOnu = number
  · simp [equal, named]
  · simp [equal]

/-- The goods lines of a product weigh its quantity times the weight of a unit. -/
theorem weight_lines (named : number ≠ "") (package : ι) (product : π) (qty : ℚ) :
    (((((goods product).filter fun line => line.noOnu ≠ "").map (Portion.mk package qty)).filter
      fun portion => portion.line.noOnu = number).map
        fun portion => portion.line.poidsMatiereDangereuse * portion.qty).sum =
      qty * unitWeight goods product number := by
  have same : (((goods product).filter fun line => line.noOnu ≠ "").filter
      fun line => line.noOnu = number) =
        (goods product).filter fun line => line.noOnu = number := by
    rw [List.filter_filter]
    refine List.filter_congr fun line _ => ?_
    by_cases equal : line.noOnu = number
    · simp [equal, named]
    · simp [equal]
  rw [List.filter_map, List.map_map]
  simp only [Function.comp_def]
  rw [same, unitWeight, mul_comm, ← List.sum_map_mul_right]

end

variable [DecidableEq ι] (picking : Picking ι π)

/-- The weight of the goods with a number, by one of the quantities of a line. -/
def weight (quantity : PackedLine ι π → ℚ) (number : String) : ℚ :=
  (picking.packagedMoveLines.map fun line =>
    quantity line * unitWeight goods line.product number).sum

/-- The packages that hold goods with a number. -/
def holders (number : String) : Finset ι :=
  ((picking.packagedMoveLines.filter fun line =>
    (firstGoods goods line.product number).isSome).map PackedLine.package).toFinset

variable {goods} {number : String} in
theorem mem_holders_iff {package : ι} :
    package ∈ picking.holders goods number ↔
      ∃ line ∈ picking.packagedMoveLines, line.package = package ∧
        ∃ goodsLine ∈ goods line.product, goodsLine.noOnu = number := by
  rw [holders, List.mem_toFinset, List.mem_map]
  simp only [List.mem_filter, isSome_firstGoods_iff]
  constructor
  · rintro ⟨line, ⟨member, carries⟩, same⟩
    exact ⟨line, member, same, carries⟩
  · rintro ⟨line, member, same, carries⟩
    exact ⟨line, ⟨member, carries⟩, same⟩

/-! ### Orders of the lines -/

section

variable {goods} {picking} {number : String}

/-- Any packed line comes first in some order. -/
theorem exists_order {line : PackedLine ι π} (packed : line ∈ picking.packagedMoveLines) :
    ∃ other : Picking ι π, other.moveLineIds.Perm picking.moveLineIds ∧
      other.packageIds = picking.packageIds ∧ ∃ rest, other.packagedMoveLines = line :: rest := by
  obtain ⟨move, member, kept⟩ := List.mem_filterMap.mp packed
  obtain ⟨before, after, split⟩ := List.append_of_mem member
  refine ⟨{ picking with moveLineIds := move :: (before ++ after) }, ?_, rfl,
    (before ++ after).filterMap (MoveLine.packed? picking.packageIds), ?_⟩
  · rw [split]
    exact List.perm_middle.symm
  · exact List.filterMap_cons_some kept

variable {other : Picking ι π} (lines : other.moveLineIds.Perm picking.moveLineIds)
  (packages : other.packageIds.Perm picking.packageIds)
include lines packages

theorem packaged_perm : other.packagedMoveLines.Perm picking.packagedMoveLines := by
  have same : (MoveLine.packed? other.packageIds : MoveLine ι π → _) =
      MoveLine.packed? picking.packageIds := by
    funext line
    simp only [MoveLine.packed?, packages.mem_iff]
  rw [packagedMoveLines, packagedMoveLines, same]
  exact lines.filterMap _

theorem holders_perm : other.holders goods number = picking.holders goods number := by
  have perm := packaged_perm lines packages
  ext package
  simp only [mem_holders_iff, perm.mem_iff]

theorem weight_perm (quantity : PackedLine ι π → ℚ) :
    other.weight goods quantity number = picking.weight goods quantity number :=
  ((packaged_perm lines packages).map _).sum_eq

end

variable [DecidableEq π]

/-! ### Quantities by package -/

theorem packaged_eq_updateAll :
    picking.getPackagedQuantitiesByPackage =
      Dict.updateAll PackedLine.package
        (fun line bucket =>
          (bucket.getD ∅).update line.product fun qty => qty.getD 0 + line.qtyDone) ∅
        picking.packagedMoveLines := by
  rw [getPackagedQuantitiesByPackage]
  split
  · rename_i none
    have unpacked : picking.packagedMoveLines = [] := by
      rw [packagedMoveLines, none, List.filterMap_eq_nil_iff]
      intro line _
      rw [MoveLine.packed?]
      split
      · exact if_neg (by simp)
      · rfl
    rw [unpacked]
    rfl
  · rfl

/-- The lines of one package. -/
def bucketLines (package : ι) : List (PackedLine ι π) :=
  picking.packagedMoveLines.filter fun line => line.package = package

theorem get?_packaged (package : ι) :
    picking.getPackagedQuantitiesByPackage.get? package =
      if picking.bucketLines package = [] then none
      else some (Dict.updateAll PackedLine.product (fun line qty => qty.getD 0 + line.qtyDone) ∅
        (picking.bucketLines package)) := by
  rw [packaged_eq_updateAll]
  exact Dict.get?_updateAll_nested PackedLine.package PackedLine.product
    (fun line qty => qty.getD 0 + line.qtyDone) picking.packagedMoveLines package

/-- A package has a quantity of a product where a line puts one there. -/
theorem mem_packaged_iff {package : ι} {product : π} :
    (∃ bucket, (package, bucket) ∈ picking.getPackagedQuantitiesByPackage.entries ∧
      ∃ qty, (product, qty) ∈ bucket.entries) ↔
      ∃ line ∈ picking.packagedMoveLines, line.package = package ∧ line.product = product := by
  have keys (bucket : Dict π ℚ) : (∃ qty, (product, qty) ∈ bucket.entries) ↔
      product ∈ bucket.keys := by
    rw [Dict.keys, List.mem_map]
    constructor
    · rintro ⟨qty, member⟩
      exact ⟨_, member, rfl⟩
    · rintro ⟨entry, member, rfl⟩
      exact ⟨entry.2, member⟩
  simp only [← Dict.get?_eq_some_iff, get?_packaged]
  constructor
  · rintro ⟨bucket, found, qty, stored⟩
    split at found
    · contradiction
    · obtain rfl := Option.some.inj found
      have listed := (keys _).mp ⟨qty, (Dict.get?_eq_some_iff _ _ _).mp stored⟩
      rw [Dict.mem_keys_updateAll] at listed
      rcases listed with none | ⟨line, member, same⟩
      · exact absurd none List.not_mem_nil
      · rw [bucketLines, List.mem_filter] at member
        exact ⟨line, member.1, of_decide_eq_true member.2, same⟩
  · rintro ⟨line, member, same, rfl⟩
    have kept : line ∈ picking.bucketLines package :=
      List.mem_filter.mpr ⟨member, decide_eq_true same⟩
    have listed := (Dict.mem_keys_updateAll PackedLine.product
      (fun line qty => qty.getD 0 + line.qtyDone) ∅ (picking.bucketLines package)
      line.product).mpr (.inr ⟨line, kept, rfl⟩)
    obtain ⟨qty, stored⟩ := (keys _).mpr listed
    exact ⟨_, if_neg (List.ne_nil_of_mem kept), qty, (Dict.get?_eq_some_iff _ _ _).mpr stored⟩

/-! ### Goods with one number -/

variable {goods}

theorem mem_portions_iff {portion : Portion ι} :
    portion ∈ picking.portions goods ↔
      ∃ bucket, (portion.package, bucket) ∈ picking.getPackagedQuantitiesByPackage.entries ∧
        ∃ product, (product, portion.qty) ∈ bucket.entries ∧ portion.line ∈ goods product ∧
          portion.line.noOnu ≠ "" := by
  obtain ⟨package, qty, line⟩ := portion
  simp only [portions, List.mem_flatMap, List.mem_map, List.mem_filter, decide_eq_true_eq,
    Portion.mk.injEq, Prod.exists]
  constructor
  · rintro ⟨_, bucket, outer, product, _, inner, _, ⟨listed, named⟩, rfl, rfl, rfl⟩
    exact ⟨bucket, outer, product, inner, listed, named⟩
  · rintro ⟨bucket, outer, product, inner, listed, named⟩
    exact ⟨package, bucket, outer, product, qty, inner, line, ⟨listed, named⟩, rfl, rfl, rfl⟩

variable {number : String}

variable (goods) in
theorem packages_portions (named : number ≠ "") :
    (((picking.portions goods).filter fun portion => portion.line.noOnu = number).map
      Portion.package).toFinset = picking.holders goods number := by
  ext package
  rw [List.mem_toFinset, List.mem_map, mem_holders_iff]
  constructor
  · rintro ⟨portion, member, rfl⟩
    obtain ⟨listed, same⟩ := List.mem_filter.mp member
    obtain ⟨bucket, outer, product, inner, carried, -⟩ := picking.mem_portions_iff.mp listed
    obtain ⟨line, packed, package, rfl⟩ :=
      picking.mem_packaged_iff.mp ⟨bucket, outer, portion.qty, inner⟩
    exact ⟨line, packed, package, portion.line, carried, of_decide_eq_true same⟩
  · rintro ⟨line, packed, rfl, goodsLine, carried, same⟩
    obtain ⟨bucket, outer, qty, inner⟩ := picking.mem_packaged_iff.mpr ⟨line, packed, rfl, rfl⟩
    have listed : ⟨line.package, qty, goodsLine⟩ ∈ picking.portions goods :=
      picking.mem_portions_iff.mpr
        ⟨bucket, outer, line.product, inner, carried, same.symm ▸ named⟩
    exact ⟨_, List.mem_filter.mpr ⟨listed, decide_eq_true same⟩, rfl⟩

variable (goods) in
/-- The portions weigh what the done quantities of the lines weigh. -/
theorem weight_portions (named : number ≠ "") :
    (((picking.portions goods).filter fun portion => portion.line.noOnu = number).map
      fun portion => portion.line.poidsMatiereDangereuse * portion.qty).sum =
        picking.weight goods PackedLine.qtyDone number := by
  let ofProduct (product : π) (qty : ℚ) : ℚ := qty * unitWeight goods product number
  let ofPackage (_ : ι) (bucket : Dict π ℚ) : ℚ := bucket.total ofProduct
  have collected : (((picking.portions goods).filter fun portion => portion.line.noOnu = number).map
      fun portion => portion.line.poidsMatiereDangereuse * portion.qty).sum =
        picking.getPackagedQuantitiesByPackage.total ofPackage := by
    rw [portions, List.filter_flatMap, sum_map_flatMap, Dict.total]
    refine congrArg List.sum (List.map_congr_left fun bucket _ => ?_)
    rw [List.filter_flatMap, sum_map_flatMap]
    exact congrArg List.sum (List.map_congr_left fun entry _ =>
      weight_lines named bucket.1 entry.1 entry.2)
  have grows : ∀ line ∈ picking.packagedMoveLines, ∀ old : Option (Dict π ℚ),
      ofPackage line.package
        ((old.getD ∅).update line.product fun qty => qty.getD 0 + line.qtyDone) =
      old.elim 0 (ofPackage line.package) +
        line.qtyDone * unitWeight goods line.product number := by
    intro line _ old
    have inner := Dict.total_update ofProduct (old.getD ∅) line.product
      (fun qty => qty.getD 0 + line.qtyDone) (line.qtyDone * unitWeight goods line.product number)
      (by
        rw [Dict.share]
        cases (old.getD ∅).get? line.product with
        | none => simp [ofProduct]
        | some qty => exact add_mul _ _ _)
    refine inner.trans ?_
    cases old <;> rfl
  rw [collected, packaged_eq_updateAll, Dict.total_updateAll ofPackage PackedLine.package _
    (fun line => line.qtyDone * unitWeight goods line.product number) ∅ _ grows, weight]
  exact zero_add _

/-! ### The entry of a number -/

variable (goods number) in
/-- The first portion with a number. -/
def firstPortion : Option (Portion ι) :=
  (picking.portions goods).find? fun portion => portion.line.noOnu = number

theorem firstPortion_eq (named : number ≠ "") :
    picking.firstPortion goods number =
      picking.getPackagedQuantitiesByPackage.entries.findSome? fun bucket =>
        bucket.2.entries.findSome? fun entry =>
          (firstGoods goods entry.1 number).map (Portion.mk bucket.1 entry.2) := by
  rw [firstPortion, portions, List.find?_flatMap]
  congr 1
  funext bucket
  rw [List.find?_flatMap]
  congr 1
  funext entry
  exact find?_lines named bucket.1 entry.1 entry.2

/-- The first portion is the first one of some packed product. -/
theorem exists_of_firstPortion (named : number ≠ "") {portion : Portion ι}
    (found : picking.firstPortion goods number = some portion) :
    ∃ line ∈ picking.packagedMoveLines,
      firstGoods goods line.product number = some portion.line := by
  rw [firstPortion_eq picking named] at found
  obtain ⟨bucket, outer, found⟩ := List.exists_of_findSome?_eq_some found
  obtain ⟨entry, inner, found⟩ := List.exists_of_findSome?_eq_some found
  obtain ⟨goodsLine, first, rfl⟩ := Option.map_eq_some_iff.mp found
  obtain ⟨line, packed, -, same⟩ :=
    picking.mem_packaged_iff.mp ⟨bucket.2, outer, entry.2, inner⟩
  exact ⟨line, packed, same ▸ first⟩

/-- Where the product of the first packed line has goods with the number, they come first. -/
theorem firstPortion_of_head (named : number ≠ "") {line : PackedLine ι π}
    {rest : List (PackedLine ι π)} (packed : picking.packagedMoveLines = line :: rest)
    {goodsLine : DangerousGoodsLine}
    (first : firstGoods goods line.product number = some goodsLine) :
    ∃ portion, picking.firstPortion goods number = some portion ∧ portion.line = goodsLine := by
  have entries_of_keys {κ α : Type} {dict : Dict κ α} {key : κ} {keys : List κ}
      (same : dict.keys = key :: keys) :
      ∃ value entries, dict.entries = (key, value) :: entries := by
    obtain ⟨entry, entries, split, rfl, -⟩ := List.map_eq_cons_iff.mp same
    exact ⟨entry.2, entries, split⟩
  obtain ⟨packages, outer⟩ := Dict.head_updateAll PackedLine.package
    (fun (line : PackedLine ι π) (bucket : Option (Dict π ℚ)) =>
      (bucket.getD ∅).update line.product fun qty => qty.getD 0 + line.qtyDone) line rest
  rw [← packed, ← packaged_eq_updateAll] at outer
  obtain ⟨bucket, buckets, outer⟩ := entries_of_keys outer
  have stored := (Dict.get?_eq_some_iff picking.getPackagedQuantitiesByPackage line.package
    bucket).mpr (outer ▸ List.mem_cons_self)
  have kept : picking.bucketLines line.package =
      line :: rest.filter fun other => other.package = line.package := by
    rw [bucketLines, packed, List.filter_cons_of_pos (by simp)]
  rw [get?_packaged, kept, if_neg (List.cons_ne_nil _ _), Option.some.injEq] at stored
  obtain ⟨products, inner⟩ := Dict.head_updateAll PackedLine.product
    (fun (line : PackedLine ι π) (qty : Option ℚ) => qty.getD 0 + line.qtyDone) line
    (rest.filter fun other => other.package = line.package)
  rw [stored] at inner
  obtain ⟨qty, entries, inner⟩ := entries_of_keys inner
  refine ⟨⟨line.package, qty, goodsLine⟩, ?_, rfl⟩
  rw [firstPortion_eq picking named, outer, List.findSome?_cons, inner, List.findSome?_cons, first]
  rfl

theorem get?_aggregate (named : number ≠ "") :
    (picking.aggregateDangerousGoodsByOnu goods).get? number =
      (picking.firstPortion goods number).map fun first =>
        { first.line.attributes with
          noOnu := number
          poidsVolume := picking.weight goods PackedLine.qtyDone number
          packageIds := picking.holders goods number } := by
  have packages := picking.packages_portions goods named
  have weight := picking.weight_portions goods named
  rw [aggregate_eq_updateAll, Dict.get?_updateAll, Dict.get?_empty, firstPortion,
    ← List.head?_filter]
  cases kept : (picking.portions goods).filter fun portion => portion.line.noOnu = number with
  | nil => rfl
  | cons first others =>
      have member : first ∈ (picking.portions goods).filter
          fun portion => portion.line.noOnu = number := kept ▸ List.mem_cons_self
      have same : first.line.noOnu = number :=
        of_decide_eq_true (List.mem_filter.mp member).2
      rw [kept] at packages weight
      rw [foldl_aggregate, weight, packages, same, List.head?_cons, Option.map_some]

end OdooConnector.Carrier.Picking
