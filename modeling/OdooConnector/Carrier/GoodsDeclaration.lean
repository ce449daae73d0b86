import OdooConnector.Carrier.DeclaredGoods

/-!
# Complete and ordered declarations

The list declares the goods of a picking where the lines of each ONU number agree and the done
quantities weigh what the packed ones weigh.
-/

namespace OdooConnector.Carrier.Picking

variable {ι π : Type} [DecidableEq ι] [DecidableEq π] (picking : Picking ι π)
  (goods : π → List DangerousGoodsLine)

/-- Each number that is packed has an entry with the weight of the packed quantities and with the
number of packages. -/
def Complete : Prop :=
  ∀ number ≠ "", (picking.holders goods number).Nonempty →
    ∃ declared ∈ picking.buildGeodisDangerousGoodsList goods, declared.noOnu = number ∧
      declared.poidsVolume = roundDigits 6 (picking.weight goods PackedLine.quantity number) ∧
      declared.nbEmballages = (picking.holders goods number).card

/-- The list is the same for every order of the move lines and of the packages. -/
def Ordered : Prop :=
  ∀ other : Picking ι π, other.moveLineIds.Perm picking.moveLineIds →
    other.packageIds.Perm picking.packageIds →
      other.buildGeodisDangerousGoodsList goods = picking.buildGeodisDangerousGoodsList goods

/-- Each packed goods line is declared with its own packing group, ADR class and packaging code. -/
def Unmerged : Prop :=
  ∀ line ∈ picking.packagedMoveLines, ∀ goodsLine ∈ goods line.product, goodsLine.noOnu ≠ "" →
    ∃ declared ∈ picking.buildGeodisDangerousGoodsList goods, declared.noOnu = goodsLine.noOnu ∧
      declared.groupeEmballage = goodsLine.attributes.groupeEmballage ∧
      declared.classeAdr = goodsLine.attributes.classeAdr ∧
      declared.codeTypeEmballage = goodsLine.attributes.codeTypeEmballage

/-- Packed goods lines of one number have one packing group, ADR class and packaging code. -/
def SameClass : Prop :=
  ∀ line ∈ picking.packagedMoveLines, ∀ goodsLine ∈ goods line.product,
    ∀ other ∈ picking.packagedMoveLines, ∀ otherLine ∈ goods other.product,
      goodsLine.noOnu ≠ "" → goodsLine.noOnu = otherLine.noOnu →
        goodsLine.attributes.groupeEmballage = otherLine.attributes.groupeEmballage ∧
        goodsLine.attributes.classeAdr = otherLine.attributes.classeAdr ∧
        goodsLine.attributes.codeTypeEmballage = otherLine.attributes.codeTypeEmballage

/-- The first goods lines of a number have the same attributes for all packed products. -/
def SameFirst : Prop :=
  ∀ line ∈ picking.packagedMoveLines, ∀ other ∈ picking.packagedMoveLines, ∀ number ≠ "",
    ∀ goodsLine ∈ firstGoods goods line.product number,
      ∀ otherLine ∈ firstGoods goods other.product number,
        goodsLine.attributes = otherLine.attributes

/-- The done quantities weigh what the packed ones weigh, as far as it is declared. -/
def SameWeight : Prop :=
  ∀ number ≠ "", (picking.holders goods number).Nonempty →
    roundDigits 6 (picking.weight goods PackedLine.qtyDone number) =
      roundDigits 6 (picking.weight goods PackedLine.quantity number)

/-! ### The elements of the list -/

variable {picking goods} {number : String}

variable (picking goods number) in
/-- The element for a number that is met first in a portion. -/
def declaration (first : Portion ι) : DeclaredGoods :=
  { first.line.attributes with
    noOnu := number
    nbEmballages := (picking.holders goods number).card
    poidsVolume := roundDigits 6 (picking.weight goods PackedLine.qtyDone number) }

theorem named_of_mem_keys
    (member : number ∈ (picking.aggregateDangerousGoodsByOnu goods).keys) : number ≠ "" := by
  rw [aggregate_eq_updateAll, Dict.mem_keys_updateAll] at member
  rcases member with none | ⟨portion, listed, rfl⟩
  · exact absurd none List.not_mem_nil
  · obtain ⟨-, -, -, -, -, named⟩ := picking.mem_portions_iff.mp listed
    exact named

theorem mem_list_iff {declared : DeclaredGoods} :
    declared ∈ picking.buildGeodisDangerousGoodsList goods ↔
      ∃ number ≠ "", ∃ first, picking.firstPortion goods number = some first ∧
        picking.declaration goods number first = declared := by
  rw [buildGeodisDangerousGoodsList, List.mem_filterMap]
  constructor
  · rintro ⟨number, listed, found⟩
    rw [List.mem_mergeSort] at listed
    have named := named_of_mem_keys listed
    rw [get?_aggregate picking named, Option.map_map] at found
    obtain ⟨first, met, same⟩ := Option.map_eq_some_iff.mp found
    exact ⟨number, named, first, met, same⟩
  · rintro ⟨number, named, first, found, rfl⟩
    have stored : (picking.aggregateDangerousGoodsByOnu goods).get? number = _ :=
      get?_aggregate picking named
    rw [found, Option.map_some] at stored
    have listed : number ∈ (picking.aggregateDangerousGoodsByOnu goods).keys := by
      by_contra absent
      rw [(Dict.get?_eq_none_iff _ number).mpr absent] at stored
      contradiction
    exact ⟨number, List.mem_mergeSort.mpr listed, by rw [stored]; rfl⟩

/-- A number that is packed is declared. -/
theorem exists_firstPortion (named : number ≠ "") {line : PackedLine ι π}
    (packed : line ∈ picking.packagedMoveLines) {goodsLine : DangerousGoodsLine}
    (carried : goodsLine ∈ goods line.product) (same : goodsLine.noOnu = number) :
    ∃ first, picking.firstPortion goods number = some first := by
  obtain ⟨bucket, outer, qty, inner⟩ := picking.mem_packaged_iff.mpr ⟨line, packed, rfl, rfl⟩
  have listed : ⟨line.package, qty, goodsLine⟩ ∈ picking.portions goods :=
    picking.mem_portions_iff.mpr ⟨bucket, outer, line.product, inner, carried, same.symm ▸ named⟩
  rw [← Option.isSome_iff_exists, firstPortion, List.find?_isSome]
  exact ⟨_, listed, decide_eq_true same⟩

/-- A number has one entry. -/
theorem declaration_of_mem {declared : DeclaredGoods} {first : Portion ι}
    (found : picking.firstPortion goods declared.noOnu = some first)
    (member : declared ∈ picking.buildGeodisDangerousGoodsList goods) :
    declared = picking.declaration goods declared.noOnu first := by
  obtain ⟨number, -, other, otherFound, rfl⟩ := mem_list_iff.mp member
  have same : picking.firstPortion goods number = some first := found
  rw [otherFound] at same
  cases same
  rfl

/-! ### Weights and classes -/

theorem complete_iff : picking.Complete goods ↔ picking.SameWeight goods := by
  constructor
  · intro complete number named held
    obtain ⟨declared, member, rfl, weight, -⟩ := complete number named held
    obtain ⟨package, holder⟩ := held
    obtain ⟨line, packed, -, goodsLine, carried, same⟩ := picking.mem_holders_iff.mp holder
    obtain ⟨first, found⟩ := exists_firstPortion named packed carried same
    rw [declaration_of_mem found member] at weight
    exact weight
  · intro same number named held
    have weight := same number named held
    obtain ⟨package, holder⟩ := held
    obtain ⟨line, packed, -, goodsLine, carried, equal⟩ := picking.mem_holders_iff.mp holder
    obtain ⟨first, found⟩ := exists_firstPortion named packed carried equal
    exact ⟨_, mem_list_iff.mpr ⟨number, named, first, found, rfl⟩, rfl, weight, rfl⟩

theorem unmerged_iff : picking.Unmerged goods ↔ picking.SameClass goods := by
  constructor
  · intro unmerged line packed goodsLine carried other otherPacked otherLine otherCarried named same
    obtain ⟨declared, member, number, group, adr, code⟩ :=
      unmerged line packed goodsLine carried named
    obtain ⟨second, secondMember, secondNumber, secondGroup, secondAdr, secondCode⟩ :=
      unmerged other otherPacked otherLine otherCarried (same ▸ named)
    obtain ⟨first, found⟩ := exists_firstPortion named packed carried rfl
    have equal : second = declared := by
      have numbers : second.noOnu = declared.noOnu := by rw [number, secondNumber, same]
      rw [declaration_of_mem (number.symm ▸ found) member,
        declaration_of_mem (numbers.trans number ▸ found) secondMember, numbers]
    rw [equal] at secondGroup secondAdr secondCode
    exact ⟨group.symm.trans secondGroup, adr.symm.trans secondAdr, code.symm.trans secondCode⟩
  · intro same line packed goodsLine carried named
    obtain ⟨first, found⟩ := exists_firstPortion named packed carried rfl
    obtain ⟨other, otherPacked, otherFirst⟩ := picking.exists_of_firstPortion named found
    obtain ⟨otherCarried, number⟩ := mem_of_firstGoods otherFirst
    obtain ⟨group, adr, code⟩ :=
      same line packed goodsLine carried other otherPacked first.line otherCarried named number.symm
    exact ⟨_, mem_list_iff.mpr ⟨_, named, first, found, rfl⟩, rfl, group.symm, adr.symm, code.symm⟩

/-! ### Orders -/

theorem sameFirst_of_ordered (ordered : picking.Ordered goods) : picking.SameFirst goods := by
  have declared {line : PackedLine ι π} (packed : line ∈ picking.packagedMoveLines)
      {number : String} (named : number ≠ "") {goodsLine : DangerousGoodsLine}
      (first : firstGoods goods line.product number = some goodsLine) :
      ∃ declared ∈ picking.buildGeodisDangerousGoodsList goods, declared.noOnu = number ∧
        declared.toGoodsAttributes = goodsLine.attributes := by
    obtain ⟨other, lines, packages, rest, order⟩ := exists_order packed
    obtain ⟨portion, found, rfl⟩ := other.firstPortion_of_head named order first
    have member := mem_list_iff.mpr ⟨number, named, portion, found, rfl⟩
    rw [ordered other lines (packages ▸ List.Perm.refl _)] at member
    exact ⟨_, member, rfl, rfl⟩
  intro line packed other otherPacked number named goodsLine first otherLine otherFirst
  obtain ⟨one, oneMember, oneNumber, oneAttributes⟩ := declared packed named first
  obtain ⟨two, twoMember, twoNumber, twoAttributes⟩ := declared otherPacked named otherFirst
  obtain ⟨carried, same⟩ := mem_of_firstGoods first
  obtain ⟨portion, found⟩ := exists_firstPortion named packed carried same
  have equal : one = two := by
    rw [declaration_of_mem (oneNumber.symm ▸ found) oneMember,
      declaration_of_mem (twoNumber.symm ▸ found) twoMember, oneNumber, twoNumber]
  rw [← oneAttributes, ← twoAttributes, equal]

theorem mem_keys_iff :
    number ∈ (picking.aggregateDangerousGoodsByOnu goods).keys ↔
      number ≠ "" ∧ (picking.holders goods number).Nonempty := by
  constructor
  · intro listed
    have named := named_of_mem_keys listed
    refine ⟨named, ?_⟩
    rw [aggregate_eq_updateAll, Dict.mem_keys_updateAll] at listed
    rcases listed with none | ⟨portion, listed, same⟩
    · exact absurd none List.not_mem_nil
    · rw [← picking.packages_portions goods named]
      exact ⟨portion.package, List.mem_toFinset.mpr (List.mem_map_of_mem
        (List.mem_filter.mpr ⟨listed, decide_eq_true same⟩))⟩
  · rintro ⟨named, package, holder⟩
    obtain ⟨line, packed, -, goodsLine, carried, same⟩ := picking.mem_holders_iff.mp holder
    obtain ⟨first, found⟩ := exists_firstPortion named packed carried same
    by_contra absent
    have none := (Dict.get?_eq_none_iff _ number).mpr absent
    rw [get?_aggregate picking named, found] at none
    contradiction

theorem ordered_of_sameFirst (same : picking.SameFirst goods) : picking.Ordered goods := by
  intro other lines packages
  have packed := packaged_perm lines packages
  have keys : (other.aggregateDangerousGoodsByOnu goods).keys.Perm
      (picking.aggregateDangerousGoodsByOnu goods).keys := by
    refine (List.perm_ext_iff_of_nodup (Dict.nodup_keys _) (Dict.nodup_keys _)).mpr fun number => ?_
    rw [mem_keys_iff, mem_keys_iff, holders_perm lines packages]
  have sorted : (other.aggregateDangerousGoodsByOnu goods).keys.mergeSort (· ≤ ·) =
      (picking.aggregateDangerousGoodsByOnu goods).keys.mergeSort (· ≤ ·) :=
    (((List.mergeSort_perm _ _).trans keys).trans (List.mergeSort_perm _ _).symm).eq_of_pairwise'
      (List.pairwise_mergeSort' _ _) (List.pairwise_mergeSort' _ _)
  rw [buildGeodisDangerousGoodsList, buildGeodisDangerousGoodsList, sorted]
  refine List.filterMap_congr fun number listed => ?_
  rw [List.mem_mergeSort, mem_keys_iff] at listed
  obtain ⟨named, package, holder⟩ := listed
  obtain ⟨line, linePacked, -, goodsLine, carried, equal⟩ := picking.mem_holders_iff.mp holder
  obtain ⟨first, found⟩ := exists_firstPortion named linePacked carried equal
  obtain ⟨second, otherFound⟩ : ∃ second, other.firstPortion goods number = some second :=
    exists_firstPortion named (packed.mem_iff.mpr linePacked) carried equal
  -- Both entries are made of first goods lines of packed products.
  obtain ⟨one, onePacked, oneFirst⟩ := picking.exists_of_firstPortion named found
  obtain ⟨two, twoPacked, twoFirst⟩ := other.exists_of_firstPortion named otherFound
  have attributes := same two (packed.mem_iff.mp twoPacked) one onePacked number named
    second.line twoFirst first.line oneFirst
  rw [get?_aggregate picking named, get?_aggregate other named, found, otherFound]
  simp only [Option.map_some, attributes, holders_perm lines packages, weight_perm lines packages]

/-- Lithium batteries of two packing groups. -/
def batteries (product : ℕ) : List DangerousGoodsLine :=
  [⟨"3481", some (if product = 1 then "II" else "III"), some "9", none, none, none, false, 2⟩]

/-- Both products are packed in one package. -/
def batteryPicking : Picking ℕ ℕ := ⟨[1], [⟨some 1, some 1, 1, 1⟩, ⟨some 1, some 2, 1, 1⟩]⟩

end OdooConnector.Carrier.Picking
