import Mathlib.Algebra.Order.Ring.Rat
import Mathlib.Tactic.Linarith
import Mathlib.Tactic.Ring
import OdooConnector.Inventory.Bom
import OdooConnector.Library.LikePattern

/-!
# Imported stock levels

The quantity that the store reports for a location replaces those of the product below it. The
locations below are found by a pattern on their paths, and the quantity is written to every quant in
the location.
-/

namespace OdooConnector
namespace Inventory

/-- A stock location, with the ids from its root down to it. -/
structure StockLocation where
  id : ℕ
  path : List ℕ
  active : Bool

/-- A tree of locations. -/
structure LocationTree where
  locations : List StockLocation
  distinct : (locations.map StockLocation.id).Nodup
  /-- The last id of a path is that of the location. -/
  ends : ∀ location ∈ locations, ∃ front, location.path = front ++ [location.id]
  /-- The ids of a path are those of locations. -/
  parents : ∀ location ∈ locations, ∀ front id back, location.path = front ++ id :: back →
    ∃ parent ∈ locations, parent.id = id ∧ parent.path = front ++ [id]

/-- The stock of a product in a location, for one package and owner. -/
structure LocationQuant where
  id : ℕ
  locationId : ℕ
  productId : ℕ
  quantity : ℚ
deriving DecidableEq

inductive Tracking
  | none | lot | serial
deriving DecidableEq

structure StockVariant where
  id : ℕ
  bomTypes : List BomType
  type : ProductType
  tracking : Tracking

def idDigits (id : ℕ) : List Char := Nat.toDigits 10 id

/-- `parent_path`: the ids, each followed by a slash. -/
def StockLocation.parentPath (location : StockLocation) : List Char :=
  terminated '/' (location.path.map idDigits)

/-- `('parent_path', 'like', location.parent_path + '%')` and another id, among the active
locations. -/
def searchBelow (tree : LocationTree) (location : StockLocation) : List StockLocation :=
  tree.locations.filter fun other =>
    other.active && like ('%' :: (location.parentPath ++ ['%', '%'])) other.parentPath &&
      other.id ≠ location.id

/-- Write and apply the inventory quantity of the quants of a product in locations. -/
def applyInventory (productId : ℕ) (locationIds : List ℕ) (quantity : ℚ)
    (quants : List LocationQuant) : List LocationQuant :=
  quants.map fun quant =>
    if quant.productId = productId ∧ quant.locationId ∈ locationIds then { quant with quantity }
    else quant

/-- The quants of a product in a location. -/
def quantsIn (productId locationId : ℕ) (quants : List LocationQuant) : List LocationQuant :=
  quants.filter fun quant => quant.locationId = locationId ∧ quant.productId = productId

/-- `apply_stock_levels`: the quantity, unless the product is skipped, and the quants. A new quant
gets the next id. -/
def applyStockLevels (tree : LocationTree) (variant : StockVariant) (qty : Option ℚ)
    (location : StockLocation) (nextId : ℕ) (quants : List LocationQuant) :
    Option ℚ × List LocationQuant :=
  if .phantom ∈ variant.bomTypes then (none, quants)
  else if variant.type ≠ .product ∨ variant.tracking ≠ .none then (none, quants)
  else
    let inventoryLocations := searchBelow tree location
    let quants := applyInventory variant.id (inventoryLocations.map StockLocation.id) 0 quants
    let quants := if (quantsIn variant.id location.id quants).isEmpty then
        quants ++ [⟨nextId, location.id, variant.id, 0⟩]
      else quants
    let floatQty := qty.getD 0
    (some floatQty, applyInventory variant.id [location.id] floatQty quants)

/-! ## The locations that are found -/

theorem idDigits_injective : Function.Injective idDigits := by
  intro id other same
  have read := congrArg (fun chars => Nat.ofDigitChars 10 chars 0) same
  simpa [idDigits] using read

theorem isDigit_of_mem_idDigits {id : ℕ} {char : Char} (member : char ∈ idDigits id) :
    char.isDigit :=
  Nat.isDigit_of_mem_toDigits (by omega) (by omega) member

theorem slash_not_mem_idDigits (id : ℕ) : '/' ∉ idDigits id := by
  intro member
  exact absurd (isDigit_of_mem_idDigits member) (by decide)

theorem slash_not_mem (ids : List ℕ) : ∀ word ∈ ids.map idDigits, '/' ∉ word := by
  intro word member
  obtain ⟨id, _, rfl⟩ := List.mem_map.mp member
  exact slash_not_mem_idDigits id

namespace StockLocation

variable (location other : StockLocation)

/-- Nothing in a path is a wildcard. -/
theorem literal_parentPath : ∀ char ∈ location.parentPath, IsLiteral char := by
  intro char member
  simp only [parentPath, terminated, List.mem_flatMap, List.mem_map, List.mem_append,
    List.mem_singleton] at member
  obtain ⟨_, ⟨id, _, rfl⟩, digit | rfl⟩ := member
  · have isDigit := isDigit_of_mem_idDigits digit
    refine ⟨?_, ?_, ?_⟩ <;> rintro rfl <;> exact absurd isDigit (by decide)
  · exact ⟨by decide, by decide, by decide⟩

/-- A path stands in another one where an id ends with its first id and the next ones follow. -/
theorem parentPath_infix_iff {first : ℕ} {ids others : List ℕ} (path : location.path = first :: ids)
    (otherPath : other.path = others) :
    location.parentPath <:+: other.parentPath ↔
      ∃ front id back, others = front ++ id :: (ids ++ back) ∧ idDigits first <:+ idDigits id := by
  rw [parentPath, parentPath, path, otherPath, List.map_cons, terminated_infix_iff]
  · constructor
    · intro ⟨front, word, back, same, ends⟩
      obtain ⟨front', rest, split, _, tail⟩ := List.map_eq_append_iff.mp same
      obtain ⟨id, rest', cons, named, tail⟩ := List.map_eq_cons_iff.mp tail
      obtain ⟨middle, back', parts, follow, _⟩ := List.map_eq_append_iff.mp tail
      have equal := List.map_injective_iff.mpr idDigits_injective follow
      refine ⟨front', id, back', ?_, named ▸ ends⟩
      rw [split, cons, parts, equal]
    · intro ⟨front, id, back, same, ends⟩
      refine ⟨front.map idDigits, idDigits id, back.map idDigits, ?_, ends⟩
      rw [same]
      simp
  · rw [← List.map_cons]
    exact slash_not_mem (first :: ids)
  · exact slash_not_mem others

end StockLocation

namespace LocationTree

variable (tree : LocationTree) {location other : StockLocation}

/-- The ids of a location and of all locations below it. -/
def subtree (location : StockLocation) : List ℕ :=
  (tree.locations.filter fun other => location.id ∈ other.path).map StockLocation.id

/-- The ids of the archived locations below a location. -/
def archivedBelow (location : StockLocation) : List ℕ :=
  (tree.locations.filter fun other =>
    !other.active && location.id ∈ other.path && other.id ≠ location.id).map StockLocation.id

theorem id_mem_path (member : location ∈ tree.locations) : location.id ∈ location.path := by
  obtain ⟨front, path⟩ := tree.ends location member
  simp [path]

theorem eq_of_id_eq (member : location ∈ tree.locations) (otherMember : other ∈ tree.locations)
    (same : location.id = other.id) : location = other :=
  List.inj_on_of_nodup_map tree.distinct member otherMember same

/-- The path of a location below another begins with the path of the other. -/
theorem path_prefix (member : location ∈ tree.locations) (otherMember : other ∈ tree.locations)
    (below : location.id ∈ other.path) : location.path <+: other.path := by
  obtain ⟨front, back, path⟩ := List.append_of_mem below
  obtain ⟨parent, parentMember, same, parentPath⟩ := tree.parents other otherMember _ _ _ path
  have equal := tree.eq_of_id_eq parentMember member same
  rw [← equal, parentPath, path]
  exact ⟨back, by simp⟩

theorem mem_searchBelow_iff :
    other ∈ searchBelow tree location ↔ other ∈ tree.locations ∧ other.active ∧
      location.parentPath <:+: other.parentPath ∧ other.id ≠ location.id := by
  rw [searchBelow, List.mem_filter]
  simp only [Bool.and_eq_true, decide_eq_true_eq,
    like_contains_iff location.literal_parentPath]
  tauto

/-- Active locations below a location are found. -/
theorem mem_searchBelow_of_below (member : location ∈ tree.locations)
    (otherMember : other ∈ tree.locations) (active : other.active)
    (below : location.id ∈ other.path) (different : other.id ≠ location.id) :
    other ∈ searchBelow tree location := by
  obtain ⟨back, path⟩ := tree.path_prefix member otherMember below
  refine tree.mem_searchBelow_iff.mpr ⟨otherMember, active, ?_, different⟩
  rw [StockLocation.parentPath, StockLocation.parentPath, ← path, List.map_append,
    terminated_append]
  exact (List.prefix_append _ _).isInfix

/-- A location elsewhere is found where the first one is a root and an id on the path of the other
ends with the digits of its id. -/
theorem mem_searchBelow_outside_iff (member : location ∈ tree.locations)
    (otherMember : other ∈ tree.locations) (outside : location.id ∉ other.path) :
    other ∈ searchBelow tree location ↔ other.active ∧ location.path = [location.id] ∧
      ∃ id ∈ other.path, idDigits location.id <:+ idDigits id := by
  have different : other.id ≠ location.id := by
    intro same
    exact outside (same ▸ tree.id_mem_path otherMember)
  obtain ⟨front, ends⟩ := tree.ends location member
  rw [mem_searchBelow_iff]
  cases front with
  | nil =>
      have path : location.path = location.id :: [] := ends
      rw [location.parentPath_infix_iff other path rfl]
      constructor
      · intro ⟨_, active, ⟨front, id, back, same, digits⟩, _⟩
        exact ⟨active, path, id, by rw [same]; simp, digits⟩
      · intro ⟨active, _, id, listed, digits⟩
        obtain ⟨front, back, same⟩ := List.append_of_mem listed
        exact ⟨otherMember, active, ⟨front, id, back, same, digits⟩, different⟩
  | cons first middle =>
      have path : location.path = first :: (middle ++ [location.id]) := ends
      rw [location.parentPath_infix_iff other path rfl]
      constructor
      · intro ⟨_, _, ⟨front, id, back, same, _⟩, _⟩
        apply absurd _ outside
        rw [same]
        simp
      · intro ⟨_, root, _⟩
        rw [path] at root
        simp at root

theorem mem_subtree_iff {id : ℕ} :
    id ∈ tree.subtree location ↔
      ∃ other ∈ tree.locations, other.id = id ∧ location.id ∈ other.path := by
  simp only [subtree, List.mem_map, List.mem_filter, decide_eq_true_eq]
  constructor
  · rintro ⟨other, ⟨member, below⟩, same⟩
    exact ⟨other, member, same, below⟩
  · rintro ⟨other, member, same, below⟩
    exact ⟨other, ⟨member, below⟩, same⟩

end LocationTree

/-! ## The quants afterwards -/

section

variable (tree : LocationTree) (productId : ℕ) (location : StockLocation) (qty : ℚ)

/-- What becomes of a quant. -/
def settle (quant : LocationQuant) : LocationQuant :=
  if quant.productId = productId then
    if quant.locationId = location.id then { quant with quantity := qty }
    else if quant.locationId ∈ (searchBelow tree location).map StockLocation.id then
      { quant with quantity := 0 }
    else quant
  else quant

theorem settle_keys (quant : LocationQuant) :
    (settle tree productId location qty quant).productId = quant.productId ∧
      (settle tree productId location qty quant).locationId = quant.locationId := by
  rw [settle]
  split
  · split
    · exact ⟨rfl, rfl⟩
    · split <;> exact ⟨rfl, rfl⟩
  · exact ⟨rfl, rfl⟩

/-- The location itself is not among those that are found. -/
theorem not_mem_searchBelow_ids :
    location.id ∉ (searchBelow tree location).map StockLocation.id := by
  intro member
  obtain ⟨other, found, same⟩ := List.mem_map.mp member
  exact (tree.mem_searchBelow_iff.mp found).2.2.2 same

theorem isEmpty_quantsIn_applyInventory (locationIds : List ℕ) (quantity : ℚ)
    (quants : List LocationQuant) :
    (quantsIn productId location.id
        (applyInventory productId locationIds quantity quants)).isEmpty =
      (quantsIn productId location.id quants).isEmpty := by
  rw [quantsIn, applyInventory, List.filter_map, List.isEmpty_map, quantsIn]
  apply congrArg List.isEmpty
  apply List.filter_congr
  intro quant _
  rw [Function.comp_apply]
  split <;> rfl

/-- The run changes each quant on its own, and adds one where there is none. -/
theorem applyStockLevels_snd {variant : StockVariant} (noKit : .phantom ∉ variant.bomTypes)
    (storable : variant.type = .product) (untracked : variant.tracking = .none) (given : Option ℚ)
    (nextId : ℕ) (quants : List LocationQuant) :
    (applyStockLevels tree variant given location nextId quants).2 =
      quants.map (settle tree variant.id location (given.getD 0)) ++
        if (quantsIn variant.id location.id quants).isEmpty then
          [⟨nextId, location.id, variant.id, given.getD 0⟩] else [] := by
  have elsewhere := not_mem_searchBelow_ids tree location
  have both : applyInventory variant.id [location.id] (given.getD 0)
      (applyInventory variant.id ((searchBelow tree location).map StockLocation.id) 0 quants) =
      quants.map (settle tree variant.id location (given.getD 0)) := by
    rw [applyInventory, applyInventory, List.map_map]
    apply List.map_congr_left
    intro quant _
    rw [Function.comp_apply, settle]
    by_cases product : quant.productId = variant.id
    · by_cases here : quant.locationId = location.id
      · simp [product, here, elsewhere]
      · by_cases found : quant.locationId ∈ (searchBelow tree location).map StockLocation.id
        · simp [product, here, found]
        · simp [product, here, found]
    · simp [product]
  rw [applyStockLevels, if_neg noKit, if_neg (by simp [storable, untracked])]
  dsimp only
  rw [isEmpty_quantsIn_applyInventory]
  split
  · rw [← both, applyInventory, List.map_append]
    simp [applyInventory]
  · rw [both, List.append_nil]

/-- The quants of the product in the location and below it. -/
def inSubtree (quant : LocationQuant) : Bool :=
  quant.productId = productId && quant.locationId ∈ tree.subtree location

def total (quants : List LocationQuant) : ℚ := (quants.map LocationQuant.quantity).sum

/-- The quants of the product in archived locations below the location. -/
def archivedQuants (quants : List LocationQuant) : List LocationQuant :=
  quants.filter fun quant =>
    quant.productId = productId && quant.locationId ∈ tree.archivedBelow location

variable {location}

theorem mem_archivedBelow_iff (member : location ∈ tree.locations) (id : ℕ) :
    id ∈ tree.archivedBelow location ↔
      id ∈ tree.subtree location ∧ id ≠ location.id ∧
        id ∉ (searchBelow tree location).map StockLocation.id := by
  simp only [LocationTree.archivedBelow, List.mem_map, List.mem_filter, Bool.and_eq_true,
    Bool.not_eq_true', decide_eq_true_eq, tree.mem_subtree_iff]
  constructor
  · rintro ⟨other, ⟨otherMember, ⟨archived, below⟩, different⟩, rfl⟩
    refine ⟨⟨other, otherMember, rfl, below⟩, different, ?_⟩
    rintro ⟨found, listed, same⟩
    obtain ⟨foundMember, active, _⟩ := tree.mem_searchBelow_iff.mp listed
    rw [tree.eq_of_id_eq foundMember otherMember same, archived] at active
    cases active
  · rintro ⟨⟨other, otherMember, rfl, below⟩, different, notFound⟩
    refine ⟨other, ⟨otherMember, ⟨?_, below⟩, different⟩, rfl⟩
    cases active : other.active with
    | false => rfl
    | true =>
        exact absurd
          ⟨other, tree.mem_searchBelow_of_below member otherMember active below different, rfl⟩
          notFound

theorem id_mem_subtree (member : location ∈ tree.locations) : location.id ∈ tree.subtree location :=
  tree.mem_subtree_iff.mpr ⟨location, member, rfl, tree.id_mem_path member⟩

/-- What one quant adds to the subtree afterwards. -/
theorem quantity_settled (member : location ∈ tree.locations) (quant : LocationQuant) :
    (if inSubtree tree productId location (settle tree productId location qty quant) then
        (settle tree productId location qty quant).quantity else 0) =
      (if quant.locationId = location.id ∧ quant.productId = productId then qty else 0) +
        if quant.productId = productId ∧ quant.locationId ∈ tree.archivedBelow location then
          quant.quantity else 0 := by
  have keys := settle_keys tree productId location qty quant
  have within := id_mem_subtree tree member
  have archived := mem_archivedBelow_iff tree member quant.locationId
  rw [inSubtree, keys.1, keys.2, settle]
  by_cases product : quant.productId = productId
  · by_cases here : quant.locationId = location.id
    · have notArchived : location.id ∉ tree.archivedBelow location := by
        rw [← here, archived]
        exact fun both => both.2.1 here
      simp [product, here, within, notArchived]
    · by_cases found : quant.locationId ∈ (searchBelow tree location).map StockLocation.id
      · have notArchived : quant.locationId ∉ tree.archivedBelow location := by
          rw [archived]
          exact fun both => both.2.2 found
        simp [product, here, found, notArchived]
      · have same : quant.locationId ∈ tree.archivedBelow location ↔
            quant.locationId ∈ tree.subtree location := by
          rw [archived]
          exact ⟨fun both => both.1, fun below => ⟨below, here, found⟩⟩
        simp [product, here, found, same]
  · simp [product]

theorem total_filter_cons (keep : LocationQuant → Bool) (quant : LocationQuant)
    (quants : List LocationQuant) :
    total ((quant :: quants).filter keep) =
      (if keep quant then quant.quantity else 0) + total (quants.filter keep) := by
  rw [List.filter_cons]
  split
  · rw [total, total, List.map_cons, List.sum_cons]
  · rw [zero_add]

theorem length_quantsIn_cons (quant : LocationQuant) (quants : List LocationQuant) :
    ((quantsIn productId location.id (quant :: quants)).length : ℚ) * qty =
      (if quant.locationId = location.id ∧ quant.productId = productId then qty else 0) +
        (quantsIn productId location.id quants).length * qty := by
  rw [quantsIn, quantsIn, List.filter_cons]
  by_cases here : quant.locationId = location.id ∧ quant.productId = productId
  · simp only [here, and_self, decide_true, if_true, List.length_cons, Nat.cast_add, Nat.cast_one]
    ring
  · simp only [here, decide_false, Bool.false_eq_true, if_false, zero_add]

/-- What is in the subtree afterwards: the quantity for each quant in the location, and what is in
archived locations. -/
theorem total_settled (member : location ∈ tree.locations) (quants : List LocationQuant) :
    total ((quants.map (settle tree productId location qty)).filter
      (inSubtree tree productId location)) =
      (quantsIn productId location.id quants).length * qty +
        total (archivedQuants tree productId location quants) := by
  induction quants with
  | nil => simp [total, quantsIn, archivedQuants]
  | cons quant quants induction =>
      rw [archivedQuants] at induction ⊢
      rw [List.map_cons, total_filter_cons, total_filter_cons, length_quantsIn_cons, induction,
        quantity_settled tree productId qty member]
      simp only [Bool.and_eq_true, decide_eq_true_eq]
      ring

/-- A quant elsewhere is left alone unless it is in a location that is found. -/
theorem settle_eq_iff {quant : LocationQuant}
    (outside : inSubtree tree productId location quant = false)
    (member : location ∈ tree.locations) :
    settle tree productId location qty quant = quant ↔
      (quant.productId = productId →
        quant.locationId ∈ (searchBelow tree location).map StockLocation.id →
          quant.quantity = 0) := by
  by_cases product : quant.productId = productId
  · have elsewhere : quant.locationId ∉ tree.subtree location := by
      simpa [inSubtree, product] using outside
    have notHere : quant.locationId ≠ location.id := by
      intro here
      exact elsewhere (here ▸ id_mem_subtree tree member)
    by_cases found : quant.locationId ∈ (searchBelow tree location).map StockLocation.id
    · have settled : settle tree productId location qty quant = { quant with quantity := 0 } := by
        rw [settle, if_pos product, if_neg notHere, if_pos found]
      rw [settled]
      constructor
      · intro same _ _
        rw [← same]
      · intro zero
        rw [← zero product found]
    · have settled : settle tree productId location qty quant = quant := by
        rw [settle, if_pos product, if_neg notHere, if_neg found]
      exact iff_of_true settled fun _ listed => absurd listed found
  · have settled : settle tree productId location qty quant = quant := by
      rw [settle, if_neg product]
    exact iff_of_true settled fun same => absurd same product

variable (location)

/-- The stock is what the store reports: the quants of the product in the location and below it hold
the quantity, and no other quant has changed. -/
structure Imported (before after : List LocationQuant) : Prop where
  sum : total (after.filter (inSubtree tree productId location)) = qty
  others : after.filter (fun quant => !inSubtree tree productId location quant) =
    before.filter fun quant => !inSubtree tree productId location quant

/-- All quants of the product in the location but one add nothing to what is in archived locations
below it. For a root, the product has no stock in another active location on whose path an id ends
with the digits of the id of the root. -/
structure Undisturbed (quants : List LocationQuant) : Prop where
  single : ((quantsIn productId location.id quants).length - 1 : ℕ) * qty +
    total (archivedQuants tree productId location quants) = 0
  digits : location.path = [location.id] → ∀ quant ∈ quants, quant.productId = productId →
    ∀ other ∈ tree.locations, other.id = quant.locationId → other.active →
      location.id ∉ other.path → (∃ id ∈ other.path, idDigits location.id <:+ idDigits id) →
        quant.quantity = 0

variable {tree} {productId} {location}

theorem settle_others_iff (member : location ∈ tree.locations) (quants : List LocationQuant) :
    (∀ quant ∈ quants, inSubtree tree productId location quant = false →
        settle tree productId location qty quant = quant) ↔
      (location.path = [location.id] → ∀ quant ∈ quants, quant.productId = productId →
        ∀ other ∈ tree.locations, other.id = quant.locationId → other.active →
          location.id ∉ other.path → (∃ id ∈ other.path, idDigits location.id <:+ idDigits id) →
            quant.quantity = 0) := by
  constructor
  · intro kept root quant listed product other otherMember same active outside digits
    have elsewhere : inSubtree tree productId location quant = false := by
      simp only [inSubtree, product, decide_true, Bool.true_and, decide_eq_false_iff_not,
        tree.mem_subtree_iff]
      rintro ⟨found, foundMember, equal, below⟩
      rw [tree.eq_of_id_eq foundMember otherMember (equal.trans same.symm)] at below
      exact outside below
    have found := (tree.mem_searchBelow_outside_iff member otherMember outside).mpr
      ⟨active, root, digits⟩
    exact (settle_eq_iff tree productId qty elsewhere member).mp (kept quant listed elsewhere)
      product (List.mem_map.mpr ⟨other, found, same⟩)
  · intro settled quant listed elsewhere
    apply (settle_eq_iff tree productId qty elsewhere member).mpr
    intro product found
    obtain ⟨other, foundOther, same⟩ := List.mem_map.mp found
    have otherMember := (tree.mem_searchBelow_iff.mp foundOther).1
    have outside : location.id ∉ other.path := by
      intro below
      have inside := tree.mem_subtree_iff.mpr ⟨other, otherMember, same, below⟩
      simp [inSubtree, product, inside] at elsewhere
    obtain ⟨active, root, digits⟩ :=
      (tree.mem_searchBelow_outside_iff member otherMember outside).mp foundOther
    exact settled root quant listed product other otherMember same active outside digits

/-- With a quant added in the location where there is none, the subtree holds the quantity exactly
if nothing is left over. -/
theorem total_subtree_iff (member : location ∈ tree.locations) {quants added : List LocationQuant}
    (inside : ∀ quant ∈ added, inSubtree tree productId location quant)
    (new : total added =
      if (quantsIn productId location.id quants).length = 0 then qty else 0) :
    total ((quants.map (settle tree productId location qty) ++ added).filter
        (inSubtree tree productId location)) = qty ↔
      ((quantsIn productId location.id quants).length - 1 : ℕ) * qty +
        total (archivedQuants tree productId location quants) = 0 := by
  have whole : total ((quants.map (settle tree productId location qty) ++ added).filter
      (inSubtree tree productId location)) =
      total ((quants.map (settle tree productId location qty)).filter
        (inSubtree tree productId location)) + total added := by
    rw [List.filter_append, List.filter_eq_self.mpr inside, total, List.map_append, List.sum_append]
    rfl
  rw [whole, total_settled tree productId qty member, new]
  generalize total (archivedQuants tree productId location quants) = archived
  cases (quantsIn productId location.id quants).length with
  | zero =>
      simp only [Nat.cast_zero, zero_mul, zero_add, if_true, Nat.zero_sub]
      exact add_eq_right
  | succ count =>
      rw [if_neg (Nat.succ_ne_zero count), Nat.succ_sub_one, Nat.cast_succ]
      constructor
      · intro same
        linarith
      · intro zero
        linarith

/-- The quants elsewhere are as before exactly if each of them is left alone. -/
theorem filter_others_iff {quants added : List LocationQuant}
    (inside : ∀ quant ∈ added, inSubtree tree productId location quant) :
    (quants.map (settle tree productId location qty) ++ added).filter
        (fun quant => !inSubtree tree productId location quant) =
        quants.filter (fun quant => !inSubtree tree productId location quant) ↔
      ∀ quant ∈ quants, inSubtree tree productId location quant = false →
        settle tree productId location qty quant = quant := by
  have none : added.filter (fun quant => !inSubtree tree productId location quant) = [] := by
    rw [List.filter_eq_nil_iff]
    intro quant listed
    simp [inside quant listed]
  have moved : (quants.map (settle tree productId location qty)).filter
      (fun quant => !inSubtree tree productId location quant) =
      (quants.filter fun quant => !inSubtree tree productId location quant).map
        (settle tree productId location qty) := by
    rw [List.filter_map]
    apply congrArg
    apply List.filter_congr
    intro quant _
    have keys := settle_keys tree productId location qty quant
    rw [Function.comp_apply, inSubtree, inSubtree, keys.1, keys.2]
  rw [List.filter_append, none, List.append_nil, moved]
  constructor
  · intro same quant listed elsewhere
    have identity := same.trans (List.map_id _).symm
    exact List.map_inj_left.mp identity quant (List.mem_filter.mpr ⟨listed, by simp [elsewhere]⟩)
  · intro fixed
    have identity : (quants.filter fun quant => !inSubtree tree productId location quant).map
        (settle tree productId location qty) =
        (quants.filter fun quant => !inSubtree tree productId location quant).map id := by
      apply List.map_congr_left
      intro quant listed
      obtain ⟨listed, elsewhere⟩ := List.mem_filter.mp listed
      exact fixed quant listed (by simpa using elsewhere)
    rw [identity, List.map_id]

end

/-- The stock is imported exactly if nothing disturbs it. -/
theorem stock_imported_iff {tree : LocationTree} {location : StockLocation}
    (member : location ∈ tree.locations) {variant : StockVariant}
    (noKit : .phantom ∉ variant.bomTypes) (storable : variant.type = .product)
    (untracked : variant.tracking = .none) (qty : Option ℚ) (nextId : ℕ)
    (quants : List LocationQuant) :
    Imported tree variant.id location (qty.getD 0) quants
        (applyStockLevels tree variant qty location nextId quants).2 ↔
      Undisturbed tree variant.id location (qty.getD 0) quants := by
  rw [applyStockLevels_snd tree location noKit storable untracked]
  generalize qty.getD 0 = quantity
  have below := id_mem_subtree tree member
  generalize new : (if (quantsIn variant.id location.id quants).isEmpty then
    [(⟨nextId, location.id, variant.id, quantity⟩ : LocationQuant)] else []) = added
  have inside : ∀ quant ∈ added, inSubtree tree variant.id location quant := by
    rw [← new]
    intro quant listed
    split at listed
    · rw [List.mem_singleton.mp listed]
      simp [inSubtree, below]
    · cases listed
  have addedTotal : total added =
      if (quantsIn variant.id location.id quants).length = 0 then quantity else 0 := by
    rw [← new]
    cases quantsIn variant.id location.id quants <;> simp [total]
  have sum := total_subtree_iff quantity member inside addedTotal
  have kept := (filter_others_iff quantity inside).trans (settle_others_iff quantity member quants)
  constructor
  · intro ⟨holds, unchanged⟩
    exact ⟨sum.mp holds, kept.mp unchanged⟩
  · intro ⟨single, digits⟩
    exact ⟨sum.mpr single, kept.mpr digits⟩

/-! ## A shelf and its warehouse -/

def depot : StockLocation := ⟨1, [1], true⟩

def rack : StockLocation := ⟨2, [1, 2], true⟩

def depotTree : LocationTree where
  locations := [depot, rack]
  distinct := by simp [depot, rack]
  ends := by
    intro location member
    simp only [List.mem_cons, List.not_mem_nil, or_false] at member
    rcases member with rfl | rfl
    · exact ⟨[], rfl⟩
    · exact ⟨[1], rfl⟩
  parents := by
    intro location member front id back path
    simp only [List.mem_cons, List.not_mem_nil, or_false] at member
    have first : ∃ parent ∈ [depot, rack], parent.id = 1 ∧ parent.path = [] ++ [1] :=
      ⟨depot, List.mem_cons_self, rfl, rfl⟩
    have second : ∃ parent ∈ [depot, rack], parent.id = 2 ∧ parent.path = [1] ++ [2] :=
      ⟨rack, by simp, rfl, rfl⟩
    rcases member with rfl | rfl
    · cases front with
      | nil =>
          cases path
          exact first
      | cons head front => simp [depot] at path
    · cases front with
      | nil =>
          cases path
          exact first
      | cons head front =>
          cases front with
          | nil =>
              cases path
              exact second
          | cons next front => simp [rack] at path

def boltVariant : StockVariant := ⟨7, [], .product, .none⟩

/-- Stock in the depot and on its rack is replaced by what the store reports. -/
theorem rack_imported :
    Imported depotTree 7 depot 10 [⟨1, 1, 7, 3⟩, ⟨2, 2, 7, 4⟩]
      (applyStockLevels depotTree boltVariant (some 10) depot 3 [⟨1, 1, 7, 3⟩, ⟨2, 2, 7, 4⟩]).2 :=
  (@stock_imported_iff depotTree depot (by simp [depotTree]) boltVariant (by simp [boltVariant])
    rfl rfl (some 10) 3 [⟨1, 1, 7, 3⟩, ⟨2, 2, 7, 4⟩]).mpr
    { single := by
        simp [quantsIn, boltVariant, depot, archivedQuants, LocationTree.archivedBelow, depotTree,
          rack, total]
      digits := by
        intro _ _ _ _ other member _ _ outside
        simp only [depotTree, List.mem_cons, List.not_mem_nil, or_false] at member
        rcases member with rfl | rfl <;> simp [depot, rack] at outside }

/-- With two packages of the product in the depot, each gets the whole quantity. -/
theorem packages_counted_twice :
    ¬ Imported depotTree 7 depot 10 [⟨1, 1, 7, 3⟩, ⟨2, 1, 7, 4⟩]
      (applyStockLevels depotTree boltVariant (some 10) depot 3
        [⟨1, 1, 7, 3⟩, ⟨2, 1, 7, 4⟩]).2 := by
  intro imported
  have sum := imported.sum
  rw [applyStockLevels_snd depotTree depot (by simp [boltVariant]) rfl rfl] at sum
  have left := (total_subtree_iff 10 (by simp [depotTree]) (by simp [quantsIn, boltVariant, depot])
    (by simp [quantsIn, boltVariant, depot, total])).mp sum
  simp [quantsIn, depot, archivedQuants, LocationTree.archivedBelow, depotTree, rack, total]
    at left

end Inventory
end OdooConnector
