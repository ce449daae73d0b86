import Mathlib.Data.Finset.Insert
import Mathlib.Data.List.ReduceOption
import Mathlib.Data.Rat.Defs
import OdooConnector.Library.Chunks

/-!
# Price batches of a catalog

Pairs of an external variant and a product are cut into batches. A batch collects the prices of
the variants that have a price rule, the variants that have none, and the templates of both.
-/

namespace OdooConnector.Catalog

/-- Price of a product and the rule that sets it. -/
structure Pricelist where
  getProductPriceRule : ℕ → ℚ × Option ℕ

structure CatalogLine where
  pricelistId : Pricelist
  pricelistCompareAtId : Option Pricelist
  /-- Rounding to the precision of product prices. -/
  floatRound : ℚ → ℚ
  displayName : ℕ → String

structure PriceRow where
  externalVariantId : String
  price : ℚ
  compareAtPrice : Option ℚ
  variantId : ℕ
  displayName : String
deriving DecidableEq

structure BatchData where
  pricesToAdd : List PriceRow
  variantToDelete : List String
  productToInclude : Finset String
  productToExclude : Finset String

structure PriceBatch extends BatchData where
  state : Option String
  batchNumber : ℕ
  batchCount : ℕ

/-- Code of an external variant and the product it is mapped to. -/
abbrev Pair := String × ℕ

def batchLimit : ℕ := 250

/-- Template and variant of a code that has exactly these two parts. -/
def splitCode (code : String) : Option (String × String) :=
  match (code.toList.splitOn '-').map String.ofList with
  | [template, variant] => some (template, variant)
  | _ => none

namespace CatalogLine

variable (line : CatalogLine)

def preparePrices (variant : ℕ) : Option ℚ × Option ℚ :=
  match line.pricelistId.getProductPriceRule variant with
  | (_, none) => (none, none)
  | (price, some _) =>
      let compareAtPrice := line.pricelistCompareAtId.bind fun pricelist =>
        match pricelist.getProductPriceRule variant with
        | (_, none) => none
        | (compareAt, some _) => some compareAt
      (some (line.floatRound price), compareAtPrice.map line.floatRound)

def addPair (data : BatchData) (pair : Pair) : Option BatchData :=
  (splitCode pair.1).map fun code =>
    match line.preparePrices pair.2 with
    | (none, _) =>
        { data with
          variantToDelete := data.variantToDelete ++ [code.2]
          productToExclude := insert code.1 data.productToExclude }
    | (some price, compareAt) =>
        { data with
          pricesToAdd := data.pricesToAdd ++
            [⟨code.2, price, compareAt, pair.2, line.displayName pair.2⟩]
          productToInclude := insert code.1 data.productToInclude }

def batchData (pairs : List Pair) : Option BatchData :=
  pairs.foldlM line.addPair ⟨[], [], ∅, ∅⟩

/-- The batch of some pairs, when there are any changes. -/
def createBatch (runExport : Bool) (batchCount : ℕ) (batch : List Pair × ℕ) :
    Option (Option PriceBatch) :=
  (line.batchData batch.1).map fun data =>
    if data.pricesToAdd ≠ [] ∨ data.variantToDelete ≠ [] ∨ data.productToInclude ≠ ∅ ∨
        data.productToExclude ≠ ∅ then
      some { data with
        state := if runExport then none else some "cancelled"
        batchNumber := batch.2 + 1
        batchCount }
    else
      none

def createPriceBatches (runExport : Bool) (recordList : List Pair) : Option (List PriceBatch) :=
  let batchCount := (recordList.length + batchLimit - 1) / batchLimit
  ((chunks batchLimit recordList).zipIdx.mapM (line.createBatch runExport batchCount)).map
    List.reduceOption

/-! ## What a batch holds -/

/-- A price rule sets the price of the product. -/
def isPriced (pair : Pair) : Bool :=
  (line.preparePrices pair.2).1.isSome

/-- The price that a pair adds. -/
def priceRow (pair : Pair) : Option PriceRow :=
  (splitCode pair.1).bind fun code =>
    (line.preparePrices pair.2).1.map fun price =>
      ⟨code.2, price, (line.preparePrices pair.2).2, pair.2, line.displayName pair.2⟩

/-- The variant that a pair deletes. -/
def deletedVariant (pair : Pair) : Option String :=
  (splitCode pair.1).bind fun code => if line.isPriced pair then none else some code.2

/-- Templates of the pairs that have a price rule, or of those that have none. -/
def IsTemplateOf (pairs : List Pair) (priced : Bool) (template : String) : Prop :=
  ∃ pair ∈ pairs, line.isPriced pair = priced ∧
    ∃ variant, splitCode pair.1 = some (template, variant)

/-- The data are those of exactly the given pairs. -/
structure Holds (pairs : List Pair) (data : BatchData) : Prop where
  prices : data.pricesToAdd = pairs.filterMap line.priceRow
  deleted : data.variantToDelete = pairs.filterMap line.deletedVariant
  included : ∀ template, template ∈ data.productToInclude ↔ line.IsTemplateOf pairs true template
  excluded : ∀ template, template ∈ data.productToExclude ↔ line.IsTemplateOf pairs false template

variable {line}

theorem isTemplateOf_append {first second : List Pair} {priced : Bool} {template : String} :
    line.IsTemplateOf (first ++ second) priced template ↔
      line.IsTemplateOf first priced template ∨ line.IsTemplateOf second priced template := by
  simp only [IsTemplateOf, List.mem_append, or_and_right, exists_or]

theorem isTemplateOf_singleton {pair : Pair} {code : String × String}
    (parts : splitCode pair.1 = some code) {priced : Bool} {template : String} :
    line.IsTemplateOf [pair] priced template ↔
      line.isPriced pair = priced ∧ template = code.1 := by
  simp only [IsTemplateOf, List.mem_singleton, exists_eq_left, parts, Option.some.injEq]
  refine and_congr_right fun _ => ?_
  constructor
  · rintro ⟨variant, rfl⟩
    rfl
  · rintro rfl
    exact ⟨code.2, rfl⟩

theorem holds_addPair {pairs : List Pair} {data next : BatchData} {pair : Pair}
    (holds : line.Holds pairs data) (added : line.addPair data pair = some next) :
    line.Holds (pairs ++ [pair]) next := by
  obtain ⟨code, parts, rfl⟩ := Option.map_eq_some_iff.mp added
  obtain ⟨prices, deleted, included, excluded⟩ := holds
  have split : ∀ {priced template}, line.IsTemplateOf (pairs ++ [pair]) priced template ↔
      line.IsTemplateOf pairs priced template ∨ line.isPriced pair = priced ∧ template = code.1 :=
    isTemplateOf_append.trans (or_congr_right (isTemplateOf_singleton parts))
  rcases found : line.preparePrices pair.2 with ⟨_ | price, compareAt⟩
  · have unpriced : line.isPriced pair = false := by rw [isPriced, found]; rfl
    constructor
    · simp [prices, priceRow, parts, found]
    · simp [deleted, deletedVariant, parts, unpriced]
    · intro template
      simp [split, included, unpriced]
    · intro template
      simp [split, excluded, unpriced, or_comm]
  · have priced : line.isPriced pair = true := by rw [isPriced, found]; rfl
    constructor
    · simp [prices, priceRow, parts, found]
    · simp [deleted, deletedVariant, parts, priced]
    · intro template
      simp [split, included, priced, or_comm]
    · intro template
      simp [split, excluded, priced]

theorem holds_batchData {pairs : List Pair} {data : BatchData}
    (result : line.batchData pairs = some data) : line.Holds pairs data := by
  have run : ∀ (rest done : List Pair) (data next : BatchData), line.Holds done data →
      rest.foldlM line.addPair data = some next → line.Holds (done ++ rest) next := by
    intro rest
    induction rest with
    | nil =>
        intro done data next holds result
        obtain rfl := Option.some.inj result
        rwa [List.append_nil]
    | cons pair rest induction =>
        intro done data next holds result
        obtain ⟨middle, added, result⟩ := Option.bind_eq_some_iff.mp result
        have later := induction (done ++ [pair]) middle next (holds_addPair holds added) result
        rwa [List.append_assoc, List.singleton_append] at later
  refine run pairs [] _ data ⟨rfl, rfl, ?_, ?_⟩ result <;> simp [IsTemplateOf]

theorem isSome_batchData (line : CatalogLine) (pairs : List Pair) :
    (line.batchData pairs).isSome = pairs.all fun pair => (splitCode pair.1).isSome := by
  have run : ∀ (pairs : List Pair) (data : BatchData), (pairs.foldlM line.addPair data).isSome =
      pairs.all fun pair => (splitCode pair.1).isSome := by
    intro pairs
    induction pairs with
    | nil => exact fun _ => rfl
    | cons pair pairs induction =>
        intro data
        rw [List.foldlM_cons, List.all_cons, addPair]
        cases splitCode pair.1 with
        | none => rfl
        | some code => simp [induction]
  exact run pairs _

theorem isTemplateOf_of_mem (line : CatalogLine) {pairs : List Pair} {pair : Pair}
    (member : pair ∈ pairs) {code : String × String} (parts : splitCode pair.1 = some code) :
    line.IsTemplateOf pairs (line.isPriced pair) code.1 :=
  ⟨pair, member, rfl, code.2, parts⟩

/-- Without changes there are no pairs. -/
theorem eq_nil_of_holds {pairs : List Pair} {data : BatchData}
    (result : line.batchData pairs = some data) (noInclude : data.productToInclude = ∅)
    (noExclude : data.productToExclude = ∅) : pairs = [] := by
  have holds := holds_batchData result
  refine List.eq_nil_iff_forall_not_mem.mpr fun pair member => ?_
  have parts : (splitCode pair.1).isSome = true := by
    have all := isSome_batchData line pairs
    rw [result, Option.isSome_some, eq_comm, List.all_eq_true] at all
    exact all pair member
  obtain ⟨code, parts⟩ := Option.isSome_iff_exists.mp parts
  have template := isTemplateOf_of_mem line member parts
  cases priced : line.isPriced pair with
  | true =>
      rw [priced, ← holds.included, noInclude] at template
      exact absurd template (Finset.notMem_empty _)
  | false =>
      rw [priced, ← holds.excluded, noExclude] at template
      exact absurd template (Finset.notMem_empty _)

theorem createBatch_spec {runExport : Bool} {batchCount : ℕ} {batch : List Pair × ℕ}
    {created : Option PriceBatch}
    (result : line.createBatch runExport batchCount batch = some created) :
    (created = none → batch.1 = []) ∧
      ∀ item, created = some item → line.Holds batch.1 item.toBatchData := by
  obtain ⟨data, found, rfl⟩ := Option.map_eq_some_iff.mp result
  constructor
  · intro empty
    split at empty
    · contradiction
    · rename_i unchanged
      simp only [not_or, not_not] at unchanged
      exact eq_nil_of_holds found unchanged.2.2.1 unchanged.2.2.2
  · intro item made
    split at made
    · rw [← Option.some.inj made]
      exact holds_batchData found
    · contradiction

/-- Every pair is in one batch, and each batch holds the data of its pairs. -/
theorem createPriceBatches_spec {runExport : Bool} {recordList : List Pair}
    {batches : List PriceBatch}
    (result : line.createPriceBatches runExport recordList = some batches) :
    ∃ slices : List (List Pair), slices.flatten = recordList ∧
      List.Forall₂ (fun slice batch => line.Holds slice batch.toBatchData) slices batches := by
  obtain ⟨created, found, rfl⟩ := Option.map_eq_some_iff.mp result
  have run : ∀ (list : List (List Pair × ℕ)) (count : ℕ) (created : List (Option PriceBatch)),
      list.mapM (line.createBatch runExport count) = some created →
        ∃ slices : List (List Pair), slices.flatten = (list.map Prod.fst).flatten ∧
          List.Forall₂ (fun slice batch => line.Holds slice batch.toBatchData) slices
            created.reduceOption := by
    intro list count
    induction list with
    | nil =>
        intro created result
        rw [List.mapM_nil] at result
        obtain rfl := Option.some.inj result
        exact ⟨[], rfl, List.Forall₂.nil⟩
    | cons batch list induction =>
        intro created result
        rw [List.mapM_cons] at result
        obtain ⟨first, made, result⟩ := Option.bind_eq_some_iff.mp result
        obtain ⟨others, rest, result⟩ := Option.bind_eq_some_iff.mp result
        obtain rfl := Option.some.inj result
        obtain ⟨slices, flat, holds⟩ := induction others rest
        have own := createBatch_spec made
        cases first with
        | none =>
            rw [List.reduceOption_cons_of_none]
            refine ⟨slices, ?_, holds⟩
            rw [flat, List.map_cons, List.flatten_cons, own.1 rfl, List.nil_append]
        | some item =>
            rw [List.reduceOption_cons_of_some]
            refine ⟨batch.1 :: slices, ?_, List.Forall₂.cons (own.2 item rfl) holds⟩
            rw [List.flatten_cons, flat, List.map_cons, List.flatten_cons]
  obtain ⟨slices, flat, holds⟩ := run _ _ created found
  rw [List.zipIdx_map_fst, flatten_chunks (by decide)] at flat
  exact ⟨slices, flat, holds⟩

theorem isSome_createPriceBatches (line : CatalogLine) (runExport : Bool)
    (recordList : List Pair) :
    (line.createPriceBatches runExport recordList).isSome =
      recordList.all fun pair => (splitCode pair.1).isSome := by
  have run : ∀ (list : List (List Pair × ℕ)) (count : ℕ),
      (list.mapM (line.createBatch runExport count)).isSome =
        (list.map Prod.fst).flatten.all fun pair => (splitCode pair.1).isSome := by
    intro list count
    induction list with
    | nil => rfl
    | cons batch list induction =>
        rw [List.map_cons, List.flatten_cons, List.all_append, ← induction,
          ← isSome_batchData line, List.mapM_cons, createBatch]
        cases line.batchData batch.1 with
        | none => rfl
        | some data =>
            cases list.mapM (line.createBatch runExport count) with
            | none => rfl
            | some others => rfl
  rw [createPriceBatches, Option.isSome_map, run, List.zipIdx_map_fst,
    flatten_chunks (by decide)]

end CatalogLine

end OdooConnector.Catalog
