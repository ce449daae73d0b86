import Mathlib.Data.List.Nodup
import OdooConnector.Catalog.PriceExports

/-!
# Blocks of specific prices

The templates that have specific prices are exported in blocks, except that a template with errors
gets a job of its own. A block is released when it is full, and what is left after the last template
is released too.
-/

namespace OdooConnector.Catalog

/-- The specific prices of a template or of one of its variants. -/
structure PriceTuple (Item : Type*) where
  resId : ℕ
  resModel : String
  extId : String
  prices : List Item
  forceSyncPricelist : Bool

/-- The prices of a template and those of its variants. -/
abbrev TemplatePrices (Item : Type*) := PriceTuple Item × List (PriceTuple Item)

/-- What an integration knows about templates and their prices. -/
structure TemplateStore (Item : Type*) where
  /-- `to_external_record` finds the template. -/
  isExternal : ℕ → Bool
  prepareIntegrationVariants : ℕ → List ℕ
  isVariantExternal : ℕ → Bool
  toForceSyncPricelist : ℕ → Bool
  getExternalCode : ℕ → String
  collectSpecificPrices : ℕ → List ℕ → List ℕ → List Item
  collectVariantPrices : ℕ → List ℕ → List ℕ → List Item
  isItemValid : Item → Bool
  isSpecificPriceDuplicateValidationEnabled : Bool
  hasDuplicates : List Item → Bool

namespace TemplateStore

variable {Item : Type*} (store : TemplateStore Item)

/-- The template and all its variants are mapped. -/
def isFullyMapped (template : ℕ) : Bool :=
  store.isExternal template &&
    (store.prepareIntegrationVariants template).all store.isVariantExternal

/-- `convert_pricelists`; the prices of a variant are kept under the template. -/
def convertPricelists (template : ℕ) (args : PricelistArgs) : Option (TemplatePrices Item) :=
  let force := store.toForceSyncPricelist template
  let pricelistIds := if force then [] else args.pricelistIds
  let itemIds := if force then [] else args.itemIds
  let formatResult := fun prices : List Item => (⟨template, "product.template",
    store.getExternalCode template, prices, force⟩ : PriceTuple Item)
  let templatePrices := store.collectSpecificPrices template pricelistIds itemIds
  let variantData := (store.prepareIntegrationVariants template).filterMap fun variant =>
    let variantPrices := store.collectVariantPrices variant pricelistIds itemIds
    if force || !variantPrices.isEmpty then some (formatResult variantPrices) else none
  if force || !templatePrices.isEmpty || !variantData.isEmpty then
    some (formatResult templatePrices, variantData)
  else none

/-- `_validate_pricelist_data` -/
def validatePricelistData (data : TemplatePrices Item) : Bool :=
  (data.2.foldl (fun prices block => prices ++ block.prices) data.1.prices).all store.isItemValid

/-- `_validate_no_duplicated_specific_prices` -/
def validateNoDuplicatedSpecificPrices (data : TemplatePrices Item) : Bool :=
  !store.isSpecificPriceDuplicateValidationEnabled ||
    (data.1 :: data.2).all fun block => block.prices.isEmpty || !store.hasDuplicates block.prices

/-- Prices are computed from what the integrations know. -/
def database (stores : ℕ → TemplateStore Item) (odoo : PriceDatabase (TemplatePrices Item))
    (integrationId : ℕ) : PriceDatabase (TemplatePrices Item) :=
  { odoo with
    isMapped := fun id => (stores id).isFullyMapped
    convertPricelists := fun id => (stores id).convertPricelists
    hasNoDuplicates := (stores integrationId).validateNoDuplicatedSpecificPrices
    isValid := (stores integrationId).validatePricelistData }

end TemplateStore

variable {PriceData : Type*}

/-! ## What the released jobs are -/

/-- The number and the data of a block, if the job exports one. -/
def blockOf (job : ExportJob PriceData) : Option (ℕ × List (ℕ × PriceData)) :=
  match job.key, job.work with
  | .specificPricesBlock _ idx, .exportPricelistData _ block _ => some (idx, block)
  | _, _ => none

/-- The template that a job exports on its own. -/
def templateOf (job : ExportJob PriceData) : Option ℕ :=
  match job.work with
  | .exportPricelistsOne _ template => some template
  | _ => none

/-- The numbered blocks among the released jobs. -/
def blocksOf (calls : List (ExportJob PriceData)) : List (ℕ × List (ℕ × PriceData)) :=
  calls.filterMap blockOf

/-- The templates among the released jobs that are exported on their own. -/
def separateOf (calls : List (ExportJob PriceData)) : List ℕ := calls.filterMap templateOf

/-- The data of a template in all blocks. -/
def entriesOf (calls : List (ExportJob PriceData)) (template : ℕ) : List (ℕ × PriceData) :=
  ((blocksOf calls).flatMap Prod.snd).filter fun entry => entry.1 = template

/-- The released jobs export each template with prices exactly once: in one block if its data are
right, and by a job of its own otherwise. -/
structure Partitioned (templates : List ℕ) (isMapped : ℕ → Bool) (data : ℕ → Option PriceData)
    (isRight : PriceData → Bool) (calls : List (ExportJob PriceData)) : Prop where
  numbered : (blocksOf calls).map Prod.fst = List.range' 1 (blocksOf calls).length
  nonempty : ∀ block ∈ blocksOf calls, block.2 ≠ []
  right : ∀ template ∈ templates, isMapped template = true → ∀ prices,
    data template = some prices → isRight prices = true →
      entriesOf calls template = [(template, prices)] ∧ template ∉ separateOf calls
  wrong : ∀ template ∈ templates, isMapped template = true → ∀ prices,
    data template = some prices → isRight prices = false →
      entriesOf calls template = [] ∧ (separateOf calls).count template = 1
  skipped : ∀ template, (template ∉ templates ∨ isMapped template = false ∨ data template = none) →
    entriesOf calls template = [] ∧ template ∉ separateOf calls

namespace PriceDatabase

variable (odoo : PriceDatabase PriceData) (integrationId : ℕ) (args : PricelistArgs)

/-- The data of a template that go into a block. -/
def blockEntry (template : ℕ) : Option (ℕ × PriceData) :=
  if odoo.isMapped integrationId template then
    ((odoo.convertPricelists integrationId template args).filter fun data =>
      odoo.hasNoDuplicates data && odoo.isValid data).map fun data => (template, data)
  else none

/-- The template has data with errors. -/
def hasErrors (template : ℕ) : Bool :=
  odoo.isMapped integrationId template &&
    (odoo.convertPricelists integrationId template args).any fun data =>
      !(odoo.hasNoDuplicates data && odoo.isValid data)

/-- The job of a numbered block. -/
def blockJob (updating : Bool) (block : List (ℕ × PriceData) × ℕ) : ExportJob PriceData :=
  ⟨.specificPricesBlock integrationId block.2, .exportPricelistData integrationId block.1 updating⟩

def separateJob (template : ℕ) : ExportJob PriceData :=
  ⟨.specificPricesTemplate integrationId template, .exportPricelistsOne integrationId template⟩

/-- What the loop has come to after some templates. -/
structure LoopHolds (visited : List ℕ) (loop : MultiLoop PriceData)
    (blocks : List (List (ℕ × PriceData))) : Prop where
  calls : loop.calls = (blocks.zipIdx 1).map (blockJob integrationId args.updating)
  blockNumber : loop.blockNumber = blocks.length + 1
  nonempty : ∀ block ∈ blocks, block ≠ []
  entries : blocks.flatten ++ loop.blockList =
    visited.filterMap (odoo.blockEntry integrationId args)
  invalid : loop.invalidTemplateIds = visited.filter (odoo.hasErrors integrationId args)

variable {odoo integrationId args} {visited : List ℕ} {loop : MultiLoop PriceData}
  {blocks : List (List (ℕ × PriceData))}

/-- A release makes a block of the entries that are waiting. -/
theorem LoopHolds.release (holds : odoo.LoopHolds integrationId args visited loop blocks)
    (waiting : loop.blockList ≠ []) :
    odoo.LoopHolds integrationId args visited (loop.release integrationId args.updating)
      (blocks ++ [loop.blockList]) where
  calls := by
    rw [MultiLoop.release, holds.calls, holds.blockNumber, List.zipIdx_append, List.map_append,
      Nat.add_comm 1]
    rfl
  blockNumber := by
    rw [MultiLoop.release, holds.blockNumber, List.length_append, List.length_singleton]
  nonempty := by
    intro block member
    rcases List.mem_append.mp member with before | last
    · exact holds.nonempty block before
    · rwa [List.mem_singleton.mp last]
  entries := by
    rw [MultiLoop.release, List.append_nil, List.flatten_append, List.flatten_singleton,
      holds.entries]
  invalid := holds.invalid

theorem LoopHolds.releaseFull (holds : odoo.LoopHolds integrationId args visited loop blocks) :
    ∃ blocks, odoo.LoopHolds integrationId args visited
      (loop.releaseFull integrationId args.updating) blocks := by
  rw [MultiLoop.releaseFull]
  split
  · rename_i full
    have waiting : loop.blockList ≠ [] := by
      rintro empty
      rw [empty, List.length_nil] at full
      exact absurd full (by decide)
    exact ⟨_, holds.release waiting⟩
  · exact ⟨_, holds⟩

/-- One template adds its entry to the block, or itself to those with errors, or nothing. -/
theorem LoopHolds.addTemplate (holds : odoo.LoopHolds integrationId args visited loop blocks)
    (template : ℕ) :
    ∃ blocks, odoo.LoopHolds integrationId args (visited ++ [template])
      (odoo.addTemplate integrationId args loop template) blocks := by
  have added : ∀ entry, odoo.blockEntry integrationId args template = some entry →
      odoo.hasErrors integrationId args template = false →
        odoo.LoopHolds integrationId args (visited ++ [template])
          { loop with blockList := loop.blockList ++ [entry] } blocks := by
    intro entry found right
    refine ⟨holds.calls, holds.blockNumber, holds.nonempty, ?_, ?_⟩
    · rw [← List.append_assoc, holds.entries, List.filterMap_append]
      simp [found]
    · simp [holds.invalid, List.filter_append, right]
  have separated : odoo.blockEntry integrationId args template = none →
      odoo.hasErrors integrationId args template = true →
        odoo.LoopHolds integrationId args (visited ++ [template])
          { loop with invalidTemplateIds := loop.invalidTemplateIds ++ [template] } blocks := by
    intro noEntry wrong
    refine ⟨holds.calls, holds.blockNumber, holds.nonempty, ?_, ?_⟩
    · rw [holds.entries, List.filterMap_append]
      simp [noEntry]
    · simp [holds.invalid, List.filter_append, wrong]
  have unchanged : odoo.blockEntry integrationId args template = none →
      odoo.hasErrors integrationId args template = false →
        odoo.LoopHolds integrationId args (visited ++ [template]) loop blocks := by
    intro noEntry right
    refine ⟨holds.calls, holds.blockNumber, holds.nonempty, ?_, ?_⟩
    · rw [holds.entries, List.filterMap_append]
      simp [noEntry]
    · simp [holds.invalid, List.filter_append, right]
  rw [PriceDatabase.addTemplate]
  cases mapped : odoo.isMapped integrationId template with
  | false => exact ⟨blocks, unchanged (by simp [blockEntry, mapped]) (by simp [hasErrors, mapped])⟩
  | true =>
      cases converted : odoo.convertPricelists integrationId template args with
      | none =>
          exact (unchanged (by simp [blockEntry, converted])
            (by simp [hasErrors, converted])).releaseFull
      | some data =>
          cases distinct : odoo.hasNoDuplicates data with
          | false =>
              simp only [Bool.not_true, Bool.not_false, if_true, Bool.false_eq_true, if_false,
                distinct]
              exact ⟨blocks, separated (by simp [blockEntry, converted, distinct])
                (by simp [hasErrors, mapped, converted, distinct])⟩
          | true =>
              simp only [Bool.not_true, Bool.false_eq_true, if_false, distinct]
              cases valid : odoo.isValid data with
              | true =>
                  exact (added (template, data)
                    (by simp [blockEntry, mapped, converted, distinct, valid])
                    (by simp [hasErrors, converted, distinct, valid])).releaseFull
              | false =>
                  exact (separated (by simp [blockEntry, converted, valid])
                    (by simp [hasErrors, mapped, converted, valid])).releaseFull

variable (odoo integrationId args) in
/-- The released jobs are those of the blocks, in which every entry is, and those of the templates
with errors. -/
theorem exportPricelistsMulti_eq : ∃ blocks : List (List (ℕ × PriceData)),
    odoo.exportPricelistsMulti integrationId args =
        (blocks.zipIdx 1).map (blockJob integrationId args.updating) ++
          ((odoo.searchTemplates integrationId args).filter
            (odoo.hasErrors integrationId args)).map (separateJob integrationId) ∧
      (∀ block ∈ blocks, block ≠ []) ∧
      blocks.flatten = (odoo.searchTemplates integrationId args).filterMap
        (odoo.blockEntry integrationId args) := by
  obtain ⟨blocks, holds⟩ : ∃ blocks, odoo.LoopHolds integrationId args
      (odoo.searchTemplates integrationId args)
      ((odoo.searchTemplates integrationId args).foldl (odoo.addTemplate integrationId args)
        ⟨1, [], [], []⟩) blocks := by
    refine foldl_visited _ (fun visited loop =>
      ∃ blocks, odoo.LoopHolds integrationId args visited loop blocks) _
        ⟨[], rfl, rfl, by simp, rfl, rfl⟩ ?_
    rintro visited template rest loop - ⟨blocks, holds⟩
    exact holds.addTemplate template
  rw [exportPricelistsMulti]
  split
  · rename_i empty
    have entries := holds.entries
    rw [empty, List.append_nil] at entries
    exact ⟨blocks, by rw [holds.calls, holds.invalid]; rfl, holds.nonempty, entries⟩
  · rename_i waiting
    have released := holds.release waiting
    have entries := released.entries
    rw [show (MultiLoop.release integrationId args.updating _).blockList = [] from rfl,
      List.append_nil] at entries
    exact ⟨_, by rw [released.calls, released.invalid]; rfl, released.nonempty, entries⟩

variable (blocks) {templates : List ℕ} {template : ℕ}

theorem blocksOf_released (updating : Bool) : blocksOf ((blocks.zipIdx 1).map
    (blockJob integrationId updating) ++ templates.map (separateJob integrationId)) =
      (blocks.zipIdx 1).map Prod.swap := by
  have none : templates.filterMap
      ((blockOf : ExportJob PriceData → _) ∘ separateJob integrationId) = [] :=
    List.filterMap_eq_nil_iff.mpr fun _ _ => rfl
  rw [blocksOf, List.filterMap_append, List.filterMap_map, List.filterMap_map, none,
    List.append_nil, ← List.filterMap_eq_map]
  rfl

theorem separateOf_released (updating : Bool) : separateOf ((blocks.zipIdx 1).map
    (blockJob integrationId updating) ++ templates.map (separateJob integrationId)) =
      templates := by
  have none : (blocks.zipIdx 1).filterMap (templateOf ∘ blockJob integrationId updating) = [] :=
    List.filterMap_eq_nil_iff.mpr fun _ _ => rfl
  rw [separateOf, List.filterMap_append, List.filterMap_map, List.filterMap_map, none,
    List.nil_append]
  exact List.filterMap_some

theorem entriesOf_released (updating : Bool) : entriesOf ((blocks.zipIdx 1).map
    (blockJob integrationId updating) ++ templates.map (separateJob integrationId)) template =
      blocks.flatten.filter fun entry => entry.1 = template := by
  rw [entriesOf, blocksOf_released, List.flatMap_def, List.map_map]
  exact congrArg (fun lists : List (List (ℕ × PriceData)) =>
    lists.flatten.filter fun entry => entry.1 = template) (List.zipIdx_map_fst 1 blocks)

theorem blockEntry_fst {entry : ℕ × PriceData}
    (found : odoo.blockEntry integrationId args template = some entry) : entry.1 = template := by
  rw [blockEntry] at found
  split at found
  · obtain ⟨data, -, rfl⟩ := Option.map_eq_some_iff.mp found
    rfl
  · cases found

/-- The entries of a template are its own one, if it is listed and has one. -/
theorem filter_blockEntry (distinct : templates.Nodup) :
    (templates.filterMap (odoo.blockEntry integrationId args)).filter
        (fun entry => entry.1 = template) =
      if template ∈ templates then (odoo.blockEntry integrationId args template).toList
      else [] := by
  induction templates with
  | nil => rfl
  | cons first templates induction =>
      obtain ⟨fresh, distinct⟩ := List.nodup_cons.mp distinct
      have rest := induction distinct
      by_cases same : template = first
      · subst same
        rw [if_neg fresh] at rest
        rw [if_pos List.mem_cons_self]
        cases found : odoo.blockEntry integrationId args template with
        | none => rw [List.filterMap_cons_none found, rest]; rfl
        | some entry =>
            rw [List.filterMap_cons_some found, List.filter_cons_of_pos (by
              simpa using blockEntry_fst found), rest]
            rfl
      · have other : template ∈ first :: templates ↔ template ∈ templates := by simp [same]
        simp only [other]
        cases found : odoo.blockEntry integrationId args first with
        | none => rw [List.filterMap_cons_none found, rest]
        | some entry =>
            have apart : entry.1 ≠ template := fun equal =>
              same (equal.symm.trans (blockEntry_fst found))
            rw [List.filterMap_cons_some found, List.filter_cons_of_neg (by simpa using apart),
              rest]

variable (odoo integrationId args) in
/-- Every template that is found is exported once, in a block or on its own. -/
theorem exportPricelistsMulti_partitioned
    (distinct : (odoo.searchTemplates integrationId args).Nodup) :
    Partitioned (odoo.searchTemplates integrationId args) (odoo.isMapped integrationId)
      (fun template => odoo.convertPricelists integrationId template args)
      (fun data => odoo.hasNoDuplicates data && odoo.isValid data)
      (odoo.exportPricelistsMulti integrationId args) := by
  obtain ⟨blocks, released, nonempty, entries⟩ := odoo.exportPricelistsMulti_eq integrationId args
  have own : ∀ template, entriesOf (odoo.exportPricelistsMulti integrationId args) template =
      if template ∈ odoo.searchTemplates integrationId args then
        (odoo.blockEntry integrationId args template).toList else [] := fun template => by
    rw [released, entriesOf_released, entries, filter_blockEntry distinct]
  have separate : separateOf (odoo.exportPricelistsMulti integrationId args) =
      (odoo.searchTemplates integrationId args).filter (odoo.hasErrors integrationId args) := by
    rw [released, separateOf_released]
  constructor
  · rw [released, blocksOf_released, List.length_map, List.length_zipIdx, List.map_map]
    exact List.zipIdx_map_snd 1 blocks
  · rw [released, blocksOf_released]
    intro block member
    obtain ⟨numbered, listed, rfl⟩ := List.mem_map.mp member
    exact nonempty _ (List.fst_mem_of_mem_zipIdx listed)
  · intro template found mapped data converted right
    rw [own, separate, if_pos found, List.mem_filter]
    obtain ⟨unique, valid⟩ := Bool.and_eq_true_iff.mp right
    simp [blockEntry, hasErrors, mapped, converted, unique, valid]
  · intro template found mapped data converted wrong
    have noEntry : odoo.blockEntry integrationId args template = none := by
      rw [blockEntry, if_pos mapped, converted, Option.filter_some]
      exact congrArg (Option.map _) (if_neg (by simpa using wrong))
    have errors : odoo.hasErrors integrationId args template = true := by
      rw [hasErrors, mapped, converted, Bool.true_and, Option.any_some]
      exact congrArg Bool.not wrong
    rw [own, separate, if_pos found, noEntry, List.count_filter errors,
      List.count_eq_one_of_mem distinct found]
    exact ⟨rfl, rfl⟩
  · intro template skipped
    rw [own, separate, List.mem_filter]
    by_cases found : template ∈ odoo.searchTemplates integrationId args
    · rcases skipped with missing | unmapped | none
      · exact absurd found missing
      · simp [blockEntry, hasErrors, unmapped]
      · simp [blockEntry, hasErrors, none]
    · exact ⟨if_neg found, fun listed => found listed.1⟩

end PriceDatabase

namespace TemplateStore

variable {Item : Type*}

/-- Every template that is found, is mapped with all its variants and has prices is exported once:
in one of the numbered blocks if its prices are valid and not duplicated, and on its own
otherwise. -/
theorem pricelists_partitioned (stores : ℕ → TemplateStore Item)
    (odoo : PriceDatabase (TemplatePrices Item)) (integrationId : ℕ) (args : PricelistArgs)
    (distinct : (odoo.searchTemplates integrationId args).Nodup) :
    Partitioned (odoo.searchTemplates integrationId args) (stores integrationId).isFullyMapped
      (fun template => (stores integrationId).convertPricelists template args)
      (fun data => (stores integrationId).validateNoDuplicatedSpecificPrices data &&
        (stores integrationId).validatePricelistData data)
      ((database stores odoo integrationId).exportPricelistsMulti integrationId args) :=
  (database stores odoo integrationId).exportPricelistsMulti_partitioned integrationId args distinct

/-! ## Three templates -/

/-- Each template has its own number as the only price. Odd prices are valid. -/
def oddPrices : TemplateStore ℕ where
  isExternal template := template ≠ 3
  prepareIntegrationVariants _ := []
  isVariantExternal _ := true
  toForceSyncPricelist _ := false
  getExternalCode _ := "64"
  collectSpecificPrices template _ _ := [template]
  collectVariantPrices _ _ _ := []
  isItemValid price := price % 2 = 1
  isSpecificPriceDuplicateValidationEnabled := false
  hasDuplicates _ := false

def firstTemplates : PriceDatabase (TemplatePrices ℕ) where
  catalogLine _ := ⟨⟨fun _ => (1, some 1)⟩, none, id, fun _ => "Chair"⟩
  recordList _ := []
  pricelistOfItem _ := 1
  searchTemplates _ _ := [1, 2, 3]
  isMapped _ _ := true
  convertPricelists _ _ _ := none
  hasNoDuplicates _ := true
  isValid _ := true

/-- The first template is in a block, the second one is exported on its own, and the third one is
not mapped. -/
theorem odd_prices_partitioned :
    Partitioned [1, 2, 3] oddPrices.isFullyMapped
      (fun template => oddPrices.convertPricelists template ⟨[], [], false⟩)
      (fun data => oddPrices.validateNoDuplicatedSpecificPrices data &&
        oddPrices.validatePricelistData data)
      ((database (fun _ => oddPrices) firstTemplates 1).exportPricelistsMulti 1
        ⟨[], [], false⟩) :=
  pricelists_partitioned (fun _ => oddPrices) firstTemplates 1 ⟨[], [], false⟩ (by decide)

end TemplateStore

end OdooConnector.Catalog
