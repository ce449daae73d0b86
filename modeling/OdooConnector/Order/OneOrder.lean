import Mathlib.Data.List.Dedup
import OdooConnector.Order.OrderIntake
import OdooConnector.Order.RefreshRequested

/-!
# One order for each external order

However transactions that receive and create orders overlap, no external order gets a second order
of Odoo as long as nobody takes its mapping away.
-/

namespace OdooConnector.Order

variable {Payload OrderData : Type}

/-! ### What a task writes -/

namespace SaleInputFile

variable {file after : SaleInputFile Payload} {adapter : OrderAdapter Payload OrderData}
  {answer : Option Payload}

theorem orderId_parse {data : OrderData} (parsed : file.parse adapter answer = .ok (after, data)) :
    after.orderId = file.orderId := by
  rcases parse_cases parsed with ⟨payload, _, _, rfl⟩ | ⟨payload, _, rfl⟩ <;> rfl

theorem orderId_markByPipeline (hasTasksToProcess : Bool) :
    (file.markByPipeline hasTasksToProcess).orderId = file.orderId := by
  cases hasTasksToProcess <;> rfl

theorem orderId_buildAndRunWorkflow {outcome : WorkflowOutcome}
    (done : file.buildAndRunWorkflow outcome = .ok after) : after.orderId = file.orderId := by
  cases outcome with
  | failed error => cases done
  | tasksToProcess | noTasks =>
      cases done
      exact orderId_markByPipeline _

theorem orderId_withDelay (job : FileJob) : (file.withDelay job).orderId = file.orderId := by
  rw [withDelay]
  split <;> rfl

theorem orderId_process : file.process.orderId = file.orderId := by
  rw [process]
  split
  · exact orderId_withDelay _
  · exact orderId_withDelay _

theorem orderId_received (payload : Payload) (skipCreateOrder : Bool) :
    (received payload skipCreateOrder).orderId = none := by
  rw [received]
  split
  · rfl
  · exact orderId_process

theorem orderId_change {change : FileChange Payload OrderData}
    (done : file.change adapter change = .ok after) : after.orderId = file.orderId := by
  cases change with
  | markForUpdate =>
      cases done
      rw [markForUpdate]
      split <;> rfl
  | process =>
      cases done
      exact orderId_process
  | actionCancel =>
      cases done
      rw [actionCancel]
      split <;> rfl
  | actionDraft =>
      cases done
      rw [actionDraft]
      split <;> rfl
  | runCurrentPipeline answer apply =>
      rw [SaleInputFile.change, runCurrentPipeline] at done
      split at done
      · cases done
        rfl
      · split at done
        · cases done
        · rename_i parsed
          exact (orderId_buildAndRunWorkflow done).trans (orderId_parse parsed)
  | updateCurrentPipeline answer hasPipeline =>
      rw [SaleInputFile.change, updateCurrentPipeline] at done
      split at done
      · cases parsed : file.parse adapter answer with
        | error error =>
            rw [parsed] at done
            cases done
        | ok result =>
            rw [parsed] at done
            cases done
            exact orderId_parse parsed
      · cases done
        rfl
  | markByPipeline hasTasksToProcess =>
      cases done
      exact orderId_markByPipeline _
  | updateFromExternal answer =>
      cases done
      cases answer <;> rfl
  | setDisplayData payload =>
      cases done
      rfl

end SaleInputFile

namespace OrderTables

variable {tables snapshot : OrderTables Payload} {factory : OrderFactory Payload OrderData}

/-- A file that is new, or keeps its order. -/
def KeepsOrder (tables : OrderTables Payload) (key : ℕ × String) (file : SaleInputFile Payload) :
    Prop :=
  file.orderId = none ∨
    ∃ before, tables.files.row key = some before ∧ file.orderId = before.orderId

/-- What a task can write: files that keep their order, and an order for its file, whose external
order is not mapped to one. -/
structure Writes (tables : OrderTables Payload) (writes : IntakeWrites Payload) : Prop where
  files : ∀ write ∈ writes.files, tables.KeepsOrder write.1 write.2
  created : ∀ order, writes.created = some order →
    (∀ write ∈ writes.files, write.1 = order.file) ∧
      order.mappings = tables.searchMappings order.integration order.externalId ∧
      tables.mappedOrders order.integration order.externalId = []

theorem keepsOrder_createInputFile (integration : ℕ) (skipCreateOrder : Bool)
    (orders : List (String × Payload)) {written : List ((ℕ × String) × SaleInputFile Payload)}
    (keeps : ∀ write ∈ written, tables.KeepsOrder write.1 write.2) :
    ∀ write ∈ orders.foldl (tables.createInputFile integration skipCreateOrder) written,
      tables.KeepsOrder write.1 write.2 := by
  induction orders generalizing written with
  | nil => exact keeps
  | cons order orders induction =>
      refine induction ?_
      rw [createInputFile]
      split
      · exact keeps
      · intro write member
        rcases List.mem_append.mp member with earlier | new
        · exact keeps write earlier
        · rw [List.mem_singleton.mp new]
          exact .inl (SaleInputFile.orderId_received _ _)

theorem newOrder_eq_ok {key : ℕ × String} {externalId : String} {name : Except FileError String}
    {order : NewOrder} (created : tables.newOrder key externalId name = .ok (some order)) :
    order.file = key ∧
      order.mappings = tables.searchMappings order.integration order.externalId ∧
      tables.mappedOrders order.integration order.externalId = [] := by
  rw [newOrder] at created
  split at created
  · rename_i unmapped
    cases name with
    | error error => cases created
    | ok name =>
        cases created
        exact ⟨rfl, rfl, unmapped⟩
  · cases created
  · cases created

theorem writes_createOrderFromInput {key : ℕ × String} {before file : SaleInputFile Payload}
    {answer : Option Payload} {create : OrderData → Except FileError String}
    {workflow : OrderData → WorkflowOutcome} {writes : IntakeWrites Payload}
    (found : tables.files.row key = some before) (same : file.orderId = before.orderId)
    (done : tables.createOrderFromInput factory key file answer create workflow = .ok writes) :
    tables.Writes writes := by
  rw [createOrderFromInput] at done
  split at done
  · cases done
  · rename_i parsed data read
    have kept := (SaleInputFile.orderId_parse read).trans same
    split at done
    · cases done
    · rename_i created new
      have own {after : SaleInputFile Payload} (orderId : after.orderId = parsed.orderId) :
          tables.Writes ⟨[(key, after)], created⟩ := by
        constructor
        · intro write member
          rw [List.mem_singleton.mp member]
          exact .inr ⟨before, found, orderId.trans kept⟩
        · intro order same
          obtain ⟨file, mappings, unmapped⟩ := newOrder_eq_ok (new.trans (congrArg _ same))
          refine ⟨fun write member => ?_, mappings, unmapped⟩
          rw [List.mem_singleton.mp member, file]
      split at done
      · cases done
        exact own rfl
      · cases ran : parsed.actionProcess.buildAndRunWorkflow (workflow data) with
        | error error =>
            rw [ran] at done
            cases done
        | ok after =>
            rw [ran] at done
            cases done
            exact own (SaleInputFile.orderId_buildAndRunWorkflow ran)

theorem writes_perform {task : IntakeTask Payload OrderData} {writes : IntakeWrites Payload}
    (done : tables.perform factory task = .ok writes) : tables.Writes writes := by
  have changed {key : ℕ × String} {before after : SaleInputFile Payload}
      (found : tables.files.row key = some before) (same : after.orderId = before.orderId) :
      tables.Writes ⟨[(key, after)], none⟩ := by
    refine ⟨fun write member => ?_, fun order => nofun⟩
    rw [List.mem_singleton.mp member]
    exact .inr ⟨before, found, same⟩
  cases task with
  | receiveOrders integration orders skipCreateOrder =>
      cases done
      exact ⟨keepsOrder_createInputFile integration skipCreateOrder orders (by simp),
        fun order => nofun⟩
  | createOrderFromInput key answer create workflow =>
      rw [perform] at done
      split at done
      · cases done
      · rename_i file found
        exact writes_createOrderFromInput found rfl done
  | processNoJob key answer create workflow =>
      rw [perform] at done
      split at done
      · cases done
      · rename_i file found
        split at done
        · have same : file.actionCreateOrder.orderId = file.orderId := rfl
          exact writes_createOrderFromInput found same done
        · cases done
          exact changed found (SaleInputFile.orderId_withDelay _)
  | changeFile key change =>
      rw [perform] at done
      split at done
      · cases done
      · rename_i file found
        cases ran : file.change factory.toOrderAdapter change with
        | error error =>
            rw [ran] at done
            cases done
        | ok after =>
            rw [ran] at done
            cases done
            exact changed found (SaleInputFile.orderId_change ran)

/-! ### The tables -/

/-- Each order is that of the mapping of its external order, of which there is one at most. And the
order of an input file was created from it. -/
structure Mapped (tables : OrderTables Payload) : Prop where
  order : ∀ id order, tables.orders.row id = some order →
    ∃ mapping, tables.mappings.row mapping = some ⟨order.integration, order.externalId, some id⟩
  once : ∀ integration code first second, ∀ mapping other,
    tables.mappings.row first = some mapping → mapping.belongsTo integration code →
    tables.mappings.row second = some other → other.belongsTo integration code → first = second
  external : ∀ integration code id mapping, tables.mappings.row id = some mapping →
    mapping.belongsTo integration code → tables.externals.row (integration, code) ≠ none
  mappingBelow : ∀ id, tables.mappings.row id ≠ none → id < tables.nextMapping
  orderBelow : ∀ id, tables.orders.row id ≠ none → id < tables.nextOrder
  file : ∀ key file id, tables.files.row key = some file → file.orderId = some id →
    ∃ order, tables.orders.row id = some order ∧ order.file = key

/-- Tables some time after a snapshot. While an external order is not written, no mapping of it comes
in. -/
structure Since (snapshot tables : OrderTables Payload) : Prop where
  files : snapshot.files.Later tables.files
  externals : snapshot.externals.Later tables.externals
  mappings : snapshot.mappings.Later tables.mappings
  mapped : ∀ integration code, tables.externals.version (integration, code) =
      snapshot.externals.version (integration, code) →
    ∀ id mapping, tables.mappings.row id = some mapping → mapping.belongsTo integration code →
      ∃ old, snapshot.mappings.row id = some old ∧ old.belongsTo integration code

theorem Since.refl (tables : OrderTables Payload) : Since tables tables where
  files := .refl _
  externals := .refl _
  mappings := .refl _
  mapped _ _ _ _ mapping found own := ⟨mapping, found, own⟩

theorem belongsTo_iff {mapping : OrderMapping} {integration : ℕ} {code : String} :
    mapping.belongsTo integration code ↔
      mapping.integration = integration ∧ mapping.external = code := by
  simp [OrderMapping.belongsTo]

theorem mem_searchMappings (mapped : tables.Mapped) {integration id : ℕ} {code : String} :
    id ∈ tables.searchMappings integration code ↔
      ∃ mapping, tables.mappings.row id = some mapping ∧ mapping.belongsTo integration code := by
  rw [searchMappings, List.mem_filter, List.mem_range, Option.any_eq_true]
  constructor
  · exact And.right
  · rintro ⟨mapping, found, own⟩
    exact ⟨mapped.mappingBelow id (found ▸ Option.some_ne_none _), mapping, found, own⟩

/-- Where the search finds no order, none of the mappings has one. -/
theorem odooId_of_unmapped (mapped : tables.Mapped) {integration id : ℕ} {code : String}
    (unmapped : tables.mappedOrders integration code = []) {mapping : OrderMapping}
    (found : tables.mappings.row id = some mapping) (own : mapping.belongsTo integration code) :
    mapping.odooId = none := by
  cases orderId : mapping.odooId with
  | none => rfl
  | some order =>
      have listed : order ∈ tables.mappedOrders integration code := by
        refine List.mem_dedup.mpr (List.mem_filterMap.mpr ⟨id, ?_, ?_⟩)
        · exact (mem_searchMappings mapped).mpr ⟨mapping, found, own⟩
        · rw [found, Option.bind_some, orderId]
      rw [unmapped] at listed
      exact absurd listed List.not_mem_nil

/-! ### Steps -/

section Write

variable {writes : IntakeWrites Payload} {order : NewOrder}

/-- A transaction that may write an external order has seen all its mappings. -/
theorem Since.seen (since : Since snapshot tables) (mapped : tables.Mapped)
    (mappedSnapshot : snapshot.Mapped) {integration id : ℕ} {code : String}
    (free : snapshot.externals.writable tables.externals (integration, code))
    {mapping : OrderMapping} (found : tables.mappings.row id = some mapping)
    (own : mapping.belongsTo integration code) : id ∈ snapshot.searchMappings integration code := by
  have there := mapped.external _ _ id mapping found own
  have same : tables.externals.version (integration, code) =
      snapshot.externals.version (integration, code) := by
    rw [Rows.writable] at free
    split at free
    · exact absurd (Option.isNone_iff_eq_none.mp free) there
    · exact of_decide_eq_true free
  obtain ⟨old, before, ownOld⟩ := since.mapped _ _ same id mapping found own
  exact (mem_searchMappings mappedSnapshot).mpr ⟨old, before, ownOld⟩

/-- The mappings that get the new order. -/
def filled (tables : OrderTables Payload) (order : NewOrder) : List ℕ :=
  if order.mappings = [] then [tables.nextMapping] else order.mappings

theorem row_createMapping (id mapping : ℕ) :
    (tables.createMapping order id).row mapping =
      if mapping ∈ tables.filled order then some ⟨order.integration, order.externalId, some id⟩
      else tables.mappings.row mapping := by
  rw [createMapping, filled]
  split
  · simp only [Rows.row_write, List.mem_singleton]
  · exact Rows.row_writeAll_map _ _ _

theorem later_createMapping (later : snapshot.mappings.Later tables.mappings) (id : ℕ) :
    snapshot.mappings.Later (tables.createMapping order id) := by
  rw [createMapping]
  split
  · exact later.rewrite _
  · exact later.writeAll _

/-- To create an order, with what a transaction has read that may write. -/
structure Creates (snapshot tables : OrderTables Payload) (order : NewOrder) : Prop where
  mappings : order.mappings = snapshot.searchMappings order.integration order.externalId
  unmapped : ∀ id mapping, tables.mappings.row id = some mapping →
    mapping.belongsTo order.integration order.externalId →
    mapping.odooId = none ∧ id ∈ order.mappings
  own : ∀ id ∈ order.mappings, ∃ mapping, tables.mappings.row id = some mapping ∧
    mapping.belongsTo order.integration order.externalId

theorem creates_of_admits (since : Since snapshot tables) (mapped : tables.Mapped)
    (mappedSnapshot : snapshot.Mapped) (written : snapshot.Writes writes)
    (created : writes.created = some order) (admits : tables.admits snapshot writes) :
    Creates snapshot tables order := by
  obtain ⟨-, mappings, unmapped⟩ := written.created order created
  rw [OrderTables.admits, created, Bool.and_eq_true, Option.all_some, Bool.and_eq_true] at admits
  obtain ⟨-, free, freeMappings⟩ := admits
  have same (id : ℕ) (member : id ∈ order.mappings) :
      tables.mappings.row id = snapshot.mappings.row id :=
    since.mappings.row_of_writable (List.all_eq_true.mp freeMappings id member)
  refine ⟨mappings, fun id mapping found own => ?_, fun id member => ?_⟩
  · have seen : id ∈ order.mappings := mappings ▸ since.seen mapped mappedSnapshot free found own
    exact ⟨odooId_of_unmapped mappedSnapshot unmapped ((same id seen).symm.trans found) own, seen⟩
  · have searched := member
    rw [mappings] at searched
    obtain ⟨mapping, found, own⟩ := (mem_searchMappings mappedSnapshot).mp searched
    exact ⟨mapping, (same id member).trans found, own⟩

theorem mem_filled_iff (mapped : tables.Mapped) (creates : Creates snapshot tables order) {id : ℕ}
    {mapping : OrderMapping} (found : tables.mappings.row id = some mapping) :
    id ∈ tables.filled order ↔ mapping.belongsTo order.integration order.externalId := by
  have below := mapped.mappingBelow id (found ▸ Option.some_ne_none _)
  constructor
  · intro member
    rw [filled] at member
    split at member
    · exact absurd (List.mem_singleton.mp member) below.ne
    · obtain ⟨other, found', own⟩ := creates.own id member
      rwa [Option.some_inj.mp (found.symm.trans found')]
  · intro own
    have member := (creates.unmapped id mapping found own).2
    rw [filled, if_neg (List.ne_nil_of_mem member)]
    exact member

/-- The mapping that gets the new order is the only one of its external order. -/
theorem eq_of_mem_filled (mapped : tables.Mapped) (creates : Creates snapshot tables order)
    {first second : ℕ} (listed : first ∈ tables.filled order)
    (listed' : second ∈ tables.filled order) : first = second := by
  rw [filled] at listed listed'
  split at listed
  · rename_i none
    rw [if_pos none] at listed'
    rw [List.mem_singleton.mp listed, List.mem_singleton.mp listed']
  · rename_i some
    rw [if_neg some] at listed'
    obtain ⟨mapping, found, own⟩ := creates.own first listed
    obtain ⟨other, found', own'⟩ := creates.own second listed'
    exact mapped.once _ _ first second mapping other found own found' own'

theorem filled_ne_nil (tables : OrderTables Payload) (order : NewOrder) :
    tables.filled order ≠ [] := by
  rw [filled]
  split
  · exact List.cons_ne_nil _ _
  · assumption

/-- The file of a write has the order that it has in the tables. -/
theorem order_of_write (since : Since snapshot tables) (mapped : tables.Mapped)
    (written : snapshot.Writes writes) (admits : tables.admits snapshot writes)
    {write : (ℕ × String) × SaleInputFile Payload} (member : write ∈ writes.files) {id : ℕ}
    (linked : write.2.orderId = some id) :
    ∃ order, tables.orders.row id = some order ∧ order.file = write.1 := by
  rw [OrderTables.admits, Bool.and_eq_true] at admits
  have same := since.files.row_of_writable (List.all_eq_true.mp admits.1 write member)
  rcases written.files write member with none | ⟨before, found, keeps⟩
  · rw [none] at linked
    cases linked
  · exact mapped.file write.1 before id (same.trans found) (keeps ▸ linked)

theorem Mapped.writeFiles (mapped : tables.Mapped) (since : Since snapshot tables)
    (written : snapshot.Writes writes) (admits : tables.admits snapshot writes) :
    Mapped { tables with files := tables.files.writeAll writes.files } where
  order := mapped.order
  once := mapped.once
  external := mapped.external
  mappingBelow := mapped.mappingBelow
  orderBelow := mapped.orderBelow
  file key file id found linked := by
    rcases Rows.row_writeAll writes.files found with new | before
    · exact order_of_write since mapped written admits new linked
    · exact mapped.file key file id before linked

/-- The mappings of the new order's code are those that it filled, and others are as before. -/
theorem created_cases (mapped : tables.Mapped) (creates : Creates snapshot tables order)
    {new id integration : ℕ} {code : String} {mapping : OrderMapping}
    (found : (tables.createMapping order new).row id = some mapping)
    (belongs : mapping.belongsTo integration code) :
    ((integration, code) = (order.integration, order.externalId) ∧ id ∈ tables.filled order) ∨
      ((integration, code) ≠ (order.integration, order.externalId) ∧
        tables.mappings.row id = some mapping) := by
  rw [row_createMapping] at found
  rw [belongsTo_iff] at belongs
  obtain ⟨rfl, rfl⟩ := belongs
  split at found
  · rename_i listed
    rw [← Option.some_inj.mp found]
    exact .inl ⟨rfl, listed⟩
  · rename_i unlisted
    refine .inr ⟨fun same => unlisted ?_, found⟩
    rw [mem_filled_iff mapped creates found, belongsTo_iff]
    exact ⟨congrArg Prod.fst same, congrArg Prod.snd same⟩

/-- The external order of the new order gets its mapping, the other ones keep theirs. -/
theorem Mapped.writeOrder (mapped : tables.Mapped) (creates : Creates snapshot tables order)
    (created : writes.created = some order)
    (own : ∀ write ∈ writes.files, write.1 = order.file) : (tables.write writes).Mapped := by
  rw [OrderTables.write, created]
  have absent : tables.orders.row tables.nextOrder = none := by
    by_contra there
    exact absurd (mapped.orderBelow _ there) (lt_irrefl _)
  constructor
  · intro id stored found
    rw [Rows.row_write] at found
    split at found
    · rename_i same
      obtain ⟨mapping, listed⟩ := List.exists_mem_of_ne_nil _ (filled_ne_nil tables order)
      refine ⟨mapping, ?_⟩
      rw [row_createMapping, if_pos listed, ← Option.some_inj.mp found, same]
    · obtain ⟨mapping, maps⟩ := mapped.order id stored found
      refine ⟨mapping, ?_⟩
      rw [row_createMapping, if_neg, maps]
      intro listed
      have own := (mem_filled_iff mapped creates maps).mp listed
      have none := (creates.unmapped mapping _ maps own).1
      cases none
  · intro integration code first second mapping other found belongs found' belongs'
    rcases created_cases mapped creates found belongs with ⟨same, listed⟩ | ⟨differs, before⟩
    · obtain ⟨-, listed'⟩ := (created_cases mapped creates found' belongs').resolve_right
        fun other => other.1 same
      exact eq_of_mem_filled mapped creates listed listed'
    · obtain ⟨-, before'⟩ := (created_cases mapped creates found' belongs').resolve_left
        fun own => differs own.1
      exact mapped.once integration code first second mapping other before belongs before' belongs'
  · intro integration code id mapping found belongs
    rw [Rows.row_write]
    split
    · exact Option.some_ne_none _
    · rename_i other
      obtain ⟨-, before⟩ := (created_cases mapped creates found belongs).resolve_left
        fun own => other own.1
      exact mapped.external integration code id mapping before belongs
  · intro id there
    rw [row_createMapping] at there
    split at there
    · rename_i listed
      rw [filled] at listed
      split at listed
      · rw [List.mem_singleton.mp listed]
        exact Nat.lt_succ_self _
      · obtain ⟨mapping, found, -⟩ := creates.own id listed
        exact Nat.lt_succ_of_lt (mapped.mappingBelow id (found ▸ Option.some_ne_none _))
    · exact Nat.lt_succ_of_lt (mapped.mappingBelow id there)
  · intro id there
    rw [Rows.row_write] at there
    split at there
    · rename_i same
      rw [same]
      exact Nat.lt_succ_self _
    · exact Nat.lt_succ_of_lt (mapped.orderBelow id there)
  · intro key file id found linked
    rw [Rows.row_write]
    rcases Rows.row_writeAll _ found with new | before
    · obtain ⟨write, member, same⟩ := List.mem_map.mp new
      cases same
      cases linked
      refine ⟨_, if_pos rfl, ?_⟩
      exact (own write member).symm
    · obtain ⟨stored, there, same⟩ := mapped.file key file id before linked
      refine ⟨stored, ?_, same⟩
      rw [if_neg, there]
      rintro rfl
      rw [absent] at there
      cases there

theorem Mapped.write (mapped : tables.Mapped) (since : Since snapshot tables)
    (mappedSnapshot : snapshot.Mapped) (written : snapshot.Writes writes)
    (admits : tables.admits snapshot writes) : (tables.write writes).Mapped := by
  cases created : writes.created with
  | none =>
      rw [OrderTables.write, created]
      exact mapped.writeFiles since written admits
  | some order =>
      exact mapped.writeOrder
        (creates_of_admits since mapped mappedSnapshot written created admits) created
        (written.created order created).1

/-- Another transaction sees that the external order of a new order is written. -/
theorem Since.write {earlier : OrderTables Payload} (since : Since earlier tables)
    (writes : IntakeWrites Payload) (creates : ∀ order, writes.created = some order →
      ∃ snapshot, Creates snapshot tables order) :
    Since earlier (tables.write writes) := by
  rw [OrderTables.write]
  split
  · exact ⟨since.files.writeAll _, since.externals, since.mappings, since.mapped⟩
  · rename_i order created
    obtain ⟨snapshot, creates⟩ := creates order created
    refine ⟨since.files.writeAll _, since.externals.rewrite _, later_createMapping since.mappings _,
      ?_⟩
    intro integration code same id mapping found own
    have before := since.externals.version (integration, code)
    rw [Rows.version_write] at same
    split at same
    · omega
    · rename_i other
      rw [row_createMapping] at found
      split at found
      · rw [← Option.some_inj.mp found, belongsTo_iff] at own
        exact absurd (Prod.ext own.1.symm own.2.symm) other
      · exact since.mapped integration code same id mapping found own

end Write

/-! ### Users -/

/-- What users do creates nothing, and leaves orders their mappings. -/
structure Reduces (tables after : OrderTables Payload) : Prop where
  files : tables.files.Later after.files
  externals : tables.externals.Later after.externals
  mappings : tables.mappings.Later after.mappings
  order : ∀ id order, after.orders.row id = some order → tables.orders.row id = some order
  mapping : ∀ id mapping, after.mappings.row id = some mapping →
    ∃ before, tables.mappings.row id = some before ∧
      before.integration = mapping.integration ∧ before.external = mapping.external
  keeps : ∀ id order, after.orders.row id = some order → ∀ mapping,
    tables.mappings.row mapping = some ⟨order.integration, order.externalId, some id⟩ →
      after.mappings.row mapping = some ⟨order.integration, order.externalId, some id⟩
  external : ∀ integration code id mapping, after.mappings.row id = some mapping →
    mapping.belongsTo integration code → tables.externals.row (integration, code) ≠ none →
      after.externals.row (integration, code) ≠ none
  file : ∀ key file id, after.files.row key = some file → file.orderId = some id →
    ∃ before, tables.files.row key = some before ∧ before.orderId = some id ∧
      ∀ order, tables.orders.row id = some order → after.orders.row id = some order
  nextMapping : after.nextMapping = tables.nextMapping
  nextOrder : after.nextOrder = tables.nextOrder

section Reduces

variable {after : OrderTables Payload}

theorem Mapped.reduce (mapped : tables.Mapped) (reduces : Reduces tables after) :
    after.Mapped where
  order id order found := by
    obtain ⟨mapping, maps⟩ := mapped.order id order (reduces.order id order found)
    exact ⟨mapping, reduces.keeps id order found mapping maps⟩
  once integration code first second mapping other found own found' own' := by
    obtain ⟨before, was, same⟩ := reduces.mapping first mapping found
    obtain ⟨before', was', same'⟩ := reduces.mapping second other found'
    rw [belongsTo_iff, ← same.1, ← same.2, ← belongsTo_iff] at own
    rw [belongsTo_iff, ← same'.1, ← same'.2, ← belongsTo_iff] at own'
    exact mapped.once integration code first second before before' was own was' own'
  external integration code id mapping found own := by
    obtain ⟨before, was, same⟩ := reduces.mapping id mapping found
    refine reduces.external integration code id mapping found own ?_
    rw [belongsTo_iff, ← same.1, ← same.2, ← belongsTo_iff] at own
    exact mapped.external integration code id before was own
  mappingBelow id there := by
    obtain ⟨mapping, found⟩ := Option.ne_none_iff_exists'.mp there
    obtain ⟨before, was, -⟩ := reduces.mapping id mapping found
    rw [reduces.nextMapping]
    exact mapped.mappingBelow id (was ▸ Option.some_ne_none _)
  orderBelow id there := by
    obtain ⟨order, found⟩ := Option.ne_none_iff_exists'.mp there
    rw [reduces.nextOrder]
    exact mapped.orderBelow id (reduces.order id order found ▸ Option.some_ne_none _)
  file key file id found linked := by
    obtain ⟨before, was, linked, stays⟩ := reduces.file key file id found linked
    obtain ⟨order, there, own⟩ := mapped.file key before id was linked
    exact ⟨order, stays order there, own⟩

theorem Since.reduce (since : Since snapshot tables) (reduces : Reduces tables after) :
    Since snapshot after where
  files := since.files.trans reduces.files
  externals := since.externals.trans reduces.externals
  mappings := since.mappings.trans reduces.mappings
  mapped integration code same id mapping found own := by
    have before := since.externals.version (integration, code)
    have later := reduces.externals.version (integration, code)
    obtain ⟨was, found, kept⟩ := reduces.mapping id mapping found
    rw [belongsTo_iff, ← kept.1, ← kept.2, ← belongsTo_iff] at own
    exact since.mapped integration code (by omega) id was found own

end Reduces

theorem reduces_unlinkOrder (tables : OrderTables Payload) (id : ℕ) :
    Reduces tables (tables.unlinkOrder id) where
  files := Rows.Later.rewrite (.refl _) _
  externals := .refl _
  mappings := Rows.Later.rewrite (.refl _) _
  order other order found := by
    change (tables.orders.write id none).row other = some order at found
    rw [Rows.row_write] at found
    split at found
    · cases found
    · exact found
  mapping mapping after found := by
    obtain ⟨before, was, same⟩ := Rows.row_updateWhere.mp found
    refine ⟨before, was, ?_⟩
    rw [same]
    split <;> exact ⟨rfl, rfl⟩
  keeps other order found mapping maps := by
    change (tables.orders.write id none).row other = some order at found
    rw [Rows.row_write] at found
    refine Rows.row_updateWhere.mpr ⟨_, maps, ?_⟩
    rw [if_neg]
    intro same
    rw [if_pos (Option.some_inj.mp (of_decide_eq_true same))] at found
    cases found
  external _ _ _ _ _ _ there := there
  file key file other found linked := by
    obtain ⟨before, was, same⟩ := Rows.row_updateWhere.mp found
    split at same
    · rw [same] at linked
      cases linked
    · rename_i different
      rw [same] at linked
      refine ⟨before, was, linked, fun order there => ?_⟩
      change (tables.orders.write id none).row other = some order
      rw [Rows.row_write, if_neg, there]
      rintro rfl
      exact different (decide_eq_true linked)
  nextMapping := rfl
  nextOrder := rfl

theorem reduces_unlinkFile (tables : OrderTables Payload) (key : ℕ × String) :
    Reduces tables (tables.unlinkFile key) where
  files := Rows.Later.rewrite (.refl _) _
  externals := .refl _
  mappings := .refl _
  order _ _ found := found
  mapping _ mapping found := ⟨mapping, found, rfl, rfl⟩
  keeps _ _ _ _ maps := maps
  external _ _ _ _ _ _ there := there
  file other file id found linked := by
    change (tables.files.write key none).row other = some file at found
    rw [Rows.row_write] at found
    split at found
    · cases found
    · exact ⟨file, found, linked, fun _ there => there⟩
  nextMapping := rfl
  nextOrder := rfl

/-- Mappings that are changed have no order that is there. -/
def Unused (tables : OrderTables Payload) (mapping : OrderMapping) : Prop :=
  ∀ id, mapping.odooId = some id → tables.orders.row id = none

/-- Mappings that are not used may be changed, or deleted, their external order with them. -/
theorem reduces_of_mappings {after : OrderTables Payload} (files : after.files = tables.files)
    (orders : after.orders = tables.orders) (nextMapping : after.nextMapping = tables.nextMapping)
    (nextOrder : after.nextOrder = tables.nextOrder)
    (mappings : tables.mappings.Later after.mappings)
    (externals : tables.externals.Later after.externals)
    (mapping : ∀ id mapping, after.mappings.row id = some mapping →
      ∃ before, tables.mappings.row id = some before ∧
        before.integration = mapping.integration ∧ before.external = mapping.external)
    (unused : ∀ id mapping, tables.mappings.row id = some mapping →
      after.mappings.row id = some mapping ∨ tables.Unused mapping)
    (external : ∀ integration code id mapping, after.mappings.row id = some mapping →
      mapping.belongsTo integration code → tables.externals.row (integration, code) ≠ none →
        after.externals.row (integration, code) ≠ none) : Reduces tables after where
  files := files ▸ .refl _
  externals := externals
  mappings := mappings
  order _ _ found := orders ▸ found
  mapping := mapping
  keeps id order found other maps := by
    rcases unused other _ maps with kept | unused
    · exact kept
    · rw [orders, unused id rfl] at found
      cases found
  external := external
  file _ file _ found linked :=
    ⟨file, files ▸ found, linked, fun _ there => orders ▸ there⟩
  nextMapping := nextMapping
  nextOrder := nextOrder

theorem row_bindMapping (tables : OrderTables Payload) (id : ℕ) (odooId : Option ℕ) (other : ℕ) :
    (tables.bindMapping id odooId).mappings.row other =
      if other = id then (tables.mappings.row id).map (OrderMapping.setOrder odooId)
      else tables.mappings.row other := by
  change (if other = id then (tables.mappings.row id).map fun mapping =>
    some (mapping.setOrder odooId) else none).getD (tables.mappings.row other) = _
  split
  · rename_i same
    subst same
    cases tables.mappings.row other <;> rfl
  · rfl

theorem reduces_bindMapping {id : ℕ} {odooId : Option ℕ}
    (unused : ∀ mapping, tables.mappings.row id = some mapping →
      tables.Unused mapping ∨ mapping.odooId = odooId) :
    Reduces tables (tables.bindMapping id odooId) := by
  refine reduces_of_mappings rfl rfl rfl rfl (Rows.Later.rewrite (.refl _) _) (.refl _) ?_ ?_
    fun _ _ _ _ _ _ there => there
  · intro other after found
    rw [row_bindMapping] at found
    split at found
    · rename_i same
      obtain ⟨before, was, rfl⟩ := Option.map_eq_some_iff.mp found
      exact ⟨before, same ▸ was, rfl, rfl⟩
    · exact ⟨after, found, rfl, rfl⟩
  · intro other mapping found
    rw [row_bindMapping]
    split
    · rename_i same
      subst same
      rcases unused mapping found with free | bound
      · exact .inr free
      · rw [found, ← bound]
        exact .inl rfl
    · exact .inl found

theorem reduces_unlinkMapping {id : ℕ}
    (unused : ∀ mapping, tables.mappings.row id = some mapping → tables.Unused mapping) :
    Reduces tables (tables.unlinkMapping id) := by
  have rows (other : ℕ) : (tables.unlinkMapping id).mappings.row other =
      if other = id then none else tables.mappings.row other := Rows.row_write id other none
  refine reduces_of_mappings rfl rfl rfl rfl (Rows.Later.rewrite (.refl _) _) (.refl _) ?_ ?_
    fun _ _ _ _ _ _ there => there
  · intro other after found
    rw [rows] at found
    split at found
    · cases found
    · exact ⟨after, found, rfl, rfl⟩
  · intro other mapping found
    rw [rows]
    split
    · rename_i same
      exact .inr (unused mapping (same ▸ found))
    · exact .inl found

theorem reduces_unlinkExternal {integration : ℕ} {code : String}
    (unused : ∀ id mapping, tables.mappings.row id = some mapping →
      mapping.belongsTo integration code → tables.Unused mapping) :
    Reduces tables (tables.unlinkExternal integration code) := by
  refine reduces_of_mappings rfl rfl rfl rfl (Rows.Later.rewrite (.refl _) _)
    (Rows.Later.rewrite (.refl _) _) ?_ ?_ ?_
  · intro id after found
    exact ⟨after, (Rows.row_deleteWhere.mp found).1, rfl, rfl⟩
  · intro id mapping found
    by_cases own : mapping.belongsTo integration code
    · exact .inr (unused id mapping found own)
    · exact .inl (Rows.row_deleteWhere.mpr ⟨found, by simpa using own⟩)
  · intro other code' id mapping found own there
    have kept := (Rows.row_deleteWhere.mp found).2
    change (tables.externals.write (integration, code) none).row (other, code') ≠ none
    rw [Rows.row_write, if_neg]
    · exact there
    · intro same
      obtain ⟨rfl, rfl⟩ := Prod.mk.inj same
      rw [own] at kept
      cases kept

/-- The search for an external order with an order finds just that. -/
theorem mappedOrders_eq (mapped : tables.Mapped) {id : ℕ} {order : ImportedOrder}
    (found : tables.orders.row id = some order) :
    tables.mappedOrders order.integration order.externalId = [id] := by
  obtain ⟨mapping, maps⟩ := mapped.order id order found
  have own : OrderMapping.belongsTo order.integration order.externalId
      ⟨order.integration, order.externalId, some id⟩ := belongsTo_iff.mpr ⟨rfl, rfl⟩
  have searched : tables.searchMappings order.integration order.externalId = [mapping] := by
    have listed := (mem_searchMappings mapped).mpr ⟨_, maps, own⟩
    have nodup : (tables.searchMappings order.integration order.externalId).Nodup :=
      List.nodup_range.filter _
    refine List.perm_singleton.mp ((List.perm_ext_iff_of_nodup nodup (by simp)).mpr fun other => ?_)
    rw [List.mem_singleton]
    constructor
    · intro member
      obtain ⟨row, there, own'⟩ := (mem_searchMappings mapped).mp member
      exact mapped.once _ _ other mapping row _ there own' maps own
    · rintro rfl
      exact listed
  rw [mappedOrders, searched]
  simp [maps]

theorem mapped_empty : (empty : OrderTables Payload).Mapped where
  order _ _ found := by cases found
  once _ _ _ _ _ _ found := by cases found
  external _ _ _ _ found := by cases found
  mappingBelow _ there := absurd rfl there
  orderBelow _ there := absurd rfl there
  file _ _ _ found := by cases found

end OrderTables

/-! ### Runs -/

namespace OrderIntake

open OrderTables

variable {intake : OrderIntake Payload} {factory : OrderFactory Payload OrderData}

/-- Nobody takes a mapping away from an order that is there, or binds it to another one. -/
def KeepsMappings (intake : OrderIntake Payload) : IntakeAction Payload OrderData → Prop
  | .bindMapping id odooId => ∀ mapping, intake.tables.mappings.row id = some mapping →
      intake.tables.Unused mapping ∨ mapping.odooId = odooId
  | .unlinkMapping id => ∀ mapping, intake.tables.mappings.row id = some mapping →
      intake.tables.Unused mapping
  | .unlinkExternal integration code => ∀ id mapping,
      intake.tables.mappings.row id = some mapping → mapping.belongsTo integration code →
        intake.tables.Unused mapping
  | _ => True

structure Sound (intake : OrderIntake Payload) : Prop where
  tables : intake.tables.Mapped
  snapshots : ∀ worker snapshot, intake.snapshots worker = some snapshot →
    snapshot.Mapped ∧ Since snapshot intake.tables

theorem Sound.reduce (sound : intake.Sound) {after : OrderTables Payload}
    (reduces : Reduces intake.tables after) : (intake.withTables after).Sound where
  tables := sound.tables.reduce reduces
  snapshots worker snapshot begun :=
    ⟨(sound.snapshots worker snapshot begun).1,
      (sound.snapshots worker snapshot begun).2.reduce reduces⟩

theorem Sound.finish (sound : intake.Sound) (worker : ℕ) :
    Sound ⟨intake.tables, Function.update intake.snapshots worker none⟩ where
  tables := sound.tables
  snapshots other snapshot begun := by
    change Function.update intake.snapshots worker none other = _ at begun
    rcases eq_or_ne other worker with rfl | different
    · rw [Function.update_self] at begun
      cases begun
    · rw [Function.update_of_ne different] at begun
      exact sound.snapshots other snapshot begun

theorem Sound.commit (sound : intake.Sound) (worker : ℕ) (task : IntakeTask Payload OrderData) :
    (intake.commit factory worker task).Sound := by
  rw [OrderIntake.commit]
  split
  · exact sound
  · rename_i snapshot begun
    obtain ⟨mapped, since⟩ := sound.snapshots worker snapshot begun
    split
    · exact sound.finish worker
    · rename_i writes performed
      have written := writes_perform performed
      split
      · rename_i admits
        constructor
        · exact sound.tables.write since mapped written admits
        · intro other earlier begun'
          obtain ⟨mapped', since'⟩ := (sound.finish worker).snapshots other earlier begun'
          refine ⟨mapped', since'.write writes fun order created => ⟨snapshot, ?_⟩⟩
          exact creates_of_admits since sound.tables mapped written created admits
      · exact sound.finish worker

theorem Sound.step (sound : intake.Sound) (action : IntakeAction Payload OrderData)
    (keeps : intake.KeepsMappings action) : (intake.step factory action).Sound := by
  cases action with
  | begin worker =>
      refine ⟨sound.tables, fun other snapshot begun => ?_⟩
      change Function.update intake.snapshots worker (some intake.tables) other = _ at begun
      rcases eq_or_ne other worker with rfl | different
      · rw [Function.update_self] at begun
        cases begun
        exact ⟨sound.tables, .refl _⟩
      · rw [Function.update_of_ne different] at begun
        exact sound.snapshots other snapshot begun
  | commit worker task => exact sound.commit worker task
  | rollback worker => exact sound.finish worker
  | unlinkOrder id => exact sound.reduce (reduces_unlinkOrder _ id)
  | unlinkFile key => exact sound.reduce (reduces_unlinkFile _ key)
  | bindMapping id odooId => exact sound.reduce (reduces_bindMapping keeps)
  | unlinkMapping id => exact sound.reduce (reduces_unlinkMapping keeps)
  | unlinkExternal integration code => exact sound.reduce (reduces_unlinkExternal keeps)

theorem sound_start : (start : OrderIntake Payload).Sound where
  tables := mapped_empty
  snapshots _ _ begun := by cases begun

/-- In every run in which nobody takes its mapping away from an order, an external order has one
order at most, which a search for it finds, and the order of an input file was created from it. -/
theorem one_order (factory : OrderFactory Payload OrderData)
    (actions : List (IntakeAction Payload OrderData))
    (keeps : Along (step factory) KeepsMappings start actions) :
    let tables := (runSteps (step factory) start actions).tables
    (∀ first second order other, tables.orders.row first = some order →
      tables.orders.row second = some other → order.integration = other.integration →
      order.externalId = other.externalId → first = second) ∧
    (∀ id order, tables.orders.row id = some order →
      tables.mappedOrders order.integration order.externalId = [id]) ∧
    ∀ key file id, tables.files.row key = some file → file.orderId = some id →
      ∃ order, tables.orders.row id = some order ∧ order.file = key := by
  have sound : (runSteps (step factory) start actions).Sound :=
    runSteps_invariant (fun _ action sound keeps => sound.step action keeps) sound_start keeps
  have mapped := sound.tables
  refine ⟨fun first second order other found found' same same' => ?_,
    fun id order found => mappedOrders_eq mapped found, mapped.file⟩
  have one := mappedOrders_eq mapped found
  rw [same, same', mappedOrders_eq mapped found'] at one
  exact (List.singleton_inj.mp one).symm

/-- Two jobs for one file, both begun before the other one has ended. -/
def overlappingJobs : List (IntakeAction String String) :=
  let create := IntakeTask.createOrderFromInput (1, "77") (some "77") (fun _ => .ok "S1")
    fun _ => .noTasks
  [.begin 0, .commit 0 (.receiveOrders 1 [("77", "77")] false), .begin 0, .begin 1,
    .commit 0 create, .commit 1 create]

def plainFactory : OrderFactory String String where
  isDict _ := true
  parseOrder := .ok
  id := id
  isCancelled _ := false

theorem one_order_overlapping :
    (runSteps (step plainFactory) start overlappingJobs).tables.mappedOrders 1 "77" = [0] := by
  have keeps : Along (step plainFactory) KeepsMappings start overlappingJobs :=
    ⟨trivial, trivial, trivial, trivial, trivial, trivial, trivial⟩
  have found : (runSteps (step plainFactory) start overlappingJobs).tables.orders.row 0 =
      some ⟨1, "77", (1, "77")⟩ := by decide +kernel
  exact (one_order plainFactory overlappingJobs keeps).2.1 0 _ found

end OrderIntake

end OdooConnector.Order
