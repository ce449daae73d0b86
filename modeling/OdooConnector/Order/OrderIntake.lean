import OdooConnector.Library.Snapshot
import OdooConnector.Order.IntegrationFile

/-!
# Creating orders from input files

Orders of the store are received into input files, and a job creates an order of Odoo from each file
unless its external id is mapped to one. Many transactions do so at the same time, each on a
snapshot of the tables.
-/

namespace OdooConnector.Order

/-- Maps an external order, by its integration and code, to an order of Odoo. -/
structure OrderMapping where
  integration : ℕ
  external : String
  odooId : Option ℕ
deriving DecidableEq

/-- An order of Odoo, with the external order and the input file that it was created from. -/
structure ImportedOrder where
  integration : ℕ
  externalId : String
  file : ℕ × String
deriving DecidableEq

/-- Input files stand under their integration and name, external orders under their integration and
code; both are unique. Mappings are not. -/
structure OrderTables (Payload : Type) where
  files : Rows (ℕ × String) (SaleInputFile Payload)
  externals : Rows (ℕ × String) String
  mappings : Rows ℕ OrderMapping
  orders : Rows ℕ ImportedOrder
  nextMapping : ℕ
  nextOrder : ℕ

/-- How the adapter reads an order: its id, and whether it is cancelled on the side of the store. -/
structure OrderFactory (Payload OrderData : Type) extends OrderAdapter Payload OrderData where
  id : OrderData → String
  isCancelled : OrderData → Bool

/-- An order that is to be created, and the mappings of its external order without one. -/
structure NewOrder where
  integration : ℕ
  externalId : String
  name : String
  file : ℕ × String
  mappings : List ℕ

/-- What a transaction writes. -/
structure IntakeWrites (Payload : Type) where
  files : List ((ℕ × String) × SaleInputFile Payload)
  created : Option NewOrder

def missingRecord : String := "Record does not exist or has been deleted."

def expectedSingleton : String := "Expected singleton: sale.order"

namespace OrderMapping

def belongsTo (integration : ℕ) (code : String) (mapping : OrderMapping) : Bool :=
  mapping.integration = integration && mapping.external = code

def setOrder (odooId : Option ℕ) (mapping : OrderMapping) : OrderMapping :=
  { mapping with odooId := odooId }

end OrderMapping

/-- Changes of one file by users and jobs that create no order. -/
inductive FileChange (Payload OrderData : Type) where
  | markForUpdate
  | process
  | actionCancel
  | actionDraft
  | runCurrentPipeline (answer : Option Payload) (apply : OrderData → WorkflowOutcome)
  | updateCurrentPipeline (answer : Option Payload) (hasPipeline : Bool)
  | markByPipeline (hasTasksToProcess : Bool)
  | updateFromExternal (answer : Option Payload)
  | setDisplayData (payload : Payload)

namespace SaleInputFile

variable {Payload OrderData : Type} (file : SaleInputFile Payload)

def actionCancel : SaleInputFile Payload :=
  if file.state = .draft ∨ file.state = .unknown then { file with state := .cancelled } else file

def actionDraft : SaleInputFile Payload :=
  if (file.state = .cancelled ∨ file.state = .done) ∧ file.orderId = none then
    { file with state := .draft }
  else file

def change (adapter : OrderAdapter Payload OrderData) :
    FileChange Payload OrderData → Except FileError (SaleInputFile Payload)
  | .markForUpdate => .ok file.markForUpdate
  | .process => .ok file.process
  | .actionCancel => .ok file.actionCancel
  | .actionDraft => .ok file.actionDraft
  | .runCurrentPipeline answer apply => file.runCurrentPipeline adapter answer apply
  | .updateCurrentPipeline answer hasPipeline =>
      file.updateCurrentPipeline adapter answer hasPipeline
  | .markByPipeline hasTasksToProcess => .ok (file.markByPipeline hasTasksToProcess)
  | .updateFromExternal answer => .ok (file.updateFromExternal answer).1
  | .setDisplayData payload => .ok { file with rawData := .json payload }

/-- A file that has just been created from data of the store. -/
def received (payload : Payload) (skipCreateOrder : Bool) : SaleInputFile Payload :=
  let created : SaleInputFile Payload := {
    state := .draft
    orderId := none
    file := .blank
    rawData := .json payload
    updateRequired := true
    jobs := []
    events := [] }
  if skipCreateOrder then created else created.process

end SaleInputFile

/-- What a transaction is for. The store answers with the data of an order, or with none. To create
the order may fail, and gives it a name otherwise. -/
inductive IntakeTask (Payload OrderData : Type) where
  | receiveOrders (integration : ℕ) (orders : List (String × Payload)) (skipCreateOrder : Bool)
  | createOrderFromInput (file : ℕ × String) (answer : Option Payload)
      (create : OrderData → Except FileError String) (workflow : OrderData → WorkflowOutcome)
  | processNoJob (file : ℕ × String) (answer : Option Payload)
      (create : OrderData → Except FileError String) (workflow : OrderData → WorkflowOutcome)
  | changeFile (file : ℕ × String) (change : FileChange Payload OrderData)

namespace OrderTables

variable {Payload OrderData : Type} (tables : OrderTables Payload)

def empty : OrderTables Payload where
  files := .empty
  externals := .empty
  mappings := .empty
  orders := .empty
  nextMapping := 0
  nextOrder := 0

def searchMappings (integration : ℕ) (code : String) : List ℕ :=
  (List.range tables.nextMapping).filter fun id =>
    (tables.mappings.row id).any (OrderMapping.belongsTo integration code)

/-- The orders that an external order is mapped to. -/
def mappedOrders (integration : ℕ) (code : String) : List ℕ :=
  ((tables.searchMappings integration code).filterMap fun id =>
    (tables.mappings.row id).bind OrderMapping.odooId).dedup

/-- `_create_input_file_from_received_data`. A file of that name is kept as it is. -/
def createInputFile (integration : ℕ) (skipCreateOrder : Bool)
    (written : List ((ℕ × String) × SaleInputFile Payload)) (order : String × Payload) :
    List ((ℕ × String) × SaleInputFile Payload) :=
  if (tables.files.row (integration, order.1)).isSome ∨
      (integration, order.1) ∈ written.map Prod.fst then written
  else written ++ [((integration, order.1), .received order.2 skipCreateOrder)]

/-- `create_order` of the factory: the order that is to be created where the external order is not
mapped to one. -/
def newOrder (file : ℕ × String) (externalId : String) (name : Except FileError String) :
    Except FileError (Option NewOrder) :=
  match tables.mappedOrders file.1 externalId with
  | [] => name.map fun name =>
      some ⟨file.1, externalId, name, file, tables.searchMappings file.1 externalId⟩
  | [_] => .ok none
  | _ => .error (.raised expectedSingleton)

/-- `create_order_from_input`, with the file as the transaction has it. -/
def createOrderFromInput (factory : OrderFactory Payload OrderData) (key : ℕ × String)
    (file : SaleInputFile Payload) (answer : Option Payload)
    (create : OrderData → Except FileError String) (workflow : OrderData → WorkflowOutcome) :
    Except FileError (IntakeWrites Payload) :=
  match file.parse factory.toOrderAdapter answer with
  | .error error => .error error
  | .ok (file, data) =>
      match tables.newOrder key (factory.id data) (create data) with
      | .error error => .error error
      | .ok created =>
          if factory.isCancelled data then .ok ⟨[(key, file.actionDone)], created⟩
          else (file.actionProcess.buildAndRunWorkflow (workflow data)).map fun file =>
            ⟨[(key, file)], created⟩

/-- What a task writes, as it reads the tables. -/
def perform (factory : OrderFactory Payload OrderData) :
    IntakeTask Payload OrderData → Except FileError (IntakeWrites Payload)
  | .receiveOrders integration orders skipCreateOrder =>
      .ok ⟨orders.foldl (tables.createInputFile integration skipCreateOrder) [], none⟩
  | .createOrderFromInput key answer create workflow =>
      match tables.files.row key with
      | none => .error (.raised missingRecord)
      | some file => tables.createOrderFromInput factory key file answer create workflow
  | .processNoJob key answer create workflow =>
      match tables.files.row key with
      | none => .error (.raised missingRecord)
      | some file =>
          if file.orderId = none then
            tables.createOrderFromInput factory key file.actionCreateOrder answer create workflow
          else .ok ⟨[(key, file.actionProcess.withDelay .runCurrentPipeline)], none⟩
  | .changeFile key change =>
      match tables.files.row key with
      | none => .error (.raised missingRecord)
      | some file =>
          (file.change factory.toOrderAdapter change).map fun file => ⟨[(key, file)], none⟩

/-- Whether the rows may be written by a transaction with the snapshot. -/
def admits (snapshot : OrderTables Payload) (writes : IntakeWrites Payload) : Bool :=
  (writes.files.all fun write => snapshot.files.writable tables.files write.1) &&
    writes.created.all fun order =>
      snapshot.externals.writable tables.externals (order.integration, order.externalId) &&
        order.mappings.all fun id => snapshot.mappings.writable tables.mappings id

/-- `create_mapping`. Where the external order is mapped to nothing yet, its mappings are filled. -/
def createMapping (order : NewOrder) (id : ℕ) : Rows ℕ OrderMapping :=
  let mapping : OrderMapping := ⟨order.integration, order.externalId, some id⟩
  if order.mappings = [] then tables.mappings.write tables.nextMapping (some mapping)
  else tables.mappings.writeAll (order.mappings.map fun mappingId => (mappingId, mapping))

/-- The input file is related to the order that is created from it. -/
def write (writes : IntakeWrites Payload) : OrderTables Payload :=
  match writes.created with
  | none => { tables with files := tables.files.writeAll writes.files }
  | some order => {
      files := tables.files.writeAll
        (writes.files.map fun write => (write.1, write.2.linkOrder tables.nextOrder))
      externals := tables.externals.write (order.integration, order.externalId) (some order.name)
      mappings := tables.createMapping order tables.nextOrder
      orders := tables.orders.write tables.nextOrder
        (some ⟨order.integration, order.externalId, order.file⟩)
      nextMapping := tables.nextMapping + 1
      nextOrder := tables.nextOrder + 1 }

/-- References to a deleted order are set to null. -/
def unlinkOrder (id : ℕ) : OrderTables Payload :=
  { tables with
    orders := tables.orders.write id none
    files := tables.files.updateWhere (fun file => file.orderId = some id)
      fun file => { file with orderId := none }
    mappings := tables.mappings.updateWhere (fun mapping => mapping.odooId = some id)
      (OrderMapping.setOrder none) }

def unlinkFile (key : ℕ × String) : OrderTables Payload :=
  { tables with files := tables.files.write key none }

/-- `bind_odoo` or `_unmap` -/
def bindMapping (id : ℕ) (odooId : Option ℕ) : OrderTables Payload :=
  { tables with
    mappings := tables.mappings.rewrite fun other =>
      if other = id then (tables.mappings.row id).map fun mapping => some (mapping.setOrder odooId)
      else none }

def unlinkMapping (id : ℕ) : OrderTables Payload :=
  { tables with mappings := tables.mappings.write id none }

/-- The mappings of a deleted external order are deleted with it. -/
def unlinkExternal (integration : ℕ) (code : String) : OrderTables Payload :=
  { tables with
    externals := tables.externals.write (integration, code) none
    mappings := tables.mappings.deleteWhere (OrderMapping.belongsTo integration code) }

end OrderTables

/-- What workers and users do. -/
inductive IntakeAction (Payload OrderData : Type) where
  | begin (worker : ℕ)
  | commit (worker : ℕ) (task : IntakeTask Payload OrderData)
  | rollback (worker : ℕ)
  | unlinkOrder (id : ℕ)
  | unlinkFile (key : ℕ × String)
  | bindMapping (id : ℕ) (odooId : Option ℕ)
  | unlinkMapping (id : ℕ)
  | unlinkExternal (integration : ℕ) (code : String)

/-- The tables, and the snapshots of the transactions that workers have begun. -/
structure OrderIntake (Payload : Type) where
  tables : OrderTables Payload
  snapshots : ℕ → Option (OrderTables Payload)

namespace OrderIntake

variable {Payload OrderData : Type} (intake : OrderIntake Payload)

def start : OrderIntake Payload := ⟨.empty, fun _ => none⟩

def withTables (tables : OrderTables Payload) : OrderIntake Payload :=
  { intake with tables := tables }

/-- A transaction that fails, or may not write, writes nothing. -/
def commit (factory : OrderFactory Payload OrderData) (worker : ℕ)
    (task : IntakeTask Payload OrderData) : OrderIntake Payload :=
  match intake.snapshots worker with
  | none => intake
  | some snapshot =>
      let snapshots := Function.update intake.snapshots worker none
      match snapshot.perform factory task with
      | .error _ => ⟨intake.tables, snapshots⟩
      | .ok writes =>
          if intake.tables.admits snapshot writes then ⟨intake.tables.write writes, snapshots⟩
          else ⟨intake.tables, snapshots⟩

def step (factory : OrderFactory Payload OrderData) (intake : OrderIntake Payload) :
    IntakeAction Payload OrderData → OrderIntake Payload
  | .begin worker =>
      { intake with snapshots := Function.update intake.snapshots worker (some intake.tables) }
  | .commit worker task => intake.commit factory worker task
  | .rollback worker => { intake with snapshots := Function.update intake.snapshots worker none }
  | .unlinkOrder id => intake.withTables (intake.tables.unlinkOrder id)
  | .unlinkFile key => intake.withTables (intake.tables.unlinkFile key)
  | .bindMapping id odooId => intake.withTables (intake.tables.bindMapping id odooId)
  | .unlinkMapping id => intake.withTables (intake.tables.unlinkMapping id)
  | .unlinkExternal integration code =>
      intake.withTables (intake.tables.unlinkExternal integration code)

end OrderIntake

end OdooConnector.Order
