import OdooConnector.Library.Run

/-!
# Input files of external orders

The data of an order are received into an input file. A file that is marked for an update fetches
them again when it is parsed, which creates the order or runs its pipeline.
-/

namespace OdooConnector.Order

inductive InputFileState where
  | draft
  | createOrder
  | workflowProcess
  | done
  | cancelled
  | skipped
  | unknown
deriving DecidableEq

/-- A text that is to hold a JSON value. -/
inductive JsonText (Payload : Type*) where
  | blank
  | json (payload : Payload)
  | malformed

/-- What happens to the data of a file. -/
inductive FileEvent (Payload : Type*) where
  | marked
  | fetched (payload : Payload)
  | parsed (payload : Payload)

/-- Delayed jobs of a file. -/
inductive FileJob where
  | createOrderFromInput
  | runCurrentPipeline
deriving DecidableEq

structure SaleInputFile (Payload : Type*) where
  state : InputFileState
  orderId : Option ℕ
  file : JsonText Payload
  rawData : JsonText Payload
  updateRequired : Bool
  jobs : List FileJob
  /-- What happened to the data so far. -/
  events : List (FileEvent Payload)

inductive FileError where
  | jsonDecode
  | validation (message : String)
  | raised (message : String)

def updateFailed : String :=
  "Failed to update external order information from the store.\n\n" ++
  "This issue is most commonly caused by the order being removed from the e-commerce system. " ++
  "If the order is no longer available, the connector cannot update its data.\n\n" ++
  "Please ensure the external system is accessible and the order still exists. " ++
  "If the issue persists, contact support: https://support.ventor.tech/"

def invalidFormat : String :=
  "The order data contains invalid format.\n\n" ++
  "Please ensure the file has the correct format and try again."

/-- How the adapter of a store reads the payload of an order. -/
structure OrderAdapter (Payload OrderData : Type*) where
  isDict : Payload → Bool
  parseOrder : Payload → Except FileError OrderData

/-- What becomes of an order after its data have been parsed: applying them fails, or its pipeline
has tasks to process or none. -/
inductive WorkflowOutcome where
  | failed (error : FileError)
  | tasksToProcess
  | noTasks

/-- What the factory makes of the data of an order. -/
inductive CreationOutcome where
  | failed (error : FileError)
  | cancelled (orderId : ℕ)
  | created (orderId : ℕ) (workflow : WorkflowOutcome)

namespace SaleInputFile

variable {Payload OrderData : Type*} (file : SaleInputFile Payload)

def record (event : FileEvent Payload) : SaleInputFile Payload :=
  { file with events := file.events ++ [event] }

def unmarkForUpdate : SaleInputFile Payload := { file with updateRequired := false }

def actionDone : SaleInputFile Payload := { file.unmarkForUpdate with state := .done }

def actionCreateOrder : SaleInputFile Payload := { file with state := .createOrder }

def actionProcess : SaleInputFile Payload := { file.unmarkForUpdate with state := .workflowProcess }

def markForUpdate : SaleInputFile Payload :=
  if file.state = .cancelled then file else { file.record .marked with updateRequired := true }

/-- `with_delay`: a pending job of the same identity is not queued again. -/
def withDelay (job : FileJob) : SaleInputFile Payload :=
  if job ∈ file.jobs then file else { file with jobs := file.jobs ++ [job] }

/-- The raw data, or else the content of the attached file. -/
def toDict : Except FileError (Option Payload) :=
  match file.rawData, file.file with
  | .json payload, _ => .ok (some payload)
  | .malformed, _ => .error .jsonDecode
  | .blank, .json payload => .ok (some payload)
  | .blank, .malformed => .error .jsonDecode
  | .blank, .blank => .ok none

/-- `_update_from_external`: the store answers with the data of the order, or with none. -/
def updateFromExternal (answer : Option Payload) : SaleInputFile Payload × Bool :=
  match answer with
  | none => (file, false)
  | some payload => ({ file.record (.fetched payload) with rawData := .json payload }, true)

/-- `parse` after the update: the payload goes to the adapter. -/
def parsePayload (adapter : OrderAdapter Payload OrderData) :
    Except FileError (SaleInputFile Payload × OrderData) :=
  match file.toDict with
  | .error error => .error error
  | .ok none => .error (.validation invalidFormat)
  | .ok (some payload) =>
      if adapter.isDict payload then
        match adapter.parseOrder payload with
        | .error error => .error error
        | .ok data => .ok (file.record (.parsed payload), data)
      else .error (.validation invalidFormat)

def parse (adapter : OrderAdapter Payload OrderData) (answer : Option Payload) :
    Except FileError (SaleInputFile Payload × OrderData) :=
  if file.updateRequired then
    match file.updateFromExternal answer with
    | (_, false) => .error (.validation updateFailed)
    | (file, true) => file.parsePayload adapter
  else file.parsePayload adapter

/-- What the pipeline of an order writes to its input file when it is triggered or ends. -/
def markByPipeline (hasTasksToProcess : Bool) : SaleInputFile Payload :=
  if hasTasksToProcess then file.actionProcess else file.actionDone

def buildAndRunWorkflow (outcome : WorkflowOutcome) : Except FileError (SaleInputFile Payload) :=
  match outcome with
  | .failed error => .error error
  | .tasksToProcess => .ok (file.markByPipeline true)
  | .noTasks => .ok (file.markByPipeline false)

/-- `run_current_pipeline`, as a job or by its button. -/
def runCurrentPipeline (adapter : OrderAdapter Payload OrderData) (answer : Option Payload)
    (apply : OrderData → WorkflowOutcome) : Except FileError (SaleInputFile Payload) :=
  if file.orderId = none then .ok file
  else
    match file.parse adapter answer with
    | .error error => .error error
    | .ok (file, data) => file.buildAndRunWorkflow (apply data)

/-- The order that the factory has found or created belongs to the file. -/
def linkOrder (orderId : ℕ) : SaleInputFile Payload := { file with orderId := some orderId }

def createOrderFromInput (adapter : OrderAdapter Payload OrderData) (answer : Option Payload)
    (create : OrderData → CreationOutcome) : Except FileError (SaleInputFile Payload) :=
  match file.parse adapter answer with
  | .error error => .error error
  | .ok (file, data) =>
      match create data with
      | .failed error => .error error
      | .cancelled orderId => .ok (file.linkOrder orderId).actionDone
      | .created orderId workflow =>
          (file.linkOrder orderId).actionProcess.buildAndRunWorkflow workflow

def process : SaleInputFile Payload :=
  if file.orderId = none then file.actionCreateOrder.withDelay .createOrderFromInput
  else file.actionProcess.withDelay .runCurrentPipeline

def processNoJob (adapter : OrderAdapter Payload OrderData) (answer : Option Payload)
    (create : OrderData → CreationOutcome) : Except FileError (SaleInputFile Payload) :=
  if file.orderId = none then file.actionCreateOrder.createOrderFromInput adapter answer create
  else .ok (file.actionProcess.withDelay .runCurrentPipeline)

/-- `update_current_pipeline`, which parses the file where the order has a pipeline. -/
def updateCurrentPipeline (adapter : OrderAdapter Payload OrderData) (answer : Option Payload)
    (hasPipeline : Bool) : Except FileError (SaleInputFile Payload) :=
  if hasPipeline then (file.parse adapter answer).map Prod.fst else .ok file

/-- `fetch_full_order` of the Shopify connector. -/
def fetchFullOrder (answer : Option Payload) : SaleInputFile Payload :=
  match file.updateFromExternal answer with
  | (file, true) => file.unmarkForUpdate
  | (file, false) => file

/-- A job leaves the queue when it is run. -/
def takeJob (job : FileJob) : SaleInputFile Payload := { file with jobs := file.jobs.erase job }

def runJob (adapter : OrderAdapter Payload OrderData) (job : FileJob) (answer : Option Payload)
    (create : OrderData → CreationOutcome) (apply : OrderData → WorkflowOutcome) :
    Except FileError (SaleInputFile Payload) :=
  match job with
  | .createOrderFromInput => file.createOrderFromInput adapter answer create
  | .runCurrentPipeline => file.runCurrentPipeline adapter answer apply

end SaleInputFile

/-- What can happen to an input file. -/
inductive FileAction (Payload OrderData : Type*) where
  | markForUpdate
  | process
  | processNoJob (answer : Option Payload) (create : OrderData → CreationOutcome)
  | runJob (job : FileJob) (answer : Option Payload) (create : OrderData → CreationOutcome)
      (apply : OrderData → WorkflowOutcome)
  | runCurrentPipeline (answer : Option Payload) (apply : OrderData → WorkflowOutcome)
  | updateCurrentPipeline (answer : Option Payload) (hasPipeline : Bool)
  | markByPipeline (hasTasksToProcess : Bool)
  | updateFromExternal (answer : Option Payload)
  | fetchFullOrder (answer : Option Payload)

namespace SaleInputFile

variable {Payload OrderData : Type*}

/-- An error undoes what has been written. -/
def orUndone (file : SaleInputFile Payload) (result : Except FileError (SaleInputFile Payload)) :
    SaleInputFile Payload :=
  match result with
  | .ok after => after
  | .error _ => file

def step (adapter : OrderAdapter Payload OrderData) (file : SaleInputFile Payload) :
    FileAction Payload OrderData → SaleInputFile Payload
  | .markForUpdate => file.markForUpdate
  | .process => file.process
  | .processNoJob answer create => file.orUndone (file.processNoJob adapter answer create)
  | .runJob job answer create apply =>
      if job ∈ file.jobs then
        (file.takeJob job).orUndone ((file.takeJob job).runJob adapter job answer create apply)
      else file
  | .runCurrentPipeline answer apply =>
      file.orUndone (file.runCurrentPipeline adapter answer apply)
  | .updateCurrentPipeline answer hasPipeline =>
      file.orUndone (file.updateCurrentPipeline adapter answer hasPipeline)
  | .markByPipeline hasTasksToProcess => file.markByPipeline hasTasksToProcess
  | .updateFromExternal answer => (file.updateFromExternal answer).1
  | .fetchFullOrder answer => file.fetchFullOrder answer

end SaleInputFile

end OdooConnector.Order
