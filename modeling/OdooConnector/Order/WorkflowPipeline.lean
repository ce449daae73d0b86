import OdooConnector.Order.IntegrationFile

/-!
# The workflow pipeline of an order

The tasks of an order run one after another, each in a delayed job that queues the next one. A task
can also be run by hand, be set to done, or be reached by triggering the pipeline again.
-/

namespace OdooConnector.Order

inductive TaskState where
  | skip
  | todo
  | inProcess
  | failed
  | done
deriving DecidableEq

/-- Skipped and done tasks need no run. -/
def TaskState.isFinished (state : TaskState) : Bool := state = .skip || state = .done

structure PipelineTask where
  id : ℕ
  currentStepMethod : String
  nextStepMethod : Option String
  state : TaskState
deriving DecidableEq

/-- The tasks of a new pipeline: each names the next one, and those that are not enabled are
skipped. -/
def buildTasks : ℕ → List (String × Bool) → List PipelineTask
  | _, [] => []
  | taskId, (taskName, taskEnable) :: rest =>
      ⟨taskId, taskName, rest.head?.map Prod.fst, if taskEnable then .todo else .skip⟩ ::
        buildTasks (taskId + 1) rest

/-- What the order's method of a task answers with its message, where it raises no error. -/
inductive TaskResult where
  | done (message : String)
  | inProcess (message : String)
  | failed (message : String)
  | raised (error : FileError)

inductive PipelineJob where
  | triggerPipeline
  | runAndCallNext (taskId : ℕ)
  | raiseMessage (taskId : ℕ) (message : String)
deriving DecidableEq

/-- The task that the identity key of a job names; the pipeline's own job names none. -/
def PipelineJob.identity : PipelineJob → Option ℕ
  | .triggerPipeline => none
  | .runAndCallNext taskId => some taskId
  | .raiseMessage taskId _ => some taskId

/-- What happens in a pipeline: the method of a task runs, a task is set to done, and the input file
is, with the tasks in the given states. -/
inductive PipelineEvent where
  | methodRun (taskId : ℕ)
  | taskDone (taskId : ℕ)
  | inputDone (states : List TaskState)
deriving DecidableEq

structure WorkflowPipeline (Payload : Type*) where
  tasks : List PipelineTask
  currentInfo : Option String
  inputFile : SaleInputFile Payload
  jobs : List PipelineJob
  /-- What happened in the pipeline so far. -/
  events : List PipelineEvent

def taskInactive : String :=
  "The task cannot be executed because it is inactive in the current auto-workflow. " ++
  "This task is in a \"Skip\" or \"Done\" state and cannot be processed further. " ++
  "Please verify the auto-workflow status."

def previousNotDone : String :=
  "Not all previous tasks are in the \"Done\" state. Please complete or fix " ++
  "the pending tasks before proceeding."

namespace WorkflowPipeline

variable {Payload : Type*} (pipeline : WorkflowPipeline Payload)

def hasTasksToProcess : Bool := pipeline.tasks.any fun task => !task.state.isFinished

def findTask (stepName : Option String) : List PipelineTask :=
  pipeline.tasks.filter fun task => some task.currentStepMethod = stepName

def record (event : PipelineEvent) : WorkflowPipeline Payload :=
  { pipeline with events := pipeline.events ++ [event] }

def setState (taskId : ℕ) (state : TaskState) : WorkflowPipeline Payload :=
  { pipeline with tasks := pipeline.tasks.map fun task =>
      if task.id = taskId then { task with state := state } else task }

def updateInfo (message : Option String) : WorkflowPipeline Payload :=
  { pipeline with currentInfo := message }

/-- `with_delay`: a pending job of the same identity is not queued again. -/
def withDelay (job : PipelineJob) : WorkflowPipeline Payload :=
  if pipeline.jobs.any fun pending => pending.identity = job.identity then pipeline
  else { pipeline with jobs := pipeline.jobs ++ [job] }

def markInputAsDone : WorkflowPipeline Payload :=
  { pipeline.record (.inputDone (pipeline.tasks.map PipelineTask.state)) with
    inputFile := pipeline.inputFile.actionDone }

def markInputToProcess : WorkflowPipeline Payload :=
  { pipeline with inputFile := pipeline.inputFile.actionProcess }

/-- `set_task_to_done`, which also clears the info. -/
def setTaskToDone (taskId : ℕ) : WorkflowPipeline Payload :=
  ((pipeline.setState taskId .done).updateInfo none).record (.taskDone taskId)

/-- `_call_pipeline_step`: the next task is queued, or the workflow ends. -/
def callPipelineStep (stepName : Option String) : Except FileError (WorkflowPipeline Payload) :=
  if !pipeline.hasTasksToProcess then .ok pipeline.markInputAsDone
  else
    match pipeline.findTask stepName with
    | [] => .ok pipeline.markInputAsDone
    | [task] => .ok (pipeline.withDelay (.runAndCallNext task.id))
    | _ => .error (.raised "Expected singleton")

/-- `_run_and_call_next`, the automatic run of a task. -/
def runAndCallNext (task : PipelineTask) (result : TaskResult) :
    Except FileError (WorkflowPipeline Payload) :=
  if task.state.isFinished then pipeline.callPipelineStep task.nextStepMethod
  else
    match result with
    | .raised error => .error error
    | .done _ =>
        ((pipeline.record (.methodRun task.id)).setTaskToDone task.id).callPipelineStep
          task.nextStepMethod
    | .inProcess _ =>
        ((pipeline.record (.methodRun task.id)).setState task.id .inProcess).callPipelineStep
          task.nextStepMethod
    | .failed message =>
        .ok ((((pipeline.record (.methodRun task.id)).setState task.id .failed).updateInfo
          (some message)).withDelay (.raiseMessage task.id message))

/-- `_validate_previous`: all earlier tasks are done or skipped. -/
def validatePrevious (task : PipelineTask) : Bool :=
  pipeline.tasks.all fun other => decide (other.id < task.id) → other.state.isFinished

/-- The input file is done once a task without a next one is done by hand. -/
def markInputAtEnd (task : PipelineTask) : WorkflowPipeline Payload :=
  if pipeline.findTask task.nextStepMethod = [] then pipeline.markInputAsDone else pipeline

/-- The run of a task by its button. -/
def run (task : PipelineTask) (result : TaskResult) : Except FileError (WorkflowPipeline Payload) :=
  if task.state.isFinished then .error (.validation taskInactive)
  else if !pipeline.validatePrevious task then .error (.validation previousNotDone)
  else
    match result with
    | .raised error => .error error
    | .done _ =>
        .ok (((pipeline.record (.methodRun task.id)).setTaskToDone task.id).markInputAtEnd task)
    | .inProcess message =>
        .ok (((pipeline.record (.methodRun task.id)).setState task.id .inProcess).updateInfo
          (some message))
    | .failed message =>
        .ok (((pipeline.record (.methodRun task.id)).setState task.id .failed).updateInfo
          (some message))

def taskForceDone (task : PipelineTask) : Except FileError (WorkflowPipeline Payload) :=
  if !pipeline.validatePrevious task then .error (.validation previousNotDone)
  else .ok ((pipeline.setTaskToDone task.id).markInputAtEnd task)

def triggerPipeline : WorkflowPipeline Payload :=
  if !pipeline.hasTasksToProcess then pipeline.markInputAsDone
  else
    match pipeline.tasks.find? fun task => task.state ≠ .done with
    | none => pipeline.markInputToProcess
    | some task => (pipeline.withDelay (.runAndCallNext task.id)).markInputToProcess

/-- `_update_pipeline`: the enabled tasks of an order status are to do again, unless done. -/
def updatePipeline (taskList : List (String × Bool)) : WorkflowPipeline Payload :=
  { pipeline with tasks := pipeline.tasks.map fun task =>
      if task.state ≠ .done ∧ (task.currentStepMethod, true) ∈ taskList then
        { task with state := .todo }
      else task }

/-- `_build_and_run_integration_workflow` of an order that has a pipeline. -/
def buildAndRun (taskList : List (String × Bool)) : WorkflowPipeline Payload :=
  let pipeline := pipeline.updatePipeline taskList
  if pipeline.hasTasksToProcess then pipeline.markInputToProcess.withDelay .triggerPipeline
  else pipeline.markInputAsDone

/-- A job leaves the queue when it is run. -/
def takeJob (job : PipelineJob) : WorkflowPipeline Payload :=
  { pipeline with jobs := pipeline.jobs.erase job }

def onTask (taskId : ℕ)
    (method : PipelineTask → Except FileError (WorkflowPipeline Payload)) :
    Except FileError (WorkflowPipeline Payload) :=
  match pipeline.tasks.find? fun task => task.id = taskId with
  | none => .error (.raised "Record does not exist or has been deleted.")
  | some task => method task

def runJob (job : PipelineJob) (result : TaskResult) :
    Except FileError (WorkflowPipeline Payload) :=
  match job with
  | .triggerPipeline => .ok pipeline.triggerPipeline
  | .runAndCallNext taskId => pipeline.onTask taskId fun task => pipeline.runAndCallNext task result
  | .raiseMessage _ message => .error (.validation message)

end WorkflowPipeline

/-- What can happen to a pipeline. -/
inductive PipelineAction where
  | runJob (job : PipelineJob) (result : TaskResult)
  | requeueJob (job : PipelineJob)
  | run (taskId : ℕ) (result : TaskResult)
  | taskForceDone (taskId : ℕ)
  | manualRun
  | buildAndRun (taskList : List (String × Bool))

namespace WorkflowPipeline

variable {Payload : Type*}

/-- An error undoes what has been written. -/
def orUndone (pipeline : WorkflowPipeline Payload)
    (result : Except FileError (WorkflowPipeline Payload)) : WorkflowPipeline Payload :=
  match result with
  | .ok after => after
  | .error _ => pipeline

def step (pipeline : WorkflowPipeline Payload) : PipelineAction → WorkflowPipeline Payload
  | .runJob job result =>
      if job ∈ pipeline.jobs then
        (pipeline.takeJob job).orUndone ((pipeline.takeJob job).runJob job result)
      else pipeline
  | .requeueJob job => { pipeline with jobs := pipeline.jobs ++ [job] }
  | .run taskId result =>
      pipeline.orUndone (pipeline.onTask taskId fun task => pipeline.run task result)
  | .taskForceDone taskId => pipeline.orUndone (pipeline.onTask taskId pipeline.taskForceDone)
  | .manualRun => pipeline.withDelay .triggerPipeline
  | .buildAndRun taskList => pipeline.buildAndRun taskList

end WorkflowPipeline

end OdooConnector.Order
