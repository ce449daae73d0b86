import OdooConnector.Queue.RetryPattern

/-!
# Jobs and their rows

A job is loaded from its row, and reads the jobs it is connected with when they are asked for. Its
methods change the copy in memory, and `store` writes that back.
-/

namespace OdooConnector.Queue

/-- What a row of `queue_job` has under its uuid. -/
structure StoredJob where
  seq : ℤ
  channel : String
  dateCreated : ℚ
  priority : ℤ
  identityKey : Option String
  graphUuid : Option String
  dependsOn : List String
  reverseDependsOn : List String
  state : JobState
  retry : ℤ
  maxRetries : ℤ
  eta : Option ℚ
  dateEnqueued : Option ℚ
  dateStarted : Option ℚ
  dateDone : Option ℚ
  dateCancelled : Option ℚ
  result : Option String
  excName : Option String
  excMessage : Option String
  excInfo : Option String
deriving DecidableEq

def defaultPriority : ℤ := 10

def defaultMaxRetries : ℤ := 5

/-- A row with the defaults of a job. -/
def plainJob : StoredJob where
  seq := 0
  channel := "root"
  dateCreated := 0
  priority := defaultPriority
  identityKey := none
  graphUuid := none
  dependsOn := []
  reverseDependsOn := []
  state := .pending
  retry := 0
  maxRetries := defaultMaxRetries
  eta := none
  dateEnqueued := none
  dateStarted := none
  dateDone := none
  dateCancelled := none
  result := none
  excName := none
  excMessage := none
  excInfo := none

/-- A job in memory. Next to the uuids in its values it has the jobs that these were read as: the
jobs that it depends on with their states then, and the jobs that depend on it. -/
structure Job where
  uuid : String
  values : StoredJob
  parents : List (String × JobState)
  children : List String
deriving DecidableEq

/-- What the method of a job does. An error of the database stands for one that is worth a retry. -/
inductive MethodOutcome where
  | returns (result : Option String)
  | nothingToDo (message : String)
  | retryable (message : String) (seconds : Option ℚ) (ignoreRetry : Bool)
  | concurrency (message : String)
  | raises (excName excMessage : String)

/-- What `perform` does after that. -/
inductive Performed where
  | returned
  | nothingToDo (message : String)
  | retryable (message : String) (seconds : Option ℚ)
  | failed (excName excMessage : String)

/-- `PG_RETRY` -/
def pgRetry : ℚ := 5

def failedJobError : String := "odoo.addons.queue_job.exception.FailedJobError"

namespace Job

variable (job : Job) (now : ℚ)

/-- All jobs that this one depends on were done when they were read. -/
def ready : Bool := job.parents.all fun parent => parent.2 = .done

def setPending (result : Option String) (resetRetry : Bool) : Job :=
  { job with
    values := { job.values with
      state := if job.ready then .pending else .waitDependencies
      dateEnqueued := none
      dateStarted := none
      dateDone := none
      dateCancelled := none
      retry := if resetRetry then 0 else job.values.retry
      result := result.or job.values.result } }

def setStarted : Job :=
  { job with values := { job.values with state := .started, dateStarted := some now } }

def setDone (result : Option String) : Job :=
  { job with
    values := { job.values with
      state := .done
      excName := none
      excInfo := none
      dateDone := some now
      result := result.or job.values.result } }

def setCancelled (result : Option String) : Job :=
  { job with
    values := { job.values with
      state := .cancelled
      dateCancelled := some now
      result := result.or job.values.result } }

def setFailed (excName excMessage excInfo : String) : Job :=
  { job with
    values := { job.values with
      state := .failed
      excName := some excName
      excMessage := some excMessage
      excInfo := some excInfo } }

/-- A delay of no time at all is no eta. -/
def setEta (seconds : ℚ) : Job :=
  { job with
    values := { job.values with eta := if seconds = 0 then none else some (now + seconds) } }

def postpone (randint : ℤ → ℤ → ℤ) (pattern : RetryPattern) (result : String)
    (seconds : Option ℚ) : Job :=
  let postponed := job.setEta now (getRetrySeconds randint pattern job.values.retry seconds)
  { postponed with
    values := { postponed.values with excName := none, excInfo := none, result := some result } }

def retried : Job := { job with values := { job.values with retry := job.values.retry + 1 } }

def maxRetriesReached (message : String) : String :=
  "Max. retries (" ++ toString job.values.maxRetries ++ ") reached: " ++ message

/-- `perform`. Only errors that allow a retry are counted against the maximum. -/
def perform : MethodOutcome → Job × Performed
  | .returns result =>
      ({ job.retried with values := { job.retried.values with result := result } }, .returned)
  | .nothingToDo message => (job.retried, .nothingToDo message)
  | .retryable message seconds ignoreRetry =>
      if ignoreRetry then (job, .retryable message seconds)
      else if job.values.maxRetries = 0 then (job.retried, .retryable message seconds)
      else if job.values.retry + 1 ≥ job.values.maxRetries then
        (job.retried, .failed failedJobError (job.maxRetriesReached message))
      else (job.retried, .retryable message seconds)
  | .concurrency message => (job.retried, .retryable message (some pgRetry))
  | .raises excName excMessage => (job.retried, .failed excName excMessage)

theorem setPending_state (result : Option String) (resetRetry : Bool) :
    (job.setPending result resetRetry).values.state ≠ .enqueued ∧
      (job.setPending result resetRetry).values.state ≠ .started ∧
      (job.setPending result resetRetry).values.state ≠ .done := by
  have state : (job.setPending result resetRetry).values.state =
      if job.ready then .pending else .waitDependencies := rfl
  rw [state]
  split_ifs <;> simp

/-- A job that comes to wait has read of one that is not done. -/
theorem not_ready_of_setPending {result : Option String} {resetRetry : Bool}
    (waits : (job.setPending result resetRetry).values.state = .waitDependencies) :
    job.ready = false := by
  by_contra ready
  have state : (job.setPending result resetRetry).values.state =
      if job.ready then .pending else .waitDependencies := rfl
  rw [state, if_pos (Bool.not_eq_false _ ▸ ready)] at waits
  cases waits

end Job

end OdooConnector.Queue
