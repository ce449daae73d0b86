import OdooConnector.Queue.JobTable

/-!
# Requests to run jobs

The server handles a request to run a job in several transactions: the job is committed as started,
locked, performed and committed as done, and then the jobs that wait for it are looked at. Between
them anybody may write to the table, and the request may come to an end at any time.
-/

namespace OdooConnector.Queue

/-- How far a request has come. A version is that of the row when the transaction began in which the
job is performed. -/
inductive Phase where
  | started
  | waiting (version : ℕ)
  | performing (version : ℕ)
  /-- The job is stored by another cursor; this one is not rolled back yet. -/
  | settled
  /-- The job is done; the jobs that depend on it are not looked at yet. -/
  | releasing
deriving DecidableEq

structure Worker where
  job : Job
  phase : Phase

def Phase.locks : Phase → Bool
  | .performing _ | .settled => true
  | .started | .waiting _ | .releasing => false

/-- The table, and the requests that are being handled. -/
structure JobServer where
  table : JobTable
  worker : ℕ → Option Worker

/-- What a request finds around it: the time, the retry pattern of the job's function, random
numbers, and what the database and Python say of an error. -/
structure Surroundings where
  now : ℚ
  pattern : RetryPattern
  randint : ℤ → ℤ → ℤ
  pgError : String
  traceback : String

/-- The jobs of a graph that `delay` stores. -/
structure NewGraph where
  jobs : List Job
  nodup : (jobs.map Job.uuid).Nodup
  read : ∀ job ∈ jobs,
    job.parents.map Prod.fst = job.values.dependsOn ∧ job.children = job.values.reverseDependsOn
  state : ∀ job ∈ jobs, job.values.state =
    if job.values.dependsOn = [] then .pending else .waitDependencies
  closed : ∀ job ∈ jobs, ∀ uuid ∈ job.values.dependsOn ++ job.values.reverseDependsOn,
    uuid ∈ jobs.map Job.uuid
  mirrored : ∀ child ∈ jobs, ∀ parent ∈ jobs,
    parent.uuid ∈ child.values.dependsOn ↔ child.uuid ∈ parent.values.reverseDependsOn
  sameGraph : ∀ child ∈ jobs, ∀ parent ∈ jobs, parent.uuid ∈ child.values.dependsOn →
    child.values.graphUuid = parent.values.graphUuid ∧ parent.values.graphUuid.isSome
  acyclic : ∃ rank : String → ℕ, ∀ job ∈ jobs, ∀ parent ∈ job.values.dependsOn,
    rank parent < rank job.uuid

/-- A job of a graph of two. -/
def pairJob (uuid : String) (state : JobState) (parents : List (String × JobState))
    (children : List String) : Job where
  uuid := uuid
  values :=
    { plainJob with
      graphUuid := some "graph"
      dependsOn := parents.map Prod.fst
      reverseDependsOn := children
      state := state }
  parents := parents
  children := children

/-- The second job depends on the first. -/
def pairGraph : NewGraph where
  jobs := [pairJob "a" .pending [] ["b"], pairJob "b" .waitDependencies [("a", .pending)] []]
  nodup := by decide +kernel
  read := by decide +kernel
  state := by decide +kernel
  closed := by decide +kernel
  mirrored := by decide +kernel
  sameGraph := by decide +kernel
  acyclic := ⟨fun uuid => if uuid = "b" then 1 else 0, by decide +kernel⟩

inductive ServerAction where
  | delay (graph : NewGraph)
  | setJobEnqueued (now : ℚ) (uuid : String)
  | requeueDeadJobs (now : ℚ)
  | runjob (request : ℕ) (uuid : String) (now : ℚ)
  | attemptLock (request : ℕ) (around : Surroundings)
  | acquireLock (request : ℕ) (around : Surroundings)
  | perform (request : ℕ) (outcome : MethodOutcome) (around : Surroundings)
  | close (request : ℕ)
  | enqueueDependentJobs (request : ℕ)
  | crash (request : ℕ)
  | buttonDone (now : ℚ) (user uuid : String)
  | buttonCancelled (now : ℚ) (user uuid : String)
  | requeue (uuid : String)
  | autovacuum (now : ℚ) (channels : List JobTable.VacuumedChannel)

namespace JobServer

variable (server : JobServer) (request : ℕ)

def start : JobServer := ⟨.empty, fun _ => none⟩

def setWorker (worker : Option Worker) : JobServer :=
  { server with worker := Function.update server.worker request worker }

/-- The transaction of a request ends, and with it the lock. -/
def unlock (uuid : String) : JobServer :=
  { server with table := server.table.setLocked uuid none }

/-- The row of a job is in a state. -/
def isIn (uuid : String) (state : JobState) : Bool :=
  (server.table.row uuid).any fun job => job.state = state

def notStarted (uuid : String) : String :=
  "Trying to lock job that wasn't started, uuid: " ++ uuid

def nothingToDo (message : String) : String :=
  if message ≠ "" then message else "Job interrupted and set to Done: nothing to do."

/-- `retry_postpone` -/
def retryPostpone (job : Job) (around : Surroundings) (message : String)
    (seconds : Option ℚ) : JobServer :=
  let postponed := job.postpone around.now around.randint around.pattern message seconds
  { server with
    table := server.table.store ((server.table.read postponed).setPending none false) }

/-- Commit a job as done; the lock is given back, and the jobs that depend on it come next. -/
def commitDone (job : Job) (now : ℚ) (result : Option String) : JobServer :=
  let done := job.setDone now result
  (({ server with table := server.table.store done }).unlock job.uuid).setWorker request
    (some ⟨done, .releasing⟩)

def runjob (uuid : String) (now : ℚ) : JobServer :=
  match server.worker request, server.isIn uuid .enqueued, server.table.load uuid with
  | none, true, some job =>
      let started := server.table.read (job.setStarted now)
      { server with table := (server.table.addLockRecord uuid).store started }.setWorker request
        (some ⟨started, .started⟩)
  | _, _, _ => server

/-- `lock`, before it waits. A job that is not started any more is postponed. -/
def attemptLock (around : Surroundings) : JobServer :=
  match server.worker request with
  | some ⟨job, .started⟩ =>
      if server.isIn job.uuid .started && server.table.lockRow job.uuid then
        server.setWorker request (some ⟨job, .waiting (server.table.version job.uuid)⟩)
      else (server.retryPostpone job around (notStarted job.uuid) none).setWorker request none
  | _ => server

/-- Where the job was deleted in the meantime, the database does not lock its row any more. -/
def acquireLock (around : Surroundings) : JobServer :=
  match server.worker request with
  | some ⟨job, .waiting version⟩ =>
      if !server.table.lockRow job.uuid then
        (server.retryPostpone job around around.pgError (some pgRetry)).setWorker request none
      else if server.table.lockedBy job.uuid = none then
        { server with table := server.table.setLocked job.uuid (some request) }.setWorker request
          (some ⟨job, .performing version⟩)
      else server
  | _ => server

/-- Where somebody has written the row since the transaction began, the database does not write it:
this is an error that is retried, but for a job with nothing to do nobody retries it. -/
def perform (outcome : MethodOutcome) (around : Surroundings) : JobServer :=
  match server.worker request with
  | some ⟨loaded, .performing version⟩ =>
      let (job, performed) := loaded.perform outcome
      let fresh := server.table.version job.uuid = version
      match performed with
      | .returned =>
          if fresh then server.commitDone request job around.now none
          else (server.retryPostpone job around around.pgError (some pgRetry)).setWorker request
            (some ⟨job, .settled⟩)
      | .nothingToDo message =>
          if fresh then server.commitDone request job around.now (some (nothingToDo message))
          else (server.unlock job.uuid).setWorker request none
      | .retryable message seconds =>
          (server.retryPostpone job around message seconds).setWorker request
            (some ⟨job, .settled⟩)
      | .failed excName excMessage =>
          { server with
            table := server.table.store
              (job.setFailed excName excMessage around.traceback) }.setWorker request
            (some ⟨job, .settled⟩)
  | _ => server

/-- The transaction in which the job was performed is rolled back. -/
def close : JobServer :=
  match server.worker request with
  | some ⟨job, .settled⟩ => (server.unlock job.uuid).setWorker request none
  | _ => server

def enqueueDependentJobs : JobServer :=
  match server.worker request with
  | some ⟨job, .releasing⟩ =>
      { server with table := server.table.enqueueWaiting job.uuid }.setWorker request none
  | _ => server

/-- A request that is gone holds no lock. -/
def crash : JobServer :=
  match server.worker request with
  | some ⟨job, phase⟩ =>
      (if phase.locks then server.unlock job.uuid else server).setWorker request none
  | none => server

def withTable (table : JobTable) : JobServer := { server with table := table }

/-- The jobs of a graph have uuids that no job had before. -/
def isNew (graph : NewGraph) : Bool :=
  graph.jobs.all fun job => server.table.version job.uuid = 0

def step : ServerAction → JobServer
  | .delay graph =>
      if server.isNew graph then server.withTable (graph.jobs.foldl JobTable.store server.table)
      else server
  | .setJobEnqueued now uuid => server.withTable (server.table.setJobEnqueued now uuid)
  | .requeueDeadJobs now => server.withTable (server.table.requeueDeadJobs now)
  | .runjob request uuid now => server.runjob request uuid now
  | .attemptLock request around => server.attemptLock request around
  | .acquireLock request around => server.acquireLock request around
  | .perform request outcome around => server.perform request outcome around
  | .close request => server.close request
  | .enqueueDependentJobs request => server.enqueueDependentJobs request
  | .crash request => server.crash request
  | .buttonDone now user uuid => server.withTable (server.table.buttonDone now user [uuid])
  | .buttonCancelled now user uuid =>
      server.withTable (server.table.buttonCancelled now user [uuid])
  | .requeue uuid => server.withTable (server.table.requeue [uuid])
  | .autovacuum now channels => server.withTable (server.table.autovacuum now channels)

end JobServer

end OdooConnector.Queue
