import OdooConnector.Library.History
import OdooConnector.Queue.LockedJobs
import OdooConnector.Queue.StartedJobs

/-!
# The runner

The runner hears of every row that is written, reads it again and tells the channels. The jobs that
these hand out it sets enqueued one by one, and asks the server to run them. In the meantime the
server goes on.
-/

namespace OdooConnector.Queue

/-- The server and the runner of a database, with the jobs that were handed out and are not set
enqueued yet. -/
structure QueueSystem where
  server : JobServer
  session : Session
  toEnqueue : List String

inductive SystemAction where
  | serve (action : ServerAction)
  | processNotification (uuid : String)
  | getJobsToRun (now : ℚ)
  | setJobEnqueued (now : ℚ)
  | restart (uuids : List String)

/-- The runner alone sets jobs enqueued. -/
def ServerAction.byRunner : ServerAction → Bool
  | .setJobEnqueued _ _ => true
  | _ => false

/-- `NOT_DONE` -/
def JobState.notDone : JobState → Bool
  | .waitDependencies | .pending | .enqueued | .started | .failed => true
  | .done | .cancelled => false

namespace JobTable

variable (table : JobTable) (uuid : String)

/-- A notification is taken from those that were not read. -/
def popNotification : JobTable :=
  { table with
    notified := Function.update table.notified uuid (table.notified uuid - 1) }

/-- What `select_jobs` reads of a row. -/
def notification (dbName : String) (job : StoredJob) : Notification where
  dbName := dbName
  channelName := job.channel
  uuid := uuid
  seq := job.seq
  dateCreated := job.dateCreated
  priority := job.priority
  eta := job.eta
  state := some job.state

end JobTable

namespace QueueSystem

variable (dbName : String) (system : QueueSystem)

def start (tree : ChannelTree) : QueueSystem := ⟨.start, .start tree, []⟩

/-- The row of a notification is read again. -/
def readRow (table : JobTable) (session : Session) (uuid : String) : Session :=
  match table.row uuid with
  | some job => session.step (.notify (JobTable.notification uuid dbName job))
  | none => session.step (.removeJob uuid)

/-- While it sets jobs enqueued, the runner reads no notifications. -/
def processNotification (uuid : String) : QueueSystem :=
  if system.toEnqueue = [] ∧ system.server.table.notified uuid ≠ 0 then
    { system with
      server := system.server.withTable (system.server.table.popNotification uuid)
      session := readRow dbName system.server.table system.session uuid }
  else system

def getJobsToRun (now : ℚ) : QueueSystem :=
  if system.toEnqueue = [] then
    { system with
      session := system.session.step (.getJobsToRun now)
      toEnqueue := system.session.handsOut now }
  else system

def setJobEnqueued (now : ℚ) : QueueSystem :=
  match system.toEnqueue with
  | uuid :: uuids =>
      { system with
        server := system.server.step (.setJobEnqueued now uuid)
        toEnqueue := uuids }
  | [] => system

/-- The runner forgets the database, listens again and reads the jobs that are not done. -/
def restart (uuids : List String) : QueueSystem where
  server := system.server.withTable { system.server.table with notified := fun _ => 0 }
  session :=
    (uuids.filter fun uuid =>
      (system.server.table.row uuid).any fun job => job.state.notDone).foldl
      (readRow dbName system.server.table) (system.session.step (.removeDb dbName))
  toEnqueue := []

def step : SystemAction → QueueSystem
  | .serve action =>
      if action.byRunner then system else { system with server := system.server.step action }
  | .processNotification uuid => system.processNotification dbName uuid
  | .getJobsToRun now => system.getJobsToRun now
  | .setJobEnqueued now => system.setJobEnqueued now
  | .restart uuids => system.restart dbName uuids

end QueueSystem

end OdooConnector.Queue
