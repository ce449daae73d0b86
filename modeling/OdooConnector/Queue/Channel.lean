import Mathlib.Data.Prod.Lex
import Mathlib.Data.Rat.Defs
import Mathlib.Algebra.Order.Ring.Unbundled.Rat
import Mathlib.Logic.Function.Basic
import OdooConnector.Library.PriorityQueue
import OdooConnector.Library.Text
import OdooConnector.Queue.FailedJob

/-!
# Channels of jobs

Jobs are queued in a tree of channels. A channel with capacity lets jobs run, which are queued in
its parent then; those that run in the root are handed to the runner.
-/

namespace OdooConnector.Queue

/-- The names from a channel up to the root, which has none; the parent is the tail. -/
abbrev ChannelPath := List String

structure ChannelJob where
  dbName : String
  channel : ChannelPath
  uuid : String
  seq : ℤ
  dateCreated : ℚ
  priority : ℤ
  eta : Option ℚ
deriving Inhabited

namespace ChannelJob

variable (job : ChannelJob)

def hasEta : Bool := job.eta.any fun eta => eta ≠ 0

def sortingKeyIgnoringEta : ℤ ×ₗ ℚ ×ₗ ℤ := toLex (job.priority, toLex (job.dateCreated, job.seq))

/-- Only jobs that all have an eta, or all have none, are compared. -/
def sortingKey : ℚ ×ₗ ℤ ×ₗ ℚ ×ₗ ℤ := toLex (job.eta.getD 0, job.sortingKeyIgnoringEta)

def setNoEta : ChannelJob := { job with eta := none }

end ChannelJob

/-- Job objects by reference. -/
abbrev JobObjects := ℕ → ChannelJob

/-- Jobs with an eta are set aside until it is past due. -/
structure ChannelQueue where
  queue : PriorityQueue ℕ
  etaQueue : PriorityQueue ℕ

namespace ChannelQueue

variable (queue : ChannelQueue) (jobs : JobObjects)

def empty : ChannelQueue := ⟨.empty, .empty⟩

instance : Membership ℕ ChannelQueue where
  mem queue job := job ∈ queue.etaQueue ∨ job ∈ queue.queue

instance (job : ℕ) : Decidable (job ∈ queue) :=
  inferInstanceAs (Decidable (job ∈ queue.etaQueue ∨ job ∈ queue.queue))

def add (job : ℕ) : ChannelQueue :=
  if (jobs job).hasEta then { queue with etaQueue := queue.etaQueue.add job }
  else { queue with queue := queue.queue.add job }

def remove (job : ℕ) : ChannelQueue where
  queue := queue.queue.remove job
  etaQueue := queue.etaQueue.remove job

/-- Jobs that the heaps refer to, removed ones included. -/
def refersTo (job : ℕ) : Bool := job ∈ queue.queue.heap || job ∈ queue.etaQueue.heap

def size : ℕ := queue.queue.heap.length + queue.etaQueue.heap.length

def key (job : ℕ) : ℚ ×ₗ ℤ ×ₗ ℚ ×ₗ ℤ := (jobs job).sortingKey

/-- Jobs whose eta is past due compete with the others. -/
def moveDue (now : ℚ) : ℕ → JobObjects → ChannelQueue → JobObjects × ChannelQueue
  | 0, jobs, queue => (jobs, queue)
  | fuel + 1, jobs, queue =>
      if queue.etaQueue.length = 0 then (jobs, queue)
      else
        let first := queue.etaQueue.first (key jobs)
        if first.1.any fun job => (jobs job).eta.any fun eta => eta ≤ now then
          let popped := first.2.pop (key jobs)
          match popped.1 with
          | none => (jobs, { queue with etaQueue := popped.2 })
          | some job =>
              moveDue now fuel (Function.update jobs job (jobs job).setNoEta)
                ⟨queue.queue.add job, popped.2⟩
        else (jobs, { queue with etaQueue := first.2 })

def popQueue : Option ℕ × JobObjects × ChannelQueue :=
  let popped := queue.queue.pop (key jobs)
  (popped.1, jobs, { queue with queue := popped.2 })

/-- The job with an eta has priority over the one without. -/
def etaFirst (etaJob job : Option ℕ) : Bool :=
  etaJob.any fun etaJob => job.any fun job =>
    (jobs etaJob).sortingKeyIgnoringEta < (jobs job).sortingKeyIgnoringEta

/-- In a sequential queue a job with an eta is waited for. -/
def pop (sequential : Bool) (now : ℚ) : Option ℕ × JobObjects × ChannelQueue :=
  let (jobs, queue) := moveDue now queue.etaQueue.heap.length jobs queue
  if sequential && queue.etaQueue.length ≠ 0 && queue.queue.length ≠ 0 then
    let etaJob := queue.etaQueue.first (key jobs)
    let job := queue.queue.first (key jobs)
    let queue : ChannelQueue := ⟨job.2, etaJob.2⟩
    if etaFirst jobs etaJob.1 job.1 then (none, jobs, queue) else queue.popQueue jobs
  else queue.popQueue jobs

end ChannelQueue

structure Channel where
  queue : ChannelQueue
  running : Finset ℕ
  failed : Finset ℕ
  pauseUntil : ℚ
  capacity : Option ℤ
  sequential : Bool
  throttle : ℤ

namespace Channel

variable (channel : Channel)

/-- A channel without jobs. -/
def configured (capacity : Option ℤ) (sequential : Bool) (throttle : ℤ) : Channel :=
  ⟨.empty, ∅, ∅, 0, capacity, sequential, throttle⟩

def new : Channel := configured none false 0

/-- No capacity and the capacity zero are unlimited. -/
def hasCapacity : Bool :=
  if channel.sequential && !decide (channel.failed = ∅) then false
  else
    match channel.capacity with
    | none => true
    | some capacity => capacity = 0 || channel.running.card < capacity

def discard (job : ℕ) : Channel :=
  { channel with
    queue := channel.queue.remove job
    running := channel.running.erase job
    failed := channel.failed.erase job }

def refersTo (job : ℕ) : Bool :=
  channel.queue.refersTo job || job ∈ channel.running || job ∈ channel.failed

end Channel

/-- The channels, of which those that are not listed are new ones; the job objects, and the jobs
that are known by their uuid; and the jobs that were handed to the runner. -/
structure ChannelManager where
  paths : List ChannelPath
  channel : ChannelPath → Channel
  job : JobObjects
  nextJob : ℕ
  jobsByUuid : List ℕ
  yielded : List ℕ

/-- A row of the job table. -/
structure Notification where
  dbName : String
  channelName : String
  uuid : String
  seq : ℤ
  dateCreated : ℚ
  priority : ℤ
  eta : Option ℚ
  state : Option JobState

namespace ChannelManager

variable (manager : ChannelManager)

def modify (path : ChannelPath) (change : Channel → Channel) : ChannelManager :=
  { manager with
    channel := Function.update manager.channel path (change (manager.channel path)) }

/-- Remove a job from a channel and its parents. -/
def remove (job : ℕ) : ChannelPath → ChannelManager → ChannelManager
  | [], manager => manager.modify [] fun channel => channel.discard job
  | name :: parent, manager =>
      remove job parent (manager.modify (name :: parent) fun channel => channel.discard job)

/-- Remove a job from the parents of a channel. -/
def removeAbove (job : ℕ) : ChannelPath → ChannelManager → ChannelManager
  | [], manager => manager
  | _ :: parent, manager => remove job parent manager

def setPending (job : ℕ) (path : ChannelPath) : ChannelManager :=
  if job ∈ (manager.channel path).queue then manager
  else
    removeAbove job path <| manager.modify path fun channel =>
      { channel with
        queue := channel.queue.add manager.job job
        running := channel.running.erase job
        failed := channel.failed.erase job }

def setRunning (job : ℕ) : ChannelPath → ChannelManager → ChannelManager
  | path, manager =>
      if job ∈ (manager.channel path).running then manager
      else
        let manager := manager.modify path fun channel =>
          { channel with
            queue := channel.queue.remove job
            running := insert job channel.running
            failed := channel.failed.erase job }
        match path with
        | [] => manager
        | _ :: parent => setRunning job parent manager

def setFailed (job : ℕ) (path : ChannelPath) : ChannelManager :=
  if job ∈ (manager.channel path).failed then manager
  else
    removeAbove job path <| manager.modify path fun channel =>
      { channel with
        queue := channel.queue.remove job
        running := channel.running.erase job
        failed := insert job channel.failed }

/-- A job that a channel yields is queued in the parent; those of the root go to the runner. -/
def deliver (job : ℕ) : ChannelPath → ChannelManager → ChannelManager
  | [], manager => { manager with yielded := manager.yielded ++ [job] }
  | _ :: parent, manager =>
      manager.modify parent fun channel =>
        { channel with queue := channel.queue.add manager.job job }

/-- Pop a job of a channel. -/
def popJob (path : ChannelPath) (now : ℚ) : Option ℕ × ChannelManager :=
  let channel := manager.channel path
  let (popped, jobs, queue) := channel.queue.pop manager.job channel.sequential now
  (popped, { manager.modify path fun channel => { channel with queue := queue } with job := jobs })

/-- Yield jobs while there is capacity, or one of a throttled channel. -/
def yieldJobs (path : ChannelPath) (now : ℚ) : ℕ → ChannelManager → ChannelManager
  | 0, manager => manager
  | fuel + 1, manager =>
      if (manager.channel path).hasCapacity then
        match manager.popJob path now with
        | (none, manager) => manager
        | (some job, manager) =>
            let manager := manager.modify path fun channel =>
              { channel with running := insert job channel.running }
            let manager := deliver job path manager
            let throttle := (manager.channel path).throttle
            if throttle ≠ 0 then
              manager.modify path fun channel => { channel with pauseUntil := now + throttle }
            else yieldJobs path now fuel manager
      else manager

def children (path : ChannelPath) : List ChannelPath :=
  manager.paths.filter fun child => child ≠ [] && child.tail = path

/-- Enqueue the jobs of the children, then yield those of the channel unless it is paused. -/
def yieldSubtree (now : ℚ) : ℕ → ChannelPath → ChannelManager → ChannelManager
  | 0, _, manager => manager
  | fuel + 1, path, manager =>
      let manager :=
        (manager.children path).foldl (fun manager child => yieldSubtree now fuel child manager)
          manager
      let channel := manager.channel path
      if channel.throttle ≠ 0 ∧ channel.pauseUntil ≠ 0 then
        if now < channel.pauseUntil then manager
        else
          let manager := manager.modify path fun channel => { channel with pauseUntil := 0 }
          yieldJobs path now (channel.queue.size + 1) manager
      else yieldJobs path now (channel.queue.size + 1) manager

/-- More than the length of any path. -/
def depth : ℕ := (manager.paths.map List.length).foldr max 0 + 1

def jobOf (uuid : String) : Option ℕ :=
  manager.jobsByUuid.find? fun job => (manager.job job).uuid = uuid

/-- Jobs that nothing refers to any more are forgotten. A job is put into its own channel and the
parents of that only. -/
def collect : ChannelManager :=
  { manager with
    jobsByUuid := manager.jobsByUuid.filter fun job =>
      (manager.job job).channel.tails.any fun path => (manager.channel path).refersTo job }

/-- The nearest parent that exists. -/
def fallbackParent : ChannelPath → ChannelPath
  | [] => []
  | _ :: parent => if parent ∈ manager.paths then parent else fallbackParent parent

/-- Look up or create channels, each in the one before. -/
def createChannels : List String → ChannelPath → ChannelManager → ChannelPath × ChannelManager
  | [], path, manager => (path, manager)
  | name :: names, parent, manager =>
      let path := name :: parent
      if path ∈ manager.paths then createChannels names path manager
      else
        createChannels names path
          { manager with
            paths := manager.paths ++ [path]
            channel := Function.update manager.channel path .new }

/-- The path of a channel name; names are compared component by component. -/
def pathOfName (channelName : String) : ChannelPath :=
  if channelName = "" ∨ channelName = "root" then []
  else
    match split '.' channelName with
    | "root" :: name :: names => (name :: names).reverse
    | names => names.reverse

/-- A channel that does not exist is created with all its names under the nearest parent that
does. -/
def getChannelByName (channelName : String) : ChannelPath × ChannelManager :=
  let path := pathOfName channelName
  if path = [] ∨ path ∈ manager.paths then (path, manager)
  else createChannels path.reverse (manager.fallbackParent path) manager

/-- `get_channel_by_name` with `autocreate`. A channel that does not exist is created in the root.
-/
def autocreate (channelName : String) : ChannelPath × ChannelManager :=
  let path := pathOfName channelName
  if path = [] ∨ path ∈ manager.paths then (path, manager)
  else createChannels path.reverse [] manager

def removeJob (uuid : String) : ChannelManager :=
  match manager.jobOf uuid with
  | none => manager
  | some job =>
      let manager := remove job (manager.job job).channel manager
      { manager with jobsByUuid := manager.jobsByUuid.erase job }

def removeDb (dbName : String) : ChannelManager :=
  (manager.jobsByUuid.filter fun job => (manager.job job).dbName = dbName).foldl
    (fun manager job =>
      let manager := remove job (manager.job job).channel manager
      { manager with jobsByUuid := manager.jobsByUuid.erase job })
    manager

def newJob (path : ChannelPath) (row : Notification) : ChannelManager :=
  { manager with
    job := Function.update manager.job manager.nextJob
      ⟨row.dbName, path, row.uuid, row.seq, row.dateCreated, row.priority, row.eta⟩
    nextJob := manager.nextJob + 1
    jobsByUuid := manager.jobsByUuid ++ [manager.nextJob] }

def transition (job : ℕ) (state : Option JobState) : ChannelManager :=
  let path := (manager.job job).channel
  match state with
  | none | some .done | some .cancelled => remove job path manager
  | some .pending => manager.setPending job path
  | some .enqueued | some .started => setRunning job path manager
  | some .failed => manager.setFailed job path
  | some .waitDependencies => manager

/-- Properties that influence the order of scheduling have changed. -/
def changed (job : ChannelJob) (path : ChannelPath) (row : Notification) : Bool :=
  row.seq ≠ job.seq || row.priority ≠ job.priority || row.eta ≠ job.eta || path ≠ job.channel

def create (path : ChannelPath) (row : Notification) : ChannelManager :=
  (manager.newJob path row).transition manager.nextJob row.state

/-- A row of another database, or with another creation date, raises an error. -/
def notify (row : Notification) : ChannelManager :=
  let (path, manager) := manager.getChannelByName row.channelName
  match manager.jobOf row.uuid with
  | none => manager.create path row
  | some job =>
      if (manager.job job).dbName ≠ row.dbName ∨
          (manager.job job).dateCreated ≠ row.dateCreated then manager
      else if changed (manager.job job) path row then (manager.removeJob row.uuid).create path row
      else manager.transition job row.state

def getJobsToRun (now : ℚ) : ChannelManager := yieldSubtree now manager.depth [] manager

end ChannelManager

end OdooConnector.Queue
