import OdooConnector.Queue.RunJob

/-!
# What the steps of the server do

Every step that does something is one of a few moves. No method of a job changes its origin, or how
it is connected with other jobs.
-/

namespace OdooConnector.Queue

/-! ### Jobs in memory -/

/-- What a job has got for good when it was created. -/
structure JobOrigin where
  channel : String
  dateCreated : ℚ

def StoredJob.origin (stored : StoredJob) : JobOrigin := ⟨stored.channel, stored.dateCreated⟩

/-- The origin of a job, and what connects it with others. -/
structure Job.Links where
  uuid : String
  origin : JobOrigin
  graphUuid : Option String
  dependsOn : List String
  reverseDependsOn : List String
  parents : List (String × JobState)
  children : List String

namespace Job

variable (job : Job) (now : ℚ)

def links : Links where
  uuid := job.uuid
  origin := job.values.origin
  graphUuid := job.values.graphUuid
  dependsOn := job.values.dependsOn
  reverseDependsOn := job.values.reverseDependsOn
  parents := job.parents
  children := job.children

@[simp]
theorem links_setPending (result : Option String) (resetRetry : Bool) :
    (job.setPending result resetRetry).links = job.links := rfl

@[simp]
theorem links_setStarted : (job.setStarted now).links = job.links := rfl

@[simp]
theorem links_setDone (result : Option String) : (job.setDone now result).links = job.links := rfl

@[simp]
theorem links_setCancelled (result : Option String) :
    (job.setCancelled now result).links = job.links := rfl

@[simp]
theorem links_setFailed (excName excMessage excInfo : String) :
    (job.setFailed excName excMessage excInfo).links = job.links := rfl

@[simp]
theorem links_postpone (randint : ℤ → ℤ → ℤ) (pattern : RetryPattern) (result : String)
    (seconds : Option ℚ) :
    (job.postpone now randint pattern result seconds).links = job.links := rfl

@[simp]
theorem links_perform (outcome : MethodOutcome) : (job.perform outcome).1.links = job.links := by
  cases outcome with
  | returns result => rfl
  | nothingToDo message => rfl
  | retryable message seconds ignoreRetry =>
      rw [perform]
      split_ifs <;> rfl
  | concurrency message => rfl
  | raises excName excMessage => rfl

variable {job} {other : Job}

theorem uuid_eq_of_links (same : job.links = other.links) : job.uuid = other.uuid :=
  congrArg Links.uuid same

@[simp]
theorem uuid_perform (outcome : MethodOutcome) : (job.perform outcome).1.uuid = job.uuid :=
  uuid_eq_of_links (links_perform job outcome)

end Job

/-! ### Moves -/

/-- The request waits for its turn to perform the job. -/
def Phase.early : Phase → Bool
  | .started | .waiting _ => true
  | .performing _ | .settled | .releasing => false

namespace JobServer

variable (server : JobServer)

inductive Moves : ServerAction → JobServer → Prop
  | idle {action} : Moves action server
  | delay {graph} (new : server.isNew graph) :
      Moves (.delay graph) (server.withTable (graph.jobs.foldl JobTable.store server.table))
  | setJobEnqueued {now uuid} :
      Moves (.setJobEnqueued now uuid) (server.withTable (server.table.setJobEnqueued now uuid))
  | requeueDeadJobs {now} :
      Moves (.requeueDeadJobs now) (server.withTable (server.table.requeueDeadJobs now))
  | begin {request uuid now stored job} (free : server.worker request = none)
      (found : server.table.row uuid = some stored) (enqueued : stored.state = .enqueued)
      (loaded : server.table.load uuid = some job) :
      Moves (.runjob request uuid now)
        ({ server with
          table := (server.table.addLockRecord uuid).store
            (server.table.read (job.setStarted now)) }.setWorker request
          (some ⟨server.table.read (job.setStarted now), .started⟩))
  | wait {request around job} (worker : server.worker request = some ⟨job, .started⟩)
      (started : server.isIn job.uuid .started) :
      Moves (.attemptLock request around)
        (server.setWorker request (some ⟨job, .waiting (server.table.version job.uuid)⟩))
  | giveUp {action request around worker message seconds}
      (own : action = .attemptLock request around ∨ action = .acquireLock request around)
      (found : server.worker request = some worker) (early : worker.phase.early) :
      Moves action ((server.retryPostpone worker.job around message seconds).setWorker request none)
  | lock {request around job version}
      (worker : server.worker request = some ⟨job, .waiting version⟩)
      (free : server.table.lockedBy job.uuid = none) :
      Moves (.acquireLock request around)
        ({ server with table := server.table.setLocked job.uuid (some request) }.setWorker request
          (some ⟨job, .performing version⟩))
  | commit {request outcome around loaded job version result}
      (worker : server.worker request = some ⟨loaded, .performing version⟩)
      (same : job.links = loaded.links) (fresh : server.table.version job.uuid = version) :
      Moves (.perform request outcome around) (server.commitDone request job around.now result)
  | abandon {request outcome around job version}
      (worker : server.worker request = some ⟨job, .performing version⟩) :
      Moves (.perform request outcome around) ((server.unlock job.uuid).setWorker request none)
  | postpone {request outcome around loaded job version message seconds}
      (worker : server.worker request = some ⟨loaded, .performing version⟩)
      (same : job.links = loaded.links) :
      Moves (.perform request outcome around)
        ((server.retryPostpone job around message seconds).setWorker request (some ⟨job, .settled⟩))
  | fail {request outcome around loaded job failed version}
      (worker : server.worker request = some ⟨loaded, .performing version⟩)
      (same : job.links = loaded.links) (same' : failed.links = loaded.links)
      (state : failed.values.state = .failed) :
      Moves (.perform request outcome around)
        ({ server with table := server.table.store failed }.setWorker request
          (some ⟨job, .settled⟩))
  | close {request job} (worker : server.worker request = some ⟨job, .settled⟩) :
      Moves (.close request) ((server.unlock job.uuid).setWorker request none)
  | release {request job} (worker : server.worker request = some ⟨job, .releasing⟩) :
      Moves (.enqueueDependentJobs request)
        ({ server with table := server.table.enqueueWaiting job.uuid }.setWorker request none)
  | crash {request worker} (found : server.worker request = some worker) :
      Moves (.crash request)
        ((if worker.phase.locks then server.unlock worker.job.uuid else server).setWorker request
          none)
  | changeToDone {now user uuid result} :
      Moves (.buttonDone now user uuid)
        (server.withTable (server.table.changeToDone now uuid result))
  | changeToCancelled {now user uuid result} :
      Moves (.buttonCancelled now user uuid)
        (server.withTable (server.table.changeToCancelled now uuid result))
  | changeToPending {uuid result} (moves : ¬ server.isIn uuid .waitDependencies) :
      Moves (.requeue uuid) (server.withTable (server.table.changeToPending uuid result))
  | autovacuum {now channels} :
      Moves (.autovacuum now channels) (server.withTable (server.table.autovacuum now channels))

variable {server}

theorem isIn_iff {uuid : String} {state : JobState} :
    server.isIn uuid state ↔ server.table.InState uuid state := by
  rw [isIn, Option.any_eq_true]
  simp only [decide_eq_true_eq]
  rfl

theorem worker_setWorker {request : ℕ} {worker : Option Worker} (other : ℕ) :
    (server.setWorker request worker).worker other =
      if other = request then worker else server.worker other :=
  Function.update_apply _ _ _ _

theorem moves_runjob (request : ℕ) (uuid : String) (now : ℚ) :
    server.Moves (.runjob request uuid now) (server.runjob request uuid now) := by
  rw [runjob]
  split
  · rename_i job free enqueued loaded
    obtain ⟨stored, found, state⟩ := isIn_iff.mp enqueued
    exact .begin free found state loaded
  · exact .idle

theorem moves_attemptLock (request : ℕ) (around : Surroundings) :
    server.Moves (.attemptLock request around) (server.attemptLock request around) := by
  rw [attemptLock]
  split
  · rename_i job worker
    split
    · rename_i locks
      rw [Bool.and_eq_true] at locks
      exact .wait worker locks.1
    · exact .giveUp (.inl rfl) worker rfl
  · exact .idle

theorem moves_acquireLock (request : ℕ) (around : Surroundings) :
    server.Moves (.acquireLock request around) (server.acquireLock request around) := by
  rw [acquireLock]
  split
  · rename_i job version worker
    split_ifs with gone free
    · exact .giveUp (.inr rfl) worker rfl
    · exact .lock worker free
    · exact .idle
  · exact .idle

theorem moves_perform (request : ℕ) (outcome : MethodOutcome) (around : Surroundings) :
    server.Moves (.perform request outcome around) (server.perform request outcome around) := by
  rw [perform]
  split
  · rename_i loaded version worker
    have same := Job.links_perform loaded outcome
    have uuid := @Job.uuid_perform loaded outcome
    dsimp only
    split
    · split_ifs with fresh
      · exact .commit worker same fresh
      · exact .postpone worker same
    · split_ifs with fresh
      · exact .commit worker same fresh
      · rw [uuid]
        exact .abandon worker
    · exact .postpone worker same
    · exact .fail worker same ((Job.links_setFailed _ _ _ _).trans same) rfl
  · exact .idle

theorem moves_close (request : ℕ) :
    server.Moves (.close request) (server.close request) := by
  rw [close]
  split
  · exact .close ‹_›
  · exact .idle

theorem moves_enqueueDependentJobs (request : ℕ) :
    server.Moves (.enqueueDependentJobs request) (server.enqueueDependentJobs request) := by
  rw [enqueueDependentJobs]
  split
  · exact .release ‹_›
  · exact .idle

theorem moves_crash (request : ℕ) : server.Moves (.crash request) (server.crash request) := by
  rw [crash]
  split
  · rename_i job phase worker
    exact .crash worker
  · exact .idle

theorem moves_requeue (uuid : String) :
    server.Moves (.requeue uuid) (server.withTable (server.table.requeue [uuid])) := by
  rw [JobTable.requeue, List.filter_cons, List.filter_nil]
  split_ifs with requeued
  · refine .changeToPending fun waits => ?_
    obtain ⟨stored, found, state⟩ := isIn_iff.mp waits
    simp [found, state] at requeued
  · exact .idle

theorem moves_step (action : ServerAction) : server.Moves action (server.step action) := by
  cases action with
  | delay graph =>
      rw [step]
      split_ifs with new
      · exact .delay new
      · exact .idle
  | setJobEnqueued now uuid => exact .setJobEnqueued
  | requeueDeadJobs now => exact .requeueDeadJobs
  | runjob request uuid now => exact moves_runjob request uuid now
  | attemptLock request around => exact moves_attemptLock request around
  | acquireLock request around => exact moves_acquireLock request around
  | perform request outcome around => exact moves_perform request outcome around
  | close request => exact moves_close request
  | enqueueDependentJobs request => exact moves_enqueueDependentJobs request
  | crash request => exact moves_crash request
  | buttonDone now user uuid => exact .changeToDone
  | buttonCancelled now user uuid => exact .changeToCancelled
  | requeue uuid => exact moves_requeue uuid
  | autovacuum now channels => exact .autovacuum

theorem worker_of_setWorker {request own : ℕ} {next : Option Worker} {worker : Worker}
    (found : (server.setWorker own next).worker request = some worker) :
    (request = own ∧ next = some worker) ∨ server.worker request = some worker := by
  rw [worker_setWorker] at found
  split_ifs at found with same
  · exact .inl ⟨same, found⟩
  · exact .inr found

/-- Whatever a request works on, it worked on before, or has found enqueued. -/
theorem Moves.worker_cases {action : ServerAction} {after : JobServer}
    (moves : server.Moves action after) {request : ℕ} {worker : Worker}
    (found : after.worker request = some worker) :
    (∃ old, server.worker request = some old ∧ worker.job.links = old.job.links) ∨
      ∃ uuid stored job, server.table.row uuid = some stored ∧ stored.state = .enqueued ∧
        server.table.load uuid = some job ∧ worker.job.links = (server.table.read job).links := by
  have keeps {server : JobServer} {own : ℕ} {old next : Worker}
      (found : (server.setWorker own (some next)).worker request = some worker)
      (before : server.worker own = some old) (same : next.job.links = old.job.links) :
      ∃ old, server.worker request = some old ∧ worker.job.links = old.job.links := by
    rcases worker_of_setWorker found with ⟨rfl, here⟩ | found
    · exact ⟨old, before, Option.some_inj.mp here ▸ same⟩
    · exact ⟨worker, found, rfl⟩
  have ends {server : JobServer} {own : ℕ}
      (found : (server.setWorker own none).worker request = some worker) :
      ∃ old, server.worker request = some old ∧ worker.job.links = old.job.links := by
    rcases worker_of_setWorker found with ⟨-, here⟩ | found
    · cases here
    · exact ⟨worker, found, rfl⟩
  cases moves with
  | begin free row enqueued loaded =>
      rcases worker_of_setWorker found with ⟨rfl, here⟩ | found
      · obtain rfl := Option.some_inj.mp here
        exact .inr ⟨_, _, _, row, enqueued, loaded, rfl⟩
      · exact .inl ⟨worker, found, rfl⟩
  | wait before started => exact .inl (keeps found before rfl)
  | giveUp own before early => exact .inl (ends found)
  | lock before free => exact .inl (keeps found before rfl)
  | commit before same fresh => exact .inl (keeps found before same)
  | abandon before => exact .inl (ends found)
  | postpone before same => exact .inl (keeps found before same)
  | fail before same same' state => exact .inl (keeps found before same)
  | close before => exact .inl (ends found)
  | release before => exact .inl (ends found)
  | crash before =>
      left
      split_ifs at found
      · exact ends found
      · exact ends found
  | idle => exact .inl ⟨worker, found, rfl⟩
  | delay new => exact .inl ⟨worker, found, rfl⟩
  | setJobEnqueued => exact .inl ⟨worker, found, rfl⟩
  | requeueDeadJobs => exact .inl ⟨worker, found, rfl⟩
  | changeToDone => exact .inl ⟨worker, found, rfl⟩
  | changeToCancelled => exact .inl ⟨worker, found, rfl⟩
  | changeToPending moves => exact .inl ⟨worker, found, rfl⟩
  | autovacuum => exact .inl ⟨worker, found, rfl⟩

end JobServer

end OdooConnector.Queue
