import OdooConnector.Library.History
import OdooConnector.Queue.ServerSteps

/-!
# Jobs that are performed

A request holds the lock of a job while it performs it. What it commits was started and not written
by anybody since, so that no job is committed more often than it was enqueued.
-/

namespace OdooConnector.Queue

/-- The version of the row that the request works on. -/
def Phase.version? : Phase → Option ℕ
  | .waiting version | .performing version => some version
  | .started | .settled | .releasing => none

namespace JobTable

/-- A job is enqueued or started. -/
def isActive (table : JobTable) (uuid : String) : Bool :=
  (table.row uuid).any fun job => job.state = .enqueued || job.state = .started

/-- What a request relies on: it has the lock that it needs, and a row that was not written since is
started. -/
structure Fits (table : JobTable) (request : ℕ) (worker : Worker) : Prop where
  locked : worker.phase.locks → table.lockedBy worker.job.uuid = some request
  seen : ∀ version, worker.phase.version? = some version →
    version ≤ table.version worker.job.uuid
  started : ∀ version, worker.phase.version? = some version →
    version = table.version worker.job.uuid →
      ∃ stored, table.row worker.job.uuid = some stored ∧ stored.state = .started

variable {table before after : JobTable} {request : ℕ} {worker : Worker} {uuid other : String}
  {job : Job}

/-- Whoever has not come to lock a job yet, or has nothing but to look at other jobs, relies on
nothing. -/
theorem fits_of_idle (free : worker.phase.locks = false) (unseen : worker.phase.version? = none) :
    table.Fits request worker where
  locked locks := by simp [free] at locks
  seen version same := by simp [unseen] at same
  started version same := by simp [unseen] at same

theorem Fits.later (fits : before.Fits request worker) (later : Later before after)
    (lockedBy : after.lockedBy worker.job.uuid = before.lockedBy worker.job.uuid) :
    after.Fits request worker where
  locked locks := lockedBy.trans (fits.locked locks)
  seen version same := (fits.seen version same).trans (later.le _)
  started version same fresh := by
    have old := fits.seen version same
    rcases later worker.job.uuid with ⟨row, unchanged⟩ | written
    · rw [row]
      exact fits.started version same (fresh.trans unchanged)
    · exact absurd (fresh ▸ old) written.not_ge

theorem isActive_store : (table.store job).isActive uuid =
    if uuid = job.uuid then
      job.values.state = .enqueued || job.values.state = .started
    else table.isActive uuid := by
  rw [isActive, row_store]
  split_ifs
  · rw [Option.any_some, state_storedValues]
  · rfl

theorem isActive_of_row {stored : StoredJob} (found : table.row uuid = some stored)
    (active : stored.state = .enqueued ∨ stored.state = .started) : table.isActive uuid = true := by
  rw [isActive, found, Option.any_some]
  simpa using active

/-- Storing a job in a state in which it is not performed. -/
theorem isActive_store_le (enqueued : job.values.state ≠ .enqueued)
    (started : job.values.state ≠ .started) :
    (table.store job).isActive uuid ≤ table.isActive uuid := by
  rw [isActive_store]
  split_ifs
  · simp [enqueued, started]
  · exact le_rfl

theorem isActive_updateWhere_le {selects : String → StoredJob → Bool}
    {change : StoredJob → StoredJob}
    (settles : ∀ stored, selects uuid stored → table.row uuid = some stored →
      (change stored).state ≠ .enqueued ∧ (change stored).state ≠ .started) :
    (table.updateWhere selects change).isActive uuid ≤ table.isActive uuid := by
  rw [isActive, row_updateWhere, isActive]
  cases found : table.row uuid with
  | none => exact le_rfl
  | some stored =>
      rw [Option.map_some, Option.any_some]
      split_ifs with selected
      · obtain ⟨enqueued, started⟩ := settles stored selected found
        simp [enqueued, started]
      · exact le_rfl

end JobTable

namespace JobServer

open JobTable

/-- Every request can rely on what it needs. -/
def Guarded (server : JobServer) : Prop :=
  ∀ request worker, server.worker request = some worker → server.table.Fits request worker

/-- The job is done, and the request comes to look at the jobs that depend on it. -/
def releases (server : JobServer) (request : ℕ) (uuid : String) : Bool :=
  (server.worker request).any fun worker => worker.phase = .releasing && worker.job.uuid = uuid

/-- A request commits the job as done. -/
def commits (uuid : String) (server : JobServer) : ServerAction → Bool
  | .perform request outcome around =>
      !server.releases request uuid &&
        (server.step (.perform request outcome around)).releases request uuid
  | _ => false

/-- The runner enqueues the job. -/
def enqueues (uuid : String) (_ : JobServer) : ServerAction → Bool
  | .setJobEnqueued _ other => other = uuid
  | _ => false

/-- The row of the job was not written since the request got to know that it is started. -/
def IsFresh (server : JobServer) (worker : Worker) : Prop :=
  worker.phase.version? = some (server.table.version worker.job.uuid)

variable {server : JobServer} {request : ℕ} {worker : Option Worker} {table : JobTable}
  {uuid : String} {job : Job}

theorem guarded_start : start.Guarded := by
  intro request worker found
  cases found

/-- A request takes the next step on a table that suits all others. -/
theorem guarded_setWorker {next : Worker} (others : ∀ other worker, other ≠ request →
      server.worker other = some worker → server.table.Fits other worker)
    (own : server.table.Fits request next) : (server.setWorker request (some next)).Guarded := by
  intro other worker found
  rw [worker_setWorker] at found
  split_ifs at found with same
  · obtain rfl := Option.some_inj.mp found
    exact same ▸ own
  · exact others other worker same found

theorem guarded_finish (others : ∀ other worker, other ≠ request →
      server.worker other = some worker → server.table.Fits other worker) :
    (server.setWorker request none).Guarded := by
  intro other worker found
  rw [worker_setWorker] at found
  split_ifs at found with same
  exact others other worker same found

theorem Guarded.withTable (guarded : server.Guarded) (later : Later server.table table)
    (lockedBy : table.lockedBy = server.table.lockedBy) :
    (server.withTable table).Guarded := fun request worker found =>
  (guarded request worker found).later later (congrFun lockedBy _)

/-- The lock that is given back is nobody else's. -/
theorem Guarded.unlock (guarded : server.Guarded) {old : Worker}
    (found : server.worker request = some old) (locks : old.phase.locks) (other : ℕ)
    (worker : Worker) (ne : other ≠ request) (busy : server.worker other = some worker) :
    (server.unlock old.job.uuid).table.Fits other worker := by
  have fits := guarded other worker busy
  refine ⟨fun needs => ?_, fits.seen, fits.started⟩
  have own := (guarded request old found).locked locks
  have theirs := fits.locked needs
  have differ : worker.job.uuid ≠ old.job.uuid := by
    intro same
    rw [same, own] at theirs
    exact ne (Option.some_inj.mp theirs).symm
  exact (Function.update_of_ne differ _ _).trans theirs

theorem later_changeToDone (now : ℚ) (result : Option String) :
    Later table (table.changeToDone now uuid result) := by
  rw [changeToDone]
  split
  · exact (later_store _).trans (later_updateWhere _ _)
  · exact .refl _

theorem later_changeToCancelled (now : ℚ) (result : Option String) :
    Later table (table.changeToCancelled now uuid result) := by
  rw [changeToCancelled]
  split
  · exact (later_store _).trans (later_updateWhere _ _)
  · exact .refl _

theorem later_changeToPending (result : Option String) :
    Later table (table.changeToPending uuid result) := by
  rw [changeToPending]
  split
  · exact later_store _
  · exact .refl _

theorem later_foldl_store (jobs : List Job) : Later table (jobs.foldl JobTable.store table) := by
  induction jobs generalizing table with
  | nil => exact .refl _
  | cons job jobs induction => exact (later_store job).trans induction

/-- Every step leaves a row as it is, or gives it another version. -/
theorem Moves.later {action : ServerAction} {after : JobServer}
    (moves : server.Moves action after) :
    Later server.table after.table := by
  cases moves with
  | idle => exact .refl _
  | delay new => exact later_foldl_store _
  | setJobEnqueued => exact later_updateWhere _ _
  | requeueDeadJobs => exact later_updateWhere _ _
  | begin free found enqueued loaded => exact later_store _
  | wait worker started => exact .refl _
  | giveUp own found early => exact later_store _
  | lock worker free => exact .refl _
  | commit worker same fresh => exact later_store _
  | abandon worker => exact .refl _
  | postpone worker same => exact later_store _
  | fail worker same same' state => exact later_store _
  | close worker => exact .refl _
  | release worker => exact later_updateWhere _ _
  | crash found => split_ifs <;> exact .refl _
  | changeToDone => exact later_changeToDone _ _
  | changeToCancelled => exact later_changeToCancelled _ _
  | changeToPending moves => exact later_changeToPending _
  | autovacuum => exact later_write

theorem lockedBy_foldl_store (jobs : List Job) :
    (jobs.foldl JobTable.store table).lockedBy = table.lockedBy := by
  induction jobs generalizing table with
  | nil => rfl
  | cons job jobs induction => exact induction

theorem lockedBy_changeToDone (now : ℚ) (result : Option String) :
    (table.changeToDone now uuid result).lockedBy = table.lockedBy := by
  rw [changeToDone]
  split <;> rfl

theorem lockedBy_changeToCancelled (now : ℚ) (result : Option String) :
    (table.changeToCancelled now uuid result).lockedBy = table.lockedBy := by
  rw [changeToCancelled]
  split <;> rfl

theorem lockedBy_changeToPending (result : Option String) :
    (table.changeToPending uuid result).lockedBy = table.lockedBy := by
  rw [changeToPending]
  split <;> rfl

/-- The other requests after a step that leaves the locks alone. -/
theorem Guarded.others (guarded : server.Guarded) {after : JobServer}
    (later : Later server.table after.table)
    (lockedBy : after.table.lockedBy = server.table.lockedBy)
    (busy : after.worker = server.worker) (other : ℕ) (worker : Worker) (_ : other ≠ request)
    (found : after.worker other = some worker) : after.table.Fits other worker :=
  (guarded other worker (busy ▸ found)).later later (congrFun lockedBy _)

/-- The request that stores its job keeps the lock. -/
theorem Guarded.settled (guarded : server.Guarded) {old : Worker}
    (found : server.worker request = some old) (locks : old.phase.locks)
    (same : job.links = old.job.links) (lockedBy : table.lockedBy = server.table.lockedBy) :
    table.Fits request ⟨job, .settled⟩ where
  locked _ := by
    rw [lockedBy, Job.uuid_eq_of_links same]
    exact (guarded request old found).locked locks
  seen version same := by cases same
  started version same := by cases same

/-- No step takes from a request what it relies on. -/
theorem Guarded.step (guarded : server.Guarded) (action : ServerAction) :
    (server.step action).Guarded := by
  have moves := server.moves_step action
  generalize server.step action = after at moves
  cases moves with
  | idle => exact guarded
  | delay new => exact guarded.withTable (later_foldl_store _) (lockedBy_foldl_store _)
  | setJobEnqueued => exact guarded.withTable (later_updateWhere _ _) rfl
  | requeueDeadJobs => exact guarded.withTable (later_updateWhere _ _) rfl
  | begin free found enqueued loaded =>
      exact guarded_setWorker (guarded.others (later_store _) rfl rfl) (fits_of_idle rfl rfl)
  | wait worker started =>
      refine guarded_setWorker (guarded.others (.refl _) rfl rfl) ⟨nofun, ?_, ?_⟩
      · intro version same
        exact (Option.some_inj.mp same).ge
      · intro version _ _
        exact isIn_iff.mp started
  | giveUp own found early => exact guarded_finish (guarded.others (later_store _) rfl rfl)
  | @lock request around job version worker free =>
      have own := guarded _ _ worker
      refine guarded_setWorker (fun other next ne found => ?_)
        ⟨fun _ => Function.update_self _ _ _, own.seen, own.started⟩
      have fits := guarded other next found
      refine ⟨fun needs => ?_, fits.seen, fits.started⟩
      have theirs := fits.locked needs
      have differ : next.job.uuid ≠ job.uuid := fun same => by simp [← same, theirs] at free
      exact (Function.update_of_ne differ _ _).trans theirs
  | @commit request outcome around loaded job version result worker same fresh =>
      rw [commitDone, Job.uuid_eq_of_links same]
      have stored :
          (server.withTable (server.table.store (job.setDone around.now result))).Guarded :=
        guarded.withTable (later_store _) rfl
      exact guarded_setWorker (stored.unlock worker rfl) (fits_of_idle rfl rfl)
  | abandon worker => exact guarded_finish (guarded.unlock worker rfl)
  | postpone worker same =>
      exact guarded_setWorker (guarded.others (later_store _) rfl rfl)
        (guarded.settled worker rfl same rfl)
  | fail worker same same' state =>
      exact guarded_setWorker (guarded.others (later_store _) rfl rfl)
        (guarded.settled worker rfl same rfl)
  | close worker => exact guarded_finish (guarded.unlock worker rfl)
  | release worker => exact guarded_finish (guarded.others (later_updateWhere _ _) rfl rfl)
  | crash found =>
      split_ifs with locks
      · exact guarded_finish (guarded.unlock found locks)
      · exact guarded_finish (guarded.others (.refl _) rfl rfl)
  | changeToDone =>
      exact guarded.withTable (later_changeToDone _ _) (lockedBy_changeToDone _ _)
  | changeToCancelled =>
      exact guarded.withTable (later_changeToCancelled _ _) (lockedBy_changeToCancelled _ _)
  | changeToPending moves =>
      exact guarded.withTable (later_changeToPending _) (lockedBy_changeToPending _)
  | autovacuum => exact guarded.withTable later_write rfl

theorem guarded_runSteps (actions : List ServerAction) : (runSteps step start actions).Guarded :=
  runSteps_preserves (fun _ action guarded => guarded.step action) guarded_start

/-- In every run no two requests have locked the same job, and a job whose row nobody has written
since its request got to know that it is started is still started. -/
theorem performed_alone (actions : List ServerAction) :
    let server := runSteps step start actions
    (∀ first second worker other, server.worker first = some worker →
      server.worker second = some other → worker.phase.locks → other.phase.locks →
      worker.job.uuid = other.job.uuid → first = second) ∧
    ∀ request worker, server.worker request = some worker → server.IsFresh worker →
      server.isIn worker.job.uuid .started := by
  have guarded := guarded_runSteps actions
  constructor
  · intro first second worker other found found' locks locks' same
    have own := (guarded first worker found).locked locks
    have theirs := (guarded second other found').locked locks'
    rw [same, theirs] at own
    exact (Option.some_inj.mp own).symm
  · intro request worker found fresh
    exact isIn_iff.mpr ((guarded request worker found).started _ fresh rfl)

theorem isActive_enqueueWaiting_le (other : String) :
    (table.enqueueWaiting other).isActive uuid ≤ table.isActive uuid := by
  refine isActive_updateWhere_le fun stored _ _ => ?_
  exact ⟨nofun, nofun⟩

theorem isActive_cancelDependentJobs_le (other : String) :
    (table.cancelDependentJobs other).isActive uuid ≤ table.isActive uuid := by
  refine isActive_updateWhere_le fun stored _ _ => ?_
  exact ⟨nofun, nofun⟩

theorem isActive_changeToDone_le (now : ℚ) (other : String) (result : Option String) :
    (table.changeToDone now other result).isActive uuid ≤ table.isActive uuid := by
  rw [changeToDone]
  split
  · exact (isActive_enqueueWaiting_le _).trans (isActive_store_le nofun nofun)
  · exact le_rfl

theorem isActive_changeToCancelled_le (now : ℚ) (other : String) (result : Option String) :
    (table.changeToCancelled now other result).isActive uuid ≤ table.isActive uuid := by
  rw [changeToCancelled]
  split
  · exact (isActive_cancelDependentJobs_le _).trans (isActive_store_le nofun nofun)
  · exact le_rfl

theorem isActive_setPending_le (result : Option String) (resetRetry : Bool) :
    (table.store (job.setPending result resetRetry)).isActive uuid ≤ table.isActive uuid := by
  obtain ⟨enqueued, started, -⟩ := job.setPending_state result resetRetry
  exact isActive_store_le enqueued started

theorem isActive_changeToPending_le (other : String) (result : Option String) :
    (table.changeToPending other result).isActive uuid ≤ table.isActive uuid := by
  rw [changeToPending]
  split
  · exact isActive_setPending_le _ _
  · exact le_rfl

theorem isActive_requeueDeadJobs_le (now : ℚ) :
    (table.requeueDeadJobs now).isActive uuid ≤ table.isActive uuid := by
  refine isActive_updateWhere_le fun stored _ _ => ?_
  dsimp only
  split_ifs <;> exact ⟨nofun, nofun⟩

theorem isActive_autovacuum_le (now : ℚ) (channels : List VacuumedChannel) :
    (table.autovacuum now channels).isActive uuid ≤ table.isActive uuid := by
  rw [isActive, autovacuum, row_write]
  cases found : table.row uuid with
  | none => exact bot_le
  | some stored =>
      rw [Option.filter]
      split_ifs
      · exact bot_le
      · rw [isActive, found]
        exact le_rfl

/-- The jobs of a new graph are pending or wait. -/
theorem isActive_foldl_store_le {jobs : List Job}
    (waits : ∀ job ∈ jobs, job.values.state ≠ .enqueued ∧ job.values.state ≠ .started) :
    (jobs.foldl JobTable.store table).isActive uuid ≤ table.isActive uuid := by
  induction jobs generalizing table with
  | nil => exact le_rfl
  | cons job jobs induction =>
      rw [List.forall_mem_cons] at waits
      exact (induction waits.2).trans (isActive_store_le waits.1.1 waits.1.2)

theorem NewGraph.waits (graph : NewGraph) {job : Job} (member : job ∈ graph.jobs) :
    job.values.state ≠ .enqueued ∧ job.values.state ≠ .started := by
  rw [graph.state job member]
  split_ifs <;> exact ⟨nofun, nofun⟩

/-- A step that settles jobs at most and commits none. -/
theorem balance_of_le {action : ServerAction} {after : JobServer}
    (none : commits uuid server action = false)
    (settles : after.table.isActive uuid ≤ server.table.isActive uuid) :
    (commits uuid server action).toNat + (after.table.isActive uuid).toNat ≤
      (enqueues uuid server action).toNat + (server.table.isActive uuid).toNat := by
  have less := Bool.toNat_le_toNat settles
  rw [none, Bool.toNat_false]
  omega

theorem commits_eq_false {outcome : MethodOutcome} {around : Surroundings} {after : JobServer}
    (step : server.step (.perform request outcome around) = after)
    (next : ∀ worker, after.worker request = some worker →
      worker.phase = .releasing → worker.job.uuid ≠ uuid) :
    commits uuid server (.perform request outcome around) = false := by
  rw [commits, step, Bool.and_eq_false_iff, releases, releases, Option.any_eq_false]
  right
  intro worker found
  rw [← Bool.not_eq_true, Bool.and_eq_true, decide_eq_true_eq, decide_eq_true_eq]
  exact fun both => next worker found both.1 both.2

/-- Where a request commits a job, this was started, and is not any more. All other steps but those
of the runner leave it as it is or settle it. -/
theorem balance_commits (guarded : server.Guarded) (action : ServerAction) :
    (commits uuid server action).toNat + ((server.step action).table.isActive uuid).toNat ≤
      (enqueues uuid server action).toNat + (server.table.isActive uuid).toNat := by
  have moves := server.moves_step action
  generalize step : server.step action = after at moves
  cases moves with
  | idle =>
      refine balance_of_le ?_ le_rfl
      cases action <;> simp [commits, step]
  | delay new => exact balance_of_le rfl (isActive_foldl_store_le fun job => NewGraph.waits _)
  | @setJobEnqueued now other =>
      by_cases own : other = uuid
      · have once := Bool.toNat_le ((server.table.setJobEnqueued now other).isActive uuid)
        have paid : enqueues uuid server (.setJobEnqueued now other) = true := decide_eq_true own
        have none : commits uuid server (.setJobEnqueued now other) = false := rfl
        rw [paid, none, Bool.toNat_true, Bool.toNat_false, Nat.zero_add]
        exact once.trans (Nat.le_add_right _ _)
      · exact balance_of_le rfl (isActive_updateWhere_le fun stored selected _ =>
          absurd (of_decide_eq_true selected).symm own)
  | requeueDeadJobs => exact balance_of_le rfl (isActive_requeueDeadJobs_le _)
  | @begin request other now stored job free found enqueued loaded =>
      refine balance_of_le rfl ?_
      have active := isActive_of_row found (.inl enqueued)
      have loads : job.uuid = other := uuid_load loaded
      refine isActive_store.trans_le ?_
      split_ifs with own
      · have same : uuid = other := own.trans loads
        rw [same, active]
        exact le_top
      · exact le_rfl
  | wait worker started => exact balance_of_le rfl le_rfl
  | giveUp own found early =>
      refine balance_of_le ?_ (isActive_setPending_le _ _)
      rcases own with rfl | rfl <;> rfl
  | lock worker free => exact balance_of_le rfl le_rfl
  | @commit request outcome around loaded job version result worker same fresh =>
      by_cases own : uuid = job.uuid
      · have links := Job.uuid_eq_of_links same
        obtain ⟨stored, found, started⟩ := (guarded request _ worker).started version rfl
          (links ▸ fresh).symm
        have before := isActive_of_row (links ▸ found) (.inr started)
        have after :
            (server.commitDone request job around.now result).table.isActive uuid = false :=
          isActive_store.trans (if_pos own)
        have once := Bool.toNat_le (commits uuid server (.perform request outcome around))
        have free : enqueues uuid server (.perform request outcome around) = false := rfl
        rw [← own] at before
        rw [after, free, before, Bool.toNat_false, Bool.toNat_true, Nat.zero_add, Nat.add_zero]
        exact once
      · refine balance_of_le (commits_eq_false step ?_) ?_
        · intro worker found _
          simp only [commitDone, worker_setWorker, if_true, Option.some_inj] at found
          exact found ▸ Ne.symm own
        · exact isActive_store.trans_le (if_neg own).le
  | abandon worker =>
      refine balance_of_le (commits_eq_false step ?_) le_rfl
      intro worker found
      simp [worker_setWorker] at found
  | postpone worker same =>
      refine balance_of_le (commits_eq_false step ?_) (isActive_setPending_le _ _)
      intro worker found
      simp only [worker_setWorker, if_true, Option.some_inj] at found
      exact found ▸ nofun
  | fail worker same same' state =>
      refine balance_of_le (commits_eq_false step ?_) (isActive_store_le ?_ ?_)
      · intro worker found
        simp only [worker_setWorker, if_true, Option.some_inj] at found
        exact found ▸ nofun
      · simp [state]
      · simp [state]
  | close worker => exact balance_of_le rfl le_rfl
  | release worker => exact balance_of_le rfl (isActive_enqueueWaiting_le _)
  | crash found =>
      refine balance_of_le rfl ?_
      split_ifs <;> exact le_rfl
  | changeToDone => exact balance_of_le rfl (isActive_changeToDone_le _ _ _)
  | changeToCancelled => exact balance_of_le rfl (isActive_changeToCancelled_le _ _ _)
  | changeToPending moves => exact balance_of_le rfl (isActive_changeToPending_le _ _)
  | autovacuum => exact balance_of_le rfl (isActive_autovacuum_le _ _)

/-- In every run requests commit a job as done at most as often as the runner enqueued it. -/
theorem commits_le_enqueues (uuid : String) (actions : List ServerAction) :
    countSteps step (commits uuid) start actions ≤
      countSteps step (enqueues uuid) start actions := by
  have balanced := @countSteps_le _ _ step start actions Guarded (commits uuid) (enqueues uuid)
    (fun server => (server.table.isActive uuid).toNat) (fun _ action guarded => guarded.step action)
    (fun _ action guarded => balance_commits guarded action) guarded_start
  exact (Nat.le_add_right _ _).trans balanced

end JobServer

end OdooConnector.Queue
