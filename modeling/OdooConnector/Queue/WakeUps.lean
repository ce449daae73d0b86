import Mathlib.Logic.Relation
import OdooConnector.Queue.JobLinks

/-!
# Jobs that wait for others

A job that waits is woken up by the last of the jobs that it depends on, which the request does in a
transaction of its own. Where that is not lost, no waiting job is forgotten.
-/

namespace OdooConnector.Queue

namespace JobTable

variable (table : JobTable)

/-- The job depends on one that is there and not done. -/
def HasUndone (child : String) : Prop :=
  ∃ parent, table.Depends child parent ∧ ¬ table.InState parent .done

/-- The states of a job's parents are not worse than when they were read: where one of them was not
done, one is not done now. -/
def UpToDate (job : Job) : Prop := (table.read job).ready = false → table.HasUndone job.uuid

/-- The jobs that an `autovacuum` deletes. -/
def Vacuums (now : ℚ) (channels : List VacuumedChannel) (uuid : String) : Prop :=
  (table.row uuid).isSome ∧ ((table.autovacuum now channels).row uuid).isNone

/-- No job begins to wait, and none is done. -/
structure Calm (before after : JobTable) : Prop where
  waits : ∀ uuid, after.InState uuid .waitDependencies → before.InState uuid .waitDependencies
  settles : ∀ uuid, after.InState uuid .done → before.InState uuid .done

variable {table} {before middle after : JobTable} {uuid child parent : String} {job : Job}

theorem Calm.refl (table : JobTable) : Calm table table := ⟨fun _ => id, fun _ => id⟩

theorem Calm.trans (front : Calm before middle) (back : Calm middle after) : Calm before after :=
  ⟨fun uuid waits => front.waits uuid (back.waits uuid waits),
    fun uuid settles => front.settles uuid (back.settles uuid settles)⟩

theorem calm_of_eq (row : after.row = before.row) : Calm before after := by
  refine ⟨fun uuid waits => ?_, fun uuid settles => ?_⟩
  · rwa [InState, ← row]
  · rwa [InState, ← row]

theorem calm_store (waits : job.values.state ≠ .waitDependencies)
    (settles : job.values.state ≠ .done) : Calm table (table.store job) := by
  constructor
  · intro uuid after
    rw [inState_store] at after
    split_ifs at after
    · exact absurd after waits
    · exact after
  · intro uuid after
    rw [inState_store] at after
    split_ifs at after
    · exact absurd after settles
    · exact after

theorem calm_updateWhere {selects : String → StoredJob → Bool} {change : StoredJob → StoredJob}
    (waits : ∀ stored, (change stored).state ≠ .waitDependencies)
    (settles : ∀ stored, (change stored).state ≠ .done) :
    Calm table (table.updateWhere selects change) := by
  constructor
  · intro uuid after
    obtain ⟨stored, found, same, -⟩ := inState_updateWhere (fun stored _ => waits stored) after
    exact ⟨stored, found, same⟩
  · intro uuid after
    obtain ⟨stored, found, same, -⟩ := inState_updateWhere (fun stored _ => settles stored) after
    exact ⟨stored, found, same⟩

theorem calm_enqueueWaiting (uuid : String) : Calm table (table.enqueueWaiting uuid) := by
  refine calm_updateWhere (fun stored => ?_) fun stored => ?_
  · exact nofun
  · exact nofun

theorem calm_autovacuum (now : ℚ) (channels : List VacuumedChannel) :
    Calm table (table.autovacuum now channels) := by
  have origin (uuid : String) (state : JobState)
      (after : (table.autovacuum now channels).InState uuid state) : table.InState uuid state := by
    obtain ⟨stored, found, same⟩ := after
    exact ⟨stored, row_of_autovacuum found, same⟩
  exact ⟨fun uuid => origin uuid _, fun uuid => origin uuid _⟩

theorem HasUndone.later (undone : before.HasUndone child) (rewrites : Rewrites before after)
    (settles : ∀ uuid, after.InState uuid .done → before.InState uuid .done) :
    after.HasUndone child := by
  obtain ⟨parent, depends, waits⟩ := undone
  obtain ⟨parentFound, stored, found, -⟩ := id depends
  refine ⟨parent, ?_, fun done => waits (settles parent done)⟩
  exact (rewrites.depends_iff (rewrites.keeps _ (found ▸ rfl))
    (rewrites.keeps _ parentFound)).mpr depends

theorem settles_setPending (result : Option String) (resetRetry : Bool)
    (after : (table.store (job.setPending result resetRetry)).InState uuid .done) :
    table.InState uuid .done := by
  rw [inState_store] at after
  split_ifs at after
  · exact absurd after (job.setPending_state result resetRetry).2.2
  · exact after

/-- A job that has come to wait depends on one that is not done. -/
theorem hasUndone_setPending (connected : table.Connected) (works : table.Works job.links)
    (upToDate : table.UpToDate job) (result : Option String) (resetRetry : Bool)
    (after : (table.store ((table.read job).setPending result resetRetry)).InState uuid
      .waitDependencies) :
    table.InState uuid .waitDependencies ∨
      (table.store ((table.read job).setPending result resetRetry)).HasUndone uuid := by
  have rewrites := rewrites_setPending connected works result resetRetry
  rw [inState_store] at after
  split_ifs at after with same
  · right
    rw [same]
    exact (upToDate (Job.not_ready_of_setPending _ after)).later rewrites fun uuid =>
      settles_setPending result resetRetry
  · exact .inl after

theorem UpToDate.congr {other : Job} (upToDate : table.UpToDate job)
    (same : other.links = job.links) : table.UpToDate other := by
  have parents : other.parents = job.parents := congrArg Job.Links.parents same
  have dependsOn : other.values.dependsOn = job.values.dependsOn :=
    congrArg Job.Links.dependsOn same
  have read : (table.read other).parents = (table.read job).parents := by
    rw [parents_read, parents_read, parents, dependsOn]
  rw [UpToDate, Job.ready, read, Job.uuid_eq_of_links same]
  exact upToDate

/-- A job that was just loaded has the states of its parents. -/
theorem upToDate_load (loaded : table.load uuid = some job) : table.UpToDate job := by
  intro waits
  obtain ⟨stored, found, rfl⟩ := load_eq_some_iff.mp loaded
  rw [Job.ready, List.all_eq_false] at waits
  obtain ⟨⟨parent, state⟩, member, undone⟩ := waits
  obtain ⟨listed, other, parentFound, rfl⟩ := mem_loadMany.mp member
  refine ⟨parent, ⟨parentFound ▸ rfl, stored, found, listed⟩, ?_⟩
  rintro ⟨same, found', done⟩
  obtain rfl := Option.some_inj.mp (parentFound.symm.trans found')
  exact undone (decide_eq_true done)

/-- Of the jobs that depend on a job, those that it does not wake up depend on another one that is
not done. -/
theorem hasUndone_of_not_isDependent (connected : table.Connected) {stored : StoredJob}
    (found : table.row child = some stored) (waits : stored.state = .waitDependencies)
    (depends : table.Depends child parent)
    (unselected : table.isDependent parent .done child stored = false) : table.HasUndone child := by
  obtain ⟨parentFound, stored', found', member⟩ := depends
  obtain rfl := Option.some_inj.mp (found.symm.trans found')
  obtain ⟨other, parentFound⟩ := Option.isSome_iff_exists.mp parentFound
  obtain ⟨same, graph⟩ := connected.sameGraph child parent stored other found parentFound member
  have listed := (connected.mirrored child parent stored other found parentFound).mp member
  let siblings := (stored.dependsOn.filterMap table.row).filter fun sibling =>
    sibling.graphUuid = other.graphUuid
  have nonempty : siblings.isEmpty = false := by
    rw [List.isEmpty_eq_false_iff]
    refine List.ne_nil_of_mem (a := other) (List.mem_filter.mpr ⟨?_, decide_eq_true rfl⟩)
    exact List.mem_filterMap.mpr ⟨parent, member, parentFound⟩
  have some : ∃ sibling ∈ siblings, sibling.state ≠ .done := by
    by_contra none
    push Not at none
    have all : (siblings.all fun sibling => sibling.state = .done) = true :=
      List.all_eq_true.mpr fun sibling member => decide_eq_true (none sibling member)
    rw [isDependent, parentFound, Option.any_some] at unselected
    change (_ && _ && _ && !siblings.isEmpty && (siblings.all _) && _) = false at unselected
    simp [graph, same, listed, nonempty, all, waits] at unselected
  obtain ⟨sibling, among, undone⟩ := some
  obtain ⟨uuid, listed, siblingFound⟩ := List.mem_filterMap.mp (List.mem_filter.mp among).1
  refine ⟨uuid, ⟨siblingFound ▸ rfl, stored, found, listed⟩, ?_⟩
  rintro ⟨same, found', done⟩
  obtain rfl := Option.some_inj.mp (siblingFound.symm.trans found')
  exact undone done

/-- When the jobs that wait for one are looked at, those that still wait depend on another one. -/
theorem hasUndone_enqueueWaiting (connected : table.Connected)
    (waits : (table.enqueueWaiting parent).InState child .waitDependencies)
    (depends : (table.enqueueWaiting parent).Depends child parent) :
    (table.enqueueWaiting parent).HasUndone child := by
  have rewrites := rewrites_enqueueWaiting connected parent
  obtain ⟨stored, found, state, unselected⟩ :=
    inState_updateWhere (fun stored _ => by simp) waits
  exact (hasUndone_of_not_isDependent connected found state (rewrites.depends depends)
    unselected).later rewrites (calm_enqueueWaiting parent).settles

end JobTable

namespace JobServer

open JobTable

/-- Rows, and the jobs that requests work on, are connected as they were when they were delayed. -/
structure Linked (server : JobServer) : Prop where
  connected : server.table.Connected
  works : ∀ request worker, server.worker request = some worker →
    server.table.Works worker.job.links

/-- No request comes to an end before it has looked at the jobs that wait for its own. None goes on
with a job that it takes to depend on jobs that are not done while they are. And no job is deleted
that a request works on or a waiting job depends on. -/
def Undisturbed (server : JobServer) : ServerAction → Prop
  | .crash request => ∀ worker, server.worker request = some worker → worker.phase ≠ .releasing
  | .attemptLock request _ | .acquireLock request _ | .perform request _ _ =>
      ∀ worker, server.worker request = some worker → server.table.UpToDate worker.job
  | .autovacuum now channels => ∀ uuid, server.table.Vacuums now channels uuid →
      (∀ request worker, server.worker request = some worker → worker.job.uuid ≠ uuid) ∧
        ∀ child, server.table.Depends child uuid → ¬ server.table.InState child .waitDependencies
  | _ => True

/-- The job depends on one that is not done, or on one whose request comes to look at it. -/
def Awaits (server : JobServer) (child : String) : Prop :=
  server.table.HasUndone child ∨ ∃ request worker, server.worker request = some worker ∧
    worker.phase = .releasing ∧ server.table.Depends child worker.job.uuid

/-- Every job that waits waits for something. -/
def NoneForgotten (server : JobServer) : Prop :=
  ∀ child, server.table.InState child .waitDependencies → server.Awaits child

variable {server after : JobServer} {request : ℕ} {uuid child : String} {job : Job}

/-! ### Connections -/

theorem linked_start : start.Linked where
  connected := connected_empty
  works _ _ found := by cases found

/-- Nothing but the rows and the request that takes the step is touched. -/
theorem Linked.of_sameLinks (linked : server.Linked)
    (same : SameLinks server.table after.table)
    (works : ∀ request worker, after.worker request = some worker →
      (∃ old, server.worker request = some old ∧ worker.job.links = old.job.links) ∨
        after.table.Works worker.job.links)
    (keeps : ∀ request worker, server.worker request = some worker →
      (after.table.row worker.job.uuid).isSome) : after.Linked where
  connected := linked.connected.later same
  works request worker found := by
    rcases works request worker found with ⟨old, found', links⟩ | works
    · rw [links]
      exact (linked.works request old found').later same (keeps request old found')
    · exact works

theorem Linked.row_isSome (linked : server.Linked) {worker : Worker}
    (found : server.worker request = some worker) :
    (server.table.row worker.job.uuid).isSome := by
  obtain ⟨stored, works⟩ := linked.works request worker found
  exact works.found ▸ rfl

theorem Linked.withTable (linked : server.Linked) {table : JobTable}
    (rewrites : Rewrites server.table table) : (server.withTable table).Linked :=
  linked.of_sameLinks rewrites.toSameLinks (fun _ worker found => .inl ⟨worker, found, rfl⟩)
    fun _ _ found => rewrites.keeps _ (linked.row_isSome found)

/-- A request goes on with its job, or comes to an end. -/
theorem Linked.setWorker (linked : server.Linked) {table : JobTable} {next : Option Worker}
    (rewrites : Rewrites server.table table)
    (works : ∀ worker, next = some worker →
      (∃ old, server.worker request = some old ∧ worker.job.links = old.job.links) ∨
        table.Works worker.job.links) :
    ((server.withTable table).setWorker request next).Linked := by
  refine linked.of_sameLinks rewrites.toSameLinks (fun other worker found => ?_)
    fun _ _ found => rewrites.keeps _ (linked.row_isSome found)
  have found : (if other = request then next else server.worker other) = some worker :=
    (Function.update_apply _ _ _ _).symm.trans found
  split_ifs at found with same
  · exact same ▸ works worker found
  · exact .inl ⟨worker, found, rfl⟩

/-- The rows when a request has come to an end. -/
theorem Linked.finish (linked : server.Linked) {table : JobTable}
    (rewrites : Rewrites server.table table) :
    ((server.withTable table).setWorker request none).Linked :=
  linked.setWorker rewrites fun _ found => by cases found

/-- The rows when a request has gone on with its job. -/
theorem Linked.continue (linked : server.Linked) {table : JobTable} {old next : Worker}
    (rewrites : Rewrites server.table table) (found : server.worker request = some old)
    (same : next.job.links = old.job.links) :
    ((server.withTable table).setWorker request (some next)).Linked :=
  linked.setWorker rewrites fun _ found' =>
    .inl ⟨old, found, Option.some_inj.mp found' ▸ same⟩

theorem Linked.works_of (linked : server.Linked) {old : Worker}
    (found : server.worker request = some old) (same : job.links = old.job.links) :
    server.table.Works job.links :=
  same ▸ linked.works request old found

theorem Linked.retryPostpone (linked : server.Linked) {old : Worker}
    (found : server.worker request = some old) (same : job.links = old.job.links)
    (around : Surroundings) (message : String) (seconds : Option ℚ) :
    Rewrites server.table (server.retryPostpone job around message seconds).table := by
  have works := linked.works_of found (((job.links_postpone around.now around.randint
    around.pattern message seconds)).trans same)
  exact rewrites_setPending linked.connected works none false

/-- The table when a request has started a job. -/
theorem Linked.rewrites_begin (linked : server.Linked) (now : ℚ)
    (loaded : server.table.load uuid = some job) :
    Rewrites server.table ((server.table.addLockRecord uuid).store
      (server.table.read (job.setStarted now))) ∧
    server.table.Works (server.table.read (job.setStarted now)).links := by
  have works : server.table.Works job.links := linked.connected.works_load loaded
  obtain ⟨stored, worksOn⟩ := works
  have read := (@WorksOn.read server.table stored (job.setStarted now) worksOn).1
  have locked : Rewrites server.table (server.table.addLockRecord uuid) :=
    rewrites_of_eq linked.connected rfl rfl
  have works : (server.table.addLockRecord uuid).Works
      (server.table.read (job.setStarted now)).links :=
    Works.later ⟨stored, read⟩ locked.toSameLinks (locked.keeps _ (read.found ▸ rfl))
  exact ⟨locked.trans (rewrites_store (linked.connected.later locked.toSameLinks) works),
    stored, read⟩

theorem Linked.unlock (linked : server.Linked) (uuid : String) :
    Rewrites server.table (server.table.setLocked uuid none) :=
  rewrites_of_eq linked.connected rfl rfl

theorem Linked.step (linked : server.Linked) (action : ServerAction)
    (undisturbed : server.Undisturbed action) : (server.step action).Linked := by
  have moves := server.moves_step action
  have connected := linked.connected
  generalize server.step action = after at moves
  cases moves with
  | idle => exact linked
  | @delay graph new =>
      have grows : Grows graph server.table (graph.jobs.foldl JobTable.store server.table) :=
        grows_foldl_store graph fun job member =>
          of_decide_eq_true (List.all_eq_true.mp new job member)
      exact ⟨grows.connected connected, fun request worker found =>
        grows.works connected (linked.works request worker found)⟩
  | setJobEnqueued =>
      exact linked.withTable
        (rewrites_updateWhere connected (fun _ => rfl) (fun _ => rfl) fun _ => rfl)
  | requeueDeadJobs =>
      exact linked.withTable
        (rewrites_updateWhere connected (fun _ => rfl) (fun _ => rfl) fun _ => rfl)
  | begin free found enqueued loaded =>
      obtain ⟨rewrites, works⟩ := linked.rewrites_begin _ loaded
      refine linked.setWorker rewrites fun worker same => .inr ?_
      rw [← Option.some_inj.mp same]
      obtain ⟨stored, found⟩ := id works
      exact works.later rewrites.toSameLinks (rewrites.keeps _ (found.found ▸ rfl))
  | wait worker started => exact linked.continue (.refl connected) worker rfl
  | giveUp own found early => exact linked.finish (linked.retryPostpone found rfl _ _ _)
  | lock worker free =>
      exact linked.continue (rewrites_of_eq connected rfl rfl) worker rfl
  | @commit request outcome around loaded job version result worker same fresh =>
      have stored : Rewrites server.table (server.table.store (job.setDone around.now result)) :=
        rewrites_store connected (linked.works_of worker same)
      have rewrites := stored.trans
        (rewrites_of_eq (connected.later stored.toSameLinks) rfl rfl :
          Rewrites _ ((server.table.store (job.setDone around.now result)).setLocked job.uuid none))
      exact linked.continue rewrites worker same
  | abandon worker => exact linked.finish (linked.unlock _)
  | postpone worker same =>
      exact linked.continue (linked.retryPostpone worker same _ _ _) worker same
  | fail worker same same' state =>
      exact linked.continue (rewrites_store connected (linked.works_of worker same')) worker same
  | close worker => exact linked.finish (linked.unlock _)
  | release worker => exact linked.finish (rewrites_enqueueWaiting connected _)
  | crash found =>
      split_ifs
      · exact linked.finish (linked.unlock _)
      · exact linked.finish (.refl connected)
  | changeToDone => exact linked.withTable (rewrites_changeToDone connected _ _ _)
  | changeToCancelled => exact linked.withTable (rewrites_changeToCancelled connected _ _ _)
  | changeToPending moves => exact linked.withTable (rewrites_changeToPending connected _ _)
  | @autovacuum now channels =>
      refine linked.of_sameLinks (sameLinks_autovacuum connected now channels)
        (fun _ worker found => .inl ⟨worker, found, rfl⟩) fun request worker found => ?_
      by_contra gone
      rw [Bool.not_eq_true, Option.isSome_eq_false_iff] at gone
      exact (undisturbed worker.job.uuid ⟨linked.row_isSome found, gone⟩).1 request worker found rfl

/-! ### What waits -/

theorem noneForgotten_start : start.NoneForgotten := by
  rintro child ⟨stored, found, -⟩
  cases found

/-- What has to be seen of a step on rows that stay connected: where a job begins to wait, or one
that it waits for is done or looked at, it waits for something else. -/
theorem NoneForgotten.of_sameLinks (none : server.NoneForgotten)
    (same : SameLinks server.table after.table)
    (keeps : ∀ child parent, after.table.InState child .waitDependencies →
      server.table.Depends child parent → (after.table.row parent).isSome)
    (waits : ∀ child, after.table.InState child .waitDependencies →
      server.table.InState child .waitDependencies ∨ after.table.HasUndone child)
    (settles : ∀ parent, after.table.InState parent .done → server.table.InState parent .done ∨
      ∀ child, after.table.InState child .waitDependencies →
        after.table.Depends child parent → after.Awaits child)
    (releases : ∀ request worker, server.worker request = some worker →
      worker.phase = .releasing → after.worker request = some worker ∨
        ∀ child, after.table.InState child .waitDependencies →
          after.table.Depends child worker.job.uuid → after.Awaits child) :
    after.NoneForgotten := by
  intro child waiting
  have found : (after.table.row child).isSome := by
    obtain ⟨stored, found, -⟩ := waiting
    exact found ▸ rfl
  have still {parent : String} (depends : server.table.Depends child parent) :
      after.table.Depends child parent :=
    (same.depends_iff found (keeps child parent waiting depends)).mpr depends
  rcases waits child waiting with before | undone
  · rcases none child before with ⟨parent, depends, undone⟩ | ⟨request, worker, busy, last, depends⟩
    · by_cases done : after.table.InState parent .done
      · rcases settles parent done with already | awaits
        · exact absurd already undone
        · exact awaits child waiting (still depends)
      · exact .inl ⟨parent, still depends, done⟩
    · rcases releases request worker busy last with same | awaits
      · exact .inr ⟨request, worker, same, last, still depends⟩
      · exact awaits child waiting (still depends)
  · exact .inl undone

/-- A step on which no job begins to wait and none is done. -/
theorem NoneForgotten.of_calm (none : server.NoneForgotten)
    (rewrites : Rewrites server.table after.table) (calm : Calm server.table after.table)
    (releases : ∀ request worker, server.worker request = some worker →
      worker.phase = .releasing → after.worker request = some worker ∨
        ∀ child, after.table.InState child .waitDependencies →
          after.table.Depends child worker.job.uuid → after.Awaits child) : after.NoneForgotten :=
  none.of_sameLinks rewrites.toSameLinks (fun _ _ _ depends => rewrites.keeps _ depends.1)
    (fun child waiting => .inl (calm.waits child waiting))
    (fun parent done => .inl (calm.settles parent done)) releases

/-- The request that takes the step has nothing to look at. -/
theorem releases_setWorker {table : JobTable} {old : Worker} {next : Option Worker}
    (found : server.worker request = some old) (busy : old.phase ≠ .releasing) (other : ℕ)
    (worker : Worker) (found' : server.worker other = some worker)
    (last : worker.phase = .releasing) :
    ((server.withTable table).setWorker request next).worker other = some worker := by
  have differ : other ≠ request := by
    rintro rfl
    obtain rfl := Option.some_inj.mp (found.symm.trans found')
    exact busy last
  exact (Function.update_of_ne differ _ _).trans found'

theorem NoneForgotten.withTable (none : server.NoneForgotten) {table : JobTable}
    (rewrites : Rewrites server.table table) (calm : Calm server.table table) :
    (server.withTable table).NoneForgotten :=
  none.of_calm rewrites calm fun _ _ found _ => .inl found

theorem NoneForgotten.setWorker (none : server.NoneForgotten) {table : JobTable} {old : Worker}
    {next : Option Worker} (rewrites : Rewrites server.table table)
    (calm : Calm server.table table) (found : server.worker request = some old)
    (busy : old.phase ≠ .releasing) :
    ((server.withTable table).setWorker request next).NoneForgotten :=
  none.of_calm rewrites calm fun other worker found' last =>
    .inl (releases_setWorker found busy other worker found' last)

/-- A request postpones its job. -/
theorem NoneForgotten.retryPostpone (none : server.NoneForgotten) (linked : server.Linked)
    {old : Worker} {next : Option Worker} (found : server.worker request = some old)
    (same : job.links = old.job.links) (upToDate : server.table.UpToDate old.job)
    (busy : old.phase ≠ .releasing) (around : Surroundings) (message : String)
    (seconds : Option ℚ) :
    ((server.retryPostpone job around message seconds).setWorker request next).NoneForgotten := by
  have rewrites := linked.retryPostpone found same around message seconds
  have links := (job.links_postpone around.now around.randint around.pattern message
    seconds).trans same
  have works := linked.works_of found links
  refine none.of_sameLinks rewrites.toSameLinks (fun _ _ _ depends => rewrites.keeps _ depends.1)
    (fun child waiting => ?_) (fun parent done => .inl (settles_setPending _ _ done))
    fun other worker found' last => .inl (releases_setWorker found busy other worker found' last)
  exact hasUndone_setPending linked.connected works (upToDate.congr links) _ _ waiting

theorem noneForgotten_delay (none : server.NoneForgotten) (linked : server.Linked)
    {graph : NewGraph} {table : JobTable} (grows : Grows graph server.table table) :
    (server.withTable table).NoneForgotten := by
  have old {uuid : String} (found : (server.table.row uuid).isSome) :
      table.row uuid = server.table.row uuid :=
    (grows.old uuid (grows.not_new (linked.connected.stored uuid found))).1
  have still {child parent : String} (depends : server.table.Depends child parent) :
      table.Depends child parent := by
    obtain ⟨parentFound, stored, found, member⟩ := depends
    exact ⟨(old parentFound).symm ▸ parentFound, stored, (old (found ▸ rfl)).trans found, member⟩
  rintro child ⟨stored, found, waiting⟩
  rcases grows.row_cases found with ⟨job, among, rfl, state, -, dependsOn, -⟩ | ⟨-, found⟩
  · left
    have some : job.values.dependsOn ≠ [] := by
      intro none
      rw [state, graph.state job among, if_pos none] at waiting
      cases waiting
    obtain ⟨parent, member⟩ := List.exists_mem_of_ne_nil _ some
    have new := graph.closed job among parent (List.mem_append_left _ member)
    obtain ⟨other, among', rfl⟩ := List.mem_map.mp new
    obtain ⟨-, stored', found', state', -⟩ := grows.row other among'
    refine ⟨other.uuid, ⟨found' ▸ rfl, stored, found, dependsOn ▸ member⟩, ?_⟩
    rintro ⟨same, again, done⟩
    obtain rfl := Option.some_inj.mp (found'.symm.trans again)
    rw [state', graph.state other among'] at done
    split_ifs at done
  · rcases none child ⟨stored, found, waiting⟩ with
      ⟨parent, depends, undone⟩ | ⟨request, worker, busy, last, depends⟩
    · refine .inl ⟨parent, still depends, ?_⟩
      rw [InState]
      exact (old depends.1).symm ▸ undone
    · exact .inr ⟨request, worker, busy, last, still depends⟩

/-- A user sets a job done, and the jobs that depend on it are looked at. -/
theorem noneForgotten_changeToDone (none : server.NoneForgotten) (linked : server.Linked)
    (now : ℚ) (result : Option String) :
    (server.withTable (server.table.changeToDone now uuid result)).NoneForgotten := by
  have whole := rewrites_changeToDone linked.connected now uuid result
  cases loaded : server.table.load uuid with
  | none =>
      simp only [changeToDone, loaded]
      exact none
  | some job =>
      simp only [changeToDone, loaded] at whole ⊢
      have works : server.table.Works job.links := linked.connected.works_load loaded
      have stored : Rewrites server.table (server.table.store (job.setDone now result)) :=
        rewrites_store linked.connected works
      have connected := linked.connected.later stored.toSameLinks
      have calm := @calm_enqueueWaiting (server.table.store (job.setDone now result)) uuid
      refine none.of_sameLinks whole.toSameLinks (fun _ _ _ depends => whole.keeps _ depends.1)
        (fun child waiting => .inl ?_) (fun parent done => ?_) fun _ _ found _ => .inl found
      · have middle := calm.waits child waiting
        rw [inState_store] at middle
        split_ifs at middle
        · cases middle
        · exact middle
      · have middle := calm.settles parent done
        rw [inState_store] at middle
        split_ifs at middle with same
        · right
          intro child waiting depends
          have own : job.uuid = uuid := uuid_load loaded
          rw [show parent = uuid from same.trans own] at depends
          exact .inl (hasUndone_enqueueWaiting connected waiting depends)
        · exact .inl middle

theorem calm_changeToCancelled (table : JobTable) (now : ℚ) (uuid : String)
    (result : Option String) : Calm table (table.changeToCancelled now uuid result) := by
  rw [changeToCancelled]
  split
  · refine (calm_store ?_ ?_).trans (calm_updateWhere (fun _ => ?_) fun _ => ?_)
    all_goals
      intro same
      cases same
  · exact .refl table

/-- A user requeues a job, which may come to wait. -/
theorem noneForgotten_changeToPending (none : server.NoneForgotten) (linked : server.Linked)
    (result : Option String) :
    (server.withTable (server.table.changeToPending uuid result)).NoneForgotten := by
  have whole := rewrites_changeToPending linked.connected uuid result
  cases loaded : server.table.load uuid with
  | none =>
      simp only [changeToPending, loaded]
      exact none
  | some job =>
      simp only [changeToPending, loaded] at whole ⊢
      exact none.of_sameLinks whole.toSameLinks (fun _ _ _ depends => whole.keeps _ depends.1)
        (fun _ waiting => hasUndone_setPending linked.connected (linked.connected.works_load loaded)
          (upToDate_load loaded) _ _ waiting)
        (fun _ done => .inl (settles_setPending _ _ done)) fun _ _ found _ => .inl found

/-- A request has stored its job as done, and comes to look at those that depend on it. -/
theorem noneForgotten_commitDone (none : server.NoneForgotten) (linked : server.Linked)
    {old : Worker} (found : server.worker request = some old)
    (same : job.links = old.job.links) (busy : old.phase ≠ .releasing) (now : ℚ)
    (result : Option String) : (server.commitDone request job now result).NoneForgotten := by
  have stored : Rewrites server.table (server.table.store (job.setDone now result)) :=
    rewrites_store linked.connected (linked.works_of found same)
  have unlocked : Rewrites (server.table.store (job.setDone now result))
      ((server.table.store (job.setDone now result)).setLocked job.uuid .none) :=
    rewrites_of_eq (linked.connected.later stored.toSameLinks) rfl rfl
  have whole := stored.trans unlocked
  refine none.of_sameLinks whole.toSameLinks (fun _ _ _ depends => whole.keeps _ depends.1)
    (fun child waiting => .inl ?_) (fun parent done => ?_)
    fun other worker found' last => .inl (releases_setWorker found busy other worker found' last)
  · have middle : (server.table.store (job.setDone now result)).InState child _ := waiting
    rw [inState_store] at middle
    split_ifs at middle
    · cases middle
    · exact middle
  · have middle : (server.table.store (job.setDone now result)).InState parent _ := done
    rw [inState_store] at middle
    split_ifs at middle with own
    · right
      intro child _ depends
      exact .inr ⟨request, ⟨job.setDone now result, .releasing⟩, Function.update_self _ _ _, rfl,
        own ▸ depends⟩
    · exact .inl middle

/-- A request has looked at the jobs that depend on its own. -/
theorem noneForgotten_release (none : server.NoneForgotten) (linked : server.Linked)
    (found : server.worker request = some ⟨job, .releasing⟩) :
    ((server.withTable (server.table.enqueueWaiting job.uuid)).setWorker request
      .none).NoneForgotten := by
  have rewrites := rewrites_enqueueWaiting linked.connected job.uuid
  refine none.of_calm rewrites (calm_enqueueWaiting _) fun other worker found' last => ?_
  by_cases own : other = request
  · right
    intro child waiting depends
    subst own
    obtain rfl := Option.some_inj.mp (found.symm.trans found')
    exact .inl (hasUndone_enqueueWaiting linked.connected waiting depends)
  · exact .inl ((Function.update_of_ne own _ _).trans found')

/-- No job is deleted on which a waiting one depends. -/
theorem noneForgotten_autovacuum (none : server.NoneForgotten) (linked : server.Linked) {now : ℚ}
    {channels : List VacuumedChannel}
    (undisturbed : server.Undisturbed (.autovacuum now channels)) :
    (server.withTable (server.table.autovacuum now channels)).NoneForgotten := by
  have calm := @calm_autovacuum server.table now channels
  refine none.of_sameLinks (sameLinks_autovacuum linked.connected now channels)
    (fun child parent waiting depends => ?_) (fun child waiting => .inl (calm.waits child waiting))
    (fun parent done => .inl (calm.settles parent done)) fun _ _ found _ => .inl found
  by_contra gone
  rw [Bool.not_eq_true, Option.isSome_eq_false_iff] at gone
  exact (undisturbed parent ⟨depends.1, gone⟩).2 child depends (calm.waits child waiting)

theorem NoneForgotten.step (none : server.NoneForgotten) (linked : server.Linked)
    (action : ServerAction) (undisturbed : server.Undisturbed action) :
    (server.step action).NoneForgotten := by
  have moves := server.moves_step action
  have connected := linked.connected
  generalize server.step action = after at moves
  cases moves with
  | idle => exact none
  | @delay graph new =>
      exact noneForgotten_delay none linked (grows_foldl_store graph fun job member =>
        of_decide_eq_true (List.all_eq_true.mp new job member))
  | setJobEnqueued =>
      refine none.withTable
        (rewrites_updateWhere connected (fun _ => rfl) (fun _ => rfl) fun _ => rfl)
        (calm_updateWhere (fun _ => ?_) fun _ => ?_)
      · exact nofun
      · exact nofun
  | requeueDeadJobs =>
      refine none.withTable
        (rewrites_updateWhere connected (fun _ => rfl) (fun _ => rfl) fun _ => rfl)
        (calm_updateWhere (fun _ => ?_) fun _ => ?_)
      · dsimp only
        split_ifs <;> exact nofun
      · dsimp only
        split_ifs <;> exact nofun
  | @begin request uuid now stored job free found enqueued loaded =>
      obtain ⟨rewrites, -⟩ := linked.rewrites_begin now loaded
      refine none.of_calm rewrites ?_ fun other worker busy _ => .inl ?_
      · have locked : Calm server.table (server.table.addLockRecord uuid) := calm_of_eq rfl
        exact locked.trans (calm_store nofun nofun)
      · refine (Function.update_of_ne ?_ _ _).trans busy
        rintro rfl
        cases free.symm.trans busy
  | wait worker started =>
      exact none.setWorker (.refl connected) (.refl _) worker (by simp)
  | @giveUp action request around worker message seconds own found early =>
      have upToDate : server.table.UpToDate worker.job := by
        rcases own with rfl | rfl
        · exact undisturbed worker found
        · exact undisturbed worker found
      refine none.retryPostpone linked found rfl upToDate (fun last => ?_) around message seconds
      simp [last, Phase.early] at early
  | lock worker free =>
      exact none.setWorker (rewrites_of_eq connected rfl rfl) (calm_of_eq rfl) worker (by simp)
  | commit worker same fresh =>
      exact noneForgotten_commitDone none linked worker same (by simp) _ _
  | abandon worker =>
      exact none.setWorker (linked.unlock _) (calm_of_eq rfl) worker (by simp)
  | postpone worker same =>
      exact none.retryPostpone linked worker same (undisturbed _ worker) (by simp) _ _ _
  | fail worker same same' state =>
      refine none.setWorker (rewrites_store connected (linked.works_of worker same'))
        (calm_store ?_ ?_) worker (by simp)
      · simp [state]
      · simp [state]
  | close worker =>
      exact none.setWorker (linked.unlock _) (calm_of_eq rfl) worker (by simp)
  | release worker => exact noneForgotten_release none linked worker
  | crash found =>
      have busy := undisturbed _ found
      split_ifs
      · exact none.setWorker (linked.unlock _) (calm_of_eq rfl) found busy
      · exact none.setWorker (.refl connected) (.refl _) found busy
  | changeToDone => exact noneForgotten_changeToDone none linked _ _
  | changeToCancelled =>
      exact none.withTable (rewrites_changeToCancelled connected _ _ _)
        (calm_changeToCancelled _ _ _ _)
  | changeToPending moves => exact noneForgotten_changeToPending none linked _
  | autovacuum => exact noneForgotten_autovacuum none linked undisturbed

theorem waits_runSteps {actions : List ServerAction}
    (undisturbed : Along step Undisturbed start actions) :
    (runSteps step start actions).Linked ∧ (runSteps step start actions).NoneForgotten :=
  @runSteps_invariant _ _ step Undisturbed (fun server => server.Linked ∧ server.NoneForgotten) _ _
    (fun _ action kept undisturbed =>
      ⟨kept.1.step action undisturbed, kept.2.step kept.1 action undisturbed⟩)
    ⟨linked_start, noneForgotten_start⟩ undisturbed

/-- In every undisturbed run, each job that waits depends on one that is there and not done, or on
one whose request has committed it and comes to look at the jobs that depend on it. -/
theorem waiting_awaited (actions : List ServerAction)
    (undisturbed : Along step Undisturbed start actions) (child : String)
    (waits : (runSteps step start actions).table.InState child .waitDependencies) :
    (runSteps step start actions).Awaits child :=
  (waits_runSteps undisturbed).2 child waits

/-- Jobs do not wait for each other. -/
theorem blocked_of_rank (none : server.NoneForgotten)
    (quiet : ∀ request worker, server.worker request = some worker → worker.phase ≠ .releasing)
    {rank : String → ℕ} (less : ∀ child parent, server.table.Depends child parent →
      rank parent < rank child) (child : String)
    (waits : server.table.InState child .waitDependencies) :
    ∃ blocker stored, Relation.TransGen server.table.Depends child blocker ∧
      server.table.row blocker = some stored ∧ stored.state ≠ .waitDependencies ∧
      stored.state ≠ .done := by
  induction hrank : rank child using Nat.strong_induction_on generalizing child with
  | _ height induction =>
      subst hrank
      rcases none child waits with ⟨parent, depends, undone⟩ | ⟨request, worker, busy, last, -⟩
      · obtain ⟨stored, found⟩ := Option.isSome_iff_exists.mp depends.1
        by_cases state : stored.state = .waitDependencies
        · obtain ⟨blocker, other, chain, rest⟩ :=
            induction (rank parent) (less child parent depends)
            parent ⟨stored, found, state⟩ rfl
          exact ⟨blocker, other, .head depends chain, rest⟩
        · exact ⟨parent, stored, .single depends, found, state, fun done =>
            undone ⟨stored, found, done⟩⟩
      · exact absurd last (quiet request worker busy)

theorem undisturbed_pairGraph : Along step Undisturbed start [.delay pairGraph] :=
  ⟨trivial, trivial⟩

theorem waits_pairGraph :
    (runSteps step start [.delay pairGraph]).table.InState "b" .waitDependencies :=
  isIn_iff.mp (by decide +kernel :
    (runSteps step start [.delay pairGraph]).isIn "b" .waitDependencies = true)

theorem pair_awaited : (runSteps step start [.delay pairGraph]).Awaits "b" :=
  waiting_awaited _ undisturbed_pairGraph "b" waits_pairGraph

end JobServer

end OdooConnector.Queue
