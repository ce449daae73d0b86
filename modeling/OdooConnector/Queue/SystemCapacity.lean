import OdooConnector.Queue.JobOrigins
import OdooConnector.Queue.JobRunner
import OdooConnector.Queue.KnownJobs

/-!
# The capacity of the whole system

Whatever users, requests, the cron and the runner do in the meantime, and even where the runner
starts again, the table never has more jobs enqueued or started than a channel of the configuration
allows. -/

namespace OdooConnector.Queue

open JobTable ChannelManager

/-- A job is of a database and was stored there, and is in the channel that its name led to when
there were some channels at least. -/
structure ChannelJob.Resolved (dbName : String) (table : JobTable) (originOf : String → JobOrigin)
    (least : List ChannelPath) (manager : ChannelManager) (job : ChannelJob) : Prop where
  dbName : job.dbName = dbName
  dateCreated : job.dateCreated = (originOf job.uuid).dateCreated
  stored : table.version job.uuid ≠ 0
  channel : ∃ earlier : ChannelManager, (∀ path ∈ least, path ∈ earlier.paths) ∧
    earlier.IsExtendedBy manager ∧
      job.channel = (earlier.getChannelByName (originOf job.uuid).channel).1

/-- All known jobs are resolved. -/
def ChannelManager.Resolves (dbName : String) (table : JobTable) (originOf : String → JobOrigin)
    (least : List ChannelPath) (manager : ChannelManager) : Prop :=
  ∀ job ∈ manager.jobsByUuid, (manager.job job).Resolved dbName table originOf least manager

section Resolved

variable {dbName : String} {table table' : JobTable} {originOf next : String → JobOrigin}
  {least : List ChannelPath} {manager after : ChannelManager} {tree : ChannelTree}
  {session : Session} {uuid : String} {row : Notification} {job other : ChannelJob}

theorem ChannelJob.Resolved.stays (resolved : job.Resolved dbName table originOf least manager)
    (stays : job.Stays other) (extends' : manager.IsExtendedBy after) :
    other.Resolved dbName table originOf least after where
  dbName := stays.dbName.trans resolved.dbName
  dateCreated := by rw [stays.dateCreated, resolved.dateCreated, stays.uuid]
  stored := stays.uuid ▸ resolved.stored
  channel := by
    obtain ⟨earlier, listed, extended, channel⟩ := resolved.channel
    refine ⟨earlier, listed, fun path old => extends' path (extended path old), ?_⟩
    rw [stays.channel, channel, stays.uuid]

theorem ChannelJob.Resolved.later (resolved : job.Resolved dbName table originOf least manager)
    (later : Later table table')
    (same : ∀ uuid, table.version uuid ≠ 0 → next uuid = originOf uuid) :
    job.Resolved dbName table' next least manager where
  dbName := resolved.dbName
  dateCreated := by
    rw [same _ resolved.stored]
    exact resolved.dateCreated
  stored := later.known resolved.stored
  channel := by
    rw [same _ resolved.stored]
    exact resolved.channel

/-- Known jobs stay resolved, and the job of a row is. -/
theorem resolves_step (kept : session.manager.Kept)
    (resolves : session.manager.Resolves dbName table originOf least)
    (listed : ∀ path ∈ least, path ∈ session.manager.paths) (action : ManagerAction)
    (own : ∀ row, action = .notify row → row.dbName = dbName ∧ table.version row.uuid ≠ 0 ∧
      originOf row.uuid = ⟨row.channelName, row.dateCreated⟩) :
    (session.step action).manager.Resolves dbName table originOf least := by
  have extended := (Session.keepsChannels_step kept action).paths
  intro job known
  rcases Session.known_step kept action job known with ⟨old, before, same⟩ | ⟨row, isRow, isOf⟩
  · exact (resolves old before).stays same extended
  · obtain ⟨database, stored, origin⟩ := own row isRow
    refine ⟨isOf.dbName.trans database, ?_, isOf.uuid ▸ stored, session.manager, listed, extended,
      ?_⟩
    · rw [isOf.dateCreated, isOf.uuid, origin]
    · rw [isOf.channel, isOf.uuid, origin]

/-- Channels with a capacity are those of the configuration. -/
theorem capacity_of_keepsChannels (keeps : KeepsChannels (Session.start tree).manager manager)
    {path : ChannelPath} {capacity : ℤ}
    (limited : (manager.channel path).capacity = some capacity) :
    path ∈ tree.paths ∧ tree.capacity path = some capacity := by
  rcases keeps.capacity path with same | ⟨-, none⟩
  · rw [same] at limited
    simp only [Session.start] at limited
    split_ifs at limited with listed
    · exact ⟨List.contains_iff_mem.mp listed, limited⟩
    · cases limited
  · rw [none] at limited
    cases limited

theorem capacity_of_listed (keeps : KeepsChannels (Session.start tree).manager manager)
    {path : ChannelPath} (listed : path ∈ tree.paths) :
    (manager.channel path).capacity = tree.capacity path := by
  rcases keeps.capacity path with same | ⟨missing, -⟩
  · rw [same]
    simp only [Session.start, List.contains_iff_mem.mpr listed, if_true]
    rfl
  · exact absurd listed missing

/-- A channel of the configuration is above where a job's name leads to only if it is above the
channel of the job. -/
theorem ChannelJob.Resolved.suffix (resolved : job.Resolved dbName table originOf least manager)
    (tree : ChannelTree) (known : ∀ path ∈ tree.paths, path ∈ least)
    (extends' : manager.IsExtendedBy after) {place : ChannelPath} (listed : place ∈ tree.paths)
    (above : place <:+ (after.getChannelByName (originOf job.uuid).channel).1) :
    place <:+ job.channel := by
  obtain ⟨earlier, exists', extended, channel⟩ := resolved.channel
  rw [channel]
  exact suffix_lookup_earlier tree (fun path member => exists' path (known path member))
    (fun path old => extends' path (extended path old)) listed above

/-- The channels that a job newly enters are not those of the configuration, and unlimited. -/
theorem ChannelManager.Resolves.fits (kept : manager.Kept)
    (keeps : KeepsChannels (Session.start tree).manager manager)
    (resolves : manager.Resolves dbName table originOf tree.paths)
    (name : row.channelName = (originOf row.uuid).channel) :
    (manager.getChannelByName row.channelName).2.Fits
      (manager.getChannelByName row.channelName).1 row := by
  obtain ⟨opens, -⟩ := getChannelByName_opens kept.root row.channelName
  intro job found place above off capacity limited
  obtain ⟨known, uuid⟩ := jobOf_eq_some found
  rw [opens.jobsByUuid] at known
  rw [opens.job] at uuid off
  have listed := (capacity_of_keepsChannels (keeps.trans opens.keepsChannels) limited).1
  rw [name, ← uuid] at above
  exact absurd ((resolves job known).suffix tree (fun _ => id) (fun _ => id) listed above) off

/-- A channel that runs jobs of uuids that ran there before runs no more of them. -/
theorem ChannelManager.Within.of_uuids (within : manager.Within) (kept : after.Kept)
    (before : ∀ path capacity, (after.channel path).capacity = some capacity →
      (manager.channel path).capacity = some capacity ∧ ∀ job, after.Running path job →
        ∃ old, manager.Running path old ∧ (manager.job old).uuid = (after.job job).uuid) :
    after.Within := by
  intro path capacity limited positive
  obtain ⟨limited', ran⟩ := before path capacity limited
  choose! old running uuid using ran
  have fewer := Finset.card_le_card_of_injOn old running fun first here second there same => by
    have known := kept.known path first (.inr (.inl here))
    have known' := kept.known path second (.inr (.inl there))
    exact kept.uuid_unique known known'
      ((uuid first here).symm.trans (same ▸ uuid second there))
  have bounded := within path capacity limited' positive
  omega

end Resolved

namespace QueueSystem

variable {dbName : String} {table : JobTable} {originOf : String → JobOrigin}
  {least : List ChannelPath} {base : ChannelManager} {session : Session} {uuid : String}
  {system : QueueSystem} {tree : ChannelTree} {stored : StoredJob}

/-- The restart reads all jobs that are not done. -/
def ReadsAll (system : QueueSystem) : SystemAction → Prop
  | .restart uuids => ∀ uuid,
      (system.server.table.row uuid).any (fun job => job.state.notDone) → uuid ∈ uuids
  | _ => True

theorem runs_notification (found : table.row uuid = some stored) :
    (JobTable.notification uuid dbName stored).runs = table.isActive uuid := by
  rw [isActive, found, Option.any_some, Notification.runs, notification, Option.any_some]
  cases stored.state <;> rfl

theorem notDone_of_isActive (active : table.isActive uuid) :
    (table.row uuid).any fun job => job.state.notDone := by
  rw [isActive, Option.any_eq_true] at active
  obtain ⟨stored, found, runs⟩ := active
  rw [found, Option.any_some]
  cases state : stored.state <;> simp [state, JobState.notDone] at runs ⊢

/-! ### Reading rows -/

/-- What reading rows needs of the table, and of what the runner knows. -/
structure Reads (dbName : String) (table : JobTable) (originOf : String → JobOrigin)
    (least : List ChannelPath) (session : Session) : Prop where
  rows : table.HasOrigins originOf
  stored : ∀ uuid, (table.row uuid).isSome → table.version uuid ≠ 0
  kept : session.manager.Kept
  listed : ∀ path ∈ least, path ∈ session.manager.paths
  resolves : session.manager.Resolves dbName table originOf least

theorem Reads.readRow (reads : Reads dbName table originOf least session) (uuid : String) :
    Reads dbName table originOf least (readRow dbName table session uuid) ∧
      KeepsChannels session.manager (readRow dbName table session uuid).manager := by
  have steps (action : ManagerAction)
      (own : ∀ row, action = .notify row → row.dbName = dbName ∧ table.version row.uuid ≠ 0 ∧
        originOf row.uuid = ⟨row.channelName, row.dateCreated⟩) :
      Reads dbName table originOf least (session.step action) ∧
        KeepsChannels session.manager (session.step action).manager := by
    have keeps := Session.keepsChannels_step reads.kept action
    exact ⟨⟨reads.rows, reads.stored, Session.kept_step reads.kept action,
      fun path member => keeps.paths path (reads.listed path member),
      resolves_step reads.kept reads.resolves reads.listed action own⟩, keeps⟩
  rw [QueueSystem.readRow]
  split
  · rename_i stored found
    refine steps _ fun row same => ?_
    obtain rfl := ManagerAction.notify.inj same
    exact ⟨rfl, reads.stored uuid (found ▸ rfl), (reads.rows uuid stored found).symm⟩
  · refine steps _ fun row same => ?_
    cases same

/-- An active job that runs in the root does so still when rows are read. -/
theorem runsInRoot_readRow (kept : session.manager.Kept) {other : String}
    (active : table.isActive uuid) (runs : session.manager.RunsInRoot uuid) :
    (readRow dbName table session other).manager.RunsInRoot uuid := by
  rw [readRow]
  split
  · rename_i stored found
    refine Session.runsInRoot_notify kept runs fun same => ?_
    have same : uuid = other := same
    rwa [runs_notification found, ← same]
  · rename_i missing
    refine Session.runsInRoot_removeJob runs fun same => ?_
    rw [isActive, same, missing] at active
    cases active

/-- Reading the row of a job keeps the capacities where active jobs run in the root. -/
theorem within_readRow (reads : Reads dbName table originOf tree.paths session)
    (keeps : KeepsChannels (Session.start tree).manager session.manager)
    (within : session.manager.Within)
    (active : table.isActive uuid → session.manager.RunsInRoot uuid) :
    (readRow dbName table session uuid).manager.Within := by
  rw [readRow]
  split
  · rename_i stored found
    refine Session.within_notify reads.kept within (fun runs => ?_) fun _ => ?_
    · rw [runs_notification found] at runs
      exact active runs
    · exact reads.resolves.fits reads.kept keeps
        (congrArg JobOrigin.channel (reads.rows uuid stored found))
  · have none : Session.HandedOut ⟨session.manager, []⟩ := nofun
    exact
      @Session.within_step ⟨session.manager, []⟩ (.removeJob uuid) reads.kept none within trivial

/-! ### Starting again -/

/-- While the runner reads all rows again, active jobs alone run, and those that are known run in
the root. -/
structure Rereads (table : JobTable) (session : Session) : Prop where
  runs : session.manager.RunsOf fun uuid => table.isActive uuid = true
  known : ∀ job ∈ session.manager.jobsByUuid, table.isActive (session.manager.job job).uuid →
    session.manager.RunsInRoot (session.manager.job job).uuid

theorem Rereads.runsInRoot (rereads : Rereads table session) (kept : session.manager.Kept)
    (found : table.row uuid = some stored) (active : table.isActive uuid) :
    (readRow dbName table session uuid).manager.RunsInRoot uuid := by
  by_cases known : ∃ job ∈ session.manager.jobsByUuid, (session.manager.job job).uuid = uuid
  · obtain ⟨job, member, rfl⟩ := known
    exact runsInRoot_readRow kept active (rereads.known job member active)
  · push Not at known
    rw [readRow, found]
    have runs : (notification uuid dbName stored).runs := (runs_notification found).trans active
    exact runsInRoot_notify_new kept known runs

theorem Rereads.readRow (rereads : Rereads table session) (kept : session.manager.Kept)
    (found : table.row uuid = some stored) :
    Rereads table (readRow dbName table session uuid) := by
  have read : QueueSystem.readRow dbName table session uuid =
      session.step (.notify (notification uuid dbName stored)) := by
    rw [QueueSystem.readRow, found]
  refine ⟨?_, fun job known active => ?_⟩
  · rw [read]
    exact rereads.runs.notify kept fun runs => (runs_notification found).symm.trans runs
  · rw [read] at known
    rcases Session.known_step kept _ job known with ⟨old, before, same⟩ | ⟨row, isRow, isOf⟩
    · rw [← read] at same
      rw [same.uuid] at active ⊢
      exact runsInRoot_readRow kept active (rereads.known old before active)
    · obtain rfl := ManagerAction.notify.inj isRow
      rw [← read] at isOf
      have own : ((QueueSystem.readRow dbName table session uuid).manager.job job).uuid = uuid :=
        isOf.uuid
      rw [own] at active ⊢
      exact rereads.runsInRoot kept found active

/-- After all rows are read, the active ones among them run in the root. -/
theorem rereads_foldl (uuids : List String) (reads : Reads dbName table originOf least session)
    (rereads : Rereads table session) (keeps : KeepsChannels base session.manager)
    (found : ∀ uuid ∈ uuids, (table.row uuid).isSome) :
    Reads dbName table originOf least (uuids.foldl (readRow dbName table) session) ∧
      Rereads table (uuids.foldl (readRow dbName table) session) ∧
      KeepsChannels base (uuids.foldl (readRow dbName table) session).manager ∧
      ∀ uuid, table.isActive uuid → uuid ∈ uuids ∨ session.manager.RunsInRoot uuid →
        (uuids.foldl (readRow dbName table) session).manager.RunsInRoot uuid := by
  induction uuids generalizing session with
  | nil => exact ⟨reads, rereads, keeps, fun uuid _ listed => listed.resolve_left List.not_mem_nil⟩
  | cons first uuids induction =>
      rw [List.forall_mem_cons] at found
      obtain ⟨stored, row⟩ := Option.isSome_iff_exists.mp found.1
      obtain ⟨next, opened⟩ := reads.readRow first
      obtain ⟨done, rereads', keeps', root⟩ :=
        induction next (rereads.readRow reads.kept row) (keeps.trans opened) found.2
      refine ⟨done, rereads', keeps', fun uuid active listed => root uuid active ?_⟩
      rcases listed with listed | runs
      · rcases List.mem_cons.mp listed with rfl | later
        · exact .inr (rereads.runsInRoot reads.kept row active)
        · exact .inl later
      · exact .inr (runsInRoot_readRow reads.kept active runs)

/-- A database of which the runner knows no jobs. -/
theorem removeDb_empty (reads : Reads dbName table originOf least session) :
    (session.step (.removeDb dbName)).manager.jobsByUuid = [] := by
  refine List.eq_nil_iff_forall_not_mem.mpr fun job known => ?_
  obtain ⟨before, other⟩ :=
    (mem_jobsByUuid_removeDb reads.kept dbName).mp (List.mem_of_mem_filter known)
  exact other (reads.resolves job before).dbName

theorem Reads.restart (reads : Reads dbName table originOf least session) :
    Reads dbName table originOf session.manager.paths (session.step (.removeDb dbName)) ∧
      Rereads table (session.step (.removeDb dbName)) := by
  have kept := Session.kept_step reads.kept (.removeDb dbName)
  have none (job : ℕ) : job ∉ (session.step (.removeDb dbName)).manager.jobsByUuid := by
    rw [removeDb_empty reads]
    exact List.not_mem_nil
  refine ⟨⟨reads.rows, reads.stored, kept, (Session.keepsChannels_step reads.kept _).paths, ?_⟩,
    ⟨?_, ?_⟩⟩
  · exact fun job known => absurd known (none job)
  · exact fun place job running => absurd (kept.known place job (.inr (.inl running))) (none job)
  · exact fun job known => absurd known (none job)

theorem Reads.mono {some : List ChannelPath} (reads : Reads dbName table originOf least session)
    (fewer : ∀ path ∈ some, path ∈ least) : Reads dbName table originOf some session := by
  refine ⟨reads.rows, reads.stored, reads.kept,
    fun path member => reads.listed path (fewer path member),
    fun job known => ?_⟩
  obtain ⟨database, date, stored, earlier, listed, extended, channel⟩ := reads.resolves job known
  exact ⟨database, date, stored, earlier, fun path member => listed path (fewer path member),
    extended, channel⟩

theorem Reads.notified (reads : Reads dbName table originOf least session) (notified : String → ℕ) :
    Reads dbName { table with notified := notified } originOf least session where
  rows := reads.rows
  stored := reads.stored
  kept := reads.kept
  listed := reads.listed
  resolves job known := by
    obtain ⟨database, date, stored, channel⟩ := reads.resolves job known
    exact ⟨database, date, stored, channel⟩

/-- The runner that starts again runs no jobs where they did not run before. -/
theorem within_restart {before after : Session}
    (reads : Reads dbName table originOf tree.paths before)
    (reads' : Reads dbName table originOf before.manager.paths after)
    (rereads : Rereads table after)
    (keeps : KeepsChannels (Session.start tree).manager before.manager)
    (keeps' : KeepsChannels before.manager after.manager) (within : before.manager.Within)
    (active : ∀ uuid, table.isActive uuid → before.manager.RunsInRoot uuid) :
    after.manager.Within := by
  refine within.of_uuids reads'.kept fun path capacity limited => ?_
  obtain ⟨listed, same⟩ := capacity_of_keepsChannels (keeps.trans keeps') limited
  refine ⟨(capacity_of_listed keeps listed).trans same, fun job running => ?_⟩
  have known := reads'.kept.known path job (.inr (.inl running))
  obtain ⟨old, uuid, root⟩ := active _ (rereads.runs path job running)
  refine ⟨old, (reads.kept.placed old).running_of_root root ?_, uuid⟩
  have known' := reads.kept.known [] old (.inr (.inl root))
  obtain ⟨-, -, -, earlier, exists', -, channel⟩ := reads'.resolves job known
  refine (reads.resolves old known').suffix tree (fun _ => id) exists' listed ?_
  rw [uuid, ← channel]
  exact reads'.kept.onPath (.inr (.inl running))

/-! ### Steps of the system -/

/-- The jobs that the table has enqueued or started, and those that the runner is about to enqueue,
run in the channels. -/
structure Bounded (dbName : String) (tree : ChannelTree) (system : QueueSystem) : Prop where
  guarded : system.server.Guarded
  within : system.session.manager.Within
  keeps : KeepsChannels (Session.start tree).manager system.session.manager
  channels : ∃ originOf, system.server.HasOrigins originOf ∧
    Reads dbName system.server.table originOf tree.paths system.session
  active : ∀ uuid, system.server.table.isActive uuid ∨ uuid ∈ system.toEnqueue →
    system.session.manager.RunsInRoot uuid

theorem bounded_start (dbName : String) (tree : ChannelTree) :
    Bounded dbName tree (start tree) where
  guarded := JobServer.guarded_start
  within := Session.within_start tree
  keeps := .refl _
  channels := by
    refine ⟨fun _ => ⟨"", 0⟩, JobServer.hasOrigins_start _, ?_⟩
    refine ⟨?_, ?_, Session.kept_start tree, fun _ => id, fun job known => ?_⟩
    · intro uuid stored found
      cases found
    · intro uuid found
      cases found
    · exact absurd known List.not_mem_nil
  active uuid some := by
    rcases some with active | listed
    · cases active
    · exact absurd listed List.not_mem_nil

/-- The server enqueues no job but those that the runner has handed out. -/
theorem Bounded.server (bounded : Bounded dbName tree system) (action : ServerAction)
    {toEnqueue : List String} (fewer : ∀ uuid ∈ toEnqueue, uuid ∈ system.toEnqueue)
    (runner : ∀ uuid, JobServer.enqueues uuid system.server action → uuid ∈ system.toEnqueue) :
    Bounded dbName tree ⟨system.server.step action, system.session, toEnqueue⟩ where
  guarded := bounded.guarded.step action
  within := bounded.within
  keeps := bounded.keeps
  channels := by
    obtain ⟨originOf, hasOrigins, reads⟩ := bounded.channels
    obtain ⟨next, same, hasOrigins'⟩ := hasOrigins.step action
    have later := (system.server.moves_step action).later
    exact ⟨next, hasOrigins', hasOrigins'.rows, hasOrigins'.stored, reads.kept, reads.listed,
      fun job known => (reads.resolves job known).later later same⟩
  active uuid some := by
    refine bounded.active uuid ?_
    rcases some with active | listed
    · cases paid : JobServer.enqueues uuid system.server action with
      | true => exact .inr (runner uuid paid)
      | false =>
          left
          have balance := @JobServer.balance_commits system.server uuid bounded.guarded action
          have active : (system.server.step action).table.isActive uuid = true := active
          rw [active, paid, Bool.toNat_false, Bool.toNat_true] at balance
          rw [← Bool.toNat_eq_one]
          have most := Bool.toNat_le (system.server.table.isActive uuid)
          omega
    · exact .inr (fewer uuid listed)

theorem Bounded.step (bounded : Bounded dbName tree system) (action : SystemAction)
    (readsAll : system.ReadsAll action) : Bounded dbName tree (step dbName system action) := by
  obtain ⟨originOf, hasOrigins, reads⟩ := bounded.channels
  cases action with
  | serve action =>
      rw [QueueSystem.step]
      split_ifs with runner
      · exact bounded
      · refine bounded.server action (fun _ => id) fun uuid enqueues => ?_
        cases action <;> first | cases enqueues | exact absurd rfl runner
  | processNotification uuid =>
      rw [QueueSystem.step, processNotification]
      split_ifs with idle
      · obtain ⟨next, opened⟩ := reads.readRow uuid
        refine ⟨bounded.guarded.withTable (fun _ => .inl ⟨rfl, rfl⟩) rfl, ?_,
          bounded.keeps.trans opened, ⟨originOf, ?_, ?_⟩, fun other some => ?_⟩
        · exact within_readRow reads bounded.keeps bounded.within fun active =>
            bounded.active uuid (.inl active)
        · exact ⟨hasOrigins.rows, hasOrigins.stored, hasOrigins.workers⟩
        · exact next.notified _
        · rcases some with active | listed
          · exact runsInRoot_readRow reads.kept active (bounded.active other (.inl active))
          · rw [idle.1] at listed
            exact absurd listed List.not_mem_nil
      · exact bounded
  | getJobsToRun now =>
      rw [QueueSystem.step, getJobsToRun]
      split_ifs with idle
      · have keeps := Session.keepsChannels_step reads.kept (.getJobsToRun now)
        refine ⟨bounded.guarded, ?_, bounded.keeps.trans keeps, ⟨originOf, hasOrigins, ?_⟩,
          fun uuid some => ?_⟩
        · exact (getJobsToRun_yields reads.kept now).within bounded.within
        · refine ⟨reads.rows, reads.stored, Session.kept_step reads.kept _,
            fun path member => keeps.paths path (reads.listed path member), ?_⟩
          exact resolves_step reads.kept reads.resolves reads.listed _ fun row same => by cases same
        · refine Session.runsInRoot_getJobsToRun reads.kept now ?_
          exact some.imp_left fun active => bounded.active uuid (.inl active)
      · exact bounded
  | setJobEnqueued now =>
      rw [QueueSystem.step, setJobEnqueued]
      split
      · rename_i uuid uuids handed
        refine bounded.server _ (fun other listed => ?_) fun other enqueues => ?_
        · rw [handed]
          exact List.mem_cons_of_mem _ listed
        · rw [handed, ← (of_decide_eq_true enqueues : uuid = other)]
          exact List.mem_cons_self
      · exact bounded
  | restart uuids =>
      have here := Session.keepsChannels_step reads.kept (.removeDb dbName)
      obtain ⟨again, rereads⟩ := reads.restart
      obtain ⟨reads', rereads', keeps, root⟩ := rereads_foldl
        (uuids.filter fun uuid =>
          (system.server.table.row uuid).any fun job => job.state.notDone) again rereads here
        fun uuid member => Option.isSome_of_any (List.mem_filter.mp member).2
      have active (uuid : String) (active : system.server.table.isActive uuid) :=
        bounded.active uuid (.inl active)
      refine ⟨bounded.guarded.withTable (fun _ => .inl ⟨rfl, rfl⟩) rfl, ?_,
        bounded.keeps.trans keeps, ⟨originOf, ?_, ?_⟩, fun uuid some => ?_⟩
      · exact within_restart reads reads' rereads' bounded.keeps keeps bounded.within active
      · exact ⟨hasOrigins.rows, hasOrigins.stored, hasOrigins.workers⟩
      · exact (reads'.mono reads.listed).notified _
      · rcases some with running | listed
        · have running : system.server.table.isActive uuid = true := running
          refine root uuid running (.inl (List.mem_filter.mpr ⟨readsAll uuid ?_, ?_⟩))
          · exact notDone_of_isActive running
          · exact notDone_of_isActive running
        · exact absurd listed List.not_mem_nil

/-- In every run, whoever acts in the meantime, a channel of the configuration with a positive
capacity has no more jobs enqueued or started in the table than that, those of the channels below it
included, as long as the runner that starts again reads all jobs that are not done. -/
theorem active_within_capacity (dbName : String) (tree : ChannelTree) (actions : List SystemAction)
    (reads : Along (step dbName) ReadsAll (start tree) actions) (path : ChannelPath) (capacity : ℤ)
    (listed : path ∈ tree.paths) (limited : tree.capacity path = some capacity)
    (positive : 0 < capacity) (uuids : Finset String)
    (active : ∀ uuid ∈ uuids, ∃ stored,
      (runSteps (step dbName) (start tree) actions).server.table.row uuid = some stored ∧
        stored.state.runs ∧ path <:+ pathOfName stored.channel) :
    (uuids.card : ℤ) ≤ capacity := by
  have bounded : Bounded dbName tree (runSteps (step dbName) (start tree) actions) :=
    runSteps_invariant (fun _ action bounded readsAll => Bounded.step bounded action readsAll)
      (bounded_start dbName tree) reads
  generalize runSteps (step dbName) (start tree) actions = system at bounded active
  obtain ⟨originOf, hasOrigins, reads⟩ := bounded.channels
  have running (uuid : String) (member : uuid ∈ uuids) : ∃ job,
      system.session.manager.Running path job ∧ (system.session.manager.job job).uuid = uuid := by
    obtain ⟨stored, found, runs, above⟩ := active uuid member
    have isActive : system.server.table.isActive uuid :=
      (@runs_notification dbName _ _ _ found).symm.trans runs
    obtain ⟨job, same, root⟩ := bounded.active uuid (.inl isActive)
    refine ⟨job, (reads.kept.placed job).running_of_root root ?_, same⟩
    have known := reads.kept.known [] job (.inr (.inl root))
    obtain ⟨-, -, -, earlier, exists', -, channel⟩ := reads.resolves job known
    rw [channel, same, ← reads.rows uuid stored found]
    exact suffix_lookup (exists' path listed) above
  choose! job runs same using running
  have fewer := Finset.card_le_card_of_injOn job runs fun first here second there equal =>
    (same first here).symm.trans (equal ▸ same second there)
  have most :=
    bounded.within path capacity ((capacity_of_listed bounded.keeps listed).trans limited)
    positive
  omega

/-- The first of two jobs is enqueued, and no other one is. -/
theorem active_within_capacity_pair :
    let actions : List SystemAction :=
      [.restart [], .serve (.delay pairGraph), .processNotification "a", .getJobsToRun 1,
        .setJobEnqueued 1]
    (runSteps (step "db") (start Session.narrow) actions).server.isIn "a" .enqueued ∧
      (({"a"} : Finset String).card : ℤ) ≤ 1 := by
  intro actions
  have enqueued : (runSteps (step "db") (start Session.narrow) actions).server.isIn "a" .enqueued =
      true := by decide +kernel
  refine ⟨enqueued, active_within_capacity "db" Session.narrow actions ?_ [] 1 Session.narrow.root
    rfl one_pos _ fun uuid member => ?_⟩
  · refine ⟨fun uuid found => ?_, trivial, trivial, trivial, trivial, trivial⟩
    cases found
  · obtain ⟨stored, found, state⟩ := JobServer.isIn_iff.mp enqueued
    rw [Finset.mem_singleton.mp member]
    exact ⟨stored, found, state ▸ rfl, List.nil_suffix⟩

end QueueSystem

end OdooConnector.Queue
