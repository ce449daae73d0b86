import OdooConnector.Queue.ChannelMirror
import OdooConnector.Queue.SystemCapacity

/-!
# What the runner knows

No write to the table is lost on the runner. Of every job it has an unread notification, or is about
to set it enqueued, or has it where the state of its row tells.
-/

namespace OdooConnector.Queue

namespace JobTable

variable {table before middle after : JobTable} {uuid : String} {now : ℚ} {job : Job}

def state? (table : JobTable) (uuid : String) : Option JobState :=
  (table.row uuid).map StoredJob.state

/-- Rows that change are notified, but for done jobs that are deleted. -/
def Tells (before after : JobTable) : Prop :=
  ∀ uuid, before.notified uuid ≤ after.notified uuid ∧
    (after.row uuid = before.row uuid ∨ after.notified uuid ≠ 0 ∨
      (before.state? uuid = some .done ∧ after.row uuid = none))

theorem Tells.refl (table : JobTable) : Tells table table := fun _ => ⟨le_rfl, .inl rfl⟩

theorem Tells.trans (front : Tells before middle) (back : Tells middle after) :
    Tells before after := by
  intro uuid
  obtain ⟨more, first⟩ := front uuid
  obtain ⟨more', second⟩ := back uuid
  refine ⟨more.trans more', ?_⟩
  rcases second with same | told | ⟨done, gone⟩
  · rw [same]
    rcases first with same | told | deleted
    · exact .inl same
    · exact .inr (.inl (Nat.ne_zero_of_lt ((Nat.pos_of_ne_zero told).trans_le more')))
    · exact .inr (.inr deleted)
  · exact .inr (.inl told)
  · rcases first with same | told | ⟨-, gone'⟩
    · rw [state?, same] at done
      exact .inr (.inr ⟨done, gone⟩)
    · exact .inr (.inl (Nat.ne_zero_of_lt ((Nat.pos_of_ne_zero told).trans_le more')))
    · rw [state?, gone'] at done
      cases done

theorem tells_write {change : String → Option (Option StoredJob)} :
    Tells table (table.write change) := by
  intro uuid
  refine ⟨Nat.le_add_right _ _, ?_⟩
  dsimp only [write]
  cases change uuid with
  | none => exact .inl rfl
  | some row =>
      cases row with
      | some stored => exact .inr (.inl (Nat.succ_ne_zero _))
      | none =>
          cases found : table.row uuid with
          | none => exact .inl rfl
          | some stored =>
              by_cases done : stored.state = .done
              · exact .inr (.inr ⟨by rw [state?, found, Option.map_some, done], rfl⟩)
              · refine .inr (.inl ?_)
                simp [done]

theorem tells_updateWhere (selects : String → StoredJob → Bool) (change : StoredJob → StoredJob) :
    Tells table (table.updateWhere selects change) := tells_write

theorem tells_store (job : Job) : Tells table (table.store job) :=
  @tells_write table fun other =>
    if other = job.uuid then some (some (table.storedValues job)) else none

theorem tells_foldl_store (jobs : List Job) : Tells table (jobs.foldl JobTable.store table) :=
  foldl_preserves _ (Tells table) jobs (.refl _) fun _ job tells => tells.trans (tells_store job)

theorem tells_changeToDone (result : Option String) :
    Tells table (table.changeToDone now uuid result) := by
  rw [changeToDone]
  split
  · exact (tells_store _).trans (tells_updateWhere _ _)
  · exact .refl _

theorem tells_changeToCancelled (result : Option String) :
    Tells table (table.changeToCancelled now uuid result) := by
  rw [changeToCancelled]
  split
  · exact (tells_store _).trans (tells_updateWhere _ _)
  · exact .refl _

theorem tells_changeToPending (result : Option String) :
    Tells table (table.changeToPending uuid result) := by
  rw [changeToPending]
  split
  · exact tells_store _
  · exact .refl _

/-- Every step notifies the rows that it changes. -/
theorem tells_moves {server after : JobServer} {action : ServerAction}
    (moves : server.Moves action after) : Tells server.table after.table := by
  cases moves with
  | idle => exact .refl _
  | delay new => exact tells_foldl_store _
  | setJobEnqueued => exact tells_updateWhere _ _
  | requeueDeadJobs => exact tells_updateWhere _ _
  | begin free found enqueued loaded => exact tells_store _
  | wait worker started => exact .refl _
  | giveUp own found early => exact tells_store _
  | lock worker free => exact .refl _
  | commit worker same fresh => exact tells_store _
  | abandon worker => exact .refl _
  | postpone worker same => exact tells_store _
  | fail worker same same' state => exact tells_store _
  | close worker => exact .refl _
  | release worker => exact tells_updateWhere _ _
  | crash found => split_ifs <;> exact .refl _
  | changeToDone => exact tells_changeToDone _
  | changeToCancelled => exact tells_changeToCancelled _
  | changeToPending moves => exact tells_changeToPending _
  | autovacuum => exact tells_write

/-- The job that is set enqueued is notified if it is there. -/
theorem notified_setJobEnqueued (found : (table.row uuid).isSome) :
    (table.setJobEnqueued now uuid).notified uuid ≠ 0 := by
  obtain ⟨stored, found⟩ := Option.isSome_iff_exists.mp found
  have notified : (table.setJobEnqueued now uuid).notified uuid = table.notified uuid + 1 := by
    rw [setJobEnqueued, updateWhere, write]
    simp [found, Option.filter]
  rw [notified]
  exact Nat.succ_ne_zero _

end JobTable

namespace QueueSystem

open JobTable ChannelManager

variable {dbName : String} {table : JobTable} {originOf : String → JobOrigin}
  {least : List ChannelPath} {session : Session} {uuid other : String} {system : QueueSystem}
  {tree : ChannelTree}

/-- The runner has yet to read of the job, or to set it enqueued, or it knows where it is. -/
def Follows (system : QueueSystem) : Prop :=
  ∀ uuid, system.server.table.notified uuid ≠ 0 ∨
    (uuid ∈ system.toEnqueue ∧ (system.server.table.state? uuid = some .pending ∨
      system.server.table.state? uuid = some .waitDependencies)) ∨
    (uuid ∉ system.toEnqueue ∧
      system.session.manager.Mirrors uuid (system.server.table.state? uuid))

/-- The job of a row that is read is mirrored. -/
theorem mirrors_readRow (reads : Reads dbName table originOf least session)
    (root : table.isActive uuid → (readRow dbName table session uuid).manager.RunsInRoot uuid) :
    (readRow dbName table session uuid).manager.Mirrors uuid (table.state? uuid) := by
  cases found : table.row uuid with
  | none =>
      rw [readRow, found, state?, found]
      exact mirrors_removeJob reads.kept
  | some stored =>
      have active := @runs_notification dbName table uuid stored found
      rw [state?, found, Option.map_some]
      cases runs : stored.state.runs with
      | true =>
          have root := root (active.symm.trans runs)
          cases state : stored.state with
          | enqueued => exact root
          | started => exact root
          | waitDependencies => simp [state, JobState.runs] at runs
          | pending => simp [state, JobState.runs] at runs
          | done => simp [state, JobState.runs] at runs
          | cancelled => simp [state, JobState.runs] at runs
          | failed => simp [state, JobState.runs] at runs
      | false =>
          rw [readRow, found]
          refine @mirrors_notify session.manager (notification uuid dbName stored) stored.state
            reads.kept (fun job known same => ?_) rfl runs
          have resolved := reads.resolves job known
          have origin := reads.rows uuid stored found
          have same : (session.manager.job job).uuid = uuid := same
          refine ⟨resolved.dbName, ?_⟩
          rw [resolved.dateCreated, same, ← origin]
          rfl

/-- Reading a row leaves other jobs where they are. -/
theorem spares_readRow (kept : session.manager.Kept) (apart : other ≠ uuid) :
    Spares uuid session.manager (readRow dbName table session other).manager := by
  rw [readRow]
  split
  · obtain ⟨queued, running, failed⟩ := @spares_notify session.manager uuid
      (notification other dbName _) kept apart
    exact ⟨queued, running, failed⟩
  · obtain ⟨queued, running, failed⟩ := @spares_removeJob session.manager uuid other apart
    exact ⟨queued, running, failed⟩

/-- All jobs whose rows are read are mirrored, and those that were still are. -/
theorem mirrors_foldl (uuids : List String) (reads : Reads dbName table originOf least session)
    (rereads : Rereads table session) (found : ∀ uuid ∈ uuids, (table.row uuid).isSome)
    (some : uuid ∈ uuids ∨ session.manager.Mirrors uuid (table.state? uuid)) :
    (uuids.foldl (readRow dbName table) session).manager.Mirrors uuid (table.state? uuid) := by
  induction uuids generalizing session with
  | nil => exact some.resolve_left List.not_mem_nil
  | cons first uuids induction =>
      rw [List.forall_mem_cons] at found
      obtain ⟨stored, row⟩ := Option.isSome_iff_exists.mp found.1
      refine induction (reads.readRow first).1 (rereads.readRow reads.kept row) found.2 ?_
      by_cases same : first = uuid
      · subst same
        exact .inr (mirrors_readRow reads fun active => rereads.runsInRoot reads.kept row active)
      · rcases some with listed | mirrors
        · exact .inl ((List.mem_cons.mp listed).resolve_left (Ne.symm same))
        · exact .inr (((spares_readRow reads.kept same).mirrors_iff _).mpr mirrors)

/-- The server changes no row unnoticed, and no job is forgotten that was to be enqueued. -/
theorem Follows.server (follows : system.Follows) (action : ServerAction) {toEnqueue : List String}
    (fewer : ∀ uuid ∈ toEnqueue, uuid ∈ system.toEnqueue)
    (told : ∀ uuid ∈ system.toEnqueue, uuid ∉ toEnqueue →
      (system.server.table.row uuid).isSome → (system.server.step action).table.notified uuid ≠ 0) :
    Follows ⟨system.server.step action, system.session, toEnqueue⟩ := by
  intro uuid
  obtain ⟨more, changed⟩ := tells_moves (system.server.moves_step action) uuid
  rcases follows uuid with unread | ⟨handed, waits⟩ | ⟨free, mirrors⟩
  · exact .inl (Nat.ne_zero_of_lt ((Nat.pos_of_ne_zero unread).trans_le more))
  · by_cases still : uuid ∈ toEnqueue
    · rcases changed with same | unread | ⟨done, -⟩
      · refine .inr (.inl ⟨still, ?_⟩)
        rwa [state?, same]
      · exact .inl unread
      · rw [done] at waits
        rcases waits with same | same <;> cases same
    · refine .inl (told uuid handed still ?_)
      cases found : system.server.table.row uuid with
      | some stored => rfl
      | none =>
          rw [state?, found] at waits
          rcases waits with same | same <;> cases same
  · have free : uuid ∉ toEnqueue := fun member => free (fewer uuid member)
    rcases changed with same | unread | ⟨done, gone⟩
    · refine .inr (.inr ⟨free, ?_⟩)
      rwa [state?, same]
    · exact .inl unread
    · refine .inr (.inr ⟨free, ?_⟩)
      rw [done] at mirrors
      rw [state?, gone]
      exact mirrors

theorem follows_start (tree : ChannelTree) : (start tree).Follows := by
  refine fun uuid => .inr (.inr ⟨List.not_mem_nil, ?_⟩)
  rintro place ⟨job, -, holds⟩
  exact List.not_mem_nil ((Session.kept_start tree).known place job holds)

theorem Follows.step (follows : system.Follows) (bounded : Bounded dbName tree system)
    (action : SystemAction) (readsAll : system.ReadsAll action) :
    (step dbName system action).Follows := by
  obtain ⟨originOf, -, reads⟩ := bounded.channels
  cases action with
  | serve action =>
      rw [QueueSystem.step]
      split_ifs with runner
      · exact follows
      · exact follows.server action (fun _ => id) fun uuid handed gone => absurd handed gone
  | processNotification first =>
      rw [QueueSystem.step, processNotification]
      split_ifs with idle
      · intro uuid
        by_cases same : first = uuid
        · subst same
          refine .inr (.inr ⟨idle.1 ▸ List.not_mem_nil, ?_⟩)
          exact mirrors_readRow reads fun active =>
            runsInRoot_readRow reads.kept active (bounded.active first (.inl active))
        · have notified : (system.server.table.popNotification first).notified uuid =
              system.server.table.notified uuid := Function.update_of_ne (Ne.symm same) _ _
          rcases follows uuid with unread | ⟨handed, -⟩ | ⟨free, mirrors⟩
          · exact .inl (notified.trans_ne unread)
          · rw [idle.1] at handed
            exact absurd handed List.not_mem_nil
          · exact .inr (.inr ⟨free, ((spares_readRow reads.kept same).mirrors_iff _).mpr mirrors⟩)
      · exact follows
  | getJobsToRun now =>
      rw [QueueSystem.step, getJobsToRun]
      split_ifs with idle
      · intro uuid
        rcases follows uuid with unread | ⟨handed, -⟩ | ⟨-, mirrors⟩
        · exact .inl unread
        · rw [idle] at handed
          exact absurd handed List.not_mem_nil
        · by_cases handed : uuid ∈ system.session.handsOut now
          · exact .inr (.inl ⟨handed, Session.pending_of_handsOut reads.kept mirrors handed⟩)
          · exact .inr (.inr ⟨handed, Session.mirrors_getJobsToRun reads.kept mirrors handed⟩)
      · exact follows
  | setJobEnqueued now =>
      rw [QueueSystem.step, setJobEnqueued]
      split
      · rename_i first uuids handed
        refine follows.server _ (fun other listed => ?_) fun other listed gone found => ?_
        · rw [handed]
          exact List.mem_cons_of_mem _ listed
        · rw [handed, List.mem_cons] at listed
          obtain rfl := listed.resolve_right gone
          exact notified_setJobEnqueued found
      · exact follows
  | restart uuids =>
      obtain ⟨again, rereads⟩ := reads.restart
      refine fun uuid => .inr (.inr ⟨List.not_mem_nil, ?_⟩)
      refine mirrors_foldl _ again rereads
        (fun uuid member => Option.isSome_of_any (List.mem_filter.mp member).2) ?_
      have nothing (place : ChannelPath) :
          ¬ Somewhere Holds (system.session.step (.removeDb dbName)).manager uuid place := by
        rintro ⟨job, -, holds⟩
        have known := again.kept.known place job holds
        rw [removeDb_empty reads] at known
        exact List.not_mem_nil known
      cases found : system.server.table.row uuid with
      | none =>
          right
          rw [state?, found]
          exact nothing
      | some stored =>
          cases notDone : stored.state.notDone with
          | true =>
              left
              have listed : (system.server.table.row uuid).any fun job => job.state.notDone := by
                rw [found]
                exact notDone
              exact List.mem_filter.mpr ⟨readsAll uuid listed, listed⟩
          | false =>
              right
              rw [state?, found, Option.map_some]
              cases state : stored.state with
              | done => exact nothing
              | cancelled => exact nothing
              | waitDependencies => simp [state, JobState.notDone] at notDone
              | pending => simp [state, JobState.notDone] at notDone
              | enqueued => simp [state, JobState.notDone] at notDone
              | started => simp [state, JobState.notDone] at notDone
              | failed => simp [state, JobState.notDone] at notDone

/-- In every run, the runner has a job in the queue of a channel while its row is pending, running
while it is enqueued or started, among the failed ones while it has failed, and nowhere when it is
done, cancelled or gone, as soon as it has read all notifications of that row and is not about to
set the job enqueued. -/
theorem runner_up_to_date (dbName : String) (tree : ChannelTree) (actions : List SystemAction)
    (readsAll : Along (step dbName) ReadsAll (start tree) actions) (uuid : String)
    (read : (runSteps (step dbName) (start tree) actions).server.table.notified uuid = 0)
    (free : uuid ∉ (runSteps (step dbName) (start tree) actions).toEnqueue) :
    (runSteps (step dbName) (start tree) actions).session.manager.Mirrors uuid
      ((runSteps (step dbName) (start tree) actions).server.table.state? uuid) := by
  have both : Bounded dbName tree (runSteps (step dbName) (start tree) actions) ∧
      (runSteps (step dbName) (start tree) actions).Follows := by
    refine @runSteps_invariant _ _ (step dbName) ReadsAll
      (fun system => Bounded dbName tree system ∧ system.Follows) _ _
      (fun system action held meets => ?_)
      ⟨bounded_start dbName tree, follows_start tree⟩ readsAll
    exact ⟨held.1.step action meets, held.2.step held.1 action meets⟩
  rcases both.2 uuid with unread | ⟨handed, -⟩ | ⟨-, mirrors⟩
  · exact absurd read unread
  · exact absurd handed free
  · exact mirrors

/-- The first of two jobs has been read of, and waits in a queue. -/
theorem runner_up_to_date_pair :
    let system := runSteps (step "db") (start Session.narrow)
      [.restart [], .serve (.delay pairGraph), .processNotification "a"]
    ∃ place, Somewhere Queued system.session.manager "a" place := by
  intro system
  have pending : system.server.table.state? "a" = some .pending := by decide +kernel
  have readsAll : Along (step "db") ReadsAll (start Session.narrow)
      [.restart [], .serve (.delay pairGraph), .processNotification "a"] := by
    refine ⟨fun uuid found => ?_, trivial, trivial, trivial⟩
    cases found
  have mirrors := runner_up_to_date "db" Session.narrow _ readsAll "a" (by decide +kernel)
    (by decide +kernel)
  have same : system.session.manager.Mirrors "a" (some .pending) := pending ▸ mirrors
  exact same

end QueueSystem

end OdooConnector.Queue
