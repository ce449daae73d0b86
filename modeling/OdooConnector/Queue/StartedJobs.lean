import OdooConnector.Queue.ChannelCapacity

/-!
# Started jobs

A job that is notified as running leaves all queues, unless its channel passed it up and it waits in
the queue of a parent: there it stays, and is handed out again.
-/

namespace OdooConnector.Queue

namespace ChannelManager

variable {manager before middle after : ChannelManager} {job other : ℕ}
  {path place : ChannelPath} {uuid : String} {now : ℚ} {row : Notification}

/-- A row of another database, or with another creation date, raises an error. -/
def Rejects (manager : ChannelManager) (row : Notification) : Prop :=
  ∃ job, manager.jobOf row.uuid = some job ∧
    ((manager.job job).dbName ≠ row.dbName ∨ (manager.job job).dateCreated ≠ row.dateCreated)

/-- No job of a uuid waits in a queue. -/
def Unqueued (manager : ChannelManager) (uuid : String) : Prop :=
  ∀ place job, (manager.job job).uuid = uuid → ¬ manager.Queued place job

/-- The job of a uuid runs in its channel and in all parents of that, and waits in no queue. -/
structure RunsOnly (manager : ChannelManager) (uuid : String) : Prop where
  runs : ∃ job, manager.jobOf uuid = some job ∧
    ∀ place, place <:+ (manager.job job).channel → manager.Running place job
  unqueued : manager.Unqueued uuid

/-- A job that its channel passed up waits in the queue of a parent. -/
def PassedUp (manager : ChannelManager) (job : ℕ) : Prop :=
  ∃ place, place ≠ (manager.job job).channel ∧ manager.Queued place job

section Started

/-- A job that runs in the root runs in all channels of its path, and is in no queue. -/
theorem Kept.runsOnly (kept : Kept manager) (running : manager.Running [] job)
    (same : (manager.job job).uuid = uuid) : manager.RunsOnly uuid := by
  have known := kept.known [] job (Or.inr (Or.inl running))
  have everywhere (place : ChannelPath) (onPath : place <:+ (manager.job job).channel) :
      manager.Running place job := (kept.placed job).running_of_root running onPath
  refine ⟨⟨job, kept.jobOf known same, everywhere⟩, fun place other same' queued => ?_⟩
  have known' := kept.known place other (Or.inl queued)
  obtain rfl := kept.uuid_unique known known' (same.trans same'.symm)
  exact (kept.placed job).queued_running place queued
    (everywhere place (kept.onPath (Or.inl queued)))

/-- A job that runs in its channel runs in the root, or was passed up. -/
theorem Kept.running_root (kept : Kept manager)
    (running : manager.Running (manager.job job).channel job) :
    manager.Running [] job ∨ manager.PassedUp job := by
  have climb (place : ChannelPath) (here : manager.Running place job) :
      manager.Running [] job ∨ ∃ place, manager.Queued place job := by
    induction place with
    | nil => exact Or.inl here
    | cons name place induction =>
        cases (kept.placed job).above name place here with
        | inl queued => exact Or.inr ⟨place, queued⟩
        | inr runs => exact induction runs
  cases climb _ running with
  | inl root => exact Or.inl root
  | inr waits =>
      obtain ⟨place, queued⟩ := waits
      refine Or.inr ⟨place, fun same => ?_, queued⟩
      exact (kept.placed job).queued_running place queued (same ▸ running)

theorem Kept.not_passedUp (kept : Kept manager)
    (idle : ¬ manager.Running (manager.job job).channel job) : ¬ manager.PassedUp job :=
  fun ⟨_, inner, queued⟩ => inner ((kept.placed job).eq_path idle (Or.inl queued))

/-- Starting a job takes it out of all queues where it was not passed up. -/
theorem runsOnly_setRunning_iff (kept : Kept manager) (found : manager.jobOf uuid = some job) :
    (setRunning job (manager.job job).channel manager).RunsOnly uuid ↔ ¬ manager.PassedUp job := by
  obtain ⟨known, same⟩ := jobOf_eq_some found
  by_cases running : manager.Running (manager.job job).channel job
  · rw [setRunning_of_running running]
    constructor
    · exact fun runs ⟨place, _, queued⟩ => runs.unqueued place job same queued
    · exact fun waits => kept.runsOnly ((kept.running_root running).resolve_right waits) same
  · have idle : ∀ place, place <:+ (manager.job job).channel → ¬ manager.Running place job :=
      fun place _ => kept.not_running running
    have root : (setRunning job (manager.job job).channel manager).Running [] job := by
      rw [Running, channel_setRunning idle, if_pos List.nil_suffix]
      exact Finset.mem_insert_self _ _
    refine iff_of_true ((kept.setRunning known).runsOnly root ?_) (kept.not_passedUp running)
    rw [(frame_setRunning.sameJob job).uuid, same]

theorem runsOnly_updateJob_iff (kept : Kept manager) (listed : path ∈ manager.paths)
    (runs : row.runs) (accepted : ¬ manager.Rejects row) :
    (updateJob path row manager).RunsOnly row.uuid ↔
      ∀ job, manager.jobOf row.uuid = some job → manager.PassedUp job →
        changed (manager.job job) path row := by
  have updated : Kept (updateJob path row manager) := kept.updateJob listed
  cases found : manager.jobOf row.uuid with
  | none =>
      have after : updateJob path row manager = manager.create path row := by
        rw [updateJob, found]
      rw [after] at updated ⊢
      have root : (manager.create path row).Running [] manager.nextJob :=
        running_create kept listed (fun job known => jobOf_eq_none found known) runs
      refine iff_of_true (updated.runsOnly root uuid_create) fun job known => ?_
      cases known
  | some job =>
      obtain ⟨known, same⟩ := jobOf_eq_some found
      have own : ¬ ((manager.job job).dbName ≠ row.dbName ∨
          (manager.job job).dateCreated ≠ row.dateCreated) :=
        fun other => accepted ⟨job, found, other⟩
      cases renewed : changed (manager.job job) path row with
      | true =>
          have after : updateJob path row manager = (manager.dropJob job).create path row := by
            rw [updateJob, found]
            simp only [own, renewed, if_true, if_false, removeJob_eq found]
          rw [after] at updated ⊢
          have root : ((manager.dropJob job).create path row).Running []
              (manager.dropJob job).nextJob := by
            refine running_create (kept.dropJob known) (by rwa [paths_dropJob]) ?_ runs
            rw [← same]
            exact kept.absent_dropJob known
          refine iff_of_true (updated.runsOnly root uuid_create) fun job' same' _ => ?_
          obtain rfl := Option.some_inj.mp same'
          exact renewed
      | false =>
          have after : updateJob path row manager =
              setRunning job (manager.job job).channel manager := by
            rw [updateJob, found]
            simp only [own, renewed, Bool.false_eq_true, if_false]
            exact transition_of_runs runs
          rw [after, runsOnly_setRunning_iff kept found]
          constructor
          · intro waits job' same' passed
            obtain rfl := Option.some_inj.mp same'
            exact absurd passed waits
          · intro renews passed
            have changes := renews job rfl passed
            rw [renewed] at changes
            cases changes

theorem Opens.jobOf (opens : Opens before after) (uuid : String) :
    after.jobOf uuid = before.jobOf uuid := by
  rw [ChannelManager.jobOf, ChannelManager.jobOf, opens.jobsByUuid, opens.job]

theorem Opens.rejects_iff (opens : Opens before after) :
    after.Rejects row ↔ before.Rejects row := by
  simp only [Rejects, opens.jobOf, opens.job]

theorem Opens.passedUp_iff (opens : Opens before after) (kept : Kept before) :
    after.PassedUp job ↔ before.PassedUp job := by
  simp only [PassedUp, opens.job, opens.queued_iff kept]

theorem RunsOnly.collect (runs : manager.RunsOnly uuid) (kept : Kept manager) :
    manager.collect.RunsOnly uuid := by
  obtain ⟨job, found, everywhere⟩ := runs.runs
  refine ⟨⟨job, ?_, everywhere⟩, runs.unqueued⟩
  exact kept.collect.jobOf
    (kept.collect.known _ job (Or.inr (Or.inl (everywhere _ List.suffix_rfl))))
    (jobOf_eq_some found).2

/-- Forgetting jobs that are nowhere does not make a job run. -/
theorem RunsOnly.of_collect (runs : manager.collect.RunsOnly uuid) (kept : Kept manager) :
    manager.RunsOnly uuid := by
  obtain ⟨job, found, everywhere⟩ := runs.runs
  refine ⟨⟨job, ?_, everywhere⟩, runs.unqueued⟩
  exact kept.jobOf (kept.known _ job (Or.inr (Or.inl (everywhere _ List.suffix_rfl))))
    (jobOf_eq_some found).2

/-- A row that reports a job as running takes it out of all queues exactly where the job was not
passed up, or is replaced. -/
theorem runsOnly_notify_iff (kept : Kept manager) (runs : row.runs)
    (accepted : ¬ manager.Rejects row) :
    (manager.notify row).collect.RunsOnly row.uuid ↔
      ∀ job, manager.jobOf row.uuid = some job → manager.PassedUp job →
        changed (manager.job job) (manager.getChannelByName row.channelName).1 row := by
  obtain ⟨opens, listed⟩ := getChannelByName_opens kept.root row.channelName
  have updated := runsOnly_updateJob_iff (kept.opens opens) listed runs
    (opens.rejects_iff.not.mpr accepted)
  simp only [opens.jobOf, opens.job, opens.passedUp_iff kept] at updated
  rw [← updated]
  exact ⟨fun runs => runs.of_collect kept.notify, fun runs => runs.collect kept.notify⟩

end Started

section Unqueued

/-- All jobs in the queues were in queues before, under the same uuid, and so were the jobs that are
handed to the runner. -/
structure FromQueues (before after : ChannelManager) : Prop where
  queued : ∀ place job, after.Queued place job → ∃ place, before.Queued place job
  sameJob : ∀ job, SameJob (before.job job) (after.job job)
  yielded : ∃ handed, after.yielded = before.yielded ++ handed ∧
    ∀ job ∈ handed, ∃ place, before.Queued place job

theorem FromQueues.refl (manager : ChannelManager) : FromQueues manager manager :=
  ⟨fun place _ queued => ⟨place, queued⟩, fun _ => SameJob.refl _, [], by simp, by simp⟩

theorem FromQueues.trans (front : FromQueues before middle) (back : FromQueues middle after) :
    FromQueues before after := by
  refine ⟨fun place job queued => ?_, fun job => (front.sameJob job).trans (back.sameJob job), ?_⟩
  · obtain ⟨middlePlace, waits⟩ := back.queued place job queued
    exact front.queued middlePlace job waits
  · obtain ⟨first, same, waits⟩ := front.yielded
    obtain ⟨second, same', waits'⟩ := back.yielded
    refine ⟨first ++ second, by rw [same', same, List.append_assoc], fun job member => ?_⟩
    cases List.mem_append.mp member with
    | inl member => exact waits job member
    | inr member =>
        obtain ⟨place, queued⟩ := waits' job member
        exact front.queued place job queued

theorem FromQueues.of_frame (frame : Frame none before after)
    (yielded : after.yielded = before.yielded) : FromQueues before after :=
  ⟨fun place _ queued => ⟨place, (frame.queued_iff (by simp)).mp queued⟩, frame.sameJob,
    [], by simp [yielded], by simp⟩

theorem FromQueues.unqueued (origin : FromQueues before after) (unqueued : before.Unqueued uuid) :
    after.Unqueued uuid := by
  intro place job same queued
  obtain ⟨earlier, waits⟩ := origin.queued place job queued
  exact unqueued earlier job ((origin.sameJob job).uuid.symm.trans same) waits

theorem fromQueues_setPause (path : ChannelPath) (pause : ℚ) :
    FromQueues manager (manager.setPause path pause) :=
  FromQueues.of_frame (Frame.modify ⟨fun _ _ => Iff.rfl, fun _ _ => Iff.rfl, fun _ _ => Iff.rfl,
    rfl, id⟩) rfl

theorem fromQueues_advance (kept : Kept manager)
    (popped : (manager.popJob path now).1 = some job) :
    FromQueues manager (advance job path now manager) := by
  have frame := frame_advance kept popped
  have own := queued_of_popJob kept popped
  refine ⟨fun place other queued => ?_, frame.sameJob, _, yielded_advance, fun other member => ?_⟩
  · by_cases same : other = job
    · exact ⟨path, same ▸ own⟩
    · exact ⟨place, (frame.queued_iff (Option.some_inj.not.mpr same)).mp queued⟩
  · split at member
    · exact ⟨path, List.mem_singleton.mp member ▸ own⟩
    · cases member

theorem fromQueues_yieldSubtree (kept : Kept manager) (fuel : ℕ) :
    FromQueues manager (yieldSubtree now fuel path manager) := by
  have turns (path : ChannelPath) :
      Turns path now fun current => Kept current ∧ FromQueues manager current := by
    constructor
    · intro current held nothing
      refine ⟨(yields_popJob_none held.1 nothing).kept, held.2.trans ?_⟩
      exact FromQueues.of_frame (frame_popJob held.1 nothing) rfl
    · intro current job held capacity popped
      exact ⟨(yields_advance held.1 popped capacity).kept,
        held.2.trans (fromQueues_advance held.1 popped)⟩
    · intro current pause held _
      exact ⟨(yields_setPause held.1 path pause).kept,
        held.2.trans (fromQueues_setPause path pause)⟩
  exact (yieldSubtree_preserves turns ⟨kept, FromQueues.refl _⟩ fuel).2

/-- A job that is removed from channels is in fewer queues. -/
theorem queued_of_remove (queued : (remove job path manager).Queued place other) :
    manager.Queued place other := by
  rw [Queued, channel_remove] at queued
  split at queued
  · exact (ChannelQueue.mem_remove.mp queued).1
  · exact queued

theorem queued_of_dropJob (queued : (manager.dropJob job).Queued place other) :
    manager.Queued place other := queued_of_remove queued

theorem queued_of_setRunning (queued : (setRunning job path manager).Queued place other) :
    manager.Queued place other := by
  induction path generalizing manager with
  | nil =>
      rw [setRunning] at queued
      split at queued
      · exact queued
      · rw [Queued, channel_modify] at queued
        split at queued
        · rename_i same
          exact same ▸ (ChannelQueue.mem_remove.mp queued).1
        · exact queued
  | cons name parent induction =>
      rw [setRunning] at queued
      split at queued
      · exact queued
      · have earlier := induction queued
        rw [Queued, channel_modify] at earlier
        split at earlier
        · rename_i same
          exact same ▸ (ChannelQueue.mem_remove.mp earlier).1
        · exact earlier

theorem queued_of_setFailed (queued : (manager.setFailed job path).Queued place other) :
    manager.Queued place other := by
  rw [setFailed] at queued
  split at queued
  · exact queued
  · rw [Queued, channel_removeAbove_modify] at queued
    split at queued
    · rename_i same
      exact same ▸ (ChannelQueue.mem_remove.mp queued).1
    · split at queued
      · exact (ChannelQueue.mem_remove.mp queued).1
      · exact queued

/-- Only the transition to pending puts a job into a queue. -/
theorem queued_of_transition {state : Option JobState} (moves : state ≠ some .pending)
    (queued : (manager.transition job state).Queued place other) : manager.Queued place other := by
  cases state with
  | none => exact queued_of_remove queued
  | some state =>
      cases state with
      | pending => exact absurd rfl moves
      | enqueued => exact queued_of_setRunning queued
      | started => exact queued_of_setRunning queued
      | failed => exact queued_of_setFailed queued
      | done => exact queued_of_remove queued
      | cancelled => exact queued_of_remove queued
      | waitDependencies => exact queued

/-- A row of another uuid, or of a state other than pending, does not put the job of a uuid into a
queue. -/
theorem Unqueued.create (kept : Kept manager) (unqueued : manager.Unqueued uuid)
    (spares : row.uuid = uuid → row.state ≠ some .pending) :
    (manager.create path row).Unqueued uuid := by
  intro place job same queued
  have fresh : ∀ place, ¬ manager.Queued place manager.nextJob := fun place queued =>
    Nat.lt_irrefl _ (kept.fresh _ (kept.known place _ (Or.inl queued)))
  have frame : Frame (some manager.nextJob) (manager.newJob path row) (manager.create path row) :=
    frame_transition row.state
  rw [(frame.sameJob job).uuid] at same
  by_cases new : job = manager.nextJob
  · subst new
    have own : row.uuid = uuid := by simpa [newJob] using same
    have earlier : (manager.newJob path row).Queued place manager.nextJob :=
      queued_of_transition (spares own) queued
    exact fresh place earlier
  · have older : ((manager.newJob path row).job job).uuid = (manager.job job).uuid :=
      congrArg ChannelJob.uuid (Function.update_of_ne new _ _)
    exact unqueued place job (older ▸ same)
      ((frame.queued_iff (Option.some_inj.not.mpr new)).mp queued)

theorem Unqueued.dropJob (unqueued : manager.Unqueued uuid) :
    (manager.dropJob job).Unqueued uuid := fun place other same queued =>
  unqueued place other ((frame_dropJob_sameJob.uuid).symm.trans same) (queued_of_dropJob queued)

theorem Unqueued.transition (unqueued : manager.Unqueued uuid) {state : Option JobState}
    (spares : (manager.job job).uuid = uuid → state ≠ some .pending) :
    (manager.transition job state).Unqueued uuid := by
  intro place other same queued
  have frame : Frame (some job) manager (manager.transition job state) := frame_transition state
  rw [(frame.sameJob other).uuid] at same
  by_cases own : other = job
  · subst own
    exact unqueued place other same (queued_of_transition (spares same) queued)
  · exact unqueued place other same ((frame.queued_iff (Option.some_inj.not.mpr own)).mp queued)

theorem Unqueued.notify (kept : Kept manager) (unqueued : manager.Unqueued uuid)
    (spares : row.uuid = uuid → row.state ≠ some .pending) :
    (manager.notify row).Unqueued uuid := by
  obtain ⟨opens, -⟩ := getChannelByName_opens kept.root row.channelName
  have opened : (manager.getChannelByName row.channelName).2.Unqueued uuid := by
    intro place job same queued
    rw [opens.job] at same
    exact unqueued place job same ((opens.queued_iff kept).mp queued)
  have kept := kept.opens opens
  rw [notify_eq, updateJob]
  split
  · exact opened.create kept spares
  · rename_i job found
    obtain ⟨known, same⟩ := jobOf_eq_some found
    split
    · exact opened
    · split
      · rw [removeJob_eq found]
        exact opened.dropJob.create (kept.dropJob known) spares
      · exact opened.transition fun own => spares (same.symm.trans own)

end Unqueued

end ChannelManager

namespace Session

variable {session : Session} {action : ManagerAction} {uuid : String}

/-- The uuids of the jobs that are handed to the runner. -/
def handsOut (session : Session) (now : ℚ) : List String :=
  let manager := session.manager.getJobsToRun now
  (manager.yielded.drop session.manager.yielded.length).map fun job => (manager.job job).uuid

/-- A row that reports a job as running leaves it running in all its channels, and in no queue. -/
def StartRuns (session : Session) : ManagerAction → Prop
  | .notify row => row.runs → ¬ session.manager.Rejects row →
      (session.step (.notify row)).manager.RunsOnly row.uuid
  | _ => True

/-- A row that reports a job as running replaces it where its channel passed it up and it waits in
the queue of a parent. -/
def StartsInPlace (session : Session) : ManagerAction → Prop
  | .notify row => row.runs → ¬ session.manager.Rejects row →
      ∀ job, session.manager.jobOf row.uuid = some job → session.manager.PassedUp job →
        ChannelManager.changed (session.manager.job job)
          (session.manager.getChannelByName row.channelName).1 row
  | _ => True

/-- A row that reports the job of a uuid as pending. -/
def Repends (uuid : String) (action : ManagerAction) : Prop :=
  ∃ row, action = .notify row ∧ row.uuid = uuid ∧ row.state = some .pending

/-- A job that was reported as running is not handed out before it is reported as pending. -/
def NotYieldedAgain (session : Session) (actions : List ManagerAction) : Prop :=
  ∀ before row between now after,
    actions = before ++ .notify row :: (between ++ .getJobsToRun now :: after) → row.runs →
      ¬ (runSteps step session before).manager.Rejects row →
      (∀ action ∈ between, ¬ Repends row.uuid action) →
      row.uuid ∉ (runSteps step session (before ++ .notify row :: between)).handsOut now

theorem startRuns_iff (kept : session.manager.Kept) :
    session.StartRuns action ↔ session.StartsInPlace action := by
  cases action with
  | notify row =>
      refine forall_congr' fun runs => forall_congr' fun accepted => ?_
      exact ChannelManager.runsOnly_notify_iff kept runs accepted
  | removeJob uuid => exact Iff.rfl
  | removeDb dbName => exact Iff.rfl
  | getJobsToRun now => exact Iff.rfl

theorem unqueued_step (kept : session.manager.Kept) (unqueued : session.manager.Unqueued uuid)
    (spares : ¬ Repends uuid action) : (session.step action).manager.Unqueued uuid := by
  cases action with
  | notify row =>
      exact unqueued.notify kept fun own pending => spares ⟨row, rfl, own, pending⟩
  | removeJob other =>
      cases found : session.manager.jobOf other with
      | none =>
          rw [step, ChannelManager.removeJob, found]
          exact unqueued
      | some job =>
          rw [step, ChannelManager.removeJob_eq found]
          exact unqueued.dropJob
  | removeDb dbName =>
      have dropped (jobs : List ℕ) : ∀ {manager : ChannelManager}, manager.Unqueued uuid →
          (jobs.foldl (fun manager job => manager.dropJob job) manager).Unqueued uuid := by
        induction jobs with
        | nil => exact id
        | cons job jobs induction => exact fun unqueued => induction unqueued.dropJob
      exact dropped _ unqueued
  | getJobsToRun now =>
      exact (ChannelManager.fromQueues_yieldSubtree kept _).unqueued unqueued

/-- A job that is in no queue is not handed out. -/
theorem not_mem_handsOut (kept : session.manager.Kept) (unqueued : session.manager.Unqueued uuid)
    (now : ℚ) : uuid ∉ session.handsOut now := by
  intro member
  have origin : session.manager.FromQueues (session.manager.getJobsToRun now) :=
    ChannelManager.fromQueues_yieldSubtree kept _
  obtain ⟨job, yielded, same⟩ := List.mem_map.mp member
  obtain ⟨handed, parts, waits⟩ := origin.yielded
  rw [parts, List.drop_left] at yielded
  obtain ⟨place, queued⟩ := waits job yielded
  exact unqueued place job ((origin.sameJob job).uuid.symm.trans same) queued

theorem unqueued_runSteps {actions : List ManagerAction} (kept : session.manager.Kept)
    (unqueued : session.manager.Unqueued uuid)
    (spares : ∀ action ∈ actions, ¬ Repends uuid action) :
    (runSteps step session actions).manager.Unqueued uuid := by
  induction actions generalizing session with
  | nil => exact unqueued
  | cons action actions induction =>
      rw [List.forall_mem_cons] at spares
      exact induction (kept_step kept action) (unqueued_step kept unqueued spares.1) spares.2

theorem notYieldedAgain (tree : ChannelTree) {actions : List ManagerAction}
    (starts : Along step StartRuns (start tree) actions) :
    NotYieldedAgain (start tree) actions := by
  intro before row between now after parts runs accepted spares
  rw [parts, along_append] at starts
  have kept := kept_runSteps tree before
  have started := starts.2.1 runs accepted
  rw [runSteps_append, runSteps_cons]
  have kept' := kept_step kept (.notify row)
  have advance (session : Session) (action : ManagerAction) (kept : session.manager.Kept) :
      (session.step action).manager.Kept := kept_step kept action
  refine not_mem_handsOut ?_ (unqueued_runSteps kept' started.unqueued spares) now
  exact @runSteps_preserves _ _ _ (fun session : Session => session.manager.Kept) _ _ advance kept'

/-- In every run from channels without jobs the rows that report a job as running leave it running
in all its channels and in no queue, and it is not handed out before it is pending again, if and
only if every such row replaces the job where it had been passed up and waited in the queue of a
parent. -/
theorem started_not_yielded_iff (tree : ChannelTree) (actions : List ManagerAction) :
    Along step StartRuns (start tree) actions ∧ NotYieldedAgain (start tree) actions ↔
      Along step StartsInPlace (start tree) actions := by
  have agree : Along step StartRuns (start tree) actions ↔
      Along step StartsInPlace (start tree) actions :=
    along_iff (fun _ _ kept => startRuns_iff kept) (fun _ action kept _ => kept_step kept action)
      (kept_start tree)
  rw [← agree]
  exact ⟨And.left, fun starts => ⟨starts, notYieldedAgain tree starts⟩⟩

section Waiting

/-- A channel for two jobs in a root for one. -/
def narrow : ChannelTree where
  paths := [[], ["A"]]
  capacity := fun path => if path = [] then some 1 else some 2
  sequential := fun _ => false
  throttle := fun _ => 0
  root := List.mem_cons_self
  closed := by simp

/-- The first job runs, the second one waits in the queue of the root. -/
def fillRoot : List ManagerAction :=
  [.notify (row "A" "a" 10 .pending), .notify (row "A" "b" 10 .pending), .getJobsToRun 1]

/-- The first job is done. -/
def finishFirst : List ManagerAction := [.notify (row "A" "a" 10 .done)]

/-- The job that was started while it waited stays in the queue, and is handed out when the other
one is done. -/
theorem started_yielded_again :
    (runSteps step (start narrow) (fillRoot ++ [.notify (row "A" "b" 10 .started)])).manager.Queued
        [] 1 ∧
      ¬ Along step StartRuns (start narrow) (fillRoot ++ [.notify (row "A" "b" 10 .started)]) ∧
      (runSteps step (start narrow)
        (fillRoot ++ .notify (row "A" "b" 10 .started) :: finishFirst)).handsOut 2 = ["b"] ∧
      ¬ NotYieldedAgain (start narrow)
        (fillRoot ++ .notify (row "A" "b" 10 .started) :: (finishFirst ++ [.getJobsToRun 2])) := by
  have accepted : ¬ (runSteps step (start narrow) fillRoot).manager.Rejects
      (row "A" "b" 10 .started) := by
    intro ⟨job, found, other⟩
    have second : (runSteps step (start narrow) fillRoot).manager.jobOf "b" = some 1 := by
      decide +kernel
    obtain rfl := Option.some_inj.mp (second.symm.trans found)
    revert other
    decide +kernel
  have queued : (runSteps step (start narrow)
      (fillRoot ++ [.notify (row "A" "b" 10 .started)])).manager.Queued [] 1 := by
    unfold ChannelManager.Queued
    decide +kernel
  have handed : (runSteps step (start narrow)
      (fillRoot ++ .notify (row "A" "b" 10 .started) :: finishFirst)).handsOut 2 = ["b"] := by
    decide +kernel
  refine ⟨queued, fun starts => ?_, handed, fun spared => ?_⟩
  · have runs := ((along_append _ _).mp starts).2.1 rfl accepted
    exact runs.unqueued [] 1 (by decide +kernel) queued
  · refine spared fillRoot (row "A" "b" 10 .started) finishFirst 2 [] rfl rfl accepted ?_ ?_
    · intro action member ⟨row, same, own, _⟩
      rw [List.mem_singleton.mp member] at same
      cases same
      exact absurd own (by decide)
    · rw [handed]
      exact List.mem_singleton_self _

end Waiting

end Session

end OdooConnector.Queue
