import OdooConnector.Queue.ChannelLookup
import OdooConnector.Queue.StartedJobs

/-!
# Jobs that the channels know

A job that is known after a step was known before, or is that of the row that was notified. Channels
stay, and those that are opened are unlimited.
-/

namespace OdooConnector.Queue

namespace ChannelJob

/-- The job of a row. -/
structure IsOf (path : ChannelPath) (row : Notification) (job : ChannelJob) : Prop where
  dbName : job.dbName = row.dbName
  uuid : job.uuid = row.uuid
  channel : job.channel = path
  dateCreated : job.dateCreated = row.dateCreated

/-- The same job, which may have lost its eta. -/
structure Stays (before after : ChannelJob) : Prop extends SameJob before after where
  dateCreated : after.dateCreated = before.dateCreated

variable {first second third : ChannelJob}

theorem Stays.refl (job : ChannelJob) : Stays job job := ⟨.refl job, rfl⟩

theorem Stays.trans (front : Stays first second) (back : Stays second third) : Stays first third :=
  ⟨front.toSameJob.trans back.toSameJob, back.dateCreated.trans front.dateCreated⟩

end ChannelJob

theorem dateCreated_setNoEta (jobs : JobObjects) (job other : ℕ) :
    (Function.update jobs job (jobs job).setNoEta other).dateCreated =
      (jobs other).dateCreated := by
  rw [Function.update_apply]
  split_ifs with same
  · rw [same]
    rfl
  · rfl

/-- Popping a job does not change when jobs were created. -/
theorem ChannelQueue.dateCreated_moveDue (now : ℚ) (fuel : ℕ) (jobs : JobObjects)
    (queue : ChannelQueue) (job : ℕ) :
    ((ChannelQueue.moveDue now fuel jobs queue).1 job).dateCreated = (jobs job).dateCreated := by
  induction fuel generalizing jobs queue with
  | zero => rfl
  | succ fuel induction =>
      rw [moveDue]
      dsimp only
      split
      · rfl
      · split
        · split
          · rfl
          · rw [induction, dateCreated_setNoEta]
        · rfl

theorem ChannelQueue.dateCreated_pop (queue : ChannelQueue) (jobs : JobObjects) (sequential : Bool)
    (now : ℚ) (job : ℕ) :
    ((queue.pop jobs sequential now).2.1 job).dateCreated = (jobs job).dateCreated := by
  have moved := dateCreated_moveDue now queue.etaQueue.heap.length jobs queue job
  rw [pop]
  dsimp only
  split
  · split
    · exact moved
    · exact moved
  · exact moved

namespace ChannelManager

variable {manager before middle after : ChannelManager} {job : ℕ} {path : ChannelPath}
  {uuid : String} {row : Notification} {now : ℚ}

/-- The known jobs were known before, or are of one kind. -/
def KnownFrom (new : ChannelJob → Prop) (before after : ChannelManager) : Prop :=
  ∀ job ∈ after.jobsByUuid,
    (∃ old ∈ before.jobsByUuid, (before.job old).Stays (after.job job)) ∨ new (after.job job)

/-- The channels stay as they are, and those that are opened have no capacity. -/
structure KeepsChannels (before after : ChannelManager) : Prop where
  paths : before.IsExtendedBy after
  capacity : ∀ path, (after.channel path).capacity = (before.channel path).capacity ∨
    path ∉ before.paths ∧ (after.channel path).capacity = none

/-- The job of a uuid runs in the root. -/
def RunsInRoot (manager : ChannelManager) (uuid : String) : Prop :=
  ∃ job, (manager.job job).uuid = uuid ∧ manager.Running [] job

section Known

variable {new : ChannelJob → Prop}

theorem KnownFrom.of_subset (jobs : ∀ job ∈ after.jobsByUuid, job ∈ before.jobsByUuid)
    (stays : ∀ job, (before.job job).Stays (after.job job)) : KnownFrom new before after :=
  fun job known => .inl ⟨job, jobs job known, stays job⟩

theorem KnownFrom.of_job_eq (jobs : ∀ job ∈ after.jobsByUuid, job ∈ before.jobsByUuid)
    (same : after.job = before.job) : KnownFrom new before after :=
  .of_subset jobs fun job => congrFun same job ▸ .refl _

theorem KnownFrom.trans (front : KnownFrom new before middle)
    (back : KnownFrom new middle after)
    (respects : ∀ job other, job.Stays other → new job → new other) :
    KnownFrom new before after := by
  intro job known
  rcases back job known with ⟨between, known, same⟩ | isNew
  · rcases front between known with ⟨old, known, same'⟩ | isNew
    · exact .inl ⟨old, known, same'.trans same⟩
    · exact .inr (respects _ _ same isNew)
  · exact .inr isNew

theorem isOf_respects (job other : ChannelJob) (stays : job.Stays other)
    (isOf : job.IsOf path row) : other.IsOf path row :=
  ⟨stays.dbName.trans isOf.dbName, stays.uuid.trans isOf.uuid, stays.channel.trans isOf.channel,
    stays.dateCreated.trans isOf.dateCreated⟩

theorem job_remove : (remove job path manager).job = manager.job := by
  induction path generalizing manager with
  | nil => rfl
  | cons name parent induction => exact induction

theorem job_setRunning : (setRunning job path manager).job = manager.job := by
  induction path generalizing manager with
  | nil =>
      rw [setRunning]
      split <;> rfl
  | cons name parent induction =>
      rw [setRunning]
      split
      · rfl
      · exact induction

/-- Where a job goes, all jobs stay what they are. -/
theorem job_transition (state : Option JobState) :
    (manager.transition job state).job = manager.job := by
  have above (path : ChannelPath) (manager : ChannelManager) :
      (removeAbove job path manager).job = manager.job := by
    cases path with
    | nil => rfl
    | cons name parent => exact job_remove
  cases state with
  | none => exact job_remove
  | some state =>
      cases state with
      | pending =>
          rw [transition, setPending]
          split
          · rfl
          · exact above _ _
      | enqueued => exact job_setRunning
      | started => exact job_setRunning
      | failed =>
          rw [transition, setFailed]
          split
          · rfl
          · exact above _ _
      | done => exact job_remove
      | cancelled => exact job_remove
      | waitDependencies => rfl

theorem known_transition (state : Option JobState) :
    KnownFrom new manager (manager.transition job state) := by
  have frame : Frame (some job) manager (manager.transition job state) := frame_transition state
  exact .of_job_eq (fun _ known => frame.jobsByUuid ▸ known) (job_transition state)

theorem known_newJob (kept : Kept manager) :
    KnownFrom (ChannelJob.IsOf path row) manager (manager.newJob path row) := by
  intro job known
  rcases List.mem_append.mp known with old | added
  · have older := Nat.ne_of_lt (kept.fresh job old)
    have same : (manager.newJob path row).job job = manager.job job :=
      Function.update_of_ne older _ _
    exact .inl ⟨job, old, same ▸ .refl _⟩
  · obtain rfl := List.mem_singleton.mp added
    have same : (manager.newJob path row).job manager.nextJob =
        ⟨row.dbName, path, row.uuid, row.seq, row.dateCreated, row.priority, row.eta⟩ :=
      Function.update_self _ _ _
    exact .inr (same ▸ ⟨rfl, rfl, rfl, rfl⟩)

theorem known_create (kept : Kept manager) :
    KnownFrom (ChannelJob.IsOf path row) manager (manager.create path row) :=
  (known_newJob kept).trans (known_transition row.state) isOf_respects

theorem known_dropJob (kept : Kept manager) : KnownFrom new manager (manager.dropJob job) :=
  .of_job_eq (fun _ known => ((mem_jobsByUuid_dropJob kept).mp known).2) job_remove

theorem known_updateJob (kept : Kept manager) :
    KnownFrom (ChannelJob.IsOf path row) manager (updateJob path row manager) := by
  rw [updateJob]
  split
  · exact known_create kept
  · rename_i job found
    split
    · exact .of_job_eq (fun _ => id) rfl
    · split
      · rw [removeJob_eq found]
        exact (known_dropJob kept).trans
          (known_create (kept.dropJob (jobOf_eq_some found).1)) isOf_respects
      · exact known_transition row.state

theorem known_notify (kept : Kept manager) :
    KnownFrom (ChannelJob.IsOf (manager.getChannelByName row.channelName).1 row) manager
      (manager.notify row) := by
  obtain ⟨opens, -⟩ := getChannelByName_opens kept.root row.channelName
  have opened : KnownFrom (ChannelJob.IsOf (manager.getChannelByName row.channelName).1 row)
      manager (manager.getChannelByName row.channelName).2 :=
    .of_job_eq (fun _ known => opens.jobsByUuid ▸ known) opens.job
  exact opened.trans (known_updateJob (kept.opens opens)) isOf_respects

theorem known_removeJob (kept : Kept manager) : KnownFrom new manager (manager.removeJob uuid) := by
  cases found : manager.jobOf uuid with
  | none =>
      rw [removeJob, found]
      exact .of_job_eq (fun _ => id) rfl
  | some job =>
      rw [removeJob_eq found]
      exact known_dropJob kept

theorem known_dropJobs (kept : Kept manager) {jobs : List ℕ} (nodup : jobs.Nodup)
    (known : ∀ job ∈ jobs, job ∈ manager.jobsByUuid) :
    (jobs.foldl (fun manager job => manager.dropJob job) manager).job = manager.job ∧
    ∀ job, job ∈ (jobs.foldl (fun manager job => manager.dropJob job) manager).jobsByUuid ↔
      job ∉ jobs ∧ job ∈ manager.jobsByUuid := by
  induction jobs generalizing manager with
  | nil => exact ⟨rfl, fun job => by simp⟩
  | cons first jobs induction =>
      rw [List.nodup_cons] at nodup
      obtain ⟨same, left⟩ := induction (kept.dropJob (known first List.mem_cons_self)) nodup.2
        fun other member => (mem_jobsByUuid_dropJob kept).mpr
          ⟨fun equal => nodup.1 (equal ▸ member), known other (List.mem_cons_of_mem _ member)⟩
      refine ⟨same.trans job_remove, fun job => ?_⟩
      rw [List.foldl_cons, left, mem_jobsByUuid_dropJob kept, List.mem_cons, not_or]
      tauto

/-- The jobs of a database are forgotten. -/
theorem mem_jobsByUuid_removeDb (kept : Kept manager) (dbName : String) :
    job ∈ (manager.removeDb dbName).jobsByUuid ↔
      job ∈ manager.jobsByUuid ∧ (manager.job job).dbName ≠ dbName := by
  rw [removeDb_eq, (known_dropJobs kept (kept.jobsByUuid_nodup.filter _)
    fun job member => List.mem_of_mem_filter member).2, List.mem_filter, decide_eq_true_eq]
  tauto

theorem known_removeDb (kept : Kept manager) (dbName : String) :
    KnownFrom new manager (manager.removeDb dbName) := by
  refine .of_job_eq (fun job known => ((mem_jobsByUuid_removeDb kept dbName).mp known).1) ?_
  exact (known_dropJobs kept (kept.jobsByUuid_nodup.filter _)
    fun job member => List.mem_of_mem_filter member).1

/-- Yielding does not change when jobs were created. -/
theorem dateCreated_getJobsToRun (now : ℚ) (job : ℕ) :
    ((manager.getJobsToRun now).job job).dateCreated = (manager.job job).dateCreated := by
  have popped (current : ChannelManager) (path : ChannelPath) :
      ((current.popJob path now).2.job job).dateCreated = (current.job job).dateCreated :=
    ChannelQueue.dateCreated_pop _ _ _ _ _
  have turns (path : ChannelPath) : Turns path now fun current =>
      (current.job job).dateCreated = (manager.job job).dateCreated := by
    constructor
    · exact fun current held _ => (popped current path).trans held
    · intro current other held _ _
      have jobs : (current.advance other path now).job = (current.popJob path now).2.job := by
        cases path <;> rfl
      rw [jobs]
      exact (popped current path).trans held
    · exact fun current pause held _ => held
  exact yieldSubtree_preserves turns rfl _

theorem known_getJobsToRun (kept : Kept manager) (now : ℚ) :
    KnownFrom new manager (manager.getJobsToRun now) := by
  have yields := getJobsToRun_yields kept now
  exact .of_subset (fun job known => yields.jobsByUuid ▸ known)
    fun job => ⟨yields.sameJob job, dateCreated_getJobsToRun now job⟩

theorem KnownFrom.collect (known : KnownFrom new before after) :
    KnownFrom new before after.collect :=
  fun job listed => known job (List.mem_of_mem_filter listed)

end Known

section Channels

theorem KeepsChannels.refl (manager : ChannelManager) : KeepsChannels manager manager :=
  ⟨fun _ => id, fun _ => .inl rfl⟩

theorem KeepsChannels.trans (front : KeepsChannels before middle)
    (back : KeepsChannels middle after) : KeepsChannels before after := by
  refine ⟨fun path listed => back.paths path (front.paths path listed), fun path => ?_⟩
  rcases back.capacity path with same | ⟨new, none⟩
  · rw [same]
    exact front.capacity path
  · exact .inr ⟨fun listed => new (front.paths path listed), none⟩

theorem KeepsChannels.of_frame {moved : Option ℕ} (frame : Frame moved before after) :
    KeepsChannels before after :=
  ⟨fun _ listed => frame.paths ▸ listed, fun path => .inl (frame.agrees path).capacity⟩

theorem Opens.keepsChannels (opens : Opens before after) : KeepsChannels before after := by
  refine ⟨opens.paths, fun path => ?_⟩
  rcases opens.channel path with same | ⟨new, opened⟩
  · exact .inl (congrArg Channel.capacity same)
  · exact .inr ⟨new, congrArg Channel.capacity opened⟩

theorem keepsChannels_dropJob : KeepsChannels manager (manager.dropJob job) :=
  ⟨fun _ listed => by rwa [paths_dropJob], fun _ => .inl capacity_dropJob⟩

theorem keepsChannels_dropJobs (jobs : List ℕ) :
    KeepsChannels manager (jobs.foldl (fun manager job => manager.dropJob job) manager) :=
  foldl_preserves _ (KeepsChannels manager) jobs (.refl _)
    fun _ _ keeps => keeps.trans keepsChannels_dropJob

theorem keepsChannels_create : KeepsChannels manager (manager.create path row) := by
  have new : KeepsChannels manager (manager.newJob path row) := ⟨fun _ => id, fun _ => .inl rfl⟩
  exact new.trans (.of_frame (frame_transition row.state))

theorem keepsChannels_updateJob : KeepsChannels manager (updateJob path row manager) := by
  rw [updateJob]
  split
  · exact keepsChannels_create
  · rename_i job found
    split
    · exact .refl _
    · split
      · rw [removeJob_eq found]
        exact keepsChannels_dropJob.trans keepsChannels_create
      · exact .of_frame (frame_transition row.state)

theorem keepsChannels_removeJob : KeepsChannels manager (manager.removeJob uuid) := by
  cases found : manager.jobOf uuid with
  | none =>
      rw [removeJob, found]
      exact .refl _
  | some job =>
      rw [removeJob_eq found]
      exact keepsChannels_dropJob

theorem keepsChannels_setPause (path : ChannelPath) (pause : ℚ) :
    KeepsChannels manager (manager.setPause path pause) := by
  have frame : Frame none manager (manager.setPause path pause) :=
    Frame.modify ⟨fun _ _ => Iff.rfl, fun _ _ => Iff.rfl, fun _ _ => Iff.rfl, rfl, id⟩
  exact .of_frame frame

theorem keepsChannels_getJobsToRun (kept : Kept manager) (now : ℚ) :
    KeepsChannels manager (manager.getJobsToRun now) := by
  have turns (path : ChannelPath) :
      Turns path now fun current => Kept current ∧ KeepsChannels manager current := by
    constructor
    · intro current held nothing
      exact ⟨(yields_popJob_none held.1 nothing).kept,
        held.2.trans (.of_frame (frame_popJob held.1 nothing))⟩
    · intro current job held capacity popped
      exact ⟨(yields_advance held.1 popped capacity).kept,
        held.2.trans (.of_frame (frame_advance held.1 popped))⟩
    · intro current pause held _
      exact ⟨(yields_setPause held.1 path pause).kept,
        held.2.trans (keepsChannels_setPause path pause)⟩
  exact (yieldSubtree_preserves turns ⟨kept, .refl _⟩ _).2

end Channels

section Running

/-- Every job that runs somewhere has a uuid of one kind. -/
def RunsOf (P : String → Prop) (manager : ChannelManager) : Prop :=
  ∀ place job, manager.Running place job → P (manager.job job).uuid

variable {P : String → Prop}

theorem RunsOf.create (kept : Kept manager) (runs : manager.RunsOf P)
    (own : row.runs → P row.uuid) : (manager.create path row).RunsOf P := by
  intro place job running
  by_cases isNew : job = manager.nextJob
  · subst isNew
    rw [uuid_create]
    cases starts : row.runs with
    | true => exact own starts
    | false =>
        have before : manager.Running place manager.nextJob :=
          @running_transition (manager.newJob path row) _ place row.state starts _ running
        have known := kept.known place _ (Or.inr (Or.inl before))
        exact absurd (kept.fresh _ known) (Nat.lt_irrefl _)
  · have frame : Frame (some manager.nextJob) (manager.newJob path row)
        (manager.create path row) := frame_transition row.state
    have before : manager.Running place job :=
      (frame.running_iff (Option.some_inj.not.mpr isNew)).mp running
    have same : (manager.newJob path row).job job = manager.job job :=
      Function.update_of_ne isNew _ _
    rw [(frame.sameJob job).uuid, same]
    exact runs place job before

theorem RunsOf.dropJob (runs : manager.RunsOf P) : (manager.dropJob job).RunsOf P := by
  intro place other running
  rw [frame_dropJob_sameJob.uuid]
  exact runs place other (running_dropJob.mp running).1

theorem RunsOf.transition (runs : manager.RunsOf P) {state : Option JobState}
    (own : state.any JobState.runs → P (manager.job job).uuid) :
    (manager.transition job state).RunsOf P := by
  intro place other running
  have frame : Frame (some job) manager (manager.transition job state) := frame_transition state
  rw [(frame.sameJob other).uuid]
  by_cases same : other = job
  · subst same
    cases starts : state.any JobState.runs with
    | true => exact own starts
    | false => exact runs place other (running_transition starts running)
  · exact runs place other ((frame.running_iff (Option.some_inj.not.mpr same)).mp running)

/-- A notification lets no job run but that of its row. -/
theorem RunsOf.notify (kept : Kept manager) (runs : manager.RunsOf P)
    (own : row.runs → P row.uuid) : (manager.notify row).RunsOf P := by
  obtain ⟨opens, -⟩ := getChannelByName_opens kept.root row.channelName
  have opened := kept.opens opens
  have runs : (manager.getChannelByName row.channelName).2.RunsOf P := by
    intro place job running
    rw [opens.job]
    exact runs place job ((opens.running_iff kept).mp running)
  rw [notify_eq, updateJob]
  split
  · exact runs.create opened own
  · rename_i job found
    obtain ⟨known, same⟩ := jobOf_eq_some found
    split
    · exact runs
    · split
      · rw [removeJob_eq found]
        exact runs.dropJob.create (opened.dropJob known) own
      · exact runs.transition (same ▸ own)

/-- A job that was not known runs in the root once it is notified as running. -/
theorem runsInRoot_notify_new (kept : Kept manager)
    (absent : ∀ job ∈ manager.jobsByUuid, (manager.job job).uuid ≠ row.uuid) (runs : row.runs) :
    (manager.notify row).RunsInRoot row.uuid := by
  obtain ⟨opens, listed⟩ := getChannelByName_opens kept.root row.channelName
  have absent : ∀ job ∈ (manager.getChannelByName row.channelName).2.jobsByUuid,
      ((manager.getChannelByName row.channelName).2.job job).uuid ≠ row.uuid := by
    rw [opens.jobsByUuid, opens.job]
    exact absent
  rw [notify_eq, updateJob]
  split
  · exact ⟨_, uuid_create, running_create (kept.opens opens) listed absent runs⟩
  · rename_i job found
    obtain ⟨known, same⟩ := jobOf_eq_some found
    exact absurd same (absent job known)

end Running

end ChannelManager

namespace Session

open ChannelManager

variable {session : Session} {uuid : String} {row : Notification}

theorem known_step (kept : session.manager.Kept) (action : ManagerAction) :
    KnownFrom (fun job => ∃ row, action = .notify row ∧
      job.IsOf (session.manager.getChannelByName row.channelName).1 row) session.manager
      (session.step action).manager := by
  cases action with
  | notify row =>
      intro job known
      rcases (known_notify kept).collect job known with old | isOf
      · exact .inl old
      · exact .inr ⟨row, rfl, isOf⟩
  | removeJob uuid => exact (known_removeJob kept).collect
  | removeDb dbName => exact (known_removeDb kept dbName).collect
  | getJobsToRun now => exact (known_getJobsToRun kept now).collect

theorem keepsChannels_step (kept : session.manager.Kept) (action : ManagerAction) :
    KeepsChannels session.manager (session.step action).manager := by
  have collected {manager : ChannelManager} (keeps : KeepsChannels session.manager manager) :
      KeepsChannels session.manager manager.collect := ⟨keeps.paths, keeps.capacity⟩
  cases action with
  | notify row =>
      obtain ⟨opens, -⟩ := getChannelByName_opens kept.root row.channelName
      have keeps : KeepsChannels session.manager (session.manager.notify row) :=
        opens.keepsChannels.trans keepsChannels_updateJob
      exact collected keeps
  | removeJob uuid => exact collected keepsChannels_removeJob
  | removeDb dbName => exact collected (keepsChannels_dropJobs _)
  | getJobsToRun now => exact collected (keepsChannels_getJobsToRun kept now)

/-- A job that runs in the root was handed out, whether or not the session knows that. -/
theorem handedOut_of_runsInRoot (runs : session.manager.RunsInRoot uuid) :
    HandedOut ⟨session.manager, [uuid]⟩ :=
  fun _ member => List.mem_singleton.mp member ▸ runs

theorem runsInRoot_notify (kept : session.manager.Kept) (runs : session.manager.RunsInRoot uuid)
    (spares : uuid = row.uuid → row.runs) :
    (session.step (.notify row)).manager.RunsInRoot uuid := by
  refine @handedOut_notify ⟨session.manager, [uuid]⟩ kept (handedOut_of_runsInRoot runs) row uuid ?_
  rw [step]
  split_ifs with still
  · exact List.mem_singleton_self uuid
  · exact List.mem_filter.mpr ⟨List.mem_singleton_self uuid,
      decide_eq_true fun same => still (spares same)⟩

theorem runsInRoot_removeJob (runs : session.manager.RunsInRoot uuid) {other : String}
    (ne : uuid ≠ other) : (session.step (.removeJob other)).manager.RunsInRoot uuid :=
  @handedOut_removeJob ⟨session.manager, [uuid]⟩ (handedOut_of_runsInRoot runs) other uuid
    (List.mem_filter.mpr ⟨List.mem_singleton_self uuid, decide_eq_true ne⟩)

theorem runsInRoot_getJobsToRun (kept : session.manager.Kept) (now : ℚ)
    (runs : session.manager.RunsInRoot uuid ∨ uuid ∈ session.handsOut now) :
    (session.step (.getJobsToRun now)).manager.RunsInRoot uuid := by
  rcases runs with runs | handed
  · exact @handedOut_getJobsToRun ⟨session.manager, [uuid]⟩ kept (handedOut_of_runsInRoot runs) now
      uuid (List.mem_append_left _ (List.mem_singleton_self uuid))
  · have none : HandedOut ⟨session.manager, []⟩ := nofun
    exact @handedOut_getJobsToRun ⟨session.manager, []⟩ kept none now uuid
      (List.mem_append_right _ handed)

theorem within_notify (kept : session.manager.Kept) (within : session.manager.Within)
    (handed : row.runs → session.manager.RunsInRoot row.uuid)
    (fits : row.runs → (session.manager.getChannelByName row.channelName).2.Fits
      (session.manager.getChannelByName row.channelName).1 row) :
    (session.step (.notify row)).manager.Within := by
  cases runs : row.runs with
  | false =>
      have none : HandedOut ⟨session.manager, []⟩ := nofun
      refine @within_step ⟨session.manager, []⟩ (.notify row) kept none within fun starts => ?_
      rw [runs] at starts
      cases starts
  | true =>
      exact @within_step ⟨session.manager, [row.uuid]⟩ (.notify row) kept
        (handedOut_of_runsInRoot (handed runs)) within
        fun _ => ⟨List.mem_singleton_self _, fits runs⟩

end Session

end OdooConnector.Queue
