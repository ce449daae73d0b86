import OdooConnector.Library.Run
import OdooConnector.Queue.ChannelNotify

/-!
# The capacity of channels

Over all runs every job is in one place of a channel at most, and a job that runs in a channel is
queued or runs in its parent. No channel runs more jobs than its capacity, as long as only jobs that
were handed to the runner and not taken back since are notified as running.
-/

namespace OdooConnector.Queue

/-- A tree of channels with their settings. -/
structure ChannelTree where
  paths : List ChannelPath
  capacity : ChannelPath → Option ℤ
  sequential : ChannelPath → Bool
  throttle : ChannelPath → ℤ
  root : [] ∈ paths
  closed : ∀ name path, name :: path ∈ paths → path ∈ paths

inductive ManagerAction where
  | notify (row : Notification)
  | removeJob (uuid : String)
  | removeDb (dbName : String)
  | getJobsToRun (now : ℚ)

/-- Jobs in these states run. -/
def JobState.runs : JobState → Bool
  | .enqueued | .started => true
  | _ => false

def Notification.runs (row : Notification) : Bool := row.state.any JobState.runs

/-- The uuids of the jobs that were handed to the runner and not taken back since. -/
structure Session where
  manager : ChannelManager
  handedOut : List String

namespace ChannelManager

variable {manager before after : ChannelManager} {job other : ℕ}
  {path place : ChannelPath} {row : Notification}

/-- One more job fits into a channel. -/
def Room (manager : ChannelManager) (path : ChannelPath) : Prop :=
  ∀ capacity, (manager.channel path).capacity = some capacity → 0 < capacity →
    ((manager.channel path).running.card : ℤ) < capacity

/-- Of the jobs of a uuid one at most is in a channel, and in one place of it. -/
def Exclusive (manager : ChannelManager) : Prop :=
  ∀ path job other, (manager.job job).uuid = (manager.job other).uuid →
    (manager.Holds path job → manager.Holds path other → job = other) ∧
      (manager.Queued path job → ¬ manager.Running path other) ∧
      (manager.Queued path job → ¬ manager.Failed path other) ∧
      (manager.Running path job → ¬ manager.Failed path other)

/-- A job that runs in a channel is queued or runs in the parent. -/
def InParent (manager : ChannelManager) : Prop :=
  ∀ name path job, manager.Running (name :: path) job →
    manager.Queued path job ∨ manager.Running path job

theorem Kept.exclusive (kept : Kept manager) : manager.Exclusive := by
  intro path job other uuid
  have same (here : manager.Holds path job) (there : manager.Holds path other) : job = other :=
    kept.uuid_unique (kept.known path job here) (kept.known path other there) uuid
  refine ⟨same, fun queued running => ?_, fun queued failed => ?_, fun running failed => ?_⟩
  · obtain rfl := same (Or.inl queued) (Or.inr (Or.inl running))
    exact (kept.placed job).queued_running path queued running
  · obtain rfl := same (Or.inl queued) (Or.inr (Or.inr failed))
    exact (kept.placed job).queued_failed path queued failed
  · obtain rfl := same (Or.inr (Or.inl running)) (Or.inr (Or.inr failed))
    exact (kept.placed job).running_failed path running failed

theorem Kept.inParent (kept : Kept manager) : manager.InParent :=
  fun name path job running => (kept.placed job).above name path running

section Within

theorem Within.of_subset (within : before.Within)
    (capacity : ∀ path, (after.channel path).capacity = (before.channel path).capacity)
    (running : ∀ path, (after.channel path).running ⊆ (before.channel path).running) :
    after.Within := by
  intro path limit bounded positive
  rw [capacity path] at bounded
  have fewer := Finset.card_le_card (running path)
  have before := within path limit bounded positive
  omega

theorem running_remove : ((remove job path manager).channel place).running ⊆
    (manager.channel place).running := by
  rw [channel_remove]
  split
  · exact Finset.erase_subset _ _
  · exact Finset.Subset.refl _

theorem running_removeAbove_modify {change : Channel → Channel}
    (fewer : (change (manager.channel path)).running ⊆ (manager.channel path).running) :
    ((removeAbove job path (manager.modify path change)).channel place).running ⊆
      (manager.channel place).running := by
  rw [channel_removeAbove_modify]
  split
  · rename_i same
    exact same ▸ fewer
  · split
    · exact Finset.erase_subset _ _
    · exact Finset.Subset.refl _

/-- A transition to a state in which the job does not run takes jobs out of channels only. -/
theorem running_transition {state : Option JobState} (stops : state.any JobState.runs = false) :
    ((manager.transition job state).channel place).running ⊆ (manager.channel place).running := by
  cases state with
  | none => exact running_remove
  | some state =>
      cases state with
      | pending =>
          rw [transition, setPending]
          split
          · exact Finset.Subset.refl _
          · exact running_removeAbove_modify (Finset.erase_subset _ _)
      | failed =>
          rw [transition, setFailed]
          split
          · exact Finset.Subset.refl _
          · exact running_removeAbove_modify (Finset.erase_subset _ _)
      | enqueued => cases stops
      | started => cases stops
      | done => exact running_remove
      | cancelled => exact running_remove
      | waitDependencies => exact Finset.Subset.refl _

theorem transition_of_runs {state : Option JobState} (runs : state.any JobState.runs = true) :
    manager.transition job state = setRunning job (manager.job job).channel manager := by
  cases state with
  | none => cases runs
  | some state => cases state <;> first | rfl | cases runs

theorem Within.setRunning (within : manager.Within)
    (idle : ∀ place, place <:+ path → ¬ manager.Running place job)
    (room : ∀ place, place <:+ path → manager.Room place) :
    (ChannelManager.setRunning job path manager).Within := by
  intro place limit bounded positive
  rw [channel_setRunning idle] at bounded ⊢
  by_cases onPath : place <:+ path
  · rw [if_pos onPath] at bounded ⊢
    have fits := room place onPath limit bounded positive
    have added := Finset.card_insert_of_notMem (idle place onPath)
    dsimp only
    omega
  · rw [if_neg onPath] at bounded ⊢
    exact within place limit bounded positive

theorem Within.transition (kept : Kept manager) (within : manager.Within) {state : Option JobState}
    (room : state.any JobState.runs = true → manager.Running (manager.job job).channel job ∨
      ∀ place, place <:+ (manager.job job).channel → manager.Room place) :
    (manager.transition job state).Within := by
  cases runs : state.any JobState.runs with
  | false =>
      exact within.of_subset (fun path => ((frame_transition state).agrees path).capacity)
        fun path => running_transition runs
  | true =>
      rw [transition_of_runs runs]
      by_cases running : manager.Running (manager.job job).channel job
      · rw [setRunning_of_running running]
        exact within
      · exact within.setRunning (fun place _ => kept.not_running running)
          ((room runs).resolve_left running)

theorem capacity_dropJob :
    ((manager.dropJob job).channel place).capacity = (manager.channel place).capacity :=
  (frame_remove.agrees place).capacity

theorem Within.dropJob (within : manager.Within) : (manager.dropJob job).Within :=
  within.of_subset (fun _ => capacity_dropJob) fun _ => running_remove

/-- A job that is dropped leaves room in all channels that it ran in. -/
theorem Within.room_dropJob (within : manager.Within) (running : manager.Running place job)
    (onPath : place <:+ (manager.job job).channel) : (manager.dropJob job).Room place := by
  intro limit bounded positive
  rw [capacity_dropJob] at bounded
  have before := within place limit bounded positive
  have one := Finset.card_erase_add_one running
  rw [channel_dropJob, if_pos onPath]
  dsimp only [Channel.discard]
  omega

theorem room_dropJob_of_off (room : manager.Room place)
    (off : ¬ place <:+ (manager.job job).channel) : (manager.dropJob job).Room place := by
  intro limit
  rw [channel_dropJob, if_neg off]
  exact room limit

theorem Within.create (kept : Kept manager) (listed : path ∈ manager.paths)
    (absent : ∀ job ∈ manager.jobsByUuid, (manager.job job).uuid ≠ row.uuid)
    (within : manager.Within)
    (room : row.runs → ∀ place, place <:+ path → manager.Room place) :
    (manager.create path row).Within := by
  have same : ((manager.newJob path row).job manager.nextJob).channel = path := by
    simp [newJob]
  refine Within.transition (kept.newJob listed absent) within fun runs => Or.inr ?_
  rw [same]
  exact room runs

end Within

section Update

/-- The channels that a job newly enters have room for it. -/
def Fits (manager : ChannelManager) (path : ChannelPath) (row : Notification) : Prop :=
  ∀ job, manager.jobOf row.uuid = some job → ∀ place, place <:+ path →
    ¬ place <:+ (manager.job job).channel → manager.Room place

theorem Within.updateJob (kept : Kept manager) (listed : path ∈ manager.paths)
    (within : manager.Within)
    (handed : row.runs → ∃ job, manager.jobOf row.uuid = some job ∧ manager.Running [] job)
    (fits : row.runs → manager.Fits path row) :
    (ChannelManager.updateJob path row manager).Within := by
  rw [ChannelManager.updateJob]
  split
  · rename_i absent
    refine within.create kept listed (fun job known => jobOf_eq_none absent known) fun runs => ?_
    obtain ⟨job, found, -⟩ := handed runs
    rw [absent] at found
    cases found
  · rename_i job found
    obtain ⟨known, same⟩ := jobOf_eq_some found
    have everywhere (runs : row.runs) (place : ChannelPath)
        (onPath : place <:+ (manager.job job).channel) : manager.Running place job := by
      obtain ⟨job', found', root⟩ := handed runs
      rw [found, Option.some_inj] at found'
      subst found'
      exact (kept.placed job).running_of_root root onPath
    split
    · exact within
    · split
      · rw [removeJob_eq found]
        refine within.dropJob.create (kept.dropJob known) (by rwa [paths_dropJob]) ?_ ?_
        · rw [← same]
          exact kept.absent_dropJob known
        · intro runs place onPath
          by_cases old : place <:+ (manager.job job).channel
          · exact within.room_dropJob (everywhere runs place old) old
          · exact room_dropJob_of_off (fits runs job found place onPath old) old
      · refine within.transition kept fun runs => Or.inl ?_
        exact everywhere runs _ List.suffix_rfl

/-- A new job that is notified as running runs in the root. -/
theorem running_create (kept : Kept manager) (listed : path ∈ manager.paths)
    (absent : ∀ job ∈ manager.jobsByUuid, (manager.job job).uuid ≠ row.uuid) (runs : row.runs) :
    (manager.create path row).Running [] manager.nextJob := by
  have new := kept.newJob listed absent
  have idle : ∀ place, place <:+ ((manager.newJob path row).job manager.nextJob).channel →
      ¬ (manager.newJob path row).Running place manager.nextJob := by
    intro place _ running
    have known : manager.nextJob ∈ manager.jobsByUuid :=
      kept.known place _ (Or.inr (Or.inl running))
    exact Nat.lt_irrefl _ (kept.fresh _ known)
  rw [ChannelManager.create, transition_of_runs runs, Running, channel_setRunning idle,
    if_pos List.nil_suffix]
  exact Finset.mem_insert_self _ _

theorem uuid_create : ((manager.create path row).job manager.nextJob).uuid = row.uuid := by
  rw [ChannelManager.create, ((frame_transition row.state).sameJob _).uuid]
  simp [newJob]

/-- A job that is notified as running while it runs in the root does so still. -/
theorem handed_updateJob (kept : Kept manager) (listed : path ∈ manager.paths) (runs : row.runs)
    (found : manager.jobOf row.uuid = some job) (running : manager.Running [] job) :
    ∃ job, ((ChannelManager.updateJob path row manager).job job).uuid = row.uuid ∧
      (ChannelManager.updateJob path row manager).Running [] job := by
  obtain ⟨known, same⟩ := jobOf_eq_some found
  rw [ChannelManager.updateJob, found]
  dsimp only
  split
  · exact ⟨job, same, running⟩
  · split
    · rw [removeJob_eq found]
      refine ⟨(manager.dropJob job).nextJob, uuid_create, ?_⟩
      refine running_create (kept.dropJob known) (by rwa [paths_dropJob]) ?_ runs
      rw [← same]
      exact kept.absent_dropJob known
    · have here := (kept.placed job).running_of_root running List.suffix_rfl
      rw [transition_of_runs runs, setRunning_of_running here]
      exact ⟨job, same, running⟩

theorem running_create_of_ne (kept : Kept manager) (known : other ∈ manager.jobsByUuid)
    (running : manager.Running place other) :
    (manager.create path row).Running place other ∧
      ((manager.create path row).job other).uuid = (manager.job other).uuid := by
  have older := Nat.ne_of_lt (kept.fresh other known)
  have frame : Frame (some manager.nextJob) (manager.newJob path row) (manager.create path row) :=
    frame_transition row.state
  have same : (manager.newJob path row).job other = manager.job other :=
    Function.update_of_ne older _ _
  refine ⟨(frame.running_iff (Option.some_inj.not.mpr older)).mpr running, ?_⟩
  rw [(frame.sameJob other).uuid, same]

/-- A notification does not stop the jobs of other uuids. -/
theorem running_updateJob (kept : Kept manager) (running : manager.Running place other)
    (different : (manager.job other).uuid ≠ row.uuid) :
    (ChannelManager.updateJob path row manager).Running place other ∧
      ((ChannelManager.updateJob path row manager).job other).uuid = (manager.job other).uuid := by
  have known := kept.known place other (Or.inr (Or.inl running))
  rw [ChannelManager.updateJob]
  split
  · exact running_create_of_ne kept known running
  · rename_i job found
    obtain ⟨known', same⟩ := jobOf_eq_some found
    have ne : other ≠ job := fun equal => different (equal ▸ same)
    split
    · exact ⟨running, rfl⟩
    · split
      · rw [removeJob_eq found]
        have still := running_dropJob.mpr ⟨running, fun dropped => ne dropped.2⟩
        have uuid : ((manager.dropJob job).job other).uuid = (manager.job other).uuid :=
          frame_dropJob_sameJob.uuid
        rw [← uuid]
        exact running_create_of_ne (kept.dropJob known')
          ((mem_jobsByUuid_dropJob kept).mpr ⟨ne, known⟩) still
      · have frame : Frame (some job) manager (manager.transition job row.state) :=
          frame_transition row.state
        exact ⟨(frame.running_iff (Option.some_inj.not.mpr ne)).mpr running,
          (frame.sameJob other).uuid⟩

end Update

section Drop

theorem running_dropJobs {jobs : List ℕ} (running : manager.Running place other)
    (spared : other ∉ jobs) :
    (jobs.foldl (fun manager job => manager.dropJob job) manager).Running place other ∧
      ((jobs.foldl (fun manager job => manager.dropJob job) manager).job other).uuid =
        (manager.job other).uuid := by
  induction jobs generalizing manager with
  | nil => exact ⟨running, rfl⟩
  | cons job jobs induction =>
      rw [List.mem_cons, not_or] at spared
      have still : (manager.dropJob job).Running place other :=
        running_dropJob.mpr ⟨running, fun dropped => spared.1 dropped.2⟩
      have uuid : ((manager.dropJob job).job other).uuid = (manager.job other).uuid :=
        frame_dropJob_sameJob.uuid
      rw [← uuid]
      exact induction still spared.2

theorem Within.dropJobs (within : manager.Within) (jobs : List ℕ) :
    (jobs.foldl (fun manager job => manager.dropJob job) manager).Within := by
  induction jobs generalizing manager with
  | nil => exact within
  | cons job jobs induction => exact induction within.dropJob

end Drop

end ChannelManager

namespace Session

variable {session : Session} {action : ManagerAction}

/-- After every action the jobs that nothing refers to are forgotten. -/
def step (session : Session) : ManagerAction → Session
  | .notify row =>
      ⟨(session.manager.notify row).collect,
        if row.runs then session.handedOut
        else session.handedOut.filter fun uuid => uuid ≠ row.uuid⟩
  | .removeJob uuid =>
      ⟨(session.manager.removeJob uuid).collect,
        session.handedOut.filter fun other => other ≠ uuid⟩
  | .removeDb dbName =>
      let removed := (session.manager.jobsByUuid.filter fun job =>
        (session.manager.job job).dbName = dbName).map fun job => (session.manager.job job).uuid
      ⟨(session.manager.removeDb dbName).collect,
        session.handedOut.filter fun uuid => uuid ∉ removed⟩
  | .getJobsToRun now =>
      let manager := session.manager.getJobsToRun now
      ⟨manager.collect, session.handedOut ++
        (manager.yielded.drop session.manager.yielded.length).map fun job =>
          (manager.job job).uuid⟩

/-- Channels without jobs. -/
def start (tree : ChannelTree) : Session where
  manager :=
    { paths := tree.paths
      channel := fun path =>
        if tree.paths.contains path then
          .configured (tree.capacity path) (tree.sequential path) (tree.throttle path)
        else .new
      job := default
      nextJob := 0
      jobsByUuid := []
      yielded := [] }
  handedOut := []

/-- Only jobs that were yielded at some time are notified as running. -/
def OnlyYielded (session : Session) : ManagerAction → Prop
  | .notify row => row.runs → ∃ job ∈ session.manager.yielded,
      (session.manager.job job).uuid = row.uuid
  | _ => True

/-- Only jobs that were handed out and not taken back since are notified as running, and they are
moved to channels with room only. -/
def Permitted (session : Session) : ManagerAction → Prop
  | .notify row => row.runs → row.uuid ∈ session.handedOut ∧
      (session.manager.getChannelByName row.channelName).2.Fits
        (session.manager.getChannelByName row.channelName).1 row
  | _ => True

/-- Jobs that were handed out run in the root. -/
def HandedOut (session : Session) : Prop :=
  ∀ uuid ∈ session.handedOut, ∃ job, (session.manager.job job).uuid = uuid ∧
    session.manager.Running [] job

theorem kept_start (tree : ChannelTree) : (start tree).manager.Kept := by
  have idle (path : ChannelPath) (job : ℕ) : ¬ (start tree).manager.Holds path job := by
    rw [ChannelManager.Holds, ChannelManager.Queued, ChannelManager.Running, ChannelManager.Failed]
    simp only [start]
    split <;> simp [Channel.configured, Channel.new]
  constructor
  case placed => exact fun job => ChannelManager.placed_of_not_holds fun place => idle place job
  case separate =>
    intro path
    simp only [start]
    split <;> exact ChannelQueue.separate_empty
  case known => exact fun path job holds => absurd holds (idle path job)
  case nodup => exact List.nodup_nil
  case fresh => simp [start]
  case root => exact tree.root
  case closed => exact tree.closed
  case listed => simp [start]

theorem within_start (tree : ChannelTree) : (start tree).manager.Within := by
  intro path capacity _ positive
  have empty : ((start tree).manager.channel path).running = ∅ := by
    simp only [start]
    split <;> rfl
  rw [empty, Finset.card_empty]
  omega

theorem kept_step (kept : session.manager.Kept) (action : ManagerAction) :
    (session.step action).manager.Kept := by
  cases action with
  | notify row => exact kept.notify.collect
  | removeJob uuid => exact kept.removeJob.collect
  | removeDb dbName => exact (kept.removeDb dbName).collect
  | getJobsToRun now => exact (ChannelManager.getJobsToRun_yields kept now).kept.collect

/-- A handed out job of another uuid is not affected by a notification. -/
theorem handed_notify_of_ne (kept : session.manager.Kept) (handed : session.HandedOut)
    {row : Notification} {uuid : String} (member : uuid ∈ session.handedOut)
    (different : uuid ≠ row.uuid) :
    ∃ job, ((session.manager.notify row).job job).uuid = uuid ∧
      (session.manager.notify row).Running [] job := by
  obtain ⟨job, same, running⟩ := handed uuid member
  obtain ⟨opens, -⟩ := ChannelManager.getChannelByName_opens kept.root row.channelName
  rw [← opens.job] at same
  have still : (session.manager.notify row).Running [] job ∧
      ((session.manager.notify row).job job).uuid =
        ((session.manager.getChannelByName row.channelName).2.job job).uuid :=
    ChannelManager.running_updateJob (kept.opens opens) ((opens.running_iff kept).mpr running)
      (same ▸ different)
  exact ⟨job, still.2.trans same, still.1⟩

/-- The job of a handed out uuid, once the channel of a notification is open. -/
theorem HandedOut.opened (handed : session.HandedOut) (kept : session.manager.Kept)
    {after : ChannelManager} {uuid : String} (member : uuid ∈ session.handedOut)
    (opens : session.manager.Opens after) :
    ∃ job, after.jobOf uuid = some job ∧ after.Running [] job := by
  obtain ⟨job, same, running⟩ := handed uuid member
  have known := kept.known [] job (Or.inr (Or.inl running))
  refine ⟨job, (kept.opens opens).jobOf (opens.jobsByUuid ▸ known) ?_,
    (opens.running_iff kept).mpr running⟩
  rw [opens.job, same]

theorem handedOut_notify (kept : session.manager.Kept) (handed : session.HandedOut)
    {row : Notification} : (session.step (.notify row)).HandedOut := by
  intro uuid member
  simp only [step] at member
  cases runs : row.runs with
  | false =>
      simp only [runs, Bool.false_eq_true, if_false, List.mem_filter, decide_eq_true_eq] at member
      exact handed_notify_of_ne kept handed member.1 member.2
  | true =>
      simp only [runs, if_true] at member
      by_cases same : uuid = row.uuid
      · obtain ⟨opens, listed⟩ :=
          ChannelManager.getChannelByName_opens kept.root row.channelName
        obtain ⟨job, found, running⟩ := handed.opened kept (same ▸ member) opens
        rw [same]
        exact ChannelManager.handed_updateJob (kept.opens opens) listed runs found running
      · exact handed_notify_of_ne kept handed member same

theorem handedOut_removeJob (handed : session.HandedOut) {uuid : String} :
    (session.step (.removeJob uuid)).HandedOut := by
  intro other member
  obtain ⟨member, different⟩ := List.mem_filter.mp member
  obtain ⟨job, same, running⟩ := handed other member
  cases found : session.manager.jobOf uuid with
  | none =>
      have unchanged : session.manager.removeJob uuid = session.manager := by
        rw [ChannelManager.removeJob, found]
      refine ⟨job, ?_, ?_⟩
      · rw [step, unchanged]
        exact same
      · rw [step, unchanged]
        exact running
  | some job' =>
      have ne : job ≠ job' := by
        intro equal
        rw [equal, (ChannelManager.jobOf_eq_some found).2] at same
        simp [same] at different
      refine ⟨job, ?_, ?_⟩
      · rw [step, ChannelManager.removeJob_eq found]
        exact ChannelManager.frame_dropJob_sameJob.uuid.trans same
      · rw [step, ChannelManager.removeJob_eq found]
        exact ChannelManager.running_dropJob.mpr ⟨running, fun dropped => ne dropped.2⟩

theorem handedOut_removeDb (handed : session.HandedOut) {dbName : String} :
    (session.step (.removeDb dbName)).HandedOut := by
  intro uuid member
  obtain ⟨member, spared⟩ := List.mem_filter.mp member
  obtain ⟨job, same, running⟩ := handed uuid member
  have outside : job ∉ session.manager.jobsByUuid.filter fun job =>
      (session.manager.job job).dbName = dbName := by
    intro dropped
    have removed := List.mem_map_of_mem
      (f := fun job => (session.manager.job job).uuid) dropped
    rw [same] at removed
    simp only [decide_eq_true_eq] at spared
    exact spared removed
  obtain ⟨still, uuid⟩ := ChannelManager.running_dropJobs running outside
  exact ⟨job, uuid.trans same, still⟩

theorem handedOut_getJobsToRun (kept : session.manager.Kept) (handed : session.HandedOut)
    {now : ℚ} : (session.step (.getJobsToRun now)).HandedOut := by
  have yields := ChannelManager.getJobsToRun_yields kept now
  intro uuid member
  cases List.mem_append.mp member with
  | inl member =>
      obtain ⟨job, same, running⟩ := handed uuid member
      exact ⟨job, (yields.sameJob job).uuid.trans same, yields.running [] job running⟩
  | inr member =>
      obtain ⟨job, yielded, same⟩ := List.mem_map.mp member
      obtain ⟨new, parts, runs⟩ := yields.yielded
      rw [parts, List.drop_left] at yielded
      exact ⟨job, same, runs job yielded⟩

theorem handedOut_step (kept : session.manager.Kept) (handed : session.HandedOut)
    (action : ManagerAction) : (session.step action).HandedOut := by
  cases action with
  | notify row => exact handedOut_notify kept handed
  | removeJob uuid => exact handedOut_removeJob handed
  | removeDb dbName => exact handedOut_removeDb handed
  | getJobsToRun now => exact handedOut_getJobsToRun kept handed

theorem within_step (kept : session.manager.Kept) (handed : session.HandedOut)
    (within : session.manager.Within) (permitted : session.Permitted action) :
    (session.step action).manager.Within := by
  cases action with
  | notify row =>
      obtain ⟨opens, listed⟩ := ChannelManager.getChannelByName_opens kept.root row.channelName
      refine ChannelManager.Within.updateJob (kept.opens opens) listed (within.opens opens)
        (fun runs => ?_) fun runs => (permitted runs).2
      exact handed.opened kept (permitted runs).1 opens
  | removeJob uuid =>
      cases found : session.manager.jobOf uuid with
      | none =>
          rw [step, ChannelManager.removeJob, found]
          exact within
      | some job =>
          rw [step, ChannelManager.removeJob_eq found]
          exact within.dropJob
  | removeDb dbName => exact within.dropJobs _
  | getJobsToRun now => exact (ChannelManager.getJobsToRun_yields kept now).within within

/-- What permitted steps preserve. -/
structure Sound (session : Session) : Prop where
  kept : session.manager.Kept
  handed : session.HandedOut
  within : session.manager.Within

theorem sound_start (tree : ChannelTree) : (start tree).Sound :=
  ⟨kept_start tree, by simp [HandedOut, start], within_start tree⟩

theorem Sound.step (sound : session.Sound) (permitted : session.Permitted action) :
    (session.step action).Sound :=
  ⟨kept_step sound.kept action, handedOut_step sound.kept sound.handed action,
    within_step sound.kept sound.handed sound.within permitted⟩

theorem kept_runSteps (tree : ChannelTree) (actions : List ManagerAction) :
    (runSteps Session.step (start tree) actions).manager.Kept := by
  have advance (session : Session) (action : ManagerAction) (kept : session.manager.Kept) :
      (session.step action).manager.Kept := kept_step kept action
  exact @runSteps_preserves _ _ _ (fun session : Session => session.manager.Kept) _ _ advance
    (kept_start tree)

/-- In every run from channels without jobs a job is in one place of a channel at most, and one that
runs in a channel is queued or runs in its parent; and no channel exceeds its capacity where all
notifications of the run are permitted. -/
theorem channels_kept (tree : ChannelTree) (actions : List ManagerAction) :
    (runSteps Session.step (start tree) actions).manager.Exclusive ∧
      (runSteps Session.step (start tree) actions).manager.InParent ∧
      (Along Session.step Permitted (start tree) actions →
        (runSteps Session.step (start tree) actions).manager.Within) := by
  have kept := kept_runSteps tree actions
  refine ⟨kept.exclusive, kept.inParent, fun permitted => ?_⟩
  have sound : (runSteps Session.step (start tree) actions).Sound :=
    runSteps_invariant (fun _ _ sound permitted => Sound.step sound permitted) (sound_start tree)
      permitted
  exact sound.within

section Overfull

/-- The root alone. -/
def alone (capacity : ℤ) : ChannelTree where
  paths := [[]]
  capacity := fun _ => some capacity
  sequential := fun _ => false
  throttle := fun _ => 0
  root := List.mem_singleton_self _
  closed := by simp

/-- A channel for four jobs beside a channel for one. -/
def siblings : ChannelTree where
  paths := [[], ["A"], ["B"]]
  capacity := fun path => if path = ["B"] then some 1 else some 4
  sequential := fun _ => false
  throttle := fun _ => 0
  root := List.mem_cons_self
  closed := by
    intro name path member
    simp at member ⊢
    tauto

/-- A channel for two jobs in a channel for one. -/
def nested : ChannelTree where
  paths := [[], ["A"], ["B", "A"]]
  capacity := fun path => if path = ["B", "A"] then some 2 else some 1
  sequential := fun _ => false
  throttle := fun _ => 0
  root := List.mem_cons_self
  closed := by
    intro name path member
    simp at member ⊢
    tauto

def row (channelName uuid : String) (priority : ℤ) (state : JobState) : Notification :=
  ⟨"db", channelName, uuid, 1, 0, priority, none, some state⟩

def runOne : List ManagerAction := [.notify (row "" "a" 10 .pending), .getJobsToRun 1]

/-- A job that is pending again starts after all, when another one runs in its place. -/
def startLate : List ManagerAction :=
  [.notify (row "" "a" 10 .pending), .getJobsToRun 1, .notify (row "" "a" 10 .pending),
    .notify (row "" "b" 5 .pending), .getJobsToRun 2, .notify (row "" "a" 10 .started)]

/-- A job starts in another channel than it was pending in. -/
def startElsewhere : List ManagerAction :=
  [.notify (row "A" "a" 10 .pending), .notify (row "B" "b" 10 .pending), .getJobsToRun 1,
    .notify (row "B" "a" 10 .started)]

def runTwo : List ManagerAction :=
  [.notify (row "A.B" "a" 10 .pending), .notify (row "A.B" "b" 10 .pending), .getJobsToRun 1]

/-- The capacity zero does not limit; late starts and starts elsewhere exceed a capacity; and a job
that waits in the parent is not known to the root. -/
theorem channels_overfull :
    (Along step OnlyYielded (start (alone 0)) runOne ∧
      ((runSteps step (start (alone 0)) runOne).manager.channel []).capacity = some 0 ∧
      ((runSteps step (start (alone 0)) runOne).manager.channel []).running.card = 1) ∧
    (Along step OnlyYielded (start (alone 1)) startLate ∧
      ((runSteps step (start (alone 1)) startLate).manager.channel []).capacity = some 1 ∧
      ((runSteps step (start (alone 1)) startLate).manager.channel []).running.card = 2) ∧
    (Along step OnlyYielded (start siblings) startElsewhere ∧
      ((runSteps step (start siblings) startElsewhere).manager.channel ["B"]).capacity = some 1 ∧
      ((runSteps step (start siblings) startElsewhere).manager.channel ["B"]).running.card = 2) ∧
    (Along step OnlyYielded (start nested) runTwo ∧
      (runSteps step (start nested) runTwo).manager.Running ["B", "A"] 1 ∧
      ¬ (runSteps step (start nested) runTwo).manager.Queued [] 1 ∧
      ¬ (runSteps step (start nested) runTwo).manager.Running [] 1) := by
  refine ⟨⟨?_, ?_, ?_⟩, ⟨?_, ?_, ?_⟩, ⟨?_, ?_, ?_⟩, ⟨?_, ?_, ?_, ?_⟩⟩
  · exact ⟨nofun, trivial, trivial⟩
  · decide +kernel
  · decide +kernel
  · refine ⟨nofun, trivial, nofun, nofun, trivial, fun _ => ?_, trivial⟩
    exact ⟨0, by decide +kernel, by decide +kernel⟩
  · decide +kernel
  · decide +kernel
  · refine ⟨nofun, nofun, trivial, fun _ => ?_, trivial⟩
    exact ⟨0, by decide +kernel, by decide +kernel⟩
  · decide +kernel
  · decide +kernel
  · exact ⟨nofun, nofun, trivial, trivial⟩
  · unfold ChannelManager.Running
    decide +kernel
  · unfold ChannelManager.Queued
    decide +kernel
  · unfold ChannelManager.Running
    decide +kernel

/-- A job starts in its turn. -/
def startInTurn : List ManagerAction :=
  [.notify (row "" "a" 10 .pending), .getJobsToRun 1, .notify (row "" "a" 10 .started)]

theorem channels_kept_startInTurn :
    (runSteps step (start (alone 1)) startInTurn).manager.Within ∧
      ((runSteps step (start (alone 1)) startInTurn).manager.channel []).running.card = 1 := by
  refine ⟨(channels_kept (alone 1) startInTurn).2.2 ?_, by decide +kernel⟩
  refine ⟨nofun, trivial, fun _ => ⟨by decide +kernel, fun job _ place onPath off => ?_⟩, trivial⟩
  have root : place = [] := List.suffix_nil.mp onPath
  exact absurd (root ▸ List.nil_suffix) off

end Overfull

end Session

end OdooConnector.Queue
