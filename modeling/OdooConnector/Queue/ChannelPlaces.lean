import OdooConnector.Queue.ChannelState

/-!
# Jobs on the paths of their channels

All operations keep every job placed on the path of its channel, known by its uuid, and in channels
that exist.
-/

namespace OdooConnector.Queue

namespace ChannelManager

variable {manager before after : ChannelManager} {moved : Option ℕ} {job other : ℕ}
  {path place parent : ChannelPath} {name : String} {now : ℚ} {row : Notification}

/-- The job is queued, runs or has failed in a channel. -/
def Holds (manager : ChannelManager) (path : ChannelPath) (job : ℕ) : Prop :=
  manager.Queued path job ∨ manager.Running path job ∨ manager.Failed path job

/-- What every operation keeps. -/
structure Kept (manager : ChannelManager) : Prop where
  placed : ∀ job, Placed (manager.job job).channel (fun path => manager.Queued path job)
    (fun path => manager.Running path job) fun path => manager.Failed path job
  separate : ∀ path, (manager.channel path).queue.Separate
  known : ∀ path job, manager.Holds path job → job ∈ manager.jobsByUuid
  nodup : (manager.jobsByUuid.map fun job => (manager.job job).uuid).Nodup
  fresh : ∀ job ∈ manager.jobsByUuid, job < manager.nextJob
  root : [] ∈ manager.paths
  closed : ∀ name path, name :: path ∈ manager.paths → path ∈ manager.paths
  listed : ∀ job ∈ manager.jobsByUuid, (manager.job job).channel ∈ manager.paths

theorem Kept.onPath (kept : Kept manager) (holds : manager.Holds path job) :
    path <:+ (manager.job job).channel := by
  cases holds with
  | inl queued => exact (kept.placed job).onPath path (Or.inl queued)
  | inr later =>
      cases later with
      | inl running => exact (kept.placed job).onPath path (Or.inr running)
      | inr failed =>
          rw [(kept.placed job).failed_first path failed]

/-- Known jobs have different uuids. -/
theorem Kept.uuid_unique (kept : Kept manager) (known : job ∈ manager.jobsByUuid)
    (known' : other ∈ manager.jobsByUuid)
    (same : (manager.job job).uuid = (manager.job other).uuid) : job = other :=
  List.inj_on_of_nodup_map kept.nodup known known' same

theorem Frame.queued_iff (frame : Frame moved before after) (ne : some job ≠ moved) :
    after.Queued path job ↔ before.Queued path job :=
  (frame.agrees path).queue job ne

theorem Frame.running_iff (frame : Frame moved before after) (ne : some job ≠ moved) :
    after.Running path job ↔ before.Running path job :=
  (frame.agrees path).running job ne

theorem Frame.failed_iff (frame : Frame moved before after) (ne : some job ≠ moved) :
    after.Failed path job ↔ before.Failed path job :=
  (frame.agrees path).failed job ne

theorem Frame.holds_iff (frame : Frame moved before after) (ne : some job ≠ moved) :
    after.Holds path job ↔ before.Holds path job :=
  or_congr (frame.queued_iff ne) (or_congr (frame.running_iff ne) (frame.failed_iff ne))

theorem Frame.uuids (frame : Frame moved before after) :
    (after.jobsByUuid.map fun job => (after.job job).uuid) =
      before.jobsByUuid.map fun job => (before.job job).uuid := by
  rw [frame.jobsByUuid]
  exact List.map_congr_left fun job _ => (frame.sameJob job).uuid

/-- It suffices that the job that moved is placed. -/
theorem Kept.of_frame (kept : Kept before) (frame : Frame moved before after)
    (placed : ∀ job, some job = moved → job ∈ before.jobsByUuid ∧
      Placed (before.job job).channel (fun path => after.Queued path job)
        (fun path => after.Running path job) fun path => after.Failed path job) : Kept after := by
  constructor
  case placed =>
    intro job
    rw [(frame.sameJob job).channel]
    by_cases same : some job = moved
    · exact (placed job same).2
    · exact (kept.placed job).congr (fun _ => frame.queued_iff same)
        (fun _ => frame.running_iff same) fun _ => frame.failed_iff same
  case separate => exact fun path => (frame.agrees path).separate (kept.separate path)
  case known =>
    intro path job holds
    rw [frame.jobsByUuid]
    by_cases same : some job = moved
    · exact (placed job same).1
    · exact kept.known path job ((frame.holds_iff same).mp holds)
  case nodup => exact frame.uuids ▸ kept.nodup
  case fresh =>
    rw [frame.jobsByUuid, frame.nextJob]
    exact kept.fresh
  case root => exact frame.paths ▸ kept.root
  case closed => exact frame.paths ▸ kept.closed
  case listed =>
    intro job known
    rw [(frame.sameJob job).channel, frame.paths]
    exact kept.listed job (frame.jobsByUuid ▸ known)

theorem Kept.of_moved (kept : Kept before) (frame : Frame (some job) before after)
    (known : job ∈ before.jobsByUuid)
    (placed : Placed (before.job job).channel (fun path => after.Queued path job)
      (fun path => after.Running path job) fun path => after.Failed path job) : Kept after := by
  refine kept.of_frame frame fun other same => ?_
  cases same
  exact ⟨known, placed⟩

section Transitions

theorem not_holds_remove (kept : Kept manager) :
    ¬ (remove job (manager.job job).channel manager).Holds place job := by
  rw [Holds, Queued, Running, Failed, channel_remove]
  split
  · simp [Channel.discard, ChannelQueue.mem_remove]
  · rename_i off
    exact fun holds => off (kept.onPath holds)

theorem placed_of_not_holds (idle : ∀ place, ¬ manager.Holds place job) :
    Placed path (fun path => manager.Queued path job) (fun path => manager.Running path job)
      fun path => manager.Failed path job := by
  refine Placed.nowhere.congr (fun place => ?_) (fun place => ?_) fun place => ?_
  · exact iff_of_false (fun queued => idle place (Or.inl queued)) id
  · exact iff_of_false (fun running => idle place (Or.inr (Or.inl running))) id
  · exact iff_of_false (fun failed => idle place (Or.inr (Or.inr failed))) id

theorem Kept.remove (kept : Kept manager) (known : job ∈ manager.jobsByUuid) :
    Kept (ChannelManager.remove job (manager.job job).channel manager) :=
  kept.of_moved frame_remove known (placed_of_not_holds fun _ => not_holds_remove kept)

/-- A change of the channel of a job that removes it from the parents. -/
theorem channel_removeAbove_modify (change : Channel → Channel) :
    (removeAbove job path (manager.modify path change)).channel place =
      if place = path then change (manager.channel path)
      else if place <:+ path then (manager.channel place).discard job
      else manager.channel place := by
  rw [channel_removeAbove, channel_modify]
  by_cases same : place = path
  · simp [same]
  · simp [same]

theorem not_holds_elsewhere (kept : Kept manager) {change : Channel → Channel}
    (inner : place ≠ (manager.job job).channel) :
    ¬ (removeAbove job (manager.job job).channel
      (manager.modify (manager.job job).channel change)).Holds place job := by
  rw [Holds, Queued, Running, Failed, channel_removeAbove_modify, if_neg inner]
  split
  · simp [Channel.discard, ChannelQueue.mem_remove]
  · rename_i off
    exact fun holds => off (kept.onPath holds)

section Changed

variable (kept : Kept manager) {change : Channel → Channel}
include kept

theorem queued_changed : (removeAbove job (manager.job job).channel
      (manager.modify (manager.job job).channel change)).Queued place job ↔
    place = (manager.job job).channel ∧
      job ∈ (change (manager.channel (manager.job job).channel)).queue := by
  by_cases same : place = (manager.job job).channel
  · rw [Queued, channel_removeAbove_modify, if_pos same]
    exact (and_iff_right same).symm
  · exact iff_of_false (fun queued => not_holds_elsewhere kept same (Or.inl queued))
      fun here => same here.1

theorem running_changed : (removeAbove job (manager.job job).channel
      (manager.modify (manager.job job).channel change)).Running place job ↔
    place = (manager.job job).channel ∧
      job ∈ (change (manager.channel (manager.job job).channel)).running := by
  by_cases same : place = (manager.job job).channel
  · rw [Running, channel_removeAbove_modify, if_pos same]
    exact (and_iff_right same).symm
  · exact iff_of_false (fun running => not_holds_elsewhere kept same (Or.inr (Or.inl running)))
      fun here => same here.1

theorem failed_changed : (removeAbove job (manager.job job).channel
      (manager.modify (manager.job job).channel change)).Failed place job ↔
    place = (manager.job job).channel ∧
      job ∈ (change (manager.channel (manager.job job).channel)).failed := by
  by_cases same : place = (manager.job job).channel
  · rw [Failed, channel_removeAbove_modify, if_pos same]
    exact (and_iff_right same).symm
  · exact iff_of_false (fun failed => not_holds_elsewhere kept same (Or.inr (Or.inr failed)))
      fun here => same here.1

end Changed

theorem Kept.setPending (kept : Kept manager) (known : job ∈ manager.jobsByUuid) :
    Kept (manager.setPending job (manager.job job).channel) := by
  rw [ChannelManager.setPending]
  split
  · exact kept
  · rename_i outside
    refine kept.of_moved ((Frame.modify (Channel.Agrees.pending outside)).trans
      frame_removeAbove) known ?_
    refine Placed.queuedFirst.congr (fun place => ?_) (fun place => ?_) fun place => ?_
    · rw [queued_changed kept]
      exact and_iff_left (ChannelQueue.mem_add.mpr (Or.inl rfl))
    · rw [running_changed kept]
      simp
    · rw [failed_changed kept]
      simp

theorem Kept.setFailed (kept : Kept manager) (known : job ∈ manager.jobsByUuid) :
    Kept (manager.setFailed job (manager.job job).channel) := by
  rw [ChannelManager.setFailed]
  split
  · exact kept
  · refine kept.of_moved ((Frame.modify Channel.Agrees.fail).trans frame_removeAbove) known ?_
    refine Placed.failedFirst.congr (fun place => ?_) (fun place => ?_) fun place => ?_
    · rw [queued_changed kept]
      simp [ChannelQueue.mem_remove]
    · rw [running_changed kept]
      simp
    · rw [failed_changed kept]
      exact and_iff_left (Finset.mem_insert_self job _)

/-- A job that does not run in its own channel runs nowhere. -/
theorem Kept.not_running (kept : Kept manager)
    (idle : ¬ manager.Running (manager.job job).channel job) : ¬ manager.Running place job := by
  intro running
  have first := (kept.placed job).eq_path idle (Or.inr running)
  exact idle (first ▸ running)

theorem Kept.setRunning (kept : Kept manager) (known : job ∈ manager.jobsByUuid) :
    Kept (ChannelManager.setRunning job (manager.job job).channel manager) := by
  by_cases running : manager.Running (manager.job job).channel job
  · rw [setRunning_of_running running]
    exact kept
  · have idle : ∀ place, place <:+ (manager.job job).channel → ¬ manager.Running place job :=
      fun place _ => kept.not_running running
    refine kept.of_moved frame_setRunning known ?_
    refine Placed.runningAll.congr (fun place => ?_) (fun place => ?_) fun place => ?_
    · rw [Queued, channel_setRunning idle]
      split
      · simp [ChannelQueue.mem_remove]
      · rename_i off
        exact iff_of_false (fun queued => off (kept.onPath (Or.inl queued))) id
    · rw [Running, channel_setRunning idle]
      split
      · rename_i onPath
        exact iff_of_true (Finset.mem_insert_self job _) onPath
      · rename_i off
        exact iff_of_false (fun running => off (kept.onPath (Or.inr (Or.inl running)))) off
    · rw [Failed, channel_setRunning idle]
      split
      · simp
      · rename_i off
        exact iff_of_false (fun failed => off (kept.onPath (Or.inr (Or.inr failed)))) id

theorem Kept.transition (kept : Kept manager) (known : job ∈ manager.jobsByUuid)
    (state : Option JobState) : Kept (manager.transition job state) := by
  cases state with
  | none => exact kept.remove known
  | some state =>
      cases state with
      | pending => exact kept.setPending known
      | enqueued => exact kept.setRunning known
      | started => exact kept.setRunning known
      | failed => exact kept.setFailed known
      | done => exact kept.remove known
      | cancelled => exact kept.remove known
      | waitDependencies => exact kept

end Transitions

end ChannelManager

end OdooConnector.Queue
