import OdooConnector.Library.Placement
import OdooConnector.Queue.ChannelPop

/-!
# Where the jobs of the channels are

Every job is placed on the path of its channel, and every operation moves one job at a time.
-/

namespace OdooConnector.Queue

/-- A channel as it was, but for one job at most. -/
structure Channel.Agrees (moved : Option ℕ) (before after : Channel) : Prop where
  queue : ∀ other, some other ≠ moved → (other ∈ after.queue ↔ other ∈ before.queue)
  running : ∀ other, some other ≠ moved → (other ∈ after.running ↔ other ∈ before.running)
  failed : ∀ other, some other ≠ moved → (other ∈ after.failed ↔ other ∈ before.failed)
  capacity : after.capacity = before.capacity
  separate : before.queue.Separate → after.queue.Separate

namespace Channel.Agrees

variable {moved : Option ℕ} {job : ℕ} {first second third channel : Channel} {jobs : JobObjects}

theorem refl (moved : Option ℕ) (channel : Channel) : Agrees moved channel channel :=
  ⟨fun _ _ => Iff.rfl, fun _ _ => Iff.rfl, fun _ _ => Iff.rfl, rfl, id⟩

theorem trans (front : Agrees moved first second) (back : Agrees moved second third) :
    Agrees moved first third :=
  ⟨fun other ne => (back.queue other ne).trans (front.queue other ne),
    fun other ne => (back.running other ne).trans (front.running other ne),
    fun other ne => (back.failed other ne).trans (front.failed other ne),
    back.capacity.trans front.capacity, fun separate => back.separate (front.separate separate)⟩

theorem discard : Agrees (some job) channel (channel.discard job) := by
  refine ⟨fun other ne => ?_, fun other ne => ?_, fun other ne => ?_, rfl, ?_⟩
  · simp [Channel.discard, ChannelQueue.mem_remove, Option.some_inj.not.mp ne]
  · simp [Channel.discard, Option.some_inj.not.mp ne]
  · simp [Channel.discard, Option.some_inj.not.mp ne]
  · exact ChannelQueue.Separate.remove

theorem pending (outside : job ∉ channel.queue) :
    Agrees (some job) channel { channel with
      queue := channel.queue.add jobs job
      running := channel.running.erase job
      failed := channel.failed.erase job } := by
  refine ⟨fun other ne => ?_, fun other ne => ?_, fun other ne => ?_, rfl, ?_⟩
  · simp [ChannelQueue.mem_add, Option.some_inj.not.mp ne]
  · simp [Option.some_inj.not.mp ne]
  · simp [Option.some_inj.not.mp ne]
  · exact fun separate => separate.add outside

theorem run : Agrees (some job) channel { channel with
    queue := channel.queue.remove job
    running := insert job channel.running
    failed := channel.failed.erase job } := by
  refine ⟨fun other ne => ?_, fun other ne => ?_, fun other ne => ?_, rfl, ?_⟩
  · simp [ChannelQueue.mem_remove, Option.some_inj.not.mp ne]
  · simp [Option.some_inj.not.mp ne]
  · simp [Option.some_inj.not.mp ne]
  · exact ChannelQueue.Separate.remove

theorem fail : Agrees (some job) channel { channel with
    queue := channel.queue.remove job
    running := channel.running.erase job
    failed := insert job channel.failed } := by
  refine ⟨fun other ne => ?_, fun other ne => ?_, fun other ne => ?_, rfl, ?_⟩
  · simp [ChannelQueue.mem_remove, Option.some_inj.not.mp ne]
  · simp [Option.some_inj.not.mp ne]
  · simp [Option.some_inj.not.mp ne]
  · exact ChannelQueue.Separate.remove

theorem enqueue (outside : job ∉ channel.queue) :
    Agrees (some job) channel { channel with queue := channel.queue.add jobs job } := by
  refine ⟨fun other ne => ?_, fun _ _ => Iff.rfl, fun _ _ => Iff.rfl, rfl, ?_⟩
  · simp [ChannelQueue.mem_add, Option.some_inj.not.mp ne]
  · exact fun separate => separate.add outside

theorem runPopped :
    Agrees (some job) channel { channel with running := insert job channel.running } := by
  refine ⟨fun _ _ => Iff.rfl, fun other ne => ?_, fun _ _ => Iff.rfl, rfl, id⟩
  simp [Option.some_inj.not.mp ne]

end Channel.Agrees

namespace ChannelManager

variable {manager before middle after : ChannelManager} {moved : Option ℕ} {job other : ℕ}
  {path place parent : ChannelPath} {name : String} {now : ℚ}

def Queued (manager : ChannelManager) (path : ChannelPath) (job : ℕ) : Prop :=
  job ∈ (manager.channel path).queue

def Running (manager : ChannelManager) (path : ChannelPath) (job : ℕ) : Prop :=
  job ∈ (manager.channel path).running

def Failed (manager : ChannelManager) (path : ChannelPath) (job : ℕ) : Prop :=
  job ∈ (manager.channel path).failed

/-- A manager as it was, but for the places of one job at most. -/
structure Frame (moved : Option ℕ) (before after : ChannelManager) : Prop where
  paths : after.paths = before.paths
  jobsByUuid : after.jobsByUuid = before.jobsByUuid
  nextJob : after.nextJob = before.nextJob
  sameJob : ∀ other, SameJob (before.job other) (after.job other)
  agrees : ∀ path, (before.channel path).Agrees moved (after.channel path)

namespace Frame

theorem refl (moved : Option ℕ) (manager : ChannelManager) : Frame moved manager manager :=
  ⟨rfl, rfl, rfl, fun _ => SameJob.refl _, fun _ => Channel.Agrees.refl _ _⟩

theorem trans (front : Frame moved before middle) (back : Frame moved middle after) :
    Frame moved before after :=
  ⟨back.paths.trans front.paths, back.jobsByUuid.trans front.jobsByUuid,
    back.nextJob.trans front.nextJob, fun other => (front.sameJob other).trans (back.sameJob other),
    fun path => (front.agrees path).trans (back.agrees path)⟩

theorem modify {change : Channel → Channel}
    (agrees : (manager.channel path).Agrees moved (change (manager.channel path))) :
    Frame moved manager (manager.modify path change) := by
  refine ⟨rfl, rfl, rfl, fun _ => SameJob.refl _, fun other => ?_⟩
  rw [ChannelManager.modify]
  by_cases same : other = path
  · subst same
    simpa using agrees
  · simpa [same] using Channel.Agrees.refl moved _

end Frame

theorem channel_modify (change : Channel → Channel) :
    (manager.modify path change).channel place =
      if place = path then change (manager.channel path) else manager.channel place :=
  Function.update_apply _ _ _ _

theorem frame_remove : Frame (some job) manager (remove job path manager) := by
  induction path generalizing manager with
  | nil => exact Frame.modify Channel.Agrees.discard
  | cons name parent induction => exact (Frame.modify Channel.Agrees.discard).trans induction

/-- A job is removed from a channel and its parents. -/
theorem channel_remove : (remove job path manager).channel place =
    if place <:+ path then (manager.channel place).discard job else manager.channel place := by
  induction path generalizing manager with
  | nil =>
      rw [remove, channel_modify]
      simp only [List.suffix_nil]
      split
      · rename_i same
        rw [same]
      · rfl
  | cons name parent induction =>
      rw [remove, induction, channel_modify]
      simp only [List.suffix_cons_iff]
      by_cases above : place <:+ parent
      · simp [above, ne_cons_of_suffix above]
      · by_cases same : place = name :: parent
        · subst same
          simp [above]
        · simp [above, same]

theorem frame_removeAbove : Frame (some job) manager (removeAbove job path manager) := by
  cases path with
  | nil => exact Frame.refl _ _
  | cons name parent => exact frame_remove

theorem channel_removeAbove : (removeAbove job path manager).channel place =
    if place <:+ path ∧ place ≠ path then (manager.channel place).discard job
    else manager.channel place := by
  cases path with
  | nil =>
      rw [removeAbove, if_neg]
      intro ⟨onPath, inner⟩
      exact inner (List.suffix_nil.mp onPath)
  | cons name parent =>
      rw [removeAbove, channel_remove]
      refine if_congr ?_ rfl rfl
      rw [List.suffix_cons_iff]
      constructor
      · intro above
        exact ⟨Or.inr above, ne_cons_of_suffix above⟩
      · intro ⟨onPath, inner⟩
        exact onPath.resolve_left inner

theorem frame_setPending : Frame (some job) manager (manager.setPending job path) := by
  rw [setPending]
  split
  · exact Frame.refl _ _
  · rename_i outside
    exact (Frame.modify (Channel.Agrees.pending outside)).trans frame_removeAbove

theorem frame_setFailed : Frame (some job) manager (manager.setFailed job path) := by
  rw [setFailed]
  split
  · exact Frame.refl _ _
  · exact (Frame.modify Channel.Agrees.fail).trans frame_removeAbove

theorem frame_setRunning : Frame (some job) manager (setRunning job path manager) := by
  induction path generalizing manager with
  | nil =>
      rw [setRunning]
      split
      · exact Frame.refl _ _
      · exact Frame.modify Channel.Agrees.run
  | cons name parent induction =>
      rw [setRunning]
      split
      · exact Frame.refl _ _
      · exact (Frame.modify Channel.Agrees.run).trans induction

theorem setRunning_of_running (running : manager.Running path job) :
    setRunning job path manager = manager := by
  have here : job ∈ (manager.channel path).running := running
  cases path with
  | nil => rw [setRunning, if_pos here]
  | cons name parent => rw [setRunning, if_pos here]

/-- A job that runs nowhere on a path runs in all its channels. -/
theorem channel_setRunning (idle : ∀ place, place <:+ path → ¬ manager.Running place job) :
    (setRunning job path manager).channel place =
      if place <:+ path then
        { manager.channel place with
          queue := (manager.channel place).queue.remove job
          running := insert job (manager.channel place).running
          failed := (manager.channel place).failed.erase job }
      else manager.channel place := by
  induction path generalizing manager with
  | nil =>
      have here : job ∉ (manager.channel []).running := idle [] List.suffix_rfl
      rw [setRunning, if_neg here, channel_modify]
      simp only [List.suffix_nil]
      split
      · rename_i same
        rw [same]
      · rfl
  | cons name parent induction =>
      have here : job ∉ (manager.channel (name :: parent)).running := idle _ List.suffix_rfl
      rw [setRunning, if_neg here]
      dsimp only
      rw [induction, channel_modify]
      · simp only [List.suffix_cons_iff]
        by_cases above : place <:+ parent
        · simp [above, ne_cons_of_suffix above]
        · by_cases same : place = name :: parent
          · subst same
            simp [above]
          · simp [above, same]
      · intro place above
        rw [Running, channel_modify, if_neg (ne_cons_of_suffix above)]
        exact idle place (above.trans (List.suffix_cons name parent))

theorem frame_transition (state : Option JobState) :
    Frame (some job) manager (manager.transition job state) := by
  cases state with
  | none => exact frame_remove
  | some state =>
      cases state with
      | pending => exact frame_setPending
      | enqueued => exact frame_setRunning
      | started => exact frame_setRunning
      | failed => exact frame_setFailed
      | done => exact frame_remove
      | cancelled => exact frame_remove
      | waitDependencies => exact Frame.refl _ _

end ChannelManager

end OdooConnector.Queue
