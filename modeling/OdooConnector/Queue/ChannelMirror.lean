import OdooConnector.Queue.KnownJobs

/-!
# Where the channels have a job

A notification puts the job of its row where the state of the row tells, and leaves all others where
they are. Jobs that are yielded go up, and reach the runner in the end.
-/

namespace OdooConnector.Queue

namespace ChannelManager

variable {manager before middle after : ChannelManager} {job other : ℕ}
  {path place : ChannelPath} {uuid : String} {row : Notification} {now : ℚ} {state : JobState}

/-- A job of a uuid waits in a place, runs there, or has failed. -/
def Somewhere (kind : ChannelManager → ChannelPath → ℕ → Prop) (manager : ChannelManager)
    (uuid : String) (place : ChannelPath) : Prop :=
  ∃ job, (manager.job job).uuid = uuid ∧ kind manager place job

/-- The job of a uuid is where the state of its row tells. Of a job that waits for others, the
channels are told nothing. -/
def Mirrors (manager : ChannelManager) (uuid : String) : Option JobState → Prop
  | none | some .done | some .cancelled => ∀ place, ¬ Somewhere Holds manager uuid place
  | some .pending => ∃ place, Somewhere Queued manager uuid place
  | some .enqueued | some .started => manager.RunsInRoot uuid
  | some .failed => ∃ place, Somewhere Failed manager uuid place
  | some .waitDependencies => True

/-- The job of a uuid stays where it is. -/
structure Spares (uuid : String) (before after : ChannelManager) : Prop where
  queued : ∀ place, Somewhere Queued after uuid place ↔ Somewhere Queued before uuid place
  running : ∀ place, Somewhere Running after uuid place ↔ Somewhere Running before uuid place
  failed : ∀ place, Somewhere Failed after uuid place ↔ Somewhere Failed before uuid place

theorem somewhere_holds : Somewhere Holds manager uuid place ↔
    Somewhere Queued manager uuid place ∨ Somewhere Running manager uuid place ∨
      Somewhere Failed manager uuid place := by
  simp only [Somewhere, Holds, and_or_left, exists_or]

section Others

theorem Spares.refl (uuid : String) (manager : ChannelManager) : Spares uuid manager manager :=
  ⟨fun _ => Iff.rfl, fun _ => Iff.rfl, fun _ => Iff.rfl⟩

theorem Spares.trans (front : Spares uuid before middle) (back : Spares uuid middle after) :
    Spares uuid before after :=
  ⟨fun place => (back.queued place).trans (front.queued place),
    fun place => (back.running place).trans (front.running place),
    fun place => (back.failed place).trans (front.failed place)⟩

theorem Spares.mirrors_iff (spares : Spares uuid before after) (state : Option JobState) :
    after.Mirrors uuid state ↔ before.Mirrors uuid state := by
  have holds : (∀ place, ¬ Somewhere Holds after uuid place) ↔
      ∀ place, ¬ Somewhere Holds before uuid place := by
    simp only [somewhere_holds, spares.queued, spares.running, spares.failed]
  cases state with
  | none => exact holds
  | some state =>
      cases state with
      | waitDependencies => exact Iff.rfl
      | pending => exact exists_congr spares.queued
      | enqueued => exact spares.running []
      | started => exact spares.running []
      | done => exact holds
      | cancelled => exact holds
      | failed => exact exists_congr spares.failed

/-- It suffices to look at the jobs of the uuid. -/
theorem Spares.of_jobs
    (jobs : ∀ job, (after.job job).uuid = uuid ∧ (∃ place, after.Holds place job) →
      (before.job job).uuid = uuid)
    (jobs' : ∀ job, (before.job job).uuid = uuid ∧ (∃ place, before.Holds place job) →
      (after.job job).uuid = uuid)
    (queued : ∀ place job, (after.job job).uuid = uuid → (before.job job).uuid = uuid →
      (after.Queued place job ↔ before.Queued place job))
    (running : ∀ place job, (after.job job).uuid = uuid → (before.job job).uuid = uuid →
      (after.Running place job ↔ before.Running place job))
    (failed : ∀ place job, (after.job job).uuid = uuid → (before.job job).uuid = uuid →
      (after.Failed place job ↔ before.Failed place job)) : Spares uuid before after := by
  have both {kind : ChannelManager → ChannelPath → ℕ → Prop}
      (holds : ∀ manager place job, kind manager place job → manager.Holds place job)
      (same : ∀ place job, (after.job job).uuid = uuid → (before.job job).uuid = uuid →
        (kind after place job ↔ kind before place job)) (place : ChannelPath) :
      Somewhere kind after uuid place ↔ Somewhere kind before uuid place := by
    refine exists_congr fun job => ⟨fun here => ?_, fun here => ?_⟩
    · have own := jobs job ⟨here.1, place, holds _ _ _ here.2⟩
      exact ⟨own, (same place job here.1 own).mp here.2⟩
    · have own := jobs' job ⟨here.1, place, holds _ _ _ here.2⟩
      exact ⟨own, (same place job own here.1).mpr here.2⟩
  exact ⟨both (fun _ _ _ => .inl) queued, both (fun _ _ _ here => .inr (.inl here)) running,
    both (fun _ _ _ here => .inr (.inr here)) failed⟩

theorem Frame.spares (frame : Frame (some job) before after)
    (apart : (before.job job).uuid ≠ uuid) : Spares uuid before after := by
  have ne {other : ℕ} (own : (before.job other).uuid = uuid) : some other ≠ some job :=
    fun same => apart (Option.some_inj.mp same ▸ own)
  refine .of_jobs (fun other here => ?_) (fun other here => ?_) (fun place other _ own => ?_)
    (fun place other _ own => ?_) fun place other _ own => ?_
  · exact (frame.sameJob other).uuid.symm.trans here.1
  · exact (frame.sameJob other).uuid.trans here.1
  · exact frame.queued_iff (ne own)
  · exact frame.running_iff (ne own)
  · exact frame.failed_iff (ne own)

theorem Opens.spares (opens : Opens before after) (kept : Kept before) :
    Spares uuid before after := by
  refine .of_jobs (fun job here => ?_) (fun job here => ?_) (fun place job _ _ => ?_)
    (fun place job _ _ => ?_) fun place job _ _ => ?_
  · exact opens.job ▸ here.1
  · exact opens.job.symm ▸ here.1
  · exact opens.queued_iff kept
  · exact opens.running_iff kept
  · exact opens.failed_iff kept

theorem spares_newJob (kept : Kept manager) (apart : row.uuid ≠ uuid) :
    Spares uuid manager (manager.newJob path row) := by
  have own : ((manager.newJob path row).job manager.nextJob).uuid = row.uuid := by
    simp [ChannelManager.newJob]
  have old {job : ℕ} (ne : job ≠ manager.nextJob) :
      (manager.newJob path row).job job = manager.job job := Function.update_of_ne ne _ _
  refine .of_jobs (fun job here => ?_) (fun job here => ?_) (fun _ _ _ _ => Iff.rfl)
    (fun _ _ _ _ => Iff.rfl) fun _ _ _ _ => Iff.rfl
  · by_cases isNew : job = manager.nextJob
    · subst isNew
      exact absurd (own.symm.trans here.1) apart
    · exact old isNew ▸ here.1
  · obtain ⟨same, place, holds⟩ := here
    rw [old (Nat.ne_of_lt (kept.fresh job (kept.known place job holds)))]
    exact same

theorem spares_create (kept : Kept manager) (apart : row.uuid ≠ uuid) :
    Spares uuid manager (manager.create path row) := by
  have frame : Frame (some manager.nextJob) (manager.newJob path row) (manager.create path row) :=
    frame_transition row.state
  refine (spares_newJob kept apart).trans (frame.spares ?_)
  simpa [ChannelManager.newJob] using apart

theorem spares_dropJob (apart : (manager.job job).uuid ≠ uuid) :
    Spares uuid manager (manager.dropJob job) := by
  have frame : Frame (some job) manager (remove job (manager.job job).channel manager) :=
    frame_remove
  obtain ⟨queued, running, failed⟩ := frame.spares apart
  exact ⟨queued, running, failed⟩

/-- A notification concerns the job of its row only. -/
theorem spares_notify (kept : Kept manager) (apart : row.uuid ≠ uuid) :
    Spares uuid manager (manager.notify row) := by
  obtain ⟨opens, -⟩ := getChannelByName_opens kept.root row.channelName
  have opened := kept.opens opens
  refine (opens.spares kept).trans ?_
  rw [notify_eq, updateJob]
  split
  · exact spares_create opened apart
  · rename_i job found
    obtain ⟨known, same⟩ := jobOf_eq_some found
    split
    · exact .refl _ _
    · split
      · rw [removeJob_eq found]
        exact (spares_dropJob (same ▸ apart)).trans (spares_create (opened.dropJob known) apart)
      · have frame := @frame_transition
          (manager.getChannelByName row.channelName).2 job row.state
        exact frame.spares (same ▸ apart)

theorem spares_removeJob {other : String} (apart : other ≠ uuid) :
    Spares uuid manager (manager.removeJob other) := by
  cases found : manager.jobOf other with
  | none =>
      rw [removeJob, found]
      exact .refl _ _
  | some job =>
      rw [removeJob_eq found]
      exact spares_dropJob ((jobOf_eq_some found).2 ▸ apart)

end Others

section Own

/-- All jobs of a uuid that are somewhere are the known one. -/
theorem Kept.eq_of_holds (kept : Kept manager) (known : job ∈ manager.jobsByUuid)
    (holds : manager.Holds place other) (same : (manager.job other).uuid = (manager.job job).uuid) :
    other = job :=
  kept.uuid_unique (kept.known place other holds) known same

/-- A job that is moved is where its new state tells. -/
theorem mirrors_transition (kept : Kept manager) (known : job ∈ manager.jobsByUuid)
    (idle : state.runs = false) :
    (manager.transition job (some state)).Mirrors (manager.job job).uuid (some state) := by
  have frame : Frame (some job) manager (manager.transition job (some state)) :=
    frame_transition (some state)
  have after := kept.transition known (some state)
  have known' : job ∈ (manager.transition job (some state)).jobsByUuid := frame.jobsByUuid ▸ known
  have uuid := (frame.sameJob job).uuid
  have gone (removed : manager.transition job (some state) =
      remove job (manager.job job).channel manager) (place : ChannelPath) :
      ¬ Somewhere Holds (manager.transition job (some state)) (manager.job job).uuid place := by
    rintro ⟨other, same, holds⟩
    obtain rfl := after.eq_of_holds known' holds (same.trans uuid.symm)
    rw [removed] at holds
    exact not_holds_remove kept holds
  cases state with
  | waitDependencies => trivial
  | pending =>
      refine ⟨(manager.job job).channel, job, uuid, ?_⟩
      rw [transition, setPending]
      split
      · assumption
      · rw [Queued, channel_removeAbove_modify, if_pos rfl]
        exact ChannelQueue.mem_add.mpr (.inl rfl)
  | enqueued => cases idle
  | started => cases idle
  | done => exact gone rfl
  | cancelled => exact gone rfl
  | failed =>
      refine ⟨(manager.job job).channel, job, uuid, ?_⟩
      rw [transition, setFailed]
      split
      · assumption
      · rw [Failed, channel_removeAbove_modify, if_pos rfl]
        exact Finset.mem_insert_self job _

theorem mirrors_create (kept : Kept manager) (listed : path ∈ manager.paths)
    (absent : ∀ job ∈ manager.jobsByUuid, (manager.job job).uuid ≠ row.uuid)
    (same : row.state = some state) (idle : state.runs = false) :
    (manager.create path row).Mirrors row.uuid (some state) := by
  have own : ((manager.newJob path row).job manager.nextJob).uuid = row.uuid := by
    simp [ChannelManager.newJob]
  rw [create, same, ← own]
  exact mirrors_transition (kept.newJob listed absent)
    (List.mem_append_right _ List.mem_cons_self) idle

/-- A row that is accepted is mirrored at once. -/
theorem mirrors_notify (kept : Kept manager)
    (accepted : ∀ job ∈ manager.jobsByUuid, (manager.job job).uuid = row.uuid →
      (manager.job job).dbName = row.dbName ∧ (manager.job job).dateCreated = row.dateCreated)
    (same : row.state = some state) (idle : state.runs = false) :
    (manager.notify row).Mirrors row.uuid (some state) := by
  obtain ⟨opens, listed⟩ := getChannelByName_opens kept.root row.channelName
  have opened := kept.opens opens
  rw [← opens.jobsByUuid, ← opens.job] at accepted
  rw [notify_eq, updateJob]
  split
  · rename_i absent
    exact mirrors_create opened listed (fun job known => jobOf_eq_none absent known) same idle
  · rename_i job found
    obtain ⟨known, own⟩ := jobOf_eq_some found
    obtain ⟨database, date⟩ := accepted job known own
    rw [if_neg (not_or.mpr ⟨not_not.mpr database, not_not.mpr date⟩)]
    split
    · rw [removeJob_eq found]
      refine mirrors_create (opened.dropJob known) (by rwa [paths_dropJob]) ?_ same idle
      rw [← own]
      exact opened.absent_dropJob known
    · rw [same, ← own]
      exact mirrors_transition opened known idle

theorem mirrors_removeJob (kept : Kept manager) : (manager.removeJob uuid).Mirrors uuid none := by
  cases found : manager.jobOf uuid with
  | none =>
      rw [removeJob, found]
      rintro place ⟨job, same, holds⟩
      exact jobOf_eq_none found (kept.known place job holds) same
  | some job =>
      obtain ⟨known, own⟩ := jobOf_eq_some found
      rw [removeJob_eq found]
      rintro place ⟨other, same, holds⟩
      have after := kept.dropJob known
      exact kept.absent_dropJob known other (after.known place other holds) (same.trans own.symm)

end Own

section Yielded

/-- Jobs that wait go on to wait or are handed out; no other ones come in, and those that have
failed stay. -/
structure Continues (before after : ChannelManager) : Prop where
  sameJob : ∀ job, SameJob (before.job job) (after.job job)
  holds : ∀ place job, after.Holds place job → ∃ place, before.Holds place job
  queued : ∃ handed, after.yielded = before.yielded ++ handed ∧
    ∀ place job, before.Queued place job → (∃ place, after.Queued place job) ∨ job ∈ handed
  failed : ∀ place, (after.channel place).failed = (before.channel place).failed

theorem Continues.refl (manager : ChannelManager) : Continues manager manager :=
  ⟨fun _ => .refl _, fun place _ holds => ⟨place, holds⟩,
    ⟨[], by simp, fun place _ queued => .inl ⟨place, queued⟩⟩, fun _ => rfl⟩

theorem Continues.trans (front : Continues before middle) (back : Continues middle after) :
    Continues before after := by
  refine ⟨fun job => (front.sameJob job).trans (back.sameJob job), fun place job holds => ?_, ?_,
    fun place => (back.failed place).trans (front.failed place)⟩
  · obtain ⟨place, holds⟩ := back.holds place job holds
    exact front.holds place job holds
  · obtain ⟨first, same, waits⟩ := front.queued
    obtain ⟨second, same', waits'⟩ := back.queued
    refine ⟨first ++ second, by rw [same', same, List.append_assoc], fun place job queued => ?_⟩
    rcases waits place job queued with ⟨place, queued⟩ | handed
    · exact (waits' place job queued).imp_right (List.mem_append_right _)
    · exact .inr (List.mem_append_left _ handed)

theorem Continues.of_frame (frame : Frame none before after)
    (yielded : after.yielded = before.yielded)
    (failed : ∀ place, (after.channel place).failed = (before.channel place).failed) :
    Continues before after :=
  ⟨frame.sameJob, fun place _ holds => ⟨place, (frame.holds_iff (by simp)).mp holds⟩,
    ⟨[], by simp [yielded],
      fun place _ queued => .inl ⟨place, (frame.queued_iff (by simp)).mpr queued⟩⟩,
    failed⟩

theorem continues_popJob (kept : Kept manager) (nothing : (manager.popJob path now).1 = none) :
    Continues manager (manager.popJob path now).2 := by
  refine .of_frame (frame_popJob kept nothing) rfl fun place => ?_
  rw [channel_popJob]
  split
  · rename_i same
    rw [same]
  · rfl

theorem continues_setPause (path : ChannelPath) (pause : ℚ) :
    Continues manager (manager.setPause path pause) := by
  have frame : Frame none manager (manager.setPause path pause) :=
    Frame.modify ⟨fun _ _ => Iff.rfl, fun _ _ => Iff.rfl, fun _ _ => Iff.rfl, rfl, id⟩
  refine .of_frame frame rfl fun place => ?_
  rw [setPause, channel_modify]
  split
  · rename_i same
    rw [same]
  · rfl

/-- The job that is popped waits in the parent, or is handed out. -/
theorem continues_advance (kept : Kept manager) (popped : (manager.popJob path now).1 = some job) :
    Continues manager (advance job path now manager) := by
  have frame := frame_advance kept popped
  have own := queued_of_popJob kept popped
  have others {other : ℕ} (ne : other ≠ job) : some other ≠ some job := Option.some_inj.not.mpr ne
  refine ⟨frame.sameJob, fun place other holds => ?_,
    ⟨_, yielded_advance, fun place other queued => ?_⟩,
    fun place => failed_advance⟩
  · by_cases same : other = job
    · exact ⟨path, same ▸ .inl own⟩
    · exact ⟨place, (frame.holds_iff (others same)).mp holds⟩
  · by_cases same : other = job
    · subst same
      cases path with
      | nil => exact .inr (List.mem_singleton_self _)
      | cons name parent =>
          exact .inl ⟨parent, (queued_advance kept popped).mpr (.inr ⟨name, rfl⟩)⟩
    · exact .inl ⟨place, (frame.queued_iff (others same)).mpr queued⟩

theorem continues_getJobsToRun (kept : Kept manager) (now : ℚ) :
    Continues manager (manager.getJobsToRun now) := by
  have turns (path : ChannelPath) :
      Turns path now fun current => Kept current ∧ Continues manager current := by
    constructor
    · intro current held nothing
      exact ⟨(yields_popJob_none held.1 nothing).kept,
        held.2.trans (continues_popJob held.1 nothing)⟩
    · intro current job held capacity popped
      exact ⟨(yields_advance held.1 popped capacity).kept,
        held.2.trans (continues_advance held.1 popped)⟩
    · intro current pause held _
      exact ⟨(yields_setPause held.1 path pause).kept,
        held.2.trans (continues_setPause path pause)⟩
  exact (yieldSubtree_preserves turns ⟨kept, .refl _⟩ _).2

end Yielded

end ChannelManager

namespace Session

open ChannelManager

variable {session : Session} {uuid : String} {now : ℚ} {state : Option JobState}

/-- A job that is mirrored is so after jobs are handed out, unless it is one of them. -/
theorem mirrors_getJobsToRun (kept : session.manager.Kept)
    (mirrors : session.manager.Mirrors uuid state) (still : uuid ∉ session.handsOut now) :
    (session.step (.getJobsToRun now)).manager.Mirrors uuid state := by
  obtain ⟨sameJob, holds, ⟨handed, yielded, queued⟩, failed⟩ :=
    continues_getJobsToRun kept now
  have gone (none : ∀ place, ¬ Somewhere Holds session.manager uuid place) (place : ChannelPath) :
      ¬ Somewhere Holds (session.step (.getJobsToRun now)).manager uuid place := by
    rintro ⟨job, same, here⟩
    obtain ⟨place, before⟩ := holds place job here
    exact none place ⟨job, (sameJob job).uuid.symm.trans same, before⟩
  have runs (root : session.manager.RunsInRoot uuid) :
      (session.step (.getJobsToRun now)).manager.RunsInRoot uuid :=
    runsInRoot_getJobsToRun kept now (.inl root)
  cases state with
  | none => exact gone mirrors
  | some state =>
      cases state with
      | waitDependencies => trivial
      | pending =>
          obtain ⟨place, job, same, waits⟩ := mirrors
          have uuid' : ((session.manager.getJobsToRun now).job job).uuid = uuid :=
            (sameJob job).uuid.trans same
          rcases queued place job waits with ⟨place, waits⟩ | out
          · exact ⟨place, job, uuid', waits⟩
          · refine absurd (List.mem_map.mpr ⟨job, ?_, uuid'⟩) still
            rw [yielded, List.drop_left]
            exact out
      | enqueued => exact runs mirrors
      | started => exact runs mirrors
      | done => exact gone mirrors
      | cancelled => exact gone mirrors
      | failed =>
          obtain ⟨place, job, same, here⟩ := mirrors
          refine ⟨place, job, (sameJob job).uuid.trans same, ?_⟩
          change job ∈ ((session.manager.getJobsToRun now).channel place).failed
          rw [failed place]
          exact here

/-- Jobs that are handed out are pending, as far as the channels were told. -/
theorem pending_of_handsOut (kept : session.manager.Kept)
    (mirrors : session.manager.Mirrors uuid state) (handed : uuid ∈ session.handsOut now) :
    state = some .pending ∨ state = some .waitDependencies := by
  have none (unqueued : session.manager.Unqueued uuid) : False :=
    not_mem_handsOut kept unqueued now handed
  have gone (nowhere : ∀ place, ¬ Somewhere Holds session.manager uuid place) : False :=
    none fun place job same queued => nowhere place ⟨job, same, .inl queued⟩
  have runs (root : session.manager.RunsInRoot uuid) : False := by
    obtain ⟨job, same, running⟩ := root
    exact none (kept.runsOnly running same).unqueued
  cases state with
  | none => exact (gone mirrors).elim
  | some state =>
      cases state with
      | waitDependencies => exact .inr rfl
      | pending => exact .inl rfl
      | enqueued => exact (runs mirrors).elim
      | started => exact (runs mirrors).elim
      | done => exact (gone mirrors).elim
      | cancelled => exact (gone mirrors).elim
      | failed =>
          obtain ⟨place, job, same, failed⟩ := mirrors
          refine (none fun other job' same' queued => ?_).elim
          have known := kept.known place job (.inr (.inr failed))
          obtain rfl := kept.eq_of_holds known (.inl queued) (same'.trans same.symm)
          have placed := kept.placed job'
          have failed' : session.manager.Failed (session.manager.job job').channel job' :=
            placed.failed_first place failed ▸ failed
          have first := placed.eq_path (fun runs => placed.running_failed _ runs failed')
            (.inl queued)
          exact placed.queued_failed _ (first ▸ queued) failed'

end Session

end OdooConnector.Queue
