import OdooConnector.Queue.ChannelYields

/-!
# Notified and removed jobs

A notification opens channels, replaces the job of its uuid where that has changed, and moves it.
Jobs that nothing refers to are forgotten.
-/

namespace OdooConnector.Queue

namespace ChannelManager

variable {manager before middle after : ChannelManager} {job other : ℕ}
  {path place parent : ChannelPath} {name uuid : String} {now : ℚ} {row : Notification}

section Lookup

theorem jobOf_eq_some (found : manager.jobOf uuid = some job) :
    job ∈ manager.jobsByUuid ∧ (manager.job job).uuid = uuid :=
  ⟨List.mem_of_find?_eq_some found, by simpa using List.find?_some found⟩

theorem jobOf_eq_none (absent : manager.jobOf uuid = none) (known : job ∈ manager.jobsByUuid) :
    (manager.job job).uuid ≠ uuid := by
  simpa using List.find?_eq_none.mp absent job known

theorem Kept.jobOf (kept : Kept manager) (known : job ∈ manager.jobsByUuid)
    (same : (manager.job job).uuid = uuid) : manager.jobOf uuid = some job := by
  cases found : manager.jobOf uuid with
  | none => exact absurd same (jobOf_eq_none found known)
  | some other =>
      obtain ⟨known', same'⟩ := jobOf_eq_some found
      rw [kept.uuid_unique known known' (same.trans same'.symm)]

end Lookup

section Opens

/-- Channels are opened. -/
structure Opens (before after : ChannelManager) : Prop where
  job : after.job = before.job
  nextJob : after.nextJob = before.nextJob
  jobsByUuid : after.jobsByUuid = before.jobsByUuid
  yielded : after.yielded = before.yielded
  paths : ∀ path ∈ before.paths, path ∈ after.paths
  closed : (∀ name path, name :: path ∈ before.paths → path ∈ before.paths) →
    ∀ name path, name :: path ∈ after.paths → path ∈ after.paths
  channel : ∀ path, after.channel path = before.channel path ∨
    path ∉ before.paths ∧ after.channel path = .new

theorem Opens.refl (manager : ChannelManager) : Opens manager manager :=
  ⟨rfl, rfl, rfl, rfl, fun _ => id, id, fun _ => Or.inl rfl⟩

theorem Opens.trans (front : Opens before middle) (back : Opens middle after) :
    Opens before after := by
  refine ⟨back.job.trans front.job, back.nextJob.trans front.nextJob,
    back.jobsByUuid.trans front.jobsByUuid, back.yielded.trans front.yielded,
    fun path listed => back.paths path (front.paths path listed),
    fun closed => back.closed (front.closed closed), fun path => ?_⟩
  cases back.channel path with
  | inl same =>
      rw [same]
      exact front.channel path
  | inr opened =>
      exact Or.inr ⟨fun listed => opened.1 (front.paths path listed), opened.2⟩

theorem createChannels_opens {names : List String} (listed : parent ∈ manager.paths) :
    Opens manager (createChannels names parent manager).2 ∧
      (createChannels names parent manager).1 ∈ (createChannels names parent manager).2.paths := by
  induction names generalizing parent manager with
  | nil => exact ⟨Opens.refl _, listed⟩
  | cons name names induction =>
      rw [createChannels]
      split
      · rename_i exists'
        exact induction exists'
      · rename_i missing
        have opened : Opens manager
            { manager with
              paths := manager.paths ++ [name :: parent]
              channel := Function.update manager.channel (name :: parent) .new } := by
          refine ⟨rfl, rfl, rfl, rfl, fun path old => List.mem_append_left _ old, ?_,
            fun path => ?_⟩
          · intro closed name' path member
            cases List.mem_append.mp member with
            | inl old => exact List.mem_append_left _ (closed name' path old)
            | inr added =>
                rw [List.mem_singleton, List.cons.injEq] at added
                rw [added.2]
                exact List.mem_append_left _ listed
          · by_cases same : path = name :: parent
            · subst same
              exact Or.inr ⟨missing, Function.update_self _ _ _⟩
            · exact Or.inl (Function.update_of_ne same _ _)
        have added : name :: parent ∈ ChannelManager.paths
            { manager with
              paths := manager.paths ++ [name :: parent]
              channel := Function.update manager.channel (name :: parent) .new } :=
          List.mem_append_right _ List.mem_cons_self
        obtain ⟨rest, found⟩ := induction added
        exact ⟨opened.trans rest, found⟩

theorem fallbackParent_mem (root : [] ∈ manager.paths) :
    manager.fallbackParent path ∈ manager.paths := by
  induction path with
  | nil => exact root
  | cons name parent induction =>
      rw [fallbackParent]
      split
      · assumption
      · exact induction

theorem getChannelByName_opens (root : [] ∈ manager.paths) (channelName : String) :
    Opens manager (manager.getChannelByName channelName).2 ∧
      (manager.getChannelByName channelName).1 ∈
        (manager.getChannelByName channelName).2.paths := by
  rw [getChannelByName]
  split
  · rename_i found
    refine ⟨Opens.refl _, ?_⟩
    cases found with
    | inl isRoot => exact isRoot ▸ root
    | inr listed => exact listed
  · exact createChannels_opens (fallbackParent_mem root)

theorem suffix_mem_paths
    (closed : ∀ name path, name :: path ∈ manager.paths → path ∈ manager.paths)
    (listed : path ∈ manager.paths) (above : place <:+ path) : place ∈ manager.paths := by
  obtain ⟨front, rfl⟩ := above
  induction front with
  | nil => exact listed
  | cons name front induction => exact induction (closed name _ listed)

/-- Jobs are in channels that exist. -/
theorem Kept.holds_listed (kept : Kept manager) (holds : manager.Holds path job) :
    path ∈ manager.paths :=
  suffix_mem_paths kept.closed (kept.listed job (kept.known path job holds)) (kept.onPath holds)

theorem Opens.holds_new (path : ChannelPath) (new : manager.channel path = .new) :
    ¬ manager.Holds path job := by
  rw [Holds, Queued, Running, Failed, new]
  simp [Channel.new, Channel.configured]

theorem Opens.queued_iff (opens : Opens before after) (kept : Kept before) :
    after.Queued path job ↔ before.Queued path job := by
  cases opens.channel path with
  | inl same => rw [Queued, same, Queued]
  | inr opened =>
      exact iff_of_false (fun queued => Opens.holds_new path opened.2 (Or.inl queued))
        fun queued => opened.1 (kept.holds_listed (Or.inl queued))

theorem Opens.running_iff (opens : Opens before after) (kept : Kept before) :
    after.Running path job ↔ before.Running path job := by
  cases opens.channel path with
  | inl same => rw [Running, same, Running]
  | inr opened =>
      exact iff_of_false (fun running => Opens.holds_new path opened.2 (Or.inr (Or.inl running)))
        fun running => opened.1 (kept.holds_listed (Or.inr (Or.inl running)))

theorem Opens.failed_iff (opens : Opens before after) (kept : Kept before) :
    after.Failed path job ↔ before.Failed path job := by
  cases opens.channel path with
  | inl same => rw [Failed, same, Failed]
  | inr opened =>
      exact iff_of_false (fun failed => Opens.holds_new path opened.2 (Or.inr (Or.inr failed)))
        fun failed => opened.1 (kept.holds_listed (Or.inr (Or.inr failed)))

theorem Kept.opens (kept : Kept before) (opens : Opens before after) : Kept after := by
  constructor
  case placed =>
    intro job
    rw [opens.job]
    exact (kept.placed job).congr (fun _ => opens.queued_iff kept)
      (fun _ => opens.running_iff kept) fun _ => opens.failed_iff kept
  case separate =>
    intro path
    cases opens.channel path with
    | inl same => exact same ▸ kept.separate path
    | inr opened => exact opened.2 ▸ ChannelQueue.separate_empty
  case known =>
    intro path job holds
    rw [opens.jobsByUuid]
    refine kept.known path job ?_
    exact (or_congr (opens.queued_iff kept)
      (or_congr (opens.running_iff kept) (opens.failed_iff kept))).mp holds
  case nodup => rw [opens.jobsByUuid, opens.job]; exact kept.nodup
  case fresh => rw [opens.jobsByUuid, opens.nextJob]; exact kept.fresh
  case root => exact opens.paths [] kept.root
  case closed => exact opens.closed kept.closed
  case listed =>
    intro job known
    rw [opens.job]
    exact opens.paths _ (kept.listed job (opens.jobsByUuid ▸ known))

theorem Within.opens (within : before.Within) (opens : Opens before after) : after.Within := by
  intro path capacity bounded positive
  cases opens.channel path with
  | inl same =>
      rw [same] at bounded ⊢
      exact within path capacity bounded positive
  | inr opened =>
      rw [opened.2] at bounded
      cases bounded

end Opens

section Jobs

/-- The entries of a manager may be restricted to jobs that are nowhere missing. -/
theorem Kept.restrict (kept : Kept manager) {jobsByUuid : List ℕ}
    (sublist : jobsByUuid.Sublist manager.jobsByUuid)
    (known : ∀ path job, manager.Holds path job → job ∈ jobsByUuid) :
    Kept { manager with jobsByUuid := jobsByUuid } where
  placed := kept.placed
  separate := kept.separate
  known := known
  nodup := (sublist.map _).nodup kept.nodup
  fresh := fun job member => kept.fresh job (sublist.subset member)
  root := kept.root
  closed := kept.closed
  listed := fun job member => kept.listed job (sublist.subset member)

theorem Kept.jobsByUuid_nodup (kept : Kept manager) : manager.jobsByUuid.Nodup :=
  List.Nodup.of_map _ kept.nodup

/-- A job is removed from its channels and is known no more. -/
def dropJob (job : ℕ) (manager : ChannelManager) : ChannelManager :=
  { remove job (manager.job job).channel manager with
    jobsByUuid := (remove job (manager.job job).channel manager).jobsByUuid.erase job }

theorem Kept.dropJob (kept : Kept manager) (known : job ∈ manager.jobsByUuid) :
    Kept (manager.dropJob job) := by
  have removed := kept.remove known
  refine removed.restrict List.erase_sublist fun path other holds => ?_
  refine (List.Nodup.mem_erase_iff removed.jobsByUuid_nodup).mpr ⟨fun same => ?_,
    removed.known path other holds⟩
  subst same
  exact not_holds_remove kept holds

theorem mem_jobsByUuid_dropJob (kept : Kept manager) :
    other ∈ (manager.dropJob job).jobsByUuid ↔ other ≠ job ∧ other ∈ manager.jobsByUuid := by
  have same : (remove job (manager.job job).channel manager).jobsByUuid = manager.jobsByUuid :=
    frame_remove.jobsByUuid
  rw [ChannelManager.dropJob, same, List.Nodup.mem_erase_iff kept.jobsByUuid_nodup]

theorem frame_dropJob_sameJob : SameJob (manager.job other) ((manager.dropJob job).job other) :=
  frame_remove.sameJob other

theorem channel_dropJob : (manager.dropJob job).channel place =
    if place <:+ (manager.job job).channel then (manager.channel place).discard job
    else manager.channel place :=
  channel_remove

theorem running_dropJob : (manager.dropJob job).Running place other ↔
    manager.Running place other ∧ ¬ (place <:+ (manager.job job).channel ∧ other = job) := by
  rw [Running, channel_dropJob]
  split
  · rename_i onPath
    simp [Channel.discard, Running, onPath, and_comm]
  · rename_i off
    simp [Running, off]

theorem removeJob_eq (found : manager.jobOf uuid = some job) :
    manager.removeJob uuid = manager.dropJob job := by
  rw [removeJob, found]
  rfl

theorem Kept.newJob (kept : Kept manager) (listed : path ∈ manager.paths)
    (absent : ∀ job ∈ manager.jobsByUuid, (manager.job job).uuid ≠ row.uuid) :
    Kept (manager.newJob path row) := by
  have old (job : ℕ) (known : job ∈ manager.jobsByUuid) :
      (manager.newJob path row).job job = manager.job job :=
    Function.update_of_ne (Nat.ne_of_lt (kept.fresh job known)) _ _
  constructor
  case placed =>
    intro job
    by_cases known : job ∈ manager.jobsByUuid
    · rw [old job known]
      exact kept.placed job
    · exact placed_of_not_holds fun place holds => known (kept.known place job holds)
  case separate => exact kept.separate
  case known => exact fun path job holds => List.mem_append_left _ (kept.known path job holds)
  case nodup =>
    have same : ((manager.jobsByUuid).map fun job => ((manager.newJob path row).job job).uuid) =
        manager.jobsByUuid.map fun job => (manager.job job).uuid :=
      List.map_congr_left fun job known => by rw [old job known]
    have added : ((manager.newJob path row).job manager.nextJob).uuid = row.uuid := by
      simp [ChannelManager.newJob]
    have parts : ((manager.newJob path row).jobsByUuid.map fun job =>
        ((manager.newJob path row).job job).uuid) =
        (manager.jobsByUuid.map fun job => (manager.job job).uuid) ++ [row.uuid] := by
      rw [← same, ← added]
      exact List.map_append
    rw [parts]
    refine kept.nodup.append (List.nodup_singleton _) (List.disjoint_singleton.mpr ?_)
    intro member
    obtain ⟨job, known, equal⟩ := List.mem_map.mp member
    exact absent job known equal
  case fresh =>
    intro job known
    cases List.mem_append.mp known with
    | inl known => exact Nat.lt_succ_of_lt (kept.fresh job known)
    | inr added =>
        rw [List.mem_singleton.mp added]
        exact Nat.lt_succ_self _
  case root => exact kept.root
  case closed => exact kept.closed
  case listed =>
    intro job known
    cases List.mem_append.mp known with
    | inl known =>
        rw [old job known]
        exact kept.listed job known
    | inr added =>
        rw [List.mem_singleton.mp added]
        simpa [ChannelManager.newJob] using listed

theorem Kept.create (kept : Kept manager) (listed : path ∈ manager.paths)
    (absent : ∀ job ∈ manager.jobsByUuid, (manager.job job).uuid ≠ row.uuid) :
    Kept (manager.create path row) :=
  (kept.newJob listed absent).transition (List.mem_append_right _ List.mem_cons_self) row.state

/-- After a job was dropped its uuid is not known. -/
theorem Kept.absent_dropJob (kept : Kept manager) (known : job ∈ manager.jobsByUuid) :
    ∀ other ∈ (manager.dropJob job).jobsByUuid,
      ((manager.dropJob job).job other).uuid ≠ (manager.job job).uuid := by
  intro other member same
  obtain ⟨different, known'⟩ := (mem_jobsByUuid_dropJob kept).mp member
  rw [frame_dropJob_sameJob.uuid] at same
  exact different (kept.uuid_unique known' known same)

theorem paths_dropJob : (manager.dropJob job).paths = manager.paths :=
  frame_remove.paths

/-- What a notification does once its channel is open. -/
def updateJob (path : ChannelPath) (row : Notification) (manager : ChannelManager) :
    ChannelManager :=
  match manager.jobOf row.uuid with
  | none => manager.create path row
  | some job =>
      if (manager.job job).dbName ≠ row.dbName ∨
          (manager.job job).dateCreated ≠ row.dateCreated then manager
      else if changed (manager.job job) path row then (manager.removeJob row.uuid).create path row
      else manager.transition job row.state

theorem notify_eq : manager.notify row =
    updateJob (manager.getChannelByName row.channelName).1 row
      (manager.getChannelByName row.channelName).2 := rfl

theorem Kept.updateJob (kept : Kept manager) (listed : path ∈ manager.paths) :
    Kept (ChannelManager.updateJob path row manager) := by
  rw [ChannelManager.updateJob]
  split
  · rename_i absent
    exact kept.create listed fun job known => jobOf_eq_none absent known
  · rename_i job found
    obtain ⟨known, same⟩ := jobOf_eq_some found
    split
    · exact kept
    · split
      · rw [removeJob_eq found]
        refine (kept.dropJob known).create (by rwa [paths_dropJob]) ?_
        rw [← same]
        exact kept.absent_dropJob known
      · exact kept.transition known row.state

theorem Kept.notify (kept : Kept manager) : Kept (manager.notify row) := by
  obtain ⟨opens, listed⟩ := getChannelByName_opens kept.root row.channelName
  rw [notify_eq]
  exact (kept.opens opens).updateJob listed

theorem Kept.removeJob (kept : Kept manager) : Kept (manager.removeJob uuid) := by
  cases found : manager.jobOf uuid with
  | none =>
      rw [ChannelManager.removeJob, found]
      exact kept
  | some job =>
      rw [removeJob_eq found]
      exact kept.dropJob (jobOf_eq_some found).1

/-- Jobs are dropped one after another. -/
theorem removeDb_eq (dbName : String) : manager.removeDb dbName =
    (manager.jobsByUuid.filter fun job => (manager.job job).dbName = dbName).foldl
      (fun manager job => manager.dropJob job) manager := rfl

theorem Kept.dropJobs (kept : Kept manager) {jobs : List ℕ} (nodup : jobs.Nodup)
    (known : ∀ job ∈ jobs, job ∈ manager.jobsByUuid) :
    Kept (jobs.foldl (fun manager job => manager.dropJob job) manager) := by
  induction jobs generalizing manager with
  | nil => exact kept
  | cons job jobs induction =>
      rw [List.nodup_cons] at nodup
      refine induction (kept.dropJob (known job List.mem_cons_self)) nodup.2 fun other member => ?_
      refine (mem_jobsByUuid_dropJob kept).mpr ⟨fun same => nodup.1 (same ▸ member), ?_⟩
      exact known other (List.mem_cons_of_mem _ member)

theorem Kept.removeDb (kept : Kept manager) (dbName : String) : Kept (manager.removeDb dbName) := by
  rw [removeDb_eq]
  exact kept.dropJobs (kept.jobsByUuid_nodup.filter _)
    fun job member => List.mem_of_mem_filter member

theorem refersTo_of_holds (holds : manager.Holds path job) :
    (manager.channel path).refersTo job := by
  rw [Channel.refersTo]
  cases holds with
  | inl queued => simp [ChannelQueue.refersTo_of_mem queued]
  | inr later =>
      cases later with
      | inl running => simp [show job ∈ (manager.channel path).running from running]
      | inr failed => simp [show job ∈ (manager.channel path).failed from failed]

/-- A job in a channel is not forgotten. -/
theorem Kept.collect (kept : Kept manager) : Kept manager.collect := by
  refine kept.restrict List.filter_sublist fun path job holds => ?_
  refine List.mem_filter.mpr ⟨kept.known path job holds, List.any_eq_true.mpr ⟨path, ?_, ?_⟩⟩
  · exact (List.mem_tails _ _).mpr (kept.onPath holds)
  · exact refersTo_of_holds holds

end Jobs

end ChannelManager

end OdooConnector.Queue
