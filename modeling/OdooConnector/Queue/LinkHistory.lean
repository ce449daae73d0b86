import OdooConnector.Queue.ServerSteps

/-!
# Which jobs depended on which

A row lists the jobs that its job depends on as long as they are there. Every job that it has ever
listed is still listed, or was done or gone at some time while the row was there.
-/

namespace OdooConnector.Queue

/-- What may happen to a job and one that it depends on. -/
inductive LinkEvent where
  | listed (child parent : String)
  | released (child parent : String)

namespace JobTable

variable (table : JobTable)

def Lists (child parent : String) : Prop :=
  ∃ stored, table.row child = some stored ∧ parent ∈ stored.dependsOn

/-- The job is there, and the other one is done or gone. -/
def Releases (child parent : String) : Prop :=
  (table.row child).isSome ∧ (table.row parent = none ∨ table.InState parent .done)

/-- The job is pending, or on its way to be performed. -/
def Runnable (uuid : String) : Prop :=
  ∃ stored, table.row uuid = some stored ∧
    (stored.state = .pending ∨ stored.state = .enqueued ∨ stored.state = .started)

variable (happened : LinkEvent → Prop) (graphOf : String → Option String)

/-- All that the job has ever depended on was done or gone. -/
def Free (child : String) : Prop :=
  ∀ parent, happened (.listed child parent) →
    happened (.released child parent) ∨ table.Releases child parent

/-- The rows agree with what has happened. -/
structure Accounts : Prop where
  lists : ∀ child parent, table.Lists child parent → happened (.listed child parent)
  graph : ∀ child stored, table.row child = some stored → stored.graphUuid = graphOf child
  complete : ∀ child stored, table.row child = some stored →
    ∀ parent, happened (.listed child parent) →
      parent ∈ stored.dependsOn ∨ happened (.released child parent) ∨ table.Releases child parent

/-- A job in memory depends on nothing that its row has never listed. -/
structure Remembers (links : Job.Links) : Prop where
  lists : ∀ parent ∈ links.dependsOn ++ links.parents.map Prod.fst,
    happened (.listed links.uuid parent)
  graph : links.graphUuid = graphOf links.uuid

variable {table happened graphOf} {after : JobTable} {uuid child parent : String} {job : Job}

theorem runnable_store : (table.store job).Runnable child ↔
    if child = job.uuid then job.values.state = .pending ∨ job.values.state = .enqueued ∨
      job.values.state = .started
    else table.Runnable child := by
  rw [Runnable, row_store]
  split_ifs
  · constructor
    · rintro ⟨stored, same, runs⟩
      rwa [← Option.some_inj.mp same, state_storedValues] at runs
    · intro runs
      exact ⟨_, rfl, by rwa [state_storedValues]⟩
  · exact Iff.rfl

/-- A job that becomes runnable was selected and changed so. -/
theorem runnable_updateWhere {selects : String → StoredJob → Bool} {change : StoredJob → StoredJob}
    (runnable : (table.updateWhere selects change).Runnable child) : table.Runnable child ∨
      ∃ stored, table.row child = some stored ∧ selects child stored ∧
        ((change stored).state = .pending ∨ (change stored).state = .enqueued ∨
          (change stored).state = .started) := by
  obtain ⟨stored', found, runs⟩ := runnable
  rw [row_updateWhere, Option.map_eq_some_iff] at found
  obtain ⟨stored, found, rfl⟩ := found
  by_cases selected : selects child stored
  · rw [if_pos selected] at runs
    exact .inr ⟨stored, found, selected, runs⟩
  · rw [if_neg selected] at runs
    exact .inl ⟨stored, found, runs⟩

theorem Accounts.of_eq (accounts : table.Accounts happened graphOf)
    (same : after.row = table.row) : after.Accounts happened graphOf := by
  obtain ⟨lists, graph, complete⟩ := accounts
  constructor
  · simpa only [Lists, same] using lists
  · simpa only [same] using graph
  · simpa only [Releases, InState, same] using complete

/-- Rows that are written keep their connections, or are deleted. -/
theorem Accounts.of_rows (accounts : table.Accounts happened graphOf)
    (rows : ∀ child stored', after.row child = some stored' → ∃ stored,
      table.row child = some stored ∧ stored'.graphUuid = stored.graphUuid ∧
        stored'.dependsOn = stored.dependsOn)
    (still : ∀ child parent, (after.row child).isSome → table.Releases child parent →
      happened (.released child parent) ∨ after.Releases child parent) :
    after.Accounts happened graphOf where
  lists child parent := by
    rintro ⟨stored', found, member⟩
    obtain ⟨stored, found', -, same⟩ := rows child stored' found
    exact accounts.lists child parent ⟨stored, found', same ▸ member⟩
  graph child stored' found := by
    obtain ⟨stored, found', same, -⟩ := rows child stored' found
    exact same.trans (accounts.graph child stored found')
  complete child stored' found parent listed := by
    obtain ⟨stored, found', -, same⟩ := rows child stored' found
    rcases accounts.complete child stored found' parent listed with member | was | now
    · exact .inl (same ▸ member)
    · exact .inr (.inl was)
    · exact .inr (still child parent (found ▸ rfl) now)

theorem row_of_updateWhere {selects : String → StoredJob → Bool} {change : StoredJob → StoredJob}
    (graphUuid : ∀ stored, (change stored).graphUuid = stored.graphUuid)
    (dependsOn : ∀ stored, (change stored).dependsOn = stored.dependsOn) (child : String)
    (stored' : StoredJob) (found : (table.updateWhere selects change).row child = some stored') :
    ∃ stored, table.row child = some stored ∧ stored'.graphUuid = stored.graphUuid ∧
      stored'.dependsOn = stored.dependsOn := by
  rw [row_updateWhere, Option.map_eq_some_iff] at found
  obtain ⟨stored, found, rfl⟩ := found
  refine ⟨stored, found, ?_⟩
  split_ifs
  · exact ⟨graphUuid stored, dependsOn stored⟩
  · exact ⟨rfl, rfl⟩

/-- Jobs that wait get into another state; those that are done stay so. -/
theorem releases_updateWhere {selects : String → StoredJob → Bool}
    {change : StoredJob → StoredJob}
    (waits : ∀ child stored, selects child stored → stored.state = .waitDependencies)
    (releases : table.Releases child parent) :
    (table.updateWhere selects change).Releases child parent := by
  obtain ⟨found, gone | ⟨stored, found', done⟩⟩ := releases
  · refine ⟨?_, .inl ?_⟩
    · rw [row_updateWhere, Option.isSome_map]
      exact found
    · rw [row_updateWhere, gone]
      rfl
  · refine ⟨?_, .inr ⟨stored, ?_, done⟩⟩
    · rw [row_updateWhere, Option.isSome_map]
      exact found
    · rw [row_updateWhere, found', Option.map_some, if_neg]
      intro selected
      rw [waits parent stored selected] at done
      cases done

theorem waits_of_isDependent {state : JobState} {stored : StoredJob}
    (selected : table.isDependent uuid state child stored) : stored.state = .waitDependencies := by
  rw [isDependent, Option.any_eq_true] at selected
  obtain ⟨other, -, selected⟩ := selected
  simp only [Bool.and_eq_true, decide_eq_true_eq] at selected
  exact selected.2

theorem Accounts.enqueueWaiting (accounts : table.Accounts happened graphOf) (uuid : String) :
    (table.enqueueWaiting uuid).Accounts happened graphOf :=
  accounts.of_rows (row_of_updateWhere (fun _ => rfl) fun _ => rfl) fun _ _ _ releases =>
    .inr (releases_updateWhere (fun _ _ => waits_of_isDependent) releases)

theorem Accounts.cancelDependentJobs (accounts : table.Accounts happened graphOf)
    (uuid : String) : (table.cancelDependentJobs uuid).Accounts happened graphOf :=
  accounts.of_rows (row_of_updateWhere (fun _ => rfl) fun _ => rfl) fun _ _ _ releases =>
    .inr (releases_updateWhere (fun _ _ => waits_of_isDependent) releases)

theorem Accounts.autovacuum (accounts : table.Accounts happened graphOf)
    (now : ∀ child parent, table.Releases child parent → happened (.released child parent))
    (time : ℚ) (channels : List VacuumedChannel) :
    (table.autovacuum time channels).Accounts happened graphOf := by
  refine accounts.of_rows (fun child stored' found => ⟨stored', ?_, rfl, rfl⟩)
    fun child parent _ releases => .inl (now child parent releases)
  exact row_of_autovacuum found

/-- Where all that a job has ever depended on is listed, or was done or gone, it is stored so. -/
theorem Accounts.store (accounts : table.Accounts happened graphOf)
    (now : ∀ child parent, table.Releases child parent → happened (.released child parent))
    (remembers : Remembers happened graphOf (table.read job).links)
    (complete : ∀ parent, happened (.listed job.uuid parent) →
      parent ∈ (table.read job).parents.map Prod.fst ∨ happened (.released job.uuid parent) ∨
        (table.store job).Releases job.uuid parent) :
    (table.store job).Accounts happened graphOf where
  lists child parent := by
    rintro ⟨stored, found, member⟩
    rw [row_store] at found
    split_ifs at found with own
    · obtain rfl := Option.some_inj.mp found
      rw [dependsOn_storedValues] at member
      rw [own]
      exact remembers.lists parent (List.mem_append_right _ member)
    · exact accounts.lists child parent ⟨stored, found, member⟩
  graph child stored found := by
    rw [row_store] at found
    split_ifs at found with own
    · obtain rfl := Option.some_inj.mp found
      rw [graphUuid_storedValues, own]
      exact remembers.graph
    · exact accounts.graph child stored found
  complete child stored found parent listed := by
    rw [row_store] at found
    split_ifs at found with own
    · obtain rfl := Option.some_inj.mp found
      rw [own] at listed ⊢
      rw [dependsOn_storedValues]
      exact complete parent listed
    · rcases accounts.complete child stored found parent listed with member | was | releases
      · exact .inl member
      · exact .inr (.inl was)
      · exact .inr (.inl (now child parent releases))

theorem Remembers.read (remembers : Remembers happened graphOf job.links) :
    Remembers happened graphOf (table.read job).links := by
  refine ⟨fun parent member => ?_, remembers.graph⟩
  rcases List.mem_append.mp member with listed | among
  · exact remembers.lists parent (List.mem_append_left _ listed)
  · change parent ∈ (table.read job).parents.map Prod.fst at among
    rw [parents_read] at among
    split_ifs at among
    · rw [map_fst_loadMany] at among
      exact remembers.lists parent (List.mem_append_left _ (mem_existing.mp among).1)
    · exact remembers.lists parent (List.mem_append_right _ among)

theorem Accounts.remembers_load (accounts : table.Accounts happened graphOf)
    (loaded : table.load uuid = some job) : Remembers happened graphOf job.links := by
  obtain ⟨stored, found, rfl⟩ := load_eq_some_iff.mp loaded
  refine ⟨fun parent member => ?_, accounts.graph uuid stored found⟩
  change parent ∈ stored.dependsOn ++ [] at member
  rw [List.append_nil] at member
  exact accounts.lists uuid parent ⟨stored, found, member⟩

/-! ### Users -/

theorem parents_load (loaded : table.load uuid = some job) :
    ∃ stored, table.row uuid = some stored ∧
      (table.read job).parents = table.loadMany stored.dependsOn := by
  obtain ⟨stored, found, rfl⟩ := load_eq_some_iff.mp loaded
  exact ⟨stored, found, rfl⟩

/-- A job that is loaded, changed and stored lists all jobs that are there of those it listed. -/
theorem Accounts.store_loaded (accounts : table.Accounts happened graphOf)
    (now : ∀ child parent, table.Releases child parent → happened (.released child parent))
    (loaded : table.load uuid = some job) {changed : Job}
    (remembers : Remembers happened graphOf (table.read changed).links)
    (own : changed.uuid = uuid)
    (parents : (table.read changed).parents = (table.read job).parents) :
    (table.store changed).Accounts happened graphOf := by
  obtain ⟨stored, found, listed⟩ := parents_load loaded
  refine accounts.store now remembers fun parent was => ?_
  rw [own] at was ⊢
  rcases accounts.complete uuid stored found parent was with member | earlier | releases
  · by_cases there : (table.row parent).isSome
    · left
      rw [parents, listed, map_fst_loadMany]
      exact mem_existing.mpr ⟨member, there⟩
    · right
      right
      rw [Bool.not_eq_true, Option.isSome_eq_false_iff, Option.isNone_iff_eq_none] at there
      refine ⟨?_, .inl ?_⟩
      · rw [row_store, if_pos own.symm]
        rfl
      · rw [row_store, if_neg]
        · exact there
        · rintro rfl
          rw [own, found] at there
          cases there
  · exact .inr (.inl earlier)
  · exact .inr (.inl (now uuid parent releases))

theorem Accounts.changeToDone (accounts : table.Accounts happened graphOf)
    (now : ∀ child parent, table.Releases child parent → happened (.released child parent))
    (time : ℚ) (uuid : String) (result : Option String) :
    (table.changeToDone time uuid result).Accounts happened graphOf := by
  rw [JobTable.changeToDone]
  split
  · rename_i job loaded
    have remembers : Remembers happened graphOf (table.read (job.setDone time result)).links :=
      (accounts.remembers_load loaded).read
    have own : job.uuid = uuid := uuid_load loaded
    exact (accounts.store_loaded now loaded remembers own rfl).enqueueWaiting uuid
  · exact accounts

theorem Accounts.changeToCancelled (accounts : table.Accounts happened graphOf)
    (now : ∀ child parent, table.Releases child parent → happened (.released child parent))
    (time : ℚ) (uuid : String) (result : Option String) :
    (table.changeToCancelled time uuid result).Accounts happened graphOf := by
  rw [JobTable.changeToCancelled]
  split
  · rename_i job loaded
    have remembers : Remembers happened graphOf (table.read (job.setCancelled time result)).links :=
      (accounts.remembers_load loaded).read
    have own : job.uuid = uuid := uuid_load loaded
    exact (accounts.store_loaded now loaded remembers own rfl).cancelDependentJobs
      uuid
  · exact accounts

theorem Accounts.changeToPending (accounts : table.Accounts happened graphOf)
    (now : ∀ child parent, table.Releases child parent → happened (.released child parent))
    (uuid : String) (result : Option String) :
    (table.changeToPending uuid result).Accounts happened graphOf := by
  rw [JobTable.changeToPending]
  split
  · rename_i job loaded
    have remembers : Remembers happened graphOf
        (table.read ((table.read job).setPending result true)).links :=
      Remembers.read (accounts.remembers_load loaded).read
    have own : job.uuid = uuid := uuid_load loaded
    refine accounts.store_loaded now loaded remembers own ?_
    exact parents_read_read
  · exact accounts

/-! ### Jobs that are set free -/

/-- A job that is woken up depends on nothing that is there and not done. -/
theorem free_enqueueWaiting (accounts : table.Accounts happened graphOf)
    (sameGraph : ∀ child parent, happened (.listed child parent) →
      graphOf child = graphOf parent)
    {stored : StoredJob} (found : table.row child = some stored)
    (selected : table.isDependent uuid .done child stored) :
    (table.enqueueWaiting uuid).Free happened child := by
  intro parent listed
  rcases accounts.complete child stored found parent listed with member | was | releases
  · right
    refine releases_updateWhere (fun _ _ => waits_of_isDependent) ⟨found ▸ rfl, ?_⟩
    cases parentFound : table.row parent with
    | none => exact .inl rfl
    | some other =>
        right
        refine ⟨other, parentFound, ?_⟩
        rw [isDependent, Option.any_eq_true] at selected
        obtain ⟨looked, -, selected⟩ := selected
        simp only [Bool.and_eq_true, decide_eq_true_eq] at selected
        obtain ⟨⟨⟨⟨⟨-, same⟩, -⟩, -⟩, all⟩, -⟩ := selected
        have sibling : other ∈ (stored.dependsOn.filterMap table.row).filter fun sibling =>
            sibling.graphUuid = looked.graphUuid := by
          refine List.mem_filter.mpr ⟨List.mem_filterMap.mpr ⟨parent, member, parentFound⟩, ?_⟩
          rw [decide_eq_true_eq, ← same, accounts.graph parent other parentFound,
            accounts.graph child stored found, sameGraph child parent listed]
        exact of_decide_eq_true (List.all_eq_true.mp all other sibling)
  · exact .inl was
  · exact .inr (releases_updateWhere (fun _ _ => waits_of_isDependent) releases)

/-- A job that is pending again depends on nothing that is there and not done. -/
theorem free_setPending (accounts : table.Accounts happened graphOf)
    (now : ∀ child parent, table.Releases child parent → happened (.released child parent))
    (loaded : table.load uuid = some job) (ready : (table.read job).ready) :
    ∀ parent, happened (.listed uuid parent) → happened (.released uuid parent) := by
  intro parent listed
  obtain ⟨stored, found, parents⟩ := parents_load loaded
  rcases accounts.complete uuid stored found parent listed with member | was | releases
  · refine now uuid parent ⟨found ▸ rfl, ?_⟩
    cases parentFound : table.row parent with
    | none => exact .inl rfl
    | some other =>
        right
        rw [Job.ready, parents, List.all_eq_true] at ready
        exact ⟨other, parentFound, of_decide_eq_true
          (ready _ (mem_loadMany.mpr ⟨member, other, parentFound, rfl⟩))⟩
  · exact was
  · exact now uuid parent releases

theorem runnable_enqueueWaiting (accounts : table.Accounts happened graphOf)
    (sameGraph : ∀ child parent, happened (.listed child parent) →
      graphOf child = graphOf parent)
    (runnable : (table.enqueueWaiting uuid).Runnable child) :
    table.Runnable child ∨ (table.enqueueWaiting uuid).Free happened child := by
  rcases runnable_updateWhere runnable with before | ⟨stored, found, selected, -⟩
  · exact .inl before
  · exact .inr (free_enqueueWaiting accounts sameGraph found selected)

/-- A job that a user sets done is not runnable, and only jobs that are free become so. -/
theorem runnable_changeToDone (accounts : table.Accounts happened graphOf)
    (now : ∀ child parent, table.Releases child parent → happened (.released child parent))
    (sameGraph : ∀ child parent, happened (.listed child parent) → graphOf child = graphOf parent)
    {time : ℚ} {result : Option String}
    (runnable : (table.changeToDone time uuid result).Runnable child) :
    table.Runnable child ∨ (table.changeToDone time uuid result).Free happened child := by
  cases loaded : table.load uuid with
  | none =>
      simp only [JobTable.changeToDone, loaded] at runnable ⊢
      exact .inl runnable
  | some job =>
      simp only [JobTable.changeToDone, loaded] at runnable ⊢
      have remembers : Remembers happened graphOf (table.read (job.setDone time result)).links :=
        (accounts.remembers_load loaded).read
      have own : job.uuid = uuid := uuid_load loaded
      have stored := accounts.store_loaded now loaded remembers own rfl
      rcases runnable_enqueueWaiting stored sameGraph runnable with middle | free
      · left
        rw [runnable_store] at middle
        split_ifs at middle
        · rcases middle with state | state | state <;> cases state
        · exact middle
      · exact .inr free

theorem runnable_changeToCancelled {time : ℚ} {result : Option String}
    (runnable : (table.changeToCancelled time uuid result).Runnable child) :
    table.Runnable child := by
  rw [JobTable.changeToCancelled] at runnable
  split at runnable
  · rcases runnable_updateWhere runnable with middle | ⟨stored, -, -, state⟩
    · rw [runnable_store] at middle
      split_ifs at middle
      · rcases middle with state | state | state <;> cases state
      · exact middle
    · rcases state with state | state | state <;> cases state
  · exact runnable

/-- A job that a user requeues becomes pending where all that it depends on is done. -/
theorem runnable_changeToPending (accounts : table.Accounts happened graphOf)
    (now : ∀ child parent, table.Releases child parent → happened (.released child parent))
    {result : Option String} (runnable : (table.changeToPending uuid result).Runnable child) :
    table.Runnable child ∨ ∀ parent, happened (.listed child parent) →
      happened (.released child parent) := by
  rw [JobTable.changeToPending] at runnable
  split at runnable
  · rename_i job loaded
    rw [runnable_store] at runnable
    split_ifs at runnable with same
    · have own : job.uuid = uuid := uuid_load loaded
      rw [show child = uuid from same.trans own]
      by_cases ready : (table.read job).ready
      · exact .inr (free_setPending accounts now loaded ready)
      · have state : ((table.read job).setPending result true).values.state =
            if (table.read job).ready then .pending else .waitDependencies := rfl
        rw [state, if_neg ready] at runnable
        rcases runnable with state | state | state <;> cases state
    · exact .inl runnable
  · exact .inl runnable

end JobTable

end OdooConnector.Queue
