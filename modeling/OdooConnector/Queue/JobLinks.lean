import OdooConnector.Library.History
import OdooConnector.Queue.ServerSteps

/-!
# How jobs stay connected

The lists of a row name the jobs of its graph. They lose jobs that are gone, but among the jobs that
are there the connections stay as they were when the graph was delayed.
-/

namespace OdooConnector.Queue

namespace JobTable

variable (table : JobTable)

/-- The list names the same jobs as another one, as far as they are there, and no job that was never
stored. -/
structure Names (uuids listed : List String) : Prop where
  known : ∀ uuid ∈ uuids, table.version uuid ≠ 0
  agrees : ∀ uuid, (table.row uuid).isSome → (uuid ∈ uuids ↔ uuid ∈ listed)

/-- Connections that are those of a row. -/
structure Describes (graphUuid : Option String) (dependsOn reverseDependsOn : List String)
    (stored : StoredJob) : Prop where
  graphUuid : graphUuid = stored.graphUuid
  dependsOn : table.Names dependsOn stored.dependsOn
  reverseDependsOn : table.Names reverseDependsOn stored.reverseDependsOn

/-- A job in memory is connected as its row is. -/
structure WorksOn (links : Job.Links) (stored : StoredJob) : Prop where
  found : table.row links.uuid = some stored
  listed : table.Describes links.graphUuid links.dependsOn links.reverseDependsOn stored
  parents : links.parents ≠ [] → table.Names (links.parents.map Prod.fst) stored.dependsOn
  children : links.children ≠ [] → table.Names links.children stored.reverseDependsOn

def Works (links : Job.Links) : Prop := ∃ stored, table.WorksOn links stored

/-- One job depends on another, and both are there. -/
def Depends (child parent : String) : Prop :=
  (table.row parent).isSome ∧ ∃ stored, table.row child = some stored ∧ parent ∈ stored.dependsOn

/-- The connections of the rows among each other. -/
structure Connected : Prop where
  stored : ∀ uuid, (table.row uuid).isSome → table.version uuid ≠ 0
  known : ∀ uuid stored, table.row uuid = some stored →
    ∀ other ∈ stored.dependsOn ++ stored.reverseDependsOn, table.version other ≠ 0
  mirrored : ∀ child parent stored other, table.row child = some stored →
    table.row parent = some other →
      (parent ∈ stored.dependsOn ↔ child ∈ other.reverseDependsOn)
  sameGraph : ∀ child parent stored other, table.row child = some stored →
    table.row parent = some other → parent ∈ stored.dependsOn →
      stored.graphUuid = other.graphUuid ∧ other.graphUuid.isSome
  acyclic : ∃ rank : String → ℕ, ∀ child parent, table.Depends child parent →
    rank parent < rank child

/-- The rows that are there are connected as they were before. -/
structure SameLinks (before after : JobTable) : Prop where
  version : ∀ uuid, before.version uuid ≠ 0 → after.version uuid ≠ 0
  row : ∀ uuid stored', after.row uuid = some stored' → ∃ stored, before.row uuid = some stored ∧
    after.Describes stored'.graphUuid stored'.dependsOn stored'.reverseDependsOn stored

/-- Rows are written again, and none is deleted. -/
structure Rewrites (before after : JobTable) : Prop extends SameLinks before after where
  keeps : ∀ uuid, (before.row uuid).isSome → (after.row uuid).isSome

variable {table} {before middle after : JobTable} {uuids listed other : List String}
  {stored : StoredJob} {uuid child parent : String} {links : Job.Links} {job : Job}

theorem Names.trans (front : table.Names uuids listed)
    (back : ∀ uuid, (table.row uuid).isSome → (uuid ∈ listed ↔ uuid ∈ other)) :
    table.Names uuids other :=
  ⟨front.known, fun uuid found => (front.agrees uuid found).trans (back uuid found)⟩

theorem SameLinks.found (same : SameLinks before after) (found : (after.row uuid).isSome) :
    (before.row uuid).isSome := by
  obtain ⟨stored', found'⟩ := Option.isSome_iff_exists.mp found
  obtain ⟨stored, found, -⟩ := same.row uuid stored' found'
  rw [found]
  rfl

theorem Names.later (names : before.Names uuids listed) (same : SameLinks before after) :
    after.Names uuids listed :=
  ⟨fun uuid member => same.version uuid (names.known uuid member),
    fun uuid found => names.agrees uuid (same.found found)⟩

theorem Describes.later {graphUuid : Option String} {dependsOn reverseDependsOn : List String}
    (describes : before.Describes graphUuid dependsOn reverseDependsOn stored)
    (same : SameLinks before after) :
    after.Describes graphUuid dependsOn reverseDependsOn stored :=
  ⟨describes.graphUuid, describes.dependsOn.later same, describes.reverseDependsOn.later same⟩

theorem Connected.describes (connected : table.Connected) (found : table.row uuid = some stored) :
    table.Describes stored.graphUuid stored.dependsOn stored.reverseDependsOn stored where
  graphUuid := rfl
  dependsOn := ⟨fun other member =>
    connected.known uuid stored found other (List.mem_append_left _ member), fun _ _ => Iff.rfl⟩
  reverseDependsOn := ⟨fun other member =>
    connected.known uuid stored found other (List.mem_append_right _ member), fun _ _ => Iff.rfl⟩

theorem SameLinks.refl (connected : table.Connected) : SameLinks table table :=
  ⟨fun _ => id, fun _ stored found => ⟨stored, found, connected.describes found⟩⟩

theorem SameLinks.trans (front : SameLinks before middle) (back : SameLinks middle after) :
    SameLinks before after := by
  refine ⟨fun uuid known => back.version uuid (front.version uuid known), ?_⟩
  intro uuid last found
  obtain ⟨between, found', describes⟩ := back.row uuid last found
  obtain ⟨first, found'', describes'⟩ := front.row uuid between found'
  refine ⟨first, found'', describes.graphUuid.trans describes'.graphUuid, ?_, ?_⟩
  · exact describes.dependsOn.trans (describes'.dependsOn.later back).agrees
  · exact describes.reverseDependsOn.trans (describes'.reverseDependsOn.later back).agrees

theorem Rewrites.refl (connected : table.Connected) : Rewrites table table :=
  ⟨.refl connected, fun _ => id⟩

theorem Rewrites.trans (front : Rewrites before middle) (back : Rewrites middle after) :
    Rewrites before after :=
  ⟨front.toSameLinks.trans back.toSameLinks,
    fun uuid found => back.keeps uuid (front.keeps uuid found)⟩

theorem SameLinks.depends (same : SameLinks before after) (depends : after.Depends child parent) :
    before.Depends child parent := by
  obtain ⟨found, stored', childFound, member⟩ := depends
  obtain ⟨stored, childFound', describes⟩ := same.row child stored' childFound
  exact ⟨same.found found, stored, childFound', (describes.dependsOn.agrees _ found).mp member⟩

theorem SameLinks.depends_iff (same : SameLinks before after) (child' : (after.row child).isSome)
    (parent' : (after.row parent).isSome) :
    after.Depends child parent ↔ before.Depends child parent := by
  refine ⟨same.depends, fun ⟨_, stored, found, member⟩ => ?_⟩
  obtain ⟨stored', childFound⟩ := Option.isSome_iff_exists.mp child'
  obtain ⟨other, found', describes⟩ := same.row child stored' childFound
  obtain rfl := Option.some_inj.mp (found.symm.trans found')
  exact ⟨parent', stored', childFound, (describes.dependsOn.agrees _ parent').mpr member⟩

theorem Connected.later (connected : before.Connected) (same : SameLinks before after) :
    after.Connected where
  stored uuid found := same.version uuid (connected.stored uuid (same.found found))
  known uuid stored' found other member := by
    obtain ⟨stored, -, describes⟩ := same.row uuid stored' found
    rcases List.mem_append.mp member with member | member
    · exact describes.dependsOn.known other member
    · exact describes.reverseDependsOn.known other member
  mirrored child parent stored' other' childFound parentFound := by
    obtain ⟨stored, found, describes⟩ := same.row child stored' childFound
    obtain ⟨other, found', describes'⟩ := same.row parent other' parentFound
    rw [describes.dependsOn.agrees parent (parentFound ▸ rfl),
      describes'.reverseDependsOn.agrees child (childFound ▸ rfl)]
    exact connected.mirrored child parent stored other found found'
  sameGraph child parent stored' other' childFound parentFound member := by
    obtain ⟨stored, found, describes⟩ := same.row child stored' childFound
    obtain ⟨other, found', describes'⟩ := same.row parent other' parentFound
    rw [describes.graphUuid, describes'.graphUuid]
    exact connected.sameGraph child parent stored other found found'
      ((describes.dependsOn.agrees parent (parentFound ▸ rfl)).mp member)
  acyclic := by
    obtain ⟨rank, less⟩ := connected.acyclic
    exact ⟨rank, fun child parent depends => less child parent (same.depends depends)⟩

theorem Works.later (works : before.Works links) (same : SameLinks before after)
    (found : (after.row links.uuid).isSome) : after.Works links := by
  obtain ⟨stored, works⟩ := works
  obtain ⟨stored', found'⟩ := Option.isSome_iff_exists.mp found
  obtain ⟨other, found, describes⟩ := same.row links.uuid stored' found'
  obtain rfl := Option.some_inj.mp (works.found.symm.trans found)
  have depends := fun uuid found => (describes.dependsOn.agrees uuid found).symm
  have reverse := fun uuid found => (describes.reverseDependsOn.agrees uuid found).symm
  have listed := works.listed.later same
  refine ⟨stored', found', ⟨listed.graphUuid.trans describes.graphUuid.symm,
    listed.dependsOn.trans depends, listed.reverseDependsOn.trans reverse⟩, ?_, ?_⟩
  · exact fun some => ((works.parents some).later same).trans depends
  · exact fun some => ((works.children some).later same).trans reverse

/-! ### What is stored -/

theorem Connected.works_load (connected : table.Connected) (loaded : table.load uuid = some job) :
    table.Works job.links := by
  obtain ⟨stored, found, rfl⟩ := load_eq_some_iff.mp loaded
  exact ⟨stored, found, connected.describes found, fun none => absurd rfl none,
    fun none => absurd rfl none⟩

theorem Names.existing (names : table.Names uuids listed) :
    table.Names (table.existing uuids) listed where
  known uuid member := names.known uuid (mem_existing.mp member).1
  agrees uuid found := by
    rw [mem_existing, ← names.agrees uuid found]
    exact and_iff_left found

/-- What is read of a job is connected as its row is. -/
theorem WorksOn.read (works : table.WorksOn job.links stored) :
    table.WorksOn (table.read job).links stored ∧
      table.Describes job.values.graphUuid ((table.read job).parents.map Prod.fst)
        (table.read job).children stored := by
  have parents : table.Names ((table.read job).parents.map Prod.fst) stored.dependsOn := by
    rw [parents_read]
    split_ifs with none
    · rw [map_fst_loadMany]
      exact works.listed.dependsOn.existing
    · exact works.parents none
  have children : table.Names (table.read job).children stored.reverseDependsOn := by
    rw [children_read]
    split_ifs with none
    · exact works.listed.reverseDependsOn.existing
    · exact works.children none
  exact ⟨⟨works.found, works.listed, fun _ => parents, fun _ => children⟩,
    works.listed.graphUuid, parents, children⟩

theorem version_store_ne (known : table.version uuid ≠ 0) : (table.store job).version uuid ≠ 0 :=
  (later_store job).known known

/-- Storing a job leaves the rows connected as they were. -/
theorem rewrites_store (connected : table.Connected) (works : table.Works job.links) :
    Rewrites table (table.store job) := by
  obtain ⟨stored, works⟩ := works
  have names {uuids listed : List String} (names : table.Names uuids listed) :
      (table.store job).Names uuids listed := by
    refine ⟨fun uuid member => version_store_ne (names.known uuid member), fun uuid found => ?_⟩
    rw [row_store] at found
    split_ifs at found with same
    · exact names.agrees uuid (by rw [same]; exact works.found ▸ rfl)
    · exact names.agrees uuid found
  have describes {graphUuid : Option String} {dependsOn reverseDependsOn : List String}
      {stored : StoredJob} (same : table.Describes graphUuid dependsOn reverseDependsOn stored) :
      (table.store job).Describes graphUuid dependsOn reverseDependsOn stored :=
    ⟨same.graphUuid, names same.dependsOn, names same.reverseDependsOn⟩
  refine ⟨⟨fun uuid => version_store_ne, fun uuid stored' found => ?_⟩, fun uuid found => ?_⟩
  · rw [row_store] at found
    split_ifs at found with same
    · obtain rfl := Option.some_inj.mp found
      refine ⟨stored, same ▸ works.found, describes ?_⟩
      rw [graphUuid_storedValues, dependsOn_storedValues, reverseDependsOn_storedValues]
      exact works.read.2
    · exact ⟨stored', found, describes (connected.describes found)⟩
  · rw [row_store]
    split_ifs
    · rfl
    · exact found

theorem sameLinks_write {change : String → Option (Option StoredJob)} (connected : table.Connected)
    (keeps : ∀ uuid stored', change uuid = some (some stored') → ∃ stored,
      table.row uuid = some stored ∧ stored'.graphUuid = stored.graphUuid ∧
        stored'.dependsOn = stored.dependsOn ∧ stored'.reverseDependsOn = stored.reverseDependsOn) :
    SameLinks table (table.write change) := by
  have origin (uuid : String) (stored' : StoredJob)
      (found : (table.write change).row uuid = some stored') : ∃ stored,
      table.row uuid = some stored ∧ stored'.graphUuid = stored.graphUuid ∧
        stored'.dependsOn = stored.dependsOn ∧
        stored'.reverseDependsOn = stored.reverseDependsOn := by
    rw [row_write] at found
    cases changed : change uuid with
    | none =>
        rw [changed] at found
        exact ⟨stored', found, rfl, rfl, rfl⟩
    | some row =>
        rw [changed] at found
        exact keeps uuid stored' (changed.trans (congrArg some found))
  have version (uuid : String) (known : table.version uuid ≠ 0) :
      (table.write change).version uuid ≠ 0 :=
    later_write.known known
  refine ⟨version, fun uuid stored' found => ?_⟩
  obtain ⟨stored, found', graphUuid, dependsOn, reverseDependsOn⟩ := origin uuid stored' found
  have listed := connected.describes found'
  refine ⟨stored, found', graphUuid, ?_, ?_⟩
  · rw [dependsOn]
    exact ⟨fun uuid member => version uuid (listed.dependsOn.known uuid member),
      fun _ _ => Iff.rfl⟩
  · rw [reverseDependsOn]
    exact ⟨fun uuid member => version uuid (listed.reverseDependsOn.known uuid member),
      fun _ _ => Iff.rfl⟩

theorem rewrites_updateWhere {selects : String → StoredJob → Bool}
    {change : StoredJob → StoredJob} (connected : table.Connected)
    (graphUuid : ∀ stored, (change stored).graphUuid = stored.graphUuid)
    (dependsOn : ∀ stored, (change stored).dependsOn = stored.dependsOn)
    (reverseDependsOn : ∀ stored, (change stored).reverseDependsOn = stored.reverseDependsOn) :
    Rewrites table (table.updateWhere selects change) := by
  refine ⟨sameLinks_write connected fun uuid stored' changed => ?_, fun uuid found => ?_⟩
  · obtain ⟨stored, found, same⟩ := Option.map_eq_some_iff.mp changed
    obtain ⟨found, -⟩ := Option.filter_eq_some_iff.mp found
    obtain rfl := Option.some_inj.mp same
    exact ⟨stored, found, graphUuid stored, dependsOn stored, reverseDependsOn stored⟩
  · rw [row_updateWhere, Option.isSome_map]
    exact found

theorem sameLinks_autovacuum (connected : table.Connected) (now : ℚ)
    (channels : List VacuumedChannel) : SameLinks table (table.autovacuum now channels) := by
  refine sameLinks_write connected fun uuid stored' changed => ?_
  obtain ⟨stored, -, none⟩ := Option.map_eq_some_iff.mp changed
  cases none

/-- Locks are no connections. -/
theorem rewrites_of_eq (connected : before.Connected) (row : after.row = before.row)
    (version : after.version = before.version) : Rewrites before after := by
  refine ⟨⟨fun uuid known => version ▸ known, fun uuid stored found => ?_⟩, fun uuid found =>
    row ▸ found⟩
  rw [row] at found
  have listed := connected.describes found
  refine ⟨stored, found, rfl, ?_, ?_⟩
  · exact ⟨fun uuid member => version ▸ listed.dependsOn.known uuid member, fun _ _ => Iff.rfl⟩
  · exact ⟨fun uuid member => version ▸ listed.reverseDependsOn.known uuid member,
      fun _ _ => Iff.rfl⟩

theorem rewrites_enqueueWaiting (connected : table.Connected) (uuid : String) :
    Rewrites table (table.enqueueWaiting uuid) :=
  rewrites_updateWhere connected (fun _ => rfl) (fun _ => rfl) fun _ => rfl

theorem rewrites_cancelDependentJobs (connected : table.Connected) (uuid : String) :
    Rewrites table (table.cancelDependentJobs uuid) :=
  rewrites_updateWhere connected (fun _ => rfl) (fun _ => rfl) fun _ => rfl

theorem rewrites_changeToDone (connected : table.Connected) (now : ℚ) (uuid : String)
    (result : Option String) : Rewrites table (table.changeToDone now uuid result) := by
  rw [changeToDone]
  split
  · rename_i job loaded
    have works : table.Works job.links := connected.works_load loaded
    have stored : Rewrites table (table.store (job.setDone now result)) :=
      rewrites_store connected works
    exact stored.trans (rewrites_enqueueWaiting (connected.later stored.toSameLinks) uuid)
  · exact .refl connected

theorem rewrites_changeToCancelled (connected : table.Connected) (now : ℚ) (uuid : String)
    (result : Option String) : Rewrites table (table.changeToCancelled now uuid result) := by
  rw [changeToCancelled]
  split
  · rename_i job loaded
    have works : table.Works job.links := connected.works_load loaded
    have stored : Rewrites table (table.store (job.setCancelled now result)) :=
      rewrites_store connected works
    exact stored.trans (rewrites_cancelDependentJobs (connected.later stored.toSameLinks) uuid)
  · exact .refl connected

theorem rewrites_setPending (connected : table.Connected) (works : table.Works job.links)
    (result : Option String) (resetRetry : Bool) :
    Rewrites table (table.store ((table.read job).setPending result resetRetry)) := by
  obtain ⟨stored, works⟩ := works
  exact rewrites_store connected ⟨stored, works.read.1⟩

theorem rewrites_changeToPending (connected : table.Connected) (uuid : String)
    (result : Option String) : Rewrites table (table.changeToPending uuid result) := by
  rw [changeToPending]
  split
  · exact rewrites_setPending connected (connected.works_load ‹_›) result true
  · exact .refl connected

/-! ### New graphs -/

/-- A job of a new graph as it is stored. -/
theorem storedValues_new {graph : NewGraph} (member : job ∈ graph.jobs) :
    (table.storedValues job).dependsOn = job.values.dependsOn ∧
      (table.storedValues job).reverseDependsOn = job.values.reverseDependsOn := by
  obtain ⟨parents, children⟩ := graph.read job member
  rw [dependsOn_storedValues, reverseDependsOn_storedValues, parents_read, children_read]
  constructor
  · split_ifs with none
    · rw [none, List.map_nil] at parents
      rw [← parents]
      rfl
    · exact parents
  · split_ifs with none
    · rw [none] at children
      rw [← children]
      rfl
    · exact children

/-- The rows of a new graph are its jobs. -/
theorem row_foldl_store {graph : NewGraph} {jobs : List Job} (listed : jobs ⊆ graph.jobs)
    (nodup : (jobs.map Job.uuid).Nodup) :
    (∀ uuid, uuid ∉ jobs.map Job.uuid →
      (jobs.foldl JobTable.store table).row uuid = table.row uuid ∧
        (jobs.foldl JobTable.store table).version uuid = table.version uuid) ∧
    ∀ job ∈ jobs, (jobs.foldl JobTable.store table).version job.uuid ≠ 0 ∧
      ∃ stored, (jobs.foldl JobTable.store table).row job.uuid = some stored ∧
        stored.state = job.values.state ∧ stored.graphUuid = job.values.graphUuid ∧
        stored.dependsOn = job.values.dependsOn ∧
        stored.reverseDependsOn = job.values.reverseDependsOn := by
  induction jobs generalizing table with
  | nil => exact ⟨fun _ _ => ⟨rfl, rfl⟩, fun _ among => absurd among List.not_mem_nil⟩
  | cons job jobs induction =>
      obtain ⟨member, listed⟩ := List.cons_subset.mp listed
      obtain ⟨first, nodup⟩ := List.nodup_cons.mp nodup
      obtain ⟨others, stored⟩ := @induction (table.store job) listed nodup
      refine ⟨fun uuid outside => ?_, fun other among => ?_⟩
      · rw [List.map_cons, List.mem_cons, not_or] at outside
        obtain ⟨row, version⟩ := others uuid outside.2
        rw [List.foldl_cons, row, version, row_store, if_neg outside.1]
        exact ⟨rfl, version_store_of_ne outside.1⟩
      · obtain rfl | among := List.mem_cons.mp among
        · obtain ⟨row, version⟩ := others _ first
          rw [List.foldl_cons, row, version, row_store, if_pos rfl]
          obtain ⟨dependsOn, reverseDependsOn⟩ := @storedValues_new table other graph member
          exact ⟨version_store_self, _, rfl, state_storedValues, graphUuid_storedValues, dependsOn,
            reverseDependsOn⟩
        · exact stored other among

/-- A table with the jobs of a new graph beside the old ones. -/
structure Grows (graph : NewGraph) (before after : JobTable) : Prop where
  new : ∀ job ∈ graph.jobs, before.version job.uuid = 0
  old : ∀ uuid, uuid ∉ graph.jobs.map Job.uuid →
    after.row uuid = before.row uuid ∧ after.version uuid = before.version uuid
  row : ∀ job ∈ graph.jobs, after.version job.uuid ≠ 0 ∧ ∃ stored,
    after.row job.uuid = some stored ∧ stored.state = job.values.state ∧
      stored.graphUuid = job.values.graphUuid ∧ stored.dependsOn = job.values.dependsOn ∧
      stored.reverseDependsOn = job.values.reverseDependsOn

namespace Grows

variable {graph : NewGraph}

theorem not_new (grows : Grows graph before after) (known : before.version uuid ≠ 0) :
    uuid ∉ graph.jobs.map Job.uuid := by
  intro member
  obtain ⟨job, among, rfl⟩ := List.mem_map.mp member
  exact known (grows.new job among)

theorem version (grows : Grows graph before after) (known : before.version uuid ≠ 0) :
    after.version uuid ≠ 0 := by
  rw [(grows.old uuid (grows.not_new known)).2]
  exact known

/-- Every row is one of the new graph, or was there before. -/
theorem row_cases (grows : Grows graph before after) (found : after.row uuid = some stored) :
    (∃ job ∈ graph.jobs, job.uuid = uuid ∧ stored.state = job.values.state ∧
      stored.graphUuid = job.values.graphUuid ∧ stored.dependsOn = job.values.dependsOn ∧
      stored.reverseDependsOn = job.values.reverseDependsOn) ∨
    (uuid ∉ graph.jobs.map Job.uuid ∧ before.row uuid = some stored) := by
  by_cases new : uuid ∈ graph.jobs.map Job.uuid
  · left
    obtain ⟨job, among, rfl⟩ := List.mem_map.mp new
    obtain ⟨-, other, found', same⟩ := grows.row job among
    obtain rfl := Option.some_inj.mp (found.symm.trans found')
    exact ⟨job, among, rfl, same⟩
  · right
    exact ⟨new, (grows.old uuid new).1.symm.trans found⟩

theorem known (grows : Grows graph before after) (connected : before.Connected)
    (found : after.row uuid = some stored) (other : String)
    (member : other ∈ stored.dependsOn ++ stored.reverseDependsOn) : after.version other ≠ 0 := by
  rcases grows.row_cases found with ⟨job, among, rfl, -, -, dependsOn, reverse⟩ | ⟨-, found⟩
  · rw [dependsOn, reverse] at member
    obtain ⟨other, among, rfl⟩ := List.mem_map.mp (graph.closed job among other member)
    exact (grows.row other among).1
  · exact grows.version (connected.known uuid stored found other member)

/-- New jobs are connected with new jobs only, and the old ones with old ones. -/
theorem depends_cases (grows : Grows graph before after) (connected : before.Connected)
    (depends : after.Depends child parent) :
    (∃ job ∈ graph.jobs, job.uuid = child ∧ parent ∈ job.values.dependsOn) ∨
      (child ∉ graph.jobs.map Job.uuid ∧ before.Depends child parent) := by
  obtain ⟨parentFound, stored, found, member⟩ := depends
  rcases grows.row_cases found with ⟨job, among, same, -, -, dependsOn, -⟩ | ⟨old, found⟩
  · exact .inl ⟨job, among, same, dependsOn ▸ member⟩
  · have known := connected.known child stored found parent (List.mem_append_left _ member)
    rw [(grows.old parent (grows.not_new known)).1] at parentFound
    exact .inr ⟨old, parentFound, stored, found, member⟩

theorem connected (grows : Grows graph before after) (connected : before.Connected) :
    after.Connected where
  stored uuid found := by
    obtain ⟨stored, found⟩ := Option.isSome_iff_exists.mp found
    rcases grows.row_cases found with ⟨job, among, rfl, -⟩ | ⟨-, found⟩
    · exact (grows.row job among).1
    · exact grows.version (connected.stored uuid (found ▸ rfl))
  known uuid stored found := grows.known connected found
  mirrored child parent stored other childFound parentFound := by
    rcases grows.row_cases childFound with ⟨job, among, rfl, -, -, dependsOn, -⟩ | ⟨old, found⟩
    · rcases grows.row_cases parentFound with ⟨job', among', rfl, -, -, -, reverse⟩ | ⟨old', found'⟩
      · rw [dependsOn, reverse]
        exact graph.mirrored job among job' among'
      · refine iff_of_false (fun member => old' ?_) fun member => ?_
        · rw [dependsOn] at member
          exact graph.closed job among parent (List.mem_append_left _ member)
        · exact connected.known parent other found' _ (List.mem_append_right _ member)
            (grows.new job among)
    · rcases grows.row_cases parentFound with ⟨job', among', rfl, -, -, -, reverse⟩ | ⟨old', found'⟩
      · refine iff_of_false (fun member => ?_) fun member => old ?_
        · exact connected.known child stored found _ (List.mem_append_left _ member)
            (grows.new job' among')
        · rw [reverse] at member
          exact graph.closed job' among' child (List.mem_append_right _ member)
      · exact connected.mirrored child parent stored other found found'
  sameGraph child parent stored other childFound parentFound member := by
    rcases grows.row_cases childFound with ⟨job, among, rfl, -, same, dependsOn, -⟩ | ⟨old, found⟩
    · rw [dependsOn] at member
      have new := graph.closed job among parent (List.mem_append_left _ member)
      rcases grows.row_cases parentFound with ⟨job', among', rfl, -, same', -⟩ | ⟨old', -⟩
      · rw [same, same']
        exact graph.sameGraph job among job' among' member
      · exact absurd new old'
    · rcases grows.row_cases parentFound with ⟨job', among', rfl, -⟩ | ⟨old', found'⟩
      · exact absurd (grows.new job' among')
          (connected.known child stored found _ (List.mem_append_left _ member))
      · exact connected.sameGraph child parent stored other found found' member
  acyclic := by
    obtain ⟨rank, less⟩ := connected.acyclic
    obtain ⟨newRank, newLess⟩ := graph.acyclic
    refine ⟨fun uuid => if uuid ∈ graph.jobs.map Job.uuid then newRank uuid else rank uuid, ?_⟩
    intro child parent depends
    dsimp only
    rcases grows.depends_cases connected depends with ⟨job, among, rfl, member⟩ | ⟨old, depends⟩
    · rw [if_pos (graph.closed job among parent (List.mem_append_left _ member)),
        if_pos (List.mem_map_of_mem among)]
      exact newLess job among parent member
    · rw [if_neg old, if_neg (grows.not_new (connected.stored parent depends.1))]
      exact less child parent depends

theorem names (grows : Grows graph before after) (names : before.Names uuids listed)
    (known : ∀ uuid ∈ listed, before.version uuid ≠ 0) : after.Names uuids listed where
  known uuid member := grows.version (names.known uuid member)
  agrees uuid found := by
    by_cases new : uuid ∈ graph.jobs.map Job.uuid
    · refine iff_of_false (fun member => ?_) fun member => ?_
      · exact grows.not_new (names.known uuid member) new
      · exact grows.not_new (known uuid member) new
    · rw [(grows.old uuid new).1] at found
      exact names.agrees uuid found

/-- What a request works on is not touched. -/
theorem works (grows : Grows graph before after) (connected : before.Connected)
    (works : before.Works links) : after.Works links := by
  obtain ⟨stored, works⟩ := works
  have old := grows.not_new (connected.stored links.uuid (works.found ▸ rfl))
  have dependsOn := fun uuid member => connected.known links.uuid stored works.found uuid
    (List.mem_append_left _ member)
  have reverse := fun uuid member => connected.known links.uuid stored works.found uuid
    (List.mem_append_right _ member)
  refine ⟨stored, (grows.old _ old).1.trans works.found, ⟨works.listed.graphUuid, ?_, ?_⟩, ?_, ?_⟩
  · exact grows.names works.listed.dependsOn dependsOn
  · exact grows.names works.listed.reverseDependsOn reverse
  · exact fun some => grows.names (works.parents some) dependsOn
  · exact fun some => grows.names (works.children some) reverse

end Grows

theorem grows_foldl_store (graph : NewGraph)
    (new : ∀ job ∈ graph.jobs, table.version job.uuid = 0) :
    Grows graph table (graph.jobs.foldl JobTable.store table) :=
  have rows := @row_foldl_store table graph graph.jobs (List.Subset.refl _) graph.nodup
  ⟨new, rows.1, rows.2⟩

theorem connected_empty : JobTable.empty.Connected where
  stored _ found := by cases found
  known _ _ found := by cases found
  mirrored _ _ _ _ found := by cases found
  sameGraph _ _ _ _ found := by cases found
  acyclic := ⟨fun _ => 0, fun _ _ depends => by cases depends.1⟩

end JobTable

end OdooConnector.Queue
