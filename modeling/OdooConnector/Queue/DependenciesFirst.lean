import OdooConnector.Queue.JobLinks
import OdooConnector.Queue.JobRunner
import OdooConnector.Queue.LinkHistory

/-!
# Dependencies come first

In every run of server and runner no job is taken up before all jobs that it depends on were done,
or gone.
-/

namespace OdooConnector.Queue

open JobTable

/-- What is seen of a table. -/
def LinkEvent.SeenIn (table : JobTable) : LinkEvent → Prop
  | .listed child parent => table.Lists child parent
  | .released child parent => table.Releases child parent

namespace JobServer

/-- What happened is kept in the table and by the requests. -/
structure Recalls (server : JobServer) (happened : LinkEvent → Prop) : Prop where
  now : ∀ child parent, server.table.Releases child parent → happened (.released child parent)
  stored : ∀ uuid, (server.table.row uuid).isSome → server.table.version uuid ≠ 0
  known : ∀ child parent, happened (.listed child parent) →
    server.table.version child ≠ 0 ∧ server.table.version parent ≠ 0
  graph : ∃ graphOf, server.table.Accounts happened graphOf ∧
    (∀ request worker, server.worker request = some worker →
      Remembers happened graphOf worker.job.links) ∧
    ∀ child parent, happened (.listed child parent) → graphOf child = graphOf parent

/-- The job is neither pending nor taken up by a request. -/
def Rests (server : JobServer) (child : String) : Prop :=
  ¬ server.table.Runnable child ∧
    ∀ request worker, server.worker request = some worker → worker.job.uuid ≠ child

/-- The job was never stored, or depends on one that was neither done nor gone since. -/
def Bound (server : JobServer) (happened : LinkEvent → Prop) (child : String) : Prop :=
  server.table.version child = 0 ∨ ¬ server.table.Free happened child

variable {server after : JobServer} {happened : LinkEvent → Prop} {request : ℕ}
  {graphOf : String → Option String} {child uuid : String} {job : Job}

/-! ### One step -/

theorem Recalls.free_of_works (recalls : server.Recalls happened)
    (rests : ∀ child, server.Bound happened child → server.Rests child) {worker : Worker}
    (found : server.worker request = some worker) (parent : String)
    (listed : happened (.listed worker.job.uuid parent)) :
    happened (.released worker.job.uuid parent) := by
  have free : server.table.Free happened worker.job.uuid := by
    by_contra bound
    exact (rests _ (.inr bound)).2 request worker found rfl
  exact (free parent listed).elim id (recalls.now _ _)

theorem Recalls.free_of_runnable (recalls : server.Recalls happened)
    (rests : ∀ child, server.Bound happened child → server.Rests child)
    (runnable : server.table.Runnable child) (parent : String)
    (listed : happened (.listed child parent)) : happened (.released child parent) := by
  have free : server.table.Free happened child := by
    by_contra bound
    exact (rests _ (.inr bound)).1 runnable
  exact (free parent listed).elim id (recalls.now _ _)

/-- The rows after a job was stored that may be taken up. -/
theorem Recalls.accounts_store (recalls : server.Recalls happened)
    (accounts : server.table.Accounts happened graphOf)
    (remembers : Remembers happened graphOf job.links)
    (free : ∀ parent, happened (.listed job.uuid parent) → happened (.released job.uuid parent)) :
    (server.table.store job).Accounts happened graphOf :=
  accounts.store recalls.now remembers.read fun parent listed => .inr (.inl (free parent listed))

/-- The rows after any step but the delay of a graph. -/
theorem Recalls.accounts_step (recalls : server.Recalls happened)
    (rests : ∀ child, server.Bound happened child → server.Rests child)
    (accounts : server.table.Accounts happened graphOf)
    (works : ∀ request worker, server.worker request = some worker →
      Remembers happened graphOf worker.job.links)
    {action : ServerAction} (moves : server.Moves action after)
    (old : ∀ graph, action ≠ .delay graph) : after.table.Accounts happened graphOf := by
  have workers {request : ℕ} {worker : Worker} {job : Job}
      (found : server.worker request = some worker) (same : job.links = worker.job.links) :
      (server.table.store job).Accounts happened graphOf := by
    refine recalls.accounts_store accounts (same ▸ works request worker found) ?_
    rw [Job.uuid_eq_of_links same]
    exact recalls.free_of_works rests found
  have postponed {request : ℕ} {worker : Worker} {job : Job} (result : Option String)
      (resetRetry : Bool) (found : server.worker request = some worker)
      (same : job.links = worker.job.links) :
      (server.table.store ((server.table.read job).setPending result resetRetry)).Accounts
        happened graphOf := by
    have remembers : Remembers happened graphOf job.links := same ▸ works request worker found
    refine recalls.accounts_store accounts
      (remembers.read : Remembers happened graphOf (server.table.read job).links) ?_
    change ∀ parent, happened (.listed job.uuid parent) → happened (.released job.uuid parent)
    rw [Job.uuid_eq_of_links same]
    exact recalls.free_of_works rests found
  cases moves with
  | idle => exact accounts
  | delay new => exact absurd rfl (old _)
  | setJobEnqueued =>
      exact accounts.of_rows (row_of_updateWhere (fun _ => rfl) fun _ => rfl)
        fun _ _ _ releases => .inl (recalls.now _ _ releases)
  | requeueDeadJobs =>
      exact accounts.of_rows (row_of_updateWhere (fun _ => rfl) fun _ => rfl)
        fun _ _ _ releases => .inl (recalls.now _ _ releases)
  | @begin request uuid now stored job free found enqueued loaded =>
      have loads : Remembers happened graphOf job.links := accounts.remembers_load loaded
      have remembers := @Remembers.read server.table happened graphOf (job.setStarted now) loads
      have own : job.uuid = uuid := uuid_load loaded
      have stored := recalls.accounts_store accounts remembers fun parent listed => by
        change happened (.listed job.uuid parent) at listed
        change happened (.released job.uuid parent)
        rw [own] at listed ⊢
        exact recalls.free_of_runnable rests ⟨stored, found, .inr (.inl enqueued)⟩ parent listed
      exact stored.of_eq rfl
  | wait worker started => exact accounts
  | giveUp own found early => exact postponed none false found (Job.links_postpone _ _ _ _ _ _)
  | lock worker free => exact accounts.of_eq rfl
  | @commit request outcome around loaded job version result worker same fresh =>
      have stored := workers worker ((job.links_setDone around.now result).trans same)
      exact stored.of_eq rfl
  | abandon worker => exact accounts.of_eq rfl
  | postpone worker same =>
      exact postponed none false worker ((Job.links_postpone _ _ _ _ _ _).trans same)
  | fail worker same same' state => exact workers worker same'
  | close worker => exact accounts.of_eq rfl
  | release worker => exact accounts.enqueueWaiting _
  | crash found =>
      split_ifs
      · exact accounts.of_eq rfl
      · exact accounts
  | changeToDone => exact accounts.changeToDone recalls.now _ _ _
  | changeToCancelled => exact accounts.changeToCancelled recalls.now _ _ _
  | changeToPending moves => exact accounts.changeToPending recalls.now _ _
  | autovacuum => exact accounts.autovacuum recalls.now _ _

/-- A job that becomes runnable when a worker stores its own is the job of that worker. -/
theorem runnable_store_worker {request : ℕ} {worker : Worker} {job : Job}
    (found : server.worker request = some worker) (same : job.uuid = worker.job.uuid)
    (runnable : (server.table.store job).Runnable child) :
    server.table.Runnable child ∨
      ∃ request worker, server.worker request = some worker ∧ worker.job.uuid = child := by
  have after := runnable_store.mp runnable
  split_ifs at after with own
  · exact .inr ⟨request, worker, found, (own.trans same).symm⟩
  · exact .inl after

/-- A job becomes runnable only when all that it has ever depended on was done or gone. -/
theorem Recalls.runnable_step (recalls : server.Recalls happened)
    (accounts : server.table.Accounts happened graphOf)
    (sameGraph : ∀ child parent, happened (.listed child parent) → graphOf child = graphOf parent)
    {action : ServerAction} (moves : server.Moves action after)
    (old : ∀ graph, action ≠ .delay graph) (runner : ∀ now, action ≠ .setJobEnqueued now child)
    (runnable : after.table.Runnable child) :
    server.table.Runnable child ∨
      (∃ request worker, server.worker request = some worker ∧ worker.job.uuid = child) ∨
      after.table.Free happened child := by
  cases moves with
  | idle => exact .inl runnable
  | delay new => exact absurd rfl (old _)
  | @setJobEnqueued now uuid =>
      rcases runnable_updateWhere runnable with before | ⟨stored, -, own, -⟩
      · exact .inl before
      · obtain rfl := of_decide_eq_true own
        exact absurd rfl (runner now)
  | requeueDeadJobs =>
      rcases runnable_updateWhere runnable with before | ⟨stored, found, dead, -⟩
      · exact .inl before
      · rw [isDead, Bool.and_eq_true, Bool.and_eq_true, Bool.or_eq_true, decide_eq_true_eq,
          decide_eq_true_eq] at dead
        exact .inl ⟨stored, found, .inr dead.1.1⟩
  | @begin request uuid now stored job free found enqueued loaded =>
      left
      have own : job.uuid = uuid := uuid_load loaded
      have after := runnable_store.mp runnable
      split_ifs at after with same
      · exact ⟨stored, (same.trans own) ▸ found, .inr (.inl enqueued)⟩
      · exact after
  | wait worker started => exact .inl runnable
  | giveUp own found early =>
      refine (runnable_store_worker found ?_ runnable).imp_right .inl
      rfl
  | lock worker free => exact .inl runnable
  | commit worker same fresh =>
      refine (runnable_store_worker worker ?_ runnable).imp_right .inl
      exact Job.uuid_eq_of_links same
  | abandon worker => exact .inl runnable
  | @postpone request outcome around loaded job version message seconds worker same =>
      refine (runnable_store_worker worker ?_ runnable).imp_right .inl
      change job.uuid = loaded.uuid
      exact Job.uuid_eq_of_links same
  | fail worker same same' state =>
      refine (runnable_store_worker worker ?_ runnable).imp_right .inl
      exact Job.uuid_eq_of_links same'
  | close worker => exact .inl runnable
  | release worker => exact (runnable_enqueueWaiting accounts sameGraph runnable).imp_right .inr
  | crash found =>
      left
      split_ifs at runnable
      · exact runnable
      · exact runnable
  | changeToDone =>
      exact (runnable_changeToDone accounts recalls.now sameGraph runnable).imp_right .inr
  | changeToCancelled => exact .inl (runnable_changeToCancelled runnable)
  | changeToPending moves =>
      refine (runnable_changeToPending accounts recalls.now runnable).imp_right fun free => .inr ?_
      exact fun parent listed => .inl (free parent listed)
  | autovacuum =>
      obtain ⟨stored, found, runs⟩ := runnable
      exact .inl ⟨stored, row_of_autovacuum found, runs⟩

/-- What a step that delays no graph leaves. -/
theorem Recalls.of_accounts (recalls : server.Recalls happened)
    (later : Later server.table after.table) (accounts : after.table.Accounts happened graphOf)
    (works : ∀ request worker, after.worker request = some worker →
      Remembers happened graphOf worker.job.links)
    (sameGraph : ∀ child parent, happened (.listed child parent) →
      graphOf child = graphOf parent) :
    after.Recalls fun event => happened event ∨ event.SeenIn after.table where
  now child parent releases := .inr releases
  stored := later.stored recalls.stored
  known child parent listed := by
    obtain ⟨first, second⟩ := recalls.known child parent (listed.elim id (accounts.lists _ _))
    exact ⟨later.known first, later.known second⟩
  graph := by
    refine ⟨graphOf, ⟨fun child parent lists => .inr lists, accounts.graph, ?_⟩, ?_, ?_⟩
    · intro child stored found parent listed
      rcases accounts.complete child stored found parent (listed.elim id (accounts.lists _ _)) with
        member | was | releases
      · exact .inl member
      · exact .inr (.inl (.inl was))
      · exact .inr (.inr releases)
    · intro request worker found
      have remembers := works request worker found
      exact ⟨fun parent member => .inl (remembers.lists parent member), remembers.graph⟩
    · intro child parent listed
      exact sameGraph child parent (listed.elim id (accounts.lists _ _))

theorem Recalls.bound_of_accounts (recalls : server.Recalls happened)
    (later : Later server.table after.table) (accounts : after.table.Accounts happened graphOf)
    (bound : after.Bound (fun event => happened event ∨ event.SeenIn after.table) child) :
    server.Bound happened child := by
  rcases bound with none | bound
  · exact .inl (Nat.le_zero.mp ((later.le child).trans none.le))
  · refine .inr fun free => bound fun parent listed => ?_
    have was := (free parent (listed.elim id (accounts.lists _ _))).elim id (recalls.now _ _)
    exact .inl (.inl was)

/-- What a new job lists is new, and the others list what they listed. -/
theorem lists_delay {graph : NewGraph} {before table : JobTable} {parent : String}
    (grows : Grows graph before table) (lists : table.Lists child parent) :
    (∃ job ∈ graph.jobs, ∃ other ∈ graph.jobs, job.uuid = child ∧ other.uuid = parent ∧
      parent ∈ job.values.dependsOn) ∨
    (child ∉ graph.jobs.map Job.uuid ∧ before.Lists child parent) := by
  obtain ⟨stored, found, member⟩ := lists
  rcases grows.row_cases found with ⟨job, among, same, -, -, dependsOn, -⟩ | ⟨old, found⟩
  · rw [dependsOn] at member
    obtain ⟨other, among', same'⟩ := List.mem_map.mp
      (graph.closed job among parent (List.mem_append_left _ member))
    exact .inl ⟨job, among, other, among', same, same', member⟩
  · exact .inr ⟨old, stored, found, member⟩

/-- A graph is delayed. -/
theorem Recalls.delay (recalls : server.Recalls happened)
    (rests : ∀ child, server.Bound happened child → server.Rests child) {graph : NewGraph}
    {table : JobTable} (grows : Grows graph server.table table)
    (later : Later server.table table) :
    (server.withTable table).Recalls (fun event => happened event ∨ event.SeenIn table) := by
  obtain ⟨graphOf, accounts, works, sameGraph⟩ := recalls.graph
  have old {uuid : String} (known : server.table.version uuid ≠ 0) := grows.not_new known
  have cases {child parent : String}
      (listed : happened (.listed child parent) ∨ table.Lists child parent) :
      (∃ job ∈ graph.jobs, ∃ other ∈ graph.jobs, job.uuid = child ∧ other.uuid = parent ∧
        parent ∈ job.values.dependsOn) ∨ happened (.listed child parent) := by
    rcases listed with listed | lists
    · exact .inr listed
    · exact (lists_delay grows lists).imp_right fun before => accounts.lists _ _ before.2
  refine ⟨fun child parent releases => .inr releases, later.stored recalls.stored, ?_, ?_⟩
  · intro child parent listed
    rcases cases listed with ⟨job, among, other, among', rfl, rfl, -⟩ | was
    · exact ⟨(grows.row job among).1, (grows.row other among').1⟩
    · obtain ⟨first, second⟩ := recalls.known child parent was
      exact ⟨grows.version first, grows.version second⟩
  · let graphOf' (uuid : String) : Option String :=
      if uuid ∈ graph.jobs.map Job.uuid then (table.row uuid).bind StoredJob.graphUuid
      else graphOf uuid
    have new {job : Job} (among : job ∈ graph.jobs) : graphOf' job.uuid = job.values.graphUuid := by
      obtain ⟨-, stored, found, -, same, -⟩ := grows.row job among
      exact (if_pos (List.mem_map_of_mem among)).trans (by rw [found, ← same]; rfl)
    refine ⟨graphOf', ⟨fun child parent lists => .inr lists, ?_, ?_⟩, ?_, ?_⟩
    · intro child stored found
      rcases grows.row_cases found with ⟨job, among, rfl, -, same, -⟩ | ⟨old, before⟩
      · rw [new among, same]
      · rw [accounts.graph child stored before]
        exact (if_neg old).symm
    · intro child stored found parent listed
      rcases grows.row_cases found with ⟨job, among, rfl, -⟩ | ⟨old, before⟩
      · rcases listed with listed | ⟨stored', found', member⟩
        · exact absurd (grows.new job among) (recalls.known _ _ listed).1
        · obtain rfl := Option.some_inj.mp (found.symm.trans found')
          exact .inl member
      · rcases listed with listed | ⟨stored', found', member⟩
        · rcases accounts.complete child stored before parent listed with member | was | releases
          · exact .inl member
          · exact .inr (.inl (.inl was))
          · exact .inr (.inl (.inl (recalls.now _ _ releases)))
        · obtain rfl := Option.some_inj.mp (found.symm.trans found')
          exact .inl member
    · intro request worker found
      obtain ⟨lists, same⟩ := works request worker found
      have known : server.table.version worker.job.uuid ≠ 0 := fun none =>
        (rests _ (.inl none)).2 request worker found rfl
      exact ⟨fun parent member => .inl (lists parent member),
        same.trans (if_neg (old known)).symm⟩
    · intro child parent listed
      rcases cases listed with ⟨job, among, other, among', rfl, rfl, member⟩ | was
      · rw [new among, new among']
        exact (graph.sameGraph job among other among' member).1
      · obtain ⟨first, second⟩ := recalls.known child parent was
        exact (if_neg (old first)).trans
          ((sameGraph child parent was).trans (if_neg (old second)).symm)

/-- Jobs of a new graph that depend on others wait. -/
theorem rests_delay (recalls : server.Recalls happened)
    (rests : ∀ child, server.Bound happened child → server.Rests child) {graph : NewGraph}
    {table : JobTable} (grows : Grows graph server.table table)
    (bound : (server.withTable table).Bound
      (fun event => happened event ∨ event.SeenIn table) child) :
    server.Bound happened child ∧ (server.withTable table).Rests child := by
  obtain ⟨graphOf, accounts, -, -⟩ := recalls.graph
  by_cases new : child ∈ graph.jobs.map Job.uuid
  · obtain ⟨job, among, rfl⟩ := List.mem_map.mp new
    have before : server.Bound happened job.uuid := .inl (grows.new job among)
    refine ⟨before, fun runnable => ?_, (rests _ before).2⟩
    obtain ⟨stored, found, runs⟩ := runnable
    obtain ⟨known, stored', found', state, -, dependsOn, -⟩ := grows.row job among
    obtain rfl := Option.some_inj.mp (found.symm.trans found')
    rcases bound with none | bound
    · exact known none
    · refine bound fun parent listed => ?_
      rcases listed with listed | ⟨stored', found', member⟩
      · exact absurd (grows.new job among) (recalls.known _ _ listed).1
      · obtain rfl := Option.some_inj.mp (found.symm.trans found')
        have some : job.values.dependsOn ≠ [] := List.ne_nil_of_mem (dependsOn ▸ member)
        rw [state, graph.state job among, if_neg some] at runs
        rcases runs with runs | runs | runs <;> cases runs
  · have before : server.Bound happened child := by
      rcases bound with none | bound
      · exact .inl ((grows.old child new).2.symm.trans none)
      · refine .inr fun free => bound fun parent listed => ?_
        have was : happened (.listed child parent) := by
          rcases listed with listed | lists
          · exact listed
          · rcases lists_delay grows lists with ⟨job, among, -, -, rfl, -⟩ | ⟨-, before⟩
            · exact absurd (List.mem_map_of_mem among) new
            · exact accounts.lists _ _ before
        exact .inl (.inl ((free parent was).elim id (recalls.now _ _)))
    refine ⟨before, fun ⟨stored, found, runs⟩ => (rests child before).1 ⟨stored, ?_, runs⟩,
      (rests child before).2⟩
    exact (grows.old child new).1.symm.trans found

/-- A step that delays no graph, after which only free jobs are taken up. -/
theorem Recalls.step_of_accounts (recalls : server.Recalls happened)
    (rests : ∀ child, server.Bound happened child → server.Rests child)
    (later : Later server.table after.table) (accounts : after.table.Accounts happened graphOf)
    (works : ∀ request worker, after.worker request = some worker →
      Remembers happened graphOf worker.job.links)
    (sameGraph : ∀ child parent, happened (.listed child parent) → graphOf child = graphOf parent)
    (runnable : ∀ child, server.Bound happened child → after.table.Runnable child →
      server.table.Runnable child ∨ after.table.Free happened child)
    (taken : ∀ request worker, after.worker request = some worker →
      ¬ server.Rests worker.job.uuid) :
    after.Recalls (fun event => happened event ∨ event.SeenIn after.table) ∧
      ∀ child, after.Bound (fun event => happened event ∨ event.SeenIn after.table) child →
        server.Bound happened child ∧ after.Rests child := by
  refine ⟨recalls.of_accounts later accounts works sameGraph, fun child bound => ?_⟩
  have before := recalls.bound_of_accounts later accounts bound
  have rest := rests child before
  refine ⟨before, fun runs => ?_, fun request worker found same => ?_⟩
  · rcases runnable child before runs with was | free
    · exact rest.1 was
    · rcases bound with none | bound
      · obtain ⟨stored, found, -⟩ := runs
        exact later.stored recalls.stored _ (found ▸ rfl) none
      · refine bound fun parent listed => ?_
        rcases free parent (listed.elim id (accounts.lists _ _)) with was | releases
        · exact .inl (.inl was)
        · exact .inr releases
  · exact taken request worker found (same ▸ rest)

theorem Recalls.step (recalls : server.Recalls happened)
    (rests : ∀ child, server.Bound happened child → server.Rests child) (action : ServerAction)
    (runner : ∀ now uuid, action = .setJobEnqueued now uuid → ¬ server.Bound happened uuid) :
    (server.step action).Recalls
        (fun event => happened event ∨ event.SeenIn (server.step action).table) ∧
      ∀ child, (server.step action).Bound
          (fun event => happened event ∨ event.SeenIn (server.step action).table) child →
        server.Bound happened child ∧ (server.step action).Rests child := by
  obtain ⟨graphOf, accounts, works, sameGraph⟩ := recalls.graph
  have moves := server.moves_step action
  have later := moves.later
  generalize server.step action = after at moves later
  by_cases delays : ∃ graph, action = .delay graph
  · obtain ⟨graph, rfl⟩ := delays
    cases moves with
    | idle =>
        refine recalls.step_of_accounts rests later accounts works sameGraph
          (fun child _ runs => .inl runs) ?_
        exact fun request worker found rest => rest.2 request worker found rfl
    | giveUp own found early => rcases own with same | same <;> cases same
    | delay new =>
        have grows := @grows_foldl_store server.table graph fun job member =>
          of_decide_eq_true (List.all_eq_true.mp new job member)
        exact ⟨recalls.delay rests grows later, fun child => rests_delay recalls rests grows⟩
  · have old (graph : NewGraph) (same : action = .delay graph) := delays ⟨graph, same⟩
    refine recalls.step_of_accounts rests later
      (recalls.accounts_step rests accounts works moves old) (fun request worker found => ?_)
      sameGraph (fun child bound runs => ?_) fun request worker found rest => ?_
    · rcases moves.worker_cases found with
        ⟨before, found', same⟩ | ⟨uuid, _, job, -, -, loaded, same⟩
      · exact same ▸ works request before found'
      · exact same ▸ (accounts.remembers_load loaded).read
    · rcases recalls.runnable_step accounts sameGraph moves old
        (fun now same => runner now child same bound) runs with
        was | ⟨request, worker, found, same⟩ | free
      · exact .inl was
      · exact absurd same ((rests child bound).2 request worker found)
      · exact .inr free
    · rcases moves.worker_cases found with
        ⟨before, found', same⟩ | ⟨uuid, stored, job, row, enqueued, loaded, same⟩
      · exact rest.2 request before found' (Job.uuid_eq_of_links same).symm
      · have own : job.uuid = uuid := uuid_load loaded
        have same : worker.job.uuid = uuid := (Job.uuid_eq_of_links same).trans own
        exact rest.1 ⟨stored, same ▸ row, .inr (.inl enqueued)⟩

/-- A step that writes no row. -/
theorem Recalls.same (recalls : server.Recalls happened)
    (rests : ∀ child, server.Bound happened child → server.Rests child)
    (row : after.table.row = server.table.row)
    (version : after.table.version = server.table.version)
    (worker : after.worker = server.worker) :
    after.Recalls (fun event => happened event ∨ event.SeenIn after.table) ∧
      ∀ child, after.Bound (fun event => happened event ∨ event.SeenIn after.table) child →
        server.Bound happened child ∧ after.Rests child := by
  obtain ⟨graphOf, accounts, works, sameGraph⟩ := recalls.graph
  refine recalls.step_of_accounts rests
    (fun uuid => .inl ⟨congrFun row uuid, congrFun version uuid⟩) (accounts.of_eq row)
    (fun request next found => works request next (worker ▸ found)) sameGraph
    (fun child _ runs => .inl ?_) ?_
  · rwa [JobTable.Runnable, ← row]
  · exact fun request next found rest => rest.2 request next (worker ▸ found) rfl

theorem recalls_start : start.Recalls fun event => event.SeenIn start.table where
  now child parent releases := releases
  stored uuid found := by cases found
  known child parent lists := by
    obtain ⟨stored, found, -⟩ := lists
    cases found
  graph := by
    refine ⟨fun _ => none, ⟨fun _ _ lists => lists, ?_, ?_⟩, ?_, fun _ _ _ => rfl⟩
    · intro child stored found
      cases found
    · intro child stored found
      cases found
    · intro request worker found
      cases found

end JobServer

namespace QueueSystem

variable {dbName : String} {system : QueueSystem} {happened : LinkEvent → Prop} {child : String}

/-- The runner does not know the job as pending, and has not handed it out. -/
def Ignores (system : QueueSystem) (child : String) : Prop :=
  child ∉ system.toEnqueue ∧ system.session.manager.Unqueued child

/-- Nobody takes up a job that depends on one which was neither done nor gone. -/
structure Orderly (happened : LinkEvent → Prop) (system : QueueSystem) : Prop where
  recalls : system.server.Recalls happened
  kept : system.session.manager.Kept
  rests : ∀ child, system.server.Bound happened child →
    system.server.Rests child ∧ system.Ignores child

theorem kept_readRow {session : Session} {table : JobTable} (kept : session.manager.Kept)
    (uuid : String) : (readRow dbName table session uuid).manager.Kept := by
  rw [readRow]
  split <;> exact Session.kept_step kept _

theorem kept_restart {session : Session} {table : JobTable} (kept : session.manager.Kept)
    (uuids : List String) : (uuids.foldl (readRow dbName table) session).manager.Kept := by
  induction uuids generalizing session with
  | nil => exact kept
  | cons uuid uuids induction => exact induction (kept_readRow kept uuid)

/-- Reading rows queues no job that is not pending. -/
theorem unqueued_readRow {session : Session} {table : JobTable} (kept : session.manager.Kept)
    (unqueued : session.manager.Unqueued child) (rests : ¬ table.Runnable child) (uuid : String) :
    (readRow dbName table session uuid).manager.Unqueued child := by
  rw [readRow]
  split
  · rename_i stored found
    refine Session.unqueued_step kept unqueued ?_
    rintro ⟨row, same, own, state⟩
    obtain rfl := ManagerAction.notify.inj same
    obtain rfl : uuid = child := own
    exact rests ⟨stored, found, .inl (Option.some_inj.mp state)⟩
  · refine Session.unqueued_step kept unqueued ?_
    rintro ⟨row, same, -⟩
    cases same

theorem unqueued_restart {session : Session} {table : JobTable} (kept : session.manager.Kept)
    (unqueued : session.manager.Unqueued child) (rests : ¬ table.Runnable child)
    (uuids : List String) :
    (uuids.foldl (readRow dbName table) session).manager.Unqueued child := by
  induction uuids generalizing session with
  | nil => exact unqueued
  | cons uuid uuids induction =>
      exact induction (kept_readRow kept uuid) (unqueued_readRow kept unqueued rests uuid)

/-- The server alone takes a step. -/
theorem Orderly.of_server (orderly : system.Orderly happened) {server : JobServer}
    {seen : LinkEvent → Prop}
    (step : server.Recalls seen ∧ ∀ child, server.Bound seen child →
      system.server.Bound happened child ∧ server.Rests child) {session : Session}
    {toEnqueue : List String} (kept : session.manager.Kept)
    (ignores : ∀ child, system.server.Rests child → system.Ignores child →
      child ∉ toEnqueue ∧ session.manager.Unqueued child) :
    Orderly seen ⟨server, session, toEnqueue⟩ where
  recalls := step.1
  kept := kept
  rests child bound := by
    obtain ⟨before, rests⟩ := step.2 child bound
    obtain ⟨rested, ignored⟩ := orderly.rests child before
    exact ⟨rests, ignores child rested ignored⟩

theorem Orderly.step (orderly : system.Orderly happened) (action : SystemAction) :
    Orderly (fun event => happened event ∨ event.SeenIn (step dbName system action).server.table)
      (step dbName system action) := by
  have rests := fun child bound => (orderly.rests child bound).1
  have idle : Orderly (fun event => happened event ∨ event.SeenIn system.server.table) system :=
    orderly.of_server (orderly.recalls.same rests rfl rfl rfl) orderly.kept fun _ _ => id
  cases action with
  | serve action =>
      rw [QueueSystem.step]
      split_ifs with runner
      · exact idle
      · refine orderly.of_server (orderly.recalls.step rests action ?_) orderly.kept fun _ _ => id
        rintro now uuid rfl
        exact absurd rfl runner
  | processNotification uuid =>
      rw [QueueSystem.step, processNotification]
      split_ifs
      · have unread := @JobServer.Recalls.same system.server
          (system.server.withTable (system.server.table.popNotification uuid)) happened
          orderly.recalls rests rfl rfl rfl
        refine orderly.of_server unread (kept_readRow orderly.kept uuid)
          fun child rest ignored => ⟨ignored.1, ?_⟩
        exact unqueued_readRow orderly.kept ignored.2 rest.1 uuid
      · exact idle
  | getJobsToRun now =>
      rw [QueueSystem.step, getJobsToRun]
      split_ifs
      · refine orderly.of_server (orderly.recalls.same rests rfl rfl rfl)
          (Session.kept_step orderly.kept _) fun child rest ignored => ⟨?_, ?_⟩
        · exact Session.not_mem_handsOut orderly.kept ignored.2 now
        · refine Session.unqueued_step orderly.kept ignored.2 ?_
          rintro ⟨row, same, -⟩
          cases same
      · exact idle
  | setJobEnqueued now =>
      rw [QueueSystem.step, setJobEnqueued]
      split
      · rename_i uuid uuids handed
        refine orderly.of_server (orderly.recalls.step rests _ ?_) orderly.kept
          fun child rest ignored => ⟨fun member => ignored.1 ?_, ignored.2⟩
        · rintro _ other same bound
          obtain ⟨-, rfl⟩ := ServerAction.setJobEnqueued.inj same
          exact (orderly.rests _ bound).2.1 (handed ▸ List.mem_cons_self)
        · rw [handed]
          exact List.mem_cons_of_mem _ member
      · exact idle
  | restart uuids =>
      have unread := @JobServer.Recalls.same system.server
        (system.server.withTable { system.server.table with notified := fun _ => 0 }) happened
        orderly.recalls rests rfl rfl rfl
      refine orderly.of_server unread
        (kept_restart (Session.kept_step orderly.kept _) _) fun child rest ignored =>
          ⟨List.not_mem_nil, ?_⟩
      refine unqueued_restart (Session.kept_step orderly.kept _) ?_ rest.1 _
      refine Session.unqueued_step orderly.kept ignored.2 ?_
      rintro ⟨row, same, -⟩
      cases same

theorem orderly_start (tree : ChannelTree) :
    Orderly (fun event => event.SeenIn (start tree).server.table) (start tree) where
  recalls := JobServer.recalls_start
  kept := Session.kept_start tree
  rests child _ := by
    refine ⟨⟨?_, fun request worker found => by cases found⟩, List.not_mem_nil, ?_⟩
    · rintro ⟨stored, found, -⟩
      cases found
    · intro place job _ queued
      exact List.not_mem_nil ((Session.kept_start tree).known place job (.inl queued))

/-- The job is pending, enqueued or started, or the runner is about to enqueue it, or a request
works on it. -/
def IsTakenUp (system : QueueSystem) (child : String) : Prop :=
  system.server.table.Runnable child ∨ child ∈ system.toEnqueue ∨
    ∃ request worker, system.server.worker request = some worker ∧ worker.job.uuid = child

/-- In every run, a job is taken up only when every job that it has ever depended on was done, or
gone, at some time since it was delayed. -/
theorem dependencies_first (dbName : String) (tree : ChannelTree) (actions : List SystemAction)
    (child parent : String)
    (takenUp : (runSteps (step dbName) (start tree) actions).IsTakenUp child)
    (listed : Ever (step dbName) (fun system => system.server.table.Lists child parent)
      (start tree) actions) :
    Ever (step dbName) (fun system => system.server.table.Releases child parent) (start tree)
      actions := by
  have orderly := @ever_induction _ _ (step dbName) (start tree) actions LinkEvent
    (fun event system => event.SeenIn system.server.table) Orderly (orderly_start tree)
    fun happened system action _ orderly => orderly.step action
  have free : ¬ (runSteps (step dbName) (start tree) actions).server.Bound
      (fun event => Ever (step dbName)
        (fun system => event.SeenIn system.server.table) (start tree) actions) child := by
    intro bound
    obtain ⟨⟨rests, unworked⟩, unhanded, -⟩ := orderly.rests child bound
    rcases takenUp with runs | handed | ⟨request, worker, found, same⟩
    · exact rests runs
    · exact unhanded handed
    · exact unworked request worker found same
  rw [JobServer.Bound, not_or, not_not] at free
  exact (free.2 parent listed).elim id fun releases => ⟨actions, List.prefix_rfl, releases⟩

/-- The first of two jobs is set done, and the second one is pending. -/
theorem dependencies_first_pair :
    let actions : List SystemAction :=
      [.serve (.delay pairGraph), .serve (.buttonDone 0 "user" "a")]
    (runSteps (step "db") (start Session.narrow) actions).server.table.Runnable "b" ∧
      Ever (step "db") (fun system => system.server.table.Releases "b" "a") (start Session.narrow)
        actions := by
  intro actions
  have runs : (runSteps (step "db") (start Session.narrow) actions).server.table.Runnable "b" := by
    obtain ⟨stored, found, state⟩ := JobServer.isIn_iff.mp (by decide +kernel :
      (runSteps (step "db") (start Session.narrow) actions).server.isIn "b" .pending = true)
    exact ⟨stored, found, .inl state⟩
  refine ⟨runs, dependencies_first _ _ actions "b" "a" (.inl runs) ?_⟩
  refine ⟨[.serve (.delay pairGraph)], ⟨[.serve (.buttonDone 0 "user" "a")], rfl⟩, ?_⟩
  have lists : ((runSteps (step "db") (start Session.narrow)
      [.serve (.delay pairGraph)]).server.table.row "b").any (fun stored =>
        decide ("a" ∈ stored.dependsOn)) = true := by decide +kernel
  rw [Option.any_eq_true] at lists
  obtain ⟨stored, found, member⟩ := lists
  exact ⟨stored, found, of_decide_eq_true member⟩

end QueueSystem

end OdooConnector.Queue
