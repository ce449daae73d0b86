import Mathlib.Algebra.Order.Archimedean.Basic
import Mathlib.Data.Rat.Floor
import Mathlib.Logic.Function.Basic
import OdooConnector.Queue.StoredJob

/-!
# The table of jobs

All parties write to one table, whose trigger notifies the runner of every row that is written. The
rows of `queue_job_lock` tell whether somebody performs a job.
-/

namespace OdooConnector.Queue

/-- The rows by their uuid, with the number of times each was written, the rows of `queue_job_lock`
with the request that has locked them, and the notifications that the runner has not read yet. -/
structure JobTable where
  row : String → Option StoredJob
  version : String → ℕ
  lockRow : String → Bool
  lockedBy : String → Option ℕ
  nextSeq : ℤ
  notified : String → ℕ

namespace JobTable

variable (table : JobTable) (now : ℚ) (uuid : String)

def empty : JobTable where
  row _ := none
  version _ := 0
  lockRow _ := false
  lockedBy _ := none
  nextSeq := 1
  notified _ := 0

/-- Write or delete rows. Who listens is notified of them, but not of done jobs that are deleted;
a lock row goes with its job. -/
def write (change : String → Option (Option StoredJob)) : JobTable :=
  { table with
    row := fun uuid => (change uuid).getD (table.row uuid)
    version := fun uuid => table.version uuid + (change uuid).isSome.toNat
    lockRow := fun uuid => table.lockRow uuid && change uuid ≠ some none
    notified := fun uuid =>
      table.notified uuid +
        match change uuid with
        | none => 0
        | some none => ((table.row uuid).any fun job => job.state ≠ .done).toNat
        | some (some _) => 1 }

/-- Update the rows that a condition selects. -/
def updateWhere (selects : String → StoredJob → Bool) (change : StoredJob → StoredJob) : JobTable :=
  table.write fun uuid =>
    ((table.row uuid).filter (selects uuid)).map fun job => some (change job)

def put (job : StoredJob) : JobTable :=
  table.write fun other => if other = uuid then some (some job) else none

/-! ### Jobs -/

def existing (uuids : List String) : List String :=
  uuids.filter fun uuid => (table.row uuid).isSome

/-- `load_many`. Jobs that are gone are left out. -/
def loadMany (uuids : List String) : List (String × JobState) :=
  uuids.filterMap fun uuid => (table.row uuid).map fun stored => (uuid, stored.state)

/-- `Job.load`. The name and the message of an exception are not loaded. -/
def load : Option Job :=
  (table.row uuid).map fun stored =>
    { uuid := uuid
      values := { stored with excName := none, excMessage := none }
      parents := []
      children := [] }

/-- `depends_on` and `reverse_depends_on`. The jobs are read once, but as long as there are none
they are read every time. -/
def read (job : Job) : Job :=
  { job with
    parents := if job.parents = [] then table.loadMany job.values.dependsOn else job.parents
    children :=
      if job.children = [] then table.existing job.values.reverseDependsOn else job.children }

/-- The row that `store` leaves. What a job has got when it was created is not written again. -/
def storedValues (job : Job) : StoredJob :=
  let values := { job.values with
    identityKey := job.values.identityKey.filter fun key => key ≠ ""
    dependsOn := (table.read job).parents.map Prod.fst
    reverseDependsOn := (table.read job).children
    result := job.values.result.filter fun result => result ≠ "" }
  match table.row job.uuid with
  | some stored =>
      { values with
        seq := stored.seq
        channel := stored.channel
        dateCreated := stored.dateCreated }
  | none => { values with seq := table.nextSeq }

/-- `Job.store` -/
def store (job : Job) : JobTable :=
  { table.put job.uuid (table.storedValues job) with
    nextSeq := if (table.row job.uuid).isSome then table.nextSeq else table.nextSeq + 1 }

/-- The jobs that `_get_common_dependent_jobs_query` updates. -/
def isDependent (parentState : JobState) (child : String) (job : StoredJob) : Bool :=
  (table.row uuid).any fun parent =>
    let siblings := (job.dependsOn.filterMap table.row).filter fun other =>
      other.graphUuid = parent.graphUuid
    parent.graphUuid.isSome && job.graphUuid = parent.graphUuid &&
      child ∈ parent.reverseDependsOn && !siblings.isEmpty &&
      (siblings.all fun other => other.state = parentState) && job.state = .waitDependencies

def enqueueWaiting : JobTable :=
  table.updateWhere (table.isDependent uuid .done) fun job => { job with state := .pending }

def cancelDependentJobs : JobTable :=
  table.updateWhere (table.isDependent uuid .cancelled) fun job => { job with state := .cancelled }

/-! ### Users -/

/-- `_change_job_state` to done, for one record -/
def changeToDone (result : Option String) : JobTable :=
  match table.load uuid with
  | some job => (table.store (job.setDone now result)).enqueueWaiting uuid
  | none => table

def changeToPending (result : Option String) : JobTable :=
  match table.load uuid with
  | some job => table.store ((table.read job).setPending result true)
  | none => table

def changeToCancelled (result : Option String) : JobTable :=
  match table.load uuid with
  | some job => (table.store (job.setCancelled now result)).cancelDependentJobs uuid
  | none => table

def buttonDone (user : String) (uuids : List String) : JobTable :=
  uuids.foldl (fun table uuid =>
    table.changeToDone now uuid (some ("Manually set to done by " ++ user))) table

def buttonCancelled (user : String) (uuids : List String) : JobTable :=
  uuids.foldl (fun table uuid =>
    table.changeToCancelled now uuid (some ("Cancelled by " ++ user))) table

def requeue (uuids : List String) : JobTable :=
  (uuids.filter fun uuid => (table.row uuid).any fun job => job.state ≠ .waitDependencies).foldl
    (fun table uuid => table.changeToPending uuid none) table

/-- A channel's name and how many days its jobs are kept. -/
structure VacuumedChannel where
  completeName : String
  removalInterval : ℤ

/-- The jobs that `autovacuum` deletes. -/
def isExpired (channels : List VacuumedChannel) (job : StoredJob) : Bool :=
  channels.any fun channel =>
    let deadline := now - channel.removalInterval * (24 * 60 * 60)
    ((job.dateDone.any fun date => date ≤ deadline) ||
      job.dateCancelled.any fun date => date ≤ deadline) && job.channel = channel.completeName

/-- A job that is locked is waited for. -/
def autovacuum (channels : List VacuumedChannel) : JobTable :=
  table.write fun uuid =>
    ((table.row uuid).filter fun job =>
      isExpired now channels job && (table.lockedBy uuid).isNone).map fun _ => none

/-! ### The runner -/

/-- `set_job_enqueued`, with the time in full seconds -/
def setJobEnqueued : JobTable :=
  table.updateWhere (fun other _ => other = uuid) fun job =>
    { job with state := .enqueued, dateEnqueued := some ⌊now⌋ }

/-- A job that was enqueued or started some time ago, and is not performed. -/
def isDead (job : StoredJob) : Bool :=
  (job.state = .enqueued || job.state = .started) &&
    (job.dateEnqueued.any fun date => date < now - 10) &&
    ((table.lockRow uuid && (table.lockedBy uuid).isNone) || !table.lockRow uuid)

def isExhausted (job : StoredJob) : Bool := job.maxRetries ≠ 0 && job.retry > job.maxRetries

def requeueDeadJobs : JobTable :=
  table.updateWhere (fun uuid job => table.isDead now uuid job) fun job =>
    { job with
      state := if isExhausted job then .failed else .pending
      retry := if job.state = .started then job.retry + 1 else job.retry
      excName := if isExhausted job then some "JobFoundDead" else job.excName
      excInfo :=
        if isExhausted job then some "Job found dead after too many retries" else job.excInfo }

/-! ### Locks -/

/-- `add_lock_record` -/
def addLockRecord : JobTable :=
  { table with
    lockRow := Function.update table.lockRow uuid
      (table.lockRow uuid || (table.row uuid).isSome) }

def setLocked (request : Option ℕ) : JobTable :=
  { table with lockedBy := Function.update table.lockedBy uuid request }

/-- The row of a job is in a state. -/
def InState (state : JobState) : Prop :=
  ∃ stored, table.row uuid = some stored ∧ stored.state = state

/-! ### What is written -/

section

variable {table : JobTable} {uuid other : String} {job : Job} {now : ℚ}
  {change : String → Option (Option StoredJob)}

@[simp]
theorem row_write : (table.write change).row uuid = (change uuid).getD (table.row uuid) := rfl

@[simp]
theorem version_write :
    (table.write change).version uuid = table.version uuid + (change uuid).isSome.toNat := rfl

@[simp]
theorem lockedBy_write : (table.write change).lockedBy = table.lockedBy := rfl

@[simp]
theorem nextSeq_write : (table.write change).nextSeq = table.nextSeq := rfl

theorem row_put (job : StoredJob) :
    (table.put uuid job).row other = if other = uuid then some job else table.row other := by
  rw [put, row_write]
  split
  · rfl
  · rfl

theorem row_updateWhere (selects : String → StoredJob → Bool) (change : StoredJob → StoredJob) :
    (table.updateWhere selects change).row uuid =
      (table.row uuid).map fun job => if selects uuid job then change job else job := by
  rw [updateWhere, row_write]
  cases table.row uuid with
  | none => rfl
  | some job => cases selected : selects uuid job <;> simp [Option.filter, selected]

theorem row_store : (table.store job).row other =
    if other = job.uuid then some (table.storedValues job) else table.row other := row_put _

theorem version_store_of_ne (ne : other ≠ job.uuid) :
    (table.store job).version other = table.version other := by
  change table.version other + Bool.toNat (Option.isSome (if other = job.uuid then _ else _)) = _
  rw [if_neg ne]
  rfl

theorem version_store_self : (table.store job).version job.uuid ≠ 0 := by
  change table.version job.uuid +
    Bool.toNat (Option.isSome (if job.uuid = job.uuid then _ else _)) ≠ 0
  rw [if_pos rfl]
  exact Nat.succ_ne_zero _

@[simp]
theorem state_storedValues : (table.storedValues job).state = job.values.state := by
  rw [storedValues]
  cases table.row job.uuid <;> rfl

@[simp]
theorem graphUuid_storedValues : (table.storedValues job).graphUuid = job.values.graphUuid := by
  rw [storedValues]
  cases table.row job.uuid <;> rfl

@[simp]
theorem dependsOn_storedValues :
    (table.storedValues job).dependsOn = (table.read job).parents.map Prod.fst := by
  rw [storedValues]
  cases table.row job.uuid <;> rfl

@[simp]
theorem reverseDependsOn_storedValues :
    (table.storedValues job).reverseDependsOn = (table.read job).children := by
  rw [storedValues]
  cases table.row job.uuid <;> rfl

theorem inState_store {state : JobState} : (table.store job).InState other state ↔
    if other = job.uuid then job.values.state = state else table.InState other state := by
  rw [InState, row_store]
  split_ifs
  · constructor
    · rintro ⟨stored, same, rfl⟩
      rw [← Option.some_inj.mp same, state_storedValues]
    · intro same
      exact ⟨_, rfl, state_storedValues.trans same⟩
  · exact Iff.rfl

/-- Rows that come into another state are not in this one. -/
theorem inState_updateWhere {state : JobState} {selects : String → StoredJob → Bool}
    {change : StoredJob → StoredJob}
    (away : ∀ stored, selects uuid stored → (change stored).state ≠ state)
    (after : (table.updateWhere selects change).InState uuid state) :
    ∃ stored, table.row uuid = some stored ∧ stored.state = state ∧
      selects uuid stored = false := by
  obtain ⟨stored, found, same⟩ := after
  rw [row_updateWhere, Option.map_eq_some_iff] at found
  obtain ⟨before, found, rfl⟩ := found
  split_ifs at same with selected
  · exact absurd same (away before selected)
  · exact ⟨before, found, same, Bool.eq_false_iff.mpr selected⟩

/-- A row that is not deleted stays as it was. -/
theorem row_of_autovacuum {channels : List VacuumedChannel} {stored : StoredJob}
    (found : (table.autovacuum now channels).row uuid = some stored) :
    table.row uuid = some stored := by
  rw [autovacuum, row_write] at found
  cases deleted : (table.row uuid).filter fun job =>
      isExpired now channels job && (table.lockedBy uuid).isNone with
  | none =>
      rw [deleted] at found
      exact found
  | some stored => simp [deleted] at found

theorem load_eq_some_iff : table.load uuid = some job ↔
    ∃ stored, table.row uuid = some stored ∧
      job = { uuid := uuid
              values := { stored with excName := none, excMessage := none }
              parents := []
              children := [] } := by
  rw [load, Option.map_eq_some_iff]
  exact exists_congr fun stored => and_congr_right fun _ => eq_comm

theorem uuid_load (loaded : table.load uuid = some job) : job.uuid = uuid := by
  obtain ⟨stored, -, rfl⟩ := load_eq_some_iff.mp loaded
  rfl

theorem mem_existing {uuids : List String} :
    uuid ∈ table.existing uuids ↔ uuid ∈ uuids ∧ (table.row uuid).isSome := List.mem_filter

theorem mem_loadMany {uuids : List String} {state : JobState} :
    (uuid, state) ∈ table.loadMany uuids ↔
      uuid ∈ uuids ∧ ∃ stored, table.row uuid = some stored ∧ stored.state = state := by
  rw [loadMany, List.mem_filterMap]
  constructor
  · rintro ⟨other, listed, same⟩
    obtain ⟨stored, found, equal⟩ := Option.map_eq_some_iff.mp same
    obtain ⟨rfl, rfl⟩ := Prod.mk.inj equal
    exact ⟨listed, stored, found, rfl⟩
  · rintro ⟨listed, stored, found, rfl⟩
    exact ⟨uuid, listed, by rw [found]; rfl⟩

theorem map_fst_loadMany (uuids : List String) :
    (table.loadMany uuids).map Prod.fst = table.existing uuids := by
  induction uuids with
  | nil => rfl
  | cons uuid uuids induction =>
      rw [loadMany, existing, List.filterMap_cons, List.filter_cons]
      cases table.row uuid with
      | none => exact induction
      | some stored => exact congrArg (uuid :: ·) induction

theorem parents_read :
    (table.read job).parents =
      if job.parents = [] then table.loadMany job.values.dependsOn else job.parents := rfl

/-- What has been read is not read differently at once. -/
theorem parents_read_read : (table.read (table.read job)).parents = (table.read job).parents := by
  rw [@parents_read table (table.read job)]
  split_ifs with none
  · rw [none]
    rw [parents_read] at none
    split_ifs at none with unread
    · exact none
    · exact absurd none unread
  · rfl

theorem children_read :
    (table.read job).children =
      if job.children = [] then table.existing job.values.reverseDependsOn else job.children := rfl

/-! ### Later tables -/

/-- A row that changes gets another version. -/
def Later (before after : JobTable) : Prop :=
  ∀ uuid, (after.row uuid = before.row uuid ∧ after.version uuid = before.version uuid) ∨
    before.version uuid < after.version uuid

variable {before middle after : JobTable}

theorem Later.refl (table : JobTable) : Later table table := fun _ => .inl ⟨rfl, rfl⟩

theorem Later.trans (front : Later before middle) (back : Later middle after) :
    Later before after := by
  intro uuid
  rcases front uuid with ⟨row, version⟩ | front
  · rcases back uuid with ⟨row', version'⟩ | back
    · exact .inl ⟨row'.trans row, version'.trans version⟩
    · exact .inr (version ▸ back)
  · rcases back uuid with ⟨-, version'⟩ | back
    · exact .inr (version' ▸ front)
    · exact .inr (front.trans back)

theorem Later.le (later : Later before after) (uuid : String) :
    before.version uuid ≤ after.version uuid := by
  rcases later uuid with ⟨-, version⟩ | less
  · exact version.ge
  · exact less.le

/-- What was stored once was stored. -/
theorem Later.known (later : Later before after) (known : before.version uuid ≠ 0) :
    after.version uuid ≠ 0 := fun none =>
  known (Nat.le_zero.mp ((later.le uuid).trans none.le))

theorem Later.stored (later : Later before after)
    (stored : ∀ uuid, (before.row uuid).isSome → before.version uuid ≠ 0) (uuid : String)
    (found : (after.row uuid).isSome) : after.version uuid ≠ 0 := by
  rcases later uuid with ⟨row, version⟩ | less
  · rw [version]
    exact stored uuid (row ▸ found)
  · exact Nat.ne_zero_of_lt less

theorem later_write : Later table (table.write change) := by
  intro uuid
  rw [row_write, version_write]
  cases change uuid with
  | none => exact .inl ⟨rfl, rfl⟩
  | some row => exact .inr (Nat.lt_succ_self _)

theorem later_updateWhere (selects : String → StoredJob → Bool) (change : StoredJob → StoredJob) :
    Later table (table.updateWhere selects change) := later_write

theorem later_store (job : Job) : Later table (table.store job) :=
  @later_write table fun other =>
    if other = job.uuid then some (some (table.storedValues job)) else none

end

end JobTable

end OdooConnector.Queue
