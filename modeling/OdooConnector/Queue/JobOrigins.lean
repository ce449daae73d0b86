import OdooConnector.Queue.JobLinks
import OdooConnector.Queue.LockedJobs

/-!
# The origins of jobs

A job keeps its channel and the date of its creation: `store` does not write them again, and a row
that was deleted under its request is stored with those that were loaded.
-/

namespace OdooConnector.Queue

namespace JobTable

variable (table : JobTable) (originOf : String → JobOrigin)

/-- Every row has the origin of its job. -/
def HasOrigins : Prop :=
  ∀ uuid stored, table.row uuid = some stored → stored.origin = originOf uuid

variable {table originOf} {job : Job} {uuid : String} {now : ℚ}

theorem origin_storedValues : (table.storedValues job).origin =
    ((table.row job.uuid).map StoredJob.origin).getD job.values.origin := by
  rw [storedValues]
  cases table.row job.uuid <;> rfl

theorem HasOrigins.store (rows : table.HasOrigins originOf)
    (own : job.values.origin = originOf job.uuid) : (table.store job).HasOrigins originOf := by
  intro uuid stored found
  rw [row_store] at found
  split_ifs at found with same
  · obtain rfl := Option.some_inj.mp found
    rw [origin_storedValues, same]
    cases before : table.row job.uuid with
    | none => exact own
    | some stored => exact rows job.uuid stored before
  · exact rows uuid stored found

theorem HasOrigins.updateWhere (rows : table.HasOrigins originOf)
    (selects : String → StoredJob → Bool) {change : StoredJob → StoredJob}
    (keeps : ∀ stored, (change stored).origin = stored.origin) :
    (table.updateWhere selects change).HasOrigins originOf := by
  intro uuid stored found
  rw [row_updateWhere, Option.map_eq_some_iff] at found
  obtain ⟨before, found, rfl⟩ := found
  split_ifs
  · exact (keeps before).trans (rows uuid before found)
  · exact rows uuid before found

theorem HasOrigins.load (rows : table.HasOrigins originOf) (loaded : table.load uuid = some job) :
    job.values.origin = originOf job.uuid := by
  obtain ⟨stored, found, rfl⟩ := load_eq_some_iff.mp loaded
  exact rows uuid stored found

theorem HasOrigins.changeToDone (rows : table.HasOrigins originOf) (result : Option String) :
    (table.changeToDone now uuid result).HasOrigins originOf := by
  rw [JobTable.changeToDone]
  split
  · rename_i job loaded
    have own : job.values.origin = originOf job.uuid := rows.load loaded
    have stored : (table.store (job.setDone now result)).HasOrigins originOf := rows.store own
    exact stored.updateWhere _ fun _ => rfl
  · exact rows

theorem HasOrigins.changeToCancelled (rows : table.HasOrigins originOf) (result : Option String) :
    (table.changeToCancelled now uuid result).HasOrigins originOf := by
  rw [JobTable.changeToCancelled]
  split
  · rename_i job loaded
    have own : job.values.origin = originOf job.uuid := rows.load loaded
    have stored : (table.store (job.setCancelled now result)).HasOrigins originOf := rows.store own
    exact stored.updateWhere _ fun _ => rfl
  · exact rows

theorem HasOrigins.changeToPending (rows : table.HasOrigins originOf) (result : Option String) :
    (table.changeToPending uuid result).HasOrigins originOf := by
  rw [JobTable.changeToPending]
  split
  · rename_i job loaded
    have own : job.values.origin = originOf job.uuid := rows.load loaded
    exact rows.store own
  · exact rows

end JobTable

namespace JobServer

open JobTable

/-- Rows and the jobs of requests were stored, and have the origins of their jobs. -/
structure HasOrigins (server : JobServer) (originOf : String → JobOrigin) : Prop where
  rows : server.table.HasOrigins originOf
  stored : ∀ uuid, (server.table.row uuid).isSome → server.table.version uuid ≠ 0
  workers : ∀ request worker, server.worker request = some worker →
    server.table.version worker.job.uuid ≠ 0 ∧
      worker.job.values.origin = originOf worker.job.uuid

variable {server after : JobServer} {originOf other : String → JobOrigin} {action : ServerAction}

theorem hasOrigins_start (originOf : String → JobOrigin) : start.HasOrigins originOf where
  rows uuid stored found := by cases found
  stored uuid found := by cases found
  workers request worker found := by cases found

theorem HasOrigins.congr (hasOrigins : server.HasOrigins originOf)
    (same : ∀ uuid, server.table.version uuid ≠ 0 → other uuid = originOf uuid) :
    server.HasOrigins other where
  rows uuid stored found := by
    rw [same uuid (hasOrigins.stored uuid (found ▸ rfl))]
    exact hasOrigins.rows uuid stored found
  stored := hasOrigins.stored
  workers request worker found := by
    obtain ⟨known, origin⟩ := hasOrigins.workers request worker found
    exact ⟨known, origin.trans (same _ known).symm⟩

/-- The rows after any step but the delay of a graph. -/
theorem HasOrigins.rows_step (hasOrigins : server.HasOrigins originOf)
    (moves : server.Moves action after) (old : ∀ graph, action ≠ .delay graph) :
    after.table.HasOrigins originOf := by
  have rows := hasOrigins.rows
  have works {request : ℕ} {worker : Worker} {job : Job}
      (found : server.worker request = some worker) (same : job.links = worker.job.links) :
      job.values.origin = originOf job.uuid := by
    have origin : job.values.origin = worker.job.values.origin :=
      congrArg Job.Links.origin same
    rw [origin, Job.uuid_eq_of_links same]
    exact (hasOrigins.workers request worker found).2
  have postponed {request : ℕ} {worker : Worker} {job : Job} (result : Option String)
      (resetRetry : Bool) (found : server.worker request = some worker)
      (same : job.links = worker.job.links) :
      (server.table.store ((server.table.read job).setPending result resetRetry)).HasOrigins
        originOf := by
    have own : job.values.origin = originOf job.uuid := works found same
    exact rows.store own
  cases moves with
  | idle => exact rows
  | delay new => exact absurd rfl (old _)
  | setJobEnqueued => exact rows.updateWhere _ fun _ => rfl
  | requeueDeadJobs => exact rows.updateWhere _ fun _ => rfl
  | @begin request uuid now stored job free found enqueued loaded =>
      have own : job.values.origin = originOf job.uuid := rows.load loaded
      have own' : (server.table.read (job.setStarted now)).values.origin = originOf job.uuid := own
      exact rows.store own'
  | wait worker started => exact rows
  | giveUp own found early => exact postponed none false found (Job.links_postpone _ _ _ _ _ _)
  | lock worker free => exact rows
  | @commit request outcome around loaded job version result worker same fresh =>
      have own : (job.setDone around.now result).values.origin = originOf job.uuid :=
        works worker same
      exact rows.store own
  | abandon worker => exact rows
  | postpone worker same =>
      exact postponed none false worker ((Job.links_postpone _ _ _ _ _ _).trans same)
  | fail worker same same' state => exact rows.store (works worker same')
  | close worker => exact rows
  | release worker => exact rows.updateWhere _ fun _ => rfl
  | crash found =>
      split_ifs
      · exact rows
      · exact rows
  | changeToDone => exact rows.changeToDone _
  | changeToCancelled => exact rows.changeToCancelled _
  | changeToPending moves => exact rows.changeToPending _
  | autovacuum => exact fun uuid stored found => rows uuid stored (row_of_autovacuum found)

theorem HasOrigins.of_rows (hasOrigins : server.HasOrigins originOf)
    (moves : server.Moves action after) (rows : after.table.HasOrigins originOf) :
    after.HasOrigins originOf where
  rows := rows
  stored := moves.later.stored hasOrigins.stored
  workers request worker found := by
    have still {uuid : String} (known : server.table.version uuid ≠ 0) :
        after.table.version uuid ≠ 0 := moves.later.known known
    rcases moves.worker_cases found with
      ⟨old, before, same⟩ | ⟨uuid, stored, job, row, -, loaded, same⟩
    · obtain ⟨known, origin⟩ := hasOrigins.workers request old before
      have same' : worker.job.values.origin = old.job.values.origin :=
        congrArg Job.Links.origin same
      rw [same', Job.uuid_eq_of_links same]
      exact ⟨still known, origin⟩
    · have own : job.uuid = uuid := uuid_load loaded
      have uuid' : worker.job.uuid = job.uuid := congrArg Job.Links.uuid same
      have same' : worker.job.values.origin = job.values.origin :=
        congrArg Job.Links.origin same
      rw [same', uuid']
      exact ⟨still (own ▸ hasOrigins.stored uuid (row ▸ rfl)), hasOrigins.rows.load loaded⟩

/-- Jobs that were stored keep their origins; new ones get theirs. -/
theorem HasOrigins.step (hasOrigins : server.HasOrigins originOf) (action : ServerAction) :
    ∃ next, (∀ uuid, server.table.version uuid ≠ 0 → next uuid = originOf uuid) ∧
      (server.step action).HasOrigins next := by
  have moves := server.moves_step action
  generalize server.step action = after at moves
  by_cases delays : ∃ graph, action = .delay graph
  · obtain ⟨graph, rfl⟩ := delays
    let next (uuid : String) : JobOrigin :=
      if server.table.version uuid ≠ 0 then originOf uuid
      else ((after.table.row uuid).map StoredJob.origin).getD ⟨"", 0⟩
    have same (uuid : String) (known : server.table.version uuid ≠ 0) :
        next uuid = originOf uuid := if_pos known
    refine ⟨next, same, (hasOrigins.congr same).of_rows moves fun uuid stored found => ?_⟩
    cases moves with
    | idle => exact (hasOrigins.congr same).rows uuid stored found
    | giveUp own _ early => rcases own with same | same <;> cases same
    | delay new =>
        have grows := @grows_foldl_store server.table graph fun job member =>
          of_decide_eq_true (List.all_eq_true.mp new job member)
        by_cases known : server.table.version uuid ≠ 0
        · refine (hasOrigins.congr same).rows uuid stored ?_
          rw [← (grows.old uuid (grows.not_new known)).1]
          exact found
        · exact ((if_neg known).trans (by rw [found]; rfl)).symm
  · exact ⟨originOf, fun _ _ => rfl, hasOrigins.of_rows moves
      (hasOrigins.rows_step moves fun graph same => delays ⟨graph, same⟩)⟩

end JobServer

end OdooConnector.Queue
