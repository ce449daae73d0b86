import OdooConnector.Queue.ChannelCapacity
import OdooConnector.Queue.QueueOrder

/-!
# Orderly channels

In every run the heaps of all channels are sorted, jobs wait for their eta in their own channels
only, and no channels pause but those that are throttled.
-/

namespace OdooConnector.Queue

namespace ChannelQueue

variable {queue middle after : ChannelQueue} {jobs : JobObjects} {job other nextJob : ℕ}
  {path place : ChannelPath} {now : ℚ} {sequential : Bool}

/-- No job enters the heaps, and none the heap of the etas from the other one. -/
structure Shrinks (queue after : ChannelQueue) : Prop where
  eta : ∀ job ∈ after.etaQueue.heap, job ∈ queue.etaQueue.heap
  plain : ∀ job ∈ after.queue.heap, job ∈ queue.queue.heap ∨ job ∈ queue.etaQueue.heap

theorem Shrinks.refl (queue : ChannelQueue) : Shrinks queue queue :=
  ⟨fun _ => id, fun _ => Or.inl⟩

theorem Shrinks.trans (front : Shrinks queue middle) (back : Shrinks middle after) :
    Shrinks queue after := by
  refine ⟨fun job listed => front.eta job (back.eta job listed), fun job listed => ?_⟩
  rcases back.plain job listed with plain | eta
  · exact front.plain job plain
  · exact Or.inr (front.eta job eta)

theorem moveDue_shrinks (fuel : ℕ) : Shrinks queue (moveDue now fuel jobs queue).2 := by
  induction fuel generalizing jobs queue with
  | zero => exact Shrinks.refl queue
  | succ fuel induction =>
      rw [moveDue]
      split
      · exact Shrinks.refl queue
      · have cleared : Shrinks queue
            { queue with etaQueue := (queue.etaQueue.first (key jobs)).2 } :=
          ⟨fun _ listed => PriorityQueue.mem_heap_of_mem_firstWithin listed, fun _ => Or.inl⟩
        dsimp only
        split
        · have popped (job : ℕ)
              (listed : job ∈ ((queue.etaQueue.first (key jobs)).2.pop (key jobs)).2.heap) :
              job ∈ queue.etaQueue.heap :=
            cleared.eta job (PriorityQueue.mem_heap_of_mem_popWithin listed).1
          split
          · exact ⟨popped, fun _ => Or.inl⟩
          · rename_i job found
            have pop := (queue.etaQueue.first (key jobs)).2.pop_isPop (key jobs)
            have top := cleared.eta job (PriorityQueue.mem_heap (pop.some job found).1)
            have moved : Shrinks queue ⟨queue.queue.add job,
                ((queue.etaQueue.first (key jobs)).2.pop (key jobs)).2⟩ := by
              refine ⟨popped, fun other listed => ?_⟩
              rcases PriorityQueue.mem_heap_of_mem_add listed with rfl | before
              · exact Or.inr top
              · exact Or.inl before
            exact moved.trans induction
        · exact cleared

theorem popQueue_shrinks : Shrinks queue (queue.popQueue jobs).2.2 :=
  ⟨fun _ => id, fun _ listed => Or.inl (PriorityQueue.mem_heap_of_mem_popWithin listed).1⟩

theorem pop_shrinks : Shrinks queue (queue.pop jobs sequential now).2.2 := by
  rw [pop]
  have moves : Shrinks queue (moveDue now queue.etaQueue.heap.length jobs queue).2 :=
    moveDue_shrinks _
  refine moves.trans ?_
  generalize moveDue now queue.etaQueue.heap.length jobs queue = moved
  obtain ⟨jobs, queue⟩ := moved
  dsimp only
  split
  · have cleared : Shrinks queue
        ⟨(queue.queue.first (key jobs)).2, (queue.etaQueue.first (key jobs)).2⟩ :=
      ⟨fun _ listed => PriorityQueue.mem_heap_of_mem_firstWithin listed,
        fun _ listed => Or.inl (PriorityQueue.mem_heap_of_mem_firstWithin listed)⟩
    split
    · exact cleared
    · exact cleared.trans popQueue_shrinks
  · exact popQueue_shrinks

/-- What the heaps of a channel hold: jobs that exist, sorted, those with an eta being of the
channel itself. -/
structure Tidy (jobs : JobObjects) (nextJob : ℕ) (path : ChannelPath) (queue : ChannelQueue) :
    Prop where
  sorted : Sorted jobs queue
  own : ∀ job ∈ queue.etaQueue.heap, (jobs job).channel = path
  eta_lt : ∀ job ∈ queue.etaQueue.heap, job < nextJob
  plain_lt : ∀ job ∈ queue.queue.heap, job < nextJob

theorem tidy_empty : Tidy jobs nextJob path ChannelQueue.empty :=
  ⟨sorted_empty, fun _ listed => absurd listed List.not_mem_nil,
    fun _ listed => absurd listed List.not_mem_nil, fun _ listed => absurd listed List.not_mem_nil⟩

namespace Tidy

theorem remove (tidy : Tidy jobs nextJob path queue) (job : ℕ) :
    Tidy jobs nextJob path (queue.remove job) := by
  refine ⟨tidy.sorted.remove job, fun other listed => tidy.own other ?_,
    fun other listed => tidy.eta_lt other ?_, fun other listed => tidy.plain_lt other ?_⟩
  all_goals rwa [ChannelQueue.remove, PriorityQueue.heap_remove] at listed

/-- A job with an eta is added to its own channel only. -/
theorem add (tidy : Tidy jobs nextJob path queue) (older : job < nextJob)
    (own : (jobs job).hasEta = true → (jobs job).channel = path) :
    Tidy jobs nextJob path (queue.add jobs job) := by
  have sorted := tidy.sorted.add job
  rw [ChannelQueue.add] at sorted ⊢
  cases eta : (jobs job).hasEta with
  | true =>
      rw [eta, if_pos rfl] at sorted
      refine ⟨sorted, fun other listed => ?_, fun other listed => ?_, tidy.plain_lt⟩
      · rcases PriorityQueue.mem_heap_of_mem_add listed with rfl | before
        · exact own eta
        · exact tidy.own other before
      · rcases PriorityQueue.mem_heap_of_mem_add listed with rfl | before
        · exact older
        · exact tidy.eta_lt other before
  | false =>
      rw [eta, if_neg Bool.false_ne_true] at sorted
      refine ⟨sorted, tidy.own, tidy.eta_lt, fun other listed => ?_⟩
      rcases PriorityQueue.mem_heap_of_mem_add listed with rfl | before
      · exact older
      · exact tidy.plain_lt other before

/-- New job objects do not matter. -/
theorem extend {jobs' : JobObjects} (tidy : Tidy jobs nextJob path queue)
    (same : ∀ job < nextJob, jobs' job = jobs job) : Tidy jobs' (nextJob + 1) path queue := by
  refine ⟨⟨fun job listed => ?_, fun job listed => ?_⟩, fun job listed => ?_,
    fun job listed => Nat.lt_succ_of_lt (tidy.eta_lt job listed),
    fun job listed => Nat.lt_succ_of_lt (tidy.plain_lt job listed)⟩
  · rw [same job (tidy.eta_lt job listed)]
    exact tidy.sorted.eta job listed
  · rw [same job (tidy.plain_lt job listed)]
    exact tidy.sorted.plain job listed
  · rw [same job (tidy.eta_lt job listed)]
    exact tidy.own job listed

theorem pop (tidy : Tidy jobs nextJob path queue) :
    Tidy (queue.pop jobs sequential now).2.1 nextJob path (queue.pop jobs sequential now).2.2 := by
  obtain ⟨pops, -⟩ := @pop_pops queue jobs now tidy.sorted sequential
  have shrinks : Shrinks queue (queue.pop jobs sequential now).2.2 := pop_shrinks
  refine ⟨pops.sorted, fun job listed => ?_,
    fun job listed => tidy.eta_lt job (shrinks.eta job listed), fun job listed => ?_⟩
  · rw [((pop_popped sequential).sameJob job).channel]
    exact tidy.own job (shrinks.eta job listed)
  · rcases shrinks.plain job listed with plain | eta
    · exact tidy.plain_lt job plain
    · exact tidy.eta_lt job eta

/-- The jobs that lose their etas in one channel are not in the eta heaps of others. -/
theorem pop_elsewhere (tidy : Tidy jobs nextJob path queue) {queue' : ChannelQueue}
    (tidy' : Tidy jobs nextJob place queue') (apart : place ≠ path) :
    Tidy (queue.pop jobs sequential now).2.1 nextJob place queue' := by
  obtain ⟨pops, -⟩ := @pop_pops queue jobs now tidy.sorted sequential
  have same (job : ℕ) (listed : job ∈ queue'.etaQueue.heap) :
      (queue.pop jobs sequential now).2.1 job = jobs job := by
    rcases pops.changed job with kept | ⟨-, member, -⟩
    · exact kept
    · have own := tidy.own job (PriorityQueue.mem_heap member)
      exact absurd ((tidy'.own job listed).symm.trans own) apart
  refine ⟨⟨fun job listed => ?_, fun job listed => ?_⟩, fun job listed => ?_, tidy'.eta_lt,
    tidy'.plain_lt⟩
  · rw [same job listed]
    exact tidy'.sorted.eta job listed
  · rcases pops.changed job with kept | ⟨lost, -⟩
    · rw [kept]
      exact tidy'.sorted.plain job listed
    · rw [lost]
      rfl
  · rw [same job listed]
    exact tidy'.own job listed

end Tidy

end ChannelQueue

namespace ChannelManager

variable {tree : ChannelTree} {manager before after : ChannelManager} {job : ℕ}
  {path place : ChannelPath} {uuid : String} {now : ℚ} {row : Notification}

/-- What holds of all channels of a configuration. -/
structure Orderly (tree : ChannelTree) (manager : ChannelManager) : Prop where
  tidy : ∀ path, ChannelQueue.Tidy manager.job manager.nextJob path (manager.channel path).queue
  throttle : ∀ path, (manager.channel path).throttle ≠ 0 →
    path ∈ tree.paths ∧ (manager.channel path).throttle = tree.throttle path
  pause : ∀ path, (manager.channel path).pauseUntil ≠ 0 → (manager.channel path).throttle ≠ 0

namespace Orderly

theorem modify {change : Channel → Channel} (orderly : Orderly tree manager)
    (tidy : ChannelQueue.Tidy manager.job manager.nextJob path
      (change (manager.channel path)).queue)
    (throttle : (change (manager.channel path)).throttle = (manager.channel path).throttle)
    (pause : (change (manager.channel path)).pauseUntil ≠ 0 →
      (manager.channel path).throttle ≠ 0) : Orderly tree (manager.modify path change) := by
  refine ⟨fun place => ?_, fun place => ?_, fun place => ?_⟩
  · rw [channel_modify]
    split
    · rename_i same
      exact same ▸ tidy
    · exact orderly.tidy place
  · rw [channel_modify]
    split
    · rename_i same
      rw [same, throttle]
      exact orderly.throttle path
    · exact orderly.throttle place
  · rw [channel_modify]
    split
    · rename_i same
      rw [throttle]
      exact pause
    · exact orderly.pause place

section Transitions

theorem remove (orderly : Orderly tree manager) :
    Orderly tree (ChannelManager.remove job path manager) := by
  induction path generalizing manager with
  | nil => exact orderly.modify ((orderly.tidy []).remove job) rfl (orderly.pause [])
  | cons name parent induction =>
      exact induction (orderly.modify ((orderly.tidy _).remove job) rfl (orderly.pause _))

theorem removeAbove (orderly : Orderly tree manager) :
    Orderly tree (ChannelManager.removeAbove job path manager) := by
  cases path with
  | nil => exact orderly
  | cons name parent => exact orderly.remove

theorem setPending (orderly : Orderly tree manager) (older : job < manager.nextJob) :
    Orderly tree (manager.setPending job (manager.job job).channel) := by
  rw [ChannelManager.setPending]
  split
  · exact orderly
  · exact (orderly.modify ((orderly.tidy _).add older fun _ => rfl) rfl
      (orderly.pause _)).removeAbove

theorem setRunning (orderly : Orderly tree manager) :
    Orderly tree (ChannelManager.setRunning job path manager) := by
  have runs (path : ChannelPath) {manager : ChannelManager} (orderly : Orderly tree manager) :
      Orderly tree (manager.modify path fun channel =>
        { channel with
          queue := channel.queue.remove job
          running := insert job channel.running
          failed := channel.failed.erase job }) :=
    orderly.modify ((orderly.tidy path).remove job) rfl (orderly.pause path)
  induction path generalizing manager with
  | nil =>
      rw [ChannelManager.setRunning]
      split
      · exact orderly
      · exact runs [] orderly
  | cons name parent induction =>
      rw [ChannelManager.setRunning]
      split
      · exact orderly
      · exact induction (runs _ orderly)

theorem setFailed (orderly : Orderly tree manager) :
    Orderly tree (manager.setFailed job path) := by
  rw [ChannelManager.setFailed]
  split
  · exact orderly
  · exact (orderly.modify ((orderly.tidy path).remove job) rfl (orderly.pause path)).removeAbove

theorem transition (orderly : Orderly tree manager) (older : job < manager.nextJob)
    (state : Option JobState) : Orderly tree (manager.transition job state) := by
  cases state with
  | none => exact orderly.remove
  | some state =>
      cases state with
      | pending => exact orderly.setPending older
      | enqueued => exact orderly.setRunning
      | started => exact orderly.setRunning
      | failed => exact orderly.setFailed
      | done => exact orderly.remove
      | cancelled => exact orderly.remove
      | waitDependencies => exact orderly

end Transitions

section Notifications

/-- A channel that is opened has no settings. -/
theorem opens (orderly : Orderly tree before) (opens : Opens before after) :
    Orderly tree after := by
  refine ⟨fun path => ?_, fun path => ?_, fun path => ?_⟩
  · rw [opens.job, opens.nextJob]
    rcases opens.channel path with same | opened
    · rw [same]
      exact orderly.tidy path
    · rw [opened.2]
      exact ChannelQueue.tidy_empty
  · rcases opens.channel path with same | opened
    · rw [same]
      exact orderly.throttle path
    · rw [opened.2]
      exact fun throttled => absurd rfl throttled
  · rcases opens.channel path with same | opened
    · rw [same]
      exact orderly.pause path
    · rw [opened.2]
      exact fun paused => absurd rfl paused

theorem create (orderly : Orderly tree manager) : Orderly tree (manager.create path row) := by
  have new : Orderly tree (manager.newJob path row) :=
    ⟨fun place => (orderly.tidy place).extend fun job older =>
      Function.update_of_ne (Nat.ne_of_lt older) _ _, orderly.throttle, orderly.pause⟩
  exact new.transition (Nat.lt_succ_self manager.nextJob) row.state

theorem dropJob (orderly : Orderly tree manager) : Orderly tree (manager.dropJob job) :=
  have removed : Orderly tree (ChannelManager.remove job (manager.job job).channel manager) :=
    orderly.remove
  ⟨removed.tidy, removed.throttle, removed.pause⟩

theorem updateJob (orderly : Orderly tree manager) (kept : Kept manager) :
    Orderly tree (ChannelManager.updateJob path row manager) := by
  rw [ChannelManager.updateJob]
  split
  · exact orderly.create
  · rename_i job found
    split
    · exact orderly
    · split
      · rw [removeJob_eq found]
        exact orderly.dropJob.create
      · exact orderly.transition (kept.fresh job (jobOf_eq_some found).1) row.state

theorem notify (orderly : Orderly tree manager) (kept : Kept manager) :
    Orderly tree (manager.notify row) := by
  obtain ⟨opened, -⟩ := getChannelByName_opens kept.root row.channelName
  rw [notify_eq]
  exact (orderly.opens opened).updateJob (kept.opens opened)

theorem removeJob (orderly : Orderly tree manager) : Orderly tree (manager.removeJob uuid) := by
  cases found : manager.jobOf uuid with
  | none =>
      rw [ChannelManager.removeJob, found]
      exact orderly
  | some job =>
      rw [removeJob_eq found]
      exact orderly.dropJob

theorem removeDb (orderly : Orderly tree manager) (dbName : String) :
    Orderly tree (manager.removeDb dbName) := by
  rw [removeDb_eq]
  exact foldl_preserves _ (Orderly tree) _ orderly fun _ _ => dropJob

theorem collect (orderly : Orderly tree manager) : Orderly tree manager.collect :=
  ⟨orderly.tidy, orderly.throttle, orderly.pause⟩

end Notifications

section Yields

theorem popJob (orderly : Orderly tree manager) (path : ChannelPath) (now : ℚ) :
    Orderly tree (manager.popJob path now).2 := by
  refine ⟨fun place => ?_, fun place => ?_, fun place => ?_⟩
  · rw [channel_popJob]
    split
    · rename_i same
      subst same
      exact (orderly.tidy place).pop
    · rename_i apart
      exact (orderly.tidy path).pop_elsewhere (orderly.tidy place) apart
  · rw [channel_popJob]
    split
    · rename_i same
      rw [same]
      exact orderly.throttle path
    · exact orderly.throttle place
  · rw [channel_popJob]
    split
    · exact orderly.pause path
    · exact orderly.pause place

/-- A job that is delivered to a parent does not wait for an eta any more. -/
theorem advance (orderly : Orderly tree manager) (popped : (manager.popJob path now).1 = some job) :
    Orderly tree (ChannelManager.advance job path now manager) := by
  have tidy := orderly.tidy path
  obtain ⟨pops, -⟩ := @ChannelQueue.pop_pops _ _ now tidy.sorted (manager.channel path).sequential
  have lost : ((manager.popJob path now).2.job job).hasEta = false := pops.popped job popped
  have older : job < manager.nextJob := by
    rcases (pops.least job popped).1 with plain | due
    · exact tidy.plain_lt job (PriorityQueue.mem_heap plain)
    · exact tidy.eta_lt job (PriorityQueue.mem_heap due.1)
  have popped := orderly.popJob path now
  have runs : Orderly tree ((manager.popJob path now).2.modify path fun channel =>
      { channel with running := insert job channel.running }) :=
    popped.modify (popped.tidy path) rfl (popped.pause path)
  cases path with
  | nil => exact ⟨runs.tidy, runs.throttle, runs.pause⟩
  | cons name parent =>
      have delivered := (runs.tidy parent).add older fun eta =>
        absurd (lost.symm.trans eta) Bool.false_ne_true
      rw [ChannelManager.advance, deliver]
      exact runs.modify delivered rfl (runs.pause parent)

theorem setPause {pause : ℚ} (orderly : Orderly tree manager)
    (given : pause ≠ 0 → pause = (manager.channel path).pauseUntil ∨
      (manager.channel path).throttle ≠ 0) : Orderly tree (manager.setPause path pause) := by
  refine orderly.modify (orderly.tidy path) rfl fun paused => ?_
  rcases given paused with same | throttled
  · exact orderly.pause path (same ▸ paused)
  · exact throttled

variable (tree path now) in
theorem turns : Turns path now (Orderly tree) :=
  ⟨fun _ orderly _ => orderly.popJob path now, fun _ _ orderly _ popped => orderly.advance popped,
    fun _ _ orderly given => orderly.setPause given⟩

theorem yieldSubtree (orderly : Orderly tree manager) (fuel : ℕ) :
    Orderly tree (ChannelManager.yieldSubtree now fuel path manager) :=
  yieldSubtree_preserves (fun path => turns tree path now) orderly fuel

end Yields

end Orderly

end ChannelManager

namespace Session

variable {tree : ChannelTree} {session : Session}

theorem orderly_start (tree : ChannelTree) : (start tree).manager.Orderly tree := by
  refine ⟨fun path => ?_, fun path => ?_, fun path => ?_⟩
  · simp only [start]
    split <;> exact ChannelQueue.tidy_empty
  · simp only [start]
    split
    · rename_i listed
      exact fun _ => ⟨List.contains_iff_mem.mp listed, rfl⟩
    · exact fun throttled => absurd rfl throttled
  · simp only [start]
    split <;> exact fun paused => absurd rfl paused

theorem orderly_step (kept : session.manager.Kept) (orderly : session.manager.Orderly tree)
    (action : ManagerAction) : (session.step action).manager.Orderly tree := by
  cases action with
  | notify row => exact (orderly.notify kept).collect
  | removeJob uuid => exact orderly.removeJob.collect
  | removeDb dbName => exact (orderly.removeDb dbName).collect
  | getJobsToRun now => exact (orderly.yieldSubtree _).collect

theorem orderly_runSteps (tree : ChannelTree) (actions : List ManagerAction) :
    (runSteps Session.step (start tree) actions).manager.Orderly tree := by
  have advance (session : Session) (action : ManagerAction)
      (both : session.manager.Kept ∧ session.manager.Orderly tree) :
      (session.step action).manager.Kept ∧ (session.step action).manager.Orderly tree :=
    ⟨kept_step both.1 action, orderly_step both.1 both.2 action⟩
  exact (@runSteps_preserves _ _ _ (fun session : Session =>
    session.manager.Kept ∧ session.manager.Orderly tree) _ _ advance
      ⟨kept_start tree, orderly_start tree⟩).2

end Session

end OdooConnector.Queue
