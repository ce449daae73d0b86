import OdooConnector.Queue.ChannelYields

/-!
# The loops of channels end

Every turn of a loop takes a job off a heap, and children are deeper than their channel, so the
bounds of the loops are never reached.
-/

namespace OdooConnector.Queue

namespace ChannelQueue

variable {queue : ChannelQueue} {jobs : JobObjects} {job : ℕ} {now : ℚ} {fuel : ℕ}

/-- The loop over due jobs ends within the length of the heap. -/
theorem moveDue_succ (enough : queue.etaQueue.heap.length ≤ fuel) :
    moveDue now (fuel + 1) jobs queue = moveDue now fuel jobs queue := by
  induction fuel generalizing jobs queue with
  | zero =>
      have nothing : queue.etaQueue.length = 0 := by
        rw [PriorityQueue.length_eq_zero_iff]
        intro job member
        have listed := PriorityQueue.mem_heap member
        rw [List.length_eq_zero_iff.mp (Nat.le_zero.mp enough)] at listed
        cases listed
      rw [moveDue.eq_2, if_pos nothing, moveDue]
  | succ fuel induction =>
      rw [moveDue]
      conv_rhs => rw [moveDue]
      split
      · rfl
      · dsimp only
        split
        · split
          · rfl
          · rename_i job popped
            have shorter := PriorityQueue.length_pop_first popped
            exact induction (by dsimp only; omega)
        · rfl

theorem size_moveDue : (moveDue now fuel jobs queue).2.size ≤ queue.size := by
  induction fuel generalizing jobs queue with
  | zero => exact le_rfl
  | succ fuel induction =>
      rw [moveDue]
      split
      · exact le_rfl
      · have first := (queue.etaQueue.first_isFirst (key jobs)).length_le
        dsimp only
        split
        · cases popped : ((queue.etaQueue.first (key jobs)).2.pop (key jobs)).1 with
          | none =>
              have shorter := (queue.etaQueue.first (key jobs)).2.length_pop_le (key jobs)
              rw [size, size]
              dsimp only
              omega
          | some job =>
              have shorter := PriorityQueue.length_pop_first popped
              have longer := @PriorityQueue.length_add_le _ _ queue.queue job
              refine induction.trans ?_
              rw [size, size]
              dsimp only
              omega
        · rw [size, size]
          dsimp only
          omega

/-- A job that is popped leaves the heaps. -/
theorem size_pop {sequential : Bool} (popped : (queue.pop jobs sequential now).1 = some job) :
    (queue.pop jobs sequential now).2.2.size < queue.size := by
  rw [pop] at popped ⊢
  have moved : (moveDue now queue.etaQueue.heap.length jobs queue).2.size ≤ queue.size :=
    size_moveDue
  generalize moveDue now queue.etaQueue.heap.length jobs queue = middle at *
  obtain ⟨jobs, queue⟩ := middle
  dsimp only at *
  split at popped
  · rename_i waits
    rw [if_pos waits]
    split at popped
    · cases popped
    · rename_i first
      rw [if_neg first]
      have eta := (queue.etaQueue.first_isFirst (key jobs)).length_le
      have shorter := PriorityQueue.length_pop_first popped
      rw [size] at *
      rw [popQueue]
      dsimp only
      omega
  · rename_i waits
    rw [if_neg waits]
    obtain ⟨-, -, -, shorter⟩ := (queue.queue.pop_isPop (key jobs)).some job popped
    rw [size] at *
    rw [popQueue]
    dsimp only
    omega

end ChannelQueue

namespace ChannelManager

variable {manager : ChannelManager} {path : ChannelPath} {job : ℕ} {now : ℚ} {fuel : ℕ}

theorem queue_advance : ((advance job path now manager).channel path).queue =
    ((manager.channel path).queue.pop manager.job (manager.channel path).sequential now).2.2 := by
  rw [channel_advance, if_pos rfl]

/-- The loop over a channel ends within the size of its queue. -/
theorem yieldJobs_succ (enough : (manager.channel path).queue.size < fuel) :
    yieldJobs path now (fuel + 1) manager = yieldJobs path now fuel manager := by
  induction fuel generalizing manager with
  | zero => omega
  | succ fuel induction =>
      rw [yieldJobs]
      conv_rhs => rw [yieldJobs]
      split
      · split
        · rfl
        · rename_i job after found
          have popped : (manager.popJob path now).1 = some job := by rw [found]
          have same : (manager.popJob path now).2 = after := by rw [found]
          have shorter := ChannelQueue.size_pop popped
          have queue := @queue_advance manager path job now
          subst same
          rw [advance] at queue
          dsimp only
          split
          · rfl
          · refine induction ?_
            rw [queue]
            omega
      · rfl

theorem paths_turns (paths : List ChannelPath) (path : ChannelPath) (now : ℚ) :
    Turns path now fun manager => manager.paths = paths := by
  refine ⟨fun manager same _ => same, fun manager job same _ _ => ?_, fun manager _ same _ => same⟩
  rw [← same]
  cases path <;> rfl

theorem paths_yieldJobs : (yieldJobs path now fuel manager).paths = manager.paths :=
  (paths_turns manager.paths path now).yieldJobs rfl fuel

theorem paths_yieldSubtree : (yieldSubtree now fuel path manager).paths = manager.paths :=
  yieldSubtree_preserves (fun path => paths_turns manager.paths path now) rfl fuel

theorem mem_children {child : ChannelPath} (member : child ∈ manager.children path) :
    child ∈ manager.paths ∧ child.length = path.length + 1 := by
  obtain ⟨listed, next⟩ := List.mem_filter.mp member
  rw [Bool.and_eq_true] at next
  have inside : child ≠ [] := of_decide_eq_true next.1
  have same : child.tail = path := of_decide_eq_true next.2
  have positive := List.length_pos_of_ne_nil inside
  refine ⟨listed, ?_⟩
  rw [← same, List.length_tail]
  omega

/-- Below a channel there are no more levels than the longest path has names. -/
theorem yieldSubtree_succ (listed : path ∈ manager.paths)
    (enough : ∀ place ∈ manager.paths, place.length < path.length + fuel) :
    yieldSubtree now (fuel + 1) path manager = yieldSubtree now fuel path manager := by
  induction fuel generalizing path manager with
  | zero => exact absurd (enough path listed) (Nat.lt_irrefl _)
  | succ fuel induction =>
      have below (paths : List ChannelPath) : ∀ {middle : ChannelManager},
          middle.paths = manager.paths → (∀ child ∈ paths, child ∈ manager.children path) →
          paths.foldl (fun manager child => yieldSubtree now (fuel + 1) child manager) middle =
            paths.foldl (fun manager child => yieldSubtree now fuel child manager) middle := by
        induction paths with
        | nil => exact fun _ _ => rfl
        | cons child paths rest =>
            intro middle same children
            obtain ⟨member, longer⟩ := mem_children (children child List.mem_cons_self)
            have first : yieldSubtree now (fuel + 1) child middle =
                yieldSubtree now fuel child middle := by
              refine induction (same ▸ member) fun place member => ?_
              have short := enough place (same ▸ member)
              omega
            rw [List.foldl_cons, List.foldl_cons, first]
            exact rest (paths_yieldSubtree.trans same)
              fun child member => children child (List.mem_cons_of_mem _ member)
      rw [yieldSubtree]
      conv_rhs => rw [yieldSubtree]
      rw [below _ rfl fun _ => id]

theorem length_lt_depth {place : ChannelPath} (listed : place ∈ manager.paths) :
    place.length < manager.depth := by
  have longest : place.length ≤ (manager.paths.map List.length).foldr max 0 :=
    List.le_max_of_le' 0 (List.mem_map_of_mem listed) le_rfl
  rw [depth]
  omega

/-- More levels than there are do not change which jobs are run. -/
theorem getJobsToRun_eq (kept : Kept manager) (now : ℚ) (enough : manager.depth ≤ fuel) :
    yieldSubtree now fuel [] manager = manager.getJobsToRun now := by
  induction fuel, enough using Nat.le_induction with
  | base => rfl
  | succ fuel enough induction =>
      refine (yieldSubtree_succ kept.root fun place listed => ?_).trans induction
      have short := length_lt_depth listed
      rw [List.length_nil]
      omega

end ChannelManager

end OdooConnector.Queue
