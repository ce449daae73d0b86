import OdooConnector.Queue.Channel

/-!
# Popping a channel queue

A pop moves jobs whose eta is past due, and takes at most one job out of the queue. No other job
enters or leaves it.
-/

namespace OdooConnector.Queue

/-- What a channel object never changes. -/
structure SameJob (before after : ChannelJob) : Prop where
  channel : after.channel = before.channel
  uuid : after.uuid = before.uuid
  dbName : after.dbName = before.dbName

theorem SameJob.refl (job : ChannelJob) : SameJob job job := ⟨rfl, rfl, rfl⟩

theorem SameJob.trans {first second third : ChannelJob} (front : SameJob first second)
    (back : SameJob second third) : SameJob first third :=
  ⟨back.channel.trans front.channel, back.uuid.trans front.uuid, back.dbName.trans front.dbName⟩

theorem sameJob_setNoEta (jobs : JobObjects) (job other : ℕ) :
    SameJob (jobs other) (Function.update jobs job (jobs job).setNoEta other) := by
  by_cases same : other = job
  · subst same
    rw [Function.update_self]
    exact ⟨rfl, rfl, rfl⟩
  · rw [Function.update_of_ne same]
    exact SameJob.refl _

namespace ChannelQueue

variable {queue after : ChannelQueue} {jobs : JobObjects} {job other : ℕ} {now : ℚ}

/-- A job is in one of the two queues. -/
def Separate (queue : ChannelQueue) : Prop := ∀ job ∈ queue.etaQueue, job ∉ queue.queue

theorem mem_iff : job ∈ queue ↔ job ∈ queue.etaQueue ∨ job ∈ queue.queue := Iff.rfl

@[simp]
theorem not_mem_empty : job ∉ ChannelQueue.empty := by
  simp [mem_iff, empty]

theorem mem_add : other ∈ queue.add jobs job ↔ other = job ∨ other ∈ queue := by
  rw [add]
  split <;> simp only [mem_iff, PriorityQueue.mem_add] <;> tauto

theorem mem_remove : other ∈ queue.remove job ↔ other ∈ queue ∧ other ≠ job := by
  simp only [mem_iff, remove, PriorityQueue.mem_remove]
  tauto

theorem separate_empty : ChannelQueue.empty.Separate := by
  simp [Separate, empty]

theorem Separate.add (separate : queue.Separate) (outside : job ∉ queue) :
    (queue.add jobs job).Separate := by
  rw [mem_iff, not_or] at outside
  by_cases eta : (jobs job).hasEta
  · rw [ChannelQueue.add, if_pos eta]
    intro other member
    cases PriorityQueue.mem_add.mp member with
    | inl same => exact same ▸ outside.2
    | inr before => exact separate other before
  · rw [ChannelQueue.add, if_neg eta]
    intro other member inside
    cases PriorityQueue.mem_add.mp inside with
    | inl same => exact outside.1 (same ▸ member)
    | inr before => exact separate other member before

theorem Separate.remove (separate : queue.Separate) : (queue.remove job).Separate := by
  intro other member
  rw [ChannelQueue.remove, PriorityQueue.mem_remove] at *
  exact fun inside => separate other member.1 inside.1

theorem refersTo_of_mem (member : job ∈ queue) : queue.refersTo job := by
  rw [refersTo]
  cases member with
  | inl member => simp [PriorityQueue.mem_heap member]
  | inr member => simp [PriorityQueue.mem_heap member]

/-- What stays the same while jobs are moved. -/
structure Moved (jobs : JobObjects) (queue : ChannelQueue) (result : JobObjects × ChannelQueue) :
    Prop where
  sameJob : ∀ other, SameJob (jobs other) (result.1 other)
  mem : ∀ other, other ∈ result.2 ↔ other ∈ queue
  separate : queue.Separate → result.2.Separate

theorem Moved.refl : Moved jobs queue (jobs, queue) :=
  ⟨fun _ => SameJob.refl _, fun _ => Iff.rfl, id⟩

theorem Moved.trans {middle result : JobObjects × ChannelQueue} (front : Moved jobs queue middle)
    (back : Moved middle.1 middle.2 result) : Moved jobs queue result :=
  ⟨fun other => (front.sameJob other).trans (back.sameJob other),
    fun other => (back.mem other).trans (front.mem other),
    fun separate => back.separate (front.separate separate)⟩

/-- Clearing removed jobs off the tops of the heaps changes nothing. -/
theorem Moved.of_mem (eta : ∀ other, other ∈ after.etaQueue ↔ other ∈ queue.etaQueue)
    (rest : ∀ other, other ∈ after.queue ↔ other ∈ queue.queue) :
    Moved jobs queue (jobs, after) := by
  refine ⟨fun _ => SameJob.refl _, fun other => or_congr (eta other) (rest other), ?_⟩
  intro separate other member inside
  exact separate other ((eta other).mp member) ((rest other).mp inside)

theorem moveDue_moved (fuel : ℕ) : Moved jobs queue (moveDue now fuel jobs queue) := by
  induction fuel generalizing jobs queue with
  | zero => exact Moved.refl
  | succ fuel induction =>
      rw [moveDue]
      split
      · exact Moved.refl
      · have first := queue.etaQueue.first_isFirst (key jobs)
        have cleared : Moved jobs queue
            (jobs, { queue with etaQueue := (queue.etaQueue.first (key jobs)).2 }) :=
          Moved.of_mem first.mem fun _ => Iff.rfl
        dsimp only
        split
        · have pop := (queue.etaQueue.first (key jobs)).2.pop_isPop (key jobs)
          refine cleared.trans ?_
          cases popped : ((queue.etaQueue.first (key jobs)).2.pop (key jobs)).1 with
          | none =>
              have none := pop.none popped
              refine Moved.of_mem (fun other => ?_) fun _ => Iff.rfl
              exact iff_of_false (none.2 other) (none.1 other)
          | some job =>
              obtain ⟨member, -, mem, -⟩ := pop.some job popped
              have moved : Moved jobs
                  { queue with etaQueue := (queue.etaQueue.first (key jobs)).2 }
                  (Function.update jobs job (jobs job).setNoEta, ⟨queue.queue.add job,
                    ((queue.etaQueue.first (key jobs)).2.pop (key jobs)).2⟩) := by
                refine ⟨sameJob_setNoEta jobs job, fun other => ?_, ?_⟩
                · simp only [mem_iff, PriorityQueue.mem_add, mem]
                  by_cases same : other = job
                  · simp [same, member]
                  · simp [same]
                · intro separate other inside
                  rw [mem] at inside
                  rw [PriorityQueue.mem_add, not_or]
                  exact ⟨inside.2, separate other inside.1⟩
              exact moved.trans induction
        · exact cleared

/-- What a pop does to a queue. -/
structure Popped (jobs : JobObjects) (queue : ChannelQueue)
    (result : Option ℕ × JobObjects × ChannelQueue) : Prop where
  sameJob : ∀ other, SameJob (jobs other) (result.2.1 other)
  none : result.1 = none → ∀ other, other ∈ result.2.2 ↔ other ∈ queue
  some : queue.Separate → ∀ job, result.1 = some job →
    job ∈ queue ∧ ∀ other, other ∈ result.2.2 ↔ other ∈ queue ∧ other ≠ job
  separate : queue.Separate → result.2.2.Separate

theorem Popped.of_moved {middle : JobObjects × ChannelQueue}
    {result : Option ℕ × JobObjects × ChannelQueue} (moved : Moved jobs queue middle)
    (popped : Popped middle.1 middle.2 result) : Popped jobs queue result := by
  refine ⟨fun other => (moved.sameJob other).trans (popped.sameJob other), ?_, ?_, ?_⟩
  · intro nothing other
    rw [popped.none nothing, moved.mem]
  · intro separate job found
    obtain ⟨member, mem⟩ := popped.some (moved.separate separate) job found
    refine ⟨(moved.mem job).mp member, fun other => ?_⟩
    rw [mem, moved.mem]
  · exact fun separate => popped.separate (moved.separate separate)

theorem popQueue_popped : Popped jobs queue (queue.popQueue jobs) := by
  have pop := queue.queue.pop_isPop (key jobs)
  refine ⟨fun _ => SameJob.refl _, ?_, ?_, ?_⟩
  · intro nothing other
    obtain ⟨before, after⟩ := pop.none nothing
    exact or_congr Iff.rfl (iff_of_false (after other) (before other))
  · intro separate job found
    obtain ⟨member, -, mem, -⟩ := pop.some job found
    refine ⟨Or.inr member, fun other => ?_⟩
    simp only [popQueue, mem_iff, mem]
    have apart : job ∉ queue.etaQueue := fun inside => separate job inside member
    by_cases same : other = job
    · simp [same, apart]
    · simp [same]
  · intro separate other member
    cases found : (queue.queue.pop (key jobs)).1 with
    | none => exact (pop.none found).2 other
    | some job =>
        obtain ⟨-, -, mem, -⟩ := pop.some job found
        exact fun inside => separate other member ((mem other).mp inside).1

theorem pop_popped (sequential : Bool) : Popped jobs queue (queue.pop jobs sequential now) := by
  rw [pop]
  have moved : Moved jobs queue (moveDue now queue.etaQueue.heap.length jobs queue) :=
    moveDue_moved _
  refine Popped.of_moved moved ?_
  generalize moveDue now queue.etaQueue.heap.length jobs queue = middle
  obtain ⟨jobs, queue⟩ := middle
  dsimp only
  split
  · have eta := queue.etaQueue.first_isFirst (key jobs)
    have rest := queue.queue.first_isFirst (key jobs)
    have cleared : Moved jobs queue
        (jobs, ⟨(queue.queue.first (key jobs)).2, (queue.etaQueue.first (key jobs)).2⟩) :=
      Moved.of_mem eta.mem rest.mem
    split
    · exact ⟨fun _ => SameJob.refl _, fun _ => cleared.mem, fun _ _ found => (by cases found),
        cleared.separate⟩
    · exact Popped.of_moved cleared popQueue_popped
  · exact popQueue_popped

end ChannelQueue

end OdooConnector.Queue
