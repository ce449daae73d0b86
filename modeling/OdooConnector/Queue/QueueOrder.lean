import Mathlib.Order.WithBot
import OdooConnector.Library.Run
import OdooConnector.Queue.ChannelPop

/-!
# The order of a channel queue

Jobs whose eta has come move from the heap of the etas to the other one, in which the order does not
depend on the eta any more. The two heaps hold the jobs that were added and not removed or popped
since: those whose eta has not come when jobs were last moved, and the others.
-/

namespace OdooConnector.Queue

/-- The eta of a job is absent or not after now. -/
def Runnable (jobs : JobObjects) (now : ℚ) (job : ℕ) : Prop :=
  ∀ eta, (jobs job).eta = some eta → eta ≤ now

instance (jobs : JobObjects) (now : ℚ) (job : ℕ) : Decidable (Runnable jobs now job) :=
  decidable_of_iff ((jobs job).eta.all (fun eta => eta ≤ now) = true) (by
    simp [Runnable, Option.all_eq_true])

theorem runnable_of_any {jobs : JobObjects} {now : ℚ} {job : ℕ}
    (due : (jobs job).eta.any (fun eta => eta ≤ now) = true) : Runnable jobs now job := by
  intro eta found
  rw [found, Option.any_some] at due
  exact of_decide_eq_true due

namespace ChannelJob

variable {job : ChannelJob}

theorem exists_of_hasEta (eta : job.hasEta = true) : ∃ time, job.eta = some time ∧ time ≠ 0 := by
  rw [hasEta, Option.any_eq_true] at eta
  obtain ⟨time, found, given⟩ := eta
  exact ⟨time, found, of_decide_eq_true given⟩

/-- An eta at time zero is none. -/
theorem getD_of_not_hasEta (none : job.hasEta = false) : job.eta.getD 0 = 0 := by
  rw [hasEta] at none
  cases found : job.eta with
  | none => rfl
  | some time =>
      rw [found, Option.any_some, decide_eq_false_iff_not, not_not] at none
      exact none

end ChannelJob

theorem any_of_runnable {jobs : JobObjects} {now : ℚ} {job : ℕ} (given : (jobs job).hasEta = true)
    (due : Runnable jobs now job) : (jobs job).eta.any (fun eta => eta ≤ now) = true := by
  obtain ⟨eta, found, -⟩ := ChannelJob.exists_of_hasEta given
  rw [found, Option.any_some]
  exact decide_eq_true (due eta found)

namespace ChannelQueue

variable {queue after : ChannelQueue} {jobs : JobObjects} {job other : ℕ} {now : ℚ} {fuel : ℕ}

/-- Jobs with an eta are compared by it first, so what comes before a job whose eta has come has
come too. -/
theorem runnable_of_key_le (given : (jobs other).hasEta = true) (due : Runnable jobs now other)
    (le : key jobs job ≤ key jobs other) : Runnable jobs now job := by
  intro eta own
  obtain ⟨otherEta, found, -⟩ := ChannelJob.exists_of_hasEta given
  rw [key, key, ChannelJob.sortingKey, ChannelJob.sortingKey, own, found,
    Prod.Lex.toLex_le_toLex] at le
  have earlier : eta ≤ otherEta := by
    rcases le with less | same
    · exact less.le
    · exact same.1.le
  exact earlier.trans (due otherEta found)

theorem rank_eq_of_key_eq (same : key jobs job = key jobs other) :
    (jobs job).sortingKeyIgnoringEta = (jobs other).sortingKeyIgnoringEta :=
  congrArg (fun key => (ofLex key).2) same

/-- Jobs without an eta are compared by the other parts of their keys. -/
theorem key_le_iff (none : (jobs job).hasEta = false) (otherNone : (jobs other).hasEta = false) :
    key jobs job ≤ key jobs other ↔
      (jobs job).sortingKeyIgnoringEta ≤ (jobs other).sortingKeyIgnoringEta := by
  rw [key, key, ChannelJob.sortingKey, ChannelJob.sortingKey, ChannelJob.getD_of_not_hasEta none,
    ChannelJob.getD_of_not_hasEta otherNone, Prod.Lex.toLex_le_toLex]
  simp

/-- What the heaps hold: one the jobs with an eta, the other one those without. -/
structure Sorted (jobs : JobObjects) (queue : ChannelQueue) : Prop where
  eta : ∀ job ∈ queue.etaQueue.heap, (jobs job).hasEta = true
  plain : ∀ job ∈ queue.queue.heap, (jobs job).hasEta = false

theorem sorted_empty : Sorted jobs ChannelQueue.empty :=
  ⟨fun _ listed => absurd listed List.not_mem_nil, fun _ listed => absurd listed List.not_mem_nil⟩

theorem Sorted.add (sorted : Sorted jobs queue) (job : ℕ) : Sorted jobs (queue.add jobs job) := by
  rw [ChannelQueue.add]
  cases eta : (jobs job).hasEta with
  | true =>
      refine ⟨fun other listed => ?_, sorted.plain⟩
      rcases PriorityQueue.mem_heap_of_mem_add listed with rfl | before
      · exact eta
      · exact sorted.eta other before
  | false =>
      refine ⟨sorted.eta, fun other listed => ?_⟩
      rcases PriorityQueue.mem_heap_of_mem_add listed with rfl | before
      · exact eta
      · exact sorted.plain other before

theorem Sorted.remove (sorted : Sorted jobs queue) (job : ℕ) : Sorted jobs (queue.remove job) := by
  refine ⟨fun other listed => sorted.eta other ?_, fun other listed => sorted.plain other ?_⟩
  · rwa [ChannelQueue.remove, PriorityQueue.heap_remove] at listed
  · rwa [ChannelQueue.remove, PriorityQueue.heap_remove] at listed

/-- A job leaves the heap of the etas and loses its eta. -/
theorem Sorted.move {eta : PriorityQueue ℕ} (sorted : Sorted jobs queue)
    (heap : ∀ other ∈ eta.heap, other ∈ queue.etaQueue.heap ∧ other ≠ job) :
    Sorted (Function.update jobs job (jobs job).setNoEta) ⟨queue.queue.add job, eta⟩ := by
  refine ⟨fun other listed => ?_, fun other listed => ?_⟩
  · obtain ⟨before, apart⟩ := heap other listed
    rw [Function.update_of_ne apart]
    exact sorted.eta other before
  · by_cases same : other = job
    · rw [same, Function.update_self]
      rfl
    · rw [Function.update_of_ne same]
      exact sorted.plain other ((PriorityQueue.mem_heap_of_mem_add listed).resolve_left same)

/-- What moving the jobs does whose eta has come. -/
structure MovesDue (jobs : JobObjects) (queue : ChannelQueue) (now : ℚ)
    (result : JobObjects × ChannelQueue) : Prop where
  sorted : Sorted result.1 result.2
  eta : ∀ job, job ∈ result.2.etaQueue ↔ job ∈ queue.etaQueue ∧ ¬ Runnable jobs now job
  plain : ∀ job, job ∈ result.2.queue ↔
    job ∈ queue.queue ∨ job ∈ queue.etaQueue ∧ Runnable jobs now job
  changed : ∀ job, result.1 job = jobs job ∨
    result.1 job = (jobs job).setNoEta ∧ job ∈ queue.etaQueue ∧ Runnable jobs now job

/-- Where no eta has come, there is nothing to move. -/
theorem movesDue_of_none (sorted : Sorted jobs after)
    (eta : ∀ job, job ∈ after.etaQueue ↔ job ∈ queue.etaQueue)
    (plain : ∀ job, job ∈ after.queue ↔ job ∈ queue.queue)
    (none : ∀ job ∈ queue.etaQueue, ¬ Runnable jobs now job) :
    MovesDue jobs queue now (jobs, after) := by
  refine ⟨sorted, fun job => ?_, fun job => ?_, fun _ => Or.inl rfl⟩
  · rw [eta]
    exact ⟨fun member => ⟨member, none job member⟩, And.left⟩
  · rw [plain]
    exact ⟨Or.inl, fun moved => moved.resolve_right fun due => none job due.1 due.2⟩

/-- The first job of the eta heap is moved. -/
theorem MovesDue.cons {eta : PriorityQueue ℕ} {result : JobObjects × ChannelQueue}
    (member : job ∈ queue.etaQueue) (due : Runnable jobs now job)
    (mem : ∀ other, other ∈ eta ↔ other ∈ queue.etaQueue ∧ other ≠ job)
    (rest : MovesDue (Function.update jobs job (jobs job).setNoEta)
      ⟨queue.queue.add job, eta⟩ now result) : MovesDue jobs queue now result := by
  have same (other : ℕ) (apart : other ≠ job) :
      (Function.update jobs job (jobs job).setNoEta) other = jobs other :=
    Function.update_of_ne apart _ _
  have runnable (other : ℕ) (apart : other ≠ job) :
      Runnable (Function.update jobs job (jobs job).setNoEta) now other ↔
        Runnable jobs now other := by
    rw [Runnable, Runnable, same other apart]
  refine ⟨rest.sorted, fun other => ?_, fun other => ?_, fun other => ?_⟩
  · rw [rest.eta, mem]
    by_cases equal : other = job
    · subst equal
      exact iff_of_false (fun waits => waits.1.2 rfl) fun waits => waits.2 due
    · rw [runnable other equal]
      exact and_congr_left fun _ => and_iff_left equal
  · rw [rest.plain, mem, PriorityQueue.mem_add]
    by_cases equal : other = job
    · subst equal
      exact iff_of_true (Or.inl (Or.inl rfl)) (Or.inr ⟨member, due⟩)
    · rw [runnable other equal]
      simp [equal]
  · by_cases equal : other = job
    · subst equal
      have moved := rest.changed other
      rw [Function.update_self] at moved
      refine Or.inr ⟨?_, member, due⟩
      rcases moved with kept | again
      · exact kept
      · exact again.1
    · have moved := rest.changed other
      rw [same other equal, runnable other equal, mem] at moved
      exact moved.imp_right fun moves => ⟨moves.1, moves.2.1.1, moves.2.2⟩

theorem moveDue_movesDue (sorted : Sorted jobs queue)
    (enough : queue.etaQueue.heap.length ≤ fuel) :
    MovesDue jobs queue now (moveDue now fuel jobs queue) := by
  induction fuel generalizing jobs queue with
  | zero =>
      refine movesDue_of_none sorted (fun _ => Iff.rfl) (fun _ => Iff.rfl) fun job member => ?_
      have listed := PriorityQueue.mem_heap member
      rw [List.length_eq_zero_iff.mp (Nat.le_zero.mp enough)] at listed
      cases listed
  | succ fuel induction =>
      rw [moveDue]
      split
      · rename_i nothing
        refine movesDue_of_none sorted (fun _ => Iff.rfl) (fun _ => Iff.rfl) fun job member => ?_
        exact absurd member (PriorityQueue.length_eq_zero_iff.mp nothing job)
      · have first := queue.etaQueue.first_isFirst (key jobs)
        have firstHeap : ∀ job ∈ (queue.etaQueue.first (key jobs)).2.heap,
            job ∈ queue.etaQueue.heap := fun job listed =>
          PriorityQueue.mem_heap_of_mem_firstWithin listed
        dsimp only
        cases found : (queue.etaQueue.first (key jobs)).1 with
        | none =>
            refine movesDue_of_none ⟨fun job listed => sorted.eta job (firstHeap job listed),
              sorted.plain⟩ first.mem (fun _ => Iff.rfl) fun job member => ?_
            exact absurd member (first.none found job)
        | some top =>
            obtain ⟨topMember, least⟩ := first.some top found
            rw [Option.any_some]
            split
            · rename_i due
              have pop := (queue.etaQueue.first (key jobs)).2.pop_isPop (key jobs)
              cases popped : ((queue.etaQueue.first (key jobs)).2.pop (key jobs)).1 with
              | none =>
                  have none := (pop.none popped).1 top
                  rw [first.mem] at none
                  exact absurd topMember none
              | some job =>
                  obtain ⟨member, leastPopped, mem, shorter⟩ := pop.some job popped
                  have inHeap := firstHeap job (PriorityQueue.mem_heap member)
                  have due : Runnable jobs now job := runnable_of_key_le
                    (sorted.eta top (PriorityQueue.mem_heap topMember)) (runnable_of_any due)
                    (leastPopped top ((first.mem top).mpr topMember))
                  refine MovesDue.cons ((first.mem job).mp member) due (fun other => ?_)
                    (induction ?_ ?_)
                  · rw [mem, first.mem]
                  · refine sorted.move fun other listed => ?_
                    obtain ⟨before, apart⟩ := PriorityQueue.mem_heap_of_mem_popWithin listed
                    exact ⟨firstHeap other before, fun same => apart (same ▸ popped)⟩
                  · have fewer := first.length_le
                    dsimp only
                    omega
            · rename_i waits
              refine movesDue_of_none ⟨fun job listed => sorted.eta job (firstHeap job listed),
                sorted.plain⟩ first.mem (fun _ => Iff.rfl) fun job member due => waits ?_
              have topEta := sorted.eta top (PriorityQueue.mem_heap topMember)
              exact any_of_runnable topEta (runnable_of_key_le
                (sorted.eta job (PriorityQueue.mem_heap member)) due (least job member))

/-- A job that a pop may return now. -/
def Ready (jobs : JobObjects) (queue : ChannelQueue) (now : ℚ) (job : ℕ) : Prop :=
  job ∈ queue.queue ∨ job ∈ queue.etaQueue ∧ Runnable jobs now job

/-- A job that waits for its eta. -/
def Waits (jobs : JobObjects) (queue : ChannelQueue) (now : ℚ) (job : ℕ) : Prop :=
  job ∈ queue.etaQueue ∧ ¬ Runnable jobs now job

/-- The job that has the earliest eta comes before all jobs that are ready. -/
def Guarded (jobs : JobObjects) (queue : ChannelQueue) (now : ℚ) : Prop :=
  ∃ top first, Waits jobs queue now top ∧
    (∀ other, Waits jobs queue now other → key jobs top ≤ key jobs other) ∧
    Ready jobs queue now first ∧
    (∀ other, Ready jobs queue now other →
      (jobs first).sortingKeyIgnoringEta ≤ (jobs other).sortingKeyIgnoringEta) ∧
    (jobs top).sortingKeyIgnoringEta < (jobs first).sortingKeyIgnoringEta

/-- What a pop does to the jobs and the heaps. -/
structure Pops (jobs : JobObjects) (queue : ChannelQueue) (now : ℚ)
    (result : Option ℕ × JobObjects × ChannelQueue) : Prop where
  sorted : Sorted result.2.1 result.2.2
  changed : ∀ job, result.2.1 job = jobs job ∨
    result.2.1 job = (jobs job).setNoEta ∧ job ∈ queue.etaQueue ∧ Runnable jobs now job
  eta : ∀ job, job ∈ result.2.2.etaQueue ↔ Waits jobs queue now job
  plain : ∀ job, job ∈ result.2.2.queue ↔ Ready jobs queue now job ∧ result.1 ≠ some job
  least : ∀ job, result.1 = some job → Ready jobs queue now job ∧
    ∀ other, Ready jobs queue now other →
      (jobs job).sortingKeyIgnoringEta ≤ (jobs other).sortingKeyIgnoringEta
  popped : ∀ job, result.1 = some job → (result.2.1 job).hasEta = false

namespace MovesDue

variable {moved : JobObjects × ChannelQueue}

/-- Moving a job does not change where it comes among the others. -/
theorem rank (moves : MovesDue jobs queue now moved) (job : ℕ) :
    (moved.1 job).sortingKeyIgnoringEta = (jobs job).sortingKeyIgnoringEta := by
  rcases moves.changed job with same | ⟨moved, -⟩
  · rw [same]
  · rw [moved]
    rfl

theorem key_waits (moves : MovesDue jobs queue now moved) (waits : Waits jobs queue now job) :
    key moved.1 job = key jobs job := by
  rcases moves.changed job with same | ⟨-, -, due⟩
  · rw [key, key, same]
  · exact absurd due waits.2

/-- The heaps may be cleared of removed jobs. -/
theorem clear {queue' : ChannelQueue} (moves : MovesDue jobs queue now moved)
    (etaHeap : ∀ job ∈ queue'.etaQueue.heap, job ∈ moved.2.etaQueue.heap)
    (plainHeap : ∀ job ∈ queue'.queue.heap, job ∈ moved.2.queue.heap)
    (eta : ∀ job, job ∈ queue'.etaQueue ↔ job ∈ moved.2.etaQueue)
    (plain : ∀ job, job ∈ queue'.queue ↔ job ∈ moved.2.queue) :
    MovesDue jobs queue now (moved.1, queue') where
  sorted := ⟨fun job listed => moves.sorted.eta job (etaHeap job listed),
    fun job listed => moves.sorted.plain job (plainHeap job listed)⟩
  eta job := (eta job).trans (moves.eta job)
  plain job := (plain job).trans (moves.plain job)
  changed := moves.changed

/-- The least of the jobs that are ready is popped, if there is any. -/
theorem popQueue (moves : MovesDue jobs queue now moved) :
    Pops jobs queue now (moved.2.popQueue moved.1) ∧
      ((moved.2.popQueue moved.1).1 = none ↔ ∀ job, ¬ Ready jobs queue now job) := by
  have pop := moved.2.queue.pop_isPop (key moved.1)
  have heap : ∀ job ∈ (moved.2.queue.pop (key moved.1)).2.heap, job ∈ moved.2.queue.heap :=
    fun job listed => (PriorityQueue.mem_heap_of_mem_popWithin listed).1
  have sorted : Sorted moved.1 { moved.2 with queue := (moved.2.queue.pop (key moved.1)).2 } :=
    ⟨moves.sorted.eta, fun job listed => moves.sorted.plain job (heap job listed)⟩
  cases found : (moved.2.queue.pop (key moved.1)).1 with
  | none =>
      obtain ⟨before, after⟩ := pop.none found
      have nothing (job : ℕ) : ¬ Ready jobs queue now job := fun ready =>
        before job ((moves.plain job).mpr ready)
      have unpopped (job : ℕ) : (moved.2.popQueue moved.1).1 ≠ some job := fun popped =>
        Option.some_ne_none job (popped.symm.trans found)
      refine ⟨⟨sorted, moves.changed, moves.eta, fun job => ?_,
        fun job popped => absurd popped (unpopped job),
        fun job popped => absurd popped (unpopped job)⟩, iff_of_true found nothing⟩
      exact iff_of_false (after job) fun ready => nothing job ready.1
  | some first =>
      obtain ⟨member, least, mem, -⟩ := pop.some first found
      have ready : Ready jobs queue now first := (moves.plain first).mp member
      refine ⟨⟨sorted, moves.changed, moves.eta, fun job => ?_, fun job popped => ?_,
        fun job popped => ?_⟩, iff_of_false ?_ fun nothing => nothing first ready⟩
      · refine (mem job).trans (and_congr (moves.plain job) ?_)
        rw [ChannelQueue.popQueue]
        dsimp only
        rw [found, Ne, Ne, Option.some_inj, eq_comm]
      · obtain rfl := Option.some.inj (found.symm.trans popped)
        refine ⟨ready, fun other otherReady => ?_⟩
        have listed := (moves.plain other).mpr otherReady
        rw [← moves.rank, ← moves.rank, ← key_le_iff
          (moves.sorted.plain _ (PriorityQueue.mem_heap member))
          (moves.sorted.plain _ (PriorityQueue.mem_heap listed))]
        exact least other listed
      · obtain rfl := Option.some.inj (found.symm.trans popped)
        exact moves.sorted.plain _ (PriorityQueue.mem_heap member)
      · rw [ChannelQueue.popQueue]
        dsimp only
        rw [found]
        exact Option.some_ne_none first

/-- The first job with an eta, and the first one without, are those that the guard is about. -/
theorem etaFirst_iff (moves : MovesDue jobs queue now moved) :
    etaFirst moved.1 (moved.2.etaQueue.first (key moved.1)).1
      (moved.2.queue.first (key moved.1)).1 = true ↔ Guarded jobs queue now := by
  have eta := moved.2.etaQueue.first_isFirst (key moved.1)
  have plain := moved.2.queue.first_isFirst (key moved.1)
  have least (first : ℕ) (member : first ∈ moved.2.queue)
      (before : ∀ other ∈ moved.2.queue, key moved.1 first ≤ key moved.1 other) (other : ℕ)
      (ready : Ready jobs queue now other) :
      (jobs first).sortingKeyIgnoringEta ≤ (jobs other).sortingKeyIgnoringEta := by
    have listed := (moves.plain other).mpr ready
    rw [← moves.rank, ← moves.rank, ← key_le_iff
      (moves.sorted.plain _ (PriorityQueue.mem_heap member))
      (moves.sorted.plain _ (PriorityQueue.mem_heap listed))]
    exact before other listed
  have earliest (top : ℕ) (member : top ∈ moved.2.etaQueue)
      (before : ∀ other ∈ moved.2.etaQueue, key moved.1 top ≤ key moved.1 other) (other : ℕ)
      (waits : Waits jobs queue now other) : key jobs top ≤ key jobs other := by
    rw [← moves.key_waits ((moves.eta top).mp member), ← moves.key_waits waits]
    exact before other ((moves.eta other).mpr waits)
  simp only [etaFirst, Option.any_eq_true, decide_eq_true_eq, moves.rank]
  constructor
  · rintro ⟨top, topFound, first, firstFound, less⟩
    obtain ⟨topMember, topLeast⟩ := eta.some top topFound
    obtain ⟨firstMember, firstLeast⟩ := plain.some first firstFound
    exact ⟨top, first, (moves.eta top).mp topMember, earliest top topMember topLeast,
      (moves.plain first).mp firstMember, least first firstMember firstLeast, less⟩
  · rintro ⟨otherTop, otherFirst, waits, otherEarliest, ready, otherLeast, less⟩
    obtain ⟨top, topFound⟩ : ∃ top, (moved.2.etaQueue.first (key moved.1)).1 = some top :=
      Option.ne_none_iff_exists'.mp fun none =>
        eta.none none otherTop ((moves.eta otherTop).mpr waits)
    obtain ⟨first, firstFound⟩ : ∃ first, (moved.2.queue.first (key moved.1)).1 = some first :=
      Option.ne_none_iff_exists'.mp fun none =>
        plain.none none otherFirst ((moves.plain otherFirst).mpr ready)
    obtain ⟨topMember, topLeast⟩ := eta.some top topFound
    obtain ⟨firstMember, firstLeast⟩ := plain.some first firstFound
    have sameTop := rank_eq_of_key_eq (le_antisymm (earliest top topMember topLeast otherTop waits)
      (otherEarliest top ((moves.eta top).mp topMember)))
    have sameFirst := le_antisymm (least first firstMember firstLeast otherFirst ready)
      (otherLeast first ((moves.plain first).mp firstMember))
    exact ⟨top, topFound, first, firstFound, sameTop ▸ sameFirst ▸ less⟩

/-- The jobs that a guard is about are in the two heaps. -/
theorem nonempty_of_guarded (moves : MovesDue jobs queue now moved)
    (guarded : Guarded jobs queue now) :
    moved.2.etaQueue.length ≠ 0 ∧ moved.2.queue.length ≠ 0 := by
  obtain ⟨top, first, waits, -, ready, -⟩ := guarded
  exact ⟨fun empty =>
      PriorityQueue.length_eq_zero_iff.mp empty top ((moves.eta top).mpr waits),
    fun empty => PriorityQueue.length_eq_zero_iff.mp empty first ((moves.plain first).mpr ready)⟩

end MovesDue

/-- A pop returns the least of the jobs that are ready. It returns nothing where none is, or where a
sequential queue waits for the job with the earliest eta. -/
theorem pop_pops (sorted : Sorted jobs queue) (sequential : Bool) :
    Pops jobs queue now (queue.pop jobs sequential now) ∧
      ((queue.pop jobs sequential now).1 = none ↔ (∀ job, ¬ Ready jobs queue now job) ∨
        sequential = true ∧ Guarded jobs queue now) := by
  have moves := @moveDue_movesDue queue jobs now _ sorted le_rfl
  rw [pop]
  generalize moveDue now queue.etaQueue.heap.length jobs queue = moved at *
  obtain ⟨after, rest⟩ := moved
  dsimp only at moves ⊢
  have guard := moves.etaFirst_iff
  have nonempty := moves.nonempty_of_guarded
  dsimp only at guard nonempty
  split
  · rename_i both
    simp only [Bool.and_eq_true, decide_eq_true_eq] at both
    have eta := rest.etaQueue.first_isFirst (key after)
    have plain := rest.queue.first_isFirst (key after)
    have cleared := @MovesDue.clear queue jobs now (after, rest)
      ⟨(rest.queue.first (key after)).2, (rest.etaQueue.first (key after)).2⟩ moves
      (fun job listed => PriorityQueue.mem_heap_of_mem_firstWithin listed)
      (fun job listed => PriorityQueue.mem_heap_of_mem_firstWithin listed) eta.mem plain.mem
    split
    · rename_i waits
      refine ⟨⟨cleared.sorted, moves.changed, cleared.eta, fun job => ?_,
        fun job popped => absurd popped (Option.some_ne_none job).symm,
        fun job popped => absurd popped (Option.some_ne_none job).symm⟩,
        iff_of_true rfl (Or.inr ⟨both.1.1, guard.mp waits⟩)⟩
      exact (cleared.plain job).trans (and_iff_left (Option.some_ne_none job).symm).symm
    · rename_i passes
      obtain ⟨pops, none⟩ := cleared.popQueue
      refine ⟨pops, none.trans ⟨Or.inl, fun either => either.resolve_right fun waits => ?_⟩⟩
      exact passes (guard.mpr waits.2)
  · rename_i both
    obtain ⟨pops, none⟩ := moves.popQueue
    refine ⟨pops, none.trans ⟨Or.inl, fun either => either.resolve_right fun waits => both ?_⟩⟩
    obtain ⟨etas, plains⟩ := nonempty waits.2
    simp only [waits.1, etas, plains, ne_eq, not_false_eq_true, decide_true, Bool.and_self]

end ChannelQueue

end OdooConnector.Queue
