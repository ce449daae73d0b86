import OdooConnector.Queue.ChannelLoops
import OdooConnector.Queue.OrderlyChannels

/-!
# The wake-up time

The runner sleeps until a notification comes or the time that the channels ask for, which is the
earliest of the etas and of the ends of the pauses. Channels that are full ask for none, as a
notification comes when a job ends, and nothing below a channel that pauses is asked.
-/

namespace OdooConnector.Queue

/-- The earlier one of two times; zero is no time yet. -/
def sooner (wakeupTime time : ℚ) : ℚ := if wakeupTime = 0 then time else min wakeupTime time

/-- The time of the next eta; removed jobs on top of the heap are passed over. -/
def ChannelQueue.getWakeupTime (queue : ChannelQueue) (jobs : JobObjects) (wakeupTime : ℚ) : ℚ :=
  if queue.etaQueue.length = 0 then wakeupTime
  else
    match (queue.etaQueue.first (key jobs)).1 with
    | none => wakeupTime
    | some job => sooner wakeupTime ((jobs job).eta.getD 0)

namespace ChannelManager

variable (manager : ChannelManager)

/-- The wake-up time of a channel and those below it. -/
def wakeupSubtree : ℕ → ChannelPath → ℚ → ℚ
  | 0, _, wakeupTime => wakeupTime
  | fuel + 1, path, wakeupTime =>
      let channel := manager.channel path
      if channel.hasCapacity = false then wakeupTime
      else if channel.pauseUntil ≠ 0 then sooner wakeupTime channel.pauseUntil
      else
        (manager.children path).foldl (fun wakeupTime child => wakeupSubtree fuel child wakeupTime)
          (channel.queue.getWakeupTime manager.job wakeupTime)

def getWakeupTime : ℚ := manager.wakeupSubtree manager.depth [] 0

end ChannelManager

/-- A wake-up is asked for, not later than a time. -/
def Covers (time wakeupTime : ℚ) : Prop := wakeupTime ≠ 0 ∧ wakeupTime ≤ time

section Sooner

variable {time wakeupTime request : ℚ}

theorem Covers.sooner (covers : Covers time wakeupTime) (given : request ≠ 0) :
    Covers time (sooner wakeupTime request) := by
  rw [Queue.sooner, if_neg covers.1]
  have asked := covers.1
  refine ⟨?_, (min_le_left _ _).trans covers.2⟩
  rcases min_choice wakeupTime request with first | second
  · rwa [first]
  · rwa [second]

theorem covers_sooner (given : request ≠ 0) (early : request ≤ time) :
    Covers time (sooner wakeupTime request) := by
  by_cases none : wakeupTime = 0
  · rw [sooner, if_pos none]
    exact ⟨given, early⟩
  · rw [sooner, if_neg none]
    refine ⟨?_, (min_le_right _ _).trans early⟩
    rcases min_choice wakeupTime request with first | second
    · rwa [first]
    · rwa [second]

end Sooner

namespace ChannelQueue

variable {queue queue' : ChannelQueue} {jobs jobs' : JobObjects} {job : ℕ}
  {now time wakeupTime : ℚ} {sequential : Bool}

/-- Nothing can be popped: no job is ready, or those that are have to wait for one that is not. -/
def Stuck (jobs : JobObjects) (queue : ChannelQueue) (sequential : Bool) (now : ℚ) : Prop :=
  (∀ job, ¬ Ready jobs queue now job) ∨ sequential = true ∧ Guarded jobs queue now

/-- It only matters which jobs are ready and which wait, and in which order. -/
theorem Stuck.congr (stuck : Stuck jobs queue sequential now)
    (ready : ∀ job, Ready jobs' queue' time job ↔ Ready jobs queue now job)
    (waits : ∀ job, Waits jobs' queue' time job ↔ Waits jobs queue now job)
    (rank : ∀ job, (jobs' job).sortingKeyIgnoringEta = (jobs job).sortingKeyIgnoringEta)
    (same : ∀ job, Waits jobs queue now job → jobs' job = jobs job) :
    Stuck jobs' queue' sequential time := by
  rcases stuck with none | ⟨sequence, top, first, topWaits, earliest, firstReady, least, less⟩
  · exact Or.inl fun job found => none job ((ready job).mp found)
  · refine Or.inr ⟨sequence, top, first, (waits top).mpr topWaits, fun other otherWaits => ?_,
      (ready first).mpr firstReady, fun other otherReady => ?_, ?_⟩
    · have before := (waits other).mp otherWaits
      rw [key, key, same top topWaits, same other before]
      exact earliest other before
    · rw [rank, rank]
      exact least other ((ready other).mp otherReady)
    · rw [rank, rank]
      exact less

/-- As long as no further eta comes, nothing changes. -/
theorem Stuck.later (stuck : Stuck jobs queue sequential now) (later : now ≤ time)
    (none : ∀ job ∈ queue.etaQueue, ¬ Runnable jobs time job) :
    Stuck jobs queue sequential time := by
  have before (job : ℕ) (member : job ∈ queue.etaQueue) : ¬ Runnable jobs now job :=
    fun due => none job member fun eta found => (due eta found).trans later
  refine stuck.congr (fun job => ?_) (fun job => ?_) (fun _ => rfl) fun _ _ => rfl
  · refine or_congr Iff.rfl ?_
    exact iff_of_false (fun due => none job due.1 due.2) fun due => before job due.1 due.2
  · exact and_congr_right fun member => iff_of_true (none job member) (before job member)

/-- After a pop that returned nothing, the next one returns nothing either. -/
theorem Pops.stuck {result : Option ℕ × JobObjects × ChannelQueue}
    (pops : Pops jobs queue now result) (nothing : result.1 = none)
    (stuck : Stuck jobs queue sequential now) : Stuck result.2.1 result.2.2 sequential now := by
  have same (job : ℕ) (waits : Waits jobs queue now job) : result.2.1 job = jobs job := by
    rcases pops.changed job with kept | ⟨-, -, due⟩
    · exact kept
    · exact absurd due waits.2
  have unripe (job : ℕ) (waits : Waits jobs queue now job) : ¬ Runnable result.2.1 now job := by
    rw [Runnable, same job waits]
    exact waits.2
  refine stuck.congr (fun job => ?_) (fun job => ?_) (fun job => ?_) same
  · rw [Ready, pops.plain, pops.eta, nothing, and_iff_left (Option.some_ne_none job).symm]
    exact or_iff_left fun due => unripe job due.1 due.2
  · rw [Waits, pops.eta]
    exact and_iff_left_of_imp (unripe job)
  · rcases pops.changed job with kept | ⟨lost, -⟩
    · rw [kept]
    · rw [lost]
      rfl

/-- The eta that comes first is asked for. -/
theorem getWakeupTime_cases (sorted : Sorted jobs queue) (wakeupTime : ℚ) :
    (∀ job, job ∉ queue.etaQueue) ∧ queue.getWakeupTime jobs wakeupTime = wakeupTime ∨
      ∃ eta ≠ 0, queue.getWakeupTime jobs wakeupTime = sooner wakeupTime eta ∧
        ∀ job ∈ queue.etaQueue, Runnable jobs time job → eta ≤ time := by
  have first := queue.etaQueue.first_isFirst (key jobs)
  rw [getWakeupTime]
  split
  · rename_i nothing
    exact Or.inl ⟨PriorityQueue.length_eq_zero_iff.mp nothing, rfl⟩
  · split
    · rename_i found
      exact Or.inl ⟨first.none found, rfl⟩
    · rename_i top found
      obtain ⟨member, least⟩ := first.some top found
      obtain ⟨eta, own, given⟩ :=
        ChannelJob.exists_of_hasEta (sorted.eta top (PriorityQueue.mem_heap member))
      rw [own, Option.getD_some]
      refine Or.inr ⟨eta, given, rfl, fun job listed due => ?_⟩
      exact runnable_of_key_le (sorted.eta job (PriorityQueue.mem_heap listed)) due
        (least job listed) eta own

theorem covers_getWakeupTime (sorted : Sorted jobs queue) (covers : Covers time wakeupTime) :
    Covers time (queue.getWakeupTime jobs wakeupTime) := by
  rcases @getWakeupTime_cases queue jobs time sorted wakeupTime with
    ⟨-, same⟩ | ⟨eta, given, next, -⟩
  · rwa [same]
  · rw [next]
    exact covers.sooner given

theorem covers_eta (sorted : Sorted jobs queue) (member : job ∈ queue.etaQueue)
    (due : Runnable jobs time job) : Covers time (queue.getWakeupTime jobs wakeupTime) := by
  rcases @getWakeupTime_cases queue jobs time sorted wakeupTime with
    ⟨nothing, -⟩ | ⟨eta, given, next, earliest⟩
  · exact absurd member (nothing job)
  · rw [next]
    exact covers_sooner given (earliest job member due)

end ChannelQueue

namespace ChannelManager

variable {tree : ChannelTree} {manager : ChannelManager} {path : ChannelPath}
  {now time wakeupTime : ℚ} {fuel : ℕ}

/-- Nothing can be popped off the queue of a channel. -/
def Stuck (manager : ChannelManager) (path : ChannelPath) (now : ℚ) : Prop :=
  (manager.channel path).queue.Stuck manager.job (manager.channel path).sequential now

/-- A channel that has capacity pauses, or has no job that it may run. -/
def Rests (manager : ChannelManager) (path : ChannelPath) (now : ℚ) : Prop :=
  (manager.channel path).hasCapacity = true →
    (manager.channel path).pauseUntil ≠ 0 ∨ manager.Stuck path now

/-- All jobs that a channel and those below it could yield have been yielded. -/
def Drained (manager : ChannelManager) (now : ℚ) : ℕ → ChannelPath → Prop
  | 0, _ => True
  | fuel + 1, path =>
      manager.Rests path now ∧ ∀ child ∈ manager.children path, Drained manager now fuel child

/-- A channel that yields no job at a time: it is full, it pauses, or it has no job that it may run
and gets none. -/
def Quiet (manager : ChannelManager) (time : ℚ) : ℕ → ChannelPath → Prop
  | 0, _ => True
  | fuel + 1, path =>
      (manager.channel path).hasCapacity = false ∨
        ((manager.channel path).throttle ≠ 0 ∧ (manager.channel path).pauseUntil ≠ 0 ∧
          time < (manager.channel path).pauseUntil) ∨
        manager.Stuck path time ∧ ∀ child ∈ manager.children path, Quiet manager time fuel child

/-- Below a channel there are no more levels than the longest path has names. -/
theorem wakeupSubtree_succ (listed : path ∈ manager.paths)
    (enough : ∀ place ∈ manager.paths, place.length < path.length + fuel) :
    manager.wakeupSubtree (fuel + 1) path wakeupTime =
      manager.wakeupSubtree fuel path wakeupTime := by
  induction fuel generalizing path wakeupTime with
  | zero => exact absurd (enough path listed) (Nat.lt_irrefl _)
  | succ fuel induction =>
      rw [wakeupSubtree]
      conv_rhs => rw [wakeupSubtree]
      split
      · rfl
      · split
        · rfl
        · refine List.foldl_ext _ _ _ fun wakeupTime child member => ?_
          obtain ⟨below, longer⟩ := mem_children member
          refine induction below fun place listed => ?_
          have short := enough place listed
          omega

/-- More levels than there are do not change the wake-up time. -/
theorem getWakeupTime_eq (kept : Kept manager) (enough : manager.depth ≤ fuel) :
    manager.wakeupSubtree fuel [] 0 = manager.getWakeupTime := by
  induction fuel, enough using Nat.le_induction with
  | base => rfl
  | succ fuel enough induction =>
      refine (wakeupSubtree_succ kept.root fun place listed => ?_).trans induction
      have short := length_lt_depth listed
      rw [List.length_nil]
      omega

/-- A wake-up that was asked for already is not put off. -/
theorem covers_wakeupSubtree (orderly : Orderly tree manager) (covers : Covers time wakeupTime) :
    Covers time (manager.wakeupSubtree fuel path wakeupTime) := by
  induction fuel generalizing path wakeupTime with
  | zero => exact covers
  | succ fuel induction =>
      rw [wakeupSubtree]
      split
      · exact covers
      · split
        · rename_i paused
          exact covers.sooner paused
        · exact foldl_preserves _ (Covers time) _
            (ChannelQueue.covers_getWakeupTime (orderly.tidy path).sorted covers)
            fun _ _ covers => induction covers

/-- Once all jobs have been yielded, a channel that could yield one later asks for a wake-up by
then. -/
theorem covers_of_not_quiet (orderly : Orderly tree manager) (later : now ≤ time)
    (drained : manager.Drained now fuel path) (loud : ¬ manager.Quiet time fuel path) :
    Covers time (manager.wakeupSubtree fuel path wakeupTime) := by
  induction fuel generalizing path wakeupTime with
  | zero => exact absurd trivial loud
  | succ fuel induction =>
      obtain ⟨rests, below⟩ := drained
      rw [Quiet, not_or, not_or] at loud
      obtain ⟨capacity, awake, loud⟩ := loud
      rw [wakeupSubtree]
      rw [if_neg capacity]
      split
      · rename_i paused
        refine covers_sooner paused (not_lt.mp fun early => awake ?_)
        exact ⟨orderly.pause path paused, paused, early⟩
      · rename_i running
        have sorted := (orderly.tidy path).sorted
        have stuck := (rests (Bool.eq_true_of_not_eq_false capacity)).resolve_left running
        by_cases due : ∃ job ∈ (manager.channel path).queue.etaQueue, Runnable manager.job time job
        · obtain ⟨job, member, due⟩ := due
          exact foldl_preserves _ (Covers time) _ (ChannelQueue.covers_eta sorted member due)
            fun _ _ covers => covers_wakeupSubtree orderly covers
        · have still : manager.Stuck path time :=
            stuck.later later fun job member ripe => due ⟨job, member, ripe⟩
          -- a child that could yield a job covers the time, and no further child puts it off
          obtain ⟨child, member, loud⟩ : ∃ child ∈ manager.children path,
              ¬ manager.Quiet time fuel child := by
            by_contra none
            exact loud ⟨still, fun child member => not_not.mp fun loud =>
              none ⟨child, member, loud⟩⟩
          obtain ⟨front, back, parts⟩ := List.append_of_mem member
          rw [parts, List.foldl_append, List.foldl_cons]
          exact foldl_preserves _ (Covers time) _ (induction (below child member) loud)
            fun _ _ covers => covers_wakeupSubtree orderly covers

end ChannelManager

end OdooConnector.Queue
