import Mathlib.Algebra.Order.Ring.Cast
import Mathlib.Tactic.NormNum
import OdooConnector.Queue.ConfinedYields
import OdooConnector.Queue.WakeupTime

/-!
# The runner never oversleeps

Once the channels have yielded all jobs that they may, no further one can be yielded before the
wake-up time, unless a notification comes.
-/

namespace OdooConnector.Queue

namespace ChannelManager

variable {tree : ChannelTree} {manager before middle after : ChannelManager} {job : ℕ}
  {path place child : ChannelPath} {now time : ℚ} {fuel : ℕ}
  {inside outlet : ChannelPath → Prop}

section Spared

/-- Nothing that a channel pops depends on what changes elsewhere. -/
theorem Stuck.confined (stuck : before.Stuck path now) (orderly : Orderly tree before)
    (confined : Confined inside outlet before after) (off : ¬ inside path)
    (same : (after.channel path) = before.channel path) : after.Stuck path now := by
  have still (job : ℕ) (member : job ∈ (before.channel path).queue.etaQueue) :
      after.job job = before.job job :=
    confined.job_of_eta orderly off member
  rw [Stuck, same]
  refine ChannelQueue.Stuck.congr stuck (fun job => ?_) (fun job => ?_) confined.rank
    fun job waits => still job waits.1
  · refine or_congr Iff.rfl (and_congr_right fun member => ?_)
    rw [Runnable, Runnable, still job member]
  · refine and_congr_right fun member => ?_
    rw [Runnable, Runnable, still job member]

theorem Drained.confined (drained : before.Drained now fuel path) (orderly : Orderly tree before)
    (confined : Confined inside outlet before after)
    (off : ∀ place, path <:+ place → ¬ inside place ∧ ¬ outlet place) :
    after.Drained now fuel path := by
  induction fuel generalizing path with
  | zero => trivial
  | succ fuel induction =>
      obtain ⟨rests, below⟩ := drained
      obtain ⟨outer, shut⟩ := off path List.suffix_rfl
      have same := confined.outside path outer shut
      refine ⟨?_, fun child member => ?_⟩
      · rw [Rests, same]
        exact fun capacity => (rests capacity).imp_right fun stuck =>
          stuck.confined orderly confined outer same
      · rw [children_eq confined.paths] at member
        exact induction (below child member) fun place under =>
          off place (below_of_child member under).1

theorem Quiet.confined (quiet : before.Quiet time fuel path) (orderly : Orderly tree before)
    (confined : Confined inside outlet before after)
    (off : ∀ place, path <:+ place → ¬ inside place ∧ ¬ outlet place) :
    after.Quiet time fuel path := by
  induction fuel generalizing path with
  | zero => trivial
  | succ fuel induction =>
      obtain ⟨outer, shut⟩ := off path List.suffix_rfl
      have same := confined.outside path outer shut
      rw [Quiet, same, children_eq confined.paths]
      refine quiet.imp_right (Or.imp_right fun still => ?_)
      refine ⟨still.1.confined orderly confined outer same, fun child member => ?_⟩
      exact induction (still.2 child member) fun place under =>
        off place (below_of_child member under).1

/-- What a channel itself does is not below its children. -/
theorem off_of_parent (member : child ∈ manager.children path) (place : ChannelPath)
    (under : child <:+ place) : ¬ place = path ∧ ¬ path.tail = place := by
  obtain ⟨inner, apart⟩ := below_of_child member under
  refine ⟨apart, fun outer => ?_⟩
  have longer := (mem_children member).2
  have fits := under.length_le
  rw [← outer, List.length_tail] at fits
  omega

end Spared

section Drained

/-- A channel yields until it is full, pauses, or has no job left that it may run. -/
theorem rests_yieldJobs (orderly : Orderly tree manager)
    (lasting : (manager.channel path).throttle ≠ 0 → now + (manager.channel path).throttle ≠ 0)
    (enough : (manager.channel path).queue.size < fuel) :
    (yieldJobs path now fuel manager).Rests path now := by
  induction fuel generalizing manager with
  | zero => omega
  | succ fuel induction =>
      rcases yieldJobs_cases fuel with ⟨full, same⟩ | ⟨nothing, same⟩ | ⟨job, -, popped, turn⟩
      · rw [same]
        exact fun capacity => absurd (full.symm.trans capacity) Bool.false_ne_true
      · obtain ⟨pops, none⟩ := @ChannelQueue.pop_pops _ _ now (orderly.tidy path).sorted
          (manager.channel path).sequential
        rw [same]
        refine fun _ => Or.inr ?_
        rw [Stuck, channel_popJob, if_pos rfl]
        exact pops.stuck nothing (none.mp nothing)
      · rcases turn with ⟨throttled, same⟩ | same
        · rw [same, Rests, channel_setPause]
          exact fun _ => Or.inl (lasting throttled)
        · rw [same]
          refine induction (orderly.advance popped) ?_ ?_
          · rw [throttle_advance]
            exact lasting
          · have shorter := ChannelQueue.size_pop popped
            rw [queue_advance]
            omega

theorem drained_yieldSubtree (orderly : Orderly tree manager)
    (lasting : ∀ path ∈ tree.paths, tree.throttle path ≠ 0 → now + tree.throttle path ≠ 0) :
    (yieldSubtree now fuel path manager).Drained now fuel path := by
  induction fuel generalizing path manager with
  | zero => trivial
  | succ fuel induction =>
      have below : Orderly tree (yieldChildren now fuel path manager) ∧
          (yieldChildren now fuel path manager).paths = manager.paths ∧
          ∀ child ∈ manager.children path,
            (yieldChildren now fuel path manager).Drained now fuel child := by
        refine foldl_visited _ (fun visited current => Orderly tree current ∧
          current.paths = manager.paths ∧ ∀ child ∈ visited, current.Drained now fuel child)
          (manager.children path) ⟨orderly, rfl, by simp⟩
          fun visited next rest current parts held => ?_
        obtain ⟨sound, paths, drained⟩ := held
        refine ⟨sound.yieldSubtree fuel, paths_yieldSubtree.trans paths, fun child member => ?_⟩
        by_cases same : child = next
        · exact same ▸ induction sound
        · have seen : child ∈ visited := by simpa [same] using member
          have listed : child ∈ manager.children path := parts ▸ List.mem_append_left _ seen
          have nextListed : next ∈ manager.children path :=
            parts ▸ List.mem_append_right _ List.mem_cons_self
          exact (drained child seen).confined sound (confined_yieldSubtree sound)
            fun place under => children_apart listed nextListed (fun equal => same equal.symm) under
      obtain ⟨sound, paths, drained⟩ := below
      rcases yieldSubtree_cases fuel with ⟨-, paused, -, same⟩ | ⟨pause, shorter, same⟩
      · rw [same]
        refine ⟨fun _ => Or.inl paused, fun child member => drained child ?_⟩
        rwa [children_eq paths] at member
      · rw [same]
        have opened := sound.setPause fun given => Or.inl (shorter.resolve_left given)
        refine ⟨rests_yieldJobs opened (fun throttled => ?_) ?_, fun child member => ?_⟩
        · obtain ⟨listed, own⟩ := opened.throttle path throttled
          rw [own] at throttled ⊢
          exact lasting path listed throttled
        · rw [channel_setPause]
          exact Nat.lt_succ_self _
        · rw [children_eq paths_yieldJobs, children_setPause, children_eq paths] at member
          have still := (drained child member).confined sound (confined_setPause pause)
            (off_of_parent member)
          exact still.confined opened (confined_yieldJobs opened) (off_of_parent member)

end Drained

section Silent

theorem yielded_yieldJobs (inner : path ≠ []) :
    (yieldJobs path now fuel manager).yielded = manager.yielded := by
  have turns : Turns path now fun current => current.yielded = manager.yielded := by
    refine ⟨fun _ same _ => same, fun current job same _ _ => ?_, fun _ _ same _ => same⟩
    rw [yielded_advance, if_neg inner, List.append_nil, same]
  exact turns.yieldJobs rfl fuel

theorem yielded_fold (inner : ∀ child manager, child ≠ [] →
      (yieldSubtree now fuel child manager).yielded = manager.yielded) :
    (yieldChildren now fuel path manager).yielded = manager.yielded := by
  refine foldl_preserves_mem _ (fun current : ChannelManager => current.yielded = manager.yielded)
    _ rfl fun current child member same => ?_
  exact (inner child current (tail_of_mem_children member).1).trans same

/-- Jobs are handed to the runner by the root only. -/
theorem yielded_yieldSubtree (inner : path ≠ []) :
    (yieldSubtree now fuel path manager).yielded = manager.yielded := by
  induction fuel generalizing path manager with
  | zero => rfl
  | succ fuel induction =>
      have below : (yieldChildren now fuel path manager).yielded = manager.yielded :=
        yielded_fold fun _ _ inner => induction inner
      rcases yieldSubtree_cases fuel with ⟨-, -, -, same⟩ | ⟨pause, -, same⟩
      · rw [same]
        exact below
      · rw [same, yielded_yieldJobs inner]
        exact below

theorem yielded_yieldChildren :
    (yieldChildren now fuel path manager).yielded = manager.yielded :=
  yielded_fold fun _ _ => yielded_yieldSubtree

theorem yieldJobs_full (full : (manager.channel path).hasCapacity = false) :
    yieldJobs path now fuel manager = manager := by
  cases fuel with
  | zero => rfl
  | succ fuel =>
      rw [yieldJobs, full]
      rfl

theorem silent_yieldJobs (orderly : Orderly tree manager) (stuck : manager.Stuck path now) :
    Confined (· = path) nowhere manager (yieldJobs path now fuel manager) ∧
      (yieldJobs path now fuel manager).yielded = manager.yielded ∧
      (yieldJobs path now fuel manager).Stuck path now := by
  obtain ⟨pops, returns⟩ := @ChannelQueue.pop_pops _ _ now (orderly.tidy path).sorted
    (manager.channel path).sequential
  have nothing : (manager.popJob path now).1 = none := returns.mpr stuck
  cases fuel with
  | zero => exact ⟨Confined.refl _ _ _, rfl, stuck⟩
  | succ fuel =>
      rcases yieldJobs_cases fuel with ⟨-, same⟩ | ⟨-, same⟩ | ⟨job, -, popped, -⟩
      · rw [same]
        exact ⟨Confined.refl _ _ _, rfl, stuck⟩
      · rw [same]
        refine ⟨confined_popJob orderly, rfl, ?_⟩
        rw [Stuck, channel_popJob, if_pos rfl]
        exact pops.stuck nothing stuck
      · exact absurd (nothing.symm.trans popped) (Option.some_ne_none job).symm

/-- What a quiet channel does: it yields no job, and is quiet still. -/
structure Silent (manager : ChannelManager) (time : ℚ) (fuel : ℕ) (path : ChannelPath)
    (after : ChannelManager) : Prop where
  confined : Confined (path <:+ ·) nowhere manager after
  yielded : after.yielded = manager.yielded
  quiet : after.Quiet time fuel path

/-- Children may hand jobs to a channel that is full. -/
theorem silent_of_full (orderly : Orderly tree manager)
    (full : (manager.channel path).hasCapacity = false) :
    Silent manager time (fuel + 1) path (yieldSubtree time (fuel + 1) path manager) := by
  have any : Confined (Below path) (· = path) manager (yieldChildren time fuel path manager) :=
    confined_yieldChildren orderly
  have inner : Confined (path <:+ ·) nowhere manager (yieldChildren time fuel path manager) :=
    any.mono (fun place under => under.1) fun place same => Or.inl (suffix_of_eq place same)
  have still : ((yieldChildren time fuel path manager).channel path).hasCapacity = false := by
    rw [any.queue path fun below => below.2 rfl]
    exact full
  rcases yieldSubtree_cases fuel with ⟨-, -, -, same⟩ | ⟨pause, -, same⟩
  · rw [same]
    exact ⟨inner, yielded_yieldChildren, Or.inl still⟩
  · have opened : (((yieldChildren time fuel path manager).setPause path pause).channel
        path).hasCapacity = false := by
      rw [channel_setPause]
      exact still
    rw [same, yieldJobs_full opened]
    exact ⟨inner.trans ((confined_setPause pause).mono suffix_of_eq fun _ => Or.inr),
      yielded_yieldChildren, Or.inl opened⟩

/-- So they may to one that pauses. -/
theorem silent_of_paused (orderly : Orderly tree manager)
    (throttled : (manager.channel path).throttle ≠ 0)
    (paused : (manager.channel path).pauseUntil ≠ 0)
    (early : time < (manager.channel path).pauseUntil) :
    Silent manager time (fuel + 1) path (yieldSubtree time (fuel + 1) path manager) := by
  have any : Confined (Below path) (· = path) manager (yieldChildren time fuel path manager) :=
    confined_yieldChildren orderly
  have settings := any.queue path fun below => below.2 rfl
  have still : ((yieldChildren time fuel path manager).channel path).throttle ≠ 0 ∧
      ((yieldChildren time fuel path manager).channel path).pauseUntil ≠ 0 ∧
      time < ((yieldChildren time fuel path manager).channel path).pauseUntil := by
    rw [settings]
    exact ⟨throttled, paused, early⟩
  have same : yieldSubtree time (fuel + 1) path manager = yieldChildren time fuel path manager := by
    rw [yieldSubtree, ← yieldChildren]
    exact (if_pos ⟨still.1, still.2.1⟩).trans (if_pos still.2.2)
  rw [same]
  exact ⟨any.mono (fun place under => under.1) fun place same => Or.inl (suffix_of_eq place same),
    yielded_yieldChildren, Or.inr (Or.inl still)⟩

/-- Children that are quiet stay so, whichever of them yields. -/
theorem silent_yieldChildren (orderly : Orderly tree manager)
    (quiet : ∀ child ∈ manager.children path, manager.Quiet time fuel child)
    (silent : ∀ {child manager}, Orderly tree manager → manager.Quiet time fuel child →
      Silent manager time fuel child (yieldSubtree time fuel child manager)) :
    Orderly tree (yieldChildren time fuel path manager) ∧
      Confined (Below path) nowhere manager (yieldChildren time fuel path manager) ∧
      ∀ child ∈ manager.children path,
        (yieldChildren time fuel path manager).Quiet time fuel child := by
  refine foldl_preserves_mem _ (fun current => Orderly tree current ∧
    Confined (Below path) nowhere manager current ∧
      ∀ child ∈ manager.children path, current.Quiet time fuel child) _
    ⟨orderly, Confined.refl _ _ _, quiet⟩ fun current next listed held => ?_
  obtain ⟨sound, confined, quiet⟩ := held
  have one := silent sound (quiet next listed)
  refine ⟨sound.yieldSubtree fuel, confined.trans (one.confined.mono (fun place under =>
    below_of_child listed under) fun place => Or.inr), fun child member => ?_⟩
  by_cases same : child = next
  · exact same ▸ one.quiet
  · refine (quiet child member).confined sound one.confined fun place under => ⟨?_, not_false⟩
    exact (children_apart member listed (fun equal => same equal.symm) under).1

/-- A channel that has no job which it may run gets none from quiet children. -/
theorem silent_of_stuck (orderly : Orderly tree manager) (stuck : manager.Stuck path time)
    (quiet : ∀ child ∈ manager.children path, manager.Quiet time fuel child)
    (silent : ∀ {child manager}, Orderly tree manager → manager.Quiet time fuel child →
      Silent manager time fuel child (yieldSubtree time fuel child manager)) :
    Silent manager time (fuel + 1) path (yieldSubtree time (fuel + 1) path manager) := by
  obtain ⟨sound, confined, quiet⟩ := silent_yieldChildren orderly quiet silent
  have stuck := stuck.confined orderly confined (fun under => under.2 rfl)
    (confined.outside path (fun under => under.2 rfl) not_false)
  have inner := confined.mono (fun place under => under.1) fun place => Or.inr
  rcases yieldSubtree_cases fuel with ⟨-, -, -, same⟩ | ⟨pause, shorter, same⟩
  · rw [same]
    refine ⟨inner, yielded_yieldChildren, Or.inr (Or.inr ⟨stuck, fun child member => ?_⟩)⟩
    exact quiet child (children_eq inner.paths ▸ member)
  · have opened := sound.setPause fun given => Or.inl (shorter.resolve_left given)
    have free : ((yieldChildren time fuel path manager).setPause path pause).Stuck path time := by
      rw [Stuck, channel_setPause]
      exact stuck
    obtain ⟨stays, handed, stuck⟩ := silent_yieldJobs opened free
    rw [same]
    refine ⟨(inner.trans ((confined_setPause pause).mono suffix_of_eq fun _ => Or.inr)).trans
      (stays.mono suffix_of_eq fun _ => Or.inr), handed.trans yielded_yieldChildren,
      Or.inr (Or.inr ⟨stuck, fun child member => ?_⟩)⟩
    rw [children_eq stays.paths, children_setPause, children_eq inner.paths] at member
    have off (place : ChannelPath) (under : child <:+ place) :
        ¬ place = path ∧ ¬ nowhere place :=
      ⟨(off_of_parent member place under).1, not_false⟩
    exact ((quiet child member).confined sound (confined_setPause pause) off).confined opened stays
      off

theorem Quiet.silent (orderly : Orderly tree manager) (quiet : manager.Quiet time fuel path) :
    Silent manager time fuel path (yieldSubtree time fuel path manager) := by
  induction fuel generalizing path manager with
  | zero => exact ⟨Confined.refl _ _ _, rfl, trivial⟩
  | succ fuel induction =>
      rcases quiet with full | ⟨throttled, paused, early⟩ | ⟨stuck, below⟩
      · exact silent_of_full orderly full
      · exact silent_of_paused orderly throttled paused early
      · exact silent_of_stuck orderly stuck below fun orderly quiet => induction orderly quiet

end Silent

/-- Without a further notification a job is yielded at a time. -/
def YieldsAt (manager : ChannelManager) (time : ℚ) : Prop :=
  (manager.getJobsToRun time).yielded ≠ manager.yielded

instance : Decidable (manager.YieldsAt time) :=
  inferInstanceAs (Decidable (_ ≠ _))

/-- Channels of which all jobs were yielded ask for a wake-up by the time of any further one. -/
theorem covers_of_yieldsAt (orderly : Orderly tree manager) (later : now ≤ time)
    (drained : manager.Drained now manager.depth []) (yields : manager.YieldsAt time) :
    Covers time manager.getWakeupTime := by
  by_contra uncovered
  have quiet : manager.Quiet time manager.depth [] := by
    by_contra loud
    exact uncovered (covers_of_not_quiet orderly later drained loud)
  exact yields (quiet.silent orderly).yielded

/-- Forgetting jobs changes no channel. -/
theorem confined_collect : Confined nowhere nowhere manager manager.collect :=
  ⟨rfl, fun _ => Or.inl rfl, fun _ _ _ => rfl, fun _ _ => rfl⟩

end ChannelManager

/-- No pause that begins now would end at time zero, which stands for no pause. -/
def ChannelTree.PausesLast (tree : ChannelTree) (now : ℚ) : Prop :=
  ∀ path ∈ tree.paths, tree.throttle path ≠ 0 → now + tree.throttle path ≠ 0

theorem ChannelTree.pausesLast_of_pos {tree : ChannelTree} {now : ℚ} (positive : 0 < now)
    (delays : ∀ path ∈ tree.paths, 0 ≤ tree.throttle path) : tree.PausesLast now := by
  intro path listed _
  have delay : (0 : ℚ) ≤ tree.throttle path := Int.cast_nonneg (delays path listed)
  exact (add_pos_of_pos_of_nonneg positive delay).ne'

namespace Session

/-- The channels after a run, once the jobs to run now are exhausted. -/
def exhausted (tree : ChannelTree) (actions : List ManagerAction) (now : ℚ) : ChannelManager :=
  (runSteps step (start tree) (actions ++ [.getJobsToRun now])).manager

theorem exhausted_eq (tree : ChannelTree) (actions : List ManagerAction) (now : ℚ) :
    exhausted tree actions now =
      ((runSteps step (start tree) actions).manager.getJobsToRun now).collect := by
  rw [exhausted, runSteps_append]
  rfl

theorem drained_exhausted {tree : ChannelTree} {now : ℚ} (actions : List ManagerAction)
    (lasting : tree.PausesLast now) :
    (exhausted tree actions now).Drained now (exhausted tree actions now).depth [] := by
  have orderly := orderly_runSteps tree actions
  rw [exhausted_eq]
  have depth : ((runSteps step (start tree) actions).manager.getJobsToRun now).collect.depth =
      (runSteps step (start tree) actions).manager.depth := by
    rw [ChannelManager.depth, ChannelManager.depth, ChannelManager.confined_collect.paths,
      ChannelManager.getJobsToRun, ChannelManager.paths_yieldSubtree]
  rw [depth]
  exact (ChannelManager.drained_yieldSubtree orderly lasting).confined (orderly.yieldSubtree _)
    ChannelManager.confined_collect fun _ _ => ⟨not_false, not_false⟩

/-- In every run, once the jobs to run now are exhausted, the channels ask for a wake-up that is not
later than any time at which a job would be yielded without a notification. -/
theorem never_oversleeps (tree : ChannelTree) (actions : List ManagerAction) (now time : ℚ)
    (lasting : tree.PausesLast now) (later : now < time)
    (yields : (exhausted tree actions now).YieldsAt time) :
    (exhausted tree actions now).getWakeupTime ≠ 0 ∧
      (exhausted tree actions now).getWakeupTime ≤ time :=
  ChannelManager.covers_of_yieldsAt (orderly_runSteps tree (actions ++ [.getJobsToRun now]))
    later.le (drained_exhausted actions lasting) yields

section Throttled

/-- The root alone, with a throttle. -/
def throttled (throttle : ℤ) : ChannelTree := { alone 4 with throttle := fun _ => throttle }

def twoJobs : List ManagerAction :=
  [.notify (row "" "a" 10 .pending), .notify (row "" "b" 10 .pending)]

/-- The second job waits for the end of the pause. -/
theorem second_job_covered :
    (exhausted (throttled 2) twoJobs 1).getWakeupTime ≠ 0 ∧
      (exhausted (throttled 2) twoJobs 1).getWakeupTime ≤ 3 := by
  refine never_oversleeps (throttled 2) twoJobs 1 3 ?_ (by norm_num) (by decide +kernel)
  exact ChannelTree.pausesLast_of_pos one_pos fun _ _ => Int.zero_le_ofNat 2

/-- A negative throttle that offsets the time stops a channel after one job, and no wake-up is asked
for. -/
theorem second_job_overslept :
    (1700000000 : ℚ) < 1700000001 ∧
      (exhausted (throttled (-1700000000)) twoJobs 1700000000).YieldsAt 1700000001 ∧
      (exhausted (throttled (-1700000000)) twoJobs 1700000000).getWakeupTime = 0 := by
  refine ⟨by norm_num, ?_, ?_⟩
  · decide +kernel
  · decide +kernel

end Throttled

end Session

end OdooConnector.Queue
