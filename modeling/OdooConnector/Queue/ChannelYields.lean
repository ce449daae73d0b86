import Mathlib.Algebra.Order.Group.Int
import OdooConnector.Library.Fold
import OdooConnector.Queue.ChannelPlaces

/-!
# Jobs that channels yield

A channel yields jobs while it has capacity, so no channel yields more than it may run. A yielded
job is queued in the parent, or runs in all channels of its path.
-/

namespace OdooConnector.Queue

namespace ChannelManager

variable {manager before middle after : ChannelManager} {job other : ℕ}
  {path place parent : ChannelPath} {name : String} {now : ℚ}

/-- No channel with a positive capacity runs more jobs than that. -/
def Within (manager : ChannelManager) : Prop :=
  ∀ path capacity, (manager.channel path).capacity = some capacity → 0 < capacity →
    ((manager.channel path).running.card : ℤ) ≤ capacity

/-- What yielding keeps, and that the jobs which are handed to the runner run in the root. -/
structure Yields (before after : ChannelManager) : Prop where
  kept : Kept after
  jobsByUuid : after.jobsByUuid = before.jobsByUuid
  sameJob : ∀ other, SameJob (before.job other) (after.job other)
  running : ∀ path job, before.Running path job → after.Running path job
  yielded : ∃ handed, after.yielded = before.yielded ++ handed ∧
    ∀ job ∈ handed, after.Running [] job
  within : before.Within → after.Within

theorem Yields.refl (kept : Kept manager) : Yields manager manager :=
  ⟨kept, rfl, fun _ => SameJob.refl _, fun _ _ => id, ⟨[], by simp, by simp⟩, id⟩

theorem Yields.trans (front : Yields before middle) (back : Yields middle after) :
    Yields before after := by
  refine ⟨back.kept, back.jobsByUuid.trans front.jobsByUuid,
    fun other => (front.sameJob other).trans (back.sameJob other),
    fun path job running => back.running path job (front.running path job running), ?_,
    fun within => back.within (front.within within)⟩
  obtain ⟨first, same, runs⟩ := front.yielded
  obtain ⟨second, same', runs'⟩ := back.yielded
  refine ⟨first ++ second, by rw [same', same, List.append_assoc], fun job member => ?_⟩
  cases List.mem_append.mp member with
  | inl member => exact back.running [] job (runs job member)
  | inr member => exact runs' job member

/-- Nothing is moved, and no more jobs run. -/
theorem Yields.of_frame (kept : Kept before) (frame : Frame none before after)
    (yielded : after.yielded = before.yielded)
    (running : ∀ path, (after.channel path).running = (before.channel path).running) :
    Yields before after := by
  refine ⟨kept.of_frame frame fun job same => (by cases same), frame.jobsByUuid, frame.sameJob,
    fun path job => (frame.running_iff (by simp)).mpr, ⟨[], by simp [yielded], by simp⟩, ?_⟩
  intro within path capacity bounded positive
  rw [(frame.agrees path).capacity] at bounded
  rw [running path]
  exact within path capacity bounded positive

/-- A pause is set, or is over. -/
def setPause (path : ChannelPath) (pause : ℚ) (manager : ChannelManager) : ChannelManager :=
  manager.modify path fun channel => { channel with pauseUntil := pause }

theorem channel_setPause (pause : ℚ) : (manager.setPause path pause).channel path =
    { manager.channel path with pauseUntil := pause } :=
  Function.update_self _ _ _

theorem yields_setPause (kept : Kept manager) (path : ChannelPath) (pause : ℚ) :
    Yields manager (manager.setPause path pause) := by
  refine Yields.of_frame kept (Frame.modify ?_) rfl fun place => ?_
  · exact ⟨fun _ _ => Iff.rfl, fun _ _ => Iff.rfl, fun _ _ => Iff.rfl, rfl, id⟩
  · rw [setPause, channel_modify]
    split
    · rename_i same
      rw [same]
    · rfl

section Advance

variable (manager path now) in
theorem popJob_popped : ChannelQueue.Popped manager.job (manager.channel path).queue
    ((manager.channel path).queue.pop manager.job (manager.channel path).sequential now) :=
  ChannelQueue.pop_popped _

theorem channel_popJob : (manager.popJob path now).2.channel place =
    if place = path then
      { manager.channel path with
        queue := ((manager.channel path).queue.pop manager.job
          (manager.channel path).sequential now).2.2 }
    else manager.channel place :=
  Function.update_apply _ _ _ _

theorem frame_popJob {moved : Option ℕ} (kept : Kept manager)
    (popped : (manager.popJob path now).1 = moved) :
    Frame moved manager (manager.popJob path now).2 := by
  have result := popJob_popped manager path now
  refine ⟨rfl, rfl, rfl, result.sameJob, fun place => ?_⟩
  rw [channel_popJob]
  by_cases same : place = path
  · subst same
    rw [if_pos rfl]
    refine ⟨fun other ne => ?_, fun _ _ => Iff.rfl, fun _ _ => Iff.rfl, rfl, result.separate⟩
    cases moved with
    | none => exact result.none popped other
    | some job =>
        have ne : other ≠ job := Option.some_inj.not.mp ne
        rw [(result.some (kept.separate place) job popped).2 other]
        simp [ne]
  · rw [if_neg same]
    exact Channel.Agrees.refl _ _

theorem yields_popJob_none (kept : Kept manager) (popped : (manager.popJob path now).1 = none) :
    Yields manager (manager.popJob path now).2 := by
  refine Yields.of_frame kept (frame_popJob kept popped) rfl fun place => ?_
  rw [channel_popJob]
  split
  · rename_i same
    rw [same]
  · rfl

theorem queued_of_popJob (kept : Kept manager) (popped : (manager.popJob path now).1 = some job) :
    manager.Queued path job :=
  ((popJob_popped manager path now).some (kept.separate path) job popped).1

/-- A job is popped, runs in its channel and is delivered. -/
def advance (job : ℕ) (path : ChannelPath) (now : ℚ) (manager : ChannelManager) : ChannelManager :=
  deliver job path <| (manager.popJob path now).2.modify path fun channel =>
    { channel with running := insert job channel.running }

theorem channel_advance : (advance job path now manager).channel place =
    if place = path then
      { manager.channel path with
        queue := ((manager.channel path).queue.pop manager.job
          (manager.channel path).sequential now).2.2
        running := insert job (manager.channel path).running }
    else if path ≠ [] ∧ path.tail = place then
      { manager.channel place with
        queue := (manager.channel place).queue.add (manager.popJob path now).2.job job }
    else manager.channel place := by
  cases path with
  | nil =>
      rw [advance, deliver, channel_modify]
      split
      · rw [channel_popJob, if_pos rfl]
      · rename_i other
        rw [channel_popJob, if_neg other, if_neg fun nested => nested.1 rfl]
  | cons name parent =>
      rw [advance, deliver, channel_modify]
      by_cases same : place = name :: parent
      · have outer : place ≠ parent := fun equal => cons_ne_tail (same.symm.trans equal)
        rw [if_neg outer, if_pos same, channel_modify, if_pos same, channel_popJob, if_pos rfl]
      · rw [if_neg same]
        by_cases next : place = parent
        · subst next
          rw [if_pos rfl, if_pos ⟨List.cons_ne_nil _ _, rfl⟩, channel_modify, if_neg same,
            channel_popJob, if_neg same]
          rfl
        · rw [if_neg next, channel_modify, if_neg same, channel_popJob, if_neg same, if_neg]
          exact fun nested => next nested.2.symm

theorem exists_cons_iff : path ≠ [] ∧ path.tail = place ↔ ∃ name, path = name :: place := by
  cases path with
  | nil => simp
  | cons name parent => simp

/-- The job leaves the queue of its channel for that of the parent. -/
theorem queued_advance (kept : Kept manager) (popped : (manager.popJob path now).1 = some job) :
    (advance job path now manager).Queued place job ↔
      manager.Queued place job ∧ place ≠ path ∨ ∃ name, path = name :: place := by
  rw [← exists_cons_iff, Queued, channel_advance]
  by_cases same : place = path
  · subst same
    rw [if_pos rfl]
    have removed := ((popJob_popped manager place now).some (kept.separate place) job popped).2 job
    refine iff_of_false (fun queued => (removed.mp queued).2 rfl) fun waits => ?_
    cases waits with
    | inl waits => exact waits.2 rfl
    | inr next =>
        obtain ⟨name, equal⟩ := exists_cons_iff.mp next
        exact cons_ne_tail equal.symm
  · rw [if_neg same]
    by_cases next : path ≠ [] ∧ path.tail = place
    · rw [if_pos next]
      exact iff_of_true (ChannelQueue.mem_add.mpr (Or.inl rfl)) (Or.inr next)
    · rw [if_neg next]
      exact ⟨fun queued => Or.inl ⟨queued, same⟩, fun waits => (waits.resolve_right next).1⟩

theorem mem_running_advance : other ∈ ((advance job path now manager).channel place).running ↔
    other = job ∧ place = path ∨ other ∈ (manager.channel place).running := by
  rw [channel_advance]
  by_cases same : place = path
  · subst same
    simp
  · rw [if_neg same]
    split <;> simp [same]

theorem failed_advance :
    ((advance job path now manager).channel place).failed = (manager.channel place).failed := by
  rw [channel_advance]
  by_cases same : place = path
  · rw [if_pos same, same]
  · rw [if_neg same]
    split <;> rfl

theorem capacity_advance :
    ((advance job path now manager).channel place).capacity = (manager.channel place).capacity := by
  rw [channel_advance]
  by_cases same : place = path
  · rw [if_pos same, same]
  · rw [if_neg same]
    split <;> rfl

theorem frame_advance (kept : Kept manager) (popped : (manager.popJob path now).1 = some job) :
    Frame (some job) manager (advance job path now manager) := by
  have run : Frame (some job) manager ((manager.popJob path now).2.modify path fun channel =>
      { channel with running := insert job channel.running }) :=
    (frame_popJob kept popped).trans (Frame.modify Channel.Agrees.runPopped)
  refine run.trans ?_
  cases path with
  | nil =>
      exact ⟨rfl, rfl, rfl, fun _ => SameJob.refl _, fun _ => Channel.Agrees.refl _ _⟩
  | cons name parent =>
      rw [advance, deliver]
      apply Frame.modify
      apply Channel.Agrees.enqueue
      have outer : parent ≠ name :: parent := fun same => cons_ne_tail same.symm
      rw [channel_modify, if_neg outer, channel_popJob, if_neg outer]
      intro queued
      exact outer ((kept.placed job).queued_unique queued (queued_of_popJob kept popped))

/-- A channel with capacity may run one more job. -/
theorem within_advance (kept : Kept manager) (popped : (manager.popJob path now).1 = some job)
    (capacity : (manager.channel path).hasCapacity) (within : manager.Within) :
    (advance job path now manager).Within := by
  intro place limit bounded positive
  rw [capacity_advance] at bounded
  have before := within place limit bounded positive
  by_cases same : place = path
  · subst same
    have outside : job ∉ (manager.channel place).running :=
      (kept.placed job).queued_running place (queued_of_popJob kept popped)
    have less : ((manager.channel place).running.card : ℤ) < limit := by
      rw [Channel.hasCapacity, bounded] at capacity
      split at capacity
      · cases capacity
      · have nonzero : ¬ limit = 0 := fun zero => by omega
        simpa [nonzero] using capacity
    rw [channel_advance, if_pos rfl, Finset.card_insert_of_notMem outside]
    omega
  · have unchanged : ((advance job path now manager).channel place).running =
        (manager.channel place).running := by
      ext other
      simp [mem_running_advance, same]
    rw [unchanged]
    exact before

theorem yielded_advance : (advance job path now manager).yielded =
    manager.yielded ++ if path = [] then [job] else [] := by
  cases path with
  | nil => rfl
  | cons name parent =>
      rw [if_neg (List.cons_ne_nil _ _), List.append_nil]
      rfl

theorem yields_advance (kept : Kept manager) (popped : (manager.popJob path now).1 = some job)
    (capacity : (manager.channel path).hasCapacity) :
    Yields manager (advance job path now manager) := by
  have queued := queued_of_popJob kept popped
  have frame := frame_advance kept popped
  have known := kept.known path job (Or.inl queued)
  refine ⟨?_, frame.jobsByUuid, frame.sameJob, fun place other running => ?_, ?_,
    within_advance kept popped capacity⟩
  · refine kept.of_moved frame known (((kept.placed job).advance queued).congr
      (fun place => queued_advance kept popped) (fun place => ?_) fun place => ?_)
    · rw [Running, mem_running_advance]
      simp [Running]
    · rw [Failed, failed_advance]
      rfl
  · exact mem_running_advance.mpr (Or.inr running)
  · refine ⟨_, yielded_advance, fun other member => ?_⟩
    split at member
    · rename_i root
      rw [List.mem_singleton.mp member]
      exact mem_running_advance.mpr (Or.inl ⟨rfl, root.symm⟩)
    · cases member

theorem throttle_advance :
    ((advance job path now manager).channel place).throttle = (manager.channel place).throttle := by
  rw [channel_advance]
  by_cases same : place = path
  · rw [if_pos same, same]
  · rw [if_neg same]
    split <;> rfl

end Advance

section Loops

variable {Inv : ChannelManager → Prop}

/-- A turn of the loop: the channel is full, or has no job that it may run, or one job goes on its
way, after which a throttled channel pauses. -/
theorem yieldJobs_cases (fuel : ℕ) :
    ((manager.channel path).hasCapacity = false ∧
        yieldJobs path now (fuel + 1) manager = manager) ∨
      ((manager.popJob path now).1 = none ∧
        yieldJobs path now (fuel + 1) manager = (manager.popJob path now).2) ∨
      ∃ job, (manager.channel path).hasCapacity = true ∧
        (manager.popJob path now).1 = some job ∧
        ((manager.channel path).throttle ≠ 0 ∧
            yieldJobs path now (fuel + 1) manager =
              (advance job path now manager).setPause path
                (now + (manager.channel path).throttle) ∨
          yieldJobs path now (fuel + 1) manager =
            yieldJobs path now fuel (advance job path now manager)) := by
  rw [yieldJobs]
  split
  · rename_i capacity
    split
    · rename_i after found
      have nothing : (manager.popJob path now).1 = none := by rw [found]
      have same : (manager.popJob path now).2 = after := by rw [found]
      exact Or.inr (Or.inl ⟨nothing, same.symm⟩)
    · rename_i job after found
      have popped : (manager.popJob path now).1 = some job := by rw [found]
      have same : (manager.popJob path now).2 = after := by rw [found]
      have throttle := @throttle_advance manager job path path now
      subst same
      rw [advance] at throttle
      refine Or.inr (Or.inr ⟨job, capacity, popped, ?_⟩)
      dsimp only
      rw [throttle]
      split
      · rename_i throttled
        exact Or.inl ⟨throttled, rfl⟩
      · exact Or.inr rfl
  · rename_i full
    exact Or.inl ⟨Bool.eq_false_of_not_eq_true full, rfl⟩

/-- What the turns of the loop over a channel preserve. -/
structure Turns (path : ChannelPath) (now : ℚ) (Inv : ChannelManager → Prop) : Prop where
  nothing : ∀ manager, Inv manager → (manager.popJob path now).1 = none →
    Inv (manager.popJob path now).2
  advance : ∀ manager job, Inv manager → (manager.channel path).hasCapacity = true →
    (manager.popJob path now).1 = some job → Inv (manager.advance job path now)
  pause : ∀ manager pause, Inv manager →
    (pause ≠ 0 → pause = (manager.channel path).pauseUntil ∨
      (manager.channel path).throttle ≠ 0) → Inv (manager.setPause path pause)

theorem Turns.yieldJobs (turns : Turns path now Inv) (start : Inv manager) (fuel : ℕ) :
    Inv (ChannelManager.yieldJobs path now fuel manager) := by
  induction fuel generalizing manager with
  | zero => exact start
  | succ fuel induction =>
      rcases yieldJobs_cases fuel with ⟨-, same⟩ | ⟨nothing, same⟩ | ⟨job, capacity, popped, turn⟩
      · rw [same]
        exact start
      · rw [same]
        exact turns.nothing manager start nothing
      · have one := turns.advance manager job start capacity popped
        rcases turn with ⟨throttled, same⟩ | same
        · rw [same]
          refine turns.pause _ _ one fun _ => Or.inr ?_
          rwa [throttle_advance]
        · rw [same]
          exact induction one

/-- The children of a channel yield, one after another. -/
def yieldChildren (now : ℚ) (fuel : ℕ) (path : ChannelPath) (manager : ChannelManager) :
    ChannelManager :=
  (manager.children path).foldl (fun manager child => yieldSubtree now fuel child manager) manager

/-- Unless a channel pauses still, it yields once its children have. -/
theorem yieldSubtree_cases (fuel : ℕ) :
    (((yieldChildren now fuel path manager).channel path).throttle ≠ 0 ∧
        ((yieldChildren now fuel path manager).channel path).pauseUntil ≠ 0 ∧
        now < ((yieldChildren now fuel path manager).channel path).pauseUntil ∧
        yieldSubtree now (fuel + 1) path manager = yieldChildren now fuel path manager) ∨
      ∃ pause,
        (pause = 0 ∨ pause = ((yieldChildren now fuel path manager).channel path).pauseUntil) ∧
        yieldSubtree now (fuel + 1) path manager =
          yieldJobs path now (((yieldChildren now fuel path manager).channel path).queue.size + 1)
            ((yieldChildren now fuel path manager).setPause path pause) := by
  rw [yieldSubtree, ← yieldChildren]
  dsimp only
  split
  · rename_i paused
    split
    · rename_i early
      exact Or.inl ⟨paused.1, paused.2, early, rfl⟩
    · exact Or.inr ⟨0, Or.inl rfl, rfl⟩
  · refine Or.inr ⟨_, Or.inr rfl, ?_⟩
    rw [setPause, modify, Function.update_eq_self]

/-- What all turns preserve, yielding preserves. -/
theorem yieldSubtree_preserves (turns : ∀ path, Turns path now Inv) (start : Inv manager)
    (fuel : ℕ) : Inv (yieldSubtree now fuel path manager) := by
  induction fuel generalizing path manager with
  | zero => exact start
  | succ fuel induction =>
      have below : Inv (yieldChildren now fuel path manager) :=
        foldl_preserves _ Inv _ start fun _ _ held => induction held
      rcases yieldSubtree_cases fuel with ⟨-, -, -, same⟩ | ⟨pause, shorter, same⟩
      · rw [same]
        exact below
      · rw [same]
        refine (turns path).yieldJobs ((turns path).pause _ _ below fun given => Or.inl ?_) _
        exact shorter.resolve_left given

end Loops

/-- Yielding below and in a channel. -/
theorem yieldSubtree_yields (kept : Kept manager) (fuel : ℕ) :
    Yields manager (yieldSubtree now fuel path manager) := by
  refine yieldSubtree_preserves (fun path => ?_) (Yields.refl kept) fuel
  constructor
  · exact fun current held nothing => held.trans (yields_popJob_none held.kept nothing)
  · exact fun current job held capacity popped =>
      held.trans (yields_advance held.kept popped capacity)
  · exact fun current pause held _ => held.trans (yields_setPause held.kept path pause)

theorem getJobsToRun_yields (kept : Kept manager) (now : ℚ) :
    Yields manager (manager.getJobsToRun now) :=
  yieldSubtree_yields kept _

end ChannelManager

end OdooConnector.Queue
