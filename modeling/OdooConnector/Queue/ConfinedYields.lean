import OdooConnector.Queue.ChannelLoops
import OdooConnector.Queue.OrderlyChannels

/-!
# What yielding leaves as it is

When a channel yields, only the channels below it change and the jobs of those; the parent gets jobs
into its queue.
-/

namespace OdooConnector.Queue

namespace ChannelManager

variable {tree : ChannelTree} {manager before middle after : ChannelManager} {job : ℕ}
  {path place child : ChannelPath} {now time : ℚ} {fuel : ℕ}
  {inside outlet wider : ChannelPath → Prop}

def nowhere (_ : ChannelPath) : Prop := False

/-- Only channels inside change, and jobs of those, apart from the queues of the outlet. -/
structure Confined (inside outlet : ChannelPath → Prop) (before after : ChannelManager) : Prop where
  paths : after.paths = before.paths
  job : ∀ job, after.job job = before.job job ∨
    after.job job = (before.job job).setNoEta ∧ inside (before.job job).channel
  outside : ∀ place, ¬ inside place → ¬ outlet place → after.channel place = before.channel place
  queue : ∀ place, ¬ inside place →
    after.channel place = { before.channel place with queue := (after.channel place).queue }

namespace Confined

theorem refl (inside outlet : ChannelPath → Prop) (manager : ChannelManager) :
    Confined inside outlet manager manager :=
  ⟨rfl, fun _ => Or.inl rfl, fun _ _ _ => rfl, fun _ _ => rfl⟩

theorem trans (front : Confined inside outlet before middle)
    (back : Confined inside outlet middle after) : Confined inside outlet before after := by
  refine ⟨back.paths.trans front.paths, fun job => ?_,
    fun place off shut => (back.outside place off shut).trans (front.outside place off shut),
    fun place off => ?_⟩
  · rcases front.job job with same | ⟨lost, own⟩
    · rw [← same]
      exact back.job job
    · refine Or.inr ⟨?_, own⟩
      rcases back.job job with same | ⟨again, -⟩
      · rw [same, lost]
      · rw [again, lost]
        rfl
  · rw [back.queue place off, front.queue place off]

theorem mono {outlet' : ChannelPath → Prop} (confined : Confined inside outlet before after)
    (within : ∀ place, inside place → wider place)
    (reaches : ∀ place, outlet place → wider place ∨ outlet' place) :
    Confined wider outlet' before after := by
  refine ⟨confined.paths, fun job => (confined.job job).imp_right fun lost =>
    ⟨lost.1, within _ lost.2⟩, fun place off shut => ?_, fun place off => ?_⟩
  · exact confined.outside place (fun inner => off (within place inner))
      fun open_ => (reaches place open_).elim off shut
  · exact confined.queue place fun inner => off (within place inner)

theorem modify {change : Channel → Channel} (path : ChannelPath) :
    Confined (· = path) outlet manager (manager.modify path change) := by
  have elsewhere (place : ChannelPath) (off : place ≠ path) :
      (manager.modify path change).channel place = manager.channel place := by
    rw [channel_modify, if_neg off]
  refine ⟨rfl, fun _ => Or.inl rfl, fun place off _ => elsewhere place off, fun place off => ?_⟩
  rw [elsewhere place off]

/-- Losing its eta does not change where a job comes among those that are ready. -/
theorem rank (confined : Confined inside outlet before after) (job : ℕ) :
    (after.job job).sortingKeyIgnoringEta = (before.job job).sortingKeyIgnoringEta := by
  rcases confined.job job with same | ⟨lost, -⟩
  · rw [same]
  · rw [lost]
    rfl

/-- Jobs that wait for their etas outside stay as they are. -/
theorem job_of_eta (confined : Confined inside outlet before after) (orderly : Orderly tree before)
    (off : ¬ inside place) (member : job ∈ (before.channel place).queue.etaQueue) :
    after.job job = before.job job := by
  rcases confined.job job with same | ⟨-, own⟩
  · exact same
  · rw [(orderly.tidy place).own job (PriorityQueue.mem_heap member)] at own
    exact absurd own off

end Confined

theorem confined_popJob (orderly : Orderly tree manager) :
    Confined (· = path) outlet manager (manager.popJob path now).2 := by
  have tidy := orderly.tidy path
  obtain ⟨pops, -⟩ := @ChannelQueue.pop_pops _ _ now tidy.sorted (manager.channel path).sequential
  have elsewhere (place : ChannelPath) (off : place ≠ path) :
      (manager.popJob path now).2.channel place = manager.channel place := by
    rw [channel_popJob, if_neg off]
  refine ⟨rfl, fun job => ?_, fun place off _ => elsewhere place off, fun place off => ?_⟩
  · exact (pops.changed job).imp_right fun lost =>
      ⟨lost.1, tidy.own job (PriorityQueue.mem_heap lost.2.1)⟩
  · rw [elsewhere place off]

theorem confined_advance (orderly : Orderly tree manager) :
    Confined (· = path) (path.tail = ·) manager (advance job path now manager) := by
  have popped : Confined (· = path) (path.tail = ·) manager (manager.popJob path now).2 :=
    confined_popJob orderly
  have jobs : (advance job path now manager).job = (manager.popJob path now).2.job := by
    cases path <;> rfl
  have paths : (advance job path now manager).paths = manager.paths := by
    cases path <;> rfl
  refine ⟨paths, fun job => jobs ▸ popped.job job, fun place off shut => ?_, fun place off => ?_⟩
  · rw [channel_advance, if_neg off, if_neg fun next => shut next.2]
  · rw [channel_advance, if_neg off]
    split <;> rfl

theorem confined_setPause (pause : ℚ) :
    Confined (· = path) outlet manager (manager.setPause path pause) :=
  Confined.modify path

theorem confined_yieldJobs (orderly : Orderly tree manager) :
    Confined (· = path) (path.tail = ·) manager (yieldJobs path now fuel manager) := by
  have sound := Orderly.turns tree path now
  have turns : Turns path now fun current =>
      Orderly tree current ∧ Confined (· = path) (path.tail = ·) manager current := by
    constructor
    · intro current held nothing
      exact ⟨sound.nothing _ held.1 nothing, held.2.trans (confined_popJob held.1)⟩
    · intro current job held capacity popped
      exact ⟨sound.advance _ _ held.1 capacity popped, held.2.trans (confined_advance held.1)⟩
    · intro current pause held given
      exact ⟨sound.pause _ _ held.1 given, held.2.trans (confined_setPause pause)⟩
  exact (turns.yieldJobs ⟨orderly, Confined.refl _ _ _⟩ fuel).2

/-- The channels below a channel, without it. -/
def Below (path place : ChannelPath) : Prop := path <:+ place ∧ place ≠ path

theorem tail_of_mem_children (member : child ∈ manager.children path) :
    child ≠ [] ∧ child.tail = path := by
  simpa using (List.mem_filter.mp member).2

theorem below_of_child (member : child ∈ manager.children path) (under : child <:+ place) :
    Below path place := by
  have longer := (mem_children member).2
  have fits := under.length_le
  refine ⟨(tail_of_mem_children member).2 ▸ (List.tail_suffix child).trans under, fun same => ?_⟩
  rw [same] at fits
  omega

/-- Nothing is below two children. -/
theorem children_apart {other : ChannelPath} (member : child ∈ manager.children path)
    (listed : other ∈ manager.children path) (apart : other ≠ child) (under : child <:+ place) :
    ¬ other <:+ place ∧ other.tail ≠ place := by
  have lengths : other.length = child.length :=
    (mem_children listed).2.trans (mem_children member).2.symm
  refine ⟨fun inner => apart ?_, fun outer => ?_⟩
  · exact (List.suffix_of_suffix_length_le inner under lengths.le).eq_of_length lengths
  · exact (below_of_child member under).2 (outer.symm.trans (tail_of_mem_children listed).2)

theorem children_eq (same : after.paths = before.paths) :
    after.children path = before.children path := by
  rw [children, children, same]

theorem children_setPause (pause : ℚ) :
    (manager.setPause path pause).children place = manager.children place := rfl

theorem suffix_of_eq (place : ChannelPath) (same : place = path) : path <:+ place :=
  same ▸ List.suffix_rfl

/-- A channel yields in itself and below, and hands jobs to its parent. -/
theorem confined_yieldSubtree (orderly : Orderly tree manager) :
    Confined (path <:+ ·) (path.tail = ·) manager (yieldSubtree now fuel path manager) := by
  induction fuel generalizing path manager with
  | zero => exact Confined.refl _ _ _
  | succ fuel induction =>
      have below : Orderly tree (yieldChildren now fuel path manager) ∧
          Confined (path <:+ ·) (path.tail = ·) manager (yieldChildren now fuel path manager) := by
        refine foldl_preserves_mem _ (fun current => Orderly tree current ∧
          Confined (path <:+ ·) (path.tail = ·) manager current) _
          ⟨orderly, Confined.refl _ _ _⟩ fun current child member held => ?_
        refine ⟨held.1.yieldSubtree fuel, held.2.trans ((induction held.1).mono ?_ ?_)⟩
        · exact fun place under => (below_of_child member under).1
        · rintro place rfl
          exact Or.inl ((tail_of_mem_children member).2 ▸ List.suffix_rfl)
      rcases yieldSubtree_cases fuel with ⟨-, -, -, same⟩ | ⟨pause, shorter, same⟩
      · rw [same]
        exact below.2
      · rw [same]
        have paused : Confined (path <:+ ·) (path.tail = ·) (yieldChildren now fuel path manager)
            ((yieldChildren now fuel path manager).setPause path pause) :=
          (confined_setPause pause).mono suffix_of_eq fun _ => Or.inr
        have opened := below.1.setPause fun given => Or.inl (shorter.resolve_left given)
        exact (below.2.trans paused).trans
          ((confined_yieldJobs opened).mono suffix_of_eq fun _ => Or.inr)

/-- The children of a channel change nothing but its queue and what is below. -/
theorem confined_yieldChildren (orderly : Orderly tree manager) :
    Confined (Below path) (· = path) manager (yieldChildren now fuel path manager) := by
  have both : Orderly tree (yieldChildren now fuel path manager) ∧
      Confined (Below path) (· = path) manager (yieldChildren now fuel path manager) := by
    refine foldl_preserves_mem _ (fun current => Orderly tree current ∧
      Confined (Below path) (· = path) manager current) _
      ⟨orderly, Confined.refl _ _ _⟩ fun current child member held => ?_
    refine ⟨held.1.yieldSubtree fuel, held.2.trans ((confined_yieldSubtree held.1).mono ?_ ?_)⟩
    · exact fun place under => below_of_child member under
    · exact fun place outer => Or.inr (outer.symm.trans (tail_of_mem_children member).2)
  exact both.2

end ChannelManager

end OdooConnector.Queue
