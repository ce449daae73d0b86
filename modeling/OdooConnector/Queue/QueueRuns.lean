import Mathlib.Data.Finset.Max
import Mathlib.Tactic.NormNum
import OdooConnector.Queue.QueueOrder

/-!
# Runs of a channel queue

Jobs are added, removed and popped in any order. A queue pops the least of the jobs whose eta has
come. A sequential one waits for the job with the earliest eta, where that comes before the others,
but not for the further jobs with an eta.
-/

namespace OdooConnector.Queue

inductive QueueAction
  | add (job : ℕ)
  | remove (job : ℕ)
  | pop (now : ℚ)

/-- A queue and its job objects, with the jobs that were added and not removed or popped since, and
the time of the last pop. -/
structure QueueRun where
  jobs : JobObjects
  queue : ChannelQueue
  waiting : Finset ℕ
  clock : WithBot ℚ

namespace QueueRun

variable (sequential : Bool) (initial : JobObjects)

def start : QueueRun := ⟨initial, .empty, ∅, ⊥⟩

/-- What a pop returns. -/
def popped (run : QueueRun) (now : ℚ) : Option ℕ := (run.queue.pop run.jobs sequential now).1

def step (run : QueueRun) : QueueAction → QueueRun
  | .add job =>
      { run with queue := run.queue.add run.jobs job, waiting := insert job run.waiting }
  | .remove job => { run with queue := run.queue.remove job, waiting := run.waiting.erase job }
  | .pop now =>
      let result := run.queue.pop run.jobs sequential now
      ⟨result.2.1, result.2.2, result.1.elim run.waiting run.waiting.erase, now⟩

/-- Time does not run backwards. -/
def Timely (run : QueueRun) : QueueAction → Prop
  | .pop now => run.clock ≤ now
  | _ => True

/-- The order of the jobs among those that are ready. -/
abbrev rank (job : ℕ) : ℤ ×ₗ ℚ ×ₗ ℤ := (initial job).sortingKeyIgnoringEta

/-- A pop returns the least of the waiting jobs that are runnable, and nothing if there is none. -/
def PopsNext (run : QueueRun) : QueueAction → Prop
  | .pop now =>
      (∀ job, run.popped sequential now = some job →
        job ∈ run.waiting ∧ Runnable initial now job ∧
          ∀ other ∈ run.waiting, Runnable initial now other →
            rank initial job ≤ rank initial other) ∧
      (run.popped sequential now = none → ∀ job ∈ run.waiting, ¬ Runnable initial now job)
  | _ => True

/-- A pop returns the least of all waiting jobs, or nothing. -/
def NeverOvertakes (run : QueueRun) : QueueAction → Prop
  | .pop now => ∀ job, run.popped true now = some job →
      job ∈ run.waiting ∧ ∀ other ∈ run.waiting, rank initial job ≤ rank initial other
  | _ => True

/-- If any job that waits for its eta comes before all runnable ones, so does the job with the
earliest eta. -/
def EarliestGuards (run : QueueRun) : QueueAction → Prop
  | .pop now =>
      ∀ top ∈ run.waiting, ¬ Runnable initial now top →
        (∀ other ∈ run.waiting, ¬ Runnable initial now other →
          ChannelQueue.key initial top ≤ ChannelQueue.key initial other) →
      ∀ first ∈ run.waiting, Runnable initial now first →
        (∀ other ∈ run.waiting, Runnable initial now other →
          rank initial first ≤ rank initial other) →
      (∃ other ∈ run.waiting, ¬ Runnable initial now other ∧
        rank initial other < rank initial first) → rank initial top < rank initial first
  | _ => True

/-- The heaps hold the waiting jobs, and only jobs whose eta has come have lost it. -/
structure Sound (run : QueueRun) : Prop where
  positive : ∀ job eta, (initial job).eta = some eta → 0 < eta
  sorted : ChannelQueue.Sorted run.jobs run.queue
  mem : ∀ job, job ∈ run.queue ↔ job ∈ run.waiting
  changed : ∀ job, run.jobs job = initial job ∨ run.jobs job = (initial job).setNoEta ∧
    ∃ eta : ℚ, (initial job).eta = some eta ∧ eta ≤ run.clock

variable {sequential initial} {run : QueueRun} {job : ℕ} {now : ℚ}

theorem sound_start (positive : ∀ job eta, (initial job).eta = some eta → 0 < eta) :
    (start initial).Sound initial := by
  refine ⟨positive, ChannelQueue.sorted_empty, fun job => ?_, fun job => Or.inl rfl⟩
  exact iff_of_false ChannelQueue.not_mem_empty (Finset.notMem_empty job)

namespace Sound

theorem rank_eq (sound : run.Sound initial) (job : ℕ) :
    (run.jobs job).sortingKeyIgnoringEta = rank initial job := by
  rcases sound.changed job with same | ⟨lost, -⟩
  · rw [same]
  · rw [lost]
    rfl

/-- A job with an eta is as it was at the beginning. -/
theorem same_of_eta (sound : run.Sound initial) (eta : (run.jobs job).hasEta = true) :
    run.jobs job = initial job := by
  rcases sound.changed job with same | ⟨lost, -⟩
  · exact same
  · rw [lost] at eta
    cases eta

theorem same_of_etaQueue (sound : run.Sound initial) (member : job ∈ run.queue.etaQueue) :
    run.jobs job = initial job :=
  sound.same_of_eta (sound.sorted.eta job (PriorityQueue.mem_heap member))

/-- The eta of a job in the other heap has come. -/
theorem runnable_of_plain (sound : run.Sound initial) (timely : run.clock ≤ now)
    (member : job ∈ run.queue.queue) : Runnable initial now job := by
  intro eta found
  have none := ChannelJob.getD_of_not_hasEta
    (sound.sorted.plain job (PriorityQueue.mem_heap member))
  rcases sound.changed job with same | ⟨-, other, otherFound, le⟩
  · rw [same, found, Option.getD_some] at none
    exact absurd none (sound.positive job eta found).ne'
  · obtain rfl := Option.some.inj (found.symm.trans otherFound)
    exact WithBot.coe_le_coe.mp (le.trans timely)

theorem ready_iff (sound : run.Sound initial) (timely : run.clock ≤ now) :
    ChannelQueue.Ready run.jobs run.queue now job ↔
      job ∈ run.waiting ∧ Runnable initial now job := by
  rw [← sound.mem, ChannelQueue.mem_iff]
  constructor
  · rintro (plain | ⟨eta, due⟩)
    · exact ⟨Or.inr plain, sound.runnable_of_plain timely plain⟩
    · rw [Runnable, sound.same_of_etaQueue eta] at due
      exact ⟨Or.inl eta, due⟩
  · rintro ⟨eta | plain, due⟩
    · refine Or.inr ⟨eta, ?_⟩
      rw [Runnable, sound.same_of_etaQueue eta]
      exact due
    · exact Or.inl plain

theorem waits_iff (sound : run.Sound initial) (timely : run.clock ≤ now) :
    ChannelQueue.Waits run.jobs run.queue now job ↔
      job ∈ run.waiting ∧ ¬ Runnable initial now job := by
  rw [← sound.mem, ChannelQueue.mem_iff, ChannelQueue.Waits]
  constructor
  · rintro ⟨eta, waits⟩
    rw [Runnable, sound.same_of_etaQueue eta] at waits
    exact ⟨Or.inl eta, waits⟩
  · rintro ⟨eta | plain, waits⟩
    · rw [Runnable, sound.same_of_etaQueue eta]
      exact ⟨eta, waits⟩
    · exact absurd (sound.runnable_of_plain timely plain) waits

theorem key_eq (sound : run.Sound initial)
    (waits : ChannelQueue.Waits run.jobs run.queue now job) :
    ChannelQueue.key run.jobs job = ChannelQueue.key initial job := by
  rw [ChannelQueue.key, ChannelQueue.key, sound.same_of_etaQueue waits.1]

theorem add (sound : run.Sound initial) (job : ℕ) :
    (run.step sequential (.add job)).Sound initial := by
  refine ⟨sound.positive, sound.sorted.add job, fun other => ?_, sound.changed⟩
  dsimp only [step]
  rw [ChannelQueue.mem_add, Finset.mem_insert, sound.mem]

theorem remove (sound : run.Sound initial) (job : ℕ) :
    (run.step sequential (.remove job)).Sound initial := by
  refine ⟨sound.positive, sound.sorted.remove job, fun other => ?_, sound.changed⟩
  dsimp only [step]
  rw [ChannelQueue.mem_remove, Finset.mem_erase, sound.mem, and_comm]

theorem pop (sound : run.Sound initial) (timely : run.clock ≤ now) :
    (run.step sequential (.pop now)).Sound initial := by
  obtain ⟨pops, -⟩ := @ChannelQueue.pop_pops run.queue run.jobs now sound.sorted sequential
  refine ⟨sound.positive, pops.sorted, fun job => ?_, fun job => ?_⟩
  · have apart : ChannelQueue.Waits run.jobs run.queue now job →
        (run.queue.pop run.jobs sequential now).1 ≠ some job := by
      intro waits popped
      exact ((sound.waits_iff timely).mp waits).2
        ((sound.ready_iff timely).mp (pops.least job popped).1).2
    have members : job ∈ (run.step sequential (.pop now)).queue ↔
        job ∈ run.waiting ∧ (run.queue.pop run.jobs sequential now).1 ≠ some job := by
      rw [ChannelQueue.mem_iff, step, pops.eta, pops.plain, sound.ready_iff timely]
      constructor
      · rintro (waits | ⟨⟨member, -⟩, kept⟩)
        · exact ⟨((sound.waits_iff timely).mp waits).1, apart waits⟩
        · exact ⟨member, kept⟩
      · rintro ⟨member, kept⟩
        by_cases due : Runnable initial now job
        · exact Or.inr ⟨⟨member, due⟩, kept⟩
        · exact Or.inl ((sound.waits_iff timely).mpr ⟨member, due⟩)
    rw [members, step]
    cases (run.queue.pop run.jobs sequential now).1 with
    | none => exact and_iff_left (Option.some_ne_none job).symm
    | some other =>
        rw [Option.elim_some, Finset.mem_erase, and_comm, Ne, Ne, Option.some_inj, eq_comm]
  · rcases pops.changed job with same | ⟨lost, member, due⟩
    · rw [step]
      dsimp only
      rw [same]
      exact (sound.changed job).imp_right fun before =>
        ⟨before.1, before.2.imp fun eta found => ⟨found.1, found.2.trans timely⟩⟩
    · have own := sound.same_of_etaQueue member
      obtain ⟨eta, found, -⟩ := ChannelJob.exists_of_hasEta
        (sound.sorted.eta job (PriorityQueue.mem_heap member))
      refine Or.inr ⟨lost.trans (congrArg ChannelJob.setNoEta own), eta, own ▸ found, ?_⟩
      exact WithBot.coe_le_coe.mpr (due eta found)

theorem step (sound : run.Sound initial) (action : QueueAction) (timely : run.Timely action) :
    (run.step sequential action).Sound initial := by
  cases action with
  | add job => exact sound.add job
  | remove job => exact sound.remove job
  | pop now => exact sound.pop timely

end Sound

namespace Sound

theorem popsNext (sound : run.Sound initial) (action : QueueAction) (timely : run.Timely action) :
    run.PopsNext false initial action := by
  cases action with
  | add job => trivial
  | remove job => trivial
  | pop now =>
      obtain ⟨pops, none⟩ := @ChannelQueue.pop_pops run.queue run.jobs now sound.sorted false
      refine ⟨fun job found => ?_, fun nothing job member due => ?_⟩
      · obtain ⟨ready, least⟩ := pops.least job found
        obtain ⟨member, due⟩ := (sound.ready_iff timely).mp ready
        refine ⟨member, due, fun other listed otherDue => ?_⟩
        rw [← sound.rank_eq, ← sound.rank_eq]
        exact least other ((sound.ready_iff timely).mpr ⟨listed, otherDue⟩)
      · rcases none.mp nothing with noneReady | ⟨sequence, -⟩
        · exact noneReady job ((sound.ready_iff timely).mpr ⟨member, due⟩)
        · cases sequence

/-- The job with the earliest eta guards the queue, in terms of the waiting jobs. -/
theorem guarded_iff (sound : run.Sound initial) (timely : run.clock ≤ now) :
    ChannelQueue.Guarded run.jobs run.queue now ↔
      ∃ top ∈ run.waiting, ¬ Runnable initial now top ∧
        (∀ other ∈ run.waiting, ¬ Runnable initial now other →
          ChannelQueue.key initial top ≤ ChannelQueue.key initial other) ∧
        ∃ first ∈ run.waiting, Runnable initial now first ∧
          (∀ other ∈ run.waiting, Runnable initial now other →
            rank initial first ≤ rank initial other) ∧
          rank initial top < rank initial first := by
  constructor
  · rintro ⟨top, first, waits, earliest, ready, least, less⟩
    obtain ⟨topMember, topWaits⟩ := (sound.waits_iff timely).mp waits
    obtain ⟨firstMember, due⟩ := (sound.ready_iff timely).mp ready
    rw [sound.rank_eq, sound.rank_eq] at less
    refine ⟨top, topMember, topWaits, fun other member otherWaits => ?_,
      first, firstMember, due, fun other member otherDue => ?_, less⟩
    · have both := (sound.waits_iff timely).mpr ⟨member, otherWaits⟩
      rw [← sound.key_eq waits, ← sound.key_eq both]
      exact earliest other both
    · rw [← sound.rank_eq, ← sound.rank_eq]
      exact least other ((sound.ready_iff timely).mpr ⟨member, otherDue⟩)
  · rintro ⟨top, topMember, topWaits, earliest, first, firstMember, due, least, less⟩
    have waits := (sound.waits_iff timely).mpr ⟨topMember, topWaits⟩
    refine ⟨top, first, waits, fun other otherWaits => ?_,
      (sound.ready_iff timely).mpr ⟨firstMember, due⟩, fun other ready => ?_, ?_⟩
    · rw [sound.key_eq waits, sound.key_eq otherWaits]
      obtain ⟨member, both⟩ := (sound.waits_iff timely).mp otherWaits
      exact earliest other member both
    · rw [sound.rank_eq, sound.rank_eq]
      obtain ⟨member, otherDue⟩ := (sound.ready_iff timely).mp ready
      exact least other member otherDue
    · rw [sound.rank_eq, sound.rank_eq]
      exact less

/-- A pop of a sequential queue overtakes no waiting job exactly if the job with the earliest eta
guards all of them. -/
theorem neverOvertakes_iff (sound : run.Sound initial) (action : QueueAction)
    (timely : run.Timely action) :
    run.NeverOvertakes initial action ↔ run.EarliestGuards initial action := by
  cases action with
  | add job => exact Iff.rfl
  | remove job => exact Iff.rfl
  | pop now =>
      obtain ⟨pops, none⟩ := @ChannelQueue.pop_pops run.queue run.jobs now sound.sorted true
      constructor
      · intro keeps top topMember topWaits earliest first firstMember due least overtaken
        obtain ⟨other, member, waits, less⟩ := overtaken
        by_contra unguarded
        have open_ : ¬ ChannelQueue.Guarded run.jobs run.queue now := by
          rw [sound.guarded_iff timely]
          rintro ⟨otherTop, listed, otherWaits, otherEarliest, otherFirst, otherMember, otherDue,
            otherLeast, guards⟩
          have sameTop := ChannelQueue.rank_eq_of_key_eq (le_antisymm
            (earliest otherTop listed otherWaits) (otherEarliest top topMember topWaits))
          have sameFirst := le_antisymm (least otherFirst otherMember otherDue)
            (otherLeast first firstMember due)
          refine unguarded ?_
          rw [sameFirst]
          exact lt_of_eq_of_lt sameTop guards
        cases found : run.popped true now with
        | none =>
            rcases none.mp found with nothing | ⟨-, guarded⟩
            · exact nothing first ((sound.ready_iff timely).mpr ⟨firstMember, due⟩)
            · exact open_ guarded
        | some job =>
            obtain ⟨-, leastOfAll⟩ := keeps job found
            obtain ⟨ready, -⟩ := pops.least job found
            obtain ⟨jobMember, jobDue⟩ := (sound.ready_iff timely).mp ready
            exact absurd ((least job jobMember jobDue).trans (leastOfAll other member)) less.not_ge
      · intro guards job found
        obtain ⟨ready, least⟩ := pops.least job found
        obtain ⟨member, due⟩ := (sound.ready_iff timely).mp ready
        have leastDue : ∀ other ∈ run.waiting, Runnable initial now other →
            rank initial job ≤ rank initial other := fun other listed otherDue => by
          rw [← sound.rank_eq, ← sound.rank_eq]
          exact least other ((sound.ready_iff timely).mpr ⟨listed, otherDue⟩)
        refine ⟨member, fun other listed => ?_⟩
        by_cases otherDue : Runnable initial now other
        · exact leastDue other listed otherDue
        · by_contra less
          obtain ⟨top, topListed, earliest⟩ := Finset.exists_min_image
            (run.waiting.filter fun other => ¬ Runnable initial now other)
            (ChannelQueue.key initial) ⟨other, Finset.mem_filter.mpr ⟨listed, otherDue⟩⟩
          obtain ⟨topMember, topWaits⟩ := Finset.mem_filter.mp topListed
          have earliest : ∀ other ∈ run.waiting, ¬ Runnable initial now other →
              ChannelQueue.key initial top ≤ ChannelQueue.key initial other :=
            fun other listed waits => earliest other (Finset.mem_filter.mpr ⟨listed, waits⟩)
          have before := guards top topMember topWaits earliest job member due leastDue
            ⟨other, listed, otherDue, not_le.mp less⟩
          have guarded := (sound.guarded_iff timely).mpr
            ⟨top, topMember, topWaits, earliest, job, member, due, leastDue, before⟩
          exact absurd (found.symm.trans (none.mpr (Or.inr ⟨rfl, guarded⟩)))
            (Option.some_ne_none job)

end Sound

variable (initial) in
/-- In every run each pop returns the least of the runnable jobs that are waiting, and the queue
holds the waiting jobs at the end. -/
theorem queue_pops_next (positive : ∀ job eta, (initial job).eta = some eta → 0 < eta)
    (actions : List QueueAction) (timely : Along (step false) Timely (start initial) actions) :
    Along (step false) (PopsNext false initial) (start initial) actions ∧
      ∀ job, job ∈ (runSteps (step false) (start initial) actions).queue ↔
        job ∈ (runSteps (step false) (start initial) actions).waiting := by
  have advance : ∀ run action, Sound initial run → run.Timely action →
      Sound initial (run.step false action) :=
    fun _ action sound timely => sound.step action timely
  refine ⟨along_of_invariant (fun _ action sound timely => sound.popsNext action timely) advance
    (sound_start positive) timely, ?_⟩
  have ends : Sound initial (runSteps (step false) (start initial) actions) :=
    runSteps_invariant advance (sound_start positive) timely
  exact ends.mem

variable (initial) in
/-- A sequential queue never overtakes a waiting job in a run, exactly if at every pop the job with
the earliest eta guards all others that wait for theirs. -/
theorem sequential_keeps_order_iff
    (positive : ∀ job eta, (initial job).eta = some eta → 0 < eta)
    (actions : List QueueAction) (timely : Along (step true) Timely (start initial) actions) :
    Along (step true) (NeverOvertakes initial) (start initial) actions ↔
      Along (step true) (EarliestGuards initial) (start initial) actions :=
  along_congr (fun _ action sound timely => sound.neverOvertakes_iff action timely)
    (fun _ action sound timely => sound.step action timely) (sound_start positive) timely

/-! ## Three jobs -/

/-- The job 1 has the earliest eta and comes last, the job 2 has a later eta and comes first, and
the job 3 has none. -/
def threeJobs : JobObjects
  | 1 => ⟨"db", [], "a", 1, 1, 10, some 10⟩
  | 2 => ⟨"db", [], "b", 2, 2, 1, some 20⟩
  | _ => ⟨"db", [], "c", 3, 3, 5, none⟩

def addAndPop : List QueueAction := [.add 1, .add 2, .add 3, .pop 5]

theorem threeJobs_positive (job : ℕ) (eta : ℚ) (found : (threeJobs job).eta = some eta) :
    0 < eta := by
  unfold threeJobs at found
  split at found
  · rw [← Option.some.inj found]
    norm_num
  · rw [← Option.some.inj found]
    norm_num
  · cases found

theorem addAndPop_timely (sequential : Bool) :
    Along (step sequential) Timely (start threeJobs) addAndPop :=
  ⟨trivial, trivial, trivial, bot_le, trivial⟩

/-- The job without an eta is popped while a job that comes before it waits. -/
theorem first_job_overtaken :
    Along (step true) Timely (start threeJobs) addAndPop ∧
      ¬ Along (step true) (NeverOvertakes threeJobs) (start threeJobs) addAndPop := by
  refine ⟨addAndPop_timely true, ?_⟩
  rintro ⟨-, -, -, keeps, -⟩
  exact absurd ((keeps 3 (by decide +kernel)).2 2 (by decide +kernel)) (by decide +kernel)

theorem threeJobs_pops_next :
    Along (step false) (PopsNext false threeJobs) (start threeJobs) addAndPop ∧
      ∀ job, job ∈ (runSteps (step false) (start threeJobs) addAndPop).queue ↔
        job ∈ (runSteps (step false) (start threeJobs) addAndPop).waiting :=
  queue_pops_next threeJobs threeJobs_positive addAndPop (addAndPop_timely false)

theorem threeJobs_keeps_order_iff :
    Along (step true) (NeverOvertakes threeJobs) (start threeJobs) addAndPop ↔
      Along (step true) (EarliestGuards threeJobs) (start threeJobs) addAndPop :=
  sequential_keeps_order_iff threeJobs threeJobs_positive addAndPop (addAndPop_timely true)

end QueueRun

end OdooConnector.Queue
