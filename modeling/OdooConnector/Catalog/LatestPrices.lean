import OdooConnector.Catalog.PriceExports

/-!
# The latest prices

Triggers are interleaved with the starts of waiting jobs. In whatever order the waiting jobs start,
the stores end up with the values of the latest triggers, exactly as long as no trigger meets a
waiting job that carries other values or takes the place of one that it needs.
-/

namespace OdooConnector.Catalog

namespace PriceExports

variable {PriceData : Type*}

/-- In whatever order the jobs that wait after a step start, they send the latest values and compute
what was asked for. -/
def SafeAfter (state : PriceExports PriceData) (action : ExportAction PriceData) : Prop :=
  (step state action).Safe ExportWork.carries ExportWork.answers

/-- The jobs that a trigger or a started job calls agree with the waiting ones, and all that they
carry and answer is carried and answered by a job that waits after it; and values that a job sends
at once agree with the waiting ones too. -/
def CallsKept (state : PriceExports PriceData) : ExportAction PriceData → Prop
  | .start odoo idx => ∀ job, state.jobs[idx]? = some job →
      (started state idx job).Agrees ExportWork.carries (odoo.sendsNow job.work) ∧
        (started state idx job).Keeps ExportWork.carries ExportWork.answers (odoo.calls job.work)
  | action => state.Keeps ExportWork.carries ExportWork.answers action.calls

/-- No job waits, nothing is asked for, and the stores have the latest values. -/
structure Idle (state : PriceExports PriceData) : Prop where
  jobs : state.jobs = []
  requested : state.requested = []
  sent : ∀ product value, state.latest product = some value → state.sent product = some value

/-- What every step keeps: the waiting jobs are current. -/
structure Kept (state : PriceExports PriceData) : Prop where
  current : state.Current ExportWork.carries ExportWork.answers
  covered : state.Covered ExportWork.carries

variable {state : PriceExports PriceData} {action : ExportAction PriceData}

theorem Idle.kept (idle : state.Idle) : state.Kept := by
  refine ⟨⟨?_, fun product value latest => Or.inl (idle.sent product value latest), ?_⟩, ?_⟩
  · simp [idle.jobs]
  · simp [idle.requested]
  · simp [Deliveries.Covered, idle.jobs]

theorem trigger_nil :
    state.trigger ExportWork.carries ExportWork.answers [] = state := by
  simp [Deliveries.trigger, Deliveries.sendAll]

theorem sendNow_none : state.sendNow (fun _ => none) = state := by
  simp [Deliveries.sendNow]

theorem keeps_nil (state : PriceExports PriceData) :
    state.Keeps ExportWork.carries ExportWork.answers [] := by
  constructor <;> simp [Deliveries.sendAll]

theorem agrees_none (state : PriceExports PriceData) :
    state.Agrees ExportWork.carries fun _ => none :=
  fun _ _ none => nomatch none

theorem Kept.started {idx : ℕ} {job : ExportJob PriceData} (kept : state.Kept)
    (known : state.jobs[idx]? = some job) : (PriceExports.started state idx job).Kept := by
  obtain ⟨bound, rfl⟩ := List.getElem?_eq_some_iff.mp known
  have parts : state.jobs =
      state.jobs.take idx ++ state.jobs[idx] :: state.jobs.drop (idx + 1) := by
    rw [List.cons_getElem_drop_succ, List.take_append_drop]
  rw [PriceExports.started, List.eraseIdx_eq_take_drop_succ]
  refine ⟨kept.current.deliver parts, kept.covered.deliver fun other member => ?_⟩
  rw [parts]
  simp only [List.mem_append, List.mem_cons] at member ⊢
  tauto

/-- A started job leaves the waiting jobs current exactly where its calls are kept. -/
theorem current_start_iff (kept : state.Kept) (odoo : PriceDatabase PriceData)
    (work : ExportWork PriceData) :
    ((state.sendNow (odoo.sendsNow work)).trigger ExportWork.carries ExportWork.answers
        (odoo.calls work)).Current ExportWork.carries ExportWork.answers ↔
      state.Agrees ExportWork.carries (odoo.sendsNow work) ∧
        state.Keeps ExportWork.carries ExportWork.answers (odoo.calls work) := by
  have now : odoo.sendsNow work = (fun _ => none) ∨ odoo.calls work = [] := by
    cases work with
    | exportPricelistsOne => exact Or.inr rfl
    | createPriceBatches => exact Or.inl rfl
    | exportPrices => exact Or.inl rfl
    | exportPricelistsMulti => exact Or.inl rfl
    | exportPricelistData => exact Or.inl rfl
  cases now with
  | inl none =>
      rw [none, sendNow_none, Deliveries.current_trigger_iff kept.current]
      exact (and_iff_right (agrees_none state)).symm
  | inr none =>
      rw [none, trigger_nil, Deliveries.current_sendNow_iff kept.current]
      exact (and_iff_left (keeps_nil state)).symm

theorem current_step_iff (kept : state.Kept) :
    (step state action).Current ExportWork.carries ExportWork.answers ↔
      state.CallsKept action := by
  cases action with
  | createPriceBatches odoo lineId => exact Deliveries.current_trigger_iff kept.current _
  | createPriceBatchesWithDelay lineId => exact Deliveries.current_trigger_iff kept.current _
  | triggerUpdateItems odoo integrationId itemIds force =>
      exact Deliveries.current_trigger_iff kept.current _
  | triggerForceExport integrationId pricelistIds =>
      exact Deliveries.current_trigger_iff kept.current _
  | exportPricelistsMulti odoo integrationId args =>
      exact Deliveries.current_trigger_iff kept.current _
  | start odoo idx =>
      rw [step, CallsKept]
      cases known : state.jobs[idx]? with
      | none => simpa using kept.current
      | some job =>
          simp only [Option.some.injEq, forall_eq']
          exact current_start_iff (kept.started known) odoo job.work

theorem Kept.covered_step (kept : state.Kept) :
    (step state action).Covered ExportWork.carries := by
  cases action with
  | createPriceBatches odoo lineId => exact kept.covered.trigger _
  | createPriceBatchesWithDelay lineId => exact kept.covered.trigger _
  | triggerUpdateItems odoo integrationId itemIds force => exact kept.covered.trigger _
  | triggerForceExport integrationId pricelistIds => exact kept.covered.trigger _
  | exportPricelistsMulti odoo integrationId args => exact kept.covered.trigger _
  | start odoo idx =>
      rw [step]
      cases known : state.jobs[idx]? with
      | none => exact kept.covered
      | some job => exact ((kept.started known).covered.sendNow _).trigger _

/-- A step leaves the latest values to be sent in any order exactly where its calls are kept. -/
theorem safeAfter_iff (kept : state.Kept) : state.SafeAfter action ↔ state.CallsKept action := by
  rw [← current_step_iff kept]
  exact ⟨fun safe => safe.current kept.covered_step, fun current => current.safe⟩

/-- Along a run from idle exports, every order of the waiting jobs sends the latest values exactly
where the calls of every step are kept; and then no value and no request is lost once no job
waits. -/
theorem priceExports_safe_iff (state : PriceExports PriceData)
    (actions : List (ExportAction PriceData)) (idle : state.Idle) :
    (Along step SafeAfter state actions ↔ Along step CallsKept state actions) ∧
      (Along step CallsKept state actions → (runSteps step state actions).jobs = [] →
        (runSteps step state actions).Idle) := by
  have agree (state : PriceExports PriceData) (action : ExportAction PriceData)
      (kept : state.Kept) : state.SafeAfter action ↔ state.CallsKept action :=
    safeAfter_iff kept
  have advance (state : PriceExports PriceData) (action : ExportAction PriceData)
      (kept : state.Kept) (calls : state.CallsKept action) : (step state action).Kept :=
    ⟨(current_step_iff kept).mpr calls, kept.covered_step⟩
  refine ⟨along_iff agree advance idle.kept, fun calls empty => ?_⟩
  have current := (runSteps_invariant advance idle.kept calls).current
  refine ⟨empty, List.eq_nil_iff_forall_not_mem.mpr fun request open_ => ?_, ?_⟩
  · obtain ⟨job, member, _⟩ := current.answered request open_
    simp [empty] at member
  · intro product value latest
    refine (current.sent product value latest).resolve_right ?_
    rintro ⟨job, member, _⟩
    simp [empty] at member

/-! ## A price that changes twice -/

/-- One variant of a catalog at a price. -/
def priceAt (price : ℚ) : PriceDatabase ℕ where
  catalogLine _ := ⟨⟨fun _ => (price, some 1)⟩, none, fun price => price, fun _ => "Chair"⟩
  recordList _ := [("7-42", 3)]
  pricelistOfItem _ := 1
  searchTemplates _ _ := []
  isMapped _ _ := true
  convertPricelists _ _ _ := none
  hasNoDuplicates _ := true
  isValid _ := true

/-- Nothing waits, and the store has the price that was exported last. -/
def exported : PriceExports ℕ := ⟨[], fun _ => none, fun _ => none, []⟩

theorem exported_idle : exported.Idle := ⟨rfl, rfl, fun _ _ latest => nomatch latest⟩

/-- The jobs of price batches compute nothing when they run. -/
theorem exists_batch_of_mem {odoo : PriceDatabase ℕ} {lineId : ℕ} {job : ExportJob ℕ}
    (member : job ∈ odoo.createPriceBatches lineId) :
    ∃ batch, job = PriceDatabase.createJob lineId batch := by
  rw [PriceDatabase.createPriceBatches] at member
  split at member
  · cases member
  · obtain ⟨batch, _, rfl⟩ := List.mem_map.mp member
    exact ⟨batch, rfl⟩

/-- A price that changes while no job waits is exported. -/
theorem priceExports_safe_once :
    Along step SafeAfter exported [.createPriceBatches (priceAt 12) 1, .start (priceAt 12) 0] ∧
      (runSteps step exported
        [.createPriceBatches (priceAt 12) 1, .start (priceAt 12) 0]).Idle := by
  obtain ⟨safe, idle⟩ := priceExports_safe_iff exported
    [.createPriceBatches (priceAt 12) 1, .start (priceAt 12) 0] exported_idle
  obtain ⟨call, called⟩ : ∃ call, (priceAt 12).createPriceBatches 1 = [call] :=
    List.length_eq_one_iff.mp (by decide +kernel)
  have kept : Along step CallsKept exported
      [.createPriceBatches (priceAt 12) 1, .start (priceAt 12) 0] := by
    refine ⟨?_, ?_, trivial⟩
    · show exported.Keeps _ _ ((priceAt 12).createPriceBatches 1)
      rw [called]
      exact Deliveries.keeps_singleton rfl call
    · intro job known
      have member : job ∈ ((priceAt 12).createPriceBatches 1).foldl Deliveries.withDelay [] :=
        List.mem_of_getElem? known
      rw [Deliveries.foldl_withDelay, List.nil_append] at member
      obtain ⟨batch, rfl⟩ := exists_batch_of_mem (Deliveries.mem_of_mem_accepted member)
      exact ⟨agrees_none _, keeps_nil _⟩
  have empty : (runSteps step exported
      [.createPriceBatches (priceAt 12) 1, .start (priceAt 12) 0]).jobs.length = 0 := by
    decide +kernel
  exact ⟨safe.mpr kept, idle kept (List.eq_nil_of_length_eq_zero empty)⟩

/-- A price that changes again while its batch waits is not exported: the second batch is
dropped. -/
theorem priceExports_second_change_lost :
    (runSteps step exported [.createPriceBatches (priceAt 10) 1,
        .createPriceBatches (priceAt 12) 1, .start (priceAt 12) 0]).jobs = [] ∧
      ¬ (runSteps step exported [.createPriceBatches (priceAt 10) 1,
        .createPriceBatches (priceAt 12) 1, .start (priceAt 12) 0]).Idle := by
  refine ⟨rfl, fun idle => ?_⟩
  have sent := idle.sent (.variant 1 "42") (.fixedPrice (some (12, none))) (by decide +kernel)
  exact absurd sent (by decide +kernel)

end PriceExports

end OdooConnector.Catalog
