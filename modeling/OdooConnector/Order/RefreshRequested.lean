import OdooConnector.Order.IntegrationFile

/-!
# Requested refreshes of an order

A mark asks for the data of an order to be fetched before they are parsed again. It is kept as long
as no step takes the mark back from data that are older than it, which every step does that marks
the file as in process or done without parsing it.
-/

namespace OdooConnector.Order

namespace SaleInputFile

variable {Payload OrderData : Type*}

/-- The raw data were fetched after every mark. -/
def Refreshed (file : SaleInputFile Payload) : Prop :=
  ∀ before between, file.events = before ++ .marked :: between →
    ∃ payload, .fetched payload ∈ between ∧ file.rawData = .json payload

/-- The first parse after a mark reads data that were fetched after it. -/
def ParsesRefreshed (events : List (FileEvent Payload)) : Prop :=
  ∀ before between payload after,
    events = before ++ .marked :: (between ++ .parsed payload :: after) →
      (∀ earlier, .parsed earlier ∉ between) → .fetched payload ∈ between

/-- A mark is taken back only from data that were fetched after it. -/
def UnmarksRefreshed (adapter : OrderAdapter Payload OrderData) (file : SaleInputFile Payload)
    (action : FileAction Payload OrderData) : Prop :=
  file.updateRequired = true → (file.step adapter action).updateRequired = false →
    (file.step adapter action).Refreshed

/-- Where the step marks the file as in process or done without parsing it, a marked file has data
that were fetched after the mark. -/
def UnmarksFresh (file : SaleInputFile Payload) : FileAction Payload OrderData → Prop
  | .process | .processNoJob .. => file.orderId ≠ none → file.updateRequired = true → file.Refreshed
  | .markByPipeline _ => file.updateRequired = true → file.Refreshed
  | _ => True

/-- A file that nothing has happened to but its creation, which may have marked it. -/
def Created (file : SaleInputFile Payload) : Prop :=
  file.events = if file.updateRequired then [.marked] else []

variable {adapter : OrderAdapter Payload OrderData} {file after : SaleInputFile Payload}
  {answer : Option Payload} {action : FileAction Payload OrderData}

/-! ## Marks and later events -/

/-- An item that does not occur among the last items stands before all of them. -/
theorem suffix_of_append_eq {α : Type*} {first last before between : List α} {item : α}
    (split : first ++ last = before ++ item :: between) (absent : item ∉ last) :
    ∃ middle, first = before ++ item :: middle ∧ between = middle ++ last := by
  obtain ⟨extra, -, rest⟩ | ⟨extra, front, rest⟩ := List.append_eq_append_iff.mp split
  · exact absurd (rest ▸ by simp) absent
  · cases extra with
    | nil => exact absurd (by rw [List.nil_append] at rest; simp [← rest]) absent
    | cons head middle =>
        obtain ⟨same, tail⟩ := List.cons.inj rest
        exact ⟨middle, by rw [front, same], tail⟩

/-- Data that were fetched after all other events are newer than every mark. -/
theorem refreshed_of_fetched (earlier later : List (FileEvent Payload)) {payload : Payload}
    (unmarked : .marked ∉ later) (events : file.events = earlier ++ .fetched payload :: later)
    (rawData : file.rawData = .json payload) : file.Refreshed := by
  intro before between split
  obtain ⟨middle, -, rfl⟩ := suffix_of_append_eq (events.symm.trans split) (by simpa using unmarked)
  exact ⟨payload, by simp, rawData⟩

/-- A parse reads refreshed data where the last event is no parse, or the payload was fetched after
every mark. -/
theorem ParsesRefreshed.append {events : List (FileEvent Payload)} {event : FileEvent Payload}
    (parses : ParsesRefreshed events)
    (fresh : ∀ payload, event = .parsed payload → ∀ before between,
      events = before ++ .marked :: between → .fetched payload ∈ between) :
    ParsesRefreshed (events ++ [event]) := by
  intro before between payload after split unparsed
  obtain rfl | ⟨after, last, rfl⟩ := List.eq_nil_or_concat' after
  · have parts : events ++ [event] = (before ++ .marked :: between) ++ [.parsed payload] := by
      simpa using split
    obtain ⟨front, same⟩ := List.append_inj' parts rfl
    exact fresh payload (by simpa using same) before between front
  · have parts : events ++ [event] =
        (before ++ .marked :: (between ++ .parsed payload :: after)) ++ [last] := by
      simpa using split
    exact parses before between payload after (List.append_inj' parts rfl).1 unparsed

/-! ## What a parse writes -/

theorem toDict_of_json {payload : Payload} (rawData : file.rawData = .json payload) :
    file.toDict = .ok (some payload) := by
  rw [toDict, rawData]

theorem parsePayload_cases {data : OrderData}
    (parsed : file.parsePayload adapter = .ok (after, data)) :
    ∃ payload, file.toDict = .ok (some payload) ∧ after = file.record (.parsed payload) := by
  rw [parsePayload] at parsed
  cases text : file.toDict with
  | error error => simp [text] at parsed
  | ok payload =>
      cases payload with
      | none => simp [text] at parsed
      | some payload =>
          simp only [text] at parsed
          split at parsed
          · split at parsed
            · cases parsed
            · cases parsed
              exact ⟨payload, rfl, rfl⟩
          · cases parsed

/-- A parse reads the data of the file, or, where it is marked, data that it has just fetched. -/
theorem parse_cases {data : OrderData} (parsed : file.parse adapter answer = .ok (after, data)) :
    (∃ payload, file.updateRequired = false ∧ file.toDict = .ok (some payload) ∧
        after = file.record (.parsed payload)) ∨
      ∃ payload, file.updateRequired = true ∧ after =
        (SaleInputFile.record { file.record (.fetched payload) with rawData := .json payload }
          (.parsed payload)) := by
  rw [parse] at parsed
  cases marked : file.updateRequired with
  | false =>
      simp only [marked, Bool.false_eq_true, if_false] at parsed
      obtain ⟨payload, read, rfl⟩ := parsePayload_cases parsed
      exact Or.inl ⟨payload, rfl, read, rfl⟩
  | true =>
      cases answer with
      | none => simp [marked, updateFromExternal] at parsed
      | some payload =>
          simp only [marked, if_true, updateFromExternal] at parsed
          obtain ⟨read, same, rfl⟩ := parsePayload_cases parsed
          rw [toDict_of_json rfl] at same
          cases same
          exact Or.inr ⟨payload, rfl, rfl⟩

/-- Every mark is still set, or the raw data were fetched after it; and so far every parse has read
refreshed data. -/
structure Kept (file : SaleInputFile Payload) : Prop where
  marks : file.updateRequired = true ∨ file.Refreshed
  parses : ParsesRefreshed file.events

/-- What was parsed after the marks is newer than them. -/
theorem Kept.parse {data : OrderData} (kept : Kept file)
    (parsed : file.parse adapter answer = .ok (after, data)) :
    after.Refreshed ∧ ParsesRefreshed after.events := by
  obtain ⟨payload, unmarked, read, rfl⟩ | ⟨payload, -, rfl⟩ := parse_cases parsed
  · have refreshed : file.Refreshed := kept.marks.resolve_left (by simp [unmarked])
    constructor
    · intro before between split
      obtain ⟨middle, front, rfl⟩ := suffix_of_append_eq split (by simp)
      obtain ⟨fetched, member, rawData⟩ := refreshed before middle front
      exact ⟨fetched, List.mem_append_left _ member, rawData⟩
    · refine kept.parses.append ?_
      rintro _ ⟨⟩ before between split
      obtain ⟨fetched, member, rawData⟩ := refreshed before between split
      rw [toDict_of_json rawData] at read
      cases read
      exact member
  · have fetched : ParsesRefreshed (file.events ++ [.fetched payload]) :=
      kept.parses.append fun _ event => nomatch event
    refine ⟨refreshed_of_fetched file.events [.parsed payload] (by simp) (by simp [record]) rfl,
      fetched.append ?_⟩
    rintro _ ⟨⟩ before between split
    obtain ⟨middle, -, rfl⟩ := suffix_of_append_eq split (by simp)
    exact List.mem_append_right _ (List.mem_singleton_self _)

/-! ## What a step writes -/

/-- Two files with the same data and the same events. -/
structure SameData (file after : SaleInputFile Payload) : Prop where
  rawData : after.rawData = file.rawData
  events : after.events = file.events

theorem SameData.refreshed (same : SameData file after) : after.Refreshed ↔ file.Refreshed := by
  rw [Refreshed, Refreshed, same.events, same.rawData]

/-- What a step can write to a file. -/
inductive Written (adapter : OrderAdapter Payload OrderData) (file after : SaleInputFile Payload)
    (action : FileAction Payload OrderData) : Prop where
  | unchanged (same : SameData file after) (flag : after.updateRequired = file.updateRequired)
      (fresh : file.UnmarksFresh action)
  | unmarked (same : SameData file after) (flag : after.updateRequired = false)
      (fresh : file.UnmarksFresh action ↔ (file.updateRequired = true → file.Refreshed))
  | marked (events : after.events = file.events ++ [.marked])
      (flag : after.updateRequired = true) (fresh : file.UnmarksFresh action)
  | fetched (payload : Payload) (events : after.events = file.events ++ [.fetched payload])
      (rawData : after.rawData = .json payload) (fresh : file.UnmarksFresh action)
  | parsed (source result : SaleInputFile Payload) (answer : Option Payload) (data : OrderData)
      (same : SameData file source) (flag : source.updateRequired = file.updateRequired)
      (parse : source.parse adapter answer = .ok (result, data)) (rest : SameData result after)
      (fresh : file.UnmarksFresh action)

theorem sameData_withDelay (job : FileJob) : SameData file (file.withDelay job) := by
  rw [withDelay]
  split <;> exact ⟨rfl, rfl⟩

theorem withDelay_updateRequired (job : FileJob) :
    (file.withDelay job).updateRequired = file.updateRequired := by
  rw [withDelay]
  split <;> rfl

theorem buildAndRunWorkflow_sameData {outcome : WorkflowOutcome}
    (built : file.buildAndRunWorkflow outcome = .ok after) : SameData file after := by
  cases outcome with
  | failed error => cases built
  | tasksToProcess =>
      cases built
      exact ⟨rfl, rfl⟩
  | noTasks =>
      cases built
      exact ⟨rfl, rfl⟩

theorem createOrderFromInput_parses {create : OrderData → CreationOutcome}
    (created : file.createOrderFromInput adapter answer create = .ok after) :
    ∃ result data, file.parse adapter answer = .ok (result, data) ∧ SameData result after := by
  rw [createOrderFromInput] at created
  cases parsed : file.parse adapter answer with
  | error error => simp [parsed] at created
  | ok result =>
      obtain ⟨result, data⟩ := result
      refine ⟨result, data, rfl, ?_⟩
      simp only [parsed] at created
      cases outcome : create data with
      | failed error => simp [outcome] at created
      | cancelled orderId =>
          simp only [outcome, Except.ok.injEq] at created
          subst created
          exact ⟨rfl, rfl⟩
      | created orderId workflow =>
          simp only [outcome] at created
          have same := buildAndRunWorkflow_sameData created
          exact ⟨same.rawData, same.events⟩

theorem runCurrentPipeline_parses {apply : OrderData → WorkflowOutcome}
    (ran : file.runCurrentPipeline adapter answer apply = .ok after) :
    after = file ∨
      ∃ result data, file.parse adapter answer = .ok (result, data) ∧ SameData result after := by
  rw [runCurrentPipeline] at ran
  split at ran
  · exact Or.inl (Except.ok.inj ran).symm
  · cases parsed : file.parse adapter answer with
    | error error => simp [parsed] at ran
    | ok result =>
        simp only [parsed] at ran
        exact Or.inr ⟨result.1, result.2, rfl, buildAndRunWorkflow_sameData ran⟩

theorem Written.undone {result : Except FileError (SaleInputFile Payload)}
    {source : SaleInputFile Payload} (same : SameData file source)
    (flag : source.updateRequired = file.updateRequired) (fresh : file.UnmarksFresh action)
    (written : ∀ after, result = .ok after → Written adapter file after action) :
    Written adapter file (source.orUndone result) action := by
  cases result with
  | error error => exact .unchanged same flag fresh
  | ok after => exact written after rfl

theorem written_createOrderFromInput {source : SaleInputFile Payload} {answer : Option Payload}
    {create : OrderData → CreationOutcome}
    (created : source.createOrderFromInput adapter answer create = .ok after)
    (same : SameData file source) (flag : source.updateRequired = file.updateRequired)
    (fresh : file.UnmarksFresh action) : Written adapter file after action := by
  obtain ⟨result, data, parsed, rest⟩ := createOrderFromInput_parses created
  exact .parsed source result answer data same flag parsed rest fresh

theorem written_runCurrentPipeline {source : SaleInputFile Payload} {answer : Option Payload}
    {apply : OrderData → WorkflowOutcome}
    (ran : source.runCurrentPipeline adapter answer apply = .ok after)
    (same : SameData file source) (flag : source.updateRequired = file.updateRequired)
    (fresh : file.UnmarksFresh action) : Written adapter file after action := by
  obtain rfl | ⟨result, data, parsed, rest⟩ := runCurrentPipeline_parses ran
  · exact .unchanged same flag fresh
  · exact .parsed source result answer data same flag parsed rest fresh

/-- A known order is processed by its pipeline, and its mark is taken back. -/
theorem written_actionProcess
    (fresh : file.UnmarksFresh action ↔ (file.updateRequired = true → file.Refreshed)) :
    Written adapter file (file.actionProcess.withDelay .runCurrentPipeline) action := by
  have same : SameData file.actionProcess
      (file.actionProcess.withDelay .runCurrentPipeline) := sameData_withDelay _
  exact .unmarked ⟨same.rawData, same.events⟩ (withDelay_updateRequired _) fresh

theorem step_written (adapter : OrderAdapter Payload OrderData) (file : SaleInputFile Payload)
    (action : FileAction Payload OrderData) :
    Written adapter file (file.step adapter action) action := by
  cases action with
  | markForUpdate =>
      rw [step, markForUpdate]
      split
      · exact .unchanged ⟨rfl, rfl⟩ rfl trivial
      · exact .marked rfl rfl trivial
  | process =>
      rw [step, process]
      split
      case isTrue new =>
        have same : SameData file.actionCreateOrder
            (file.actionCreateOrder.withDelay .createOrderFromInput) := sameData_withDelay _
        exact .unchanged ⟨same.rawData, same.events⟩ (withDelay_updateRequired _)
          fun known => absurd new known
      case isFalse known =>
        exact written_actionProcess (forall_prop_of_true known)
  | processNoJob answer create =>
      rw [step, processNoJob]
      split
      case isTrue new =>
        have fresh : file.UnmarksFresh (.processNoJob answer create) :=
          fun known => absurd new known
        refine .undone ⟨rfl, rfl⟩ rfl fresh fun after created => ?_
        exact written_createOrderFromInput created ⟨rfl, rfl⟩ rfl fresh
      case isFalse known =>
        exact written_actionProcess (forall_prop_of_true known)
  | runJob job answer create apply =>
      rw [step]
      split
      · refine .undone ⟨rfl, rfl⟩ rfl trivial fun after ran => ?_
        cases job with
        | createOrderFromInput => exact written_createOrderFromInput ran ⟨rfl, rfl⟩ rfl trivial
        | runCurrentPipeline => exact written_runCurrentPipeline ran ⟨rfl, rfl⟩ rfl trivial
      · exact .unchanged ⟨rfl, rfl⟩ rfl trivial
  | runCurrentPipeline answer apply =>
      refine .undone ⟨rfl, rfl⟩ rfl trivial fun after ran => ?_
      exact written_runCurrentPipeline ran ⟨rfl, rfl⟩ rfl trivial
  | updateCurrentPipeline answer hasPipeline =>
      refine .undone ⟨rfl, rfl⟩ rfl trivial fun after updated => ?_
      rw [updateCurrentPipeline] at updated
      split at updated
      · cases parsed : file.parse adapter answer with
        | error error =>
            rw [parsed] at updated
            cases updated
        | ok result =>
            rw [parsed] at updated
            cases updated
            exact .parsed file result.1 answer result.2 ⟨rfl, rfl⟩ rfl parsed ⟨rfl, rfl⟩ trivial
      · cases updated
        exact .unchanged ⟨rfl, rfl⟩ rfl trivial
  | markByPipeline hasTasksToProcess =>
      cases hasTasksToProcess with
      | true => exact .unmarked ⟨rfl, rfl⟩ rfl Iff.rfl
      | false => exact .unmarked ⟨rfl, rfl⟩ rfl Iff.rfl
  | updateFromExternal answer =>
      cases answer with
      | none => exact .unchanged ⟨rfl, rfl⟩ rfl trivial
      | some payload => exact .fetched payload rfl rfl trivial
  | fetchFullOrder answer =>
      cases answer with
      | none => exact .unchanged ⟨rfl, rfl⟩ rfl trivial
      | some payload => exact .fetched payload rfl rfl trivial

/-! ## Steps and runs -/

theorem SameData.kept (same : SameData file after) (kept : Kept file)
    (flag : after.updateRequired = file.updateRequired) : Kept after := by
  refine ⟨?_, same.events ▸ kept.parses⟩
  rw [flag, same.refreshed]
  exact kept.marks

/-- A step keeps the marks where it takes none back from older data. -/
theorem Kept.step (kept : Kept file) (fresh : file.UnmarksFresh action) :
    Kept (file.step adapter action) := by
  cases step_written adapter file action with
  | unchanged same flag _ => exact same.kept kept flag
  | unmarked same flag unmarks =>
      refine ⟨Or.inr (same.refreshed.mpr ?_), same.events ▸ kept.parses⟩
      exact kept.marks.elim (unmarks.mp fresh) id
  | marked events flag _ =>
      refine ⟨Or.inl flag, ?_⟩
      rw [events]
      exact kept.parses.append fun _ event => nomatch event
  | fetched payload events rawData _ =>
      refine ⟨Or.inr (refreshed_of_fetched file.events [] (by simp) events rawData), ?_⟩
      rw [events]
      exact kept.parses.append fun _ event => nomatch event
  | parsed source result answer data same flag parse rest _ =>
      obtain ⟨refreshed, parses⟩ := (same.kept kept flag).parse parse
      exact ⟨Or.inr (rest.refreshed.mpr refreshed), rest.events ▸ parses⟩

/-- From kept marks, a step takes a mark back only from refreshed data where it is fresh. -/
theorem unmarksRefreshed_iff (kept : Kept file) :
    file.UnmarksRefreshed adapter action ↔ file.UnmarksFresh action := by
  constructor
  · intro unmarks
    cases step_written adapter file action with
    | unchanged _ _ fresh => exact fresh
    | unmarked same flag fresh =>
        exact fresh.mpr fun set => same.refreshed.mp (unmarks set flag)
    | marked _ _ fresh => exact fresh
    | fetched _ _ _ fresh => exact fresh
    | parsed _ _ _ _ _ _ _ _ fresh => exact fresh
  · intro fresh _ cleared
    exact (kept.step fresh).marks.resolve_left (by simp [cleared])

theorem Created.kept (created : file.Created) : Kept file := by
  have short : file.events.length ≤ 1 := by
    rw [created]
    split <;> simp
  refine ⟨?_, fun before between payload after split _ => ?_⟩
  · cases marked : file.updateRequired with
    | true => exact Or.inl rfl
    | false =>
        refine Or.inr fun before between split => ?_
        rw [created, marked] at split
        simp at split
  · rw [split] at short
    simp only [List.length_append, List.length_cons] at short
    omega

/-- In a run from a created file, marks are taken back only from refreshed data exactly where every
step that does not parse is fresh, and then the first parse after a mark reads data that were
fetched after it. -/
theorem refreshes_kept_iff (adapter : OrderAdapter Payload OrderData)
    (file : SaleInputFile Payload) (actions : List (FileAction Payload OrderData))
    (created : file.Created) :
    (Along (step adapter) (UnmarksRefreshed adapter) file actions ↔
        Along (step adapter) UnmarksFresh file actions) ∧
      (Along (step adapter) UnmarksFresh file actions →
        ParsesRefreshed (runSteps (step adapter) file actions).events) := by
  constructor
  · refine along_iff (fun file action kept => unmarksRefreshed_iff kept) ?_ created.kept
    exact fun file action kept fresh => kept.step fresh
  · intro fresh
    exact (runSteps_invariant (fun file action kept fresh => kept.step fresh) created.kept
      fresh).parses

/-! ## A file that is processed again -/

/-- An adapter that parses every payload. -/
def plainAdapter : OrderAdapter ℕ ℕ := ⟨fun _ => true, .ok⟩

/-- The file of an order whose pipeline has ended. -/
def processedFile : SaleInputFile ℕ := ⟨.done, some 5, .blank, .json 1, false, [], []⟩

/-- A marked file that is parsed fetches its data. -/
theorem refreshes_kept_processed :
    Along (step plainAdapter) (UnmarksRefreshed plainAdapter) processedFile
        [.markForUpdate, .runCurrentPipeline (some 2) fun _ => .noTasks] ∧
      ParsesRefreshed (runSteps (step plainAdapter) processedFile
        [.markForUpdate, .runCurrentPipeline (some 2) fun _ => .noTasks]).events := by
  obtain ⟨unmarks, parses⟩ := refreshes_kept_iff plainAdapter processedFile
    [.markForUpdate, .runCurrentPipeline (some 2) fun _ => .noTasks] rfl
  exact ⟨unmarks.mpr ⟨trivial, trivial, trivial⟩, parses ⟨trivial, trivial, trivial⟩⟩

/-- A marked file that is processed takes the mark back, and its job parses the data from before
the mark. -/
theorem refresh_lost_processed :
    processedFile.Created ∧ ¬ ParsesRefreshed (runSteps (step plainAdapter) processedFile
        [.markForUpdate, .process,
          .runJob .runCurrentPipeline (some 2) (fun id => .created id .noTasks)
            fun _ => .noTasks]).events := by
  refine ⟨rfl, fun parses => ?_⟩
  have fetched := parses [] [] 1 [] rfl (fun _ member => nomatch member)
  cases fetched

end SaleInputFile

end OdooConnector.Order
