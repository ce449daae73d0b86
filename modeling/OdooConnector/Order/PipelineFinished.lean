import OdooConnector.Order.WorkflowPipeline

/-!
# Finished pipelines

No method runs after its task is done. The input file is set to done with no task left exactly as
long as the automatic run of the last task leaves none, which nothing but that run has to ensure.
-/

namespace OdooConnector.Order

/-- Every task names the method of the next one. -/
def Chained : List PipelineTask → Prop
  | [] => True
  | task :: rest =>
      task.nextStepMethod = rest.head?.map PipelineTask.currentStepMethod ∧ Chained rest

/-- Tasks in the order of their ids that name one another. -/
structure Linked (tasks : List PipelineTask) : Prop where
  ids : tasks.Pairwise fun earlier later => earlier.id < later.id
  chained : Chained tasks

theorem chained_buildTasks (taskId : ℕ) (taskList : List (String × Bool)) :
    Chained (buildTasks taskId taskList) := by
  induction taskList generalizing taskId with
  | nil => trivial
  | cons task rest induction =>
      refine ⟨?_, induction (taskId + 1)⟩
      cases rest <;> rfl

theorem le_id_of_mem_buildTasks {taskId : ℕ} {taskList : List (String × Bool)}
    {task : PipelineTask} (member : task ∈ buildTasks taskId taskList) : taskId ≤ task.id := by
  induction taskList generalizing taskId with
  | nil => cases member
  | cons first rest induction =>
      cases member with
      | head => exact Nat.le_refl _
      | tail _ member =>
          have later := induction member
          omega

/-- New pipelines are linked. -/
theorem linked_buildTasks (taskId : ℕ) (taskList : List (String × Bool)) :
    Linked (buildTasks taskId taskList) := by
  refine ⟨?_, chained_buildTasks taskId taskList⟩
  induction taskList generalizing taskId with
  | nil => exact List.Pairwise.nil
  | cons task rest induction =>
      refine List.Pairwise.cons (fun later member => ?_) (induction (taskId + 1))
      have above := le_id_of_mem_buildTasks member
      show taskId < later.id
      omega

/-- Changes of tasks that leave their ids and links as they are. -/
structure KeepsLinks (change : PipelineTask → PipelineTask) : Prop where
  id : ∀ task, (change task).id = task.id
  current : ∀ task, (change task).currentStepMethod = task.currentStepMethod
  next : ∀ task, (change task).nextStepMethod = task.nextStepMethod

theorem Linked.map {tasks : List PipelineTask} {change : PipelineTask → PipelineTask}
    (linked : Linked tasks) (keeps : KeepsLinks change) : Linked (tasks.map change) := by
  obtain ⟨ids, chained⟩ := linked
  constructor
  · rw [List.pairwise_map]
    exact ids.imp fun less => by rwa [keeps.id, keeps.id]
  · clear ids
    induction tasks with
    | nil => trivial
    | cons task rest induction =>
        refine ⟨?_, induction chained.2⟩
        rw [keeps.next, chained.1]
        cases rest with
        | nil => rfl
        | cons next rest => exact congrArg some (keeps.current next).symm

/-- A task whose next method no task has is the last one. -/
theorem Chained.last {tasks : List PipelineTask} {task : PipelineTask} (chained : Chained tasks)
    (member : task ∈ tasks)
    (alone : tasks.filter (fun other => some other.currentStepMethod = task.nextStepMethod) = []) :
    ∃ front, tasks = front ++ [task] := by
  induction tasks with
  | nil => cases member
  | cons first rest induction =>
      obtain ⟨link, chained⟩ := chained
      have alone' := (List.filter_eq_nil_iff.mp alone)
      cases member with
      | head =>
          cases rest with
          | nil => exact ⟨[], rfl⟩
          | cons next rest =>
              have named := alone' next (by simp)
              simp [link] at named
      | tail _ member =>
          obtain ⟨front, rfl⟩ := induction chained member
            (List.filter_eq_nil_iff.mpr fun other listed =>
              alone' other (List.mem_cons_of_mem _ listed))
          exact ⟨first :: front, rfl⟩

namespace WorkflowPipeline

variable {Payload : Type*} {pipeline after : WorkflowPipeline Payload} {task : PipelineTask}
  {taskId : ℕ} {result : TaskResult} {action : PipelineAction}

/-- No task is to do, in process or failed. -/
def Finished (states : List TaskState) : Prop := ∀ state ∈ states, state.isFinished = true

/-- A step sets the input file to done only where the pipeline is finished. -/
def MarksFinished (pipeline : WorkflowPipeline Payload) (action : PipelineAction) : Prop :=
  ∀ states, .inputDone states ∈ (pipeline.step action).events.drop pipeline.events.length →
    Finished states

/-- Once a task is done, its method does not run. -/
def RunsUntilDone (events : List PipelineEvent) : Prop :=
  ∀ before taskId after, events = before ++ .taskDone taskId :: after →
    .methodRun taskId ∉ after

/-- The automatic run of a last task leaves no task to process: the task is skipped or done or its
method answers so, and all other tasks are skipped or done; or the method fails. -/
def LeavesNone (pipeline : WorkflowPipeline Payload) (task : PipelineTask) : TaskResult → Prop
  | .done _ => ∀ other ∈ pipeline.tasks, other.id ≠ task.id → other.state.isFinished = true
  | .inProcess _ => False
  | .failed _ | .raised _ => True

/-- Where the job of a last task is run, it leaves none. -/
def EndsFinished (pipeline : WorkflowPipeline Payload) : PipelineAction → Prop
  | .runJob (.runAndCallNext taskId) result =>
      .runAndCallNext taskId ∈ pipeline.jobs →
      ∀ task, pipeline.tasks.find? (fun task => task.id = taskId) = some task →
        pipeline.findTask task.nextStepMethod = [] →
          if task.state.isFinished then pipeline.hasTasksToProcess = false
          else pipeline.LeavesNone task result
  | _ => True

theorem hasTasksToProcess_eq_false :
    pipeline.hasTasksToProcess = false ↔ Finished (pipeline.tasks.map PipelineTask.state) := by
  simp [hasTasksToProcess, Finished]

theorem keepsLinks_setState (taskId : ℕ) (state : TaskState) :
    KeepsLinks fun task => if task.id = taskId then { task with state := state } else task := by
  refine ⟨fun task => ?_, fun task => ?_, fun task => ?_⟩
  all_goals split <;> rfl

theorem findTask_setState (state : TaskState) (stepName : Option String) :
    (pipeline.setState taskId state).findTask stepName = [] ↔ pipeline.findTask stepName = [] := by
  have keeps := keepsLinks_setState taskId state
  simp only [findTask, setState, List.filter_eq_nil_iff, List.mem_map, forall_exists_index, and_imp,
    forall_apply_eq_imp_iff₂, keeps.current]

/-- Setting a task to done leaves none to process where all others are skipped or done. -/
theorem finished_setState_done :
    (pipeline.setState taskId .done).hasTasksToProcess = false ↔
      ∀ other ∈ pipeline.tasks, other.id ≠ taskId → other.state.isFinished = true := by
  rw [hasTasksToProcess_eq_false]
  simp only [Finished, setState, List.map_map, List.mem_map, Function.comp_apply,
    forall_exists_index, and_imp, forall_apply_eq_imp_iff₂]
  refine forall₂_congr fun other _ => ?_
  split
  case isTrue same => simp [same, TaskState.isFinished]
  case isFalse different => simp [different]

/-- A task in process is left to process. -/
theorem hasTasksToProcess_setState_inProcess (member : task ∈ pipeline.tasks) :
    (pipeline.setState task.id .inProcess).hasTasksToProcess = true := by
  simp only [hasTasksToProcess, setState, List.any_map, List.any_eq_true, Function.comp_apply]
  exact ⟨task, member, by simp [TaskState.isFinished]⟩

/-! ## Where the input file is set to done -/

@[simp]
theorem withDelay_events (job : PipelineJob) :
    (pipeline.withDelay job).events = pipeline.events := by
  rw [withDelay]
  split <;> rfl

@[simp]
theorem withDelay_tasks (job : PipelineJob) : (pipeline.withDelay job).tasks = pipeline.tasks := by
  rw [withDelay]
  split <;> rfl

/-- Events of a step that sets no input file to done, and then perhaps this. -/
theorem finished_of_events {quiet news : List PipelineEvent}
    (silent : ∀ states, .inputDone states ∉ quiet)
    (events : after.events = pipeline.events ++ (quiet ++ news)) :
    (∀ states, .inputDone states ∈ after.events.drop pipeline.events.length → Finished states) ↔
      ∀ states, .inputDone states ∈ news → Finished states := by
  rw [events, List.drop_left]
  refine forall_congr' fun states => ?_
  rw [List.mem_append, or_iff_right (silent states)]

/-- A pipeline that calls its next step sets the input file to done where it has no next step, or
where no task is left. -/
theorem callPipelineStep_finished {changed : WorkflowPipeline Payload}
    {quiet : List PipelineEvent} {stepName : Option String}
    (silent : ∀ states, .inputDone states ∉ quiet)
    (events : changed.events = pipeline.events ++ quiet) :
    (∀ states, .inputDone states ∈ (pipeline.orUndone
        (changed.callPipelineStep stepName)).events.drop pipeline.events.length →
      Finished states) ↔ (changed.findTask stepName = [] → changed.hasTasksToProcess = false) := by
  have marked : changed.markInputAsDone.events =
      pipeline.events ++ (quiet ++ [.inputDone (changed.tasks.map PipelineTask.state)]) := by
    rw [← List.append_assoc, ← events]
    rfl
  cases left : changed.hasTasksToProcess with
  | false =>
      simp only [callPipelineStep, left, Bool.not_false, if_true, orUndone]
      rw [finished_of_events silent marked]
      simpa using hasTasksToProcess_eq_false.mp left
  | true =>
      cases next : changed.findTask stepName with
      | nil =>
          simp only [callPipelineStep, left, next, Bool.not_true, Bool.false_eq_true, if_false,
            orUndone]
          rw [finished_of_events silent marked]
          have unfinished : ¬ Finished (changed.tasks.map PipelineTask.state) := by
            rw [← hasTasksToProcess_eq_false, left]
            decide
          simpa using unfinished
      | cons task others =>
          refine iff_of_true ?_ (fun none => nomatch none)
          cases others with
          | nil =>
              have quietly : (changed.withDelay (.runAndCallNext task.id)).events =
                  pipeline.events ++ (quiet ++ []) := by
                rw [withDelay_events, events, List.append_nil]
              simp only [callPipelineStep, left, next, Bool.not_true, Bool.false_eq_true, if_false,
                orUndone]
              rw [finished_of_events silent quietly]
              exact fun _ none => nomatch none
          | cons other others =>
              simp [callPipelineStep, left, next, orUndone]

/-- The job of a task sets the input file to done with no task left exactly where a last task
leaves none. -/
theorem runAndCallNext_finished (pipeline : WorkflowPipeline Payload)
    (member : task ∈ pipeline.tasks) :
    (∀ states, .inputDone states ∈ (pipeline.orUndone
        (pipeline.runAndCallNext task result)).events.drop pipeline.events.length →
      Finished states) ↔
      (pipeline.findTask task.nextStepMethod = [] →
        if task.state.isFinished then pipeline.hasTasksToProcess = false
        else pipeline.LeavesNone task result) := by
  cases finished : task.state.isFinished with
  | true =>
      simp only [runAndCallNext, finished, if_true]
      exact callPipelineStep_finished (fun _ => List.not_mem_nil) (List.append_nil _).symm
  | false =>
      simp only [runAndCallNext, finished, Bool.false_eq_true, if_false]
      cases result with
      | raised error => simp [orUndone, LeavesNone]
      | done message =>
          have events : ((pipeline.record (.methodRun task.id)).setTaskToDone task.id).events =
              pipeline.events ++ [.methodRun task.id, .taskDone task.id] :=
            List.append_assoc ..
          refine (callPipelineStep_finished (by simp) events).trans (imp_congr ?_ ?_)
          · exact findTask_setState .done task.nextStepMethod
          · exact finished_setState_done
      | inProcess message =>
          have events : ((pipeline.record (.methodRun task.id)).setState task.id
              .inProcess).events = pipeline.events ++ [.methodRun task.id] := rfl
          refine (callPipelineStep_finished (by simp) events).trans (imp_congr ?_ ?_)
          · exact findTask_setState .inProcess task.nextStepMethod
          · have left := hasTasksToProcess_setState_inProcess member
            exact iff_of_false (fun none => by cases left.symm.trans none) id
      | failed message =>
          have events : ((((pipeline.record (.methodRun task.id)).setState task.id
              .failed).updateInfo (some message)).withDelay
                (.raiseMessage task.id message)).events =
                pipeline.events ++ ([.methodRun task.id] ++ []) := withDelay_events _
          refine iff_of_true ((finished_of_events (by simp) events).mpr ?_) fun _ => trivial
          exact fun _ none => nomatch none

/-- The last of linked tasks finishes the pipeline where all earlier ones are skipped or done. -/
theorem finished_at_end (linked : Linked pipeline.tasks) (member : task ∈ pipeline.tasks)
    (previous : pipeline.validatePrevious task = true)
    (last : pipeline.findTask task.nextStepMethod = []) :
    (pipeline.setState task.id .done).hasTasksToProcess = false := by
  obtain ⟨front, parts⟩ := linked.chained.last member last
  rw [finished_setState_done]
  intro other listed different
  have earlier : other.id < task.id := by
    have ids := linked.ids
    rw [parts, List.pairwise_append] at ids
    rw [parts, List.mem_append, List.mem_singleton] at listed
    cases listed with
    | inl inFront => exact ids.2.2 other inFront task (List.mem_singleton_self _)
    | inr same => exact absurd (congrArg PipelineTask.id same) different
  simpa [earlier] using List.all_eq_true.mp previous other listed

/-- Setting the input file to done at the end of a run by hand leaves no task. -/
theorem markInputAtEnd_finished (quiet : List PipelineEvent) {changed : WorkflowPipeline Payload}
    (silent : ∀ states, .inputDone states ∉ quiet)
    (events : changed.events = pipeline.events ++ quiet)
    (finished : changed.findTask task.nextStepMethod = [] → changed.hasTasksToProcess = false) :
    ∀ states, .inputDone states ∈
      (changed.markInputAtEnd task).events.drop pipeline.events.length → Finished states := by
  rw [markInputAtEnd]
  split
  case isTrue last =>
    have marked : changed.markInputAsDone.events =
        pipeline.events ++ (quiet ++ [.inputDone (changed.tasks.map PipelineTask.state)]) := by
      rw [← List.append_assoc, ← events]
      rfl
    rw [finished_of_events silent marked]
    simpa using hasTasksToProcess_eq_false.mp (finished last)
  case isFalse =>
    have quietly : changed.events = pipeline.events ++ (quiet ++ []) := by
      rw [events, List.append_nil]
    rw [finished_of_events silent quietly]
    exact fun _ none => nomatch none

/-- A pipeline without tasks to process is finished when its input file is set to done. -/
theorem markInputAsDone_finished (nothing : pipeline.hasTasksToProcess = false) :
    ∀ states, .inputDone states ∈
      pipeline.markInputAsDone.events.drop pipeline.events.length → Finished states := by
  rw [markInputAsDone, record, List.drop_left]
  simpa using hasTasksToProcess_eq_false.mp nothing

theorem triggerPipeline_finished (pipeline : WorkflowPipeline Payload) :
    ∀ states, .inputDone states ∈
      pipeline.triggerPipeline.events.drop pipeline.events.length → Finished states := by
  rw [triggerPipeline]
  cases left : pipeline.hasTasksToProcess with
  | false => exact markInputAsDone_finished left
  | true =>
      cases first : pipeline.tasks.find? fun task => task.state ≠ .done with
      | none => simp [markInputToProcess]
      | some task => simp [markInputToProcess]

theorem buildAndRun_finished (taskList : List (String × Bool)) :
    ∀ states, .inputDone states ∈
      (pipeline.buildAndRun taskList).events.drop pipeline.events.length → Finished states := by
  rw [buildAndRun]
  cases left : (pipeline.updatePipeline taskList).hasTasksToProcess with
  | false => exact markInputAsDone_finished left
  | true => simp [markInputToProcess, updatePipeline]

theorem run_finished (linked : Linked pipeline.tasks) (member : task ∈ pipeline.tasks) :
    ∀ states, .inputDone states ∈ (pipeline.orUndone
      (pipeline.run task result)).events.drop pipeline.events.length → Finished states := by
  unfold run
  split
  · simp [orUndone]
  · cases previous : pipeline.validatePrevious task with
    | false => simp [orUndone]
    | true =>
        cases result with
        | raised error => simp [orUndone]
        | done message =>
            refine markInputAtEnd_finished [.methodRun task.id, .taskDone task.id] (by simp)
              (List.append_assoc ..) fun last => ?_
            exact finished_at_end linked member previous ((findTask_setState _ _).mp last)
        | inProcess message => simp [orUndone, updateInfo, setState, record]
        | failed message => simp [orUndone, updateInfo, setState, record]

theorem taskForceDone_finished (linked : Linked pipeline.tasks) (member : task ∈ pipeline.tasks) :
    ∀ states, .inputDone states ∈ (pipeline.orUndone
      (pipeline.taskForceDone task)).events.drop pipeline.events.length → Finished states := by
  rw [taskForceDone]
  cases previous : pipeline.validatePrevious task with
  | false => simp [orUndone]
  | true =>
      refine markInputAtEnd_finished [.taskDone task.id] (by simp) rfl fun last => ?_
      exact finished_at_end linked member previous ((findTask_setState _ _).mp last)

/-- A step on a linked pipeline sets the input file to done only where the pipeline is finished
exactly where it ends finished. -/
theorem marksFinished_iff (linked : Linked pipeline.tasks) :
    pipeline.MarksFinished action ↔ pipeline.EndsFinished action := by
  rw [MarksFinished]
  cases action with
  | runJob job result =>
      rw [step]
      split
      case isTrue pending =>
        cases job with
        | triggerPipeline =>
            exact iff_of_true (triggerPipeline_finished (pipeline.takeJob _)) trivial
        | raiseMessage taskId message => simp [runJob, orUndone, takeJob, EndsFinished]
        | runAndCallNext taskId =>
            cases known : pipeline.tasks.find? (fun task => task.id = taskId) with
            | none => simp [runJob, onTask, orUndone, takeJob, EndsFinished, known]
            | some task =>
                have member := List.mem_of_find?_eq_some known
                have listed : (pipeline.takeJob (.runAndCallNext taskId)).tasks.find?
                    (fun task => task.id = taskId) = some task := known
                simp only [EndsFinished, pending, known, runJob, onTask, listed, Option.some.injEq,
                  forall_eq', forall_const]
                exact runAndCallNext_finished (pipeline.takeJob _) member
      case isFalse absent =>
        cases job <;> simp [EndsFinished, absent]
  | requeueJob job => simp [step, EndsFinished]
  | run taskId result =>
      refine iff_of_true ?_ trivial
      rw [step, onTask]
      cases known : pipeline.tasks.find? (fun task => task.id = taskId) with
      | none => simp [orUndone]
      | some task => exact run_finished linked (List.mem_of_find?_eq_some known)
  | taskForceDone taskId =>
      refine iff_of_true ?_ trivial
      rw [step, onTask]
      cases known : pipeline.tasks.find? (fun task => task.id = taskId) with
      | none => simp [orUndone]
      | some task => exact taskForceDone_finished linked (List.mem_of_find?_eq_some known)
  | manualRun => simp [step, EndsFinished]
  | buildAndRun taskList => exact iff_of_true (buildAndRun_finished taskList) trivial

/-! ## What every step keeps -/

/-- The tasks are linked, and those that were set to done are, and have not run since. -/
structure Sound (pipeline : WorkflowPipeline Payload) : Prop where
  linked : Linked pipeline.tasks
  done : ∀ taskId, .taskDone taskId ∈ pipeline.events → ∀ task ∈ pipeline.tasks,
    task.id = taskId → task.state = .done
  runs : RunsUntilDone pipeline.events

theorem RunsUntilDone.append {events : List PipelineEvent} {event : PipelineEvent}
    (runs : RunsUntilDone events)
    (notDone : ∀ taskId, event = .methodRun taskId → .taskDone taskId ∉ events) :
    RunsUntilDone (events ++ [event]) := by
  intro before taskId after split
  obtain rfl | ⟨after, last, rfl⟩ := List.eq_nil_or_concat' after
  · exact List.not_mem_nil
  · have parts : events ++ [event] = (before ++ .taskDone taskId :: after) ++ [last] := by
      simpa using split
    obtain ⟨front, same⟩ := List.append_inj' parts rfl
    obtain rfl := (List.cons.inj same).1
    rw [List.mem_append, List.mem_singleton]
    rintro (ran | rfl)
    · exact runs before taskId after front ran
    · exact notDone taskId rfl (by simp [front])

namespace Sound

variable (sound : pipeline.Sound)
include sound

theorem of_same (tasks : after.tasks = pipeline.tasks) (events : after.events = pipeline.events) :
    after.Sound := by
  obtain ⟨linked, done, runs⟩ := sound
  exact ⟨tasks ▸ linked, events ▸ tasks ▸ done, events ▸ runs⟩

theorem withDelay (job : PipelineJob) : (pipeline.withDelay job).Sound :=
  sound.of_same (withDelay_tasks job) (withDelay_events job)

/-- Something else than the end of a task is recorded; a method that runs is not of a done task. -/
theorem record {event : PipelineEvent} (noEnd : ∀ taskId, event ≠ .taskDone taskId)
    (notDone : ∀ taskId, event = .methodRun taskId → .taskDone taskId ∉ pipeline.events) :
    (pipeline.record event).Sound := by
  refine ⟨sound.linked, fun taskId member => ?_, sound.runs.append notDone⟩
  rw [WorkflowPipeline.record, List.mem_append, List.mem_singleton] at member
  exact sound.done taskId (member.resolve_right fun same => noEnd taskId same.symm)

theorem markInputAsDone : pipeline.markInputAsDone.Sound :=
  (sound.record (by simp) (by simp)).of_same rfl rfl

theorem notDone (member : task ∈ pipeline.tasks) (left : ¬ task.state.isFinished = true) :
    .taskDone task.id ∉ pipeline.events := by
  intro ended
  exact left (by simp [sound.done task.id ended task member rfl, TaskState.isFinished])

/-- A task that has not been set to done changes its state, or it is set to done. -/
theorem setState (state : TaskState)
    (notDone : state = .done ∨ .taskDone taskId ∉ pipeline.events) :
    (pipeline.setState taskId state).Sound := by
  refine ⟨sound.linked.map (keepsLinks_setState taskId state), fun ended member => ?_, sound.runs⟩
  intro task listed own
  obtain ⟨earlier, known, rfl⟩ := List.mem_map.mp listed
  rw [(keepsLinks_setState taskId state).id] at own
  have done := sound.done ended member earlier known own
  split
  case isTrue same =>
    cases notDone with
    | inl done => exact done
    | inr notDone => exact absurd (same ▸ own ▸ member) notDone
  case isFalse => exact done

theorem methodRun (member : task ∈ pipeline.tasks) (left : ¬ task.state.isFinished = true) :
    (pipeline.record (.methodRun task.id)).Sound := by
  refine sound.record (by simp) ?_
  rintro _ ⟨⟩
  exact sound.notDone member left

theorem setTaskToDone (taskId : ℕ) : (pipeline.setTaskToDone taskId).Sound := by
  have changed : (pipeline.setState taskId .done).Sound := sound.setState .done (Or.inl rfl)
  refine ⟨changed.linked, fun ended member task listed own => ?_,
    changed.runs.append fun _ same => nomatch same⟩
  rw [WorkflowPipeline.setTaskToDone, WorkflowPipeline.record, List.mem_append,
    List.mem_singleton] at member
  cases member with
  | inl earlier => exact changed.done ended earlier task listed own
  | inr now =>
      cases now
      obtain ⟨earlier, known, rfl⟩ := List.mem_map.mp listed
      rw [(keepsLinks_setState taskId .done).id] at own
      rw [if_pos own]

theorem callPipelineStep {stepName : Option String}
    (called : pipeline.callPipelineStep stepName = .ok after) : after.Sound := by
  rw [WorkflowPipeline.callPipelineStep] at called
  split at called
  · cases called
    exact sound.markInputAsDone
  · split at called
    · cases called
      exact sound.markInputAsDone
    · cases called
      exact sound.withDelay _
    · cases called

/-- A method that runs leaves its task in process or failed. -/
theorem methodRun_setState (member : task ∈ pipeline.tasks)
    (left : ¬ task.state.isFinished = true) (state : TaskState) :
    ((pipeline.record (.methodRun task.id)).setState task.id state).Sound := by
  refine (sound.methodRun member left).setState state (Or.inr ?_)
  simpa [WorkflowPipeline.record] using sound.notDone member left

theorem runAndCallNext (member : task ∈ pipeline.tasks)
    (ran : pipeline.runAndCallNext task result = .ok after) : after.Sound := by
  unfold WorkflowPipeline.runAndCallNext at ran
  split at ran
  case isTrue => exact sound.callPipelineStep ran
  case isFalse left =>
    cases result with
    | raised error => cases ran
    | done message =>
        exact ((sound.methodRun member left).setTaskToDone task.id).callPipelineStep ran
    | inProcess message =>
        exact (sound.methodRun_setState member left .inProcess).callPipelineStep ran
    | failed message =>
        cases ran
        refine Sound.withDelay ?_ _
        exact (sound.methodRun_setState member left .failed).of_same rfl rfl

theorem markInputAtEnd (task : PipelineTask) : (pipeline.markInputAtEnd task).Sound := by
  rw [WorkflowPipeline.markInputAtEnd]
  split
  · exact sound.markInputAsDone
  · exact sound

theorem run (member : task ∈ pipeline.tasks) (ran : pipeline.run task result = .ok after) :
    after.Sound := by
  unfold WorkflowPipeline.run at ran
  split at ran
  case isTrue => cases ran
  case isFalse left =>
    split at ran
    · cases ran
    · cases result with
      | raised error => cases ran
      | done message =>
          cases ran
          exact ((sound.methodRun member left).setTaskToDone task.id).markInputAtEnd task
      | inProcess message =>
          cases ran
          exact (sound.methodRun_setState member left .inProcess).of_same rfl rfl
      | failed message =>
          cases ran
          exact (sound.methodRun_setState member left .failed).of_same rfl rfl

theorem taskForceDone (ran : pipeline.taskForceDone task = .ok after) : after.Sound := by
  rw [WorkflowPipeline.taskForceDone] at ran
  split at ran
  · cases ran
  · cases ran
    exact (sound.setTaskToDone task.id).markInputAtEnd task

theorem triggerPipeline : pipeline.triggerPipeline.Sound := by
  rw [WorkflowPipeline.triggerPipeline]
  split
  · exact sound.markInputAsDone
  · split
    · exact sound.of_same rfl rfl
    · exact (sound.withDelay _).of_same rfl rfl

theorem updatePipeline (taskList : List (String × Bool)) :
    (pipeline.updatePipeline taskList).Sound := by
  refine ⟨sound.linked.map ⟨fun task => ?_, fun task => ?_, fun task => ?_⟩,
    fun taskId ended task listed own => ?_, sound.runs⟩
  · split <;> rfl
  · split <;> rfl
  · split <;> rfl
  · obtain ⟨earlier, known, rfl⟩ := List.mem_map.mp listed
    have same : earlier.id = taskId := by
      rw [← own]
      split <;> rfl
    have done := sound.done taskId ended earlier known same
    rw [if_neg fun enabled => enabled.1 done]
    exact done

theorem buildAndRun (taskList : List (String × Bool)) : (pipeline.buildAndRun taskList).Sound := by
  have updated := sound.updatePipeline taskList
  rw [WorkflowPipeline.buildAndRun]
  split
  · refine Sound.withDelay ?_ _
    exact updated.of_same rfl rfl
  · exact updated.markInputAsDone

theorem orUndone {result : Except FileError (WorkflowPipeline Payload)}
    (written : ∀ after, result = .ok after → after.Sound) : (pipeline.orUndone result).Sound := by
  cases result with
  | error error => exact sound
  | ok after => exact written after rfl

theorem onTask {method : PipelineTask → Except FileError (WorkflowPipeline Payload)}
    (written : ∀ task ∈ pipeline.tasks, ∀ after, method task = .ok after → after.Sound) :
    (pipeline.orUndone (pipeline.onTask taskId method)).Sound := by
  refine sound.orUndone fun after done => ?_
  rw [WorkflowPipeline.onTask] at done
  cases known : pipeline.tasks.find? (fun task => task.id = taskId) with
  | none => simp [known] at done
  | some task =>
      rw [known] at done
      exact written task (List.mem_of_find?_eq_some known) after done

theorem step (action : PipelineAction) : (pipeline.step action).Sound := by
  cases action with
  | runJob job result =>
      have taken : (pipeline.takeJob job).Sound := sound.of_same rfl rfl
      rw [WorkflowPipeline.step]
      split
      · cases job with
        | triggerPipeline => exact taken.triggerPipeline
        | raiseMessage taskId message => exact taken
        | runAndCallNext taskId =>
            exact taken.onTask fun task member after ran => taken.runAndCallNext member ran
      · exact sound
  | requeueJob job => exact sound.of_same rfl rfl
  | run taskId result => exact sound.onTask fun task member after ran => sound.run member ran
  | taskForceDone taskId => exact sound.onTask fun task _ after ran => sound.taskForceDone ran
  | manualRun => exact sound.withDelay .triggerPipeline
  | buildAndRun taskList => exact sound.buildAndRun taskList

end Sound

/-- In a run of a linked pipeline, the input file is set to done only where the pipeline is finished
exactly where every automatic run of a last task leaves none; and no method runs after its task is
done. -/
theorem pipeline_finished_iff (pipeline : WorkflowPipeline Payload) (actions : List PipelineAction)
    (linked : Linked pipeline.tasks) (fresh : pipeline.events = []) :
    (Along step MarksFinished pipeline actions ↔ Along step EndsFinished pipeline actions) ∧
      RunsUntilDone (runSteps step pipeline actions).events := by
  have sound : pipeline.Sound := by
    refine ⟨linked, fun taskId member => ?_, fun before taskId after split => ?_⟩
    · simp [fresh] at member
    · simp [fresh] at split
  have agree (pipeline : WorkflowPipeline Payload) (action : PipelineAction)
      (sound : pipeline.Sound) : pipeline.MarksFinished action ↔ pipeline.EndsFinished action :=
    marksFinished_iff sound.linked
  have keeps (pipeline : WorkflowPipeline Payload) (action : PipelineAction)
      (sound : pipeline.Sound) : (pipeline.step action).Sound :=
    sound.step action
  exact ⟨along_iff agree (fun pipeline action sound _ => keeps pipeline action sound) sound,
    (runSteps_preserves keeps sound).runs⟩

/-! ## A workflow of two tasks -/

/-- A new order whose two tasks are enabled. -/
def newPipeline : WorkflowPipeline ℕ :=
  ⟨buildTasks 1 [("validate_order", true), ("create_invoice", true)], none,
    ⟨.workflowProcess, some 5, .blank, .json 1, false, [], []⟩, [.triggerPipeline], []⟩

/-- The jobs of the pipeline and of its tasks, the first of which answers as given. -/
def newJobs (result : TaskResult) : List PipelineAction :=
  [.runJob .triggerPipeline (.done ""), .runJob (.runAndCallNext 1) result,
    .runJob (.runAndCallNext 2) (.done "")]

/-- Both tasks are done when the second job ends the workflow. -/
theorem pipeline_finished_new :
    Along step MarksFinished newPipeline (newJobs (.done "")) ∧
      RunsUntilDone (runSteps step newPipeline (newJobs (.done ""))).events := by
  obtain ⟨marks, runs⟩ :=
    pipeline_finished_iff newPipeline (newJobs (.done "")) (linked_buildTasks 1 _) rfl
  refine ⟨marks.mpr ⟨trivial, ?_, ?_, trivial⟩, runs⟩
  · intro _ task known last
    cases known
    exact absurd last (by decide)
  · intro _ task known _
    cases known
    show ∀ other ∈ _, _
    decide

/-- The first task answers that it is in process; the second one still ends the workflow. -/
theorem pipeline_in_process_not_finished :
    Linked newPipeline.tasks ∧
      ¬ Along step MarksFinished newPipeline (newJobs (.inProcess "")) := by
  refine ⟨linked_buildTasks 1 _, fun along => ?_⟩
  obtain ⟨_, _, marks, _⟩ := along
  have finished := marks [.inProcess, .done] (by decide) .inProcess (by decide)
  exact absurd finished (by decide)

end WorkflowPipeline

end OdooConnector.Order
