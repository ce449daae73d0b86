import OdooConnector.Queue.FailedJob

/-!
# What a failed job stores

A traceback reads as at most one request. A failing job stores it, clears what it stored before,
keeps it, or does not fail at all.
-/

namespace OdooConnector.Queue

open PatternPart

variable {integrationField : ℤ → Option (Option ℕ)} {job : QueueJob} {text : String}
  {request other : RequeueRequest} {integration : List Char}

/-- What the pattern finds in a traceback. -/
def Reads (text : String) (request : RequeueRequest) (integration : List Char) : Prop :=
  ∃ kind, Found exceptionPattern text.toList
    [request.exceptionName.text.toList, request.modelName.toList, kind, request.key.toList,
      integration]

/-- The integration is a number that the field takes. -/
def Accepted (integrationField : ℤ → Option (Option ℕ)) (integration : List Char) : Prop :=
  ((int integration).bind integrationField).isSome

/-- A failure writes nothing over the stored values. -/
def Keeps (job : QueueJob) (text : String) : Prop :=
  (∃ request, Reads text request []) ∨
    (∀ request integration, ¬ Reads text request integration) ∧ job.integrationId = none

theorem text_injective : Function.Injective ExceptionName.text := by
  intro name name' same
  revert same
  cases name <;> cases name' <;> decide

theorem find_exceptionName (name : ExceptionName) :
    exceptionNames.find? (fun known => known.text.toList = name.text.toList) = some name := by
  cases name <;> decide

theorem Reads.unique {integration' : List Char} (reads : Reads text request integration)
    (reads' : Reads text other integration') : request = other ∧ integration = integration' := by
  obtain ⟨kind, found⟩ := reads
  obtain ⟨kind', found'⟩ := reads'
  rw [← search_eq_some_iff] at found found'
  have same := Option.some_inj.mp (found.symm.trans found')
  simp only [List.cons.injEq, String.toList_inj] at same
  obtain ⟨name, model, -, key, integration, -⟩ := same
  have name := text_injective name
  cases request
  cases other
  simp_all

/-- Whatever the pattern finds is the reading of a request. -/
theorem exists_reads {groups : List (List Char)}
    (found : search exceptionPattern text.toList = some groups) :
    ∃ (request : RequeueRequest) (kind integration : List Char),
      groups = [request.exceptionName.text.toList, request.modelName.toList, kind,
        request.key.toList, integration] := by
  obtain ⟨_, rest, -, best, -⟩ := search_eq_some_iff.mp found
  have fits := best.fits
  simp only [exceptionPattern, PatternPart.Fits] at fits
  obtain ⟨_, _, _, known, -, rfl, _, -, model, _, _, -, -, rfl, _, -, kind, _, _, -, -, rfl, _, -,
    key, _, _, -, -, rfl, _, -, integration, _, _, -, -, rfl, _, -, rfl⟩ := fits
  obtain ⟨exceptionName, -, rfl⟩ := List.mem_map.mp known
  exact ⟨⟨exceptionName, String.ofList model, String.ofList key⟩, kind, integration, by simp⟩

theorem not_accepted_nil : ¬ Accepted integrationField [] := by
  simp [Accepted, int, natural]

/-- What is kept was read without an integration, if at all. -/
theorem Keeps.eq_nil (keeps : Keeps job text) (reads : Reads text request integration) :
    integration = [] := by
  cases keeps with
  | inl read =>
      obtain ⟨other, read⟩ := read
      exact (reads.unique read).2
  | inr unread => exact absurd reads (unread.1 request integration)

/-- A number was not read for what is kept. -/
theorem Keeps.not_accepted (keeps : Keeps job text) (reads : Reads text request integration) :
    ¬ Accepted integrationField integration := by
  rw [keeps.eq_nil reads]
  exact not_accepted_nil

theorem Keeps.not_isSome (keeps : Keeps job text)
    (unread : ∀ request integration, ¬ Reads text request integration) :
    ¬ job.integrationId.isSome := by
  cases keeps with
  | inl read =>
      obtain ⟨request, read⟩ := read
      exact absurd read (unread request [])
  | inr missing => simp [missing.2]

/-- What a failure leaves of a job. -/
inductive Outcome (integrationField : ℤ → Option (Option ℕ)) (job : QueueJob) (text : String) :
    QueueJob → Prop
  | stored (request : RequeueRequest) (integration : List Char) (after : QueueJob)
      (reads : Reads text request integration) (accepted : Accepted integrationField integration)
      (stores : after.Stores request) (failed : after.state = .failed) :
      Outcome integrationField job text after
  | kept (keeps : Keeps job text) :
      Outcome integrationField job text { job with state := .failed, excInfo := text }
  | cleared (after : QueueJob)
      (none : ∀ request integration, ¬ Reads text request integration)
      (belongs : job.integrationId.isSome) (stores : after.StoresNone)
      (failed : after.state = .failed) :
      Outcome integrationField job text after
  | refused (request : RequeueRequest) (integration : List Char)
      (reads : Reads text request integration)
      (refused : ¬ Accepted integrationField integration) (nonempty : integration ≠ []) :
      Outcome integrationField job text { job with state := .started }

theorem Outcome.not_pending {after : QueueJob} (outcome : Outcome integrationField job text after) :
    after.state ≠ .pending := by
  cases outcome with
  | stored _ _ _ _ _ _ failed => simp [failed]
  | kept _ => simp
  | cleared _ _ _ _ failed => simp [failed]
  | refused => simp

/-- Only a job that stays failed gets another model. -/
theorem Outcome.failed_of_model {after : QueueJob}
    (outcome : Outcome integrationField job text after)
    (model : after.integrationModelName ≠ job.integrationModelName) : after.state = .failed := by
  cases outcome with
  | stored _ _ _ _ _ _ failed => exact failed
  | kept _ => rfl
  | cleared _ _ _ _ failed => exact failed
  | refused => exact absurd rfl model

theorem QueueJob.StoresNone.not_stores (none : job.StoresNone) : ¬ job.Stores request := by
  intro stores
  have name := stores.exceptionName
  rw [none.exceptionName] at name
  cases name

theorem fail_outcome (integrationField : ℤ → Option (Option ℕ)) (job : QueueJob) (text : String) :
    Outcome integrationField job text (job.fail integrationField text) := by
  rw [QueueJob.fail, QueueJob.write]
  simp only [QueueJob.assign, Option.getD_some, ne_eq, not_true_eq_false, if_false]
  cases found : search exceptionPattern text.toList with
  | none =>
      have none : ∀ request integration, ¬ Reads text request integration := by
        intro request integration ⟨kind, reads⟩
        rw [search_eq_some_iff.mpr reads] at found
        cases found
      by_cases belongs : job.integrationId.isSome
      · simp only [belongs, if_true, Option.getD_some]
        exact .cleared _ none belongs ⟨rfl, rfl, rfl⟩ rfl
      · simp only [belongs, Bool.false_eq_true, if_false, Option.getD_some]
        exact .kept (Or.inr ⟨none, Option.not_isSome_iff_eq_none.mp belongs⟩)
  | some groups =>
      obtain ⟨request, kind, integration, rfl⟩ := exists_reads found
      have reads : Reads text request integration := ⟨kind, search_eq_some_iff.mp found⟩
      by_cases empty : integration = []
      · subst empty
        exact .kept (Or.inl ⟨request, reads⟩)
      · have nonempty : integration.isEmpty = false := by simpa using empty
        simp only [nonempty, Bool.false_eq_true, if_false]
        cases number : int integration with
        | none =>
            simp only [Option.bind_none, Option.getD_none]
            refine .refused request integration reads ?_ empty
            simp [Accepted, number]
        | some number' =>
            simp only [Option.bind_some]
            cases field : integrationField number' with
            | none =>
                simp only [Option.map_none, Option.getD_none]
                refine .refused request integration reads ?_ empty
                simp [Accepted, number, field]
            | some integrationId =>
                simp only [Option.map_some, Option.getD_some]
                refine .stored request integration _ reads ?_ ⟨?_, ?_, ?_⟩ ?_
                · simp [Accepted, number, field]
                · exact find_exceptionName request.exceptionName
                · simp
                · simp
                · rfl

end OdooConnector.Queue
