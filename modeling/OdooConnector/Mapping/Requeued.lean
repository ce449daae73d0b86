import OdooConnector.Mapping.MappingLayer
import OdooConnector.Queue.StoredKeys

/-!
# Requeued jobs

A job that failed for want of a mapping is requeued by every write that makes its lookup succeed
only where its traceback happens to read as what these writes ask for.
-/

namespace OdooConnector.Mapping

open Queue QueueJob

variable {names : ModelNames} {integrationField : ℤ → Option (Option ℕ)} {job : QueueJob}

def MappingLayer.Raises (layer : MappingLayer) (names : ModelNames) (lookup : Lookup) : Prop :=
  ∃ exception, layer.run names lookup = .error exception

def MappingLayer.Succeeds (layer : MappingLayer) (names : ModelNames) (lookup : Lookup) : Prop :=
  ∃ records, layer.run names lookup = .ok records

/-- Every later write that makes the lookup of a failed job succeed asks for just what the job
stores, and requeues it; a job that failed otherwise stores nothing. -/
def Served (names : ModelNames) : Failure → QueueJob → Prop
  | .lookup failed, job =>
      ∀ (layer after : MappingLayer) (write : LayerWrite) (requests : List RequeueRequest),
        layer.apply names write = some (after, requests) → layer.Raises names failed →
          after.Succeeds names failed → ∃ request ∈ requests, job.Stores request ∧
            (requests.foldl requeueIntegrationJobs job).state = .pending
  | .other _, job => job.StoresNone

/-- What a lookup of an external record asks for when its mapping is written. -/
def toExternalRequest (names : ModelNames) (odooId : ℕ) : RequeueRequest :=
  ⟨.notMappedToExternal, names.mapping, toString odooId⟩

/-- What the traceback has to say. -/
def ServedWhen (integrationField : ℤ → Option (Option ℕ)) (names : ModelNames) (failure : Failure)
    (job : QueueJob) (text : String) : Prop :=
  match failure with
  | .lookup (.toExternalRecord _ odooId) =>
      (∃ integration, Reads text (toExternalRequest names odooId) integration ∧
        Accepted integrationField integration) ∨
      Keeps job text ∧ job.Stores (toExternalRequest names odooId)
  -- No write maps the empty code.
  | .lookup (.toOdoo _ code) => code = ""
  | .lookup (.getExternalByCode _ _) => False
  | .other _ =>
      (∀ request integration, Reads text request integration →
        ¬ Accepted integrationField integration ∧ job.StoresNone) ∧
      ((∀ request integration, ¬ Reads text request integration) →
        job.integrationId.isSome ∨ job.StoresNone)

theorem Stores.unique {request other : RequeueRequest} (stores : job.Stores request)
    (stores' : job.Stores other) : request = other := by
  obtain ⟨name, model, key⟩ := stores
  obtain ⟨name', model', key'⟩ := stores'
  rw [name, Option.some_inj] at name'
  rw [model, Option.some_inj] at model'
  rw [key, Option.some_inj] at key'
  cases request
  cases other
  simp_all

theorem foldl_requeue_of_pending (requests : List RequeueRequest) (pending : job.state = .pending) :
    (requests.foldl requeueIntegrationJobs job).state = .pending := by
  induction requests generalizing job with
  | nil => exact pending
  | cons request requests induction =>
      rw [List.foldl_cons]
      apply induction
      rw [requeueIntegrationJobs, if_neg (by simp [pending])]
      exact pending

theorem requeue_of_stores {request : RequeueRequest} (failed : job.state = .failed)
    (stores : job.Stores request) : (job.requeueIntegrationJobs request).state = .pending := by
  rw [requeueIntegrationJobs, if_pos ⟨failed, stores.exceptionName, stores.modelName, stores.key⟩]

theorem requeue_of_not_stores {request : RequeueRequest} (other : ¬ job.Stores request) :
    job.requeueIntegrationJobs request = job := by
  rw [requeueIntegrationJobs, if_neg]
  intro ⟨_, name, model, key⟩
  exact other ⟨name, model, key⟩

/-- A failed job is requeued by a list of requests that has its own. -/
theorem foldl_requeue {requests : List RequeueRequest} {request : RequeueRequest}
    (failed : job.state = .failed) (stores : job.Stores request) (asked : request ∈ requests) :
    (requests.foldl requeueIntegrationJobs job).state = .pending := by
  induction requests with
  | nil => cases asked
  | cons first requests induction =>
      rw [List.foldl_cons]
      by_cases same : job.Stores first
      · exact foldl_requeue_of_pending requests (requeue_of_stores failed same)
      · rw [requeue_of_not_stores same]
        cases asked with
        | head => exact absurd stores same
        | tail _ later => exact induction later

/-- A job is left as it is by requests that are not its own. -/
theorem foldl_requeue_of_not_stores {requests : List RequeueRequest}
    (others : ∀ request ∈ requests, ¬ job.Stores request) :
    requests.foldl requeueIntegrationJobs job = job := by
  induction requests with
  | nil => rfl
  | cons first requests induction =>
      rw [List.foldl_cons, requeue_of_not_stores (others first List.mem_cons_self)]
      exact induction fun request asked => others request (List.mem_cons_of_mem _ asked)

/-- A job that is not failed is not requeued. -/
theorem foldl_requeue_of_ne (requests : List RequeueRequest) (other : job.state ≠ .failed) :
    requests.foldl requeueIntegrationJobs job = job := by
  induction requests with
  | nil => rfl
  | cons request requests induction =>
      rw [List.foldl_cons, requeueIntegrationJobs, if_neg fun wanted => other wanted.1]
      exact induction

section Requests

variable {layer after : MappingLayer} {write : LayerWrite} {requests : List RequeueRequest}

theorem apply_eq_some (applied : layer.apply names write = some (after, requests)) :
    after.toMappingTables = layer.toMappingTables.write write ∧
      requests = after.requests names write := by
  rw [MappingLayer.apply] at applied
  split at applied
  · cases applied
    exact ⟨rfl, rfl⟩
  · cases applied

/-- A mapping with a record of Odoo asks for the jobs that look up its external record. -/
theorem toExternalRequest_mem {mapping : IntegrationMapping} {odooId : ℕ}
    (member : mapping ∈ layer.mappings) (maps : mapping.internal = some odooId) :
    toExternalRequest names odooId ∈ layer.mappingRequests names mapping := by
  obtain ⟨external, listed, same⟩ :=
    List.mem_map.mp (layer.consistent.externalExists mapping member)
  have found : (layer.externals.find? fun external => external.id = mapping.external).isSome := by
    rw [List.find?_isSome]
    exact ⟨external, listed, by simpa using same⟩
  obtain ⟨external, hit⟩ := Option.isSome_iff_exists.mp found
  simp [MappingLayer.mappingRequests, maps, hit, toExternalRequest]

/-- Codes are unique in a store. -/
theorem not_two_externals {integration : Integration} {code : String}
    {first second : IntegrationExternal} {rest : List IntegrationExternal} :
    layer.externalsByCode integration code ≠ first :: second :: rest := by
  intro found
  have sub : (first :: second :: rest).Sublist layer.externals :=
    found ▸ List.filter_sublist
  have unique := (sub.map fun external => (external.integrationId, external.code)).nodup
    layer.consistent.uniqCode
  have chosen (external : IntegrationExternal) (member : external ∈ first :: second :: rest) :
      (external.integrationId, external.code) = (integration.id, code) := by
    rw [← found] at member
    simpa using (List.mem_filter.mp member).2
  have same := (chosen first (by simp)).trans (chosen second (by simp)).symm
  simp [same] at unique

/-- The exception of a lookup does not depend on the layer. -/
theorem run_error {lookup : Lookup} {exception : RaisedException}
    (raised : layer.run names lookup = .error exception) :
    exception = lookup.exception names := by
  cases lookup with
  | toOdoo integration code =>
      rw [MappingLayer.run] at raised
      have found : ∃ mappings, layer.getMapping names integration code = .ok mappings := by
        rw [MappingLayer.getMapping]
        split
        · exact ⟨_, rfl⟩
        · cases externals : layer.externalsByCode integration code with
          | nil => exact ⟨_, rfl⟩
          | cons first rest =>
              cases rest with
              | nil => exact ⟨_, rfl⟩
              | cons second rest => exact absurd externals not_two_externals
      obtain ⟨mappings, found⟩ := found
      rw [found] at raised
      simp only [Except.bind] at raised
      split at raised
      · cases raised
        rfl
      · cases raised
  | toExternalRecord integration odooId =>
      rw [MappingLayer.run] at raised
      split at raised
      · cases raised
        rfl
      · cases raised
  | getExternalByCode integration code =>
      rw [MappingLayer.run] at raised
      split at raised
      · cases raised
        rfl
      · cases raised
      · rename_i none single
        cases externals : layer.externalsByCode integration code with
        | nil => exact absurd externals none
        | cons first rest =>
            cases rest with
            | nil => exact absurd externals (single first)
            | cons second rest => exact absurd externals not_two_externals

theorem raises_iff {lookup : Lookup} :
    layer.Raises names lookup ↔ ¬ layer.Succeeds names lookup := by
  rw [MappingLayer.Raises, MappingLayer.Succeeds]
  cases layer.run names lookup <;> simp

theorem toExternalRecord_succeeds_iff {integration : Integration} {odooId : ℕ} :
    layer.Succeeds names (.toExternalRecord integration odooId) ↔
      ∃ mapping ∈ layer.mappings, mapping.integrationId = integration.id ∧
        mapping.internal = some odooId := by
  rw [MappingLayer.Succeeds, MappingLayer.run]
  cases last : (layer.mappings.filter fun mapping =>
    mapping.integrationId = integration.id && mapping.internal = some odooId).argmax
      IntegrationMapping.id with
  | none =>
      have none := List.filter_eq_nil_iff.mp (List.argmax_eq_none.mp last)
      refine iff_of_false (by simp) fun ⟨mapping, member, same, maps⟩ => ?_
      exact none mapping member (by simp [same, maps])
  | some mapping =>
      have member := List.mem_filter.mp (List.argmax_mem last)
      refine iff_of_true ⟨_, rfl⟩ ⟨mapping, member.1, ?_⟩
      simpa using member.2

/-- A write that maps a record of Odoo asks for the jobs that look up its external record. -/
theorem toExternalRequest_mem_requests {integration : Integration} {odooId : ℕ}
    (applied : layer.apply names write = some (after, requests))
    (raises : layer.Raises names (.toExternalRecord integration odooId))
    (succeeds : after.Succeeds names (.toExternalRecord integration odooId)) :
    toExternalRequest names odooId ∈ requests := by
  obtain ⟨tables, rfl⟩ := apply_eq_some applied
  rw [raises_iff, toExternalRecord_succeeds_iff] at raises
  obtain ⟨mapping, member, same, maps⟩ := toExternalRecord_succeeds_iff.mp succeeds
  have asked : toExternalRequest names odooId ∈ after.mappingRequests names mapping :=
    toExternalRequest_mem member maps
  rw [tables] at member
  cases write with
  | createMappings records =>
      cases List.mem_append.mp member with
      | inl before => exact absurd ⟨mapping, before, same, maps⟩ raises
      | inr created => exact List.mem_flatMap.mpr ⟨mapping, created, asked⟩
  | writeMappings ids vals =>
      obtain ⟨before, known, written⟩ := List.mem_map.mp member
      by_cases chosen : before.id ∈ ids
      · rw [if_pos chosen] at written
        have id : mapping.id = before.id := by rw [← written, IntegrationMapping.assign]
        refine List.mem_flatMap.mpr ⟨mapping, List.mem_filter.mpr ⟨?_, ?_⟩, asked⟩
        · rw [tables]
          exact member
        · simpa [id] using chosen
      · rw [if_neg chosen] at written
        exact absurd ⟨mapping, written ▸ known, same, maps⟩ raises
  | createExternals records => exact absurd ⟨mapping, member, same, maps⟩ raises
  | writeExternals ids vals => exact absurd ⟨mapping, member, same, maps⟩ raises

theorem apply_eq (tables : layer.toMappingTables.write write = after.toMappingTables) :
    layer.apply names write = some (after, after.requests names write) := by
  have consistent : (layer.toMappingTables.write write).Consistent := tables ▸ after.consistent
  rw [MappingLayer.apply, dif_pos consistent]
  cases after
  cases tables
  rfl

/-- One external record without a reference, and perhaps its mapping. -/
def singleLayer (integrationId : ℕ) (code : String) (internal : Option ℕ) : MappingLayer where
  mappings := (internal.map fun odooId => ⟨1, integrationId, some odooId, 1⟩).toList
  externals := [⟨1, integrationId, code, none⟩]
  consistent := by
    constructor <;> cases internal <;> simp

def emptyLayer : MappingLayer where
  mappings := []
  externals := []
  consistent := by constructor <;> simp

end Requests

/-- A new mapping asks for the jobs of both its records, and for no others. -/
theorem eq_toExternalRequest {integration : Integration} {odooId : ℕ} {request : RequeueRequest}
    (served : ∀ code, ∃ request' ∈ ((singleLayer integration.id code (some odooId)).mappingRequests
      names ⟨1, integration.id, some odooId, 1⟩), job.Stores request')
    (stores : job.Stores request) : request = toExternalRequest names odooId := by
  have asks (code : String) : request = ⟨.notMappedFromExternal, names.mapping, code⟩ ∨
      request = toExternalRequest names odooId := by
    obtain ⟨request', asked, stores'⟩ := served code
    rw [← Stores.unique stores stores'] at asked
    simpa [MappingLayer.mappingRequests, singleLayer, toExternalRequest] using asked
  cases asks "a" with
  | inr wanted => exact wanted
  | inl first =>
      cases asks "b" with
      | inr wanted => exact wanted
      | inl second => exact absurd (first.symm.trans second) (by simp)

theorem served_toExternalRecord_iff {integration : Integration} {odooId : ℕ}
    (waiting : job.state ≠ .pending) :
    Served names (.lookup (.toExternalRecord integration odooId)) job ↔
      job.Stores (toExternalRequest names odooId) ∧ job.state = .failed := by
  constructor
  · intro served
    have created (code : String) :=
      served (singleLayer integration.id code none) (singleLayer integration.id code (some odooId))
        (.createMappings [⟨1, integration.id, some odooId, 1⟩]) _ (apply_eq rfl)
        (raises_iff.mpr (by simp [toExternalRecord_succeeds_iff, singleLayer]))
        (toExternalRecord_succeeds_iff.mpr (by simp [singleLayer]))
    have asked (code : String) : ∃ request ∈ (singleLayer integration.id code
        (some odooId)).mappingRequests names ⟨1, integration.id, some odooId, 1⟩,
        job.Stores request := by
      obtain ⟨request, asked, stores, -⟩ := created code
      simp only [MappingLayer.requests, List.flatMap_singleton] at asked
      exact ⟨request, asked, stores⟩
    obtain ⟨request, -, stores, pending⟩ := created ""
    refine ⟨eq_toExternalRequest asked stores ▸ stores, ?_⟩
    by_contra other
    rw [foldl_requeue_of_ne _ other] at pending
    exact waiting pending
  · intro ⟨stores, failed⟩ layer after write requests applied raises succeeds
    have asked := toExternalRequest_mem_requests applied raises succeeds
    exact ⟨_, asked, stores, foldl_requeue failed stores asked⟩

/-- A written code may make a mapping found without asking for any job. -/
theorem served_toOdoo_iff {integration : Integration} {code : String} :
    Served names (.lookup (.toOdoo integration code)) job ↔ code = "" := by
  constructor
  · intro served
    by_contra nonempty
    have raises : (singleLayer integration.id "" (some 1)).Raises names
        (.toOdoo integration code) := by
      simp [MappingLayer.Raises, MappingLayer.run, MappingLayer.getMapping, nonempty,
        MappingLayer.externalsByCode, singleLayer, Ne.symm nonempty,
        MappingLayer.searchMappingFromExternal, Except.bind]
    have succeeds : (singleLayer integration.id code (some 1)).Succeeds names
        (.toOdoo integration code) := by
      simp [MappingLayer.Succeeds, MappingLayer.run, MappingLayer.getMapping, nonempty,
        MappingLayer.externalsByCode, singleLayer,
        MappingLayer.searchMappingFromExternal, Except.bind]
    obtain ⟨request, asked, -⟩ := served (singleLayer integration.id "" (some 1))
      (singleLayer integration.id code (some 1)) (.writeExternals [1] ⟨none, some code, none⟩) _
      (apply_eq (by simp [MappingTables.write, singleLayer, IntegrationExternal.assign]))
      raises succeeds
    simp [MappingLayer.requests, singleLayer, externalRequests] at asked
  · rintro rfl layer after write requests applied raises succeeds
    simp [MappingLayer.Succeeds, MappingLayer.run, MappingLayer.getMapping, Except.bind]
      at succeeds

/-- An external record without a reference asks for no job. -/
theorem not_served_getExternalByCode {integration : Integration} {code : String} :
    ¬ Served names (.lookup (.getExternalByCode integration code)) job := by
  intro served
  have raises : emptyLayer.Raises names (.getExternalByCode integration code) := by
    simp [MappingLayer.Raises, MappingLayer.run, MappingLayer.externalsByCode, emptyLayer]
  have succeeds : (singleLayer integration.id code none).Succeeds names
      (.getExternalByCode integration code) := by
    simp [MappingLayer.Succeeds, MappingLayer.run, MappingLayer.externalsByCode, singleLayer]
  obtain ⟨request, asked, -⟩ := served emptyLayer (singleLayer integration.id code none)
    (.createExternals [⟨1, integration.id, code, none⟩]) _ (apply_eq rfl) raises succeeds
  simp [MappingLayer.requests, externalRequests] at asked

theorem stores_toExternalRequest_iff {odooId : ℕ} {text : String} {after : QueueJob}
    (outcome : Outcome integrationField job text after) :
    after.Stores (toExternalRequest names odooId) ∧ after.state = .failed ↔
      (∃ integration, Reads text (toExternalRequest names odooId) integration ∧
        Accepted integrationField integration) ∨
      Keeps job text ∧ job.Stores (toExternalRequest names odooId) := by
  cases outcome with
  | stored request integration _ reads accepted stores failed =>
      constructor
      · intro ⟨wanted, _⟩
        rw [← Stores.unique stores wanted]
        exact Or.inl ⟨integration, reads, accepted⟩
      · intro condition
        cases condition with
        | inl read =>
            obtain ⟨integration', read, -⟩ := read
            rw [← (reads.unique read).1]
            exact ⟨stores, failed⟩
        | inr kept => exact absurd accepted (kept.1.not_accepted reads)
  | kept keeps =>
      constructor
      · intro ⟨⟨name, model, key⟩, _⟩
        exact Or.inr ⟨keeps, name, model, key⟩
      · intro condition
        cases condition with
        | inl read =>
            obtain ⟨integration, read, accepted⟩ := read
            exact absurd accepted (keeps.not_accepted read)
        | inr kept =>
            obtain ⟨-, name, model, key⟩ := kept
            exact ⟨⟨name, model, key⟩, rfl⟩
  | cleared _ none belongs stores =>
      refine iff_of_false (fun wanted => ?_) fun condition => ?_
      · exact stores.not_stores wanted.1
      · cases condition with
        | inl read =>
            obtain ⟨integration, read, -⟩ := read
            exact none _ integration read
        | inr kept => exact kept.1.not_isSome none belongs
  | refused request integration reads refused nonempty =>
      refine iff_of_false (fun wanted => by cases wanted.2) fun condition => ?_
      cases condition with
      | inl read =>
          obtain ⟨integration', read, accepted⟩ := read
          rw [← (reads.unique read).2] at accepted
          exact refused accepted
      | inr kept => exact nonempty (kept.1.eq_nil reads)

theorem storesNone_iff {text : String} {after : QueueJob}
    (outcome : Outcome integrationField job text after) :
    after.StoresNone ↔
      (∀ request integration, Reads text request integration →
        ¬ Accepted integrationField integration ∧ job.StoresNone) ∧
      ((∀ request integration, ¬ Reads text request integration) →
        job.integrationId.isSome ∨ job.StoresNone) := by
  cases outcome with
  | stored request integration _ reads accepted stores =>
      refine iff_of_false (fun none => none.not_stores stores) fun condition => ?_
      exact (condition.1 request integration reads).1 accepted
  | kept keeps =>
      constructor
      · intro ⟨name, model, key⟩
        have none : job.StoresNone := ⟨name, model, key⟩
        exact ⟨fun request integration reads => ⟨keeps.not_accepted reads, none⟩,
          fun _ => Or.inr none⟩
      · intro ⟨read, unread⟩
        have none : job.StoresNone := by
          cases keeps with
          | inl reads =>
              obtain ⟨request, reads⟩ := reads
              exact (read request [] reads).2
          | inr missing =>
              cases unread missing.1 with
              | inl belongs => simp [missing.2] at belongs
              | inr none => exact none
        exact ⟨none.exceptionName, none.modelName, none.key⟩
  | cleared _ unread belongs none =>
      refine iff_of_true none ⟨fun request integration reads => ?_, fun _ => Or.inl belongs⟩
      exact absurd reads (unread request integration)
  | refused request integration reads refused =>
      constructor
      · intro ⟨name, model, key⟩
        have none : job.StoresNone := ⟨name, model, key⟩
        refine ⟨fun request' integration' reads' => ⟨?_, none⟩, fun _ => Or.inr none⟩
        rw [← (reads.unique reads').2]
        exact refused
      · intro ⟨read, _⟩
        have none := (read request integration reads).2
        exact ⟨none.exceptionName, none.modelName, none.key⟩

theorem failures_served_iff (names : ModelNames) (integrationField : ℤ → Option (Option ℕ))
    (job : QueueJob) (traceback : String) (failure : Failure) :
    Served names failure
        (job.fail integrationField (printExc traceback (failure.exception names))) ↔
      ServedWhen integrationField names failure job
        (printExc traceback (failure.exception names)) := by
  generalize printExc traceback (failure.exception names) = text
  have outcome := fail_outcome integrationField job text
  cases failure with
  | lookup failed =>
      cases failed with
      | toOdoo integration code => exact served_toOdoo_iff
      | getExternalByCode integration code =>
          exact iff_of_false not_served_getExternalByCode not_false
      | toExternalRecord integration odooId =>
          rw [served_toExternalRecord_iff outcome.not_pending]
          exact stores_toExternalRequest_iff outcome
  | other exception => exact storesNone_iff outcome

def partnerNames : ModelNames :=
  ⟨"res.partner", "integration.res.partner.mapping", "integration.res.partner.external"⟩

def unmappedPartner : Lookup := .toOdoo ⟨1, "Shop"⟩ "42"

/-- A job that failed to find the partner with the code 42 of the store 1. -/
def unmappedJob : QueueJob :=
  QueueJob.fail (fun id => some (some id.toNat)) ⟨.started, "", some 1, none, none, none⟩
    (printExc "Traceback (most recent call last):\n" (unmappedPartner.exception partnerNames))

theorem unmappedJob_model :
    unmappedJob.integrationModelName = some "Shop → integration.res.partner.mapping" := by
  decide +kernel

/-- The job stores the name of the store in front of the model, and is not requeued by the mapping
of its code. -/
theorem unmappedJob_not_requeued :
    unmappedJob.integrationModelName = some "Shop → integration.res.partner.mapping" ∧
      (∃ after requests, (singleLayer 1 "42" none).apply partnerNames
          (.createMappings [⟨1, 1, some 7, 1⟩]) = some (after, requests) ∧
        after.Succeeds partnerNames unmappedPartner ∧
        (requests.foldl requeueIntegrationJobs unmappedJob).state = .failed) ∧
      ¬ Served partnerNames (.lookup unmappedPartner) unmappedJob := by
  have model := unmappedJob_model
  have failed : unmappedJob.state = .failed :=
    (fail_outcome _ _ _).failed_of_model (model.trans_ne (Option.some_ne_none _))
  have models : ∀ request ∈ (singleLayer 1 "42" (some 7)).requests partnerNames
      (.createMappings [⟨1, 1, some 7, 1⟩]),
      request.modelName = "integration.res.partner.mapping" := by decide +kernel
  refine ⟨model, ⟨singleLayer 1 "42" (some 7), _, apply_eq rfl, ⟨[7], by decide +kernel⟩, ?_⟩,
    fun served => ?_⟩
  · rw [foldl_requeue_of_not_stores]
    · exact failed
    · intro request asked stores
      have wanted := stores.modelName
      rw [model, models request asked] at wanted
      exact absurd wanted (by decide)
  · exact absurd (served_toOdoo_iff.mp served) (by decide)

end OdooConnector.Mapping
