import OdooConnector.Library.History
import OdooConnector.Library.LikePattern
import OdooConnector.Order.Webhook

/-!
# Jobs that webhooks delay

Requests are handled while settings, input files and products change and jobs run. A job is delayed
only by a request that was verified, and an event is not lost where a job of its key is waiting.
-/

namespace OdooConnector.Order

variable {Detail : Type}

/-! ### Keys -/

/-- The fixed text of a key, and the separator after the number of the integration. -/
def JobKind.affixes : JobKind → String × Char
  | receiveOrder => ("receive_order-shopify_", '_')
  | cancelOrder => ("cancel_order-shopify_", '_')
  | processPipeline => ("process_pipeline-", '_')
  | importProduct => ("import_external_product-", '-')
  | updateProduct => ("update_external_product-", '-')
  | deleteProduct => ("delete_external_product-", '-')

theorem identityKey_eq (target : JobTarget) : target.identityKey.toList =
    target.kind.affixes.1.toList ++ (Nat.toDigits 10 target.integrationId ++
      target.kind.affixes.2 :: target.externalId.toList) := by
  obtain ⟨kind, integrationId, externalId⟩ := target
  cases kind <;> simp [JobTarget.identityKey, JobKind.affixes, shopify]

/-- Keys of different kinds differ in their first letter. -/
def kindOf : Option Char → Option JobKind
  | some 'r' => some .receiveOrder
  | some 'c' => some .cancelOrder
  | some 'p' => some .processPipeline
  | some 'i' => some .importProduct
  | some 'u' => some .updateProduct
  | some 'd' => some .deleteProduct
  | _ => none

theorem kindOf_identityKey (target : JobTarget) :
    kindOf target.identityKey.toList.head? = some target.kind := by
  rw [identityKey_eq]
  cases target.kind <;> rfl

/-- The key tells what the job is about. -/
theorem identityKey_injective : Function.Injective JobTarget.identityKey := by
  intro first second same
  have kind : first.kind = second.kind := by
    have read := congrArg (fun key => kindOf key.toList.head?) same
    simpa only [kindOf_identityKey, Option.some_inj] using read
  have texts := congrArg String.toList same
  rw [identityKey_eq, identityKey_eq, kind, List.append_cancel_left_eq] at texts
  have separates (number : ℕ) :
      second.kind.affixes.2 ∉ Nat.toDigits 10 number := by
    intro member
    have digit := Nat.isDigit_of_mem_toDigits (by omega) (by omega) member
    revert digit
    cases second.kind <;> decide
  obtain ⟨digits, externalId⟩ := append_separator_inj (separates _) (separates _) texts
  have integrationId := congrArg (fun chars => Nat.ofDigitChars 10 chars 0) digits
  simp only [Nat.ofDigitChars_ten_toDigits] at integrationId
  obtain ⟨_, _, _⟩ := first
  cases kind
  cases integrationId
  cases String.toList_injective externalId
  rfl

/-! ### What a request that delays a job has to be -/

/-- The request comes from the shop of the integration, for a topic that it listens to, and is
signed with its key. -/
structure IsGenuine (library : WebhookLibrary) (integration : WebhookIntegration)
    (request : WebhookRequest) : Prop where
  shopify : integration.typeApi = shopify
  active : integration.isActive = true
  headers : ∀ header, request.header header ≠ ""
  domain : request.header .shopDomain = truncateSettingsUrl integration.url ∨
    request.header .shopDomain = integration.originalUrl
  line : ∃ line, (integration.webhookLines.filter fun line =>
    line.technicalName = request.webhookTopic) = [line] ∧ line.isActive = true
  signed : integration.enableWebhookHmacValidation = true →
    integration.secretKey ≠ "" ∧ request.data ≠ [] ∧
      (∀ char ∈ (request.header .hmacSha256).toList, char.toNat < 128) ∧
      library.hmacSha256 integration.secretKey request.data = request.header .hmacSha256

section Genuine

variable {library : WebhookLibrary} {integration : WebhookIntegration} {request : WebhookRequest}

theorem missingHeaders_eq_nil_iff :
    request.missingHeaders = [] ↔ ∀ header, request.header header ≠ "" := by
  rw [WebhookRequest.missingHeaders, List.filter_eq_nil_iff]
  constructor
  · intro none header same
    refine none header ?_ (decide_eq_true same)
    cases header <;> decide
  · intro present header _ same
    exact present header (of_decide_eq_true same)

theorem checkWebhookDigitalSign_eq_ok_true (headers : ∀ header, request.header header ≠ "") :
    integration.checkWebhookDigitalSign library request = .ok true ↔
      (integration.enableWebhookHmacValidation = true →
        integration.secretKey ≠ "" ∧ request.data ≠ [] ∧
          (∀ char ∈ (request.header .hmacSha256).toList, char.toNat < 128) ∧
          library.hmacSha256 integration.secretKey request.data = request.header .hmacSha256) := by
  rw [WebhookIntegration.checkWebhookDigitalSign]
  split
  · rename_i disabled
    exact iff_of_true rfl fun enabled => absurd enabled (by simp [disabled])
  · rename_i enabled
    rw [Bool.not_eq_false] at enabled
    rw [if_neg (headers _)]
    split
    · rename_i empty
      exact iff_of_false nofun fun signed => (signed enabled).2.1 empty
    · rename_i filled
      split
      · rename_i keyless
        exact iff_of_false nofun fun signed => (signed enabled).1 keyless
      · rename_i key
        split
        · rename_i ascii
          rw [List.all_eq_true] at ascii
          simp only [decide_eq_true_eq] at ascii
          rw [Except.ok.injEq, decide_eq_true_eq]
          exact ⟨fun same _ => ⟨key, filled, ascii, same⟩, fun signed => (signed enabled).2.2.2⟩
        · rename_i other
          refine iff_of_false nofun fun signed => other (List.all_eq_true.mpr fun char member => ?_)
          exact decide_eq_true ((signed enabled).2.2.1 char member)

/-- Behind a check that refuses, only what passes the check succeeds. -/
theorem ite_error_eq_ok {Error Value : Type} {refused : Prop} [Decidable refused] {error : Error}
    {rest : Except Error Value} {value : Value} :
    (if refused then .error error else rest) = .ok value ↔ ¬ refused ∧ rest = .ok value := by
  split <;> simp [*]

theorem verifyWebhook_eq_ok (shopify : integration.typeApi = shopify) :
    integration.verifyWebhook library request = .ok () ↔ IsGenuine library integration request := by
  rw [WebhookIntegration.verifyWebhook, ite_error_eq_ok, ite_error_eq_ok, ite_error_eq_ok,
    ite_error_eq_ok, Bool.not_eq_false, not_not, missingHeaders_eq_nil_iff, not_and_or, not_not,
    not_not]
  constructor
  · rintro ⟨active, headers, domain, -, checked⟩
    split at checked
    · cases checked
    · rename_i line lines
      rw [ite_error_eq_ok, Bool.not_eq_false] at checked
      obtain ⟨heard, checked⟩ := checked
      split at checked
      · cases checked
      · cases checked
      · rename_i valid
        exact ⟨shopify, active, headers, domain, ⟨line, lines, heard⟩,
          (checkWebhookDigitalSign_eq_ok_true headers).mp valid⟩
    · cases checked
  · intro genuine
    obtain ⟨line, lines, heard⟩ := genuine.line
    refine ⟨genuine.active, genuine.headers, genuine.domain, ?_, ?_⟩
    · intro none
      rw [List.isEmpty_iff.mp none] at lines
      cases lines
    · have valid := (checkWebhookDigitalSign_eq_ok_true genuine.headers).mpr genuine.signed
      rw [lines]
      simp only [heard, valid, Bool.true_eq_false, if_false]

/-- Genuine requests, and only those, are verified. -/
theorem validateIntegration_eq_ok {found : Option WebhookIntegration} :
    validateIntegration library found request = .ok integration ↔
      found = some integration ∧ IsGenuine library integration request := by
  rw [validateIntegration]
  split
  · rename_i unknown
    refine iff_of_false nofun ?_
    rintro ⟨rfl, genuine⟩
    rw [Option.filter_some, if_pos (decide_eq_true genuine.shopify)] at unknown
    cases unknown
  · rename_i candidate known
    obtain ⟨rfl, shopify⟩ := Option.filter_eq_some_iff.mp known
    rw [ite_error_eq_ok, Option.some_inj]
    have accepted := @verifyWebhook_eq_ok library candidate request (of_decide_eq_true shopify)
    constructor
    · rintro ⟨-, verified⟩
      cases outcome : candidate.verifyWebhook library request with
      | error error =>
          rw [outcome] at verified
          cases verified
      | ok =>
          rw [outcome] at verified
          cases verified
          exact ⟨rfl, accepted.mp outcome⟩
    · rintro ⟨rfl, genuine⟩
      rw [accepted.mpr genuine]
      exact ⟨by simp [genuine.active], rfl⟩

end Genuine

/-! ### What delays a job -/

/-- Orders are received only where their import is enabled, and other jobs are for what is there. -/
def HasSubject (tables : WebhookTables) (integration : WebhookIntegration) (target : JobTarget) :
    Prop :=
  match target.kind with
  | .receiveOrder => integration.isOrderImportEnabled = true
  | .cancelOrder | .processPipeline => integration.isOrderImportEnabled = true ∧
      tables.inputFile target.integrationId target.externalId = true
  | .importProduct => True
  | .updateProduct | .deleteProduct =>
      (tables.product target.integrationId target.externalId).isSome

/-- The request is genuine and names, in its body, the order or product that the job is about. -/
def Justifies (library : WebhookLibrary) (tables : WebhookTables) (request : WebhookRequest)
    (target : JobTarget) : Prop :=
  ∃ integration, tables.integration request.integrationId = some integration ∧
    IsGenuine library integration request ∧
    request.valueFromPostData library "id" = .ok target.externalId ∧
    target.integrationId = request.integrationId ∧ HasSubject tables integration target

section Handled

variable {library : WebhookLibrary} {integration : WebhookIntegration} {request : WebhookRequest}
  {tables : WebhookTables} {integrationId : ℕ} {externalId : String} {handled : Handled Detail}
  {job : WebhookJob Detail}

/-- The only job that imports an order is that of its id. -/
def Receives (integration : WebhookIntegration) (integrationId : ℕ) (externalId : String)
    (job : WebhookJob Detail) : Prop :=
  job.target = ⟨.receiveOrder, integrationId, externalId⟩ ∧
    integration.isOrderImportEnabled = true

theorem processCreateOrder_job {answer : Except String (PipelineData Detail)}
    (done : integration.processCreateOrder library integrationId externalId answer = .ok handled)
    (delays : handled.job = some job) : Receives integration integrationId externalId job := by
  unfold WebhookIntegration.processCreateOrder at done
  split at done
  · cases done
    cases delays
  · rename_i enabled
    split at done
    · cases done
    · split at done
      · cases done
      · cases done
        cases delays
      · split at done
        · cases done
          cases delays
        · cases done
          cases delays
          exact ⟨rfl, by simpa using enabled⟩

/-- An order without an input file is not missed but received, if anything is delayed for it. -/
theorem handleMissingOrder_job {hasInputFile : Bool} {workflowStates : String × String}
    {dateOrder : Option String} {outcome : Option (Handled Detail)}
    (done : integration.handleMissingOrder library integrationId externalId hasInputFile
      workflowStates dateOrder = .ok outcome) :
    (outcome = none ∧ hasInputFile = true ∧ integration.isOrderImportEnabled = true) ∨
      ∃ handled, outcome = some handled ∧
        ∀ job, handled.job = some job → Receives integration integrationId externalId job := by
  unfold WebhookIntegration.handleMissingOrder at done
  split at done
  · cases done
    refine .inr ⟨_, rfl, fun job delays => ?_⟩
    cases delays
  · rename_i enabled
    rw [Bool.not_eq_false] at enabled
    split at done
    · rename_i there
      cases done
      exact .inl ⟨rfl, there, enabled⟩
    · split at done
      · cases done
      · cases done
        refine .inr ⟨_, rfl, fun job delays => ?_⟩
        cases delays
      · split at done
        · cases done
          refine .inr ⟨_, rfl, fun job delays => ?_⟩
          cases delays
        · cases done
          refine .inr ⟨_, rfl, fun job delays => ?_⟩
          cases delays
          exact ⟨rfl, enabled⟩

theorem processOrder_job {kind : JobKind} {action : String} {hasInputFile : Bool}
    {answer : Except String (PipelineData Detail)}
    (done : integration.processOrder library integrationId externalId kind action hasInputFile
      answer = .ok handled) (delays : handled.job = some job) :
    Receives integration integrationId externalId job ∨
      job.target = ⟨kind, integrationId, externalId⟩ ∧ hasInputFile = true ∧
        integration.isOrderImportEnabled = true := by
  unfold WebhookIntegration.processOrder at done
  split at done
  · cases done
  · split at done
    · cases done
    · rename_i answered missing
      cases done
      rcases handleMissingOrder_job missing with ⟨none, -⟩ | ⟨_, same, receives⟩
      · cases none
      · cases same
        exact .inl (receives job delays)
    · rename_i missing
      cases done
      cases delays
      rcases handleMissingOrder_job missing with ⟨-, there, enabled⟩ | ⟨_, same, -⟩
      · exact .inr ⟨rfl, there, enabled⟩
      · cases same

theorem processSaveProduct_job {action : String} {product : Option WebhookProduct} {now : ℤ}
    (done : integration.processSaveProduct library integrationId externalId action request product
      now = .ok handled) (delays : handled.job = some job) :
    job.target = ⟨.importProduct, integrationId, externalId⟩ ∨
      job.target = ⟨.updateProduct, integrationId, externalId⟩ ∧ product.isSome := by
  rw [WebhookIntegration.processSaveProduct] at done
  split at done
  · cases done
    cases delays
  · split at done
    · cases done
    · cases done
      unfold WebhookIntegration.updateProductByIdWithDelay at delays
      split at delays
      · cases delays
        exact .inl rfl
      · split at delays
        · cases delays
          exact .inl rfl
        · split at delays
          · cases delays
          · cases delays
            exact .inr ⟨rfl, rfl⟩

theorem isSome_of_getExternalProduct {products : String → Option WebhookProduct}
    (found : (getExternalProduct products externalId).isSome) : (products externalId).isSome := by
  rw [getExternalProduct] at found
  split at found
  · cases found
  · split at found
    · cases found
    · exact found

/-- Each job that a request delays is justified. -/
theorem receive_justified {answer : String → Except String (PipelineData Detail)} {now : ℤ}
    (done : tables.receive library request answer now = .ok handled)
    (delays : handled.job = some job) : Justifies library tables request job.target := by
  rw [WebhookTables.receive] at done
  split at done
  · cases done
  · rename_i integration validated
    obtain ⟨found, genuine⟩ := validateIntegration_eq_ok.mp validated
    split at done
    · cases done
    · rename_i externalId named
      have justified {kind : JobKind}
          (same : job.target = ⟨kind, request.integrationId, externalId⟩)
          (meets : HasSubject tables integration ⟨kind, request.integrationId, externalId⟩) :
          Justifies library tables request job.target := by
        rw [same]
        exact ⟨integration, found, genuine, named, rfl, meets⟩
      have received (receives : Receives integration request.integrationId externalId job) :
          Justifies library tables request job.target := justified receives.1 receives.2
      have ordered {kind : JobKind} (order : kind = .cancelOrder ∨ kind = .processPipeline)
          (outcome : Receives integration request.integrationId externalId job ∨
            job.target = ⟨kind, request.integrationId, externalId⟩ ∧
              tables.inputFile request.integrationId externalId = true ∧
              integration.isOrderImportEnabled = true) :
          Justifies library tables request job.target := by
        rcases outcome with receives | ⟨same, there, enabled⟩
        · exact received receives
        · rcases order with rfl | rfl
          · exact justified same ⟨enabled, there⟩
          · exact justified same ⟨enabled, there⟩
      unfold WebhookTables.processEvent at done
      split at done
      · cases done
        cases delays
      · exact received (processCreateOrder_job done delays)
      · exact ordered (.inr rfl) (processOrder_job done delays)
      · exact ordered (.inr rfl) (processOrder_job done delays)
      · exact ordered (.inr rfl) (processOrder_job done delays)
      · exact ordered (.inl rfl) (processOrder_job done delays)
      · rcases processSaveProduct_job done delays with same | ⟨same, known⟩
        · exact justified same trivial
        · exact justified same (isSome_of_getExternalProduct known)
      · rcases processSaveProduct_job done delays with same | ⟨same, known⟩
        · exact justified same trivial
        · exact justified same (isSome_of_getExternalProduct known)
      · cases done
        obtain ⟨product, known, rfl⟩ := Option.map_eq_some_iff.mp delays
        exact justified rfl (isSome_of_getExternalProduct (known ▸ rfl))

end Handled

/-! ### The queue -/

/-- A job in the queue, the request that delayed it where one did, and the step at which it was last
started. -/
structure QueuedJob (Detail : Type) where
  job : WebhookJob Detail
  source : Option WebhookRequest
  state : Queue.JobState
  lastStarted : Option ℕ

/-- `job_record_with_same_identity_key` looks for jobs in these states. -/
def QueuedJob.waits (queued : QueuedJob Detail) : Bool :=
  queued.state = .waitDependencies || queued.state = .pending || queued.state = .enqueued

/-- What a request reads when its transaction begins, and the step at which it does. -/
structure WebhookSnapshot (Detail : Type) where
  tables : WebhookTables
  queue : List (QueuedJob Detail)
  begun : ℕ

/-- Next to the database, what requests have asked for since which step, and the number of steps. -/
structure WebhookServer (Detail : Type) where
  tables : WebhookTables
  queue : List (QueuedJob Detail)
  snapshots : ℕ → Option (WebhookSnapshot Detail)
  asked : List (JobTarget × ℕ)
  clock : ℕ

/-- Requests begin and commit. Meanwhile users change integrations, files and products come and go,
other code delays jobs, and jobs change their state. -/
inductive WebhookAction (Detail : Type) where
  | begin (number : ℕ)
  | commit (number : ℕ) (request : WebhookRequest)
      (answer : String → Except String (PipelineData Detail)) (now : ℤ)
  | rollback (number : ℕ)
  | setTables (tables : WebhookTables)
  | delay (job : WebhookJob Detail)
  | setState (index : ℕ) (state : Queue.JobState)

namespace WebhookServer

variable (server : WebhookServer Detail)

def start : WebhookServer Detail where
  tables := ⟨fun _ => none, fun _ _ => false, fun _ _ => none⟩
  queue := []
  snapshots _ := none
  asked := []
  clock := 0

/-- `with_delay`. A job of the same key that waited in the snapshot stands for the new one. -/
def withDelay (seen : List (QueuedJob Detail)) (job : WebhookJob Detail)
    (source : Option WebhookRequest) : List (QueuedJob Detail) :=
  if seen.any fun queued =>
      queued.waits && queued.job.target.identityKey = job.target.identityKey then server.queue
  else server.queue ++ [⟨job, source, .pending, none⟩]

/-- `drop_external_record` -/
def dropProduct (integrationId : ℕ) (dropped : Option String) : WebhookTables :=
  { server.tables with
    product := fun id code =>
      if id = integrationId ∧ some code = dropped then none else server.tables.product id code }

def handle (snapshot : WebhookSnapshot Detail) (request : WebhookRequest)
    (handled : Handled Detail) : WebhookServer Detail :=
  let dropped := { server with tables := server.dropProduct request.integrationId handled.dropped }
  match handled.job with
  | none => dropped
  | some job =>
      { dropped with
        queue := server.withDelay snapshot.queue job (some request)
        asked := server.asked ++ [(job.target, snapshot.begun)] }

def commit (library : WebhookLibrary) (number : ℕ) (request : WebhookRequest)
    (answer : String → Except String (PipelineData Detail)) (now : ℤ) : WebhookServer Detail :=
  match server.snapshots number with
  | none => server
  | some snapshot =>
      let ended := { server with snapshots := Function.update server.snapshots number none }
      match snapshot.tables.receive library request answer now with
      | .error _ => ended
      | .ok handled => ended.handle snapshot request handled

/-- A job that is started remembers the step. -/
def setState (index : ℕ) (state : Queue.JobState) : WebhookServer Detail :=
  { server with
    queue := server.queue.modify index fun queued =>
      { queued with
        state := state
        lastStarted := if state = .started then some server.clock else queued.lastStarted } }

def act (library : WebhookLibrary) : WebhookAction Detail → WebhookServer Detail
  | .begin number =>
      { server with
        snapshots := Function.update server.snapshots number
          (some ⟨server.tables, server.queue, server.clock⟩) }
  | .commit number request answer now => server.commit library number request answer now
  | .rollback number =>
      { server with snapshots := Function.update server.snapshots number none }
  | .setTables tables => { server with tables := tables }
  | .delay job => { server with queue := server.withDelay server.queue job none }
  | .setState index state => server.setState index state

def step (library : WebhookLibrary) (server : WebhookServer Detail)
    (action : WebhookAction Detail) : WebhookServer Detail :=
  { server.act library action with clock := server.clock + 1 }

/-! ### Only justified jobs -/

section Justified

variable {server} {library : WebhookLibrary}

theorem mem_setState {index : ℕ} {state : Queue.JobState} {queued : QueuedJob Detail}
    (member : queued ∈ (server.setState index state).queue) :
    ∃ before ∈ server.queue, queued.job = before.job ∧ queued.source = before.source := by
  obtain ⟨position, found⟩ := List.mem_iff_getElem?.mp member
  change (server.queue.modify index _)[position]? = some queued at found
  rw [List.getElem?_modify] at found
  obtain ⟨before, listed, same⟩ := Option.map_eq_some_iff.mp found
  refine ⟨before, List.mem_of_getElem? listed, ?_⟩
  rw [← same]
  split <;> exact ⟨rfl, rfl⟩

theorem mem_withDelay {seen : List (QueuedJob Detail)} {job : WebhookJob Detail}
    {source : Option WebhookRequest} {queued : QueuedJob Detail}
    (member : queued ∈ server.withDelay seen job source) :
    queued ∈ server.queue ∨ queued = ⟨job, source, .pending, none⟩ := by
  rw [withDelay] at member
  split at member
  · exact .inl member
  · rcases List.mem_append.mp member with old | new
    · exact .inl old
    · exact .inr (List.mem_singleton.mp new)

/-- What the snapshots and the jobs of requests show has happened. -/
structure Accounts (library : WebhookLibrary) (happened : WebhookRequest × JobTarget → Prop)
    (server : WebhookServer Detail) : Prop where
  snapshots : ∀ number snapshot, server.snapshots number = some snapshot → ∀ request target,
    Justifies library snapshot.tables request target → happened (request, target)
  queue : ∀ queued ∈ server.queue, ∀ request, queued.source = some request →
    happened (request, queued.job.target)

theorem Accounts.imp {happened later : WebhookRequest × JobTarget → Prop}
    (accounts : Accounts library happened server) (more : ∀ index, happened index → later index) :
    Accounts library later server where
  snapshots number snapshot begun request target justifies :=
    more _ (accounts.snapshots number snapshot begun request target justifies)
  queue queued member request source := more _ (accounts.queue queued member request source)

theorem Accounts.finish {happened : WebhookRequest × JobTarget → Prop}
    (accounts : Accounts library happened server) (number : ℕ) :
    Accounts library happened
      { server with snapshots := Function.update server.snapshots number none } where
  snapshots other snapshot begun := by
    change Function.update server.snapshots number none other = _ at begun
    rcases eq_or_ne other number with rfl | different
    · rw [Function.update_self] at begun
      cases begun
    · rw [Function.update_of_ne different] at begun
      exact accounts.snapshots other snapshot begun
  queue := accounts.queue

theorem Accounts.commit {happened : WebhookRequest × JobTarget → Prop}
    (accounts : Accounts library happened server) (number : ℕ) (request : WebhookRequest)
    (answer : String → Except String (PipelineData Detail)) (now : ℤ) :
    Accounts library happened (server.commit library number request answer now) := by
  rw [WebhookServer.commit]
  split
  · exact accounts
  · rename_i snapshot begun
    have ended := accounts.finish number
    dsimp only
    split
    · exact ended
    · rename_i handled done
      rw [handle]
      split
      · exact ⟨ended.snapshots, ended.queue⟩
      · rename_i job delays
        refine ⟨ended.snapshots, fun queued member other source => ?_⟩
        rcases mem_withDelay member with old | rfl
        · exact ended.queue queued old other source
        · cases source
          exact accounts.snapshots number snapshot begun request job.target
            (receive_justified done delays)

theorem Accounts.step {happened : WebhookRequest × JobTarget → Prop}
    (accounts : Accounts library happened server)
    (now : ∀ request target, Justifies library server.tables request target →
      happened (request, target)) (action : WebhookAction Detail) :
    Accounts library happened (server.step library action) := by
  have acted : Accounts library happened (server.act library action) := by
    cases action with
    | begin number =>
        refine ⟨fun other snapshot begun => ?_, accounts.queue⟩
        change Function.update server.snapshots number _ other = _ at begun
        rcases eq_or_ne other number with rfl | different
        · rw [Function.update_self] at begun
          cases begun
          exact now
        · rw [Function.update_of_ne different] at begun
          exact accounts.snapshots other snapshot begun
    | commit number request answer now => exact accounts.commit number request answer now
    | rollback number => exact accounts.finish number
    | setTables tables => exact ⟨accounts.snapshots, accounts.queue⟩
    | delay job =>
        refine ⟨accounts.snapshots, fun queued member request source => ?_⟩
        rcases mem_withDelay member with old | rfl
        · exact accounts.queue queued old request source
        · cases source
    | setState index state =>
        refine ⟨accounts.snapshots, fun queued member request source => ?_⟩
        obtain ⟨before, listed, job, same⟩ := mem_setState member
        rw [job]
        exact accounts.queue before listed request (same ▸ source)
  exact ⟨acted.snapshots, acted.queue⟩

end Justified

/-! ### No event is lost -/

section Covered

/-- The job waits, or was last started after the step. -/
def CoversFrom (begun : ℕ) (queued : QueuedJob Detail) : Prop :=
  queued.waits = true ∨ ∃ time, queued.lastStarted = some time ∧ begun < time

/-- The job at the place in the queue. -/
def CoversAt (index : ℕ) (target : JobTarget) (begun : ℕ) : Prop :=
  ∃ queued, server.queue[index]? = some queued ∧ queued.job.target = target ∧
    CoversFrom begun queued

/-- Jobs that wait are not taken away before they are started. -/
def Undisturbed : WebhookAction Detail → Prop
  | .setState index state => ∀ queued, server.queue[index]? = some queued → queued.waits = true →
      state = .started ∨ QueuedJob.waits { queued with state := state } = true
  | _ => True

variable {server} {library : WebhookLibrary}

theorem CoversAt.withDelay {index begun : ℕ} {target : JobTarget}
    (covers : server.CoversAt index target begun) (seen : List (QueuedJob Detail))
    (job : WebhookJob Detail) (source : Option WebhookRequest) :
    CoversAt { server with queue := server.withDelay seen job source } index target begun := by
  obtain ⟨queued, found, rest⟩ := covers
  refine ⟨queued, ?_, rest⟩
  change (server.withDelay seen job source)[index]? = some queued
  rw [WebhookServer.withDelay]
  split
  · exact found
  · rw [List.getElem?_append_left (List.getElem?_eq_some_iff.mp found).1, found]

theorem CoversAt.setState {index begun : ℕ} {target : JobTarget}
    (covers : server.CoversAt index target begun) (past : begun < server.clock) {position : ℕ}
    {state : Queue.JobState} (undisturbed : server.Undisturbed (.setState position state)) :
    (server.setState position state).CoversAt index target begun := by
  obtain ⟨queued, found, same, from_⟩ := covers
  by_cases own : position = index
  · subst own
    refine ⟨{ queued with
      state := state
      lastStarted := if state = .started then some server.clock else queued.lastStarted }, ?_, same,
      ?_⟩
    · change (server.queue.modify position _)[position]? = _
      rw [List.getElem?_modify, found]
      simp
    · by_cases started : state = .started
      · exact .inr ⟨server.clock, if_pos started, past⟩
      · rcases from_ with waits | ⟨time, last, later⟩
        · rcases undisturbed queued found waits with isStarted | stillWaits
          · exact absurd isStarted started
          · exact .inl stillWaits
        · exact .inr ⟨time, (if_neg started).trans last, later⟩
  · refine ⟨queued, ?_, same, from_⟩
    change (server.queue.modify position _)[index]? = _
    rw [List.getElem?_modify, found]
    simp [own]

/-- What was asked for is covered, and jobs that waited in a snapshot would cover it. -/
structure Covered (server : WebhookServer Detail) : Prop where
  snapshots : ∀ number snapshot, server.snapshots number = some snapshot →
    snapshot.begun < server.clock ∧ ∀ index queued, snapshot.queue[index]? = some queued →
      queued.waits = true → server.CoversAt index queued.job.target snapshot.begun
  asked : ∀ entry ∈ server.asked, entry.2 < server.clock ∧
    ∃ index, server.CoversAt index entry.1 entry.2

theorem CoversAt.act {index begun : ℕ} {target : JobTarget}
    (covers : server.CoversAt index target begun) (past : begun < server.clock)
    {action : WebhookAction Detail} (undisturbed : server.Undisturbed action) :
    (server.act library action).CoversAt index target begun := by
  cases action with
  | begin number => exact covers
  | rollback number => exact covers
  | setTables tables => exact covers
  | delay job => exact covers.withDelay _ _ _
  | setState position state => exact covers.setState past undisturbed
  | commit number request answer now =>
      change (server.commit library number request answer now).CoversAt index target begun
      rw [WebhookServer.commit]
      split
      · exact covers
      · dsimp only
        split
        · exact covers
        · rw [handle]
          split
          · exact covers
          · exact covers.withDelay _ _ _

theorem covered_withDelay {snapshot : WebhookSnapshot Detail} {job : WebhookJob Detail}
    {source : Option WebhookRequest} (follows : ∀ index queued,
      snapshot.queue[index]? = some queued → queued.waits = true →
        server.CoversAt index queued.job.target snapshot.begun) :
    ∃ index, CoversAt { server with queue := server.withDelay snapshot.queue job source } index
      job.target snapshot.begun := by
  by_cases stands : snapshot.queue.any fun queued =>
      queued.waits && queued.job.target.identityKey = job.target.identityKey
  · obtain ⟨queued, listed, both⟩ := List.any_eq_true.mp stands
    rw [Bool.and_eq_true, decide_eq_true_eq] at both
    obtain ⟨index, found⟩ := List.mem_iff_getElem?.mp listed
    refine ⟨index, ?_⟩
    rw [← identityKey_injective both.2]
    exact (follows index queued found both.1).withDelay _ _ _
  · refine ⟨server.queue.length, ⟨job, source, .pending, none⟩, ?_, rfl, .inl rfl⟩
    change (server.withDelay snapshot.queue job source)[server.queue.length]? = _
    rw [withDelay, if_neg stands, List.getElem?_concat_length]

/-- A snapshot was there, or has just been taken. -/
theorem snapshots_act {action : WebhookAction Detail} {number : ℕ}
    {snapshot : WebhookSnapshot Detail}
    (begun : (server.act library action).snapshots number = some snapshot) :
    server.snapshots number = some snapshot ∨
      snapshot = ⟨server.tables, server.queue, server.clock⟩ ∧
        (server.act library action).queue = server.queue := by
  have ended {other : ℕ}
      (begun : Function.update server.snapshots other none number = some snapshot) :
      server.snapshots number = some snapshot := by
    rcases eq_or_ne number other with rfl | different
    · rw [Function.update_self] at begun
      cases begun
    · rwa [Function.update_of_ne different] at begun
  cases action with
  | begin other =>
      change Function.update server.snapshots other _ number = _ at begun
      rcases eq_or_ne number other with rfl | different
      · rw [Function.update_self] at begun
        exact .inr ⟨(Option.some_inj.mp begun).symm, rfl⟩
      · rw [Function.update_of_ne different] at begun
        exact .inl begun
  | commit other request answer now =>
      change (server.commit library other request answer now).snapshots number = _ at begun
      rw [WebhookServer.commit] at begun
      split at begun
      · exact .inl begun
      · dsimp only at begun
        split at begun
        · exact .inl (ended begun)
        · rw [handle] at begun
          split at begun <;> exact .inl (ended begun)
  | rollback other => exact .inl (ended begun)
  | setTables | delay | setState => exact .inl begun

/-- What is asked for is covered at once. -/
theorem asked_act (covered : server.Covered) {action : WebhookAction Detail}
    {entry : JobTarget × ℕ} (member : entry ∈ (server.act library action).asked) :
    entry ∈ server.asked ∨ entry.2 < server.clock ∧
      ∃ index, (server.act library action).CoversAt index entry.1 entry.2 := by
  cases action with
  | begin | rollback | setTables | delay | setState => exact .inl member
  | commit number request answer now =>
      change entry ∈ (server.commit library number request answer now).asked at member
      change _ ∨ _ ∧ ∃ index,
        (server.commit library number request answer now).CoversAt index entry.1 entry.2
      rw [WebhookServer.commit] at member ⊢
      split at member
      · exact .inl member
      · rename_i snapshot begun
        obtain ⟨past, follows⟩ := covered.snapshots number snapshot begun
        dsimp only at member ⊢
        split at member
        · exact .inl member
        · rw [handle] at member ⊢
          split at member
          · exact .inl member
          · rcases List.mem_append.mp member with old | new
            · exact .inl old
            · rw [List.mem_singleton.mp new]
              exact .inr ⟨past, covered_withDelay follows⟩

theorem Covered.step (covered : server.Covered) (action : WebhookAction Detail)
    (undisturbed : server.Undisturbed action) : (server.step library action).Covered := by
  constructor
  · intro number snapshot begun
    rcases snapshots_act begun with old | ⟨rfl, same⟩
    · obtain ⟨past, follows⟩ := covered.snapshots number snapshot old
      exact ⟨Nat.lt_succ_of_lt past, fun index queued found waits =>
        (follows index queued found waits).act past undisturbed⟩
    · refine ⟨Nat.lt_succ_self _, fun index queued found waits => ⟨queued, ?_, rfl, .inl waits⟩⟩
      exact (congrArg (fun queue => queue[index]?) same).trans found
  · intro entry member
    rcases asked_act covered member with old | ⟨past, index, covers⟩
    · obtain ⟨past, index, covers⟩ := covered.asked entry old
      exact ⟨Nat.lt_succ_of_lt past, index, covers.act past undisturbed⟩
    · exact ⟨Nat.lt_succ_of_lt past, index, covers⟩

theorem covered_start : (start : WebhookServer Detail).Covered where
  snapshots _ _ begun := by cases begun
  asked _ member := by cases member

/-- In every run in which jobs that wait are left to be started, whatever a request has asked for
has a job of its kind and id that waits, or was started after the request began. -/
theorem events_covered (library : WebhookLibrary) (actions : List (WebhookAction Detail))
    (undisturbed : Along (step library) Undisturbed start actions) (target : JobTarget)
    (begun : ℕ) (asked : (target, begun) ∈ (runSteps (step library) start actions).asked) :
    ∃ queued ∈ (runSteps (step library) start actions).queue, queued.job.target = target ∧
      (queued.waits = true ∨ ∃ time, queued.lastStarted = some time ∧ begun < time) := by
  have covered : (runSteps (step library) start actions).Covered :=
    runSteps_invariant (fun _ action covered undisturbed => covered.step action undisturbed)
      covered_start undisturbed
  obtain ⟨-, index, queued, found, same, from_⟩ := covered.asked _ asked
  exact ⟨queued, List.mem_of_getElem? found, same, from_⟩

end Covered

/-! ### An order that is paid and fulfilled -/

/-- The body `{"id": 77}`. -/
def orderBody : List UInt8 := [123, 34, 105, 100, 34, 58, 32, 55, 55, 125]

def signature : String := "cUHHQ4TQYRwGJyA4OG4bSmspXLLaBWPe/cUhsGOx91c="

def orderLibrary : WebhookLibrary where
  hmacSha256 _ _ := signature
  loads _ := some fun key => if key = "id" then some "77" else none
  zeroTimeZone _ := none

def orderIntegration : WebhookIntegration where
  name := "Shop"
  typeApi := shopify
  isActive := true
  receiveOrdersCronIdActive := true
  url := "https://shop.myshopify.com/"
  originalUrl := ""
  webhookLines := [⟨1, "ORDERS_PAID", true⟩, ⟨2, "ORDERS_FULFILLED", true⟩]
  enableWebhookHmacValidation := true
  secretKey := "hush"
  statuses := ⟨"", "paid", "unfulfilled"⟩
  ordersCutOffDatetime := none
  importProductsFilter := []
  receiveWebhookGap := 0

def orderTables : WebhookTables where
  integration id := if id = 1 then some orderIntegration else none
  inputFile id name := id = 1 && name = "77"
  product _ _ := none

def orderRequest (topic : String) : WebhookRequest where
  integrationId := 1
  header
    | .shopDomain => "shop.myshopify.com"
    | .topic => topic
    | .hmacSha256 => signature
  data := orderBody

/-- The order is paid, and fulfilled before the job of the first request has run. -/
def orderEvents : List (WebhookAction String) :=
  let answer (states : String × String) (_ : String) : Except String (PipelineData String) :=
    .ok ⟨states, "", "77"⟩
  [.setTables orderTables, .begin 0, .commit 0 (orderRequest "orders/paid")
      (answer ("paid", "unfulfilled")) 0,
    .begin 1, .commit 1 (orderRequest "orders/fulfilled") (answer ("paid", "fulfilled")) 0,
    .setState 0 .enqueued, .setState 0 .started]

/-- The job of the payment stands for the fulfillment too, with the data of the payment. -/
theorem events_covered_order :
    ∃ queued ∈ (runSteps (step orderLibrary) start orderEvents).queue,
      queued.job.target = ⟨.processPipeline, 1, "77"⟩ ∧
      (queued.waits = true ∨ ∃ time, queued.lastStarted = some time ∧ 3 < time) ∧
      queued.job.pipelineData.map PipelineData.workflowStates = some ("paid", "unfulfilled") := by
  have undisturbed : Along (step orderLibrary) Undisturbed start orderEvents :=
    ⟨trivial, trivial, trivial, trivial, trivial, fun _ _ _ => .inr rfl, fun _ _ _ => .inl rfl,
      trivial⟩
  obtain ⟨queued, member, same, covers⟩ :=
    events_covered orderLibrary orderEvents undisturbed ⟨.processPipeline, 1, "77"⟩ 3
      (by decide +kernel)
  have data : (runSteps (step orderLibrary) start orderEvents).queue.all fun queued =>
      queued.job.pipelineData.map PipelineData.workflowStates = some ("paid", "unfulfilled") := by
    decide +kernel
  exact ⟨queued, member, same, covers, of_decide_eq_true (List.all_eq_true.mp data queued member)⟩

end WebhookServer

end OdooConnector.Order
