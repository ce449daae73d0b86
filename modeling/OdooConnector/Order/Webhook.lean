import Mathlib.Data.Int.Order.Basic
import OdooConnector.Order.OrderFilter
import OdooConnector.Queue.FailedJob

/-!
# Webhooks of the store

The store tells of orders and products by signed requests. A request that is verified delays a job
for the order or product that it names.
-/

namespace OdooConnector.Order

/-! ### Requests -/

inductive WebhookHeader where
  | shopDomain
  | topic
  | hmacSha256
deriving DecidableEq

def WebhookHeader.name : WebhookHeader → String
  | shopDomain => "X-Shopify-Shop-Domain"
  | topic => "X-Shopify-Topic"
  | hmacSha256 => "X-Shopify-Hmac-Sha256"

/-- `_get_essential_headers` -/
def essentialHeaders : List WebhookHeader := [.shopDomain, .topic, .hmacSha256]

/-- A header that is absent is empty. -/
structure WebhookRequest where
  integrationId : ℕ
  header : WebhookHeader → String
  data : List UInt8

/-- The values of a JSON object, as `str` writes them. -/
abbrev PostData := String → Option String

/-- Functions of libraries: the base64 text of the HMAC of a body, the object that a body holds, and
the seconds of a date. -/
structure WebhookLibrary where
  hmacSha256 : String → List UInt8 → String
  loads : List UInt8 → Option PostData
  zeroTimeZone : String → Option ℤ

structure WebhookLine where
  id : ℕ
  technicalName : String
  isActive : Bool

/-- What webhooks read of an integration. The cut-off date is in seconds and as a text. -/
structure WebhookIntegration where
  name : String
  typeApi : String
  isActive : Bool
  receiveOrdersCronIdActive : Bool
  url : String
  originalUrl : String
  webhookLines : List WebhookLine
  enableWebhookHmacValidation : Bool
  secretKey : String
  statuses : StatusSettings
  ordersCutOffDatetime : Option (ℤ × String)
  importProductsFilter : List (String × String)
  receiveWebhookGap : ℤ

inductive WebhookError where
  | badRequest (message : String)
  | raised (message : String)
deriving DecidableEq

def shopify : String := "shopify"

namespace WebhookRequest

variable (request : WebhookRequest)

/-- `get_webhook_topic` -/
def webhookTopic : String :=
  ("_".intercalate (split '/' (request.header .topic))).toUpper

def missingHeaders : List WebhookHeader :=
  essentialHeaders.filter fun header => request.header header = ""

/-- `_get_value_from_post_data` -/
def valueFromPostData (library : WebhookLibrary) (key : String) : Except WebhookError String :=
  match library.loads request.data with
  | none => .error (.raised "Invalid JSON data")
  | some postData =>
      match postData key with
      | none => .error (.raised (shopify ++ ": \"" ++ key ++ "\" not found in the post data"))
      | some value => .ok value

end WebhookRequest

/-! ### Verification -/

/-- The text after the last of the double slashes at which `split` cuts. -/
def lastAfterSlashes (part : List Char) : List Char → List Char
  | '/' :: '/' :: rest => lastAfterSlashes rest rest
  | _ :: rest => lastAfterSlashes part rest
  | [] => part

/-- `_truncate_settings_url`. Of a host that begins with `www.` all leading characters of that text
are cut off. -/
def truncateSettingsUrl (url : String) : String :=
  let stripped := ((url.toList.dropWhile (· = '/')).reverse.dropWhile (· = '/')).reverse
  let host := (lastAfterSlashes stripped stripped).takeWhile (· ≠ '/')
  let leading := "www.".toList
  String.ofList (if leading.isPrefixOf host then host.dropWhile (· ∈ leading) else host)

namespace WebhookIntegration

variable (integration : WebhookIntegration) (library : WebhookLibrary) (request : WebhookRequest)

/-- `_check_webhook_digital_sign` of the Shopify connector. Texts are compared only if they are
ASCII. -/
def checkWebhookDigitalSign : Except WebhookError Bool :=
  if integration.enableWebhookHmacValidation = false then .ok true
  else if request.header .hmacSha256 = "" then .ok false
  else if request.data = [] then .ok false
  else if integration.secretKey = "" then .ok false
  else if (request.header .hmacSha256).toList.all fun char => char.toNat < 128 then
    .ok (library.hmacSha256 integration.secretKey request.data = request.header .hmacSha256)
  else .error (.raised "comparing strings with non-ASCII characters is not supported")

/-- `verify_webhook` -/
def verifyWebhook : Except WebhookError Unit :=
  if integration.isActive = false then
    .error (.badRequest (integration.name ++ " integration is inactive."))
  else if request.missingHeaders ≠ [] then
    .error (.badRequest (integration.name ++ " webhook missing required headers: " ++
      ", ".intercalate (request.missingHeaders.map WebhookHeader.name) ++ "."))
  else if request.header .shopDomain ≠ truncateSettingsUrl integration.url ∧
      request.header .shopDomain ≠ integration.originalUrl then
    .error (.badRequest (integration.name ++ " webhook invalid shop domain \"" ++
      request.header .shopDomain ++ "\"."))
  else if integration.webhookLines.isEmpty then
    .error (.badRequest (integration.name ++ " webhooks not specified."))
  else
    match integration.webhookLines.filter fun line => line.technicalName = request.webhookTopic with
    | [] => .error (.badRequest ("Disabled " ++ integration.name ++ " webhook in Odoo \"" ++
        request.webhookTopic ++ "\"."))
    | [line] =>
        if line.isActive = false then
          .error (.badRequest ("Disabled " ++ integration.name ++ " webhook in Odoo \"" ++
            request.webhookTopic ++ "\"."))
        else
          match integration.checkWebhookDigitalSign library request with
          | .error error => .error error
          | .ok false =>
              .error (.badRequest ("Wrong " ++ integration.name ++ " webhook digital signature."))
          | .ok true => .ok ()
    | _ => .error (.raised "Expected singleton: integration.webhook.line")

end WebhookIntegration

/-- `validate_integration` -/
def validateIntegration (library : WebhookLibrary) (found : Option WebhookIntegration)
    (request : WebhookRequest) : Except WebhookError WebhookIntegration :=
  match found.filter fun integration => integration.typeApi = shopify with
  | none => .error (.badRequest "Webhook unrecognized integration.")
  | some integration =>
      if integration.isActive = false then
        .error (.badRequest (integration.name ++ ": Integration is inactive."))
      else (integration.verifyWebhook library request).map fun _ => integration

/-! ### Jobs -/

/-- What a job is about: the key by which it is told apart from others. -/
inductive JobKind where
  | receiveOrder
  | cancelOrder
  | processPipeline
  | importProduct
  | updateProduct
  | deleteProduct
deriving DecidableEq

structure JobTarget where
  kind : JobKind
  integrationId : ℕ
  externalId : String
deriving DecidableEq

/-- `identity_key` of the keyword arguments of the job. -/
def JobTarget.identityKey (target : JobTarget) : String :=
  let id := toString target.integrationId
  match target.kind with
  | .receiveOrder => "receive_order-" ++ shopify ++ "_" ++ id ++ "_" ++ target.externalId
  | .cancelOrder => "cancel_order-" ++ shopify ++ "_" ++ id ++ "_" ++ target.externalId
  | .processPipeline => "process_pipeline-" ++ id ++ "_" ++ target.externalId
  | .importProduct => "import_external_product-" ++ id ++ "-" ++ target.externalId
  | .updateProduct => "update_external_product-" ++ id ++ "-" ++ target.externalId
  | .deleteProduct => "delete_external_product-" ++ id ++ "-" ++ target.externalId

def JobKind.eta : JobKind → Option ℤ
  | receiveOrder | cancelOrder | importProduct => some 8
  | updateProduct => some 10
  | processPipeline | deleteProduct => none

def JobKind.priority : JobKind → ℤ
  | receiveOrder => 7
  | cancelOrder | processPipeline => 9
  | importProduct | updateProduct | deleteProduct => 17

/-- The description, with the source of the event. -/
def JobTarget.description (target : JobTarget) (integrationName name : String) : String :=
  integrationName ++ ": " ++ (match target.kind with
    | .receiveOrder => "Receive One Order (id=" ++ target.externalId ++ ")"
    | .cancelOrder => "Cancel Order (id=" ++ target.externalId ++ ")"
    | .processPipeline => "Process Pipeline for Order \"" ++ target.externalId ++ "\""
    | .importProduct => "Import External Product \"" ++ name ++ "\" [" ++ target.externalId ++ "]"
    | .updateProduct =>
        "Update External Product \"" ++ name ++ "\" [" ++ target.externalId ++ "] in Odoo"
    | .deleteProduct =>
        "Delete External Product \"" ++ name ++ "\" [" ++ target.externalId ++ "] in Odoo") ++
    " [webhook action]"

/-- What a webhook reads of an order of the store: its financial and fulfillment status, its date,
and what goes to the pipeline with them. -/
structure PipelineData (Detail : Type) where
  workflowStates : String × String
  dateOrder : String
  detail : Detail

/-- A job, with the data of the order where it is given some. -/
structure WebhookJob (Detail : Type) where
  target : JobTarget
  pipelineData : Option (PipelineData Detail)
  description : String

/-! ### Orders -/

/-- What comes of a request that is verified: the message of the response, the job that is delayed,
and the external product that is dropped. -/
structure Handled (Detail : Type) where
  message : String
  job : Option (WebhookJob Detail)
  dropped : Option String

namespace Handled

variable {Detail : Type}

def reply (message : String) : Handled Detail := ⟨message, none, none⟩

def delays (message : String) (job : WebhookJob Detail) : Handled Detail :=
  ⟨message, some job, none⟩

end Handled

namespace WebhookIntegration

variable {Detail : Type} (integration : WebhookIntegration) (library : WebhookLibrary)
  (integrationId : ℕ) (externalId : String)

def isOrderImportEnabled : Bool := integration.isActive && integration.receiveOrdersCronIdActive

/-- A date that is missing, or that is no date, is not held against the order. -/
def isImportableOrderDate (dateOrder : Option String) : Bool :=
  let created := (dateOrder.filter (· ≠ "")).bind library.zeroTimeZone
  match integration.ordersCutOffDatetime, created with
  | some (cutOff, _), some date => cutOff ≤ date
  | _, _ => true

def job (kind : JobKind) (pipelineData : Option (PipelineData Detail)) (name : String) :
    WebhookJob Detail where
  target := ⟨kind, integrationId, externalId⟩
  pipelineData := pipelineData
  description := JobTarget.description ⟨kind, integrationId, externalId⟩ integration.name name

/-- `fetch_order_by_id_with_delay` -/
def fetchOrderByIdWithDelay : WebhookJob Detail :=
  integration.job integrationId externalId .receiveOrder none ""

def importDisabled (subject : String) : String :=
  "Order import is disabled for " ++ subject ++ " " ++ integration.name ++
    " or integration is not active."

def beforeCutOff (dateOrder : String) : String :=
  "Order with code=" ++ externalId ++ " was created before the cut-off date (" ++
    (integration.ordersCutOffDatetime.map Prod.snd).getD "False" ++ "). Order creation date: " ++
    dateOrder ++ "."

/-- `_process_create_order`. The store is asked for the order once imports are enabled. -/
def processCreateOrder (answer : Except String (PipelineData Detail)) :
    Except WebhookError (Handled Detail) :=
  if integration.isOrderImportEnabled = false then
    .ok (.reply (integration.importDisabled "integration"))
  else
    match answer with
    | .error message => .error (.raised message)
    | .ok data =>
        match integration.statuses.isImportableOrderStatus data.workflowStates with
        | .error message => .error (.raised message)
        | .ok false => .ok (.reply
            ("Order with code=" ++ externalId ++ " is not in the expected status."))
        | .ok true =>
            if integration.isImportableOrderDate library (some data.dateOrder) = false then
              .ok (.reply (integration.beforeCutOff externalId data.dateOrder))
            else .ok (.delays
              ("Job created for order with code=" ++ externalId ++ ". Action: create order")
              (integration.fetchOrderByIdWithDelay integrationId externalId))

/-- `_handle_missing_order`, which has nothing to say of an order with an input file. -/
def handleMissingOrder (hasInputFile : Bool) (workflowStates : String × String)
    (dateOrder : Option String) : Except WebhookError (Option (Handled Detail)) :=
  if integration.isOrderImportEnabled = false then
    .ok (some (.reply (integration.importDisabled "self")))
  else if hasInputFile then .ok none
  else
    match integration.statuses.isImportableOrderStatus workflowStates with
    | .error message => .error (.raised message)
    | .ok false => .ok (some (.reply
        ("Order with code=" ++ externalId ++ " is not in the expected status for import.")))
    | .ok true =>
        if integration.isImportableOrderDate library dateOrder = false then
          .ok (some (.reply (integration.beforeCutOff externalId (dateOrder.getD "None"))))
        else .ok (some (.delays
          ("Order import job created for order with code=" ++ externalId)
          (integration.fetchOrderByIdWithDelay integrationId externalId)))

/-- An event of an order that is there already delays a job with the data of the store. An order
that is missing is imported, whatever its date. -/
def processOrder (kind : JobKind) (action : String) (hasInputFile : Bool)
    (answer : Except String (PipelineData Detail)) : Except WebhookError (Handled Detail) :=
  match answer with
  | .error message => .error (.raised message)
  | .ok data =>
      match integration.handleMissingOrder library integrationId externalId hasInputFile
          data.workflowStates none with
      | .error error => .error error
      | .ok (some handled) => .ok handled
      | .ok none => .ok (.delays
          ("Job created for order with code=" ++ externalId ++ ". Action: " ++ action)
          (integration.job integrationId externalId kind (some data) ""))

def processCancelOrder (hasInputFile : Bool) (answer : Except String (PipelineData Detail)) :
    Except WebhookError (Handled Detail) :=
  integration.processOrder library integrationId externalId .cancelOrder "cancel order" hasInputFile
    answer

def processPayOrder (hasInputFile : Bool) (answer : Except String (PipelineData Detail)) :
    Except WebhookError (Handled Detail) :=
  integration.processOrder library integrationId externalId .processPipeline "process pay order"
    hasInputFile answer

def processFulfillOrder (hasInputFile : Bool) (answer : Except String (PipelineData Detail)) :
    Except WebhookError (Handled Detail) :=
  integration.processOrder library integrationId externalId .processPipeline
    "process fulfill order" hasInputFile answer

def processPartiallyFulfillOrder (hasInputFile : Bool)
    (answer : Except String (PipelineData Detail)) : Except WebhookError (Handled Detail) :=
  integration.processOrder library integrationId externalId .processPipeline
    "process partially fulfill order" hasInputFile answer

end WebhookIntegration

/-! ### Products -/

/-- An external product, whether a product of Odoo is mapped to it, and when it was exported. -/
structure WebhookProduct where
  name : String
  isMapped : Bool
  timestampExport : ℤ

/-- `_get_external_product`. Ids that are no positive numbers are those of no product. -/
def getExternalProduct (products : String → Option WebhookProduct) (externalId : String) :
    Option WebhookProduct :=
  match Queue.int externalId.toList with
  | none => none
  | some number => if number ≤ 0 then none else products externalId

namespace WebhookIntegration

variable {Detail : Type} (integration : WebhookIntegration) (library : WebhookLibrary)
  (integrationId : ℕ) (externalId : String)

/-- `is_importable_product` of the Shopify connector -/
def isImportableProduct (postData : PostData) : Bool :=
  integration.importProductsFilter.all fun entry =>
    listedStatuses entry.2 = [] || (postData entry.1).getD "" ∈ listedStatuses entry.2

/-- `update_product_by_id_with_delay`, with the gap checked. A product that is not there yet is
imported. -/
def updateProductByIdWithDelay (product : Option WebhookProduct) (name : String) (now : ℤ) :
    Option (WebhookJob Detail) × Option String :=
  match product with
  | none => (some (integration.job integrationId externalId .importProduct none name), none)
  | some product =>
      if product.isMapped = false then
        (some (integration.job integrationId externalId .importProduct none name), some externalId)
      else if now - product.timestampExport ≤ integration.receiveWebhookGap then (none, none)
      else (some (integration.job integrationId externalId .updateProduct none name), none)

/-- `_process_create_product` and `_process_update_product`. The response tells of a job also where
none is delayed. -/
def processSaveProduct (action : String) (request : WebhookRequest)
    (product : Option WebhookProduct) (now : ℤ) : Except WebhookError (Handled Detail) :=
  if ((library.loads request.data).all integration.isImportableProduct) = false then
    .ok (.reply ("Product with code=" ++ externalId ++ " filtered out. Action: " ++ action))
  else
    match request.valueFromPostData library "title" with
    | .error error => .error error
    | .ok name =>
        let delayed := integration.updateProductByIdWithDelay integrationId externalId product name
          now
        .ok ⟨"Job created for product with code=" ++ externalId ++ ". Action: " ++ action,
          delayed.1, delayed.2⟩

def processCreateProduct (request : WebhookRequest) (product : Option WebhookProduct) (now : ℤ) :
    Except WebhookError (Handled Detail) :=
  integration.processSaveProduct library integrationId externalId "create product" request product
    now

def processUpdateProduct (request : WebhookRequest) (product : Option WebhookProduct) (now : ℤ) :
    Except WebhookError (Handled Detail) :=
  integration.processSaveProduct library integrationId externalId "update product" request product
    now

/-- `_process_delete_product` -/
def processDeleteProduct (product : Option WebhookProduct) : Handled Detail where
  message := "Job created for product with code=" ++ externalId ++ ". Action: delete product"
  job := product.map fun product =>
    integration.job integrationId externalId .deleteProduct none product.name
  dropped := none

end WebhookIntegration

/-! ### Dispatch -/

inductive WebhookMethod where
  | processCreateOrder
  | processPayOrder
  | processPartiallyFulfillOrder
  | processFulfillOrder
  | processCancelOrder
  | processCreateProduct
  | processUpdateProduct
  | processDeleteProduct
deriving DecidableEq

/-- `_get_events_mapping` -/
def eventsMapping : List (String × WebhookMethod) :=
  [("ORDERS_CREATE", .processCreateOrder),
    ("ORDERS_PAID", .processPayOrder),
    ("ORDERS_PARTIALLY_FULFILLED", .processPartiallyFulfillOrder),
    ("ORDERS_FULFILLED", .processFulfillOrder),
    ("ORDERS_CANCELLED", .processCancelOrder),
    ("PRODUCTS_CREATE", .processCreateProduct),
    ("PRODUCTS_UPDATE", .processUpdateProduct),
    ("PRODUCTS_DELETE", .processDeleteProduct)]

/-- What a request reads of the database. -/
structure WebhookTables where
  integration : ℕ → Option WebhookIntegration
  inputFile : ℕ → String → Bool
  product : ℕ → String → Option WebhookProduct

namespace WebhookTables

variable {Detail : Type} (tables : WebhookTables) (library : WebhookLibrary)

/-- `_process_event` -/
def processEvent (integration : WebhookIntegration) (request : WebhookRequest)
    (externalId : String) (answer : Except String (PipelineData Detail)) (now : ℤ) :
    Except WebhookError (Handled Detail) :=
  let id := request.integrationId
  let hasInputFile := tables.inputFile id externalId
  let product := getExternalProduct (tables.product id) externalId
  match eventsMapping.lookup request.webhookTopic with
  | none => .ok (.reply ("No method for topic \"" ++ request.webhookTopic ++ "\"."))
  | some .processCreateOrder => integration.processCreateOrder library id externalId answer
  | some .processPayOrder => integration.processPayOrder library id externalId hasInputFile answer
  | some .processPartiallyFulfillOrder =>
      integration.processPartiallyFulfillOrder library id externalId hasInputFile answer
  | some .processFulfillOrder =>
      integration.processFulfillOrder library id externalId hasInputFile answer
  | some .processCancelOrder =>
      integration.processCancelOrder library id externalId hasInputFile answer
  | some .processCreateProduct =>
      integration.processCreateProduct library id externalId request product now
  | some .processUpdateProduct =>
      integration.processUpdateProduct library id externalId request product now
  | some .processDeleteProduct => .ok (integration.processDeleteProduct id externalId product)

/-- `shopify_receive_orders` and `shopify_receive_products`, which take requests of all topics. The
store answers with the data of the order, or with an error. -/
def receive (request : WebhookRequest) (answer : String → Except String (PipelineData Detail))
    (now : ℤ) : Except WebhookError (Handled Detail) :=
  match validateIntegration library (tables.integration request.integrationId) request with
  | .error error => .error error
  | .ok integration =>
      match request.valueFromPostData library "id" with
      | .error error => .error error
      | .ok externalId =>
          tables.processEvent library integration request externalId (answer externalId) now

end WebhookTables

end OdooConnector.Order
