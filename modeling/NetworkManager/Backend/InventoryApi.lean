import NetworkManager.Backend.Authorization
import NetworkManager.InventoryStore.Search
import NetworkManager.Transaction.Tasks

/-!
# The inventory API

Five handlers, each of which authenticates the request, requires a permission at
the site of the path, and then calls the inventory.  A denial is recorded in the
audit trail.
-/

namespace NetworkManager.Backend.InventoryApi

open NetworkManager.Foundation
open NetworkManager.Domain.Inventory
open NetworkManager.InventoryStore
open NetworkManager.Security
open NetworkManager.Transaction

structure ApiDb where
  authorization : AuthorizationDb
  inventory : InventoryDb
  network : NetworkDb

inductive ApiStatement where
  | authorization (query : AuthorizationQuery)
  | inventory (statement : InventoryStore.Statement)
  | selectDevices (scope : Scope) (query : InventoryQuery)
  /-- Whatever others write to the tables that the API only reads. -/
  | administer (authorization : AuthorizationDb) (network : NetworkDb)

abbrev ApiReply : ApiStatement → Type
  | .authorization query => AuthorizationReply query
  | .inventory statement => InventoryStore.Reply statement
  | .selectDevices .. => List DeviceView
  | .administer .. => Unit

inductive ApiWrite where
  | inventory (write : InventoryStore.Write)
  | administer (authorization : AuthorizationDb) (network : NetworkDb)

def applyApiWrite : ApiWrite → ApiDb → ApiDb
  | .inventory write, db =>
      { db with inventory := inventorySql.apply write db.inventory }
  | .administer authorization network, db =>
      { db with authorization, network }

/-- `lower` of the database is a parameter: it depends on the locale. -/
abbrev apiSql (lower : String → String) : Database where
  Statement := ApiStatement
  Reply := ApiReply
  Fault := SqlError
  State := ApiDb
  Write := ApiWrite
  apply := applyApiWrite
  exec
    | .authorization query, db =>
        liftAnswer id id nofun (authorizationSql.exec query db.authorization)
    | .inventory statement, db =>
        liftAnswer id id .inventory (inventorySql.exec statement db.inventory)
    | .selectDevices scope query, db =>
        .ok (execSelectDevices lower scope query db.inventory db.network, [])
    | .administer authorization network, _ =>
        .ok ((), [.administer authorization network])

def authorizationEmbedding (lower : String → String) :
    Embedding authorizationSql (apiSql lower) where
  component db := db.authorization
  replace part db := { db with authorization := part }
  statement := .authorization
  reply := id
  toReply := id
  fault := id
  toFault := id
  toWrite := nofun
  reply_toReply _ := rfl
  fault_toFault _ := rfl
  component_replace _ _ := rfl
  replace_component _ := rfl
  replace_replace _ _ _ := rfl
  exec_eq _ _ := rfl
  apply_eq := nofun

def inventoryEmbedding (lower : String → String) :
    Embedding inventorySql (apiSql lower) where
  component db := db.inventory
  replace part db := { db with inventory := part }
  statement := .inventory
  reply := id
  toReply := id
  fault := id
  toFault := id
  toWrite := .inventory
  reply_toReply _ := rfl
  fault_toFault _ := rfl
  component_replace _ _ := rfl
  replace_component _ := rfl
  replace_replace _ _ _ := rfl
  exec_eq _ _ := rfl
  apply_eq _ _ := rfl

/-- A response that is not a success: `ApiErrorBody` with its status code. -/
structure ApiError where
  status : Nat
  code : String
  message : String
  details : Option Value

structure ApiAnswer (α : Type) where
  status : Nat
  body : α

def authorizationErrorResponse : AuthorizationError → ApiError
  | .invalidSession =>
      ⟨401, "invalid_session", "invalid or expired session", none⟩
  | .permissionDenied => ⟨403, "permission_denied", "permission denied", none⟩
  | .unavailable =>
      ⟨503, "authorization_unavailable",
        "authorization subsystem is temporarily unavailable", none⟩

/-- `json!` of a number. -/
def integerValue (value : Int) : Value := .number (.integer value)

def inventoryErrorResponse : InventoryError → ApiError
  | .invalidInput message =>
      ⟨422, "invalid_inventory_request", message, none⟩
  | .deviceNotFound =>
      ⟨404, "device_not_found", "device was not found in the requested scope",
        none⟩
  | .versionConflict expected actual =>
      ⟨409, "device_version_conflict", "device changed since it was read",
        some (.object [("actualVersion", integerValue actual),
          ("expectedVersion", integerValue expected)])⟩
  | .lifecycleBlocksMutation lifecycle =>
      ⟨409, "device_lifecycle_blocks_mutation",
        "device lifecycle blocks this mutation",
        some (.object [("lifecycle", .string lifecycle.asStr)])⟩
  | .invalidLifecycleTransition current next =>
      ⟨409, "invalid_device_lifecycle_transition",
        "the requested lifecycle transition is not allowed",
        some (.object [("from", .string current.asStr),
          ("to", .string next.asStr)])⟩
  | .lifecycleReasonRequired =>
      ⟨422, "lifecycle_reason_required",
        "retire or archive operations require a reason", none⟩
  | .duplicateIdentifier =>
      ⟨409, "duplicate_strong_identifier",
        "a strong identifier already belongs to another device", none⟩
  | .reconciliationConflict devices =>
      ⟨409, "inventory_reconciliation_conflict",
        "the observation matches multiple devices and requires manual review",
        some (.object [("deviceIds",
          .array (devices.map fun device => .string device.text))])⟩
  | .reactivationRequiresReview device =>
      ⟨409, "device_reactivation_requires_review",
        "retired or archived devices require explicit review before reactivation",
        some (.object [("deviceId", .string device.text)])⟩
  | .audit _ | .outbox _ | .database _ =>
      ⟨503, "inventory_unavailable",
        "inventory persistence is temporarily unavailable", none⟩

/-! ## Authorization of a request -/

structure AppState where
  authorization : AuthorizationService
  inventory : InventoryLibrary
  inventoryRequireApproval : Bool

/-- What a request brings with it besides its path and its body, and what is
generated and read from clocks while it is handled. -/
structure RequestContext where
  /-- The `Authorization` header. -/
  authorization : Option String
  requestId : Uuid
  correlationId : Uuid
  /-- `Utc::now()`, for the session. -/
  now : Timestamp
  /-- The identifier and the time of the audit event of a denial. -/
  denialId : Uuid
  denialUnixMs : Int
  generated : Generated

section Handlers

variable (lower : String → String) (state : AppState)
  (context : RequestContext) (siteId : Uuid)

/-- A program of the API. -/
abbrev Api (α : Type) : Type := Program (apiSql lower) ApiError α

/-- The response to a request that the principal is not allowed to make. -/
def deniedResponse : ApiError :=
  ⟨403, "permission_denied",
    "the authenticated principal is not allowed to perform this action", none⟩

def denialDraft (principal : Principal) (action : String)
    (resourceId : Option Uuid) (permission : String) : AuditEventDraft where
  organizationId := principal.organizationId
  siteId := some siteId
  actorType := .user
  actorId := some principal.userId
  sessionId := some principal.sessionId
  sourceIp := none
  requestId := context.requestId.text
  correlationId := context.correlationId
  action
  resourceType := "device"
  resourceId := resourceId.map Uuid.text
  provider := none
  occurredAtUnixMs := context.denialUnixMs
  durationMs := none
  status := .denied
  reasonCode := some "permission_denied"
  before := none
  after := none
  result := some (.object [("allowed", .bool false),
    ("requiredPermission", .string permission)])

/-- Record a denial.  If that fails, the response is the same. -/
def auditDenial (principal : Principal) (action : String)
    (resourceId : Option Uuid) (permission : String) : Api lower Unit := do
  let _ ← (inventoryEmbedding lower).lift (fun _ => deniedResponse)
    (auditEmbedding.lift (fun failure => failure)
      (AuditStore.append state.inventory.audit context.denialId
        (denialDraft context siteId principal action resourceId permission)))

/-- The reads run outside a transaction, each in the state it finds. -/
def authorize (permission action : String) (resourceId : Option Uuid) :
    Api lower Principal := do
  let principal ← (authorizationEmbedding lower).lift
    authorizationErrorResponse
    (authenticate state.authorization context.now context.authorization)
  ((authorizationEmbedding lower).lift (fun failure => failure)
    (requireSitePermission principal siteId permission)).handleErrors
      authorizationErrorResponse fun failure =>
        match failure with
        | .permissionDenied => do
            auditDenial lower state context siteId principal action resourceId
              permission
            throw deniedResponse
        | other => throw (authorizationErrorResponse other)
  return principal

def mutationContext (principal : Principal) : MutationContext where
  organizationId := principal.organizationId
  siteId
  actorType := .user
  actorId := some principal.userId
  sessionId := some principal.sessionId
  sourceIp := none
  requestId := context.requestId.text
  correlationId := context.correlationId

/-- `InventoryStore::list`. -/
def list (scope : Scope) (query : InventoryQuery) :
    Program (apiSql lower) InventoryError (List DeviceView) := do
  Program.ofExcept query.validate
  Program.statement (D := apiSql lower) (.selectDevices scope query) .database

/-- Call the inventory. -/
def inventory {α : Type} (store : InventoryStore.Store α) : Api lower α :=
  (inventoryEmbedding lower).lift inventoryErrorResponse store

def listDevices (query : InventoryQuery) :
    Api lower (ApiAnswer (List DeviceView)) := do
  let principal ← authorize lower state context siteId "devices.view"
    "inventory.device.list" none
  let devices ← (list lower ⟨principal.organizationId, siteId⟩
    query).handleErrors inventoryErrorResponse fun failure =>
      throw (inventoryErrorResponse failure)
  return ⟨200, devices⟩

def getDevice (deviceId : Uuid) : Api lower (ApiAnswer DeviceView) := do
  let principal ← authorize lower state context siteId "devices.view"
    "inventory.device.get" (some deviceId)
  let found ← inventory lower
    (InventoryStore.get ⟨principal.organizationId, siteId⟩ deviceId)
  match found with
  | some device => return ⟨200, device⟩
  | none =>
      throw ⟨404, "device_not_found",
        "device was not found in the requested scope", none⟩

def createDevice (input : NewDevice) : Api lower (ApiAnswer DeviceView) := do
  let principal ← authorize lower state context siteId "devices.create"
    "inventory.device.create" none
  let device ← inventory lower
    (createManual state.inventory (mutationContext context siteId principal)
      context.generated input state.inventoryRequireApproval)
  return ⟨201, device⟩

def updateDevice (deviceId : Uuid) (expectedVersion : Int)
    (patch : MetadataPatch) : Api lower (ApiAnswer DeviceView) := do
  let principal ← authorize lower state context siteId "devices.update"
    "inventory.device.update" (some deviceId)
  let device ← inventory lower
    (updateMetadata state.inventory (mutationContext context siteId principal)
      context.generated deviceId expectedVersion patch)
  return ⟨200, device⟩

/-- The permission that a transition needs. -/
def transitionPermission : DeviceLifecycle → String
  | .managed => "devices.approve"
  | .retired | .archived => "devices.delete"
  | _ => "devices.update"

def transitionLifecycle (deviceId : Uuid) (expectedVersion : Int)
    (next : DeviceLifecycle) (reason : Option String) :
    Api lower (ApiAnswer DeviceView) := do
  let principal ← authorize lower state context siteId
    (transitionPermission next) "inventory.device.lifecycle.transition"
    (some deviceId)
  let device ← inventory lower
    (InventoryStore.transitionLifecycle state.inventory
      (mutationContext context siteId principal) context.generated deviceId
      expectedVersion next reason)
  return ⟨200, device⟩

end Handlers

inductive ApiRequest where
  | listDevices (query : InventoryQuery)
  | getDevice (deviceId : Uuid)
  | createDevice (input : NewDevice)
  | updateDevice (deviceId : Uuid) (expectedVersion : Int)
      (patch : MetadataPatch)
  | transitionLifecycle (deviceId : Uuid) (expectedVersion : Int)
      (next : DeviceLifecycle) (reason : Option String)

abbrev ApiRequest.Result : ApiRequest → Type
  | .listDevices _ => ApiAnswer (List DeviceView)
  | .getDevice _ => ApiAnswer DeviceView
  | .createDevice _ => ApiAnswer DeviceView
  | .updateDevice .. => ApiAnswer DeviceView
  | .transitionLifecycle .. => ApiAnswer DeviceView

/-- The requests, the observations that others submit, and what others write to
the tables that the API only reads. -/
inductive ApiCall where
  | request (context : RequestContext) (siteId : Uuid) (request : ApiRequest)
  | observe (context : MutationContext) (generated : Generated)
      (observation : DeviceObservation)
  | administer (authorization : AuthorizationDb) (network : NetworkDb)

abbrev ApiCall.Result : ApiCall → Type
  | .request _ _ given => given.Result
  | .observe .. => ReconciliationResult
  | .administer .. => Unit

def handle (lower : String → String) (state : AppState)
    (context : RequestContext) (siteId : Uuid) :
    (request : ApiRequest) → Api lower request.Result
  | .listDevices query => listDevices lower state context siteId query
  | .getDevice deviceId => getDevice lower state context siteId deviceId
  | .createDevice input => createDevice lower state context siteId input
  | .updateDevice deviceId expectedVersion patch =>
      updateDevice lower state context siteId deviceId expectedVersion patch
  | .transitionLifecycle deviceId expectedVersion next reason =>
      transitionLifecycle lower state context siteId deviceId expectedVersion
        next reason

def apiClient (lower : String → String) (state : AppState) :
    Client (apiSql lower) ApiError where
  Call := ApiCall
  Result := ApiCall.Result
  program
    | .request context siteId request =>
        handle lower state context siteId request
    | .observe context generated observation =>
        inventory lower
          (reconcileObservation state.inventory context generated observation)
    | .administer authorization network => do
        Program.statement (D := apiSql lower) (.administer authorization network)
          fun _ => authorizationErrorResponse .unavailable
        Program.commitNow fun _ => authorizationErrorResponse .unavailable

end NetworkManager.Backend.InventoryApi
