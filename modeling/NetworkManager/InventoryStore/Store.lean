import Mathlib.Data.Finset.Sort
import NetworkManager.InventoryStore.Types
import NetworkManager.Transaction.Embedding

/-!
# The inventory store

Devices, the identifiers that name them, the facts that are declared or
observed about their fields, and the events of their life cycles.  Every
mutation writes the audit trail and the outbox in its own transaction, so the
tables of both are components of the database.

The generated values of a call are its arguments: identifiers, the transaction
time `now`, and the clock of the program.  Columns that the program never reads
(creation and update times, generated keys) are left out.
-/

namespace NetworkManager.InventoryStore

open NetworkManager.Foundation
open NetworkManager.Domain.Inventory
open NetworkManager.Security
open NetworkManager.Transaction

/-- What identifies a device: the columns of both unique indexes on
identifiers, without the device and the scope. -/
structure IdentifierKey where
  kind : IdentifierKind
  identityNamespace : String
  normalizedValue : String
deriving DecidableEq, Repr

structure IdentifierRow where
  deviceId : Uuid
  scope : Scope
  identity : IdentifierKey
  value : String
  source : String
  confidence : Option Rat
  strength : IdentifierStrength
  lastSeenAt : Option Timestamp
deriving DecidableEq

/-- The columns of `uq_device_identifier_per_device`. -/
def IdentifierRow.key (row : IdentifierRow) : Uuid × IdentifierKey :=
  (row.deviceId, row.identity)

inductive Provenance where
  | observed
  | declared
deriving DecidableEq, Repr

/-- `UNIQUE (device_id, field_name, provenance, source)`. -/
structure FactKey where
  deviceId : Uuid
  fieldName : Field
  provenance : Provenance
  source : String
deriving DecidableEq, Repr

structure FactRow where
  key : FactKey
  scope : Scope
  value : Value
  confidence : Rat
  observedAt : Option Timestamp
deriving DecidableEq

structure LifecycleEvent where
  scope : Scope
  deviceId : Uuid
  fromState : Option DeviceLifecycle
  toState : DeviceLifecycle
  actorType : AuditActorType
  actorId : Option Uuid
  reason : Option String
  correlationId : Uuid
deriving DecidableEq

structure InventoryDb where
  devices : Table Uuid DeviceView DeviceView.id
  identifiers : Table (Uuid × IdentifierKey) IdentifierRow IdentifierRow.key
  facts : Table FactKey FactRow FactRow.key
  lifecycleEvents : List LifecycleEvent
  audit : AuditStore.AuditDb
  outbox : PlatformEvents.OutboxDb

inductive Statement where
  | selectStrongOwner (scope : Scope) (identity : IdentifierKey)
  | selectDevice (scope : Scope) (deviceId : Uuid) (forUpdate : Bool)
  | insertDevice (row : DeviceView)
  | updateMetadata (scope : Scope) (deviceId : Uuid)
      (texts : TextField → Option String) (deviceType : DeviceType)
      (capabilities : List String) (now : Timestamp)
  | updateLifecycle (scope : Scope) (deviceId : Uuid)
      (next : DeviceLifecycle) (reason : Option String) (now : Timestamp)
  | updateObserved (deviceId : Uuid) (texts : TextField → Option String)
      (deviceType : DeviceType) (capabilities : List String)
      (observedAt now : Timestamp)
  | updateIdentifier (row : IdentifierRow)
  | insertIdentifier (row : IdentifierRow)
  | upsertFact (row : FactRow)
  | insertLifecycleEvent (event : LifecycleEvent)
  | audit (query : AuditStore.Statement)
  | outbox (query : PlatformEvents.Statement)

abbrev Reply : Statement → Type
  | .selectStrongOwner .. => Option Uuid
  | .selectDevice .. => Option DeviceView
  | .insertDevice _ => Unit
  | .updateMetadata .. => Unit
  | .updateLifecycle .. => Unit
  | .updateObserved .. => Unit
  | .updateIdentifier _ => Nat
  | .insertIdentifier _ => Unit
  | .upsertFact _ => Unit
  | .insertLifecycleEvent _ => Unit
  | .audit query => AuditStore.Reply query
  | .outbox query => PlatformEvents.Reply query

inductive Write where
  | device (row : DeviceView)
  | identifier (row : IdentifierRow)
  | fact (row : FactRow)
  | lifecycleEvent (event : LifecycleEvent)
  | audit (row : AuditStore.AuditRow)
  | outbox (write : PlatformEvents.Write)

def applyWrite : Write → InventoryDb → InventoryDb
  | .device row, db => { db with devices := db.devices.put row }
  | .identifier row, db => { db with identifiers := db.identifiers.put row }
  | .fact row, db => { db with facts := db.facts.put row }
  | .lifecycleEvent event, db =>
      { db with lifecycleEvents := db.lifecycleEvents ++ [event] }
  | .audit row, db =>
      { db with audit := AuditStore.auditSql.apply row db.audit }
  | .outbox write, db =>
      { db with outbox := PlatformEvents.outboxSql.apply write db.outbox }

namespace InventoryDb

/-- The device with an id, if it is in a scope. -/
def deviceIn (db : InventoryDb) (scope : Scope) (deviceId : Uuid) :
    Option DeviceView :=
  (db.devices.lookup deviceId).filter fun device => device.scope = scope

/-- The row has this value in `uq_device_strong_identifier_scope`. -/
def ownsStrong (scope : Scope) (identity : IdentifierKey)
    (row : IdentifierRow) : Bool :=
  row.scope = scope && row.identity = identity && row.strength = .strong

def strongOwner (db : InventoryDb) (scope : Scope)
    (identity : IdentifierKey) : Option Uuid :=
  (db.identifiers.rows.find? (ownsStrong scope identity)).map
    IdentifierRow.deviceId

def hasDeclaredFact (db : InventoryDb) (deviceId : Uuid)
    (field : Field) : Bool :=
  db.facts.rows.any fun fact =>
    fact.key.deviceId = deviceId && fact.key.fieldName = field &&
      fact.key.provenance = .declared

end InventoryDb

def execInsertDevice (row : DeviceView) (db : InventoryDb) :
    Except SqlError (Unit × List Write) :=
  if (db.devices.lookup row.id).isSome then
    .error (.uniqueViolation "devices_pkey")
  else
    .ok ((), [.device row])

/-- Write back the device that an `UPDATE` has matched, if any. -/
def updateDevice (matched : Option DeviceView)
    (change : DeviceView → DeviceView) : Unit × List Write :=
  ((), matched.toList.map fun row => .device (change row))

def setMetadata (texts : TextField → Option String) (deviceType : DeviceType)
    (capabilities : List String) (now : Timestamp) (row : DeviceView) :
    DeviceView :=
  { row.withTexts texts with
    deviceType
    capabilities
    version := row.version + 1
    lastChangedAt := now }

def setLifecycle (next : DeviceLifecycle) (reason : Option String)
    (now : Timestamp) (row : DeviceView) : DeviceView :=
  let reopened := row.lifecycle = .retired ∧ next = .pendingReview
  { row with
    lifecycle := next
    onboardedAt :=
      if next = .managed then some (row.onboardedAt.getD now)
      else row.onboardedAt
    retiredAt :=
      if next = .retired then some now
      else if reopened then none
      else row.retiredAt
    retirementReason :=
      if next = .retired then reason
      else if reopened then none
      else row.retirementReason
    version := row.version + 1
    lastChangedAt := now }

/-- Each observed value goes where there is no declared fact. -/
def setObserved (declared : Field → Bool) (texts : TextField → Option String)
    (deviceType : DeviceType) (capabilities : List String)
    (observedAt now : Timestamp) (row : DeviceView) : DeviceView :=
  { row.withTexts fun field =>
      if (texts field).isSome && !declared (.text field) then texts field
      else row.text field with
    deviceType :=
      if declared .deviceType then row.deviceType else deviceType
    capabilities :=
      if !capabilities.isEmpty && !declared .capabilities then capabilities
      else row.capabilities
    lastSeenAt := some (max (row.lastSeenAt.getD observedAt) observedAt)
    version := row.version + 1
    lastChangedAt := now }

def setIdentifier (given stored : IdentifierRow) : IdentifierRow :=
  { stored with
    value := given.value
    source := given.source
    confidence := given.confidence
    lastSeenAt := given.lastSeenAt.or stored.lastSeenAt }

def execUpdateIdentifier (row : IdentifierRow) (db : InventoryDb) :
    Nat × List Write :=
  match (db.identifiers.lookup row.key).filter fun stored =>
      stored.scope = row.scope with
  | none => (0, [])
  | some stored => (1, [.identifier (setIdentifier row stored)])

def execInsertIdentifier (row : IdentifierRow) (db : InventoryDb) :
    Except SqlError (Unit × List Write) :=
  if (db.identifiers.lookup row.key).isSome then
    .error (.uniqueViolation "uq_device_identifier_per_device")
  else if row.strength = .strong ∧
      (db.strongOwner row.scope row.identity).isSome then
    .error (.uniqueViolation "uq_device_strong_identifier_scope")
  else if (db.deviceIn row.scope row.deviceId).isNone then
    .error (.foreignKeyViolation "device_identifiers_scope_fk")
  else
    .ok ((), [.identifier row])

def setFact (given stored : FactRow) : FactRow :=
  { stored with
    value := given.value
    confidence := given.confidence
    observedAt := given.observedAt.or stored.observedAt }

def execUpsertFact (row : FactRow) (db : InventoryDb) :
    Except SqlError (Unit × List Write) :=
  match db.facts.lookup row.key with
  | some stored => .ok ((), [.fact (setFact row stored)])
  | none =>
      if (db.deviceIn row.scope row.key.deviceId).isNone then
        .error (.foreignKeyViolation
          "device_facts_device_id_organization_id_site_id_fkey")
      else
        .ok ((), [.fact row])

def execInsertLifecycleEvent (event : LifecycleEvent) (db : InventoryDb) :
    Except SqlError (Unit × List Write) :=
  if (db.deviceIn event.scope event.deviceId).isNone then
    .error (.foreignKeyViolation
      "device_lifecycle_events_device_id_organization_id_site_id_fkey")
  else
    .ok ((), [.lifecycleEvent event])

/-- The database of the inventory. -/
abbrev inventorySql : Database where
  Statement := Statement
  Reply := Reply
  Fault := SqlError
  State := InventoryDb
  Write := Write
  apply := applyWrite
  exec
    | .selectStrongOwner scope identity, db =>
        .ok (db.strongOwner scope identity, [])
    | .selectDevice scope deviceId _, db =>
        .ok (db.deviceIn scope deviceId, [])
    | .insertDevice row, db => execInsertDevice row db
    | .updateMetadata scope deviceId texts deviceType capabilities now, db =>
        .ok (updateDevice (db.deviceIn scope deviceId)
          (setMetadata texts deviceType capabilities now))
    | .updateLifecycle scope deviceId next reason now, db =>
        .ok (updateDevice (db.deviceIn scope deviceId)
          (setLifecycle next reason now))
    | .updateObserved deviceId texts deviceType capabilities observedAt now,
        db =>
        .ok (updateDevice (db.devices.lookup deviceId)
          (setObserved (db.hasDeclaredFact deviceId) texts deviceType
            capabilities observedAt now))
    | .updateIdentifier row, db => .ok (execUpdateIdentifier row db)
    | .insertIdentifier row, db => execInsertIdentifier row db
    | .upsertFact row, db => execUpsertFact row db
    | .insertLifecycleEvent event, db => execInsertLifecycleEvent event db
    | .audit query, db =>
        liftAnswer id id .audit (AuditStore.auditSql.exec query db.audit)
    | .outbox query, db =>
        liftAnswer id id .outbox (PlatformEvents.outboxSql.exec query db.outbox)

def auditEmbedding : Embedding AuditStore.auditSql inventorySql where
  component db := db.audit
  replace part db := { db with audit := part }
  statement := .audit
  reply := id
  toReply := id
  fault := id
  toFault := id
  toWrite := .audit
  reply_toReply _ := rfl
  fault_toFault _ := rfl
  component_replace _ _ := rfl
  replace_component _ := rfl
  replace_replace _ _ _ := rfl
  exec_eq _ _ := rfl
  apply_eq _ _ := rfl

def outboxEmbedding : Embedding PlatformEvents.outboxSql inventorySql where
  component db := db.outbox
  replace part db := { db with outbox := part }
  statement := .outbox
  reply := id
  toReply := id
  fault := id
  toFault := id
  toWrite := .outbox
  reply_toReply _ := rfl
  fault_toFault _ := rfl
  component_replace _ _ := rfl
  replace_component _ := rfl
  replace_replace _ _ _ := rfl
  exec_eq _ _ := rfl
  apply_eq _ _ := rfl

/-! ## Parts of the operations -/

/-- A program of the store. -/
abbrev Store (α : Type) : Type := Program inventorySql InventoryError α

def query (statement : Statement) : Store (Reply statement) :=
  Program.statement (D := inventorySql) statement .database

def commit : Store Unit := Program.commitNow .database

def fail {α : Type} (failure : InventoryError) : Store α :=
  .done (.error failure)

/-- What the program generates and reads from clocks during a call. -/
structure Generated where
  deviceId : Uuid
  auditId : Uuid
  outboxId : Uuid
  /-- `now()`, the start of the transaction. -/
  now : Timestamp
  /-- `Utc::now()`, for an observation without a time. -/
  utcNow : Timestamp
  /-- `Utc::now().timestamp_millis()`, for the audit event. -/
  unixMs : Int

/-- The audit library and the text form of a time. -/
structure InventoryLibrary where
  audit : AuditLibrary
  formatTime : Timestamp → String

def isIdentifierConflict : SqlError → Bool
  | .uniqueViolation name =>
      name == "uq_device_strong_identifier_scope" ||
        name == "device_identifiers_device_id_kind_value_key"
  | _ => false

def insertIdentifierFault (failure : SqlError) : InventoryError :=
  if isIdentifierConflict failure then .duplicateIdentifier
  else .database failure

/-- A cast to `numeric(5,4)`. -/
def numeric54 (value : Rat) : Rat := ⌊value * 10000 + 1 / 2⌋ / 10000

def identifierRow (scope : Scope) (deviceId : Uuid)
    (identifier : NewIdentifier) (identityNamespace normalizedValue : String)
    (observedAt : Option Timestamp) : IdentifierRow where
  deviceId
  scope
  identity := ⟨identifier.kind, identityNamespace, normalizedValue⟩
  value := trim identifier.value
  source := trim identifier.source
  confidence := identifier.confidence.map numeric54
  strength := identifier.kind.strength
  lastSeenAt := observedAt

def upsertIdentifier (scope : Scope) (deviceId : Uuid)
    (observedAt : Option Timestamp) (identifier : NewIdentifier) :
    Store Unit := do
  Program.ofExcept identifier.validate
  let normalizedValue ← Program.ofExcept (normalized identifier)
  let identityNamespace ←
    Program.ofExcept (identityNamespace identifier.kind identifier.source)
  let row := identifierRow scope deviceId identifier identityNamespace
    normalizedValue observedAt
  let updated ← query (.updateIdentifier row)
  if 0 < updated then
    pure ()
  else
    Program.statement (D := inventorySql) (.insertIdentifier row)
      insertIdentifierFault

def upsertDeclaredFact (scope : Scope) (deviceId : Uuid) (field : Field)
    (value : Value) : Store Unit :=
  query (.upsertFact
    { key := ⟨deviceId, field, .declared, "manual"⟩
      scope
      value
      confidence := 1
      observedAt := none })

def upsertObservedFact (scope : Scope) (deviceId : Uuid)
    (observedAt : Timestamp) (field : Field) (value : Value) : Store Unit :=
  query (.upsertFact
    { key := ⟨deviceId, field, .observed, "discovery"⟩
      scope
      value
      confidence := 1
      observedAt := some observedAt })

/-- `json!` of a list of texts. -/
def textsValue (values : List String) : Value := .array (values.map .string)

/-- `json!` of an optional text. -/
def optionalValue (value : Option String) : Value := value.elim .null .string

/-- Do something with a value, if there is one. -/
def whenSome {α : Type} (value : Option α) (action : α → Store Unit) :
    Store Unit :=
  value.elim (pure ()) action

def persistDeclaredFacts (scope : Scope) (deviceId : Uuid)
    (input : NewDevice) : Store Unit := do
  upsertDeclaredFact scope deviceId .deviceType
    (.string input.deviceType.asStr)
  Program.forEach (fun field =>
    whenSome (input.text field) fun value =>
      upsertDeclaredFact scope deviceId (.text field) (.string value))
    TextField.all
  if input.capabilities.isEmpty then
    pure ()
  else
    upsertDeclaredFact scope deviceId .capabilities
      (textsValue input.capabilities)

def persistPatchFacts (scope : Scope) (deviceId : Uuid)
    (patch : MetadataPatch) : Store Unit := do
  whenSome patch.deviceType fun deviceType =>
    upsertDeclaredFact scope deviceId .deviceType (.string deviceType.asStr)
  Program.forEach (fun field =>
    whenSome (patch.text field) fun value =>
      upsertDeclaredFact scope deviceId (.text field) (optionalValue value))
    TextField.all
  whenSome patch.capabilities fun capabilities =>
    upsertDeclaredFact scope deviceId .capabilities (textsValue capabilities)

def persistObservedFacts (scope : Scope) (deviceId : Uuid)
    (observation : DeviceObservation) (observedAt : Timestamp) :
    Store Unit := do
  upsertObservedFact scope deviceId observedAt .deviceType
    (.string observation.deviceType.asStr)
  Program.forEach (fun field =>
    whenSome (observation.text field) fun value =>
      upsertObservedFact scope deviceId observedAt (.text field)
        (.string value))
    TextField.observed
  if observation.capabilities.isEmpty then
    pure ()
  else
    upsertObservedFact scope deviceId observedAt .capabilities
      (textsValue observation.capabilities)

def applyObservedCanonicalFields (deviceId : Uuid)
    (observation : DeviceObservation) (observedAt now : Timestamp) :
    Store Unit :=
  query (.updateObserved deviceId
    (fun field => cleanOptional (observation.text field))
    observation.deviceType observation.capabilities observedAt now)

def appendLifecycleEvent (context : MutationContext) (deviceId : Uuid)
    (fromState : Option DeviceLifecycle) (toState : DeviceLifecycle)
    (reason : Option String) : Store Unit :=
  query (.insertLifecycleEvent
    { scope := context.scope
      deviceId
      fromState
      toState
      actorType := context.actorType
      actorId := context.actorId
      reason
      correlationId := context.correlationId })

/-- `load_device_in_tx` of a device that has to be there. -/
def loadDevice (scope : Scope) (deviceId : Uuid) (forUpdate : Bool) :
    Store DeviceView := do
  let found ← query (.selectDevice scope deviceId forUpdate)
  Program.ofExcept (found.elim (.error .deviceNotFound) .ok)

/-- The audit event of a mutation. -/
def mutationDraft (context : MutationContext) (generated : Generated)
    (action : String) (device : DeviceView) (before after : Option Value) :
    AuditEventDraft where
  organizationId := context.organizationId
  siteId := some context.siteId
  actorType := context.actorType
  actorId := context.actorId
  sessionId := context.sessionId
  sourceIp := context.sourceIp
  requestId := context.requestId
  correlationId := context.correlationId
  action
  resourceType := "device"
  resourceId := some device.id.text
  provider := none
  occurredAtUnixMs := generated.unixMs
  durationMs := none
  status := .succeeded
  reasonCode := none
  before
  after
  result := some (.object [("ok", .bool true)])

/-- The outbox event of a mutation. -/
def mutationEvent (context : MutationContext) (generated : Generated)
    (eventType : String) (device : DeviceView) (after : Option Value) :
    PlatformEvents.NewOutboxEvent where
  id := generated.outboxId
  organizationId := context.organizationId
  aggregateType := "device"
  aggregateId := device.id.text
  eventType
  eventVersion := 1
  payload := after.getD (.object [("deviceId", .string device.id.text)])
  correlationId := context.correlationId

section Operations

variable (library : InventoryLibrary) (context : MutationContext)
  (generated : Generated)

def writeMutationRecords (action eventType : String) (device : DeviceView)
    (before after : Option Value) : Store Unit := do
  let _ ← auditEmbedding.lift .audit
    (AuditStore.appendInTx library.audit generated.auditId
      (mutationDraft context generated action device before after))
  outboxEmbedding.lift .outbox
    (PlatformEvents.enqueue
      (mutationEvent context generated eventType device after) generated.now)

/-- The end of a mutation: read the device back, record the mutation, commit. -/
def finishMutation (action eventType : String) (deviceId : Uuid)
    (before : Option DeviceView) : Store DeviceView := do
  let device ← loadDevice context.scope deviceId false
  writeMutationRecords library context generated action eventType device
    (before.map (DeviceView.toValue library.formatTime))
    (some (device.toValue library.formatTime))
  commit
  return device

/-! ## The operations -/

def get (scope : Scope) (deviceId : Uuid) : Store (Option DeviceView) :=
  query (.selectDevice scope deviceId false)

/-- The row that `create_manual` inserts. -/
def manualRow (input : NewDevice) (approvalRequired : Bool) : DeviceView :=
  let lifecycle :=
    if approvalRequired then .pendingReview else .managed
  let serial := firstIdentifierValue input.identifiers .serial
  let hostname := input.hostname.or
    (firstIdentifierValue input.identifiers .hostname)
  { id := generated.deviceId
    organizationId := context.organizationId
    siteId := context.siteId
    lifecycle
    deviceType := input.deviceType
    displayName := cleanOptional input.displayName
    hostname := cleanOptional hostname
    vendor := cleanOptional input.vendor
    model := cleanOptional input.model
    serialNumber := cleanOptional serial
    osName := cleanOptional input.osName
    osVersion := cleanOptional input.osVersion
    firmwareVersion := cleanOptional input.firmwareVersion
    description := cleanOptional input.description
    operationalOwner := cleanOptional input.operationalOwner
    capabilities := input.capabilities
    version := 1
    lastSeenAt := none
    lastChangedAt := generated.now
    onboardedAt := if lifecycle = .managed then some generated.now else none
    retiredAt := none
    retirementReason := none }

def createManual (input : NewDevice) (approvalRequired : Bool) :
    Store DeviceView := do
  Program.ofExcept context.validate
  Program.ofExcept input.validate
  let row := manualRow context generated input approvalRequired
  query (.insertDevice row)
  Program.forEach (upsertIdentifier context.scope row.id none)
    input.identifiers
  persistDeclaredFacts context.scope row.id input
  appendLifecycleEvent context row.id none row.lifecycle
    (some "manual_create")
  finishMutation library context generated "inventory.device.create"
    "inventory.device.created" row.id none

/-- The text columns that a patch asks for. -/
def patchedTexts (patch : MetadataPatch) (current : DeviceView)
    (field : TextField) : Option String :=
  cleanOptional ((patch.text field).getD (current.text field))

def updateMetadata (deviceId : Uuid) (expectedVersion : Int)
    (patch : MetadataPatch) : Store DeviceView := do
  Program.ofExcept context.validate
  Program.ofExcept patch.validate
  let current ← loadDevice context.scope deviceId true
  Program.check (current.version == expectedVersion)
    (.versionConflict expectedVersion current.version)
  Program.check current.lifecycle.allowsNormalMutation
    (.lifecycleBlocksMutation current.lifecycle)
  query (.updateMetadata context.scope deviceId (patchedTexts patch current)
    (patch.deviceType.getD current.deviceType)
    (patch.capabilities.getD current.capabilities) generated.now)
  persistPatchFacts context.scope deviceId patch
  finishMutation library context generated "inventory.device.update"
    "inventory.device.updated" deviceId (some current)

/-- A device is taken out of service only for a reason. -/
def reasonGiven (next : DeviceLifecycle) (reason : Option String) : Bool :=
  !((next == .retired || next == .archived) &&
    reason.all fun given => given.isEmpty)

def transitionLifecycle (deviceId : Uuid) (expectedVersion : Int)
    (next : DeviceLifecycle) (reason : Option String) :
    Store DeviceView := do
  Program.ofExcept context.validate
  let current ← loadDevice context.scope deviceId true
  Program.check (current.version == expectedVersion)
    (.versionConflict expectedVersion current.version)
  if current.lifecycle = next then
    return current
  else do
    Program.check (current.lifecycle.canTransitionTo next)
      (.invalidLifecycleTransition current.lifecycle next)
    let reason := cleanOptional reason
    Program.check (reasonGiven next reason) .lifecycleReasonRequired
    query (.updateLifecycle context.scope deviceId next reason generated.now)
    appendLifecycleEvent context deviceId (some current.lifecycle) next reason
    finishMutation library context generated
      "inventory.device.lifecycle.transition"
      "inventory.device.lifecycle_changed" deviceId (some current)

inductive ReconciliationResult where
  | created (device : DeviceView)
  | updated (device : DeviceView)
deriving DecidableEq, Repr

/-- The owners of the strong identifiers, a `BTreeSet`. -/
def findMatches (scope : Scope) :
    List NewIdentifier → Finset Uuid → Store (Finset Uuid)
  | [], found => pure found
  | identifier :: rest, found => do
      let normalizedValue ← Program.ofExcept (normalized identifier)
      let identityNamespace ← Program.ofExcept
        (identityNamespace identifier.kind identifier.source)
      let owner ← query (.selectStrongOwner scope
        ⟨identifier.kind, identityNamespace, normalizedValue⟩)
      findMatches scope rest (owner.elim found fun device =>
        insert device found)

/-- The row that `reconcile_observation` inserts. -/
def observedRow (observation : DeviceObservation) (observedAt : Timestamp) :
    DeviceView :=
  let serial := firstIdentifierValue observation.identifiers .serial
  let hostname := observation.hostname.or
    (firstIdentifierValue observation.identifiers .hostname)
  { id := generated.deviceId
    organizationId := context.organizationId
    siteId := context.siteId
    lifecycle := .discovered
    deviceType := observation.deviceType
    displayName := cleanOptional observation.displayName
    hostname := cleanOptional hostname
    vendor := cleanOptional observation.vendor
    model := cleanOptional observation.model
    serialNumber := cleanOptional serial
    osName := cleanOptional observation.osName
    osVersion := cleanOptional observation.osVersion
    firmwareVersion := cleanOptional observation.firmwareVersion
    description := none
    operationalOwner := none
    capabilities := observation.capabilities
    version := 1
    lastSeenAt := some observedAt
    lastChangedAt := generated.now
    onboardedAt := none
    retiredAt := none
    retirementReason := none }

/-- The branch of `reconcile_observation` for a device that is known. -/
def updateObservedDevice (observation : DeviceObservation)
    (observedAt : Timestamp) (deviceId : Uuid) : Store DeviceView := do
  let current ← loadDevice context.scope deviceId true
  Program.check
    (!(current.lifecycle == .retired || current.lifecycle == .archived))
    (.reactivationRequiresReview deviceId)
  Program.forEach (upsertIdentifier context.scope deviceId (some observedAt))
    observation.identifiers
  persistObservedFacts context.scope deviceId observation observedAt
  applyObservedCanonicalFields deviceId observation observedAt generated.now
  finishMutation library context generated "inventory.device.reconcile"
    "inventory.device.observed" deviceId (some current)

/-- The branch of `reconcile_observation` for a device that is new. -/
def createObservedDevice (observation : DeviceObservation)
    (observedAt : Timestamp) : Store DeviceView := do
  let row := observedRow context generated observation observedAt
  query (.insertDevice row)
  Program.forEach (upsertIdentifier context.scope row.id (some observedAt))
    observation.identifiers
  persistObservedFacts context.scope row.id observation observedAt
  appendLifecycleEvent context row.id none .discovered (some "discovery")
  finishMutation library context generated
    "inventory.device.discovery.create" "inventory.device.discovered" row.id
    none

def strongIdentifiers (identifiers : List NewIdentifier) :
    List NewIdentifier :=
  identifiers.filter fun identifier => identifier.kind.strength = .strong

def reconcileObservation (observation : DeviceObservation) :
    Store ReconciliationResult := do
  Program.ofExcept context.validate
  Program.ofExcept observation.validate
  let found ← findMatches context.scope
    (strongIdentifiers observation.identifiers) ∅
  Program.check (decide (found.card ≤ 1))
    (.reconciliationConflict (found.sort (· ≤ ·)))
  let observedAt := observation.observedAt.getD generated.utcNow
  match (found.sort (· ≤ ·)).head? with
  | some deviceId => do
      let device ← updateObservedDevice library context generated observation
        observedAt deviceId
      return .updated device
  | none => do
      let device ← createObservedDevice library context generated observation
        observedAt
      return .created device

end Operations

end NetworkManager.InventoryStore
