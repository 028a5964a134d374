import Mathlib.Data.Rat.Floor
import NetworkManager.AuditStore.Store
import NetworkManager.Domain.Inventory
import NetworkManager.PlatformEvents.Outbox

/-!
# Inputs and views of the inventory

What callers hand to the inventory store, how it is checked, and the view of a
device that the store hands back.

Nine canonical columns of a device are optional texts that are treated alike.
They keep their own field in each record, and `TextField` names them.
-/

namespace NetworkManager.InventoryStore

open NetworkManager.Foundation
open NetworkManager.Domain.Inventory
open NetworkManager.Security

inductive InventoryError where
  | invalidInput (message : String)
  | deviceNotFound
  | versionConflict (expected actual : Int)
  | lifecycleBlocksMutation (lifecycle : DeviceLifecycle)
  | invalidLifecycleTransition (current next : DeviceLifecycle)
  | lifecycleReasonRequired
  | duplicateIdentifier
  | reconciliationConflict (devices : List Uuid)
  | reactivationRequiresReview (device : Uuid)
  | audit (failure : AuditStore.AuditStoreError)
  | outbox (failure : PlatformEvents.OutboxError)
  | database (failure : SqlError)
deriving DecidableEq, Repr

inductive TextField where
  | displayName
  | hostname
  | vendor
  | model
  | osName
  | osVersion
  | firmwareVersion
  | description
  | operationalOwner
deriving DecidableEq, Repr

/-- In the order in which the store goes through them. -/
def TextField.all : List TextField :=
  [.displayName, .hostname, .vendor, .model, .osName, .osVersion,
    .firmwareVersion, .description, .operationalOwner]

/-- Those that an observation has. -/
def TextField.observed : List TextField :=
  [.displayName, .hostname, .vendor, .model, .osName, .osVersion,
    .firmwareVersion]

theorem TextField.mem_all (field : TextField) : field ∈ TextField.all := by
  cases field <;> decide

/-- The fields that facts are kept about. -/
inductive Field where
  | deviceType
  | text (field : TextField)
  | capabilities
deriving DecidableEq, Repr

/-- The organization and the site of a device. -/
structure Scope where
  organizationId : Uuid
  siteId : Uuid
deriving DecidableEq, Repr

structure DeviceView where
  id : Uuid
  organizationId : Uuid
  siteId : Uuid
  lifecycle : DeviceLifecycle
  deviceType : DeviceType
  displayName : Option String
  hostname : Option String
  vendor : Option String
  model : Option String
  serialNumber : Option String
  osName : Option String
  osVersion : Option String
  firmwareVersion : Option String
  description : Option String
  operationalOwner : Option String
  capabilities : List String
  version : Int
  lastSeenAt : Option Timestamp
  lastChangedAt : Timestamp
  onboardedAt : Option Timestamp
  retiredAt : Option Timestamp
  retirementReason : Option String
deriving DecidableEq, Repr

namespace DeviceView

def scope (device : DeviceView) : Scope :=
  ⟨device.organizationId, device.siteId⟩

def text (device : DeviceView) : TextField → Option String
  | .displayName => device.displayName
  | .hostname => device.hostname
  | .vendor => device.vendor
  | .model => device.model
  | .osName => device.osName
  | .osVersion => device.osVersion
  | .firmwareVersion => device.firmwareVersion
  | .description => device.description
  | .operationalOwner => device.operationalOwner

/-- Replace the nine text columns. -/
def withTexts (device : DeviceView) (texts : TextField → Option String) :
    DeviceView :=
  { device with
    displayName := texts .displayName
    hostname := texts .hostname
    vendor := texts .vendor
    model := texts .model
    osName := texts .osName
    osVersion := texts .osVersion
    firmwareVersion := texts .firmwareVersion
    description := texts .description
    operationalOwner := texts .operationalOwner }

@[simp]
theorem text_withTexts (device : DeviceView)
    (texts : TextField → Option String) (field : TextField) :
    (device.withTexts texts).text field = texts field := by
  cases field <;> rfl

/-- `serde_json::to_value`, whose objects are sorted by key. -/
def toValue (formatTime : Timestamp → String) (device : DeviceView) : Value :=
  let optional (value : Option String) : Value := value.elim .null .string
  let time (value : Option Timestamp) : Value :=
    optional (value.map formatTime)
  .object
    [("capabilities", .array (device.capabilities.map .string)),
      ("description", optional device.description),
      ("deviceType", .string device.deviceType.asStr),
      ("displayName", optional device.displayName),
      ("firmwareVersion", optional device.firmwareVersion),
      ("hostname", optional device.hostname),
      ("id", .string device.id.text),
      ("lastChangedAt", .string (formatTime device.lastChangedAt)),
      ("lastSeenAt", time device.lastSeenAt),
      ("lifecycle", .string device.lifecycle.asStr),
      ("model", optional device.model),
      ("onboardedAt", time device.onboardedAt),
      ("operationalOwner", optional device.operationalOwner),
      ("organizationId", .string device.organizationId.text),
      ("osName", optional device.osName),
      ("osVersion", optional device.osVersion),
      ("retiredAt", time device.retiredAt),
      ("retirementReason", optional device.retirementReason),
      ("serialNumber", optional device.serialNumber),
      ("siteId", .string device.siteId.text),
      ("vendor", optional device.vendor),
      ("version", .number (.integer device.version))]

end DeviceView

/-! ## Checks -/

/-- End with an error unless a check passes. -/
def require (passed : Bool) (message : String) : Except InventoryError Unit :=
  if passed then .ok () else .error (.invalidInput message)

def cleanOptional (value : Option String) : Option String :=
  value.bind fun value =>
    if (trim value).isEmpty then none else some (trim value)

def validateTextFields (values : List (Option String)) :
    Except InventoryError Unit :=
  require
    (!values.reduceOption.any fun value =>
      isBlank value || decide (512 < value.utf8ByteSize))
    "text field is invalid"

/-- The checks of a list of capabilities. -/
def validateCapabilities (capabilities : List String) :
    Except InventoryError Unit :=
  require
    (!(decide (256 < capabilities.length) ||
      capabilities.any fun value =>
        isBlank value || decide (120 < value.utf8ByteSize)))
    "capabilities are invalid"

def validateDescription (description : Option String) :
    Except InventoryError Unit :=
  require
    (!description.any fun value => decide (4096 < value.utf8ByteSize))
    "description is too long"

/-- Who asks for a mutation, and where. -/
structure MutationContext where
  organizationId : Uuid
  siteId : Uuid
  actorType : AuditActorType
  actorId : Option Uuid
  sessionId : Option Uuid
  sourceIp : Option String
  requestId : String
  correlationId : Uuid

def MutationContext.scope (context : MutationContext) : Scope :=
  ⟨context.organizationId, context.siteId⟩

def MutationContext.validate (context : MutationContext) :
    Except InventoryError Unit := do
  require
    (!(isBlank context.requestId ||
      decide (200 < context.requestId.utf8ByteSize)))
    "request id is invalid"
  require (!context.sourceIp.any fun value => !isIpAddr value)
    "source IP is invalid"

/-- The confidence is the decimal number that the `f32` is written as; one that
is not a number fails the same check as one that is out of range. -/
structure NewIdentifier where
  kind : IdentifierKind
  value : String
  source : String
  confidence : Option Rat

def identityNamespace (kind : IdentifierKind) (source : String) :
    Except InventoryError String :=
  if kind = .providerNativeId then
    let sourceNamespace := toAsciiLowercase (trim source)
    if sourceNamespace.isEmpty then
      .error (.invalidInput
        "provider-native identifier requires provider namespace")
    else
      .ok sourceNamespace
  else
    .ok "global"

/-- The normal form of a value, with the error of the store. -/
def normalized (identifier : NewIdentifier) : Except InventoryError String :=
  (identifier.kind.normalize identifier.value).mapError .invalidInput

def NewIdentifier.validate (identifier : NewIdentifier) :
    Except InventoryError Unit := do
  let _ ← normalized identifier
  require
    (!(isBlank identifier.source ||
      decide (120 < identifier.source.utf8ByteSize)))
    "identifier source is invalid"
  require
    (!identifier.confidence.any fun confidence =>
      !(decide (0 ≤ confidence) && decide (confidence ≤ 1)))
    "identifier confidence is invalid"
  let _ ← identityNamespace identifier.kind identifier.source

/-- Check each identifier in turn. -/
def validateIdentifiers : List NewIdentifier → Except InventoryError Unit
  | [] => .ok ()
  | identifier :: rest => do
      identifier.validate
      validateIdentifiers rest

def firstIdentifierValue (identifiers : List NewIdentifier)
    (kind : IdentifierKind) : Option String :=
  (identifiers.find? fun identifier => identifier.kind = kind).map
    fun identifier => trim identifier.value

structure NewDevice where
  deviceType : DeviceType
  displayName : Option String
  hostname : Option String
  vendor : Option String
  model : Option String
  osName : Option String
  osVersion : Option String
  firmwareVersion : Option String
  description : Option String
  operationalOwner : Option String
  capabilities : List String
  identifiers : List NewIdentifier

def NewDevice.text (input : NewDevice) : TextField → Option String
  | .displayName => input.displayName
  | .hostname => input.hostname
  | .vendor => input.vendor
  | .model => input.model
  | .osName => input.osName
  | .osVersion => input.osVersion
  | .firmwareVersion => input.firmwareVersion
  | .description => input.description
  | .operationalOwner => input.operationalOwner

def NewDevice.validate (input : NewDevice) : Except InventoryError Unit := do
  validateTextFields
    [input.displayName, input.hostname, input.vendor, input.model,
      input.osName, input.osVersion, input.firmwareVersion,
      input.operationalOwner]
  validateDescription input.description
  validateCapabilities input.capabilities
  validateIdentifiers input.identifiers

structure DeviceObservation where
  deviceType : DeviceType
  displayName : Option String
  hostname : Option String
  vendor : Option String
  model : Option String
  osName : Option String
  osVersion : Option String
  firmwareVersion : Option String
  capabilities : List String
  identifiers : List NewIdentifier
  observedAt : Option Timestamp

/-- An observation says nothing of a description or an owner. -/
def DeviceObservation.text (observation : DeviceObservation) :
    TextField → Option String
  | .displayName => observation.displayName
  | .hostname => observation.hostname
  | .vendor => observation.vendor
  | .model => observation.model
  | .osName => observation.osName
  | .osVersion => observation.osVersion
  | .firmwareVersion => observation.firmwareVersion
  | .description => none
  | .operationalOwner => none

def DeviceObservation.validate (observation : DeviceObservation) :
    Except InventoryError Unit := do
  require (!observation.identifiers.isEmpty)
    "observation requires at least one identifier"
  validateTextFields (TextField.observed.map observation.text)
  validateIdentifiers observation.identifiers

/-- A text is left alone, set to null or set to a value. -/
structure MetadataPatch where
  deviceType : Option DeviceType
  displayName : Option (Option String)
  hostname : Option (Option String)
  vendor : Option (Option String)
  model : Option (Option String)
  osName : Option (Option String)
  osVersion : Option (Option String)
  firmwareVersion : Option (Option String)
  description : Option (Option String)
  operationalOwner : Option (Option String)
  capabilities : Option (List String)

def MetadataPatch.text (patch : MetadataPatch) :
    TextField → Option (Option String)
  | .displayName => patch.displayName
  | .hostname => patch.hostname
  | .vendor => patch.vendor
  | .model => patch.model
  | .osName => patch.osName
  | .osVersion => patch.osVersion
  | .firmwareVersion => patch.firmwareVersion
  | .description => patch.description
  | .operationalOwner => patch.operationalOwner

/-- `nested_ref`. -/
def nestedRef (value : Option (Option String)) : Option String := value.join

def MetadataPatch.validate (patch : MetadataPatch) :
    Except InventoryError Unit := do
  validateTextFields
    [nestedRef patch.displayName, nestedRef patch.hostname,
      nestedRef patch.vendor, nestedRef patch.model, nestedRef patch.osName,
      nestedRef patch.osVersion, nestedRef patch.firmwareVersion,
      nestedRef patch.operationalOwner]
  validateDescription (nestedRef patch.description)
  validateCapabilities (patch.capabilities.getD [])

end NetworkManager.InventoryStore
