import Mathlib.Data.Finset.Image
import NetworkManager.Foundation.Text
import NetworkManager.Foundation.Uuid

/-!
# Devices and their identifiers

The life cycle of a device, and the identifiers that name it.  A strong
identifier names one device of a site; a weak one only describes it.
-/

namespace NetworkManager.Domain.Inventory

open NetworkManager.Foundation

inductive DeviceLifecycle where
  | discovered
  | pendingReview
  | managed
  | unmanaged
  | maintenance
  | retired
  | archived
deriving DecidableEq, Repr

namespace DeviceLifecycle

def allowsNormalMutation : DeviceLifecycle → Bool
  | .managed => true
  | .maintenance => true
  | _ => false

def canTransitionTo (current next : DeviceLifecycle) : Bool :=
  if current = next then
    true
  else
    match current, next with
    | .discovered, .pendingReview => true
    | .discovered, .unmanaged => true
    | .discovered, .archived => true
    | .pendingReview, .managed => true
    | .pendingReview, .unmanaged => true
    | .pendingReview, .archived => true
    | .managed, .maintenance => true
    | .managed, .unmanaged => true
    | .managed, .retired => true
    | .unmanaged, .pendingReview => true
    | .unmanaged, .managed => true
    | .unmanaged, .retired => true
    | .unmanaged, .archived => true
    | .maintenance, .managed => true
    | .maintenance, .retired => true
    | .retired, .pendingReview => true
    | .retired, .archived => true
    | _, _ => false

def asStr : DeviceLifecycle → String
  | .discovered => "discovered"
  | .pendingReview => "pending_review"
  | .managed => "managed"
  | .unmanaged => "unmanaged"
  | .maintenance => "maintenance"
  | .retired => "retired"
  | .archived => "archived"

end DeviceLifecycle

inductive DeviceType where
  | switch
  | router
  | firewall
  | server
  | printer
  | accessPoint
  | unknown
deriving DecidableEq, Repr

def DeviceType.asStr : DeviceType → String
  | .switch => "switch"
  | .router => "router"
  | .firewall => "firewall"
  | .server => "server"
  | .printer => "printer"
  | .accessPoint => "access_point"
  | .unknown => "unknown"

inductive IdentifierStrength where
  | strong
  | weak
deriving DecidableEq, Repr

def IdentifierStrength.asStr : IdentifierStrength → String
  | .strong => "strong"
  | .weak => "weak"

inductive IdentifierKind where
  | serial
  | mac
  | hostname
  | snmpEngineId
  | providerNativeId
  | assetTag
deriving DecidableEq, Repr

namespace IdentifierKind

def asStr : IdentifierKind → String
  | .serial => "serial"
  | .mac => "mac"
  | .hostname => "hostname"
  | .snmpEngineId => "snmp_engine_id"
  | .providerNativeId => "provider_native_id"
  | .assetTag => "asset_tag"

def strength : IdentifierKind → IdentifierStrength
  | .serial => .strong
  | .mac => .strong
  | .snmpEngineId => .strong
  | .providerNativeId => .strong
  | .hostname => .weak
  | .assetTag => .weak

/-- `char::is_ascii_hexdigit`. -/
def isAsciiHexdigit (character : Char) : Bool :=
  ('0' ≤ character && character ≤ '9') ||
    ('a' ≤ character && character ≤ 'f') ||
    ('A' ≤ character && character ≤ 'F')

/-- The hexadecimal digits of a text, in lower case. -/
def hexDigitsOf (value : String) : String :=
  String.ofList ((value.toList.filter isAsciiHexdigit).map Char.toLower)

/-- `trim_end_matches('.')`. -/
def trimEndDots (value : String) : String :=
  String.ofList (value.toList.rdropWhile fun character => character == '.')

/-- The form in which a trimmed value is compared. -/
def normalForm : IdentifierKind → String → String
  | .mac, value => hexDigitsOf value
  | .snmpEngineId, value => hexDigitsOf value
  | .hostname, value => toAsciiLowercase (trimEndDots value)
  | .serial, value => toAsciiLowercase value
  | .providerNativeId, value => toAsciiLowercase value
  | .assetTag, value => toAsciiLowercase value

def normalize (kind : IdentifierKind) (value : String) :
    Except String String :=
  let value := trim value
  if value.isEmpty then
    .error "identifier value is required"
  else
    let normalized := kind.normalForm value
    if normalized.isEmpty then
      .error "identifier value is invalid after normalization"
    else
      .ok normalized

example :
    [mac.normalize "AA-BB:CC", hostname.normalize " SW-1.Example. ",
      serial.normalize " "].map Except.toOption =
        [some "aabbcc", some "sw-1.example", none] := by
  decide

end IdentifierKind

structure DeviceIdentifier where
  kind : IdentifierKind
  value : String
deriving DecidableEq, Repr

/-- What decides whether two records are of one device. -/
structure DeviceRecord where
  organizationId : Uuid
  siteId : Uuid
  lifecycle : DeviceLifecycle
  identifiers : Finset DeviceIdentifier
deriving DecidableEq

namespace DeviceRecord

def hasStableMatchWith (record other : DeviceRecord) : Bool :=
  if record.organizationId ≠ other.organizationId ∨
      record.siteId ≠ other.siteId then
    false
  else
    decide (∃ identifier ∈ record.identifiers,
      identifier.kind ∈ ([.serial, .mac, .snmpEngineId, .providerNativeId] :
        List IdentifierKind) ∧ identifier ∈ other.identifiers)

def canAutoMergeWith (record other : DeviceRecord) : Bool :=
  record.hasStableMatchWith other &&
    record.lifecycle != .retired && other.lifecycle != .retired &&
    record.lifecycle != .archived && other.lifecycle != .archived

end DeviceRecord

inductive MergeDecision where
  | sameResource
  | requiresReview
  | differentResource
deriving DecidableEq, Repr

def decideMerge (left right : DeviceRecord) : MergeDecision :=
  if left.canAutoMergeWith right then
    .sameResource
  else if left.organizationId = right.organizationId ∧
      left.siteId = right.siteId ∧
      ∃ identifier ∈ left.identifiers,
        identifier.kind ∈ ([.hostname, .assetTag] : List IdentifierKind) ∧
          identifier ∈ right.identifiers then
    .requiresReview
  else
    .differentResource

end NetworkManager.Domain.Inventory
