import NetworkManager.Foundation.Bytes
import NetworkManager.Foundation.Json
import NetworkManager.Foundation.Text
import NetworkManager.Foundation.Uuid

/-!
# Audit events

A draft is what a caller reports.  Sealing it hides the values of its three JSON
fields that stand under sensitive keys, by the rule of the data governance, and
binds the result to the hash of the event before it.
-/

namespace NetworkManager.Domain.Governance

open NetworkManager.Foundation

/-- What stands in the place of a hidden value. -/
def redacted : String := "[REDACTED]"

/-- The words whose occurrence in a key makes its value sensitive. -/
def sensitiveWords : List String :=
  ["password", "secret", "token", "community", "private_key",
    "refresh_token", "authorization", "cookie"]

def redactValue (key value : String) : String :=
  let key := toAsciiLowercase key
  if sensitiveWords.any (containsText key) then redacted else value

/-- A sensitive word occurs, unbroken, in the lower-case spelling of the
key. -/
def MentionsSensitiveWord (key : String) : Prop :=
  ∃ word ∈ sensitiveWords, word.toList <:+: key.toList.map Char.toLower

private theorem any_sensitiveWords_iff (key : String) :
    sensitiveWords.any (containsText (toAsciiLowercase key)) = true ↔
      MentionsSensitiveWord key := by
  simp only [List.any_eq_true, containsText_iff, toList_toAsciiLowercase,
    MentionsSensitiveWord]

instance (key : String) : Decidable (MentionsSensitiveWord key) :=
  decidable_of_iff _ (any_sensitiveWords_iff key)

theorem redactValue_eq (key value : String) :
    redactValue key value =
      if MentionsSensitiveWord key then redacted else value := by
  by_cases mentioned : MentionsSensitiveWord key
  · rw [redactValue, if_pos ((any_sensitiveWords_iff key).mpr mentioned),
      if_pos mentioned]
  · rw [redactValue, if_neg mentioned]
    exact if_neg fun found => mentioned ((any_sensitiveWords_iff key).mp found)

/-- A value other than the marker is hidden exactly under the keys that mention
a sensitive word. -/
theorem redactValue_eq_redacted_iff {key value : String}
    (notMarker : value ≠ redacted) :
    redactValue key value = redacted ↔ MentionsSensitiveWord key := by
  rw [redactValue_eq]
  by_cases mentioned : MentionsSensitiveWord key
  · simp [mentioned]
  · simp [mentioned, notMarker]

end NetworkManager.Domain.Governance

namespace NetworkManager.Security

open NetworkManager.Foundation
open NetworkManager.Domain.Governance

inductive AuditActorType where
  | user
  | serviceAccount
  | system
deriving DecidableEq, Repr

def AuditActorType.asStr : AuditActorType → String
  | .user => "user"
  | .serviceAccount => "service_account"
  | .system => "system"

inductive AuditStatus where
  | succeeded
  | failed
  | denied
  | partiallySucceeded
  | unknown
  | cancelled
deriving DecidableEq, Repr

structure AuditEventDraft where
  organizationId : Uuid
  siteId : Option Uuid
  actorType : AuditActorType
  actorId : Option Uuid
  sessionId : Option Uuid
  sourceIp : Option String
  requestId : String
  correlationId : Uuid
  action : String
  resourceType : String
  resourceId : Option String
  provider : Option String
  occurredAtUnixMs : Int
  durationMs : Option Nat
  status : AuditStatus
  reasonCode : Option String
  before : Option Value
  after : Option Value
  result : Option Value
deriving DecidableEq

/-- Hide the value of every member whose key is sensitive, at any depth. -/
def sanitizeJson (value : Value) : Value :=
  value.maskKeys redacted fun key =>
    redactValue key "SNM-SENTINEL" == redacted

/-- The three fields of a draft that hold JSON. -/
inductive Payload where
  | before
  | after
  | result
deriving DecidableEq, Repr

namespace AuditEventDraft

def payload (draft : AuditEventDraft) : Payload → Option Value
  | .before => draft.before
  | .after => draft.after
  | .result => draft.result

def sanitize (draft : AuditEventDraft) : AuditEventDraft :=
  { draft with
    before := draft.before.map sanitizeJson
    after := draft.after.map sanitizeJson
    result := draft.result.map sanitizeJson }

@[simp]
theorem payload_sanitize (draft : AuditEventDraft) (field : Payload) :
    draft.sanitize.payload field = (draft.payload field).map sanitizeJson := by
  cases field <;> rfl

theorem sanitizeJson_sanitizeJson (value : Value) :
    sanitizeJson (sanitizeJson value) = sanitizeJson value :=
  Value.maskKeys_maskKeys value

private theorem map_sanitizeJson_twice (field : Option Value) :
    (field.map sanitizeJson).map sanitizeJson = field.map sanitizeJson := by
  cases field with
  | none => rfl
  | some value => exact congrArg some (sanitizeJson_sanitizeJson value)

@[simp]
theorem sanitize_sanitize (draft : AuditEventDraft) :
    draft.sanitize.sanitize = draft.sanitize := by
  simp only [sanitize, map_sanitizeJson_twice]

end AuditEventDraft

/-- The JSON codec of drafts and the hash function. -/
structure AuditLibrary where
  /-- `serde_json::to_vec`. -/
  toVec : AuditEventDraft → Option Bytes
  /-- `serde_json::from_slice`. -/
  fromSlice : Bytes → Option AuditEventDraft
  /-- SHA-256. -/
  sha256 : Bytes → FixedBytes 32

inductive AuditError where
  | serializationFailed
deriving DecidableEq, Repr

structure SealedAuditEvent where
  event : AuditEventDraft
  previousHash : Option (FixedBytes 32)
  eventHash : FixedBytes 32
deriving DecidableEq

/-- The bytes of `b"snm:audit:v1\0"`. -/
def auditDomain : Bytes :=
  utf8Bytes "snm:audit:v1" ++ [0]

/-- The hash that binds a payload to the hash before it. -/
def hashEvent (library : AuditLibrary) (canonicalPayload : Bytes)
    (previousHash : Option (FixedBytes 32)) : FixedBytes 32 :=
  library.sha256
    (auditDomain ++ (previousHash.elim [] FixedBytes.bytes ++ canonicalPayload))

def AuditEventDraft.seal (library : AuditLibrary) (draft : AuditEventDraft)
    (previousHash : Option (FixedBytes 32)) :
    Except AuditError SealedAuditEvent :=
  let sanitized := draft.sanitize
  match library.toVec sanitized with
  | none => .error .serializationFailed
  | some payload =>
      .ok
        { event := sanitized
          previousHash
          eventHash := hashEvent library payload previousHash }

def SealedAuditEvent.verify (library : AuditLibrary)
    (sealedEvent : SealedAuditEvent) : Except AuditError Bool :=
  match sealedEvent.event.seal library sealedEvent.previousHash with
  | .error failure => .error failure
  | .ok recomputed =>
      .ok (decide (recomputed.eventHash = sealedEvent.eventHash))

theorem AuditEventDraft.seal_eq_ok_iff {library : AuditLibrary}
    {draft : AuditEventDraft} {previousHash : Option (FixedBytes 32)}
    {sealedEvent : SealedAuditEvent} :
    draft.seal library previousHash = .ok sealedEvent ↔
      ∃ payload, library.toVec draft.sanitize = some payload ∧
        sealedEvent =
          ⟨draft.sanitize, previousHash,
            hashEvent library payload previousHash⟩ := by
  rw [AuditEventDraft.seal]
  cases encoded : library.toVec draft.sanitize with
  | none => simp
  | some payload => simp [eq_comm]

theorem SealedAuditEvent.verify_eq_ok_true_iff {library : AuditLibrary}
    {event : AuditEventDraft} {previous : Option (FixedBytes 32)}
    {hash : FixedBytes 32} :
    SealedAuditEvent.verify library ⟨event, previous, hash⟩ = .ok true ↔
      ∃ encoded, library.toVec event.sanitize = some encoded ∧
        hashEvent library encoded previous = hash := by
  rw [verify, AuditEventDraft.seal]
  cases encoded : library.toVec event.sanitize with
  | none => simp
  | some payload => simp

end NetworkManager.Security
