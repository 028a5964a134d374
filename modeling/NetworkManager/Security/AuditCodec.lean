import NetworkManager.Foundation.JsonMaps
import NetworkManager.Security.Audit

/-!
# The JSON form of audit drafts

A draft is written as an object with its fields in the order of their
declaration, an absent field as `null`.  Reading an object takes a missing
field and a `null` for an absent one, ignores what it does not know and refuses
a field that is given twice.

`readDraft_writeDraft` says what is read back: nothing when a JSON field is
nested too deeply, and otherwise the draft, where a `null` in a JSON field has
become an absent one.  It is written the same.
-/

namespace NetworkManager.Security

open NetworkManager.Foundation
open NetworkManager.Foundation.JsonText

section Fields

variable {α : Type}

/-- An absent field is written as `null`. -/
def optionalValue (write : α → Value) : Option α → Value
  | none => .null
  | some field => write field

/-- Read a field that has to be there. -/
def requiredField (members : List (String × Value)) (name : String)
    (read : Value → Option α) : Option α :=
  match members.filter fun member => member.1 = name with
  | [(_, value)] => read value
  | _ => none

/-- Read a field that may be absent. -/
def optionalField (members : List (String × Value)) (name : String)
    (read : Value → Option α) : Option (Option α) :=
  match members.filter fun member => member.1 = name with
  | [] => some none
  | [(_, .null)] => some none
  | [(_, value)] => (read value).map some
  | _ => none

private theorem filter_eq_singleton
    {members : List (String × Value)} {name : String}
    {value : Value} (distinct : (members.map Prod.fst).Nodup)
    (member : (name, value) ∈ members) :
    members.filter (fun member => member.1 = name) = [(name, value)] := by
  induction members with
  | nil => cases member
  | cons first members inductionHypothesis =>
      rw [List.map_cons, List.nodup_cons] at distinct
      obtain ⟨notLater, distinctLater⟩ := distinct
      rcases List.mem_cons.mp member with rfl | later
      · have noOther : members.filter (fun member => member.1 = name) = [] := by
          rw [List.filter_eq_nil_iff]
          intro other isOther same
          exact notLater (List.mem_map.mpr ⟨other, isOther, by simpa using same⟩)
        simp [noOther]
      · have isOther : first.1 ≠ name := by
          intro same
          exact notLater (List.mem_map.mpr ⟨_, later, same.symm⟩)
        rw [List.filter_cons_of_neg (by simpa using isOther)]
        exact inductionHypothesis distinctLater later

theorem requiredField_eq {members : List (String × Value)} {name : String}
    {value : Value} {read : Value → Option α} {field : α}
    (distinct : (members.map Prod.fst).Nodup)
    (member : (name, value) ∈ members) (isRead : read value = some field) :
    requiredField members name read = some field := by
  rw [requiredField, filter_eq_singleton distinct member]
  exact isRead

theorem optionalField_eq {members : List (String × Value)} {name : String}
    {write : α → Value} {read : Value → Option α} {field : Option α}
    (distinct : (members.map Prod.fst).Nodup)
    (member : (name, optionalValue write field) ∈ members)
    (isRead : ∀ value ∈ field,
      write value ≠ .null ∧ read (write value) = some value) :
    optionalField members name read = some field := by
  rw [optionalField, filter_eq_singleton distinct member]
  cases field with
  | none => rfl
  | some value =>
      obtain ⟨notNull, readBack⟩ := isRead value rfl
      simp only [optionalValue]
      generalize write value = written at notNull readBack
      cases written with
      | null => exact absurd rfl notNull
      | _ => simp only [readBack, Option.map_some]

end Fields

/-- `status_str`, which is also the form in JSON. -/
def statusStr : AuditStatus → String
  | .succeeded => "succeeded"
  | .failed => "failed"
  | .denied => "denied"
  | .partiallySucceeded => "partial"
  | .unknown => "unknown"
  | .cancelled => "cancelled"

def uuidValue (uuid : Uuid) : Value := .string uuid.text

def integerValue (value : Int) : Value := .number (.integer value)

def naturalValue (value : Nat) : Value := integerValue value

namespace AuditEventDraft

/-- The members of the object, under the names in camel case. -/
def members (draft : AuditEventDraft) : List (String × Value) :=
  [("organizationId", uuidValue draft.organizationId),
    ("siteId", optionalValue uuidValue draft.siteId),
    ("actorType", .string draft.actorType.asStr),
    ("actorId", optionalValue uuidValue draft.actorId),
    ("sessionId", optionalValue uuidValue draft.sessionId),
    ("sourceIp", optionalValue .string draft.sourceIp),
    ("requestId", .string draft.requestId),
    ("correlationId", uuidValue draft.correlationId),
    ("action", .string draft.action),
    ("resourceType", .string draft.resourceType),
    ("resourceId", optionalValue .string draft.resourceId),
    ("provider", optionalValue .string draft.provider),
    ("occurredAtUnixMs", integerValue draft.occurredAtUnixMs),
    ("durationMs", optionalValue naturalValue draft.durationMs),
    ("status", .string (statusStr draft.status)),
    ("reasonCode", optionalValue .string draft.reasonCode),
    ("before", optionalValue id draft.before),
    ("after", optionalValue id draft.after),
    ("result", optionalValue id draft.result)]

end AuditEventDraft

/-- `serde_json::to_vec` of a draft. -/
def writeDraft (draft : AuditEventDraft) : Bytes :=
  utf8Bytes (String.ofList (write (.object draft.members)))

/-! ## Reading -/

def readUuid : Value → Option Uuid
  | .string text => Uuid.parse text
  | _ => none

def readText : Value → Option String
  | .string text => some text
  | _ => none

/-- An integer within the bounds of its type. -/
def readInteger (least most : Int) : Value → Option Int
  | .number (.integer value) =>
      if least ≤ value ∧ value ≤ most then some value else none
  | _ => none

def readNatural (most : Int) (value : Value) : Option Nat :=
  (readInteger 0 most value).map Int.toNat

def readActorType : Value → Option AuditActorType
  | .string text =>
      [.user, .serviceAccount, .system].find? fun actorType =>
        AuditActorType.asStr actorType = text
  | _ => none

def readStatus : Value → Option AuditStatus
  | .string text =>
      [.succeeded, .failed, .denied, .partiallySucceeded, .unknown,
        .cancelled].find? fun status => statusStr status = text
  | _ => none

/-- A `serde_json::Value`. -/
def readValueField (value : Value) : Option Value := some (collect value)

/-- The draft that the members of an object give. -/
def draftOfMembers (members : List (String × Value)) :
    Option AuditEventDraft := do
  let organizationId ← requiredField members "organizationId" readUuid
  let siteId ← optionalField members "siteId" readUuid
  let actorType ← requiredField members "actorType" readActorType
  let actorId ← optionalField members "actorId" readUuid
  let sessionId ← optionalField members "sessionId" readUuid
  let sourceIp ← optionalField members "sourceIp" readText
  let requestId ← requiredField members "requestId" readText
  let correlationId ← requiredField members "correlationId" readUuid
  let action ← requiredField members "action" readText
  let resourceType ← requiredField members "resourceType" readText
  let resourceId ← optionalField members "resourceId" readText
  let provider ← optionalField members "provider" readText
  let occurredAtUnixMs ← requiredField members "occurredAtUnixMs"
    (readInteger (-2 ^ 63) (2 ^ 63 - 1))
  let durationMs ← optionalField members "durationMs"
    (readNatural (2 ^ 64 - 1))
  let status ← requiredField members "status" readStatus
  let reasonCode ← optionalField members "reasonCode" readText
  let before ← optionalField members "before" readValueField
  let after ← optionalField members "after" readValueField
  let result ← optionalField members "result" readValueField
  return {
    organizationId, siteId, actorType, actorId, sessionId, sourceIp, requestId,
    correlationId, action, resourceType, resourceId, provider,
    occurredAtUnixMs, durationMs, status, reasonCode, before, after, result }

/-- The limit of `serde_json` on the containers that are open. -/
def recursionLimit : Nat := 128

/-- `serde_json::from_slice` of a draft. -/
def readDraft (payload : Bytes) : Option AuditEventDraft := do
  let text ← fromUtf8 payload
  match readDocument recursionLimit text.toList with
  | some (.object members) => draftOfMembers members
  | _ => none

namespace AuditEventDraft

/-- The types of the fields can hold the draft, and no number is a double. -/
structure Representable (draft : AuditEventDraft) : Prop where
  occurredAt : -2 ^ 63 ≤ draft.occurredAtUnixMs ∧
    draft.occurredAtUnixMs ≤ 2 ^ 63 - 1
  duration : ∀ duration ∈ draft.durationMs, duration < 2 ^ 64
  numbers : ∀ field, ∀ value ∈ draft.payload field, NumbersFit value
  maps : ∀ field, ∀ value ∈ draft.payload field, KeysAscend value

theorem Representable.sanitize {draft : AuditEventDraft}
    (representable : draft.Representable) : draft.sanitize.Representable where
  occurredAt := representable.occurredAt
  duration := representable.duration
  numbers := by
    intro field value present
    rw [payload_sanitize] at present
    obtain ⟨given, isGiven, rfl⟩ := Option.mem_map.mp present
    exact numbersFit_maskKeys given (representable.numbers field given isGiven)
  maps := by
    intro field value present
    rw [payload_sanitize] at present
    obtain ⟨given, isGiven, rfl⟩ := Option.mem_map.mp present
    exact keysAscend_maskKeys given (representable.maps field given isGiven)

/-- The JSON fields that are `null` are absent. -/
def withoutNulls (draft : AuditEventDraft) : AuditEventDraft :=
  { draft with
    before := draft.before.filter fun value => value ≠ .null
    after := draft.after.filter fun value => value ≠ .null
    result := draft.result.filter fun value => value ≠ .null }

@[simp]
theorem payload_withoutNulls (draft : AuditEventDraft) (field : Payload) :
    draft.withoutNulls.payload field =
      (draft.payload field).filter fun value => value ≠ .null := by
  cases field <;> rfl

theorem Representable.withoutNulls {draft : AuditEventDraft}
    (representable : draft.Representable) :
    draft.withoutNulls.Representable where
  occurredAt := representable.occurredAt
  duration := representable.duration
  numbers := by
    intro field value present
    rw [payload_withoutNulls, Option.mem_filter_iff] at present
    exact representable.numbers field value present.1
  maps := by
    intro field value present
    rw [payload_withoutNulls, Option.mem_filter_iff] at present
    exact representable.maps field value present.1

private theorem optionalValue_filter (field : Option Value) :
    optionalValue id (field.filter fun value => value ≠ .null) =
      optionalValue id field := by
  cases field with
  | none => rfl
  | some value =>
      by_cases isNull : value = .null
      · rw [isNull]
        rfl
      · simp [Option.filter, isNull]

/-- An absent field and one that is `null` are written the same. -/
theorem members_withoutNulls (draft : AuditEventDraft) :
    draft.withoutNulls.members = draft.members := by
  simp only [members, withoutNulls, optionalValue_filter]

private theorem map_sanitizeJson_filter (field : Option Value) :
    ((field.map sanitizeJson).filter fun value => value ≠ .null).map
        sanitizeJson =
      (field.map sanitizeJson).filter fun value => value ≠ .null := by
  cases field with
  | none => rfl
  | some value =>
      by_cases isNull : sanitizeJson value = .null
      · simp [Option.filter, isNull]
      · simp [Option.filter, isNull, sanitizeJson_sanitizeJson]

/-- What is read back from a sanitized draft is sanitized. -/
theorem sanitize_withoutNulls (draft : AuditEventDraft) :
    draft.sanitize.withoutNulls.sanitize = draft.sanitize.withoutNulls := by
  simp only [sanitize, withoutNulls, map_sanitizeJson_filter]

private theorem nodup_names (draft : AuditEventDraft) :
    (draft.members.map Prod.fst).Nodup := by
  simp [members]

end AuditEventDraft

private theorem readActorType_asStr (actorType : AuditActorType) :
    readActorType (.string actorType.asStr) = some actorType := by
  cases actorType <;> decide

private theorem readStatus_statusStr (status : AuditStatus) :
    readStatus (.string (statusStr status)) = some status := by
  cases status <;> decide

private theorem readUuid_uuidValue (uuid : Uuid) :
    readUuid (uuidValue uuid) = some uuid :=
  Uuid.parse_text uuid

private theorem optionalField_uuid
    {members : List (String × Value)} {name : String}
    {field : Option Uuid} (distinct : (members.map Prod.fst).Nodup)
    (member : (name, optionalValue uuidValue field) ∈ members) :
    optionalField members name readUuid = some field :=
  optionalField_eq distinct member fun uuid _ =>
    ⟨by simp [uuidValue], readUuid_uuidValue uuid⟩

private theorem optionalField_text
    {members : List (String × Value)} {name : String}
    {field : Option String} (distinct : (members.map Prod.fst).Nodup)
    (member : (name, optionalValue .string field) ∈ members) :
    optionalField members name readText = some field :=
  optionalField_eq distinct member fun text _ => ⟨by simp, rfl⟩

private theorem optionalField_natural {members : List (String × Value)}
    {name : String} {most : Int} {field : Option Nat}
    (distinct : (members.map Prod.fst).Nodup)
    (bounded : ∀ value ∈ field, (value : Int) ≤ most)
    (member : (name, optionalValue naturalValue field) ∈ members) :
    optionalField members name (readNatural most) = some field := by
  refine optionalField_eq distinct member fun value present => ?_
  have inRange : (0 : Int) ≤ value ∧ (value : Int) ≤ most :=
    ⟨by omega, bounded value present⟩
  refine ⟨by simp [naturalValue, integerValue], ?_⟩
  rw [naturalValue, integerValue, readNatural, readInteger, if_pos inRange]
  rfl

private theorem optionalField_value
    {members : List (String × Value)} {name : String}
    {field : Option Value} (distinct : (members.map Prod.fst).Nodup)
    (ascend : ∀ value ∈ field, KeysAscend value)
    (member : (name, optionalValue id field) ∈ members) :
    optionalField members name readValueField =
      some (field.filter fun value => value ≠ .null) := by
  rw [← AuditEventDraft.optionalValue_filter] at member
  refine optionalField_eq distinct member fun value present => ?_
  rw [Option.mem_filter_iff, decide_eq_true_eq] at present
  obtain ⟨isGiven, notNull⟩ := present
  refine ⟨notNull, ?_⟩
  rw [readValueField, id, collect_eq_self value (ascend value isGiven)]

/-- The members of a draft give the draft. -/
theorem draftOfMembers_members {draft : AuditEventDraft}
    (representable : draft.Representable) :
    draftOfMembers draft.members = some draft.withoutNulls := by
  have distinct := draft.nodup_names
  have organizationId : requiredField draft.members "organizationId" readUuid =
      some draft.organizationId :=
    requiredField_eq distinct (by simp [AuditEventDraft.members])
      (readUuid_uuidValue _)
  have siteId : optionalField draft.members "siteId" readUuid =
      some draft.siteId :=
    optionalField_uuid distinct (by simp [AuditEventDraft.members])
  have actorType : requiredField draft.members "actorType" readActorType =
      some draft.actorType :=
    requiredField_eq distinct (by simp [AuditEventDraft.members])
      (readActorType_asStr _)
  have actorId : optionalField draft.members "actorId" readUuid =
      some draft.actorId :=
    optionalField_uuid distinct (by simp [AuditEventDraft.members])
  have sessionId : optionalField draft.members "sessionId" readUuid =
      some draft.sessionId :=
    optionalField_uuid distinct (by simp [AuditEventDraft.members])
  have sourceIp : optionalField draft.members "sourceIp" readText =
      some draft.sourceIp :=
    optionalField_text distinct (by simp [AuditEventDraft.members])
  have requestId : requiredField draft.members "requestId" readText =
      some draft.requestId :=
    requiredField_eq distinct (by simp [AuditEventDraft.members]; rfl) rfl
  have correlationId : requiredField draft.members "correlationId" readUuid =
      some draft.correlationId :=
    requiredField_eq distinct (by simp [AuditEventDraft.members])
      (readUuid_uuidValue _)
  have action : requiredField draft.members "action" readText =
      some draft.action :=
    requiredField_eq distinct (by simp [AuditEventDraft.members]; rfl) rfl
  have resourceType : requiredField draft.members "resourceType" readText =
      some draft.resourceType :=
    requiredField_eq distinct (by simp [AuditEventDraft.members]; rfl) rfl
  have resourceId : optionalField draft.members "resourceId" readText =
      some draft.resourceId :=
    optionalField_text distinct (by simp [AuditEventDraft.members])
  have provider : optionalField draft.members "provider" readText =
      some draft.provider :=
    optionalField_text distinct (by simp [AuditEventDraft.members])
  have occurredAtUnixMs : requiredField draft.members "occurredAtUnixMs"
      (readInteger (-2 ^ 63) (2 ^ 63 - 1)) = some draft.occurredAtUnixMs := by
    apply requiredField_eq distinct (by simp [AuditEventDraft.members]; rfl)
    rw [integerValue, readInteger, if_pos representable.occurredAt]
  have durationMs : optionalField draft.members "durationMs"
      (readNatural (2 ^ 64 - 1)) = some draft.durationMs := by
    apply optionalField_natural distinct _ (by simp [AuditEventDraft.members])
    intro duration present
    have bound := representable.duration duration present
    omega
  have status : requiredField draft.members "status" readStatus =
      some draft.status :=
    requiredField_eq distinct (by simp [AuditEventDraft.members])
      (readStatus_statusStr _)
  have reasonCode : optionalField draft.members "reasonCode" readText =
      some draft.reasonCode :=
    optionalField_text distinct (by simp [AuditEventDraft.members])
  have before : optionalField draft.members "before" readValueField =
      some (draft.before.filter fun value => value ≠ .null) :=
    optionalField_value distinct (representable.maps .before)
      (by simp [AuditEventDraft.members])
  have after : optionalField draft.members "after" readValueField =
      some (draft.after.filter fun value => value ≠ .null) :=
    optionalField_value distinct (representable.maps .after)
      (by simp [AuditEventDraft.members])
  have result : optionalField draft.members "result" readValueField =
      some (draft.result.filter fun value => value ≠ .null) :=
    optionalField_value distinct (representable.maps .result)
      (by simp [AuditEventDraft.members])
  simp only [draftOfMembers, bind, Option.bind_some, organizationId, siteId,
    actorType, actorId, sessionId, sourceIp, requestId, correlationId, action,
    resourceType, resourceId, provider, occurredAtUnixMs, durationMs, status,
    reasonCode, before, after, result]
  rfl

section Nesting

variable {α : Type} {write : α → Value}

theorem nesting_optionalValue (flat : ∀ value, nesting (write value) = 0)
    (field : Option α) : nesting (optionalValue write field) = 0 := by
  cases field with
  | none => rfl
  | some value => exact flat value

theorem numbersFit_optionalValue {field : Option α}
    (fits : ∀ value ∈ field, NumbersFit (write value)) :
    NumbersFit (optionalValue write field) := by
  cases field with
  | none => trivial
  | some value => exact fits value rfl

private theorem nesting_optionalValue_le {field : Option Value} {depth : Nat} :
    nesting (optionalValue id field) ≤ depth ↔
      ∀ value ∈ field, nesting value ≤ depth := by
  cases field with
  | none => simp [optionalValue, nesting]
  | some value => simp [optionalValue]

end Nesting

namespace AuditEventDraft

/-- The deepest nesting of the JSON fields is at most this. -/
def NestedAtMost (draft : AuditEventDraft) (depth : Nat) : Prop :=
  ∀ field, ∀ value ∈ draft.payload field, nesting value ≤ depth

private theorem nestedAtMost_iff (draft : AuditEventDraft) (depth : Nat) :
    draft.NestedAtMost depth ↔ nestingMembers draft.members ≤ depth := by
  have flatUuid : ∀ uuid, nesting (uuidValue uuid) = 0 := fun _ => rfl
  have flatText : ∀ text, nesting (.string text) = 0 := fun _ => rfl
  have flatNatural : ∀ value, nesting (naturalValue value) = 0 := fun _ => rfl
  have deepest : nestingMembers draft.members =
      max (nesting (optionalValue id draft.before))
        (max (nesting (optionalValue id draft.after))
          (nesting (optionalValue id draft.result))) := by
    simp only [members, nestingMembers, flatUuid, flatText,
      nesting_optionalValue flatUuid, nesting_optionalValue flatText,
      nesting_optionalValue flatNatural, Nat.zero_max, Nat.max_zero]
    rfl
  rw [deepest, Nat.max_le, Nat.max_le, nesting_optionalValue_le,
    nesting_optionalValue_le, nesting_optionalValue_le]
  constructor
  · intro shallow
    exact ⟨shallow .before, shallow .after, shallow .result⟩
  · rintro ⟨before, after, result⟩ field
    cases field with
    | before => exact before
    | after => exact after
    | result => exact result

instance (draft : AuditEventDraft) (depth : Nat) :
    Decidable (draft.NestedAtMost depth) :=
  decidable_of_iff _ (nestedAtMost_iff draft depth).symm

private theorem Representable.membersFit {draft : AuditEventDraft}
    (representable : draft.Representable) : MembersFit draft.members := by
  have payloadFits : ∀ field,
      NumbersFit (optionalValue id (draft.payload field)) := fun field =>
    numbersFit_optionalValue (representable.numbers field)
  have uuidFits : ∀ field, NumbersFit (optionalValue uuidValue field) :=
    fun _ => numbersFit_optionalValue fun _ _ => trivial
  have textFits : ∀ field, NumbersFit (optionalValue .string field) :=
    fun _ => numbersFit_optionalValue fun _ _ => trivial
  have occurredFits : NumbersFit (integerValue draft.occurredAtUnixMs) := by
    have bounds := representable.occurredAt
    simp only [integerValue, NumbersFit, NumberFits]
    omega
  have durationFits :
      NumbersFit (optionalValue naturalValue draft.durationMs) := by
    refine numbersFit_optionalValue fun duration present => ?_
    have bound := representable.duration duration present
    simp only [naturalValue, integerValue, NumbersFit, NumberFits]
    omega
  exact ⟨trivial, uuidFits _, trivial, uuidFits _, uuidFits _, textFits _,
    trivial, trivial, trivial, trivial, textFits _, textFits _, occurredFits,
    durationFits, trivial, textFits _, payloadFits .before, payloadFits .after,
    payloadFits .result, trivial⟩

end AuditEventDraft

/-- The containers around a JSON field and the field's own stay below the
limit. -/
def payloadDepth : Nat := recursionLimit - 2

/-- What is read back from a draft. -/
theorem readDraft_writeDraft {draft : AuditEventDraft}
    (representable : draft.Representable) :
    readDraft (writeDraft draft) =
      if draft.NestedAtMost payloadDepth then some draft.withoutNulls
      else none := by
  have decoded : fromUtf8 (writeDraft draft) =
      some (String.ofList (write (.object draft.members))) :=
    fromUtf8_eq_some_iff.mpr rfl
  have read := @readDocument_write (.object draft.members) recursionLimit
    representable.membersFit (by decide)
  have sameDepth : nesting (.object draft.members) < recursionLimit ↔
      draft.NestedAtMost payloadDepth := by
    rw [AuditEventDraft.nestedAtMost_iff]
    simp only [nesting, recursionLimit, payloadDepth]
    omega
  rw [readDraft, decoded]
  simp only [bind, Option.bind_some, String.toList_ofList, read, sameDepth]
  by_cases shallow : draft.NestedAtMost payloadDepth
  · rw [if_pos shallow, if_pos shallow]
    exact draftOfMembers_members representable
  · rw [if_neg shallow, if_neg shallow]

end NetworkManager.Security
