import Mathlib.Data.List.Sort
import NetworkManager.Foundation.IpAddr
import NetworkManager.Foundation.Table
import NetworkManager.Foundation.Text
import NetworkManager.Security.Audit
import NetworkManager.Transaction.Calls

/-!
# The audit store

Events are appended to one hash chain for each organization.  An append takes
the advisory lock of the chain, reads its last position, seals the event
against the hash there and inserts the row after it.  A verification reads the
chain back and recomputes every hash from the stored payloads.

The sealed columns of a row are null together: rows from before the chain have
none.
-/

namespace NetworkManager.AuditStore

open NetworkManager.Foundation
open NetworkManager.Security
open NetworkManager.Transaction

/-- The columns that `audit_sealed_fields_together` keeps together, and
`previous_hash`. -/
structure SealedColumns where
  chainSequence : Int
  canonicalPayload : Bytes
  previousHash : Option Bytes
  eventHash : Bytes
deriving DecidableEq

structure AuditRow where
  id : Uuid
  organizationId : Uuid
  siteId : Option Uuid
  actorType : AuditActorType
  actorId : Option Uuid
  sessionId : Option Uuid
  sourceIp : Option String
  requestId : Option String
  action : String
  resourceType : String
  resourceId : Option String
  correlationId : Uuid
  provider : Option String
  status : AuditStatus
  durationMs : Option Int
  reasonCode : Option String
  beforeState : Option Value
  afterState : Option Value
  result : Value
  occurredAtUnixMs : Option Int
  sealedColumns : Option SealedColumns
deriving DecidableEq

/-- The rows in the order of their insertion.  The table refuses updates and
deletions. -/
structure AuditDb where
  rows : List AuditRow

/-- A row as the verification reads it. -/
structure ChainRow where
  id : Uuid
  columns : SealedColumns
deriving DecidableEq

inductive Statement where
  | lockOrganizationChain (organizationId : Uuid)
  | selectChainHead (organizationId : Uuid)
  | insertEvent (row : AuditRow)
  | selectChain (organizationId : Uuid)

abbrev Reply : Statement → Type
  | .lockOrganizationChain _ => Unit
  | .selectChainHead _ => Option SealedColumns
  | .insertEvent _ => Unit
  | .selectChain _ => List ChainRow

/-- `row` as a part of the chain of an organization. -/
def chainRow (organizationId : Uuid) (row : AuditRow) : Option ChainRow :=
  if row.organizationId = organizationId then
    row.sealedColumns.map fun columns => ⟨row.id, columns⟩
  else
    none

def ChainRow.before (left right : ChainRow) : Prop :=
  left.columns.chainSequence ≤ right.columns.chainSequence

instance : DecidableRel ChainRow.before := fun left right =>
  inferInstanceAs (Decidable
    (left.columns.chainSequence ≤ right.columns.chainSequence))

/-- The sealed rows of an organization, `ORDER BY chain_sequence`. -/
def AuditDb.chain (db : AuditDb) (organizationId : Uuid) : List ChainRow :=
  (db.rows.filterMap (chainRow organizationId)).insertionSort ChainRow.before

/-- The row has this value in the unique index `uq_audit_event_hash`. -/
def AuditRow.hasEventHash (eventHash : Bytes) (row : AuditRow) : Bool :=
  row.sealedColumns.any fun columns => columns.eventHash == eventHash

/-- The row has these values in the unique index `uq_audit_chain_sequence`. -/
def AuditRow.hasChainSequence (organizationId : Uuid) (chainSequence : Int)
    (row : AuditRow) : Bool :=
  row.organizationId == organizationId &&
    row.sealedColumns.any fun columns => columns.chainSequence == chainSequence

def execInsertEvent (row : AuditRow) (db : AuditDb) :
    Except SqlError (Unit × List AuditRow) :=
  if db.rows.any fun stored => stored.id == row.id then
    .error (.uniqueViolation "audit_events_pkey")
  else if row.durationMs.any fun duration => decide (duration < 0) then
    .error (.checkViolation "audit_events_duration_ms_check")
  else
    match row.sealedColumns with
    | none => .ok ((), [row])
    | some columns =>
        if columns.previousHash.any fun hash => hash.length != 32 then
          .error (.checkViolation "audit_previous_hash_size")
        else if columns.eventHash.length != 32 then
          .error (.checkViolation "audit_event_hash_size")
        else if columns.chainSequence ≤ 0 ∨ row.occurredAtUnixMs = none then
          .error (.checkViolation "audit_sealed_fields_together")
        else if db.rows.any (AuditRow.hasEventHash columns.eventHash) then
          .error (.uniqueViolation "uq_audit_event_hash")
        else if db.rows.any (AuditRow.hasChainSequence row.organizationId
            columns.chainSequence) then
          .error (.uniqueViolation "uq_audit_chain_sequence")
        else
          .ok ((), [row])

/-- The database of the audit store.  Its only write adds a row. -/
abbrev auditSql : Database where
  Statement := Statement
  Reply := Reply
  Fault := SqlError
  State := AuditDb
  Write := AuditRow
  apply row db := ⟨db.rows ++ [row]⟩
  exec
    | .lockOrganizationChain _, _ => .ok ((), [])
    | .selectChainHead organizationId, db =>
        .ok ((db.chain organizationId).getLast?.map ChainRow.columns, [])
    | .insertEvent row, db => execInsertEvent row db
    | .selectChain organizationId, db => .ok (db.chain organizationId, [])

/-! ## The operations -/

inductive AuditStoreError where
  | invalidDraft
  | invalidStoredChain
  | audit (failure : AuditError)
  | json
  | database (failure : SqlError)
deriving DecidableEq, Repr

/-- A program of the store. -/
abbrev Store (α : Type) : Type := Program auditSql AuditStoreError α

def query (statement : Statement) : Store (Reply statement) :=
  Program.statement (D := auditSql) statement .database

def commit : Store Unit := Program.commitNow .database

def validateDraft (draft : AuditEventDraft) : Except AuditStoreError Unit :=
  if isBlank draft.requestId || decide (200 < draft.requestId.utf8ByteSize) ||
      isBlank draft.action || decide (200 < draft.action.utf8ByteSize) ||
      isBlank draft.resourceType ||
      decide (120 < draft.resourceType.utf8ByteSize) ||
      decide (draft.occurredAtUnixMs < 0) then
    .error .invalidDraft
  else if draft.sourceIp.any fun value => !isIpAddr value then
    .error .invalidDraft
  else
    .ok ()

/-- `i64::MAX`. -/
def maxBigint : Int := 2 ^ 63 - 1

/-- `fixed::<32>`. -/
def fixed (value : Bytes) : Except AuditStoreError (FixedBytes 32) :=
  match FixedBytes.tryFrom 32 value with
  | some hash => .ok hash
  | none => .error .invalidStoredChain

/-- `optional_fixed::<32>`. -/
def optionalFixed :
    Option Bytes → Except AuditStoreError (Option (FixedBytes 32))
  | none => .ok none
  | some value => (fixed value).map some

/-- The position after the last row of a chain. -/
def nextChainPosition :
    Option SealedColumns →
      Except AuditStoreError (Int × Option (FixedBytes 32))
  | none => .ok (1, none)
  | some columns => do
      let hash ← fixed columns.eventHash
      if maxBigint < columns.chainSequence + 1 then
        .error .invalidStoredChain
      else
        .ok (columns.chainSequence + 1, some hash)

/-- `i64::try_from(value).unwrap_or(i64::MAX)`. -/
def durationColumn (duration : Nat) : Int := min duration maxBigint

/-- The row that an append inserts. -/
def sealedRow (id : Uuid) (chainSequence : Int) (canonicalPayload : Bytes)
    (sealedEvent : SealedAuditEvent) : AuditRow where
  id
  organizationId := sealedEvent.event.organizationId
  siteId := sealedEvent.event.siteId
  actorType := sealedEvent.event.actorType
  actorId := sealedEvent.event.actorId
  sessionId := sealedEvent.event.sessionId
  sourceIp := sealedEvent.event.sourceIp
  requestId := some sealedEvent.event.requestId
  action := sealedEvent.event.action
  resourceType := sealedEvent.event.resourceType
  resourceId := sealedEvent.event.resourceId
  correlationId := sealedEvent.event.correlationId
  provider := sealedEvent.event.provider
  status := sealedEvent.event.status
  durationMs := sealedEvent.event.durationMs.map durationColumn
  reasonCode := sealedEvent.event.reasonCode
  beforeState := sealedEvent.event.before
  afterState := sealedEvent.event.after
  result := sealedEvent.event.result.getD .null
  occurredAtUnixMs := some sealedEvent.event.occurredAtUnixMs
  sealedColumns := some
    { chainSequence
      canonicalPayload
      previousHash := sealedEvent.previousHash.map FixedBytes.bytes
      eventHash := sealedEvent.eventHash.bytes }

/-- Encode the sealed event, which sealing has just encoded. -/
def toVec (library : AuditLibrary) (event : AuditEventDraft) :
    Except AuditStoreError Bytes :=
  match library.toVec event with
  | some payload => .ok payload
  | none => .error .json

def sealDraft (library : AuditLibrary) (draft : AuditEventDraft)
    (previousHash : Option (FixedBytes 32)) :
    Except AuditStoreError SealedAuditEvent :=
  (draft.seal library previousHash).mapError .audit

section Operations

variable (library : AuditLibrary)

/-- Append within the transaction of the caller.  `id` is the identifier that
the store generates for the row. -/
def appendInTx (id : Uuid) (draft : AuditEventDraft) : Store Uuid := do
  Program.ofExcept (validateDraft draft)
  query (.lockOrganizationChain draft.organizationId)
  let head ← query (.selectChainHead draft.organizationId)
  let (chainSequence, previousHash) ←
    Program.ofExcept (nextChainPosition head)
  let sealedEvent ← Program.ofExcept (sealDraft library draft previousHash)
  let canonicalPayload ← Program.ofExcept (toVec library sealedEvent.event)
  query (.insertEvent
    (sealedRow id chainSequence canonicalPayload sealedEvent))
  return id

def append (id : Uuid) (draft : AuditEventDraft) : Store Uuid := do
  let appended ← appendInTx library id draft
  commit
  return appended

inductive AuditVerification where
  | valid (checked : Nat)
  | broken (checked : Nat) (eventId : Uuid) (reason : String)
deriving DecidableEq, Repr

/-- The loop of the verification over the rows that are left. -/
def verifyRows (expectedSequence : Int)
    (expectedPrevious : Option (FixedBytes 32)) (checked : Nat) :
    List ChainRow → Except AuditStoreError AuditVerification
  | [] => .ok (.valid checked)
  | row :: rest =>
      if row.columns.chainSequence ≠ expectedSequence then
        .ok (.broken checked row.id "chain_sequence_gap")
      else do
        let storedPrevious ← optionalFixed row.columns.previousHash
        let eventHash ← fixed row.columns.eventHash
        if storedPrevious ≠ expectedPrevious then
          .ok (.broken checked row.id "previous_hash_mismatch")
        else if hashEvent library row.columns.canonicalPayload storedPrevious
            ≠ eventHash then
          .ok (.broken checked row.id "event_hash_mismatch")
        else
          match library.fromSlice row.columns.canonicalPayload with
          | none => .error .json
          | some event => do
              let verified ←
                (SealedAuditEvent.verify library
                  ⟨event, storedPrevious, eventHash⟩).mapError .audit
              if !verified then
                .ok (.broken checked row.id "canonical_payload_invalid")
              else
                verifyRows (expectedSequence + 1) (some eventHash)
                  (checked + 1) rest

def verifyOrganizationChain (organizationId : Uuid) :
    Store AuditVerification := do
  let rows ← query (.selectChain organizationId)
  Program.ofExcept (verifyRows library 1 none 0 rows)

end Operations

end NetworkManager.AuditStore
