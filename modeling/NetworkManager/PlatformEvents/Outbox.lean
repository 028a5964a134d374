import Mathlib.Data.List.Sort
import NetworkManager.Foundation.Json
import NetworkManager.Foundation.Text
import NetworkManager.Foundation.Uuid
import NetworkManager.Foundation.Table
import NetworkManager.Transaction.Calls

/-!
# The transactional outbox

Events wait in a table until a worker claims them, publishes them and marks the
outcome.  A claim counts an attempt and leases the row to the worker for some
seconds; the marks find the row by the worker that holds the lease.

`now` is the start time of the transaction that a call runs in.  A claim passes
over the rows that other transactions have locked, which are an argument of it.
-/

namespace NetworkManager.PlatformEvents

open NetworkManager.Foundation
open NetworkManager.Transaction

structure NewOutboxEvent where
  id : Uuid
  organizationId : Uuid
  aggregateType : String
  aggregateId : String
  eventType : String
  eventVersion : Int
  payload : Value
  correlationId : Uuid
deriving DecidableEq

/-- An event as a claim hands it out, with the number of the attempt. -/
structure OutboxEvent where
  event : NewOutboxEvent
  attempts : Int
deriving DecidableEq

def OutboxEvent.id (claimed : OutboxEvent) : Uuid := claimed.event.id

inductive OutboxStatus where
  | pending
  | published
  | failed
  | deadLetter
deriving DecidableEq, Repr

/-- `lease_owner` and `lease_expires_at`, which are set together. -/
structure Lease where
  owner : String
  expiresAt : Timestamp
deriving DecidableEq, Repr

structure OutboxRow where
  event : NewOutboxEvent
  occurredAt : Timestamp
  availableAt : Timestamp
  publishedAt : Option Timestamp
  attempts : Int
  lastErrorCode : Option String
  lastErrorAt : Option Timestamp
  status : OutboxStatus
  deadLetteredAt : Option Timestamp
  lease : Option Lease
deriving DecidableEq

def OutboxRow.id (row : OutboxRow) : Uuid := row.event.id

inductive DeliveryOutcome where
  | published
  | retry
  | deadLetter
deriving DecidableEq, Repr

structure DeliveryAttempt where
  eventId : Uuid
  attempt : Int
  workerId : String
  outcome : DeliveryOutcome
  errorCode : Option String
deriving DecidableEq

/-- The columns of `UNIQUE (event_id, attempt)`. -/
def DeliveryAttempt.key (record : DeliveryAttempt) : Uuid × Int :=
  (record.eventId, record.attempt)

structure OutboxDb where
  events : Table Uuid OutboxRow OutboxRow.id
  deliveries : Table (Uuid × Int) DeliveryAttempt DeliveryAttempt.key

def OutboxDb.empty : OutboxDb := ⟨.empty _, .empty _⟩

/-- What a failed delivery writes into the row. -/
inductive Failure where
  | deadLetter (errorCode : String)
  | retry (errorCode : String) (retrySeconds : Int)
deriving DecidableEq, Repr

inductive Statement where
  | insertEvent (event : NewOutboxEvent) (now : Timestamp)
  | claim (limit : Nat) (workerId : String) (leaseSeconds : Int)
      (now : Timestamp) (locked : List Uuid)
  | updatePublished (eventId : Uuid) (workerId : String) (now : Timestamp)
  | updateFailed (eventId : Uuid) (workerId : String) (failure : Failure)
      (now : Timestamp)
  | insertAttempt (record : DeliveryAttempt)
  | countBacklog

abbrev Reply : Statement → Type
  | .insertEvent _ _ => Unit
  | .claim .. => List OutboxEvent
  | .updatePublished .. => Nat
  | .updateFailed .. => Nat
  | .insertAttempt _ => Unit
  | .countBacklog => Nat

inductive Write where
  | event (row : OutboxRow)
  | delivery (record : DeliveryAttempt)

def applyWrite : Write → OutboxDb → OutboxDb
  | .event row, db => { db with events := db.events.put row }
  | .delivery record, db => { db with deliveries := db.deliveries.put record }

/-- A new row, with the defaults of its columns. -/
def newRow (event : NewOutboxEvent) (now : Timestamp) : OutboxRow where
  event
  occurredAt := now
  availableAt := now
  publishedAt := none
  attempts := 0
  lastErrorCode := none
  lastErrorAt := none
  status := .pending
  deadLetteredAt := none
  lease := none

def execInsertEvent (event : NewOutboxEvent) (now : Timestamp)
    (db : OutboxDb) : Except SqlError (Unit × List Write) :=
  if (db.events.lookup event.id).isSome then
    .error (.uniqueViolation "outbox_events_pkey")
  else if event.eventVersion ≤ 0 then
    .error (.checkViolation "outbox_events_event_version_check")
  else
    .ok ((), [.event (newRow event now)])

def isOpen : OutboxStatus → Bool
  | .pending => true
  | .failed => true
  | _ => false

def claimable (now : Timestamp) (locked : List Uuid) (row : OutboxRow) : Bool :=
  isOpen row.status && decide (row.availableAt ≤ now) &&
    row.lease.all (fun lease => decide (lease.expiresAt < now)) &&
    !locked.contains row.id

/-- `ORDER BY available_at, occurred_at, id`. -/
def claimedBefore (left right : OutboxRow) : Prop :=
  left.availableAt < right.availableAt ∨
    left.availableAt = right.availableAt ∧
      (left.occurredAt < right.occurredAt ∨
        left.occurredAt = right.occurredAt ∧ left.id ≤ right.id)

instance : DecidableRel claimedBefore := fun left right => by
  unfold claimedBefore
  infer_instance

def picked (limit : Nat) (now : Timestamp) (locked : List Uuid)
    (db : OutboxDb) : List OutboxRow :=
  ((db.events.rows.filter (claimable now locked)).insertionSort
    claimedBefore).take limit

def claimRow (workerId : String) (leaseSeconds : Int) (now : Timestamp)
    (row : OutboxRow) : OutboxRow :=
  { row with
    lease := some ⟨workerId, now + intervalSeconds leaseSeconds⟩
    attempts := row.attempts + 1
    status := .pending }

def rowToEvent (row : OutboxRow) : OutboxEvent := ⟨row.event, row.attempts⟩

/-- The largest value of type `integer`. -/
def maxInteger : Int := 2 ^ 31 - 1

def execClaim (limit : Nat) (workerId : String) (leaseSeconds : Int)
    (now : Timestamp) (locked : List Uuid) (db : OutboxDb) :
    Except SqlError (List OutboxEvent × List Write) :=
  let claimed :=
    (picked limit now locked db).map (claimRow workerId leaseSeconds now)
  if claimed.any fun row => decide (maxInteger < row.attempts) then
    .error (.other "numeric_value_out_of_range")
  else
    .ok (claimed.map rowToEvent, claimed.map .event)

/-- The row of an event, if the worker holds its lease. -/
def OutboxDb.leasedTo (db : OutboxDb) (eventId : Uuid) (workerId : String) :
    Option OutboxRow :=
  (db.events.lookup eventId).filter fun row =>
    row.lease.any fun lease => lease.owner = workerId

/-- Update the row that a condition has matched, if any. -/
def updateMatched (matched : Option OutboxRow)
    (change : OutboxRow → OutboxRow) : Nat × List Write :=
  match matched with
  | none => (0, [])
  | some row => (1, [.event (change row)])

def publishRow (now : Timestamp) (row : OutboxRow) : OutboxRow :=
  { row with
    status := .published
    publishedAt := some now
    lease := none
    lastErrorCode := none
    lastErrorAt := none }

def execUpdatePublished (eventId : Uuid) (workerId : String)
    (now : Timestamp) (db : OutboxDb) : Nat × List Write :=
  updateMatched
    ((db.leasedTo eventId workerId).filter fun row => row.status = .pending)
    (publishRow now)

def failRow (failure : Failure) (now : Timestamp) (row : OutboxRow) :
    OutboxRow :=
  match failure with
  | .deadLetter errorCode =>
      { row with
        status := .deadLetter
        deadLetteredAt := some now
        lease := none
        lastErrorCode := some errorCode
        lastErrorAt := some now }
  | .retry errorCode retrySeconds =>
      { row with
        status := .failed
        availableAt := now + intervalSeconds retrySeconds
        lease := none
        lastErrorCode := some errorCode
        lastErrorAt := some now }

def execUpdateFailed (eventId : Uuid) (workerId : String) (failure : Failure)
    (now : Timestamp) (db : OutboxDb) : Nat × List Write :=
  updateMatched (db.leasedTo eventId workerId) (failRow failure now)

def execInsertAttempt (record : DeliveryAttempt) (db : OutboxDb) :
    Except SqlError (Unit × List Write) :=
  if (db.deliveries.lookup record.key).isSome then
    .error (.uniqueViolation "outbox_delivery_attempts_event_id_attempt_key")
  else if (db.events.lookup record.eventId).isNone then
    .error (.foreignKeyViolation "outbox_delivery_attempts_event_id_fkey")
  else if record.attempt ≤ 0 then
    .error (.checkViolation "outbox_delivery_attempts_attempt_check")
  else
    .ok ((), [.delivery record])

/-- The database of the outbox. -/
abbrev outboxSql : Database where
  Statement := Statement
  Reply := Reply
  Fault := SqlError
  State := OutboxDb
  Write := Write
  apply := applyWrite
  exec
    | .insertEvent event now, db => execInsertEvent event now db
    | .claim limit workerId leaseSeconds now locked, db =>
        execClaim limit workerId leaseSeconds now locked db
    | .updatePublished eventId workerId now, db =>
        .ok (execUpdatePublished eventId workerId now db)
    | .updateFailed eventId workerId failure now, db =>
        .ok (execUpdateFailed eventId workerId failure now db)
    | .insertAttempt record, db => execInsertAttempt record db
    | .countBacklog, db =>
        .ok ((db.events.rows.filter fun row => isOpen row.status).length, [])

/-! ## The operations -/

inductive OutboxError where
  | invalidEvent
  | invalidClaim
  | invalidFailure
  | leaseLost
  | database (failure : SqlError)
deriving DecidableEq, Repr

/-- A program of the store. -/
abbrev Store (α : Type) : Type := Program outboxSql OutboxError α

def query (statement : Statement) : Store (Reply statement) :=
  Program.statement (D := outboxSql) statement .database

def commit : Store Unit := Program.commitNow .database

def NewOutboxEvent.validate (event : NewOutboxEvent) :
    Except OutboxError Unit :=
  if isBlank event.aggregateType || isBlank event.aggregateId ||
      isBlank event.eventType || decide (event.eventVersion ≤ 0) then
    .error .invalidEvent
  else
    .ok ()

/-- Enqueue within the transaction of the caller. -/
def enqueue (event : NewOutboxEvent) (now : Timestamp) : Store Unit := do
  Program.ofExcept event.validate
  query (.insertEvent event now)

theorem commitFree_enqueue (event : NewOutboxEvent) (now : Timestamp) :
    (enqueue event now).CommitFree :=
  (Program.commitFree_ofExcept _).bind fun _ =>
    Program.commitFree_statement _ _

/-- `Ord::clamp`. -/
def clamp (value low high : Int) : Int := max low (min value high)

/-- The lease is a number of whole seconds; the conversion of the clamped
number to `i32` cannot fail. -/
def claim (workerId : String) (batchSize : Int) (lease : Nat)
    (now : Timestamp) (locked : List Uuid) : Store (List OutboxEvent) := do
  Program.check (!(isBlank workerId || decide (batchSize ≤ 0))) .invalidClaim
  let claimed ←
    query (.claim (clamp batchSize 1 250).toNat workerId (clamp lease 1 300)
      now locked)
  commit
  return claimed

def markPublished (workerId : String) (event : OutboxEvent)
    (now : Timestamp) : Store Unit := do
  let updated ← query (.updatePublished event.id workerId now)
  Program.check (updated == 1) .leaseLost
  query (.insertAttempt
    { eventId := event.id
      attempt := event.attempts
      workerId
      outcome := .published
      errorCode := none })
  commit

inductive DeliveryDisposition where
  | retry
  | deadLetter
deriving DecidableEq, Repr

def markFailed (workerId : String) (event : OutboxEvent) (errorCode : String)
    (maxAttempts : Int) (retryAfter : Nat) (now : Timestamp) :
    Store DeliveryDisposition := do
  Program.check (!(isBlank errorCode || decide (maxAttempts ≤ 0)))
    .invalidFailure
  let retrySeconds := clamp retryAfter 1 3600
  let deadLetter := decide (maxAttempts ≤ event.attempts)
  let updated ←
    query (.updateFailed event.id workerId
      (if deadLetter then .deadLetter errorCode
        else .retry errorCode retrySeconds) now)
  Program.check (updated == 1) .leaseLost
  query (.insertAttempt
    { eventId := event.id
      attempt := event.attempts
      workerId
      outcome := if deadLetter then .deadLetter else .retry
      errorCode := some errorCode })
  commit
  return if deadLetter then .deadLetter else .retry

def backlog : Store Nat := query .countBacklog

end NetworkManager.PlatformEvents
