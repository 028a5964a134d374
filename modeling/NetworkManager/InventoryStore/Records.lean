import NetworkManager.InventoryStore.Reconciliation

/-!
# Every change of a device is recorded

The version of a device counts the mutations of it: each has left one audit
event and one outbox event, in the transaction that raised the version.
-/

namespace NetworkManager.InventoryStore

open NetworkManager.Foundation
open NetworkManager.Security
open NetworkManager.Transaction

/-- The audit row is of a successful change of a device. -/
def audits (deviceId : Uuid) (row : AuditStore.AuditRow) : Bool :=
  row.resourceType == "device" && row.resourceId == some deviceId.text &&
    row.status == .succeeded

/-- The outbox row announces a change of a device. -/
def announces (deviceId : Uuid) (row : PlatformEvents.OutboxRow) : Bool :=
  row.event.aggregateType == "device" &&
    row.event.aggregateId == deviceId.text

namespace InventoryDb

def auditCount (db : InventoryDb) (deviceId : Uuid) : Nat :=
  db.audit.rows.countP (audits deviceId)

def outboxCount (db : InventoryDb) (deviceId : Uuid) : Nat :=
  db.outbox.events.rows.countP (announces deviceId)

/-- The version of a device, or zero before there is one. -/
def versionOf (db : InventoryDb) (deviceId : Uuid) : Int :=
  (db.devices.lookup deviceId).elim 0 DeviceView.version

/-- No device has been stored or recorded yet. -/
structure IsUnrecorded (db : InventoryDb) : Prop where
  isEmpty : db.IsEmpty
  audit : ∀ row ∈ db.audit.rows, row.resourceType ≠ "device"
  outbox : ∀ row ∈ db.outbox.events.rows, row.event.aggregateType ≠ "device"

/-- Versions count records. -/
def Recorded (db : InventoryDb) : Prop :=
  ∀ deviceId, db.versionOf deviceId = db.auditCount deviceId ∧
    db.versionOf deviceId = db.outboxCount deviceId

end InventoryDb

private theorem InventoryDb.IsUnrecorded.recorded {db : InventoryDb}
    (isUnrecorded : db.IsUnrecorded) : db.Recorded := by
  intro deviceId
  have noDevice : db.versionOf deviceId = 0 := by
    simp [InventoryDb.versionOf, Table.lookup, isUnrecorded.isEmpty.devices]
  have noAudit : db.auditCount deviceId = 0 := by
    apply List.countP_eq_zero.mpr
    intro row member
    simp [audits, isUnrecorded.audit row member]
  have noOutbox : db.outboxCount deviceId = 0 := by
    apply List.countP_eq_zero.mpr
    intro row member
    simp [announces, isUnrecorded.outbox row member]
  rw [noDevice, noAudit, noOutbox]
  exact ⟨rfl, rfl⟩

section Mutations

variable {context : MutationContext} {generated : Generated}
  {device : DeviceView}

theorem AuditRecord.audits_iff {row : AuditStore.AuditRow}
    (record : AuditRecord context generated device row) (deviceId : Uuid) :
    audits deviceId row = true ↔ device.id = deviceId := by
  rcases record with
    ⟨action, before, after, chainSequence, payload, sealedEvent, isEvent, rfl⟩
  have ofDevice : (AuditStore.sealedRow generated.auditId chainSequence payload
      sealedEvent).resourceId = some device.id.text := by
    rw [AuditStore.sealedRow, isEvent]
    rfl
  have typed : (AuditStore.sealedRow generated.auditId chainSequence payload
      sealedEvent).resourceType = "device" := by
    rw [AuditStore.sealedRow, isEvent]
    rfl
  have succeeded : (AuditStore.sealedRow generated.auditId chainSequence
      payload sealedEvent).status = .succeeded := by
    rw [AuditStore.sealedRow, isEvent]
    rfl
  simp [audits, ofDevice, typed, succeeded, Uuid.text_injective.eq_iff]

theorem OutboxRecord.announces_iff {row : PlatformEvents.OutboxRow}
    (record : OutboxRecord context generated device row) (deviceId : Uuid) :
    announces deviceId row = true ↔ device.id = deviceId := by
  rcases record with ⟨eventType, after, rfl⟩
  simp [announces, PlatformEvents.newRow, mutationEvent,
    Uuid.text_injective.eq_iff]

theorem OutboxRecord.id_eq {row : PlatformEvents.OutboxRow}
    (record : OutboxRecord context generated device row) :
    row.id = generated.outboxId := by
  rcases record with ⟨eventType, after, rfl⟩
  rfl

/-- Each change raises the version of its device by one. -/
theorem Makes.version_eq {db : InventoryDb} {call : InventoryCall}
    {change : Change} (makes : Makes db call change) :
    change.device.version = db.versionOf change.device.id + 1 := by
  have known : ∀ {scope : Scope} {current : DeviceView},
      db.deviceIn scope current.id = some current →
      db.versionOf current.id = current.version := by
    intro scope current found
    rw [InventoryDb.versionOf, (deviceIn_eq_some_iff.mp found).1]
    rfl
  cases makes with
  | @manual context generated _ _ absent =>
      have new : db.versionOf generated.deviceId = 0 := by
        rw [InventoryDb.versionOf, absent]
        rfl
      exact (congrArg (· + 1) new).symm
  | metadata found allowed => exact (congrArg (· + 1) (known found)).symm
  | lifecycle found different allowed =>
      exact (congrArg (· + 1) (known found)).symm
  | observed only found inService =>
      exact (congrArg (· + 1) (known found)).symm
  | @discovered context generated _ noMatch absent =>
      have new : db.versionOf generated.deviceId = 0 := by
        rw [InventoryDb.versionOf, absent]
        rfl
      exact (congrArg (· + 1) new).symm

/-- A mutation raises the version of its device and the counts of its records
together. -/
theorem Mutation.keeps_recorded {db reached : InventoryDb}
    {call : InventoryCall} {change : Change}
    (mutation : Mutation db call change reached) (recorded : db.Recorded) :
    reached.Recorded := by
  intro deviceId
  rcases mutation.recorded with
    ⟨auditRow, outboxRow, audited, enqueued, fresh, rfl⟩
  have oneAudit : ((change.apply db).recorded auditRow outboxRow).auditCount
      deviceId = db.auditCount deviceId +
        if change.device.id = deviceId then 1 else 0 := by
    have sameRow : audits deviceId auditRow =
        decide (change.device.id = deviceId) := by
      rw [Bool.eq_iff_iff, audited.audits_iff, decide_eq_true_eq]
    have appended : ((change.apply db).recorded auditRow outboxRow).audit.rows =
        db.audit.rows ++ [auditRow] := rfl
    rw [InventoryDb.auditCount, appended, List.countP_append,
      List.countP_singleton, sameRow]
    simp only [decide_eq_true_eq]
    rfl
  have oneOutbox : ((change.apply db).recorded auditRow outboxRow).outboxCount
      deviceId = db.outboxCount deviceId +
        if change.device.id = deviceId then 1 else 0 := by
    have sameRow : announces deviceId outboxRow =
        decide (change.device.id = deviceId) := by
      rw [Bool.eq_iff_iff, enqueued.announces_iff, decide_eq_true_eq]
    have appended : ((change.apply db).recorded auditRow
        outboxRow).outbox.events.rows =
          db.outbox.events.rows ++ [outboxRow] := by
      apply Table.rows_put_of_lookup_none
      rw [enqueued.id_eq]
      exact fresh
    rw [InventoryDb.outboxCount, appended, List.countP_append,
      List.countP_singleton, sameRow]
    simp only [decide_eq_true_eq]
    rfl
  have raised : ((change.apply db).recorded auditRow outboxRow).versionOf
      deviceId = db.versionOf deviceId +
        if change.device.id = deviceId then 1 else 0 := by
    have sameDevices : ((change.apply db).recorded auditRow
        outboxRow).versionOf deviceId =
          (change.apply db).versionOf deviceId := rfl
    rw [sameDevices, InventoryDb.versionOf, lookup_devices_apply]
    by_cases same : change.device.id = deviceId
    · rw [if_pos same, if_pos same, ← same]
      exact mutation.makes.version_eq
    · rw [if_neg same, if_neg same, Int.add_zero]
      rfl
  rcases recorded deviceId with ⟨auditEqual, outboxEqual⟩
  rw [oneAudit, oneOutbox, raised]
  by_cases same : change.device.id = deviceId
  · rw [if_pos same, if_pos same]
    omega
  · rw [if_neg same, if_neg same]
    omega

end Mutations

/-- In every reachable state the version of a device is the number of its
successful audit events and of its outbox events, and a call that returns an
error, whatever has failed, changes nothing. -/
theorem mutations_recorded {library : InventoryLibrary} {db : InventoryDb}
    (reachable : (inventoryClient library).Reachable
      InventoryDb.IsUnrecorded db) :
    (∀ deviceId device, db.devices.lookup deviceId = some device →
      device.version = db.auditCount deviceId ∧
        device.version = db.outboxCount deviceId) ∧
    ∀ (call : InventoryCall) (plan : List (Option SqlError))
      (failure : InventoryError) (reached : InventoryDb),
      ((inventoryClient library).program call).callFaulty plan db =
        (.error failure, reached) → reached = db := by
  have recorded := (invariant_of_mutations
    (fun _ isUnrecorded => isUnrecorded.isEmpty.sound)
    (fun _ isUnrecorded => isUnrecorded.recorded)
    (fun _ _ _ _ _ recorded mutation => mutation.keeps_recorded recorded)
    reachable).2
  constructor
  · intro deviceId device found
    have isVersion : db.versionOf deviceId = device.version := by
      rw [InventoryDb.versionOf, found]
      rfl
    rw [← isVersion]
    exact recorded deviceId
  · intro call plan failure reached ended
    exact Program.callFaulty_error (commitsLast_inventoryClient call) ended

theorem mutations_recorded_recognized :
    (∀ deviceId device,
      Sample.recognized.devices.lookup deviceId = some device →
      device.version = Sample.recognized.auditCount deviceId ∧
        device.version = Sample.recognized.outboxCount deviceId) ∧
    ∀ (call : InventoryCall) (plan : List (Option SqlError))
      (failure : InventoryError) (reached : InventoryDb),
      ((inventoryClient Sample.library).program call).callFaulty plan
        Sample.recognized = (.error failure, reached) →
          reached = Sample.recognized := by
  have unrecorded : Sample.start.IsUnrecorded := by
    refine ⟨Sample.isEmpty_start, ?_, ?_⟩
    · exact fun row member => absurd member List.not_mem_nil
    · exact fun row member => absurd member List.not_mem_nil
  have reachable := Sample.reachable_recognized unrecorded
  exact mutations_recorded reachable

end NetworkManager.InventoryStore
