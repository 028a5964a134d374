import Mathlib.Data.Set.Basic
import NetworkManager.InventoryStore.Runs
import NetworkManager.Transaction.Interleaving

/-!
# Records of devices

All that is kept about one device: its row, its identifiers, its facts and the
events of its life cycle.  Every operation that writes about a device locks its
row first, by `FOR UPDATE`, by the insertion or by the update itself, so the
lock on the row guards the whole record.
-/

namespace NetworkManager.InventoryStore

open NetworkManager.Foundation
open NetworkManager.Domain.Inventory
open NetworkManager.Transaction

/-- The row that a statement locks, if it matches one. -/
def rowLock (matched : Option DeviceView) (deviceId : Uuid) : List Uuid :=
  if matched.isSome then [deviceId] else []

def lockedRows : Statement → InventoryDb → List Uuid
  | .selectDevice scope deviceId true, db =>
      rowLock (db.deviceIn scope deviceId) deviceId
  | .insertDevice row, _ => [row.id]
  | .updateMetadata scope deviceId .., db =>
      rowLock (db.deviceIn scope deviceId) deviceId
  | .updateLifecycle scope deviceId .., db =>
      rowLock (db.deviceIn scope deviceId) deviceId
  | .updateObserved deviceId .., db =>
      rowLock (db.devices.lookup deviceId) deviceId
  | _, _ => []

/-- A lock on a device guards its row.  The locks on other tables are left out:
without them there are only more interleavings. -/
def deviceLocking : Locking inventorySql where
  Key := Uuid
  acquires := lockedRows
  Slice _ := Option DeviceView
  slice deviceId db := db.devices.lookup deviceId
  touches
    | .device row, deviceId => row.id = deviceId
    | _, _ => False
  slice_apply := by
    intro deviceId write db untouched
    cases write with
    | device row => exact (Table.lookup_put ..).trans (if_neg untouched)
    | _ => rfl
  slice_apply_congr := by
    intro deviceId write left right same
    cases write with
    | device row =>
        have puts (db : InventoryDb) : (applyWrite (.device row) db).devices.lookup
            deviceId = if row.id = deviceId then some row
              else db.devices.lookup deviceId := Table.lookup_put ..
        exact (puts left).trans ((congrArg (fun stored =>
          if row.id = deviceId then some row else stored) same).trans
            (puts right).symm)
    | _ => exact same

/-- All that the tables of the inventory hold about one device. -/
structure DeviceRecord where
  row : Option DeviceView
  identifiers : IdentifierKey → Option IdentifierRow
  facts : Field → Provenance → String → Option FactRow
  events : List LifecycleEvent

namespace InventoryDb

/-- The events in the life of a device, in the order of their commits. -/
def eventsOf (db : InventoryDb) (deviceId : Uuid) : List LifecycleEvent :=
  db.lifecycleEvents.filter fun event => event.deviceId = deviceId

def record (db : InventoryDb) (deviceId : Uuid) : DeviceRecord where
  row := db.devices.lookup deviceId
  identifiers identity := db.identifiers.lookup (deviceId, identity)
  facts field provenance source :=
    db.facts.lookup ⟨deviceId, field, provenance, source⟩
  events := db.eventsOf deviceId

end InventoryDb

/-- The device that a write is about. -/
def Write.subject : Write → Option Uuid
  | .device row => some row.id
  | .identifier row => some row.deviceId
  | .fact row => some row.key.deviceId
  | .lifecycleEvent event => some event.deviceId
  | .audit _ => none
  | .outbox _ => none

/-- The record of a device after a write. -/
def DeviceRecord.apply (deviceId : Uuid) (write : Write)
    (record : DeviceRecord) : DeviceRecord :=
  match write with
  | .device row =>
      if row.id = deviceId then { record with row := some row } else record
  | .identifier row =>
      { record with
        identifiers := fun identity =>
          if row.key = (deviceId, identity) then some row
          else record.identifiers identity }
  | .fact row =>
      { record with
        facts := fun field provenance source =>
          if row.key = ⟨deviceId, field, provenance, source⟩ then some row
          else record.facts field provenance source }
  | .lifecycleEvent event =>
      if event.deviceId = deviceId then
        { record with events := record.events ++ [event] }
      else record
  | .audit _ => record
  | .outbox _ => record

/-- A write acts on each record by itself. -/
theorem record_applyWrite (write : Write) (db : InventoryDb)
    (deviceId : Uuid) :
    (applyWrite write db).record deviceId =
      (db.record deviceId).apply deviceId write := by
  cases write with
  | device row =>
      have looked : (db.devices.put row).lookup deviceId =
          if row.id = deviceId then some row
          else db.devices.lookup deviceId := Table.lookup_put ..
      by_cases same : row.id = deviceId
      · simp [applyWrite, InventoryDb.record, InventoryDb.eventsOf,
          DeviceRecord.apply, looked, same]
      · simp [applyWrite, InventoryDb.record, InventoryDb.eventsOf,
          DeviceRecord.apply, looked, same]
  | identifier row =>
      simp [applyWrite, InventoryDb.record, InventoryDb.eventsOf,
        DeviceRecord.apply, Table.lookup_put]
  | fact row =>
      simp [applyWrite, InventoryDb.record, InventoryDb.eventsOf,
        DeviceRecord.apply, Table.lookup_put]
  | lifecycleEvent event =>
      by_cases same : event.deviceId = deviceId
      · simp [applyWrite, InventoryDb.record, InventoryDb.eventsOf,
          DeviceRecord.apply, same]
      · simp [applyWrite, InventoryDb.record, InventoryDb.eventsOf,
          DeviceRecord.apply, same]
  | audit row => rfl
  | outbox write => rfl

private theorem DeviceRecord.apply_of_ne {deviceId : Uuid} {write : Write}
    (other : write.subject ≠ some deviceId) (record : DeviceRecord) :
    record.apply deviceId write = record := by
  cases write with
  | device row =>
      have different : row.id ≠ deviceId := by
        simpa [Write.subject] using other
      exact if_neg different
  | identifier row =>
      have different : row.deviceId ≠ deviceId := by
        simpa [Write.subject] using other
      have otherKey (identity : IdentifierKey) :
          row.key ≠ (deviceId, identity) :=
        fun same => different (congrArg Prod.fst same)
      simp [DeviceRecord.apply, otherKey]
  | fact row =>
      have different : row.key.deviceId ≠ deviceId := by
        simpa [Write.subject] using other
      have otherKey (field : Field) (provenance : Provenance)
          (source : String) :
          row.key ≠ ⟨deviceId, field, provenance, source⟩ :=
        fun same => different (congrArg FactKey.deviceId same)
      simp [DeviceRecord.apply, otherKey]
  | lifecycleEvent event =>
      have different : event.deviceId ≠ deviceId := by
        simpa [Write.subject] using other
      exact if_neg different
  | audit row => rfl
  | outbox write => rfl

theorem record_applyWrite_of_ne {write : Write} {deviceId : Uuid}
    (other : write.subject ≠ some deviceId) (db : InventoryDb) :
    (applyWrite write db).record deviceId = db.record deviceId :=
  (record_applyWrite write db deviceId).trans
    (DeviceRecord.apply_of_ne other _)

/-- The lock on a device guards all of its record, since nothing is written
about a device whose row is not locked. -/
def recordLocking : Locking inventorySql where
  Key := Uuid
  acquires := lockedRows
  Slice _ := DeviceRecord
  slice deviceId db := db.record deviceId
  touches write deviceId := write.subject = some deviceId
  slice_apply db other := record_applyWrite_of_ne other db
  slice_apply_congr := by
    intro deviceId write left right same
    exact (record_applyWrite write left deviceId).trans
      ((congrArg (DeviceRecord.apply deviceId write) same).trans
        (record_applyWrite write right deviceId).symm)

/-! ## Identifiers and facts -/

/-- The statements that write at most the identifiers and facts of these
devices. -/
def Statement.Supplements (about : Set Uuid) : Statement → Prop
  | .insertDevice _ => False
  | .updateMetadata .. => False
  | .updateLifecycle .. => False
  | .updateObserved .. => False
  | .insertLifecycleEvent _ => False
  | .updateIdentifier row => row.deviceId ∈ about
  | .insertIdentifier row => row.deviceId ∈ about
  | .upsertFact row => row.key.deviceId ∈ about
  | _ => True

def Write.Supplements (about : Set Uuid) : Write → Prop
  | .device _ => False
  | .lifecycleEvent _ => False
  | .identifier row => row.deviceId ∈ about
  | .fact row => row.key.deviceId ∈ about
  | _ => True

/-- At most the identifiers and facts of these devices differ. -/
structure Supplemented (about : Set Uuid) (before after : InventoryDb) :
    Prop where
  devices : after.devices = before.devices
  lifecycleEvents : after.lifecycleEvents = before.lifecycleEvents
  others : ∀ deviceId ∉ about, after.record deviceId = before.record deviceId

theorem Supplemented.refl (about : Set Uuid) (db : InventoryDb) :
    Supplemented about db db :=
  ⟨rfl, rfl, fun _ _ => rfl⟩

theorem Supplemented.trans {about : Set Uuid}
    {first middle last : InventoryDb} (early : Supplemented about first middle)
    (late : Supplemented about middle last) : Supplemented about first last where
  devices := late.devices.trans early.devices
  lifecycleEvents := late.lifecycleEvents.trans early.lifecycleEvents
  others deviceId isOther :=
    (late.others deviceId isOther).trans (early.others deviceId isOther)

theorem Supplemented.mono {fewer more : Set Uuid} {before after : InventoryDb}
    (supplemented : Supplemented fewer before after) (subset : fewer ⊆ more) :
    Supplemented more before after :=
  ⟨supplemented.devices, supplemented.lifecycleEvents,
    fun deviceId isOther => supplemented.others deviceId
      fun member => isOther (subset member)⟩

private theorem Write.Supplements.applied {about : Set Uuid} {write : Write}
    (supplements : write.Supplements about) (db : InventoryDb) :
    Supplemented about db (applyWrite write db) := by
  have others : ∀ deviceId ∉ about,
      (applyWrite write db).record deviceId = db.record deviceId := by
    intro deviceId isOther
    apply record_applyWrite_of_ne
    intro isSubject
    cases write with
    | device row => exact supplements.elim
    | lifecycleEvent event => exact supplements.elim
    | identifier row => exact isOther (Option.some.inj isSubject ▸ supplements)
    | fact row => exact isOther (Option.some.inj isSubject ▸ supplements)
    | audit row => cases isSubject
    | outbox write => cases isSubject
  cases write with
  | device row => exact supplements.elim
  | lifecycleEvent event => exact supplements.elim
  | _ => exact ⟨rfl, rfl, others⟩

theorem supplemented_applyAll {about : Set Uuid} {writes : List Write}
    (supplement : ∀ write ∈ writes, write.Supplements about)
    (db : InventoryDb) :
    Supplemented about db (inventorySql.applyAll writes db) := by
  induction writes generalizing db with
  | nil => exact .refl about db
  | cons write rest inductionHypothesis =>
      have first := (supplement write (List.mem_cons_self ..)).applied db
      rw [Database.applyAll_cons]
      exact first.trans (inductionHypothesis (fun other member =>
        supplement other (List.mem_cons_of_mem write member)) _)

theorem covers_supplements {about : Set Uuid} {held : List Uuid}
    {writes : List Write}
    (supplement : ∀ write ∈ writes, write.Supplements about)
    (isHeld : ∀ deviceId ∈ about, deviceId ∈ held) :
    recordLocking.Covers held writes := by
  intro write member deviceId touched
  have supplements := supplement write member
  have isSubject : write.subject = some deviceId := touched
  cases write with
  | device row => exact supplements.elim
  | lifecycleEvent event => exact supplements.elim
  | identifier row =>
      exact isHeld deviceId (Option.some.inj isSubject ▸ supplements)
  | fact row =>
      exact isHeld deviceId (Option.some.inj isSubject ▸ supplements)
  | audit row => cases isSubject
  | outbox write => cases isSubject

theorem Statement.Supplements.writes {about : Set Uuid} {statement : Statement}
    {view : InventoryDb} {reply : Reply statement} {writes : List Write}
    (supplements : statement.Supplements about)
    (answered : inventorySql.exec statement view = .ok (reply, writes)) :
    ∀ write ∈ writes, write.Supplements about := by
  cases statement with
  | insertDevice row => exact supplements.elim
  | updateMetadata => exact supplements.elim
  | updateLifecycle => exact supplements.elim
  | updateObserved => exact supplements.elim
  | insertLifecycleEvent event => exact supplements.elim
  | selectStrongOwner scope identity =>
      have isAnswer : (view.strongOwner scope identity, ([] : List Write)) =
          (reply, writes) := Except.ok.inj answered
      rw [← (Prod.mk.inj isAnswer).2]
      exact fun write member => absurd member List.not_mem_nil
  | selectDevice scope deviceId forUpdate =>
      have isAnswer : (view.deviceIn scope deviceId, ([] : List Write)) =
          (reply, writes) := Except.ok.inj answered
      rw [← (Prod.mk.inj isAnswer).2]
      exact fun write member => absurd member List.not_mem_nil
  | updateIdentifier row =>
      have isAnswer : execUpdateIdentifier row view = (reply, writes) :=
        Except.ok.inj answered
      unfold execUpdateIdentifier at isAnswer
      split at isAnswer
      · cases isAnswer
        exact fun write member => absurd member List.not_mem_nil
      · rename_i stored found
        have isKey := Table.key_of_lookup
          (Option.filter_eq_some_iff.mp found).1
        have sameDevice : stored.deviceId = row.deviceId :=
          congrArg Prod.fst isKey
        have isAbout : stored.deviceId ∈ about := sameDevice ▸ supplements
        cases isAnswer
        simpa [Write.Supplements, setIdentifier] using isAbout
  | insertIdentifier row =>
      have isAnswer : execInsertIdentifier row view = .ok (reply, writes) :=
        answered
      unfold execInsertIdentifier at isAnswer
      have isAbout : row.deviceId ∈ about := supplements
      split_ifs at isAnswer
      cases isAnswer
      simpa [Write.Supplements] using isAbout
  | upsertFact row =>
      have isAnswer : execUpsertFact row view = .ok (reply, writes) := answered
      unfold execUpsertFact at isAnswer
      split at isAnswer
      · rename_i stored found
        have isKey := Table.key_of_lookup found
        have sameDevice : stored.key.deviceId = row.key.deviceId :=
          congrArg FactKey.deviceId isKey
        have isAbout : stored.key.deviceId ∈ about := sameDevice ▸ supplements
        cases isAnswer
        simpa [Write.Supplements, setFact] using isAbout
      · have isAbout : row.key.deviceId ∈ about := supplements
        split_ifs at isAnswer
        cases isAnswer
        simpa [Write.Supplements] using isAbout
  | audit query =>
      rcases writes_of_liftAnswer answered with ⟨inner, rfl⟩
      intro write member
      rcases List.mem_map.mp member with ⟨row, _, rfl⟩
      trivial
  | outbox query =>
      rcases writes_of_liftAnswer answered with ⟨inner, rfl⟩
      intro write member
      rcases List.mem_map.mp member with ⟨row, _, rfl⟩
      trivial

section Parts

variable {about : Set Uuid} {scope : Scope} {deviceId : Uuid}
  {library : InventoryLibrary} {context : MutationContext}
  {generated : Generated}

private theorem uses_query {statement : Statement}
    (supplements : statement.Supplements about) :
    (query statement).Uses (Statement.Supplements about) :=
  Program.Uses.statement _ supplements

theorem uses_upsertIdentifier (isAbout : deviceId ∈ about)
    (observedAt : Option Timestamp) (identifier : NewIdentifier) :
    (upsertIdentifier scope deviceId observedAt identifier).Uses
      (Statement.Supplements about) := by
  apply (Program.Uses.ofExcept _).bind fun _ => ?_
  apply (Program.Uses.ofExcept _).bind fun normalizedValue => ?_
  apply (Program.Uses.ofExcept _).bind fun identityNamespace => ?_
  have updates : (query (.updateIdentifier (identifierRow scope deviceId
      identifier identityNamespace normalizedValue observedAt))).Uses
        (Statement.Supplements about) := uses_query isAbout
  apply updates.bind fun updated => ?_
  by_cases isUpdated : 0 < updated
  · rw [if_pos isUpdated]
    exact .done _
  · rw [if_neg isUpdated]
    exact Program.Uses.statement _ isAbout

theorem uses_writeFacts {facts : List FactRow}
    (factsOf : FactsOf scope deviceId facts) :
    (writeFacts facts).Uses (Statement.Supplements {deviceId}) := by
  induction facts with
  | nil => exact .done _
  | cons fact rest inductionHypothesis =>
      have isAbout : fact.key.deviceId ∈ ({deviceId} : Set Uuid) :=
        (factsOf fact (List.mem_cons_self ..)).2
      have upserts : (query (.upsertFact fact)).Uses
          (Statement.Supplements {deviceId}) := uses_query isAbout
      rw [writeFacts, Program.forEach_cons]
      exact upserts.bind fun _ => inductionHypothesis fun other member =>
        factsOf other (List.mem_cons_of_mem fact member)

theorem uses_loadDevice :
    (loadDevice scope deviceId false).Uses (Statement.Supplements about) :=
  have selects : (query (.selectDevice scope deviceId false)).Uses
      (Statement.Supplements about) := uses_query trivial
  selects.bind fun _ => Program.Uses.ofExcept _

theorem uses_writeMutationRecords (action eventType : String)
    (device : DeviceView) (before after : Option Value) :
    (writeMutationRecords library context generated action eventType device
      before after).Uses (Statement.Supplements about) := by
  have appends : (auditEmbedding.lift InventoryError.audit
      (AuditStore.appendInTx library.audit generated.auditId
        (mutationDraft context generated action device before after))).Uses
        (fun query => ∃ inner, query = auditEmbedding.statement inner) :=
    Embedding.uses_lift (AuditStore.commitFree_appendInTx ..)
  have enqueues : (outboxEmbedding.lift InventoryError.outbox
      (PlatformEvents.enqueue
        (mutationEvent context generated eventType device after)
        generated.now)).Uses
        (fun query => ∃ inner, query = outboxEmbedding.statement inner) :=
    Embedding.uses_lift (PlatformEvents.commitFree_enqueue ..)
  apply (appends.mono ?_).bind fun _ => enqueues.mono ?_
  · rintro _ ⟨inner, rfl⟩
    trivial
  · rintro _ ⟨inner, rfl⟩
    trivial

theorem uses_findMatches :
    ∀ (identifiers : List NewIdentifier) (found : Finset Uuid),
      (findMatches scope identifiers found).Uses (Statement.Supplements about)
  | [], _ => .done _
  | identifier :: rest, _ => by
      apply (Program.Uses.ofExcept _).bind fun normalizedValue => ?_
      apply (Program.Uses.ofExcept _).bind fun identityNamespace => ?_
      have selects : (query (.selectStrongOwner scope ⟨identifier.kind,
          identityNamespace, normalizedValue⟩)).Uses
            (Statement.Supplements about) := uses_query trivial
      exact selects.bind fun _ => uses_findMatches rest _

end Parts

end NetworkManager.InventoryStore
