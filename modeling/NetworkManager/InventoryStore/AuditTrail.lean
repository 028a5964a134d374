import NetworkManager.InventoryStore.Scoping
import NetworkManager.Transaction.Preserving

/-!
# What the inventory does to the audit trail

No statement of the inventory writes to the audit trail but those of an append.
So whatever an append preserves of the trail, every operation does.
-/

namespace NetworkManager.InventoryStore

open NetworkManager.Foundation
open NetworkManager.Domain.Inventory
open NetworkManager.Security
open NetworkManager.Transaction

def Statement.IsAudit : Statement → Prop
  | .audit _ => True
  | _ => False

def Write.IsAudit : Write → Prop
  | .audit _ => True
  | _ => False

/-- Only a statement of the audit trail writes to it. -/
theorem not_isAudit_of_exec {statement : Statement} {view : InventoryDb}
    {reply : Reply statement} {writes : List Write}
    (notAudit : ¬ statement.IsAudit)
    (answered : inventorySql.exec statement view = .ok (reply, writes)) :
    ∀ write ∈ writes, ¬ write.IsAudit := by
  intro write member
  have writesOf : ∀ answer : Reply statement × List Write,
      inventorySql.exec statement view = .ok answer → writes = answer.2 := by
    intro answer same
    rw [answered] at same
    exact congrArg Prod.snd (Except.ok.inj same)
  cases statement with
  | audit query => exact absurd trivial notAudit
  | outbox query =>
      obtain ⟨inner, rfl⟩ := writes_of_liftAnswer answered
      obtain ⟨given, _, rfl⟩ := List.mem_map.mp member
      exact id
  | selectStrongOwner scope identity =>
      rw [writesOf _ rfl] at member
      cases member
  | selectDevice scope deviceId forUpdate =>
      rw [writesOf _ rfl] at member
      cases member
  | insertDevice row =>
      obtain ⟨_, rfl⟩ := mem_execInsertDevice answered member
      exact id
  | updateMetadata scope deviceId texts deviceType capabilities now =>
      rw [writesOf _ rfl] at member
      obtain ⟨stored, _, rfl⟩ := mem_updateDevice member
      exact id
  | updateLifecycle scope deviceId next reason now =>
      rw [writesOf _ rfl] at member
      obtain ⟨stored, _, rfl⟩ := mem_updateDevice member
      exact id
  | updateObserved deviceId texts deviceType capabilities observedAt now =>
      rw [writesOf _ rfl] at member
      obtain ⟨stored, _, rfl⟩ := mem_updateDevice member
      exact id
  | updateIdentifier row =>
      rw [writesOf _ rfl] at member
      obtain ⟨stored, _, _, rfl⟩ := mem_execUpdateIdentifier member
      exact id
  | insertIdentifier row =>
      rw [mem_execInsertIdentifier answered member]
      exact id
  | upsertFact row =>
      obtain ⟨stored, _, rfl⟩ := mem_execUpsertFact answered member
      exact id
  | insertLifecycleEvent event =>
      rw [mem_execInsertLifecycleEvent answered member]
      exact id

private theorem audit_applyAll {writes : List Write}
    (notAudit : ∀ write ∈ writes, ¬ write.IsAudit) (db : InventoryDb) :
    (inventorySql.applyAll writes db).audit = db.audit := by
  induction writes generalizing db with
  | nil => rfl
  | cons write rest inductionHypothesis =>
      rw [Database.applyAll_cons, inductionHypothesis fun other member =>
        notAudit other (List.mem_cons_of_mem write member)]
      have notFirst := notAudit write (List.mem_cons_self ..)
      cases write with
      | audit row => exact absurd trivial notFirst
      | _ => rfl

/-! ## Operations -/

/-- An append preserves this of the audit trail. -/
def KeptByAppends (audit : AuditLibrary) (trail : AuditStore.AuditDb → Prop) :
    Prop :=
  ∀ id draft working, trail working →
    (AuditStore.appendInTx audit id draft).Preserves trail working

/-- The audit trail of the inventory is like this. -/
def OnTrail (trail : AuditStore.AuditDb → Prop) (db : InventoryDb) : Prop :=
  trail db.audit

theorem KeptByAppends.append {audit : AuditLibrary}
    {trail : AuditStore.AuditDb → Prop} (appends : KeptByAppends audit trail)
    (id : Uuid) (draft : AuditEventDraft) {working : AuditStore.AuditDb}
    (kept : trail working) :
    (AuditStore.append audit id draft).Preserves trail working := by
  apply (appends id draft working kept).bind
  intro appended reached stillKept
  exact .commit stillKept (.done stillKept)

section Operations

variable {library : InventoryLibrary} {context : MutationContext}
  {generated : Generated} {trail : AuditStore.AuditDb → Prop}
  {working : InventoryDb}

/-- A statement that leaves the audit trail alone. -/
theorem preserves_statement {statement : Statement}
    (onFault : SqlError → InventoryError) (notAudit : ¬ statement.IsAudit)
    (kept : OnTrail trail working) :
    (Program.statement (D := inventorySql) statement onFault).Preserves
      (OnTrail trail) working := by
  apply Program.Preserves.of_statement (D := inventorySql)
  intro reply writes answered
  rw [OnTrail, audit_applyAll (not_isAudit_of_exec notAudit answered)]
  exact kept

theorem preserves_query {statement : Statement}
    (notAudit : ¬ statement.IsAudit) (kept : OnTrail trail working) :
    (query statement).Preserves (OnTrail trail) working :=
  preserves_statement .database notAudit kept

private theorem preserves_loadDevice {scope : Scope} {deviceId : Uuid}
    {forUpdate : Bool} (kept : OnTrail trail working) :
    (loadDevice scope deviceId forUpdate).Preserves
      (OnTrail trail) working :=
  (preserves_query id kept).bind fun _ _ stillKept => .done stillKept

private theorem preserves_upsertIdentifier {scope : Scope} {deviceId : Uuid}
    {observedAt : Option Timestamp} (identifier : NewIdentifier)
    (kept : OnTrail trail working) :
    (upsertIdentifier scope deviceId observedAt identifier).Preserves
      (OnTrail trail) working := by
  apply Program.Preserves.ofExcept_bind kept
  intro _ _
  apply Program.Preserves.ofExcept_bind kept
  intro normalizedValue _
  apply Program.Preserves.ofExcept_bind kept
  intro identityNamespace _
  apply (preserves_query id kept).bind
  intro updated reached stillKept
  by_cases wasUpdated : 0 < updated
  · rw [if_pos wasUpdated]
    exact .done stillKept
  · rw [if_neg wasUpdated]
    exact preserves_statement insertIdentifierFault id stillKept

private theorem preserves_upsertIdentifiers {scope : Scope} {deviceId : Uuid}
    {observedAt : Option Timestamp} (identifiers : List NewIdentifier)
    (kept : OnTrail trail working) :
    (Program.forEach (upsertIdentifier scope deviceId observedAt)
      identifiers).Preserves (OnTrail trail) working :=
  Program.Preserves.forEach
    (fun identifier _ stillKept =>
      preserves_upsertIdentifier identifier stillKept) identifiers kept

private theorem preserves_writeFacts (facts : List FactRow)
    (kept : OnTrail trail working) :
    (writeFacts facts).Preserves (OnTrail trail) working :=
  Program.Preserves.forEach (fun _ _ stillKept => preserves_query id stillKept)
    facts kept

/-- The records of a mutation are an append and a write to the outbox. -/
theorem preserves_writeMutationRecords
    (appends : KeptByAppends library.audit trail) {action eventType : String}
    {device : DeviceView} {before after : Option Value}
    (kept : OnTrail trail working) :
    (writeMutationRecords library context generated action eventType device
      before after).Preserves (OnTrail trail) working := by
  have appended : (auditEmbedding.lift InventoryError.audit
      (AuditStore.appendInTx library.audit generated.auditId
        (mutationDraft context generated action device before
          after))).Preserves (OnTrail trail) working :=
    auditEmbedding.preserves_lift (appends _ _ _ kept) fun _ isKept => isKept
  apply appended.bind
  intro id reached stillKept
  exact outboxEmbedding.preserves_lift (Program.preserves_any _ _)
    fun _ _ => stillKept

private theorem preserves_finishMutation
    (appends : KeptByAppends library.audit trail)
    {action eventType : String} {deviceId : Uuid} {before : Option DeviceView}
    (kept : OnTrail trail working) :
    (finishMutation library context generated action eventType deviceId
      before).Preserves (OnTrail trail) working := by
  apply (preserves_loadDevice kept).bind
  intro device loaded loadedKept
  apply (preserves_writeMutationRecords appends loadedKept).bind
  intro _ recorded recordedKept
  exact .commit recordedKept (.done recordedKept)

private theorem preserves_storeNewDevice {row : DeviceView}
    {observedAt : Option Timestamp} {identifiers : List NewIdentifier}
    {facts : List FactRow} {reason : String} (kept : OnTrail trail working) :
    (storeNewDevice context row observedAt identifiers facts reason).Preserves
      (OnTrail trail) working := by
  apply (preserves_query id kept).bind
  intro _ inserted insertedKept
  apply (preserves_upsertIdentifiers identifiers insertedKept).bind
  intro _ identified identifiedKept
  apply (preserves_writeFacts facts identifiedKept).bind
  intro _ stored storedKept
  exact preserves_query id storedKept

theorem preserves_createManual (appends : KeptByAppends library.audit trail)
    (input : NewDevice) (approvalRequired : Bool)
    (kept : OnTrail trail working) :
    (createManual library context generated input approvalRequired).Preserves
      (OnTrail trail) working := by
  rw [createManual_eq]
  apply Program.Preserves.ofExcept_bind kept
  intro _ _
  apply Program.Preserves.ofExcept_bind kept
  intro _ _
  apply (preserves_storeNewDevice kept).bind
  intro _ stored storedKept
  exact preserves_finishMutation appends storedKept

theorem preserves_updateMetadata (appends : KeptByAppends library.audit trail)
    (deviceId : Uuid) (expectedVersion : Int) (patch : MetadataPatch)
    (kept : OnTrail trail working) :
    (updateMetadata library context generated deviceId expectedVersion
      patch).Preserves (OnTrail trail) working := by
  apply Program.Preserves.ofExcept_bind kept
  intro _ _
  apply Program.Preserves.ofExcept_bind kept
  intro _ _
  apply (preserves_loadDevice kept).bind
  intro current loaded loadedKept
  apply Program.Preserves.check_bind loadedKept
  apply Program.Preserves.check_bind loadedKept
  apply (preserves_query id loadedKept).bind
  intro _ updated updatedKept
  rw [persistPatchFacts_eq]
  apply (preserves_writeFacts _ updatedKept).bind
  intro _ stored storedKept
  exact preserves_finishMutation appends storedKept

theorem preserves_transitionLifecycle
    (appends : KeptByAppends library.audit trail) (deviceId : Uuid)
    (expectedVersion : Int) (next : DeviceLifecycle) (reason : Option String)
    (kept : OnTrail trail working) :
    (transitionLifecycle library context generated deviceId expectedVersion
      next reason).Preserves (OnTrail trail) working := by
  apply Program.Preserves.ofExcept_bind kept
  intro _ _
  apply (preserves_loadDevice kept).bind
  intro current loaded loadedKept
  apply Program.Preserves.check_bind loadedKept
  by_cases already : current.lifecycle = next
  · rw [if_pos already]
    exact .done loadedKept
  · rw [if_neg already]
    apply Program.Preserves.check_bind loadedKept
    apply Program.Preserves.check_bind loadedKept
    apply (preserves_query id loadedKept).bind
    intro _ updated updatedKept
    apply (preserves_query id updatedKept).bind
    intro _ appended appendedKept
    exact preserves_finishMutation appends appendedKept

private theorem preserves_findMatches {scope : Scope}
    (identifiers : List NewIdentifier) (found : Finset Uuid)
    (kept : OnTrail trail working) :
    (findMatches scope identifiers found).Preserves
      (OnTrail trail) working := by
  induction identifiers generalizing found working with
  | nil => exact .done kept
  | cons identifier rest inductionHypothesis =>
      apply Program.Preserves.ofExcept_bind kept
      intro normalizedValue _
      apply Program.Preserves.ofExcept_bind kept
      intro identityNamespace _
      apply (preserves_query id kept).bind
      intro owner selected selectedKept
      exact inductionHypothesis _ selectedKept

private theorem preserves_updateObservedDevice
    (appends : KeptByAppends library.audit trail)
    (observation : DeviceObservation) (observedAt : Timestamp)
    (deviceId : Uuid) (kept : OnTrail trail working) :
    (updateObservedDevice library context generated observation observedAt
      deviceId).Preserves (OnTrail trail) working := by
  apply (preserves_loadDevice kept).bind
  intro current loaded loadedKept
  apply Program.Preserves.check_bind loadedKept
  apply (preserves_upsertIdentifiers _ loadedKept).bind
  intro _ identified identifiedKept
  rw [persistObservedFacts_eq]
  apply (preserves_writeFacts _ identifiedKept).bind
  intro _ stored storedKept
  apply (preserves_query id storedKept).bind
  intro _ updated updatedKept
  exact preserves_finishMutation appends updatedKept

private theorem preserves_createObservedDevice
    (appends : KeptByAppends library.audit trail)
    (observation : DeviceObservation) (kept : OnTrail trail working) :
    (createObservedDevice library context generated observation
      (observationTime generated observation)).Preserves
        (OnTrail trail) working := by
  rw [createObservedDevice_eq]
  apply (preserves_storeNewDevice kept).bind
  intro _ stored storedKept
  exact preserves_finishMutation appends storedKept

theorem preserves_reconcileObservation
    (appends : KeptByAppends library.audit trail)
    (observation : DeviceObservation) (kept : OnTrail trail working) :
    (reconcileObservation library context generated observation).Preserves
      (OnTrail trail) working := by
  apply Program.Preserves.ofExcept_bind kept
  intro _ _
  apply Program.Preserves.ofExcept_bind kept
  intro _ _
  apply (preserves_findMatches _ _ kept).bind
  intro found matched matchedKept
  apply Program.Preserves.check_bind matchedKept
  cases (found.sort (· ≤ ·)).head? with
  | some deviceId =>
      exact (preserves_updateObservedDevice appends _ _ _ matchedKept).bind
        fun _ _ stillKept => .done stillKept
  | none =>
      exact (preserves_createObservedDevice appends _ matchedKept).bind
        fun _ _ stillKept => .done stillKept

end Operations

end NetworkManager.InventoryStore
