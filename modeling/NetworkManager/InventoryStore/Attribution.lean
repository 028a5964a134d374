import NetworkManager.InventoryStore.AuditTrail

/-!
# Who is named in the records

An operation is called with the organization, the site, the actor, the session
and the identifiers of a request.  Every audit event, outbox event and lifecycle
event that it writes names them.
-/

namespace NetworkManager.InventoryStore

open NetworkManager.Foundation
open NetworkManager.Domain.Inventory
open NetworkManager.Security
open NetworkManager.Transaction

/-- The audit event is the caller's. -/
structure AuditNames (context : MutationContext) (row : AuditStore.AuditRow) :
    Prop where
  organizationId : row.organizationId = context.organizationId
  siteId : row.siteId = some context.siteId
  actorType : row.actorType = context.actorType
  actorId : row.actorId = context.actorId
  sessionId : row.sessionId = context.sessionId
  sourceIp : row.sourceIp = context.sourceIp
  requestId : row.requestId = some context.requestId
  correlationId : row.correlationId = context.correlationId

/-- The lifecycle event is the caller's. -/
structure LifecycleNames (context : MutationContext) (event : LifecycleEvent) :
    Prop where
  scope : event.scope = context.scope
  actorType : event.actorType = context.actorType
  actorId : event.actorId = context.actorId
  correlationId : event.correlationId = context.correlationId

/-- The outbox event is the caller's. -/
structure OutboxNames (context : MutationContext)
    (event : PlatformEvents.NewOutboxEvent) : Prop where
  organizationId : event.organizationId = context.organizationId
  correlationId : event.correlationId = context.correlationId

/-- What the statement records names the caller. -/
def Statement.Names (context : MutationContext) : Statement → Prop
  | .insertLifecycleEvent event => LifecycleNames context event
  | .audit (.insertEvent row) => AuditNames context row
  | .outbox (.insertEvent event _) => OutboxNames context event
  | .outbox _ => False
  | _ => True

/-- A record that is written names the caller. -/
def Write.Names (context : MutationContext) : Write → Prop
  | .lifecycleEvent event => LifecycleNames context event
  | .audit row => AuditNames context row
  | .outbox (.event row) => OutboxNames context row.event
  | .outbox (.delivery _) => False
  | _ => True

/-- A draft from which a row of the caller is made. -/
structure DraftNames (context : MutationContext) (draft : AuditEventDraft) :
    Prop where
  organizationId : draft.organizationId = context.organizationId
  siteId : draft.siteId = some context.siteId
  actorType : draft.actorType = context.actorType
  actorId : draft.actorId = context.actorId
  sessionId : draft.sessionId = context.sessionId
  sourceIp : draft.sourceIp = context.sourceIp
  requestId : draft.requestId = context.requestId
  correlationId : draft.correlationId = context.correlationId

section Records

variable {context : MutationContext}

private theorem auditNames_sealedRow {draft : AuditEventDraft}
    (names : DraftNames context draft) {id : Uuid} {chainSequence : Int}
    {payload : Bytes} {sealedEvent : SealedAuditEvent}
    (isEvent : sealedEvent.event = draft.sanitize) :
    AuditNames context
      (AuditStore.sealedRow id chainSequence payload sealedEvent) := by
  rw [AuditStore.sealedRow, isEvent]
  exact ⟨names.organizationId, names.siteId, names.actorType, names.actorId,
    names.sessionId, names.sourceIp, congrArg some names.requestId,
    names.correlationId⟩

private theorem mem_auditInsertEvent {row : AuditStore.AuditRow}
    {view : AuditStore.AuditDb} {reply : Unit}
    {writes : List AuditStore.AuditRow} {write : AuditStore.AuditRow}
    (answered : AuditStore.execInsertEvent row view = .ok (reply, writes))
    (member : write ∈ writes) : write = row := by
  rw [AuditStore.execInsertEvent] at answered
  split_ifs at answered
  split at answered
  · cases answered
    exact List.mem_singleton.mp member
  · split_ifs at answered
    cases answered
    exact List.mem_singleton.mp member

private theorem mem_outboxInsertEvent {event : PlatformEvents.NewOutboxEvent}
    {now : Timestamp} {view : PlatformEvents.OutboxDb} {reply : Unit}
    {writes : List PlatformEvents.Write} {write : PlatformEvents.Write}
    (answered : PlatformEvents.execInsertEvent event now view =
      .ok (reply, writes))
    (member : write ∈ writes) :
    write = .event (PlatformEvents.newRow event now) := by
  rw [PlatformEvents.execInsertEvent] at answered
  split_ifs at answered
  cases answered
  exact List.mem_singleton.mp member

/-- What a statement that names the caller writes names it too. -/
theorem names_of_exec {statement : Statement} {view : InventoryDb}
    {reply : Reply statement} {writes : List Write}
    (names : statement.Names context)
    (answered : inventorySql.exec statement view = .ok (reply, writes)) :
    ∀ write ∈ writes, write.Names context := by
  intro write member
  have writesOf : ∀ answer : Reply statement × List Write,
      inventorySql.exec statement view = .ok answer → writes = answer.2 := by
    intro answer same
    rw [answered] at same
    exact congrArg Prod.snd (Except.ok.inj same)
  cases statement with
  | selectStrongOwner scope identity =>
      rw [writesOf _ rfl] at member
      cases member
  | selectDevice scope deviceId forUpdate =>
      rw [writesOf _ rfl] at member
      cases member
  | insertDevice row =>
      obtain ⟨_, rfl⟩ := mem_execInsertDevice answered member
      trivial
  | updateMetadata scope deviceId texts deviceType capabilities now =>
      rw [writesOf _ rfl] at member
      obtain ⟨stored, _, rfl⟩ := mem_updateDevice member
      trivial
  | updateLifecycle scope deviceId next reason now =>
      rw [writesOf _ rfl] at member
      obtain ⟨stored, _, rfl⟩ := mem_updateDevice member
      trivial
  | updateObserved deviceId texts deviceType capabilities observedAt now =>
      rw [writesOf _ rfl] at member
      obtain ⟨stored, _, rfl⟩ := mem_updateDevice member
      trivial
  | updateIdentifier row =>
      rw [writesOf _ rfl] at member
      obtain ⟨stored, _, _, rfl⟩ := mem_execUpdateIdentifier member
      trivial
  | insertIdentifier row =>
      rw [mem_execInsertIdentifier answered member]
      trivial
  | upsertFact row =>
      obtain ⟨stored, _, rfl⟩ := mem_execUpsertFact answered member
      trivial
  | insertLifecycleEvent event =>
      rw [mem_execInsertLifecycleEvent answered member]
      exact names
  | audit query =>
      obtain ⟨given, inner, isAnswer, rfl⟩ := eq_ok_of_liftAnswer answered
      obtain ⟨row, written, rfl⟩ := List.mem_map.mp member
      cases query with
      | insertEvent inserted =>
          cases mem_auditInsertEvent isAnswer written
          exact names
      | _ =>
          cases isAnswer
          cases written
  | outbox query =>
      obtain ⟨given, inner, isAnswer, rfl⟩ := eq_ok_of_liftAnswer answered
      obtain ⟨inserted, written, rfl⟩ := List.mem_map.mp member
      cases query with
      | insertEvent event now =>
          cases mem_outboxInsertEvent isAnswer written
          exact names
      | _ => exact names.elim

end Records

section Operations

variable {library : InventoryLibrary} {context : MutationContext}
  {generated : Generated} {ε α : Type}

/-- All that the program records names the caller. -/
abbrev Attributed (context : MutationContext)
    (program : Program inventorySql ε α) : Prop :=
  program.Runs (Statement.Names context)

theorem Attributed.guarded {program : Program inventorySql ε α}
    (attributed : Attributed context program) (seen : List InventoryDb) :
    program.Guarded (fun _ (write : Write) => write.Names context)
      (fun _ _ => True) seen :=
  Program.Runs.guarded (D := inventorySql)
    (fun _ _ _ _ names answered => names_of_exec names answered) attributed seen

private theorem attributed_statement {statement : Statement}
    (onFault : SqlError → InventoryError) (names : statement.Names context) :
    Attributed context
      (Program.statement (D := inventorySql) statement onFault) :=
  .exec names fun _ => .done _

theorem attributed_query {statement : Statement}
    (names : statement.Names context) :
    Attributed context (query statement) :=
  attributed_statement .database names

private theorem attributed_loadDevice {scope : Scope} {deviceId : Uuid}
    {forUpdate : Bool} :
    Attributed context (loadDevice scope deviceId forUpdate) :=
  (attributed_query (by trivial)).bind fun _ => .done _

private theorem attributed_upsertIdentifier {scope : Scope} {deviceId : Uuid}
    {observedAt : Option Timestamp} (identifier : NewIdentifier) :
    Attributed context
      (upsertIdentifier scope deviceId observedAt identifier) := by
  refine Program.Runs.bind (.done _) fun _ => ?_
  refine Program.Runs.bind (.done _) fun normalizedValue => ?_
  refine Program.Runs.bind (.done _) fun identityNamespace => ?_
  refine (attributed_query (by trivial)).bind fun updated => ?_
  by_cases wasUpdated : 0 < updated
  · rw [if_pos wasUpdated]
    exact .done _
  · rw [if_neg wasUpdated]
    exact attributed_statement insertIdentifierFault trivial

private theorem attributed_upsertIdentifiers {scope : Scope} {deviceId : Uuid}
    {observedAt : Option Timestamp} (identifiers : List NewIdentifier) :
    Attributed context (Program.forEach
      (upsertIdentifier scope deviceId observedAt) identifiers) :=
  .forEach attributed_upsertIdentifier identifiers

private theorem attributed_writeFacts (facts : List FactRow) :
    Attributed context (writeFacts facts) :=
  .forEach (fun _ => attributed_query (by trivial)) facts

private theorem attributed_appendInTx {audit : AuditLibrary} {id : Uuid}
    {draft : AuditEventDraft} (names : DraftNames context draft) :
    (AuditStore.appendInTx audit id draft).Runs fun query =>
      (Statement.audit query).Names context := by
  refine Program.Runs.bind (.done _) fun _ => ?_
  refine Program.Runs.bind (.of_statement _ trivial) fun _ => ?_
  refine Program.Runs.bind (.of_statement _ trivial) fun head => ?_
  apply Program.Runs.ofExcept_bind
  rintro ⟨chainSequence, previousHash⟩ _
  apply Program.Runs.ofExcept_bind
  intro sealedEvent isSealed
  obtain ⟨_, _, rfl⟩ :=
    AuditEventDraft.seal_eq_ok_iff.mp (AuditStore.sealDraft_eq_ok isSealed)
  apply Program.Runs.ofExcept_bind
  intro payload _
  exact Program.Runs.bind
    (.of_statement _ (auditNames_sealedRow names rfl)) fun _ => .done _

theorem attributed_append {audit : AuditLibrary} {id : Uuid}
    {draft : AuditEventDraft} (names : DraftNames context draft) :
    (AuditStore.append audit id draft).Runs fun query =>
      (Statement.audit query).Names context :=
  (attributed_appendInTx names).bind fun _ => .commit (.done _)

private theorem attributed_writeMutationRecords {action eventType : String}
    {device : DeviceView} {before after : Option Value} :
    Attributed context (writeMutationRecords library context generated action
      eventType device before after) := by
  have names : DraftNames context
      (mutationDraft context generated action device before after) :=
    ⟨rfl, rfl, rfl, rfl, rfl, rfl, rfl, rfl⟩
  have enqueued : (PlatformEvents.enqueue
      (mutationEvent context generated eventType device after)
        generated.now).Runs fun query =>
      (Statement.outbox query).Names context :=
    Program.Runs.bind (.done _) fun _ => .of_statement _ ⟨rfl, rfl⟩
  exact (auditEmbedding.runs_lift (attributed_appendInTx names)).bind
    fun _ => outboxEmbedding.runs_lift enqueued

private theorem attributed_finishMutation
    {action eventType : String} {deviceId : Uuid}
    {before : Option DeviceView} :
    Attributed context (finishMutation library context generated action
      eventType deviceId before) := by
  refine attributed_loadDevice.bind fun device => ?_
  refine attributed_writeMutationRecords.bind fun _ => ?_
  exact .commit (.done _)

private theorem attributed_appendLifecycleEvent {deviceId : Uuid}
    {fromState : Option DeviceLifecycle} {toState : DeviceLifecycle}
    {reason : Option String} :
    Attributed context
      (appendLifecycleEvent context deviceId fromState toState reason) :=
  attributed_query ⟨rfl, rfl, rfl, rfl⟩

private theorem attributed_storeNewDevice {row : DeviceView}
    {observedAt : Option Timestamp} {identifiers : List NewIdentifier}
    {facts : List FactRow} {reason : String} :
    Attributed context
      (storeNewDevice context row observedAt identifiers facts reason) := by
  refine (attributed_query (by trivial)).bind fun _ => ?_
  refine (attributed_upsertIdentifiers identifiers).bind fun _ => ?_
  exact (attributed_writeFacts facts).bind fun _ =>
    attributed_appendLifecycleEvent

theorem attributed_createManual (input : NewDevice)
    (approvalRequired : Bool) :
    Attributed context
      (createManual library context generated input approvalRequired) := by
  rw [createManual_eq]
  refine Program.Runs.bind (.done _) fun _ => ?_
  refine Program.Runs.bind (.done _) fun _ => ?_
  exact attributed_storeNewDevice.bind fun _ => attributed_finishMutation

theorem attributed_updateMetadata (deviceId : Uuid) (expectedVersion : Int)
    (patch : MetadataPatch) :
    Attributed context (updateMetadata library context generated deviceId
      expectedVersion patch) := by
  refine Program.Runs.bind (.done _) fun _ => ?_
  refine Program.Runs.bind (.done _) fun _ => ?_
  refine attributed_loadDevice.bind fun current => ?_
  refine (Program.runs_check _ _).bind fun _ => ?_
  refine (Program.runs_check _ _).bind fun _ => ?_
  refine (attributed_query (by trivial)).bind fun _ => ?_
  rw [persistPatchFacts_eq]
  exact (attributed_writeFacts _).bind fun _ => attributed_finishMutation

theorem attributed_transitionLifecycle (deviceId : Uuid)
    (expectedVersion : Int) (next : DeviceLifecycle) (reason : Option String) :
    Attributed context (transitionLifecycle library context generated deviceId
      expectedVersion next reason) := by
  refine Program.Runs.bind (.done _) fun _ => ?_
  refine attributed_loadDevice.bind fun current => ?_
  refine (Program.runs_check _ _).bind fun _ => ?_
  by_cases already : current.lifecycle = next
  · rw [if_pos already]
    exact .done _
  · rw [if_neg already]
    refine (Program.runs_check _ _).bind fun _ => ?_
    refine (Program.runs_check _ _).bind fun _ => ?_
    refine (attributed_query (by trivial)).bind fun _ => ?_
    exact attributed_appendLifecycleEvent.bind fun _ =>
      attributed_finishMutation

private theorem attributed_findMatches {scope : Scope}
    (identifiers : List NewIdentifier) (found : Finset Uuid) :
    Attributed context (findMatches scope identifiers found) := by
  induction identifiers generalizing found with
  | nil => exact .done _
  | cons identifier rest inductionHypothesis =>
      refine Program.Runs.bind (.done _) fun normalizedValue => ?_
      refine Program.Runs.bind (.done _) fun identityNamespace => ?_
      exact (attributed_query (by trivial)).bind fun owner => inductionHypothesis _

private theorem attributed_updateObservedDevice
    (observation : DeviceObservation)
    (observedAt : Timestamp) (deviceId : Uuid) :
    Attributed context (updateObservedDevice library context generated
      observation observedAt deviceId) := by
  refine attributed_loadDevice.bind fun current => ?_
  refine (Program.runs_check _ _).bind fun _ => ?_
  refine (attributed_upsertIdentifiers _).bind fun _ => ?_
  rw [persistObservedFacts_eq]
  refine (attributed_writeFacts _).bind fun _ => ?_
  exact (attributed_query (by trivial)).bind fun _ => attributed_finishMutation

theorem attributed_reconcileObservation (observation : DeviceObservation) :
    Attributed context
      (reconcileObservation library context generated observation) := by
  refine Program.Runs.bind (.done _) fun _ => ?_
  refine Program.Runs.bind (.done _) fun _ => ?_
  refine (attributed_findMatches _ _).bind fun found => ?_
  refine (Program.runs_check _ _).bind fun _ => ?_
  cases (found.sort (· ≤ ·)).head? with
  | some deviceId =>
      exact (attributed_updateObservedDevice _ _ _).bind fun _ => .done _
  | none =>
      have created : Attributed context (createObservedDevice library context
          generated observation (observationTime generated observation)) := by
        rw [createObservedDevice_eq]
        exact attributed_storeNewDevice.bind fun _ =>
          attributed_finishMutation
      exact created.bind fun _ => .done _

end Operations

end NetworkManager.InventoryStore
