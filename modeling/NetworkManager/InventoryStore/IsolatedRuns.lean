import NetworkManager.InventoryStore.Isolation

/-!
# Isolated runs

Each operation of a scope, and each part that the operations share, runs alike
from two states that agree on the scope, and keeps them so.  Once a device of
the scope has been found or stored it stays there, so the statements that name
it by its id alone stay within the scope.  Only the insertion of a device and
the records of a mutation may end apart, where the states do not agree on what
these meet outside the scope.
-/

namespace NetworkManager.InventoryStore

open NetworkManager.Foundation
open NetworkManager.Domain.Inventory
open NetworkManager.Security
open NetworkManager.Transaction

section Audit

variable {organizationId auditId : Uuid} {left right : AuditStore.AuditDb}
  {excused : AuditStore.AuditStoreError → Prop} {library : AuditLibrary}
  {draft : AuditEventDraft}

private theorem any_hasChainSequence (rows : List AuditStore.AuditRow)
    (chainSequence : Int) :
    rows.any (AuditStore.AuditRow.hasChainSequence organizationId
        chainSequence) =
      (rows.filterMap (AuditStore.chainRow organizationId)).any fun stored =>
        stored.columns.chainSequence == chainSequence := by
  induction rows with
  | nil => rfl
  | cons row rest inductionHypothesis =>
      rw [List.any_cons, inductionHypothesis, List.filterMap_cons,
        AuditStore.AuditRow.hasChainSequence, AuditStore.chainRow]
      by_cases isOwn : row.organizationId = organizationId
      · rw [if_pos isOwn, isOwn, beq_self_eq_true, Bool.true_and]
        cases row.sealedColumns with
        | none => exact Bool.false_or _
        | some columns => rfl
      · rw [if_neg isOwn, beq_eq_false_iff_ne.mpr isOwn, Bool.false_and,
          Bool.false_or]

private theorem AuditAlike.execInsertEvent {row : AuditStore.AuditRow}
    (alike : AuditAlike row.organizationId row.id left right) :
    AuditStore.execInsertEvent row left =
      AuditStore.execInsertEvent row right := by
  simp only [AuditStore.execInsertEvent, alike.auditId, alike.eventHash,
    any_hasChainSequence, alike.chain]

private theorem AuditAlike.insert (row : AuditStore.AuditRow)
    (alike : AuditAlike organizationId auditId left right) :
    AuditAlike organizationId auditId ⟨left.rows ++ [row]⟩
      ⟨right.rows ++ [row]⟩ where
  chain := by rw [List.filterMap_append, List.filterMap_append, alike.chain]
  auditId := by rw [List.any_append, List.any_append, alike.auditId]
  eventHash eventHash := by
    rw [List.any_append, List.any_append, alike.eventHash]

private theorem AuditAlike.read {statement : AuditStore.Statement}
    {reply : AuditStore.Reply statement}
    (alike : AuditAlike organizationId auditId left right)
    (leftRead : AuditStore.auditSql.exec statement left = .ok (reply, []))
    (rightRead : AuditStore.auditSql.exec statement right = .ok (reply, [])) :
    (AuditStore.query statement).RunsAlike (fun _ _ => False) excused
      (fun _ => AuditAlike organizationId auditId) left right :=
  .of_read leftRead rightRead alike

private theorem AuditAlike.insertEvent {row : AuditStore.AuditRow}
    (alike : AuditAlike row.organizationId row.id left right) :
    (AuditStore.query (.insertEvent row)).RunsAlike (fun _ _ => False) excused
      (fun _ => AuditAlike row.organizationId row.id) left right := by
  have same : AuditStore.auditSql.exec (.insertEvent row) left =
      AuditStore.auditSql.exec (.insertEvent row) right :=
    alike.execInsertEvent
  apply Program.RunsAlike.of_statement same
  intro reply writes answered
  rw [AuditStore.execInsertEvent_eq_ok answered]
  exact alike.insert row

/-- An append to the chain of the organization. -/
theorem AuditAlike.appendInTx
    (alike : AuditAlike draft.organizationId auditId left right) :
    (AuditStore.appendInTx library auditId draft).RunsAlike (fun _ _ => False)
      excused (fun _ => AuditAlike draft.organizationId auditId) left right := by
  apply Program.RunsAlike.ofExcept_bind
  intro _ _
  apply (alike.read rfl rfl).bind
  intro _ left right alike
  have sameChain : right.chain draft.organizationId =
      left.chain draft.organizationId :=
    congrArg (List.insertionSort AuditStore.ChainRow.before) alike.chain.symm
  have sameHead : AuditStore.auditSql.exec
        (.selectChainHead draft.organizationId) right =
      .ok ((left.chain draft.organizationId).getLast?.map
        AuditStore.ChainRow.columns, []) := by
    rw [← sameChain]
  apply (alike.read rfl sameHead).bind
  intro head left right alike
  apply Program.RunsAlike.ofExcept_bind
  intro position _
  apply Program.RunsAlike.ofExcept_bind
  intro sealedEvent isSealed
  apply Program.RunsAlike.ofExcept_bind
  intro payload _
  rcases AuditEventDraft.seal_eq_ok_iff.mp
    (AuditStore.sealDraft_eq_ok isSealed) with ⟨hashed, _, isEvent⟩
  have sameOrganization :
      sealedEvent.event.organizationId = draft.organizationId := by
    rw [isEvent]
    rfl
  rw [← sameOrganization] at alike ⊢
  apply (@AuditAlike.insertEvent left right excused (AuditStore.sealedRow
    auditId position.1 payload sealedEvent) alike).bind
  intro _ left right alike
  exact .of_pure alike

private theorem query_inStep
    (leftStatement rightStatement : AuditStore.Statement) :
    Program.InStep (fun _ _ => False) (fun _ => True) (fun _ _ _ _ => True)
      (AuditStore.query leftStatement) (AuditStore.query rightStatement) left
      right := by
  apply Program.InStep.of_statements (D := AuditStore.auditSql)
  · exact fun _ _ => trivial
  · exact fun _ _ _ _ _ _ => trivial

/-- An append in any two audit trails, each of which may refuse it. -/
theorem appendInTx_runsAlike :
    (AuditStore.appendInTx library auditId draft).RunsAlike (fun _ _ => False)
      (fun _ => True) (fun _ _ _ => True) left right := by
  apply Program.InStep.ofExcept_bind fun _ _ => trivial
  intro _ _ _ _
  apply (query_inStep _ _).bind
  intro _ _ left right _
  apply (query_inStep _ _).bind
  intro leftHead rightHead left right _
  apply Program.InStep.ofExcept_bind fun _ _ => trivial
  intro leftPosition rightPosition _ _
  apply Program.InStep.ofExcept_bind fun _ _ => trivial
  intro leftEvent rightEvent _ _
  apply Program.InStep.ofExcept_bind fun _ _ => trivial
  intro leftPayload rightPayload _ _
  apply (query_inStep _ _).bind
  intro _ _ left right _
  exact .returned ⟨rfl, trivial⟩

end Audit

section Outbox

variable {event : PlatformEvents.NewOutboxEvent} {now : Timestamp}
  {left right : PlatformEvents.OutboxDb}

private theorem isSome_lookup_inserted {reply : Unit}
    {writes : List PlatformEvents.Write}
    (inserted : PlatformEvents.execInsertEvent event now left =
      .ok (reply, writes)) :
    ((PlatformEvents.outboxSql.applyAll writes left).events.lookup
      event.id).isSome = true := by
  rw [PlatformEvents.execInsertEvent] at inserted
  split_ifs at inserted
  cases inserted
  exact Option.isSome_of_eq_some
    (Table.lookup_put_self (PlatformEvents.newRow event now) left.events)

private theorem exec_insertEvent_eq_error {fault : SqlError}
    (isPositive : 0 < event.eventVersion)
    (refused : PlatformEvents.execInsertEvent event now left = .error fault) :
    fault = .uniqueViolation "outbox_events_pkey" := by
  rw [PlatformEvents.execInsertEvent] at refused
  split_ifs at refused with isTaken notPositive
  · exact (Except.error.inj refused).symm
  · omega

private theorem eventVersion_pos_of_validate
    (valid : event.validate = .ok ()) : 0 < event.eventVersion := by
  rw [PlatformEvents.NewOutboxEvent.validate] at valid
  split_ifs at valid with isInvalid
  simp only [Bool.or_eq_true, decide_eq_true_eq, not_or] at isInvalid
  omega

/-- Two outboxes that agree on whether the id of an event is taken. -/
theorem enqueue_runsAlike_of_sameId
    {excused : PlatformEvents.OutboxError → Prop}
    (sameId : (left.events.lookup event.id).isSome =
      (right.events.lookup event.id).isSome) :
    (PlatformEvents.enqueue event now).RunsAlike (fun _ _ => False) excused
      (fun _ left right => (left.events.lookup event.id).isSome =
        (right.events.lookup event.id).isSome) left right := by
  apply Program.RunsAlike.ofExcept_bind
  intro _ _
  have same : PlatformEvents.outboxSql.exec (.insertEvent event now) left =
      PlatformEvents.outboxSql.exec (.insertEvent event now) right := by
    simp only [PlatformEvents.execInsertEvent, sameId]
  apply Program.RunsAlike.of_statement same
  intro reply writes answered
  exact (isSome_lookup_inserted answered).trans
    (isSome_lookup_inserted (same.symm.trans answered)).symm

/-- Any two outboxes, where the id may be taken in one of them. -/
theorem enqueue_runsAlike :
    (PlatformEvents.enqueue event now).RunsAlike (fun _ _ => False)
      (fun failure => failure =
        .database (.uniqueViolation "outbox_events_pkey"))
      (fun _ _ _ => True) left right := by
  apply Program.RunsAlike.ofExcept_bind
  intro _ valid
  have isPositive := eventVersion_pos_of_validate valid
  apply @Program.RunsAlike.of_excused PlatformEvents.outboxSql _ _ _ _ _
    (.insertEvent event now)
  · rintro fault (refused | refused)
    · rw [exec_insertEvent_eq_error isPositive refused]
    · rw [exec_insertEvent_eq_error isPositive refused]
  · exact fun _ _ _ _ _ _ => ⟨rfl, trivial⟩

end Outbox

namespace TwoRuns

section Records

variable {runs : TwoRuns} {scope : Scope} {left right : InventoryDb}
  {library : InventoryLibrary} {context : MutationContext}

private theorem Isolated.withAudit {leftAudit rightAudit : AuditStore.AuditDb}
    (isolated : runs.Isolated scope left right)
    (alike : runs.BeganAlike scope → AuditAlike scope.organizationId
      runs.generated.auditId leftAudit rightAudit) :
    runs.Isolated scope { left with audit := leftAudit }
      { right with audit := rightAudit } where
  rows := isolated.rows
  outside began :=
    ⟨(isolated.outside began).deviceId, alike began,
      (isolated.outside began).outboxId⟩
  leftConstrained := ⟨isolated.leftConstrained.identifierDevice,
    isolated.leftConstrained.factDevice, isolated.leftConstrained.strongUnique⟩
  rightConstrained := ⟨isolated.rightConstrained.identifierDevice,
    isolated.rightConstrained.factDevice,
    isolated.rightConstrained.strongUnique⟩
  leftSpares := isolated.leftSpares
  rightSpares := isolated.rightSpares

private theorem Isolated.withOutbox
    {leftOutbox rightOutbox : PlatformEvents.OutboxDb}
    (isolated : runs.Isolated scope left right)
    (sameId : runs.BeganAlike scope →
      (leftOutbox.events.lookup runs.generated.outboxId).isSome =
        (rightOutbox.events.lookup runs.generated.outboxId).isSome) :
    runs.Isolated scope { left with outbox := leftOutbox }
      { right with outbox := rightOutbox } where
  rows := isolated.rows
  outside began :=
    ⟨(isolated.outside began).deviceId, (isolated.outside began).audit,
      sameId began⟩
  leftConstrained := ⟨isolated.leftConstrained.identifierDevice,
    isolated.leftConstrained.factDevice, isolated.leftConstrained.strongUnique⟩
  rightConstrained := ⟨isolated.rightConstrained.identifierDevice,
    isolated.rightConstrained.factDevice,
    isolated.rightConstrained.strongUnique⟩
  leftSpares := isolated.leftSpares
  rightSpares := isolated.rightSpares

/-- The audit event of a mutation. -/
theorem Isolated.appendInTx {draft : AuditEventDraft}
    (isolated : runs.Isolated scope left right)
    (isOwn : draft.organizationId = scope.organizationId) :
    runs.Keeps scope (auditEmbedding.lift InventoryError.audit
        (AuditStore.appendInTx library.audit runs.generated.auditId draft))
      (fun _ => runs.Isolated scope) left right := by
  by_cases began : runs.BeganAlike scope
  · have alike := (isolated.outside began).audit
    rw [← isOwn] at alike
    apply (@Program.RunsAlike.lift _ inventorySql _ _ _ _ _ _ _ auditEmbedding
      InventoryError.audit _ (runs.Excused scope) left right
      (@AuditAlike.appendInTx _ left.audit right.audit (fun _ => False)
        library.audit draft alike)
      (fun _ isFalse => isFalse.elim) fun _ _ isFalse => isFalse.elim).mono
    rintro _ _ _ ⟨leftAudit, rightAudit, alike, rfl, rfl⟩
    rw [isOwn] at alike
    exact isolated.withAudit fun _ => alike
  · apply (@Program.RunsAlike.lift _ inventorySql _ _ _ _ _ _ _ auditEmbedding
      InventoryError.audit _ (runs.Excused scope) left right
      appendInTx_runsAlike (fun _ _ => ⟨began, trivial⟩)
      fun _ _ isFalse => isFalse.elim).mono
    rintro _ _ _ ⟨leftAudit, rightAudit, _, rfl, rfl⟩
    exact isolated.withAudit fun isAlike => absurd isAlike began

/-- The outbox event of a mutation. -/
theorem Isolated.enqueue {event : PlatformEvents.NewOutboxEvent}
    {now : Timestamp} (isolated : runs.Isolated scope left right)
    (isGenerated : event.id = runs.generated.outboxId) :
    runs.Keeps scope (outboxEmbedding.lift InventoryError.outbox
        (PlatformEvents.enqueue event now))
      (fun _ => runs.Isolated scope) left right := by
  by_cases began : runs.BeganAlike scope
  · have sameId := (isolated.outside began).outboxId
    rw [← isGenerated] at sameId
    apply (@Program.RunsAlike.lift _ inventorySql _ _ _ _ _ _ _ outboxEmbedding
      InventoryError.outbox _ (runs.Excused scope) left right
      (@enqueue_runsAlike_of_sameId event now left.outbox right.outbox
        (fun _ => False) sameId)
      (fun _ isFalse => isFalse.elim) fun _ _ isFalse => isFalse.elim).mono
    rintro _ _ _ ⟨leftOutbox, rightOutbox, sameId, rfl, rfl⟩
    rw [isGenerated] at sameId
    exact isolated.withOutbox fun _ => sameId
  · apply (@Program.RunsAlike.lift _ inventorySql _ _ _ _ _ _ _ outboxEmbedding
      InventoryError.outbox _ (runs.Excused scope) left right
      enqueue_runsAlike (fun _ collides => ⟨began, collides⟩)
      fun _ _ isFalse => isFalse.elim).mono
    rintro _ _ _ ⟨leftOutbox, rightOutbox, _, rfl, rfl⟩
    exact isolated.withOutbox fun isAlike => absurd isAlike began

private theorem Isolated.writeMutationRecords {action eventType : String}
    {device : DeviceView} {before after : Option Value}
    (isolated : runs.Isolated context.scope left right) :
    runs.Keeps context.scope (InventoryStore.writeMutationRecords library
        context runs.generated action eventType device before after)
      (fun _ => runs.Isolated context.scope) left right := by
  apply (isolated.appendInTx rfl).bind
  intro _ left right isolated
  exact isolated.enqueue rfl

end Records

/-! ## Parts of the operations -/

/-- Two isolated runs that have a device in the scope. -/
structure Holding (runs : TwoRuns) (scope : Scope) (deviceId : Uuid)
    (left right : InventoryDb) : Prop where
  isolated : runs.Isolated scope left right
  present : (left.deviceIn scope deviceId).isSome

section Parts

variable {runs : TwoRuns} {scope : Scope} {deviceId : Uuid}
  {left right : InventoryDb} {library : InventoryLibrary}
  {context : MutationContext}

/-- One statement within the scope. -/
theorem Isolated.exec {statement : Statement} {reply : Reply statement}
    {writes : List Write}
    (isolated : runs.Isolated scope left right)
    (within : statement.Within scope left)
    (answered : inventorySql.exec statement left = .ok (reply, writes)) :
    runs.Isolated scope
        (inventorySql.applyAll writes left)
        (inventorySql.applyAll writes right) ∧
      ∀ other, (left.deviceIn scope other).isSome →
        ((inventorySql.applyAll writes left).deviceIn scope other).isSome := by
  have withinRight := within.congr isolated.rows
  have answeredRight := (exec_congr isolated.rows isolated.leftConstrained
    isolated.rightConstrained within).symm.trans answered
  rcases length_writes_le within answered with rfl | ⟨write, rfl⟩
  · exact ⟨isolated, fun _ present => present⟩
  · have writesLeft := within_of_exec isolated.leftConstrained within answered
      write (List.mem_singleton_self write)
    have writesRight := within_of_exec isolated.rightConstrained withinRight
      answeredRight write (List.mem_singleton_self write)
    exact ⟨isolated.write writesLeft writesRight,
      fun _ present => deviceIn_applyWrite writesLeft present⟩

private theorem Isolated.query (statement : Statement)
    (isolated : runs.Isolated scope left right)
    (within : statement.Within scope left) :
    runs.Keeps scope
      (InventoryStore.query statement)
      (fun _ => runs.Isolated scope) left right := by
  apply Program.RunsAlike.of_statement
  · exact exec_congr isolated.rows isolated.leftConstrained
      isolated.rightConstrained within
  · intro reply writes answered
    exact (isolated.exec within answered).1

private theorem Holding.statement (statement : Statement)
    {onFault : SqlError → InventoryError}
    (holding : runs.Holding scope deviceId left right)
    (within : statement.Within scope left) :
    runs.Keeps scope
      (Program.statement (D := inventorySql) statement onFault)
      (fun _ => runs.Holding scope deviceId) left right := by
  apply Program.RunsAlike.of_statement
  · exact exec_congr holding.isolated.rows holding.isolated.leftConstrained
      holding.isolated.rightConstrained within
  · intro reply writes answered
    have reached := holding.isolated.exec within answered
    exact ⟨reached.1, reached.2 deviceId holding.present⟩

private theorem Isolated.holding_of_inserted {row : DeviceView} {reply : Unit}
    {leftWrites rightWrites : List Write}
    (isolated : runs.Isolated row.scope left right)
    (leftAnswer : execInsertDevice row left = .ok (reply, leftWrites))
    (rightAnswer : execInsertDevice row right = .ok (reply, rightWrites)) :
    runs.Holding row.scope row.id (inventorySql.applyAll leftWrites left)
      (inventorySql.applyAll rightWrites right) := by
  rw [execInsertDevice] at leftAnswer rightAnswer
  split_ifs at leftAnswer rightAnswer with leftTaken rightTaken
  cases leftAnswer
  cases rightAnswer
  exact ⟨isolated.write
      (within_insertDevice (Option.not_isSome_iff_eq_none.mp leftTaken))
      (within_insertDevice (Option.not_isSome_iff_eq_none.mp rightTaken)),
    Option.isSome_of_eq_some (deviceIn_withDevice left row)⟩

private theorem exec_insertDevice_eq_error {row : DeviceView} {fault : SqlError}
    (refused : execInsertDevice row left = .error fault) :
    fault = .uniqueViolation "devices_pkey" := by
  rw [execInsertDevice] at refused
  split_ifs at refused with isTaken
  exact (Except.error.inj refused).symm

/-- The insertion of a device, whose id may be taken outside the scope. -/
theorem Isolated.insertDevice {row : DeviceView}
    (isolated : runs.Isolated scope left right) (inScope : row.scope = scope)
    (isGenerated : row.id = runs.generated.deviceId) :
    runs.Keeps scope (InventoryStore.query (.insertDevice row))
      (fun _ => runs.Holding scope row.id) left right := by
  subst inScope
  by_cases began : runs.BeganAlike row.scope
  · have sameId := (isolated.outside began).deviceId
    have same : execInsertDevice row left = execInsertDevice row right := by
      simp only [execInsertDevice, isGenerated, sameId]
    apply @Program.RunsAlike.of_statement inventorySql _ _ _ _ _
      (.insertDevice row)
    · exact same
    · intro reply writes answered
      exact isolated.holding_of_inserted answered (same.symm.trans answered)
  · apply @Program.RunsAlike.of_excused inventorySql _ _ _ _ _
      (.insertDevice row)
    · rintro fault (refused | refused)
      · exact ⟨began, exec_insertDevice_eq_error refused⟩
      · exact ⟨began, exec_insertDevice_eq_error refused⟩
    · intro leftReply leftWrites rightReply rightWrites leftAnswer rightAnswer
      exact ⟨rfl, isolated.holding_of_inserted leftAnswer rightAnswer⟩

private theorem Isolated.selectDevice (forUpdate : Bool)
    (isolated : runs.Isolated scope left right) :
    runs.Keeps scope
      (InventoryStore.query (.selectDevice scope deviceId forUpdate))
      (fun (found : Option DeviceView) (left right : InventoryDb) =>
        runs.Isolated scope left right ∧
          left.deviceIn scope deviceId = found) left right := by
  have sameDevice : left.deviceIn scope deviceId =
      right.deviceIn scope deviceId :=
    congrFun (congrArg ScopeRows.devices isolated.rows) deviceId
  have rightRead : inventorySql.exec (.selectDevice scope deviceId forUpdate)
      right = .ok (left.deviceIn scope deviceId, []) := by
    rw [sameDevice]
  exact .of_read rfl rightRead ⟨isolated, rfl⟩

private theorem Isolated.loadDevice (forUpdate : Bool)
    (isolated : runs.Isolated scope left right) :
    runs.Keeps scope
      (loadDevice scope deviceId forUpdate)
      (fun _ => runs.Holding scope deviceId) left right := by
  apply (isolated.selectDevice forUpdate).bind
  rintro found left right ⟨isolated, isFound⟩
  apply Program.RunsAlike.of_ofExcept
  intro device loaded
  cases found with
  | none => cases loaded
  | some given => exact ⟨isolated, Option.isSome_of_eq_some isFound⟩

private theorem Holding.upsertIdentifier (observedAt : Option Timestamp)
    (identifier : NewIdentifier)
    (holding : runs.Holding scope deviceId left right) :
    runs.Keeps scope
      (upsertIdentifier scope deviceId observedAt identifier)
      (fun _ => runs.Holding scope deviceId) left right := by
  apply Program.RunsAlike.ofExcept_bind
  intro _ _
  apply Program.RunsAlike.ofExcept_bind
  intro normalizedValue _
  apply Program.RunsAlike.ofExcept_bind
  intro identityNamespace _
  let row := identifierRow scope deviceId identifier identityNamespace
    normalizedValue observedAt
  apply (holding.statement (.updateIdentifier row) rfl).bind
  intro updated left right holding
  by_cases isUpdated : 0 < updated
  · rw [if_pos isUpdated]
    exact .of_pure holding
  · rw [if_neg isUpdated]
    exact holding.statement (.insertIdentifier row) ⟨rfl, holding.present⟩

private theorem Holding.upsertIdentifiers (observedAt : Option Timestamp)
    (identifiers : List NewIdentifier)
    (holding : runs.Holding scope deviceId left right) :
    runs.Keeps scope
      (Program.forEach (InventoryStore.upsertIdentifier scope deviceId
          observedAt) identifiers)
      (fun _ => runs.Holding scope deviceId) left right := by
  apply Program.RunsAlike.forEach identifiers _ holding
  intro identifier _ left right holding
  exact holding.upsertIdentifier observedAt identifier

private theorem Holding.writeFacts {facts : List FactRow}
    (factsOf : FactsOf scope deviceId facts)
    (holding : runs.Holding scope deviceId left right) :
    runs.Keeps scope
      (writeFacts facts)
      (fun _ => runs.Holding scope deviceId) left right := by
  apply Program.RunsAlike.forEach facts _ holding
  intro fact member left right holding
  rcases factsOf fact member with ⟨inScope, ofDevice⟩
  apply holding.statement (.upsertFact fact)
  refine ⟨inScope, ?_⟩
  rw [ofDevice]
  exact holding.present

private theorem Isolated.appendLifecycleEvent
    {fromState : Option DeviceLifecycle}
    {toState : DeviceLifecycle} {reason : Option String}
    (isolated : runs.Isolated context.scope left right) :
    runs.Keeps context.scope
      (appendLifecycleEvent context deviceId fromState toState reason)
      (fun _ => runs.Isolated context.scope) left right :=
  isolated.query (.insertLifecycleEvent
    (appendedEvent context deviceId fromState toState reason)) rfl

private theorem Isolated.finishMutation {action eventType : String}
    {before : Option DeviceView}
    (isolated : runs.Isolated context.scope left right) :
    runs.Keeps context.scope
      (finishMutation library context runs.generated action eventType deviceId
          before)
      (fun _ => runs.Isolated context.scope) left right := by
  apply (isolated.loadDevice false).bind
  intro device left right holding
  apply holding.isolated.writeMutationRecords.bind
  intro _ left right isolated
  exact .commit isolated (.returned ⟨rfl, isolated⟩)

private theorem Isolated.storeNewDevice {row : DeviceView}
    {observedAt : Option Timestamp} {identifiers : List NewIdentifier}
    {facts : List FactRow} {reason : String}
    (isolated : runs.Isolated context.scope left right)
    (inScope : row.scope = context.scope)
    (isGenerated : row.id = runs.generated.deviceId)
    (factsOf : FactsOf context.scope row.id facts) :
    runs.Keeps context.scope
      (storeNewDevice context row observedAt identifiers facts reason)
      (fun _ => runs.Isolated context.scope) left right := by
  apply (isolated.insertDevice inScope isGenerated).bind
  intro _ left right holding
  apply (holding.upsertIdentifiers observedAt identifiers).bind
  intro _ left right holding
  apply (holding.writeFacts factsOf).bind
  intro _ left right holding
  exact holding.isolated.appendLifecycleEvent

end Parts

section Operations

variable {runs : TwoRuns} {deviceId : Uuid} {left right : InventoryDb}
  {library : InventoryLibrary} {context : MutationContext}

theorem Isolated.createManual {input : NewDevice} {approvalRequired : Bool}
    (isolated : runs.Isolated context.scope left right) :
    runs.Keeps context.scope
      (createManual library context runs.generated input approvalRequired)
      (fun _ => runs.Isolated context.scope) left right := by
  rw [createManual_eq]
  apply Program.RunsAlike.ofExcept_bind
  intro _ _
  apply Program.RunsAlike.ofExcept_bind
  intro _ _
  apply (isolated.storeNewDevice rfl rfl
    (factsOf_declaredFacts context.scope runs.generated.deviceId
      (declaredValues input))).bind
  intro _ left right isolated
  exact isolated.finishMutation

theorem Isolated.updateMetadata {expectedVersion : Int} {patch : MetadataPatch}
    (isolated : runs.Isolated context.scope left right) :
    runs.Keeps context.scope
      (updateMetadata library context runs.generated deviceId expectedVersion
          patch)
      (fun _ => runs.Isolated context.scope) left right := by
  apply Program.RunsAlike.ofExcept_bind
  intro _ _
  apply Program.RunsAlike.ofExcept_bind
  intro _ _
  apply (isolated.loadDevice true).bind
  intro current left right holding
  apply Program.RunsAlike.check_bind
  intro _
  apply Program.RunsAlike.check_bind
  intro _
  apply (holding.statement (.updateMetadata context.scope deviceId
    (patchedTexts patch current) (patch.deviceType.getD current.deviceType)
    (patch.capabilities.getD current.capabilities) runs.generated.now) rfl).bind
  intro _ left right holding
  rw [persistPatchFacts_eq]
  apply (holding.writeFacts (factsOf_declaredFacts context.scope deviceId
    (patchedValues patch))).bind
  intro _ left right holding
  exact holding.isolated.finishMutation

theorem Isolated.transitionLifecycle {expectedVersion : Int}
    {next : DeviceLifecycle} {reason : Option String}
    (isolated : runs.Isolated context.scope left right) :
    runs.Keeps context.scope
      (transitionLifecycle library context runs.generated deviceId expectedVersion
          next reason)
      (fun _ => runs.Isolated context.scope) left right := by
  apply Program.RunsAlike.ofExcept_bind
  intro _ _
  apply (isolated.loadDevice true).bind
  intro current left right holding
  apply Program.RunsAlike.check_bind
  intro _
  by_cases already : current.lifecycle = next
  · rw [if_pos already]
    exact .of_pure holding.isolated
  · rw [if_neg already]
    apply Program.RunsAlike.check_bind
    intro _
    apply Program.RunsAlike.check_bind
    intro _
    apply (holding.statement (.updateLifecycle context.scope deviceId next
      (cleanOptional reason) runs.generated.now) rfl).bind
    intro _ left right holding
    apply holding.isolated.appendLifecycleEvent.bind
    intro _ left right isolated
    exact isolated.finishMutation

private theorem Isolated.findMatches
    {scope : Scope} (identifiers : List NewIdentifier)
    (found : Finset Uuid)
    (isolated : runs.Isolated scope left right) :
    runs.Keeps scope
      (findMatches scope identifiers found)
      (fun _ => runs.Isolated scope) left right := by
  induction identifiers generalizing found left right with
  | nil => exact .of_pure isolated
  | cons identifier rest inductionHypothesis =>
      apply Program.RunsAlike.ofExcept_bind
      intro normalizedValue _
      apply Program.RunsAlike.ofExcept_bind
      intro identityNamespace _
      apply (isolated.query (.selectStrongOwner scope
        ⟨identifier.kind, identityNamespace, normalizedValue⟩) rfl).bind
      intro owner left right isolated
      exact inductionHypothesis _ isolated

private theorem Isolated.updateObservedDevice {observation : DeviceObservation}
    {observedAt : Timestamp}
    (isolated : runs.Isolated context.scope left right) :
    runs.Keeps context.scope
      (updateObservedDevice library context runs.generated observation observedAt
          deviceId)
      (fun _ => runs.Isolated context.scope) left right := by
  apply (isolated.loadDevice true).bind
  intro current left right holding
  apply Program.RunsAlike.check_bind
  intro _
  apply (holding.upsertIdentifiers (some observedAt)
    observation.identifiers).bind
  intro _ left right holding
  rw [persistObservedFacts_eq]
  apply (holding.writeFacts (factsOf_observedFacts context.scope deviceId
    observedAt (observedValues observation))).bind
  intro _ left right holding
  apply (holding.statement (.updateObserved deviceId
    (fun field => cleanOptional (observation.text field))
    observation.deviceType observation.capabilities observedAt runs.generated.now)
    holding.present).bind
  intro _ left right holding
  exact holding.isolated.finishMutation

private theorem Isolated.createObservedDevice {observation : DeviceObservation}
    (isolated : runs.Isolated context.scope left right) :
    runs.Keeps context.scope
      (createObservedDevice library context runs.generated observation
          (observationTime runs.generated observation))
      (fun _ => runs.Isolated context.scope) left right := by
  rw [createObservedDevice_eq]
  apply (isolated.storeNewDevice rfl rfl
    (factsOf_observedFacts context.scope runs.generated.deviceId
      (observationTime runs.generated observation)
      (observedValues observation))).bind
  intro _ left right isolated
  exact isolated.finishMutation

theorem Isolated.reconcileObservation {observation : DeviceObservation}
    (isolated : runs.Isolated context.scope left right) :
    runs.Keeps context.scope
      (reconcileObservation library context runs.generated observation)
      (fun _ => runs.Isolated context.scope) left right := by
  apply Program.RunsAlike.ofExcept_bind
  intro _ _
  apply Program.RunsAlike.ofExcept_bind
  intro _ _
  apply (isolated.findMatches
    (strongIdentifiers observation.identifiers) ∅).bind
  intro found left right isolated
  apply Program.RunsAlike.check_bind
  intro _
  cases (found.sort (· ≤ ·)).head? with
  | some deviceId =>
      apply isolated.updateObservedDevice.bind
      intro device left right isolated
      exact .of_pure isolated
  | none =>
      apply isolated.createObservedDevice.bind
      intro device left right isolated
      exact .of_pure isolated

end Operations

end TwoRuns

end NetworkManager.InventoryStore
