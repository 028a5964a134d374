import NetworkManager.InventoryStore.Runs
import NetworkManager.InventoryStore.ScopeRows
import NetworkManager.InventoryStore.Scoping
import NetworkManager.Transaction.Noninterference

/-!
# Isolation of scopes

A statement of a scope has the same answer in two states with the same rows of
the scope, and leaves the rows of every other scope alone.  What a mutation
meets outside the scope is in the primary keys of devices, audit events and
outbox events, in the audit chain of the organization and in the unique index
on event hashes.
-/

namespace NetworkManager.InventoryStore

open NetworkManager.Foundation
open NetworkManager.Domain.Inventory
open NetworkManager.Security
open NetworkManager.Transaction

/-- Two states agree on an audit trail as far as an append to the chain of an
organization can tell. -/
structure AuditAlike (organizationId auditId : Uuid)
    (left right : AuditStore.AuditDb) : Prop where
  chain : left.rows.filterMap (AuditStore.chainRow organizationId) =
    right.rows.filterMap (AuditStore.chainRow organizationId)
  auditId : (left.rows.any fun stored => stored.id == auditId) =
    right.rows.any fun stored => stored.id == auditId
  eventHash : ∀ eventHash, left.rows.any (AuditStore.AuditRow.hasEventHash
      eventHash) =
    right.rows.any (AuditStore.AuditRow.hasEventHash eventHash)

/-- Two states agree on what a mutation of a scope meets outside it: the audit
chain of the organization, and which of the generated values are taken. -/
structure AlikeOutside (scope : Scope) (generated : Generated)
    (left right : InventoryDb) : Prop where
  deviceId : (left.devices.lookup generated.deviceId).isSome =
    (right.devices.lookup generated.deviceId).isSome
  audit : AuditAlike scope.organizationId generated.auditId left.audit
    right.audit
  outboxId : (left.outbox.events.lookup generated.outboxId).isSome =
    (right.outbox.events.lookup generated.outboxId).isSome

/-- The rows of the other scopes are as they were. -/
def Spares (scope : Scope) (before after : InventoryDb) : Prop :=
  ∀ other, other ≠ scope → after.rowsOf other = before.rowsOf other

/-- A call failed for what it met outside its scope. -/
def Collides : InventoryError → Prop
  | .database fault => fault = .uniqueViolation "devices_pkey"
  | .audit _ => True
  | .outbox failure =>
      failure = .database (.uniqueViolation "outbox_events_pkey")
  | _ => False

/-- Two runs of a call, each from a state of its own. -/
structure TwoRuns where
  generated : Generated
  leftStart : InventoryDb
  rightStart : InventoryDb

namespace TwoRuns

/-- The runs have begun in states that agree outside the scope. -/
def BeganAlike (runs : TwoRuns) (scope : Scope) : Prop :=
  AlikeOutside scope runs.generated runs.leftStart runs.rightStart

/-- The runs agree on the scope so far, and have spared the other scopes. -/
structure Isolated (runs : TwoRuns) (scope : Scope)
    (left right : InventoryDb) : Prop where
  rows : left.rowsOf scope = right.rowsOf scope
  outside : runs.BeganAlike scope →
    AlikeOutside scope runs.generated left right
  leftConstrained : Constrained left
  rightConstrained : Constrained right
  leftSpares : Spares scope runs.leftStart left
  rightSpares : Spares scope runs.rightStart right

/-- Runs that have not begun alike outside the scope may collide there. -/
def Excused (runs : TwoRuns) (scope : Scope) (failure : InventoryError) :
    Prop :=
  ¬runs.BeganAlike scope ∧ Collides failure

/-- The program keeps the runs isolated. -/
abbrev Keeps {α : Type} (runs : TwoRuns) (scope : Scope) (program : Store α)
    (post : α → InventoryDb → InventoryDb → Prop)
    (left right : InventoryDb) : Prop :=
  program.RunsAlike (runs.Isolated scope) (runs.Excused scope) post left right

end TwoRuns

/-! ## Statements of a scope -/

/-- The statement is about a device of the scope.  Where it names one by its id
alone, the device has to be there. -/
def Statement.Within (scope : Scope) (db : InventoryDb) : Statement → Prop
  | .selectStrongOwner given _ => given = scope
  | .selectDevice given _ _ => given = scope
  | .insertDevice _ => False
  | .updateMetadata given .. => given = scope
  | .updateLifecycle given .. => given = scope
  | .updateObserved deviceId .. => (db.deviceIn scope deviceId).isSome
  | .updateIdentifier row => row.scope = scope
  | .insertIdentifier row => row.scope = scope ∧
      (db.deviceIn scope row.deviceId).isSome
  | .upsertFact row => row.scope = scope ∧
      (db.deviceIn scope row.key.deviceId).isSome
  | .insertLifecycleEvent event => event.scope = scope
  | .audit _ => False
  | .outbox _ => False

section Statements

variable {scope : Scope} {db left right : InventoryDb} {statement : Statement}

private theorem strongOwner_congr
    (same : left.rowsOf scope = right.rowsOf scope)
    (constrainedLeft : Constrained left) (constrainedRight : Constrained right)
    (identity : IdentifierKey) :
    left.strongOwner scope identity = right.strongOwner scope identity := by
  apply Option.ext
  intro deviceId
  rw [constrainedLeft.strongOwner_eq_some_iff,
    constrainedRight.strongOwner_eq_some_iff, same]

/-- Two states with the same rows of a scope answer alike. -/
theorem exec_congr (same : left.rowsOf scope = right.rowsOf scope)
    (constrainedLeft : Constrained left) (constrainedRight : Constrained right)
    (within : statement.Within scope left) :
    inventorySql.exec statement left = inventorySql.exec statement right := by
  have devices (deviceId : Uuid) : left.deviceIn scope deviceId =
      right.deviceIn scope deviceId :=
    congrFun (congrArg ScopeRows.devices same) deviceId
  have there {deviceId : Uuid}
      (present : (left.deviceIn scope deviceId).isSome) :
      (right.deviceIn scope deviceId).isSome := devices deviceId ▸ present
  cases statement with
  | selectStrongOwner given identity =>
      cases within
      simp only [strongOwner_congr same constrainedLeft
        constrainedRight identity]
  | selectDevice given deviceId forUpdate =>
      cases within
      simp only [devices]
  | insertDevice row => exact within.elim
  | updateMetadata given deviceId texts deviceType capabilities now =>
      cases within
      simp only [devices]
  | updateLifecycle given deviceId next reason now =>
      cases within
      simp only [devices]
  | updateObserved deviceId texts deviceType capabilities observedAt now =>
      have sameRow : left.devices.lookup deviceId =
          right.devices.lookup deviceId := by
        rw [← devices_rowsOf within, ← devices_rowsOf (there within),
          same]
      have sameFacts : left.hasDeclaredFact deviceId =
          right.hasDeclaredFact deviceId := by
        funext field
        rw [Bool.eq_iff_iff, constrainedLeft.hasDeclaredFact_iff within,
          constrainedRight.hasDeclaredFact_iff (there within), same]
      simp only [sameRow, sameFacts]
  | updateIdentifier row =>
      cases within
      have sameRow : (left.identifiers.lookup row.key).filter
          (fun stored => stored.scope = row.scope) =
          (right.identifiers.lookup row.key).filter
            (fun stored => stored.scope = row.scope) :=
        congrFun (congrArg ScopeRows.identifiers same) row.key
      simp only [execUpdateIdentifier, sameRow]
  | insertIdentifier row =>
      rcases within with ⟨rfl, present⟩
      have sameRow : left.identifiers.lookup row.key =
          right.identifiers.lookup row.key := by
        rw [IdentifierRow.key, ← constrainedLeft.identifiers_rowsOf present,
          ← constrainedRight.identifiers_rowsOf (there present), same]
      simp only [execInsertIdentifier, sameRow, devices,
        strongOwner_congr same constrainedLeft constrainedRight]
  | upsertFact row =>
      rcases within with ⟨rfl, present⟩
      have sameRow : left.facts.lookup row.key =
          right.facts.lookup row.key := by
        rw [← constrainedLeft.facts_rowsOf present,
          ← constrainedRight.facts_rowsOf (there present), same]
      simp only [execUpsertFact, sameRow, devices]
  | insertLifecycleEvent event =>
      cases within
      simp only [execInsertLifecycleEvent, devices]
  | audit given => exact within.elim
  | outbox given => exact within.elim

private theorem within_updateDevice {deviceId : Uuid} {write : Write}
    (change : DeviceView → DeviceView)
    (sameId : ∀ device, (change device).id = device.id)
    (sameScope : ∀ device, (change device).scope = device.scope)
    (member : write ∈ (updateDevice (db.deviceIn scope deviceId) change).2) :
    write.Within scope db := by
  rcases mem_updateDevice member with ⟨stored, found, rfl⟩
  rcases deviceIn_eq_some_iff.mp found with ⟨isStored, inScope⟩
  refine ⟨(sameScope stored).trans inScope, ?_⟩
  rw [sameId, id_of_deviceIn found]
  intro other otherFound
  cases isStored.symm.trans otherFound
  exact inScope

private theorem within_execUpdateIdentifier (constrained : Constrained db)
    {row : IdentifierRow} (inScope : row.scope = scope) {write : Write}
    (member : write ∈ (execUpdateIdentifier row db).2) :
    write.Within scope db := by
  rw [execUpdateIdentifier] at member
  cases found : (db.identifiers.lookup row.key).filter
      fun stored => stored.scope = row.scope with
  | none =>
      rw [found] at member
      cases member
  | some stored =>
      rw [found] at member
      rcases Option.filter_eq_some_iff.mp found with ⟨isStored, sameScope⟩
      have isRow := Table.mem_of_lookup isStored
      have storedScope : stored.scope = scope :=
        (of_decide_eq_true sameScope).trans inScope
      have present := constrained.identifierDevice stored isRow
      rw [storedScope] at present
      rw [List.mem_singleton.mp member]
      refine ⟨storedScope, present, ?_⟩
      intro other otherRow strong otherStrong
      exact constrained.strongUnique other otherRow stored isRow otherStrong
        strong

private theorem within_execInsertIdentifier (constrained : Constrained db)
    {row : IdentifierRow} (inScope : row.scope = scope)
    (present : (db.deviceIn scope row.deviceId).isSome) {reply : Unit}
    {writes : List Write} {write : Write}
    (answered : execInsertIdentifier row db = .ok (reply, writes))
    (member : write ∈ writes) : write.Within scope db := by
  rw [mem_execInsertIdentifier answered member]
  refine ⟨inScope, present, ?_⟩
  intro other otherRow strong otherStrong sameScope sameIdentity
  rw [execInsertIdentifier] at answered
  split_ifs at answered with isTaken isOwned isAbsent
  exfalso
  apply isOwned
  refine ⟨strong, ?_⟩
  have isKey : other.key = (other.deviceId, row.identity) :=
    congrArg (Prod.mk _) sameIdentity
  have found := Table.lookup_of_mem otherRow
  rw [isKey] at found
  have owner : db.strongOwner row.scope row.identity = some other.deviceId :=
    constrained.strongOwner_eq_some_iff.mpr ⟨other,
      Option.filter_eq_some_iff.mpr ⟨found, decide_eq_true sameScope⟩,
      otherStrong⟩
  rw [owner]
  rfl

private theorem within_execUpsertFact
    (constrained : Constrained db) {row : FactRow}
    (inScope : row.scope = scope)
    (present : (db.deviceIn scope row.key.deviceId).isSome) {reply : Unit}
    {writes : List Write} {write : Write}
    (answered : execUpsertFact row db = .ok (reply, writes))
    (member : write ∈ writes) : write.Within scope db := by
  rw [execUpsertFact] at answered
  cases found : db.facts.lookup row.key with
  | none =>
      simp only [found] at answered
      split_ifs at answered
      cases answered
      rw [List.mem_singleton.mp member]
      exact ⟨inScope, present⟩
  | some stored =>
      simp only [found] at answered
      cases answered
      have isKey := Table.key_of_lookup found
      have there := constrained.factDevice stored (Table.mem_of_lookup found)
      rw [isKey] at there
      have storedScope := scope_eq_of_deviceIn present there
      rw [List.mem_singleton.mp member]
      refine ⟨storedScope, ?_⟩
      rw [← isKey] at present
      exact present

/-- Within a scope, a statement writes within it. -/
theorem within_of_exec (constrained : Constrained db)
    (within : statement.Within scope db) {reply : Reply statement}
    {writes : List Write}
    (answered : inventorySql.exec statement db = .ok (reply, writes)) :
    ∀ write ∈ writes, write.Within scope db := by
  intro write member
  cases statement with
  | selectStrongOwner given identity =>
      rw [← (Prod.mk.inj (Except.ok.inj answered)).2] at member
      cases member
  | selectDevice given deviceId forUpdate =>
      rw [← (Prod.mk.inj (Except.ok.inj answered)).2] at member
      cases member
  | insertDevice row => exact within.elim
  | updateMetadata given deviceId texts deviceType capabilities now =>
      cases within
      rw [← (Prod.mk.inj (Except.ok.inj answered)).2] at member
      exact within_updateDevice
        (setMetadata texts deviceType capabilities now) (fun _ => rfl)
        (fun _ => rfl) member
  | updateLifecycle given deviceId next reason now =>
      cases within
      rw [← (Prod.mk.inj (Except.ok.inj answered)).2] at member
      exact within_updateDevice (setLifecycle next reason now) (fun _ => rfl)
        (fun _ => rfl) member
  | updateObserved deviceId texts deviceType capabilities observedAt now =>
      have present : (db.deviceIn scope deviceId).isSome := within
      have sameRow : db.deviceIn scope deviceId = db.devices.lookup deviceId :=
        devices_rowsOf present
      rw [← (Prod.mk.inj (Except.ok.inj answered)).2, ← sameRow] at member
      exact within_updateDevice
        (setObserved (db.hasDeclaredFact deviceId) texts deviceType capabilities
          observedAt now) (fun _ => rfl) (fun _ => rfl) member
  | updateIdentifier row =>
      rw [← (Prod.mk.inj (Except.ok.inj answered)).2] at member
      exact within_execUpdateIdentifier constrained within member
  | insertIdentifier row =>
      exact within_execInsertIdentifier constrained within.1 within.2 answered
        member
  | upsertFact row =>
      exact within_execUpsertFact constrained within.1 within.2 answered member
  | insertLifecycleEvent event =>
      rw [mem_execInsertLifecycleEvent answered member]
      exact within
  | audit given => exact within.elim
  | outbox given => exact within.elim

theorem length_writes_le (within : statement.Within scope db)
    {reply : Reply statement} {writes : List Write}
    (answered : inventorySql.exec statement db = .ok (reply, writes)) :
    writes = [] ∨ ∃ write, writes = [write] := by
  have updated (found : Option DeviceView) (change : DeviceView → DeviceView)
      (isAnswer : (updateDevice found change).2 = writes) :
      writes = [] ∨ ∃ write, writes = [write] := by
    rw [← isAnswer]
    cases found with
    | none => exact Or.inl rfl
    | some stored => exact Or.inr ⟨_, rfl⟩
  cases statement with
  | selectStrongOwner given identity =>
      exact Or.inl (Prod.mk.inj (Except.ok.inj answered)).2.symm
  | selectDevice given deviceId forUpdate =>
      exact Or.inl (Prod.mk.inj (Except.ok.inj answered)).2.symm
  | insertDevice row => exact within.elim
  | updateMetadata given deviceId texts deviceType capabilities now =>
      exact updated _ _ (Prod.mk.inj (Except.ok.inj answered)).2
  | updateLifecycle given deviceId next reason now =>
      exact updated _ _ (Prod.mk.inj (Except.ok.inj answered)).2
  | updateObserved deviceId texts deviceType capabilities observedAt now =>
      exact updated _ _ (Prod.mk.inj (Except.ok.inj answered)).2
  | updateIdentifier row =>
      have isAnswer : (execUpdateIdentifier row db).2 = writes :=
        (Prod.mk.inj (Except.ok.inj answered)).2
      rw [← isAnswer, execUpdateIdentifier]
      split
      · exact Or.inl rfl
      · exact Or.inr ⟨_, rfl⟩
  | insertIdentifier row =>
      have isAnswer : execInsertIdentifier row db = .ok (reply, writes) :=
        answered
      rw [execInsertIdentifier] at isAnswer
      split_ifs at isAnswer
      exact Or.inr ⟨_, (Prod.mk.inj (Except.ok.inj isAnswer)).2.symm⟩
  | upsertFact row =>
      have isAnswer : execUpsertFact row db = .ok (reply, writes) := answered
      rw [execUpsertFact] at isAnswer
      split at isAnswer
      · exact Or.inr ⟨_, (Prod.mk.inj (Except.ok.inj isAnswer)).2.symm⟩
      · split_ifs at isAnswer
        exact Or.inr ⟨_, (Prod.mk.inj (Except.ok.inj isAnswer)).2.symm⟩
  | insertLifecycleEvent event =>
      have isAnswer : execInsertLifecycleEvent event db = .ok (reply, writes) :=
        answered
      rw [execInsertLifecycleEvent] at isAnswer
      split_ifs at isAnswer
      exact Or.inr ⟨_, (Prod.mk.inj (Except.ok.inj isAnswer)).2.symm⟩
  | audit given => exact within.elim
  | outbox given => exact within.elim

/-- A statement is within the scope in both states or in neither. -/
theorem Statement.Within.congr
    (within : statement.Within scope left)
    (same : left.rowsOf scope = right.rowsOf scope) :
    statement.Within scope right := by
  have there {deviceId : Uuid}
      (present : (left.deviceIn scope deviceId).isSome) :
      (right.deviceIn scope deviceId).isSome := by
    have devices : left.deviceIn scope deviceId =
        right.deviceIn scope deviceId :=
      congrFun (congrArg ScopeRows.devices same) deviceId
    exact devices ▸ present
  cases statement with
  | updateObserved deviceId texts deviceType capabilities observedAt now =>
      exact there within
  | insertIdentifier row => exact ⟨within.1, there within.2⟩
  | upsertFact row => exact ⟨within.1, there within.2⟩
  | _ => exact within

/-- A device that is added is written within its scope. -/
theorem within_insertDevice {row : DeviceView}
    (absent : db.devices.lookup row.id = none) :
    (Write.device row).Within row.scope db := by
  refine ⟨rfl, ?_⟩
  intro stored found
  cases absent.symm.trans found

/-- A write within the scope keeps two runs isolated. -/
theorem TwoRuns.Isolated.write {runs : TwoRuns}
    (isolated : runs.Isolated scope left right) {write : Write}
    (withinLeft : write.Within scope left)
    (withinRight : write.Within scope right) :
    runs.Isolated scope (applyWrite write left)
      (applyWrite write right) where
  rows := rowsOf_applyWrite_congr write isolated.rows
  outside began := by
    have outside := isolated.outside began
    cases write with
    | device row =>
        refine ⟨?_, outside.audit, outside.outboxId⟩
        simp only [applyWrite, Table.lookup_put]
        by_cases isRow : row.id = runs.generated.deviceId
        · rw [if_pos isRow, if_pos isRow]
        · rw [if_neg isRow, if_neg isRow]
          exact outside.deviceId
    | identifier row =>
        exact ⟨outside.deviceId, outside.audit, outside.outboxId⟩
    | fact row => exact ⟨outside.deviceId, outside.audit, outside.outboxId⟩
    | lifecycleEvent event =>
        exact ⟨outside.deviceId, outside.audit, outside.outboxId⟩
    | audit row => exact withinLeft.elim
    | outbox given => exact withinLeft.elim
  leftConstrained := isolated.leftConstrained.applyWrite withinLeft
  rightConstrained := isolated.rightConstrained.applyWrite withinRight
  leftSpares other different :=
    (rowsOf_applyWrite_of_ne isolated.leftConstrained withinLeft
      different).trans (isolated.leftSpares other different)
  rightSpares other different :=
    (rowsOf_applyWrite_of_ne isolated.rightConstrained withinRight
      different).trans (isolated.rightSpares other different)

end Statements

end NetworkManager.InventoryStore
