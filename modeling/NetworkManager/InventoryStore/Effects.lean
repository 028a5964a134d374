import NetworkManager.AuditStore.Chain
import NetworkManager.InventoryStore.Identifiers

/-!
# What the operations do

The effect of an operation that succeeds, as one change of the state: a device
row, the identifiers and facts written for it, the events appended, and a row
in the audit trail and the outbox.
-/

namespace NetworkManager.InventoryStore

open NetworkManager.Foundation
open NetworkManager.Domain.Inventory
open NetworkManager.Security
open NetworkManager.Transaction

/-- A declared fact about a device. -/
def declaredFact (scope : Scope) (deviceId : Uuid) (field : Field)
    (value : Value) : FactRow :=
  ⟨⟨deviceId, field, .declared, "manual"⟩, scope, value, 1, none⟩

def observedFact (scope : Scope) (deviceId : Uuid) (observedAt : Timestamp)
    (field : Field) (value : Value) : FactRow :=
  ⟨⟨deviceId, field, .observed, "discovery"⟩, scope, value, 1,
    some observedAt⟩

/-- The values that a new device declares. -/
def declaredValues (input : NewDevice) : List (Field × Value) :=
  (.deviceType, .string input.deviceType.asStr) ::
    (TextField.all.filterMap (fun field =>
        (input.text field).map fun value => (.text field, .string value)) ++
      if input.capabilities.isEmpty then []
      else [(.capabilities, textsValue input.capabilities)])

/-- The values that a patch declares. -/
def patchedValues (patch : MetadataPatch) : List (Field × Value) :=
  (patch.deviceType.map fun deviceType =>
      (.deviceType, .string deviceType.asStr)).toList ++
    (TextField.all.filterMap (fun field =>
        (patch.text field).map fun value =>
          (.text field, optionalValue value)) ++
      (patch.capabilities.map fun capabilities =>
        (.capabilities, textsValue capabilities)).toList)

/-- The values that an observation gives. -/
def observedValues (observation : DeviceObservation) : List (Field × Value) :=
  (.deviceType, .string observation.deviceType.asStr) ::
    (TextField.observed.filterMap (fun field =>
        (observation.text field).map fun value =>
          (.text field, .string value)) ++
      if observation.capabilities.isEmpty then []
      else [(.capabilities, textsValue observation.capabilities)])

/-- Write some facts. -/
def writeFacts (rows : List FactRow) : Store Unit :=
  Program.forEach (fun row => query (.upsertFact row)) rows

private theorem writeFacts_append (first second : List FactRow) :
    writeFacts (first ++ second) =
      writeFacts first >>= fun _ => writeFacts second :=
  Program.forEach_append _ first second

/-- The loop over the text fields writes the facts of those that are given. -/
theorem writeFacts_texts {α : Type} (toRow : Field × Value → FactRow)
    (texts : TextField → Option α) (toValue : α → Value)
    (fields : List TextField) :
    writeFacts ((fields.filterMap fun field =>
        (texts field).map fun value => (Field.text field, toValue value)).map
          toRow) =
      Program.forEach (fun field =>
        whenSome (texts field) fun value =>
          query (.upsertFact (toRow (.text field, toValue value)))) fields := by
  rw [writeFacts, List.map_filterMap, Program.forEach_filterMap]
  congr 1
  funext field
  cases texts field with
  | none => rfl
  | some value => rfl

section Facts

variable (scope : Scope) (deviceId : Uuid)

/-- The rows of some declared values. -/
def declaredFacts (values : List (Field × Value)) : List FactRow :=
  values.map fun given => declaredFact scope deviceId given.1 given.2

def observedFacts (observedAt : Timestamp) (values : List (Field × Value)) :
    List FactRow :=
  values.map fun given =>
    observedFact scope deviceId observedAt given.1 given.2

theorem persistDeclaredFacts_eq (input : NewDevice) :
    persistDeclaredFacts scope deviceId input =
      writeFacts (declaredFacts scope deviceId (declaredValues input)) := by
  rw [declaredFacts, declaredValues, List.map_cons, List.map_append,
    ← List.singleton_append, writeFacts_append, writeFacts_append,
    writeFacts_texts, persistDeclaredFacts]
  by_cases empty : input.capabilities.isEmpty = true
  · rw [if_pos empty, if_pos empty]
    rfl
  · rw [if_neg empty, if_neg empty]
    rfl

theorem persistObservedFacts_eq (observation : DeviceObservation)
    (observedAt : Timestamp) :
    persistObservedFacts scope deviceId observation observedAt =
      writeFacts (observedFacts scope deviceId observedAt
        (observedValues observation)) := by
  rw [observedFacts, observedValues, List.map_cons, List.map_append,
    ← List.singleton_append, writeFacts_append, writeFacts_append,
    writeFacts_texts, persistObservedFacts]
  by_cases empty : observation.capabilities.isEmpty = true
  · rw [if_pos empty, if_pos empty]
    rfl
  · rw [if_neg empty, if_neg empty]
    rfl

theorem persistPatchFacts_eq (patch : MetadataPatch) :
    persistPatchFacts scope deviceId patch =
      writeFacts (declaredFacts scope deviceId (patchedValues patch)) := by
  rw [declaredFacts, patchedValues, List.map_append, List.map_append,
    writeFacts_append, writeFacts_append, writeFacts_texts, persistPatchFacts]
  cases patch.deviceType with
  | none => cases patch.capabilities <;> rfl
  | some deviceType => cases patch.capabilities <;> rfl

end Facts

/-- The state after some facts are written. -/
def InventoryDb.withFacts (db : InventoryDb) (rows : List FactRow) :
    InventoryDb :=
  { db with facts := db.facts.upsertAll setFact rows }

private theorem withFacts_cons (db : InventoryDb) (first : FactRow)
    (rest : List FactRow) :
    db.withFacts (first :: rest) = (db.withFacts [first]).withFacts rest := rfl

section Evaluation

variable {scope : Scope} {deviceId : Uuid} {committed working : InventoryDb}

theorem eval_query {statement : Statement} {reply : Reply statement}
    {writes : List Write}
    (answered : inventorySql.exec statement working = .ok (reply, writes)) :
    (query statement).eval ⟨committed, working⟩ =
      (.ok reply, ⟨committed, inventorySql.applyAll writes working⟩) :=
  Program.eval_exec_ok answered

private theorem applyAll_upsertFact
    {row : FactRow} {db : InventoryDb} {reply : Unit}
    {writes : List Write}
    (written : execUpsertFact row db = .ok (reply, writes)) :
    inventorySql.applyAll writes db = db.withFacts [row] := by
  unfold execUpsertFact at written
  cases found : db.facts.lookup row.key with
  | some stored =>
      rw [found] at written
      cases written
      rw [InventoryDb.withFacts, Table.upsertAll_cons, Table.upsert, found]
      rfl
  | none =>
      rw [found] at written
      by_cases missing : (db.deviceIn row.scope row.key.deviceId).isNone = true
      · simp [missing] at written
      · simp only [missing] at written
        cases written
        rw [InventoryDb.withFacts, Table.upsertAll_cons, Table.upsert, found]
        rfl

private theorem execUpsertFact_ok {row : FactRow} {db : InventoryDb}
    (known : (db.deviceIn row.scope row.key.deviceId).isSome) :
    ∃ writes, execUpsertFact row db = .ok ((), writes) := by
  have notMissing :
      ¬(db.deviceIn row.scope row.key.deviceId).isNone = true := by
    rw [Option.isNone_iff_eq_none]
    exact Option.isSome_iff_ne_none.mp known
  unfold execUpsertFact
  cases db.facts.lookup row.key with
  | some stored => exact ⟨_, rfl⟩
  | none => exact ⟨_, if_neg notMissing⟩

/-- Facts about devices that are there can be written. -/
theorem eval_writeFacts {rows : List FactRow}
    (known : ∀ row ∈ rows,
      (working.deviceIn row.scope row.key.deviceId).isSome) :
    (writeFacts rows).eval ⟨committed, working⟩ =
      (.ok (), ⟨committed, working.withFacts rows⟩) := by
  induction rows generalizing working with
  | nil => rfl
  | cons row rest inductionHypothesis =>
      rcases execUpsertFact_ok (known row (List.mem_cons_self ..)) with
        ⟨writes, written⟩
      rw [writeFacts, Program.forEach_cons, query,
        Program.eval_statement_bind_ok written, applyAll_upsertFact written,
        withFacts_cons]
      exact inductionHypothesis fun other member =>
        known other (List.mem_cons_of_mem row member)

theorem eval_loadDevice_eq_ok {forUpdate : Bool} {device : DeviceView}
    {reached : Connection inventorySql}
    (ended : (loadDevice scope deviceId forUpdate).eval ⟨committed, working⟩ =
      (.ok device, reached)) :
    working.deviceIn scope deviceId = some device ∧
      reached = ⟨committed, working⟩ := by
  rcases Program.eval_bind_eq_ok ended with ⟨row, middle, first, later⟩
  rcases Program.eval_statement_eq_ok first with ⟨writes, selected, rfl⟩
  cases selected
  rcases Program.eval_ofExcept_eq_ok later with ⟨found, rfl⟩
  constructor
  · cases shape : working.deviceIn scope deviceId with
    | none => simp [shape] at found
    | some stored => simpa [shape] using found
  · rfl

theorem eval_loadDevice {forUpdate : Bool} {device : DeviceView}
    (found : working.deviceIn scope deviceId = some device) :
    (loadDevice scope deviceId forUpdate).eval ⟨committed, working⟩ =
      (.ok device, ⟨committed, working⟩) := by
  have selected : inventorySql.exec (.selectDevice scope deviceId forUpdate)
      working = .ok (some device, []) := by
    simp only [found]
  rw [loadDevice, query, Program.eval_statement_bind_ok selected]
  rfl

end Evaluation

/-! ## Records -/

/-- The audit row of a mutation of a device. -/
def AuditRecord (context : MutationContext) (generated : Generated)
    (device : DeviceView) (row : AuditStore.AuditRow) : Prop :=
  ∃ action before after chainSequence payload sealedEvent,
    sealedEvent.event =
      (mutationDraft context generated action device before after).sanitize ∧
    row = AuditStore.sealedRow generated.auditId chainSequence payload
      sealedEvent

/-- The outbox row of a mutation of a device. -/
def OutboxRecord (context : MutationContext) (generated : Generated)
    (device : DeviceView) (row : PlatformEvents.OutboxRow) : Prop :=
  ∃ eventType after, row = PlatformEvents.newRow
    (mutationEvent context generated eventType device after) generated.now

/-- The state with the records of a mutation. -/
def InventoryDb.recorded (db : InventoryDb) (auditRow : AuditStore.AuditRow)
    (outboxRow : PlatformEvents.OutboxRow) : InventoryDb :=
  { db with
    audit := ⟨db.audit.rows ++ [auditRow]⟩
    outbox := { db.outbox with events := db.outbox.events.put outboxRow } }

section Records

variable {library : InventoryLibrary} {context : MutationContext}
  {generated : Generated} {committed working : InventoryDb}

theorem eval_enqueue_eq_ok {event : PlatformEvents.NewOutboxEvent}
    {now : Timestamp} {connection reached : Connection PlatformEvents.outboxSql}
    (ended : (PlatformEvents.enqueue event now).eval connection =
      (.ok (), reached)) :
    connection.working.events.lookup event.id = none ∧
      reached.working = { connection.working with
        events := connection.working.events.put
          (PlatformEvents.newRow event now) } := by
  rcases Program.eval_bind_eq_ok ended with ⟨_, _, checked, ended⟩
  rw [(Program.eval_ofExcept_eq_ok checked).2] at ended
  rcases Program.eval_statement_eq_ok ended with ⟨writes, inserted, rfl⟩
  have answered : PlatformEvents.execInsertEvent event now connection.working =
      .ok ((), writes) := inserted
  unfold PlatformEvents.execInsertEvent at answered
  split_ifs at answered with taken badVersion
  cases answered
  exact ⟨by simpa using taken, rfl⟩

/-- Both records are written, or the transaction has failed. -/
theorem eval_writeMutationRecords_eq_ok {action eventType : String}
    {device : DeviceView} {before after : Option Value}
    {reached : Connection inventorySql}
    (ended : (writeMutationRecords library context generated action eventType
        device before after).eval ⟨committed, working⟩ = (.ok (), reached)) :
    ∃ auditRow outboxRow,
      AuditRecord context generated device auditRow ∧
      OutboxRecord context generated device outboxRow ∧
      working.outbox.events.lookup generated.outboxId = none ∧
      reached = ⟨committed, working.recorded auditRow outboxRow⟩ := by
  rcases Program.eval_bind_eq_ok ended with ⟨_, middle, audited, enqueued⟩
  rcases Embedding.eval_lift_eq_ok (AuditStore.commitFree_appendInTx ..)
    audited with ⟨auditFinal, appended, rfl⟩
  rcases AuditStore.eval_appendInTx_eq_ok appended with
    ⟨chainSequence, payload, sealedEvent, sameEvent, auditRows⟩
  rcases Embedding.eval_lift_eq_ok (PlatformEvents.commitFree_enqueue ..)
    enqueued with ⟨outboxFinal, inserted, rfl⟩
  rcases eval_enqueue_eq_ok inserted with ⟨fresh, outboxRows⟩
  refine ⟨_, _, ⟨action, before, after, chainSequence, payload, sealedEvent,
    sameEvent, rfl⟩, ⟨eventType, after, rfl⟩, fresh, ?_⟩
  have auditPart : auditFinal.working = ⟨working.audit.rows ++
      [AuditStore.sealedRow generated.auditId chainSequence payload
        sealedEvent]⟩ :=
    congrArg AuditStore.AuditDb.mk auditRows
  rw [outboxRows, auditPart]
  rfl

/-- What goes wrong in the database, the audit trail or the outbox. -/
inductive Infrastructure : InventoryError → Prop
  | audit (failure : AuditStore.AuditStoreError) :
      Infrastructure (.audit failure)
  | outbox (failure : PlatformEvents.OutboxError) :
      Infrastructure (.outbox failure)
  | database (failure : SqlError) : Infrastructure (.database failure)

private theorem eval_writeMutationRecords_eq_error {action eventType : String}
    {device : DeviceView} {before after : Option Value}
    {connection reached : Connection inventorySql} {failure : InventoryError}
    (ended : (writeMutationRecords library context generated action eventType
        device before after).eval connection = (.error failure, reached)) :
    Infrastructure failure := by
  rw [writeMutationRecords, Program.eval_bind] at ended
  cases audited : (auditEmbedding.lift InventoryError.audit
      (AuditStore.appendInTx library.audit generated.auditId
        (mutationDraft context generated action device before after))).eval
          connection with
  | mk outcome middle =>
      rw [audited] at ended
      cases outcome with
      | error refused =>
          have same : refused = failure :=
            Except.error.inj (congrArg Prod.fst ended)
          rcases Embedding.eval_lift_eq_error
            (AuditStore.commitFree_appendInTx ..) audited with ⟨inner, rfl⟩
          exact same ▸ .audit inner
      | ok appended =>
          rcases Embedding.eval_lift_eq_error
            (PlatformEvents.commitFree_enqueue ..) ended with ⟨inner, rfl⟩
          exact .outbox inner

/-- The device of a mutation that ends is the one it has written, and the
mutation is recorded, unless the records fail. -/
theorem eval_finishMutation (library : InventoryLibrary)
    (generated : Generated) (action eventType : String)
    (before : Option DeviceView) (committed : InventoryDb) {deviceId : Uuid}
    {device : DeviceView}
    (found : working.deviceIn context.scope deviceId = some device) :
    (∃ auditRow outboxRow,
      AuditRecord context generated device auditRow ∧
      OutboxRecord context generated device outboxRow ∧
      working.outbox.events.lookup generated.outboxId = none ∧
      (finishMutation library context generated action eventType deviceId
          before).eval ⟨committed, working⟩ =
        (.ok device, .fresh (working.recorded auditRow outboxRow))) ∨
      ∃ failure reached, Infrastructure failure ∧
        (finishMutation library context generated action eventType deviceId
            before).eval ⟨committed, working⟩ =
          (.error failure, reached) := by
  rw [finishMutation, Program.eval_bind_ok (eval_loadDevice found)]
  cases records : (writeMutationRecords library context generated action
      eventType device (before.map (DeviceView.toValue library.formatTime))
      (some (device.toValue library.formatTime))).eval
        ⟨committed, working⟩ with
  | mk outcome reached =>
      cases outcome with
      | error failure =>
          right
          exact ⟨failure, reached, eval_writeMutationRecords_eq_error records,
            Program.eval_bind_error records⟩
      | ok written =>
          left
          rcases eval_writeMutationRecords_eq_ok records with
            ⟨auditRow, outboxRow, audited, enqueued, fresh, isReached⟩
          refine ⟨auditRow, outboxRow, audited, enqueued, fresh, ?_⟩
          rw [Program.eval_bind_ok records, isReached]
          rfl

theorem eval_finishMutation_eq_ok {action eventType : String}
    {deviceId : Uuid} {before : Option DeviceView} {device result : DeviceView}
    {reached : Connection inventorySql}
    (found : working.deviceIn context.scope deviceId = some device)
    (ended : (finishMutation library context generated action eventType
        deviceId before).eval ⟨committed, working⟩ = (.ok result, reached)) :
    result = device ∧ ∃ auditRow outboxRow,
      AuditRecord context generated device auditRow ∧
      OutboxRecord context generated device outboxRow ∧
      working.outbox.events.lookup generated.outboxId = none ∧
      reached = .fresh (working.recorded auditRow outboxRow) := by
  rw [finishMutation, Program.eval_bind_ok (eval_loadDevice found)] at ended
  rcases Program.eval_bind_eq_ok ended with ⟨_, middle, records, ended⟩
  rcases eval_writeMutationRecords_eq_ok records with
    ⟨auditRow, outboxRow, audited, enqueued, fresh, rfl⟩
  rcases Program.eval_bind_eq_ok ended with ⟨_, _, committing, ended⟩
  rcases Program.eval_pure_eq_ok ended with ⟨isResult, isReached⟩
  rw [Program.eval_commitNow_eq_ok committing] at isReached
  exact ⟨isResult, auditRow, outboxRow, audited, enqueued, fresh, isReached⟩

/-- The generated identifiers are new, the clock is past the epoch, and the
audit trail takes every valid event of the organization.  What else the database
can refuse is not asked for here, since no statement of the model refuses it: a
text with U+0000, an index row over the limit of a B-tree, a time before 4713 BC
and a site that does not exist. -/
structure Available (library : InventoryLibrary) (context : MutationContext)
    (generated : Generated) (db : InventoryDb) : Prop where
  deviceId : db.devices.lookup generated.deviceId = none
  outboxId : db.outbox.events.lookup generated.outboxId = none
  unixMs : 0 ≤ generated.unixMs
  audit : ∀ draft : AuditEventDraft,
    AuditStore.validateDraft draft = .ok () →
    draft.organizationId = context.organizationId →
    ∃ final, (AuditStore.appendInTx library.audit generated.auditId
      draft).eval (.fresh db.audit) = (.ok generated.auditId, final)

private theorem MutationContext.validate_eq_ok
    (contextValid : context.validate = .ok ()) :
    isBlank context.requestId = false ∧
      context.requestId.utf8ByteSize ≤ 200 ∧
      context.sourceIp.any (fun value => !isIpAddr value) = false := by
  unfold MutationContext.validate require at contextValid
  by_cases requestValid : (!(isBlank context.requestId ||
      decide (200 < context.requestId.utf8ByteSize))) = true
  · rw [if_pos requestValid] at contextValid
    by_cases sourceValid :
        (!context.sourceIp.any fun value => !isIpAddr value) = true
    · simp only [Bool.not_eq_true', Bool.or_eq_false_iff,
        decide_eq_false_iff_not, not_lt] at requestValid sourceValid
      exact ⟨requestValid.1, requestValid.2, sourceValid⟩
    · rw [if_neg sourceValid] at contextValid
      cases contextValid
  · rw [if_neg requestValid] at contextValid
    cases contextValid

/-- The audit event of a mutation by a valid context passes its checks. -/
theorem validateDraft_mutationDraft {action : String} {device : DeviceView}
    {before after : Option Value} (contextValid : context.validate = .ok ())
    (pastEpoch : 0 ≤ generated.unixMs) (named : isBlank action = false)
    (short : action.utf8ByteSize ≤ 200) :
    AuditStore.validateDraft (mutationDraft context generated action device
      before after) = .ok () := by
  rcases MutationContext.validate_eq_ok contextValid with
    ⟨requestNamed, requestShort, sourceValid⟩
  have resourceNamed : isBlank "device" = false := by decide
  have resourceShort : ¬120 < "device".utf8ByteSize := by decide
  simp [AuditStore.validateDraft, mutationDraft, requestNamed, named,
    resourceNamed, resourceShort, sourceValid, Nat.not_lt.mpr requestShort,
    Nat.not_lt.mpr short, Int.not_lt.mpr pastEpoch]

private theorem isBlank_text (uuid : Uuid) : isBlank uuid.text = false := by
  rw [Bool.eq_false_iff]
  intro blank
  have member : '-' ∈ uuid.text.toList := by
    rw [Uuid.text, String.toList_ofList]
    simp [Uuid.characters]
  exact absurd (isBlank_iff.mp blank '-' member) (by decide)

private theorem eval_enqueue {event : PlatformEvents.NewOutboxEvent}
    {now : Timestamp} {connection : Connection PlatformEvents.outboxSql}
    (valid : event.validate = .ok ()) (positive : 0 < event.eventVersion)
    (fresh : connection.working.events.lookup event.id = none) :
    ∃ final, (PlatformEvents.enqueue event now).eval connection =
      (.ok (), final) := by
  have answered : PlatformEvents.outboxSql.exec (.insertEvent event now)
      connection.working =
        .ok ((), [.event (PlatformEvents.newRow event now)]) := by
    have notTaken :
        ¬(connection.working.events.lookup event.id).isSome = true := by
      simp [fresh]
    exact (if_neg notTaken).trans (if_neg (Int.not_le.mpr positive))
  rw [PlatformEvents.enqueue, valid]
  exact ⟨_, Program.eval_exec_ok answered⟩

/-- With everything available, the records are written. -/
theorem eval_writeMutationRecords {db : InventoryDb}
    {action eventType : String} {device : DeviceView}
    {before after : Option Value}
    (available : Available library context generated db)
    (contextValid : context.validate = .ok ())
    (named : isBlank action = false) (short : action.utf8ByteSize ≤ 200)
    (eventNamed : isBlank eventType = false)
    (sameAudit : working.audit = db.audit)
    (sameOutbox : working.outbox = db.outbox) :
    ∃ final, (writeMutationRecords library context generated action eventType
      device before after).eval ⟨db, working⟩ = (.ok (), final) := by
  rcases available.audit (mutationDraft context generated action device before
      after) (validateDraft_mutationDraft contextValid available.unixMs named
        short) rfl with ⟨auditFinal, appended⟩
  have audited : (auditEmbedding.lift InventoryError.audit
      (AuditStore.appendInTx library.audit generated.auditId
        (mutationDraft context generated action device before after))).eval
          ⟨db, working⟩ =
      (.ok generated.auditId,
        ⟨db, { working with audit := auditFinal.working }⟩) := by
    have appendedHere : (AuditStore.appendInTx library.audit
        generated.auditId (mutationDraft context generated action device before
          after)).eval ⟨db.audit, working.audit⟩ =
        (.ok generated.auditId, auditFinal) := by
      rw [sameAudit]
      exact appended
    exact Embedding.eval_lift_ok (AuditStore.commitFree_appendInTx ..)
      appendedHere
  have valid : (mutationEvent context generated eventType device
      after).validate = .ok () := by
    have typed : isBlank "device" = false := by decide
    simp [PlatformEvents.NewOutboxEvent.validate, mutationEvent, typed,
      isBlank_text, eventNamed]
  have fresh : working.outbox.events.lookup generated.outboxId = none := by
    rw [sameOutbox]
    exact available.outboxId
  have enqueued : ∃ outboxFinal, (PlatformEvents.enqueue
      (mutationEvent context generated eventType device after)
      generated.now).eval ⟨db.outbox, working.outbox⟩ =
        (.ok (), outboxFinal) :=
    eval_enqueue valid Int.one_pos fresh
  rcases enqueued with ⟨outboxFinal, enqueued⟩
  rw [writeMutationRecords, Program.eval_bind_ok audited]
  exact ⟨_, Embedding.eval_lift_ok (PlatformEvents.commitFree_enqueue ..)
    enqueued⟩

/-- With everything available, a mutation ends. -/
theorem eval_finishMutation_available {db : InventoryDb}
    {action eventType : String} {deviceId : Uuid}
    {before : Option DeviceView} {device : DeviceView}
    (available : Available library context generated db)
    (contextValid : context.validate = .ok ())
    (named : isBlank action = false) (short : action.utf8ByteSize ≤ 200)
    (eventNamed : isBlank eventType = false)
    (sameAudit : working.audit = db.audit)
    (sameOutbox : working.outbox = db.outbox)
    (found : working.deviceIn context.scope deviceId = some device) :
    ∃ final, (finishMutation library context generated action eventType
      deviceId before).eval ⟨db, working⟩ = (.ok device, final) := by
  rw [finishMutation, Program.eval_bind_ok (eval_loadDevice found)]
  rcases eval_writeMutationRecords available contextValid named short
    eventNamed sameAudit sameOutbox with ⟨final, written⟩
  rw [Program.eval_bind_ok written]
  exact ⟨_, rfl⟩

end Records

end NetworkManager.InventoryStore
