import NetworkManager.Foundation.AppendOnly
import NetworkManager.InventoryStore.Records
import NetworkManager.Security.Sanitizing
import NetworkManager.Transaction.Runs

/-!
# The history of a device, as the records tell it

Each change of a device leaves in the audit trail the device before and after
it, and in the outbox the device after it.  The records of a device therefore
tell its whole history, and whoever replays the outbox has the table of devices.
-/

namespace NetworkManager.InventoryStore

open NetworkManager.Foundation
open NetworkManager.Foundation.Value
open NetworkManager.Domain.Governance
open NetworkManager.Domain.Inventory
open NetworkManager.Security
open NetworkManager.Transaction

/-- The keys under which a device is written. -/
def deviceKeys : List String :=
  ["capabilities", "description", "deviceType", "displayName",
    "firmwareVersion", "hostname", "id", "lastChangedAt", "lastSeenAt",
    "lifecycle", "model", "onboardedAt", "operationalOwner", "organizationId",
    "osName", "osVersion", "retiredAt", "retirementReason", "serialNumber",
    "siteId", "vendor", "version"]

private theorem isSensitive_of_mem_deviceKeys :
    ∀ key ∈ deviceKeys, isSensitive key = false := by decide

private theorem maskKeys_optional (value : Option String) :
    maskKeys redacted isSensitive (value.elim .null .string) =
      value.elim .null .string := by
  cases value with
  | none => rfl
  | some text => rfl

private theorem maskList_strings (texts : List String) :
    maskList redacted isSensitive (texts.map .string) = texts.map .string := by
  induction texts with
  | nil => rfl
  | cons text rest inductionHypothesis =>
      rw [List.map_cons, maskList, inductionHypothesis]
      rfl

/-- Sanitizing leaves a device as it is. -/
theorem sanitizeJson_toValue (formatTime : Timestamp → String)
    (device : DeviceView) :
    sanitizeJson (device.toValue formatTime) = device.toValue formatTime := by
  have shown := isSensitive_of_mem_deviceKeys
  simp only [deviceKeys, List.forall_mem_cons] at shown
  rw [sanitizeJson_eq, DeviceView.toValue]
  simp only [maskKeys, maskMembers, shown, maskKeys_optional, maskList_strings,
    Bool.false_eq_true, if_false]

/-- The audit row has the device before and after a change. -/
structure AuditsStep (formatTime : Timestamp → String)
    (before : Option DeviceView) (device : DeviceView)
    (row : AuditStore.AuditRow) : Prop where
  before : row.beforeState = before.map (DeviceView.toValue formatTime)
  after : row.afterState = some (device.toValue formatTime)

section Finishing

variable {library : InventoryLibrary} {context : MutationContext}
  {generated : Generated} {committed working : InventoryDb}

private theorem auditsStep_sealedRow {id : Uuid} {chainSequence : Int}
    {payload : Bytes} {sealedEvent : SealedAuditEvent} {action : String}
    {before : Option DeviceView} {device : DeviceView}
    (isEvent : sealedEvent.event = (mutationDraft context generated action
      device (before.map (DeviceView.toValue library.formatTime))
      (some (device.toValue library.formatTime))).sanitize) :
    AuditsStep library.formatTime before device
      (AuditStore.sealedRow id chainSequence payload sealedEvent) where
  before := by
    rw [AuditStore.sealedRow, isEvent]
    cases before with
    | none => rfl
    | some current =>
        exact congrArg some (sanitizeJson_toValue library.formatTime current)
  after := by
    rw [AuditStore.sealedRow, isEvent]
    exact congrArg some (sanitizeJson_toValue library.formatTime device)

/-- The records of a mutation that ends hold the device before and after
it. -/
theorem steps_of_finishMutation {action eventType : String} {deviceId : Uuid}
    {before : Option DeviceView} {device result : DeviceView}
    {reached : Connection inventorySql}
    (found : working.deviceIn context.scope deviceId = some device)
    (ended : (finishMutation library context generated action eventType
        deviceId before).eval ⟨committed, working⟩ = (.ok result, reached)) :
    ∃ auditRow outboxRow,
      AuditRecord context generated device auditRow ∧
      AuditsStep library.formatTime before device auditRow ∧
      OutboxRecord context generated device outboxRow ∧
      outboxRow.event.payload = device.toValue library.formatTime ∧
      working.outbox.events.lookup generated.outboxId = none ∧
      reached.committed = working.recorded auditRow outboxRow := by
  rw [finishMutation, Program.eval_bind_ok (eval_loadDevice found)] at ended
  rcases Program.eval_bind_eq_ok ended with ⟨_, middle, records, ended⟩
  rcases Program.eval_bind_eq_ok records with ⟨_, _, audited, enqueued⟩
  rcases Embedding.eval_lift_eq_ok (AuditStore.commitFree_appendInTx ..)
    audited with ⟨auditFinal, appended, rfl⟩
  rcases AuditStore.eval_appendInTx_eq_ok appended with
    ⟨chainSequence, payload, sealedEvent, isEvent, auditRows⟩
  rcases Embedding.eval_lift_eq_ok (PlatformEvents.commitFree_enqueue ..)
    enqueued with ⟨outboxFinal, inserted, rfl⟩
  rcases eval_enqueue_eq_ok inserted with ⟨fresh, outboxRows⟩
  rcases Program.eval_bind_eq_ok ended with ⟨_, _, committing, ended⟩
  rcases Program.eval_pure_eq_ok ended with ⟨_, rfl⟩
  rw [Program.eval_commitNow_eq_ok committing]
  refine ⟨_, _, ⟨action, _, _, chainSequence, payload, sealedEvent, isEvent,
    rfl⟩, auditsStep_sealedRow isEvent,
    ⟨eventType, some (device.toValue library.formatTime), rfl⟩, rfl, fresh, ?_⟩
  have auditPart : auditFinal.working = ⟨working.audit.rows ++
      [AuditStore.sealedRow generated.auditId chainSequence payload
        sealedEvent]⟩ :=
    congrArg AuditStore.AuditDb.mk auditRows
  rw [outboxRows, auditPart]
  rfl

end Finishing

section Calls

variable {library : InventoryLibrary} {db reached : InventoryDb}

section Finished

variable {context : MutationContext} {generated : Generated}
  {observation : DeviceObservation} {result : ReconciliationResult}

/-- A device that is created by hand is recorded as it was stored. -/
private theorem finished_createManual {input : NewDevice}
    {approvalRequired : Bool} {created : DeviceView}
    (sound : IdentifiersSound db)
    (ended : (createManual library context generated input
      approvalRequired).call db = (.ok created, reached)) :
    ∃ action eventType device final,
      (finishMutation library context generated action eventType
        generated.deviceId none).eval ⟨db, (manualChange context generated
          input approvalRequired).apply db⟩ = (.ok device, final) ∧
      reached = final.committed := by
  rcases Program.call_eq_ok ended with ⟨final, steps, isReached⟩
  rw [createManual_eq] at steps
  rcases Program.eval_bind_eq_ok steps with ⟨_, _, checked, steps⟩
  rw [(Program.eval_ofExcept_eq_ok checked).2] at steps
  rcases Program.eval_bind_eq_ok steps with ⟨_, _, checked, steps⟩
  rw [(Program.eval_ofExcept_eq_ok checked).2] at steps
  rcases Program.eval_bind_eq_ok steps with ⟨_, middle, stored, finished⟩
  have inScope : (manualRow context generated input approvalRequired).scope =
      context.scope := rfl
  rcases eval_storeNewDevice_eq_ok sound inScope
    (factsOf_declaredFacts _ _ _) stored with ⟨_, isMiddle, _⟩
  rw [isMiddle] at finished
  exact ⟨_, _, _, _, finished, isReached⟩

/-- An observation of one device records it as it was updated. -/
private theorem finished_updateObserved {current : DeviceView}
    (sound : IdentifiersSound db)
    (only : db.matching context.scope observation = {current.id})
    (found : db.deviceIn context.scope current.id = some current)
    (inService : outOfService current = false)
    (ended : (reconcileObservation library context generated
      observation).call db = (.ok result, reached)) :
    ∃ action eventType device final,
      (finishMutation library context generated action eventType current.id
        (some current)).eval ⟨db, (observedChange context generated observation
          (db.hasDeclaredFact current.id) current).apply db⟩ =
            (.ok device, final) ∧
      reached = final.committed := by
  rcases valid_of_reconcileObservation ended with ⟨contextValid, valid⟩
  rcases Program.call_eq_ok ended with ⟨final, steps, isReached⟩
  rw [Connection.fresh, eval_reconcileObservation sound contextValid valid,
    only, continueWith_singleton] at steps
  rcases Program.eval_bind_eq_ok steps with ⟨_, _, updated, steps⟩
  rw [eval_updateObservedDevice sound found inService
    (DeviceObservation.validate_eq_ok valid).2
    (admits_of_matching generated sound only.subset)] at updated
  rcases Program.eval_pure_eq_ok steps with ⟨_, isFinal⟩
  rw [isFinal] at isReached
  exact ⟨_, _, _, _, updated, isReached⟩

/-- An observation of no known device records the one that it creates. -/
private theorem finished_createObserved (sound : IdentifiersSound db)
    (noMatch : db.matching context.scope observation = ∅)
    (absent : db.devices.lookup generated.deviceId = none)
    (ended : (reconcileObservation library context generated
      observation).call db = (.ok result, reached)) :
    ∃ action eventType device final,
      (finishMutation library context generated action eventType
        generated.deviceId none).eval ⟨db, (discoveredChange context generated
          observation).apply db⟩ = (.ok device, final) ∧
      reached = final.committed := by
  rcases valid_of_reconcileObservation ended with ⟨contextValid, valid⟩
  rcases Program.call_eq_ok ended with ⟨final, steps, isReached⟩
  rw [Connection.fresh, eval_reconcileObservation sound contextValid valid,
    noMatch, continueWith_empty] at steps
  rcases Program.eval_bind_eq_ok steps with ⟨_, _, created, steps⟩
  rw [eval_createObservedDevice sound absent
    (DeviceObservation.validate_eq_ok valid).2
    (admits_of_matching generated sound
      (noMatch.subset.trans (Finset.empty_subset {generated.deviceId})))]
    at created
  rcases Program.eval_pure_eq_ok steps with ⟨_, isFinal⟩
  rw [isFinal] at isReached
  exact ⟨_, _, _, _, created, isReached⟩

end Finished

/-- A call that makes a change ends by recording what it has found and what it
has left. -/
theorem Makes.finished {call : InventoryCall} {change : Change}
    {result : call.Result} (makes : Makes db call change)
    (sound : IdentifiersSound db)
    (ended : ((inventoryClient library).program call).call db =
      (.ok result, reached)) :
    ∃ action eventType device final,
      (finishMutation library call.context call.generated action eventType
        change.device.id (db.devices.lookup change.device.id)).eval
          ⟨db, change.apply db⟩ = (.ok device, final) ∧
      reached = final.committed := by
  cases makes with
  | @manual context generated input approvalRequired absent =>
      have before : db.devices.lookup (manualChange context generated input
          approvalRequired).device.id = none := absent
      rw [before]
      exact finished_createManual sound ended
  | @metadata context generated patch current found allowed =>
      rcases Program.call_eq_ok ended with ⟨final, steps, isReached⟩
      rcases eval_updateMetadata_eq_ok steps with
        ⟨other, otherFound, _, _, finished⟩
      have same : current = other :=
        Option.some.inj (found.symm.trans otherFound)
      have before : db.devices.lookup (metadataChange context generated patch
          current).device.id = some current :=
        (deviceIn_eq_some_iff.mp found).1
      rw [← same] at finished
      rw [before]
      exact ⟨_, _, _, _, finished, isReached⟩
  | @lifecycle context generated next reason current found different allowed =>
      rcases Program.call_eq_ok ended with ⟨final, steps, isReached⟩
      rcases eval_transitionLifecycle_eq_ok steps with
        ⟨other, otherFound, _, outcome⟩
      have same : current = other :=
        Option.some.inj (found.symm.trans otherFound)
      rw [← same] at outcome
      have before : db.devices.lookup (lifecycleChange context generated next
          reason current).device.id = some current :=
        (deviceIn_eq_some_iff.mp found).1
      rw [before]
      rcases outcome with ⟨already, _⟩ | ⟨_, _, finished⟩
      · exact absurd already different
      · exact ⟨_, _, _, _, finished, isReached⟩
  | @observed context generated observation current only found inService =>
      have before : db.devices.lookup (observedChange context generated
          observation (db.hasDeclaredFact current.id) current).device.id =
            some current := (deviceIn_eq_some_iff.mp found).1
      rcases finished_updateObserved sound only found inService ended with
        ⟨_, _, _, _, finished, isReached⟩
      rw [before]
      exact ⟨_, _, _, _, finished, isReached⟩
  | @discovered context generated observation noMatch absent =>
      have before : db.devices.lookup (discoveredChange context generated
          observation).device.id = none := absent
      rcases finished_createObserved sound noMatch absent ended with
        ⟨_, _, _, _, finished, isReached⟩
      rw [before]
      exact ⟨_, _, _, _, finished, isReached⟩

end Calls

/-! ## Histories -/

/-- The change from one state of a device to the next keeps its scope, and its
lifecycle allows it. -/
structure Follows (before after : DeviceView) : Prop where
  scope : after.scope = before.scope
  lifecycle : after.lifecycle = before.lifecycle ∨
    before.lifecycle.canTransitionTo after.lifecycle = true

/-- The records of a device tell its history: the versions are numbered from
one, each audit event has the device before and after one of its changes, and
each outbox event the device after it. -/
structure Told (formatTime : Timestamp → String) (db : InventoryDb)
    (deviceId : Uuid) (history : List DeviceView) : Prop where
  row : db.devices.lookup deviceId = history.getLast?
  versions : history.map DeviceView.version =
    (List.range history.length).map fun index : Nat => (index : Int) + 1
  follows : ∀ before after, (some before, after) ∈ steps history →
    Follows before after
  audit : (db.audit.rows.filter (audits deviceId)).map
      (fun row => (row.beforeState, row.afterState)) =
    (steps history).map fun step =>
      (step.1.map (DeviceView.toValue formatTime),
        some (step.2.toValue formatTime))
  outbox : (db.outbox.events.rows.filter (announces deviceId)).map
      (fun row => row.event.payload) =
    history.map (DeviceView.toValue formatTime)

section Histories

variable {formatTime : Timestamp → String} {db : InventoryDb}
  {deviceId : Uuid} {history : List DeviceView}

private theorem InventoryDb.IsUnrecorded.told (isUnrecorded : db.IsUnrecorded)
    (deviceId : Uuid) : Told formatTime db deviceId [] where
  row := by
    rw [Table.lookup, isUnrecorded.isEmpty.devices]
    rfl
  versions := rfl
  follows before after member := absurd member List.not_mem_nil
  audit := by
    have noAudit : db.audit.rows.filter (audits deviceId) = [] := by
      apply List.filter_eq_nil_iff.mpr
      intro row member
      simp [audits, isUnrecorded.audit row member]
    rw [noAudit]
    rfl
  outbox := by
    have noOutbox : db.outbox.events.rows.filter (announces deviceId) = [] := by
      apply List.filter_eq_nil_iff.mpr
      intro row member
      simp [announces, isUnrecorded.outbox row member]
    rw [noOutbox]
    rfl

private theorem Told.versionOf_eq (told : Told formatTime db deviceId history) :
    db.versionOf deviceId = history.length := by
  have last : (history.map DeviceView.version).getLast? =
      history.getLast?.map DeviceView.version := List.getLast?_map
  rw [InventoryDb.versionOf, told.row]
  rw [told.versions, List.getLast?_map, List.getLast?_range] at last
  cases history using List.reverseRecOn with
  | nil => rfl
  | append_singleton earlier device _ =>
      simp at last ⊢
      exact last.symm

/-- What a change has found, if it was there, is followed by what it leaves. -/
theorem Makes.follows {call : InventoryCall} {change : Change}
    {current : DeviceView} (makes : Makes db call change)
    (found : db.devices.lookup change.device.id = some current) :
    Follows current change.device := by
  have same : ∀ {scope : Scope} {other : DeviceView},
      db.deviceIn scope other.id = some other →
      other.id = change.device.id → other = current := by
    intro scope other otherFound isId
    have stored := (deviceIn_eq_some_iff.mp otherFound).1
    rw [isId, found] at stored
    exact (Option.some.inj stored).symm
  cases makes with
  | manual absent => exact absurd (absent.symm.trans found) (by simp)
  | metadata isFound allowed =>
      obtain rfl := same isFound rfl
      exact ⟨rfl, Or.inl rfl⟩
  | lifecycle isFound different allowed =>
      obtain rfl := same isFound rfl
      exact ⟨rfl, Or.inr allowed⟩
  | observed only isFound inService =>
      obtain rfl := same isFound rfl
      exact ⟨rfl, Or.inl rfl⟩
  | discovered noMatch absent =>
      exact absurd (absent.symm.trans found) (by simp)

/-- A change of another device adds nothing to what is told. -/
theorem Told.other {call : InventoryCall} {change : Change}
    {auditRow : AuditStore.AuditRow} {outboxRow : PlatformEvents.OutboxRow}
    (told : Told formatTime db deviceId history)
    (different : change.device.id ≠ deviceId)
    (audited : AuditRecord call.context call.generated change.device auditRow)
    (enqueued : OutboxRecord call.context call.generated change.device
      outboxRow)
    (fresh : db.outbox.events.lookup outboxRow.id = none) :
    Told formatTime ((change.apply db).recorded auditRow outboxRow) deviceId
      history where
  row := by
    have applied := lookup_devices_apply change db deviceId
    rw [if_neg different, told.row] at applied
    exact applied
  versions := told.versions
  follows := told.follows
  audit := by
    have notOf : audits deviceId auditRow = false := by
      rw [Bool.eq_false_iff, Ne, audited.audits_iff]
      exact different
    have appended : ((change.apply db).recorded auditRow outboxRow).audit.rows =
        db.audit.rows ++ [auditRow] := rfl
    rw [appended, List.filter_append, List.filter_singleton, notOf,
      ← told.audit]
    simp
  outbox := by
    have notOf : announces deviceId outboxRow = false := by
      rw [Bool.eq_false_iff, Ne, enqueued.announces_iff]
      exact different
    have appended : ((change.apply db).recorded auditRow
        outboxRow).outbox.events.rows =
          db.outbox.events.rows ++ [outboxRow] :=
      Table.rows_put_of_lookup_none fresh
    rw [appended, List.filter_append, List.filter_singleton, notOf,
      ← told.outbox]
    simp

/-- A change of the device adds its state to what is told. -/
theorem Told.next {call : InventoryCall} {change : Change}
    {auditRow : AuditStore.AuditRow} {outboxRow : PlatformEvents.OutboxRow}
    (told : Told formatTime db deviceId history)
    (makes : Makes db call change) (same : change.device.id = deviceId)
    (audited : AuditRecord call.context call.generated change.device auditRow)
    (step : AuditsStep formatTime (db.devices.lookup change.device.id)
      change.device auditRow)
    (enqueued : OutboxRecord call.context call.generated change.device
      outboxRow)
    (payload : outboxRow.event.payload = change.device.toValue formatTime)
    (fresh : db.outbox.events.lookup outboxRow.id = none) :
    Told formatTime ((change.apply db).recorded auditRow outboxRow) deviceId
      (history ++ [change.device]) where
  row := by
    have applied := lookup_devices_apply change db deviceId
    rw [if_pos same] at applied
    rw [List.getLast?_concat]
    exact applied
  versions := by
    have raised := makes.version_eq
    rw [same, told.versionOf_eq] at raised
    rw [List.map_append, told.versions, List.length_append, List.length_singleton,
      List.range_succ, List.map_append, List.map_singleton, raised]
    rfl
  follows before after member := by
    rw [steps_append_singleton, List.mem_append, List.mem_singleton] at member
    rcases member with earlier | isLast
    · exact told.follows before after earlier
    · obtain ⟨isBefore, isAfter⟩ := Prod.mk.inj isLast
      rw [isAfter]
      apply makes.follows
      rw [same, told.row, ← isBefore]
  audit := by
    have isOf : audits deviceId auditRow = true :=
      (audited.audits_iff deviceId).mpr same
    have appended : ((change.apply db).recorded auditRow outboxRow).audit.rows =
        db.audit.rows ++ [auditRow] := rfl
    have isStep := step.before
    rw [same, told.row] at isStep
    rw [appended, List.filter_append, List.filter_singleton, isOf,
      List.map_append, told.audit, steps_append_singleton, List.map_append,
      List.map_singleton, ← isStep, ← step.after]
    rfl
  outbox := by
    have isOf : announces deviceId outboxRow = true :=
      (enqueued.announces_iff deviceId).mpr same
    have appended : ((change.apply db).recorded auditRow
        outboxRow).outbox.events.rows =
          db.outbox.events.rows ++ [outboxRow] :=
      Table.rows_put_of_lookup_none fresh
    rw [appended, List.filter_append, List.filter_singleton, isOf,
      List.map_append, told.outbox, List.map_append, List.map_singleton,
      ← payload]
    rfl

/-- A mutation adds one state to the history of its device, and nothing to
that of another. -/
theorem Told.after {library : InventoryLibrary} {reached : InventoryDb}
    {call : InventoryCall} {change : Change} {result : call.Result}
    (told : Told library.formatTime db deviceId history)
    (sound : IdentifiersSound db) (makes : Makes db call change)
    (ended : ((inventoryClient library).program call).call db =
      (.ok result, reached)) :
    ∃ more, Told library.formatTime reached deviceId (history ++ more) := by
  rcases makes.finished sound ended with
    ⟨action, eventType, device, final, finished, isReached⟩
  have found := deviceIn_apply change db
  rw [makes.concerns.device] at found
  rcases steps_of_finishMutation found finished with
    ⟨auditRow, outboxRow, audited, step, enqueued, payload, fresh, isFinal⟩
  have unused : db.outbox.events.lookup outboxRow.id = none := by
    rw [enqueued.id_eq]
    exact fresh
  rw [isReached, isFinal]
  by_cases same : change.device.id = deviceId
  · exact ⟨[change.device],
      told.next makes same audited step enqueued payload unused⟩
  · rw [← List.append_nil history] at told
    exact ⟨[], told.other same audited enqueued unused⟩

/-- A call that returns a result keeps the identifiers sound, and what is told
of a device only grows. -/
theorem Told.call {library : InventoryLibrary} {reached : InventoryDb}
    {call : InventoryCall} {result : call.Result}
    (told : Told library.formatTime db deviceId history)
    (sound : IdentifiersSound db)
    (ended : ((inventoryClient library).program call).call db =
      (.ok result, reached)) :
    IdentifiersSound reached ∧
      ∃ more, Told library.formatTime reached deviceId (history ++ more) := by
  rcases mutation_of_call sound call ended with rfl | ⟨change, mutation⟩
  · rw [← List.append_nil history] at told
    exact ⟨sound, [], told⟩
  · exact ⟨mutation.sound, told.after sound mutation.makes ended⟩

private theorem Told.run {library : InventoryLibrary}
    (told : Told library.formatTime db deviceId history)
    (sound : IdentifiersSound db)
    (attempts : List (inventoryClient library).Attempt) :
    ∃ more, Told library.formatTime ((inventoryClient library).run db attempts)
      deviceId (history ++ more) := by
  induction attempts generalizing db history with
  | nil =>
      rw [← List.append_nil history] at told
      exact ⟨[], told⟩
  | cons attempt rest inductionHypothesis =>
      rw [Client.run_cons]
      by_cases succeeds : (inventoryClient library).Succeeds db attempt
      · rcases succeeds.call with ⟨result, ended⟩
        rcases told.call sound ended with ⟨soundAfter, more, longer⟩
        rcases inductionHypothesis longer soundAfter with ⟨later, longest⟩
        rw [List.append_assoc] at longest
        exact ⟨more ++ later, longest⟩
      · rw [Client.after_eq_of_not_succeeds
          (commitsLast_inventoryClient attempt.1) succeeds]
        exact inductionHypothesis told sound

/-- In every reachable state the records of a device tell its history. -/
theorem exists_told {library : InventoryLibrary}
    (reachable : (inventoryClient library).Reachable
      InventoryDb.IsUnrecorded db) :
    IdentifiersSound db ∧
      ∃ history, Told library.formatTime db deviceId history := by
  apply reachable.invariant commitsLast_inventoryClient
  · intro state isUnrecorded
    exact ⟨isUnrecorded.isEmpty.sound, [], isUnrecorded.told deviceId⟩
  · intro call state result reached invariant ended
    rcases invariant with ⟨sound, history, told⟩
    rcases told.call sound ended with ⟨soundAfter, more, longer⟩
    exact ⟨soundAfter, _, longer⟩

end Histories

/-- In every reachable state the records of a device tell its whole history, the
last state of which is its row, and no later run changes what they tell. -/
theorem histories_grow {library : InventoryLibrary} {db : InventoryDb}
    (reachable : (inventoryClient library).Reachable
      InventoryDb.IsUnrecorded db) (deviceId : Uuid) :
    ∃ history, Told library.formatTime db deviceId history ∧
      ∀ attempts : List (inventoryClient library).Attempt,
        ∃ more, Told library.formatTime
          ((inventoryClient library).run db attempts) deviceId
            (history ++ more) := by
  rcases exists_told reachable with ⟨sound, history, told⟩
  exact ⟨history, told, told.run sound⟩

namespace Sample

private theorem isUnrecorded_start : start.IsUnrecorded where
  isEmpty := isEmpty_start
  audit _ member := absurd member List.not_mem_nil
  outbox _ member := absurd member List.not_mem_nil

end Sample

theorem histories_grow_lived :
    ∃ history, Told Sample.livedLibrary.formatTime Sample.lived
        Sample.first.deviceId history ∧
      ∀ attempts : List (inventoryClient Sample.livedLibrary).Attempt,
        ∃ more, Told Sample.livedLibrary.formatTime
          ((inventoryClient Sample.livedLibrary).run Sample.lived attempts)
            Sample.first.deviceId (history ++ more) :=
  histories_grow (Sample.reachable_lived Sample.isUnrecorded_start) _

/-- The devices that the outbox announces, each under the text of its
identifier. -/
def InventoryDb.feed (db : InventoryDb) : List (String × Value) :=
  (db.outbox.events.rows.filter fun row =>
      row.event.aggregateType == "device").map
    fun row => (row.event.aggregateId, row.event.payload)

private theorem valuesOf_feed (db : InventoryDb) (deviceId : Uuid) :
    valuesOf db.feed deviceId.text =
      (db.outbox.events.rows.filter (announces deviceId)).map
        fun row => row.event.payload := by
  rw [valuesOf, InventoryDb.feed, List.filter_map, List.map_map,
    List.filter_filter]
  congr 1
  apply List.filter_congr
  intro row _
  rw [announces, Bool.and_comm]
  rfl

/-- In every reachable state, whoever replays the outbox has the table of
devices. -/
theorem feed_replays_devices {library : InventoryLibrary} {db : InventoryDb}
    (reachable : (inventoryClient library).Reachable
      InventoryDb.IsUnrecorded db) (deviceId : Uuid) :
    replay db.feed deviceId.text =
      (db.devices.lookup deviceId).map
        (DeviceView.toValue library.formatTime) := by
  rcases exists_told reachable with ⟨_, history, told⟩
  rw [replay_eq_getLast?, valuesOf_feed, told.outbox, List.getLast?_map,
    told.row]

theorem feed_replays_lived :
    replay Sample.lived.feed Sample.first.deviceId.text =
      (Sample.lived.devices.lookup Sample.first.deviceId).map
        (DeviceView.toValue Sample.livedLibrary.formatTime) :=
  feed_replays_devices (Sample.reachable_lived Sample.isUnrecorded_start) _

end NetworkManager.InventoryStore
