import NetworkManager.InventoryStore.Matching

/-!
# Runs of the inventory

The calls the store offers, and what each of them does to a state whose
identifiers are sound: a call that returns a result makes one change with its
records, or finds nothing to do.  What holds of every such change holds in
every reachable state.
-/

namespace NetworkManager.InventoryStore

open NetworkManager.Foundation
open NetworkManager.Domain.Inventory
open NetworkManager.Security
open NetworkManager.Transaction

inductive InventoryCall where
  | createManual (context : MutationContext) (generated : Generated)
      (input : NewDevice) (approvalRequired : Bool)
  | updateMetadata (context : MutationContext) (generated : Generated)
      (deviceId : Uuid) (expectedVersion : Int) (patch : MetadataPatch)
  | transitionLifecycle (context : MutationContext) (generated : Generated)
      (deviceId : Uuid) (expectedVersion : Int) (next : DeviceLifecycle)
      (reason : Option String)
  | reconcileObservation (context : MutationContext) (generated : Generated)
      (observation : DeviceObservation)

namespace InventoryCall

def context : InventoryCall → MutationContext
  | createManual given _ _ _ => given
  | updateMetadata given _ _ _ _ => given
  | transitionLifecycle given _ _ _ _ _ => given
  | reconcileObservation given _ _ => given

def generated : InventoryCall → Generated
  | createManual _ given _ _ => given
  | updateMetadata _ given _ _ _ => given
  | transitionLifecycle _ given _ _ _ _ => given
  | reconcileObservation _ given _ => given

abbrev Result : InventoryCall → Type
  | createManual .. => DeviceView
  | updateMetadata .. => DeviceView
  | transitionLifecycle .. => DeviceView
  | reconcileObservation .. => ReconciliationResult

end InventoryCall

def inventoryClient (library : InventoryLibrary) :
    Client inventorySql InventoryError where
  Call := InventoryCall
  Result := InventoryCall.Result
  program
    | .createManual context generated input approvalRequired =>
        createManual library context generated input approvalRequired
    | .updateMetadata context generated deviceId expectedVersion patch =>
        updateMetadata library context generated deviceId expectedVersion patch
    | .transitionLifecycle context generated deviceId expectedVersion next
        reason =>
        transitionLifecycle library context generated deviceId expectedVersion
          next reason
    | .reconcileObservation context generated observation =>
        reconcileObservation library context generated observation

section Commits

variable {scope : Scope} {deviceId : Uuid} {library : InventoryLibrary}
  {context : MutationContext} {generated : Generated}

private theorem commitFree_query (statement : Statement) :
    (query statement).CommitFree := Program.commitFree_statement _ _

private theorem commitFree_upsertIdentifier (observedAt : Option Timestamp)
    (identifier : NewIdentifier) :
    (upsertIdentifier scope deviceId observedAt identifier).CommitFree := by
  rw [upsertIdentifier_eq]
  apply (Program.commitFree_ofExcept _).bind fun _ => ?_
  apply (Program.commitFree_ofExcept _).bind fun row => ?_
  apply (commitFree_query _).bind fun updated => ?_
  by_cases isUpdated : 0 < updated
  · rw [if_pos isUpdated]
    exact .done _
  · rw [if_neg isUpdated]
    exact Program.commitFree_statement _ _

private theorem commitFree_upsertIdentifiers (observedAt : Option Timestamp)
    (identifiers : List NewIdentifier) :
    (Program.forEach (upsertIdentifier scope deviceId observedAt)
      identifiers).CommitFree :=
  Program.commitFree_forEach (commitFree_upsertIdentifier observedAt)
    identifiers

private theorem commitFree_writeFacts (rows : List FactRow) :
    (writeFacts rows).CommitFree :=
  Program.commitFree_forEach (fun _ => commitFree_query _) rows

private theorem commitFree_loadDevice (forUpdate : Bool) :
    (loadDevice scope deviceId forUpdate).CommitFree :=
  (commitFree_query _).bind fun _ => Program.commitFree_ofExcept _

private theorem commitFree_writeMutationRecords (action eventType : String)
    (device : DeviceView) (before after : Option Value) :
    (writeMutationRecords library context generated action eventType device
      before after).CommitFree :=
  (Embedding.commitFree_lift (AuditStore.commitFree_appendInTx ..)).bind
    fun _ => Embedding.commitFree_lift (PlatformEvents.commitFree_enqueue ..)

private theorem commitsLast_finishMutation (action eventType : String)
    (before : Option DeviceView) :
    (finishMutation library context generated action eventType deviceId
      before).CommitsLast :=
  (commitFree_loadDevice false).bind_commitsLast fun _ =>
    (commitFree_writeMutationRecords ..).bind_commitsLast fun _ =>
    .commit _ _

private theorem commitFree_storeNewDevice (row : DeviceView)
    (observedAt : Option Timestamp) (identifiers : List NewIdentifier)
    (facts : List FactRow) (reason : String) :
    (storeNewDevice context row observedAt identifiers facts
      reason).CommitFree :=
  (commitFree_query _).bind fun _ =>
    (commitFree_upsertIdentifiers ..).bind fun _ =>
    (commitFree_writeFacts _).bind fun _ => commitFree_query _

private theorem commitsLast_createManual (input : NewDevice)
    (approvalRequired : Bool) :
    (createManual library context generated input
      approvalRequired).CommitsLast := by
  rw [createManual_eq]
  exact (Program.commitFree_ofExcept _).bind_commitsLast fun _ =>
    (Program.commitFree_ofExcept _).bind_commitsLast fun _ =>
    (commitFree_storeNewDevice ..).bind_commitsLast fun _ =>
    commitsLast_finishMutation ..

private theorem commitsLast_updateMetadata (expectedVersion : Int)
    (patch : MetadataPatch) :
    (updateMetadata library context generated deviceId expectedVersion
      patch).CommitsLast := by
  refine (Program.commitFree_ofExcept _).bind_commitsLast fun _ =>
    (Program.commitFree_ofExcept _).bind_commitsLast fun _ =>
    (commitFree_loadDevice true).bind_commitsLast fun current =>
    (Program.commitFree_check _ _).bind_commitsLast fun _ =>
    (Program.commitFree_check _ _).bind_commitsLast fun _ =>
    (commitFree_query _).bind_commitsLast fun _ => ?_
  rw [persistPatchFacts_eq]
  exact (commitFree_writeFacts _).bind_commitsLast fun _ =>
    commitsLast_finishMutation ..

private theorem commitsLast_transitionLifecycle (expectedVersion : Int)
    (next : DeviceLifecycle) (reason : Option String) :
    (transitionLifecycle library context generated deviceId expectedVersion
      next reason).CommitsLast := by
  refine (Program.commitFree_ofExcept _).bind_commitsLast fun _ =>
    (commitFree_loadDevice true).bind_commitsLast fun current =>
    (Program.commitFree_check _ _).bind_commitsLast fun _ => ?_
  by_cases already : current.lifecycle = next
  · rw [if_pos already]
    exact .done _
  · rw [if_neg already]
    exact (Program.commitFree_check _ _).bind_commitsLast fun _ =>
      (Program.commitFree_check _ _).bind_commitsLast fun _ =>
      (commitFree_query _).bind_commitsLast fun _ =>
      (commitFree_query _).bind_commitsLast fun _ =>
      commitsLast_finishMutation ..

private theorem commitsLast_updateObservedDevice
    (observation : DeviceObservation)
    (observedAt : Timestamp) :
    (updateObservedDevice library context generated observation observedAt
      deviceId).CommitsLast := by
  refine (commitFree_loadDevice true).bind_commitsLast fun current =>
    (Program.commitFree_check _ _).bind_commitsLast fun _ =>
    (commitFree_upsertIdentifiers ..).bind_commitsLast fun _ => ?_
  rw [persistObservedFacts_eq]
  exact (commitFree_writeFacts _).bind_commitsLast fun _ =>
    (commitFree_query _).bind_commitsLast fun _ =>
    commitsLast_finishMutation ..

private theorem commitsLast_createObservedDevice
    (observation : DeviceObservation)
    (observedAt : Timestamp) :
    (createObservedDevice library context generated observation
      observedAt).CommitsLast := by
  refine (commitFree_query _).bind_commitsLast fun _ =>
    (commitFree_upsertIdentifiers ..).bind_commitsLast fun _ => ?_
  rw [persistObservedFacts_eq]
  exact (commitFree_writeFacts _).bind_commitsLast fun _ =>
    (commitFree_query _).bind_commitsLast fun _ =>
    commitsLast_finishMutation ..

private theorem commitFree_findMatches :
    ∀ (identifiers : List NewIdentifier) (found : Finset Uuid),
      (findMatches scope identifiers found).CommitFree
  | [], _ => .done _
  | _ :: rest, _ =>
      (Program.commitFree_ofExcept _).bind fun _ =>
        (Program.commitFree_ofExcept _).bind fun _ =>
        (commitFree_query _).bind fun _ => commitFree_findMatches rest _

theorem commitsLast_reconcileObservation (observation : DeviceObservation) :
    (reconcileObservation library context generated
      observation).CommitsLast := by
  refine (Program.commitFree_ofExcept _).bind_commitsLast fun _ =>
    (Program.commitFree_ofExcept _).bind_commitsLast fun _ =>
    (commitFree_findMatches _ _).bind_commitsLast fun found =>
    (Program.commitFree_check _ _).bind_commitsLast fun _ => ?_
  cases (found.sort (· ≤ ·)).head? with
  | none =>
      exact (commitsLast_createObservedDevice ..).bind_pure _
  | some deviceId =>
      exact (commitsLast_updateObservedDevice ..).bind_pure _

theorem commitsLast_inventoryClient (call : InventoryCall) :
    ((inventoryClient library).program call).CommitsLast := by
  cases call with
  | createManual => exact commitsLast_createManual ..
  | updateMetadata => exact commitsLast_updateMetadata ..
  | transitionLifecycle => exact commitsLast_transitionLifecycle ..
  | reconcileObservation => exact commitsLast_reconcileObservation ..

end Commits

/-! ## What a call changes -/

/-- Whether the device has been taken out of service. -/
def outOfService (device : DeviceView) : Bool :=
  device.lifecycle == .retired || device.lifecycle == .archived

/-- The changes that the calls make when they succeed. -/
inductive Makes (db : InventoryDb) : InventoryCall → Change → Prop
  | manual {context : MutationContext} {generated : Generated}
      {input : NewDevice} {approvalRequired : Bool} :
      db.devices.lookup generated.deviceId = none →
      Makes db (.createManual context generated input approvalRequired)
        (manualChange context generated input approvalRequired)
  | metadata {context : MutationContext} {generated : Generated}
      {patch : MetadataPatch} {current : DeviceView} :
      db.deviceIn context.scope current.id = some current →
      current.lifecycle.allowsNormalMutation = true →
      Makes db (.updateMetadata context generated current.id current.version
        patch) (metadataChange context generated patch current)
  | lifecycle {context : MutationContext} {generated : Generated}
      {next : DeviceLifecycle} {reason : Option String}
      {current : DeviceView} :
      db.deviceIn context.scope current.id = some current →
      current.lifecycle ≠ next →
      current.lifecycle.canTransitionTo next = true →
      Makes db (.transitionLifecycle context generated current.id
        current.version next reason)
        (lifecycleChange context generated next reason current)
  | observed {context : MutationContext} {generated : Generated}
      {observation : DeviceObservation} {current : DeviceView} :
      db.matching context.scope observation = {current.id} →
      db.deviceIn context.scope current.id = some current →
      outOfService current = false →
      Makes db (.reconcileObservation context generated observation)
        (observedChange context generated observation
          (db.hasDeclaredFact current.id) current)
  | discovered {context : MutationContext} {generated : Generated}
      {observation : DeviceObservation} :
      db.matching context.scope observation = ∅ →
      db.devices.lookup generated.deviceId = none →
      Makes db (.reconcileObservation context generated observation)
        (discoveredChange context generated observation)

/-- Everything a change writes is about its device. -/
structure Change.Concerns (change : Change) (scope : Scope) : Prop where
  device : change.device.scope = scope
  identifiers : ∀ row ∈ change.identifiers,
    row.Describes scope change.device.id
  facts : FactsOf scope change.device.id change.facts

theorem Makes.concerns {db : InventoryDb} {call : InventoryCall}
    {change : Change} (makes : Makes db call change) :
    change.Concerns call.context.scope := by
  cases makes with
  | manual absent =>
      exact ⟨rfl, fun row member => (describes_of_mem member).1,
        factsOf_declaredFacts _ _ _⟩
  | metadata found allowed =>
      exact ⟨(deviceIn_eq_some_iff.mp found).2, nofun,
        factsOf_declaredFacts _ _ _⟩
  | lifecycle found different allowed =>
      exact ⟨(deviceIn_eq_some_iff.mp found).2, nofun, nofun⟩
  | observed only found inService =>
      exact ⟨(deviceIn_eq_some_iff.mp found).2,
        fun row member => (describes_of_mem member).1,
        factsOf_observedFacts _ _ _ _⟩
  | discovered noMatch absent =>
      exact ⟨rfl, fun row member => (describes_of_mem member).1,
        factsOf_observedFacts _ _ _ _⟩

/-- The row, the identifiers and the facts of a device are as they were. -/
structure SameDevice (before after : InventoryDb) (deviceId : Uuid) :
    Prop where
  row : after.devices.lookup deviceId = before.devices.lookup deviceId
  identifiers : ∀ key : Uuid × IdentifierKey, key.1 = deviceId →
    after.identifiers.lookup key = before.identifiers.lookup key
  facts : ∀ key : FactKey, key.deviceId = deviceId →
    after.facts.lookup key = before.facts.lookup key

/-- A change leaves every other device as it was. -/
theorem sameDevice_apply {db : InventoryDb} {change : Change} {scope : Scope}
    (concerns : change.Concerns scope) {deviceId : Uuid}
    (different : deviceId ≠ change.device.id) :
    SameDevice db (change.apply db) deviceId where
  row := by
    rw [lookup_devices_apply, if_neg (Ne.symm different)]
  identifiers := by
    intro key ofDevice
    apply Table.lookup_upsertAll_of_notMem key_setIdentifier
    intro row member same
    have isRow := (concerns.identifiers row member).deviceId
    rw [← same] at ofDevice
    exact different (ofDevice.symm.trans isRow)
  facts := by
    intro key ofDevice
    apply Table.lookup_upsertAll_of_notMem key_setFact
    intro fact member same
    have isFact := (concerns.facts fact member).2
    rw [← same] at ofDevice
    exact different (ofDevice.symm.trans isFact)

/-- The call has made a change and recorded it. -/
structure Mutation (db : InventoryDb) (call : InventoryCall) (change : Change)
    (reached : InventoryDb) : Prop where
  makes : Makes db call change
  sound : IdentifiersSound reached
  recorded : ∃ auditRow outboxRow,
    AuditRecord call.context call.generated change.device auditRow ∧
    OutboxRecord call.context call.generated change.device outboxRow ∧
    db.outbox.events.lookup call.generated.outboxId = none ∧
    reached = (change.apply db).recorded auditRow outboxRow

private theorem IdentifiersSound.recorded {db : InventoryDb}
    {auditRow : AuditStore.AuditRow} {outboxRow : PlatformEvents.OutboxRow}
    (sound : IdentifiersSound db) :
    IdentifiersSound (db.recorded auditRow outboxRow) :=
  ⟨sound.device, sound.strength, sound.strongUnique⟩

section Calls

variable {library : InventoryLibrary} {db committed reached : InventoryDb}

/-- The device of a mutation is there afterwards. -/
theorem Mutation.found {call : InventoryCall} {change : Change}
    (mutation : Mutation db call change reached) :
    reached.deviceIn call.context.scope change.device.id =
      some change.device := by
  rcases mutation.recorded with ⟨auditRow, outboxRow, _, _, _, rfl⟩
  rw [← mutation.makes.concerns.device]
  exact deviceIn_apply change db

/-- A change that has been made and then recorded is a mutation. -/
theorem Mutation.of_finish {call : InventoryCall} {change : Change}
    {action eventType : String} {deviceId : Uuid} {before : Option DeviceView}
    {result : DeviceView} {final : Connection inventorySql}
    (makes : Makes db call change) (sound : IdentifiersSound (change.apply db))
    (found : (change.apply db).deviceIn call.context.scope deviceId =
      some change.device)
    (ended : (finishMutation library call.context call.generated action
        eventType deviceId before).eval ⟨committed, change.apply db⟩ =
      (.ok result, final)) :
    result = change.device ∧ Mutation db call change final.committed := by
  rcases eval_finishMutation_eq_ok found ended with
    ⟨isDevice, auditRow, outboxRow, audited, enqueued, fresh, rfl⟩
  exact ⟨isDevice, makes, sound.recorded, auditRow, outboxRow, audited,
    enqueued, fresh, rfl⟩

/-- A change of a device that is there keeps the identifiers sound. -/
theorem IdentifiersSound.apply_without_identifiers {change : Change}
    {current : DeviceView} (sound : IdentifiersSound db)
    (found : db.devices.lookup change.device.id = some current)
    (sameScope : current.scope = change.device.scope)
    (noIdentifiers : change.identifiers = []) :
    IdentifiersSound (change.apply db) := by
  apply sound.apply
  · intro stored storedFound
    rw [found] at storedFound
    cases storedFound
    exact sameScope
  · intro row member
    simp [noIdentifiers] at member
  · intro row member
    simp [noIdentifiers] at member

theorem mutation_createManual {context : MutationContext}
    {generated : Generated} {input : NewDevice} {approvalRequired : Bool}
    {result : DeviceView} (sound : IdentifiersSound db)
    (ended : (createManual library context generated input
        approvalRequired).call db = (.ok result, reached)) :
    ∃ change, result = change.device ∧
      Mutation db (.createManual context generated input approvalRequired)
        change reached := by
  rcases Program.call_eq_ok ended with ⟨final, steps, rfl⟩
  rw [createManual_eq] at steps
  rcases Program.eval_bind_eq_ok steps with ⟨_, _, checked, steps⟩
  rw [(Program.eval_ofExcept_eq_ok checked).2] at steps
  rcases Program.eval_bind_eq_ok steps with ⟨_, _, checked, steps⟩
  rw [(Program.eval_ofExcept_eq_ok checked).2] at steps
  rcases Program.eval_bind_eq_ok steps with ⟨_, middle, stored, finished⟩
  have inScope : (manualRow context generated input approvalRequired).scope =
      context.scope := rfl
  have factsOf : FactsOf context.scope generated.deviceId
      (declaredFacts context.scope generated.deviceId
        (declaredValues input)) := factsOf_declaredFacts _ _ _
  rcases eval_storeNewDevice_eq_ok sound inScope factsOf stored with
    ⟨absent, isMiddle, soundAfter⟩
  rw [isMiddle] at finished soundAfter
  have found := deviceIn_apply
    (manualChange context generated input approvalRequired) db
  have makes : Makes db
      (.createManual context generated input approvalRequired)
      (manualChange context generated input approvalRequired) := .manual absent
  exact ⟨_, Mutation.of_finish makes soundAfter found finished⟩

theorem mutation_updateMetadata {context : MutationContext}
    {generated : Generated} {deviceId : Uuid} {expectedVersion : Int}
    {patch : MetadataPatch} {result : DeviceView} (sound : IdentifiersSound db)
    (ended : (updateMetadata library context generated deviceId
        expectedVersion patch).call db = (.ok result, reached)) :
    ∃ change, result = change.device ∧
      Mutation db
        (.updateMetadata context generated deviceId expectedVersion patch)
        change reached := by
  rcases Program.call_eq_ok ended with ⟨final, evaluated, rfl⟩
  rcases eval_updateMetadata_eq_ok evaluated with
    ⟨current, found, rfl, allowed, finished⟩
  have isId : current.id = deviceId := id_of_deviceIn found
  subst isId
  rcases deviceIn_eq_some_iff.mp found with ⟨stored, inScope⟩
  have foundAfter :=
    deviceIn_apply (metadataChange context generated patch current) db
  have sameScope : (metadataChange context generated patch
      current).device.scope = context.scope := inScope
  rw [sameScope] at foundAfter
  have makes : Makes db (.updateMetadata context generated current.id
      current.version patch) (metadataChange context generated patch current) :=
    .metadata found allowed
  have soundAfter : IdentifiersSound
      ((metadataChange context generated patch current).apply db) :=
    sound.apply_without_identifiers stored rfl rfl
  exact ⟨_, Mutation.of_finish makes soundAfter foundAfter finished⟩

theorem mutation_transitionLifecycle {context : MutationContext}
    {generated : Generated} {deviceId : Uuid} {expectedVersion : Int}
    {next : DeviceLifecycle} {reason : Option String} {result : DeviceView}
    (sound : IdentifiersSound db)
    (ended : (transitionLifecycle library context generated deviceId
        expectedVersion next reason).call db = (.ok result, reached)) :
    (reached = db ∧ ∃ current, db.deviceIn context.scope deviceId =
        some current ∧ current.version = expectedVersion ∧
          current.lifecycle = next ∧ result = current) ∨
      ∃ change, result = change.device ∧
        Mutation db (.transitionLifecycle context generated deviceId
          expectedVersion next reason) change reached := by
  rcases Program.call_eq_ok ended with ⟨final, evaluated, rfl⟩
  rcases eval_transitionLifecycle_eq_ok evaluated with
    ⟨current, found, rfl, ⟨already, isResult, rfl⟩ |
      ⟨different, allowed, finished⟩⟩
  · exact Or.inl ⟨rfl, current, found, rfl, already, isResult⟩
  · right
    have isId : current.id = deviceId := id_of_deviceIn found
    subst isId
    rcases deviceIn_eq_some_iff.mp found with ⟨stored, inScope⟩
    have foundAfter := deviceIn_apply
      (lifecycleChange context generated next reason current) db
    have sameScope : (lifecycleChange context generated next reason
        current).device.scope = context.scope := inScope
    rw [sameScope] at foundAfter
    have makes : Makes db (.transitionLifecycle context generated current.id
        current.version next reason)
        (lifecycleChange context generated next reason current) :=
      .lifecycle found different allowed
    have soundAfter : IdentifiersSound
        ((lifecycleChange context generated next reason current).apply db) :=
      sound.apply_without_identifiers stored rfl rfl
    exact ⟨_, Mutation.of_finish makes soundAfter foundAfter finished⟩

/-- How an observation ends, by the devices that own its strong
identifiers. -/
inductive Reconciles (library : InventoryLibrary) (context : MutationContext)
    (generated : Generated) (observation : DeviceObservation)
    (db : InventoryDb) :
    Except InventoryError ReconciliationResult → InventoryDb → Prop
  | conflict :
      1 < (db.matching context.scope observation).card →
      Reconciles library context generated observation db
        (.error (.reconciliationConflict
          ((db.matching context.scope observation).sort (· ≤ ·)))) db
  | review {current : DeviceView} :
      db.matching context.scope observation = {current.id} →
      db.deviceIn context.scope current.id = some current →
      outOfService current = true →
      Reconciles library context generated observation db
        (.error (.reactivationRequiresReview current.id)) db
  | updated {current : DeviceView} {reached : InventoryDb} :
      Mutation db (.reconcileObservation context generated observation)
        (observedChange context generated observation
          (db.hasDeclaredFact current.id) current) reached →
      db.matching context.scope observation = {current.id} →
      db.deviceIn context.scope current.id = some current →
      outOfService current = false →
      Reconciles library context generated observation db
        (.ok (.updated (observedChange context generated observation
          (db.hasDeclaredFact current.id) current).device)) reached
  | created {reached : InventoryDb} :
      Mutation db (.reconcileObservation context generated observation)
        (discoveredChange context generated observation) reached →
      db.matching context.scope observation = ∅ →
      db.devices.lookup generated.deviceId = none →
      Reconciles library context generated observation db
        (.ok (.created (discoveredChange context generated
          observation).device)) reached
  | failed {failure : InventoryError} :
      Infrastructure failure →
      (db.matching context.scope observation).card ≤ 1 →
      (∀ current, db.matching context.scope observation = {current.id} →
        db.deviceIn context.scope current.id = some current →
        outOfService current = false) →
      ¬Available library context generated db →
      Reconciles library context generated observation db
        (.error failure) db

section Reconciliation

variable {context : MutationContext} {generated : Generated}
  {observation : DeviceObservation}

/-- A mutation whose changes are made ends well, unless the records cannot be
written. -/
theorem finishes {call : InventoryCall} {change : Change}
    {action eventType : String} {deviceId : Uuid} {before : Option DeviceView}
    (makes : Makes db call change) (sound : IdentifiersSound (change.apply db))
    (found : (change.apply db).deviceIn call.context.scope deviceId =
      some change.device)
    (contextValid : call.context.validate = .ok ())
    (named : isBlank action = false) (short : action.utf8ByteSize ≤ 200)
    (eventNamed : isBlank eventType = false) :
    (∃ final, (finishMutation library call.context call.generated action
        eventType deviceId before).eval ⟨db, change.apply db⟩ =
          (.ok change.device, final) ∧
        Mutation db call change final.committed) ∨
      ∃ failure final, Infrastructure failure ∧
        ¬Available library call.context call.generated db ∧
        (finishMutation library call.context call.generated action eventType
          deviceId before).eval ⟨db, change.apply db⟩ =
            (.error failure, final) := by
  rcases eval_finishMutation library call.generated action eventType before
    db found with
    ⟨auditRow, outboxRow, audited, enqueued, fresh, finished⟩ |
      ⟨failure, final, isInfrastructure, finished⟩
  · left
    rw [finished]
    exact ⟨_, rfl, makes, sound.recorded, auditRow, outboxRow, audited,
      enqueued, fresh, rfl⟩
  · right
    refine ⟨failure, final, isInfrastructure, ?_, finished⟩
    intro available
    have sameAudit : (change.apply db).audit = db.audit := rfl
    have sameOutbox : (change.apply db).outbox = db.outbox := rfl
    rcases eval_finishMutation_available available contextValid named short
      eventNamed sameAudit sameOutbox found with ⟨_, ended⟩
    exact nomatch congrArg Prod.fst (finished.symm.trans ended)

/-- The identifiers of an observation may be written for the one device that
owns its strong ones. -/
theorem admits_of_matching (generated : Generated)
    (sound : IdentifiersSound db) {deviceId : Uuid}
    (only : db.matching context.scope observation ⊆ {deviceId}) :
    ∀ row ∈ identifierRows context.scope deviceId
      (some (observationTime generated observation)) observation.identifiers,
      Admits db row :=
  admits_of_owners sound only

private theorem finishes_discovered (library : InventoryLibrary)
    (sound : IdentifiersSound db)
    (contextValid : context.validate = .ok ())
    (valid : observation.validate = .ok ())
    (noMatch : db.matching context.scope observation = ∅)
    (absent : db.devices.lookup generated.deviceId = none) :
    (∃ final, (createObservedDevice library context generated observation
        (observationTime generated observation)).eval ⟨db, db⟩ =
          (.ok (discoveredChange context generated observation).device,
            final) ∧
        Mutation db (.reconcileObservation context generated observation)
          (discoveredChange context generated observation)
          final.committed) ∨
      ∃ failure final, Infrastructure failure ∧
        ¬Available library context generated db ∧
        (createObservedDevice library context generated observation
          (observationTime generated observation)).eval ⟨db, db⟩ =
            (.error failure, final) := by
  have identifiersValid := (DeviceObservation.validate_eq_ok valid).2
  have admits := admits_of_matching generated sound
    (noMatch.subset.trans (Finset.empty_subset {generated.deviceId}))
  rw [eval_createObservedDevice sound absent identifiersValid admits]
  have makes : Makes db (.reconcileObservation context generated observation)
      (discoveredChange context generated observation) :=
    .discovered noMatch absent
  have soundAfter : IdentifiersSound
      ((discoveredChange context generated observation).apply db) := by
    apply sound.apply (allowsDevice_of_absent absent)
    · exact fun row member => (describes_of_mem member).1
    · exact admits
  exact finishes makes soundAfter (deviceIn_apply _ _) contextValid (by decide)
    (by decide) (by decide)

private theorem finishes_observed (library : InventoryLibrary)
    {current : DeviceView} (sound : IdentifiersSound db)
    (contextValid : context.validate = .ok ())
    (valid : observation.validate = .ok ())
    (only : db.matching context.scope observation = {current.id})
    (found : db.deviceIn context.scope current.id = some current)
    (inService : outOfService current = false) :
    (∃ final, (updateObservedDevice library context generated observation
        (observationTime generated observation) current.id).eval ⟨db, db⟩ =
          (.ok (observedChange context generated observation
            (db.hasDeclaredFact current.id) current).device, final) ∧
        Mutation db (.reconcileObservation context generated observation)
          (observedChange context generated observation
            (db.hasDeclaredFact current.id) current) final.committed) ∨
      ∃ failure final, Infrastructure failure ∧
        ¬Available library context generated db ∧
        (updateObservedDevice library context generated observation
          (observationTime generated observation) current.id).eval ⟨db, db⟩ =
            (.error failure, final) := by
  have identifiersValid := (DeviceObservation.validate_eq_ok valid).2
  have admits := admits_of_matching generated sound only.subset
  rw [eval_updateObservedDevice sound found inService identifiersValid admits]
  rcases deviceIn_eq_some_iff.mp found with ⟨stored, inScope⟩
  have makes : Makes db (.reconcileObservation context generated observation)
      (observedChange context generated observation
        (db.hasDeclaredFact current.id) current) :=
    .observed only found inService
  have sameScope : (observedChange context generated observation
      (db.hasDeclaredFact current.id) current).device.scope = context.scope :=
    inScope
  have soundAfter : IdentifiersSound ((observedChange context generated
      observation (db.hasDeclaredFact current.id) current).apply db) := by
    apply sound.apply
    · intro other otherFound
      have same : other = current :=
        Option.some.inj (otherFound.symm.trans stored)
      exact same ▸ rfl
    · intro row member
      rw [sameScope]
      exact (describes_of_mem member).1
    · exact admits
  have foundAfter := deviceIn_apply (observedChange context generated
    observation (db.hasDeclaredFact current.id) current) db
  rw [sameScope] at foundAfter
  exact finishes makes soundAfter foundAfter contextValid (by decide)
    (by decide) (by decide)

/-- A device is not created under an id that is taken. -/
theorem eval_createObservedDevice_taken (library : InventoryLibrary)
    (taken : db.devices.lookup generated.deviceId ≠ none) :
    (createObservedDevice library context generated observation
      (observationTime generated observation)).eval ⟨db, db⟩ =
        (.error (.database (.uniqueViolation "devices_pkey")), .fresh db) := by
  have refused : inventorySql.exec (.insertDevice (observedRow context
      generated observation (observationTime generated observation))) db =
        .error (.uniqueViolation "devices_pkey") :=
    if_pos (Option.isSome_iff_ne_none.mpr taken)
  rw [createObservedDevice, query,
    Program.eval_statement_bind_error refused]
  rfl

/-- A device out of service is not updated by an observation. -/
theorem eval_updateObservedDevice_refused (library : InventoryLibrary)
    {current : DeviceView}
    (found : db.deviceIn context.scope current.id = some current)
    (isOut : outOfService current = true) :
    (updateObservedDevice library context generated observation
      (observationTime generated observation) current.id).eval ⟨db, db⟩ =
        (.error (.reactivationRequiresReview current.id), ⟨db, db⟩) := by
  have blocked : (!(current.lifecycle == .retired ||
      current.lifecycle == .archived)) = false := by
    rw [Bool.not_eq_false']
    exact isOut
  rw [updateObservedDevice,
    Program.eval_bind_ok (eval_loadDevice found), blocked]
  rfl

section Ends

variable {outcome : Except InventoryError ReconciliationResult}
variable {final : Connection inventorySql}

/-- An observation whose strong identifiers nothing owns. -/
theorem Reconciles.of_unowned (sound : IdentifiersSound db)
    (contextValid : context.validate = .ok ())
    (valid : observation.validate = .ok ())
    (noMatch : db.matching context.scope observation = ∅)
    (ended : (continueWith library context generated observation ∅).eval
      ⟨db, db⟩ = (outcome, final))
    (unchanged : ∀ failure, outcome = .error failure →
      final.committed = db) :
    Reconciles library context generated observation db outcome
      final.committed := by
  have few : (db.matching context.scope observation).card ≤ 1 := by
    rw [noMatch, Finset.card_empty]
    exact Nat.zero_le 1
  have reviewed : ∀ current : DeviceView,
      db.matching context.scope observation = {current.id} →
      db.deviceIn context.scope current.id = some current →
      outOfService current = false := by
    intro current only
    rw [noMatch] at only
    exact absurd only.symm (Finset.singleton_ne_empty _)
  rw [continueWith_empty] at ended
  by_cases absent : db.devices.lookup generated.deviceId = none
  · rcases finishes_discovered library sound contextValid valid noMatch
      absent with
      ⟨reached, branch, mutation⟩ |
        ⟨failure, reached, isInfrastructure, notAvailable, branch⟩
    · rw [Program.eval_bind_ok branch] at ended
      cases ended
      exact .created mutation noMatch absent
    · rw [Program.eval_bind_error branch] at ended
      cases ended
      rw [unchanged _ rfl]
      exact .failed isInfrastructure few reviewed notAvailable
  · rw [Program.eval_bind_error
      (eval_createObservedDevice_taken library absent)] at ended
    cases ended
    exact .failed (.database _) few reviewed fun available =>
      absent available.deviceId

/-- An observation whose strong identifiers one device owns. -/
theorem Reconciles.of_owned {current : DeviceView}
    (sound : IdentifiersSound db) (contextValid : context.validate = .ok ())
    (valid : observation.validate = .ok ())
    (only : db.matching context.scope observation = {current.id})
    (found : db.deviceIn context.scope current.id = some current)
    (ended : (continueWith library context generated observation
      {current.id}).eval ⟨db, db⟩ = (outcome, final))
    (unchanged : ∀ failure, outcome = .error failure →
      final.committed = db) :
    Reconciles library context generated observation db outcome
      final.committed := by
  have few : (db.matching context.scope observation).card ≤ 1 := by
    rw [only, Finset.card_singleton]
  rw [continueWith_singleton] at ended
  cases inService : outOfService current with
  | true =>
      rw [Program.eval_bind_error
        (eval_updateObservedDevice_refused library found inService)] at ended
      cases ended
      exact .review only found inService
  | false =>
      have reviewed : ∀ other : DeviceView,
          db.matching context.scope observation = {other.id} →
          db.deviceIn context.scope other.id = some other →
          outOfService other = false := by
        intro other otherOnly otherFound
        have sameId : current.id = other.id :=
          Finset.singleton_injective (only.symm.trans otherOnly)
        rw [sameId, otherFound] at found
        exact Option.some.inj found ▸ inService
      rcases finishes_observed library sound contextValid valid only found
        inService with
        ⟨reached, branch, mutation⟩ |
          ⟨failure, reached, isInfrastructure, notAvailable, branch⟩
      · rw [Program.eval_bind_ok branch] at ended
        cases ended
        exact .updated mutation only found inService
      · rw [Program.eval_bind_error branch] at ended
        cases ended
        rw [unchanged _ rfl]
        exact .failed isInfrastructure few reviewed notAvailable

end Ends

/-- An observation ends as the owners of its strong identifiers say. -/
theorem reconciles (sound : IdentifiersSound db)
    (contextValid : context.validate = .ok ())
    (valid : observation.validate = .ok ())
    {outcome : Except InventoryError ReconciliationResult}
    (ended : (reconcileObservation library context generated observation).call
      db = (outcome, reached)) :
    Reconciles library context generated observation db outcome reached := by
  have unchanged : ∀ failure, outcome = .error failure → reached = db := by
    rintro failure rfl
    exact Program.call_error (commitsLast_reconcileObservation observation)
      ended
  rw [Program.call_eq, Connection.fresh,
    eval_reconcileObservation sound contextValid valid, Prod.mk.injEq] at ended
  obtain ⟨rfl, rfl⟩ := ended
  by_cases several : 1 < (db.matching context.scope observation).card
  · rw [continueWith_conflict several]
    exact .conflict several
  · rcases Nat.le_one_iff_eq_zero_or_eq_one.mp (Nat.not_lt.mp several) with
      noCard | oneCard
    · have noMatch := Finset.card_eq_zero.mp noCard
      rw [noMatch] at unchanged ⊢
      exact .of_unowned sound contextValid valid noMatch rfl unchanged
    · obtain ⟨deviceId, only⟩ := Finset.card_eq_one.mp oneCard
      obtain ⟨current, found⟩ := Option.isSome_iff_exists.mp
        (present_of_mem_owners sound (only ▸ Finset.mem_singleton_self _))
      obtain rfl : current.id = deviceId := id_of_deviceIn found
      rw [only] at unchanged ⊢
      exact .of_owned sound contextValid valid only found rfl unchanged

/-- A reconciliation that is not refused at once has checked its input. -/
theorem valid_of_reconcileObservation {result : ReconciliationResult}
    (ended : (reconcileObservation library context generated observation).call
      db = (.ok result, reached)) :
    context.validate = .ok () ∧ observation.validate = .ok () := by
  rcases Program.call_eq_ok ended with ⟨final, steps, rfl⟩
  rcases Program.eval_bind_eq_ok steps with ⟨_, _, checked, steps⟩
  have contextValid := (Program.eval_ofExcept_eq_ok checked).1
  rw [(Program.eval_ofExcept_eq_ok checked).2] at steps
  rcases Program.eval_bind_eq_ok steps with ⟨_, _, checked, _⟩
  exact ⟨contextValid, (Program.eval_ofExcept_eq_ok checked).1⟩

end Reconciliation

/-- A call that returns a result has made one change and recorded it, or has
found nothing to do. -/
theorem mutation_of_call (sound : IdentifiersSound db) (call : InventoryCall)
    {result : call.Result}
    (ended : ((inventoryClient library).program call).call db =
      (.ok result, reached)) :
    reached = db ∨ ∃ change, Mutation db call change reached := by
  cases call with
  | createManual context generated input approvalRequired =>
      rcases mutation_createManual sound ended with ⟨change, _, mutation⟩
      exact Or.inr ⟨change, mutation⟩
  | updateMetadata context generated deviceId expectedVersion patch =>
      rcases mutation_updateMetadata sound ended with ⟨change, _, mutation⟩
      exact Or.inr ⟨change, mutation⟩
  | transitionLifecycle context generated deviceId expectedVersion next
      reason =>
      rcases mutation_transitionLifecycle sound ended with
        ⟨same, _⟩ | ⟨change, _, mutation⟩
      · exact Or.inl same
      · exact Or.inr ⟨change, mutation⟩
  | reconcileObservation context generated observation =>
      rcases valid_of_reconcileObservation ended with ⟨contextValid, valid⟩
      cases reconciles sound contextValid valid ended with
      | updated mutation => exact Or.inr ⟨_, mutation⟩
      | created mutation => exact Or.inr ⟨_, mutation⟩

end Calls

/-- No device has been stored yet. -/
structure InventoryDb.IsEmpty (db : InventoryDb) : Prop where
  devices : db.devices.rows = []
  identifiers : db.identifiers.rows = []
  facts : db.facts.rows = []
  lifecycleEvents : db.lifecycleEvents = []

theorem InventoryDb.IsEmpty.sound {db : InventoryDb} (isEmpty : db.IsEmpty) :
    IdentifiersSound db where
  device := by simp [isEmpty.identifiers]
  strength := by simp [isEmpty.identifiers]
  strongUnique := by simp [isEmpty.identifiers]

/-- What holds initially, and is kept by every mutation, holds in every
reachable state. -/
theorem invariant_of_mutations {library : InventoryLibrary}
    {initial holds : InventoryDb → Prop}
    (startSound : ∀ state, initial state → IdentifiersSound state)
    (start : ∀ state, initial state → holds state)
    (kept : ∀ call change state reached, IdentifiersSound state →
      holds state → Mutation state call change reached → holds reached)
    {db : InventoryDb}
    (reachable : (inventoryClient library).Reachable initial db) :
    IdentifiersSound db ∧ holds db := by
  apply reachable.invariant commitsLast_inventoryClient
  · exact fun state isInitial =>
      ⟨startSound state isInitial, start state isInitial⟩
  · intro call state result reached invariant ended
    rcases mutation_of_call invariant.1 call ended with
      rfl | ⟨change, mutation⟩
    · exact invariant
    · exact ⟨mutation.sound,
        kept call change state reached invariant.1 invariant.2 mutation⟩

theorem identifiersSound_of_reachable {library : InventoryLibrary}
    {db : InventoryDb}
    (reachable : (inventoryClient library).Reachable InventoryDb.IsEmpty db) :
    IdentifiersSound db :=
  (invariant_of_mutations (fun _ isEmpty => isEmpty.sound)
    (fun _ _ => trivial) (fun _ _ _ _ _ _ _ => trivial) reachable).1

end NetworkManager.InventoryStore
