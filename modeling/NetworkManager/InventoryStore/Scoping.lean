import NetworkManager.InventoryStore.Mutations
import NetworkManager.Transaction.Guards

/-!
# What the operations may write

Guards of the operations that hold whatever their statements see.  The
operations of a caller write about one device of the caller's scope only, and
the lifecycle events that they append name the caller.
-/

namespace NetworkManager.InventoryStore

open NetworkManager.Foundation
open NetworkManager.Domain.Inventory
open NetworkManager.Security
open NetworkManager.Transaction

/-- The write is about no device but a record of what was done. -/
def Write.IsRecord : Write → Prop
  | .audit _ => True
  | .outbox _ => True
  | _ => False

section Statements

variable {view : InventoryDb} {write : Write}

theorem mem_execUpdateIdentifier {row : IdentifierRow}
    (member : write ∈ (execUpdateIdentifier row view).2) :
    ∃ stored : IdentifierRow, stored.scope = row.scope ∧
      stored.deviceId = row.deviceId ∧
      write = .identifier (setIdentifier row stored) := by
  rw [execUpdateIdentifier] at member
  cases found : (view.identifiers.lookup row.key).filter
      fun stored => stored.scope = row.scope with
  | none =>
      rw [found] at member
      cases member
  | some stored =>
      rw [found] at member
      obtain ⟨isStored, inScope⟩ := Option.filter_eq_some_iff.mp found
      have sameKey : stored.key = row.key := Table.key_of_lookup isStored
      exact ⟨stored, by simpa using inScope, (Prod.mk.inj sameKey).1,
        List.mem_singleton.mp member⟩

theorem mem_execInsertIdentifier {row : IdentifierRow} {reply : Unit}
    {writes : List Write}
    (answered : execInsertIdentifier row view = .ok (reply, writes))
    (member : write ∈ writes) : write = .identifier row := by
  rw [execInsertIdentifier] at answered
  split_ifs at answered
  cases answered
  exact List.mem_singleton.mp member

theorem mem_execUpsertFact {row : FactRow} {reply : Unit}
    {writes : List Write}
    (answered : execUpsertFact row view = .ok (reply, writes))
    (member : write ∈ writes) :
    ∃ stored : FactRow, stored.key = row.key ∧ write = .fact stored := by
  rw [execUpsertFact] at answered
  cases found : view.facts.lookup row.key with
  | none =>
      simp only [found] at answered
      split_ifs at answered
      cases answered
      exact ⟨row, rfl, List.mem_singleton.mp member⟩
  | some stored =>
      simp only [found] at answered
      cases answered
      have sameKey : stored.key = row.key := Table.key_of_lookup found
      exact ⟨setFact row stored, sameKey, List.mem_singleton.mp member⟩

theorem mem_execInsertLifecycleEvent {event : LifecycleEvent} {reply : Unit}
    {writes : List Write}
    (answered : execInsertLifecycleEvent event view = .ok (reply, writes))
    (member : write ∈ writes) : write = .lifecycleEvent event := by
  rw [execInsertLifecycleEvent] at answered
  split_ifs at answered
  cases answered
  exact List.mem_singleton.mp member

theorem mem_execInsertDevice {row : DeviceView} {reply : Unit}
    {writes : List Write}
    (answered : execInsertDevice row view = .ok (reply, writes))
    (member : write ∈ writes) :
    view.devices.lookup row.id = none ∧ write = .device row := by
  rw [execInsertDevice] at answered
  split_ifs at answered with present
  cases answered
  exact ⟨Option.not_isSome_iff_eq_none.mp present,
    List.mem_singleton.mp member⟩

theorem mem_updateDevice {matched : Option DeviceView}
    {change : DeviceView → DeviceView}
    (member : write ∈ (updateDevice matched change).2) :
    ∃ stored, matched = some stored ∧ write = .device (change stored) := by
  cases matched with
  | none => cases member
  | some stored => exact ⟨stored, rfl, List.mem_singleton.mp member⟩

end Statements

/-- What the parts that all operations share may write. -/
structure PermitsParts (allowed : List InventoryDb → Write → Prop)
    (scope : Scope) (deviceId : Uuid) (seen : List InventoryDb) : Prop where
  identifier : ∀ later row, seen <:+ later → row.scope = scope →
    row.deviceId = deviceId → allowed later (.identifier row)
  fact : ∀ later row, seen <:+ later → row.key.deviceId = deviceId →
    allowed later (.fact row)
  record : ∀ later write, seen <:+ later → write.IsRecord →
    allowed later write

section Parts

variable {allowed : List InventoryDb → Write → Prop} {scope : Scope}
  {deviceId : Uuid} {seen : List InventoryDb} {library : InventoryLibrary}
  {context : MutationContext} {generated : Generated}

private theorem PermitsParts.later {later : List InventoryDb}
    (permits : PermitsParts allowed scope deviceId seen)
    (extended : seen <:+ later) :
    PermitsParts allowed scope deviceId later where
  identifier latest row further :=
    permits.identifier latest row (extended.trans further)
  fact latest row further := permits.fact latest row (extended.trans further)
  record latest write further :=
    permits.record latest write (extended.trans further)

/-- A statement, with what is known of its writes and of its answer. -/
theorem permitted_query (statement : Statement)
    {returns : List InventoryDb → Reply statement → Prop}
    (mayWrite : ∀ view reply writes,
      inventorySql.exec statement view = .ok (reply, writes) →
      ∀ write ∈ writes, allowed (view :: seen) write)
    (ends : ∀ view reply writes,
      inventorySql.exec statement view = .ok (reply, writes) →
      returns (view :: seen) reply) :
    (query statement).Guarded allowed returns seen :=
  .of_statement (D := inventorySql) statement InventoryError.database mayWrite
    ends

/-- A statement whose answer does not matter. -/
theorem permitted_write (statement : Statement)
    (mayWrite : ∀ view reply writes,
      inventorySql.exec statement view = .ok (reply, writes) →
      ∀ write ∈ writes, allowed (view :: seen) write) :
    (query statement).Guarded allowed (fun _ _ => True) seen :=
  permitted_query statement mayWrite fun _ _ _ _ => trivial

/-- A device that is found was there, in the scope. -/
theorem permitted_selectDevice (forUpdate : Bool) :
    (query (.selectDevice scope deviceId forUpdate)).Guarded allowed
      (fun (later : List InventoryDb) found => ∃ view ∈ later,
        view.deviceIn scope deviceId = found) seen := by
  apply permitted_query (.selectDevice scope deviceId forUpdate)
  · intro view reply writes answered write member
    cases answered
    cases member
  · intro view reply writes answered
    cases answered
    exact ⟨view, List.mem_cons_self .., rfl⟩

private theorem permitted_loadDevice (forUpdate : Bool) :
    (loadDevice scope deviceId forUpdate).Guarded allowed
      (fun (later : List InventoryDb) device => ∃ view ∈ later,
        view.deviceIn scope deviceId = some device) seen := by
  apply (permitted_selectDevice forUpdate).bind
  rintro later found _ ⟨view, member, isFound⟩
  apply Program.Guarded.of_ofExcept
  intro device ended
  cases found with
  | none => cases ended
  | some given =>
      cases ended
      exact ⟨view, member, isFound⟩

private theorem permitted_upsertIdentifier (observedAt : Option Timestamp)
    (identifier : NewIdentifier)
    (permits : PermitsParts allowed scope deviceId seen) :
    (upsertIdentifier scope deviceId observedAt identifier).Guarded allowed
      (fun _ _ => True) seen := by
  apply Program.Guarded.ofExcept_bind
  intro _ _
  apply Program.Guarded.ofExcept_bind
  intro normalizedValue _
  apply Program.Guarded.ofExcept_bind
  intro identityNamespace _
  refine Program.Guarded.bind (permitted_write (.updateIdentifier _) ?_) ?_
  · intro view reply writes answered write member
    rw [← (Prod.mk.inj (Except.ok.inj answered)).2] at member
    obtain ⟨stored, inScope, ofDevice, rfl⟩ := mem_execUpdateIdentifier member
    exact permits.identifier _ _ (List.suffix_cons view seen) inScope ofDevice
  · intro later updated extended _
    by_cases wasUpdated : 0 < updated
    · rw [if_pos wasUpdated]
      exact .of_pure trivial
    · rw [if_neg wasUpdated]
      refine Program.Guarded.of_statement (D := inventorySql)
        (.insertIdentifier _) insertIdentifierFault ?_ fun _ _ _ _ => trivial
      intro view reply writes answered write member
      rw [mem_execInsertIdentifier answered member]
      exact permits.identifier _ _
        (extended.trans (List.suffix_cons view later)) rfl rfl

private theorem permitted_upsertIdentifiers (observedAt : Option Timestamp)
    (identifiers : List NewIdentifier)
    (permits : PermitsParts allowed scope deviceId seen) :
    (Program.forEach (upsertIdentifier scope deviceId observedAt)
      identifiers).Guarded allowed (fun _ _ => True) seen := by
  apply Program.Guarded.forEach
  intro identifier _ later extended
  exact permitted_upsertIdentifier observedAt identifier (permits.later extended)

private theorem permitted_writeFacts {facts : List FactRow}
    (factsOf : FactsOf scope deviceId facts)
    (permits : PermitsParts allowed scope deviceId seen) :
    (writeFacts facts).Guarded allowed (fun _ _ => True) seen := by
  apply Program.Guarded.forEach
  intro fact isFact later extended
  apply permitted_write (.upsertFact fact)
  intro view reply writes answered write member
  obtain ⟨stored, sameKey, rfl⟩ := mem_execUpsertFact answered member
  apply permits.fact _ _ (extended.trans (List.suffix_cons view later))
  rw [sameKey]
  exact (factsOf fact isFact).2

private theorem permitted_appendLifecycleEvent
    {fromState : Option DeviceLifecycle}
    {toState : DeviceLifecycle} {reason : Option String}
    (mayAppend : ∀ later, seen <:+ later → allowed later (.lifecycleEvent
      (appendedEvent context deviceId fromState toState reason))) :
    (appendLifecycleEvent context deviceId fromState toState reason).Guarded
      allowed (fun _ _ => True) seen := by
  apply permitted_write (.insertLifecycleEvent
    (appendedEvent context deviceId fromState toState reason))
  intro view reply writes answered write member
  rw [mem_execInsertLifecycleEvent answered member]
  exact mayAppend _ (List.suffix_cons view seen)

/-- The records are no writes about a device. -/
theorem permitted_writeMutationRecords {action eventType : String}
    {device : DeviceView} {before after : Option Value}
    (mayRecord : ∀ later write, seen <:+ later → write.IsRecord →
      allowed later write) :
    (writeMutationRecords library context generated action eventType device
      before after).Guarded allowed (fun _ _ => True) seen := by
  have appended : (auditEmbedding.lift InventoryError.audit
      (AuditStore.appendInTx library.audit generated.auditId
        (mutationDraft context generated action device before after))).Guarded
          allowed (fun _ _ => True) seen :=
    auditEmbedding.guarded_lift (Program.guarded_any _ _)
      (fun later _ extended _ => mayRecord later _ extended trivial)
      fun _ _ _ _ => trivial
  apply appended.bind
  intro later _ extended _
  exact outboxEmbedding.guarded_lift (Program.guarded_any _ _)
    (fun latest _ further _ =>
      mayRecord latest _ (extended.trans further) trivial)
    fun _ _ _ _ => trivial

/-- The device that a mutation returns was there, in the scope. -/
theorem permitted_finishMutation {action eventType : String}
    {before : Option DeviceView}
    (mayRecord : ∀ later write, seen <:+ later → write.IsRecord →
      allowed later write) :
    (finishMutation library context generated action eventType deviceId
      before).Guarded allowed
      (fun (later : List InventoryDb) device => ∃ view ∈ later,
        view.deviceIn context.scope deviceId = some device) seen := by
  apply (permitted_loadDevice false).bind
  intro later device extended loaded
  have recorded : (writeMutationRecords library context generated action
      eventType device (before.map (DeviceView.toValue library.formatTime))
      (some (device.toValue library.formatTime))).Guarded allowed
        (fun _ _ => True) later :=
    permitted_writeMutationRecords fun latest write further =>
      mayRecord latest write (extended.trans further)
  apply recorded.bind
  intro latest _ further _
  apply (Program.Guarded.of_commitNow _).bind
  intro last _ furthest _
  obtain ⟨view, member, found⟩ := loaded
  exact .of_pure ⟨view, (further.trans furthest).subset member, found⟩

/-- What both operations that add a device do before they end. -/
theorem permitted_storeNewDevice {row : DeviceView}
    {observedAt : Option Timestamp} {identifiers : List NewIdentifier}
    {facts : List FactRow} {reason : String}
    (mayInsert : ∀ view : InventoryDb, view.devices.lookup row.id = none →
      allowed (view :: seen) (.device row) ∧
        PermitsParts allowed context.scope row.id (view :: seen) ∧
        ∀ later, view :: seen <:+ later → allowed later (.lifecycleEvent
          (appendedEvent context row.id none row.lifecycle (some reason))))
    (factsOf : FactsOf context.scope row.id facts) :
    (storeNewDevice context row observedAt identifiers facts reason).Guarded
      allowed (fun _ _ => True) seen := by
  constructor
  · intro view reply writes answered write member
    obtain ⟨absent, rfl⟩ := mem_execInsertDevice answered member
    exact (mayInsert view absent).1
  · intro view reply writes answered
    have absent : view.devices.lookup row.id = none := by
      by_contra present
      have isSome := Option.isSome_iff_ne_none.mpr present
      have refused : execInsertDevice row view =
          .error (.uniqueViolation "devices_pkey") := if_pos isSome
      have isAnswer : execInsertDevice row view = .ok (reply, writes) :=
        answered
      rw [refused] at isAnswer
      cases isAnswer
    obtain ⟨_, permits, mayAppend⟩ := mayInsert view absent
    apply (permitted_upsertIdentifiers observedAt identifiers permits).bind
    intro later _ extended _
    apply (permitted_writeFacts factsOf (permits.later extended)).bind
    intro latest _ further _
    apply permitted_appendLifecycleEvent
    intro last furthest
    exact mayAppend last ((extended.trans further).trans furthest)

end Parts

/-! ## The operations of a caller -/

/-- In some state that has been seen there is no device with this id outside
the scope. -/
def InScope (seen : List InventoryDb) (scope : Scope) (deviceId : Uuid) :
    Prop :=
  ∃ view ∈ seen, ∀ device, view.devices.lookup deviceId = some device →
    device.scope = scope

/-- The write is about a device of the caller's scope, an event names the
caller, and only those who may approve make a device managed. -/
def Scoped (context : MutationContext) (mayApprove : Prop)
    (seen : List InventoryDb) : Write → Prop
  | .device row =>
      row.scope = context.scope ∧ InScope seen context.scope row.id
  | .identifier row => InScope seen context.scope row.deviceId
  | .fact row => InScope seen context.scope row.key.deviceId
  | .lifecycleEvent event =>
      event.scope = context.scope ∧ event.actorType = context.actorType ∧
        event.actorId = context.actorId ∧
        (event.toState = .managed → mayApprove) ∧
        InScope seen context.scope event.deviceId
  | .audit _ => True
  | .outbox _ => True

section Operations

variable {library : InventoryLibrary} {context : MutationContext}
  {generated : Generated} {mayApprove : Prop} {seen : List InventoryDb}

private theorem InScope.later {scope : Scope} {deviceId : Uuid}
    {later : List InventoryDb} (inScope : InScope seen scope deviceId)
    (extended : seen <:+ later) : InScope later scope deviceId := by
  obtain ⟨view, member, found⟩ := inScope
  exact ⟨view, extended.subset member, found⟩

private theorem inScope_of_deviceIn {scope : Scope} {deviceId : Uuid}
    {view : InventoryDb} {device : DeviceView} (member : view ∈ seen)
    (found : view.deviceIn scope deviceId = some device) :
    InScope seen scope deviceId := by
  obtain ⟨stored, inScope⟩ := deviceIn_eq_some_iff.mp found
  refine ⟨view, member, ?_⟩
  intro other otherFound
  rw [stored] at otherFound
  cases otherFound
  exact inScope

theorem Scoped.later {later : List InventoryDb} {write : Write}
    (kept : Scoped context mayApprove seen write)
    (extended : seen <:+ later) : Scoped context mayApprove later write := by
  cases write with
  | device row => exact ⟨kept.1, kept.2.later extended⟩
  | identifier row => exact InScope.later kept extended
  | fact row => exact InScope.later kept extended
  | lifecycleEvent event =>
      obtain ⟨sameScope, sameType, sameActor, approved, inScope⟩ := kept
      exact ⟨sameScope, sameType, sameActor, approved, inScope.later extended⟩
  | audit row => trivial
  | outbox given => trivial

private theorem scoped_record {write : Write} (isRecord : write.IsRecord) :
    Scoped context mayApprove seen write := by
  cases write with
  | audit row => trivial
  | outbox given => trivial
  | device row => exact isRecord.elim
  | identifier row => exact isRecord.elim
  | fact row => exact isRecord.elim
  | lifecycleEvent event => exact isRecord.elim

/-- The shared parts keep to a device of the scope. -/
theorem permitsParts_scoped {deviceId : Uuid}
    (inScope : InScope seen context.scope deviceId) :
    PermitsParts (Scoped context mayApprove) context.scope deviceId seen where
  identifier later row extended _ ofDevice := by
    rw [Scoped, ofDevice]
    exact inScope.later extended
  fact later row extended ofDevice := by
    rw [Scoped, ofDevice]
    exact inScope.later extended
  record _ _ _ isRecord := scoped_record isRecord

/-- An update of the device of a scope. -/
theorem permitted_update (statement : Statement)
    {scope : Scope} {deviceId : Uuid} (change : DeviceView → DeviceView)
    (sameId : ∀ device, (change device).id = device.id)
    (sameScope : ∀ device, (change device).scope = device.scope)
    (inContext : scope = context.scope)
    (updates : ∀ view reply writes,
      inventorySql.exec statement view = .ok (reply, writes) →
      writes = (updateDevice (view.deviceIn scope deviceId) change).2) :
    (query statement).Guarded (Scoped context mayApprove) (fun _ _ => True)
      seen := by
  apply permitted_write statement
  intro view reply writes answered write member
  rw [updates view reply writes answered] at member
  obtain ⟨stored, found, rfl⟩ := mem_updateDevice member
  rw [inContext] at found
  have inScope : InScope (view :: seen) context.scope deviceId :=
    inScope_of_deviceIn (List.mem_cons_self ..) found
  constructor
  · rw [sameScope]
    exact (deviceIn_eq_some_iff.mp found).2
  · rw [sameId, id_of_deviceIn found]
    exact inScope

/-- The device that an operation returns was there, in the scope. -/
def Returns (context : MutationContext) (seen : List InventoryDb)
    (device : DeviceView) : Prop :=
  ∃ view ∈ seen, view.deviceIn context.scope device.id = some device

private theorem permitted_finish {action eventType : String} {deviceId : Uuid}
    {before : Option DeviceView} :
    (finishMutation library context generated action eventType deviceId
      before).Guarded (Scoped context mayApprove) (Returns context) seen := by
  apply (permitted_finishMutation fun _ _ _ isRecord =>
    scoped_record isRecord).mono
  · exact fun _ _ _ allowed => allowed
  · rintro later device _ ⟨view, member, found⟩
    refine ⟨view, member, ?_⟩
    rw [id_of_deviceIn found]
    exact found

theorem permitted_createManual (input : NewDevice) (approvalRequired : Bool)
    (approved : approvalRequired = false → mayApprove) :
    (createManual library context generated input approvalRequired).Guarded
      (Scoped context mayApprove) (Returns context) seen := by
  rw [createManual_eq]
  apply Program.Guarded.ofExcept_bind
  intro _ _
  apply Program.Guarded.ofExcept_bind
  intro _ _
  refine Program.Guarded.bind (permitted_storeNewDevice ?_
    (factsOf_declaredFacts _ _ _)) fun _ _ _ _ => permitted_finish
  intro view absent
  have inScope : InScope (view :: seen) context.scope
      (manualRow context generated input approvalRequired).id := by
    refine ⟨view, List.mem_cons_self .., ?_⟩
    intro device found
    rw [absent] at found
    cases found
  refine ⟨⟨rfl, inScope⟩, permitsParts_scoped inScope, ?_⟩
  intro later extended
  refine ⟨rfl, rfl, rfl, ?_, inScope.later extended⟩
  intro isManaged
  apply approved
  cases approvalRequired with
  | false => rfl
  | true => cases isManaged

theorem permitted_updateMetadata (deviceId : Uuid) (expectedVersion : Int)
    (patch : MetadataPatch) :
    (updateMetadata library context generated deviceId expectedVersion
      patch).Guarded (Scoped context mayApprove) (Returns context) seen := by
  apply Program.Guarded.ofExcept_bind
  intro _ _
  apply Program.Guarded.ofExcept_bind
  intro _ _
  apply (permitted_loadDevice true).bind
  rintro later current _ ⟨view, member, found⟩
  apply Program.Guarded.check_bind
  intro _
  apply Program.Guarded.check_bind
  intro _
  refine Program.Guarded.bind (permitted_update (.updateMetadata ..)
    (setMetadata (patchedTexts patch current)
      (patch.deviceType.getD current.deviceType)
      (patch.capabilities.getD current.capabilities) generated.now)
    (fun _ => rfl) (fun _ => rfl) rfl fun _ _ _ answered =>
      (Prod.mk.inj (Except.ok.inj answered)).2.symm) ?_
  intro latest _ extended _
  rw [persistPatchFacts_eq]
  refine Program.Guarded.bind (permitted_writeFacts
    (factsOf_declaredFacts _ _ _) (permitsParts_scoped ?_))
      fun _ _ _ _ => permitted_finish
  exact (inScope_of_deviceIn member found).later extended

theorem permitted_transitionLifecycle (deviceId : Uuid)
    (expectedVersion : Int) (next : DeviceLifecycle) (reason : Option String)
    (approved : next = .managed → mayApprove) :
    (transitionLifecycle library context generated deviceId expectedVersion
      next reason).Guarded (Scoped context mayApprove) (Returns context)
        seen := by
  apply Program.Guarded.ofExcept_bind
  intro _ _
  apply (permitted_loadDevice true).bind
  rintro later current _ ⟨view, member, found⟩
  apply Program.Guarded.check_bind
  intro _
  by_cases already : current.lifecycle = next
  · rw [if_pos already]
    refine .of_pure ⟨view, member, ?_⟩
    rw [id_of_deviceIn found]
    exact found
  · rw [if_neg already]
    apply Program.Guarded.check_bind
    intro _
    apply Program.Guarded.check_bind
    intro _
    refine Program.Guarded.bind (permitted_update (.updateLifecycle ..)
      (setLifecycle next (cleanOptional reason) generated.now)
      (fun _ => rfl) (fun _ => rfl) rfl fun _ _ _ answered =>
        (Prod.mk.inj (Except.ok.inj answered)).2.symm) ?_
    intro latest _ extended _
    refine Program.Guarded.bind (permitted_appendLifecycleEvent ?_)
      fun _ _ _ _ => permitted_finish
    intro last further
    exact ⟨rfl, rfl, rfl, approved, (inScope_of_deviceIn member found).later
      (extended.trans further)⟩

end Operations

/-- The write adds no event that makes a device managed. -/
def ApprovesNothing : Write → Prop
  | .lifecycleEvent event => event.toState ≠ .managed
  | _ => True

section Observations

variable {library : InventoryLibrary} {context : MutationContext}
  {generated : Generated} {seen : List InventoryDb}

private theorem approvesNothing_of_isRecord {write : Write}
    (isRecord : write.IsRecord) : ApprovesNothing write := by
  cases write with
  | lifecycleEvent event => exact isRecord.elim
  | _ => trivial

private theorem permitsParts_approvesNothing (scope : Scope) (deviceId : Uuid) :
    PermitsParts (fun _ write => ApprovesNothing write) scope deviceId
      seen where
  identifier _ _ _ _ _ := trivial
  fact _ _ _ _ := trivial
  record _ _ _ isRecord := approvesNothing_of_isRecord isRecord

private theorem permitted_findMatches (scope : Scope)
    (identifiers : List NewIdentifier) (found : Finset Uuid) :
    (findMatches scope identifiers found).Guarded
      (fun _ write => ApprovesNothing write) (fun _ _ => True) seen := by
  induction identifiers generalizing found seen with
  | nil => exact .of_pure trivial
  | cons identifier rest inductionHypothesis =>
      apply Program.Guarded.ofExcept_bind
      intro normalizedValue _
      apply Program.Guarded.ofExcept_bind
      intro identityNamespace _
      refine Program.Guarded.bind
        (permitted_write (.selectStrongOwner ..) ?_)
          fun _ _ _ _ => inductionHypothesis _
      intro view reply writes answered write member
      rw [← (Prod.mk.inj (Except.ok.inj answered)).2] at member
      cases member

private theorem observed_finishMutation
    {action eventType : String} {deviceId : Uuid}
    {before : Option DeviceView} :
    (finishMutation library context generated action eventType deviceId
      before).Guarded (fun _ write => ApprovesNothing write)
        (fun _ _ => True) seen :=
  (permitted_finishMutation fun _ _ _ isRecord =>
    approvesNothing_of_isRecord isRecord).mono (fun _ _ _ allowed => allowed)
      fun _ _ _ _ => trivial

private theorem permitted_updateObservedDevice (observation : DeviceObservation)
    (observedAt : Timestamp) (deviceId : Uuid) :
    (updateObservedDevice library context generated observation observedAt
      deviceId).Guarded (fun _ write => ApprovesNothing write)
        (fun _ _ => True) seen := by
  apply (permitted_loadDevice true).bind
  intro first current _ _
  apply Program.Guarded.check_bind
  intro _
  apply (permitted_upsertIdentifiers _ _
    (permitsParts_approvesNothing _ _)).bind
  intro second _ _ _
  rw [persistObservedFacts_eq]
  apply (permitted_writeFacts (factsOf_observedFacts _ _ _ _)
    (permitsParts_approvesNothing _ _)).bind
  intro third _ _ _
  refine Program.Guarded.bind (permitted_write (.updateObserved ..) ?_)
    fun _ _ _ _ => observed_finishMutation
  intro view reply writes answered write member
  rw [← (Prod.mk.inj (Except.ok.inj answered)).2] at member
  obtain ⟨stored, _, rfl⟩ := mem_updateDevice member
  trivial

private theorem permitted_createObservedDevice
    (observation : DeviceObservation) :
    (createObservedDevice library context generated observation
      (observationTime generated observation)).Guarded
        (fun _ write => ApprovesNothing write) (fun _ _ => True) seen := by
  rw [createObservedDevice_eq]
  refine Program.Guarded.bind (permitted_storeNewDevice ?_
    (factsOf_observedFacts _ _ _ _)) fun _ _ _ _ => observed_finishMutation
  intro view _
  refine ⟨trivial, permitsParts_approvesNothing _ _, ?_⟩
  intro later _ isManaged
  cases isManaged

theorem permitted_reconcileObservation (observation : DeviceObservation) :
    (reconcileObservation library context generated observation).Guarded
      (fun _ write => ApprovesNothing write) (fun _ _ => True) seen := by
  apply Program.Guarded.ofExcept_bind
  intro _ _
  apply Program.Guarded.ofExcept_bind
  intro _ _
  apply (permitted_findMatches _ _ _).bind
  intro later found _ _
  apply Program.Guarded.check_bind
  intro _
  cases (found.sort (· ≤ ·)).head? with
  | some deviceId =>
      exact (permitted_updateObservedDevice _ _ _).bind
        fun _ _ _ _ => .of_pure trivial
  | none =>
      exact (permitted_createObservedDevice _).bind
        fun _ _ _ _ => .of_pure trivial

end Observations

end NetworkManager.InventoryStore
