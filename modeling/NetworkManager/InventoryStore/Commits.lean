import NetworkManager.InventoryStore.DeviceRecords

/-!
# What a call commits

Under the row locks a call that commits writes the row of one device, may
append one event to its life cycle, and may add to its identifiers and facts.
It finds the row in a state that it accepts, and leaves every other device
alone, whatever other calls do in between.
-/

namespace NetworkManager.InventoryStore

open NetworkManager.Foundation
open NetworkManager.Domain.Inventory
open NetworkManager.Transaction

/-- The row and the events that the calls write, from the row that they find
and accept. -/
inductive Revises (db : InventoryDb) :
    InventoryCall → DeviceView → List LifecycleEvent → Prop
  | manual {context : MutationContext} {generated : Generated}
      {input : NewDevice} {approvalRequired : Bool} :
      db.devices.lookup generated.deviceId = none →
      Revises db (.createManual context generated input approvalRequired)
        (manualRow context generated input approvalRequired)
        (manualChange context generated input approvalRequired).events
  | metadata {context : MutationContext} {generated : Generated}
      {patch : MetadataPatch} {current : DeviceView} :
      db.devices.lookup current.id = some current →
      current.lifecycle.allowsNormalMutation = true →
      Revises db (.updateMetadata context generated current.id
        current.version patch) (metadataChange context generated patch
          current).device []
  | lifecycle {context : MutationContext} {generated : Generated}
      {next : DeviceLifecycle} {reason : Option String}
      {current : DeviceView} :
      db.devices.lookup current.id = some current →
      current.lifecycle ≠ next →
      current.lifecycle.canTransitionTo next = true →
      reasonGiven next (cleanOptional reason) = true →
      Revises db (.transitionLifecycle context generated current.id
        current.version next reason) (lifecycleChange context generated next
          reason current).device
        (lifecycleChange context generated next reason current).events
  | observed {context : MutationContext} {generated : Generated}
      {observation : DeviceObservation} {current : DeviceView}
      (declared : Field → Bool) :
      db.devices.lookup current.id = some current →
      outOfService current = false →
      Revises db (.reconcileObservation context generated observation)
        (observedChange context generated observation declared current).device
        []
  | discovered {context : MutationContext} {generated : Generated}
      {observation : DeviceObservation} :
      db.devices.lookup generated.deviceId = none →
      Revises db (.reconcileObservation context generated observation)
        (discoveredChange context generated observation).device
        (discoveredChange context generated observation).events

/-- The state with one more event. -/
def InventoryDb.withEvent (db : InventoryDb) (event : LifecycleEvent) :
    InventoryDb :=
  { db with lifecycleEvents := db.lifecycleEvents ++ [event] }

/-- A row is written and events are appended, with some of the identifiers and
facts of the device. -/
structure Recorded (row : DeviceView) (events : List LifecycleEvent)
    (before after : InventoryDb) : Prop where
  devices : after.devices = before.devices.put row
  lifecycleEvents : after.lifecycleEvents = before.lifecycleEvents ++ events
  others : ∀ deviceId, deviceId ≠ row.id →
    after.record deviceId = before.record deviceId

namespace Recorded

variable {row : DeviceView} {events : List LifecycleEvent}
  {before middle after : InventoryDb}

private theorem of_withDevice (db : InventoryDb) (row : DeviceView) :
    Recorded row [] db (db.withDevice row) where
  devices := rfl
  lifecycleEvents := (List.append_nil _).symm
  others deviceId isOther := by
    have different : (Write.device row).subject ≠ some deviceId :=
      fun same => isOther (Option.some.inj same).symm
    exact record_applyWrite_of_ne different db

private theorem supplemented (recorded : Recorded row events before middle)
    (later : Supplemented {row.id} middle after) :
    Recorded row events before after where
  devices := later.devices.trans recorded.devices
  lifecycleEvents := later.lifecycleEvents.trans recorded.lifecycleEvents
  others deviceId isOther :=
    (later.others deviceId isOther).trans (recorded.others deviceId isOther)

private theorem of_supplemented (earlier : Supplemented {row.id} before middle)
    (recorded : Recorded row events middle after) :
    Recorded row events before after where
  devices := recorded.devices.trans (congrArg (Table.put row) earlier.devices)
  lifecycleEvents := recorded.lifecycleEvents.trans
    (congrArg (· ++ events) earlier.lifecycleEvents)
  others deviceId isOther :=
    (recorded.others deviceId isOther).trans (earlier.others deviceId isOther)

private theorem withEvent (recorded : Recorded row events before middle)
    {event : LifecycleEvent} (isSubject : event.deviceId = row.id) :
    Recorded row (events ++ [event]) before (middle.withEvent event) where
  devices := recorded.devices
  lifecycleEvents := by
    rw [InventoryDb.withEvent, recorded.lifecycleEvents, List.append_assoc]
  others deviceId isOther := by
    have different : (Write.lifecycleEvent event).subject ≠ some deviceId := by
      intro same
      exact isOther ((Option.some.inj same).symm.trans isSubject)
    exact (record_applyWrite_of_ne different middle).trans
      (recorded.others deviceId isOther)

end Recorded

/-- A call revises the record of one device. -/
def Revised (call : InventoryCall) (before after : InventoryDb) : Prop :=
  ∃ row events, Revises before call row events ∧
    Recorded row events before after

/-- A program that runs under the locks it takes, and commits states like
these. -/
abbrev Guarded {α : Type} (program : Store α) (holds : InventoryDb → Prop)
    (held : List Uuid) (working : InventoryDb) : Prop :=
  program.Locked recordLocking (fun _ _ _ => True) (fun _ => holds) held
    working

section Locked

variable {α β : Type} {holds : InventoryDb → Prop} {held : List Uuid}
  {working : InventoryDb} {scope : Scope} {deviceId : Uuid}
  {about : Set Uuid}

/-- A part that only supplements locked devices, and then the rest. -/
theorem guarded_supplements_bind {program : Store β} {next : β → Store α}
    (uses : program.Uses (Statement.Supplements about))
    (isHeld : ∀ deviceId ∈ about, deviceId ∈ held)
    (rest : ∀ value reachedHeld reached, held ⊆ reachedHeld →
      Supplemented about working reached →
      Guarded (next value) holds reachedHeld reached) :
    Guarded (program >>= next) holds held working := by
  have locked : program.Locked recordLocking
      (fun _ reachedHeld reached =>
        held ⊆ reachedHeld ∧ Supplemented about working reached)
      (fun _ _ => False) held working := by
    apply uses.locked (fun statement view reply writes supplements answered =>
      ?_) (Supplemented.refl about working)
    have supplement := supplements.writes answered
    refine ⟨covers_supplements supplement isHeld, ?_⟩
    intro state earlier
    exact earlier.trans (supplemented_applyAll supplement state)
  apply locked.bind (fun _ _ _ _ => trivial)
  rintro value reachedHeld reached ⟨subset, supplemented⟩
  exact rest value reachedHeld reached subset supplemented

/-- A device that is read for an update is locked. -/
theorem guarded_loadDevice_bind {next : DeviceView → Store α}
    (rest : ∀ current held, deviceId ∈ held →
      working.devices.lookup deviceId = some current →
      current.scope = scope → Guarded (next current) holds held working) :
    Guarded (loadDevice scope deviceId true >>= next) holds held working := by
  apply Program.Locked.statement_bind
  · intro view reply writes _ answered
    have isAnswer : (view.deviceIn scope deviceId, ([] : List Write)) =
        (reply, writes) := Except.ok.inj answered
    rw [← (Prod.mk.inj isAnswer).2]
    exact Locking.covers_nil _
  · intro view reply writes agree answered
    have isAnswer : (view.deviceIn scope deviceId, ([] : List Write)) =
        (reply, writes) := Except.ok.inj answered
    rcases Prod.mk.inj isAnswer with ⟨isReply, noWrites⟩
    rw [← noWrites]
    cases reply with
    | none => exact .done trivial
    | some current =>
        have isLocked : deviceId ∈
            held ++ rowLock (view.deviceIn scope deviceId) deviceId := by
          rw [isReply]
          exact List.mem_append_right _ (List.mem_singleton_self deviceId)
        rcases deviceIn_eq_some_iff.mp isReply with ⟨seen, inScope⟩
        have sameRow := congrArg DeviceRecord.row (agree deviceId isLocked)
        exact rest current _ isLocked (sameRow.symm.trans seen) inScope

/-- An update of a locked device writes its row. -/
theorem guarded_update_bind {statement : Statement}
    {next : Reply statement → Store α} {current : DeviceView}
    {written : DeviceView → Prop} (isHeld : deviceId ∈ held)
    (found : working.devices.lookup deviceId = some current)
    (updates : ∀ view reply writes,
      view.devices.lookup deviceId = some current →
      inventorySql.exec statement view = .ok (reply, writes) →
      ∃ row, row.id = deviceId ∧ written row ∧ writes = [.device row])
    (rest : ∀ reply reachedHeld row, held ⊆ reachedHeld → written row →
      Guarded (next reply) holds reachedHeld (working.withDevice row)) :
    Guarded (query statement >>= next) holds held working := by
  have sees : ∀ view : InventoryDb, recordLocking.Agree
      (held ++ lockedRows statement view) view working →
      view.devices.lookup deviceId = some current := by
    intro view agree
    have isLocked := List.mem_append_left (lockedRows statement view) isHeld
    exact (congrArg DeviceRecord.row (agree deviceId isLocked)).trans found
  apply Program.Locked.statement_bind
  · intro view reply writes agree answered
    rcases updates view reply writes (sees view agree) answered with
      ⟨row, isRow, _, rfl⟩
    intro write member deviceId touched
    rw [List.mem_singleton.mp member] at touched
    have isDevice : row.id = deviceId := Option.some.inj touched
    rw [← isDevice, isRow]
    exact List.mem_append_left _ isHeld
  · intro view reply writes agree answered
    rcases updates view reply writes (sees view agree) answered with
      ⟨row, _, isWritten, rfl⟩
    exact rest reply _ row (List.subset_append_left _ _) isWritten

/-- The id of an inserted device is locked, and was free. -/
theorem guarded_insertDevice_bind {row : DeviceView} {next : Unit → Store α}
    (rest : ∀ held, row.id ∈ held → working.devices.lookup row.id = none →
      Guarded (next ()) holds held (working.withDevice row)) :
    Guarded (query (.insertDevice row) >>= next) holds held working := by
  have inserts : ∀ view reply writes,
      inventorySql.exec (.insertDevice row) view = .ok (reply, writes) →
      view.devices.lookup row.id = none ∧ writes = [.device row] := by
    intro view reply writes answered
    have isAnswer : execInsertDevice row view = .ok (reply, writes) := answered
    unfold execInsertDevice at isAnswer
    split_ifs at isAnswer with present
    have same := Prod.mk.inj (Except.ok.inj isAnswer)
    exact ⟨Option.not_isSome_iff_eq_none.mp present, same.2.symm⟩
  have isLocked : row.id ∈ held ++ [row.id] :=
    List.mem_append_right _ (List.mem_singleton_self row.id)
  apply Program.Locked.statement_bind
  · intro view reply writes _ answered
    rw [(inserts view reply writes answered).2]
    intro write member deviceId touched
    rw [List.mem_singleton.mp member] at touched
    have isDevice : row.id = deviceId := Option.some.inj touched
    rw [← isDevice]
    exact isLocked
  · intro view reply writes agree answered
    rcases inserts view reply writes answered with ⟨absent, rfl⟩
    have sameRow := congrArg DeviceRecord.row (agree row.id isLocked)
    exact rest _ isLocked (sameRow.symm.trans absent)

/-- An event of a locked device is appended. -/
theorem guarded_insertLifecycleEvent_bind {event : LifecycleEvent}
    {next : Unit → Store α} (isHeld : event.deviceId ∈ held)
    (rest : ∀ reachedHeld, held ⊆ reachedHeld →
      Guarded (next ()) holds reachedHeld (working.withEvent event)) :
    Guarded (query (.insertLifecycleEvent event) >>= next) holds held
      working := by
  have inserts : ∀ view reply writes,
      inventorySql.exec (.insertLifecycleEvent event) view =
        .ok (reply, writes) → writes = [.lifecycleEvent event] := by
    intro view reply writes answered
    have isAnswer : execInsertLifecycleEvent event view = .ok (reply, writes) :=
      answered
    unfold execInsertLifecycleEvent at isAnswer
    split_ifs at isAnswer
    exact (Prod.mk.inj (Except.ok.inj isAnswer)).2.symm
  apply Program.Locked.statement_bind
  · intro view reply writes _ answered
    rw [inserts view reply writes answered]
    intro write member deviceId touched
    rw [List.mem_singleton.mp member] at touched
    have isDevice : event.deviceId = deviceId := Option.some.inj touched
    rw [← isDevice]
    exact List.mem_append_left _ isHeld
  · intro view reply writes _ answered
    rw [inserts view reply writes answered]
    exact rest _ (List.subset_append_left _ _)

variable {library : InventoryLibrary} {context : MutationContext}
  {generated : Generated}

private theorem guarded_finishMutation_bind {action eventType : String}
    {before : Option DeviceView} (result : DeviceView → α)
    (isHeld : ∀ reached, Supplemented ∅ working reached → holds reached) :
    Guarded (finishMutation library context generated action eventType deviceId
      before >>= fun device => pure (result device)) holds held working := by
  have noDevice : ∀ {held : List Uuid}, ∀ deviceId ∈ (∅ : Set Uuid),
      deviceId ∈ held :=
    fun deviceId never => absurd never (Set.notMem_empty deviceId)
  simp only [finishMutation, bind_assoc]
  apply guarded_supplements_bind uses_loadDevice noDevice
  intro device loadedHeld loaded _ afterLoad
  apply guarded_supplements_bind (uses_writeMutationRecords ..) noDevice
  intro _ recordedHeld recorded _ afterRecords
  exact .commit (.done _) (isHeld recorded (afterLoad.trans afterRecords))

private theorem guarded_finishMutation {action eventType : String}
    {before : Option DeviceView}
    (isHeld : ∀ reached, Supplemented ∅ working reached → holds reached) :
    Guarded (finishMutation library context generated action eventType deviceId
      before) holds held working := by
  rw [← bind_pure (finishMutation library context generated action eventType
    deviceId before)]
  exact guarded_finishMutation_bind id isHeld

/-- A device is added, with all that belongs to it. -/
theorem guarded_storeNewDevice_bind {row : DeviceView}
    {observedAt : Option Timestamp} {identifiers : List NewIdentifier}
    {facts : List FactRow} {reason : String} {next : Unit → Store α}
    (factsOf : FactsOf context.scope row.id facts)
    (rest : ∀ held reached, working.devices.lookup row.id = none →
      Recorded row [appendedEvent context row.id none row.lifecycle
        (some reason)] working reached →
      Guarded (next ()) holds held reached) :
    Guarded (storeNewDevice context row observedAt identifiers facts
      reason >>= next) holds held working := by
  have isAbout : row.id ∈ ({row.id} : Set Uuid) := rfl
  simp only [storeNewDevice, bind_assoc]
  apply guarded_insertDevice_bind
  intro insertedHeld isHeld absent
  have recorded := Recorded.of_withDevice working row
  apply guarded_supplements_bind (Program.Uses.forEach
    (uses_upsertIdentifier isAbout observedAt) identifiers)
  · rintro _ rfl
    exact isHeld
  intro _ identifiedHeld identified heldThen afterIdentifiers
  apply guarded_supplements_bind (uses_writeFacts factsOf)
  · rintro _ rfl
    exact heldThen isHeld
  intro _ factsHeld withFacts heldLater afterFacts
  apply guarded_insertLifecycleEvent_bind (heldLater (heldThen isHeld))
  intro eventHeld _
  exact rest eventHeld _ absent
    (((recorded.supplemented afterIdentifiers).supplemented
      afterFacts).withEvent rfl)

end Locked

section Calls

variable {library : InventoryLibrary} {context : MutationContext}
  {generated : Generated} {db : InventoryDb}

private theorem guarded_createManual
    (input : NewDevice) (approvalRequired : Bool) :
    Guarded (createManual library context generated input approvalRequired)
      (Revised (.createManual context generated input approvalRequired) db)
      [] db := by
  rw [createManual_eq]
  apply Program.Locked.ofExcept_bind (fun _ _ => trivial)
  intro _ _
  apply Program.Locked.ofExcept_bind (fun _ _ => trivial)
  intro _ _
  apply guarded_storeNewDevice_bind (factsOf_declaredFacts _ _ _)
  intro held reached absent recorded
  apply guarded_finishMutation
  intro ended finished
  exact ⟨_, _, .manual absent,
    recorded.supplemented (finished.mono (Set.empty_subset _))⟩

private theorem guarded_updateMetadata (deviceId : Uuid) (expectedVersion : Int)
    (patch : MetadataPatch) :
    Guarded (updateMetadata library context generated deviceId expectedVersion
        patch)
      (Revised (.updateMetadata context generated deviceId expectedVersion
        patch) db) [] db := by
  rw [updateMetadata]
  apply Program.Locked.ofExcept_bind (fun _ _ => trivial)
  intro _ _
  apply Program.Locked.ofExcept_bind (fun _ _ => trivial)
  intro _ _
  apply guarded_loadDevice_bind
  intro current held isHeld found inScope
  apply Program.Locked.check_bind (fun _ => trivial)
  intro isVersion
  apply Program.Locked.check_bind (fun _ => trivial)
  intro allowed
  have sameId := Table.key_of_lookup found
  have sameVersion : current.version = expectedVersion := by
    simpa using isVersion
  subst sameId sameVersion
  apply guarded_update_bind isHeld found ?_
    (fun reply heldAfter row stillHeld written => ?_)
  · exact fun row => row = (metadataChange context generated patch
      current).device
  · intro view reply writes seen answered
    have matched := deviceIn_eq_some_iff.mpr ⟨seen, inScope⟩
    have isAnswer : updateDevice (view.deviceIn context.scope current.id)
        (setMetadata (patchedTexts patch current)
          (patch.deviceType.getD current.deviceType)
          (patch.capabilities.getD current.capabilities) generated.now) =
        (reply, writes) := Except.ok.inj answered
    rw [matched] at isAnswer
    exact ⟨(metadataChange context generated patch current).device, rfl, rfl,
      (Prod.mk.inj isAnswer).2.symm⟩
  · subst written
    have recorded := Recorded.of_withDevice db
      (metadataChange context generated patch current).device
    rw [persistPatchFacts_eq]
    apply guarded_supplements_bind
      (uses_writeFacts (factsOf_declaredFacts _ _ _))
    · rintro _ rfl
      exact stillHeld isHeld
    intro _ factsHeld withFacts _ afterFacts
    apply guarded_finishMutation
    intro ended finished
    exact ⟨_, _, .metadata found allowed, (recorded.supplemented
      afterFacts).supplemented (finished.mono (Set.empty_subset _))⟩

private theorem guarded_transitionLifecycle
    (deviceId : Uuid) (expectedVersion : Int)
    (next : DeviceLifecycle) (reason : Option String) :
    Guarded (transitionLifecycle library context generated deviceId
        expectedVersion next reason)
      (Revised (.transitionLifecycle context generated deviceId
        expectedVersion next reason) db) [] db := by
  rw [transitionLifecycle]
  apply Program.Locked.ofExcept_bind (fun _ _ => trivial)
  intro _ _
  apply guarded_loadDevice_bind
  intro current held isHeld found inScope
  apply Program.Locked.check_bind (fun _ => trivial)
  intro isVersion
  have sameId := Table.key_of_lookup found
  have sameVersion : current.version = expectedVersion := by
    simpa using isVersion
  subst sameId sameVersion
  by_cases already : current.lifecycle = next
  · rw [if_pos already]
    exact .done trivial
  · rw [if_neg already]
    apply Program.Locked.check_bind (fun _ => trivial)
    intro allowed
    apply Program.Locked.check_bind (fun _ => trivial)
    intro given
    apply guarded_update_bind isHeld found ?_
      (fun reply heldAfter row stillHeld written => ?_)
    · exact fun row => row = (lifecycleChange context generated next reason
        current).device
    · intro view reply writes seen answered
      have matched := deviceIn_eq_some_iff.mpr ⟨seen, inScope⟩
      have isAnswer : updateDevice (view.deviceIn context.scope current.id)
          (setLifecycle next (cleanOptional reason) generated.now) =
          (reply, writes) := Except.ok.inj answered
      rw [matched] at isAnswer
      exact ⟨(lifecycleChange context generated next reason current).device,
        rfl, rfl, (Prod.mk.inj isAnswer).2.symm⟩
    · subst written
      have recorded := Recorded.of_withDevice db
        (lifecycleChange context generated next reason current).device
      apply guarded_insertLifecycleEvent_bind (stillHeld isHeld)
      intro eventHeld _
      apply guarded_finishMutation
      intro ended finished
      exact ⟨_, _, .lifecycle found already allowed given,
        (recorded.withEvent rfl).supplemented
          (finished.mono (Set.empty_subset _))⟩

private theorem guarded_updateObservedDevice {held : List Uuid}
    {working : InventoryDb} (searched : Supplemented ∅ db working)
    (observation : DeviceObservation) (deviceId : Uuid) :
    Guarded (do
        let device ← updateObservedDevice library context generated
          observation (observationTime generated observation) deviceId
        return ReconciliationResult.updated device)
      (Revised (.reconcileObservation context generated observation) db)
      held working := by
  rw [updateObservedDevice, bind_assoc]
  apply guarded_loadDevice_bind
  intro current held isHeld found inScope
  have sameId := Table.key_of_lookup found
  subst sameId
  have isAbout : current.id ∈ ({current.id} : Set Uuid) := rfl
  rw [bind_assoc]
  apply Program.Locked.check_bind (fun _ => trivial)
  intro inService
  rw [bind_assoc]
  apply guarded_supplements_bind
    (Program.Uses.forEach (uses_upsertIdentifier isAbout _) _)
  · rintro _ rfl
    exact isHeld
  intro _ identifiedHeld identified heldThen afterIdentifiers
  rw [bind_assoc, persistObservedFacts_eq]
  apply guarded_supplements_bind
    (uses_writeFacts (factsOf_observedFacts _ _ _ _))
  · rintro _ rfl
    exact heldThen isHeld
  intro _ factsHeld withFacts heldLater afterFacts
  have searchedHere := searched.mono (Set.empty_subset {current.id})
  have earlier := (searchedHere.trans afterIdentifiers).trans afterFacts
  have foundBefore : db.devices.lookup current.id = some current :=
    searched.devices ▸ found
  have foundNow : withFacts.devices.lookup current.id = some current :=
    earlier.devices ▸ foundBefore
  rw [bind_assoc, applyObservedCanonicalFields]
  apply guarded_update_bind (heldLater (heldThen isHeld)) foundNow ?_
    (fun reply heldLast row _ written => ?_)
  · exact fun row => ∃ declared, row = (observedChange context generated
      observation declared current).device
  · intro view reply writes seen answered
    have isAnswer : updateDevice (view.devices.lookup current.id)
        (setObserved (view.hasDeclaredFact current.id)
          (fun field => cleanOptional (observation.text field))
          observation.deviceType observation.capabilities
          (observationTime generated observation) generated.now) =
        (reply, writes) := Except.ok.inj answered
    rw [seen] at isAnswer
    exact ⟨(observedChange context generated observation
      (view.hasDeclaredFact current.id) current).device, rfl, ⟨_, rfl⟩,
      (Prod.mk.inj isAnswer).2.symm⟩
  · rcases written with ⟨declared, rfl⟩
    have written := Recorded.of_withDevice withFacts
      (observedChange context generated observation declared current).device
    have recorded : Recorded (observedChange context generated observation
        declared current).device [] db (withFacts.withDevice (observedChange
          context generated observation declared current).device) :=
      .of_supplemented earlier written
    apply guarded_finishMutation_bind
    intro ended finished
    have notOut : outOfService current = false := by
      simpa [outOfService] using inService
    exact ⟨_, _, .observed declared foundBefore notOut,
      recorded.supplemented (finished.mono (Set.empty_subset _))⟩

private theorem guarded_createObservedDevice {held : List Uuid}
    {working : InventoryDb} (searched : Supplemented ∅ db working)
    (observation : DeviceObservation) :
    Guarded (do
        let device ← createObservedDevice library context generated
          observation (observationTime generated observation)
        return ReconciliationResult.created device)
      (Revised (.reconcileObservation context generated observation) db)
      held working := by
  rw [createObservedDevice_eq, bind_assoc]
  apply guarded_storeNewDevice_bind (factsOf_observedFacts _ _ _ _)
  intro heldAfter reached absent recorded
  apply guarded_finishMutation_bind
  intro ended finished
  have absentBefore : db.devices.lookup generated.deviceId = none :=
    searched.devices ▸ absent
  exact ⟨_, _, .discovered absentBefore,
    (Recorded.of_supplemented (searched.mono (Set.empty_subset _))
      recorded).supplemented (finished.mono (Set.empty_subset _))⟩

private theorem guarded_reconcileObservation (observation : DeviceObservation) :
    Guarded (reconcileObservation library context generated observation)
      (Revised (.reconcileObservation context generated observation) db)
      [] db := by
  rw [reconcileObservation]
  apply Program.Locked.ofExcept_bind (fun _ _ => trivial)
  intro _ _
  apply Program.Locked.ofExcept_bind (fun _ _ => trivial)
  intro _ _
  have noDevice : ∀ deviceId ∈ (∅ : Set Uuid), deviceId ∈ ([] : List Uuid) :=
    fun deviceId never => absurd never (Set.notMem_empty deviceId)
  apply guarded_supplements_bind (uses_findMatches _ _) noDevice
  intro found heldAfter reached _ searched
  apply Program.Locked.check_bind (fun _ => trivial)
  intro _
  cases (found.sort (· ≤ ·)).head? with
  | none => exact guarded_createObservedDevice searched observation
  | some deviceId =>
      exact guarded_updateObservedDevice searched observation deviceId

/-- Every call revises one record, whatever other calls do in between. -/
theorem keeps_revised :
    System.Keeps (inventoryClient library) recordLocking (fun _ => True)
      (fun commit => Revised commit.call commit.before commit.after) := by
  intro call db _
  have guarded : Guarded ((inventoryClient library).program call)
      (Revised call db) [] db := by
    cases call with
    | createManual context generated input approvalRequired =>
        exact guarded_createManual input approvalRequired
    | updateMetadata context generated deviceId expectedVersion patch =>
        exact guarded_updateMetadata deviceId expectedVersion patch
    | transitionLifecycle context generated deviceId expectedVersion next
        reason =>
        exact guarded_transitionLifecycle deviceId expectedVersion next reason
    | reconcileObservation context generated observation =>
        exact guarded_reconcileObservation observation
  exact guarded.weaken_holds fun _ _ revised => ⟨trivial, revised⟩

end Calls

/-- A history in which each commit revises one record. -/
abbrev RecordHistory {library : InventoryLibrary} (first : InventoryDb)
    (commits : List (Commit (inventoryClient library)))
    (last : InventoryDb) : Prop :=
  History (fun commit => Revised commit.call commit.before commit.after) first
    commits last

/-- Any interleaving of calls under the row locks is such a history. -/
theorem recordHistory_of_reachable {library : InventoryLibrary}
    {initial : InventoryDb → Prop}
    {system : System (inventoryClient library) deviceLocking}
    (reachable : System.Reachable initial system) :
    ∃ first, initial first ∧
      RecordHistory first system.commits system.committed := by
  have acquired : ∀ (query : Statement) (state : InventoryDb),
      recordLocking.acquires query state =
        (deviceLocking.acquires query state).map id :=
    fun _ _ => (List.map_id _).symm
  have relocked : System.Reachable initial (system.relock recordLocking id) :=
    reachable.relock Function.injective_id acquired
  exact (relocked.history (fun _ _ => trivial) keeps_revised).2

end NetworkManager.InventoryStore
