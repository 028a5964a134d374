import NetworkManager.InventoryStore.Effects

/-!
# Mutations

What each operation changes when it succeeds, as a function of its arguments
and of the device it found.  A call that returns a result has made one such
change and recorded it, or has found the device in the state it asks for.
-/

namespace NetworkManager.InventoryStore

open NetworkManager.Foundation
open NetworkManager.Domain.Inventory
open NetworkManager.Security
open NetworkManager.Transaction

/-- What an operation writes besides its records. -/
structure Change where
  device : DeviceView
  identifiers : List IdentifierRow
  facts : List FactRow
  events : List LifecycleEvent

def Change.apply (change : Change) (db : InventoryDb) : InventoryDb :=
  { db with
    devices := db.devices.put change.device
    identifiers := db.identifiers.upsertAll setIdentifier change.identifiers
    facts := db.facts.upsertAll setFact change.facts
    lifecycleEvents := db.lifecycleEvents ++ change.events }

/-- The event that `append_lifecycle_event` inserts. -/
def appendedEvent (context : MutationContext) (deviceId : Uuid)
    (fromState : Option DeviceLifecycle) (toState : DeviceLifecycle)
    (reason : Option String) : LifecycleEvent where
  scope := context.scope
  deviceId
  fromState
  toState
  actorType := context.actorType
  actorId := context.actorId
  reason
  correlationId := context.correlationId

section Changes

variable (context : MutationContext) (generated : Generated)

/-- The change of an operation that adds a device. -/
def newDeviceChange (row : DeviceView) (observedAt : Option Timestamp)
    (identifiers : List NewIdentifier) (facts : List FactRow)
    (reason : String) : Change where
  device := row
  identifiers := identifierRows context.scope row.id observedAt identifiers
  facts := facts
  events := [appendedEvent context row.id none row.lifecycle (some reason)]

def manualChange (input : NewDevice) (approvalRequired : Bool) : Change :=
  newDeviceChange context
    (manualRow context generated input approvalRequired) none
    input.identifiers
    (declaredFacts context.scope generated.deviceId (declaredValues input))
    "manual_create"

def metadataChange (patch : MetadataPatch) (current : DeviceView) : Change where
  device := setMetadata (patchedTexts patch current)
    (patch.deviceType.getD current.deviceType)
    (patch.capabilities.getD current.capabilities) generated.now current
  identifiers := []
  facts := declaredFacts context.scope current.id (patchedValues patch)
  events := []

def lifecycleChange (next : DeviceLifecycle) (reason : Option String)
    (current : DeviceView) : Change where
  device := setLifecycle next (cleanOptional reason) generated.now current
  identifiers := []
  facts := []
  events := [appendedEvent context current.id (some current.lifecycle) next
    (cleanOptional reason)]

/-- The time of an observation. -/
def observationTime (observation : DeviceObservation) : Timestamp :=
  observation.observedAt.getD generated.utcNow

/-- `declared` says which fields of the device have a declared fact. -/
def observedChange (observation : DeviceObservation)
    (declared : Field → Bool) (current : DeviceView) : Change :=
  let observedAt := observationTime generated observation
  { device := setObserved declared
      (fun field => cleanOptional (observation.text field))
      observation.deviceType observation.capabilities observedAt
      generated.now current
    identifiers := identifierRows context.scope current.id (some observedAt)
      observation.identifiers
    facts := observedFacts context.scope current.id observedAt
      (observedValues observation)
    events := [] }

def discoveredChange (observation : DeviceObservation) : Change :=
  let observedAt := observationTime generated observation
  newDeviceChange context
    (observedRow context generated observation observedAt) (some observedAt)
    observation.identifiers
    (observedFacts context.scope generated.deviceId observedAt
      (observedValues observation))
    "discovery"

theorem discoveredChange_identifiers (observation : DeviceObservation) :
    (discoveredChange context generated observation).identifiers =
      identifierRows context.scope
        (discoveredChange context generated observation).device.id
        (some (observationTime generated observation))
        observation.identifiers := rfl

theorem observedChange_identifiers (observation : DeviceObservation)
    (declared : Field → Bool) (current : DeviceView) :
    (observedChange context generated observation declared
        current).identifiers =
      identifierRows context.scope
        (observedChange context generated observation declared
          current).device.id
        (some (observationTime generated observation))
        observation.identifiers := rfl

end Changes

theorem deviceIn_eq_some_iff {db : InventoryDb} {scope : Scope}
    {deviceId : Uuid} {device : DeviceView} :
    db.deviceIn scope deviceId = some device ↔
      db.devices.lookup deviceId = some device ∧ device.scope = scope := by
  simp [InventoryDb.deviceIn, Option.filter_eq_some_iff]

@[simp]
theorem deviceIn_withIdentifiers (db : InventoryDb)
    (rows : List IdentifierRow) :
    (db.withIdentifiers rows).deviceIn = db.deviceIn := rfl

@[simp]
theorem deviceIn_withFacts (db : InventoryDb) (rows : List FactRow) :
    (db.withFacts rows).deviceIn = db.deviceIn := rfl

theorem id_of_deviceIn {db : InventoryDb} {scope : Scope} {deviceId : Uuid}
    {device : DeviceView} (found : db.deviceIn scope deviceId = some device) :
    device.id = deviceId :=
  Table.key_of_lookup (deviceIn_eq_some_iff.mp found).1

/-- The device that a change writes is there afterwards. -/
theorem deviceIn_apply (change : Change) (db : InventoryDb) :
    (change.apply db).deviceIn change.device.scope change.device.id =
      some change.device :=
  deviceIn_eq_some_iff.mpr
    ⟨Table.lookup_put_self change.device db.devices, rfl⟩

theorem lookup_devices_apply (change : Change) (db : InventoryDb)
    (deviceId : Uuid) :
    (change.apply db).devices.lookup deviceId =
      if change.device.id = deviceId then some change.device
      else db.devices.lookup deviceId :=
  Table.lookup_put change.device deviceId db.devices

section Identifiers

variable {db : InventoryDb} {row : DeviceView}

/-- The state after a device is written. -/
def InventoryDb.withDevice (db : InventoryDb) (row : DeviceView) :
    InventoryDb :=
  { db with devices := db.devices.put row }

theorem deviceIn_withDevice (db : InventoryDb) (row : DeviceView) :
    (db.withDevice row).deviceIn row.scope row.id = some row :=
  deviceIn_eq_some_iff.mpr ⟨Table.lookup_put_self row db.devices, rfl⟩

/-- A device may be written if it stays in its scope. -/
def InventoryDb.AllowsDevice (db : InventoryDb) (row : DeviceView) : Prop :=
  ∀ stored, db.devices.lookup row.id = some stored → stored.scope = row.scope

private theorem IdentifiersSound.withDevice (sound : IdentifiersSound db)
    (allowed : db.AllowsDevice row) :
    IdentifiersSound (db.withDevice row) where
  device := by
    intro identifier member
    have known := sound.device identifier member
    rcases Option.isSome_iff_exists.mp known with ⟨owner, found⟩
    rcases deviceIn_eq_some_iff.mp found with ⟨isOwner, inScope⟩
    by_cases same : row.id = identifier.deviceId
    · have stored := allowed owner (same ▸ isOwner)
      apply Option.isSome_iff_exists.mpr ⟨row, ?_⟩
      apply deviceIn_eq_some_iff.mpr
      rw [InventoryDb.withDevice, Table.lookup_put, if_pos same]
      exact ⟨rfl, stored.symm.trans inScope⟩
    · apply Option.isSome_iff_exists.mpr ⟨owner, ?_⟩
      apply deviceIn_eq_some_iff.mpr
      rw [InventoryDb.withDevice, Table.lookup_put, if_neg same]
      exact ⟨isOwner, inScope⟩
  strength := sound.strength
  strongUnique := sound.strongUnique

theorem IdentifiersSound.apply {change : Change} (sound : IdentifiersSound db)
    (allowed : db.AllowsDevice change.device)
    (describe : ∀ row ∈ change.identifiers,
      row.Describes change.device.scope change.device.id)
    (admits : ∀ row ∈ change.identifiers, Admits db row) :
    IdentifiersSound (change.apply db) := by
  have present := deviceIn_withDevice db change.device
  have withIdentifiers := (sound.withDevice allowed).withIdentifiers
    (Option.isSome_of_eq_some present) describe admits
  exact ⟨withIdentifiers.device, withIdentifiers.strength,
    withIdentifiers.strongUnique⟩

end Identifiers

/-! ## Declared facts -/

theorem key_setFact (given stored : FactRow) :
    (setFact given stored).key = stored.key := rfl

theorem hasDeclaredFact_eq_true_iff {db : InventoryDb} {deviceId : Uuid}
    {field : Field} :
    db.hasDeclaredFact deviceId field = true ↔
      ∃ source, (db.facts.lookup
        ⟨deviceId, field, .declared, source⟩).isSome := by
  rw [InventoryDb.hasDeclaredFact, List.any_eq_true]
  constructor
  · rintro ⟨fact, member, isDeclared⟩
    simp only [Bool.and_eq_true, decide_eq_true_eq] at isDeclared
    rcases isDeclared with ⟨⟨sameDevice, sameField⟩, sameProvenance⟩
    refine ⟨fact.key.source, ?_⟩
    have sameKey : fact.key =
        ⟨deviceId, field, .declared, fact.key.source⟩ := by
      rw [← sameDevice, ← sameField, ← sameProvenance]
    rw [← sameKey, Table.lookup_of_mem member]
    rfl
  · rintro ⟨source, found⟩
    rcases Option.isSome_iff_exists.mp found with ⟨fact, isFact⟩
    have sameKey : fact.key = ⟨deviceId, field, .declared, source⟩ :=
      Table.key_of_lookup isFact
    refine ⟨fact, Table.mem_of_lookup isFact, ?_⟩
    simp [sameKey]

theorem lookup_observedFacts {facts : Table FactKey FactRow FactRow.key}
    {scope : Scope} {deviceId : Uuid} {observedAt : Timestamp}
    {values : List (Field × Value)} {key : FactKey}
    (declared : key.provenance = .declared) :
    (facts.upsertAll setFact
        (observedFacts scope deviceId observedAt values)).lookup key =
      facts.lookup key := by
  apply Table.lookup_upsertAll_of_notMem key_setFact
  intro row member same
  rcases List.mem_map.mp member with ⟨given, _, rfl⟩
  rw [← same] at declared
  cases declared

/-- An observation declares nothing. -/
theorem hasDeclaredFact_observedFacts {db : InventoryDb} {scope : Scope}
    {deviceId : Uuid} {observedAt : Timestamp} {values : List (Field × Value)} :
    (db.withFacts (observedFacts scope deviceId observedAt
      values)).hasDeclaredFact = db.hasDeclaredFact := by
  funext tested field
  rw [Bool.eq_iff_iff, hasDeclaredFact_eq_true_iff,
    hasDeclaredFact_eq_true_iff]
  simp only [InventoryDb.withFacts, lookup_observedFacts]

section NewDevices

variable {context : MutationContext} {committed db : InventoryDb}
  {row : DeviceView} {observedAt : Option Timestamp}
  {identifiers : List NewIdentifier} {facts : List FactRow} {reason : String}

/-- What both operations that add a device do before they end. -/
def storeNewDevice (context : MutationContext) (row : DeviceView)
    (observedAt : Option Timestamp) (identifiers : List NewIdentifier)
    (facts : List FactRow) (reason : String) : Store Unit := do
  query (.insertDevice row)
  Program.forEach (upsertIdentifier context.scope row.id observedAt)
    identifiers
  writeFacts facts
  appendLifecycleEvent context row.id none row.lifecycle (some reason)

/-- The facts are about a device. -/
def FactsOf (scope : Scope) (deviceId : Uuid) (facts : List FactRow) : Prop :=
  ∀ fact ∈ facts, fact.scope = scope ∧ fact.key.deviceId = deviceId

theorem factsOf_declaredFacts (scope : Scope) (deviceId : Uuid)
    (values : List (Field × Value)) :
    FactsOf scope deviceId (declaredFacts scope deviceId values) := by
  intro fact member
  rcases List.mem_map.mp member with ⟨given, _, rfl⟩
  exact ⟨rfl, rfl⟩

theorem factsOf_observedFacts (scope : Scope) (deviceId : Uuid)
    (observedAt : Timestamp) (values : List (Field × Value)) :
    FactsOf scope deviceId
      (observedFacts scope deviceId observedAt values) := by
  intro fact member
  rcases List.mem_map.mp member with ⟨given, _, rfl⟩
  exact ⟨rfl, rfl⟩

/-- The facts of a device that is there can be written. -/
theorem FactsOf.eval_writeFacts {scope : Scope} {deviceId : Uuid}
    (factsOf : FactsOf scope deviceId facts)
    (present : (db.deviceIn scope deviceId).isSome) :
    (writeFacts facts).eval ⟨committed, db⟩ =
      (.ok (), ⟨committed, db.withFacts facts⟩) := by
  apply InventoryStore.eval_writeFacts
  intro fact member
  rw [(factsOf fact member).1, (factsOf fact member).2]
  exact present

private theorem eval_appendLifecycleEvent {deviceId : Uuid}
    {fromState : Option DeviceLifecycle} {toState : DeviceLifecycle}
    {reason : Option String}
    (present : (db.deviceIn context.scope deviceId).isSome) :
    (appendLifecycleEvent context deviceId fromState toState reason).eval
        ⟨committed, db⟩ =
      (.ok (), ⟨committed,
        { db with
          lifecycleEvents := db.lifecycleEvents ++
            [appendedEvent context deviceId fromState toState reason] }⟩) := by
  have notMissing : ¬(db.deviceIn context.scope deviceId).isNone = true := by
    rw [Option.isNone_iff_eq_none]
    exact Option.isSome_iff_ne_none.mp present
  have inserted : inventorySql.exec (.insertLifecycleEvent
      (appendedEvent context deviceId fromState toState reason)) db =
        .ok ((), [.lifecycleEvent
          (appendedEvent context deviceId fromState toState reason)]) :=
    if_neg notMissing
  exact Program.eval_exec_ok inserted

private theorem eval_insertDevice (absent : db.devices.lookup row.id = none) :
    (query (.insertDevice row)).eval ⟨committed, db⟩ =
      (.ok (), ⟨committed, db.withDevice row⟩) := by
  have notTaken : ¬(db.devices.lookup row.id).isSome = true := by
    rw [absent]
    exact Bool.false_ne_true
  have inserted : inventorySql.exec (.insertDevice row) db =
      .ok ((), [.device row]) := if_neg notTaken
  exact Program.eval_exec_ok inserted

private theorem present_withDevice (inScope : row.scope = context.scope) :
    ((db.withDevice row).deviceIn context.scope row.id).isSome := by
  rw [← inScope, deviceIn_withDevice]
  rfl

/-- Once the device and its identifiers are stored, the rest is. -/
theorem eval_storeNewDevice_rest (inScope : row.scope = context.scope)
    (factsOf : FactsOf context.scope row.id facts)
    (stored : (Program.forEach
        (upsertIdentifier context.scope row.id observedAt) identifiers).eval
          ⟨committed, db.withDevice row⟩ =
      (.ok (), ⟨committed, (db.withDevice row).withIdentifiers
        (identifierRows context.scope row.id observedAt identifiers)⟩))
    (absent : db.devices.lookup row.id = none) :
    (storeNewDevice context row observedAt identifiers facts reason).eval
        ⟨committed, db⟩ =
      (.ok (), ⟨committed, (newDeviceChange context row observedAt identifiers
        facts reason).apply db⟩) := by
  have present (rows : List IdentifierRow) :
      (((db.withDevice row).withIdentifiers rows).deviceIn context.scope
        row.id).isSome := by
    rw [deviceIn_withIdentifiers]
    exact present_withDevice inScope
  have presentAfter (rows : List IdentifierRow) :
      ((((db.withDevice row).withIdentifiers rows).withFacts facts).deviceIn
        context.scope row.id).isSome := present rows
  rw [storeNewDevice, Program.eval_bind_ok (eval_insertDevice absent),
    Program.eval_bind_ok stored,
    Program.eval_bind_ok (factsOf.eval_writeFacts (present _)),
    eval_appendLifecycleEvent (presentAfter _)]
  rfl

theorem allowsDevice_of_absent (absent : db.devices.lookup row.id = none) :
    db.AllowsDevice row := by
  intro stored found
  rw [absent] at found
  cases found

/-- A new device can be stored if no other owns its strong identifiers. -/
theorem eval_storeNewDevice (sound : IdentifiersSound db)
    (inScope : row.scope = context.scope)
    (factsOf : FactsOf context.scope row.id facts)
    (absent : db.devices.lookup row.id = none)
    (valid : ∀ identifier ∈ identifiers, identifier.validate = .ok ())
    (admits : ∀ stored ∈
      identifierRows context.scope row.id observedAt identifiers,
      Admits db stored) :
    (storeNewDevice context row observedAt identifiers facts reason).eval
        ⟨committed, db⟩ =
      (.ok (), ⟨committed, (newDeviceChange context row observedAt identifiers
        facts reason).apply db⟩) := by
  apply eval_storeNewDevice_rest inScope factsOf ?_ absent
  exact eval_upsertIdentifiers
    (sound.withDevice (allowsDevice_of_absent absent))
    (present_withDevice inScope) valid admits

/-- A device that has been stored was new, and its strong identifiers had no
other owner. -/
theorem eval_storeNewDevice_eq_ok {reached : Connection inventorySql}
    (sound : IdentifiersSound db) (inScope : row.scope = context.scope)
    (factsOf : FactsOf context.scope row.id facts)
    (ended : (storeNewDevice context row observedAt identifiers facts
        reason).eval ⟨committed, db⟩ = (.ok (), reached)) :
    db.devices.lookup row.id = none ∧
      reached = ⟨committed, (newDeviceChange context row observedAt
        identifiers facts reason).apply db⟩ ∧
      IdentifiersSound reached.working := by
  have steps := ended
  rw [storeNewDevice] at steps
  rcases Program.eval_bind_eq_ok steps with ⟨_, middle, inserted, steps⟩
  rcases Program.eval_statement_eq_ok inserted with ⟨writes, answered, rfl⟩
  have absent : db.devices.lookup row.id = none := by
    by_contra taken
    have refused : inventorySql.exec (.insertDevice row) db =
        .error (.uniqueViolation "devices_pkey") :=
      if_pos (Option.isSome_iff_ne_none.mpr taken)
    rw [refused] at answered
    cases answered
  have afterInsert :=
    (Prod.mk.inj ((eval_insertDevice absent).symm.trans inserted)).2
  rw [← afterInsert] at steps
  rcases Program.eval_bind_eq_ok steps with ⟨_, middle, identified, _⟩
  rcases eval_upsertIdentifiers_eq_ok
    (sound.withDevice (allowsDevice_of_absent absent))
    (present_withDevice inScope) identified with ⟨isMiddle, soundAfter⟩
  rw [isMiddle] at identified soundAfter
  rw [eval_storeNewDevice_rest inScope factsOf identified absent] at ended
  have isReached := (Prod.mk.inj ended).2
  refine ⟨absent, isReached.symm, ?_⟩
  rw [← isReached]
  exact ⟨soundAfter.device, soundAfter.strength, soundAfter.strongUnique⟩

end NewDevices

section Reconciliation

variable {library : InventoryLibrary} {context : MutationContext}
  {generated : Generated} {committed db : InventoryDb}
  {observation : DeviceObservation}

/-- An observation of a known device does all its changes and then ends. -/
theorem eval_updateObservedDevice {deviceId : Uuid} {current : DeviceView}
    (sound : IdentifiersSound db)
    (found : db.deviceIn context.scope deviceId = some current)
    (inService : (current.lifecycle == .retired ||
      current.lifecycle == .archived) = false)
    (valid : ∀ identifier ∈ observation.identifiers,
      identifier.validate = .ok ())
    (admits : ∀ row ∈ identifierRows context.scope deviceId
      (some (observationTime generated observation)) observation.identifiers,
      Admits db row) :
    (updateObservedDevice library context generated observation
        (observationTime generated observation) deviceId).eval
          ⟨committed, db⟩ =
      (finishMutation library context generated "inventory.device.reconcile"
        "inventory.device.observed" deviceId (some current)).eval
          ⟨committed, (observedChange context generated observation
            (db.hasDeclaredFact deviceId) current).apply db⟩ := by
  have isId : current.id = deviceId := id_of_deviceIn found
  have present := Option.isSome_of_eq_some found
  have presentAfter (rows : List IdentifierRow) :
      ((db.withIdentifiers rows).deviceIn context.scope deviceId).isSome :=
    present
  rw [updateObservedDevice, Program.eval_bind_ok (eval_loadDevice found),
    inService, Bool.not_false, Program.check_true_bind,
    Program.eval_bind_ok (eval_upsertIdentifiers sound present valid admits),
    persistObservedFacts_eq, Program.eval_bind_ok
      ((factsOf_observedFacts _ _ _ _).eval_writeFacts (presentAfter _))]
  have updated : ∀ state : InventoryDb,
      state.devices.lookup deviceId = some current →
      inventorySql.exec (.updateObserved deviceId
          (fun field => cleanOptional (observation.text field))
          observation.deviceType observation.capabilities
          (observationTime generated observation) generated.now) state =
        .ok ((), [.device (setObserved (state.hasDeclaredFact deviceId)
          (fun field => cleanOptional (observation.text field))
          observation.deviceType observation.capabilities
          (observationTime generated observation) generated.now
          current)]) := by
    intro state isCurrent
    simp only [isCurrent, updateDevice, Option.toList_some, List.map_cons,
      List.map_nil]
  rw [applyObservedCanonicalFields, query, Program.eval_statement_bind_ok
    (updated _ (deviceIn_eq_some_iff.mp found).1),
    hasDeclaredFact_observedFacts, observedChange, isId, Change.apply,
    List.append_nil]
  rfl

theorem createObservedDevice_eq :
    createObservedDevice library context generated observation
        (observationTime generated observation) = (do
      storeNewDevice context
        (observedRow context generated observation
          (observationTime generated observation))
        (some (observationTime generated observation))
        observation.identifiers
        (observedFacts context.scope generated.deviceId
          (observationTime generated observation)
          (observedValues observation))
        "discovery"
      finishMutation library context generated
        "inventory.device.discovery.create" "inventory.device.discovered"
        generated.deviceId none) := by
  simp only [createObservedDevice, storeNewDevice, persistObservedFacts_eq,
    bind_assoc]
  rfl

/-- An observation of a new device does all its changes and then ends. -/
theorem eval_createObservedDevice (sound : IdentifiersSound db)
    (absent : db.devices.lookup generated.deviceId = none)
    (valid : ∀ identifier ∈ observation.identifiers,
      identifier.validate = .ok ())
    (admits : ∀ row ∈ identifierRows context.scope generated.deviceId
      (some (observationTime generated observation)) observation.identifiers,
      Admits db row) :
    (createObservedDevice library context generated observation
        (observationTime generated observation)).eval ⟨committed, db⟩ =
      (finishMutation library context generated
        "inventory.device.discovery.create" "inventory.device.discovered"
        generated.deviceId none).eval
          ⟨committed,
            (discoveredChange context generated observation).apply db⟩ := by
  have inScope : (observedRow context generated observation
      (observationTime generated observation)).scope = context.scope := rfl
  have factsOf : FactsOf context.scope generated.deviceId
      (observedFacts context.scope generated.deviceId
        (observationTime generated observation)
        (observedValues observation)) :=
    factsOf_observedFacts _ _ _ _
  rw [createObservedDevice_eq, Program.eval_bind_ok
    (eval_storeNewDevice sound inScope factsOf absent valid admits)]
  rfl

end Reconciliation

section Declarations

variable {library : InventoryLibrary} {context : MutationContext}
  {generated : Generated} {committed db : InventoryDb}

theorem createManual_eq (input : NewDevice) (approvalRequired : Bool) :
    createManual library context generated input approvalRequired = (do
      Program.ofExcept context.validate
      Program.ofExcept input.validate
      storeNewDevice context
        (manualRow context generated input approvalRequired) none
        input.identifiers
        (declaredFacts context.scope generated.deviceId (declaredValues input))
        "manual_create"
      finishMutation library context generated "inventory.device.create"
        "inventory.device.created" generated.deviceId none) := by
  simp only [createManual, storeNewDevice, persistDeclaredFacts_eq,
    bind_assoc]
  rfl

/-- A patch that is let through changes the device and is recorded. -/
theorem eval_updateMetadata {deviceId : Uuid} {current : DeviceView}
    {patch : MetadataPatch} (contextValid : context.validate = .ok ())
    (patchValid : patch.validate = .ok ())
    (found : db.deviceIn context.scope deviceId = some current)
    (allowed : current.lifecycle.allowsNormalMutation = true) :
    (updateMetadata library context generated deviceId current.version
        patch).eval ⟨committed, db⟩ =
      (finishMutation library context generated "inventory.device.update"
        "inventory.device.updated" deviceId (some current)).eval
          ⟨committed,
            (metadataChange context generated patch current).apply db⟩ := by
  have isId : current.id = deviceId := id_of_deviceIn found
  have updated : (query (.updateMetadata context.scope deviceId
      (patchedTexts patch current)
      (patch.deviceType.getD current.deviceType)
      (patch.capabilities.getD current.capabilities) generated.now)).eval
        ⟨committed, db⟩ =
      (.ok (), ⟨committed, db.withDevice
        (metadataChange context generated patch current).device⟩) := by
    have answered : inventorySql.exec (.updateMetadata context.scope deviceId
        (patchedTexts patch current)
        (patch.deviceType.getD current.deviceType)
        (patch.capabilities.getD current.capabilities) generated.now) db =
      .ok ((), [.device
        (metadataChange context generated patch current).device]) := by
      simp only [found]
      rfl
    exact eval_query answered
  have present : ((db.withDevice (metadataChange context generated patch
      current).device).deviceIn context.scope deviceId).isSome := by
    rw [← (deviceIn_eq_some_iff.mp found).2, ← isId]
    exact Option.isSome_of_eq_some (deviceIn_withDevice db _)
  have checked : Program.check (current.version == current.version)
      (.versionConflict current.version current.version) =
        (.done (.ok ()) : Store Unit) := by
    rw [beq_self_eq_true]
    rfl
  rw [updateMetadata, contextValid, patchValid]
  refine (Program.eval_bind_ok (eval_loadDevice found)).trans ?_
  rw [checked, allowed]
  refine (Program.eval_bind_ok updated).trans ?_
  rw [persistPatchFacts_eq,
    Program.eval_bind_ok ((factsOf_declaredFacts _ _ _).eval_writeFacts
      present), Change.apply]
  simp only [metadataChange, List.append_nil, isId]
  rfl

/-- A patch that ends has found the expected version, and done all its
changes. -/
theorem eval_updateMetadata_eq_ok {deviceId : Uuid} {expectedVersion : Int}
    {patch : MetadataPatch} {result : DeviceView}
    {reached : Connection inventorySql}
    (ended : (updateMetadata library context generated deviceId
        expectedVersion patch).eval ⟨committed, db⟩ = (.ok result, reached)) :
    ∃ current, db.deviceIn context.scope deviceId = some current ∧
      current.version = expectedVersion ∧
      current.lifecycle.allowsNormalMutation = true ∧
      (finishMutation library context generated "inventory.device.update"
        "inventory.device.updated" deviceId (some current)).eval
          ⟨committed,
            (metadataChange context generated patch current).apply db⟩ =
        (.ok result, reached) := by
  have steps := ended
  rw [updateMetadata] at steps
  rcases Program.eval_bind_eq_ok steps with ⟨_, _, checked, steps⟩
  obtain ⟨contextValid, unchanged⟩ := Program.eval_ofExcept_eq_ok checked
  rw [unchanged] at steps
  rcases Program.eval_bind_eq_ok steps with ⟨_, _, checked, steps⟩
  obtain ⟨patchValid, unchanged⟩ := Program.eval_ofExcept_eq_ok checked
  rw [unchanged] at steps
  rcases Program.eval_bind_eq_ok steps with ⟨current, _, loaded, steps⟩
  rcases eval_loadDevice_eq_ok loaded with ⟨found, unchanged⟩
  rw [unchanged] at steps
  rcases Program.eval_bind_eq_ok steps with ⟨_, _, checked, steps⟩
  rcases Program.eval_check_eq_ok checked with ⟨sameVersion, unchanged⟩
  rw [unchanged] at steps
  rcases Program.eval_bind_eq_ok steps with ⟨_, _, checked, _⟩
  rcases Program.eval_check_eq_ok checked with ⟨allowed, _⟩
  obtain rfl := beq_iff_eq.mp sameVersion
  rw [eval_updateMetadata contextValid patchValid found allowed] at ended
  exact ⟨current, found, rfl, allowed, ended⟩

/-- A transition that ends has found the expected version.  It has found the
device in the state that is asked for, or moved it there. -/
theorem eval_transitionLifecycle_eq_ok {deviceId : Uuid}
    {expectedVersion : Int} {next : DeviceLifecycle} {reason : Option String}
    {result : DeviceView} {reached : Connection inventorySql}
    (ended : (transitionLifecycle library context generated deviceId
        expectedVersion next reason).eval ⟨committed, db⟩ =
      (.ok result, reached)) :
    ∃ current, db.deviceIn context.scope deviceId = some current ∧
      current.version = expectedVersion ∧
      ((current.lifecycle = next ∧ result = current ∧
          reached = ⟨committed, db⟩) ∨
        (current.lifecycle ≠ next ∧
          current.lifecycle.canTransitionTo next = true ∧
          (finishMutation library context generated
            "inventory.device.lifecycle.transition"
            "inventory.device.lifecycle_changed" deviceId (some current)).eval
              ⟨committed,
                (lifecycleChange context generated next reason current).apply
                  db⟩ = (.ok result, reached))) := by
  rw [transitionLifecycle] at ended
  rcases Program.eval_bind_eq_ok ended with ⟨_, _, checked, ended⟩
  rw [(Program.eval_ofExcept_eq_ok checked).2] at ended
  rcases Program.eval_bind_eq_ok ended with ⟨current, _, loaded, ended⟩
  rcases eval_loadDevice_eq_ok loaded with ⟨found, unchanged⟩
  rw [unchanged] at ended
  rcases Program.eval_bind_eq_ok ended with ⟨_, _, checked, ended⟩
  rcases Program.eval_check_eq_ok checked with ⟨sameVersion, unchanged⟩
  rw [unchanged] at ended
  refine ⟨current, found, beq_iff_eq.mp sameVersion, ?_⟩
  by_cases already : current.lifecycle = next
  · left
    rw [if_pos already] at ended
    rcases Program.eval_pure_eq_ok ended with ⟨isResult, isReached⟩
    exact ⟨already, isResult, isReached⟩
  · right
    rw [if_neg already] at ended
    rcases Program.eval_bind_eq_ok ended with ⟨_, _, checked, ended⟩
    rcases Program.eval_check_eq_ok checked with ⟨allowed, unchanged⟩
    rw [unchanged] at ended
    rcases Program.eval_bind_eq_ok ended with ⟨_, _, checked, ended⟩
    rw [(Program.eval_check_eq_ok checked).2] at ended
    refine ⟨already, allowed, ?_⟩
    have isId : current.id = deviceId := id_of_deviceIn found
    have updated : (query (.updateLifecycle context.scope deviceId next
        (cleanOptional reason) generated.now)).eval ⟨committed, db⟩ =
        (.ok (), ⟨committed, db.withDevice
          (lifecycleChange context generated next reason current).device⟩) := by
      have answered : inventorySql.exec (.updateLifecycle context.scope
          deviceId next (cleanOptional reason) generated.now) db =
        .ok ((), [.device
          (lifecycleChange context generated next reason current).device]) := by
        simp only [found]
        rfl
      exact eval_query answered
    have present : ((db.withDevice (lifecycleChange context generated next
        reason current).device).deviceIn context.scope deviceId).isSome := by
      rw [← (deviceIn_eq_some_iff.mp found).2, ← isId]
      exact Option.isSome_of_eq_some (deviceIn_withDevice db _)
    rw [Program.eval_bind_ok updated,
      Program.eval_bind_ok (eval_appendLifecycleEvent present)] at ended
    rw [← ended, Change.apply]
    simp only [lifecycleChange, isId]
    rfl

end Declarations

end NetworkManager.InventoryStore
