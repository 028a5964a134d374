import NetworkManager.InventoryStore.RowValidity

/-!
# The order of observations

An observation of a known device writes over the evidence that it finds,
whatever the time of that evidence; the time at which the device was last seen
is the only one that never moves back.  Two observations with different times
therefore never leave the same evidence in both orders.
-/

namespace NetworkManager.InventoryStore

open NetworkManager.Foundation
open NetworkManager.Domain.Inventory
open NetworkManager.Security
open NetworkManager.Transaction

/-- An observation has been accepted in a scope. -/
def Submits (library : InventoryLibrary) (scope : Scope)
    (observation : DeviceObservation) (before after : InventoryDb) : Prop :=
  ∃ (context : MutationContext) (generated : Generated)
    (result : ReconciliationResult), context.scope = scope ∧
    (reconcileObservation library context generated observation).call before =
      (.ok result, after)

/-- The row, the identifiers and the facts that an observation leaves of the
device that it is about. -/
structure Observed (scope : Scope) (observation : DeviceObservation)
    (observedAt : Timestamp) (current : DeviceView)
    (before after : InventoryDb) : Prop where
  row : ∃ now, after.devices.lookup current.id =
    some (setObserved (before.hasDeclaredFact current.id)
      (fun field => cleanOptional (observation.text field))
      observation.deviceType observation.capabilities observedAt now current)
  identifiers : after.identifiers =
    before.identifiers.upsertAll setIdentifier (identifierRows scope
      current.id (some observedAt) observation.identifiers)
  facts : after.facts = before.facts.upsertAll setFact
    (observedFacts scope current.id observedAt (observedValues observation))
  sound : IdentifiersSound after

section Known

variable {library : InventoryLibrary} {scope : Scope}
  {observation : DeviceObservation} {before after : InventoryDb}
  {deviceId : Uuid} {observedAt : Timestamp}

private theorem owners_congr
    {db : InventoryDb} {left right : List IdentifierKey}
    (same : ∀ identity, identity ∈ left ↔ identity ∈ right) :
    db.owners scope left = db.owners scope right := by
  ext owner
  simp only [mem_owners, same]

/-- An accepted observation of a known device has found it and written over
it, and still matches it. -/
theorem Submits.observed (sound : IdentifiersSound before)
    (submits : Submits library scope observation before after)
    (only : before.matching scope observation = {deviceId})
    (hasTime : observation.observedAt = some observedAt) :
    (∃ current, current.id = deviceId ∧
      before.devices.lookup deviceId = some current ∧
      Observed scope observation observedAt current before after) ∧
    after.matching scope observation = {deviceId} := by
  rcases submits with ⟨context, generated, result, rfl, ended⟩
  rcases valid_of_reconcileObservation ended with ⟨contextValid, valid⟩
  have isTime : observationTime generated observation = observedAt := by
    rw [observationTime, hasTime]
    rfl
  have strong : ∃ identifier ∈ observation.identifiers,
      identifier.kind.strength = .strong := by
    have member : deviceId ∈ before.matching context.scope observation := by
      rw [only]
      exact Finset.mem_singleton_self deviceId
    rcases mem_matching.mp member with ⟨identifier, given, isStrong, _⟩
    exact ⟨identifier, given, isStrong⟩
  have recognizes := recognizes_of_committed sound strong ended
  cases reconciles sound contextValid valid ended with
  | @updated current reached mutation onlyCurrent found inService =>
      have isId : current.id = deviceId :=
        Finset.singleton_injective (onlyCurrent.symm.trans only)
      rcases mutation.recorded with ⟨auditRow, outboxRow, _, _, _, rfl⟩
      subst isId
      refine ⟨⟨current, rfl, (deviceIn_eq_some_iff.mp found).1, ?_⟩,
        recognizes.only⟩
      rw [← isTime]
      refine ⟨⟨generated.now, ?_⟩, rfl, rfl, mutation.sound⟩
      exact (lookup_devices_apply _ _ _).trans (if_pos rfl)
  | created mutation noMatch absent =>
      rw [only] at noMatch
      exact absurd noMatch (Finset.singleton_ne_empty deviceId)

end Known

/-- A row is made of an identifier and its identity. -/
theorem NewIdentifier.row_eq_ok_iff {identifier : NewIdentifier}
    {scope : Scope} {deviceId : Uuid} {observedAt : Option Timestamp}
    {row : IdentifierRow} :
    identifier.row scope deviceId observedAt = .ok row ↔
      ∃ identity, identifier.identity = .ok identity ∧
        row = identifierRow scope deviceId identifier
          identity.identityNamespace identity.normalizedValue observedAt := by
  unfold NewIdentifier.row
  constructor
  · intro isRow
    cases isNormalized : normalized identifier with
    | error failure => simp [isNormalized, bind, Except.bind] at isRow
    | ok normalizedValue =>
        cases hasNamespace :
            identityNamespace identifier.kind identifier.source with
        | error failure =>
            simp [isNormalized, hasNamespace, bind, Except.bind] at isRow
        | ok sourceNamespace =>
            rw [isNormalized, hasNamespace] at isRow
            cases isRow
            exact ⟨_, NewIdentifier.identity_of_parts isNormalized hasNamespace,
              rfl⟩
  · rintro ⟨identity, isIdentity, rfl⟩
    have parts := NewIdentifier.parts_of_identity isIdentity
    rw [parts.2.1, parts.2.2]
    rfl

theorem mem_identifierRows {scope : Scope} {deviceId : Uuid}
    {observedAt : Option Timestamp} {identifiers : List NewIdentifier}
    {row : IdentifierRow} :
    row ∈ identifierRows scope deviceId observedAt identifiers ↔
      ∃ identifier ∈ identifiers, ∃ identity,
        identifier.identity = .ok identity ∧
        row = identifierRow scope deviceId identifier
          identity.identityNamespace identity.normalizedValue observedAt := by
  simp only [identifierRows, List.mem_filterMap, toOption_eq_some_iff,
    NewIdentifier.row_eq_ok_iff]

/-- A merged row has what all the given rows have. -/
theorem lookup_upsertAll_satisfies {κ α : Type} [DecidableEq κ] {key : α → κ}
    {merge : α → α → α} {holds : α → Prop}
    (sameKey : ∀ given stored, key (merge given stored) = key stored)
    {rows : List α}
    (given : ∀ row ∈ rows, holds row ∧ ∀ stored, holds (merge row stored))
    {wanted : κ} (listed : wanted ∈ rows.map key) (table : Table κ α key) :
    ∃ row, (table.upsertAll merge rows).lookup wanted = some row ∧
      holds row := by
  induction rows generalizing table with
  | nil => cases listed
  | cons first rest inductionHypothesis =>
      rw [Table.upsertAll_cons]
      by_cases later : wanted ∈ rest.map key
      · exact inductionHypothesis
          (fun row member => given row (List.mem_cons_of_mem first member))
          later _
      · have isFirst : key first = wanted := by
          rw [List.map_cons, List.mem_cons] at listed
          rcases listed with same | inRest
          · exact same.symm
          · exact absurd inRest later
        have absent : ∀ row ∈ rest, key row ≠ wanted := by
          intro row member same
          exact later (same ▸ List.mem_map_of_mem member)
        refine ⟨(table.lookup wanted).elim first (merge first), ?_, ?_⟩
        · rw [Table.lookup_upsertAll_of_notMem sameKey absent,
            Table.lookup_upsert sameKey, if_pos isFirst]
        · rcases given first (List.mem_cons_self ..) with ⟨own, merged⟩
          cases table.lookup wanted with
          | none => exact own
          | some stored => exact merged stored

/-- The key of the fact that discovery observes about a field. -/
def observedKey (deviceId : Uuid) (field : Field) : FactKey :=
  ⟨deviceId, field, .observed, "discovery"⟩

section Evidence

variable {scope : Scope} {observation : DeviceObservation}
  {observedAt : Timestamp} {current : DeviceView}
  {before after : InventoryDb}

/-- After an observation the evidence about the type is that observation. -/
theorem Observed.evidence
    (observed : Observed scope observation observedAt current before after) :
    ∃ fact, after.facts.lookup (observedKey current.id .deviceType) =
        some fact ∧ fact.observedAt = some observedAt := by
  rw [observed.facts]
  apply lookup_upsertAll_satisfies key_setFact
  · intro row member
    rcases List.mem_map.mp member with ⟨given, _, rfl⟩
    exact ⟨rfl, fun _ => rfl⟩
  · exact List.mem_cons_self ..

end Evidence

/-! ## Two orders -/

/-- The same canonical fields. -/
structure SameCanonical (left right : DeviceView) : Prop where
  deviceType : left.deviceType = right.deviceType
  texts : ∀ field, left.text field = right.text field
  serialNumber : left.serialNumber = right.serialNumber
  capabilities : left.capabilities = right.capabilities

/-- What the observations of a device have left of it is the same in both
states. -/
structure Converged (left right : InventoryDb) (deviceId : Uuid) : Prop where
  canonical : ∀ leftDevice rightDevice,
    left.devices.lookup deviceId = some leftDevice →
    right.devices.lookup deviceId = some rightDevice →
    SameCanonical leftDevice rightDevice
  facts : ∀ key : FactKey, key.deviceId = deviceId →
    key.provenance = .observed →
    (left.facts.lookup key).map (fun fact => (fact.value, fact.observedAt)) =
      (right.facts.lookup key).map fun fact => (fact.value, fact.observedAt)
  deviceSeen : (left.devices.lookup deviceId).map DeviceView.lastSeenAt =
    (right.devices.lookup deviceId).map DeviceView.lastSeenAt
  identifiersSeen : ∀ identity,
    (left.identifiers.lookup (deviceId, identity)).map
        IdentifierRow.lastSeenAt =
      (right.identifiers.lookup (deviceId, identity)).map
        IdentifierRow.lastSeenAt

/-- The first time, if there is one, is not after the second. -/
def NotAfter (first second : Option Timestamp) : Prop :=
  ∀ time, first = some time → ∃ later, second = some later ∧ time ≤ later

/-- No evidence about a device gives way to older evidence, and no time at which
it was seen moves back. -/
structure KeepsNewer (before after : InventoryDb) (deviceId : Uuid) :
    Prop where
  facts : ∀ key : FactKey, key.deviceId = deviceId →
    key.provenance = .observed → ∀ fact, before.facts.lookup key = some fact →
    ∃ kept, after.facts.lookup key = some kept ∧
      NotAfter fact.observedAt kept.observedAt
  deviceSeen : ∀ device, before.devices.lookup deviceId = some device →
    ∃ kept, after.devices.lookup deviceId = some kept ∧
      NotAfter device.lastSeenAt kept.lastSeenAt
  identifiersSeen : ∀ identity row,
    before.identifiers.lookup (deviceId, identity) = some row →
    ∃ kept, after.identifiers.lookup (deviceId, identity) = some kept ∧
      NotAfter row.lastSeenAt kept.lastSeenAt

/-- The later of the time at which a device was last seen and another. -/
def seenBy (device : DeviceView) (time : Timestamp) : Timestamp :=
  max (device.lastSeenAt.getD time) time

section Orders

variable {library : InventoryLibrary} {scope : Scope}
  {older newer : DeviceObservation} {earlier later : Timestamp}
  {db middle inOrder ahead late : InventoryDb} {deviceId : Uuid}

/-- What two observations leave, one after the other. -/
theorem Submits.observed_twice {first second : DeviceObservation}
    {firstAt secondAt : Timestamp} {reached : InventoryDb}
    (sound : IdentifiersSound db)
    (only : db.matching scope first = {deviceId})
    (sameStrong : ∀ identity,
      identity ∈ strongIdentities first.identifiers ↔
        identity ∈ strongIdentities second.identifiers)
    (firstTime : first.observedAt = some firstAt)
    (secondTime : second.observedAt = some secondAt)
    (firstSubmits : Submits library scope first db middle)
    (secondSubmits : Submits library scope second middle reached) :
    ∃ start current, start.id = deviceId ∧ current.id = deviceId ∧
      db.devices.lookup deviceId = some start ∧
      Observed scope first firstAt start db middle ∧
      middle.devices.lookup deviceId = some current ∧
      Observed scope second secondAt current middle reached := by
  rcases firstSubmits.observed sound only firstTime with
    ⟨⟨start, isStart, found, observed⟩, onlyAfter⟩
  have onlySecond : middle.matching scope second = {deviceId} :=
    (owners_congr fun identity => (sameStrong identity).symm).trans onlyAfter
  rcases secondSubmits.observed observed.sound onlySecond secondTime with
    ⟨⟨current, isCurrent, foundMiddle, observedAgain⟩, _⟩
  exact ⟨start, current, isStart, isCurrent, found, observed, foundMiddle,
    observedAgain⟩

private theorem Observed.lastSeenAt {observation : DeviceObservation}
    {observedAt : Timestamp} {current : DeviceView}
    (observed : Observed scope observation observedAt current db middle) :
    (middle.devices.lookup current.id).map DeviceView.lastSeenAt =
      some (some (seenBy current observedAt)) := by
  rcases observed.row with ⟨now, isRow⟩
  rw [isRow]
  rfl

/-- The time at which the device was last seen is the latest of all. -/
theorem seen_of_observed_twice {first second : DeviceObservation}
    {firstAt secondAt : Timestamp} {start current : DeviceView}
    {reached : InventoryDb} (sameId : start.id = current.id)
    (found : middle.devices.lookup current.id = some current)
    (firstObserved : Observed scope first firstAt start db middle)
    (secondObserved : Observed scope second secondAt current middle reached) :
    (reached.devices.lookup current.id).map DeviceView.lastSeenAt =
      some (some (max (start.lastSeenAt.getD firstAt)
        (max firstAt secondAt))) := by
  have seenFirst := firstObserved.lastSeenAt
  rw [sameId, found, Option.map_some, Option.some.injEq] at seenFirst
  rw [secondObserved.lastSeenAt, seenBy, seenFirst, seenBy, Option.getD_some,
    max_assoc]

/-- In no case do two observations with different times leave the same of a
device in both orders: only the time at which the device was last seen is the
same.  The older one that arrives late replaces newer evidence. -/
theorem observations_never_converge
    (reachable : (inventoryClient library).Reachable InventoryDb.IsEmpty db)
    (only : db.matching scope older = {deviceId})
    (sameStrong : ∀ identity,
      identity ∈ strongIdentities older.identifiers ↔
        identity ∈ strongIdentities newer.identifiers)
    (olderTime : older.observedAt = some earlier)
    (newerTime : newer.observedAt = some later)
    (isOlder : earlier < later)
    (olderFirst : Submits library scope older db middle)
    (newerSecond : Submits library scope newer middle inOrder)
    (newerFirst : Submits library scope newer db ahead)
    (olderSecond : Submits library scope older ahead late) :
    ¬Converged inOrder late deviceId ∧ ¬KeepsNewer ahead late deviceId ∧
      (inOrder.devices.lookup deviceId).map DeviceView.lastSeenAt =
        (late.devices.lookup deviceId).map DeviceView.lastSeenAt := by
  have sound := identifiersSound_of_reachable reachable
  have onlyNewer : db.matching scope newer = {deviceId} :=
    (owners_congr fun identity => (sameStrong identity).symm).trans only
  rcases olderFirst.observed_twice sound only sameStrong olderTime newerTime
    newerSecond with
    ⟨start, current, isStart, rfl, found, observedOlder, foundMiddle,
      observedNewer⟩
  rcases newerFirst.observed_twice sound onlyNewer
    (fun identity => (sameStrong identity).symm) newerTime olderTime
    olderSecond with
    ⟨startAhead, currentAhead, isStartAhead, isCurrentAhead, foundAhead,
      observedAhead, foundMiddleAhead, observedLate⟩
  have sameStart : startAhead = start :=
    Option.some.inj (foundAhead.symm.trans found)
  subst sameStart
  rcases observedNewer.evidence with ⟨inOrderFact, inOrderFound, inOrderTime⟩
  rcases observedLate.evidence with ⟨lateFact, lateFound, lateTime⟩
  rcases observedAhead.evidence with ⟨aheadFact, aheadFound, aheadTime⟩
  rw [isCurrentAhead] at lateFound
  rw [isStartAhead] at aheadFound
  refine ⟨fun converged => ?_, fun keeps => ?_, ?_⟩
  · have same := converged.facts (observedKey current.id .deviceType) rfl rfl
    rw [inOrderFound, lateFound, Option.map_some, Option.map_some,
      Option.some.injEq, Prod.mk.injEq, inOrderTime, lateTime,
      Option.some.injEq] at same
    exact isOlder.ne same.2.symm
  · rcases keeps.facts (observedKey current.id .deviceType) rfl rfl aheadFact
      aheadFound with ⟨kept, keptFound, notAfter⟩
    rw [lateFound] at keptFound
    cases keptFound
    rcases notAfter later aheadTime with ⟨time, isTime, notBefore⟩
    rw [lateTime, Option.some.injEq] at isTime
    subst isTime
    exact absurd isOlder notBefore.not_gt
  · rw [seen_of_observed_twice (isStart.trans rfl) foundMiddle observedOlder
      observedNewer]
    have lateSeen := seen_of_observed_twice
      (isStartAhead.trans isCurrentAhead.symm)
      (isCurrentAhead ▸ foundMiddleAhead) observedAhead observedLate
    rw [isCurrentAhead] at lateSeen
    rw [lateSeen]
    cases startAhead.lastSeenAt with
    | none => simp [isOlder.le]
    | some seen => simp [max_comm]

end Orders

namespace Sample

/-- The three times of the runs. -/
def clock (time : Timestamp) : String :=
  if time = 1000000 then "1970-01-01T00:00:01Z"
  else if time = 2000000 then "1970-01-01T00:00:02Z"
  else "1970-01-01T00:00:00Z"

def laterSight : Generated := ⟨⟨48⟩, ⟨49⟩, ⟨50⟩, 0, 0, 0⟩

/-- Two later observations of the device that `strong` observes. -/
def older : DeviceObservation :=
  { strong with displayName := some "old", observedAt := some 1000000 }

def newer : DeviceObservation :=
  { strong with displayName := some "new", observedAt := some 2000000 }

def sightedDevice : DeviceView := discovered first strong

/-- The device after one more observation. -/
def seeing (generated : Generated) (observation : DeviceObservation)
    (before : DeviceView) : DeviceView :=
  (observedChange context generated observation (fun _ => false)
    before).device

def seeingDraft (generated : Generated) (observation : DeviceObservation)
    (before : DeviceView) : AuditEventDraft :=
  mutationDraft context generated "inventory.device.reconcile"
    (seeing generated observation before) (some (before.toValue clock))
    (some ((seeing generated observation before).toValue clock))

/-- The SHA-256 digests of the sealed payloads. -/
def sightingOlder : FixedBytes 32 :=
  ⟨[206, 168, 52, 67, 145, 13, 84, 123, 139, 236, 167, 49, 171, 110, 205, 107,
    43, 165, 28, 106, 28, 237, 93, 38, 230, 199, 164, 34, 3, 145, 83,
    32], by decide⟩

def sightingInOrder : FixedBytes 32 :=
  ⟨[143, 162, 224, 211, 54, 25, 16, 80, 51, 69, 221, 109, 4, 119, 113, 161, 75,
    165, 175, 63, 142, 153, 51, 55, 125, 169, 238, 170, 105, 143, 227,
    202], by decide⟩

def sightingNewer : FixedBytes 32 :=
  ⟨[138, 45, 73, 219, 233, 112, 181, 206, 53, 176, 104, 25, 103, 180, 205, 252,
    34, 65, 141, 61, 97, 26, 98, 186, 60, 173, 145, 158, 38, 161, 96,
    51], by decide⟩

def sightingLate : FixedBytes 32 :=
  ⟨[188, 223, 165, 204, 73, 76, 232, 15, 155, 211, 102, 148, 42, 82, 249, 22,
    182, 157, 213, 83, 196, 127, 23, 172, 127, 172, 247, 107, 11, 227, 162,
    22], by decide⟩

def sightings : List Link :=
  [⟨[], draftOf first strong, firstStrong⟩,
    ⟨firstStrong.bytes, seeingDraft second older sightedDevice, sightingOlder⟩,
    ⟨sightingOlder.bytes,
      seeingDraft laterSight newer (seeing second older sightedDevice),
      sightingInOrder⟩,
    ⟨firstStrong.bytes, seeingDraft second newer sightedDevice, sightingNewer⟩,
    ⟨sightingNewer.bytes,
      seeingDraft laterSight older (seeing second newer sightedDevice), sightingLate⟩]

def sightingLibrary : InventoryLibrary :=
  { libraryOf sightings with formatTime := clock }

/-- The state after an observation. -/
def sight (generated : Generated) (observation : DeviceObservation)
    (before : InventoryDb) : InventoryDb :=
  ((reconcileObservation sightingLibrary context generated
    observation).call before).2

def sighted : InventoryDb := sight first strong start

def sightedOlder : InventoryDb := sight second older sighted

def sightedInOrder : InventoryDb := sight laterSight newer sightedOlder

def sightedNewer : InventoryDb := sight second newer sighted

def sightedLate : InventoryDb := sight laterSight older sightedNewer

private theorem submits_of_outcome {generated : Generated}
    {observation : DeviceObservation} {before : InventoryDb}
    {result : ReconciliationResult}
    (outcome : ((reconcileObservation sightingLibrary context generated
      observation).call before).1 = .ok result) :
    Submits sightingLibrary context.scope observation before
      (sight generated observation before) :=
  ⟨context, generated, result, rfl, Program.call_of_outcome outcome⟩

/-- The type of the device, as discovery has observed it, and when. -/
def typeEvidence (db : InventoryDb) : Option (Value × Option Timestamp) :=
  (db.facts.lookup (observedKey sightedDevice.id .deviceType)).map fun fact =>
    (fact.value, fact.observedAt)

/-- Both orders of the two observations, each in one evaluation, since its runs
go on from the one before. -/
theorem sightings_ended :
    sighted.matching context.scope older = {sightedDevice.id} ∧
    ((reconcileObservation sightingLibrary context second older).call
      sighted).1 = .ok (.updated (seeing second older sightedDevice)) ∧
    ((reconcileObservation sightingLibrary context laterSight newer).call
      sightedOlder).1 =
        .ok (.updated (seeing laterSight newer (seeing second older sightedDevice))) ∧
    ((reconcileObservation sightingLibrary context second newer).call
      sighted).1 = .ok (.updated (seeing second newer sightedDevice)) ∧
    ((reconcileObservation sightingLibrary context laterSight older).call
      sightedNewer).1 =
        .ok (.updated (seeing laterSight older (seeing second newer sightedDevice))) ∧
    typeEvidence sightedInOrder ≠ typeEvidence sightedLate := by
  have inOrder :
      sighted.matching context.scope older = {sightedDevice.id} ∧
      ((reconcileObservation sightingLibrary context second older).call
        sighted).1 = .ok (.updated (seeing second older sightedDevice)) ∧
      ((reconcileObservation sightingLibrary context laterSight newer).call
        sightedOlder).1 = .ok (.updated
          (seeing laterSight newer (seeing second older sightedDevice))) ∧
      typeEvidence sightedInOrder =
        some (.string "unknown", some 2000000) := by
    decide +kernel
  have late :
      ((reconcileObservation sightingLibrary context second newer).call
        sighted).1 = .ok (.updated (seeing second newer sightedDevice)) ∧
      ((reconcileObservation sightingLibrary context laterSight older).call
        sightedNewer).1 = .ok (.updated
          (seeing laterSight older (seeing second newer sightedDevice))) ∧
      typeEvidence sightedLate = some (.string "unknown", some 1000000) := by
    decide +kernel
  refine ⟨inOrder.1, inOrder.2.1, inOrder.2.2.1, late.1, late.2.1, ?_⟩
  rw [inOrder.2.2.2, late.2.2]
  decide

private theorem submits_olderFirst :
    Submits sightingLibrary context.scope older sighted sightedOlder :=
  submits_of_outcome sightings_ended.2.1

private theorem submits_newerSecond :
    Submits sightingLibrary context.scope newer sightedOlder
      sightedInOrder :=
  submits_of_outcome sightings_ended.2.2.1

private theorem submits_newerFirst :
    Submits sightingLibrary context.scope newer sighted sightedNewer :=
  submits_of_outcome sightings_ended.2.2.2.1

private theorem submits_olderSecond :
    Submits sightingLibrary context.scope older sightedNewer sightedLate :=
  submits_of_outcome sightings_ended.2.2.2.2.1

private theorem reachable_sighted :
    (inventoryClient sightingLibrary).Reachable InventoryDb.IsEmpty sighted := by
  have begun : (inventoryClient sightingLibrary).Reachable
      InventoryDb.IsEmpty start := .initial isEmpty_start
  have ended : ((inventoryClient sightingLibrary).program
      (InventoryCall.reconcileObservation context first strong)).call start =
        (((reconcileObservation sightingLibrary context first strong).call
          start).1, sighted) := by
    rw [sighted, sight]
    exact Prod.mk.eta.symm
  exact begun.of_call ended

private theorem sameStrong_sightings (identity : IdentifierKey) :
    identity ∈ strongIdentities older.identifiers ↔
      identity ∈ strongIdentities newer.identifiers := Iff.rfl

private theorem older_observedAt : older.observedAt = some 1000000 := rfl

private theorem newer_observedAt : newer.observedAt = some 2000000 := rfl

private theorem matching_sighted :
    sighted.matching context.scope older = {sightedDevice.id} := sightings_ended.1

end Sample

/-- The device that was observed last by the older observation has that
observation's evidence. -/
theorem not_observations_converge :
    ¬∀ (library : InventoryLibrary) (scope : Scope) (deviceId : Uuid)
      (older newer : DeviceObservation) (earlier later : Timestamp)
      (db middle inOrder ahead late : InventoryDb),
      (inventoryClient library).Reachable InventoryDb.IsEmpty db →
      db.matching scope older = {deviceId} →
      (∀ identity, identity ∈ strongIdentities older.identifiers ↔
        identity ∈ strongIdentities newer.identifiers) →
      older.observedAt = some earlier → newer.observedAt = some later →
      earlier < later → Submits library scope older db middle →
      Submits library scope newer middle inOrder →
      Submits library scope newer db ahead →
      Submits library scope older ahead late →
      Converged inOrder late deviceId ∧ KeepsNewer ahead late deviceId := by
  intro converge
  have converged := (converge _ _ _ _ _ _ _ _ _ _ _ _
    Sample.reachable_sighted Sample.matching_sighted
    Sample.sameStrong_sightings Sample.older_observedAt
    Sample.newer_observedAt (by decide) Sample.submits_olderFirst
    Sample.submits_newerSecond Sample.submits_newerFirst
    Sample.submits_olderSecond).1
  have same := converged.facts (observedKey Sample.sightedDevice.id .deviceType) rfl
    rfl
  exact Sample.sightings_ended.2.2.2.2.2 same

theorem observations_never_converge_sighted :
    ¬Converged Sample.sightedInOrder Sample.sightedLate Sample.sightedDevice.id ∧
      ¬KeepsNewer Sample.sightedNewer Sample.sightedLate Sample.sightedDevice.id ∧
      (Sample.sightedInOrder.devices.lookup Sample.sightedDevice.id).map
          DeviceView.lastSeenAt =
        (Sample.sightedLate.devices.lookup Sample.sightedDevice.id).map
          DeviceView.lastSeenAt :=
  observations_never_converge Sample.reachable_sighted Sample.matching_sighted
    Sample.sameStrong_sightings Sample.older_observedAt
    Sample.newer_observedAt (by decide) Sample.submits_olderFirst
    Sample.submits_newerSecond Sample.submits_newerFirst
    Sample.submits_olderSecond

end NetworkManager.InventoryStore
