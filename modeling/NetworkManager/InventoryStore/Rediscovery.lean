import NetworkManager.InventoryStore.Observations

/-!
# Creating and updating from one observation

A device may be created from an observation, or created from less and updated
by it.  Both ways write the same identifiers and the same fields, but for a name
and a serial number that only the creation takes from the identifiers.
-/

namespace NetworkManager.InventoryStore

open NetworkManager.Foundation
open NetworkManager.Domain.Inventory
open NetworkManager.Security
open NetworkManager.Transaction

/-- The value of a checked identifier is not blank. -/
theorem NewIdentifier.notBlank_of_validate {identifier : NewIdentifier}
    (valid : identifier.validate = .ok ()) :
    (trim identifier.value).isEmpty = false := by
  rcases NewIdentifier.exists_identity valid with
    ⟨normalizedValue, _, isNormalized, _⟩
  by_cases blank : (trim identifier.value).isEmpty = true
  · rw [normalized, IdentifierKind.normalize] at isNormalized
    simp [blank, Except.mapError] at isNormalized
  · simpa using blank

private theorem cleanOptional_of_notBlank {value : String}
    (notBlank : isBlank value = false) :
    cleanOptional (some value) = some (trim value) := by
  have notEmpty : ¬(trim value).isEmpty = true := by
    rw [← isBlank, notBlank]
    exact Bool.false_ne_true
  rw [cleanOptional, Option.bind_some, if_neg notEmpty]

theorem cleanOptional_none : cleanOptional none = none := rfl

/-- What is taken from checked identifiers is clean. -/
theorem cleanOptional_firstIdentifierValue {identifiers : List NewIdentifier}
    (valid : ∀ identifier ∈ identifiers, identifier.validate = .ok ())
    (kind : IdentifierKind) :
    cleanOptional (firstIdentifierValue identifiers kind) =
      firstIdentifierValue identifiers kind := by
  cases first : firstIdentifierValue identifiers kind with
  | none => rfl
  | some value =>
      rcases Option.map_eq_some_iff.mp first with ⟨identifier, found, rfl⟩
      have notBlank := NewIdentifier.notBlank_of_validate
        (valid identifier (List.mem_of_find?_eq_some found))
      have trimmed : isBlank (trim identifier.value) = false := by
        rw [isBlank, trim_trim, notBlank]
      rw [cleanOptional_of_notBlank trimmed, trim_trim]

/-- What a row holds of the identifier that it was written for. -/
def IdentifierRow.content (row : IdentifierRow) :
    String × String × Option Rat :=
  (row.value, row.source, row.confidence)

/-- What a table holds of an identity of a device. -/
def contentOf
    (identifiers : Table (Uuid × IdentifierKey) IdentifierRow IdentifierRow.key)
    (deviceId : Uuid) (identity : IdentifierKey) :
    Option (String × String × Option Rat) :=
  (identifiers.lookup (deviceId, identity)).map IdentifierRow.content

private theorem contentOf_upsert {deviceId : Uuid} {written : IdentifierKey}
    {row : IdentifierRow} (isKey : row.key = (deviceId, written))
    (identifiers : Table (Uuid × IdentifierKey) IdentifierRow IdentifierRow.key)
    (identity : IdentifierKey) :
    contentOf (identifiers.upsert setIdentifier row) deviceId identity =
      if written = identity then some row.content
      else contentOf identifiers deviceId identity := by
  rw [contentOf, Table.lookup_upsert key_setIdentifier, isKey]
  by_cases same : written = identity
  · subst same
    rw [if_pos rfl, if_pos rfl]
    cases identifiers.lookup (deviceId, written) with
    | none => rfl
    | some stored => rfl
  · have otherKey : (deviceId, written) ≠ (deviceId, identity) :=
      fun isKey => same (congrArg Prod.snd isKey)
    rw [if_neg otherKey, if_neg same]
    rfl

/-- Two devices that one list of identifiers is written for agree about them,
and about everything they have agreed about before. -/
theorem contentOf_identifierRows {leftScope rightScope : Scope}
    {leftId rightId : Uuid}
    {leftTime rightTime : Option Timestamp} {identifiers : List NewIdentifier}
    (valid : ∀ identifier ∈ identifiers, identifier.validate = .ok ())
    {left right :
      Table (Uuid × IdentifierKey) IdentifierRow IdentifierRow.key}
    (agree : ∀ identity, identity ∉ identitiesOf identifiers →
      contentOf left leftId identity = contentOf right rightId identity)
    (identity : IdentifierKey) :
    contentOf (left.upsertAll setIdentifier
        (identifierRows leftScope leftId leftTime identifiers)) leftId
          identity =
      contentOf (right.upsertAll setIdentifier
        (identifierRows rightScope rightId rightTime identifiers)) rightId
          identity := by
  induction identifiers generalizing left right with
  | nil => exact agree identity (List.not_mem_nil)
  | cons first rest inductionHypothesis =>
      rcases NewIdentifier.exists_identity
        (valid first (List.mem_cons_self ..)) with
        ⟨normalizedValue, sourceNamespace, isNormalized, hasNamespace⟩
      have isIdentity := NewIdentifier.identity_of_parts isNormalized
        hasNamespace
      have isRow (scope : Scope) (deviceId : Uuid)
          (time : Option Timestamp) :
          first.row scope deviceId time = .ok (identifierRow scope deviceId
            first sourceNamespace normalizedValue time) :=
        NewIdentifier.row_eq_ok_iff.mpr ⟨_, isIdentity, rfl⟩
      rw [identifierRows_cons rest (isRow leftScope leftId leftTime),
        identifierRows_cons rest (isRow rightScope rightId rightTime),
        Table.upsertAll_cons, Table.upsertAll_cons]
      apply inductionHypothesis
        (fun other member => valid other (List.mem_cons_of_mem first member))
      intro other notLater
      have leftKey : (identifierRow leftScope leftId first sourceNamespace
          normalizedValue leftTime).key =
            (leftId, ⟨first.kind, sourceNamespace, normalizedValue⟩) := rfl
      have rightKey : (identifierRow rightScope rightId first sourceNamespace
          normalizedValue rightTime).key =
            (rightId, ⟨first.kind, sourceNamespace, normalizedValue⟩) := rfl
      rw [contentOf_upsert leftKey, contentOf_upsert rightKey]
      by_cases same : (⟨first.kind, sourceNamespace, normalizedValue⟩ :
          IdentifierKey) = other
      · rw [if_pos same, if_pos same]
        rfl
      · rw [if_neg same, if_neg same]
        apply agree
        rw [identitiesOf_cons isIdentity, List.mem_cons]
        rintro (isOther | later)
        · exact same isOther.symm
        · exact notLater later

/-- Nothing is known about a device that is not there. -/
theorem contentOf_of_absent {db : InventoryDb} (sound : IdentifiersSound db)
    {deviceId : Uuid} (absent : db.devices.lookup deviceId = none)
    (identity : IdentifierKey) :
    contentOf db.identifiers deviceId identity = none := by
  rw [contentOf, Option.map_eq_none_iff, Table.lookup_eq_none_iff]
  intro row member same
  have ofDevice : row.deviceId = deviceId := congrArg Prod.fst same
  have present := sound.device row member
  rw [InventoryDb.deviceIn, ofDevice, absent] at present
  cases present

/-! ## Both ways -/

/-- One identifier of an observation, and nothing else of it but the type. -/
def DeviceObservation.bare (observation : DeviceObservation)
    (identifier : NewIdentifier) (observedAt : Option Timestamp) :
    DeviceObservation where
  deviceType := observation.deviceType
  displayName := none
  hostname := none
  vendor := none
  model := none
  osName := none
  osVersion := none
  firmwareVersion := none
  capabilities := []
  identifiers := [identifier]
  observedAt

/-- The rows are the same but for the device and the time. -/
structure SameIdentifier (left right : IdentifierRow) : Prop where
  scope : left.scope = right.scope
  identity : left.identity = right.identity
  content : left.content = right.content
  strength : left.strength = right.strength

/-- Two devices have the same canonical fields and the same identifiers. -/
structure SameDescription (left right : InventoryDb)
    (leftDevice rightDevice : DeviceView) : Prop where
  canonical : SameCanonical leftDevice rightDevice
  identifiers : ∀ identity,
    Option.Rel SameIdentifier
      (left.identifiers.lookup (leftDevice.id, identity))
      (right.identifiers.lookup (rightDevice.id, identity))

section Sides

variable {left right : InventoryDb} {leftDevice rightDevice : DeviceView}
  {scope : Scope}

private theorem identifier_of_lookup {db : InventoryDb} {device : DeviceView}
    (sound : IdentifiersSound db)
    (found : db.deviceIn scope device.id = some device)
    {identity : IdentifierKey} {row : IdentifierRow}
    (isRow : db.identifiers.lookup (device.id, identity) = some row) :
    row.scope = scope ∧ row.identity = identity ∧
      row.strength = identity.kind.strength := by
  have isKey : row.key = (device.id, identity) := Table.key_of_lookup isRow
  have sameKey : (row.deviceId, row.identity) = (device.id, identity) := isKey
  rcases Prod.mk.inj sameKey with ⟨ofDevice, isIdentity⟩
  have member := Table.mem_of_lookup isRow
  refine ⟨sound.scope_eq (Option.isSome_of_eq_some found) member ofDevice,
    isIdentity, ?_⟩
  rw [sound.strength row member, isIdentity]

/-- Rows of the same content are the same, in states that are sound. -/
theorem sameIdentifiers_of_contentOf (leftSound : IdentifiersSound left)
    (rightSound : IdentifiersSound right)
    (leftFound : left.deviceIn scope leftDevice.id = some leftDevice)
    (rightFound : right.deviceIn scope rightDevice.id = some rightDevice)
    {identity : IdentifierKey}
    (sameContent : contentOf left.identifiers leftDevice.id identity =
      contentOf right.identifiers rightDevice.id identity) :
    Option.Rel SameIdentifier
      (left.identifiers.lookup (leftDevice.id, identity))
      (right.identifiers.lookup (rightDevice.id, identity)) := by
  rw [contentOf, contentOf] at sameContent
  cases leftRow : left.identifiers.lookup (leftDevice.id, identity) with
  | none =>
      rw [leftRow, Option.map_none, eq_comm, Option.map_eq_none_iff]
        at sameContent
      rw [sameContent]
      exact .none
  | some row =>
      rw [leftRow, Option.map_some, eq_comm, Option.map_eq_some_iff]
        at sameContent
      rcases sameContent with ⟨other, rightRow, content⟩
      rw [rightRow]
      have ofLeft := identifier_of_lookup leftSound leftFound leftRow
      have ofRight := identifier_of_lookup rightSound rightFound rightRow
      exact .some ⟨ofLeft.1.trans ofRight.1.symm,
        ofLeft.2.1.trans ofRight.2.1.symm, content.symm,
        ofLeft.2.2.trans ofRight.2.2.symm⟩

end Sides

section Fields

variable {context bareContext : MutationContext}
  {generated bareGenerated : Generated} {observation : DeviceObservation}
  {identifier : NewIdentifier} {bareTime : Option Timestamp}
  {observedAt bareAt againAt now : Timestamp}

/-- A strong identifier is no name. -/
theorem firstIdentifierValue_hostname_of_strong
    (strong : identifier.kind.strength = .strong) :
    firstIdentifierValue [identifier] .hostname = none := by
  have notName : identifier.kind ≠ .hostname := by
    intro isName
    rw [isName] at strong
    cases strong
  simp [firstIdentifierValue, notName]

/-- A field that was empty before is as the observation has it. -/
theorem eq_updated (value : Option String) :
    value = if value.isSome && !false then value else cleanOptional none := by
  cases value with
  | none => rfl
  | some text => rfl

/-- The fields of a device that is created from an observation are those of one
that is created from less and updated, if the name and the serial number are. -/
theorem sameCanonical_observed_iff (valid : observation.validate = .ok ())
    (given : identifier ∈ observation.identifiers)
    (strong : identifier.kind.strength = .strong) :
    SameCanonical (observedRow context generated observation observedAt)
        (setObserved (fun _ => false)
          (fun field => cleanOptional (observation.text field))
          observation.deviceType observation.capabilities againAt now
          (observedRow bareContext bareGenerated
            (observation.bare identifier bareTime) bareAt)) ↔
      (observation.hostname = none →
        firstIdentifierValue observation.identifiers .hostname = none) ∧
      firstIdentifierValue observation.identifiers .serial =
        firstIdentifierValue [identifier] .serial := by
  have identifiersValid := (DeviceObservation.validate_eq_ok valid).2
  have clean := cleanOptional_firstIdentifierValue identifiersValid
  have bareValid : ∀ other ∈ [identifier], other.validate = .ok () := by
    intro other isOther
    rw [List.mem_singleton.mp isOther]
    exact identifiersValid identifier given
  have bareClean := cleanOptional_firstIdentifierValue bareValid
  have bareName := firstIdentifierValue_hostname_of_strong strong
  constructor
  · intro same
    constructor
    · intro noName
      have names := same.texts .hostname
      simpa [observedRow, setObserved, DeviceView.text, DeviceView.withTexts,
        DeviceObservation.text, DeviceObservation.bare, noName, bareName,
        clean, cleanOptional_none] using names
    · have serials := same.serialNumber
      simpa [observedRow, setObserved, DeviceView.withTexts,
        DeviceObservation.bare, clean, bareClean] using serials
  · rintro ⟨names, serials⟩
    refine ⟨rfl, fun field => ?_, ?_, ?_⟩
    · cases field with
      | hostname =>
          cases isName : observation.hostname with
          | none =>
              simp [observedRow, setObserved, DeviceView.text,
                DeviceView.withTexts, DeviceObservation.text,
                DeviceObservation.bare, isName, bareName, names isName,
                cleanOptional_none]
          | some name =>
              have named := cleanOptional_of_notBlank
                (DeviceObservation.texts_of_validate valid .hostname name
                  isName).1
              simp [observedRow, setObserved, DeviceView.text,
                DeviceView.withTexts, DeviceObservation.text, isName, named]
      | description => rfl
      | operationalOwner => rfl
      | _ => exact eq_updated _
    · have serialOf : cleanOptional
          (firstIdentifierValue observation.identifiers .serial) =
            cleanOptional (firstIdentifierValue [identifier] .serial) := by
        rw [serials]
      exact serialOf
    · by_cases noCapabilities : observation.capabilities = []
      · simp [observedRow, setObserved, DeviceObservation.bare,
          noCapabilities]
      · simp [observedRow, setObserved, noCapabilities]

end Fields

section Ways

variable {library : InventoryLibrary} {context bareContext : MutationContext}
  {generated bareGenerated : Generated} {observation : DeviceObservation}
  {identifier : NewIdentifier} {bareTime : Option Timestamp}
  {db reached middle : InventoryDb}

private theorem Mutation.identifiers {call : InventoryCall} {change : Change}
    (mutation : Mutation db call change reached) :
    reached.identifiers =
      db.identifiers.upsertAll setIdentifier change.identifiers := by
  rcases mutation.recorded with ⟨auditRow, outboxRow, _, _, _, rfl⟩
  rfl

/-- An observation that matches no device has created one. -/
theorem created_of_unmatched {result : ReconciliationResult}
    (sound : IdentifiersSound db)
    (unmatched : db.matching context.scope observation = ∅)
    (ended : (reconcileObservation library context generated observation).call
      db = (.ok result, reached)) :
    result = .created (discoveredChange context generated observation).device ∧
      db.devices.lookup generated.deviceId = none ∧
      Mutation db (.reconcileObservation context generated observation)
        (discoveredChange context generated observation) reached := by
  rcases valid_of_reconcileObservation ended with ⟨contextValid, valid⟩
  cases reconciles sound contextValid valid ended with
  | updated mutation only =>
      rw [unmatched] at only
      exact absurd only.symm (Finset.singleton_ne_empty _)
  | created mutation noMatch absent => exact ⟨rfl, absent, mutation⟩

/-- A device that has been created from an observation is there, and nothing is
declared about it. -/
theorem undeclared_of_created (govern : DeclaredGovern db)
    (absent : db.devices.lookup generated.deviceId = none)
    (mutation : Mutation db
      (.reconcileObservation context generated observation)
      (discoveredChange context generated observation) reached) :
    reached.deviceIn context.scope generated.deviceId =
        some (discoveredChange context generated observation).device ∧
      reached.hasDeclaredFact generated.deviceId = fun _ => false := by
  rcases mutation.recorded with ⟨auditRow, outboxRow, _, _, _, rfl⟩
  refine ⟨deviceIn_apply (discoveredChange context generated observation) db,
    ?_⟩
  funext field
  have sameFacts : InventoryDb.hasDeclaredFact
      (((discoveredChange context generated observation).apply db).recorded
        auditRow outboxRow) generated.deviceId field =
        db.hasDeclaredFact generated.deviceId field :=
    congrFun (congrFun hasDeclaredFact_observedFacts _) field
  rw [sameFacts, Bool.eq_false_iff]
  intro declared
  rcases hasDeclaredFact_eq_true_iff.mp declared with ⟨source, found⟩
  rcases Option.isSome_iff_exists.mp found with ⟨fact, isFact⟩
  exact govern.no_facts absent isFact

/-- An observation that shares a strong identifier with the one that a device
has been created from updates that device. -/
theorem updated_of_shared {result : ReconciliationResult}
    (govern : DeclaredGovern db)
    (absent : db.devices.lookup bareGenerated.deviceId = none)
    (given : identifier ∈ observation.identifiers)
    (strong : identifier.kind.strength = .strong)
    (sameScope : bareContext.scope = context.scope)
    (mutation : Mutation db (.reconcileObservation bareContext bareGenerated
        (observation.bare identifier bareTime))
      (discoveredChange bareContext bareGenerated
        (observation.bare identifier bareTime)) middle)
    (bareValid : (observation.bare identifier bareTime).validate = .ok ())
    (ended : (reconcileObservation library context generated observation).call
      middle = (.ok result, reached)) :
    let change := observedChange context generated observation
      (fun _ => false) (discoveredChange bareContext bareGenerated
        (observation.bare identifier bareTime)).device
    result = .updated change.device ∧
      Mutation middle (.reconcileObservation context generated observation)
        change reached := by
  rcases valid_of_reconcileObservation ended with ⟨contextValid, valid⟩
  rcases undeclared_of_created govern absent mutation with
    ⟨bareFound, undeclared⟩
  have settled := mutation.settled bareValid
    (discoveredChange_identifiers ..)
  have matched : bareGenerated.deviceId ∈
      middle.matching context.scope observation := by
    rcases NewIdentifier.exists_identity
      ((DeviceObservation.validate_eq_ok valid).2 identifier given) with
      ⟨normalizedValue, sourceNamespace, isNormalized, hasNamespace⟩
    have isIdentity := NewIdentifier.identity_of_parts isNormalized
      hasNamespace
    have listed : _ ∈ strongIdentities
        (observation.bare identifier bareTime).identifiers :=
      mem_strongIdentities.mpr
        ⟨identifier, List.mem_singleton_self _, strong, isIdentity⟩
    have owns := (settled.owned _ listed bareGenerated.deviceId).mpr rfl
    rw [sameScope] at owns
    exact mem_matching.mpr ⟨identifier, given, strong, _, isIdentity, owns⟩
  cases reconciles mutation.sound contextValid valid ended with
  | @updated current _ again only found inService =>
      rw [only, Finset.mem_singleton] at matched
      rw [← matched, ← sameScope, bareFound, Option.some.injEq] at found
      subst found
      have nothing : middle.hasDeclaredFact (discoveredChange bareContext
          bareGenerated (observation.bare identifier bareTime)).device.id =
          fun _ => false := undeclared
      rw [nothing] at again ⊢
      exact ⟨rfl, again⟩
  | created again noMatch absentThen =>
      rw [noMatch] at matched
      exact absurd matched (Finset.notMem_empty _)

/-- One list of identifiers, and the same list after one of it, leave the same
identifiers of new devices. -/
theorem sameIdentifiers_of_written
    {left right : InventoryDb} {leftDevice rightDevice : DeviceView}
    {scope leftScope bareScope rightScope : Scope}
    {identifiers : List NewIdentifier}
    {leftTime rightTime : Option Timestamp} (sound : IdentifiersSound db)
    (valid : ∀ identifier ∈ identifiers, identifier.validate = .ok ())
    (given : identifier ∈ identifiers)
    (leftAbsent : db.devices.lookup leftDevice.id = none)
    (rightAbsent : db.devices.lookup rightDevice.id = none)
    (leftSound : IdentifiersSound left) (rightSound : IdentifiersSound right)
    (leftFound : left.deviceIn scope leftDevice.id = some leftDevice)
    (rightFound : right.deviceIn scope rightDevice.id = some rightDevice)
    (leftWritten : left.identifiers = db.identifiers.upsertAll setIdentifier
      (identifierRows leftScope leftDevice.id leftTime identifiers))
    (rightWritten : right.identifiers = (db.identifiers.upsertAll
        setIdentifier (identifierRows bareScope rightDevice.id bareTime
          [identifier])).upsertAll setIdentifier
      (identifierRows rightScope rightDevice.id rightTime identifiers))
    (identity : IdentifierKey) :
    Option.Rel SameIdentifier
      (left.identifiers.lookup (leftDevice.id, identity))
      (right.identifiers.lookup (rightDevice.id, identity)) := by
  apply sameIdentifiers_of_contentOf leftSound rightSound leftFound rightFound
  rw [leftWritten, rightWritten]
  apply contentOf_identifierRows valid
  intro other notListed
  rw [contentOf_of_absent sound leftAbsent]
  -- The one identifier is listed, so it has not written this identity.
  have notWritten : ∀ row ∈ identifierRows bareScope rightDevice.id bareTime
      [identifier], row.key ≠ (rightDevice.id, other) := by
    intro row member same
    rcases mem_identifierRows.mp member with
      ⟨written, listed, isOther, isIdentity, rfl⟩
    rw [List.mem_singleton.mp listed] at isIdentity
    have parts := NewIdentifier.parts_of_identity isIdentity
    apply notListed
    have isSame : isOther = other := by
      rw [← (Prod.mk.inj same).2, List.mem_singleton.mp listed, identifierRow,
        ← parts.1]
    rw [← isSame]
    exact List.mem_filterMap.mpr ⟨identifier, given, by rw [isIdentity]; rfl⟩
  rw [contentOf, Table.lookup_upsertAll_of_notMem key_setIdentifier notWritten]
  exact (contentOf_of_absent sound rightAbsent other).symm

/-- A device that is created from an observation is described as one that is
created from a strong identifier of it and then updated, exactly if its name is
not left to the identifiers and they give no other serial number. -/
theorem creating_agrees_with_updating_iff {againContext : MutationContext}
    {againGenerated : Generated} {direct indirect : InventoryDb}
    {created bareCreated again : ReconciliationResult}
    (reachable : (inventoryClient library).Reachable InventoryDb.IsEmpty db)
    (given : identifier ∈ observation.identifiers)
    (strong : identifier.kind.strength = .strong)
    (bareScope : bareContext.scope = context.scope)
    (againScope : againContext.scope = context.scope)
    (unknown : db.matching context.scope observation = ∅)
    (directly : (reconcileObservation library context generated
      observation).call db = (.ok created, direct))
    (barely : (reconcileObservation library bareContext bareGenerated
      (observation.bare identifier bareTime)).call db =
        (.ok bareCreated, middle))
    (thereafter : (reconcileObservation library againContext againGenerated
      observation).call middle = (.ok again, indirect)) :
    SameDescription direct indirect created.device again.device ↔
      (observation.hostname = none →
        firstIdentifierValue observation.identifiers .hostname = none) ∧
      firstIdentifierValue observation.identifiers .serial =
        firstIdentifierValue [identifier] .serial := by
  have sound := identifiersSound_of_reachable reachable
  have govern := declaredGovern_of_reachable reachable
  have valid := (valid_of_reconcileObservation directly).2
  have bareValid := (valid_of_reconcileObservation barely).2
  have identifiersValid := (DeviceObservation.validate_eq_ok valid).2
  have unknownBare : db.matching bareContext.scope
      (observation.bare identifier bareTime) = ∅ := by
    apply Finset.eq_empty_of_forall_notMem
    intro owner matched
    rcases mem_matching.mp matched with ⟨other, listed, isStrong, owns⟩
    rw [List.mem_singleton.mp listed, bareScope] at owns
    have known : owner ∈ db.matching context.scope observation :=
      mem_matching.mpr ⟨identifier, given, strong, owns⟩
    rw [unknown] at known
    exact Finset.notMem_empty owner known
  rcases created_of_unmatched sound unknown directly with
    ⟨rfl, absent, mutation⟩
  rcases created_of_unmatched sound unknownBare barely with
    ⟨rfl, bareAbsent, bareMutation⟩
  rcases updated_of_shared govern bareAbsent given strong
    (bareScope.trans againScope.symm) bareMutation bareValid thereafter with
    ⟨rfl, againMutation⟩
  have sameFields : SameCanonical
      (discoveredChange context generated observation).device
      (observedChange againContext againGenerated observation (fun _ => false)
        (discoveredChange bareContext bareGenerated
          (observation.bare identifier bareTime)).device).device ↔
      (observation.hostname = none →
        firstIdentifierValue observation.identifiers .hostname = none) ∧
      firstIdentifierValue observation.identifiers .serial =
        firstIdentifierValue [identifier] .serial :=
    sameCanonical_observed_iff valid given strong
  constructor
  · intro same
    exact sameFields.mp same.canonical
  · intro noFallback
    refine ⟨sameFields.mpr noFallback, fun identity => ?_⟩
    have againFound : indirect.deviceIn againContext.scope _ = _ :=
      againMutation.found
    rw [againScope] at againFound
    have directly := mutation.identifiers
    rw [discoveredChange_identifiers] at directly
    have indirectly := againMutation.identifiers
    rw [bareMutation.identifiers, discoveredChange_identifiers,
      observedChange_identifiers] at indirectly
    exact sameIdentifiers_of_written sound identifiersValid given absent
      bareAbsent mutation.sound againMutation.sound mutation.found againFound
      directly indirectly identity

end Ways

namespace Sample

/-- The strong identifier that `strong` gives, besides a name. -/
def serialOnly : NewIdentifier := ⟨.serial, "FOC1", "snmp", none⟩

def plain : DeviceObservation := observationOf [serialOnly]

def bare : DeviceObservation := plain.bare serialOnly (some 0)

def bareDigest : FixedBytes 32 :=
  ⟨[116, 38, 193, 102, 223, 50, 150, 77, 95, 179, 187, 195, 184, 12, 84, 189,
    96, 46, 117, 201, 55, 76, 150, 119, 73, 229, 165, 146, 92, 180, 241,
    173], by decide⟩

def rediscoveryDigest : FixedBytes 32 :=
  ⟨[16, 43, 208, 140, 107, 232, 229, 102, 162, 219, 140, 203, 191, 32, 217, 119,
    223, 162, 121, 125, 57, 24, 213, 187, 194, 131, 69, 181, 242, 156, 66,
    160], by decide⟩

def plainDigest : FixedBytes 32 :=
  ⟨[199, 154, 104, 203, 39, 121, 12, 109, 153, 118, 165, 91, 218, 41, 144, 64,
    170, 243, 82, 167, 7, 69, 79, 182, 232, 96, 121, 106, 208, 18, 13,
    35], by decide⟩

/-- An update by `strong` is recorded as one by `plain` is. -/
def rediscoveries : List Link :=
  [⟨[], draftOf first strong, firstStrong⟩,
    ⟨[], draftOf first plain, plainDigest⟩,
    ⟨[], draftOf first bare, bareDigest⟩,
    ⟨bareDigest.bytes, seeingDraft second plain (discovered first bare),
      rediscoveryDigest⟩]

def rediscoveryLibrary : InventoryLibrary := libraryOf rediscoveries

/-- The state after an observation. -/
def rediscover (generated : Generated) (observation : DeviceObservation)
    (before : InventoryDb) : InventoryDb :=
  ((reconcileObservation rediscoveryLibrary context generated
    observation).call before).2

def barelyKnown : InventoryDb := rediscover first bare start

def rediscovered (observation : DeviceObservation) : DeviceView :=
  seeing second observation (discovered first bare)

private theorem rediscoveries_ended :
    start.matching context.scope strong = ∅ ∧
    start.matching context.scope plain = ∅ ∧
    ((reconcileObservation rediscoveryLibrary context first strong).call
      start).1 = .ok (.created (discovered first strong)) ∧
    ((reconcileObservation rediscoveryLibrary context first plain).call
      start).1 = .ok (.created (discovered first plain)) ∧
    ((reconcileObservation rediscoveryLibrary context first bare).call
      start).1 = .ok (.created (discovered first bare)) ∧
    ((reconcileObservation rediscoveryLibrary context second strong).call
      barelyKnown).1 = .ok (.updated (rediscovered strong)) ∧
    ((reconcileObservation rediscoveryLibrary context second plain).call
      barelyKnown).1 = .ok (.updated (rediscovered plain)) ∧
    (discovered first strong).hostname ≠ (rediscovered strong).hostname := by
  have strongFirst :
      start.matching context.scope strong = ∅ ∧
      ((reconcileObservation rediscoveryLibrary context first strong).call
        start).1 = .ok (.created (discovered first strong)) := by
    decide +kernel
  have plainFirst :
      start.matching context.scope plain = ∅ ∧
      ((reconcileObservation rediscoveryLibrary context first plain).call
        start).1 = .ok (.created (discovered first plain)) := by
    decide +kernel
  have bareFirst :
      ((reconcileObservation rediscoveryLibrary context first bare).call
        start).1 = .ok (.created (discovered first bare)) ∧
      ((reconcileObservation rediscoveryLibrary context second strong).call
        barelyKnown).1 = .ok (.updated (rediscovered strong)) ∧
      ((reconcileObservation rediscoveryLibrary context second plain).call
        barelyKnown).1 = .ok (.updated (rediscovered plain)) := by
    decide +kernel
  have different : (discovered first strong).hostname ≠
      (rediscovered strong).hostname := by
    decide
  exact ⟨strongFirst.1, plainFirst.1, strongFirst.2, plainFirst.2,
    bareFirst.1, bareFirst.2.1, bareFirst.2.2, different⟩

private theorem rediscover_ended {generated : Generated}
    {observation : DeviceObservation} {before : InventoryDb}
    {result : ReconciliationResult}
    (outcome : ((reconcileObservation rediscoveryLibrary context generated
      observation).call before).1 = .ok result) :
    (reconcileObservation rediscoveryLibrary context generated
      observation).call before =
        (.ok result, rediscover generated observation before) :=
  Program.call_of_outcome outcome

private theorem reachable_start :
    (inventoryClient rediscoveryLibrary).Reachable InventoryDb.IsEmpty start :=
  .initial isEmpty_start

end Sample

/-- The name of a device that has none but in its identifiers is lost. -/
theorem not_creating_agrees_with_updating :
    ¬∀ (library : InventoryLibrary)
      (context bareContext againContext : MutationContext)
      (generated bareGenerated againGenerated : Generated)
      (observation : DeviceObservation) (identifier : NewIdentifier)
      (bareTime : Option Timestamp)
      (created bareCreated again : ReconciliationResult)
      (db direct middle indirect : InventoryDb),
      (inventoryClient library).Reachable InventoryDb.IsEmpty db →
      identifier ∈ observation.identifiers →
      identifier.kind.strength = .strong →
      bareContext.scope = context.scope →
      againContext.scope = context.scope →
      db.matching context.scope observation = ∅ →
      (reconcileObservation library context generated observation).call db =
        (.ok created, direct) →
      (reconcileObservation library bareContext bareGenerated
        (observation.bare identifier bareTime)).call db =
          (.ok bareCreated, middle) →
      (reconcileObservation library againContext againGenerated
        observation).call middle = (.ok again, indirect) →
      SameDescription direct indirect created.device again.device := by
  intro agree
  rcases Sample.rediscoveries_ended with
    ⟨unknown, _, directly, _, barely, thereafter, _, different⟩
  have same := agree _ _ _ _ _ _ _ Sample.strong Sample.serialOnly (some 0)
    _ _ _ _ _ _ _ Sample.reachable_start
    (List.mem_cons_of_mem _ (List.mem_singleton_self _)) rfl rfl rfl unknown
    (Sample.rediscover_ended directly) (Sample.rediscover_ended barely)
    (Sample.rediscover_ended thereafter)
  exact different (same.canonical.texts .hostname)

/-- A device that no identifier names is the same both ways. -/
theorem creating_agrees_with_updating_plain :
    SameDescription (Sample.rediscover Sample.first Sample.plain Sample.start)
      (Sample.rediscover Sample.second Sample.plain Sample.barelyKnown)
      (Sample.discovered Sample.first Sample.plain)
      (Sample.rediscovered Sample.plain) := by
  rcases Sample.rediscoveries_ended with
    ⟨_, unknown, _, directly, barely, _, thereafter, _⟩
  exact (creating_agrees_with_updating_iff Sample.reachable_start
    (List.mem_singleton_self Sample.serialOnly) rfl rfl rfl unknown
    (Sample.rediscover_ended directly) (Sample.rediscover_ended barely)
    (Sample.rediscover_ended thereafter)).mpr ⟨fun _ => by decide, rfl⟩

end NetworkManager.InventoryStore
