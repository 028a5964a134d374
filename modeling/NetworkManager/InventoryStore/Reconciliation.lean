import NetworkManager.InventoryStore.Runs
import NetworkManager.Transaction.Runs

/-!
# Reconciliation by strong identity

An observation is decided by the devices of the site that own one of its strong
identifiers: none, and it is a new device; one, and it is that device; several,
and it is refused.  What is observed again is therefore the same device, as
long as it has a strong identifier.
-/

namespace NetworkManager.InventoryStore

open NetworkManager.Foundation
open NetworkManager.Domain.Inventory
open NetworkManager.Security
open NetworkManager.Transaction

/-- The device owns a strong identity of a scope. -/
def InventoryDb.Owns (db : InventoryDb) (scope : Scope)
    (identity : IdentifierKey) (deviceId : Uuid) : Prop :=
  ∃ row ∈ db.identifiers.rows, row.scope = scope ∧
    row.identity = identity ∧ row.strength = .strong ∧ row.deviceId = deviceId

/-- The devices that match an observation own one of its strong identifiers. -/
theorem mem_matching {db : InventoryDb} {scope : Scope}
    {observation : DeviceObservation} {deviceId : Uuid} :
    deviceId ∈ db.matching scope observation ↔
      ∃ identifier ∈ observation.identifiers,
        identifier.kind.strength = .strong ∧
        ∃ identity, identifier.identity = .ok identity ∧
          db.Owns scope identity deviceId := by
  rw [InventoryDb.matching, mem_owners]
  constructor
  · rintro ⟨row, member, inScope, strong, isIdentity, isDevice⟩
    rcases mem_strongIdentities.mp isIdentity with
      ⟨identifier, given, isStrong, hasIdentity⟩
    exact ⟨identifier, given, isStrong, row.identity, hasIdentity, row, member,
      inScope, rfl, strong, isDevice⟩
  · rintro ⟨identifier, given, isStrong, identity, hasIdentity, row, member,
      inScope, rfl, strong, isDevice⟩
    exact ⟨row, member, inScope, strong, mem_strongIdentities.mpr
      ⟨identifier, given, isStrong, hasIdentity⟩, isDevice⟩

private theorem IdentifiersSound.owns_unique {db : InventoryDb}
    (sound : IdentifiersSound db) {scope : Scope} {identity : IdentifierKey}
    {left right : Uuid} (leftOwns : db.Owns scope identity left)
    (rightOwns : db.Owns scope identity right) : left = right := by
  rcases leftOwns with ⟨leftRow, leftMember, rfl, rfl, strong, rfl⟩
  rcases rightOwns with
    ⟨rightRow, rightMember, inScope, sameIdentity, _, rfl⟩
  exact sound.strongUnique leftRow leftMember rightRow rightMember strong
    inScope.symm sameIdentity.symm

/-- The rows of a checked list have all its identities. -/
theorem mem_keys_identifierRows {scope : Scope} {deviceId : Uuid}
    {observedAt : Option Timestamp} {identifiers : List NewIdentifier}
    {identifier : NewIdentifier} {identity : IdentifierKey}
    (given : identifier ∈ identifiers) (valid : identifier.validate = .ok ())
    (isIdentity : identifier.identity = .ok identity) :
    (deviceId, identity) ∈ (identifierRows scope deviceId observedAt
      identifiers).map IdentifierRow.key := by
  rcases row_of_validate scope deviceId observedAt valid with
    ⟨row, isRow, hasIdentity⟩
  have sameIdentity : row.identity = identity :=
    Except.ok.inj (hasIdentity.symm.trans isIdentity)
  have member : row ∈ identifierRows scope deviceId observedAt identifiers :=
    List.mem_filterMap.mpr
      ⟨identifier, given, toOption_eq_some_iff.mpr isRow⟩
  refine List.mem_map.mpr ⟨row, member, ?_⟩
  rw [IdentifierRow.key, (describes_of_mem member).1.deviceId, sameIdentity]

section Settled

variable {db reached : InventoryDb} {context : MutationContext}
  {generated : Generated} {observation : DeviceObservation} {change : Change}

/-- The strong identifiers of an observation belong to one device, and no
other device has changed. -/
structure Settled (before after : InventoryDb) (scope : Scope)
    (observation : DeviceObservation) (deviceId : Uuid) : Prop where
  owned : ∀ identity ∈ strongIdentities observation.identifiers,
    ∀ owner, after.Owns scope identity owner ↔ owner = deviceId
  others : ∀ other, other ≠ deviceId → SameDevice before after other

/-- A reconciliation that writes the identifiers of its observation settles
it. -/
theorem Mutation.settled
    (mutation : Mutation db
      (.reconcileObservation context generated observation) change reached)
    (valid : observation.validate = .ok ()) {observedAt : Option Timestamp}
    (identifiers : change.identifiers = identifierRows context.scope
      change.device.id observedAt observation.identifiers) :
    Settled db reached context.scope observation change.device.id := by
  rcases mutation.recorded with ⟨auditRow, outboxRow, _, _, _, rfl⟩
  have concerns := mutation.makes.concerns
  have sound := mutation.sound
  constructor
  · intro identity isStrong
    rcases mem_strongIdentities.mp isStrong with
      ⟨identifier, given, kindStrong, isIdentity⟩
    have owns : InventoryDb.Owns ((change.apply db).recorded auditRow
        outboxRow) context.scope identity change.device.id := by
      have written : (change.device.id, identity) ∈
          change.identifiers.map IdentifierRow.key := by
        rw [identifiers]
        exact mem_keys_identifierRows given
          ((DeviceObservation.validate_eq_ok valid).2 identifier given)
          isIdentity
      have stored : ((change.apply db).identifiers.lookup
          (change.device.id, identity)).isSome :=
        (Table.isSome_lookup_upsertAll key_setIdentifier _ _ _).mpr
          (Or.inl written)
      rcases Option.isSome_iff_exists.mp stored with ⟨row, found⟩
      have keyFound : row.key = (change.device.id, identity) :=
        Table.key_of_lookup found
      have sameKey : (row.deviceId, row.identity) =
          (change.device.id, identity) := keyFound
      have ofDevice := (Prod.mk.inj sameKey).1
      have sameIdentity := (Prod.mk.inj sameKey).2
      have member := Table.mem_of_lookup found
      have present : (((change.apply db).recorded auditRow
          outboxRow).deviceIn context.scope change.device.id).isSome := by
        have inScope : change.device.scope = context.scope := concerns.device
        rw [← inScope]
        exact Option.isSome_of_eq_some (deviceIn_apply change db)
      refine ⟨row, member, sound.scope_eq present member ofDevice,
        sameIdentity, ?_, ofDevice⟩
      rw [sound.strength row member, sameIdentity,
        (NewIdentifier.parts_of_identity isIdentity).1]
      exact kindStrong
    intro owner
    constructor
    · exact fun ownerOwns => sound.owns_unique ownerOwns owns
    · rintro rfl
      exact owns
  · intro other different
    have same : SameDevice db (change.apply db) other :=
      sameDevice_apply concerns different
    exact ⟨same.row, same.identifiers, same.facts⟩

end Settled

/-! ## The decision -/

/-- The outcome is a failure of the database, the audit trail or the outbox. -/
def InfrastructureFailure (outcome : Except InventoryError ReconciliationResult) :
    Prop :=
  ∃ failure, Infrastructure failure ∧ outcome = .error failure

def ReconciliationResult.device : ReconciliationResult → DeviceView
  | created device => device
  | updated device => device

section Decision

variable (library : InventoryLibrary) (context : MutationContext)
  (generated : Generated) (observation : DeviceObservation)
  (db : InventoryDb) (outcome : Except InventoryError ReconciliationResult)
  (reached : InventoryDb)

/-- The outcome is decided by the devices that own a strong identifier of the
observation. -/
structure DecidedByStrongIdentity : Prop where
  created_iff : ¬InfrastructureFailure outcome →
    ((∃ device, outcome = .ok (.created device)) ↔
      db.matching context.scope observation = ∅)
  conflict_iff : ∀ devices,
    outcome = .error (.reconciliationConflict devices) ↔
      1 < (db.matching context.scope observation).card ∧
        devices = (db.matching context.scope observation).sort (· ≤ ·)
  review_iff : ∀ deviceId,
    outcome = .error (.reactivationRequiresReview deviceId) ↔
      db.matching context.scope observation = {deviceId} ∧
        ∃ current, db.deviceIn context.scope deviceId = some current ∧
          outOfService current = true
  updated_iff : ¬InfrastructureFailure outcome → ∀ deviceId,
    (∃ device, device.id = deviceId ∧ outcome = .ok (.updated device)) ↔
      db.matching context.scope observation = {deviceId} ∧
        ∃ current, db.deviceIn context.scope deviceId = some current ∧
          outOfService current = false
  available : Available library context generated db →
    ¬InfrastructureFailure outcome
  notDuplicate : outcome ≠ .error .duplicateIdentifier
  unchanged : ∀ failure, outcome = .error failure → reached = db
  settled : ∀ result, outcome = .ok result →
    Settled db reached context.scope observation result.device.id

end Decision

section Reconciles

variable {library : InventoryLibrary} {context : MutationContext}
  {generated : Generated} {observation : DeviceObservation}
  {db reached : InventoryDb}

private theorem not_infrastructureFailure_ok (result : ReconciliationResult) :
    ¬InfrastructureFailure (.ok result) := by
  rintro ⟨_, _, impossible⟩
  cases impossible

private theorem not_infrastructureFailure_error {failure : InventoryError}
    (other : ¬Infrastructure failure) :
    ¬InfrastructureFailure (.error failure) := by
  rintro ⟨_, isInfrastructure, same⟩
  cases same
  exact other isInfrastructure

private theorem DecidedByStrongIdentity.of_conflict
    (several : 1 < (db.matching context.scope observation).card) :
    DecidedByStrongIdentity library context generated observation db
      (.error (.reconciliationConflict
        ((db.matching context.scope observation).sort (· ≤ ·)))) db := by
  have someMatch : db.matching context.scope observation ≠ ∅ := by
    intro noMatch
    simp [noMatch] at several
  have notOne : ∀ deviceId,
      db.matching context.scope observation ≠ {deviceId} := by
    intro deviceId only
    simp [only] at several
  constructor
  case created_iff => simp [someMatch]
  case conflict_iff => simp [several, eq_comm]
  case review_iff => simp [notOne]
  case updated_iff => simp [notOne]
  case available => exact fun _ => not_infrastructureFailure_error nofun
  case notDuplicate => simp
  case unchanged => exact fun _ _ => rfl
  case settled => simp

private theorem DecidedByStrongIdentity.of_review {current : DeviceView}
    (only : db.matching context.scope observation = {current.id})
    (found : db.deviceIn context.scope current.id = some current)
    (isOut : outOfService current = true) :
    DecidedByStrongIdentity library context generated observation db
      (.error (.reactivationRequiresReview current.id)) db := by
  constructor
  case created_iff => simp [only]
  case conflict_iff => simp [only]
  case review_iff =>
    intro deviceId
    by_cases same : current.id = deviceId
    · subst same
      simp [only, found, isOut]
    · simp [only, same]
  case updated_iff =>
    intro _ deviceId
    by_cases same : current.id = deviceId
    · subst same
      simp [found, isOut]
    · simp [only, same]
  case available => exact fun _ => not_infrastructureFailure_error nofun
  case notDuplicate => simp
  case unchanged => exact fun _ _ => rfl
  case settled => simp

private theorem DecidedByStrongIdentity.of_updated {current : DeviceView}
    {change : Change} (sameId : change.device.id = current.id)
    (only : db.matching context.scope observation = {current.id})
    (found : db.deviceIn context.scope current.id = some current)
    (inService : outOfService current = false)
    (settled : Settled db reached context.scope observation
      change.device.id) :
    DecidedByStrongIdentity library context generated observation db
      (.ok (.updated change.device)) reached := by
  constructor
  case created_iff => simp [only]
  case conflict_iff => simp [only]
  case review_iff =>
    intro deviceId
    by_cases same : current.id = deviceId
    · subst same
      simp [found, inService]
    · simp [only, same]
  case updated_iff =>
    intro _ deviceId
    by_cases same : current.id = deviceId
    · subst same
      simp [only, found, inService, sameId]
    · simp [only, same, sameId]
  case available => exact fun _ => not_infrastructureFailure_ok _
  case notDuplicate => simp
  case unchanged => simp
  case settled =>
    intro result same
    cases same
    exact settled

private theorem DecidedByStrongIdentity.of_created {change : Change}
    (noMatch : db.matching context.scope observation = ∅)
    (settled : Settled db reached context.scope observation
      change.device.id) :
    DecidedByStrongIdentity library context generated observation db
      (.ok (.created change.device)) reached := by
  have notOne : ∀ deviceId,
      db.matching context.scope observation ≠ {deviceId} := by
    intro deviceId only
    rw [noMatch] at only
    exact Finset.singleton_ne_empty deviceId only.symm
  constructor
  case created_iff => simp [noMatch]
  case conflict_iff => simp [noMatch]
  case review_iff => simp [notOne]
  case updated_iff => simp [notOne]
  case available => exact fun _ => not_infrastructureFailure_ok _
  case notDuplicate => simp
  case unchanged => simp
  case settled =>
    intro result same
    cases same
    exact settled

private theorem DecidedByStrongIdentity.of_failed {failure : InventoryError}
    (isInfrastructure : Infrastructure failure)
    (few : (db.matching context.scope observation).card ≤ 1)
    (reviewed : ∀ current,
      db.matching context.scope observation = {current.id} →
      db.deviceIn context.scope current.id = some current →
      outOfService current = false)
    (notAvailable : ¬Available library context generated db) :
    DecidedByStrongIdentity library context generated observation db
      (.error failure) db := by
  have isFailure : InfrastructureFailure (.error failure) :=
    ⟨failure, isInfrastructure, rfl⟩
  constructor
  case created_iff => exact fun notFailure => absurd isFailure notFailure
  case conflict_iff =>
    intro devices
    constructor
    · intro same
      cases same
      cases isInfrastructure
    · rintro ⟨several, _⟩
      omega
  case review_iff =>
    intro deviceId
    constructor
    · intro same
      cases same
      cases isInfrastructure
    · rintro ⟨only, current, found, isOut⟩
      have sameId : current.id = deviceId := id_of_deviceIn found
      subst sameId
      rw [reviewed current only found] at isOut
      cases isOut
  case updated_iff => exact fun notFailure => absurd isFailure notFailure
  case available => exact fun isAvailable => absurd isAvailable notAvailable
  case notDuplicate =>
    intro same
    cases same
    cases isInfrastructure
  case unchanged => exact fun _ _ => rfl
  case settled => simp

private theorem DecidedByStrongIdentity.of_reconciles
    {outcome : Except InventoryError ReconciliationResult}
    (valid : observation.validate = .ok ())
    (ends : Reconciles library context generated observation db outcome
      reached) :
    DecidedByStrongIdentity library context generated observation db outcome
      reached := by
  cases ends with
  | conflict several => exact .of_conflict several
  | review only found isOut => exact .of_review only found isOut
  | @updated current reached mutation only found inService =>
      have sameId : (observedChange context generated observation
          (db.hasDeclaredFact current.id) current).device.id = current.id :=
        rfl
      exact .of_updated sameId only found inService
        (mutation.settled valid rfl)
  | created mutation noMatch absent =>
      exact .of_created noMatch (mutation.settled valid rfl)
  | failed isInfrastructure few reviewed notAvailable =>
      exact .of_failed isInfrastructure few reviewed notAvailable

end Reconciles

/-- In every reachable state no strong identity has two owners, and an
observation is decided by the owners of its strong identifiers. -/
theorem reconcileObservation_decided (library : InventoryLibrary)
    (context : MutationContext) (generated : Generated)
    (observation : DeviceObservation) {db : InventoryDb}
    (reachable : (inventoryClient library).Reachable InventoryDb.IsEmpty db)
    (contextValid : context.validate = .ok ())
    (valid : observation.validate = .ok ()) :
    (∀ scope identity left right, db.Owns scope identity left →
      db.Owns scope identity right → left = right) ∧
    DecidedByStrongIdentity library context generated observation db
      ((reconcileObservation library context generated observation).call db).1
      ((reconcileObservation library context generated
        observation).call db).2 := by
  have sound := identifiersSound_of_reachable reachable
  constructor
  · intro scope identity left right leftOwns rightOwns
    exact sound.owns_unique leftOwns rightOwns
  · exact .of_reconciles valid
      (reconciles sound contextValid valid Prod.mk.eta.symm)

section Repetition

variable {library : InventoryLibrary} {scope : Scope}
  {observation : DeviceObservation} {db first last : InventoryDb}
  {deviceId : Uuid}

/-- The states reached by submitting one observation again and again, whatever
fails. -/
inductive Repeats (library : InventoryLibrary) (scope : Scope)
    (observation : DeviceObservation) (first : InventoryDb) :
    InventoryDb → Prop
  | refl : Repeats library scope observation first first
  | submit {state : InventoryDb} (context : MutationContext)
      (generated : Generated) (plan : List (Option SqlError)) :
      Repeats library scope observation first state →
      context.scope = scope →
      Repeats library scope observation first
        ((reconcileObservation library context generated
          observation).callFaulty plan state).2

/-- The observation is about one device, which is in service. -/
structure Recognizes (db : InventoryDb) (scope : Scope)
    (observation : DeviceObservation) (deviceId : Uuid) : Prop where
  sound : IdentifiersSound db
  only : db.matching scope observation = {deviceId}
  device : ∃ current, db.deviceIn scope deviceId = some current ∧
    outOfService current = false

private theorem Settled.only
    (settled : Settled db first scope observation deviceId)
    (valid : observation.validate = .ok ())
    (strong : ∃ identifier ∈ observation.identifiers,
      identifier.kind.strength = .strong) :
    first.matching scope observation = {deviceId} := by
  rcases strong with ⟨identifier, given, isStrong⟩
  rcases row_of_validate scope deviceId none
    ((DeviceObservation.validate_eq_ok valid).2 identifier given) with
    ⟨row, _, isIdentity⟩
  have listed : row.identity ∈ strongIdentities observation.identifiers :=
    mem_strongIdentities.mpr ⟨identifier, given, isStrong, isIdentity⟩
  ext owner
  rw [Finset.mem_singleton, mem_matching]
  constructor
  · rintro ⟨other, otherGiven, otherStrong, identity, otherIdentity, owns⟩
    have otherListed := mem_strongIdentities.mpr
      ⟨other, otherGiven, otherStrong, otherIdentity⟩
    exact (settled.owned identity otherListed owner).mp owns
  · rintro rfl
    exact ⟨identifier, given, isStrong, row.identity, isIdentity,
      (settled.owned row.identity listed owner).mpr rfl⟩

/-- What has been observed is recognized. -/
theorem recognizes_of_committed {context : MutationContext}
    {generated : Generated} {result : ReconciliationResult}
    (sound : IdentifiersSound db)
    (strong : ∃ identifier ∈ observation.identifiers,
      identifier.kind.strength = .strong)
    (committed : (reconcileObservation library context generated
        observation).call db = (.ok result, first)) :
    Recognizes first context.scope observation result.device.id := by
  rcases valid_of_reconcileObservation committed with ⟨contextValid, valid⟩
  cases reconciles sound contextValid valid committed with
  | @updated current reached mutation only found inService =>
      have settled := mutation.settled valid rfl
      exact ⟨mutation.sound, settled.only valid strong, _, mutation.found,
        inService⟩
  | created mutation noMatch absent =>
      have settled := mutation.settled valid rfl
      have inService : outOfService (discoveredChange context generated
          observation).device = false := rfl
      exact ⟨mutation.sound, settled.only valid strong, _, mutation.found,
        inService⟩

/-- The next submission of a recognized observation updates its device, or
fails without changing anything. -/
theorem Recognizes.call {context : MutationContext} {generated : Generated}
    {outcome : Except InventoryError ReconciliationResult}
    (recognizes : Recognizes db context.scope observation deviceId)
    (contextValid : context.validate = .ok ())
    (valid : observation.validate = .ok ())
    (ended : (reconcileObservation library context generated observation).call
      db = (outcome, last)) :
    (∃ change, change.device.id = deviceId ∧
        outcome = .ok (.updated change.device) ∧
        Mutation db (.reconcileObservation context generated observation)
          change last) ∨
      (InfrastructureFailure outcome ∧ last = db ∧
        ¬Available library context generated db) := by
  rcases recognizes.device with ⟨known, knownFound, knownInService⟩
  cases reconciles recognizes.sound contextValid valid ended with
  | conflict several =>
      rw [recognizes.only, Finset.card_singleton] at several
      omega
  | @review current only found isOut =>
      have same : deviceId = current.id :=
        Finset.singleton_injective (recognizes.only.symm.trans only)
      rw [same, found] at knownFound
      cases knownFound
      rw [knownInService] at isOut
      cases isOut
  | @updated current reached mutation only found inService =>
      have same : deviceId = current.id :=
        Finset.singleton_injective (recognizes.only.symm.trans only)
      exact Or.inl ⟨_, same.symm, rfl, mutation⟩
  | created mutation noMatch absent =>
      rw [recognizes.only] at noMatch
      exact absurd noMatch (Finset.singleton_ne_empty _)
  | failed isInfrastructure few reviewed notAvailable =>
      exact Or.inr ⟨⟨_, isInfrastructure, rfl⟩, rfl, notAvailable⟩

/-- One more submission adds no device. -/
theorem Recognizes.submit {context : MutationContext} {generated : Generated}
    (recognizes : Recognizes db context.scope observation deviceId)
    (strong : ∃ identifier ∈ observation.identifiers,
      identifier.kind.strength = .strong)
    {result : ReconciliationResult}
    (ended : (reconcileObservation library context generated observation).call
      db = (.ok result, last)) :
    Recognizes last context.scope observation deviceId ∧
      last.devices.rows.map DeviceView.id =
        db.devices.rows.map DeviceView.id := by
  rcases valid_of_reconcileObservation ended with ⟨contextValid, valid⟩
  rcases recognizes.call contextValid valid ended with
    ⟨change, isDevice, isUpdated, mutation⟩ | ⟨⟨_, _, impossible⟩, _⟩
  · have recognized := recognizes_of_committed recognizes.sound strong ended
    cases isUpdated
    rw [show (ReconciliationResult.updated change.device).device.id =
      deviceId from isDevice] at recognized
    refine ⟨recognized, ?_⟩
    rcases mutation.recorded with ⟨auditRow, outboxRow, _, _, _, rfl⟩
    apply Table.map_key_put
    rcases recognizes.device with ⟨known, knownFound, _⟩
    rw [isDevice, (deviceIn_eq_some_iff.mp knownFound).1]
    rfl
  · cases impossible

private theorem Repeats.recognizes
    (recognizes : Recognizes first scope observation deviceId)
    (strong : ∃ identifier ∈ observation.identifiers,
      identifier.kind.strength = .strong)
    (repeats : Repeats library scope observation first last) :
    Recognizes last scope observation deviceId ∧
      last.devices.rows.map DeviceView.id =
        first.devices.rows.map DeviceView.id := by
  induction repeats with
  | refl => exact ⟨recognizes, rfl⟩
  | @submit state context generated plan _ sameScope inductionHypothesis =>
      subst sameScope
      rcases inductionHypothesis with ⟨recognized, sameDevices⟩
      cases ended : (reconcileObservation library context generated
          observation).callFaulty plan state with
      | mk outcome reached =>
          cases outcome with
          | error failure =>
              have unchanged : reached = state := Program.callFaulty_error
                (commitsLast_reconcileObservation observation) ended
              rw [unchanged]
              exact ⟨recognized, sameDevices⟩
          | ok result =>
              rcases recognized.submit strong (Program.callFaulty_ok ended)
                with ⟨recognizedAfter, sameAfter⟩
              exact ⟨recognizedAfter, sameAfter.trans sameDevices⟩

/-- However often an observation with a strong identifier is submitted again,
no device is added, and the next submission updates the same device unless the
database, the audit trail or the outbox fails. -/
theorem reobservation_idempotent {context : MutationContext}
    {generated : Generated} {result : ReconciliationResult}
    (reachable : (inventoryClient library).Reachable InventoryDb.IsEmpty db)
    (strong : ∃ identifier ∈ observation.identifiers,
      identifier.kind.strength = .strong)
    (committed : (reconcileObservation library context generated
        observation).call db = (.ok result, first))
    (repeats : Repeats library context.scope observation first last) :
    last.devices.rows.map DeviceView.id =
        first.devices.rows.map DeviceView.id ∧
      ∀ (again : MutationContext) (generatedAgain : Generated),
        again.scope = context.scope → again.validate = .ok () →
        (∃ device, device.id = result.device.id ∧
          ((reconcileObservation library again generatedAgain
            observation).call last).1 = .ok (.updated device)) ∨
        (InfrastructureFailure ((reconcileObservation library again
            generatedAgain observation).call last).1 ∧
          ((reconcileObservation library again generatedAgain
            observation).call last).2 = last ∧
          ¬Available library again generatedAgain last) := by
  have valid := (valid_of_reconcileObservation committed).2
  have recognized := recognizes_of_committed
    (identifiersSound_of_reachable reachable) strong committed
  rcases repeats.recognizes recognized strong with
    ⟨recognizedLast, sameDevices⟩
  refine ⟨sameDevices, ?_⟩
  intro again generatedAgain sameScope againValid
  rw [← sameScope] at recognizedLast
  rcases recognizedLast.call againValid valid Prod.mk.eta.symm with
    ⟨change, isDevice, isUpdated, _⟩ | failed
  · exact Or.inl ⟨change.device, isDevice, isUpdated⟩
  · exact Or.inr failed

end Repetition

namespace Sample

def context : MutationContext where
  organizationId := ⟨1⟩
  siteId := ⟨2⟩
  actorType := .system
  actorId := none
  sessionId := none
  sourceIp := none
  requestId := "r-1"
  correlationId := ⟨3⟩

/-- What is generated for the first and the second call. -/
def first : Generated := ⟨⟨16⟩, ⟨17⟩, ⟨18⟩, 0, 0, 0⟩

def second : Generated := ⟨⟨32⟩, ⟨33⟩, ⟨34⟩, 0, 0, 0⟩

/-- An observation of a device, named by some identifiers. -/
def observationOf (identifiers : List NewIdentifier) : DeviceObservation where
  deviceType := .unknown
  displayName := some "sw-1"
  hostname := none
  vendor := none
  model := none
  osName := none
  osVersion := none
  firmwareVersion := none
  capabilities := []
  identifiers
  observedAt := some 0

def weak : DeviceObservation :=
  observationOf [⟨.hostname, "SW-1", "arp", none⟩]

def strong : DeviceObservation :=
  observationOf
    [⟨.hostname, "SW-1", "snmp", none⟩, ⟨.serial, "FOC1", "snmp", none⟩]

/-- `1970-01-01T00:00:00Z`, the only time of the runs. -/
def formatTime (_ : Timestamp) : String := "1970-01-01T00:00:00Z"

/-- The device that an observation adds. -/
def discovered (generated : Generated) (observation : DeviceObservation) :
    DeviceView :=
  observedRow context generated observation 0

/-- The audit event of such an addition. -/
def draftOf (generated : Generated) (observation : DeviceObservation) :
    AuditEventDraft :=
  mutationDraft context generated "inventory.device.discovery.create"
    (discovered generated observation) none
    (some ((discovered generated observation).toValue formatTime))

mutual
def render : Value → Bytes
  | .null => utf8Bytes "null"
  | .bool value => utf8Bytes (if value then "true" else "false")
  | .number (.integer value) => utf8Bytes (toString value)
  | .number (.float _) => utf8Bytes "0.0"
  | .string value => utf8Bytes ("\"" ++ value ++ "\"")
  | .array values =>
      utf8Bytes "[" ++ renderValues values ++ utf8Bytes "]"
  | .object members =>
      utf8Bytes "\x7b" ++ renderMembers members ++ utf8Bytes "\x7d"

def renderValues : List Value → Bytes
  | [] => []
  | [value] => render value
  | value :: values => render value ++ utf8Bytes "," ++ renderValues values

def renderMembers : List (String × Value) → Bytes
  | [] => []
  | [(key, value)] => utf8Bytes ("\"" ++ key ++ "\":") ++ render value
  | (key, value) :: members =>
      utf8Bytes ("\"" ++ key ++ "\":") ++ render value ++ utf8Bytes "," ++
        renderMembers members

end

/-- The members of a draft of the runs, in the order of its fields. -/
def draftValue (draft : AuditEventDraft) : Value :=
  .object
    [("organizationId", .string draft.organizationId.text),
      ("siteId", optionalValue (draft.siteId.map Uuid.text)),
      ("actorType", .string draft.actorType.asStr),
      ("actorId", optionalValue (draft.actorId.map Uuid.text)),
      ("sessionId", optionalValue (draft.sessionId.map Uuid.text)),
      ("sourceIp", optionalValue draft.sourceIp),
      ("requestId", .string draft.requestId),
      ("correlationId", .string draft.correlationId.text),
      ("action", .string draft.action),
      ("resourceType", .string draft.resourceType),
      ("resourceId", optionalValue draft.resourceId),
      ("provider", optionalValue draft.provider),
      ("occurredAtUnixMs", .number (.integer draft.occurredAtUnixMs)),
      ("durationMs", .null),
      ("status", .string "succeeded"),
      ("reasonCode", optionalValue draft.reasonCode),
      ("before", draft.before.getD .null),
      ("after", draft.after.getD .null),
      ("result", draft.result.getD .null)]

/-- A sealed draft of the runs: the digest before it and its own. -/
structure Link where
  previous : Bytes
  draft : AuditEventDraft
  digest : FixedBytes 32

def Link.message (link : Link) : Bytes :=
  auditDomain ++ (link.previous ++ render (draftValue link.draft))

/-- The SHA-256 digests of the sealed payloads. -/
def firstWeak : FixedBytes 32 :=
  ⟨[200, 251, 211, 113, 98, 64, 51, 144, 226, 23, 57, 163, 26, 172, 211, 233,
    224, 219, 170, 185, 17, 188, 69, 112, 165, 32, 66, 152, 64, 47, 250, 71], by decide⟩

def secondWeak : FixedBytes 32 :=
  ⟨[33, 235, 6, 135, 74, 151, 211, 154, 42, 80, 8, 11, 18, 174, 164, 188,
    206, 44, 187, 6, 184, 94, 210, 13, 169, 87, 201, 241, 63, 126, 15, 92], by decide⟩

def firstStrong : FixedBytes 32 :=
  ⟨[27, 199, 244, 220, 34, 157, 206, 64, 9, 100, 179, 97, 212, 64, 182, 241,
    45, 63, 71, 167, 113, 147, 244, 18, 199, 54, 243, 98, 182, 184, 85, 49], by decide⟩

def links : List Link :=
  [⟨[], draftOf first weak, firstWeak⟩,
    ⟨firstWeak.bytes, draftOf second weak, secondWeak⟩,
    ⟨[], draftOf first strong, firstStrong⟩]

/-- The JSON codec and the hash function where the runs use them. -/
def library : InventoryLibrary where
  audit :=
    { toVec := fun draft => some (render (draftValue draft))
      fromSlice := fun _ => none
      sha256 := fun message =>
        ((links.find? fun link => link.message = message).map
          Link.digest).getD (.replicate 32 0) }
  formatTime := formatTime

def start : InventoryDb :=
  ⟨.empty _, .empty _, .empty _, [], ⟨[]⟩, .empty⟩

/-- The state after an observation without a strong identifier. -/
def observedOnce : InventoryDb :=
  ((reconcileObservation library context first weak).call start).2

/-- The state after the same observation has been submitted again. -/
def observedTwice : InventoryDb :=
  ((reconcileObservation library context second weak).call observedOnce).2

/-- The state after an observation with a strong identifier. -/
def recognized : InventoryDb :=
  ((reconcileObservation library context first strong).call start).2

theorem isEmpty_start : start.IsEmpty := ⟨rfl, rfl, rfl, rfl⟩

theorem devices_of_created {generated : Generated}
    {observation : DeviceObservation} {db reached : InventoryDb}
    {device : DeviceView} (sound : IdentifiersSound db)
    (ended : (reconcileObservation library context generated observation).call
      db = (.ok (.created device), reached)) :
    reached.devices = db.devices.put device := by
  rcases valid_of_reconcileObservation ended with ⟨contextValid, valid⟩
  cases reconciles sound contextValid valid ended with
  | created mutation noMatch absent =>
      rcases mutation.recorded with ⟨auditRow, outboxRow, _, _, _, rfl⟩
      rfl

theorem weak_ended :
    (reconcileObservation library context first weak).call start =
        (.ok (.created (discovered first weak)), observedOnce) ∧
      (reconcileObservation library context second weak).call observedOnce =
        (.ok (.created (discovered second weak)), observedTwice) := by
  have outcomes :
      ((reconcileObservation library context first weak).call start).1 =
          .ok (.created (discovered first weak)) ∧
        ((reconcileObservation library context second weak).call
          observedOnce).1 = .ok (.created (discovered second weak)) := by
    decide +kernel
  constructor
  · rw [observedOnce]
    exact Program.call_of_outcome outcomes.1
  · rw [observedTwice]
    exact Program.call_of_outcome outcomes.2

private theorem strong_ended :
    (reconcileObservation library context first strong).call start =
      (.ok (.created (discovered first strong)), recognized) := by
  have outcome :
      ((reconcileObservation library context first strong).call start).1 =
        .ok (.created (discovered first strong)) := by
    decide +kernel
  rw [recognized]
  exact Program.call_of_outcome outcome

theorem reachable_recognized {initial : InventoryDb → Prop}
    (isInitial : initial start) :
    (inventoryClient library).Reachable initial recognized := by
  have begun : (inventoryClient library).Reachable initial start :=
    .initial isInitial
  have ended : ((inventoryClient library).program
      (InventoryCall.reconcileObservation context first strong)).call start =
        (.ok (.created (discovered first strong)), recognized) := strong_ended
  exact begun.of_call ended

/-- The library of a run that seals events under these digests: each event is
known by the digest before it. -/
def sealingLibrary (digests : List (FixedBytes 32)) : InventoryLibrary where
  audit :=
    { library.audit with
      sha256 := fun message =>
        ((((digests.zip ([] :: digests.map FixedBytes.bytes)).reverse).find?
          fun link => (auditDomain ++ link.2).isPrefixOf message).map
            Prod.fst).getD (.replicate 32 0) }
  formatTime := formatTime

/-- The digest of the event by which a device is seen again. -/
def secondStrong : FixedBytes 32 :=
  ⟨[255, 181, 115, 56, 49, 190, 70, 47, 220, 20, 215, 77, 234, 176, 161, 89,
    237, 168, 184, 115, 82, 143, 104, 19, 131, 106, 167, 1, 180, 200, 78,
    63], by decide⟩

def seeingLibrary : InventoryLibrary :=
  sealingLibrary [firstStrong, secondStrong]

/-- The states after an observation with a strong identifier, and after the
same observation has been submitted again. -/
def seenOnce : InventoryDb :=
  ((reconcileObservation seeingLibrary context first strong).call start).2

def seenTwice : InventoryDb :=
  ((reconcileObservation seeingLibrary context second strong).callFaulty []
    seenOnce).2

private theorem seen_ended :
    (reconcileObservation seeingLibrary context first strong).call start =
        (.ok (.created (discovered first strong)), seenOnce) ∧
      seenTwice.devices.rows.map (fun device => (device.id, device.version)) =
        [(first.deviceId, 2)] := by
  have outcomes :
      ((reconcileObservation seeingLibrary context first strong).call
          start).1 = .ok (.created (discovered first strong)) ∧
        seenTwice.devices.rows.map (fun device =>
          (device.id, device.version)) = [(first.deviceId, 2)] := by
    decide +kernel
  refine ⟨?_, outcomes.2⟩
  rw [seenOnce]
  exact Program.call_of_outcome outcomes.1

/-- The SHA-256 digests of the events of the run, in their order. -/
def livedDigests : List (FixedBytes 32) :=
  [firstStrong,
    ⟨[39, 24, 68, 103, 155, 63, 196, 223, 114, 91, 197, 8, 26, 155, 206, 39,
      151, 105, 77, 218, 93, 177, 3, 69, 56, 56, 160, 44, 223, 22, 160,
      54], by decide⟩,
    ⟨[68, 124, 27, 247, 86, 225, 198, 170, 110, 203, 40, 93, 128, 87, 106, 33,
      39, 74, 39, 123, 244, 68, 141, 52, 169, 198, 20, 109, 193, 36, 207,
      128], by decide⟩,
    ⟨[249, 96, 165, 184, 190, 59, 71, 5, 230, 99, 227, 98, 178, 208, 69, 183,
      246, 117, 36, 88, 30, 39, 1, 133, 201, 128, 108, 246, 68, 42, 213,
      66], by decide⟩,
    ⟨[135, 251, 32, 81, 84, 252, 170, 26, 131, 186, 202, 62, 233, 238, 97, 179,
      162, 222, 216, 16, 239, 254, 48, 45, 236, 247, 143, 205, 4, 164, 168,
      111], by decide⟩,
    ⟨[225, 87, 103, 163, 88, 144, 46, 122, 17, 237, 193, 126, 213, 67, 225,
      244, 92, 58, 138, 123, 71, 220, 73, 222, 181, 94, 9, 63, 157, 103, 167,
      20], by decide⟩,
    ⟨[42, 205, 119, 64, 112, 131, 192, 16, 121, 127, 25, 31, 35, 187, 234, 217,
      191, 108, 53, 203, 0, 25, 223, 174, 18, 144, 68, 113, 119, 121, 53,
      51], by decide⟩,
    ⟨[0, 100, 250, 14, 107, 93, 88, 146, 214, 80, 156, 25, 21, 77, 178, 229,
      64, 28, 110, 215, 5, 13, 83, 251, 73, 215, 193, 100, 102, 139, 168,
      207], by decide⟩]

def livedLibrary : InventoryLibrary := sealingLibrary livedDigests

def generatedFrom (number : Fin (2 ^ 128)) : Generated :=
  ⟨⟨number⟩, ⟨number + 1⟩, ⟨number + 2⟩, 0, 0, 0⟩

/-- The device is given another name. -/
def renamed : MetadataPatch where
  deviceType := none
  displayName := some (some "sw-2")
  hostname := none
  vendor := none
  model := none
  osName := none
  osVersion := none
  firmwareVersion := none
  description := none
  operationalOwner := none
  capabilities := none

/-- A device is found, reviewed, managed, renamed and retired.  Another one is
found, the first one goes into the archive, and the other one to review. -/
def livedCalls : List InventoryCall :=
  [.reconcileObservation context first strong,
    .transitionLifecycle context second first.deviceId 1 .pendingReview none,
    .transitionLifecycle context (generatedFrom 48) first.deviceId 2 .managed
      none,
    .updateMetadata context (generatedFrom 64) first.deviceId 3 renamed,
    .transitionLifecycle context (generatedFrom 80) first.deviceId 4 .retired
      (some "sold"),
    .reconcileObservation context (generatedFrom 96) weak,
    .transitionLifecycle context (generatedFrom 112) first.deviceId 5 .archived
      (some "sold"),
    .transitionLifecycle context (generatedFrom 128) ⟨96⟩ 1 .pendingReview
      none]

def alone (calls : List InventoryCall) :
    List (inventoryClient livedLibrary).Attempt :=
  calls.map fun call => (call, [])

/-- The state after some of the calls. -/
def livedAfter (count : Nat) : InventoryDb :=
  (inventoryClient livedLibrary).run start (alone (livedCalls.take count))

def lived : InventoryDb := livedAfter 8

theorem reachable_lived {initial : InventoryDb → Prop}
    (isInitial : initial start) :
    (inventoryClient livedLibrary).Reachable initial lived :=
  (Client.Reachable.initial isInitial).run _

/-- The states of the two devices, the first one first. -/
def statesAfter (count : Nat) : List (DeviceLifecycle × Int) :=
  (livedAfter count).devices.rows.map fun device =>
    (device.lifecycle, device.version)

example :
    statesAfter 4 = [(.managed, 4)] ∧ statesAfter 5 = [(.retired, 5)] ∧
      statesAfter 6 = [(.retired, 5), (.discovered, 1)] ∧
      statesAfter 7 = [(.archived, 6), (.discovered, 1)] ∧
      statesAfter 8 = [(.archived, 6), (.pendingReview, 2)] := by
  decide +kernel

end Sample

/-- Without a strong identifier, what is observed again is a new device. -/
theorem not_reobservation_idempotent :
    ¬∀ (library : InventoryLibrary) (context : MutationContext)
      (generated again : Generated) (observation : DeviceObservation)
      (db first last : InventoryDb) (result repeated : ReconciliationResult),
      (inventoryClient library).Reachable InventoryDb.IsEmpty db →
      (reconcileObservation library context generated observation).call db =
        (.ok result, first) →
      (reconcileObservation library context again observation).call first =
        (.ok repeated, last) →
      (∃ device, repeated = .updated device ∧ device.id = result.device.id) ∧
        last.devices.rows.length = first.devices.rows.length := by
  intro idempotent
  rcases idempotent _ _ _ _ _ _ _ _ _ _ (.initial Sample.isEmpty_start)
    Sample.weak_ended.1 Sample.weak_ended.2 with ⟨⟨_, impossible, _⟩, _⟩
  cases impossible

/-- The device is seen twice, and may be seen once more. -/
theorem reobservation_idempotent_seenTwice :
    Sample.seenTwice.devices.rows.map DeviceView.id =
        Sample.seenOnce.devices.rows.map DeviceView.id ∧
      ∀ (again : MutationContext) (generatedAgain : Generated),
        again.scope = Sample.context.scope → again.validate = .ok () →
        (∃ device, device.id = (Sample.discovered Sample.first
            Sample.strong).id ∧
          ((reconcileObservation Sample.seeingLibrary again generatedAgain
            Sample.strong).call Sample.seenTwice).1 =
              .ok (.updated device)) ∨
        (InfrastructureFailure ((reconcileObservation Sample.seeingLibrary
            again generatedAgain Sample.strong).call Sample.seenTwice).1 ∧
          ((reconcileObservation Sample.seeingLibrary again generatedAgain
            Sample.strong).call Sample.seenTwice).2 = Sample.seenTwice ∧
          ¬Available Sample.seeingLibrary again generatedAgain
            Sample.seenTwice) :=
  reobservation_idempotent (.initial Sample.isEmpty_start)
    ⟨⟨.serial, "FOC1", "snmp", none⟩, by simp [Sample.strong,
      Sample.observationOf], rfl⟩ Sample.seen_ended.1
    (.submit Sample.context Sample.second [] .refl rfl)

theorem reconcileObservation_decided_recognized :
    (∀ scope identity left right,
      Sample.recognized.Owns scope identity left →
      Sample.recognized.Owns scope identity right → left = right) ∧
    DecidedByStrongIdentity Sample.library Sample.context Sample.second
      Sample.strong Sample.recognized
      ((reconcileObservation Sample.library Sample.context Sample.second
        Sample.strong).call Sample.recognized).1
      ((reconcileObservation Sample.library Sample.context Sample.second
        Sample.strong).call Sample.recognized).2 :=
  reconcileObservation_decided Sample.library Sample.context Sample.second
    Sample.strong
    (Sample.reachable_recognized Sample.isEmpty_start) (by decide) (by decide)

end NetworkManager.InventoryStore
