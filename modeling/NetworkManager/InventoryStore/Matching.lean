import NetworkManager.InventoryStore.Mutations

/-!
# Matching an observation with the devices that are known

The devices that own a strong identifier of an observation, and how
`reconcile_observation` goes on for none, one and several of them.
-/

namespace NetworkManager.InventoryStore

open NetworkManager.Foundation
open NetworkManager.Domain.Inventory
open NetworkManager.Transaction

/-- The devices of a scope that own one of some identities, if it is strong. -/
def InventoryDb.owners (db : InventoryDb) (scope : Scope)
    (identities : List IdentifierKey) : Finset Uuid :=
  ((db.identifiers.rows.filter fun row =>
      row.scope = scope && row.strength = .strong &&
        decide (row.identity ∈ identities)).map
    IdentifierRow.deviceId).toFinset

/-- What the identifiers of a list are compared by. -/
def identitiesOf (identifiers : List NewIdentifier) : List IdentifierKey :=
  identifiers.filterMap fun identifier => identifier.identity.toOption

def strongIdentities (identifiers : List NewIdentifier) : List IdentifierKey :=
  identitiesOf (strongIdentifiers identifiers)

theorem toOption_eq_some_iff {ε α : Type} {outcome : Except ε α} {value : α} :
    outcome.toOption = some value ↔ outcome = .ok value := by
  cases outcome <;> simp [Except.toOption]

theorem identitiesOf_cons {identifier : NewIdentifier}
    {identity : IdentifierKey} (isIdentity : identifier.identity = .ok identity)
    (rest : List NewIdentifier) :
    identitiesOf (identifier :: rest) = identity :: identitiesOf rest :=
  List.filterMap_cons_some (toOption_eq_some_iff.mpr isIdentity)

theorem mem_strongIdentities {identifiers : List NewIdentifier}
    {identity : IdentifierKey} :
    identity ∈ strongIdentities identifiers ↔
      ∃ identifier ∈ identifiers, identifier.kind.strength = .strong ∧
        identifier.identity = .ok identity := by
  simp only [strongIdentities, identitiesOf, strongIdentifiers, List.mem_filterMap,
    List.mem_filter, decide_eq_true_eq, toOption_eq_some_iff, and_assoc]

section Owners

variable {db : InventoryDb} {scope : Scope} {identities : List IdentifierKey}
  {deviceId : Uuid}

theorem mem_owners :
    deviceId ∈ db.owners scope identities ↔
      ∃ row ∈ db.identifiers.rows, row.scope = scope ∧
        row.strength = .strong ∧ row.identity ∈ identities ∧
        row.deviceId = deviceId := by
  simp only [InventoryDb.owners, List.mem_toFinset, List.mem_map,
    List.mem_filter, Bool.and_eq_true, decide_eq_true_eq, and_assoc]

/-- The owners are those that the lookups of the single identities find. -/
theorem mem_owners_iff (sound : IdentifiersSound db) :
    deviceId ∈ db.owners scope identities ↔
      ∃ identity ∈ identities, db.strongOwner scope identity = some deviceId := by
  rw [mem_owners]
  constructor
  · rintro ⟨row, member, inScope, strong, isIdentity, isDevice⟩
    refine ⟨row.identity, isIdentity, sound.strongOwner_eq_some_iff.mpr
      ⟨?_, row, member, isDevice, inScope, rfl⟩⟩
    rw [← sound.strength row member]
    exact strong
  · rintro ⟨identity, isIdentity, isOwner⟩
    rcases sound.strongOwner_eq_some_iff.mp isOwner with
      ⟨strong, row, member, isDevice, inScope, rfl⟩
    exact ⟨row, member, inScope, (sound.strength row member).trans strong,
      isIdentity, isDevice⟩

/-- One round of the lookups. -/
theorem union_owners_cons (sound : IdentifiersSound db)
    (identity : IdentifierKey) (found : Finset Uuid) :
    (db.strongOwner scope identity).elim found
        (fun device => insert device found) ∪ db.owners scope identities =
      found ∪ db.owners scope (identity :: identities) := by
  ext tested
  rw [Finset.mem_union, Finset.mem_union, mem_owners_iff sound,
    mem_owners_iff sound, List.exists_mem_cons_iff]
  cases db.strongOwner scope identity with
  | none => simp
  | some owner =>
      simp only [Option.elim_some, Finset.mem_insert, Option.some.injEq]
      rw [eq_comm]
      tauto

/-- An owner is a device of the scope. -/
theorem present_of_mem_owners (sound : IdentifiersSound db)
    (member : deviceId ∈ db.owners scope identities) :
    (db.deviceIn scope deviceId).isSome := by
  rcases mem_owners.mp member with ⟨row, stored, rfl, _, _, rfl⟩
  exact sound.device row stored

/-- Identifiers whose strong ones belong to no other device may be written. -/
theorem admits_of_owners (sound : IdentifiersSound db)
    {identifiers : List NewIdentifier} {observedAt : Option Timestamp}
    (only : db.owners scope (strongIdentities identifiers) ⊆ {deviceId}) :
    ∀ row ∈ identifierRows scope deviceId observedAt identifiers,
      Admits db row := by
  intro row member strong owner isOwner
  rcases describes_of_mem member with
    ⟨describes, identifier, given, isIdentity⟩
  have isStrong : row.identity ∈ strongIdentities identifiers := by
    apply mem_strongIdentities.mpr
    refine ⟨identifier, given, ?_, isIdentity⟩
    rw [← (NewIdentifier.parts_of_identity isIdentity).1, ← describes.strength]
    exact strong
  have isMember : owner ∈ db.owners scope (strongIdentities identifiers) := by
    apply (mem_owners_iff sound).mpr
    rw [describes.scope] at isOwner
    exact ⟨row.identity, isStrong, isOwner⟩
  rw [describes.deviceId]
  exact Finset.mem_singleton.mp (only isMember)

/-- `find_matches` finds the owners and changes nothing. -/
theorem eval_findMatches {committed : InventoryDb}
    (sound : IdentifiersSound db) {identifiers : List NewIdentifier}
    (valid : ∀ identifier ∈ identifiers, identifier.validate = .ok ())
    (found : Finset Uuid) :
    (findMatches scope identifiers found).eval ⟨committed, db⟩ =
      (.ok (found ∪ db.owners scope (identitiesOf identifiers)),
        ⟨committed, db⟩) := by
  induction identifiers generalizing found with
  | nil =>
      have noOwners : db.owners scope (identitiesOf []) = ∅ := by
        simp [InventoryDb.owners, identitiesOf]
      rw [noOwners, Finset.union_empty]
      rfl
  | cons identifier rest inductionHypothesis =>
      rcases NewIdentifier.exists_identity
        (valid identifier (List.mem_cons_self ..)) with
        ⟨normalizedValue, sourceNamespace, isNormalized, hasNamespace⟩
      have isIdentity := NewIdentifier.identity_of_parts isNormalized
        hasNamespace
      have restValid : ∀ later ∈ rest, later.validate = .ok () :=
        fun later member => valid later (List.mem_cons_of_mem _ member)
      rw [findMatches, isNormalized, hasNamespace,
        identitiesOf_cons isIdentity, ← union_owners_cons sound]
      exact inductionHypothesis restValid _

end Owners

theorem require_bind_eq_ok {passed : Bool} {message : String}
    {rest : Except InventoryError Unit}
    (ended : (require passed message >>= fun _ => rest) = .ok ()) :
    passed = true ∧ rest = .ok () := by
  cases passed with
  | false => cases ended
  | true => exact ⟨rfl, ended⟩

/-- The identifiers of a checked observation. -/
theorem DeviceObservation.validate_eq_ok {observation : DeviceObservation}
    (valid : observation.validate = .ok ()) :
    observation.identifiers ≠ [] ∧
      ∀ identifier ∈ observation.identifiers, identifier.validate = .ok () := by
  rcases require_bind_eq_ok valid with ⟨notEmpty, rest⟩
  rcases require_bind_eq_ok rest with ⟨_, identifiersValid⟩
  constructor
  · intro isEmpty
    simp [isEmpty] at notEmpty
  · exact validateIdentifiers_eq_ok identifiersValid

section Reconciliation

variable {library : InventoryLibrary} {context : MutationContext}
  {generated : Generated} {committed db : InventoryDb}
  {observation : DeviceObservation}

/-- The devices that an observation may be about. -/
def InventoryDb.matching (db : InventoryDb) (scope : Scope)
    (observation : DeviceObservation) : Finset Uuid :=
  db.owners scope (strongIdentities observation.identifiers)

/-- What `reconcile_observation` does with the devices it has found. -/
def continueWith (library : InventoryLibrary) (context : MutationContext)
    (generated : Generated) (observation : DeviceObservation)
    (found : Finset Uuid) : Store ReconciliationResult := do
  Program.check (decide (found.card ≤ 1))
    (.reconciliationConflict (found.sort (· ≤ ·)))
  match (found.sort (· ≤ ·)).head? with
  | some deviceId => do
      let device ← updateObservedDevice library context generated observation
        (observationTime generated observation) deviceId
      return .updated device
  | none => do
      let device ← createObservedDevice library context generated observation
        (observationTime generated observation)
      return .created device

theorem eval_reconcileObservation (sound : IdentifiersSound db)
    (contextValid : context.validate = .ok ())
    (valid : observation.validate = .ok ()) :
    (reconcileObservation library context generated observation).eval
        ⟨committed, db⟩ =
      (continueWith library context generated observation
        (db.matching context.scope observation)).eval ⟨committed, db⟩ := by
  have strongValid : ∀ identifier ∈ strongIdentifiers observation.identifiers,
      identifier.validate = .ok () := fun identifier member =>
    (DeviceObservation.validate_eq_ok valid).2 identifier
      (List.mem_of_mem_filter member)
  have found : (findMatches context.scope
      (strongIdentifiers observation.identifiers) ∅).eval ⟨committed, db⟩ =
        (.ok (db.matching context.scope observation), ⟨committed, db⟩) := by
    rw [eval_findMatches sound strongValid ∅, Finset.empty_union]
    rfl
  rw [reconcileObservation, contextValid, valid]
  exact Program.eval_bind_ok found

theorem continueWith_conflict {found : Finset Uuid} (several : 1 < found.card) :
    continueWith library context generated observation found =
      .done (.error (.reconciliationConflict (found.sort (· ≤ ·)))) := by
  have notFew : decide (found.card ≤ 1) = false :=
    decide_eq_false (Nat.not_le.mpr several)
  rw [continueWith, notFew]
  rfl

theorem continueWith_empty :
    continueWith library context generated observation ∅ = (do
      let device ← createObservedDevice library context generated observation
        (observationTime generated observation)
      return .created device) := by
  rw [continueWith, Finset.card_empty, Finset.sort_empty]
  rfl

theorem continueWith_singleton (deviceId : Uuid) :
    continueWith library context generated observation {deviceId} = (do
      let device ← updateObservedDevice library context generated observation
        (observationTime generated observation) deviceId
      return .updated device) := by
  rw [continueWith, Finset.card_singleton, Finset.sort_singleton]
  rfl

end Reconciliation

end NetworkManager.InventoryStore
