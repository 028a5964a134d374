import NetworkManager.InventoryStore.Reconciliation

/-!
# Merge decisions and the identity of devices

The domain decides by the spelling of identifiers whether two records are of one
device.  The store decides by their identity, in which the normal form stands
for the spelling and an id of a provider belongs to its namespace, and demands
a review where a device is out of service.
-/

namespace NetworkManager.InventoryStore

open NetworkManager.Foundation
open NetworkManager.Domain.Inventory

/-- What a record keeps of an identifier. -/
def NewIdentifier.recorded (identifier : NewIdentifier) : DeviceIdentifier :=
  ⟨identifier.kind, identifier.value⟩

/-- The record has these identifiers. -/
def Records (given : List NewIdentifier)
    (record : Domain.Inventory.DeviceRecord) : Prop :=
  record.identifiers = (given.map NewIdentifier.recorded).toFinset

/-- Two lists have an identifier of the same kind and the same spelling. -/
def SharesSpelling (strength : IdentifierStrength)
    (left right : List NewIdentifier) : Prop :=
  ∃ identifier ∈ left, identifier.kind.strength = strength ∧
    ∃ other ∈ right, other.kind = identifier.kind ∧
      other.value = identifier.value

/-- Two lists have a strong identifier of the same identity. -/
def SharesIdentity (left right : List NewIdentifier) : Prop :=
  ∃ identifier ∈ left, identifier.kind.strength = .strong ∧
    ∃ other ∈ right, ∃ identity, identifier.identity = .ok identity ∧
      other.identity = .ok identity

/-- The device is neither retired nor archived. -/
def Mergeable (record : Domain.Inventory.DeviceRecord) : Prop :=
  record.lifecycle ≠ .retired ∧ record.lifecycle ≠ .archived

instance (record : Domain.Inventory.DeviceRecord) : Decidable (Mergeable record) :=
  inferInstanceAs (Decidable (_ ∧ _))

private theorem strong_iff_mem (kind : IdentifierKind) :
    kind ∈ ([.serial, .mac, .snmpEngineId, .providerNativeId] :
      List IdentifierKind) ↔ kind.strength = .strong := by
  cases kind <;> decide

private theorem weak_iff_mem (kind : IdentifierKind) :
    kind ∈ ([.hostname, .assetTag] : List IdentifierKind) ↔
      kind.strength = .weak := by
  cases kind <;> decide

section Decisions

variable {left right : Domain.Inventory.DeviceRecord}
  {leftGiven rightGiven : List NewIdentifier}

private theorem Records.mem {given : List NewIdentifier}
    {record : Domain.Inventory.DeviceRecord}
    (records : Records given record) {identifier : DeviceIdentifier} :
    identifier ∈ record.identifiers ↔
      ∃ other ∈ given, other.recorded = identifier := by
  rw [records, List.mem_toFinset, List.mem_map]

/-- Records share what their identifiers spell alike. -/
theorem exists_shared_iff (isLeft : Records leftGiven left)
    (isRight : Records rightGiven right) (strength : IdentifierStrength) :
    (∃ identifier ∈ left.identifiers, identifier.kind.strength = strength ∧
      identifier ∈ right.identifiers) ↔
      SharesSpelling strength leftGiven rightGiven := by
  constructor
  · rintro ⟨identifier, inLeft, isStrength, inRight⟩
    rcases isLeft.mem.mp inLeft with ⟨own, ownGiven, rfl⟩
    rcases isRight.mem.mp inRight with ⟨other, otherGiven, same⟩
    rcases DeviceIdentifier.mk.inj same with ⟨sameKind, sameValue⟩
    exact ⟨own, ownGiven, isStrength, other, otherGiven, sameKind, sameValue⟩
  · rintro ⟨own, ownGiven, isStrength, other, otherGiven, sameKind, sameValue⟩
    refine ⟨own.recorded, isLeft.mem.mpr ⟨own, ownGiven, rfl⟩, isStrength,
      isRight.mem.mpr ⟨other, otherGiven, ?_⟩⟩
    rw [NewIdentifier.recorded, sameKind, sameValue]
    rfl

private theorem canAutoMergeWith_iff (isLeft : Records leftGiven left)
    (isRight : Records rightGiven right)
    (sameOrganization : left.organizationId = right.organizationId)
    (sameSite : left.siteId = right.siteId) :
    left.canAutoMergeWith right = true ↔
      Mergeable left ∧ Mergeable right ∧
        SharesSpelling .strong leftGiven rightGiven := by
  rw [← exists_shared_iff isLeft isRight]
  simp only [Domain.Inventory.DeviceRecord.canAutoMergeWith,
    Domain.Inventory.DeviceRecord.hasStableMatchWith,
    sameOrganization, sameSite, ne_eq, not_true_eq_false, or_self, if_false,
    strong_iff_mem, Mergeable, Bool.and_eq_true, decide_eq_true_eq,
    bne_iff_ne]
  tauto

/-- Two records of one site are taken for the same device if both are in service
and share a strong identifier letter by letter. -/
theorem decideMerge_eq_sameResource_iff (isLeft : Records leftGiven left)
    (isRight : Records rightGiven right)
    (sameOrganization : left.organizationId = right.organizationId)
    (sameSite : left.siteId = right.siteId) :
    decideMerge left right = .sameResource ↔
      Mergeable left ∧ Mergeable right ∧
        SharesSpelling .strong leftGiven rightGiven := by
  rw [← canAutoMergeWith_iff isLeft isRight sameOrganization sameSite,
    decideMerge]
  split_ifs with merges weakly
  · exact iff_of_true rfl merges
  · exact iff_of_false nofun merges
  · exact iff_of_false nofun merges

/-- Otherwise they are taken for different devices unless they share a weak
identifier letter by letter. -/
theorem decideMerge_eq_differentResource_iff (isLeft : Records leftGiven left)
    (isRight : Records rightGiven right)
    (sameOrganization : left.organizationId = right.organizationId)
    (sameSite : left.siteId = right.siteId) :
    decideMerge left right = .differentResource ↔
      decideMerge left right ≠ .sameResource ∧
        ¬SharesSpelling .weak leftGiven rightGiven := by
  rw [← exists_shared_iff isLeft isRight, decideMerge]
  simp only [sameOrganization, sameSite, true_and, weak_iff_mem]
  split_ifs with merges weakly
  · simp
  · simp [weakly]
  · simp [weakly]

/-- The domain agrees with the store about two records of one site exactly if
their spelling tells the same as their identity: about strong identifiers where
both devices are in service, and where one is not, a weak one has to be spelled
alike for a strong one that they share. -/
theorem decideMerge_agrees_iff (isLeft : Records leftGiven left)
    (isRight : Records rightGiven right)
    (sameOrganization : left.organizationId = right.organizationId)
    (sameSite : left.siteId = right.siteId) :
    ((decideMerge left right = .sameResource ↔
        Mergeable left ∧ Mergeable right ∧
          SharesIdentity leftGiven rightGiven) ∧
      (SharesIdentity leftGiven rightGiven →
        decideMerge left right ≠ .differentResource)) ↔
      if Mergeable left ∧ Mergeable right then
        (SharesSpelling .strong leftGiven rightGiven ↔
          SharesIdentity leftGiven rightGiven)
      else
        (SharesIdentity leftGiven rightGiven →
          SharesSpelling .weak leftGiven rightGiven) := by
  rw [Ne, decideMerge_eq_differentResource_iff isLeft isRight
    sameOrganization sameSite, Ne, decideMerge_eq_sameResource_iff isLeft
    isRight sameOrganization sameSite]
  by_cases inService : Mergeable left ∧ Mergeable right
  · rw [if_pos inService]
    tauto
  · rw [if_neg inService]
    tauto

end Decisions

/-- A device of the store matches an observation if they share a strong
identifier by identity. -/
theorem mem_matching_iff_sharesIdentity {db : InventoryDb} {scope : Scope}
    {deviceId : Uuid} {given : List NewIdentifier}
    {observation : DeviceObservation}
    (owned : ∀ identity, db.Owns scope identity deviceId ↔
      ∃ identifier ∈ given, identifier.kind.strength = .strong ∧
        identifier.identity = .ok identity) :
    deviceId ∈ db.matching scope observation ↔
      SharesIdentity given observation.identifiers := by
  rw [mem_matching]
  constructor
  · rintro ⟨other, otherGiven, _, identity, isIdentity, owns⟩
    rcases (owned identity).mp owns with
      ⟨identifier, isGiven, strong, hasIdentity⟩
    exact ⟨identifier, isGiven, strong, other, otherGiven, identity,
      hasIdentity, isIdentity⟩
  · rintro ⟨identifier, isGiven, strong, other, otherGiven, identity,
      hasIdentity, isIdentity⟩
    have sameKind : other.kind = identifier.kind :=
      (NewIdentifier.parts_of_identity isIdentity).1.symm.trans
        (NewIdentifier.parts_of_identity hasIdentity).1
    exact ⟨other, otherGiven, sameKind ▸ strong, identity, isIdentity,
      (owned identity).mpr ⟨identifier, isGiven, strong, hasIdentity⟩⟩

namespace Sample

/-- A record with the given identifiers. -/
def recordOf (lifecycle : DeviceLifecycle) (given : List NewIdentifier) :
    Domain.Inventory.DeviceRecord where
  organizationId := ⟨1⟩
  siteId := ⟨2⟩
  lifecycle
  identifiers := (given.map NewIdentifier.recorded).toFinset

private theorem records_recordOf (lifecycle : DeviceLifecycle)
    (given : List NewIdentifier) :
    Records given (recordOf lifecycle given) := rfl

def colons : List NewIdentifier := [⟨.mac, "AA:BB:CC:00:11:22", "snmp", none⟩]

def dashes : List NewIdentifier := [⟨.mac, "aa-bb-cc-00-11-22", "arp", none⟩]

end Sample

/-- One address in two common formats is that of two devices. -/
theorem not_decideMerge_agrees :
    ¬∀ (left right : Domain.Inventory.DeviceRecord)
        (leftGiven rightGiven : List NewIdentifier),
      Records leftGiven left → Records rightGiven right →
      left.organizationId = right.organizationId →
      left.siteId = right.siteId →
      (decideMerge left right = .sameResource ↔
        Mergeable left ∧ Mergeable right ∧
          SharesIdentity leftGiven rightGiven) ∧
      (SharesIdentity leftGiven rightGiven →
        decideMerge left right ≠ .differentResource) := by
  intro agrees
  have shares : SharesIdentity Sample.colons Sample.dashes :=
    ⟨_, List.mem_singleton_self _, rfl, _, List.mem_singleton_self _,
      ⟨.mac, "global", "aabbcc001122"⟩, by decide, by decide⟩
  exact (agrees (Sample.recordOf .managed Sample.colons)
    (Sample.recordOf .managed Sample.dashes) _ _ rfl rfl rfl rfl).2 shares
      (by decide)

/-- One address in one format is that of one device. -/
theorem decideMerge_agrees_colons :
    (decideMerge (Sample.recordOf .managed Sample.colons)
        (Sample.recordOf .managed Sample.colons) = .sameResource ↔
      Mergeable (Sample.recordOf .managed Sample.colons) ∧
        Mergeable (Sample.recordOf .managed Sample.colons) ∧
          SharesIdentity Sample.colons Sample.colons) ∧
    (SharesIdentity Sample.colons Sample.colons →
      decideMerge (Sample.recordOf .managed Sample.colons)
        (Sample.recordOf .managed Sample.colons) ≠ .differentResource) := by
  apply (decideMerge_agrees_iff (Sample.records_recordOf .managed _)
    (Sample.records_recordOf .managed _) rfl rfl).mpr
  rw [if_pos (by decide)]
  have shares : SharesIdentity Sample.colons Sample.colons :=
    ⟨_, List.mem_singleton_self _, rfl, _, List.mem_singleton_self _,
      ⟨.mac, "global", "aabbcc001122"⟩, by decide, by decide⟩
  exact iff_of_true ⟨_, List.mem_singleton_self _, rfl, _,
    List.mem_singleton_self _, rfl, rfl⟩ shares

end NetworkManager.InventoryStore
