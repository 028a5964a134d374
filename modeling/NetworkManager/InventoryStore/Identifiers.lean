import NetworkManager.InventoryStore.Store

/-!
# Identifiers

An identifier row belongs to the device and the scope it names, and a strong
identity of a scope has one owner.  Writing the identifiers of a device keeps
this, changes no other device, and succeeds whenever no strong one of them has
another owner.
-/

namespace NetworkManager.InventoryStore

open NetworkManager.Foundation
open NetworkManager.Domain.Inventory
open NetworkManager.Transaction

/-- What an identifier is compared by. -/
def NewIdentifier.identity (identifier : NewIdentifier) :
    Except InventoryError IdentifierKey := do
  let normalizedValue ← normalized identifier
  let identityNamespace ← identityNamespace identifier.kind identifier.source
  return ⟨identifier.kind, identityNamespace, normalizedValue⟩

theorem NewIdentifier.identity_of_parts {identifier : NewIdentifier}
    {normalizedValue sourceNamespace : String}
    (isNormalized : normalized identifier = .ok normalizedValue)
    (hasNamespace : identityNamespace identifier.kind identifier.source =
      .ok sourceNamespace) :
    identifier.identity =
      .ok ⟨identifier.kind, sourceNamespace, normalizedValue⟩ := by
  rw [NewIdentifier.identity, isNormalized, hasNamespace]
  rfl

/-- A checked identifier has an identity. -/
theorem NewIdentifier.exists_identity {identifier : NewIdentifier}
    (valid : identifier.validate = .ok ()) :
    ∃ normalizedValue sourceNamespace,
      normalized identifier = .ok normalizedValue ∧
      identityNamespace identifier.kind identifier.source =
        .ok sourceNamespace := by
  unfold NewIdentifier.validate at valid
  cases isNormalized : normalized identifier with
  | error failure => simp [isNormalized, bind, Except.bind] at valid
  | ok normalizedValue =>
      cases hasNamespace :
          identityNamespace identifier.kind identifier.source with
      | error failure =>
          simp only [isNormalized, hasNamespace, bind, Except.bind] at valid
          split at valid
          · cases valid
          · split at valid
            · cases valid
            · cases valid
      | ok sourceNamespace => exact ⟨_, _, rfl, rfl⟩

/-- The parts of an identity. -/
theorem NewIdentifier.parts_of_identity {identifier : NewIdentifier}
    {identity : IdentifierKey} (isIdentity : identifier.identity = .ok identity) :
    identity.kind = identifier.kind ∧
      normalized identifier = .ok identity.normalizedValue ∧
      identityNamespace identifier.kind identifier.source =
        .ok identity.identityNamespace := by
  unfold NewIdentifier.identity at isIdentity
  cases isNormalized : normalized identifier with
  | error failure => simp [isNormalized, bind, Except.bind] at isIdentity
  | ok normalizedValue =>
      cases hasNamespace :
          identityNamespace identifier.kind identifier.source with
      | error failure =>
          simp [isNormalized, hasNamespace, bind, Except.bind] at isIdentity
      | ok sourceNamespace =>
          rw [isNormalized, hasNamespace] at isIdentity
          cases isIdentity
          exact ⟨rfl, rfl, rfl⟩

theorem validateIdentifiers_eq_ok :
    ∀ {identifiers : List NewIdentifier},
      validateIdentifiers identifiers = .ok () →
      ∀ identifier ∈ identifiers, identifier.validate = .ok ()
  | first :: rest, valid, identifier, member => by
      rw [validateIdentifiers] at valid
      cases firstValid : first.validate with
      | error failure => simp [firstValid, bind, Except.bind] at valid
      | ok value =>
          rw [firstValid] at valid
          rcases List.mem_cons.mp member with rfl | later
          · exact firstValid
          · exact validateIdentifiers_eq_ok valid identifier later

/-- The row that an identifier is stored as. -/
def NewIdentifier.row (scope : Scope) (deviceId : Uuid)
    (observedAt : Option Timestamp) (identifier : NewIdentifier) :
    Except InventoryError IdentifierRow := do
  let normalizedValue ← normalized identifier
  let identityNamespace ← identityNamespace identifier.kind identifier.source
  return identifierRow scope deviceId identifier identityNamespace
    normalizedValue observedAt

def identifierRows (scope : Scope) (deviceId : Uuid)
    (observedAt : Option Timestamp) (identifiers : List NewIdentifier) :
    List IdentifierRow :=
  identifiers.filterMap fun identifier =>
    (identifier.row scope deviceId observedAt).toOption

/-- A row of a device, with the strength of its kind. -/
structure IdentifierRow.Describes (row : IdentifierRow) (scope : Scope)
    (deviceId : Uuid) : Prop where
  deviceId : row.deviceId = deviceId
  scope : row.scope = scope
  strength : row.strength = row.identity.kind.strength

theorem describes_of_mem {scope : Scope} {deviceId : Uuid}
    {observedAt : Option Timestamp} {identifiers : List NewIdentifier}
    {row : IdentifierRow}
    (member : row ∈ identifierRows scope deviceId observedAt identifiers) :
    row.Describes scope deviceId ∧
      ∃ identifier ∈ identifiers, identifier.identity = .ok row.identity := by
  rcases List.mem_filterMap.mp member with ⟨identifier, given, stored⟩
  unfold NewIdentifier.row at stored
  cases isNormalized : normalized identifier with
  | error failure =>
      simp [isNormalized, bind, Except.bind, Except.toOption] at stored
  | ok normalizedValue =>
      cases hasNamespace :
          identityNamespace identifier.kind identifier.source with
      | error failure =>
          simp [isNormalized, hasNamespace, bind, Except.bind,
            Except.toOption] at stored
      | ok sourceNamespace =>
          have isRow : identifierRow scope deviceId identifier sourceNamespace
              normalizedValue observedAt = row := by
            simpa [isNormalized, hasNamespace, bind, Except.bind, pure,
              Except.pure, Except.toOption] using stored
          subst isRow
          exact ⟨⟨rfl, rfl, rfl⟩, identifier, given,
            NewIdentifier.identity_of_parts isNormalized hasNamespace⟩

/-! ## Owners -/

/-- The identifiers of a state belong to devices that are there, and no strong
identity of a scope has two owners. -/
structure IdentifiersSound (db : InventoryDb) : Prop where
  device : ∀ row ∈ db.identifiers.rows,
    (db.deviceIn row.scope row.deviceId).isSome
  strength : ∀ row ∈ db.identifiers.rows,
    row.strength = row.identity.kind.strength
  strongUnique : ∀ left ∈ db.identifiers.rows,
    ∀ right ∈ db.identifiers.rows, left.strength = .strong →
    left.scope = right.scope → left.identity = right.identity →
    left.deviceId = right.deviceId

namespace IdentifiersSound

variable {db : InventoryDb} {scope : Scope} {deviceId : Uuid}
  {identity : IdentifierKey}

/-- The rows of a device are in the scope of the device. -/
theorem scope_eq (sound : IdentifiersSound db)
    (present : (db.deviceIn scope deviceId).isSome) {row : IdentifierRow}
    (member : row ∈ db.identifiers.rows) (ofDevice : row.deviceId = deviceId) :
    row.scope = scope := by
  have other := sound.device row member
  rw [ofDevice] at other
  unfold InventoryDb.deviceIn at present other
  cases found : db.devices.lookup deviceId with
  | none => simp [found] at present
  | some device =>
      have first : device.scope = scope := by
        simpa [found, Option.filter] using present
      have second : device.scope = row.scope := by
        simpa [found, Option.filter] using other
      exact second.symm.trans first

/-- The owner of a strong identity is the device that has a row for it. -/
theorem strongOwner_eq_some_iff (sound : IdentifiersSound db) :
    db.strongOwner scope identity = some deviceId ↔
      identity.kind.strength = .strong ∧
        ∃ row ∈ db.identifiers.rows, row.deviceId = deviceId ∧
          row.scope = scope ∧ row.identity = identity := by
  unfold InventoryDb.strongOwner
  rw [Option.map_eq_some_iff]
  constructor
  · rintro ⟨row, found, rfl⟩
    have member := List.mem_of_find?_eq_some found
    have owns := List.find?_some found
    simp only [InventoryDb.ownsStrong, Bool.and_eq_true, decide_eq_true_eq]
      at owns
    have strength := sound.strength row member
    rw [owns.2, owns.1.2] at strength
    exact ⟨strength.symm, row, member, rfl, owns.1.1, owns.1.2⟩
  · rintro ⟨strong, row, member, rfl, rfl, rfl⟩
    have isStrong : row.strength = .strong :=
      (sound.strength row member).trans strong
    have matched : InventoryDb.ownsStrong row.scope row.identity row = true := by
      simp [InventoryDb.ownsStrong, isStrong]
    have hasOwner : (db.identifiers.rows.find?
        (InventoryDb.ownsStrong row.scope row.identity)).isSome :=
      List.find?_isSome.mpr ⟨row, member, matched⟩
    rcases Option.isSome_iff_exists.mp hasOwner with ⟨owner, found⟩
    have owns := List.find?_some found
    simp only [InventoryDb.ownsStrong, Bool.and_eq_true, decide_eq_true_eq]
      at owns
    exact ⟨owner, found, sound.strongUnique owner
      (List.mem_of_find?_eq_some found) row member owns.2 owns.1.1 owns.1.2⟩

end IdentifiersSound

theorem key_setIdentifier (given stored : IdentifierRow) :
    (setIdentifier given stored).key = stored.key := rfl

/-- The identifiers after one is written. -/
def InventoryDb.withIdentifier (db : InventoryDb) (row : IdentifierRow) :
    InventoryDb :=
  { db with identifiers := db.identifiers.upsert setIdentifier row }

/-- No other device owns the identity of a row, if it is a strong one. -/
def Admits (db : InventoryDb) (row : IdentifierRow) : Prop :=
  row.strength = .strong →
    ∀ owner, db.strongOwner row.scope row.identity = some owner →
      owner = row.deviceId

section Writes

variable {db : InventoryDb} {scope : Scope} {deviceId : Uuid}
  {row : IdentifierRow}

/-- A row after the write is the written one, as far as it identifies a
device, or an old one. -/
theorem mem_withIdentifier (sound : IdentifiersSound db)
    (present : (db.deviceIn scope deviceId).isSome)
    (describes : row.Describes scope deviceId) {changed : IdentifierRow}
    (member : changed ∈ (db.withIdentifier row).identifiers.rows) :
    (changed.Describes scope deviceId ∧ changed.identity = row.identity) ∨
      changed ∈ db.identifiers.rows := by
  rcases Table.mem_put.mp member with written | ⟨old, _⟩
  · left
    cases found : db.identifiers.lookup row.key with
    | none =>
        rw [found] at written
        subst written
        exact ⟨describes, rfl⟩
    | some stored =>
        rw [found] at written
        subst written
        have keyFound : stored.key = row.key := Table.key_of_lookup found
        have sameKey : (stored.deviceId, stored.identity) =
            (row.deviceId, row.identity) := keyFound
        have storedMember := Table.mem_of_lookup found
        have ofDevice : stored.deviceId = deviceId :=
          (Prod.mk.inj sameKey).1.trans describes.deviceId
        have inScope : stored.scope = scope :=
          sound.scope_eq present storedMember ofDevice
        exact ⟨⟨ofDevice, inScope, sound.strength stored storedMember⟩,
          (Prod.mk.inj sameKey).2⟩
  · exact Or.inr old

private theorem IdentifiersSound.withIdentifier (sound : IdentifiersSound db)
    (present : (db.deviceIn scope deviceId).isSome)
    (describes : row.Describes scope deviceId) (admits : Admits db row) :
    IdentifiersSound (db.withIdentifier row) := by
  -- An old row with the identity of the new one belongs to the same device.
  have sameOwner : ∀ old ∈ db.identifiers.rows, old.strength = .strong →
      old.scope = scope → old.identity = row.identity →
      old.deviceId = deviceId := by
    intro old member strong inScope sameIdentity
    have kindStrong : row.identity.kind.strength = .strong := by
      rw [← sameIdentity, ← sound.strength old member]
      exact strong
    have owner : db.strongOwner row.scope row.identity = some old.deviceId :=
      sound.strongOwner_eq_some_iff.mpr ⟨kindStrong, old, member, rfl,
        inScope.trans describes.scope.symm, sameIdentity⟩
    have same := admits (describes.strength.trans kindStrong) _ owner
    exact same.trans describes.deviceId
  have strength : ∀ changed ∈ (db.withIdentifier row).identifiers.rows,
      changed.strength = changed.identity.kind.strength := by
    intro changed member
    rcases mem_withIdentifier sound present describes member with
      ⟨isNew, _⟩ | old
    · exact isNew.strength
    · exact sound.strength changed old
  refine ⟨fun changed member => ?_, strength, ?_⟩
  · rcases mem_withIdentifier sound present describes member with
      ⟨isNew, _⟩ | old
    · rw [isNew.scope, isNew.deviceId]
      exact present
    · exact sound.device changed old
  · intro left leftMember right rightMember strong sameScope sameIdentity
    have rightStrong : right.strength = .strong := by
      rw [strength right rightMember, ← sameIdentity,
        ← strength left leftMember]
      exact strong
    rcases mem_withIdentifier sound present describes leftMember with
      ⟨leftNew, leftIdentity⟩ | leftOld
    · rcases mem_withIdentifier sound present describes rightMember with
        ⟨rightNew, _⟩ | rightOld
      · exact leftNew.deviceId.trans rightNew.deviceId.symm
      · exact leftNew.deviceId.trans
          (sameOwner right rightOld rightStrong
            (sameScope.symm.trans leftNew.scope)
            (sameIdentity.symm.trans leftIdentity)).symm
    · rcases mem_withIdentifier sound present describes rightMember with
        ⟨rightNew, rightIdentity⟩ | rightOld
      · exact (sameOwner left leftOld strong
          (sameScope.trans rightNew.scope)
          (sameIdentity.trans rightIdentity)).trans rightNew.deviceId.symm
      · exact sound.strongUnique left leftOld right rightOld strong sameScope
          sameIdentity

/-- The two statements that write an identifier. -/
def storeIdentifier (row : IdentifierRow) : Store Unit := do
  let updated ← query (.updateIdentifier row)
  if 0 < updated then
    pure ()
  else
    Program.statement (D := inventorySql) (.insertIdentifier row)
      insertIdentifierFault

theorem upsertIdentifier_eq {observedAt : Option Timestamp}
    {identifier : NewIdentifier} :
    upsertIdentifier scope deviceId observedAt identifier = (do
      Program.ofExcept identifier.validate
      let row ← Program.ofExcept (identifier.row scope deviceId observedAt)
      storeIdentifier row) := by
  unfold upsertIdentifier NewIdentifier.row
  cases normalized identifier with
  | error failure => rfl
  | ok normalizedValue =>
      cases identityNamespace identifier.kind identifier.source with
      | error failure => rfl
      | ok sourceNamespace => rfl

variable {committed : InventoryDb}

/-- A device may write its own identifiers again. -/
theorem admits_of_lookup (sound : IdentifiersSound db)
    (present : (db.deviceIn scope deviceId).isSome)
    (describes : row.Describes scope deviceId) {stored : IdentifierRow}
    (found : db.identifiers.lookup row.key = some stored) : Admits db row := by
  intro strong owner hasOwner
  have keyFound : stored.key = row.key := Table.key_of_lookup found
  have sameKey : (stored.deviceId, stored.identity) =
      (row.deviceId, row.identity) := keyFound
  have member := Table.mem_of_lookup found
  have ofDevice := (Prod.mk.inj sameKey).1.trans describes.deviceId
  have own : db.strongOwner row.scope row.identity = some row.deviceId := by
    refine sound.strongOwner_eq_some_iff.mpr
      ⟨describes.strength.symm.trans strong, stored, member,
        (Prod.mk.inj sameKey).1, ?_, (Prod.mk.inj sameKey).2⟩
    exact (sound.scope_eq present member ofDevice).trans describes.scope.symm
  exact Option.some.inj (hasOwner.symm.trans own)

private theorem exec_insertIdentifier_new
    (present : (db.deviceIn scope deviceId).isSome)
    (describes : row.Describes scope deviceId)
    (absent : db.identifiers.lookup row.key = none) :
    inventorySql.exec (.insertIdentifier row) db =
      if row.strength = .strong ∧
          (db.strongOwner row.scope row.identity).isSome then
        .error (.uniqueViolation "uq_device_strong_identifier_scope")
      else
        .ok ((), [.identifier row]) := by
  have known : ¬(db.deviceIn row.scope row.deviceId).isNone = true := by
    rw [describes.scope, describes.deviceId, Option.isNone_iff_eq_none]
    exact Option.isSome_iff_ne_none.mp present
  simp only [execInsertIdentifier, absent, Option.isSome_none,
    Bool.false_eq_true, if_false, if_neg known]

/-- An identifier is written unless it is a strong one of another device. -/
theorem eval_storeIdentifier (sound : IdentifiersSound db)
    (present : (db.deviceIn scope deviceId).isSome)
    (describes : row.Describes scope deviceId) :
    (Admits db row ∧ (storeIdentifier row).eval ⟨committed, db⟩ =
        (.ok (), ⟨committed, db.withIdentifier row⟩)) ∨
      (¬Admits db row ∧ (storeIdentifier row).eval ⟨committed, db⟩ =
        (.error .duplicateIdentifier, .fresh committed)) := by
  cases found : db.identifiers.lookup row.key with
  | some stored =>
      left
      have keyFound : stored.key = row.key := Table.key_of_lookup found
      have sameKey : (stored.deviceId, stored.identity) =
          (row.deviceId, row.identity) := keyFound
      have inScope : stored.scope = row.scope :=
        (sound.scope_eq present (Table.mem_of_lookup found)
          ((Prod.mk.inj sameKey).1.trans describes.deviceId)).trans
            describes.scope.symm
      have updated : inventorySql.exec (.updateIdentifier row) db =
          .ok (1, [.identifier (setIdentifier row stored)]) := by
        simp [execUpdateIdentifier, found, Option.filter, inScope]
      refine ⟨admits_of_lookup sound present describes found, ?_⟩
      rw [storeIdentifier, query, Program.eval_statement_bind_ok updated,
        if_pos Nat.one_pos, InventoryDb.withIdentifier, Table.upsert, found]
      rfl
  | none =>
      have updated : inventorySql.exec (.updateIdentifier row) db =
          .ok (0, []) := by
        simp [execUpdateIdentifier, found]
      have inserted := exec_insertIdentifier_new present describes found
      rw [storeIdentifier, query, Program.eval_statement_bind_ok updated,
        if_neg (Nat.lt_irrefl 0), Database.applyAll_nil]
      by_cases taken : row.strength = .strong ∧
          (db.strongOwner row.scope row.identity).isSome
      · right
        rw [if_pos taken] at inserted
        constructor
        · intro admits
          rcases Option.isSome_iff_exists.mp taken.2 with ⟨owner, hasOwner⟩
          have same := admits taken.1 owner hasOwner
          rcases sound.strongOwner_eq_some_iff.mp hasOwner with
            ⟨_, stored, member, ofOwner, _, sameIdentity⟩
          have sameKey : stored.key = row.key :=
            Prod.ext (ofOwner.trans same) sameIdentity
          exact Table.lookup_eq_none_iff.mp found stored member sameKey
        · exact Program.eval_exec_error inserted
      · left
        rw [if_neg taken] at inserted
        constructor
        · intro strong owner hasOwner
          exact absurd ⟨strong, Option.isSome_of_eq_some hasOwner⟩ taken
        · rw [InventoryDb.withIdentifier, Table.upsert, found]
          exact Program.eval_exec_ok inserted

private theorem Admits.withIdentifier {other : IdentifierRow}
    (admits : Admits db other) (sound : IdentifiersSound db)
    (present : (db.deviceIn scope deviceId).isSome)
    (describes : row.Describes scope deviceId)
    (otherDescribes : other.Describes scope deviceId)
    (soundAfter : IdentifiersSound (db.withIdentifier row)) :
    Admits (db.withIdentifier row) other := by
  intro strong owner hasOwner
  rcases soundAfter.strongOwner_eq_some_iff.mp hasOwner with
    ⟨kindStrong, changed, member, ofOwner, inScope, sameIdentity⟩
  rcases mem_withIdentifier sound present describes member with
    ⟨isNew, _⟩ | old
  · rw [← ofOwner, isNew.deviceId, otherDescribes.deviceId]
  · exact admits strong owner (sound.strongOwner_eq_some_iff.mpr
      ⟨kindStrong, changed, old, ofOwner, inScope, sameIdentity⟩)

/-- The state after several identifiers are written. -/
def InventoryDb.withIdentifiers (db : InventoryDb)
    (rows : List IdentifierRow) : InventoryDb :=
  { db with identifiers := db.identifiers.upsertAll setIdentifier rows }

private theorem withIdentifiers_cons (first : IdentifierRow)
    (rest : List IdentifierRow) :
    db.withIdentifiers (first :: rest) =
      (db.withIdentifier first).withIdentifiers rest := rfl

theorem IdentifiersSound.withIdentifiers {rows : List IdentifierRow}
    (sound : IdentifiersSound db)
    (present : (db.deviceIn scope deviceId).isSome)
    (describe : ∀ row ∈ rows, row.Describes scope deviceId)
    (admits : ∀ row ∈ rows, Admits db row) :
    IdentifiersSound (db.withIdentifiers rows) := by
  induction rows generalizing db with
  | nil => exact sound
  | cons first rest inductionHypothesis =>
      have firstDescribes := describe first (List.mem_cons_self ..)
      have soundAfter := sound.withIdentifier present firstDescribes
        (admits first (List.mem_cons_self ..))
      rw [withIdentifiers_cons]
      apply inductionHypothesis soundAfter present
      · exact fun row member => describe row (List.mem_cons_of_mem _ member)
      · intro row member
        have later := List.mem_cons_of_mem first member
        exact (admits row later).withIdentifier sound present firstDescribes
          (describe row later) soundAfter

/-- One round of the loop. -/
theorem eval_upsertIdentifier (sound : IdentifiersSound db)
    (present : (db.deviceIn scope deviceId).isSome)
    {observedAt : Option Timestamp} {identifier : NewIdentifier}
    (isRow : identifier.row scope deviceId observedAt = .ok row)
    (valid : identifier.validate = .ok ())
    (describes : row.Describes scope deviceId) (admits : Admits db row) :
    (upsertIdentifier scope deviceId observedAt identifier).eval
        ⟨committed, db⟩ = (.ok (), ⟨committed, db.withIdentifier row⟩) := by
  rcases eval_storeIdentifier sound present describes with
    ⟨_, stored⟩ | ⟨refused, _⟩
  · rw [upsertIdentifier_eq, valid, isRow]
    exact stored
  · exact absurd admits refused

theorem row_of_validate (scope : Scope) (deviceId : Uuid)
    (observedAt : Option Timestamp) {identifier : NewIdentifier}
    (valid : identifier.validate = .ok ()) :
    ∃ row, identifier.row scope deviceId observedAt = .ok row ∧
      identifier.identity = .ok row.identity := by
  rcases NewIdentifier.exists_identity valid with
    ⟨normalizedValue, sourceNamespace, isNormalized, hasNamespace⟩
  refine ⟨identifierRow scope deviceId identifier sourceNamespace
    normalizedValue observedAt, ?_, ?_⟩
  · rw [NewIdentifier.row, isNormalized, hasNamespace]
    rfl
  · exact NewIdentifier.identity_of_parts isNormalized hasNamespace

theorem identifierRows_cons {observedAt : Option Timestamp}
    {identifier : NewIdentifier} (rest : List NewIdentifier)
    (isRow : identifier.row scope deviceId observedAt = .ok row) :
    identifierRows scope deviceId observedAt (identifier :: rest) =
      row :: identifierRows scope deviceId observedAt rest := by
  rw [identifierRows, List.filterMap_cons, isRow]
  rfl

/-- Checked identifiers are written if no strong one has another owner. -/
theorem eval_upsertIdentifiers {observedAt : Option Timestamp}
    {identifiers : List NewIdentifier} (sound : IdentifiersSound db)
    (present : (db.deviceIn scope deviceId).isSome)
    (valid : ∀ identifier ∈ identifiers, identifier.validate = .ok ())
    (admits : ∀ row ∈ identifierRows scope deviceId observedAt identifiers,
      Admits db row) :
    (Program.forEach (upsertIdentifier scope deviceId observedAt)
        identifiers).eval ⟨committed, db⟩ =
      (.ok (), ⟨committed, db.withIdentifiers
        (identifierRows scope deviceId observedAt identifiers)⟩) := by
  induction identifiers generalizing db with
  | nil => rfl
  | cons first rest inductionHypothesis =>
      have firstValid := valid first (List.mem_cons_self ..)
      rcases row_of_validate scope deviceId observedAt firstValid with
        ⟨row, isRow, _⟩
      have rows := identifierRows_cons rest isRow
      have isMember : row ∈ identifierRows scope deviceId observedAt
          (first :: rest) := by
        rw [rows]
        exact List.mem_cons_self ..
      have describes := (describes_of_mem isMember).1
      have rowAdmits := admits row isMember
      have soundAfter := sound.withIdentifier present describes rowAdmits
      have written : (upsertIdentifier scope deviceId observedAt first).eval
          ⟨committed, db⟩ = (.ok (), ⟨committed, db.withIdentifier row⟩) :=
        eval_upsertIdentifier sound present isRow firstValid describes
          rowAdmits
      rw [Program.forEach_cons, Program.eval_bind_ok written, rows,
        withIdentifiers_cons]
      apply inductionHypothesis soundAfter present
      · exact fun identifier member =>
          valid identifier (List.mem_cons_of_mem first member)
      · intro other member
        have later : other ∈ identifierRows scope deviceId observedAt
            (first :: rest) := by
          rw [rows]
          exact List.mem_cons_of_mem row member
        exact (admits other later).withIdentifier sound present describes
          (describes_of_mem later).1 soundAfter

/-- Identifiers that have been written were free to be. -/
theorem eval_upsertIdentifiers_eq_ok {observedAt : Option Timestamp}
    {identifiers : List NewIdentifier} {reached : Connection inventorySql}
    (sound : IdentifiersSound db)
    (present : (db.deviceIn scope deviceId).isSome)
    (ended : (Program.forEach (upsertIdentifier scope deviceId observedAt)
        identifiers).eval ⟨committed, db⟩ = (.ok (), reached)) :
    reached = ⟨committed, db.withIdentifiers
        (identifierRows scope deviceId observedAt identifiers)⟩ ∧
      IdentifiersSound reached.working := by
  induction identifiers generalizing db with
  | nil =>
      have same := (Program.eval_pure_eq_ok ended).2
      rw [same]
      exact ⟨rfl, sound⟩
  | cons first rest inductionHypothesis =>
      rw [Program.forEach_cons] at ended
      rcases Program.eval_bind_eq_ok ended with ⟨_, middle, written, later⟩
      rw [upsertIdentifier_eq] at written
      rcases Program.eval_bind_eq_ok written with ⟨_, _, checked, written⟩
      have unchanged := (Program.eval_ofExcept_eq_ok checked).2
      rw [unchanged] at written
      rcases Program.eval_bind_eq_ok written with ⟨row, _, built, written⟩
      rcases Program.eval_ofExcept_eq_ok built with ⟨isRow, unchanged⟩
      rw [unchanged] at written
      have rows := identifierRows_cons rest isRow
      have isMember : row ∈ identifierRows scope deviceId observedAt
          (first :: rest) := by
        rw [rows]
        exact List.mem_cons_self ..
      have describes := (describes_of_mem isMember).1
      rcases eval_storeIdentifier sound present describes with
        ⟨admits, stored⟩ | ⟨_, refused⟩
      · have isMiddle := (Prod.mk.inj (stored.symm.trans written)).2
        rw [← isMiddle] at later
        rw [rows, withIdentifiers_cons]
        exact inductionHypothesis
          (sound.withIdentifier present describes admits) present later
      · exact absurd (refused.symm.trans written) (by simp)

end Writes

end NetworkManager.InventoryStore
