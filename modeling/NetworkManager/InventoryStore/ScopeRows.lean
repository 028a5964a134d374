import Mathlib.Data.Multiset.Filter
import NetworkManager.InventoryStore.Mutations

/-!
# The rows of a scope

What the inventory holds for one site of one organization.  A statement of that
scope is answered from these rows, given the constraints of the schema, and its
writes leave the rows of every other scope alone.
-/

namespace NetworkManager.InventoryStore

open NetworkManager.Foundation
open NetworkManager.Domain.Inventory
open NetworkManager.Transaction

/-- The devices of a scope with their identifiers, facts and events. -/
structure ScopeRows where
  devices : Uuid → Option DeviceView
  identifiers : Uuid × IdentifierKey → Option IdentifierRow
  facts : FactKey → Option FactRow
  lifecycleEvents : Multiset LifecycleEvent

def InventoryDb.rowsOf (db : InventoryDb) (scope : Scope) : ScopeRows where
  devices := db.deviceIn scope
  identifiers key := (db.identifiers.lookup key).filter fun row =>
    row.scope = scope
  facts key := (db.facts.lookup key).filter fun row => row.scope = scope
  lifecycleEvents := db.lifecycleEvents.filter fun event =>
    event.scope = scope

/-- The foreign keys of identifiers and facts, and the unique index on strong
identifiers. -/
structure Constrained (db : InventoryDb) : Prop where
  identifierDevice : ∀ row ∈ db.identifiers.rows,
    (db.deviceIn row.scope row.deviceId).isSome
  factDevice : ∀ row ∈ db.facts.rows,
    (db.deviceIn row.scope row.key.deviceId).isSome
  strongUnique : ∀ left ∈ db.identifiers.rows,
    ∀ right ∈ db.identifiers.rows,
    left.strength = .strong → right.strength = .strong →
    left.scope = right.scope → left.identity = right.identity →
    left.deviceId = right.deviceId

section Rows

variable {db left right : InventoryDb} {scope : Scope} {deviceId : Uuid}

/-- A device is in one scope. -/
theorem scope_eq_of_deviceIn {other : Scope}
    (present : (db.deviceIn scope deviceId).isSome)
    (presentThere : (db.deviceIn other deviceId).isSome) : other = scope := by
  rcases Option.isSome_iff_exists.mp present with ⟨device, found⟩
  rcases Option.isSome_iff_exists.mp presentThere with ⟨same, foundThere⟩
  rcases deviceIn_eq_some_iff.mp found with ⟨stored, inScope⟩
  rcases deviceIn_eq_some_iff.mp foundThere with ⟨storedThere, inOther⟩
  cases stored.symm.trans storedThere
  exact inOther.symm.trans inScope

private theorem filter_eq_self {α : Type} {found : Option α} {holds : α → Bool}
    (all : ∀ value, found = some value → holds value = true) :
    found.filter holds = found := by
  cases found with
  | none => rfl
  | some value => simp [Option.filter, all value rfl]

/-- The identifiers of a device of the scope are rows of the scope. -/
theorem Constrained.identifiers_rowsOf (constrained : Constrained db)
    (present : (db.deviceIn scope deviceId).isSome)
    (identity : IdentifierKey) :
    (db.rowsOf scope).identifiers (deviceId, identity) =
      db.identifiers.lookup (deviceId, identity) := by
  apply filter_eq_self
  intro row found
  have isKey := Table.key_of_lookup found
  have ofDevice : row.deviceId = deviceId := congrArg Prod.fst isKey
  have there := constrained.identifierDevice row (Table.mem_of_lookup found)
  rw [ofDevice] at there
  exact decide_eq_true (scope_eq_of_deviceIn present there)

theorem Constrained.facts_rowsOf (constrained : Constrained db) {key : FactKey}
    (present : (db.deviceIn scope key.deviceId).isSome) :
    (db.rowsOf scope).facts key = db.facts.lookup key := by
  apply filter_eq_self
  intro row found
  have isKey := Table.key_of_lookup found
  have there := constrained.factDevice row (Table.mem_of_lookup found)
  rw [isKey] at there
  exact decide_eq_true (scope_eq_of_deviceIn present there)

theorem devices_rowsOf (present : (db.deviceIn scope deviceId).isSome) :
    (db.rowsOf scope).devices deviceId = db.devices.lookup deviceId := by
  rcases Option.isSome_iff_exists.mp present with ⟨device, found⟩
  exact found.trans (deviceIn_eq_some_iff.mp found).1.symm

/-- The owner of a strong identity, from the rows of its scope. -/
theorem Constrained.strongOwner_eq_some_iff (constrained : Constrained db)
    {identity : IdentifierKey} :
    db.strongOwner scope identity = some deviceId ↔
      ∃ row, (db.rowsOf scope).identifiers (deviceId, identity) = some row ∧
        row.strength = .strong := by
  unfold InventoryDb.strongOwner
  rw [Option.map_eq_some_iff]
  constructor
  · rintro ⟨row, found, rfl⟩
    have owns := List.find?_some found
    simp only [InventoryDb.ownsStrong, Bool.and_eq_true, decide_eq_true_eq]
      at owns
    rcases owns with ⟨⟨inScope, rfl⟩, strong⟩
    refine ⟨row, ?_, strong⟩
    have stored := Table.lookup_of_mem (List.mem_of_find?_eq_some found)
    exact Option.filter_eq_some_iff.mpr ⟨stored, decide_eq_true inScope⟩
  · rintro ⟨row, found, strong⟩
    rcases Option.filter_eq_some_iff.mp found with ⟨stored, inScope⟩
    have member := Table.mem_of_lookup stored
    have isKey : row.key = (deviceId, identity) := Table.key_of_lookup stored
    rcases Prod.mk.inj isKey with ⟨isDevice, isIdentity⟩
    have sameScope : row.scope = scope := of_decide_eq_true inScope
    have matched : InventoryDb.ownsStrong scope identity row = true := by
      simp [InventoryDb.ownsStrong, sameScope, isIdentity, strong]
    have hasOwner : (db.identifiers.rows.find?
        (InventoryDb.ownsStrong scope identity)).isSome :=
      List.find?_isSome.mpr ⟨row, member, matched⟩
    rcases Option.isSome_iff_exists.mp hasOwner with ⟨owner, isOwner⟩
    have owns := List.find?_some isOwner
    simp only [InventoryDb.ownsStrong, Bool.and_eq_true, decide_eq_true_eq]
      at owns
    rcases owns with ⟨⟨ownerScope, ownerIdentity⟩, ownerStrong⟩
    refine ⟨owner, isOwner, ?_⟩
    rw [← isDevice]
    exact constrained.strongUnique owner (List.mem_of_find?_eq_some isOwner)
      row member ownerStrong strong (ownerScope.trans sameScope.symm)
      (ownerIdentity.trans isIdentity.symm)

/-- A declared fact about a device, from the rows of its scope. -/
theorem Constrained.hasDeclaredFact_iff (constrained : Constrained db)
    (present : (db.deviceIn scope deviceId).isSome) {field : Field} :
    db.hasDeclaredFact deviceId field = true ↔
      ∃ key, (db.rowsOf scope).facts key ≠ none ∧ key.deviceId = deviceId ∧
        key.fieldName = field ∧ key.provenance = .declared := by
  simp only [InventoryDb.hasDeclaredFact, List.any_eq_true, Bool.and_eq_true,
    decide_eq_true_eq]
  constructor
  · rintro ⟨fact, member, ⟨isDevice, isField⟩, isDeclared⟩
    refine ⟨fact.key, ?_, isDevice, isField, isDeclared⟩
    rw [constrained.facts_rowsOf (isDevice ▸ present),
      Table.lookup_of_mem member]
    exact Option.some_ne_none fact
  · rintro ⟨key, isStored, isDevice, isField, isDeclared⟩
    rw [constrained.facts_rowsOf (isDevice ▸ present)] at isStored
    rcases Option.ne_none_iff_exists'.mp isStored with ⟨fact, found⟩
    have isKey := Table.key_of_lookup found
    refine ⟨fact, Table.mem_of_lookup found, ⟨?_, ?_⟩, ?_⟩
    · rw [isKey, isDevice]
    · rw [isKey, isField]
    · rw [isKey, isDeclared]

end Rows

/-! ## Writes -/

/-- The write is about a device of the scope, and keeps the constraints. -/
def Write.Within (scope : Scope) (db : InventoryDb) : Write → Prop
  | .device row => row.scope = scope ∧
      ∀ stored, db.devices.lookup row.id = some stored → stored.scope = scope
  | .identifier row => row.scope = scope ∧
      (db.deviceIn scope row.deviceId).isSome ∧
      ∀ stored ∈ db.identifiers.rows, row.strength = .strong →
        stored.strength = .strong → stored.scope = row.scope →
        stored.identity = row.identity → stored.deviceId = row.deviceId
  | .fact row => row.scope = scope ∧
      (db.deviceIn scope row.key.deviceId).isSome
  | .lifecycleEvent event => event.scope = scope
  | .audit _ => False
  | .outbox _ => False

section Writes

variable {db left right : InventoryDb} {scope other : Scope} {write : Write}

private theorem filter_scope_put {κ α : Type} [DecidableEq κ] {key : α → κ}
    {inScope : α → Bool} {row : α} {left right : Table κ α key}
    (same : ∀ wanted, (left.lookup wanted).filter inScope =
      (right.lookup wanted).filter inScope) (wanted : κ) :
    ((left.put row).lookup wanted).filter inScope =
      ((right.put row).lookup wanted).filter inScope := by
  rw [Table.lookup_put, Table.lookup_put]
  by_cases isRow : key row = wanted
  · rw [if_pos isRow, if_pos isRow]
  · rw [if_neg isRow, if_neg isRow]
    exact same wanted

/-- Equal writes keep two states equal on a scope. -/
theorem rowsOf_applyWrite_congr (write : Write)
    (same : left.rowsOf scope = right.rowsOf scope) :
    (applyWrite write left).rowsOf scope =
      (applyWrite write right).rowsOf scope := by
  have devices (deviceId : Uuid) : left.deviceIn scope deviceId =
      right.deviceIn scope deviceId :=
    congrFun (congrArg ScopeRows.devices same) deviceId
  have identifiers := congrFun (congrArg ScopeRows.identifiers same)
  have facts := congrFun (congrArg ScopeRows.facts same)
  have events := congrArg ScopeRows.lifecycleEvents same
  cases write with
  | device row =>
      refine ScopeRows.mk.injEq .. |>.mpr ⟨?_, ?_, ?_, events⟩
      · exact funext (filter_scope_put devices)
      · exact funext identifiers
      · exact funext facts
  | identifier row =>
      refine ScopeRows.mk.injEq .. |>.mpr ⟨?_, ?_, ?_, events⟩
      · exact funext devices
      · exact funext (filter_scope_put identifiers)
      · exact funext facts
  | fact row =>
      refine ScopeRows.mk.injEq .. |>.mpr ⟨?_, ?_, ?_, events⟩
      · exact funext devices
      · exact funext identifiers
      · exact funext (filter_scope_put facts)
  | lifecycleEvent event =>
      refine ScopeRows.mk.injEq .. |>.mpr ⟨?_, ?_, ?_, ?_⟩
      · exact funext devices
      · exact funext identifiers
      · exact funext facts
      · simp only [applyWrite, List.filter_append, ← Multiset.coe_add]
        exact congrArg (· + _) events
  | audit row => exact same
  | outbox given => exact same

private theorem filter_put_of_ne {κ α : Type} [DecidableEq κ] {key : α → κ}
    {inScope : α → Bool} {row : α} {table : Table κ α key}
    (isOther : inScope row = false)
    (wasOther : ∀ stored, table.lookup (key row) = some stored →
      inScope stored = false) (wanted : κ) :
    ((table.put row).lookup wanted).filter inScope =
      (table.lookup wanted).filter inScope := by
  rw [Table.lookup_put]
  by_cases isRow : key row = wanted
  · subst isRow
    rw [if_pos rfl]
    cases found : table.lookup (key row) with
    | none => simp [Option.filter, isOther]
    | some stored => simp [Option.filter, isOther, wasOther stored found]
  · rw [if_neg isRow]

/-- A write within a scope leaves the rows of the other scopes alone. -/
theorem rowsOf_applyWrite_of_ne (constrained : Constrained db)
    (within : write.Within scope db) (different : other ≠ scope) :
    (applyWrite write db).rowsOf other = db.rowsOf other := by
  have isOther {given : Scope} (inScope : given = scope) :
      decide (given = other) = false := by
    rw [inScope]
    exact decide_eq_false (Ne.symm different)
  cases write with
  | device row =>
      rcases within with ⟨inScope, wasInScope⟩
      have devices := @filter_put_of_ne _ _ _ _
        (fun device : DeviceView => decide (device.scope = other)) row
        db.devices (isOther inScope)
        fun stored found => isOther (wasInScope stored found)
      exact ScopeRows.mk.injEq .. |>.mpr ⟨funext devices, rfl, rfl, rfl⟩
  | identifier row =>
      rcases within with ⟨inScope, present, _⟩
      have identifiers := @filter_put_of_ne _ _ _ _
        (fun stored : IdentifierRow => decide (stored.scope = other)) row
        db.identifiers (isOther inScope) fun stored found => by
          have isKey := Table.key_of_lookup found
          have ofDevice : stored.deviceId = row.deviceId :=
            congrArg Prod.fst isKey
          have there := constrained.identifierDevice stored
            (Table.mem_of_lookup found)
          rw [ofDevice] at there
          exact isOther (scope_eq_of_deviceIn present there)
      exact ScopeRows.mk.injEq .. |>.mpr ⟨rfl, funext identifiers, rfl, rfl⟩
  | fact row =>
      rcases within with ⟨inScope, present⟩
      have facts := @filter_put_of_ne _ _ _ _
        (fun stored : FactRow => decide (stored.scope = other)) row
        db.facts (isOther inScope) fun stored found => by
          have there := constrained.factDevice stored
            (Table.mem_of_lookup found)
          rw [Table.key_of_lookup found] at there
          exact isOther (scope_eq_of_deviceIn present there)
      exact ScopeRows.mk.injEq .. |>.mpr ⟨rfl, rfl, funext facts, rfl⟩
  | lifecycleEvent event =>
      refine ScopeRows.mk.injEq .. |>.mpr ⟨rfl, rfl, rfl, ?_⟩
      simp only [applyWrite, List.filter_append]
      rw [List.filter_cons_of_neg (by simpa using isOther within),
        List.filter_nil, List.append_nil]
  | audit row => exact within.elim
  | outbox given => exact within.elim

/-- No device leaves its scope. -/
theorem deviceIn_applyWrite (within : write.Within scope db)
    {deviceId : Uuid} (present : (db.deviceIn other deviceId).isSome) :
    ((applyWrite write db).deviceIn other deviceId).isSome := by
  cases write with
  | device row =>
      rcases within with ⟨inScope, wasInScope⟩
      rcases Option.isSome_iff_exists.mp present with ⟨device, found⟩
      rcases deviceIn_eq_some_iff.mp found with ⟨stored, isOther⟩
      by_cases isRow : row.id = deviceId
      · subst isRow
        have sameScope : row.scope = other :=
          inScope.trans ((wasInScope device stored).symm.trans isOther)
        have after : (applyWrite (.device row) db).deviceIn other row.id =
            some row :=
          deviceIn_eq_some_iff.mpr
            ⟨Table.lookup_put_self row db.devices, sameScope⟩
        rw [after]
        rfl
      · have after : (applyWrite (.device row) db).deviceIn other deviceId =
            some device :=
          deviceIn_eq_some_iff.mpr
            ⟨(Table.lookup_put_of_ne isRow).trans stored, isOther⟩
        rw [after]
        rfl
  | identifier row => exact present
  | fact row => exact present
  | lifecycleEvent event => exact present
  | audit row => exact present
  | outbox given => exact present

theorem Constrained.applyWrite (constrained : Constrained db)
    (within : write.Within scope db) :
    Constrained (applyWrite write db) := by
  have devices {given : Scope} {deviceId : Uuid}
      (present : (db.deviceIn given deviceId).isSome) :=
    deviceIn_applyWrite within present
  cases write with
  | device row =>
      exact ⟨fun stored member =>
          devices (constrained.identifierDevice stored member),
        fun stored member => devices (constrained.factDevice stored member),
        constrained.strongUnique⟩
  | identifier row =>
      rcases within with ⟨rfl, present, unique⟩
      refine ⟨?_, constrained.factDevice, ?_⟩
      · intro stored member
        rcases Table.mem_put.mp member with rfl | ⟨old, _⟩
        · exact present
        · exact constrained.identifierDevice stored old
      · intro first firstMember second secondMember firstStrong secondStrong
          sameScope sameIdentity
        rcases Table.mem_put.mp firstMember with rfl | ⟨firstOld, _⟩
        · rcases Table.mem_put.mp secondMember with rfl | ⟨secondOld, _⟩
          · rfl
          · exact (unique second secondOld firstStrong secondStrong
              sameScope.symm sameIdentity.symm).symm
        · rcases Table.mem_put.mp secondMember with rfl | ⟨secondOld, _⟩
          · exact unique first firstOld secondStrong firstStrong sameScope
              sameIdentity
          · exact constrained.strongUnique first firstOld second secondOld
              firstStrong secondStrong sameScope sameIdentity
  | fact row =>
      rcases within with ⟨rfl, present⟩
      refine ⟨constrained.identifierDevice, ?_, constrained.strongUnique⟩
      intro stored member
      rcases Table.mem_put.mp member with rfl | ⟨old, _⟩
      · exact present
      · exact constrained.factDevice stored old
  | lifecycleEvent event =>
      exact ⟨constrained.identifierDevice, constrained.factDevice,
        constrained.strongUnique⟩
  | audit row => exact within.elim
  | outbox given => exact within.elim

end Writes

end NetworkManager.InventoryStore
