import NetworkManager.InventoryStore.ScopeRows
import NetworkManager.InventoryStore.Search

/-!
# Isolated lists

A page of the devices of a scope is made from the rows of the scope: no two
devices have the same place in the order, so the order in which the table
happens to hold them does not matter.
-/

namespace NetworkManager.InventoryStore

open NetworkManager.Foundation
open NetworkManager.Domain.Inventory

/-- Two states agree on the interfaces of a scope and on their addresses. -/
structure NetworkAlike (scope : Scope) (left right : NetworkDb) : Prop where
  interfaces : ∀ row : InterfaceRow, row.scope = scope →
    (row ∈ left.interfaces ↔ row ∈ right.interfaces)
  addresses : ∀ interface ∈ left.interfaces, interface.scope = scope →
    ∀ address : AddressRow, address.interfaceId = some interface.id →
      (address ∈ left.addresses ↔ address ∈ right.addresses)

instance : Std.Total changedAfter where
  total left right := by
    unfold changedAfter
    rcases lt_trichotomy left.lastChangedAt right.lastChangedAt with
      earlier | same | later
    · exact Or.inr (Or.inl earlier)
    · rcases le_total right.id left.id with inOrder | inOrder
      · exact Or.inl (Or.inr ⟨same.symm, inOrder⟩)
      · exact Or.inr (Or.inr ⟨same, inOrder⟩)
    · exact Or.inl (Or.inl later)

instance : IsTrans DeviceView changedAfter where
  trans first second third before after := by
    unfold changedAfter at before after ⊢
    rcases before with later | ⟨same, inOrder⟩
    · rcases after with stillLater | ⟨same, _⟩
      · exact Or.inl (stillLater.trans later)
      · exact Or.inl (same ▸ later)
    · rcases after with later | ⟨sameToo, inOrderToo⟩
      · exact Or.inl (same ▸ later)
      · exact Or.inr ⟨sameToo.trans same, inOrderToo.trans inOrder⟩

theorem id_eq_of_changedAfter {left right : DeviceView}
    (before : changedAfter left right) (after : changedAfter right left) :
    left.id = right.id := by
  unfold changedAfter at before after
  rcases before with later | ⟨same, inOrder⟩
  · rcases after with earlier | ⟨same, _⟩
    · exact absurd later earlier.asymm
    · exact absurd same later.ne'
  · rcases after with later | ⟨_, inOrderToo⟩
    · exact absurd same later.ne'
    · exact le_antisymm inOrderToo inOrder

/-- An answer depends on the rows that count. -/
theorem any_eq_any {α : Type} {left right : List α} {counts : α → Bool}
    (same : ∀ row, counts row = true → (row ∈ left ↔ row ∈ right)) :
    left.any counts = right.any counts := by
  rw [Bool.eq_iff_iff, List.any_eq_true, List.any_eq_true]
  constructor
  · rintro ⟨row, member, isCounted⟩
    exact ⟨row, (same row isCounted).mp member, isCounted⟩
  · rintro ⟨row, member, isCounted⟩
    exact ⟨row, (same row isCounted).mpr member, isCounted⟩

section Lists

variable {lower : String → String} {scope : Scope} {left right : InventoryDb}
  {leftNetwork rightNetwork : NetworkDb} {device : DeviceView}

private theorem mem_devices_congr
    (same : left.rowsOf scope = right.rowsOf scope)
    (inScope : device.scope = scope) :
    device ∈ left.devices.rows ↔ device ∈ right.devices.rows := by
  have isRow (db : InventoryDb) : device ∈ db.devices.rows ↔
      (db.rowsOf scope).devices device.id = some device := by
    constructor
    · intro member
      exact deviceIn_eq_some_iff.mpr ⟨Table.lookup_of_mem member, inScope⟩
    · intro found
      exact Table.mem_of_lookup (deviceIn_eq_some_iff.mp found).1
  rw [isRow left, isRow right, same]

private theorem mem_identifiers_congr
    (same : left.rowsOf scope = right.rowsOf scope)
    {row : IdentifierRow} (inScope : row.scope = scope) :
    row ∈ left.identifiers.rows ↔ row ∈ right.identifiers.rows := by
  have isRow (db : InventoryDb) : row ∈ db.identifiers.rows ↔
      (db.rowsOf scope).identifiers row.key = some row := by
    constructor
    · intro member
      exact Option.filter_eq_some_iff.mpr
        ⟨Table.lookup_of_mem member, decide_eq_true inScope⟩
    · intro found
      exact Table.mem_of_lookup (Option.filter_eq_some_iff.mp found).1
  rw [isRow left, isRow right, same]

/-- A search looks at the rows of the scope of the device. -/
theorem matchesSearch_congr (same : left.rowsOf scope = right.rowsOf scope)
    (network : NetworkAlike scope leftNetwork rightNetwork) (search : String)
    (inScope : device.scope = scope) :
    matchesSearch lower left leftNetwork search device =
      matchesSearch lower right rightNetwork search device := by
  unfold matchesSearch
  dsimp only
  congr 1
  · congr 1
    apply any_eq_any
    intro row isCounted
    simp only [Bool.and_eq_true, decide_eq_true_eq] at isCounted
    exact mem_identifiers_congr same (isCounted.1.2.trans inScope)
  · have sameAddresses : ∀ interface ∈ leftNetwork.interfaces,
        interface.scope = scope → ∀ isHost : AddressRow → Bool,
        (leftNetwork.addresses.any fun address =>
            decide (address.interfaceId = some interface.id) &&
              isHost address) =
          rightNetwork.addresses.any fun address =>
            decide (address.interfaceId = some interface.id) &&
              isHost address := by
      intro interface member inScope isHost
      apply any_eq_any
      intro address isCounted
      simp only [Bool.and_eq_true, decide_eq_true_eq] at isCounted
      exact network.addresses interface member inScope address isCounted.1
    rw [Bool.eq_iff_iff, List.any_eq_true, List.any_eq_true]
    simp only [Bool.and_eq_true, decide_eq_true_eq]
    constructor
    · rintro ⟨interface, member, ⟨isDevice, sameScope⟩, isHost⟩
      have interfaceScope := sameScope.trans inScope
      rw [sameAddresses interface member interfaceScope] at isHost
      exact ⟨interface, (network.interfaces interface interfaceScope).mp member,
        ⟨isDevice, sameScope⟩, isHost⟩
    · rintro ⟨interface, member, ⟨isDevice, sameScope⟩, isHost⟩
      have interfaceScope := sameScope.trans inScope
      have isMember := (network.interfaces interface interfaceScope).mpr member
      rw [← sameAddresses interface isMember interfaceScope] at isHost
      exact ⟨interface, isMember, ⟨isDevice, sameScope⟩, isHost⟩

/-- Two sorts of the same devices are the same list. -/
theorem insertionSort_eq_of_perm {first second : List DeviceView}
    (perm : first.Perm second)
    (unique : ∀ left ∈ first, ∀ right ∈ first, left.id = right.id →
      left = right) :
    first.insertionSort changedAfter = second.insertionSort changedAfter := by
  have sorted := (List.perm_insertionSort changedAfter first).trans
    (perm.trans (List.perm_insertionSort changedAfter second).symm)
  refine List.Perm.eq_of_pairwise ?_
    (List.pairwise_insertionSort changedAfter first)
    (List.pairwise_insertionSort changedAfter second) sorted
  intro left right leftMember rightMember before after
  have isLeft := (List.mem_insertionSort changedAfter).mp leftMember
  have isRight := perm.mem_iff.mpr
    ((List.mem_insertionSort changedAfter).mp rightMember)
  exact unique left isLeft right isRight (id_eq_of_changedAfter before after)

/-- A page of the devices of a scope, from the rows of the scope. -/
theorem execSelectDevices_congr (query : InventoryQuery)
    (same : left.rowsOf scope = right.rowsOf scope)
    (network : NetworkAlike scope leftNetwork rightNetwork) :
    execSelectDevices lower scope query left leftNetwork =
      execSelectDevices lower scope query right rightNetwork := by
  have nodup (db : InventoryDb) : db.devices.rows.Nodup :=
    List.Nodup.of_map _ db.devices.keysNodup
  unfold execSelectDevices
  dsimp only
  rw [insertionSort_eq_of_perm]
  · rw [List.perm_ext_iff_of_nodup ((nodup left).filter _)
      ((nodup right).filter _)]
    intro device
    rw [List.mem_filter, List.mem_filter]
    by_cases inScope : device.scope = scope
    · have sameSearch (search : String) :=
        @matchesSearch_congr lower scope left right leftNetwork rightNetwork
          device same network search inScope
      rw [mem_devices_congr same inScope]
      simp only [sameSearch]
    · simp only [decide_eq_false inScope, Bool.false_and, Bool.false_eq_true,
        and_false]
  · intro first firstMember second secondMember sameId
    exact Table.eq_of_mem_of_key_eq (List.mem_of_mem_filter firstMember)
      (List.mem_of_mem_filter secondMember) sameId

end Lists

end NetworkManager.InventoryStore
