import Mathlib.Data.Finset.Union
import NetworkManager.Domain.Ipam

/-!
# Addresses and prefixes in the database

Migration 0001 keeps the addresses and the prefixes of all routing domains in
two tables.  Its constraints look at the value of a column as a whole: an
address with its mask, a prefix with its length.  The domain looks at the host
address, and at the addresses that a prefix holds.
-/

namespace NetworkManager.Migrations

open NetworkManager.Foundation
open NetworkManager.Domain.Ipam

section UniqueOn

variable {Row Key : Type*} [DecidableEq Row]

/-- A unique index over the rows that have a key.  A row outside a partial
index, or with a NULL in an indexed column, has none. -/
def UniqueOn (rows : Finset Row) (key : Row → Option Key) : Prop :=
  ∀ left ∈ rows, ∀ right ∈ rows,
    (key left).isSome = true → key left = key right → left = right

instance [DecidableEq Key] (rows : Finset Row) (key : Row → Option Key) :
    Decidable (UniqueOn rows key) :=
  inferInstanceAs (Decidable (∀ left ∈ rows, ∀ right ∈ rows,
    (key left).isSome = true → key left = key right → left = right))

private theorem UniqueOn.union {leftRows rightRows : Finset Row}
    {key : Row → Option Key} (leftUnique : UniqueOn leftRows key)
    (rightUnique : UniqueOn rightRows key)
    (apart : ∀ left ∈ leftRows, ∀ right ∈ rightRows,
      (key left).isSome = true → key left ≠ key right) :
    UniqueOn (leftRows ∪ rightRows) key := by
  intro left leftMember right rightMember keyed same
  rw [Finset.mem_union] at leftMember rightMember
  rcases leftMember with inLeft | inRight
  · rcases rightMember with inLeft' | inRight'
    · exact leftUnique left inLeft right inLeft' keyed same
    · exact absurd same (apart left inLeft right inRight' keyed)
  · rcases rightMember with inLeft' | inRight'
    · have keyed' : (key right).isSome = true := same ▸ keyed
      exact absurd same.symm (apart right inLeft' left inRight keyed')
    · exact rightUnique left inRight right inRight' keyed same

end UniqueOn

/-- The tables that foreign keys refer to. -/
structure ReferencedRows where
  routingDomains : Finset (Uuid × Uuid × Uuid)
  interfaces : Finset Uuid

/-- A row of `ip_prefixes`.  The host bits of a `cidr` are clear. -/
structure IpPrefixRow where
  id : Uuid
  organizationId : Uuid
  siteId : Uuid
  routingDomainId : Uuid
  ipPrefix : Cidr
  truncated : ipPrefix.truncate = ipPrefix
  version : Int
deriving DecidableEq

/-- A row of `ip_addresses`. -/
structure IpAddressRow where
  id : Uuid
  organizationId : Uuid
  siteId : Uuid
  routingDomainId : Uuid
  interfaceId : Option Uuid
  address : Cidr
  allocationState : String
deriving DecidableEq

/-- `inet 'fe80::/10'`. -/
def linkLocalNetwork : Cidr := .v6 (0xfe80#128 <<< 112) 10

namespace IpAddressRow

/-- `family(address) = 6 AND address << inet 'fe80::/10'`. -/
def inLinkLocalScope (row : IpAddressRow) : Bool :=
  row.address.family == 6 && row.address.isStrictlyWithin linkLocalNetwork

/-- The columns of `uq_ip_addresses_global_scope`. -/
def globalKey (row : IpAddressRow) : Option (Uuid × Uuid × Uuid × Cidr) :=
  if row.inLinkLocalScope then none
  else
    some (row.organizationId, row.siteId, row.routingDomainId, row.address)

/-- The columns of `uq_ip_addresses_link_local_scope`. -/
def linkLocalKey (row : IpAddressRow) :
    Option (Uuid × Uuid × Uuid × Cidr × Uuid) :=
  if row.inLinkLocalScope then
    row.interfaceId.map fun interfaceId =>
      (row.organizationId, row.siteId, row.routingDomainId, row.address,
        interfaceId)
  else none

/-- What the table asks of one row. -/
def Acceptable (references : ReferencedRows) (row : IpAddressRow) : Prop :=
  row.allocationState ∈ ["observed", "reserved", "assigned", "deprecated"] ∧
    (row.routingDomainId, row.siteId, row.organizationId) ∈
      references.routingDomains ∧
    (∀ interfaceId ∈ row.interfaceId, interfaceId ∈ references.interfaces) ∧
    (row.address.family ≠ 6 ∨
      ¬row.address.isStrictlyWithin linkLocalNetwork = true ∨
      row.interfaceId.isSome = true)

instance (references : ReferencedRows) (row : IpAddressRow) :
    Decidable (row.Acceptable references) :=
  inferInstanceAs (Decidable (_ ∧ _))

end IpAddressRow

namespace IpPrefixRow

/-- The columns of the unique constraint. -/
def scopedKey (row : IpPrefixRow) : Option (Uuid × Uuid × Uuid × Cidr) :=
  some (row.organizationId, row.siteId, row.routingDomainId, row.ipPrefix)

/-- What the table asks of one row. -/
def Acceptable (references : ReferencedRows) (row : IpPrefixRow) : Prop :=
  0 < row.version ∧
    (row.routingDomainId, row.siteId, row.organizationId) ∈
      references.routingDomains

instance (references : ReferencedRows) (row : IpPrefixRow) :
    Decidable (row.Acceptable references) :=
  inferInstanceAs (Decidable (_ ∧ _))

end IpPrefixRow

/-- The constraints and the unique indexes of the two tables accept the
rows. -/
structure Accepted (references : ReferencedRows)
    (addresses : Finset IpAddressRow) (prefixes : Finset IpPrefixRow) :
    Prop where
  addressRows : ∀ row ∈ addresses, row.Acceptable references
  addressIds : UniqueOn addresses fun row => some row.id
  globalScope : UniqueOn addresses IpAddressRow.globalKey
  linkLocalScope : UniqueOn addresses IpAddressRow.linkLocalKey
  prefixRows : ∀ row ∈ prefixes, row.Acceptable references
  prefixIds : UniqueOn prefixes fun row => some row.id
  prefixScope : UniqueOn prefixes IpPrefixRow.scopedKey

/-- The state that a text of the column names. -/
def readState : String → Option AddressState
  | "observed" => some .observed
  | "available" => some .available
  | "reserved" => some .reserved
  | "assigned" => some .assigned
  | "deprecated" => some .deprecated
  | "conflict" => some .conflict
  | _ => none

/-- The row with its host address as the address. -/
def IpAddressRow.read (row : IpAddressRow) : Option IpAllocation :=
  (readState row.allocationState).map fun state =>
    { id := row.id
      organizationId := row.organizationId
      siteId := row.siteId
      routingDomainId := row.routingDomainId
      interfaceId := row.interfaceId
      address := row.address.host
      state := state }

def IpPrefixRow.read (row : IpPrefixRow) : ScopedPrefix where
  id := row.id
  organizationId := row.organizationId
  siteId := row.siteId
  routingDomainId := row.routingDomainId
  ipPrefix := row.ipPrefix

/-! ## Link-local addresses -/

private theorem and_link_local_mask {segment : Nat} (bound : segment < 2 ^ 16) :
    segment &&& 0xffc0 = 0xfe80 ↔ segment / 2 ^ 6 = 0x3fa := by
  have high : (segment &&& 0xffc0) / 2 ^ 6 = segment / 2 ^ 6 := by
    rw [Nat.and_div_two_pow, show 0xffc0 / 2 ^ 6 = 2 ^ 10 - 1 from rfl,
      Nat.and_two_pow_sub_one_eq_mod]
    omega
  have low : (segment &&& 0xffc0) % 2 ^ 6 = 0 := by
    rw [Nat.and_mod_two_pow]
    simp
  omega

/-- The mask test of the domain is membership in the network. -/
theorem isIpv6LinkLocal_eq (address : IpAddr) :
    isIpv6LinkLocal address = linkLocalNetwork.contains address := by
  cases address with
  | v4 bits => rfl
  | v6 bits =>
      have bound : bits.toNat / 2 ^ 112 < 2 ^ 16 := by omega
      have segments : bits.toNat / 2 ^ 112 / 2 ^ 6 = bits.toNat / 2 ^ 118 := by
        rw [Nat.div_div_eq_div_mul, ← Nat.pow_add]
      have domain : isIpv6LinkLocal (.v6 bits) = true ↔
          bits.toNat / 2 ^ 112 &&& 0xffc0 = 0xfe80 := by
        rw [isIpv6LinkLocal, beq_iff_eq, ← BitVec.toNat_inj, BitVec.toNat_and,
          BitVec.toNat_ushiftRight, Nat.shiftRight_eq_div_pow]
        rfl
      have database : linkLocalNetwork.contains (.v6 bits) = true ↔
          0x3fa = bits.toNat / 2 ^ 118 := by
        rw [linkLocalNetwork, Cidr.contains, beq_iff_eq, ← BitVec.toNat_inj,
          BitVec.toNat_ushiftRight bits, Nat.shiftRight_eq_div_pow]
        rfl
      rw [Bool.eq_iff_iff, domain, database, and_link_local_mask bound,
        segments, eq_comm]

namespace IpAddressRow

/-- Only a mask of more than 10 bits makes the database see a link-local
address. -/
theorem inLinkLocalScope_iff (row : IpAddressRow) :
    row.inLinkLocalScope = true ↔
      isIpv6LinkLocal row.address.host = true ∧
        10 < row.address.maskLength := by
  rw [inLinkLocalScope, Cidr.isStrictlyWithin, isIpv6LinkLocal_eq]
  cases net : row.address with
  | v4 bits length =>
      simp [Cidr.family, linkLocalNetwork, Cidr.host, Cidr.contains]
  | v6 bits length =>
      rw [Cidr.family, beq_self_eq_true, Bool.true_and, Bool.and_eq_true,
        decide_eq_true_eq]
      exact and_comm

/-- The rows are of one scope and of one host, and for a link-local host of one
interface. -/
def SameIdentity (left right : IpAddressRow) : Prop :=
  left.organizationId = right.organizationId ∧
    left.siteId = right.siteId ∧
    left.routingDomainId = right.routingDomainId ∧
    left.address.host = right.address.host ∧
    (isIpv6LinkLocal left.address.host = true →
      left.interfaceId = right.interfaceId)

instance (left right : IpAddressRow) : Decidable (left.SameIdentity right) :=
  inferInstanceAs (Decidable (_ ∧ _))

private theorem sameL3Identity_iff {left right : IpAddressRow}
    {leftValue rightValue : IpAllocation}
    (readLeft : left.read = some leftValue)
    (readRight : right.read = some rightValue) :
    leftValue.sameL3Identity rightValue = true ↔
      left.SameIdentity right := by
  obtain ⟨leftState, _, rfl⟩ := Option.map_eq_some_iff.mp readLeft
  obtain ⟨rightState, _, rfl⟩ := Option.map_eq_some_iff.mp readRight
  simp only [IpAllocation.sameL3Identity, SameIdentity, Bool.and_eq_true,
    Bool.or_eq_true, beq_iff_eq, Bool.not_eq_true', and_assoc,
    ← imp_iff_not_or, ← Bool.not_eq_true]

private theorem validate_eq_ok_iff {row : IpAddressRow} {value : IpAllocation}
    (read : row.read = some value) :
    value.validate = .ok () ↔
      (isIpv6LinkLocal row.address.host = true →
        row.interfaceId.isSome = true) := by
  obtain ⟨state, _, rfl⟩ := Option.map_eq_some_iff.mp read
  simp only [IpAllocation.validate]
  by_cases linkLocal : isIpv6LinkLocal row.address.host = true
  · cases interface : row.interfaceId <;> simp [linkLocal]
  · simp [linkLocal]

/-- Every state that the column may hold is a state of the domain. -/
theorem Acceptable.exists_read {references : ReferencedRows}
    {row : IpAddressRow} (acceptable : row.Acceptable references) :
    ∃ value, row.read = some value := by
  have known : (readState row.allocationState).isSome = true := by
    have listed := acceptable.1
    simp only [List.mem_cons, List.not_mem_nil, or_false] at listed
    rcases listed with text | text | text | text
    all_goals rw [text]; rfl
  obtain ⟨state, read⟩ := Option.isSome_iff_exists.mp known
  exact ⟨_, Option.map_eq_some_iff.mpr ⟨state, read, rfl⟩⟩

private theorem Acceptable.interface {references : ReferencedRows}
    {row : IpAddressRow} (acceptable : row.Acceptable references)
    (linkLocal : row.inLinkLocalScope = true) :
    row.interfaceId.isSome = true := by
  rw [inLinkLocalScope, Bool.and_eq_true, beq_iff_eq] at linkLocal
  rcases acceptable.2.2.2 with family | outside | interface
  · exact absurd linkLocal.1 family
  · exact absurd linkLocal.2 outside
  · exact interface

end IpAddressRow

section Accepted

variable {references : ReferencedRows} {addresses : Finset IpAddressRow}
  {prefixes : Finset IpPrefixRow}

/-- The unique indexes tell apart what has one identity and one mask. -/
theorem Accepted.eq_of_sameIdentity
    (accepted : Accepted references addresses prefixes)
    {left right : IpAddressRow} (leftMember : left ∈ addresses)
    (rightMember : right ∈ addresses) (same : left.SameIdentity right)
    (sameMask : left.address.maskLength = right.address.maskLength) :
    left = right := by
  obtain ⟨organization, site, routingDomain, host, interface⟩ := same
  have address : left.address = right.address := Cidr.ext_host host sameMask
  have scope : left.inLinkLocalScope = right.inLinkLocalScope := by
    rw [IpAddressRow.inLinkLocalScope, IpAddressRow.inLinkLocalScope, address]
  by_cases linkLocal : left.inLinkLocalScope = true
  · have leftInterface :=
      (accepted.addressRows left leftMember).interface linkLocal
    have sameInterface := interface (left.inLinkLocalScope_iff.mp linkLocal).1
    refine accepted.linkLocalScope left leftMember right rightMember ?_ ?_
    · rw [IpAddressRow.linkLocalKey, if_pos linkLocal, Option.isSome_map]
      exact leftInterface
    · rw [IpAddressRow.linkLocalKey, IpAddressRow.linkLocalKey, ← scope,
        organization, site, routingDomain, address, sameInterface]
  · refine accepted.globalScope left leftMember right rightMember ?_ ?_
    · rw [IpAddressRow.globalKey, if_neg linkLocal, Option.isSome_some]
    · rw [IpAddressRow.globalKey, IpAddressRow.globalKey, ← scope,
        organization, site, routingDomain, address]

/-- The rows have no spelling that the constraints miss: one host address with
two masks, a link-local address with a mask of 10 bits or fewer and without an
interface, a prefix within another prefix. -/
structure PlainlySpelled (addresses : Finset IpAddressRow)
    (prefixes : Finset IpPrefixRow) : Prop where
  oneMask : ∀ left ∈ addresses, ∀ right ∈ addresses, left.SameIdentity right →
    left.address.maskLength = right.address.maskLength
  interface : ∀ row ∈ addresses, isIpv6LinkLocal row.address.host = true →
    row.address.maskLength ≤ 10 → row.interfaceId.isSome = true
  notNested : ∀ left ∈ prefixes, ∀ right ∈ prefixes,
    left.read.SameScope right.read →
      left.ipPrefix.isStrictlyWithin right.ipPrefix = false

/-- What the domain asks of the rows. -/
structure KeepsL3Identity (ipnet : IpNetLibrary)
    (addresses : Finset IpAddressRow) (prefixes : Finset IpPrefixRow) :
    Prop where
  distinct : ∀ left ∈ addresses, ∀ right ∈ addresses, left ≠ right →
    ∀ leftValue rightValue, left.read = some leftValue →
      right.read = some rightValue →
        leftValue.sameL3Identity rightValue = false
  valid : ∀ row ∈ addresses, ∀ value, row.read = some value →
    value.validate = .ok ()
  disjoint : ∀ left ∈ prefixes, ∀ right ∈ prefixes, left ≠ right →
    prefixesConflict ipnet left.read right.read = false

/-- The unique constraint tells apart what is of one scope and overlaps, unless
one prefix lies within the other. -/
theorem Accepted.conflict_iff
    (accepted : Accepted references addresses prefixes)
    {ipnet : IpNetLibrary} (documented : ipnet.Documented)
    {left right : IpPrefixRow} (leftMember : left ∈ prefixes)
    (rightMember : right ∈ prefixes) (differ : left ≠ right) :
    prefixesConflict ipnet left.read right.read = true ↔
      left.read.SameScope right.read ∧
        (left.ipPrefix.isStrictlyWithin right.ipPrefix = true ∨
          right.ipPrefix.isStrictlyWithin left.ipPrefix = true) := by
  rw [prefixesConflict_iff_overlap documented]
  refine and_congr_right fun scope => ?_
  have other : left.ipPrefix ≠ right.ipPrefix := by
    intro same
    refine differ (accepted.prefixScope left leftMember right rightMember rfl ?_)
    obtain ⟨organization, site, routingDomain⟩ := scope
    simp only [IpPrefixRow.read] at organization site routingDomain
    rw [IpPrefixRow.scopedKey, IpPrefixRow.scopedKey, organization, site,
      routingDomain, same]
  have overlap :=
    Cidr.overlap_iff_of_truncated left.truncated right.truncated
  rw [or_iff_right other] at overlap
  exact overlap

private theorem Accepted.keepsL3Identity_iff
    (accepted : Accepted references addresses prefixes)
    {ipnet : IpNetLibrary} (documented : ipnet.Documented) :
    KeepsL3Identity ipnet addresses prefixes ↔
      PlainlySpelled addresses prefixes := by
  constructor
  · intro keeps
    refine ⟨?_, ?_, ?_⟩
    · intro left leftMember right rightMember same
      by_contra masks
      have differ : left ≠ right := fun equal => masks (by rw [equal])
      obtain ⟨leftValue, readLeft⟩ :=
        (accepted.addressRows left leftMember).exists_read
      obtain ⟨rightValue, readRight⟩ :=
        (accepted.addressRows right rightMember).exists_read
      have apart := keeps.distinct left leftMember right rightMember differ _ _
        readLeft readRight
      rw [(IpAddressRow.sameL3Identity_iff readLeft readRight).mpr same] at apart
      exact Bool.noConfusion apart
    · intro row member linkLocal _
      obtain ⟨value, read⟩ := (accepted.addressRows row member).exists_read
      exact (IpAddressRow.validate_eq_ok_iff read).mp
        (keeps.valid row member value read) linkLocal
    · intro left leftMember right rightMember scope
      rw [Bool.eq_false_iff]
      intro within
      have differ : left ≠ right := by
        intro equal
        rw [equal, Cidr.isStrictlyWithin, Bool.and_eq_true,
          decide_eq_true_eq] at within
        omega
      have apart := keeps.disjoint left leftMember right rightMember differ
      rw [(accepted.conflict_iff documented leftMember rightMember differ).mpr
        ⟨scope, .inl within⟩] at apart
      exact Bool.noConfusion apart
  · intro plain
    refine ⟨?_, ?_, ?_⟩
    · intro left leftMember right rightMember differ leftValue rightValue
        readLeft readRight
      rw [Bool.eq_false_iff]
      intro identity
      have same :=
        (IpAddressRow.sameL3Identity_iff readLeft readRight).mp identity
      exact differ (accepted.eq_of_sameIdentity leftMember rightMember same
        (plain.oneMask left leftMember right rightMember same))
    · intro row member value read
      refine (IpAddressRow.validate_eq_ok_iff read).mpr fun linkLocal => ?_
      by_cases masked : row.address.maskLength ≤ 10
      · exact plain.interface row member linkLocal masked
      · exact (accepted.addressRows row member).interface
          (row.inLinkLocalScope_iff.mpr ⟨linkLocal, by omega⟩)
    · intro left leftMember right rightMember differ
      rw [Bool.eq_false_iff]
      intro conflict
      obtain ⟨scope, within | within⟩ :=
        (accepted.conflict_iff documented leftMember rightMember differ).mp
          conflict
      · rw [plain.notNested left leftMember right rightMember scope] at within
        exact Bool.noConfusion within
      · rw [plain.notNested right rightMember left leftMember scope.symm]
          at within
        exact Bool.noConfusion within

/-- Rows of other routing domains do not get in each other's way. -/
theorem Accepted.union (accepted : Accepted references addresses prefixes)
    {otherAddresses : Finset IpAddressRow} {otherPrefixes : Finset IpPrefixRow}
    (others : Accepted references otherAddresses otherPrefixes)
    (addressesApart : ∀ left ∈ addresses, ∀ right ∈ otherAddresses,
      left.id ≠ right.id ∧ left.routingDomainId ≠ right.routingDomainId)
    (prefixesApart : ∀ left ∈ prefixes, ∀ right ∈ otherPrefixes,
      left.id ≠ right.id ∧ left.routingDomainId ≠ right.routingDomainId) :
    Accepted references (addresses ∪ otherAddresses)
      (prefixes ∪ otherPrefixes) where
  addressRows := by
    intro row member
    rcases Finset.mem_union.mp member with inside | inside
    · exact accepted.addressRows row inside
    · exact others.addressRows row inside
  addressIds := by
    refine accepted.addressIds.union others.addressIds ?_
    intro left leftMember right rightMember _ same
    exact (addressesApart left leftMember right rightMember).1
      (Option.some.inj same)
  globalScope := by
    refine accepted.globalScope.union others.globalScope ?_
    intro left leftMember right rightMember keyed same
    rw [IpAddressRow.globalKey, IpAddressRow.globalKey] at same
    rw [IpAddressRow.globalKey] at keyed
    split_ifs at same keyed
    · exact Bool.noConfusion keyed
    · simp only [Option.some.injEq, Prod.mk.injEq] at same
      exact (addressesApart left leftMember right rightMember).2 same.2.2.1
  linkLocalScope := by
    refine accepted.linkLocalScope.union others.linkLocalScope ?_
    intro left leftMember right rightMember keyed same
    obtain ⟨key, leftKey⟩ := Option.isSome_iff_exists.mp keyed
    have rightKey := same.symm.trans leftKey
    rw [IpAddressRow.linkLocalKey] at leftKey rightKey
    split_ifs at leftKey rightKey
    obtain ⟨leftInterface, _, leftColumns⟩ := Option.map_eq_some_iff.mp leftKey
    obtain ⟨rightInterface, _, rightColumns⟩ :=
      Option.map_eq_some_iff.mp rightKey
    have columns := leftColumns.trans rightColumns.symm
    simp only [Prod.mk.injEq] at columns
    exact (addressesApart left leftMember right rightMember).2 columns.2.2.1
  prefixRows := by
    intro row member
    rcases Finset.mem_union.mp member with inside | inside
    · exact accepted.prefixRows row inside
    · exact others.prefixRows row inside
  prefixIds := by
    refine accepted.prefixIds.union others.prefixIds ?_
    intro left leftMember right rightMember _ same
    exact (prefixesApart left leftMember right rightMember).1
      (Option.some.inj same)
  prefixScope := by
    refine accepted.prefixScope.union others.prefixScope ?_
    intro left leftMember right rightMember _ same
    simp only [IpPrefixRow.scopedKey, Option.some.injEq, Prod.mk.injEq] at same
    exact (prefixesApart left leftMember right rightMember).2 same.2.2.1

/-- The constraints keep the identities of the domain for plainly spelled rows
only, and they accept the rows of different routing domains together. -/
theorem accepted_l3Identity {ipnet : IpNetLibrary}
    (documented : ipnet.Documented)
    (accepted : Accepted references addresses prefixes) :
    (KeepsL3Identity ipnet addresses prefixes ↔
      PlainlySpelled addresses prefixes) ∧
    ∀ (otherAddresses : Finset IpAddressRow)
      (otherPrefixes : Finset IpPrefixRow),
      Accepted references otherAddresses otherPrefixes →
      (∀ left ∈ addresses, ∀ right ∈ otherAddresses,
        left.id ≠ right.id ∧ left.routingDomainId ≠ right.routingDomainId) →
      (∀ left ∈ prefixes, ∀ right ∈ otherPrefixes,
        left.id ≠ right.id ∧ left.routingDomainId ≠ right.routingDomainId) →
      Accepted references (addresses ∪ otherAddresses)
        (prefixes ∪ otherPrefixes) :=
  ⟨accepted.keepsL3Identity_iff documented,
    fun _ _ others => accepted.union others⟩

end Accepted

def addressRow (id : Uuid) (address : Cidr) : IpAddressRow where
  id := id
  organizationId := ⟨1⟩
  siteId := ⟨2⟩
  routingDomainId := ⟨3⟩
  interfaceId := none
  address := address
  allocationState := "assigned"

def sampleReferences : ReferencedRows where
  routingDomains := {(⟨3⟩, ⟨2⟩, ⟨1⟩), (⟨9⟩, ⟨2⟩, ⟨1⟩)}
  interfaces := {⟨10⟩}

/-- `10.0.0.0/24`, which is accepted. -/
def samplePrefix : IpPrefixRow where
  id := ⟨7⟩
  organizationId := ⟨1⟩
  siteId := ⟨2⟩
  routingDomainId := ⟨3⟩
  ipPrefix := .v4 0x0a000000 24
  truncated := by decide
  version := 1

/-- `10.0.0.128/25`. -/
def sampleSubPrefix : IpPrefixRow :=
  { samplePrefix with
    id := ⟨8⟩
    ipPrefix := .v4 0x0a000080 25
    truncated := by decide }

/-- `10.0.0.1/32` and `10.0.0.1/24`, and `fe80::1/10` without an interface. -/
def sampleAddresses : Finset IpAddressRow :=
  {addressRow ⟨4⟩ (.v4 0x0a000001 32), addressRow ⟨5⟩ (.v4 0x0a000001 24),
    addressRow ⟨6⟩ (.v6 0xfe800000000000000000000000000001 10)}

/-- The constraints accept two identities twice and an address that is not
valid, and a prefix in a prefix. -/
theorem not_keepsL3Identity_sample :
    Accepted sampleReferences sampleAddresses
        {samplePrefix, sampleSubPrefix} ∧
      ¬KeepsL3Identity .reference sampleAddresses
        {samplePrefix, sampleSubPrefix} := by
  refine ⟨⟨by decide, by decide, by decide, by decide, by decide, by decide,
    by decide⟩, fun keeps => ?_⟩
  have twice := keeps.distinct (addressRow ⟨4⟩ (.v4 0x0a000001 32)) (by decide)
    (addressRow ⟨5⟩ (.v4 0x0a000001 24)) (by decide) (by decide) _ _ rfl rfl
  exact absurd twice (by decide)

/-- `10.0.0.1/32`, `10.0.0.2/24`, and `fe80::1/64` on an interface. -/
def plainAddresses : Finset IpAddressRow :=
  {addressRow ⟨4⟩ (.v4 0x0a000001 32), addressRow ⟨5⟩ (.v4 0x0a000002 24),
    { addressRow ⟨6⟩ (.v6 0xfe800000000000000000000000000001 64) with
      interfaceId := some ⟨10⟩ }}

/-- `10.0.0.0/24` and `10.0.1.0/24`. -/
def plainPrefixes : Finset IpPrefixRow :=
  {samplePrefix,
    { samplePrefix with
      id := ⟨8⟩
      ipPrefix := .v4 0x0a000100 24
      truncated := by decide }}

/-- `10.0.0.1/32` and `10.0.0.2/32` in another routing domain. -/
def blueAddresses : Finset IpAddressRow :=
  {{ addressRow ⟨11⟩ (.v4 0x0a000001 32) with routingDomainId := ⟨9⟩ },
    { addressRow ⟨12⟩ (.v4 0x0a000002 32) with routingDomainId := ⟨9⟩ }}

/-- `10.0.0.128/25` and `10.0.1.0/24` in that one. -/
def bluePrefixes : Finset IpPrefixRow :=
  {{ sampleSubPrefix with
      id := ⟨13⟩
      routingDomainId := ⟨9⟩ },
    { samplePrefix with
      id := ⟨14⟩
      routingDomainId := ⟨9⟩
      ipPrefix := .v4 0x0a000100 24
      truncated := by decide }}

theorem accepted_l3Identity_sample :
    KeepsL3Identity .reference plainAddresses plainPrefixes ∧
      Accepted sampleReferences (plainAddresses ∪ blueAddresses)
        (plainPrefixes ∪ bluePrefixes) := by
  have accepted : Accepted sampleReferences plainAddresses plainPrefixes :=
    ⟨by decide, by decide, by decide, by decide, by decide, by decide,
      by decide⟩
  have blue : Accepted sampleReferences blueAddresses bluePrefixes :=
    ⟨by decide, by decide, by decide, by decide, by decide, by decide,
      by decide⟩
  have settled :=
    accepted_l3Identity IpNetLibrary.documented_reference accepted
  exact ⟨settled.1.mpr ⟨by decide, by decide, by decide⟩,
    settled.2 blueAddresses bluePrefixes blue (by decide) (by decide)⟩

end NetworkManager.Migrations
