import NetworkManager.Foundation.IpNet
import NetworkManager.Foundation.Uuid

/-!
# Addresses and prefixes of a routing domain

An address or a prefix is a value, not a name: what it means depends on the
organization, the site and the routing domain, and for a link-local address on
the interface as well.
-/

namespace NetworkManager.Domain.Ipam

open NetworkManager.Foundation

inductive AddressState where
  | observed
  | available
  | reserved
  | assigned
  | deprecated
  | conflict
deriving DecidableEq, Repr

/-- `ipnet::IpNet`: an address with a prefix length.  The host bits of the
address may be set. -/
abbrev IpNet := Cidr

structure ScopedPrefix where
  id : Uuid
  organizationId : Uuid
  siteId : Uuid
  routingDomainId : Uuid
  ipPrefix : IpNet
deriving DecidableEq, Repr

structure IpAllocation where
  id : Uuid
  organizationId : Uuid
  siteId : Uuid
  routingDomainId : Uuid
  interfaceId : Option Uuid
  address : IpAddr
  state : AddressState
deriving DecidableEq, Repr

/-- `fe80::/10`.  The first segment of an address is its leading 16 bits. -/
def isIpv6LinkLocal : IpAddr → Bool
  | .v6 value => (value >>> 112) &&& 0xffc0 == 0xfe80
  | .v4 _ => false

namespace IpAllocation

def sameL3Identity (allocation other : IpAllocation) : Bool :=
  allocation.organizationId == other.organizationId &&
    allocation.siteId == other.siteId &&
    allocation.routingDomainId == other.routingDomainId &&
    allocation.address == other.address &&
    (!isIpv6LinkLocal allocation.address ||
      allocation.interfaceId == other.interfaceId)

def validate (allocation : IpAllocation) : Except String Unit :=
  if isIpv6LinkLocal allocation.address && allocation.interfaceId.isNone then
    .error "IPv6 link-local allocation requires interface scope"
  else
    .ok ()

end IpAllocation

/-- The part of `ipnet` that the conflict test calls. -/
structure IpNetLibrary where
  network : IpNet → IpAddr
  contains : IpNet → IpAddr → Bool

/-- `network` clears the host bits, and a network contains the addresses of its
family from the first to the last one. -/
structure IpNetLibrary.Documented (ipnet : IpNetLibrary) : Prop where
  network (net : IpNet) : ipnet.network net = net.networkAddress
  contains (net : IpNet) (address : IpAddr) :
    ipnet.contains net address =
      IpAddr.isBetween net.networkAddress address net.lastAddress

def prefixesConflict (ipnet : IpNetLibrary) (left right : ScopedPrefix) :
    Bool :=
  if left.organizationId ≠ right.organizationId ∨
      left.siteId ≠ right.siteId ∨
      left.routingDomainId ≠ right.routingDomainId then
    false
  else
    ipnet.contains left.ipPrefix (ipnet.network right.ipPrefix) ||
      ipnet.contains right.ipPrefix (ipnet.network left.ipPrefix)

namespace ScopedPrefix

def SameScope (left right : ScopedPrefix) : Prop :=
  left.organizationId = right.organizationId ∧
    left.siteId = right.siteId ∧
      left.routingDomainId = right.routingDomainId

instance (left right : ScopedPrefix) : Decidable (left.SameScope right) :=
  inferInstanceAs (Decidable (_ ∧ _))

theorem SameScope.symm {left right : ScopedPrefix}
    (same : left.SameScope right) : right.SameScope left :=
  ⟨same.1.symm, same.2.1.symm, same.2.2.symm⟩

end ScopedPrefix

section Documented

variable {ipnet : IpNetLibrary} (documented : ipnet.Documented)
include documented

private theorem contains_eq (net : IpNet) (address : IpAddr) :
    ipnet.contains net address = net.contains address := by
  rw [documented.contains, Cidr.contains_eq_isBetween]

/-- Prefixes conflict exactly if they are of one scope and overlap. -/
theorem prefixesConflict_iff_overlap (left right : ScopedPrefix) :
    prefixesConflict ipnet left right = true ↔
      left.SameScope right ∧ left.ipPrefix.Overlap right.ipPrefix := by
  rw [Cidr.overlap_iff]
  simp only [prefixesConflict, contains_eq documented, documented.network]
  by_cases same : left.SameScope right
  · have inScope : ¬(left.organizationId ≠ right.organizationId ∨
        left.siteId ≠ right.siteId ∨
        left.routingDomainId ≠ right.routingDomainId) := by
      simpa [ScopedPrefix.SameScope] using same
    rw [if_neg inScope, Bool.or_eq_true]
    exact (and_iff_right same).symm
  · have apart : left.organizationId ≠ right.organizationId ∨
        left.siteId ≠ right.siteId ∨
        left.routingDomainId ≠ right.routingDomainId := by
      rw [ScopedPrefix.SameScope] at same
      tauto
    rw [if_pos apart]
    simp [same]

/-- The conflict test is the overlap of two networks in one scope.  So it is
symmetric, and it does not see the host bits of the two prefixes. -/
theorem prefixesConflict_exact (left right : ScopedPrefix) :
    (prefixesConflict ipnet left right = true ↔
      left.organizationId = right.organizationId ∧
        left.siteId = right.siteId ∧
        left.routingDomainId = right.routingDomainId ∧
        ∃ address : IpAddr,
          ipnet.contains left.ipPrefix address = true ∧
            ipnet.contains right.ipPrefix address = true) ∧
      prefixesConflict ipnet left right = prefixesConflict ipnet right left ∧
      ∀ leftNet rightNet : IpNet,
        leftNet.truncate = left.ipPrefix.truncate →
        rightNet.truncate = right.ipPrefix.truncate →
        prefixesConflict ipnet { left with ipPrefix := leftNet }
            { right with ipPrefix := rightNet } =
          prefixesConflict ipnet left right := by
  refine ⟨?_, ?_, ?_⟩
  · rw [prefixesConflict_iff_overlap documented, ScopedPrefix.SameScope,
      and_assoc, and_assoc]
    simp only [Cidr.Overlap, contains_eq documented]
  · rw [Bool.eq_iff_iff, prefixesConflict_iff_overlap documented,
      prefixesConflict_iff_overlap documented, Cidr.overlap_comm]
    exact and_congr_left fun _ => ⟨.symm, .symm⟩
  · intro leftNet rightNet sameLeft sameRight
    rw [Bool.eq_iff_iff, prefixesConflict_iff_overlap documented,
      prefixesConflict_iff_overlap documented, Cidr.overlap_congr sameLeft,
      Cidr.overlap_comm, Cidr.overlap_congr sameRight, Cidr.overlap_comm]
    rfl

end Documented

/-- `ipnet` by its documentation. -/
def IpNetLibrary.reference : IpNetLibrary where
  network := Cidr.networkAddress
  contains := fun net address =>
    IpAddr.isBetween net.networkAddress address net.lastAddress

theorem IpNetLibrary.documented_reference :
    IpNetLibrary.reference.Documented :=
  ⟨fun _ => rfl, fun _ _ => rfl⟩

/-- `10.0.0.0/24`. -/
def sampleNetwork : ScopedPrefix where
  id := ⟨1⟩
  organizationId := ⟨2⟩
  siteId := ⟨3⟩
  routingDomainId := ⟨4⟩
  ipPrefix := .v4 0x0a000000 24

/-- `10.0.0.130/25`, with host bits set. -/
def sampleSubnet : ScopedPrefix :=
  { sampleNetwork with id := ⟨5⟩, ipPrefix := .v4 0x0a000082 25 }

theorem prefixesConflict_exact_sample :
    prefixesConflict .reference sampleNetwork sampleSubnet = true ∧
      ∃ address : IpAddr,
        IpNetLibrary.reference.contains sampleNetwork.ipPrefix address = true ∧
          IpNetLibrary.reference.contains sampleSubnet.ipPrefix address =
            true := by
  have conflict :
      prefixesConflict .reference sampleNetwork sampleSubnet = true := by
    decide
  exact ⟨conflict,
    ((prefixesConflict_exact IpNetLibrary.documented_reference sampleNetwork
      sampleSubnet).1.mp conflict).2.2.2⟩

end NetworkManager.Domain.Ipam
