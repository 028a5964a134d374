import NetworkManager.Foundation.AlignedBlocks
import NetworkManager.Foundation.IpAddr

/-!
# Addresses with a prefix length

The part of an address before the prefix length names a network; the bits after
it are the host bits.  A network holds the addresses that share its leading
bits: an aligned block of numbers.
-/

namespace NetworkManager.Foundation

/-- Zeros in the place of the bits after the first `length`. -/
def clearHostBits {width : Nat} (bits : BitVec width) (length : Nat) :
    BitVec width :=
  bits >>> (width - length) <<< (width - length)

/-- Ones in the place of the bits after the first `length`. -/
def setHostBits {width : Nat} (bits : BitVec width) (length : Nat) :
    BitVec width :=
  clearHostBits bits length ||| BitVec.allOnes width >>> length

section Bits

variable {width length : Nat} {left right bits : BitVec width}

theorem shiftRight_eq_iff {shift : Nat} :
    left >>> shift = right >>> shift ↔
      left.toNat ∈ alignedBlock (2 ^ shift) right.toNat := by
  rw [mem_alignedBlock_iff, ← BitVec.toNat_inj, BitVec.toNat_ushiftRight,
    BitVec.toNat_ushiftRight, Nat.shiftRight_eq_div_pow,
    Nat.shiftRight_eq_div_pow]

theorem toNat_clearHostBits :
    (clearHostBits bits length).toNat =
      blockStart (2 ^ (width - length)) bits.toNat := by
  have small : blockStart (2 ^ (width - length)) bits.toNat < 2 ^ width :=
    Nat.lt_of_le_of_lt (Nat.div_mul_le_self _ _) bits.isLt
  rw [clearHostBits, BitVec.toNat_shiftLeft, BitVec.toNat_ushiftRight,
    Nat.shiftRight_eq_div_pow, Nat.shiftLeft_eq]
  exact Nat.mod_eq_of_lt small

theorem toNat_allOnes_ushiftRight (bound : length ≤ width) :
    (BitVec.allOnes width >>> length).toNat = 2 ^ (width - length) - 1 := by
  have factors : 2 ^ width = 2 ^ (width - length) * 2 ^ length := by
    rw [← Nat.pow_add, Nat.sub_add_cancel bound]
  have hosts : 0 < 2 ^ (width - length) := Nat.two_pow_pos _
  have networks : 0 < 2 ^ length := Nat.two_pow_pos _
  rw [BitVec.toNat_ushiftRight, BitVec.toNat_allOnes,
    Nat.shiftRight_eq_div_pow, factors]
  refine Nat.div_eq_of_lt_le ?_ ?_
  · rw [Nat.sub_mul]
    omega
  · rw [Nat.sub_add_cancel hosts]
    have positive := Nat.mul_pos hosts networks
    omega

theorem toNat_setHostBits (bound : length ≤ width) :
    (setHostBits bits length).toNat =
      blockStart (2 ^ (width - length)) bits.toNat +
        (2 ^ (width - length) - 1) := by
  have hosts : 2 ^ (width - length) - 1 < 2 ^ (width - length) :=
    Nat.sub_lt (Nat.two_pow_pos _) Nat.one_pos
  rw [setHostBits, BitVec.toNat_or, toNat_clearHostBits,
    toNat_allOnes_ushiftRight bound, blockStart, Nat.mul_comm,
    Nat.two_pow_add_eq_or_of_lt hosts]

/-- The addresses with the leading bits of another lie between that one with
its host bits cleared and with its host bits set. -/
theorem clearHostBits_le_and_le_setHostBits_iff (bound : length ≤ width) :
    clearHostBits left length ≤ right ∧ right ≤ setHostBits left length ↔
      left >>> (width - length) = right >>> (width - length) := by
  rw [BitVec.le_def, BitVec.le_def, toNat_clearHostBits,
    toNat_setHostBits bound, eq_comm, shiftRight_eq_iff,
    mem_alignedBlock_iff_between (Nat.two_pow_pos _)]

/-- Clearing the host bits leaves the leading bits. -/
theorem clearHostBits_ushiftRight :
    clearHostBits bits length >>> (width - length) =
      bits >>> (width - length) := by
  rw [shiftRight_eq_iff, toNat_clearHostBits]
  exact blockStart_mem (Nat.two_pow_pos _)

/-- Addresses that share their leading bits share fewer of them too. -/
theorem ushiftRight_congr {short long : Nat} (le : short ≤ long)
    (same : left >>> (width - long) = right >>> (width - long)) :
    left >>> (width - short) = right >>> (width - short) := by
  have divides : 2 ^ (width - long) ∣ 2 ^ (width - short) :=
    Nat.pow_dvd_pow 2 (by omega)
  exact shiftRight_eq_iff.mpr
    (alignedBlock_subset divides (shiftRight_eq_iff.mp same))

/-- Two networks share an address exactly if one holds the base of the
other. -/
theorem exists_common_iff {leftLength rightLength : Nat} :
    (∃ address : BitVec width,
      left >>> (width - leftLength) = address >>> (width - leftLength) ∧
        right >>> (width - rightLength) = address >>> (width - rightLength)) ↔
      left >>> (width - leftLength) =
          clearHostBits right rightLength >>> (width - leftLength) ∨
        right >>> (width - rightLength) =
          clearHostBits left leftLength >>> (width - rightLength) := by
  have comparable : 2 ^ (width - leftLength) ∣ 2 ^ (width - rightLength) ∨
      2 ^ (width - rightLength) ∣ 2 ^ (width - leftLength) := by
    rcases Nat.le_total (width - leftLength) (width - rightLength) with le | le
    · exact .inl (Nat.pow_dvd_pow 2 le)
    · exact .inr (Nat.pow_dvd_pow 2 le)
  constructor
  · intro ⟨address, inLeft, inRight⟩
    have meet : (alignedBlock (2 ^ (width - leftLength)) left.toNat ∩
        alignedBlock (2 ^ (width - rightLength)) right.toNat).Nonempty :=
      ⟨address.toNat, shiftRight_eq_iff.mp inLeft.symm,
        shiftRight_eq_iff.mp inRight.symm⟩
    rw [alignedBlock_meet_iff_start_mem (Nat.two_pow_pos _)
      (Nat.two_pow_pos _) comparable] at meet
    rw [eq_comm, shiftRight_eq_iff, toNat_clearHostBits, eq_comm,
      shiftRight_eq_iff, toNat_clearHostBits]
    exact meet
  · intro holds
    rcases holds with base | base
    · exact ⟨_, base, clearHostBits_ushiftRight.symm⟩
    · exact ⟨_, clearHostBits_ushiftRight.symm, base⟩

/-- What is left of two numbers agrees if and only if their leading bits do. -/
theorem ushiftRight_eq_iff_leading (bound : length ≤ width) :
    left >>> (width - length) = right >>> (width - length) ↔
      ∀ place < length, left.getMsbD place = right.getMsbD place := by
  have leading (number : BitVec width) {place : Nat} (inside : place < length) :
      number.getMsbD place =
        (number >>> (width - length)).getLsbD (length - 1 - place) := by
    rw [BitVec.getLsbD_ushiftRight, BitVec.getMsbD_eq_getLsbD,
      decide_eq_true (by omega), Bool.true_and]
    congr 1
    omega
  constructor
  · intro same place inside
    rw [leading left inside, leading right inside, same]
  · intro same
    apply BitVec.eq_of_getLsbD_eq
    intro place inside
    by_cases shifted : place < length
    · have isPlace : length - 1 - (length - 1 - place) = place := by omega
      rw [← isPlace, ← leading left (by omega), ← leading right (by omega)]
      exact same _ (by omega)
    · rw [BitVec.getLsbD_ushiftRight, BitVec.getLsbD_ushiftRight,
        BitVec.getLsbD_of_ge _ _ (by omega), BitVec.getLsbD_of_ge _ _ (by omega)]

end Bits

namespace Cidr

/-- The first address of the network. -/
def networkAddress : Cidr → IpAddr
  | .v4 bits length => .v4 (clearHostBits bits length)
  | .v6 bits length => .v6 (clearHostBits bits length)

/-- The last address of the network. -/
def lastAddress : Cidr → IpAddr
  | .v4 bits length => .v4 (setHostBits bits length)
  | .v6 bits length => .v6 (setHostBits bits length)

/-- The network itself, with its host bits cleared. -/
def truncate : Cidr → Cidr
  | .v4 bits length => .v4 (clearHostBits bits length) length
  | .v6 bits length => .v6 (clearHostBits bits length) length

end Cidr

/-- The address is of the family of the two bounds and lies between them. -/
def IpAddr.isBetween : (first address last : IpAddr) → Bool
  | .v4 first, .v4 address, .v4 last =>
      decide (first ≤ address) && decide (address ≤ last)
  | .v6 first, .v6 address, .v6 last =>
      decide (first ≤ address) && decide (address ≤ last)
  | _, _, _ => false

namespace Cidr

/-- The addresses of a network are those from its first to its last. -/
theorem contains_eq_isBetween (net : Cidr) (address : IpAddr) :
    net.contains address =
      IpAddr.isBetween net.networkAddress address net.lastAddress := by
  rw [Bool.eq_iff_iff]
  cases net with
  | v4 bits length =>
      cases address with
      | v4 address =>
          simp only [contains, networkAddress, lastAddress, IpAddr.isBetween,
            beq_iff_eq, Bool.and_eq_true, decide_eq_true_eq]
          exact (clearHostBits_le_and_le_setHostBits_iff (by omega)).symm
      | v6 address => rfl
  | v6 bits length =>
      cases address with
      | v4 address => rfl
      | v6 address =>
          simp only [contains, networkAddress, lastAddress, IpAddr.isBetween,
            beq_iff_eq, Bool.and_eq_true, decide_eq_true_eq]
          exact (clearHostBits_le_and_le_setHostBits_iff (by omega)).symm

@[simp] theorem contains_truncate (net : Cidr) (address : IpAddr) :
    net.truncate.contains address = net.contains address := by
  cases net <;> cases address <;>
    simp [truncate, contains, clearHostBits_ushiftRight]

/-- The address is of the family of the network and begins as it does. -/
def SharesPrefix : Cidr → IpAddr → Prop
  | .v4 network length, .v4 bits =>
      ∀ place < length.val, network.getMsbD place = bits.getMsbD place
  | .v6 network length, .v6 bits =>
      ∀ place < length.val, network.getMsbD place = bits.getMsbD place
  | _, _ => False

theorem contains_iff_sharesPrefix (net : Cidr) (address : IpAddr) :
    net.contains address = true ↔ net.SharesPrefix address := by
  cases net with
  | v4 network length =>
      cases address with
      | v4 bits =>
          rw [contains, SharesPrefix, beq_iff_eq]
          exact ushiftRight_eq_iff_leading (by omega)
      | v6 bits => simp [contains, SharesPrefix]
  | v6 network length =>
      cases address with
      | v4 bits => simp [contains, SharesPrefix]
      | v6 bits =>
          rw [contains, SharesPrefix, beq_iff_eq]
          exact ushiftRight_eq_iff_leading (by omega)
/-- Some address is in both networks. -/
def Overlap (left right : Cidr) : Prop :=
  ∃ address, left.contains address = true ∧ right.contains address = true

theorem overlap_comm {left right : Cidr} :
    left.Overlap right ↔ right.Overlap left := by
  constructor <;> exact fun ⟨address, first, second⟩ => ⟨address, second, first⟩

/-- Two networks overlap exactly if one holds the first address of the other.
Those of two families never do. -/
theorem overlap_iff (left right : Cidr) :
    left.Overlap right ↔
      left.contains right.networkAddress = true ∨
        right.contains left.networkAddress = true := by
  cases left with
  | v4 left leftLength =>
      cases right with
      | v4 right rightLength =>
          simp only [contains, networkAddress, beq_iff_eq]
          rw [← exists_common_iff]
          constructor
          · intro ⟨address, inLeft, inRight⟩
            cases address with
            | v4 address =>
                exact ⟨address, eq_of_beq inLeft, eq_of_beq inRight⟩
            | v6 address => exact Bool.noConfusion inLeft
          · intro ⟨address, inLeft, inRight⟩
            exact ⟨.v4 address, beq_of_eq inLeft, beq_of_eq inRight⟩
      | v6 right rightLength =>
          simp only [contains, networkAddress, Bool.false_eq_true, or_self,
            iff_false]
          intro ⟨address, inLeft, inRight⟩
          cases address with
          | v4 address => exact Bool.noConfusion inRight
          | v6 address => exact Bool.noConfusion inLeft
  | v6 left leftLength =>
      cases right with
      | v4 right rightLength =>
          simp only [contains, networkAddress, Bool.false_eq_true, or_self,
            iff_false]
          intro ⟨address, inLeft, inRight⟩
          cases address with
          | v4 address => exact Bool.noConfusion inLeft
          | v6 address => exact Bool.noConfusion inRight
      | v6 right rightLength =>
          simp only [contains, networkAddress, beq_iff_eq]
          rw [← exists_common_iff]
          constructor
          · intro ⟨address, inLeft, inRight⟩
            cases address with
            | v4 address => exact Bool.noConfusion inLeft
            | v6 address =>
                exact ⟨address, eq_of_beq inLeft, eq_of_beq inRight⟩
          · intro ⟨address, inLeft, inRight⟩
            exact ⟨.v6 address, beq_of_eq inLeft, beq_of_eq inRight⟩

/-- Whether networks overlap does not depend on their host bits. -/
theorem overlap_congr {left right other : Cidr}
    (same : left.truncate = right.truncate) :
    left.Overlap other ↔ right.Overlap other := by
  have members (address : IpAddr) :
      left.contains address = right.contains address := by
    rw [← contains_truncate left, same, contains_truncate]
  simp only [Overlap, members]

/-! ## Addresses with a mask -/

/-- The address without the prefix length. -/
def host : Cidr → IpAddr
  | .v4 bits _ => .v4 bits
  | .v6 bits _ => .v6 bits

/-- `masklen`. -/
def maskLength : Cidr → Nat
  | .v4 _ length => length
  | .v6 _ length => length

/-- `family`. -/
def family : Cidr → Nat
  | .v4 _ _ => 4
  | .v6 _ _ => 6

/-- `inner << outer`: the network of `inner` is a proper part of `outer`. -/
def isStrictlyWithin (inner outer : Cidr) : Bool :=
  decide (outer.maskLength < inner.maskLength) && outer.contains inner.host

theorem ext_host {left right : Cidr} (sameHost : left.host = right.host)
    (sameMask : left.maskLength = right.maskLength) : left = right := by
  cases left with
  | v4 bits length =>
      cases right with
      | v4 bits' length' =>
          rw [IpAddr.v4.inj sameHost, Fin.ext sameMask]
      | v6 bits' length' => exact IpAddr.noConfusion sameHost
  | v6 bits length =>
      cases right with
      | v4 bits' length' => exact IpAddr.noConfusion sameHost
      | v6 bits' length' =>
          rw [IpAddr.v6.inj sameHost, Fin.ext sameMask]

theorem contains_host (net : Cidr) : net.contains net.host = true := by
  cases net <;> simp [contains, host]

/-- Of two networks that share an address, the longer prefix lies within the
shorter one. -/
theorem contains_host_of_overlap {inner outer : Cidr}
    (le : outer.maskLength ≤ inner.maskLength)
    (overlap : inner.Overlap outer) : outer.contains inner.host = true := by
  obtain ⟨address, inInner, inOuter⟩ := overlap
  cases inner with
  | v4 bits length =>
      cases address with
      | v4 address =>
          cases outer with
          | v4 outerBits outerLength =>
              have shared := ushiftRight_congr le (eq_of_beq inInner)
              exact beq_of_eq ((eq_of_beq inOuter).trans shared.symm)
          | v6 outerBits outerLength => exact Bool.noConfusion inOuter
      | v6 address => exact Bool.noConfusion inInner
  | v6 bits length =>
      cases address with
      | v4 address => exact Bool.noConfusion inInner
      | v6 address =>
          cases outer with
          | v4 outerBits outerLength => exact Bool.noConfusion inOuter
          | v6 outerBits outerLength =>
              have shared := ushiftRight_congr le (eq_of_beq inInner)
              exact beq_of_eq ((eq_of_beq inOuter).trans shared.symm)

theorem truncate_eq_of_contains_host {left right : Cidr}
    (sameMask : left.maskLength = right.maskLength)
    (inRight : right.contains left.host = true) :
    left.truncate = right.truncate := by
  cases left with
  | v4 bits length =>
      cases right with
      | v4 bits' length' =>
          obtain rfl : length = length' := Fin.ext sameMask
          simp only [truncate, clearHostBits]
          rw [eq_of_beq inRight]
      | v6 bits' length' => exact Bool.noConfusion inRight
  | v6 bits length =>
      cases right with
      | v4 bits' length' => exact Bool.noConfusion inRight
      | v6 bits' length' =>
          obtain rfl : length = length' := Fin.ext sameMask
          simp only [truncate, clearHostBits]
          rw [eq_of_beq inRight]

/-- Two networks without host bits that overlap are equal, or one is a proper
part of the other. -/
theorem overlap_iff_of_truncated {left right : Cidr}
    (leftTruncated : left.truncate = left)
    (rightTruncated : right.truncate = right) :
    left.Overlap right ↔
      left = right ∨ left.isStrictlyWithin right = true ∨
        right.isStrictlyWithin left = true := by
  simp only [isStrictlyWithin, Bool.and_eq_true, decide_eq_true_eq]
  constructor
  · intro overlap
    rcases Nat.lt_trichotomy left.maskLength right.maskLength with
      shorter | same | longer
    · exact .inr (.inr ⟨shorter, contains_host_of_overlap (Nat.le_of_lt shorter)
        (overlap_comm.mp overlap)⟩)
    · have inRight := contains_host_of_overlap (Nat.le_of_eq same.symm) overlap
      have networks := truncate_eq_of_contains_host same inRight
      exact .inl (by rw [← leftTruncated, networks, rightTruncated])
    · exact .inr (.inl ⟨longer,
        contains_host_of_overlap (Nat.le_of_lt longer) overlap⟩)
  · intro related
    rcases related with rfl | within | within
    · exact ⟨left.host, contains_host left, contains_host left⟩
    · exact ⟨left.host, contains_host left, within.2⟩
    · exact ⟨right.host, within.2, contains_host right⟩

end Cidr

end NetworkManager.Foundation
