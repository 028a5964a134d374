import NetworkManager.Domain.MacAddresses
import NetworkManager.InventoryStore.Matching

/-!
# MAC addresses as strong identifiers

A device is recognized by the normal form of a MAC address.  The normal form
keeps the hexadecimal digits of any text, so it names six octets only where the
text writes them out.
-/

namespace NetworkManager.InventoryStore

open NetworkManager.Foundation
open NetworkManager.Domain.Inventory

/-- An observation that is reconciled has passed its checks. -/
theorem validate_of_reconciled {library : InventoryLibrary}
    {context : MutationContext} {generated : Generated}
    {observation : DeviceObservation} {committed db : InventoryDb}
    {result : ReconciliationResult}
    (reconciled :
      ((reconcileObservation library context generated observation).eval
        ⟨committed, db⟩).1 = .ok result) :
    observation.validate = .ok () := by
  unfold reconcileObservation at reconciled
  cases contextChecked : context.validate with
  | error failure =>
      rw [contextChecked] at reconciled
      cases reconciled
  | ok checked =>
      cases observationChecked : observation.validate with
      | error failure =>
          rw [contextChecked, observationChecked] at reconciled
          cases reconciled
      | ok checked => rfl

/-- A reconciled observation has identifiers that are normalized. -/
theorem normalize_of_reconciled {library : InventoryLibrary}
    {context : MutationContext} {generated : Generated}
    {observation : DeviceObservation} {committed db : InventoryDb}
    {result : ReconciliationResult}
    (reconciled :
      ((reconcileObservation library context generated observation).eval
        ⟨committed, db⟩).1 = .ok result)
    {identifier : NewIdentifier}
    (given : identifier ∈ observation.identifiers) :
    ∃ normalizedValue,
      identifier.kind.normalize identifier.value = .ok normalizedValue := by
  have valid := (DeviceObservation.validate_eq_ok
    (validate_of_reconciled reconciled)).2 identifier given
  obtain ⟨normalizedValue, _, isNormalized, _⟩ :=
    NewIdentifier.exists_identity valid
  rw [normalized] at isNormalized
  cases outcome : identifier.kind.normalize identifier.value with
  | error message =>
      rw [outcome] at isNormalized
      cases isNormalized
  | ok value => exact ⟨value, rfl⟩

/-- No observation that gives the text as a MAC address is reconciled. -/
def NeverMerges (value : String) : Prop :=
  ∀ (library : InventoryLibrary) (context : MutationContext)
    (generated : Generated) (observation : DeviceObservation)
    (committed db : InventoryDb),
    ∀ identifier ∈ observation.identifiers, identifier.kind = .mac →
      identifier.value = value → ∀ result,
        ((reconcileObservation library context generated observation).eval
          ⟨committed, db⟩).1 ≠ .ok result

private theorem neverMerges_of_rejected {value : String}
    (rejected : ∀ result, IdentifierKind.mac.normalize value ≠ .ok result) :
    NeverMerges value := by
  intro library context generated observation committed db identifier given
    isMac isValue result reconciled
  obtain ⟨normalizedValue, isNormalized⟩ :=
    normalize_of_reconciled reconciled given
  rw [isMac, isValue] at isNormalized
  exact rejected normalizedValue isNormalized

/-- The normal forms of two texts identify the octets that they denote.  The
forms have twelve digits, they are equal if the octets are, and what contains no
address is refused. -/
structure IdentifiesOctets (reading : MacReading) (left right : String) :
    Prop where
  digits : ∀ value ∈ [left, right], ∀ result,
    IdentifierKind.mac.normalize value = .ok result →
      result.toList.length = 12 ∧
        ∀ digit ∈ result.toList,
          IdentifierKind.isAsciiHexdigit digit = true ∧ digit.toLower = digit
  sameOctets : ∀ leftForm rightForm,
    IdentifierKind.mac.normalize left = .ok leftForm →
      IdentifierKind.mac.normalize right = .ok rightForm →
        (leftForm = rightForm ↔ reading.read left = reading.read right)
  rejected : ∀ value ∈ [left, right], reading.read value = none →
    (∀ result, IdentifierKind.mac.normalize value ≠ .ok result) ∧
      NeverMerges value

section Readings

variable {reading : MacReading} {left right value : String}

private theorem IdentifiesOctets.isPlain
    (identifies : IdentifiesOctets reading left right)
    (member : value ∈ [left, right]) : IsPlainMac reading value := by
  by_cases noDigit : digitCount value = 0
  · exact .inl noDigit
  · have normalizes : IdentifierKind.mac.normalize value =
        .ok (IdentifierKind.hexDigitsOf value) :=
      IdentifierKind.normalize_mac_eq_ok_iff.mpr
        ⟨rfl, Nat.pos_of_ne_zero noDigit⟩
    have twelve := (identifies.digits value member _ normalizes).1
    rw [length_hexDigitsOf] at twelve
    refine .inr ⟨?_, twelve⟩
    cases reads : reading.read value with
    | none =>
        exact absurd normalizes
          ((identifies.rejected value member reads).1 _)
    | some address => rfl

private theorem identifiesOctets_of_isPlain
    (plainLeft : IsPlainMac reading left)
    (plainRight : IsPlainMac reading right) :
    IdentifiesOctets reading left right := by
  have plain : ∀ value ∈ [left, right], IsPlainMac reading value := by
    intro value member
    rcases List.mem_cons.mp member with rfl | inRight
    · exact plainLeft
    · rw [List.mem_singleton.mp inRight]
      exact plainRight
  refine ⟨?_, ?_, ?_⟩
  · intro value member result normalizes
    obtain ⟨_, _, _, form⟩ := (plain value member).accepted normalizes
    obtain ⟨rfl, _⟩ := IdentifierKind.normalize_mac_eq_ok_iff.mp normalizes
    exact ⟨by rw [form, length_hexDigits],
      fun digit inForm => IdentifierKind.hexdigit_of_mem inForm⟩
  · intro leftForm rightForm leftNormalizes rightNormalizes
    obtain ⟨leftAddress, leftReads, leftBound, leftDigits⟩ :=
      plainLeft.accepted leftNormalizes
    obtain ⟨rightAddress, rightReads, rightBound, rightDigits⟩ :=
      plainRight.accepted rightNormalizes
    rw [leftReads, rightReads, Option.some.injEq, ← String.toList_inj,
      leftDigits, rightDigits]
    exact ⟨hexDigits_injective leftBound rightBound, congrArg _⟩
  · intro value member noAddress
    have refused : ∀ result,
        IdentifierKind.mac.normalize value ≠ .ok result := by
      intro result normalizes
      obtain ⟨address, reads, _⟩ := (plain value member).accepted normalizes
      rw [noAddress] at reads
      cases reads
    exact ⟨refused, neverMerges_of_rejected refused⟩

end Readings

end NetworkManager.InventoryStore
