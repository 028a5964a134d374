import Mathlib.Algebra.GroupWithZero.Nat
import Mathlib.Order.Fin.Basic
import NetworkManager.Foundation.Hexadecimal

/-!
# Identifiers

A UUID is a number of 128 bits; its text is 32 lower-case hexadecimal digits in
groups of 8, 4, 4, 4 and 12, separated by hyphens.
-/

namespace NetworkManager.Foundation

instance neZero_uuidCount : NeZero (2 ^ 128) := ⟨by decide⟩

/-- A 128-bit identifier. -/
structure Uuid where
  number : Fin (2 ^ 128)
deriving DecidableEq, Repr

namespace Uuid

/-- The digits of the hyphenated form. -/
def characters (uuid : Uuid) : List Char :=
  hexDigits 8 (uuid.number / 2 ^ 96) ++ '-' ::
    (hexDigits 4 (uuid.number / 2 ^ 80 % 2 ^ 16) ++ '-' ::
      (hexDigits 4 (uuid.number / 2 ^ 64 % 2 ^ 16) ++ '-' ::
        (hexDigits 4 (uuid.number / 2 ^ 48 % 2 ^ 16) ++ '-' ::
          hexDigits 12 (uuid.number % 2 ^ 48))))

/-- The hyphenated lower-case text of an identifier. -/
def text (uuid : Uuid) : String := String.ofList uuid.characters

theorem length_characters (uuid : Uuid) : uuid.characters.length = 36 := by
  simp [characters]

theorem characters_ascii (uuid : Uuid) :
    ∀ character ∈ uuid.characters, character.val ≤ 127 := by
  intro character member
  simp only [characters, List.mem_append, List.mem_cons] at member
  rcases member with digit | rfl | digit | rfl | digit | rfl | digit | rfl |
    digit
  all_goals first
    | exact hexDigits_ascii _ _ character digit
    | decide

theorem getElem?_characters_thirteen (uuid : Uuid) :
    uuid.characters[13]? = some '-' := by
  simp [characters]

theorem characters_injective : Function.Injective characters := by
  intro left right same
  unfold characters at same
  obtain ⟨first, same⟩ := List.append_inj same (by simp)
  obtain ⟨second, same⟩ := List.append_inj (List.cons.inj same).2 (by simp)
  obtain ⟨third, same⟩ := List.append_inj (List.cons.inj same).2 (by simp)
  obtain ⟨fourth, same⟩ := List.append_inj (List.cons.inj same).2 (by simp)
  have fifth := (List.cons.inj same).2
  obtain ⟨⟨leftNumber, leftBound⟩⟩ := left
  obtain ⟨⟨rightNumber, rightBound⟩⟩ := right
  have group1 := hexDigits_injective (by omega) (by omega) first
  have group2 := hexDigits_injective (by omega) (by omega) second
  have group3 := hexDigits_injective (by omega) (by omega) third
  have group4 := hexDigits_injective (by omega) (by omega) fourth
  have group5 := hexDigits_injective (by omega) (by omega) fifth
  have numbersEqual : leftNumber = rightNumber := by
    simp only at group1 group2 group3 group4 group5
    omega
  subst numbersEqual
  rfl

theorem text_injective : Function.Injective text := by
  intro left right same
  apply characters_injective
  rw [← String.toList_ofList (l := left.characters),
    ← String.toList_ofList (l := right.characters)]
  exact congrArg String.toList same

/-- `Uuid::parse_str` of the hyphenated form. -/
def parse (text : String) : Option Uuid :=
  match readHexGroups [8, 4, 4, 4, 12] text.toList with
  | some [first, second, third, fourth, fifth] =>
      some ⟨Fin.ofNat (2 ^ 128)
        (((((first * 2 ^ 16) + second) * 2 ^ 16 + third) * 2 ^ 16 + fourth) *
          2 ^ 48 + fifth)⟩
  | _ => none

theorem number_of_groups (number : Nat) :
    (((number / 2 ^ 96 * 2 ^ 16 + number / 2 ^ 80 % 2 ^ 16) * 2 ^ 16 +
      number / 2 ^ 64 % 2 ^ 16) * 2 ^ 16 + number / 2 ^ 48 % 2 ^ 16) *
        2 ^ 48 + number % 2 ^ 48 = number := by
  omega

theorem readHexGroups_characters (uuid : Uuid) :
    readHexGroups [8, 4, 4, 4, 12] uuid.characters =
      some [uuid.number.val / 2 ^ 96, uuid.number.val / 2 ^ 80 % 2 ^ 16,
        uuid.number.val / 2 ^ 64 % 2 ^ 16, uuid.number.val / 2 ^ 48 % 2 ^ 16,
        uuid.number.val % 2 ^ 48] := by
  have bound := uuid.number.isLt
  rw [characters, readHexGroups_hyphen (by omega), readHexGroups_hyphen (by omega),
    readHexGroups_hyphen (by omega), readHexGroups_hyphen (by omega),
    readHexGroups_last (by omega)]
  simp only [Option.map_some]

@[simp]
theorem parse_text (uuid : Uuid) : parse uuid.text = some uuid := by
  rw [parse, text, String.toList_ofList, readHexGroups_characters]
  simp only [number_of_groups]
  rw [Fin.ofNat_val_eq_self]

instance : LinearOrder Uuid :=
  LinearOrder.lift' Uuid.number fun left right same => by
    cases left
    cases right
    cases same
    rfl

instance : IsTrans Uuid (· ≤ ·) := ⟨fun _ _ _ => le_trans⟩

instance : Std.Antisymm (fun left right : Uuid => left ≤ right) :=
  ⟨fun _ _ => le_antisymm⟩

end Uuid

end NetworkManager.Foundation
