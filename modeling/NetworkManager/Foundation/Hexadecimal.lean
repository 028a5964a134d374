import Mathlib.Algebra.Group.Int.Defs
import Mathlib.Algebra.Group.Nat.Defs
import Mathlib.Data.List.Basic

/-!
# Hexadecimal digits

A number is written with a fixed count of lower-case digits, and read with
digits of either case.
-/

namespace NetworkManager.Foundation

/-- A lower-case hexadecimal digit. -/
def hexDigit (value : Nat) : Char :=
  if value < 10 then Char.ofNat (48 + value) else Char.ofNat (87 + value)

/-- The last `width` hexadecimal digits of a number. -/
def hexDigits : (width value : Nat) → List Char
  | 0, _ => []
  | width + 1, value =>
      hexDigits width (value / 16) ++ [hexDigit (value % 16)]

@[simp]
theorem length_hexDigits (width value : Nat) :
    (hexDigits width value).length = width := by
  induction width generalizing value with
  | zero => rfl
  | succ width inductionHypothesis =>
      simp [hexDigits, inductionHypothesis]

private theorem hexDigit_ascii :
    ∀ value < 16, (hexDigit value).val ≤ 127 := by
  decide

theorem hexDigits_ascii (width value : Nat) :
    ∀ digit ∈ hexDigits width value, digit.val ≤ 127 := by
  induction width generalizing value with
  | zero =>
      intro digit member
      cases member
  | succ width inductionHypothesis =>
      intro digit member
      rcases List.mem_append.mp member with earlier | last
      · exact inductionHypothesis (value / 16) digit earlier
      · rw [List.mem_singleton.mp last]
        exact hexDigit_ascii _ (Nat.mod_lt _ (by omega))

private theorem hexDigit_injective :
    ∀ left < 16, ∀ right < 16, hexDigit left = hexDigit right →
      left = right := by
  decide

theorem hexDigits_injective {width left right : Nat}
    (leftBound : left < 16 ^ width) (rightBound : right < 16 ^ width)
    (same : hexDigits width left = hexDigits width right) :
    left = right := by
  induction width generalizing left right with
  | zero => omega
  | succ width inductionHypothesis =>
      simp only [hexDigits] at same
      obtain ⟨sameInitial, sameLast⟩ :=
        List.append_inj' same rfl
      have lastEqual : left % 16 = right % 16 :=
        hexDigit_injective _ (Nat.mod_lt _ (by omega)) _
          (Nat.mod_lt _ (by omega)) (by simpa using sameLast)
      have initialEqual : left / 16 = right / 16 := by
        apply inductionHypothesis _ _ sameInitial
        · exact Nat.div_lt_of_lt_mul (by rwa [Nat.pow_succ'] at leftBound)
        · exact Nat.div_lt_of_lt_mul (by rwa [Nat.pow_succ'] at rightBound)
      omega

/-- The value of a hexadecimal digit. -/
def hexValue (digit : Char) : Option Nat :=
  let code := digit.toNat
  if 48 ≤ code ∧ code ≤ 57 then some (code - 48)
  else if 97 ≤ code ∧ code ≤ 102 then some (code - 87)
  else if 65 ≤ code ∧ code ≤ 70 then some (code - 55)
  else none

private theorem hexValue_hexDigit :
    ∀ value < 16, hexValue (hexDigit value) = some value := by
  decide

/-- Read some hexadecimal digits behind those of a number. -/
def readHex : (width number : Nat) → List Char → Option (Nat × List Char)
  | 0, number, text => some (number, text)
  | _ + 1, _, [] => none
  | width + 1, number, digit :: text =>
      (hexValue digit).bind fun value =>
        readHex width (16 * number + value) text

theorem readHex_succ (width number : Nat) (text : List Char) :
    readHex (width + 1) number text =
      (readHex width number text).bind fun read => readHex 1 read.1 read.2 := by
  induction width generalizing number text with
  | zero => rfl
  | succ width inductionHypothesis =>
      cases text with
      | nil => rfl
      | cons digit text =>
          rw [readHex, readHex]
          cases hexValue digit with
          | none => rfl
          | some value => exact inductionHypothesis (16 * number + value) text

theorem readHex_hexDigits {width value : Nat} (number : Nat)
    (rest : List Char) (bound : value < 16 ^ width) :
    readHex width number (hexDigits width value ++ rest) =
      some (16 ^ width * number + value, rest) := by
  induction width generalizing value rest with
  | zero =>
      have isZero : value = 0 := by omega
      simp [readHex, hexDigits, isZero]
  | succ width inductionHypothesis =>
      have initialBound : value / 16 < 16 ^ width :=
        Nat.div_lt_of_lt_mul (by rwa [Nat.pow_succ'] at bound)
      have last := hexValue_hexDigit (value % 16) (Nat.mod_lt _ (by omega))
      rw [readHex_succ, hexDigits, List.append_assoc,
        inductionHypothesis _ initialBound, Option.bind_some]
      simp only [List.singleton_append, readHex, last, Option.bind_some,
        Option.some.injEq, Prod.mk.injEq, and_true]
      rw [Nat.pow_succ', Nat.mul_assoc]
      omega

/-- Read groups of hexadecimal digits with hyphens between them. -/
def readHexGroups : List Nat → List Char → Option (List Nat)
  | [], _ => none
  | width :: widths, text =>
      match widths, readHex width 0 text with
      | [], some (number, []) => some [number]
      | _ :: _, some (number, '-' :: rest) =>
          (readHexGroups widths rest).map fun numbers => number :: numbers
      | _, _ => none

theorem readHexGroups_last {width value : Nat} (bound : value < 16 ^ width) :
    readHexGroups [width] (hexDigits width value) = some [value] := by
  have read := readHex_hexDigits 0 [] bound
  rw [List.append_nil] at read
  simp [readHexGroups, read]

theorem readHexGroups_hyphen {width value next : Nat} {widths : List Nat}
    {rest : List Char} (bound : value < 16 ^ width) :
    readHexGroups (width :: next :: widths)
        (hexDigits width value ++ '-' :: rest) =
      (readHexGroups (next :: widths) rest).map fun numbers =>
        value :: numbers := by
  have read := readHex_hexDigits 0 ('-' :: rest) bound
  simp [readHexGroups, read]

end NetworkManager.Foundation
