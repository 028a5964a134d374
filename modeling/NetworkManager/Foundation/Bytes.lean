import Mathlib.Algebra.Group.Int.Defs
import Mathlib.Algebra.Group.Nat.Defs
import Mathlib.Data.List.Basic
import Mathlib.Data.List.Induction

/-!
# Bytes and machine integers

`Vec<u8>` is a list of bytes, and `[u8; n]` one of `n` bytes.  A number is
written in bytes with the most significant first.  The values of type `i64` are
integers between two bounds; sums and differences that would leave the bounds
saturate.
-/

namespace NetworkManager.Foundation

abbrev Bytes := List UInt8

/-- `[u8; size]`. -/
structure FixedBytes (size : Nat) where
  bytes : Bytes
  sized : bytes.length = size
deriving DecidableEq

namespace FixedBytes

variable {size : Nat}

@[ext]
theorem ext {left right : FixedBytes size}
    (sameBytes : left.bytes = right.bytes) : left = right := by
  cases left
  cases right
  cases sameBytes
  rfl

/-- `size` copies of one byte. -/
def replicate (size : Nat) (byte : UInt8) : FixedBytes size :=
  ⟨List.replicate size byte, List.length_replicate⟩

/-- `<[u8; size]>::try_from` of a slice. -/
def tryFrom (size : Nat) (bytes : Bytes) : Option (FixedBytes size) :=
  if sized : bytes.length = size then some ⟨bytes, sized⟩ else none

@[simp]
theorem tryFrom_bytes (fixed : FixedBytes size) :
    tryFrom size fixed.bytes = some fixed := by
  rw [tryFrom, dif_pos fixed.sized]

theorem bytes_of_tryFrom {bytes : Bytes} {fixed : FixedBytes size}
    (sized : tryFrom size bytes = some fixed) : bytes = fixed.bytes := by
  by_cases isSized : bytes.length = size
  · rw [tryFrom, dif_pos isSized] at sized
    cases sized
    rfl
  · rw [tryFrom, dif_neg isSized] at sized
    cases sized

end FixedBytes

/-- `str::as_bytes`. -/
def utf8Bytes (text : String) : Bytes := text.toByteArray.data.toList

theorem utf8Bytes_append (left right : String) :
    utf8Bytes (left ++ right) = utf8Bytes left ++ utf8Bytes right := by
  simp [utf8Bytes]

theorem utf8Bytes_injective : Function.Injective utf8Bytes := by
  intro left right same
  have sameArray : left.toByteArray = right.toByteArray := by
    apply ByteArray.ext
    exact Array.toList_inj.mp same
  exact String.toByteArray_inj.mp sameArray

theorem utf8Bytes_ofList (characters : List Char) :
    utf8Bytes (String.ofList characters) =
      characters.flatMap String.utf8EncodeChar := by
  simp [utf8Bytes, List.utf8Encode]

/-- A character of ASCII is one byte. -/
theorem utf8Bytes_ofList_of_ascii {characters : List Char}
    (ascii : ∀ character ∈ characters, character.val ≤ 127) :
    utf8Bytes (String.ofList characters) =
      characters.map fun character => character.val.toUInt8 := by
  rw [utf8Bytes_ofList]
  induction characters with
  | nil => rfl
  | cons first rest inductionHypothesis =>
      have single : String.utf8EncodeChar first = [first.val.toUInt8] :=
        String.utf8EncodeChar_eq_singleton
          (Char.utf8Size_eq_one_iff.mpr (ascii first (List.mem_cons_self ..)))
      rw [List.flatMap_cons, single, inductionHypothesis fun other member =>
        ascii other (List.mem_cons_of_mem first member)]
      rfl

/-- `str::from_utf8`. -/
def fromUtf8 (bytes : Bytes) : Option String :=
  String.fromUTF8? ⟨bytes.toArray⟩

theorem fromUtf8_eq_some_iff {bytes : Bytes} {text : String} :
    fromUtf8 bytes = some text ↔ utf8Bytes text = bytes := by
  constructor
  · intro decoded
    simp only [fromUtf8, String.fromUTF8?] at decoded
    split at decoded
    · cases decoded
      simp [utf8Bytes, String.fromUTF8]
    · cases decoded
  · rintro rfl
    have encoded : (⟨(utf8Bytes text).toArray⟩ : ByteArray) =
        text.toByteArray := by
      simp [utf8Bytes]
    have valid : text.toByteArray.IsValidUTF8 := text.isValidUTF8
    simp only [fromUtf8, String.fromUTF8?, encoded, dif_pos valid]
    rfl

/-- The last `width` bytes of a number. -/
def toBeBytes : (width value : Nat) → Bytes
  | 0, _ => []
  | width + 1, value => toBeBytes width (value / 256) ++ [UInt8.ofNat value]

/-- The number that bytes are read as. -/
def ofBeBytes (bytes : Bytes) : Nat :=
  bytes.foldl (fun value byte => value * 256 + byte.toNat) 0

@[simp]
theorem length_toBeBytes (width value : Nat) :
    (toBeBytes width value).length = width := by
  induction width generalizing value with
  | zero => rfl
  | succ width inductionHypothesis =>
      rw [toBeBytes, List.length_append, inductionHypothesis]
      rfl

theorem ofBeBytes_concat (front : Bytes) (last : UInt8) :
    ofBeBytes (front ++ [last]) = ofBeBytes front * 256 + last.toNat := by
  rw [ofBeBytes, List.foldl_append]
  rfl

/-- A number that fits is read back. -/
theorem ofBeBytes_toBeBytes {width value : Nat} (fits : value < 256 ^ width) :
    ofBeBytes (toBeBytes width value) = value := by
  induction width generalizing value with
  | zero =>
      rw [Nat.pow_zero] at fits
      exact (Nat.lt_one_iff.mp fits).symm
  | succ width inductionHypothesis =>
      have front : value / 256 < 256 ^ width := by
        rw [Nat.pow_succ] at fits
        exact Nat.div_lt_of_lt_mul (by rwa [Nat.mul_comm])
      rw [toBeBytes, ofBeBytes_concat, inductionHypothesis front,
        UInt8.toNat_ofNat']
      omega

/-- Bytes are those of the number that they are read as. -/
theorem toBeBytes_ofBeBytes (bytes : Bytes) :
    toBeBytes bytes.length (ofBeBytes bytes) = bytes := by
  induction bytes using List.reverseRecOn with
  | nil => rfl
  | append_singleton front last inductionHypothesis =>
      have small := last.toNat_lt
      have higher : (ofBeBytes front * 256 + last.toNat) / 256 =
          ofBeBytes front := by
        omega
      have lowest : UInt8.ofNat (ofBeBytes front * 256 + last.toNat) =
          last := by
        apply UInt8.toNat_inj.mp
        rw [UInt8.toNat_ofNat']
        omega
      rw [List.length_append, List.length_singleton, ofBeBytes_concat,
        toBeBytes, higher, lowest, inductionHypothesis]

/-- A value of type `i64`. -/
def IsI64 (value : Int) : Prop := -2 ^ 63 ≤ value ∧ value < 2 ^ 63

instance (value : Int) : Decidable (IsI64 value) :=
  inferInstanceAs (Decidable (_ ∧ _))

/-- A sum of type `i64` that saturates. -/
def saturatingAdd (left right : Int) : Int :=
  max (-2 ^ 63) (min (left + right) (2 ^ 63 - 1))

/-- A difference of type `i64` that saturates. -/
def saturatingSub (left right : Int) : Int :=
  max (-2 ^ 63) (min (left - right) (2 ^ 63 - 1))

/-- Saturation hides no value of the type. -/
theorem le_saturatingAdd {value now skew : Int} (isI64 : IsI64 value)
    (bounded : value ≤ now + skew) : value ≤ saturatingAdd now skew := by
  have below := isI64.2
  rw [saturatingAdd]
  omega

/-- A sum that saturates at its upper bound is not above the sum. -/
theorem saturatingAdd_le {left right : Int} (small : -2 ^ 63 ≤ left + right) :
    saturatingAdd left right ≤ left + right := by
  rw [saturatingAdd]
  omega

theorem saturatingAdd_eq {left right : Int} (isI64 : IsI64 (left + right)) :
    saturatingAdd left right = left + right := by
  obtain ⟨above, below⟩ := isI64
  rw [saturatingAdd]
  omega

end NetworkManager.Foundation
