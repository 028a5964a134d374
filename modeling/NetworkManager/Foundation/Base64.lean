import Mathlib.Data.List.GetD
import NetworkManager.Foundation.Bytes

/-!
# Base64

Three bytes are four characters of six bits each.  This is the alphabet that is
safe in a URL, and the end of a text is not padded.
-/

namespace NetworkManager.Foundation.Base64

def encodeValues : Bytes → List Nat
  | [] => []
  | [a] => [a.toNat / 4, a.toNat % 4 * 16]
  | [a, b] =>
      [a.toNat / 4, a.toNat % 4 * 16 + b.toNat / 16, b.toNat % 16 * 4]
  | a :: b :: c :: rest =>
      a.toNat / 4 :: (a.toNat % 4 * 16 + b.toNat / 16) ::
        (b.toNat % 16 * 4 + c.toNat / 64) :: c.toNat % 64 :: encodeValues rest

/-- The bits that are left over at the end have to be zero. -/
def decodeValues : List Nat → Option Bytes
  | [] => some []
  | [_] => none
  | [p, q] =>
      if q % 16 = 0 then some [UInt8.ofNat (p * 4 + q / 16)] else none
  | [p, q, r] =>
      if r % 4 = 0 then
        some [UInt8.ofNat (p * 4 + q / 16),
          UInt8.ofNat (q % 16 * 16 + r / 4)]
      else none
  | p :: q :: r :: s :: rest =>
      (decodeValues rest).map fun bytes =>
        UInt8.ofNat (p * 4 + q / 16) :: UInt8.ofNat (q % 16 * 16 + r / 4) ::
          UInt8.ofNat (r % 4 * 64 + s) :: bytes

theorem ofNat_eq {byte : UInt8} {value : Nat} (same : value = byte.toNat) :
    UInt8.ofNat value = byte := by
  rw [same]
  exact UInt8.ofNat_toNat

theorem decodeValues_encodeValues (bytes : Bytes) :
    decodeValues (encodeValues bytes) = some bytes := by
  induction bytes using encodeValues.induct with
  | case1 => rfl
  | case2 a =>
      have aSize := a.toNat_lt
      have first : UInt8.ofNat (a.toNat / 4 * 4 + a.toNat % 4 * 16 / 16) = a :=
        ofNat_eq (by omega)
      simp only [encodeValues, decodeValues, first]
      exact if_pos (by omega)
  | case3 a b =>
      have bSize := b.toNat_lt
      have first : UInt8.ofNat (a.toNat / 4 * 4 +
          (a.toNat % 4 * 16 + b.toNat / 16) / 16) = a := ofNat_eq (by omega)
      have second : UInt8.ofNat ((a.toNat % 4 * 16 + b.toNat / 16) % 16 * 16 +
          b.toNat % 16 * 4 / 4) = b := ofNat_eq (by omega)
      simp only [encodeValues, decodeValues, first, second]
      exact if_pos (by omega)
  | case4 a b c rest inductionHypothesis =>
      have bSize := b.toNat_lt
      have cSize := c.toNat_lt
      have first : UInt8.ofNat (a.toNat / 4 * 4 +
          (a.toNat % 4 * 16 + b.toNat / 16) / 16) = a := ofNat_eq (by omega)
      have second : UInt8.ofNat ((a.toNat % 4 * 16 + b.toNat / 16) % 16 * 16 +
          (b.toNat % 16 * 4 + c.toNat / 64) / 4) = b := ofNat_eq (by omega)
      have third : UInt8.ofNat ((b.toNat % 16 * 4 + c.toNat / 64) % 4 * 64 +
          c.toNat % 64) = c := ofNat_eq (by omega)
      simp only [encodeValues, decodeValues, inductionHypothesis, first, second,
        third, Option.map_some]

theorem length_encodeValues (bytes : Bytes) :
    (encodeValues bytes).length = (4 * bytes.length + 2) / 3 := by
  induction bytes using encodeValues.induct with
  | case1 => rfl
  | case2 a => simp [encodeValues]
  | case3 a b => simp [encodeValues]
  | case4 a b c rest inductionHypothesis =>
      simp only [encodeValues, List.length_cons, inductionHypothesis]
      omega

theorem lt_of_mem_encodeValues {bytes : Bytes} {value : Nat}
    (member : value ∈ encodeValues bytes) : value < 64 := by
  induction bytes using encodeValues.induct with
  | case1 => cases member
  | case2 a =>
      have aSize := a.toNat_lt
      simp only [encodeValues, List.mem_cons, List.not_mem_nil, or_false]
        at member
      omega
  | case3 a b =>
      have aSize := a.toNat_lt
      have bSize := b.toNat_lt
      simp only [encodeValues, List.mem_cons, List.not_mem_nil, or_false]
        at member
      omega
  | case4 a b c rest inductionHypothesis =>
      have aSize := a.toNat_lt
      have bSize := b.toNat_lt
      have cSize := c.toNat_lt
      simp only [encodeValues, List.mem_cons] at member
      rcases member with first | second | third | fourth | later
      · omega
      · omega
      · omega
      · omega
      · exact inductionHypothesis later

def alphabet : List Char :=
  "ABCDEFGHIJKLMNOPQRSTUVWXYZabcdefghijklmnopqrstuvwxyz0123456789-_".toList

def digit (value : Nat) : Char := alphabet.getD value 'A'

def digitValue (character : Char) : Option Nat :=
  alphabet.findIdx? fun other => other = character

def encode (bytes : Bytes) : String :=
  String.ofList ((encodeValues bytes).map digit)

def decode (text : String) : Option Bytes :=
  (text.toList.mapM digitValue).bind decodeValues

theorem digitValue_digit {value : Nat} (small : value < 64) :
    digitValue (digit value) = some value := by
  have all : ∀ given : Fin 64, digitValue (digit given) = some given.val := by
    decide +kernel
  exact all ⟨value, small⟩

theorem digit_plain (value : Nat) :
    digit value ≠ '.' ∧ (digit value).utf8Size = 1 := by
  have member : digit value ∈ 'A' :: alphabet := by
    by_cases small : value < alphabet.length
    · rw [digit, List.getD_eq_getElem _ _ small]
      exact List.mem_cons_of_mem _ (List.getElem_mem small)
    · rw [digit, List.getD_eq_default _ _ (Nat.not_lt.mp small)]
      exact List.mem_cons_self
  have all : ('A' :: alphabet).all (fun character =>
      decide (character ≠ '.') && decide (character.utf8Size = 1)) = true := by
    decide
  have plain := List.all_eq_true.mp all _ member
  rwa [Bool.and_eq_true, decide_eq_true_eq, decide_eq_true_eq] at plain

theorem mapM_digitValue {values : List Nat}
    (small : ∀ value ∈ values, value < 64) :
    (values.map digit).mapM digitValue = some values := by
  induction values with
  | nil => rfl
  | cons value rest inductionHypothesis =>
      have first := digitValue_digit (small value List.mem_cons_self)
      have later := inductionHypothesis fun other member =>
        small other (List.mem_cons_of_mem value member)
      simp [List.mapM_cons, first, later]

theorem decode_encode (bytes : Bytes) : decode (encode bytes) = some bytes := by
  have values := mapM_digitValue
    fun value (member : value ∈ encodeValues bytes) =>
      lt_of_mem_encodeValues member
  rw [decode, encode, String.toList_ofList, values]
  exact decodeValues_encodeValues bytes

theorem dot_notMem_encode (bytes : Bytes) : '.' ∉ (encode bytes).toList := by
  rw [encode, String.toList_ofList]
  intro member
  rcases List.mem_map.mp member with ⟨value, _, isDot⟩
  exact (digit_plain value).1 isDot

theorem utf8ByteSize_ofList {characters : List Char}
    (plain : ∀ character ∈ characters, character.utf8Size = 1) :
    (String.ofList characters).utf8ByteSize = characters.length := by
  induction characters with
  | nil => rfl
  | cons character rest inductionHypothesis =>
      have first : (String.singleton character).utf8ByteSize = 1 :=
        String.utf8ByteSize_singleton.trans (plain character List.mem_cons_self)
      have later := inductionHypothesis fun other member =>
        plain other (List.mem_cons_of_mem character member)
      rw [String.ofList_cons, String.utf8ByteSize_append, first, later,
        List.length_cons, Nat.add_comm]

theorem utf8ByteSize_encode (bytes : Bytes) :
    (encode bytes).utf8ByteSize = (4 * bytes.length + 2) / 3 := by
  rw [encode, utf8ByteSize_ofList, List.length_map, length_encodeValues]
  intro character member
  rcases List.mem_map.mp member with ⟨value, _, rfl⟩
  exact (digit_plain value).2

end NetworkManager.Foundation.Base64
