import Mathlib.Data.List.DropRight
import Mathlib.Data.List.Infix

/-!
# String operations

The string operations of the Rust standard library that the program uses, over
the characters of a string.  `len` counts the bytes of the UTF-8 encoding,
which is `String.utf8ByteSize`.  Parts that are joined can be told apart if they
do not contain the separator, also from as many parts that may contain it.
-/

namespace NetworkManager.Foundation

/-- The Unicode property `White_Space`. -/
def isWhiteSpace (character : Char) : Bool :=
  let code := character.toNat
  (9 ≤ code && code ≤ 13) || code == 32 || code == 0x85 || code == 0xA0 ||
    code == 0x1680 || (0x2000 ≤ code && code ≤ 0x200A) || code == 0x2028 ||
    code == 0x2029 || code == 0x202F || code == 0x205F || code == 0x3000

/-- Drop the characters that satisfy `strip` from both ends. -/
def stripEnds (strip : Char → Bool) (characters : List Char) : List Char :=
  (characters.dropWhile strip).rdropWhile strip

/-- `str::trim`. -/
def trim (text : String) : String :=
  String.ofList (stripEnds isWhiteSpace text.toList)

/-- `trim().is_empty()`. -/
def isBlank (text : String) : Bool := (trim text).isEmpty

/-- `str::to_ascii_lowercase`. -/
def toAsciiLowercase (text : String) : String :=
  String.ofList (text.toList.map Char.toLower)

/-- `needle` occurs somewhere in `characters`. -/
def occursIn (needle : List Char) : List Char → Bool
  | [] => needle.isEmpty
  | first :: rest =>
      needle.isPrefixOf (first :: rest) || occursIn needle rest

/-- `str::contains`. -/
def containsText (text needle : String) : Bool :=
  occursIn needle.toList text.toList

/-- `str::ends_with`. -/
def endsWithText (text needle : String) : Bool :=
  needle.toList.isSuffixOf text.toList

theorem dropWhile_stripEnds (strip : Char → Bool) (characters : List Char) :
    (stripEnds strip characters).dropWhile strip =
      stripEnds strip characters := by
  cases shape : stripEnds strip characters with
  | nil => rfl
  | cons first rest =>
      have isPrefix :
          (first :: rest) <+: characters.dropWhile strip := by
        rw [← shape]
        exact List.rdropWhile_prefix strip _
      obtain ⟨suffix, split⟩ := isPrefix
      have headKept : strip first = false := by
        have nonempty : characters.dropWhile strip ≠ [] := by
          rw [← split]
          simp
        have kept := List.head_dropWhile_not strip nonempty
        simpa [← split] using kept
      rw [List.dropWhile_cons_of_neg (by simp [headKept])]

@[simp]
theorem stripEnds_stripEnds (strip : Char → Bool) (characters : List Char) :
    stripEnds strip (stripEnds strip characters) =
      stripEnds strip characters := by
  rw [stripEnds, dropWhile_stripEnds]
  exact List.rdropWhile_idempotent strip _

@[simp]
theorem toList_trim (text : String) :
    (trim text).toList = stripEnds isWhiteSpace text.toList := by
  rw [trim, String.toList_ofList]

@[simp]
theorem trim_trim (text : String) : trim (trim text) = trim text := by
  rw [trim, toList_trim, stripEnds_stripEnds]
  rfl

theorem stripEnds_eq_nil_iff {strip : Char → Bool} {characters : List Char} :
    stripEnds strip characters = [] ↔
      ∀ character ∈ characters, strip character = true := by
  rw [stripEnds, List.rdropWhile_eq_nil_iff]
  constructor
  · intro stripped
    apply List.dropWhile_eq_nil_iff.mp
    by_contra nonempty
    have kept := List.head_dropWhile_not strip nonempty
    have removed := stripped _ (List.head_mem nonempty)
    rw [kept] at removed
    cases removed
  · intro stripped
    rw [List.dropWhile_eq_nil_iff.mpr stripped]
    intro character member
    cases member

theorem isBlank_iff {text : String} :
    isBlank text = true ↔
      ∀ character ∈ text.toList, isWhiteSpace character = true := by
  rw [isBlank, String.isEmpty_iff, ← String.toList_eq_nil_iff, toList_trim,
    stripEnds_eq_nil_iff]

/-- What is stripped are the characters around the rest. -/
theorem exists_stripEnds (strip : Char → Bool) (characters : List Char) :
    ∃ before after,
      characters = before ++ stripEnds strip characters ++ after ∧
      (∀ character ∈ before, strip character = true) ∧
      ∀ character ∈ after, strip character = true := by
  refine ⟨characters.takeWhile strip,
    (characters.dropWhile strip).rtakeWhile strip, ?_, ?_, ?_⟩
  · rw [List.append_assoc, stripEnds, List.rdropWhile_append_rtakeWhile,
      List.takeWhile_append_dropWhile]
  · exact fun character member => List.mem_takeWhile_imp member
  · exact fun character member => List.mem_rtakeWhile_imp member

theorem filter_stripEnds {strip keep : Char → Bool}
    (disjoint : ∀ character, strip character = true → keep character = false)
    (characters : List Char) :
    (stripEnds strip characters).filter keep = characters.filter keep := by
  rcases exists_stripEnds strip characters with
    ⟨before, after, split, beforeStripped, afterStripped⟩
  have nothing : ∀ part : List Char,
      (∀ character ∈ part, strip character = true) → part.filter keep = [] := by
    intro part stripped
    rw [List.filter_eq_nil_iff]
    intro character member
    simp [disjoint character (stripped character member)]
  conv_rhs => rw [split]
  rw [List.filter_append, List.filter_append, nothing before beforeStripped,
    nothing after afterStripped, List.nil_append, List.append_nil]

theorem stripEnds_append {strip : Char → Bool}
    {before middle after : List Char}
    (beforeStripped : ∀ character ∈ before, strip character = true)
    (afterStripped : ∀ character ∈ after, strip character = true) :
    stripEnds strip (before ++ middle ++ after) = stripEnds strip middle := by
  rw [List.append_assoc, stripEnds,
    List.dropWhile_append_of_pos beforeStripped, List.dropWhile_append]
  by_cases isEmpty : middle.dropWhile strip = []
  · have noAfter : after.dropWhile strip = [] :=
      List.dropWhile_eq_nil_iff.mpr afterStripped
    rw [if_pos (by simp [isEmpty]), noAfter, stripEnds, isEmpty]
  · rw [if_neg (by simpa using isEmpty), List.rdropWhile,
      List.reverse_append, List.dropWhile_append_of_pos]
    · rfl
    · intro character member
      exact afterStripped character (List.mem_reverse.mp member)

/-- Stripping less first makes no difference. -/
theorem stripEnds_of_imp {narrow wide : Char → Bool}
    (wider : ∀ character, narrow character = true → wide character = true)
    (characters : List Char) :
    stripEnds wide (stripEnds narrow characters) =
      stripEnds wide characters := by
  rcases exists_stripEnds narrow characters with
    ⟨before, after, split, beforeStripped, afterStripped⟩
  conv_rhs => rw [split]
  apply (stripEnds_append _ _).symm
  · exact fun character member =>
      wider character (beforeStripped character member)
  · exact fun character member =>
      wider character (afterStripped character member)

/-- Nothing is stripped if nothing that could be is missing afterwards. -/
theorem stripEnds_eq_self {strip : Char → Bool} {characters : List Char}
    (same : (stripEnds strip characters).countP strip =
      characters.countP strip) :
    stripEnds strip characters = characters := by
  rcases exists_stripEnds strip characters with
    ⟨before, after, split, beforeStripped, afterStripped⟩
  have counts := congrArg (List.countP strip) split
  rw [List.countP_append, List.countP_append, same,
    List.countP_eq_length.mpr beforeStripped,
    List.countP_eq_length.mpr afterStripped] at counts
  have noBefore : before = [] := List.length_eq_zero_iff.mp (by omega)
  have noAfter : after = [] := List.length_eq_zero_iff.mp (by omega)
  rw [noBefore, noAfter, List.nil_append, List.append_nil] at split
  exact split.symm

/-! ## Occurrences -/

theorem occursIn_iff (needle : List Char) :
    ∀ characters : List Char,
      occursIn needle characters = true ↔ needle <:+: characters
  | [] => by simp [occursIn]
  | first :: rest => by
      rw [occursIn, Bool.or_eq_true, List.isPrefixOf_iff_prefix,
        occursIn_iff needle rest, List.infix_cons_iff]

theorem containsText_iff (text needle : String) :
    containsText text needle = true ↔ needle.toList <:+: text.toList :=
  occursIn_iff needle.toList text.toList

theorem endsWithText_iff (text needle : String) :
    endsWithText text needle = true ↔ needle.toList <:+ text.toList :=
  List.isSuffixOf_iff_suffix

theorem le_iff_toNat {left right : Char} :
    left ≤ right ↔ left.toNat ≤ right.toNat := Iff.rfl

theorem toNat_toLower (character : Char) :
    character.toLower.toNat =
      if 65 ≤ character.toNat ∧ character.toNat ≤ 90 then
        character.toNat + 32
      else character.toNat := by
  have bounds : (character.val ≥ 'A'.val ∧ character.val ≤ 'Z'.val) ↔
      65 ≤ character.toNat ∧ character.toNat ≤ 90 := Iff.rfl
  delta Char.toLower
  by_cases upper : character.val ≥ 'A'.val ∧ character.val ≤ 'Z'.val
  · have code := bounds.mp upper
    rw [dif_pos upper, if_pos code]
    have sum : (character.val + ('a'.val - 'A'.val)).toNat =
        (character.val.toNat + 32) % 2 ^ 32 := UInt32.toNat_add _ _
    have isCode : character.val.toNat = character.toNat := rfl
    exact sum.trans (by omega)
  · rw [dif_neg upper, if_neg fun code => upper (bounds.mpr code)]

theorem toLower_toLower (character : Char) :
    character.toLower.toLower = character.toLower := by
  rw [← Char.toNat_inj, toNat_toLower, toNat_toLower]
  split_ifs <;> omega

theorem isWhiteSpace_toLower (character : Char) :
    isWhiteSpace character.toLower = isWhiteSpace character := by
  rw [Bool.eq_iff_iff]
  simp only [isWhiteSpace, Bool.or_eq_true, Bool.and_eq_true,
    decide_eq_true_eq, beq_iff_eq, toNat_toLower]
  split_ifs <;> omega

/-- A character that is no letter is not folded, and none is folded to it. -/
theorem toLower_eq_iff {folded character : Char}
    (notLetter : folded.toNat < 65) :
    character.toLower = folded ↔ character = folded := by
  rw [← Char.toNat_inj, ← Char.toNat_inj, toNat_toLower]
  split_ifs <;> omega

@[simp]
theorem toList_toAsciiLowercase (text : String) :
    (toAsciiLowercase text).toList = text.toList.map Char.toLower := by
  rw [toAsciiLowercase, String.toList_ofList]

section Joining

variable {α : Type} [DecidableEq α] {separator : α}
  {left right : List (List α)}

/-- The separator occurs in the parts, and once between two of them. -/
theorem count_intercalate (separator : α) (parts : List (List α)) :
    ([separator].intercalate parts).count separator =
      parts.flatten.count separator + (parts.length - 1) := by
  induction parts with
  | nil => rfl
  | cons first rest inductionHypothesis =>
      cases rest with
      | nil => simp
      | cons second others =>
          have filled : second :: others ≠ [] := List.cons_ne_nil second others
          rw [List.intercalate_cons_of_ne_nil filled, List.flatten_cons,
            List.count_append, List.count_append, List.count_append,
            inductionHypothesis, List.count_singleton_self, List.length_cons,
            List.length_cons, List.length_cons]
          omega

/-- As many parts with the same text do not contain the separator either. -/
theorem separatorFree_of_intercalate_eq
    (free : ∀ part ∈ left, separator ∉ part)
    (sameLength : left.length = right.length)
    (same : [separator].intercalate left = [separator].intercalate right) :
    ∀ part ∈ right, separator ∉ part := by
  have noneLeft : left.flatten.count separator = 0 := by
    rw [List.count_eq_zero, List.mem_flatten]
    rintro ⟨part, isPart, occurs⟩
    exact free part isPart occurs
  have counts := congrArg (List.count separator) same
  rw [count_intercalate, count_intercalate, noneLeft, sameLength] at counts
  have noneRight : right.flatten.count separator = 0 := by omega
  intro part isPart occurs
  exact List.count_eq_zero.mp noneRight
    (List.mem_flatten.mpr ⟨part, isPart, occurs⟩)

/-- Parts without the separator are known from their text and their number. -/
theorem eq_of_intercalate_eq (free : ∀ part ∈ left, separator ∉ part)
    (sameLength : left.length = right.length)
    (same : [separator].intercalate left = [separator].intercalate right) :
    left = right := by
  have freeRight := separatorFree_of_intercalate_eq free sameLength same
  by_cases isEmpty : left = []
  · rw [isEmpty, List.length_nil] at sameLength
    rw [isEmpty, List.length_eq_zero_iff.mp sameLength.symm]
  · have filled : right ≠ [] := by
      intro isNil
      rw [isNil, List.length_nil] at sameLength
      exact isEmpty (List.length_eq_zero_iff.mp sameLength)
    rw [← List.splitOn_intercalate separator free isEmpty, same,
      List.splitOn_intercalate separator freeRight filled]

end Joining

end NetworkManager.Foundation
