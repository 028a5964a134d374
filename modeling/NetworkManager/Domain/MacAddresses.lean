import NetworkManager.Domain.Identifiers
import NetworkManager.Foundation.Hexadecimal

/-!
# MAC addresses

Which texts denote six octets is left open: a reading is any notion of that
which takes a text with twelve digits for the octets that these write, if it
takes it for an address at all.  `normalize` does not ask the question.  It keeps
the hexadecimal digits, wherever they stand.
-/

namespace NetworkManager.Domain.Inventory

open NetworkManager.Foundation

/-- The number that some hexadecimal digits write. -/
def hexNumber (digits : List Char) : Nat :=
  digits.foldl (fun number digit => 16 * number + (hexValue digit).getD 0) 0

private theorem hexNumber_concat (digits : List Char) (last : Char) :
    hexNumber (digits ++ [last]) =
      16 * hexNumber digits + (hexValue last).getD 0 := by
  rw [hexNumber, List.foldl_append]
  rfl

/-- A digit has a value, and is that of its value but for its case. -/
theorem hexValue_of_hexdigit {digit : Char}
    (isDigit : IdentifierKind.isAsciiHexdigit digit = true) :
    (hexValue digit).getD 0 < 16 ∧
      hexDigit ((hexValue digit).getD 0) = digit.toLower := by
  have small : digit.toNat < 128 := by
    simp only [IdentifierKind.isAsciiHexdigit, Bool.or_eq_true,
      Bool.and_eq_true, decide_eq_true_eq, le_iff_toNat, Char.reduceToNat]
      at isDigit
    omega
  have everyCode : ∀ code < 128,
      IdentifierKind.isAsciiHexdigit (Char.ofNat code) = true →
        (hexValue (Char.ofNat code)).getD 0 < 16 ∧
          hexDigit ((hexValue (Char.ofNat code)).getD 0) =
            (Char.ofNat code).toLower := by
    decide
  have holds := everyCode digit.toNat small
  rw [Char.ofNat_toNat] at holds
  exact holds isDigit

/-- Digits write a number that is written with the same digits. -/
theorem hexDigits_hexNumber {digits : List Char}
    (allDigits : ∀ digit ∈ digits,
      IdentifierKind.isAsciiHexdigit digit = true) :
    hexDigits digits.length (hexNumber digits) = digits.map Char.toLower := by
  induction digits using List.reverseRecOn with
  | nil => rfl
  | append_singleton digits last inductionHypothesis =>
      obtain ⟨bound, isDigit⟩ :=
        hexValue_of_hexdigit (allDigits last (by simp))
      have before := inductionHypothesis fun digit member =>
        allDigits digit (List.mem_append_left _ member)
      have quotient : (16 * hexNumber digits + (hexValue last).getD 0) / 16 =
          hexNumber digits := by
        omega
      have remainder : (16 * hexNumber digits + (hexValue last).getD 0) % 16 =
          (hexValue last).getD 0 := by
        omega
      rw [List.length_append, List.length_singleton, hexNumber_concat,
        hexDigits, quotient, remainder, before, isDigit, List.map_append,
        List.map_singleton]

private theorem hexNumber_lt {digits : List Char}
    (allDigits : ∀ digit ∈ digits,
      IdentifierKind.isAsciiHexdigit digit = true) :
    hexNumber digits < 16 ^ digits.length := by
  induction digits using List.reverseRecOn with
  | nil => decide
  | append_singleton digits last inductionHypothesis =>
      have bound := (hexValue_of_hexdigit (allDigits last (by simp))).1
      have before := inductionHypothesis fun digit member =>
        allDigits digit (List.mem_append_left _ member)
      rw [List.length_append, List.length_singleton, hexNumber_concat,
        Nat.pow_succ]
      omega

/-! ## Texts of addresses -/

/-- How many hexadecimal digits stand in a text. -/
def digitCount (value : String) : Nat :=
  (value.toList.filter IdentifierKind.isAsciiHexdigit).length

private theorem hexDigitsOf_trim (value : String) :
    IdentifierKind.hexDigitsOf (trim value) =
      IdentifierKind.hexDigitsOf value := by
  rw [IdentifierKind.hexDigitsOf, IdentifierKind.hexDigitsOf, toList_trim,
    filter_stripEnds fun _ => IdentifierKind.not_hexdigit_of_whiteSpace]

theorem length_hexDigitsOf (value : String) :
    (IdentifierKind.hexDigitsOf value).toList.length = digitCount value := by
  rw [IdentifierKind.toList_hexDigitsOf, List.length_map, digitCount]

/-- A notion of the address that a text denotes, if it contains one.  An address
is a number of 48 bits. -/
structure MacReading where
  read : String → Option Nat
  bounded : ∀ value address, read value = some address → address < 16 ^ 12
  /-- Twelve digits denote nothing but the octets that they write. -/
  faithful : ∀ value address, read value = some address →
    digitCount value = 12 →
      hexDigits 12 address = (IdentifierKind.hexDigitsOf value).toList

/-- The digits of a text, in groups that other characters cut. -/
def digitGroups (value : String) : List (List Char) :=
  (value.toList.splitOnP fun character =>
    !IdentifierKind.isAsciiHexdigit character).filter (· ≠ [])

/-- Six groups of one or two digits, or twelve digits of which every group has
whole octets. -/
def HasMacShape (groups : List (List Char)) : Prop :=
  (groups.length = 6 ∧
    ∀ group ∈ groups, group.length = 1 ∨ group.length = 2) ∨
  groups.flatten.length = 12 ∧
    ∀ group ∈ groups, 2 ≤ group.length ∧ 2 ∣ group.length

instance (groups : List (List Char)) : Decidable (HasMacShape groups) :=
  inferInstanceAs (Decidable (_ ∨ _))

/-- The groups with a zero before a single digit. -/
def fullOctets (groups : List (List Char)) : List Char :=
  groups.flatMap fun group => group.leftpad 2 '0'

/-- The address that the digits of a text write, whatever stands between the
groups and around them.  A group of one digit is an octet. -/
def macOf (value : String) : Option Nat :=
  if HasMacShape (digitGroups value) then
    some (hexNumber (fullOctets (digitGroups value)))
  else
    none

private theorem flatten_splitOnP (cuts : Char → Bool) (characters : List Char) :
    (characters.splitOnP cuts).flatten =
      characters.filter fun character => !cuts character := by
  induction characters with
  | nil => rfl
  | cons first rest inductionHypothesis =>
      rw [List.splitOnP_cons_eq_if_modifyHead]
      by_cases isCut : cuts first = true
      · rw [if_pos isCut, List.flatten_cons, List.nil_append,
          List.filter_cons_of_neg (by simp [isCut])]
        exact inductionHypothesis
      · rw [if_neg isCut, List.filter_cons_of_pos (by simp [isCut]),
          ← inductionHypothesis]
        obtain ⟨head, tail, split⟩ := List.exists_cons_of_ne_nil
          (List.splitOnP_ne_nil cuts rest)
        rw [split]
        rfl

private theorem flatten_digitGroups (value : String) :
    (digitGroups value).flatten =
      value.toList.filter IdentifierKind.isAsciiHexdigit := by
  have withoutEmpty : ∀ groups : List (List Char),
      (groups.filter (· ≠ [])).flatten = groups.flatten := by
    intro groups
    induction groups with
    | nil => rfl
    | cons first rest inductionHypothesis =>
        by_cases isEmpty : first = []
        · rw [List.filter_cons_of_neg (by simp [isEmpty]), inductionHypothesis,
            isEmpty, List.flatten_cons, List.nil_append]
        · rw [List.filter_cons_of_pos (by simp [isEmpty]), List.flatten_cons,
            List.flatten_cons, inductionHypothesis]
  rw [digitGroups, withoutEmpty, flatten_splitOnP]
  simp

private theorem isAsciiHexdigit_of_mem_digitGroups {value : String}
    {group : List Char} {digit : Char} (isGroup : group ∈ digitGroups value)
    (member : digit ∈ group) :
    IdentifierKind.isAsciiHexdigit digit = true := by
  have inText := List.mem_flatten_of_mem isGroup member
  rw [flatten_digitGroups] at inText
  exact (List.mem_filter.mp inText).2

private theorem isAsciiHexdigit_of_mem_fullOctets
    {value : String} {digit : Char}
    (member : digit ∈ fullOctets (digitGroups value)) :
    IdentifierKind.isAsciiHexdigit digit = true := by
  obtain ⟨group, isGroup, padded⟩ := List.mem_flatMap.mp member
  rcases List.mem_append.mp padded with zero | inGroup
  · rw [(List.mem_replicate.mp zero).2]
    rfl
  · exact isAsciiHexdigit_of_mem_digitGroups isGroup inGroup

private theorem fullOctets_cons (group : List Char) (rest : List (List Char)) :
    (fullOctets (group :: rest)).length =
      max 2 group.length + (fullOctets rest).length := by
  rw [fullOctets, List.flatMap_cons, List.length_append, List.length_leftpad,
    fullOctets]

/-- Groups of one or two digits are octets. -/
theorem length_fullOctets_of_short {groups : List (List Char)}
    (short : ∀ group ∈ groups, group.length = 1 ∨ group.length = 2) :
    (fullOctets groups).length = 2 * groups.length := by
  induction groups with
  | nil => rfl
  | cons first rest inductionHypothesis =>
      have firstShort := short first (List.mem_cons_self ..)
      have restShort := inductionHypothesis fun group member =>
        short group (List.mem_cons_of_mem _ member)
      rw [fullOctets_cons, restShort, List.length_cons]
      omega

/-- Full groups are left as they are. -/
theorem fullOctets_of_full {groups : List (List Char)}
    (full : ∀ group ∈ groups, 2 ≤ group.length) :
    fullOctets groups = groups.flatten := by
  have same : ∀ group ∈ groups, group.leftpad 2 '0' = group := by
    intro group member
    rw [List.leftpad, Nat.sub_eq_zero_of_le (full group member)]
    rfl
  rw [fullOctets, List.flatMap_def, List.map_congr_left same, List.map_id']

private theorem length_fullOctets {groups : List (List Char)}
    (shape : HasMacShape groups) : (fullOctets groups).length = 12 := by
  rcases shape with ⟨six, short⟩ | ⟨twelve, whole⟩
  · rw [length_fullOctets_of_short short, six]
  · rw [fullOctets_of_full fun group member => (whole group member).1, twelve]

/-- Groups of one or two digits that have two on average all have two. -/
theorem length_eq_two_of_sum {groups : List (List Char)}
    (short : ∀ group ∈ groups, group.length = 1 ∨ group.length = 2)
    (total : groups.flatten.length = 2 * groups.length) :
    ∀ group ∈ groups, group.length = 2 := by
  have atMost : ∀ groups : List (List Char),
      (∀ group ∈ groups, group.length = 1 ∨ group.length = 2) →
        groups.flatten.length ≤ 2 * groups.length := by
    intro groups short
    induction groups with
    | nil => simp
    | cons first rest inductionHypothesis =>
        have firstShort := short first (List.mem_cons_self ..)
        have restShort := inductionHypothesis fun group member =>
          short group (List.mem_cons_of_mem _ member)
        rw [List.flatten_cons, List.length_append, List.length_cons]
        omega
  induction groups with
  | nil =>
      intro group member
      cases member
  | cons first rest inductionHypothesis =>
      have firstShort := short first (List.mem_cons_self ..)
      have restShort : ∀ group ∈ rest, group.length = 1 ∨ group.length = 2 :=
        fun group member => short group (List.mem_cons_of_mem _ member)
      have bound := atMost rest restShort
      rw [List.flatten_cons, List.length_append, List.length_cons] at total
      intro group member
      rcases List.mem_cons.mp member with rfl | inRest
      · omega
      · exact inductionHypothesis restShort (by omega) group inRest

/-- Twelve digits leave no group to be filled up. -/
theorem two_le_length_of_shape {groups : List (List Char)}
    (shape : HasMacShape groups) (twelve : groups.flatten.length = 12) :
    ∀ group ∈ groups, 2 ≤ group.length := by
  intro group member
  rcases shape with ⟨six, short⟩ | ⟨_, whole⟩
  · have full := length_eq_two_of_sum short (by omega) group member
    omega
  · exact (whole group member).1

/-- The reading of the groups, in whatever notation they stand. -/
def MacReading.groups : MacReading where
  read := macOf
  bounded value address reads := by
    rw [macOf] at reads
    split_ifs at reads with shape
    rw [← Option.some.inj reads, ← length_fullOctets shape]
    exact hexNumber_lt fun _ => isAsciiHexdigit_of_mem_fullOctets
  faithful value address reads twelve := by
    rw [macOf] at reads
    split_ifs at reads with shape
    have length : (digitGroups value).flatten.length = 12 := by
      rw [flatten_digitGroups]
      exact twelve
    have octets := fullOctets_of_full (two_le_length_of_shape shape length)
    have digits := hexDigits_hexNumber fun digit =>
      @isAsciiHexdigit_of_mem_fullOctets value digit
    rw [length_fullOctets shape] at digits
    rw [← Option.some.inj reads, digits, octets, flatten_digitGroups,
      IdentifierKind.toList_hexDigitsOf]

example :
    ["AA:bb:CC:00:11:22", "[aabb.cc00.1122]", "AA:BB:CC-00:11:22",
      "0:1:2:3:4:5", "n/a", "AA:bb:CC:00:11"].map macOf =
      [some 0xaabbcc001122, some 0xaabbcc001122, some 0xaabbcc001122,
        some 0x000102030405, none, none] := by
  decide

namespace IdentifierKind

theorem normalize_mac_eq_ok_iff {value result : String} :
    mac.normalize value = .ok result ↔
      result = hexDigitsOf value ∧ 0 < digitCount value := by
  rw [normalize_eq_ok_iff, normalForm, hexDigitsOf_trim]
  refine and_congr_right fun isForm => ?_
  rw [isForm, ne_eq, ← String.toList_eq_nil_iff, toList_hexDigitsOf,
    List.map_eq_nil_iff, digitCount, List.length_pos_iff]

end IdentifierKind

/-- The text has no hexadecimal digit, or it denotes an address and has twelve
of them. -/
def IsPlainMac (reading : MacReading) (value : String) : Prop :=
  digitCount value = 0 ∨
    (reading.read value).isSome = true ∧ digitCount value = 12

/-- An accepted plain text is an address, and its form has the digits of the
address. -/
theorem IsPlainMac.accepted {reading : MacReading} {value result : String}
    (plain : IsPlainMac reading value)
    (normalizes : IdentifierKind.mac.normalize value = .ok result) :
    ∃ address, reading.read value = some address ∧ address < 16 ^ 12 ∧
      result.toList = hexDigits 12 address := by
  obtain ⟨rfl, someDigit⟩ :=
    IdentifierKind.normalize_mac_eq_ok_iff.mp normalizes
  rcases plain with noDigit | ⟨isAddress, twelve⟩
  · omega
  · obtain ⟨address, reads⟩ := Option.isSome_iff_exists.mp isAddress
    exact ⟨address, reads, reading.bounded value address reads,
      (reading.faithful value address reads twelve).symm⟩

end NetworkManager.Domain.Inventory
