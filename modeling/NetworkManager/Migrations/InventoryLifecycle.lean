import NetworkManager.Domain.Identifiers
import NetworkManager.InventoryStore.Reconciliation

/-!
# The backfill of identifiers

Migration 0009 computes in SQL what the program computes for a new identifier:
its normal form, its namespace and its strength.  Both agree about hexadecimal
kinds.  About the others they agree only where they trim and fold the same.
-/

namespace NetworkManager.Migrations

open NetworkManager.Foundation
open NetworkManager.Domain.Inventory
open NetworkManager.InventoryStore

/-- `trim`, which strips blanks only. -/
def trimSpaces (text : String) : String :=
  String.ofList (stripEnds (fun character => character == ' ') text.toList)

/-- The characters of `[0-9a-f]`. -/
def isLowerHexdigit (character : Char) : Bool :=
  ('0' ≤ character && character ≤ '9') ||
    ('a' ≤ character && character ≤ 'f')

/-- `regexp_replace` of `[^0-9a-f]` by nothing, everywhere. -/
def keepHexDigits (text : String) : String :=
  String.ofList (text.toList.filter isLowerHexdigit)

/-- `regexp_replace` of a dot at the end by nothing. -/
def dropLastDot (text : String) : String :=
  if endsWithText text "." then String.ofList text.toList.dropLast else text

/-- Characters that `lower` neither makes of others nor folds, except for the
letters of ASCII. -/
def isPlain (character : Char) : Bool :=
  isLowerHexdigit character || character == '.' || isWhiteSpace character

/-- What `lower` does in the locale of the database.  It may fold the letters of
all alphabets, one by one or in their context. -/
structure Locale where
  lower : String → String
  plain : ∀ text, (lower text).toList.filter isPlain =
    (toAsciiLowercase text).toList.filter isPlain

/-- A row of `device_identifiers` before the migration. -/
structure LegacyIdentifier where
  deviceId : Uuid
  kind : String
  value : String
  source : String
  createdAt : Timestamp

/-- The columns that the migration adds. -/
structure BackfilledColumns where
  scope : Scope
  normalizedValue : String
  identityNamespace : String
  strength : String
  lastSeenAt : Option Timestamp

section Backfill

variable (locale : Locale)

def backfilledValue (kind value : String) : String :=
  if kind = "mac" ∨ kind = "snmp_engine_id" then
    keepHexDigits (locale.lower (trimSpaces value))
  else if kind = "hostname" then
    dropLastDot (locale.lower (trimSpaces value))
  else
    locale.lower (trimSpaces value)

def backfilledNamespace (kind source : String) : String :=
  if kind = "provider_native_id" then locale.lower (trimSpaces source)
  else "global"

def backfilledStrength (kind : String) : String :=
  if kind = "serial" ∨ kind = "mac" ∨ kind = "snmp_engine_id" ∨
      kind = "provider_native_id" then "strong"
  else "weak"

/-- The `UPDATE` of a row whose device is in a scope. -/
def backfill (scope : Scope) (identifier : LegacyIdentifier) :
    BackfilledColumns where
  scope
  normalizedValue := backfilledValue locale identifier.kind identifier.value
  identityNamespace :=
    backfilledNamespace locale identifier.kind identifier.source
  strength := backfilledStrength identifier.kind
  lastSeenAt := some identifier.createdAt

end Backfill

private theorem isLowerHexdigit_toLower (character : Char) :
    isLowerHexdigit character.toLower =
      IdentifierKind.isAsciiHexdigit character := by
  rw [Bool.eq_iff_iff]
  simp only [isLowerHexdigit, IdentifierKind.isAsciiHexdigit,
    Bool.or_eq_true, Bool.and_eq_true, decide_eq_true_eq, le_iff_toNat,
    Char.reduceToNat, toNat_toLower]
  split_ifs <;> omega

private theorem whiteSpace_of_space {character : Char}
    (space : (character == ' ') = true) : isWhiteSpace character = true := by
  rw [eq_of_beq space]
  rfl

/-- What `trim_end_matches` strips of a name. -/
def isDot (character : Char) : Bool := character == '.'

private theorem isDot_toLower (character : Char) :
    isDot character.toLower = isDot character := by
  rw [Bool.eq_iff_iff, isDot, isDot, beq_iff_eq, beq_iff_eq]
  exact toLower_eq_iff (by decide)

private theorem isPlain_of_whiteSpace {character : Char}
    (whiteSpace : isWhiteSpace character = true) :
    isPlain character = true := by
  simp [isPlain, whiteSpace]

private theorem isPlain_of_dot
    {character : Char} (dot : isDot character = true) :
    isPlain character = true := by
  have isDot : (character == '.') = true := dot
  simp [isPlain, isDot]

private theorem countP_map_toLower {keep : Char → Bool}
    (same : ∀ character, keep character.toLower = keep character)
    (characters : List Char) :
    (characters.map Char.toLower).countP keep = characters.countP keep := by
  rw [List.countP_map]
  exact List.countP_congr fun character _ =>
    Bool.eq_iff_iff.mp (same character)

/-- Trimming and folding a text is the same in SQL as in the program. -/
structure Locale.Agrees (locale : Locale) (text : String) : Prop where
  trim : trimSpaces text = trim text
  lower : locale.lower (Foundation.trim text) =
    toAsciiLowercase (Foundation.trim text)

section Texts

variable {locale : Locale} {text : String}

private theorem toList_trimSpaces (text : String) :
    (trimSpaces text).toList =
      stripEnds (fun character => character == ' ') text.toList := by
  rw [trimSpaces, String.toList_ofList]

/-- What is left of some characters is the same whatever the locale. -/
theorem Locale.filter_lower (locale : Locale) {keep : Char → Bool}
    (plain : ∀ character, keep character = true → isPlain character = true)
    (text : String) :
    (locale.lower text).toList.filter keep =
      (text.toList.map Char.toLower).filter keep := by
  have within : ∀ characters : List Char,
      characters.filter keep = (characters.filter isPlain).filter keep := by
    intro characters
    rw [List.filter_filter]
    apply List.filter_congr
    intro character _
    by_cases kept : keep character = true
    · simp [kept, plain character kept]
    · simp [kept]
  rw [within, locale.plain, ← within, toList_toAsciiLowercase]

/-- As many are left of such characters as there were, if no letter folds to
one. -/
theorem Locale.countP_lower (locale : Locale) {keep : Char → Bool}
    (plain : ∀ character, keep character = true → isPlain character = true)
    (same : ∀ character, keep character.toLower = keep character)
    (text : String) :
    (locale.lower text).toList.countP keep = text.toList.countP keep := by
  rw [List.countP_eq_length_filter, locale.filter_lower plain,
    ← List.countP_eq_length_filter, countP_map_toLower same]

private theorem Locale.countP_whiteSpace (locale : Locale) (text : String) :
    (locale.lower text).toList.countP isWhiteSpace =
      text.toList.countP isWhiteSpace :=
  locale.countP_lower (fun _ => isPlain_of_whiteSpace) isWhiteSpace_toLower text

private theorem Locale.countP_dot (locale : Locale) (text : String) :
    (locale.lower text).toList.countP isDot = text.toList.countP isDot :=
  locale.countP_lower (fun _ => isPlain_of_dot) isDot_toLower text

/-- A text of which nothing but blanks is stripped is trimmed alike. -/
theorem trimSpaces_eq_trim
    (same : (trimSpaces text).toList.countP isWhiteSpace =
      (trim text).toList.countP isWhiteSpace) :
    trimSpaces text = trim text := by
  have stripped : stripEnds isWhiteSpace (trimSpaces text).toList =
      (trim text).toList := by
    rw [toList_trimSpaces, toList_trim]
    exact stripEnds_of_imp (fun _ => whiteSpace_of_space) text.toList
  apply String.toList_injective
  rw [← stripped, stripEnds_eq_self]
  rw [stripped, same]

private theorem lower_trimSpaces_eq_iff :
    locale.lower (trimSpaces text) = toAsciiLowercase (trim text) ↔
      locale.Agrees text := by
  constructor
  · intro same
    have isTrimmed : trimSpaces text = trim text := by
      apply trimSpaces_eq_trim
      rw [← locale.countP_whiteSpace, same, toList_toAsciiLowercase,
        countP_map_toLower isWhiteSpace_toLower]
    rw [isTrimmed] at same
    exact ⟨isTrimmed, same⟩
  · intro agrees
    rw [agrees.trim, agrees.lower]

/-- Hexadecimal digits are the same whatever the locale. -/
theorem keepHexDigits_lower (locale : Locale) (text : String) :
    keepHexDigits (locale.lower (trimSpaces text)) =
      IdentifierKind.hexDigitsOf (trim text) := by
  have plain : ∀ character, isLowerHexdigit character = true →
      isPlain character = true := by
    intro character digit
    simp [isPlain, digit]
  have sameDigits : isLowerHexdigit ∘ Char.toLower =
      IdentifierKind.isAsciiHexdigit := funext isLowerHexdigit_toLower
  have digitsOf : ∀ strip : Char → Bool,
      (∀ character, strip character = true → isWhiteSpace character = true) →
      (stripEnds strip text.toList).filter IdentifierKind.isAsciiHexdigit =
        text.toList.filter IdentifierKind.isAsciiHexdigit := by
    intro strip stripsSpace
    have disjoint : ∀ character, strip character = true →
        IdentifierKind.isAsciiHexdigit character = false :=
      fun character stripped =>
        IdentifierKind.not_hexdigit_of_whiteSpace (stripsSpace character stripped)
    exact filter_stripEnds disjoint text.toList
  have ofSpaces := digitsOf (fun character => character == ' ')
    (fun _ => whiteSpace_of_space)
  have ofWhiteSpace := digitsOf isWhiteSpace (fun _ same => same)
  rw [keepHexDigits, IdentifierKind.hexDigitsOf, locale.filter_lower plain,
    List.filter_map, sameDigits, toList_trimSpaces, toList_trim, ofSpaces,
    ofWhiteSpace]

/-! ## Dots at the end -/

private theorem toList_dropLastDot_concat {characters : List Char}
    (ends : text.toList = characters ++ ['.']) :
    (dropLastDot text).toList = characters := by
  have dotted : endsWithText text "." = true :=
    (endsWithText_iff text ".").mpr ⟨characters, ends.symm⟩
  rw [dropLastDot, if_pos dotted, String.toList_ofList, ends,
    List.dropLast_concat]

/-- One dot is dropped, or nothing. -/
theorem toList_of_dropLastDot {characters : List Char}
    (dropped : (dropLastDot text).toList = characters) :
    text.toList = characters ∨ text.toList = characters ++ ['.'] := by
  by_cases dotted : endsWithText text "." = true
  · right
    rcases (endsWithText_iff text ".").mp dotted with ⟨rest, split⟩
    have isRest := toList_dropLastDot_concat split.symm
    rw [← dropped, isRest]
    exact split.symm
  · left
    rwa [dropLastDot, if_neg dotted] at dropped

/-- A text ends in at most one dot if it does not end in two. -/
theorem rtakeWhile_dots_iff (characters : List Char) :
    (characters.rtakeWhile isDot).length ≤ 1 ↔
      ¬['.', '.'] <:+ characters := by
  constructor
  · rintro short ⟨rest, rfl⟩
    have split : rest ++ ['.', '.'] = (rest ++ ['.']) ++ ['.'] := by simp
    rw [split, List.rtakeWhile_concat_pos _ _ _ rfl,
      List.rtakeWhile_concat_pos _ _ _ rfl, List.length_append,
      List.length_append] at short
    simp at short
  · intro notTwo
    by_contra long
    have dots : ∀ character ∈ characters.rtakeWhile isDot,
        character = '.' := by
      intro character member
      have taken : isDot character = true := List.mem_rtakeWhile_imp member
      exact eq_of_beq taken
    have isReplicate := List.eq_replicate_of_mem dots
    rcases Nat.exists_eq_add_of_le (Nat.not_le.mp long) with ⟨more, isLength⟩
    rw [isLength, Nat.add_comm, List.replicate_add] at isReplicate
    apply notTwo
    have isSuffix : characters.rtakeWhile isDot <:+ characters :=
      List.rtakeWhile_suffix isDot characters
    rw [isReplicate] at isSuffix
    exact (List.suffix_append _ _).trans isSuffix

private theorem toList_trimEndDots (text : String) :
    (IdentifierKind.trimEndDots text).toList = text.toList.rdropWhile isDot :=
  String.toList_ofList

private theorem eq_replicate_of_dots {characters : List Char}
    (dots : ∀ character ∈ characters, isDot character = true) :
    characters = List.replicate characters.length '.' :=
  List.eq_replicate_of_mem fun character member =>
    eq_of_beq (dots character member)

private theorem countP_whiteSpace_of_dots {characters : List Char}
    (dots : ∀ character ∈ characters, isDot character = true) :
    characters.countP isWhiteSpace = 0 := by
  rw [List.countP_eq_zero]
  intro character member
  have isCharacter : character = '.' := eq_of_beq (dots character member)
  rw [isCharacter]
  decide

/-- A folded text with one dot less, or not, is one that has ended in at most
one dot, and was folded as in the program. -/
theorem agrees_of_dots {front back rest : List Char}
    (split : (trim text).toList = front ++ back)
    (backDots : ∀ character ∈ back, isDot character = true)
    (restDots : ∀ character ∈ rest, isDot character = true)
    (same : (locale.lower (trimSpaces text)).toList =
      (front ++ rest).map Char.toLower) :
    locale.Agrees text ∧ back = rest := by
  have isTrimmed : trimSpaces text = trim text := by
    apply trimSpaces_eq_trim
    rw [← locale.countP_whiteSpace, same,
      countP_map_toLower isWhiteSpace_toLower, split, List.countP_append,
      List.countP_append, countP_whiteSpace_of_dots backDots,
      countP_whiteSpace_of_dots restDots]
  rw [isTrimmed] at same
  have counts := locale.countP_dot (trim text)
  rw [same, countP_map_toLower isDot_toLower, split, List.countP_append,
    List.countP_append, List.countP_eq_length.mpr backDots,
    List.countP_eq_length.mpr restDots, Nat.add_right_inj] at counts
  have sameDots : back = rest := by
    rw [eq_replicate_of_dots backDots, eq_replicate_of_dots restDots, counts]
  refine ⟨⟨isTrimmed, ?_⟩, sameDots⟩
  apply String.toList_injective
  rw [same, toList_toAsciiLowercase, split, sameDots]

/-- The one dot, if there is one, is dropped from a folded text. -/
theorem toList_dropLastDot_of_dots {front back : List Char}
    (folded : text.toList = (front ++ back).map Char.toLower)
    (noDot : ¬['.'] <:+ front)
    (backDots : ∀ character ∈ back, isDot character = true)
    (short : back.length ≤ 1) :
    (dropLastDot text).toList = front.map Char.toLower := by
  have isReplicate := eq_replicate_of_dots backDots
  rcases Nat.le_one_iff_eq_zero_or_eq_one.mp short with noBack | oneBack
  · rw [noBack] at isReplicate
    rw [isReplicate, List.replicate_zero, List.append_nil] at folded
    have notDotted : ¬endsWithText text "." = true := by
      intro dotted
      rcases (endsWithText_iff text ".").mp dotted with ⟨start, ends⟩
      have mapped : front.map Char.toLower = start ++ ['.'] :=
        folded.symm.trans ends.symm
      rcases List.map_eq_append_iff.mp mapped with
        ⟨first, last, isFront, _, isLast⟩
      rcases List.map_eq_singleton_iff.mp isLast with
        ⟨character, isCharacter, lowered⟩
      have isDot : character = '.' := (toLower_eq_iff (by decide)).mp lowered
      exact noDot ⟨first, by rw [isFront, isCharacter, isDot]⟩
    rw [dropLastDot, if_neg notDotted, folded]
  · rw [oneBack] at isReplicate
    apply toList_dropLastDot_concat
    rw [folded, isReplicate, List.map_append]
    rfl

private theorem not_dot_of_rdropWhile (characters : List Char) :
    ¬['.'] <:+ characters.rdropWhile isDot := by
  rintro ⟨rest, ends⟩
  have isConcat : (rest ++ ['.']).rdropWhile isDot = rest ++ ['.'] := by
    rw [ends, List.rdropWhile_idempotent]
  rw [List.rdropWhile_concat_pos _ _ _ rfl] at isConcat
  have shorter := (List.rdropWhile_prefix isDot rest).length_le
  rw [isConcat, List.length_append] at shorter
  simp at shorter

/-- Names are the same where they are trimmed and folded alike and do not end in
two dots. -/
theorem dropLastDot_lower_eq_iff :
    dropLastDot (locale.lower (trimSpaces text)) =
        toAsciiLowercase (IdentifierKind.trimEndDots (trim text)) ↔
      locale.Agrees text ∧ ¬['.', '.'] <:+ (trim text).toList := by
  have parts : (trim text).toList = (trim text).toList.rdropWhile isDot ++
      (trim text).toList.rtakeWhile isDot :=
    List.rdropWhile_append_rtakeWhile.symm
  have dots : ∀ character ∈ (trim text).toList.rtakeWhile isDot,
      isDot character = true :=
    fun character member => List.mem_rtakeWhile_imp member
  have noDot := not_dot_of_rdropWhile (trim text).toList
  have isFront : (toAsciiLowercase
      (IdentifierKind.trimEndDots (trim text))).toList =
        ((trim text).toList.rdropWhile isDot).map Char.toLower := by
    rw [toList_toAsciiLowercase, toList_trimEndDots]
  rw [← rtakeWhile_dots_iff, ← String.toList_inj, isFront]
  generalize (trim text).toList.rdropWhile isDot = front at *
  generalize (trim text).toList.rtakeWhile isDot = back at *
  constructor
  · intro isDropped
    rcases toList_of_dropLastDot isDropped with whole | dotted
    · have same : (locale.lower (trimSpaces text)).toList =
          (front ++ []).map Char.toLower := by
        rw [whole, List.append_nil]
      rcases agrees_of_dots parts dots (List.forall_mem_nil _) same with
        ⟨agrees, noBack⟩
      exact ⟨agrees, by rw [noBack]; exact Nat.zero_le 1⟩
    · have same : (locale.lower (trimSpaces text)).toList =
          (front ++ ['.']).map Char.toLower := by
        rw [dotted, List.map_append]
        rfl
      rcases agrees_of_dots parts dots (List.forall_mem_singleton.mpr rfl) same
        with ⟨agrees, oneBack⟩
      exact ⟨agrees, by rw [oneBack]; exact Nat.le_refl 1⟩
  · rintro ⟨agrees, short⟩
    apply toList_dropLastDot_of_dots _ noDot dots short
    rw [agrees.trim, agrees.lower, toList_toAsciiLowercase, parts]

end Texts

/-- Both computations give a value the same normal form. -/
def Locale.NormalizesAlike (locale : Locale) (value : String) :
    IdentifierKind → Prop
  | .mac => True
  | .snmpEngineId => True
  | .hostname => locale.Agrees value ∧ ¬['.', '.'] <:+ (trim value).toList
  | .serial => locale.Agrees value
  | .providerNativeId => locale.Agrees value
  | .assetTag => locale.Agrees value

section Identifiers

variable {locale : Locale} {kind : IdentifierKind} {value source : String}
  {normalizedValue sourceNamespace : String}

private theorem normalForm_of_normalize
    (normalizes : kind.normalize value = .ok normalizedValue) :
    normalizedValue = kind.normalForm (trim value) := by
  unfold IdentifierKind.normalize at normalizes
  simp only at normalizes
  split_ifs at normalizes
  exact (Except.ok.inj normalizes).symm

private theorem backfilledValue_eq_iff (locale : Locale)
    (normalizes : kind.normalize value = .ok normalizedValue) :
    backfilledValue locale kind.asStr value = normalizedValue ↔
      locale.NormalizesAlike value kind := by
  rw [normalForm_of_normalize normalizes, backfilledValue]
  cases kind with
  | mac =>
      rw [if_pos (by decide)]
      exact iff_of_true (keepHexDigits_lower locale value) trivial
  | snmpEngineId =>
      rw [if_pos (by decide)]
      exact iff_of_true (keepHexDigits_lower locale value) trivial
  | hostname =>
      rw [if_neg (by decide), if_pos (by decide)]
      exact dropLastDot_lower_eq_iff
  | _ =>
      rw [if_neg (by decide), if_neg (by decide)]
      exact lower_trimSpaces_eq_iff

private theorem backfilledNamespace_eq_iff (locale : Locale)
    (hasNamespace : identityNamespace kind source = .ok sourceNamespace) :
    backfilledNamespace locale kind.asStr source = sourceNamespace ↔
      (kind = .providerNativeId → locale.Agrees source) := by
  by_cases isProvider : kind = .providerNativeId
  · subst isProvider
    have isNamespace : sourceNamespace = toAsciiLowercase (trim source) := by
      simp only [identityNamespace, if_true] at hasNamespace
      split_ifs at hasNamespace
      exact (Except.ok.inj hasNamespace).symm
    rw [isNamespace, backfilledNamespace, if_pos (by decide),
      lower_trimSpaces_eq_iff]
    exact ⟨fun agrees _ => agrees, fun agrees => agrees rfl⟩
  · rw [identityNamespace, if_neg isProvider] at hasNamespace
    rw [← Except.ok.inj hasNamespace]
    refine iff_of_true ?_ fun isKind => absurd isKind isProvider
    rw [backfilledNamespace]
    cases kind with
    | providerNativeId => exact absurd rfl isProvider
    | _ => exact if_neg (by decide)

private theorem backfilledStrength_eq (kind : IdentifierKind) :
    backfilledStrength kind.asStr = kind.strength.asStr := by
  cases kind <;> decide

/-- The migration computes for a row what the program computes for the same
identifier exactly if it trims and folds it alike. -/
theorem backfill_agrees_iff {locale : Locale} {scope : Scope}
    {identifier : LegacyIdentifier} (isKind : identifier.kind = kind.asStr)
    (normalizes : kind.normalize identifier.value = .ok normalizedValue)
    (hasNamespace :
      identityNamespace kind identifier.source = .ok sourceNamespace) :
    ((backfill locale scope identifier).normalizedValue = normalizedValue ∧
      (backfill locale scope identifier).identityNamespace =
        sourceNamespace ∧
      (backfill locale scope identifier).strength = kind.strength.asStr) ↔
      locale.NormalizesAlike identifier.value kind ∧
        (kind = .providerNativeId → locale.Agrees identifier.source) := by
  have sameStrength : (backfill locale scope identifier).strength =
      kind.strength.asStr := by
    rw [backfill, isKind]
    exact backfilledStrength_eq kind
  rw [and_iff_left sameStrength, backfill, isKind,
    backfilledValue_eq_iff locale normalizes,
    backfilledNamespace_eq_iff locale hasNamespace]

/-- A device of the migration is found again by its next observation, if one of
its strong identifiers is trimmed and folded alike. -/
theorem matching_of_backfilled {locale : Locale} {db : InventoryDb}
    {scope : Scope} {identifier : LegacyIdentifier} {row : IdentifierRow}
    {observation : DeviceObservation} {confidence : Option Rat}
    (isKind : identifier.kind = kind.asStr)
    (normalizes : kind.normalize identifier.value = .ok normalizedValue)
    (hasNamespace :
      identityNamespace kind identifier.source = .ok sourceNamespace)
    (strong : kind.strength = .strong)
    (stored : row ∈ db.identifiers.rows) (inScope : row.scope = scope)
    (ofDevice : row.deviceId = identifier.deviceId)
    (isStrong : row.strength = .strong)
    (isIdentity : row.identity = ⟨kind,
      (backfill locale scope identifier).identityNamespace,
      (backfill locale scope identifier).normalizedValue⟩)
    (given : ⟨kind, identifier.value, identifier.source, confidence⟩ ∈
      observation.identifiers)
    (alike : locale.NormalizesAlike identifier.value kind)
    (alikeSource : kind = .providerNativeId →
      locale.Agrees identifier.source) :
    identifier.deviceId ∈ db.matching scope observation := by
  rcases (backfill_agrees_iff isKind normalizes hasNamespace).mpr
    ⟨alike, alikeSource⟩ with ⟨sameValue, sameNamespace, _⟩
  rw [sameValue, sameNamespace] at isIdentity
  have hasIdentity : NewIdentifier.identity
      ⟨kind, identifier.value, identifier.source, confidence⟩ =
        .ok ⟨kind, sourceNamespace, normalizedValue⟩ := by
    apply NewIdentifier.identity_of_parts _ hasNamespace
    rw [normalized, normalizes]
    rfl
  exact mem_matching.mpr ⟨_, given, strong, _, hasIdentity, row, stored,
    inScope, isIdentity, isStrong, ofDevice⟩

end Identifiers

namespace Sample

/-- A locale that folds the letters of ASCII only. -/
def asciiLocale : Locale := ⟨toAsciiLowercase, fun _ => rfl⟩

/-- A serial number with a line feed, as it has been read from a device. -/
def wrapped : LegacyIdentifier := ⟨⟨16⟩, "serial", "FOC1\n", "snmp", 0⟩

def dotted : LegacyIdentifier := ⟨⟨16⟩, "hostname", " SW-1.Lan. ", "arp", 0⟩

end Sample

/-- The migration keeps the line feed, the program strips it. -/
theorem not_backfill_agrees :
    ¬∀ (locale : Locale) (scope : Scope) (identifier : LegacyIdentifier)
      (kind : IdentifierKind) (normalizedValue sourceNamespace : String),
      identifier.kind = kind.asStr →
      kind.normalize identifier.value = .ok normalizedValue →
      identityNamespace kind identifier.source = .ok sourceNamespace →
      (backfill locale scope identifier).normalizedValue = normalizedValue ∧
        (backfill locale scope identifier).identityNamespace =
          sourceNamespace ∧
        (backfill locale scope identifier).strength =
          kind.strength.asStr := by
  intro agrees
  have same := (agrees Sample.asciiLocale ⟨⟨1⟩, ⟨2⟩⟩ Sample.wrapped .serial
    "foc1" "global" rfl (by decide) rfl).1
  exact absurd same (by decide)

theorem backfill_agrees_dotted :
    (backfill Sample.asciiLocale ⟨⟨1⟩, ⟨2⟩⟩ Sample.dotted).normalizedValue =
        "sw-1.lan" ∧
      (backfill Sample.asciiLocale ⟨⟨1⟩, ⟨2⟩⟩
        Sample.dotted).identityNamespace = "global" ∧
      (backfill Sample.asciiLocale ⟨⟨1⟩, ⟨2⟩⟩ Sample.dotted).strength =
        IdentifierKind.hostname.strength.asStr := by
  apply (backfill_agrees_iff rfl (by decide) rfl).mpr
  refine ⟨⟨⟨by decide, rfl⟩, by decide⟩, nofun⟩

end NetworkManager.Migrations
