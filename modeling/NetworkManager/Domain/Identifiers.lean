import NetworkManager.Domain.Inventory

/-!
# Normal forms of identifiers

`normalize` trims a value, drops what its kind does not count, and folds
letters.  The steps are taken once and in a fixed order: the dots after a host
name go after the white space, so white space before the dots stays.
-/

namespace NetworkManager.Domain.Inventory

open NetworkManager.Foundation

private theorem dropWhile_eq_self_iff_head {strip : Char → Bool}
    {characters : List Char} :
    characters.dropWhile strip = characters ↔
      ∀ first ∈ characters.head?, strip first = false := by
  rw [List.dropWhile_eq_self_iff]
  cases characters with
  | nil => simp
  | cons first rest => simp

private theorem rdropWhile_eq_self_iff_last {strip : Char → Bool}
    {characters : List Char} :
    characters.rdropWhile strip = characters ↔
      ∀ last ∈ characters.getLast?, strip last = false := by
  rw [List.rdropWhile_eq_self_iff]
  constructor
  · intro kept last isLast
    have nonempty : characters ≠ [] := by
      intro empty
      simp [empty] at isLast
    rw [List.getLast?_eq_some_getLast nonempty, Option.mem_some_iff] at isLast
    rw [← isLast]
    exact Bool.eq_false_iff.mpr (kept nonempty)
  · intro kept nonempty
    exact Bool.eq_false_iff.mp
      (kept _ (List.getLast?_eq_some_getLast nonempty))

/-- No white space stands at an end of the text. -/
def IsTrimmed (text : String) : Prop :=
  (∀ first ∈ text.toList.head?, isWhiteSpace first = false) ∧
    ∀ last ∈ text.toList.getLast?, isWhiteSpace last = false

private theorem trim_eq_self_iff {text : String} :
    trim text = text ↔ IsTrimmed text := by
  rw [← String.toList_inj, toList_trim, IsTrimmed]
  constructor
  · intro same
    have front := dropWhile_stripEnds isWhiteSpace text.toList
    have back : text.toList.rdropWhile isWhiteSpace = text.toList := by
      rw [← same, stripEnds, List.rdropWhile_idempotent]
    rw [same] at front
    exact ⟨dropWhile_eq_self_iff_head.mp front,
      rdropWhile_eq_self_iff_last.mp back⟩
  · rintro ⟨front, back⟩
    rw [stripEnds, dropWhile_eq_self_iff_head.mpr front,
      rdropWhile_eq_self_iff_last.mpr back]

private theorem isTrimmed_trim (text : String) : IsTrimmed (trim text) :=
  trim_eq_self_iff.mp (trim_trim text)

/-- Folding letters moves no white space. -/
theorem isTrimmed_toAsciiLowercase_iff (text : String) :
    IsTrimmed (toAsciiLowercase text) ↔ IsTrimmed text := by
  rw [IsTrimmed, toList_toAsciiLowercase, List.head?_map, List.getLast?_map]
  simp [IsTrimmed, isWhiteSpace_toLower]

namespace IdentifierKind

theorem not_hexdigit_of_whiteSpace {character : Char}
    (whiteSpace : isWhiteSpace character = true) :
    isAsciiHexdigit character = false := by
  simp only [isWhiteSpace, Bool.or_eq_true, Bool.and_eq_true,
    decide_eq_true_eq, beq_iff_eq] at whiteSpace
  rw [Bool.eq_false_iff]
  simp only [isAsciiHexdigit, ne_eq, Bool.or_eq_true,
    Bool.and_eq_true, decide_eq_true_eq, le_iff_toNat, Char.reduceToNat]
  omega

/-- No kind makes something of nothing. -/
theorem normalForm_empty (kind : IdentifierKind) : kind.normalForm "" = "" := by
  cases kind <;> rfl

theorem normalize_eq_ok_iff {kind : IdentifierKind} {value result : String} :
    kind.normalize value = .ok result ↔
      result = kind.normalForm (trim value) ∧ result ≠ "" := by
  simp only [normalize, String.isEmpty_iff]
  constructor
  · intro normalized
    split_ifs at normalized with blank empty
    obtain rfl := Except.ok.inj normalized
    exact ⟨rfl, empty⟩
  · intro ⟨isForm, nonempty⟩
    have given : trim value ≠ "" := by
      intro blank
      rw [blank, normalForm_empty] at isForm
      exact nonempty isForm
    rw [if_neg given, if_neg (isForm ▸ nonempty), isForm]

/-- A result is stable exactly if it is trimmed and its own normal form. -/
theorem normalize_self_iff {kind : IdentifierKind} {result : String}
    (nonempty : result ≠ "") (trimmed : IsTrimmed result) :
    kind.normalize result = .ok result ↔ kind.normalForm result = result := by
  rw [normalize_eq_ok_iff, trim_eq_self_iff.mpr trimmed, eq_comm]
  exact and_iff_left nonempty

private theorem toAsciiLowercase_toAsciiLowercase (text : String) :
    toAsciiLowercase (toAsciiLowercase text) = toAsciiLowercase text := by
  rw [← String.toList_inj]
  simp only [toList_toAsciiLowercase, List.map_map]
  exact List.map_congr_left fun character _ => toLower_toLower character

private theorem isAsciiHexdigit_toLower (character : Char) :
    isAsciiHexdigit character.toLower = isAsciiHexdigit character := by
  rw [Bool.eq_iff_iff]
  simp only [isAsciiHexdigit, Bool.or_eq_true, Bool.and_eq_true,
    decide_eq_true_eq, le_iff_toNat, Char.reduceToNat, toNat_toLower]
  split_ifs <;> omega

theorem toList_hexDigitsOf (text : String) :
    (hexDigitsOf text).toList =
      (text.toList.filter isAsciiHexdigit).map Char.toLower := by
  rw [hexDigitsOf, String.toList_ofList]

theorem hexdigit_of_mem {text : String} {character : Char}
    (member : character ∈ (hexDigitsOf text).toList) :
    isAsciiHexdigit character = true ∧ character.toLower = character := by
  rw [toList_hexDigitsOf] at member
  obtain ⟨digit, kept, rfl⟩ := List.mem_map.mp member
  exact ⟨(isAsciiHexdigit_toLower digit).trans (List.mem_filter.mp kept).2,
    toLower_toLower digit⟩

private theorem hexDigitsOf_hexDigitsOf (text : String) :
    hexDigitsOf (hexDigitsOf text) = hexDigitsOf text := by
  rw [← String.toList_inj, toList_hexDigitsOf (hexDigitsOf text),
    List.filter_eq_self.mpr fun _ member => (hexdigit_of_mem member).1]
  calc
    (hexDigitsOf text).toList.map Char.toLower
        = (hexDigitsOf text).toList.map id :=
      List.map_congr_left fun _ member => (hexdigit_of_mem member).2
    _ = (hexDigitsOf text).toList := List.map_id _

private theorem isTrimmed_hexDigitsOf
    (text : String) : IsTrimmed (hexDigitsOf text) := by
  have notWhite : ∀ character ∈ (hexDigitsOf text).toList,
      isWhiteSpace character = false := by
    intro character member
    rw [Bool.eq_false_iff]
    intro whiteSpace
    have digit := (hexdigit_of_mem member).1
    rw [not_hexdigit_of_whiteSpace whiteSpace] at digit
    exact Bool.noConfusion digit
  exact ⟨fun first isFirst => notWhite first (List.mem_of_mem_head? isFirst),
    fun last isLast => notWhite last (List.mem_of_mem_getLast? isLast)⟩

/-! ## Names -/

private theorem toList_trimEndDots (text : String) :
    (trimEndDots text).toList =
      text.toList.rdropWhile fun character => character == '.' := by
  rw [trimEndDots, String.toList_ofList]

/-- Once the dots are gone, none is left to strip from the folded name. -/
theorem normalForm_hostname_stable (text : String) :
    hostname.normalForm (hostname.normalForm text) =
      hostname.normalForm text := by
  have noDot : trimEndDots (toAsciiLowercase (trimEndDots text)) =
      toAsciiLowercase (trimEndDots text) := by
    rw [← String.toList_inj, toList_trimEndDots, rdropWhile_eq_self_iff_last,
      toList_toAsciiLowercase, List.getLast?_map]
    intro folded isLast
    obtain ⟨last, member, rfl⟩ := Option.mem_map.mp isLast
    rw [toList_trimEndDots] at member
    have kept := rdropWhile_eq_self_iff_last.mp
      (List.rdropWhile_idempotent (fun character => character == '.')
        text.toList) last member
    rw [beq_eq_false_iff_ne] at kept ⊢
    exact fun isDot => kept ((toLower_eq_iff (by decide)).mp isDot)
  rw [normalForm, normalForm, noDot, toAsciiLowercase_toAsciiLowercase]

/-- White space around it aside, the text ends in white space and then dots. -/
def EndsInLooseDots (text : String) : Prop :=
  ∃ before white dots after,
    text.toList = before ++ white :: (dots ++ after) ∧
      (∃ character ∈ before, isWhiteSpace character = false) ∧
      isWhiteSpace white = true ∧
      dots ≠ [] ∧ (∀ character ∈ dots, character = '.') ∧
      ∀ character ∈ after, isWhiteSpace character = true

private theorem rdropWhile_of_loose {before dots : List Char} {white : Char}
    (whiteSpace : isWhiteSpace white = true)
    (allDots : ∀ character ∈ dots, character = '.') :
    (before ++ white :: dots).rdropWhile (fun character => character == '.') =
      before ++ [white] := by
  have notDot : ¬(white == '.') = true := by
    intro isDot
    rw [eq_of_beq isDot] at whiteSpace
    exact absurd whiteSpace (by decide)
  induction dots using List.reverseRecOn with
  | nil => exact List.rdropWhile_concat_neg _ _ _ notDot
  | append_singleton dots last inductionHypothesis =>
      have lastDot : (last == '.') = true :=
        beq_of_eq (allDots last (by simp))
      rw [← List.cons_append, ← List.append_assoc,
        List.rdropWhile_concat_pos (fun character => character == '.') _ last
          lastDot]
      exact inductionHypothesis fun character member =>
        allDots character (List.mem_append_left _ member)

/-- The trimmed name without its dots ends in white space exactly if the dots
were loose. -/
theorem exists_white_last_iff (text : String) :
    (∃ white ∈ (trimEndDots (trim text)).toList.getLast?,
      isWhiteSpace white = true) ↔ EndsInLooseDots text := by
  rw [toList_trimEndDots, toList_trim]
  constructor
  · intro ⟨white, isLast, whiteSpace⟩
    obtain ⟨front, back⟩ := isTrimmed_trim text
    rw [toList_trim] at front back
    obtain ⟨before, after, split, _, afterWhite⟩ :=
      exists_stripEnds isWhiteSpace text.toList
    obtain ⟨initial, ends⟩ := List.getLast?_eq_some_iff.mp isLast
    generalize stripEnds isWhiteSpace text.toList = trimmed at *
    have parts : trimmed.rdropWhile (fun character => character == '.') ++
        trimmed.rtakeWhile (fun character => character == '.') = trimmed :=
      List.rdropWhile_append_rtakeWhile
    rw [ends] at parts
    generalize ofDots : trimmed.rtakeWhile (fun character => character == '.') =
      dots at parts
    refine ⟨before ++ initial, white, dots, after, ?_, ?_, whiteSpace, ?_, ?_,
      afterWhite⟩
    · rw [split, ← parts]
      simp
    · cases initial with
      | nil =>
          have notWhite := front white (by simp [← parts])
          rw [whiteSpace] at notWhite
          exact Bool.noConfusion notWhite
      | cons first rest =>
          exact ⟨first, by simp, front first (by simp [← parts])⟩
    · intro noDots
      rw [noDots, List.append_nil] at parts
      have notWhite := back white (by simp [← parts])
      rw [whiteSpace] at notWhite
      exact Bool.noConfusion notWhite
    · intro character member
      rw [← ofDots] at member
      have isDot := List.mem_rtakeWhile_imp member
      exact eq_of_beq isDot
  · intro ⟨before, white, dots, after, split, ⟨kept, member, notWhite⟩,
      whiteSpace, someDots, allDots, afterWhite⟩
    have front : (before ++ white :: dots).dropWhile isWhiteSpace =
        before.dropWhile isWhiteSpace ++ white :: dots := by
      rw [List.dropWhile_append, if_neg]
      rw [List.isEmpty_iff, List.dropWhile_eq_nil_iff]
      intro allWhite
      rw [allWhite kept member] at notWhite
      exact Bool.noConfusion notWhite
    have back : (before.dropWhile isWhiteSpace ++ white :: dots).rdropWhile
        isWhiteSpace = before.dropWhile isWhiteSpace ++ white :: dots := by
      rw [rdropWhile_eq_self_iff_last]
      intro last isLast
      rw [List.getLast?_append_cons, List.getLast?_cons_of_ne_nil someDots]
        at isLast
      rw [allDots last (List.mem_of_mem_getLast? isLast)]
      rfl
    have trimmed : stripEnds isWhiteSpace text.toList =
        before.dropWhile isWhiteSpace ++ white :: dots := by
      rw [split, ← List.cons_append, ← List.append_assoc,
        ← List.nil_append (before ++ white :: dots),
        stripEnds_append (by simp) afterWhite, stripEnds, front, back]
    refine ⟨white, ?_, whiteSpace⟩
    rw [trimmed, rdropWhile_of_loose whiteSpace allDots]
    simp

/-- The name without its dots is trimmed, unless they were loose. -/
theorem isTrimmed_trimEndDots_iff (text : String) :
    IsTrimmed (trimEndDots (trim text)) ↔ ¬EndsInLooseDots text := by
  rw [← exists_white_last_iff]
  have shorter : (trimEndDots (trim text)).toList <+: (trim text).toList := by
    rw [toList_trimEndDots]
    exact List.rdropWhile_prefix _ _
  constructor
  · intro trimmed ⟨white, isLast, whiteSpace⟩
    rw [trimmed.2 white isLast] at whiteSpace
    exact Bool.noConfusion whiteSpace
  · intro noneWhite
    constructor
    · intro first isFirst
      obtain ⟨dots, split⟩ := shorter
      refine (isTrimmed_trim text).1 first ?_
      rw [← split, List.head?_append, isFirst]
      rfl
    · intro last isLast
      rw [Bool.eq_false_iff]
      exact fun whiteSpace => noneWhite ⟨last, isLast, whiteSpace⟩

/-- The result for a value names the same identity again, and white space
neither makes it up nor surrounds it. -/
def NormalizesOnce (kind : IdentifierKind) (value : String) : Prop :=
  ∀ result, kind.normalize value = .ok result →
    kind.normalize result = .ok result ∧ result ≠ "" ∧ IsTrimmed result

/-- The normal form of a normal form is the form itself, for every kind. -/
theorem normalForm_normalForm (kind : IdentifierKind) (text : String) :
    kind.normalForm (kind.normalForm text) = kind.normalForm text := by
  cases kind with
  | serial => exact toAsciiLowercase_toAsciiLowercase text
  | mac => exact hexDigitsOf_hexDigitsOf text
  | hostname => exact normalForm_hostname_stable text
  | snmpEngineId => exact hexDigitsOf_hexDigitsOf text
  | providerNativeId => exact toAsciiLowercase_toAsciiLowercase text
  | assetTag => exact toAsciiLowercase_toAsciiLowercase text

private theorem normalizesOnce_iff_isTrimmed
    (kind : IdentifierKind) (value : String) :
    NormalizesOnce kind value ↔
      (kind.normalForm (trim value) ≠ "" →
        IsTrimmed (kind.normalForm (trim value))) := by
  constructor
  · intro once nonempty
    exact (once _ (normalize_eq_ok_iff.mpr ⟨rfl, nonempty⟩)).2.2
  · intro trimmed result normalized
    obtain ⟨rfl, nonempty⟩ := normalize_eq_ok_iff.mp normalized
    exact ⟨(normalize_self_iff nonempty (trimmed nonempty)).mpr
      (normalForm_normalForm kind _), nonempty, trimmed nonempty⟩

/-- The kinds that only fold the letters of a trimmed value. -/
theorem normalizesOnce_of_folds {kind : IdentifierKind}
    (folds : ∀ text, kind.normalForm text = toAsciiLowercase text)
    (value : String) : NormalizesOnce kind value := by
  rw [normalizesOnce_iff_isTrimmed, folds, isTrimmed_toAsciiLowercase_iff]
  exact fun _ => isTrimmed_trim value

/-- The kinds that keep hexadecimal digits only. -/
theorem normalizesOnce_of_keepsDigits {kind : IdentifierKind}
    (keepsDigits : ∀ text, kind.normalForm text = hexDigitsOf text)
    (value : String) : NormalizesOnce kind value := by
  rw [normalizesOnce_iff_isTrimmed, keepsDigits]
  exact fun _ => isTrimmed_hexDigitsOf (trim value)

private theorem normalizesOnce_hostname_iff (value : String) :
    NormalizesOnce hostname value ↔ ¬EndsInLooseDots value := by
  rw [normalizesOnce_iff_isTrimmed, normalForm, isTrimmed_toAsciiLowercase_iff,
    isTrimmed_trimEndDots_iff]
  constructor
  · intro trimmed loose
    obtain ⟨white, isLast, _⟩ := (exists_white_last_iff value).mpr loose
    refine trimmed ?_ loose
    intro empty
    have noLetters := congrArg String.toList empty
    rw [toList_toAsciiLowercase, String.toList_empty, List.map_eq_nil_iff]
      at noLetters
    rw [noLetters] at isLast
    exact Option.not_mem_none _ isLast
  · exact fun notLoose _ => notLoose

/-- `normalize` is a normal form, but for host names whose final dots stand
behind white space. -/
theorem normalizesOnce_iff (kind : IdentifierKind) (value : String) :
    NormalizesOnce kind value ↔
      (kind = hostname → ¬EndsInLooseDots value) := by
  cases kind with
  | hostname =>
      rw [normalizesOnce_hostname_iff]
      exact ⟨fun notLoose _ => notLoose, fun notLoose => notLoose rfl⟩
  | serial =>
      exact iff_of_true (normalizesOnce_of_folds (fun _ => rfl) value)
        fun other => IdentifierKind.noConfusion other
  | mac =>
      exact iff_of_true (normalizesOnce_of_keepsDigits (fun _ => rfl) value)
        fun other => IdentifierKind.noConfusion other
  | snmpEngineId =>
      exact iff_of_true (normalizesOnce_of_keepsDigits (fun _ => rfl) value)
        fun other => IdentifierKind.noConfusion other
  | providerNativeId =>
      exact iff_of_true (normalizesOnce_of_folds (fun _ => rfl) value)
        fun other => IdentifierKind.noConfusion other
  | assetTag =>
      exact iff_of_true (normalizesOnce_of_folds (fun _ => rfl) value)
        fun other => IdentifierKind.noConfusion other

/-- The form of the name ends in a blank, and the form of that form does not. -/
theorem not_normalizesOnce_looseDot :
    ¬NormalizesOnce hostname "sw-core ." ∧
      hostname.normalize "sw-core ." = .ok "sw-core " ∧
      hostname.normalize "sw-core " = .ok "sw-core" := by
  have first : hostname.normalize "sw-core ." = .ok "sw-core " := by
    decide
  have second : hostname.normalize "sw-core " = .ok "sw-core" := by
    decide
  refine ⟨fun once => ?_, first, second⟩
  have again := (once _ first).1
  rw [second] at again
  exact absurd (Except.ok.inj again) (by decide)

end IdentifierKind

end NetworkManager.Domain.Inventory
