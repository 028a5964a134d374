import Mathlib.Data.List.Infix
import NetworkManager.InventoryStore.Search

/-!
# Texts in patterns

A text that is put into a pattern as it is stands for itself only if no
character of it has a meaning there.  If one has, the pattern matches a text
that does not contain it.
-/

namespace NetworkManager.InventoryStore

open NetworkManager.Foundation

/-- The character has no meaning of its own in a pattern. -/
def IsLiteral (character : Char) : Prop :=
  character ≠ '%' ∧ character ≠ '_' ∧ character ≠ '\\'

instance : DecidablePred IsLiteral := fun character =>
  inferInstanceAs (Decidable (character ≠ '%' ∧ character ≠ '_' ∧
    character ≠ '\\'))

section Literals

variable {character : Char} {pattern text : List Char}

theorem like_percent_iff :
    like ('%' :: pattern) text = true ↔
      ∃ suffix, suffix <:+ text ∧ like pattern suffix = true := by
  rw [like, List.any_eq_true]
  simp only [List.mem_tails]

private theorem like_literal_iff (literal : IsLiteral character) :
    like (character :: pattern) text = true ↔
      ∃ rest, text = character :: rest ∧ like pattern rest = true := by
  rcases literal with ⟨notPercent, notUnderscore, notBackslash⟩
  cases text with
  | nil => simp [like, notBackslash]
  | cons first rest => simp [like, notBackslash, and_assoc]

/-- A literal text followed by anything. -/
theorem like_append_percent_iff (literal : ∀ character ∈ pattern,
    IsLiteral character) :
    like (pattern ++ ['%']) text = true ↔ pattern <+: text := by
  induction pattern generalizing text with
  | nil =>
      rw [List.nil_append, like_percent_iff]
      exact ⟨fun _ => List.nil_prefix, fun _ => ⟨[], List.nil_suffix, rfl⟩⟩
  | cons character pattern inductionHypothesis =>
      have isLiteral := literal character (List.mem_cons_self ..)
      have restLiteral : ∀ other ∈ pattern, IsLiteral other :=
        fun other member => literal other (List.mem_cons_of_mem _ member)
      rw [List.cons_append, like_literal_iff isLiteral]
      constructor
      · intro matched
        rcases matched with ⟨rest, isText, matched⟩
        rw [isText, List.cons_prefix_cons]
        exact ⟨rfl, (inductionHypothesis restLiteral).mp matched⟩
      · intro begins
        rcases begins with ⟨rest, isText⟩
        refine ⟨pattern ++ rest, isText.symm, ?_⟩
        exact (inductionHypothesis restLiteral).mpr (List.prefix_append ..)

/-- A literal text between two `%` is looked for anywhere. -/
theorem like_contains_iff (literal : ∀ character ∈ pattern,
    IsLiteral character) :
    like ('%' :: (pattern ++ ['%'])) text = true ↔ pattern <:+: text := by
  rw [like_percent_iff, List.infix_iff_prefix_suffix]
  simp only [like_append_percent_iff literal, and_comm]

/-- A literal character of a pattern is in every text that matches. -/
theorem mem_of_like (matched : like pattern text = true)
    (literal : IsLiteral character) (member : character ∈ pattern) :
    character ∈ text := by
  rcases literal with ⟨notPercent, notUnderscore, notBackslash⟩
  fun_induction like pattern text
  case case1 => cases member
  case case2 pattern text inductionHypothesis =>
    rcases List.any_eq_true.mp matched with ⟨suffix, isSuffix, matched⟩
    have inRest := List.mem_of_ne_of_mem notPercent member
    exact ((List.mem_tails ..).mp isSuffix).subset
      (inductionHypothesis suffix matched inRest)
  case case3 => cases matched
  case case4 inductionHypothesis =>
    have inRest := List.mem_of_ne_of_mem notUnderscore member
    exact List.mem_cons_of_mem _ (inductionHypothesis matched inRest)
  case case5 => cases matched
  case case6 escaped pattern first rest inductionHypothesis =>
    rcases Bool.and_eq_true_iff.mp matched with ⟨isEscaped, matched⟩
    rcases List.mem_cons.mp (List.mem_of_ne_of_mem notBackslash member) with
      isCharacter | inRest
    · rw [isCharacter, eq_of_beq isEscaped]
      exact List.mem_cons_self ..
    · exact List.mem_cons_of_mem _ (inductionHypothesis matched inRest)
  case case7 => cases matched
  case case8 other pattern _ _ _ first rest inductionHypothesis =>
    rcases Bool.and_eq_true_iff.mp matched with ⟨isOther, matched⟩
    rcases List.mem_cons.mp member with isCharacter | inRest
    · rw [isCharacter, eq_of_beq isOther]
      exact List.mem_cons_self ..
    · exact List.mem_cons_of_mem _ (inductionHypothesis matched inRest)

end Literals

/-- A text that matches a pattern, in which every `%` and `_` stands for an `x`.
A `\` at the end escapes the `%` that comes after it. -/
def reading : List Char → List Char
  | [] => []
  | '%' :: pattern => 'x' :: reading pattern
  | '_' :: pattern => 'x' :: reading pattern
  | ['\\'] => ['%']
  | '\\' :: escaped :: pattern => escaped :: reading pattern
  | character :: pattern => character :: reading pattern

/-- Every `\` is read as an escape. -/
theorem ne_escape {character : Char} {pattern : List Char}
    (notLast : character = '\\' → pattern = [] → False)
    (notEscape : ∀ escaped rest, character = '\\' → pattern = escaped :: rest →
      False) : character ≠ '\\' := by
  intro isEscape
  cases pattern with
  | nil => exact notLast isEscape rfl
  | cons escaped rest => exact notEscape escaped rest isEscape rfl

theorem like_reading (pattern : List Char) :
    like (pattern ++ ['%']) (reading pattern) = true := by
  fun_induction reading pattern
  case case1 => decide
  case case2 pattern inductionHypothesis =>
    exact like_percent_iff.mpr ⟨_, List.suffix_cons .., inductionHypothesis⟩
  case case3 pattern inductionHypothesis => exact inductionHypothesis
  case case4 => decide
  case case5 escaped pattern inductionHypothesis =>
    simp [like, inductionHypothesis]
  case case6 character pattern notPercent notUnderscore notLast notEscape
      inductionHypothesis =>
    have literal : IsLiteral character :=
      ⟨notPercent, notUnderscore, ne_escape notLast notEscape⟩
    exact (like_literal_iff literal).mpr ⟨_, rfl, inductionHypothesis⟩

theorem mem_reading {pattern : List Char} {character : Char}
    (member : character ∈ reading pattern) :
    character = 'x' ∨ character = '%' ∨ character ∈ pattern := by
  fun_induction reading pattern <;> grind

private theorem count_reading_le (pattern : List Char) :
    (reading pattern).count '\\' ≤ pattern.count '\\' := by
  fun_induction reading pattern <;> grind

/-- Each `\` of a pattern is left out. -/
theorem count_reading_lt {pattern : List Char} (escapes : '\\' ∈ pattern) :
    (reading pattern).count '\\' < pattern.count '\\' := by
  fun_induction reading pattern
  case case1 => cases escapes
  case case2 => grind
  case case3 => grind
  case case4 => decide
  case case5 escaped pattern _ =>
    have atMost := count_reading_le pattern
    rw [List.count_cons_self, List.count_cons, List.count_cons]
    omega
  case case6 character pattern _ _ notLast notEscape inductionHypothesis =>
    have notFirst := ne_escape notLast notEscape
    rw [List.count_cons_of_ne notFirst, List.count_cons_of_ne notFirst]
    exact inductionHypothesis (List.mem_of_ne_of_mem notFirst.symm escapes)

/-- Without a `\` every character that is left is literal. -/
theorem isLiteral_of_mem_reading {pattern : List Char}
    (noEscape : '\\' ∉ pattern) :
    ∀ character ∈ reading pattern, IsLiteral character := by
  fun_induction reading pattern <;> grind [IsLiteral]

/-- A pattern that is not literal matches a text that does not contain it. -/
theorem not_infix_reading {pattern : List Char}
    (notLiteral : ∃ character ∈ pattern, ¬IsLiteral character) :
    ¬pattern <:+: 'x' :: reading pattern := by
  intro contained
  by_cases escapes : '\\' ∈ pattern
  · have less := count_reading_lt escapes
    have atMost := contained.sublist.count_le '\\'
    rw [List.count_cons_of_ne (by decide)] at atMost
    omega
  · rcases notLiteral with ⟨character, member, notLiteral⟩
    rcases List.mem_cons.mp (contained.subset member) with isX | isRead
    · rw [isX] at notLiteral
      exact notLiteral (by decide)
    · exact notLiteral (isLiteral_of_mem_reading escapes character isRead)

end NetworkManager.InventoryStore
