import NetworkManager.Foundation.JsonText

/-!
# Reading back what was written

The reader takes back exactly the texts of the values that are nested less
deeply than its limit.  As many steps as the text has characters are enough:
each step of the reader leaves at least one behind.
-/

namespace NetworkManager.Foundation.JsonText

/-- The numbers of a value are integers of 64 bits. -/
def NumberFits : Number → Prop
  | .integer value => -2 ^ 63 ≤ value ∧ value < 2 ^ 64
  | .float _ => False

/-- A number ends before this text. -/
def Delimited (text : List Char) : Prop :=
  ∀ first ∈ text.head?, first.isDigit = false ∧ isFloatMark first = false

theorem head?_toDigits_ne {number : Nat} (positive : 0 < number) :
    (Nat.toDigits 10 number).head? ≠ some '0' := by
  induction number using Nat.strongRecOn with
  | ind number inductionHypothesis =>
      by_cases short : number < 10
      · rw [Nat.toDigits_of_lt_base short]
        have nonzero : ∀ digit < 10, 0 < digit → digit.digitChar ≠ '0' := by
          decide
        simpa using nonzero number short positive
      · rw [Nat.toDigits_of_base_le (by omega) (by omega)]
        have later := inductionHypothesis (number / 10) (by omega) (by omega)
        cases digits : Nat.toDigits 10 (number / 10) with
        | nil => exact absurd digits Nat.toDigits_ne_nil
        | cons first rest =>
            rw [digits] at later
            simpa using later

theorem readNatural_toDigits (number : Nat) {rest : List Char}
    (delimited : Delimited rest) :
    readNatural (Nat.toDigits 10 number ++ rest) = some (number, rest) := by
  have allDigits : ∀ digit ∈ Nat.toDigits 10 number, digit.isDigit = true :=
    fun _ member => Nat.isDigit_of_mem_toDigits (by omega) (by omega) member
  have noneLeft : rest.takeWhile Char.isDigit = [] ∧
      rest.dropWhile Char.isDigit = rest := by
    cases rest with
    | nil => exact ⟨rfl, rfl⟩
    | cons first rest =>
        have notDigit := (delimited first rfl).1
        simp [notDigit]
  have taken : (Nat.toDigits 10 number ++ rest).takeWhile Char.isDigit =
      Nat.toDigits 10 number := by
    rw [List.takeWhile_append_of_pos allDigits, noneLeft.1, List.append_nil]
  have dropped : (Nat.toDigits 10 number ++ rest).dropWhile Char.isDigit =
      rest := by
    rw [List.dropWhile_append_of_pos allDigits, noneLeft.2]
  have notMark : rest.head?.any isFloatMark = false := by
    cases rest with
    | nil => rfl
    | cons first rest => exact (delimited first rfl).2
  have noLeadingZero : ((Nat.toDigits 10 number).head? == some '0' &&
      decide (1 < (Nat.toDigits 10 number).length)) = false := by
    by_cases isZero : number = 0
    · subst isZero
      decide
    · have nonzero := head?_toDigits_ne (Nat.pos_of_ne_zero isZero)
      simp [nonzero]
  rw [readNatural]
  simp only [taken, dropped, notMark, noLeadingZero, Bool.or_false,
    List.isEmpty_iff, Nat.toDigits_ne_nil, if_false,
    Nat.ofDigitChars_ten_toDigits]

theorem readNumber_writeNumber {number : Number} (fits : NumberFits number)
    {rest : List Char} (delimited : Delimited rest) :
    readNumber (writeNumber number ++ rest) = some (number, rest) := by
  cases number with
  | float bits => cases fits
  | integer value =>
      have read := readNatural_toDigits value.natAbs delimited
      obtain ⟨lower, upper⟩ := fits
      by_cases negative : value < 0
      · have isOpposite : -(value.natAbs : Int) = value := by omega
        have inRange : 0 < value.natAbs ∧ value.natAbs ≤ 2 ^ 63 := by omega
        rw [writeNumber, if_pos negative, List.cons_append, readNumber, read]
        simp only [bind, Option.bind_some, inRange, and_self, if_true,
          isOpposite]
        rfl
      · have isSame : (value.natAbs : Int) = value := by omega
        have inRange : value.natAbs < 2 ^ 64 := by omega
        rw [writeNumber, if_neg negative]
        rw [readNumber, read]
        · simp only [bind, Option.bind_some, inRange, if_true, isSame]
          rfl
        · intro text isText
          have first : (Nat.toDigits 10 value.natAbs).head? = some '-' := by
            cases digits : Nat.toDigits 10 value.natAbs with
            | nil => exact absurd digits Nat.toDigits_ne_nil
            | cons first others =>
                rw [digits, List.cons_append, List.cons.injEq] at isText
                rw [isText.1]
                rfl
          have member := List.mem_of_mem_head? first
          have isDigit := Nat.isDigit_of_mem_toDigits (by omega) (by omega)
            member
          simp at isDigit

theorem shortEscapes_readBack :
    ∀ escape ∈ shortEscapes,
      escape.2 ≠ 'u' ∧ unescape escape.2 = some escape.1 := by
  decide

theorem readCharacters_escape {fuel : Nat} {text rest : List Char}
    {character : Char} (escaped : readEscape text = some (character, rest)) :
    readCharacters (fuel + 1) ('\\' :: text) =
      (readCharacters fuel rest).map fun read =>
        (character :: read.1, read.2) := by
  rw [readCharacters, if_neg (by decide), if_pos rfl, escaped]
  simp only [bind, Option.bind_some]
  cases readCharacters fuel rest <;> rfl

theorem readCharacters_writeCharacter (character : Char) (fuel : Nat)
    (rest : List Char) :
    readCharacters (fuel + 1) (writeCharacter character ++ rest) =
      (readCharacters fuel rest).map fun read =>
        (character :: read.1, read.2) := by
  cases short : shortEscapes.lookup character with
  | some letter =>
      have member : (character, letter) ∈ shortEscapes := by
        rw [List.lookup_eq_some_iff] at short
        obtain ⟨before, after, split, _⟩ := short
        rw [split]
        simp
      obtain ⟨notUnicode, readBack⟩ := shortEscapes_readBack _ member
      have escaped : readEscape (letter :: rest) = some (character, rest) := by
        rw [readEscape, if_neg notUnicode, readBack]
        rfl
      rw [writeCharacter, short]
      exact readCharacters_escape escaped
  | none =>
      rw [writeCharacter, short]
      by_cases control : character.toNat < 32
      · have code : readHex 4 0 (hexDigits 4 character.toNat ++ rest) =
            some (character.toNat, rest) := by
          rw [readHex_hexDigits 0 rest (by omega)]
          simp
        have escaped : readEscape ('u' :: (hexDigits 4 character.toNat ++ rest))
            = some (character, rest) := by
          have notHigh : ¬ (0xD800 ≤ character.toNat ∧
            character.toNat < 0xDC00) := by omega
          have notLow : ¬ (0xDC00 ≤ character.toNat ∧
            character.toNat < 0xE000) := by omega
          rw [readEscape, if_pos rfl, readUnicode, code]
          simp only [bind, Option.bind_some]
          rw [if_neg notHigh, if_neg notLow, Char.ofNat_toNat]
        simp only [control, if_true, List.cons_append]
        exact readCharacters_escape escaped
      · have notQuote : character ≠ '"' := by
          rintro rfl
          simp [shortEscapes] at short
        have notBackslash : character ≠ '\\' := by
          rintro rfl
          simp [shortEscapes] at short
        simp only [control, if_false, List.singleton_append, readCharacters,
          notQuote, notBackslash]
        cases readCharacters fuel rest <;> rfl

theorem readCharacters_write (characters : List Char) {fuel : Nat}
    (rest : List Char) (enough : characters.length < fuel) :
    readCharacters fuel (characters.flatMap writeCharacter ++ '"' :: rest) =
      some (characters, rest) := by
  induction characters generalizing fuel with
  | nil =>
      obtain ⟨fuel, rfl⟩ := Nat.exists_eq_add_of_lt enough
      simp [readCharacters]
  | cons character characters inductionHypothesis =>
      cases fuel with
      | zero => simp at enough
      | succ fuel =>
          have fewer : characters.length < fuel := by
            simp only [List.length_cons] at enough
            omega
          rw [List.flatMap_cons, List.append_assoc,
            readCharacters_writeCharacter, inductionHypothesis fewer]
          rfl

theorem length_writeCharacter_pos (character : Char) :
    0 < (writeCharacter character).length := by
  rw [writeCharacter]
  split
  · simp
  · split_ifs <;> simp

theorem length_le_length_flatMap (characters : List Char) :
    characters.length ≤ (characters.flatMap writeCharacter).length := by
  induction characters with
  | nil => simp
  | cons character characters inductionHypothesis =>
      have positive := length_writeCharacter_pos character
      rw [List.flatMap_cons, List.length_append, List.length_cons]
      omega

theorem readString_writeString (text : String) (rest : List Char) :
    readString (text.toList.flatMap writeCharacter ++ '"' :: rest) =
      some (text, rest) := by
  have long := length_le_length_flatMap text.toList
  rw [readString, readCharacters_write text.toList rest]
  · simp
  · rw [List.length_append]
    omega

/-! ## Values read back -/

mutual

/-- How many containers are open around the innermost part of a value. -/
def nesting : Value → Nat
  | .array values => nestingElements values + 1
  | .object members => nestingMembers members + 1
  | _ => 0

def nestingElements : List Value → Nat
  | [] => 0
  | value :: values => max (nesting value) (nestingElements values)

def nestingMembers : List (String × Value) → Nat
  | [] => 0
  | (_, value) :: members => max (nesting value) (nestingMembers members)

end

mutual

/-- Every number of the value is an integer of 64 bits. -/
def NumbersFit : Value → Prop
  | .number number => NumberFits number
  | .array values => ElementsFit values
  | .object members => MembersFit members
  | _ => True

def ElementsFit : List Value → Prop
  | [] => True
  | value :: values => NumbersFit value ∧ ElementsFit values

def MembersFit : List (String × Value) → Prop
  | [] => True
  | (_, value) :: members => NumbersFit value ∧ MembersFit members

end

theorem delimited_cons {first : Char} (notDigit : first.isDigit = false)
    (notMark : isFloatMark first = false) (rest : List Char) :
    Delimited (first :: rest) := by
  intro found isFound
  cases isFound
  exact ⟨notDigit, notMark⟩

/-- A value begins with none of the characters that stand between values. -/
def BeginsValue (first : Char) : Prop :=
  isSpace first = false ∧ first ≠ ']'

/-- A number begins with its sign or a digit. -/
theorem exists_writeNumber_eq {number : Number} (fits : NumberFits number) :
    ∃ first rest, writeNumber number = first :: rest ∧
      (first = '-' ∨ first.isDigit = true) := by
  cases number with
  | float bits => cases fits
  | integer value =>
      by_cases negative : value < 0
      · rw [writeNumber, if_pos negative]
        exact ⟨_, _, rfl, Or.inl rfl⟩
      · rw [writeNumber, if_neg negative]
        cases digits : Nat.toDigits 10 value.natAbs with
        | nil => exact absurd digits Nat.toDigits_ne_nil
        | cons first rest =>
            refine ⟨first, rest, rfl, Or.inr ?_⟩
            apply Nat.isDigit_of_mem_toDigits (b := 10) (n := value.natAbs)
              (by omega) (by omega)
            rw [digits]
            exact List.mem_cons_self ..

theorem beginsValue_of_number {first : Char}
    (isNumber : first = '-' ∨ first.isDigit = true) : BeginsValue first := by
  rcases isNumber with rfl | isDigit
  · exact ⟨rfl, by decide⟩
  constructor
  · cases outcome : isSpace first with
    | false => rfl
    | true =>
        simp only [isSpace, Bool.or_eq_true, decide_eq_true_eq] at outcome
        rcases outcome with ((rfl | rfl) | rfl) | rfl <;> simp at isDigit
  · rintro rfl
    simp at isDigit

theorem exists_write_eq {value : Value} (fits : NumbersFit value) :
    ∃ first rest, write value = first :: rest ∧ BeginsValue first := by
  cases value with
  | null => exact ⟨_, _, rfl, rfl, by decide⟩
  | bool value => cases value <;> exact ⟨_, _, rfl, rfl, by decide⟩
  | string text => exact ⟨_, _, rfl, rfl, by decide⟩
  | array values => exact ⟨_, _, rfl, rfl, by decide⟩
  | object members => exact ⟨_, _, rfl, rfl, by decide⟩
  | number number =>
      obtain ⟨first, rest, split, isNumber⟩ := exists_writeNumber_eq fits
      exact ⟨first, rest, split, beginsValue_of_number isNumber⟩

theorem skipSpace_cons {first : Char} (notSpace : isSpace first = false)
    (rest : List Char) : skipSpace (first :: rest) = first :: rest := by
  rw [skipSpace, List.dropWhile_cons_of_neg (by simp [notSpace])]

section Steps

variable {fuel remaining : Nat} {rest : List Char}

theorem readValue_number {first : Char}
    (isNumber : first = '-' ∨ first.isDigit = true) :
    readValue (fuel + 1) remaining (first :: rest) =
      (readNumber (first :: rest)).map fun read =>
        (.number read.1, read.2) := by
  have notSpace := (beginsValue_of_number isNumber).1
  have others : first ≠ 'n' ∧ first ≠ 't' ∧ first ≠ 'f' ∧ first ≠ '"' ∧
      first ≠ '[' ∧ first ≠ '\x7b' := by
    refine ⟨?_, ?_, ?_, ?_, ?_, ?_⟩ <;> rintro rfl <;> simp at isNumber
  rw [readValue, skipSpace_cons notSpace]
  simp only [others, if_false]
  cases readNumber (first :: rest) <;> rfl

theorem readValue_string :
    readValue (fuel + 1) remaining ('"' :: rest) =
      (readString rest).map fun read => (.string read.1, read.2) := by
  rw [readValue, skipSpace_cons rfl]
  simp only [Char.reduceEq, if_false, if_true]
  cases readString rest <;> rfl

theorem readValue_tooDeep {first : Char}
    (isOpening : first = '[' ∨ first = '\x7b') (atLimit : remaining - 1 = 0) :
    readValue (fuel + 1) remaining (first :: rest) = none := by
  rcases isOpening with rfl | rfl
  · rw [readValue, skipSpace_cons rfl]
    simp [atLimit]
  · rw [readValue, skipSpace_cons rfl]
    simp [atLimit]

theorem readValue_array_nil (below : remaining - 1 ≠ 0) :
    readValue (fuel + 1) remaining ('[' :: ']' :: rest) =
      some (.array [], rest) := by
  rw [readValue, skipSpace_cons rfl]
  simp [below, skipSpace_cons (show isSpace ']' = false from rfl)]

theorem readValue_array {first : Char} (begins : BeginsValue first)
    (below : remaining - 1 ≠ 0) :
    readValue (fuel + 1) remaining ('[' :: first :: rest) =
      (readElements fuel (remaining - 1) (first :: rest)).map fun read =>
        (.array read.1, read.2) := by
  have split := skipSpace_cons begins.1 rest
  rw [readValue, skipSpace_cons rfl]
  simp only [Char.reduceEq, if_false, if_true, below, split]
  cases readElements fuel (remaining - 1) (first :: rest) <;>
    simp [begins.2]

theorem readValue_object_nil (below : remaining - 1 ≠ 0) :
    readValue (fuel + 1) remaining ('\x7b' :: '\x7d' :: rest) =
      some (.object [], rest) := by
  rw [readValue, skipSpace_cons rfl]
  simp [below, skipSpace_cons (show isSpace '\x7d' = false from rfl)]

theorem readValue_object (below : remaining - 1 ≠ 0) :
    readValue (fuel + 1) remaining ('\x7b' :: '"' :: rest) =
      (readMembers fuel (remaining - 1) ('"' :: rest)).map fun read =>
        (.object read.1, read.2) := by
  have split := skipSpace_cons (show isSpace '"' = false from rfl) rest
  rw [readValue, skipSpace_cons rfl]
  simp only [Char.reduceEq, if_false, if_true, below, split]
  cases readMembers fuel (remaining - 1) ('"' :: rest) <;> rfl

theorem readElements_none {text : List Char}
    (refused : readValue fuel remaining text = none) :
    readElements (fuel + 1) remaining text = none := by
  rw [readElements, refused]
  rfl

theorem readElements_last {text : List Char} {value : Value}
    (read : readValue fuel remaining text = some (value, ']' :: rest)) :
    readElements (fuel + 1) remaining text = some ([value], rest) := by
  have split := skipSpace_cons (show isSpace ']' = false from rfl) rest
  rw [readElements, read]
  simp [split]

theorem readElements_next {text : List Char} {value : Value}
    (read : readValue fuel remaining text = some (value, ',' :: rest)) :
    readElements (fuel + 1) remaining text =
      (readElements fuel remaining rest).map fun others =>
        (value :: others.1, others.2) := by
  have split := skipSpace_cons (show isSpace ',' = false from rfl) rest
  rw [readElements, read]
  simp only [bind, Option.bind_some, split]
  cases readElements fuel remaining rest <;> rfl

section Member

variable {key : String} {text after : List Char} {value : Value}

theorem readMembers_none (named : readString text = some (key, ':' :: after))
    (refused : readValue fuel remaining after = none) :
    readMembers (fuel + 1) remaining ('"' :: text) = none := by
  have split := skipSpace_cons (show isSpace ':' = false from rfl) after
  rw [readMembers, skipSpace_cons rfl]
  simp only [named, bind, Option.bind_some, split, refused, Option.bind_none]

theorem readMembers_last (named : readString text = some (key, ':' :: after))
    (read : readValue fuel remaining after = some (value, '\x7d' :: rest)) :
    readMembers (fuel + 1) remaining ('"' :: text) =
      some ([(key, value)], rest) := by
  have split := skipSpace_cons (show isSpace ':' = false from rfl) after
  have ending := skipSpace_cons (show isSpace '\x7d' = false from rfl) rest
  rw [readMembers, skipSpace_cons rfl]
  simp only [named, bind, Option.bind_some, split, read, ending]

theorem readMembers_next (named : readString text = some (key, ':' :: after))
    (read : readValue fuel remaining after = some (value, ',' :: rest)) :
    readMembers (fuel + 1) remaining ('"' :: text) =
      (readMembers fuel remaining rest).map fun others =>
        ((key, value) :: others.1, others.2) := by
  have split := skipSpace_cons (show isSpace ':' = false from rfl) after
  have comma := skipSpace_cons (show isSpace ',' = false from rfl) rest
  rw [readMembers, skipSpace_cons rfl]
  simp only [named, bind, Option.bind_some, split, read, comma]
  cases readMembers fuel remaining rest <;> rfl

end Member

end Steps

theorem delimited_of_separator {separator : Char}
    (isSeparator : separator = ',' ∨ separator = ']' ∨ separator = '\x7d')
    (rest : List Char) : Delimited (separator :: rest) := by
  rcases isSeparator with rfl | rfl | rfl <;>
    exact delimited_cons rfl rfl rest

theorem exists_writeElements_eq {value : Value} {values : List Value}
    (fits : NumbersFit value) :
    ∃ first rest, writeElements (value :: values) = first :: rest ∧
      BeginsValue first := by
  obtain ⟨first, rest, split, begins⟩ := exists_write_eq fits
  cases values with
  | nil => exact ⟨first, rest ++ [']'], by simp [writeElements, split], begins⟩
  | cons next values =>
      exact ⟨first, rest ++ ',' :: writeElements (next :: values),
        by simp [writeElements, split], begins⟩

theorem exists_writeMembers_eq (member : String × Value)
    (members : List (String × Value)) :
    ∃ rest, writeMembers (member :: members) = '"' :: rest := by
  obtain ⟨key, value⟩ := member
  cases members with
  | nil => exact ⟨_, rfl⟩
  | cons next members => exact ⟨_, rfl⟩

theorem writeString_append (text : String) (rest : List Char) :
    writeString text ++ rest =
      '"' :: (text.toList.flatMap writeCharacter ++ '"' :: rest) := by
  simp [writeString]

/-- An array is read back if its elements are. -/
private theorem readValue_array_write {values : List Value}
    {fuel remaining : Nat} {rest : List Char} (fits : ElementsFit values)
    (read : values ≠ [] → 0 < remaining - 1 →
      readElements fuel (remaining - 1) (writeElements values ++ rest) =
        if nestingElements values < remaining - 1 then some (values, rest)
        else none) :
    readValue (fuel + 1) remaining (write (.array values) ++ rest) =
      if nesting (.array values) < remaining then some (.array values, rest)
      else none := by
  rw [write, List.cons_append]
  by_cases atLimit : remaining - 1 = 0
  · have tooDeep : ¬ nesting (.array values) < remaining := by
      simp only [nesting]
      omega
    rw [if_neg tooDeep]
    exact readValue_tooDeep (Or.inl rfl) atLimit
  have sameDepth : nesting (.array values) < remaining ↔
      nestingElements values < remaining - 1 := by
    simp only [nesting]
    omega
  cases values with
  | nil =>
      have shallow : nestingElements [] < remaining - 1 := by
        simp only [nestingElements]
        omega
      rw [if_pos (sameDepth.mpr shallow)]
      exact readValue_array_nil atLimit
  | cons value values =>
      obtain ⟨first, others, split, begins⟩ :=
        @exists_writeElements_eq value values fits.1
      rw [split, List.cons_append, readValue_array begins atLimit,
        ← List.cons_append, ← split, read (by simp) (by omega)]
      by_cases shallow : nestingElements (value :: values) < remaining - 1
      · rw [if_pos shallow, if_pos (sameDepth.mpr shallow)]
        rfl
      · rw [if_neg shallow, if_neg fun deep => shallow (sameDepth.mp deep)]
        rfl

/-- An object is read back if its members are. -/
private theorem readValue_object_write {members : List (String × Value)}
    {fuel remaining : Nat} {rest : List Char}
    (read : members ≠ [] → 0 < remaining - 1 →
      readMembers fuel (remaining - 1) (writeMembers members ++ rest) =
        if nestingMembers members < remaining - 1 then some (members, rest)
        else none) :
    readValue (fuel + 1) remaining (write (.object members) ++ rest) =
      if nesting (.object members) < remaining then some (.object members, rest)
      else none := by
  rw [write, List.cons_append]
  by_cases atLimit : remaining - 1 = 0
  · have tooDeep : ¬ nesting (.object members) < remaining := by
      simp only [nesting]
      omega
    rw [if_neg tooDeep]
    exact readValue_tooDeep (Or.inr rfl) atLimit
  have sameDepth : nesting (.object members) < remaining ↔
      nestingMembers members < remaining - 1 := by
    simp only [nesting]
    omega
  cases members with
  | nil =>
      have shallow : nestingMembers [] < remaining - 1 := by
        simp only [nestingMembers]
        omega
      rw [if_pos (sameDepth.mpr shallow)]
      exact readValue_object_nil atLimit
  | cons member members =>
      obtain ⟨others, split⟩ := exists_writeMembers_eq member members
      rw [split, List.cons_append, readValue_object atLimit,
        ← List.cons_append, ← split, read (by simp) (by omega)]
      by_cases shallow : nestingMembers (member :: members) < remaining - 1
      · rw [if_pos shallow, if_pos (sameDepth.mpr shallow)]
        rfl
      · rw [if_neg shallow, if_neg fun deep => shallow (sameDepth.mp deep)]
        rfl

mutual

/-- The reader takes back what the writer wrote, unless it is nested too
deeply. -/
theorem readValue_write :
    ∀ (value : Value) (fuel remaining : Nat) (rest : List Char),
      NumbersFit value → (write value).length ≤ fuel → 0 < remaining →
      Delimited rest →
      readValue fuel remaining (write value ++ rest) =
        if nesting value < remaining then some (value, rest) else none
  | value, 0, _, _, fits, enough, _, _ => by
      obtain ⟨first, rest, split, _⟩ := exists_write_eq fits
      simp [split] at enough
  | .null, _ + 1, _, _, _, _, positive, _ => by
      simp [write, readValue, skipSpace, isSpace, readWord, nesting, positive]
  | .bool value, _ + 1, _, _, _, _, positive, _ => by
      cases value <;>
        simp [write, writeBool, readValue, skipSpace, isSpace, readWord,
          nesting, positive]
  | .string text, _ + 1, _, rest, _, _, positive, _ => by
      have read := readString_writeString text rest
      rw [write, writeString_append, readValue_string, read]
      simp [nesting, positive]
  | .number number, _ + 1, _, _, fits, _, positive, delimited => by
      obtain ⟨first, others, split, isNumber⟩ := exists_writeNumber_eq fits
      have read := readNumber_writeNumber fits delimited
      rw [write, split, List.cons_append] at *
      rw [readValue_number isNumber, read]
      simp [nesting, positive]
  | .array values, fuel + 1, remaining, rest, fits, enough, _, _ => by
      have fewer : (writeElements values).length ≤ fuel ∨ values = [] := by
        cases values with
        | nil => exact Or.inr rfl
        | cons value values => exact Or.inl (by simpa [write] using enough)
      refine readValue_array_write fits fun filled inside => ?_
      exact readElements_write values fuel (remaining - 1) rest filled fits
        (fewer.resolve_right filled) inside
  | .object members, fuel + 1, remaining, rest, fits, enough, _, _ => by
      have fewer : (writeMembers members).length ≤ fuel ∨ members = [] := by
        cases members with
        | nil => exact Or.inr rfl
        | cons member members => exact Or.inl (by simpa [write] using enough)
      refine readValue_object_write fun filled inside => ?_
      exact readMembers_write members fuel (remaining - 1) rest filled fits
        (fewer.resolve_right filled) inside

theorem readElements_write :
    ∀ (values : List Value) (fuel remaining : Nat) (rest : List Char),
      values ≠ [] → ElementsFit values →
      (writeElements values).length ≤ fuel → 0 < remaining →
      readElements fuel remaining (writeElements values ++ rest) =
        if nestingElements values < remaining then some (values, rest) else none
  | [], _, _, _, nonempty, _, _, _ => absurd rfl nonempty
  | value :: values, 0, _, _, _, fits, enough, _ => by
      obtain ⟨first, others, split, _⟩ :=
        @exists_writeElements_eq value values fits.1
      simp [split] at enough
  | [value], fuel + 1, remaining, rest, _, fits, enough, positive => by
      have fewer : (write value).length ≤ fuel := by
        simpa [writeElements] using enough
      have read := readValue_write value fuel remaining (']' :: rest) fits.1
        fewer positive (delimited_of_separator (by simp) rest)
      rw [writeElements, List.append_assoc, List.singleton_append]
      by_cases shallow : nesting value < remaining
      · rw [if_pos shallow] at read
        rw [readElements_last read]
        simp [nestingElements, shallow]
      · rw [if_neg shallow] at read
        rw [readElements_none read]
        simp [nestingElements, shallow]
  | value :: next :: values, fuel + 1, remaining, rest, _, fits, enough,
      positive => by
      have lengths : (write value).length ≤ fuel ∧
          (writeElements (next :: values)).length ≤ fuel := by
        rw [writeElements, List.length_append, List.length_cons] at enough
        omega
      have read := readValue_write value fuel remaining
        (',' :: (writeElements (next :: values) ++ rest)) fits.1 lengths.1
        positive (delimited_of_separator (by simp) _)
      have later := readElements_write (next :: values) fuel remaining rest
        (by simp) fits.2 lengths.2 positive
      have sameDepth : nestingElements (value :: next :: values) < remaining ↔
          nesting value < remaining ∧
            nestingElements (next :: values) < remaining :=
        Nat.max_lt
      rw [writeElements, List.append_assoc, List.cons_append]
      simp only [sameDepth]
      by_cases shallow : nesting value < remaining
      · rw [if_pos shallow] at read
        rw [readElements_next read, later]
        by_cases othersShallow : nestingElements (next :: values) < remaining
        · simp only [shallow, othersShallow, and_self, if_true, Option.map_some]
        · simp only [othersShallow, and_false, if_false, Option.map_none]
      · rw [if_neg shallow] at read
        rw [readElements_none read]
        simp only [shallow, false_and, if_false]

theorem readMembers_write :
    ∀ (members : List (String × Value)) (fuel remaining : Nat)
      (rest : List Char), members ≠ [] → MembersFit members →
      (writeMembers members).length ≤ fuel → 0 < remaining →
      readMembers fuel remaining (writeMembers members ++ rest) =
        if nestingMembers members < remaining then some (members, rest)
        else none
  | [], _, _, _, nonempty, _, _, _ => absurd rfl nonempty
  | member :: members, 0, _, _, _, _, enough, _ => by
      obtain ⟨others, split⟩ := exists_writeMembers_eq member members
      simp [split] at enough
  | [(key, value)], fuel + 1, remaining, rest, _, fits, enough, positive => by
      have fewer : (write value).length ≤ fuel := by
        simp only [writeMembers, List.length_append, List.length_cons] at enough
        omega
      have read := readValue_write value fuel remaining ('\x7d' :: rest) fits.1
        fewer positive (delimited_of_separator (by simp) rest)
      have named :=
        readString_writeString key (':' :: (write value ++ '\x7d' :: rest))
      rw [writeMembers, List.append_assoc, List.cons_append, List.append_assoc,
        List.singleton_append, writeString_append]
      by_cases shallow : nesting value < remaining
      · rw [if_pos shallow] at read
        rw [readMembers_last named read]
        simp [nestingMembers, shallow]
      · rw [if_neg shallow] at read
        rw [readMembers_none named read]
        simp [nestingMembers, shallow]
  | (key, value) :: next :: members, fuel + 1, remaining, rest, _, fits, enough,
      positive => by
      have lengths : (write value).length ≤ fuel ∧
          (writeMembers (next :: members)).length ≤ fuel := by
        simp only [writeMembers, List.length_append, List.length_cons] at enough
        omega
      have read := readValue_write value fuel remaining
        (',' :: (writeMembers (next :: members) ++ rest)) fits.1 lengths.1
        positive (delimited_of_separator (by simp) _)
      have later := readMembers_write (next :: members) fuel remaining rest
        (by simp) fits.2 lengths.2 positive
      have named := readString_writeString key
        (':' :: (write value ++
          ',' :: (writeMembers (next :: members) ++ rest)))
      have sameDepth :
          nestingMembers ((key, value) :: next :: members) < remaining ↔
            nesting value < remaining ∧
              nestingMembers (next :: members) < remaining :=
        Nat.max_lt
      rw [writeMembers, List.append_assoc, List.cons_append, List.append_assoc,
        List.cons_append, writeString_append]
      simp only [sameDepth]
      by_cases shallow : nesting value < remaining
      · rw [if_pos shallow] at read
        rw [readMembers_next named read, later]
        by_cases othersShallow : nestingMembers (next :: members) < remaining
        · simp only [shallow, othersShallow, and_self, if_true, Option.map_some]
        · simp only [othersShallow, and_false, if_false, Option.map_none]
      · rw [if_neg shallow] at read
        rw [readMembers_none named read]
        simp only [shallow, false_and, if_false]

end

/-- A text is read back exactly when its value is nested less deeply than the
limit. -/
theorem readDocument_write {value : Value} {recursionLimit : Nat}
    (fits : NumbersFit value) (positive : 0 < recursionLimit) :
    readDocument recursionLimit (write value) =
      if nesting value < recursionLimit then some value else none := by
  have read := readValue_write value (write value).length recursionLimit []
    fits (Nat.le_refl _) positive (by simp [Delimited])
  rw [List.append_nil] at read
  rw [readDocument, read]
  by_cases shallow : nesting value < recursionLimit
  · rw [if_pos shallow, if_pos shallow]
    rfl
  · rw [if_neg shallow, if_neg shallow]

end NetworkManager.Foundation.JsonText
