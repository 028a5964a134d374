import NetworkManager.Foundation.Hexadecimal
import NetworkManager.Foundation.Json

/-!
# JSON texts

The compact writer and the reader of `serde_json`, over the characters of a
text.  The reader counts the containers that are open around a value and gives
up at a limit.

Doubles are left out: they have no text here, and the reader refuses a
fraction, an exponent and an integer that is not one of 64 bits.
-/

namespace NetworkManager.Foundation.JsonText

/-- The characters with an escape of one letter. -/
def shortEscapes : List (Char × Char) :=
  [('"', '"'), ('\\', '\\'), (Char.ofNat 8, 'b'), (Char.ofNat 9, 't'),
    (Char.ofNat 10, 'n'), (Char.ofNat 12, 'f'), (Char.ofNat 13, 'r')]

def writeCharacter (character : Char) : List Char :=
  match shortEscapes.lookup character with
  | some letter => ['\\', letter]
  | none =>
      if character.toNat < 32 then
        '\\' :: 'u' :: hexDigits 4 character.toNat
      else
        [character]

def writeString (text : String) : List Char :=
  '"' :: (text.toList.flatMap writeCharacter ++ ['"'])

def writeNumber : Number → List Char
  | .integer value =>
      if value < 0 then '-' :: Nat.toDigits 10 value.natAbs
      else Nat.toDigits 10 value.natAbs
  | .float _ => []

def writeBool : Bool → List Char
  | true => ['t', 'r', 'u', 'e']
  | false => ['f', 'a', 'l', 's', 'e']

mutual

def write : Value → List Char
  | .null => ['n', 'u', 'l', 'l']
  | .bool value => writeBool value
  | .number value => writeNumber value
  | .string value => writeString value
  | .array values => '[' :: writeElements values
  | .object members => '\x7b' :: writeMembers members

/-- The elements of an array, and its end. -/
def writeElements : List Value → List Char
  | [] => [']']
  | [value] => write value ++ [']']
  | value :: next :: values =>
      write value ++ ',' :: writeElements (next :: values)

/-- The members of an object, and its end. -/
def writeMembers : List (String × Value) → List Char
  | [] => ['\x7d']
  | [(key, value)] => writeString key ++ ':' :: (write value ++ ['\x7d'])
  | (key, value) :: next :: members =>
      writeString key ++
        ':' :: (write value ++ ',' :: writeMembers (next :: members))

end

def isSpace (character : Char) : Bool :=
  character = ' ' || character = '\n' || character = '\t' || character = '\r'

def skipSpace (text : List Char) : List Char := text.dropWhile isSpace

/-- The character that a letter behind a backslash stands for. -/
def unescape (letter : Char) : Option Char :=
  if letter = '/' then some '/'
  else (shortEscapes.find? fun escape => escape.2 = letter).map Prod.fst

/-- Read four hexadecimal digits, or eight of a pair of surrogates. -/
def readUnicode (text : List Char) : Option (Char × List Char) := do
  let (high, rest) ← readHex 4 0 text
  if 0xD800 ≤ high ∧ high < 0xDC00 then
    match rest with
    | '\\' :: 'u' :: rest =>
        let (low, rest) ← readHex 4 0 rest
        if 0xDC00 ≤ low ∧ low < 0xE000 then
          some (Char.ofNat (0x10000 + (high - 0xD800) * 0x400 + (low - 0xDC00)),
            rest)
        else
          none
    | _ => none
  else if 0xDC00 ≤ high ∧ high < 0xE000 then
    none
  else
    some (Char.ofNat high, rest)

def readEscape : List Char → Option (Char × List Char)
  | [] => none
  | letter :: rest =>
      if letter = 'u' then readUnicode rest
      else (unescape letter).map fun character => (character, rest)

/-- Read a string behind its opening quote. -/
def readCharacters : Nat → List Char → Option (List Char × List Char)
  | 0, _ => none
  | _ + 1, [] => none
  | fuel + 1, first :: rest =>
      if first = '"' then
        some ([], rest)
      else if first = '\\' then do
        let (character, rest) ← readEscape rest
        let (characters, rest) ← readCharacters fuel rest
        return (character :: characters, rest)
      else if first.toNat < 32 then
        none
      else do
        let (characters, rest) ← readCharacters fuel rest
        return (first :: characters, rest)

def readString (text : List Char) : Option (String × List Char) :=
  (readCharacters (text.length + 1) text).map fun (characters, rest) =>
    (String.ofList characters, rest)

/-- A fraction or an exponent begins. -/
def isFloatMark (character : Char) : Bool :=
  character = '.' || character = 'e' || character = 'E'

def readNatural (text : List Char) : Option (Nat × List Char) :=
  let digits := text.takeWhile Char.isDigit
  let rest := text.dropWhile Char.isDigit
  if digits.isEmpty || (digits.head? == some '0' && decide (1 < digits.length))
      || rest.head?.any isFloatMark then
    none
  else
    some (Nat.ofDigitChars 10 digits 0, rest)

def readNumber : List Char → Option (Number × List Char)
  | '-' :: text => do
      let (value, rest) ← readNatural text
      if 0 < value ∧ value ≤ 2 ^ 63 then
        return (.integer (-value), rest)
      else
        none
  | text => do
      let (value, rest) ← readNatural text
      if value < 2 ^ 64 then
        return (.integer value, rest)
      else
        none

/-- Read the rest of a word. -/
def readWord (word : List Char) (value : Value) (text : List Char) :
    Option (Value × List Char) :=
  if word.isPrefixOf text then some (value, text.drop word.length) else none

mutual

/-- Read one value.  `remainingDepth` is one more than the number of containers
that may be opened. -/
def readValue : (fuel remainingDepth : Nat) → List Char →
    Option (Value × List Char)
  | 0, _, _ => none
  | fuel + 1, remainingDepth, text =>
      match skipSpace text with
      | [] => none
      | first :: rest =>
          if first = 'n' then readWord ['u', 'l', 'l'] .null rest
          else if first = 't' then readWord ['r', 'u', 'e'] (.bool true) rest
          else if first = 'f' then
            readWord ['a', 'l', 's', 'e'] (.bool false) rest
          else if first = '"' then do
            let (value, rest) ← readString rest
            return (.string value, rest)
          else if first = '[' then
            if remainingDepth - 1 = 0 then none
            else
              match skipSpace rest with
              | ']' :: rest => some (.array [], rest)
              | _ => do
                  let (values, rest) ←
                    readElements fuel (remainingDepth - 1) rest
                  return (.array values, rest)
          else if first = '\x7b' then
            if remainingDepth - 1 = 0 then none
            else
              match skipSpace rest with
              | '\x7d' :: rest => some (.object [], rest)
              | _ => do
                  let (members, rest) ←
                    readMembers fuel (remainingDepth - 1) rest
                  return (.object members, rest)
          else do
            let (value, rest) ← readNumber (first :: rest)
            return (.number value, rest)

/-- Read the elements of an array up to its end. -/
def readElements : (fuel remainingDepth : Nat) → List Char →
    Option (List Value × List Char)
  | 0, _, _ => none
  | fuel + 1, remainingDepth, text => do
      let (value, rest) ← readValue fuel remainingDepth text
      match skipSpace rest with
      | ',' :: rest => do
          let (values, rest) ← readElements fuel remainingDepth rest
          return (value :: values, rest)
      | ']' :: rest => some ([value], rest)
      | _ => none

/-- Read the members of an object up to its end. -/
def readMembers : (fuel remainingDepth : Nat) → List Char →
    Option (List (String × Value) × List Char)
  | 0, _, _ => none
  | fuel + 1, remainingDepth, text =>
      match skipSpace text with
      | '"' :: rest => do
          let (key, rest) ← readString rest
          match skipSpace rest with
          | ':' :: rest => do
              let (value, rest) ← readValue fuel remainingDepth rest
              match skipSpace rest with
              | ',' :: rest => do
                  let (members, rest) ← readMembers fuel remainingDepth rest
                  return ((key, value) :: members, rest)
              | '\x7d' :: rest => some ([(key, value)], rest)
              | _ => none
          | _ => none
      | _ => none

end

attribute [grind =] readValue readElements readMembers

/-- Read a text that holds one value. -/
def readDocument (recursionLimit : Nat) (text : List Char) : Option Value :=
  match readValue text.length recursionLimit text with
  | some (value, rest) => if (skipSpace rest).isEmpty then some value else none
  | none => none

end NetworkManager.Foundation.JsonText
