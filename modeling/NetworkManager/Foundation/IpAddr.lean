import Mathlib.Algebra.GroupWithZero.Nat
import Mathlib.Data.List.Basic

/-!
# IP addresses

Addresses and the networks that they belong to, and which texts
`str::parse::<IpAddr>` accepts: four decimal groups, or eight hexadecimal ones
of which `::` may leave out a run and of which the last two may be written as an
IPv4 address.

A reader takes what it recognizes off the front of its input.
-/

namespace NetworkManager.Foundation

inductive IpAddr where
  | v4 (bits : BitVec 32)
  | v6 (bits : BitVec 128)
deriving DecidableEq, Repr

instance neZero_v4Lengths : NeZero 33 := ⟨by decide⟩

instance neZero_v6Lengths : NeZero 129 := ⟨by decide⟩

/-- A network: the addresses of a family that begin with the first
`prefixLength` bits of `network`. -/
inductive Cidr where
  | v4 (network : BitVec 32) (prefixLength : Fin 33)
  | v6 (network : BitVec 128) (prefixLength : Fin 129)
deriving DecidableEq, Repr

/-- `address <<= cidr`. -/
def Cidr.contains : Cidr → IpAddr → Bool
  | .v4 network prefixLength, .v4 bits =>
      network >>> (32 - prefixLength.val) == bits >>> (32 - prefixLength.val)
  | .v6 network prefixLength, .v6 bits =>
      network >>> (128 - prefixLength.val) ==
        bits >>> (128 - prefixLength.val)
  | _, _ => false

/-- The value of a digit in a radix up to 16. -/
def digitValue (radix : Nat) (character : Char) : Option Nat :=
  let code := character.toNat
  let value :=
    if 48 ≤ code ∧ code ≤ 57 then some (code - 48)
    else if 97 ≤ code ∧ code ≤ 102 then some (code - 87)
    else if 65 ≤ code ∧ code ≤ 70 then some (code - 55)
    else none
  value.filter fun digit => decide (digit < radix)

/-- Read digits as long as there are any: their number, the value, the rest. -/
def readDigits (radix : Nat) :
    (count value : Nat) → List Char → Nat × Nat × List Char
  | count, value, [] => (count, value, [])
  | count, value, character :: rest =>
      match digitValue radix character with
      | some digit => readDigits radix (count + 1) (value * radix + digit) rest
      | none => (count, value, character :: rest)

/-- `Parser::read_number`. -/
def readNumber (radix maxDigits : Nat) (allowZeroPrefix : Bool)
    (maxValue : Nat) (input : List Char) : Option (Nat × List Char) :=
  match readDigits radix 0 0 input with
  | (count, value, rest) =>
      if count = 0 ∨ maxDigits < count ∨ maxValue < value then none
      else if !allowZeroPrefix && input.head? == some '0' && decide (1 < count)
        then none
      else some (value, rest)

/-- `Parser::read_given_char`. -/
def readChar (wanted : Char) : List Char → Option (List Char)
  | [] => none
  | character :: rest => if character = wanted then some rest else none

/-- `Parser::read_separator`: a separator stands before each part but the
first. -/
def readSeparator (separator : Char) (index : Nat) (input : List Char) :
    Option (List Char) :=
  if index = 0 then some input else readChar separator input

/-- The `remaining` last octets of an IPv4 address. -/
def readOctets : (remaining index : Nat) → List Char → Option (List Char)
  | 0, _, input => some input
  | remaining + 1, index, input =>
      (readSeparator '.' index input).bind fun input =>
        (readNumber 10 3 false 255 input).bind fun (_, input) =>
          readOctets remaining (index + 1) input

/-- `Parser::read_ipv4_addr`. -/
def readIpv4 (input : List Char) : Option (List Char) :=
  readOctets 4 0 input

/-- `read_groups`: the number of groups read, whether the last two were written
as an IPv4 address, and the rest. -/
def readGroups : (remaining index : Nat) → List Char → Nat × Bool × List Char
  | 0, index, input => (index, false, input)
  | remaining + 1, index, input =>
      let embedded :=
        if remaining = 0 then none
        else (readSeparator ':' index input).bind readIpv4
      match embedded with
      | some rest => (index + 2, true, rest)
      | none =>
          match (readSeparator ':' index input).bind
              (readNumber 16 4 true 65535) with
          | some (_, rest) => readGroups remaining (index + 1) rest
          | none => (index, false, input)

/-- `Parser::read_ipv6_addr`. -/
def readIpv6 (input : List Char) : Option (List Char) :=
  match readGroups 8 0 input with
  | (8, _, rest) => some rest
  | (_, true, _) => none
  | (headSize, false, rest) =>
      (readChar ':' rest).bind fun rest =>
        (readChar ':' rest).bind fun rest =>
          some (readGroups (7 - headSize) 0 rest).2.2

/-- `str::parse::<IpAddr>` succeeds. -/
def isIpAddr (text : String) : Bool :=
  (readIpv4 text.toList).or (readIpv6 text.toList) == some []

/-- The number of bits of the address that a text is parsed to. -/
def ipAddrWidth (text : String) : Option Nat :=
  match readIpv4 text.toList with
  | some [] => some 32
  | some _ => none
  | none => if readIpv6 text.toList = some [] then some 128 else none

/-- `str::parse::<u8>`. -/
def parseU8 (text : String) : Option Nat :=
  let digits :=
    match text.toList with
    | '+' :: rest => rest
    | characters => characters
  match readDigits 10 0 0 digits with
  | (count, value, rest) =>
      if 0 < count ∧ rest = [] ∧ value ≤ 255 then some value else none

example : ["127.0.0.1", "::", "fe80::1", "::ffff:10.0.0.1"].all isIpAddr := by
  decide

example : ["", "1.2.3", "01.2.3.4", "1.2.3.256", "1:2", "fe80::1%2"].all
    (fun text => !isIpAddr text) := by
  decide

end NetworkManager.Foundation
