import Mathlib.Algebra.Group.Nat.Defs
import NetworkManager.Foundation.IpAddr

/-!
# Reading an IP address

The address that `str::parse::<IpAddr>` makes of a text that it accepts.
-/

namespace NetworkManager.Foundation

/-- The octets of an IPv4 address that remain, behind those of `value`. -/
def takeOctets :
    (remaining index value : Nat) → List Char → Option (Nat × List Char)
  | 0, _, value, input => some (value, input)
  | remaining + 1, index, value, input =>
      (readSeparator '.' index input).bind fun input =>
        (readNumber 10 3 false 255 input).bind fun (octet, input) =>
          takeOctets remaining (index + 1) (value * 256 + octet) input

def takeIpv4 (input : List Char) : Option (Nat × List Char) :=
  takeOctets 4 0 0 input

/-- `read_groups`, with what the groups are worth behind those of `value`. -/
def takeGroups : (remaining index value : Nat) → List Char →
    Nat × Nat × Bool × List Char
  | 0, index, value, input => (index, value, false, input)
  | remaining + 1, index, value, input =>
      let embedded :=
        if remaining = 0 then none
        else (readSeparator ':' index input).bind takeIpv4
      match embedded with
      | some (octets, rest) =>
          (index + 2, value * 65536 ^ 2 + octets, true, rest)
      | none =>
          match (readSeparator ':' index input).bind
              (readNumber 16 4 true 65535) with
          | some (group, rest) =>
              takeGroups remaining (index + 1) (value * 65536 + group) rest
          | none => (index, value, false, input)

/-- The groups behind `::` are the last ones of the address. -/
def takeIpv6 (input : List Char) : Option (Nat × List Char) :=
  match takeGroups 8 0 0 input with
  | (headSize, head, headIpv4, rest) =>
      if headSize = 8 then some (head, rest)
      else if headIpv4 then none
      else
        (readChar ':' rest).bind fun rest =>
          (readChar ':' rest).bind fun rest =>
            match takeGroups (7 - headSize) 0 0 rest with
            | (_, tail, _, rest) =>
                some (head * 65536 ^ (8 - headSize) + tail, rest)

/-- `str::parse::<IpAddr>`. -/
def parseIpAddr (text : String) : Option IpAddr :=
  match takeIpv4 text.toList with
  | some (value, []) => some (.v4 (BitVec.ofNat 32 value))
  | some _ => none
  | none =>
      match takeIpv6 text.toList with
      | some (value, []) => some (.v6 (BitVec.ofNat 128 value))
      | _ => none

def IpAddr.width : IpAddr → Nat
  | .v4 _ => 32
  | .v6 _ => 128

theorem takeOctets_rest (remaining index value : Nat) (input : List Char) :
    (takeOctets remaining index value input).map Prod.snd =
      readOctets remaining index input := by
  induction remaining generalizing index value input with
  | zero => rfl
  | succ remaining inductionHypothesis =>
      rw [takeOctets, readOctets, Option.map_bind]
      refine congrArg _ (funext fun input => ?_)
      rw [Function.comp_apply, Option.map_bind]
      refine congrArg _ (funext fun octet => ?_)
      exact inductionHypothesis (index + 1) _ _

theorem takeIpv4_rest (input : List Char) :
    (takeIpv4 input).map Prod.snd = readIpv4 input :=
  takeOctets_rest 4 0 0 input

theorem takeGroups_rest (remaining index value : Nat) (input : List Char) :
    ((takeGroups remaining index value input).1,
      (takeGroups remaining index value input).2.2) =
      readGroups remaining index input := by
  induction remaining generalizing index value input with
  | zero => rfl
  | succ remaining inductionHypothesis =>
      have sameEmbedded : (if remaining = 0 then none
          else (readSeparator ':' index input).bind readIpv4) =
        (if remaining = 0 then none
          else (readSeparator ':' index input).bind takeIpv4).map Prod.snd := by
        split
        · rfl
        · rw [Option.map_bind]
          exact congrArg _ (funext fun input => (takeIpv4_rest input).symm)
      rw [readGroups, takeGroups, sameEmbedded]
      generalize (if remaining = 0 then none
        else (readSeparator ':' index input).bind takeIpv4) = embedded
      cases embedded with
      | some octets => rfl
      | none =>
          cases (readSeparator ':' index input).bind
              (readNumber 16 4 true 65535) with
          | none => rfl
          | some group => exact inductionHypothesis (index + 1) _ _

theorem readIpv6_eq (input : List Char) :
    readIpv6 input =
      match readGroups 8 0 input with
      | (headSize, headIpv4, rest) =>
          if headSize = 8 then some rest
          else if headIpv4 then none
          else
            (readChar ':' rest).bind fun rest =>
              (readChar ':' rest).bind fun rest =>
                some (readGroups (7 - headSize) 0 rest).2.2 := by
  rw [readIpv6]
  obtain ⟨headSize, headIpv4, rest⟩ := readGroups 8 0 input
  by_cases isFull : headSize = 8
  · subst isFull
    rfl
  · cases headIpv4 with
    | true => simp [isFull]
    | false => simp [isFull]

theorem takeIpv6_rest (input : List Char) :
    (takeIpv6 input).map Prod.snd = readIpv6 input := by
  rw [takeIpv6, readIpv6_eq, ← takeGroups_rest 8 0 0 input]
  obtain ⟨headSize, head, headIpv4, rest⟩ := takeGroups 8 0 0 input
  dsimp only
  by_cases isFull : headSize = 8
  · rw [if_pos isFull, if_pos isFull]
    rfl
  · rw [if_neg isFull, if_neg isFull]
    cases headIpv4 with
    | true => rfl
    | false =>
        rw [if_neg Bool.false_ne_true, if_neg Bool.false_ne_true,
          Option.map_bind]
        refine congrArg _ (funext fun rest => ?_)
        rw [Function.comp_apply, Option.map_bind]
        refine congrArg _ (funext fun rest => ?_)
        rw [← takeGroups_rest (7 - headSize) 0 0 rest]
        rfl

/-- The address is of the family that its text is recognized as. -/
theorem width_parseIpAddr (text : String) :
    (parseIpAddr text).map IpAddr.width = ipAddrWidth text := by
  rw [parseIpAddr, ipAddrWidth, ← takeIpv4_rest, ← takeIpv6_rest]
  cases takeIpv4 text.toList with
  | some taken =>
      obtain ⟨value, rest⟩ := taken
      cases rest with
      | nil => rfl
      | cons first others => rfl
  | none =>
      cases takeIpv6 text.toList with
      | none => rfl
      | some taken =>
          obtain ⟨value, rest⟩ := taken
          cases rest with
          | nil => rfl
          | cons first others => rfl

example : ["10.0.0.1", "fe80::1", "::ffff:10.0.0.1"].map parseIpAddr =
    [some (.v4 0x0A000001), some (.v6 0xFE800000000000000000000000000001),
      some (.v6 0xFFFF0A000001)] := by
  decide

end NetworkManager.Foundation
