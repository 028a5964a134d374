import NetworkManager.Foundation.Bytes

/-!
# Time-based one-time passwords

A code is cut out of the HMAC of the number of a step of thirty seconds, and is
accepted in the step, in the one before it and in the one after it.  An index
outside of a digest would be a panic, which is no result here.
-/

namespace NetworkManager.Security.Totp

open NetworkManager.Foundation

inductive TotpError where
  | weakSecret
  | invalidTime
  | invalidRecoveryCodeCount
deriving DecidableEq, Repr

/-- HMAC takes keys of every length. -/
abbrev HmacSha1 := (key message : Bytes) → FixedBytes 20

def totpStepSeconds : Int := 30

def totpDigits : Nat := 6

/-- Four bytes of a digest, without the highest bit. -/
def binaryCode (first second third fourth : UInt8) : UInt32 :=
  (first.toUInt32 &&& 0x7f) <<< 24 ||| second.toUInt32 <<< 16 |||
    third.toUInt32 <<< 8 ||| fourth.toUInt32

/-- The part of `code_at` behind the digest. -/
def truncate (digest : FixedBytes 20) : Option UInt32 := do
  let last ← digest.bytes[19]?
  let offset := (last &&& 0x0f).toNat
  let first ← digest.bytes[offset]?
  let second ← digest.bytes[offset + 1]?
  let third ← digest.bytes[offset + 2]?
  let fourth ← digest.bytes[offset + 3]?
  some (binaryCode first second third fourth %
    UInt32.ofNat (10 ^ totpDigits))

def codeAt (hmacSha1 : HmacSha1) (secret : Bytes) (unixSeconds : Int) :
    Option (Except TotpError UInt32) :=
  if secret.length < 20 then
    some (.error .weakSecret)
  else if unixSeconds < 0 then
    some (.error .invalidTime)
  else
    let counter := (unixSeconds.tdiv totpStepSeconds % 2 ^ 64).toNat
    (truncate (hmacSha1 secret (toBeBytes 8 counter))).map .ok

/-- `format!("{:06}", value)`, with the width as a parameter. -/
def zeroPadded (width value : Nat) : String :=
  String.ofList (List.leftpad width '0' (Nat.toDigits 10 value))

/-- `u8::is_ascii_digit`. -/
def isAsciiDigit (byte : UInt8) : Bool := 48 ≤ byte && byte ≤ 57

/-- The loop of `verify_code` over the rest of the offsets. -/
def verifyAt (hmacSha1 : HmacSha1) (secret : Bytes) (code : String)
    (unixSeconds : Int) : List Int → Option (Except TotpError Bool)
  | [] => some (.ok false)
  | offset :: rest =>
      let candidateTime := saturatingAdd unixSeconds offset
      if candidateTime < 0 then
        verifyAt hmacSha1 secret code unixSeconds rest
      else
        match codeAt hmacSha1 secret candidateTime with
        | none => none
        | some (.error error) => some (.error error)
        | some (.ok value) =>
            if utf8Bytes (zeroPadded totpDigits value.toNat) =
                utf8Bytes code then
              some (.ok true)
            else
              verifyAt hmacSha1 secret code unixSeconds rest

def verifyCode (hmacSha1 : HmacSha1) (secret : Bytes) (code : String)
    (unixSeconds : Int) : Option (Except TotpError Bool) :=
  if code.utf8ByteSize ≠ totpDigits ∨
      (utf8Bytes code).all isAsciiDigit = false then
    some (.ok false)
  else
    verifyAt hmacSha1 secret code unixSeconds
      [-totpStepSeconds, 0, totpStepSeconds]

/-- Dynamic truncation: the last 31 bits of four bytes, from where the last
four bits of the digest say. -/
def dynamicTruncation (digest : FixedBytes 20) : Nat :=
  let offset := ofBeBytes digest.bytes % 16
  ofBeBytes ((digest.bytes.drop offset).take 4) % 2 ^ 31

/-- The number is the code of a step: it is cut out of the HMAC of the eight
bytes of the step. -/
def IsCodeOf (hmacSha1 : HmacSha1) (secret : Bytes) (step value : Nat) :
    Prop :=
  ∃ message, message.length = 8 ∧ ofBeBytes message = step ∧
    value = dynamicTruncation (hmacSha1 secret message) % 10 ^ totpDigits

/-- Six digits of ASCII. -/
def SixDigits (code : String) : Prop :=
  code.toList.length = 6 ∧ ∀ digit ∈ code.toList, '0' ≤ digit ∧ digit ≤ '9'

/-- A step is the current one or next to it. -/
def Near (step now : Nat) : Prop :=
  step + 1 = now ∨ step = now ∨ step = now + 1

/-- Bits that are shifted above a number are added to it. -/
theorem shiftLeft_or {high low width : Nat} (small : low < 2 ^ width) :
    high <<< width ||| low = high * 2 ^ width + low := by
  rw [← Nat.shiftLeft_add_eq_or_of_lt small, Nat.shiftLeft_eq]

/-- A shift that loses no bit. -/
theorem toNat_shiftLeft_of_fits {word count : UInt32}
    (below : count.toNat < 32) (fits : word.toNat * 2 ^ count.toNat < 2 ^ 32) :
    (word <<< count).toNat = word.toNat <<< count.toNat := by
  rw [UInt32.toNat_shiftLeft, Nat.mod_eq_of_lt below, Nat.shiftLeft_eq,
    Nat.mod_eq_of_lt fits]

private theorem toNat_binaryCode (first second third fourth : UInt8) :
    (binaryCode first second third fourth).toNat =
      ofBeBytes [first, second, third, fourth] % 2 ^ 31 := by
  have secondSmall := second.toNat_lt
  have thirdSmall := third.toNat_lt
  have fourthSmall := fourth.toNat_lt
  have masked : (first.toUInt32 &&& 0x7f).toNat = first.toNat % 128 :=
    Nat.and_two_pow_sub_one_eq_mod first.toNat 7
  have firstBits : ((first.toUInt32 &&& 0x7f) <<< 24).toNat =
      (first.toNat % 128) <<< 24 := by
    have fits : first.toNat % 128 * 2 ^ 24 < 2 ^ 32 := by omega
    rw [← masked] at fits ⊢
    exact toNat_shiftLeft_of_fits (by decide) fits
  have secondBits : (second.toUInt32 <<< 16).toNat = second.toNat <<< 16 := by
    have fits : second.toNat * 2 ^ 16 < 2 ^ 32 := by omega
    rw [← UInt8.toNat_toUInt32] at fits ⊢
    exact toNat_shiftLeft_of_fits (by decide) fits
  have thirdBits : (third.toUInt32 <<< 8).toNat = third.toNat <<< 8 := by
    have fits : third.toNat * 2 ^ 8 < 2 ^ 32 := by omega
    rw [← UInt8.toNat_toUInt32] at fits ⊢
    exact toNat_shiftLeft_of_fits (by decide) fits
  have lower : third.toNat <<< 8 ||| fourth.toNat =
      third.toNat * 2 ^ 8 + fourth.toNat :=
    shiftLeft_or fourthSmall
  have middle : second.toNat <<< 16 ||| third.toNat * 2 ^ 8 + fourth.toNat =
      second.toNat * 2 ^ 16 + (third.toNat * 2 ^ 8 + fourth.toNat) :=
    shiftLeft_or (by omega)
  calc (binaryCode first second third fourth).toNat
    _ = (first.toNat % 128) <<< 24 ||| second.toNat <<< 16 |||
          third.toNat <<< 8 ||| fourth.toNat := by
        rw [binaryCode, UInt32.toNat_or, UInt32.toNat_or, UInt32.toNat_or,
          firstBits, secondBits, thirdBits, UInt8.toNat_toUInt32]
    _ = (first.toNat % 128) * 2 ^ 24 + (second.toNat * 2 ^ 16 +
          (third.toNat * 2 ^ 8 + fourth.toNat)) := by
        rw [Nat.or_assoc, Nat.or_assoc, lower, middle]
        exact shiftLeft_or (by omega)
    _ = ofBeBytes [first, second, third, fourth] % 2 ^ 31 := by
        simp only [ofBeBytes, List.foldl_cons, List.foldl_nil]
        omega

/-- The last four bits of a digest are those of its last byte. -/
theorem last_and_mod (digest : FixedBytes 20) :
    ∃ last, digest.bytes[19]? = some last ∧
      (last &&& 0x0f).toNat = ofBeBytes digest.bytes % 16 := by
  obtain ⟨front, last, isDigest⟩ : ∃ front last,
      digest.bytes = front ++ [last] := by
    have filled : digest.bytes ≠ [] := by
      intro isEmpty
      have sized := digest.sized
      rw [isEmpty] at sized
      contradiction
    exact ⟨digest.bytes.dropLast, digest.bytes.getLast filled,
      (List.dropLast_concat_getLast filled).symm⟩
  have sized := digest.sized
  rw [isDigest, List.length_append, List.length_singleton] at sized
  refine ⟨last, ?_, ?_⟩
  · rw [isDigest, List.getElem?_append_right (by omega),
      show 19 - front.length = 0 by omega]
    rfl
  · rw [isDigest, ofBeBytes_concat, UInt8.toNat_and]
    have masked : last.toNat &&& 15 = last.toNat % 16 :=
      Nat.and_two_pow_sub_one_eq_mod last.toNat 4
    exact masked.trans (by omega)

/-- Four bytes of a list, from a place on. -/
theorem take_four_of_drop {bytes : Bytes} {offset : Nat}
    (inside : offset + 3 < bytes.length) :
    ∃ first second third fourth,
      bytes[offset]? = some first ∧ bytes[offset + 1]? = some second ∧
      bytes[offset + 2]? = some third ∧ bytes[offset + 3]? = some fourth ∧
      (bytes.drop offset).take 4 = [first, second, third, fourth] := by
  refine ⟨bytes[offset], bytes[offset + 1], bytes[offset + 2],
    bytes[offset + 3], List.getElem?_eq_getElem _,
    List.getElem?_eq_getElem _, List.getElem?_eq_getElem _,
    List.getElem?_eq_getElem _, ?_⟩
  rw [List.drop_eq_getElem_cons, List.drop_eq_getElem_cons,
    List.drop_eq_getElem_cons, List.drop_eq_getElem_cons inside]
  rfl

/-- No index is outside of the digest. -/
theorem truncate_eq (digest : FixedBytes 20) :
    ∃ value, truncate digest = some value ∧
      value.toNat = dynamicTruncation digest % 10 ^ totpDigits := by
  obtain ⟨last, isLast, isOffset⟩ := last_and_mod digest
  have inside : ofBeBytes digest.bytes % 16 + 3 < digest.bytes.length := by
    rw [digest.sized]
    omega
  obtain ⟨first, second, third, fourth, isFirst, isSecond, isThird, isFourth,
    four⟩ := take_four_of_drop inside
  refine ⟨binaryCode first second third fourth %
    UInt32.ofNat (10 ^ totpDigits), ?_, ?_⟩
  · simp only [truncate, isLast, isOffset, isFirst, isSecond, isThird,
      isFourth, Option.bind_eq_bind, Option.bind_some]
  · rw [UInt32.toNat_mod, toNat_binaryCode, dynamicTruncation, four]
    rfl

section Codes

variable {hmacSha1 : HmacSha1} {secret : Bytes}

/-- The code of a step. -/
def codeOf (hmacSha1 : HmacSha1) (secret : Bytes) (step : Nat) : Nat :=
  dynamicTruncation (hmacSha1 secret (toBeBytes 8 step)) % 10 ^ totpDigits

private theorem codeOf_lt
    (step : Nat) : codeOf hmacSha1 secret step < 1000000 :=
  Nat.mod_lt _ (by decide)

/-- A step has one code. -/
theorem isCodeOf_iff {step value : Nat} (small : step < 2 ^ 64) :
    IsCodeOf hmacSha1 secret step value ↔
      value = codeOf hmacSha1 secret step := by
  constructor
  · rintro ⟨message, sized, isStep, isValue⟩
    have isMessage := toBeBytes_ofBeBytes message
    rw [sized, isStep] at isMessage
    rw [isValue, codeOf, isMessage]
  · rintro rfl
    exact ⟨toBeBytes 8 step, length_toBeBytes 8 step,
      ofBeBytes_toBeBytes small, rfl⟩

private theorem codeAt_eq (hmacSha1 : HmacSha1) (strong : 20 ≤ secret.length)
    {unixSeconds : Int} (started : 0 ≤ unixSeconds) (isI64 : IsI64 unixSeconds) :
    ∃ value, codeAt hmacSha1 secret unixSeconds = some (.ok value) ∧
      value.toNat = codeOf hmacSha1 secret (unixSeconds / 30).toNat := by
  have counter : (unixSeconds.tdiv totpStepSeconds % 2 ^ 64).toNat =
      (unixSeconds / 30).toNat := by
    have below := isI64.2
    rw [totpStepSeconds, Int.tdiv_eq_ediv_of_nonneg started,
      Int.emod_eq_of_lt (by omega) (by omega)]
  obtain ⟨value, cut, isCode⟩ :=
    truncate_eq (hmacSha1 secret (toBeBytes 8 (unixSeconds / 30).toNat))
  refine ⟨value, ?_, isCode⟩
  simp only [codeAt, if_neg (Nat.not_lt.mpr strong),
    if_neg (Int.not_lt.mpr started), counter, cut, Option.map_some]

end Codes

/-! ## Padded codes -/

private theorem zeroPadded_digits (width value : Nat) :
    ∀ digit ∈ (zeroPadded width value).toList,
      '0' ≤ digit ∧ digit ≤ '9' := by
  intro digit member
  rw [zeroPadded, String.toList_ofList, List.leftpad, List.mem_append]
    at member
  rcases member with padding | written
  · rw [List.eq_of_mem_replicate padding]
    decide
  · have isDigit : digit.isDigit :=
      Nat.isDigit_of_mem_toDigits (by decide) (by decide) written
    simpa [Char.isDigit, Char.le_def] using isDigit

/-- A number that is small enough fills its width. -/
theorem length_zeroPadded {width value : Nat} (positive : 0 < width)
    (small : value < 10 ^ width) :
    (zeroPadded width value).toList.length = width := by
  have short : (Nat.toDigits 10 value).length ≤ width :=
    (Nat.length_toDigits_le_iff (by decide) positive).mpr small
  rw [zeroPadded, String.toList_ofList, List.length_leftpad,
    Nat.max_eq_left short]

private theorem sixDigits_zeroPadded {value : Nat} (small : value < 1000000) :
    SixDigits (zeroPadded totpDigits value) :=
  ⟨length_zeroPadded (by decide) small, zeroPadded_digits totpDigits value⟩

private theorem isAsciiDigit_of_digit {digit : Char} (above : '0' ≤ digit)
    (below : digit ≤ '9') : isAsciiDigit digit.val.toUInt8 = true := by
  have aboveNat : 48 ≤ digit.val.toNat := above
  have belowNat : digit.val.toNat ≤ 57 := below
  rw [isAsciiDigit, Bool.and_eq_true, decide_eq_true_iff,
    decide_eq_true_iff, UInt8.le_iff_toNat_le, UInt8.le_iff_toNat_le,
    UInt32.toNat_toUInt8, Nat.mod_eq_of_lt (by omega)]
  exact ⟨aboveNat, belowNat⟩

/-- Six digits pass the check before the loop. -/
theorem SixDigits.passes {code : String} (six : SixDigits code) :
    code.utf8ByteSize = totpDigits ∧
      (utf8Bytes code).all isAsciiDigit = true := by
  obtain ⟨six, digits⟩ := six
  have ascii : ∀ digit ∈ code.toList, digit.val ≤ 127 := by
    intro digit member
    exact UInt32.le_trans (digits digit member).2 (by decide)
  have isBytes := utf8Bytes_ofList_of_ascii ascii
  rw [String.ofList_toList] at isBytes
  constructor
  · have sized : (utf8Bytes code).length = code.utf8ByteSize := by
      simp [utf8Bytes]
    rw [← sized, isBytes, List.length_map]
    exact six
  · rw [isBytes, List.all_map, List.all_eq_true]
    intro digit member
    obtain ⟨above, below⟩ := digits digit member
    exact isAsciiDigit_of_digit above below

section Verifying

variable {hmacSha1 : HmacSha1} {secret : Bytes} {code : String}
  {unixSeconds : Int}

/-- The loop finds a code of a time that it tries. -/
theorem verifyAt_eq (hmacSha1 : HmacSha1) (code : String)
    (strong : 20 ≤ secret.length) {offsets : List Int}
    (isI64 : ∀ offset ∈ offsets, IsI64 (unixSeconds + offset)) :
    ∃ verdict, verifyAt hmacSha1 secret code unixSeconds offsets =
        some (.ok verdict) ∧
      (verdict = true ↔ ∃ offset ∈ offsets, 0 ≤ unixSeconds + offset ∧
        code = zeroPadded totpDigits
          (codeOf hmacSha1 secret ((unixSeconds + offset) / 30).toNat)) := by
  induction offsets with
  | nil =>
      refine ⟨false, rfl, iff_of_false Bool.false_ne_true ?_⟩
      rintro ⟨offset, member, _⟩
      exact absurd member List.not_mem_nil
  | cons offset rest inductionHypothesis =>
      obtain ⟨isI64, restI64⟩ := List.forall_mem_cons.mp isI64
      obtain ⟨verdict, verified, isVerdict⟩ := inductionHypothesis restI64
      simp only [verifyAt, saturatingAdd_eq isI64]
      by_cases started : unixSeconds + offset < 0
      · rw [if_pos started]
        refine ⟨verdict, verified, isVerdict.trans ?_⟩
        rw [List.exists_mem_cons_iff]
        refine (or_iff_right ?_).symm
        rintro ⟨notStarted, _⟩
        omega
      · obtain ⟨value, isCode, isValue⟩ :=
          codeAt_eq hmacSha1 strong (Int.not_lt.mp started) isI64
        rw [if_neg started, isCode]
        dsimp only
        rw [isValue]
        by_cases same : utf8Bytes (zeroPadded totpDigits (codeOf hmacSha1
            secret ((unixSeconds + offset) / 30).toNat)) = utf8Bytes code
        · rw [if_pos same]
          exact ⟨true, rfl, iff_of_true rfl ⟨offset, List.mem_cons_self,
            Int.not_lt.mp started, (utf8Bytes_injective same).symm⟩⟩
        · rw [if_neg same]
          refine ⟨verdict, verified, isVerdict.trans ?_⟩
          rw [List.exists_mem_cons_iff]
          refine (or_iff_right ?_).symm
          rintro ⟨_, isCodeText⟩
          exact same (congrArg utf8Bytes isCodeText.symm)

private theorem mem_offsets {offset : Int} :
    offset ∈ [-totpStepSeconds, 0, totpStepSeconds] ↔
      offset = -30 ∨ offset = 0 ∨ offset = 30 := by
  simp [totpStepSeconds]

/-- The times that are tried are those of the steps near the current one. -/
theorem exists_offset_iff (started : 0 ≤ unixSeconds) (accepts : Nat → Prop) :
    (∃ offset ∈ [-totpStepSeconds, 0, totpStepSeconds],
      0 ≤ unixSeconds + offset ∧
        accepts ((unixSeconds + offset) / 30).toNat) ↔
      ∃ step, Near step (unixSeconds / 30).toNat ∧ accepts step := by
  constructor
  · rintro ⟨offset, member, notNegative, isAccepted⟩
    refine ⟨_, ?_, isAccepted⟩
    rcases mem_offsets.mp member with rfl | rfl | rfl
    · left
      omega
    · right
      left
      omega
    · right
      right
      omega
  · rintro ⟨step, near, isAccepted⟩
    obtain ⟨offset, member, notNegative, isStep⟩ : ∃ offset : Int,
        (offset = -30 ∨ offset = 0 ∨ offset = 30) ∧
          0 ≤ unixSeconds + offset ∧
          ((unixSeconds + offset) / 30).toNat = step := by
      rcases near with before | same | after
      · exact ⟨-30, by omega, by omega, by omega⟩
      · exact ⟨0, by omega, by omega, by omega⟩
      · exact ⟨30, by omega, by omega, by omega⟩
    rw [← isStep] at isAccepted
    exact ⟨offset, mem_offsets.mpr member, notNegative, isAccepted⟩

/-- What is verified is the code of a near step. -/
theorem verifyCode_eq (hmacSha1 : HmacSha1) (code : String)
    (strong : 20 ≤ secret.length) (started : 0 ≤ unixSeconds)
    (isI64 : IsI64 (unixSeconds + 30)) :
    ∃ verdict, verifyCode hmacSha1 secret code unixSeconds =
        some (.ok verdict) ∧
      (verdict = true ↔ ∃ step, Near step (unixSeconds / 30).toNat ∧
        code = zeroPadded totpDigits (codeOf hmacSha1 secret step)) := by
  have below := isI64.2
  have tried : ∀ offset ∈ [-totpStepSeconds, 0, totpStepSeconds],
      IsI64 (unixSeconds + offset) := by
    intro offset member
    rcases mem_offsets.mp member with rfl | rfl | rfl
    · exact ⟨by omega, by omega⟩
    · exact ⟨by omega, by omega⟩
    · exact isI64
  obtain ⟨verdict, verified, isVerdict⟩ :=
    verifyAt_eq hmacSha1 code strong tried
  rw [exists_offset_iff started fun step =>
    code = zeroPadded totpDigits (codeOf hmacSha1 secret step)] at isVerdict
  by_cases checked : code.utf8ByteSize ≠ totpDigits ∨
      (utf8Bytes code).all isAsciiDigit = false
  · refine ⟨false, by rw [verifyCode, if_pos checked],
      iff_of_false Bool.false_ne_true ?_⟩
    rintro ⟨step, _, rfl⟩
    obtain ⟨sized, digits⟩ := (sixDigits_zeroPadded (codeOf_lt step)).passes
    rcases checked with otherSize | otherBytes
    · exact otherSize sized
    · exact absurd digits (by rw [otherBytes]; decide)
  · exact ⟨verdict, by rw [verifyCode, if_neg checked, verified], isVerdict⟩

/-- From the start of time to the last step, a code is that of the step, no
index is outside of the digest, and what is verified is the padded code of the
step or of one next to it, and nothing else. -/
theorem totpWindow (hmacSha1 : HmacSha1) (strong : 20 ≤ secret.length)
    (started : 0 ≤ unixSeconds) (isI64 : IsI64 (unixSeconds + 30))
    (code : String) :
    (∃ value, codeAt hmacSha1 secret unixSeconds = some (.ok value) ∧
      IsCodeOf hmacSha1 secret (unixSeconds / 30).toNat value.toNat ∧
      value.toNat < 1000000) ∧
    ∃ verdict, verifyCode hmacSha1 secret code unixSeconds =
        some (.ok verdict) ∧
      (verdict = true ↔ SixDigits code ∧
        ∃ step value, Near step (unixSeconds / 30).toNat ∧
          IsCodeOf hmacSha1 secret step value ∧
          code = zeroPadded totpDigits value) := by
  have below := isI64.2
  have codes {step value : Nat} (near : Near step (unixSeconds / 30).toNat) :
      IsCodeOf hmacSha1 secret step value ↔
        value = codeOf hmacSha1 secret step := by
    apply isCodeOf_iff
    rcases near with before | same | after <;> omega
  constructor
  · obtain ⟨value, isCode, isValue⟩ :=
      codeAt_eq hmacSha1 strong started ⟨by omega, by omega⟩
    refine ⟨value, isCode, (codes (.inr (.inl rfl))).mpr isValue, ?_⟩
    rw [isValue]
    exact codeOf_lt _
  · obtain ⟨verdict, verified, isVerdict⟩ :=
      verifyCode_eq hmacSha1 code strong started isI64
    refine ⟨verdict, verified, isVerdict.trans ?_⟩
    constructor
    · rintro ⟨step, near, rfl⟩
      exact ⟨sixDigits_zeroPadded (codeOf_lt step), step, _, near,
        (codes near).mpr rfl, rfl⟩
    · rintro ⟨_, step, value, near, isCode, isText⟩
      rw [(codes near).mp isCode] at isText
      exact ⟨step, near, isText⟩

end Verifying

namespace Sample

/-- The bytes of a number, as many as a digest has. -/
def digest (value : Nat) : FixedBytes 20 :=
  ⟨toBeBytes 20 value, length_toBeBytes 20 value⟩

/-- `12345678901234567890`. -/
def secret : Bytes :=
  [49, 50, 51, 52, 53, 54, 55, 56, 57, 48, 49, 50, 51, 52, 53, 54, 55, 56, 57,
    48]

/-- HMAC-SHA1 of the first steps under the secret. -/
def hmacSha1 : HmacSha1 := fun _ message =>
  if message = toBeBytes 8 0 then
    digest 0xcc93cf18508d94934c64b65d8ba7667fb7cde4b0
  else if message = toBeBytes 8 1 then
    digest 0x75a48a19d4cbe100644e8ac1397eea747a2d33ab
  else if message = toBeBytes 8 2 then
    digest 0x0bacb7fa082fef30782211938bc1c5e70416ff44
  else
    digest 0x66c28227d03a2d5529262ff016a1e6ef76557ece

end Sample

example : codeAt Sample.hmacSha1 Sample.secret 59 = some (.ok 287082) := by
  rfl

/-- A code is verified a step later. -/
theorem totpWindow_later :
    (∃ value, codeAt Sample.hmacSha1 Sample.secret 89 = some (.ok value) ∧
      value.toNat < 1000000) ∧
    verifyCode Sample.hmacSha1 Sample.secret "287082" 89 =
      some (.ok true) := by
  have strong : 20 ≤ Sample.secret.length := by decide
  have started : (0 : Int) ≤ 89 := by decide
  have isI64 : IsI64 (89 + 30) := by decide
  obtain ⟨⟨value, isCode, _, small⟩, verdict, verified, isVerdict⟩ :=
    totpWindow Sample.hmacSha1 strong started isI64 "287082"
  have isTrue : verdict = true := by
    have isText : "287082" = zeroPadded totpDigits 287082 := by decide
    have six : SixDigits "287082" := by
      rw [isText]
      exact sixDigits_zeroPadded (by decide)
    exact isVerdict.mpr ⟨six, 1, 287082, .inl rfl,
      ⟨toBeBytes 8 1, by decide, by decide, by decide⟩, isText⟩
  rw [isTrue] at verified
  exact ⟨⟨value, isCode, small⟩, verified⟩

end NetworkManager.Security.Totp
