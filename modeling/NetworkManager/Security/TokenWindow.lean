import NetworkManager.Security.TokenRoundTrip

/-!
# The window in which an access token is accepted

What a token presents does not depend on the time.  It is accepted while its
claims are current, which is an interval of less than 960 seconds, also where
the sums of the checks saturate.
-/

namespace NetworkManager.Security.Token

open NetworkManager.Foundation

/-- The bounds between the times of claims. -/
structure AccessClaims.Bounded (claims : AccessClaims) : Prop where
  issued : 0 ≤ claims.iat
  ends : claims.iat < claims.exp
  short : claims.exp ≤ claims.iat + 900
  notEarly : claims.iat - 60 ≤ claims.nbf
  begins : claims.nbf < claims.exp

/-- The claims can be used now, by a clock that is at most a minute behind. -/
structure AccessClaims.Current (claims : AccessClaims) (now : Int) :
    Prop where
  live : now < claims.exp
  begun : claims.nbf ≤ now + 60
  known : claims.iat ≤ now + 60

/-- The token has three parts, and the code of the first two is the third. -/
def Signed (library : TokenLibrary) (key : AccessTokenKey) (token : String) :
    Prop :=
  ∃ header claims signature,
    splitDots token = [header, claims, signature] ∧
    library.base64Decode signature = some (library.hmacSha256 key.bytes
      (utf8Bytes (header ++ "." ++ claims))).bytes

/-- The token presents claims of this issuer for this audience. -/
structure Presents (library : TokenLibrary) (key : AccessTokenKey)
    (issuer audience token : String) (claims : AccessClaims) : Prop where
  small : token.utf8ByteSize ≤ 16384
  isSigned : Signed library key token
  readsHeader : ∃ header rest bytes, splitDots token = header :: rest ∧
    library.base64Decode header = some bytes ∧
    library.headerFromSlice bytes = some ⟨"HS256", "JWT"⟩
  readsClaims : ∃ header payload rest bytes,
    splitDots token = header :: payload :: rest ∧
    library.base64Decode payload = some bytes ∧
    library.claimsFromSlice bytes = some claims
  issuer_eq : claims.iss = issuer
  audience_eq : claims.aud = audience
  lifetime : validateClaimLifetime claims = .ok ()

section Claims

variable {claims : AccessClaims} {now : Int}

private theorem validateClaimLifetime_eq_ok_iff :
    validateClaimLifetime claims = .ok () ↔
      ¬(claims.iat < 0 ∨
        claims.nbf < saturatingSub claims.iat accessTokenClockSkewSeconds ∨
        claims.exp ≤ claims.nbf ∨ claims.exp ≤ claims.iat ∨
        accessTokenMaxLifetimeSeconds <
          saturatingSub claims.exp claims.iat) := by
  rw [validateClaimLifetime]
  split
  · rename_i invalid
    exact iff_of_false (by simp) (not_not_intro invalid)
  · rename_i valid
    exact iff_of_true rfl valid

/-- Claims of type `i64` have a valid lifetime if and only if they are bounded:
no difference that matters saturates. -/
theorem validateClaimLifetime_eq_ok_iff_bounded (issued : IsI64 claims.iat) :
    validateClaimLifetime claims = .ok () ↔ claims.Bounded := by
  obtain ⟨above, below⟩ := issued
  rw [validateClaimLifetime_eq_ok_iff, saturatingSub, saturatingSub,
    accessTokenClockSkewSeconds, accessTokenMaxLifetimeSeconds]
  constructor
  · intro valid
    exact ⟨by omega, by omega, by omega, by omega, by omega⟩
  · rintro ⟨issued, ends, short, notEarly, begins⟩
    omega

/-- The times that the decoder compares with the clock. -/
def Timely (claims : AccessClaims) (now : Int) : Prop :=
  ¬(claims.exp ≤ now ∨
    saturatingAdd now accessTokenClockSkewSeconds < claims.nbf ∨
    saturatingAdd now accessTokenClockSkewSeconds < claims.iat)

/-- Saturation admits no claims that are not current. -/
theorem Timely.current (clock : IsI64 now) (timely : Timely claims now) :
    claims.Current now := by
  obtain ⟨above, below⟩ := clock
  have added : saturatingAdd now accessTokenClockSkewSeconds ≤ now + 60 := by
    apply saturatingAdd_le
    rw [accessTokenClockSkewSeconds]
    omega
  rw [Timely] at timely
  exact ⟨by omega, by omega, by omega⟩

/-- What is issued up to the last second of the clock is of type `i64`. -/
theorem Timely.issued_isI64 (bounded : 0 ≤ claims.iat)
    (timely : Timely claims now) : IsI64 claims.iat := by
  rw [Timely, saturatingAdd] at timely
  rw [IsI64]
  omega

private theorem Timely.bounded (valid : validateClaimLifetime claims = .ok ())
    (timely : Timely claims now) : claims.Bounded := by
  have checks := validateClaimLifetime_eq_ok_iff.mp valid
  have issued := timely.issued_isI64 (Int.not_lt.mp (not_or.mp checks).1)
  exact (validateClaimLifetime_eq_ok_iff_bounded issued).mp valid

/-- Between two times at which claims are timely, they are timely. -/
theorem Timely.between {first later : Int} (timely : Timely claims first)
    (live : Timely claims later) (after : first ≤ now) (before : now ≤ later) :
    Timely claims now := by
  rw [Timely, saturatingAdd] at timely live ⊢
  omega

/-- Claims are current for less than 960 seconds. -/
theorem AccessClaims.Current.lt {first later : Int} (bounded : claims.Bounded)
    (current : claims.Current first) (live : claims.Current later) :
    later - first < 960 := by
  have ended := live.live
  have short := bounded.short
  have known := current.known
  omega

end Claims

section Token

variable {library : TokenLibrary} {key : AccessTokenKey}
  {issuer audience token : String} {claims : AccessClaims} {now : Int}

private theorem bind_eq_ok_iff {ε α β : Type} {first : Except ε α}
    {next : α → Except ε β} {value : β} :
    (first >>= next) = .ok value ↔
      ∃ middle, first = .ok middle ∧ next middle = .ok value := by
  cases first with
  | error failure => simp [bind, Except.bind]
  | ok middle => simp [bind, Except.bind]

private theorem elim_eq_ok_iff {ε α : Type} {found : Option α} {failure : ε}
    {value : α} :
    found.elim (.error failure) .ok = Except.ok value ↔
      found = some value := by
  cases found with
  | none => simp
  | some other => simp

/-- A check that throws lets a run go on if and only if it does not hold. -/
theorem guard_eq_ok_iff {ε α : Type} {fails : Prop} [Decidable fails]
    {failure : ε} {stopped : PUnit → Except ε α} {next : Except ε α}
    {value : α} :
    (if fails then throw failure >>= stopped else next) = .ok value ↔
      ¬fails ∧ next = .ok value := by
  by_cases failing : fails
  · simp [failing, throw, throwThe, MonadExceptOf.throw, bind, Except.bind]
  · simp [failing]

/-- The decoder accepts what a token presents, while it is timely. -/
theorem decodeAccessToken_eq_ok_iff :
    decodeAccessToken library token key now issuer audience = .ok claims ↔
      Presents library key issuer audience token claims ∧
        Timely claims now := by
  rw [decodeAccessToken]
  by_cases large : 16384 < token.utf8ByteSize
  · rw [if_pos large]
    refine iff_of_false (by simp) ?_
    intro accepted
    exact absurd accepted.1.small (Nat.not_le.mpr large)
  · rw [if_neg large]
    split
    · rename_i header payload signature parts
      simp only [bind_eq_ok_iff, guard_eq_ok_iff, decodeBase64, elim_eq_ok_iff]
      constructor
      · rintro ⟨_, readsSignature, coded, headerBytes, readsHeader, readHeader,
          isHeader, known, payloadBytes, readsPayload, readClaims, isClaims,
          inContext, _, valid, timely, returned⟩
        cases returned
        obtain ⟨algorithm, type⟩ := not_or.mp known
        obtain ⟨issuerEq, audienceEq⟩ := not_or.mp inContext
        cases readHeader
        cases not_not.mp algorithm
        cases not_not.mp type
        rw [← not_not.mp coded] at readsSignature
        refine ⟨?_, timely⟩
        exact
          { small := Nat.not_lt.mp large
            isSigned := ⟨header, payload, signature, parts, readsSignature⟩
            readsHeader := ⟨header, _, headerBytes, parts, readsHeader, isHeader⟩
            readsClaims :=
              ⟨header, payload, _, payloadBytes, parts, readsPayload, isClaims⟩
            issuer_eq := not_not.mp issuerEq
            audience_eq := not_not.mp audienceEq
            lifetime := valid }
      · rintro ⟨⟨small, isSigned, readsHeader, readsClaims, issuerEq, audienceEq,
          valid⟩, timely⟩
        obtain ⟨_, _, _, split, readsSignature⟩ := isSigned
        cases parts.symm.trans split
        obtain ⟨_, _, headerBytes, split, readsHeader, isHeader⟩ := readsHeader
        cases parts.symm.trans split
        obtain ⟨_, _, _, payloadBytes, split, readsPayload, isClaims⟩ :=
          readsClaims
        cases parts.symm.trans split
        exact ⟨_, readsSignature, not_not_intro rfl, headerBytes, readsHeader, _,
          isHeader, by simp, payloadBytes, readsPayload, claims, isClaims,
          by simp [issuerEq, audienceEq], (), valid, timely, rfl⟩
    · rename_i notThree
      refine iff_of_false (by simp) ?_
      rintro ⟨presents, _⟩
      obtain ⟨header, payload, signature, parts, _⟩ := presents.isSigned
      exact notThree header payload signature parts

/-- A token presents the same claims whenever it is read. -/
theorem Presents.unique {other : AccessClaims}
    (presents : Presents library key issuer audience token claims)
    (presentsOther : Presents library key issuer audience token other) :
    claims = other := by
  obtain ⟨_, _, _, _, parts, reads, isClaims⟩ := presents.readsClaims
  obtain ⟨_, _, _, _, otherParts, readsOther, isOther⟩ :=
    presentsOther.readsClaims
  cases parts.symm.trans otherParts
  cases reads.symm.trans readsOther
  exact Option.some.inj (isClaims.symm.trans isOther)

/-- What is accepted is signed, bounded and current: no sum of the checks
widens the window by saturating. -/
theorem decodeAccessToken_sound (clock : IsI64 now)
    (accepted : decodeAccessToken library token key now issuer audience =
      .ok claims) :
    Signed library key token ∧ claims.Bounded ∧ claims.Current now := by
  obtain ⟨presents, timely⟩ := decodeAccessToken_eq_ok_iff.mp accepted
  exact ⟨presents.isSigned, timely.bounded presents.lifetime,
    timely.current clock⟩

/-- Between two times at which a token is accepted it is accepted, with the
same claims; the two times are less than 960 seconds apart. -/
theorem decodeAccessToken_between {first middle last : Int}
    {lastClaims : AccessClaims} (clock : IsI64 first)
    (after : first ≤ middle) (before : middle ≤ last)
    (acceptedFirst : decodeAccessToken library token key first issuer audience =
      .ok claims)
    (acceptedLast : decodeAccessToken library token key last issuer audience =
      .ok lastClaims) (lastClock : IsI64 last) :
    lastClaims = claims ∧
    decodeAccessToken library token key middle issuer audience = .ok claims ∧
    last - first < 960 := by
  obtain ⟨presents, timely⟩ := decodeAccessToken_eq_ok_iff.mp acceptedFirst
  obtain ⟨presentsLast, timelyLast⟩ :=
    decodeAccessToken_eq_ok_iff.mp acceptedLast
  cases presentsLast.unique presents
  have acceptedMiddle : decodeAccessToken library token key middle issuer
      audience = .ok claims :=
    decodeAccessToken_eq_ok_iff.mpr
      ⟨presents, timely.between timelyLast after before⟩
  have bounded := timely.bounded presents.lifetime
  have apart : last - first < 960 :=
    (timely.current clock).lt bounded (timelyLast.current lastClock)
  exact ⟨rfl, acceptedMiddle, apart⟩

/-- Each token has one window of less than 960 seconds, in which its claims stay
the same; and what is accepted is signed, bounded and current. -/
theorem accessTokenWindow (library : TokenLibrary) (key : AccessTokenKey)
    (issuer audience token : String) :
    (∀ (first middle last : Int) (claims lastClaims : AccessClaims),
      IsI64 first → IsI64 last → first ≤ middle → middle ≤ last →
      decodeAccessToken library token key first issuer audience = .ok claims →
      decodeAccessToken library token key last issuer audience =
        .ok lastClaims →
      lastClaims = claims ∧
      decodeAccessToken library token key middle issuer audience =
        .ok claims ∧
      last - first < 960) ∧
    ∀ (now : Int) (claims : AccessClaims), IsI64 now →
      decodeAccessToken library token key now issuer audience = .ok claims →
      Signed library key token ∧ claims.Bounded ∧ claims.Current now := by
  constructor
  · intro first middle last claims lastClaims clock lastClock after before
      acceptedFirst acceptedLast
    exact decodeAccessToken_between clock after before acceptedFirst
      acceptedLast lastClock
  · intro now claims clock accepted
    exact decodeAccessToken_sound clock accepted

end Token

/-- The token with one short scope is accepted from a minute before it is issued
until it ends. -/
theorem Sample.accepted {now : Int} (after : 940 ≤ now) (before : now < 1600) :
    decodeAccessToken (libraryOf "devices.view" shortMac)
      (tokenOf "devices.view" shortMac) key now "snm" "snm-api" =
        .ok (claimsOf "devices.view") := by
  have issued : (claimsOf "devices.view").iat = 1000 := rfl
  have begun : (claimsOf "devices.view").nbf = 1000 := rfl
  have isLawful := lawful_libraryOf "devices.view" shortMac
  have hasHeader : (libraryOf "devices.view" shortMac).headerToVec
      ⟨"HS256", "JWT"⟩ = some (utf8Bytes headerText) := rfl
  have hasClaims := claimsToVec_libraryOf "devices.view" shortMac
  have short : (utf8Bytes (claimsText "devices.view")).length ≤ 12227 := by
    decide +kernel
  have small : (tokenOf "devices.view" shortMac).utf8ByteSize ≤ 16384 :=
    (signed_size_le_iff isLawful (isLawful.header_size _ hasHeader)).mpr short
  have valid : validateClaimLifetime (claimsOf "devices.view") = .ok () := by
    decide
  have issuedI64 : IsI64 (claimsOf "devices.view").iat := by decide
  have notBeforeI64 : IsI64 (claimsOf "devices.view").nbf := by decide
  have known : (claimsOf "devices.view").iat ≤ now + 60 := by omega
  have isBegun : (claimsOf "devices.view").nbf ≤ now + 60 := by omega
  have live : now < (claimsOf "devices.view").exp := before
  have decoded := decodeAccessToken_signed isLawful hasHeader hasClaims valid
    issuedI64 notBeforeI64 live known isBegun small
  exact decoded

/-- The token is accepted at its issue and 500 seconds later, hence between. -/
theorem accessTokenWindow_short :
    decodeAccessToken (Sample.libraryOf "devices.view" Sample.shortMac)
        (Sample.tokenOf "devices.view" Sample.shortMac) Sample.key 1250 "snm"
        "snm-api" = .ok (Sample.claimsOf "devices.view") ∧
      (Sample.claimsOf "devices.view").Bounded := by
  obtain ⟨between, sound⟩ := accessTokenWindow
    (Sample.libraryOf "devices.view" Sample.shortMac) Sample.key "snm"
    "snm-api" (Sample.tokenOf "devices.view" Sample.shortMac)
  have first := @Sample.accepted 1000 (by decide) (by decide)
  have last := @Sample.accepted 1500 (by decide) (by decide)
  have middle := between 1000 1250 1500 _ _ (by decide) (by decide) (by decide)
    (by decide) first last
  exact ⟨middle.2.1, (sound 1000 _ (by decide) first).2.1⟩

end NetworkManager.Security.Token
