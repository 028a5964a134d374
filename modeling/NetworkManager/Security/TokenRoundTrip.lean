import NetworkManager.Foundation.Base64
import NetworkManager.Security.Token

/-!
# Encoding and decoding access tokens

The encoder writes claims of any size; the decoder refuses a token of more than
16384 bytes.  Up to that size a token that is issued can be used.
-/

namespace NetworkManager.Security.Token

open NetworkManager.Foundation

/-- What tokens rely on: the decoders invert the encoders, base64 has no dots
and writes three bytes as four characters, and the header is
`{"alg":"HS256","typ":"JWT"}`. -/
structure TokenLibrary.Lawful (library : TokenLibrary) : Prop where
  decode_encode : ∀ bytes,
    library.base64Decode (library.base64Encode bytes) = some bytes
  dot_notMem : ∀ bytes, '.' ∉ (library.base64Encode bytes).toList
  encode_size : ∀ bytes, (library.base64Encode bytes).utf8ByteSize =
    (4 * bytes.length + 2) / 3
  header_size : ∀ bytes, library.headerToVec ⟨"HS256", "JWT"⟩ = some bytes →
    bytes.length = 27
  header_read : ∀ header bytes, library.headerToVec header = some bytes →
    library.headerFromSlice bytes = some header
  claims_read : ∀ claims bytes, library.claimsToVec claims = some bytes →
    library.claimsFromSlice bytes = some claims

private theorem splitDots_of_notMem
    {text : String} (noDot : '.' ∉ text.toList) :
    splitDots text = [text] := by
  rw [splitDots, List.splitOn_eq_singleton noDot]
  simp

private theorem splitDots_append (left right : String) :
    splitDots (left ++ "." ++ right) = splitDots left ++ splitDots right := by
  have dot : (".").toList = ['.'] := rfl
  rw [splitDots, String.toList_append, String.toList_append, dot,
    List.append_assoc, List.singleton_append, List.splitOn_append_cons_self,
    List.map_append]
  rfl

section Encoding

variable {library : TokenLibrary} {claims : AccessClaims}
  {key : AccessTokenKey} {token : String}

/-- The part of a token that is signed. -/
def signingInput (library : TokenLibrary) (header payload : Bytes) : String :=
  library.base64Encode header ++ "." ++ library.base64Encode payload

/-- The token with these parts. -/
def signed (library : TokenLibrary) (key : AccessTokenKey)
    (header payload : Bytes) : String :=
  signingInput library header payload ++ "." ++
    library.base64Encode (library.hmacSha256 key.bytes
      (utf8Bytes (signingInput library header payload))).bytes

theorem encodeAccessToken_eq_ok
    (encoded : encodeAccessToken library claims key = .ok token) :
    validateClaimLifetime claims = .ok () ∧
      ∃ header payload,
        library.headerToVec ⟨"HS256", "JWT"⟩ = some header ∧
        library.claimsToVec claims = some payload ∧
        token = signed library key header payload := by
  rw [encodeAccessToken] at encoded
  cases valid : validateClaimLifetime claims with
  | error failure =>
      rw [valid] at encoded
      cases encoded
  | ok done =>
      rw [valid] at encoded
      cases hasHeader : library.headerToVec ⟨"HS256", "JWT"⟩ with
      | none =>
          rw [hasHeader] at encoded
          cases encoded
      | some header =>
          rw [hasHeader] at encoded
          cases hasClaims : library.claimsToVec claims with
          | none =>
              rw [hasClaims] at encoded
              cases encoded
          | some payload =>
              rw [hasClaims] at encoded
              exact ⟨rfl, header, payload, rfl, rfl,
                (Except.ok.inj encoded).symm⟩

private theorem encodeAccessToken_eq_signed {header payload : Bytes}
    (valid : validateClaimLifetime claims = .ok ())
    (hasHeader : library.headerToVec ⟨"HS256", "JWT"⟩ = some header)
    (hasClaims : library.claimsToVec claims = some payload) :
    encodeAccessToken library claims key =
      .ok (signed library key header payload) := by
  rw [encodeAccessToken, valid, hasHeader, hasClaims]
  rfl

private theorem splitDots_signed
    (lawful : library.Lawful) (header payload : Bytes) :
    splitDots (signed library key header payload) =
      [library.base64Encode header, library.base64Encode payload,
        library.base64Encode (library.hmacSha256 key.bytes
          (utf8Bytes (signingInput library header payload))).bytes] := by
  rw [signed, splitDots_append]
  conv_lhs => rw [signingInput, splitDots_append]
  rw [splitDots_of_notMem (lawful.dot_notMem header),
    splitDots_of_notMem (lawful.dot_notMem payload),
    splitDots_of_notMem (lawful.dot_notMem _)]
  rfl

/-- A token has at most 16384 bytes if its claims have at most 12227. -/
theorem signed_size_le_iff (lawful : library.Lawful) {header payload : Bytes}
    (headerSize : header.length = 27) :
    (signed library key header payload).utf8ByteSize ≤ 16384 ↔
      payload.length ≤ 12227 := by
  have dotSize : (".").utf8ByteSize = 1 := rfl
  have macSize := (library.hmacSha256 key.bytes
    (utf8Bytes (signingInput library header payload))).sized
  rw [signed, String.utf8ByteSize_append, String.utf8ByteSize_append,
    lawful.encode_size, macSize, dotSize]
  rw [signingInput, String.utf8ByteSize_append, String.utf8ByteSize_append,
    lawful.encode_size, lawful.encode_size, headerSize, dotSize]
  omega

end Encoding

section RoundTrip

variable {library : TokenLibrary} {claims : AccessClaims}
  {key : AccessTokenKey} {header payload : Bytes} {now : Int}

/-- A token of signed claims that are valid now is read back. -/
theorem decodeAccessToken_signed (lawful : library.Lawful)
    (hasHeader : library.headerToVec ⟨"HS256", "JWT"⟩ = some header)
    (hasClaims : library.claimsToVec claims = some payload)
    (valid : validateClaimLifetime claims = .ok ())
    (issuedI64 : IsI64 claims.iat) (notBeforeI64 : IsI64 claims.nbf)
    (live : now < claims.exp) (issued : claims.iat ≤ now + 60)
    (begun : claims.nbf ≤ now + 60)
    (small : (signed library key header payload).utf8ByteSize ≤ 16384) :
    decodeAccessToken library (signed library key header payload) key now
      claims.iss claims.aud = .ok claims := by
  have notEarly := le_saturatingAdd notBeforeI64 begun
  have notNew := le_saturatingAdd issuedI64 issued
  have timely : ¬(claims.exp ≤ now ∨
      saturatingAdd now accessTokenClockSkewSeconds < claims.nbf ∨
      saturatingAdd now accessTokenClockSkewSeconds < claims.iat) := by
    rw [accessTokenClockSkewSeconds]
    omega
  rw [decodeAccessToken, if_neg (Nat.not_lt.mpr small),
    splitDots_signed lawful header payload]
  simp only [decodeBase64, lawful.decode_encode, Option.elim_some]
  simp [signingInput, lawful.header_read _ _ hasHeader,
    lawful.claims_read _ _ hasClaims, valid, timely, pure, Except.pure, bind,
    Except.bind]

/-- The claims of a token that is read back take at most 12227 bytes. -/
theorem length_le_of_decoded {expectedIssuer expectedAudience : String}
    {decoded : AccessClaims} (lawful : library.Lawful)
    (hasHeader : library.headerToVec ⟨"HS256", "JWT"⟩ = some header)
    (read : decodeAccessToken library (signed library key header payload) key
      now expectedIssuer expectedAudience = .ok decoded) :
    payload.length ≤ 12227 := by
  apply (signed_size_le_iff lawful (lawful.header_size header hasHeader)).mp
  by_contra large
  rw [decodeAccessToken, if_pos (Nat.not_le.mp large)] at read
  cases read

/-- Claims that can be issued are read back from their token at any time at
which they are valid, if they take at most 12227 bytes. -/
theorem accessToken_roundTrip_iff {token : String} (lawful : library.Lawful)
    (encoded : encodeAccessToken library claims key = .ok token)
    (issuedI64 : IsI64 claims.iat) (notBeforeI64 : IsI64 claims.nbf)
    (live : now < claims.exp) (issued : claims.iat ≤ now + 60)
    (begun : claims.nbf ≤ now + 60) :
    decodeAccessToken library token key now claims.iss claims.aud =
        .ok claims ↔
      ∀ payload, library.claimsToVec claims = some payload →
        payload.length ≤ 12227 := by
  rcases encodeAccessToken_eq_ok encoded with
    ⟨valid, header, payload, hasHeader, hasClaims, rfl⟩
  constructor
  · intro decoded other hasOther
    cases hasClaims.symm.trans hasOther
    exact length_le_of_decoded lawful hasHeader decoded
  · intro bounded
    have sizes : (signed library key header payload).utf8ByteSize ≤ 16384 ↔
        payload.length ≤ 12227 :=
      signed_size_le_iff lawful (lawful.header_size header hasHeader)
    exact decodeAccessToken_signed lawful hasHeader hasClaims valid issuedI64
      notBeforeI64 live issued begun (sizes.mpr (bounded payload hasClaims))

end RoundTrip

namespace Sample

def headerText : String := "\x7b\"alg\":\"HS256\",\"typ\":\"JWT\"\x7d"

/-- Claims with one scope. -/
def claimsOf (scope : String) : AccessClaims where
  iss := "snm"
  aud := "snm-api"
  sub := ⟨2⟩
  org := ⟨1⟩
  sid := ⟨10⟩
  jti := ⟨11⟩
  scopes := [scope]
  iat := 1000
  nbf := 1000
  exp := 1600

def claimsHead : String :=
  "\x7b\"iss\":\"snm\",\"aud\":\"snm-api\"," ++
    "\"sub\":\"00000000-0000-0000-0000-000000000002\"," ++
    "\"org\":\"00000000-0000-0000-0000-000000000001\"," ++
    "\"sid\":\"00000000-0000-0000-0000-00000000000a\"," ++
    "\"jti\":\"00000000-0000-0000-0000-00000000000b\"," ++ "\"scopes\":[\""

def claimsTail : String := "\"],\"iat\":1000,\"nbf\":1000,\"exp\":1600\x7d"

/-- Their JSON text, for a scope without special characters. -/
def claimsText (scope : String) : String := claimsHead ++ scope ++ claimsTail

/-- The codecs where the token needs them, and its HMAC-SHA-256. -/
def libraryOf (scope : String) (mac : FixedBytes 32) : TokenLibrary where
  base64Encode := Base64.encode
  base64Decode := Base64.decode
  hmacSha256 _ _ := mac
  sha256 _ := .replicate 32 0
  headerToVec header :=
    if header = ⟨"HS256", "JWT"⟩ then some (utf8Bytes headerText) else none
  headerFromSlice bytes :=
    if bytes = utf8Bytes headerText then some ⟨"HS256", "JWT"⟩ else none
  claimsToVec claims :=
    if claims = claimsOf scope then some (utf8Bytes (claimsText scope))
    else none
  claimsFromSlice bytes :=
    if bytes = utf8Bytes (claimsText scope) then some (claimsOf scope)
    else none

theorem lawful_libraryOf (scope : String) (mac : FixedBytes 32) :
    (libraryOf scope mac).Lawful where
  decode_encode := Base64.decode_encode
  dot_notMem := Base64.dot_notMem_encode
  encode_size := Base64.utf8ByteSize_encode
  header_size := by
    intro bytes written
    cases written
    decide
  header_read := by
    intro header bytes written
    by_cases known : header = ⟨"HS256", "JWT"⟩
    · subst known
      simp only [libraryOf, if_true, Option.some.injEq] at written ⊢
      rw [if_pos written.symm]
    · simp [libraryOf, known] at written
  claims_read := by
    intro claims bytes written
    by_cases known : claims = claimsOf scope
    · subst known
      simp only [libraryOf, if_true, Option.some.injEq] at written ⊢
      rw [if_pos written.symm]
    · simp [libraryOf, known] at written

/-- The key of 32 bytes `0x5a`. -/
def key : AccessTokenKey := ⟨List.replicate 32 0x5a, by decide⟩

def shortMac : FixedBytes 32 :=
  ⟨[204, 39, 123, 177, 100, 32, 183, 128, 110, 103, 167, 222, 162, 227, 43, 65,
    82, 132, 254, 230, 206, 32, 204, 183, 35, 93, 131, 25, 87, 29, 124, 81], by decide⟩

def longScope : String := String.ofList (List.replicate 12300 'a')

def longMac : FixedBytes 32 :=
  ⟨[55, 183, 54, 113, 254, 16, 161, 223, 125, 45, 222, 213, 116, 215, 206, 49,
    88, 163, 187, 70, 100, 57, 156, 108, 11, 201, 40, 49, 179, 109, 244, 82], by decide⟩

/-- The token of the claims with a scope. -/
def tokenOf (scope : String) (mac : FixedBytes 32) : String :=
  signed (libraryOf scope mac) key (utf8Bytes headerText)
    (utf8Bytes (claimsText scope))

theorem claimsToVec_libraryOf (scope : String) (mac : FixedBytes 32) :
    (libraryOf scope mac).claimsToVec (claimsOf scope) =
      some (utf8Bytes (claimsText scope)) := if_pos rfl

private theorem encoded_tokenOf (scope : String) (mac : FixedBytes 32) :
    encodeAccessToken (libraryOf scope mac) (claimsOf scope) key =
      .ok (tokenOf scope mac) :=
  encodeAccessToken_eq_signed rfl rfl (claimsToVec_libraryOf scope mac)

private theorem length_utf8Bytes (text : String) :
    (utf8Bytes text).length = text.utf8ByteSize := by
  rw [utf8Bytes]
  exact String.size_toByteArray

private theorem size_le_claimsText (scope : String) :
    scope.utf8ByteSize ≤ (utf8Bytes (claimsText scope)).length := by
  rw [length_utf8Bytes, claimsText, String.utf8ByteSize_append,
    String.utf8ByteSize_append]
  exact (Nat.le_add_left ..).trans (Nat.le_add_right ..)

private theorem size_replicate (count : Nat) :
    (String.ofList (List.replicate count 'a')).utf8ByteSize = count := by
  rw [Base64.utf8ByteSize_ofList, List.length_replicate]
  intro character member
  rw [List.eq_of_mem_replicate member]
  rfl

private theorem longScope_size
    : longScope.utf8ByteSize = 12300 := size_replicate 12300

end Sample

/-- Claims with one short scope are read back. -/
theorem accessToken_roundTrip_short :
    decodeAccessToken (Sample.libraryOf "devices.view" Sample.shortMac)
      (Sample.tokenOf "devices.view" Sample.shortMac) Sample.key 1100 "snm"
      "snm-api" = .ok (Sample.claimsOf "devices.view") := by
  apply (accessToken_roundTrip_iff (Sample.lawful_libraryOf _ _)
    (Sample.encoded_tokenOf _ _) (by decide) (by decide) (by decide)
    (by decide) (by decide)).mpr
  intro payload isPayload
  cases (Sample.claimsToVec_libraryOf _ _).symm.trans isPayload
  decide +kernel

/-- Claims with a scope of 12300 characters are issued but not read back. -/
theorem not_accessToken_roundTrip :
    ¬∀ (library : TokenLibrary) (claims : AccessClaims) (key : AccessTokenKey)
      (token : String) (now : Int), library.Lawful →
      encodeAccessToken library claims key = .ok token →
      IsI64 claims.iat → IsI64 claims.nbf → now < claims.exp →
      claims.iat ≤ now + 60 → claims.nbf ≤ now + 60 →
      decodeAccessToken library token key now claims.iss claims.aud =
        .ok claims := by
  intro readBack
  have lawful := Sample.lawful_libraryOf Sample.longScope Sample.longMac
  have encoded := Sample.encoded_tokenOf Sample.longScope Sample.longMac
  have decoded := readBack _ _ _ _ 1100 lawful encoded (by decide) (by decide)
    (by decide) (by decide) (by decide)
  have small := length_le_of_decoded lawful rfl decoded
  have large := Sample.size_le_claimsText Sample.longScope
  rw [Sample.longScope_size] at large
  omega

end NetworkManager.Security.Token
