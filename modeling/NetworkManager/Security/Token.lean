import NetworkManager.Foundation.Bytes
import NetworkManager.Foundation.Uuid

/-!
# Access tokens and opaque tokens

An access token is a signed list of claims with a short lifetime.  An opaque
token is random; only its hash and a visible prefix are kept.
-/

namespace NetworkManager.Security.Token

open NetworkManager.Foundation

structure AccessClaims where
  iss : String
  aud : String
  sub : Uuid
  org : Uuid
  sid : Uuid
  jti : Uuid
  scopes : List String
  iat : Int
  nbf : Int
  exp : Int
deriving DecidableEq, Repr

structure JwtHeader where
  alg : String
  typ : String
deriving DecidableEq, Repr

/-- The codecs and the hash functions that tokens are made with. -/
structure TokenLibrary where
  /-- `URL_SAFE_NO_PAD.encode`. -/
  base64Encode : Bytes → String
  /-- `URL_SAFE_NO_PAD.decode`. -/
  base64Decode : String → Option Bytes
  /-- HMAC-SHA-256: key, message. -/
  hmacSha256 : Bytes → Bytes → FixedBytes 32
  /-- SHA-256. -/
  sha256 : Bytes → FixedBytes 32
  headerToVec : JwtHeader → Option Bytes
  headerFromSlice : Bytes → Option JwtHeader
  claimsToVec : AccessClaims → Option Bytes
  claimsFromSlice : Bytes → Option AccessClaims

inductive TokenError where
  | weakSigningKey
  | invalidSigningKey
  | serializationFailed
  | malformedToken
  | invalidSignature
  | unsupportedTokenAlgorithm
  | invalidContext
  | invalidLifetime
  | expiredOrNotYetValid
  | invalidPrefix
deriving DecidableEq, Repr

/-- A signing key of at least 256 bits. -/
structure AccessTokenKey where
  bytes : Bytes
  strong : 32 ≤ bytes.length

def AccessTokenKey.new (secret : Bytes) : Except TokenError AccessTokenKey :=
  if strong : 32 ≤ secret.length then
    .ok ⟨secret, strong⟩
  else
    .error .weakSigningKey

def accessTokenClockSkewSeconds : Int := 60

def accessTokenMaxLifetimeSeconds : Int := 15 * 60

def validateClaimLifetime (claims : AccessClaims) : Except TokenError Unit :=
  if claims.iat < 0 ∨
      claims.nbf < saturatingSub claims.iat accessTokenClockSkewSeconds ∨
      claims.exp ≤ claims.nbf ∨ claims.exp ≤ claims.iat ∨
      accessTokenMaxLifetimeSeconds < saturatingSub claims.exp claims.iat then
    .error .invalidLifetime
  else
    .ok ()

section Codec

variable (library : TokenLibrary)

def encodeAccessToken (claims : AccessClaims) (key : AccessTokenKey) :
    Except TokenError String := do
  validateClaimLifetime claims
  let header ←
    (library.headerToVec ⟨"HS256", "JWT"⟩).elim
      (.error .serializationFailed) .ok
  let encodedHeader := library.base64Encode header
  let payload ←
    (library.claimsToVec claims).elim (.error .serializationFailed) .ok
  let encodedClaims := library.base64Encode payload
  let signingInput := encodedHeader ++ "." ++ encodedClaims
  let mac := library.hmacSha256 key.bytes (utf8Bytes signingInput)
  return signingInput ++ "." ++ library.base64Encode mac.bytes

/-- `str::split('.')`. -/
def splitDots (text : String) : List String :=
  (text.toList.splitOn '.').map String.ofList

def decodeBase64 (text : String) : Except TokenError Bytes :=
  (library.base64Decode text).elim (.error .malformedToken) .ok

def decodeAccessToken (token : String) (key : AccessTokenKey)
    (nowUnixSeconds : Int) (expectedIssuer expectedAudience : String) :
    Except TokenError AccessClaims :=
  if 16384 < token.utf8ByteSize then
    .error .malformedToken
  else
    match splitDots token with
    | [headerPart, claimsPart, signaturePart] => do
        let signature ← decodeBase64 library signaturePart
        let signingInput := headerPart ++ "." ++ claimsPart
        let mac := library.hmacSha256 key.bytes (utf8Bytes signingInput)
        if mac.bytes ≠ signature then
          throw .invalidSignature
        let headerBytes ← decodeBase64 library headerPart
        let header ←
          (library.headerFromSlice headerBytes).elim
            (.error .malformedToken) .ok
        if header.alg ≠ "HS256" ∨ header.typ ≠ "JWT" then
          throw .unsupportedTokenAlgorithm
        let claimsBytes ← decodeBase64 library claimsPart
        let claims ←
          (library.claimsFromSlice claimsBytes).elim
            (.error .malformedToken) .ok
        if claims.iss ≠ expectedIssuer ∨ claims.aud ≠ expectedAudience then
          throw .invalidContext
        validateClaimLifetime claims
        if claims.exp ≤ nowUnixSeconds ∨
            saturatingAdd nowUnixSeconds accessTokenClockSkewSeconds <
              claims.nbf ∨
            saturatingAdd nowUnixSeconds accessTokenClockSkewSeconds <
              claims.iat then
          throw .expiredOrNotYetValid
        return claims
    | _ => .error .malformedToken

structure IssuedOpaqueToken where
  secret : String
  visiblePrefix : String
  hash : FixedBytes 32
deriving DecidableEq

def hashOpaqueToken (token : Bytes) : FixedBytes 32 := library.sha256 token

/-- Issue a token from 32 random bytes. -/
def issueOpaqueToken (namePrefix : String) (random : FixedBytes 32) :
    Except TokenError IssuedOpaqueToken :=
  if namePrefix.isEmpty || decide (16 < namePrefix.utf8ByteSize) ||
      !(namePrefix.toList.all fun character =>
        character.isLower || character.isDigit || character == '_') then
    .error .invalidPrefix
  else
    let secret := namePrefix ++ "_" ++ library.base64Encode random.bytes
    .ok
      { secret
        visiblePrefix :=
          String.ofList (secret.toList.take (namePrefix.utf8ByteSize + 9))
        hash := hashOpaqueToken library (utf8Bytes secret) }

/-- Compare hashes by their codes under a constant key. -/
def opaqueTokenMatches (token : Bytes) (expectedHash : FixedBytes 32) : Bool :=
  let actual := hashOpaqueToken library token
  let compareKey := utf8Bytes "snm-token-hash-compare"
  decide (library.hmacSha256 compareKey expectedHash.bytes =
    library.hmacSha256 compareKey actual.bytes)

end Codec

end NetworkManager.Security.Token
