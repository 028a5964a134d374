import NetworkManager.Backend.Authorization
import NetworkManager.Backend.RefreshRotation
import NetworkManager.Security.TokenRoundTrip

/-!
# The two authenticators

The authentication service and the authorization service decide separately
whether an access token is good.  They make the same checks on the session; the
second one also wants the user of the session to be active.
-/

namespace NetworkManager.Backend

open NetworkManager.Foundation
open NetworkManager.IdentityStore
open NetworkManager.Security.Token
open NetworkManager.Transaction

/-- The authorization service with the same settings. -/
def AuthService.authorization (service : AuthService) :
    AuthorizationService where
  library := service.library
  accessKey := service.accessKey
  issuer := service.issuer
  audience := service.audience

/-- The tables as the authorization service reads them. -/
def AuthDb.authorization (db : AuthDb) (rbac : Rbac) : AuthorizationDb where
  users := db.users
  sessions := db.sessions
  rbac

/-- Who a session is, without its permissions. -/
def SessionIdentity.principal (identity : SessionIdentity) : Principal where
  sessionId := identity.sessionId
  userId := identity.userId
  organizationId := identity.organizationId

/-- Both authenticators decode the token, look up the row of its session and
refuse the session or give an answer about it. -/
def judge {ρ ε α : Type} (failure : ε)
    (decoded : Except TokenError AccessClaims)
    (row : AccessClaims → Option ρ) (refused : AccessClaims → ρ → Prop)
    [∀ claims found, Decidable (refused claims found)]
    (answer : AccessClaims → ρ → α) : Except ε α :=
  match decoded with
  | .error _ => .error failure
  | .ok claims =>
      match row claims with
      | none => .error failure
      | some found =>
          if refused claims found then .error failure
          else .ok (answer claims found)

private theorem judge_eq_ok_iff {ρ ε α : Type} {failure : ε}
    {decoded : Except TokenError AccessClaims}
    {row : AccessClaims → Option ρ} {refused : AccessClaims → ρ → Prop}
    [∀ claims found, Decidable (refused claims found)]
    {answer : AccessClaims → ρ → α} {value : α} :
    judge failure decoded row refused answer = .ok value ↔
      ∃ claims found, decoded = .ok claims ∧ row claims = some found ∧
        ¬refused claims found ∧ value = answer claims found := by
  constructor
  · intro accepted
    cases decoded with
    | error failure => cases accepted
    | ok claims =>
        cases isRow : row claims with
        | none =>
            simp only [judge, isRow] at accepted
            cases accepted
        | some found =>
            simp only [judge, isRow] at accepted
            by_cases isRefused : refused claims found
            · rw [if_pos isRefused] at accepted
              cases accepted
            · rw [if_neg isRefused] at accepted
              exact ⟨claims, found, rfl, isRow, isRefused,
                (Except.ok.inj accepted).symm⟩
  · rintro ⟨claims, found, rfl, isRow, notRefused, rfl⟩
    simp only [judge, isRow]
    exact if_neg notRefused

/-- The session is not one that both authenticators refuse. -/
structure SessionUsable (now : Timestamp) (claims : AccessClaims)
    (session : SessionRow) : Prop where
  sameUser : session.userId = claims.sub
  sameOrganization : session.organizationId = claims.org
  notRevoked : session.revokedAt = none
  live : now < session.expiresAt
  notCutOff : ∀ cutoff, session.accessRevokedBefore = some cutoff →
    unixSeconds cutoff < claims.iat

/-- The token names a session of the table, and the session is good for it. -/
structure SessionAccepted (service : AuthService) (now : Timestamp)
    (token : String) (sessions : Table Uuid SessionRow SessionRow.id)
    (claims : AccessClaims) (session : SessionRow) : Prop where
  decoded : decodeAccessToken service.library token service.accessKey
    (unixSeconds now) service.issuer service.audience = .ok claims
  found : sessions.lookup claims.sid = some session
  usable : SessionUsable now claims session

/-- The user of a session is an active user of its organization. -/
def UserActive (users : Table Uuid UserRow UserRow.id)
    (session : SessionRow) : Prop :=
  ∃ user, users.lookup session.userId = some user ∧
    user.organizationId = session.organizationId ∧ user.status = .active

section Authenticating

variable {service : AuthService} {now : Timestamp} {token : String}
  {claims : AccessClaims} {session : SessionRow}

private theorem not_cutOff_iff :
    session.accessRevokedBefore.any (fun cutoff =>
        decide (claims.iat ≤ unixSeconds cutoff)) = false ↔
      ∀ cutoff, session.accessRevokedBefore = some cutoff →
        unixSeconds cutoff < claims.iat := by
  cases session.accessRevokedBefore with
  | none => simp
  | some cutoff => simp

theorem sessionUsable_iff :
    ¬(session.userId ≠ claims.sub ∨ session.organizationId ≠ claims.org ∨
        session.revokedAt.isSome ∨ session.expiresAt ≤ now ∨
        session.accessRevokedBefore.any (fun cutoff =>
          decide (claims.iat ≤ unixSeconds cutoff))) ↔
      SessionUsable now claims session := by
  constructor
  · intro notRefused
    simp only [not_or, not_not, Bool.not_eq_true, Option.isSome_eq_false_iff,
      Option.isNone_iff_eq_none, not_le] at notRefused
    rcases notRefused with
      ⟨sameUser, sameOrganization, notRevoked, live, notCut⟩
    exact ⟨sameUser, sameOrganization, notRevoked, live,
      not_cutOff_iff.mp notCut⟩
  · intro usable
    simp [usable.sameUser, usable.sameOrganization, usable.notRevoked,
      usable.live, not_cutOff_iff.mpr usable.notCutOff]

/-- The authentication service as a decision. -/
theorem call_authenticateAccess (db : AuthDb) :
    ((authenticateAccess service now token).call db).1 =
      judge .invalidSession
        (decodeAccessToken service.library token service.accessKey
          (unixSeconds now) service.issuer service.audience)
        (fun claims => db.sessions.lookup claims.sid)
        (fun claims session => session.userId ≠ claims.sub ∨
          session.organizationId ≠ claims.org ∨ session.revokedAt.isSome ∨
          session.expiresAt ≤ now ∨
          session.accessRevokedBefore.any fun cutoff =>
            decide (claims.iat ≤ unixSeconds cutoff))
        (fun claims session => SessionIdentity.mk claims.sid session.userId
          session.organizationId (execSelectPermissions
            session.organizationId session.userId db)) := by
  unfold authenticateAccess
  cases decodeAccessToken service.library token service.accessKey
      (unixSeconds now) service.issuer service.audience with
  | error failure => rfl
  | ok claims =>
      have selected : (authSql service.lower).exec
          (.selectSession claims.sid) db =
            .ok (db.sessions.lookup claims.sid, []) := rfl
      simp only [Except.mapError, Program.ofExcept, Program.done_ok_bind]
      rw [Program.call_eq, query, Program.eval_statement_bind_ok selected]
      cases found : db.sessions.lookup claims.sid with
      | none =>
          simp only [judge, found]
          rfl
      | some session =>
          simp only [judge, found]
          split
          · rfl
          · rfl

private theorem bearerToken_append (token : String) :
    bearerToken (some ("Bearer " ++ token)) =
      if token.isEmpty then none else some token := by
  have dropped : ("Bearer " ++ token).toList.drop 7 = token.toList := by
    rw [String.toList_append]
    rfl
  have isPrefix :
      "Bearer ".toList.isPrefixOf ("Bearer " ++ token).toList = true := by
    rw [String.toList_append, List.isPrefixOf_iff_prefix]
    exact List.prefix_append ..
  rw [bearerToken, Option.bind_some, if_pos isPrefix, dropped,
    String.ofList_toList]
  cases empty : token.isEmpty with
  | false => simp [Option.filter, empty]
  | true => simp [Option.filter, empty]

/-- The authorization service as a decision. -/
theorem call_authenticate (authorization : AuthorizationService)
    (db : AuthorizationDb) :
    ((authenticate authorization now (some ("Bearer " ++ token))).call db).1 =
      judge .invalidSession
        (if token.isEmpty then .error .malformedToken
        else decodeAccessToken authorization.library token
          authorization.accessKey (unixSeconds now) authorization.issuer
          authorization.audience)
        (fun claims => execSelectPrincipal claims.sid db)
        (fun claims found => found.1.userId ≠ claims.sub ∨
          found.1.organizationId ≠ claims.org ∨ found.2 ≠ .active ∨
          found.1.revokedAt.isSome ∨ found.1.expiresAt ≤ now ∨
          found.1.accessRevokedBefore.any fun cutoff =>
            decide (claims.iat ≤ unixSeconds cutoff))
        (fun claims found => Principal.mk claims.sid found.1.userId
          found.1.organizationId) := by
  unfold authenticate
  rw [bearerToken_append]
  by_cases empty : token.isEmpty
  · rw [if_pos empty, if_pos empty]
    rfl
  rw [if_neg empty, if_neg empty]
  simp only [Option.elim_some, Program.ofExcept, Program.done_ok_bind]
  cases decodeAccessToken authorization.library token authorization.accessKey
      (unixSeconds now) authorization.issuer authorization.audience with
  | error failure => rfl
  | ok claims =>
      have selected : authorizationSql.exec (.selectPrincipal claims.sid) db =
            .ok (execSelectPrincipal claims.sid db, []) := rfl
      simp only [Except.mapError, Program.done_ok_bind]
      rw [Program.call_eq, authorizationQuery,
        Program.eval_statement_bind_ok selected]
      cases found : execSelectPrincipal claims.sid db with
      | none =>
          simp only [judge, found]
          rfl
      | some row =>
          simp only [judge, found]
          split
          · rfl
          · rfl

/-- The first authenticator accepts the tokens of usable sessions. -/
theorem authenticateAccess_ok_iff {db : AuthDb} {identity : SessionIdentity} :
    ((authenticateAccess service now token).call db).1 = .ok identity ↔
      ∃ claims session,
        SessionAccepted service now token db.sessions claims session ∧
        identity = ⟨claims.sid, session.userId, session.organizationId,
          execSelectPermissions session.organizationId session.userId
            db⟩ := by
  rw [call_authenticateAccess, judge_eq_ok_iff]
  constructor
  · rintro ⟨claims, session, decoded, found, notRefused, rfl⟩
    exact ⟨claims, session,
      ⟨decoded, found, sessionUsable_iff.mp notRefused⟩, rfl⟩
  · rintro ⟨claims, session, accepted, rfl⟩
    exact ⟨claims, session, accepted.decoded, accepted.found,
      sessionUsable_iff.mpr accepted.usable, rfl⟩

theorem execSelectPrincipal_eq_some_iff {sessionId : Uuid}
    {db : AuthorizationDb} {status : UserStatus} :
    execSelectPrincipal sessionId db = some (session, status) ↔
      db.sessions.lookup sessionId = some session ∧
        ∃ user, db.users.lookup session.userId = some user ∧
          user.organizationId = session.organizationId ∧
            user.status = status := by
  rw [execSelectPrincipal, Option.bind_eq_some_iff]
  constructor
  · rintro ⟨row, found, joined⟩
    rw [Option.map_eq_some_iff] at joined
    rcases joined with ⟨user, isUser, same⟩
    rw [Option.filter_eq_some_iff] at isUser
    cases same
    exact ⟨found, user, isUser.1, of_decide_eq_true isUser.2, rfl⟩
  · rintro ⟨found, user, isUser, sameOrganization, rfl⟩
    refine ⟨session, found, Option.map_eq_some_iff.mpr ⟨user, ?_, rfl⟩⟩
    rw [Option.filter_eq_some_iff]
    exact ⟨isUser, decide_eq_true sameOrganization⟩

/-- Every token that decodes has characters. -/
theorem decodeAccessToken_empty {library : TokenLibrary} {key : AccessTokenKey}
    {instant : Int} {issuer audience : String} :
    decodeAccessToken library "" key instant issuer audience =
      .error .malformedToken := rfl

/-- The second authenticator accepts those whose user is active. -/
theorem authenticate_ok_iff {db : AuthDb} {rbac : Rbac}
    {principal : Principal} :
    ((authenticate service.authorization now
        (some ("Bearer " ++ token))).call (db.authorization rbac)).1 =
          .ok principal ↔
      ∃ claims session,
        SessionAccepted service now token db.sessions claims session ∧
        UserActive db.users session ∧
        principal =
          ⟨claims.sid, session.userId, session.organizationId⟩ := by
  have decodes : ∀ claims, (if token.isEmpty then .error .malformedToken
      else decodeAccessToken service.library token service.accessKey
        (unixSeconds now) service.issuer service.audience) =
          Except.ok claims ↔
      decodeAccessToken service.library token service.accessKey
        (unixSeconds now) service.issuer service.audience = .ok claims := by
    intro claims
    by_cases empty : token.isEmpty
    · rw [if_pos empty, String.isEmpty_iff.mp empty, decodeAccessToken_empty]
    · rw [if_neg empty]
  rw [call_authenticate, judge_eq_ok_iff]
  constructor
  · rintro ⟨claims, ⟨session, status⟩, decoded, found, notRefused, rfl⟩
    rcases execSelectPrincipal_eq_some_iff.mp found with
      ⟨isSession, user, isUser, sameOrganization, rfl⟩
    have isActive : user.status = .active := by
      by_contra notActive
      exact notRefused (Or.inr (Or.inr (Or.inl notActive)))
    have usable : SessionUsable now claims session := by
      apply sessionUsable_iff.mp
      intro refused
      apply notRefused
      rcases refused with different | other | rest
      · exact Or.inl different
      · exact Or.inr (Or.inl other)
      · exact Or.inr (Or.inr (Or.inr rest))
    exact ⟨claims, session, ⟨(decodes claims).mp decoded, isSession, usable⟩,
      ⟨user, isUser, sameOrganization, isActive⟩, rfl⟩
  · rintro ⟨claims, session, accepted, ⟨user, isUser, sameOrganization,
      isActive⟩, rfl⟩
    refine ⟨claims, (session, .active), (decodes claims).mpr accepted.decoded,
      execSelectPrincipal_eq_some_iff.mpr ⟨accepted.found, user, isUser,
        sameOrganization, isActive⟩, ?_, rfl⟩
    have notRefused := sessionUsable_iff.mpr accepted.usable
    rintro (different | other | inactive | rest)
    · exact notRefused (Or.inl different)
    · exact notRefused (Or.inr (Or.inl other))
    · exact inactive rfl
    · exact notRefused (Or.inr (Or.inr rest))

end Authenticating

/-! ## Agreement -/

/-- Both authenticators accept the token for the same principal, or neither
accepts it. -/
def AuthenticatorsAgree (service : AuthService) (now : Timestamp)
    (token : String) (db : AuthDb) (rbac : Rbac) : Prop :=
  ∀ principal,
    (∃ identity, ((authenticateAccess service now token).call db).1 =
        .ok identity ∧ identity.principal = principal) ↔
      ((authenticate service.authorization now
        (some ("Bearer " ++ token))).call (db.authorization rbac)).1 =
          .ok principal

/-- The authenticators agree on a token unless it names a usable session whose
user is not active. -/
theorem authenticatorsAgree_iff (service : AuthService) (now : Timestamp)
    (token : String) (db : AuthDb) (rbac : Rbac) :
    AuthenticatorsAgree service now token db rbac ↔
      ∀ claims session,
        SessionAccepted service now token db.sessions claims session →
          UserActive db.users session := by
  constructor
  · intro agree claims session accepted
    have first := authenticateAccess_ok_iff.mpr ⟨claims, session, accepted, rfl⟩
    have second := (agree _).mp ⟨_, first, rfl⟩
    rcases authenticate_ok_iff.mp second with
      ⟨otherClaims, otherSession, otherAccepted, isActive, _⟩
    have sameClaims : otherClaims = claims :=
      Except.ok.inj (otherAccepted.decoded.symm.trans accepted.decoded)
    subst sameClaims
    have sameSession : otherSession = session :=
      Option.some.inj (otherAccepted.found.symm.trans accepted.found)
    subst sameSession
    exact isActive
  · intro active principal
    rw [authenticate_ok_iff]
    constructor
    · rintro ⟨identity, isIdentity, rfl⟩
      rcases authenticateAccess_ok_iff.mp isIdentity with
        ⟨claims, session, accepted, rfl⟩
      exact ⟨claims, session, accepted, active claims session accepted, rfl⟩
    · rintro ⟨claims, session, accepted, _, rfl⟩
      exact ⟨_, authenticateAccess_ok_iff.mpr ⟨claims, session, accepted, rfl⟩,
        rfl⟩

namespace Sample

/-- The settings of the service that issued the token with one scope. -/
def tokenService : AuthService where
  library := Security.Token.Sample.libraryOf "devices.view"
    Security.Token.Sample.shortMac
  accessKey := Security.Token.Sample.key
  issuer := "snm"
  audience := "snm-api"
  dummyPasswordHash := "!"
  verifyPassword password encoded := decide (password = utf8Bytes encoded)
  lower := toAsciiLowercase

def tokenText : String :=
  Security.Token.Sample.tokenOf "devices.view" Security.Token.Sample.shortMac

/-- A session that lives for 30 days. -/
def liveSession : SessionRow where
  id := ⟨10⟩
  organizationId := ⟨1⟩
  userId := ⟨2⟩
  refreshTokenHash := .replicate 32 1
  refreshTokenPrefix := "snm_rt_AQEBAQEB"
  expiresAt := 2593000000000
  lastUsedAt := some 1000000000
  authTime := 1000000000
  revokedAt := none
  accessRevokedBefore := none
  createdAt := 1000000000

/-- Its user has been disabled. -/
def disabledUser : AuthDb where
  organizations := Table.put ⟨⟨1⟩, "acme"⟩ (.empty _)
  users :=
    Table.put ⟨⟨2⟩, ⟨1⟩, "ops@acme.test", .disabled, some "secret", none⟩
      (.empty _)
  sessions := Table.put liveSession (.empty _)
  refreshTokens := .empty _
  roleBindings := []
  rolePermissions := []
  permissions := []

def noRoles : Rbac where
  sites := .empty _
  roles := .empty _
  permissions := .empty _
  rolePermissions := []
  roleBindings := .empty _

private theorem decoded_tokenText :
    decodeAccessToken
      (Security.Token.Sample.libraryOf "devices.view"
        Security.Token.Sample.shortMac)
      tokenText Security.Token.Sample.key 1100 "snm" "snm-api" =
        .ok (Security.Token.Sample.claimsOf "devices.view") := by
  have lawful := Security.Token.Sample.lawful_libraryOf "devices.view"
    Security.Token.Sample.shortMac
  have hasClaims := Security.Token.Sample.claimsToVec_libraryOf "devices.view"
    Security.Token.Sample.shortMac
  have hasHeader : (Security.Token.Sample.libraryOf "devices.view"
      Security.Token.Sample.shortMac).headerToVec ⟨"HS256", "JWT"⟩ =
        some (utf8Bytes Security.Token.Sample.headerText) := rfl
  apply decodeAccessToken_signed lawful hasHeader hasClaims
  · rfl
  · decide
  · decide
  · decide
  · decide
  · decide
  · apply (signed_size_le_iff lawful (lawful.header_size _ hasHeader)).mpr
    decide +kernel

private theorem sessionAccepted_disabledUser :
    SessionAccepted tokenService 1100000000 tokenText disabledUser.sessions
      (Security.Token.Sample.claimsOf "devices.view") liveSession where
  decoded := decoded_tokenText
  found := rfl
  usable := ⟨rfl, rfl, rfl, by decide, nofun⟩

end Sample

/-- The token of a disabled user is good for one authenticator only. -/
theorem disabledUser_disagrees :
    ((authenticateAccess Sample.tokenService 1100000000
        Sample.tokenText).call Sample.disabledUser).1 =
          .ok ⟨⟨10⟩, ⟨2⟩, ⟨1⟩, []⟩ ∧
      ¬AuthenticatorsAgree Sample.tokenService 1100000000 Sample.tokenText
        Sample.disabledUser Sample.noRoles := by
  have accepted := Sample.sessionAccepted_disabledUser
  constructor
  · exact authenticateAccess_ok_iff.mpr ⟨_, _, accepted, rfl⟩
  · intro agree
    have first := authenticateAccess_ok_iff.mpr ⟨_, _, accepted, rfl⟩
    have second := (agree _).mp ⟨_, first, rfl⟩
    rcases authenticate_ok_iff.mp second with ⟨_, session, reported, active, _⟩
    have sameClaims := Except.ok.inj
      (reported.decoded.symm.trans accepted.decoded)
    have found := reported.found
    rw [sameClaims, accepted.found] at found
    cases found
    rcases active with ⟨user, isUser, _, isActive⟩
    cases isUser
    cases isActive

end NetworkManager.Backend
