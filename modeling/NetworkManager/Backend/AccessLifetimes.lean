import NetworkManager.Backend.Authenticators
import NetworkManager.Backend.ReuseAlarms
import NetworkManager.Security.TokenWindow

/-!
# How long an access token works

An access token is signed once, when a login or a refresh answers.  What happens
to its session later decides whether it still works: whatever calls follow, both
authenticators accept it for its ten minutes exactly as long as the row of the
session lets them.
-/

namespace NetworkManager.Backend

open NetworkManager.Foundation
open NetworkManager.IdentityStore
open NetworkManager.Security.Token
open NetworkManager.Transaction

/-- What no call changes of a session. -/
structure SameGrant (session later : SessionRow) : Prop where
  userId : later.userId = session.userId
  organizationId : later.organizationId = session.organizationId
  expiresAt : later.expiresAt = session.expiresAt
  accessRevokedBefore : later.accessRevokedBefore = session.accessRevokedBefore

/-- Every session is still there, with what was granted to it. -/
def SessionsStay (before after : AuthDb) : Prop :=
  ∀ id session, before.sessions.lookup id = some session →
    ∃ later, after.sessions.lookup id = some later ∧ SameGrant session later

section Staying

variable {service : AuthService} {context : CallContext} {db reached : AuthDb}

private theorem sessionsStay_refl (db : AuthDb) : SessionsStay db db :=
  fun _ session found => ⟨session, found, rfl, rfl, rfl, rfl⟩

private theorem SessionsStay.trans {first middle last : AuthDb}
    (before : SessionsStay first middle) (after : SessionsStay middle last) :
    SessionsStay first last := by
  intro id session found
  obtain ⟨kept, keptFound, same⟩ := before id session found
  obtain ⟨later, laterFound, sameLater⟩ := after id kept keptFound
  exact ⟨later, laterFound, sameLater.userId.trans same.userId,
    sameLater.organizationId.trans same.organizationId,
    sameLater.expiresAt.trans same.expiresAt,
    sameLater.accessRevokedBefore.trans same.accessRevokedBefore⟩

private theorem sessionsStay_revoked
    (familyId sessionId : Uuid) (now : Timestamp)
    (db : AuthDb) : SessionsStay db (revoked familyId sessionId now db) := by
  intro id session found
  refine ⟨revokeRow sessionId now session, ?_, ?_⟩
  · rw [lookup_sessions_revoked, found]
    rfl
  · rw [revokeRow]
    split
    · exact ⟨rfl, rfl, rfl, rfl⟩
    · exact ⟨rfl, rfl, rfl, rfl⟩

private theorem sessionsStay_rotatedDb (context : CallContext)
    (issued : IssuedOpaqueToken) (token : RefreshTokenRow)
    (session : SessionRow) (db : AuthDb) :
    SessionsStay db (rotatedDb context issued token session db) := by
  intro id stored found
  simp only [rotatedDb, applyWrite, Table.lookup_update, found,
    Option.map_some]
  refine ⟨_, rfl, ?_⟩
  split
  · exact ⟨rfl, rfl, rfl, rfl⟩
  · exact ⟨rfl, rfl, rfl, rfl⟩

private theorem sessionsStay_startedDb
    {issued : IssuedOpaqueToken} {user : LoginUser}
    (fresh : db.sessions.lookup context.sessionId = none) :
    SessionsStay db (startedDb context issued user db) := by
  intro id session found
  refine ⟨session, ?_, rfl, rfl, rfl, rfl⟩
  have different : (loginSession context issued user).id ≠ id := by
    intro same
    rw [show context.sessionId = id from same, found] at fresh
    cases fresh
  have sessions : (startedDb context issued user db).sessions =
      db.sessions.put (loginSession context issued user) := rfl
  rw [sessions, Table.lookup_put_of_ne different]
  exact found

private theorem LoginEnds.sessionsStay {answer : Except AuthError IssuedSession}
    (ended : LoginEnds service context db answer reached) :
    SessionsStay db reached := by
  cases ended with
  | refused failure => exact sessionsStay_refl db
  | started _ fresh _ _ => exact sessionsStay_startedDb fresh

private theorem RefreshEnds.sessionsStay {presented : Bytes}
    {answer : Except AuthError IssuedSession}
    (ended : RefreshEnds service context presented db answer reached) :
    SessionsStay db reached := by
  cases ended with
  | refused _ => exact sessionsStay_refl db
  | revoked _ _ => exact sessionsStay_revoked _ _ _ _
  | rotated _ _ _ => exact sessionsStay_rotatedDb _ _ _ _ _

private theorem LogoutEnds.sessionsStay {presented : Bytes}
    {answer : Except AuthError Unit}
    (ended : LogoutEnds service context presented db answer reached) :
    SessionsStay db reached := by
  cases ended with
  | unchanged _ => exact sessionsStay_refl db
  | revoked _ _ => exact sessionsStay_revoked _ _ _ _

private theorem sessionsStay_call
    (call : AuthCall) (plan : List (Option SqlError)) :
    SessionsStay db
      (((authClient service).program call).callFaulty plan db).2 := by
  cases call with
  | login context request =>
      exact ((login_endsIn request).callFaulty plan).sessionsStay
  | refresh context presented =>
      exact (refresh_endsIn.callFaulty plan).sessionsStay
  | logout context presented =>
      exact (logout_endsIn.callFaulty plan).sessionsStay

/-- No run of calls takes anything back that was granted to a session. -/
theorem sessionsStay_of_reachable {start : AuthDb}
    {later : (authSql service.lower).State}
    (reachable : (authClient service).Reachable (· = start) later) :
    SessionsStay start later := by
  induction reachable with
  | initial isStart =>
      subst isStart
      exact sessionsStay_refl _
  | call call plan _ inductionHypothesis =>
      exact inductionHypothesis.trans (sessionsStay_call call plan)

end Staying

/-- A login or a refresh has answered with the session. -/
inductive IssuedBy (service : AuthService) (context : CallContext)
    (db : AuthDb) (given : IssuedSession) (reached : AuthDb) : Prop
  | login (request : LoginRequest) (plan : List (Option SqlError)) :
      (login service context request).callFaulty plan db =
        (.ok given, reached) →
      IssuedBy service context db given reached
  | refresh (presented : Bytes) (plan : List (Option SqlError)) :
      (refresh service context presented).callFaulty plan db =
        (.ok given, reached) →
      IssuedBy service context db given reached

/-- The claims of the access token. -/
def grantedClaims (service : AuthService) (context : CallContext)
    (given : IssuedSession) : AccessClaims where
  iss := service.issuer
  aud := service.audience
  sub := given.identity.userId
  org := given.identity.organizationId
  sid := given.identity.sessionId
  jti := context.jti
  scopes := given.identity.permissions
  iat := unixSeconds context.now
  nbf := unixSeconds context.now
  exp := unixSeconds (context.now + intervalSeconds accessTtlSeconds)

section Issuing

variable {service : AuthService} {context : CallContext} {db reached : AuthDb}
  {given : IssuedSession}

/-- The session of the answer is in the table, and the token is signed. -/
theorem IssuedBy.granted
    (issuedBy : IssuedBy service context db given reached) :
    encodeAccessToken service.library (grantedClaims service context given)
        service.accessKey = .ok given.accessToken ∧
      ∃ session, reached.sessions.lookup given.identity.sessionId =
          some session ∧
        session.userId = given.identity.userId ∧
          session.organizationId = given.identity.organizationId := by
  cases issuedBy with
  | login request plan answered =>
      have ended := (@login_endsIn service context db request).callFaulty plan
      rw [answered] at ended
      cases ended with
      | @started issued user _ _ _ _ gives =>
          have granted := gives given rfl
          refine ⟨granted.accessToken, loginSession context issued user, ?_,
            granted.userId.symm, granted.organizationId.symm⟩
          rw [granted.sessionId]
          exact Table.lookup_put_self (loginSession context issued user)
            db.sessions
  | refresh presented plan answered =>
      have ended :=
        (@refresh_endsIn service context presented db).callFaulty plan
      rw [answered] at ended
      cases ended with
      | @rotated issued token session _ rotates gives _ =>
          have granted := gives given rfl
          obtain ⟨-, -, present⟩ := execSelectRefreshToken_eq_some rotates.found
          have sameId : session.id = token.sessionId :=
            Table.key_of_lookup present
          rw [← sameId] at present
          obtain ⟨later, found, same⟩ :=
            sessionsStay_rotatedDb context issued token session db _ _ present
          refine ⟨granted.accessToken, later, ?_,
            same.userId.trans granted.userId.symm,
            same.organizationId.trans granted.organizationId.symm⟩
          rw [granted.sessionId]
          exact found

/-! ## When it works -/

/-- The claims fit into a token, which is read up to 16384 bytes. -/
def ClaimsFit (library : TokenLibrary) (claims : AccessClaims) : Prop :=
  ∀ payload, library.claimsToVec claims = some payload → payload.length ≤ 12227

/-- The access token of an answer works at a time, with this row for its
session. -/
structure AccessWorks (service : AuthService) (context : CallContext)
    (given : IssuedSession) (session : SessionRow) (now : Timestamp) :
    Prop where
  fits : ClaimsFit service.library (grantedClaims service context given)
  begun : unixSeconds context.now ≤ unixSeconds now + 60
  live : unixSeconds now <
    unixSeconds (context.now + intervalSeconds accessTtlSeconds)
  notRevoked : session.revokedAt = none
  unexpired : now < session.expiresAt
  notCutOff : ∀ cutoff, session.accessRevokedBefore = some cutoff →
    unixSeconds cutoff < unixSeconds context.now

/-- A token that fits is decoded in its window. -/
theorem decode_of_fits {library : TokenLibrary} {key : AccessTokenKey}
    {claims : AccessClaims} {token : String} {instant : Int}
    (lawful : library.Lawful)
    (encoded : encodeAccessToken library claims key = .ok token)
    (issueClock : IsI64 claims.iat) (atOnce : claims.nbf = claims.iat)
    (fits : ClaimsFit library claims) (begun : claims.iat ≤ instant + 60)
    (live : instant < claims.exp) :
    decodeAccessToken library token key instant claims.iss claims.aud =
      .ok claims := by
  obtain ⟨valid, header, payload, hasHeader, hasClaims, isSigned⟩ :=
    encodeAccessToken_eq_ok encoded
  have small : (signed library key header payload).utf8ByteSize ≤ 16384 :=
    (signed_size_le_iff lawful (lawful.header_size header hasHeader)).mpr
      (fits payload hasClaims)
  have startClock : IsI64 claims.nbf := by
    rw [atOnce]
    exact issueClock
  have started : claims.nbf ≤ instant + 60 := by
    rw [atOnce]
    exact begun
  rw [isSigned]
  exact decodeAccessToken_signed lawful hasHeader hasClaims valid issueClock
    startClock live begun started small

/-- The token is decoded to its claims in its window, and to nothing else. -/
theorem decode_granted_iff (lawful : service.library.Lawful)
    (encoded : encodeAccessToken service.library
      (grantedClaims service context given) service.accessKey =
        .ok given.accessToken)
    (issueClock : IsI64 (unixSeconds context.now)) {now : Timestamp}
    (clock : IsI64 (unixSeconds now)) (claims : AccessClaims) :
    decodeAccessToken service.library given.accessToken service.accessKey
        (unixSeconds now) service.issuer service.audience = .ok claims ↔
      claims = grantedClaims service context given ∧
        ClaimsFit service.library (grantedClaims service context given) ∧
        unixSeconds context.now ≤ unixSeconds now + 60 ∧
        unixSeconds now <
          unixSeconds (context.now + intervalSeconds accessTtlSeconds) := by
  constructor
  · intro decoded
    obtain ⟨valid, header, payload, hasHeader, hasClaims, isSigned⟩ :=
      encodeAccessToken_eq_ok encoded
    have bounded : (grantedClaims service context given).Bounded :=
      (validateClaimLifetime_eq_ok_iff_bounded issueClock).mp valid
    obtain ⟨presents, timely⟩ := decodeAccessToken_eq_ok_iff.mp decoded
    -- A token that is small enough now was so when it was issued.
    have fits : ClaimsFit service.library
        (grantedClaims service context given) := by
      rw [isSigned] at decoded
      intro other hasOther
      cases hasClaims.symm.trans hasOther
      exact length_le_of_decoded lawful hasHeader decoded
    have atIssue := decode_of_fits lawful encoded issueClock rfl fits
      (Int.le_add_of_nonneg_right (by decide)) bounded.ends
    obtain ⟨presentsGranted, -⟩ := decodeAccessToken_eq_ok_iff.mp atIssue
    have same := presents.unique presentsGranted
    subst same
    have current := timely.current clock
    exact ⟨rfl, fits, current.known, current.live⟩
  · rintro ⟨rfl, fits, begun, live⟩
    have decoded := decode_of_fits lawful encoded issueClock rfl fits begun live
    exact decoded

/-- Which sessions accept the token is decided by the one it was issued for. -/
theorem sessionAccepted_iff (lawful : service.library.Lawful)
    (encoded : encodeAccessToken service.library
      (grantedClaims service context given) service.accessKey =
        .ok given.accessToken)
    (issueClock : IsI64 (unixSeconds context.now))
    {sessions : Table Uuid SessionRow SessionRow.id} {session : SessionRow}
    (found : sessions.lookup given.identity.sessionId = some session)
    (sameUser : session.userId = given.identity.userId)
    (sameOrganization : session.organizationId =
      given.identity.organizationId)
    {now : Timestamp} (clock : IsI64 (unixSeconds now)) (claims : AccessClaims)
    (other : SessionRow) :
    SessionAccepted service now given.accessToken sessions claims other ↔
      claims = grantedClaims service context given ∧ other = session ∧
        AccessWorks service context given session now := by
  have decodes :=
    decode_granted_iff lawful encoded issueClock clock claims
  constructor
  · rintro ⟨decoded, isOther, usable⟩
    obtain ⟨rfl, fits, begun, live⟩ := decodes.mp decoded
    have isSession : other = session :=
      Option.some.inj (isOther.symm.trans found)
    subst isSession
    exact ⟨rfl, rfl, fits, begun, live, usable.notRevoked, usable.live,
      usable.notCutOff⟩
  · rintro ⟨rfl, rfl, works⟩
    exact ⟨decodes.mpr ⟨rfl, works.fits, works.begun, works.live⟩, found,
      sameUser, sameOrganization, works.notRevoked, works.unexpired,
      works.notCutOff⟩

/-- An access token that a login or a refresh has given names a session that no
later call removes.  At any time both authenticators accept it exactly as long
as it works with the row that this session then has, the second one only while
the user is active, and both read the identity from it that was given. -/
theorem accessToken_works_iff (lawful : service.library.Lawful)
    (issueClock : IsI64 (unixSeconds context.now))
    (issuedBy : IssuedBy service context db given reached) {later : AuthDb}
    (reachable : (authClient service).Reachable (· = reached) later) :
    ∃ session, later.sessions.lookup given.identity.sessionId = some session ∧
      ∀ now, IsI64 (unixSeconds now) →
        (∀ identity,
          ((authenticateAccess service now given.accessToken).call later).1 =
              .ok identity ↔
            AccessWorks service context given session now ∧
              identity =
                { given.identity with
                  permissions := execSelectPermissions
                    given.identity.organizationId given.identity.userId
                      later }) ∧
        ∀ rbac principal,
          ((authenticate service.authorization now
              (some ("Bearer " ++ given.accessToken))).call
                (later.authorization rbac)).1 = .ok principal ↔
            AccessWorks service context given session now ∧
              UserActive later.users session ∧
              principal = given.identity.principal := by
  obtain ⟨encoded, issuedSession, issuedFound, issuedUser,
    issuedOrganization⟩ := issuedBy.granted
  obtain ⟨session, found, same⟩ :=
    sessionsStay_of_reachable reachable _ _ issuedFound
  have sameUser := same.userId.trans issuedUser
  have sameOrganization := same.organizationId.trans issuedOrganization
  refine ⟨session, found, fun now clock => ?_⟩
  have accepted := fun claims other => sessionAccepted_iff lawful encoded
    issueClock found sameUser sameOrganization clock claims other
  constructor
  · intro identity
    rw [authenticateAccess_ok_iff]
    constructor
    · rintro ⟨claims, other, isAccepted, rfl⟩
      obtain ⟨rfl, rfl, works⟩ := (accepted claims other).mp isAccepted
      rw [sameUser, sameOrganization]
      exact ⟨works, rfl⟩
    · rintro ⟨works, rfl⟩
      refine ⟨_, _, (accepted _ _).mpr ⟨rfl, rfl, works⟩, ?_⟩
      rw [sameUser, sameOrganization]
      rfl
  · intro rbac principal
    rw [authenticate_ok_iff]
    constructor
    · rintro ⟨claims, other, isAccepted, active, rfl⟩
      obtain ⟨rfl, rfl, works⟩ := (accepted claims other).mp isAccepted
      rw [sameUser, sameOrganization]
      exact ⟨works, active, rfl⟩
    · rintro ⟨works, active, rfl⟩
      refine ⟨_, _, (accepted _ _).mpr ⟨rfl, rfl, works⟩, active, ?_⟩
      rw [sameUser, sameOrganization]
      rfl

end Issuing

namespace Sample

/-- The codecs where the access tokens of the run need them. -/
def loginLibrary : TokenLibrary :=
  { codec with
    headerToVec := fun header =>
      if header = ⟨"HS256", "JWT"⟩ then some headerJson else none
    headerFromSlice := fun bytes =>
      if bytes = headerJson then some ⟨"HS256", "JWT"⟩ else none
    claimsToVec := fun claims =>
      if claims ∈ macs.map Prod.fst then some (claimsJson claims) else none }

private theorem toVec_loginLibrary {claims : AccessClaims} {bytes : Bytes}
    (written : loginLibrary.claimsToVec claims = some bytes) :
    claims ∈ macs.map Prod.fst ∧ claimsJson claims = bytes := by
  by_cases known : claims ∈ macs.map Prod.fst
  · simp only [loginLibrary, if_pos known, Option.some.injEq] at written
    exact ⟨known, written⟩
  · simp only [loginLibrary, if_neg known] at written
    cases written

private theorem read_loginLibrary : ∀ claims ∈ macs.map Prod.fst,
    loginLibrary.claimsFromSlice (claimsJson claims) = some claims := by
  decide +kernel

private theorem lawful_loginLibrary : loginLibrary.Lawful where
  decode_encode := Base64.decode_encode
  dot_notMem := Base64.dot_notMem_encode
  encode_size := Base64.utf8ByteSize_encode
  header_size := by
    intro bytes written
    cases written
    decide
  header_read := by
    intro header bytes written
    by_cases known : header = ⟨"HS256", "JWT"⟩
    · subst known
      cases written
      rfl
    · simp [loginLibrary, known] at written
  claims_read := by
    intro claims bytes written
    rcases toVec_loginLibrary written with ⟨known, rfl⟩
    exact read_loginLibrary claims known

private theorem claimsFit_loginLibrary (claims : AccessClaims) :
    ClaimsFit loginLibrary claims := by
  intro payload written
  rcases toVec_loginLibrary written with ⟨known, rfl⟩
  revert claims
  decide +kernel

def loginService : AuthService := { service with library := loginLibrary }

def firstLogin : Except AuthError IssuedSession × AuthDb :=
  (login loginService (context 10 1)
    ⟨"acme", "OPS@acme.test", "secret"⟩).callFaulty [] start

/-- The session has been refreshed. -/
def refreshed : AuthDb :=
  ((refresh loginService (context 11 2) firstCookie).callFaulty []
    firstLogin.2).2

/-- The refresh token of the refresh. -/
def secondCookie : Bytes :=
  utf8Bytes "snm_rt_AgICAgICAgICAgICAgICAgICAgICAgICAgICAgICAgI"

/-- The session has been refreshed and ended. -/
def ended : AuthDb :=
  ((logout loginService (context 12 3) secondCookie).callFaulty [] refreshed).2

private theorem refreshed_reachable :
    (authClient loginService).Reachable (· = firstLogin.2) refreshed :=
  @Client.Reachable.call _ _ (authClient loginService) _ _
    (AuthCall.refresh (context 11 2) firstCookie) [] (.initial rfl)

private theorem ended_reachable :
    (authClient loginService).Reachable (· = firstLogin.2) ended :=
  @Client.Reachable.call _ _ (authClient loginService) _ _
    (AuthCall.logout (context 12 3) secondCookie) [] refreshed_reachable

end Sample

/-- After a refresh both authenticators still accept the token of the login, and
after a logout with the second cookie neither does. -/
theorem accessToken_works_login :
    ∃ given, Sample.firstLogin.1 = .ok given ∧
      Sample.refreshed.refreshTokens.rows.length = 2 ∧
      (∃ identity, ((authenticateAccess Sample.loginService 2000000
        given.accessToken).call Sample.refreshed).1 = .ok identity) ∧
      (∃ principal, ((authenticate Sample.loginService.authorization 2000000
        (some ("Bearer " ++ given.accessToken))).call
          (Sample.refreshed.authorization Sample.noRoles)).1 =
            .ok principal) ∧
      (∀ identity, ((authenticateAccess Sample.loginService 2000000
        given.accessToken).call Sample.ended).1 ≠ .ok identity) ∧
      ∀ principal, ((authenticate Sample.loginService.authorization 2000000
        (some ("Bearer " ++ given.accessToken))).call
          (Sample.ended.authorization Sample.noRoles)).1 ≠ .ok principal := by
  have isOk : Sample.firstLogin.1.toOption.isSome = true := by decide
  have rows : ∀ session ∈ Sample.refreshed.sessions.rows,
      session.revokedAt = none ∧ 2000000 < session.expiresAt ∧
        session.accessRevokedBefore = none ∧
        (Sample.refreshed.users.lookup session.userId).map
          (fun user => (user.organizationId, user.status)) =
            some (session.organizationId, .active) := by
    decide
  have endedRows : ∀ session ∈ Sample.ended.sessions.rows,
      session.revokedAt ≠ none := by
    decide
  obtain ⟨given, isGiven⟩ : ∃ given, Sample.firstLogin.1 = .ok given := by
    cases answer : Sample.firstLogin.1 with
    | error failure =>
        rw [answer] at isOk
        cases isOk
    | ok given => exact ⟨given, rfl⟩
  have issuedBy : IssuedBy Sample.loginService (Sample.context 10 1)
      Sample.start given Sample.firstLogin.2 :=
    .login _ [] (Prod.ext isGiven rfl)
  obtain ⟨session, found, accepts⟩ := accessToken_works_iff
    Sample.lawful_loginLibrary (by decide) issuedBy Sample.refreshed_reachable
  obtain ⟨notRevoked, unexpired, notCutOff, isActive⟩ :=
    rows session (Table.mem_of_lookup found)
  obtain ⟨user, isUser, fields⟩ := Option.map_eq_some_iff.mp isActive
  have active : UserActive Sample.refreshed.users session :=
    ⟨user, isUser, congrArg Prod.fst fields, congrArg Prod.snd fields⟩
  have works : AccessWorks Sample.loginService (Sample.context 10 1) given
      session 2000000 :=
    { fits := Sample.claimsFit_loginLibrary _
      begun := by decide
      live := by decide
      notRevoked
      unexpired
      notCutOff := by rw [notCutOff]; rintro _ ⟨⟩ }
  obtain ⟨identity, principal⟩ := accepts 2000000 (by decide)
  obtain ⟨endedSession, endedFound, refuses⟩ := accessToken_works_iff
    Sample.lawful_loginLibrary (by decide) issuedBy Sample.ended_reachable
  have revoked := endedRows endedSession (Table.mem_of_lookup endedFound)
  obtain ⟨noIdentity, noPrincipal⟩ := refuses 2000000 (by decide)
  refine ⟨given, isGiven, by decide, ⟨_, (identity _).mpr ⟨works, rfl⟩⟩,
    ⟨_, (principal _ _).mpr ⟨works, active, rfl⟩⟩, ?_, ?_⟩
  · intro identity accepted
    exact revoked ((noIdentity identity).mp accepted).1.notRevoked
  · intro principal accepted
    exact revoked ((noPrincipal _ principal).mp accepted).1.notRevoked

end NetworkManager.Backend
