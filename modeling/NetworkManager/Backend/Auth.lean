import Mathlib.Data.List.Sort
import NetworkManager.Foundation.Table
import NetworkManager.Foundation.Text
import NetworkManager.Security.Token
import NetworkManager.Transaction.Calls

/-!
# The authentication service

Login starts a session and a family of refresh tokens; each refresh consumes
the current token of the family and adds the next one.  Presenting a token that
is consumed or revoked revokes the whole family and its session.

A call gets the times, the identifiers and the random bytes that it would draw
as an argument.
-/

namespace NetworkManager.Backend

open NetworkManager.Foundation
open NetworkManager.Security.Token
open NetworkManager.Transaction

structure OrganizationRow where
  id : Uuid
  slug : String
deriving DecidableEq, Repr

inductive UserStatus where
  | active
  | disabled
  | pending
deriving DecidableEq, Repr

structure UserRow where
  id : Uuid
  organizationId : Uuid
  email : String
  status : UserStatus
  passwordHash : Option String
  lastLoginAt : Option Timestamp
deriving DecidableEq, Repr

structure SessionRow where
  id : Uuid
  organizationId : Uuid
  userId : Uuid
  refreshTokenHash : FixedBytes 32
  refreshTokenPrefix : String
  expiresAt : Timestamp
  lastUsedAt : Option Timestamp
  authTime : Timestamp
  revokedAt : Option Timestamp
  accessRevokedBefore : Option Timestamp
  createdAt : Timestamp
deriving DecidableEq

structure RefreshTokenRow where
  id : Uuid
  sessionId : Uuid
  familyId : Uuid
  generation : Int
  tokenPrefix : String
  tokenHash : FixedBytes 32
  expiresAt : Timestamp
  consumedAt : Option Timestamp
  revokedAt : Option Timestamp
  replacedById : Option Uuid
  createdAt : Timestamp
deriving DecidableEq

structure RoleBindingRow where
  organizationId : Uuid
  roleId : Uuid
  userId : Option Uuid
deriving DecidableEq, Repr

structure AuthDb where
  organizations : Table Uuid OrganizationRow OrganizationRow.id
  users : Table Uuid UserRow UserRow.id
  sessions : Table Uuid SessionRow SessionRow.id
  refreshTokens : Table Uuid RefreshTokenRow RefreshTokenRow.id
  roleBindings : List RoleBindingRow
  /-- Role and permission. -/
  rolePermissions : List (Uuid × Uuid)
  /-- Permission and its code. -/
  permissions : List (Uuid × String)

structure LoginUser where
  userId : Uuid
  organizationId : Uuid
  passwordHash : Option String
deriving DecidableEq, Repr

inductive Statement where
  | selectLoginUser (organizationSlug email : String)
  | insertSession (row : SessionRow)
  | insertRefreshToken (row : RefreshTokenRow)
  | updateLastLogin (userId : Uuid) (now : Timestamp)
  /-- The token with a hash joined with its session. -/
  | selectRefreshToken (hash : FixedBytes 32)
  | consumeRefreshToken (id : Uuid) (now : Timestamp) (nextId : Uuid)
  | updateSessionToken (sessionId : Uuid) (hash : FixedBytes 32)
      (tokenPrefix : String) (now : Timestamp)
  | revokeTokens (familyId : Uuid) (now : Timestamp)
  | revokeSession (sessionId : Uuid) (now : Timestamp)
  | selectFamily (hash : FixedBytes 32)
  | selectSession (sessionId : Uuid)
  | selectPermissions (organizationId userId : Uuid)

abbrev Reply : Statement → Type
  | .selectLoginUser _ _ => Option LoginUser
  | .insertSession _ => Unit
  | .insertRefreshToken _ => Unit
  | .updateLastLogin _ _ => Unit
  | .selectRefreshToken _ => Option (RefreshTokenRow × SessionRow)
  | .consumeRefreshToken .. => Unit
  | .updateSessionToken .. => Unit
  | .revokeTokens _ _ => Unit
  | .revokeSession _ _ => Unit
  | .selectFamily _ => Option (Uuid × Uuid)
  | .selectSession _ => Option SessionRow
  | .selectPermissions _ _ => List String

inductive Write where
  | session (row : SessionRow)
  | refreshToken (row : RefreshTokenRow)
  | lastLogin (userId : Uuid) (now : Timestamp)
  | consumed (id : Uuid) (now : Timestamp) (nextId : Uuid)
  | sessionToken (sessionId : Uuid) (hash : FixedBytes 32)
      (tokenPrefix : String) (now : Timestamp)
  | tokensRevoked (familyId : Uuid) (now : Timestamp)
  | sessionRevoked (sessionId : Uuid) (now : Timestamp)

def applyWrite : Write → AuthDb → AuthDb
  | .session row, db => { db with sessions := db.sessions.put row }
  | .refreshToken row, db =>
      { db with refreshTokens := db.refreshTokens.put row }
  | .lastLogin userId now, db =>
      { db with
        users := db.users.update (fun user => user.id = userId)
          (fun user => { user with lastLoginAt := some now }) fun _ => rfl }
  | .consumed id now nextId, db =>
      { db with
        refreshTokens := db.refreshTokens.update (fun token => token.id = id)
          (fun token =>
            { token with consumedAt := some now, replacedById := some nextId })
          fun _ => rfl }
  | .sessionToken sessionId hash tokenPrefix now, db =>
      { db with
        sessions := db.sessions.update (fun session => session.id = sessionId)
          (fun session =>
            { session with
              refreshTokenHash := hash
              refreshTokenPrefix := tokenPrefix
              lastUsedAt := some now }) fun _ => rfl }
  | .tokensRevoked familyId now, db =>
      { db with
        refreshTokens :=
          db.refreshTokens.update (fun token => token.familyId = familyId)
            (fun token =>
              { token with revokedAt := token.revokedAt.or (some now) })
            fun _ => rfl }
  | .sessionRevoked sessionId now, db =>
      { db with
        sessions := db.sessions.update (fun session => session.id = sessionId)
          (fun session =>
            { session with revokedAt := session.revokedAt.or (some now) })
          fun _ => rfl }

/-- `lower` of the database is a parameter: it depends on the locale. -/
def execSelectLoginUser (lower : String → String)
    (organizationSlug email : String) (db : AuthDb) : Option LoginUser :=
  (db.users.rows.find? fun user =>
      db.organizations.rows.any (fun organization =>
        organization.id = user.organizationId ∧
          organization.slug = organizationSlug) &&
        decide (lower user.email = lower email) &&
        decide (user.status = .active)).map fun user =>
    ⟨user.id, user.organizationId, user.passwordHash⟩

def execInsertSession (row : SessionRow) (db : AuthDb) :
    Except SqlError (Unit × List Write) :=
  if (db.sessions.lookup row.id).isSome then
    .error (.uniqueViolation "sessions_pkey")
  else if (db.users.lookup row.userId).isNone then
    .error (.foreignKeyViolation "sessions_user_id_fkey")
  else if row.expiresAt ≤ row.createdAt then
    .error (.checkViolation "sessions_expiry_after_creation")
  else
    .ok ((), [.session row])

def execInsertRefreshToken (row : RefreshTokenRow) (db : AuthDb) :
    Except SqlError (Unit × List Write) :=
  if (db.refreshTokens.lookup row.id).isSome then
    .error (.uniqueViolation "session_refresh_tokens_pkey")
  else if db.refreshTokens.rows.any fun token =>
      token.tokenHash = row.tokenHash then
    .error (.uniqueViolation "session_refresh_tokens_token_hash_key")
  else if db.refreshTokens.rows.any fun token =>
      token.familyId = row.familyId ∧ token.generation = row.generation then
    .error (.uniqueViolation
      "session_refresh_tokens_family_id_generation_key")
  else if (db.sessions.lookup row.sessionId).isNone then
    .error (.foreignKeyViolation "session_refresh_tokens_session_id_fkey")
  else if row.generation < 0 then
    .error (.checkViolation "session_refresh_tokens_generation_check")
  else if row.expiresAt ≤ row.createdAt then
    .error (.checkViolation "session_refresh_tokens_check")
  else
    .ok ((), [.refreshToken row])

/-- The trigger `validate_refresh_replacement`.  It is deferred to the commit,
but nothing after the update changes the rows it reads. -/
def replacementAllowed (token : RefreshTokenRow) (nextId : Uuid)
    (db : AuthDb) : Bool :=
  (db.refreshTokens.lookup nextId).any fun next =>
    next.familyId = token.familyId ∧ next.generation = token.generation + 1

def execConsumeRefreshToken (id : Uuid) (now : Timestamp) (nextId : Uuid)
    (db : AuthDb) : Except SqlError (Unit × List Write) :=
  if (db.refreshTokens.lookup id).all fun token =>
      replacementAllowed token nextId db then
    .ok ((), [.consumed id now nextId])
  else
    .error (.other "raise_exception")

def execSelectRefreshToken (hash : FixedBytes 32) (db : AuthDb) :
    Option (RefreshTokenRow × SessionRow) :=
  match db.refreshTokens.rows.find? fun token => token.tokenHash = hash with
  | none => none
  | some token =>
      (db.sessions.lookup token.sessionId).map fun session => (token, session)

/-- The distinct codes of the permissions that the user's roles hold, in
order. -/
def execSelectPermissions (organizationId userId : Uuid) (db : AuthDb) :
    List String :=
  let held :=
    db.permissions.filter fun permission =>
      db.rolePermissions.any fun granted =>
        decide (granted.2 = permission.1) &&
          db.roleBindings.any fun binding =>
            binding.roleId = granted.1 ∧
              binding.organizationId = organizationId ∧
              binding.userId = some userId
  ((held.map Prod.snd).dedup).insertionSort (· ≤ ·)

/-- The database of the service. -/
abbrev authSql (lower : String → String) : Database where
  Statement := Statement
  Reply := Reply
  Fault := SqlError
  State := AuthDb
  Write := Write
  apply := applyWrite
  exec
    | .selectLoginUser organizationSlug email, db =>
        .ok (execSelectLoginUser lower organizationSlug email db, [])
    | .insertSession row, db => execInsertSession row db
    | .insertRefreshToken row, db => execInsertRefreshToken row db
    | .updateLastLogin userId now, _ => .ok ((), [.lastLogin userId now])
    | .selectRefreshToken hash, db => .ok (execSelectRefreshToken hash db, [])
    | .consumeRefreshToken id now nextId, db =>
        execConsumeRefreshToken id now nextId db
    | .updateSessionToken sessionId hash tokenPrefix now, _ =>
        .ok ((), [.sessionToken sessionId hash tokenPrefix now])
    | .revokeTokens familyId now, _ => .ok ((), [.tokensRevoked familyId now])
    | .revokeSession sessionId now, _ =>
        .ok ((), [.sessionRevoked sessionId now])
    | .selectFamily hash, db =>
        .ok ((db.refreshTokens.rows.find? fun token =>
          token.tokenHash = hash).map fun token =>
            (token.familyId, token.sessionId), [])
    | .selectSession sessionId, db => .ok (db.sessions.lookup sessionId, [])
    | .selectPermissions organizationId userId, db =>
        .ok (execSelectPermissions organizationId userId db, [])

/-! ## The operations -/

inductive AuthError where
  | invalidCredentials
  | invalidSession
  | refreshReuseDetected
  | csrfRejected
  | invalidRequest
  | unavailable
deriving DecidableEq, Repr

structure AuthService where
  library : TokenLibrary
  accessKey : AccessTokenKey
  issuer : String
  audience : String
  dummyPasswordHash : String
  /-- `verify_password`, with its error taken as a refusal. -/
  verifyPassword : Bytes → String → Bool
  /-- `lower` of the database. -/
  lower : String → String

structure LoginRequest where
  organizationSlug : String
  email : String
  password : String
deriving DecidableEq, Repr

structure SessionIdentity where
  sessionId : Uuid
  userId : Uuid
  organizationId : Uuid
  permissions : List String
deriving DecidableEq, Repr

structure IssuedSession where
  identity : SessionIdentity
  accessToken : String
  refreshToken : IssuedOpaqueToken
  csrfToken : IssuedOpaqueToken
deriving DecidableEq

/-- What a call draws from its surroundings: the clock of the service and that
of the database, new identifiers, and random bytes. -/
structure CallContext where
  now : Timestamp
  dbNow : Timestamp
  sessionId : Uuid
  familyId : Uuid
  tokenId : Uuid
  jti : Uuid
  refreshRandom : FixedBytes 32
  csrfRandom : FixedBytes 32

def accessTtlSeconds : Int := 10 * 60

def refreshTtlDays : Int := 30

def refreshPrefix : String := "snm_rt"

def csrfPrefix : String := "csrf"

/-- `DateTime::timestamp`, in whole seconds. -/
def unixSeconds (instant : Timestamp) : Int := instant / 1000000

/-- A sum of type `i64` that wraps. -/
def wrappingAdd (left right : Int) : Int := (left + right).bmod (2 ^ 64)

section Operations

variable (service : AuthService)

/-- A program of the service. -/
abbrev Store (α : Type) : Type := Program (authSql service.lower) AuthError α

def query (statement : Statement) : Store service (Reply statement) :=
  Program.statement (D := authSql service.lower) statement fun _ =>
    .unavailable

def commit : Store service Unit := Program.commitNow fun _ => .unavailable

/-- Every failure of the token functions makes the service unavailable. -/
def available {α : Type} (outcome : Except TokenError α) : Store service α :=
  .ofExcept (outcome.mapError fun _ => .unavailable)

def issueAccessToken (context : CallContext) (identity : SessionIdentity) :
    Except TokenError String :=
  encodeAccessToken service.library
    { iss := service.issuer
      aud := service.audience
      sub := identity.userId
      org := identity.organizationId
      sid := identity.sessionId
      jti := context.jti
      scopes := identity.permissions
      iat := unixSeconds context.now
      nbf := unixSeconds context.now
      exp := unixSeconds (context.now + intervalSeconds accessTtlSeconds) }
    service.accessKey

def requestRefused (request : LoginRequest) : Bool :=
  decide (128 < request.organizationSlug.utf8ByteSize) ||
    decide (320 < request.email.utf8ByteSize) ||
    decide (1024 < request.password.utf8ByteSize) ||
    isBlank request.organizationSlug || isBlank request.email

def login (context : CallContext) (request : LoginRequest) :
    Store service IssuedSession := do
  Program.check (!requestRefused request) .invalidCredentials
  let user ←
    query service (.selectLoginUser request.organizationSlug request.email)
  let encoded := (user.bind LoginUser.passwordHash).getD
    service.dummyPasswordHash
  let verified := service.verifyPassword (utf8Bytes request.password) encoded
  match user with
  | none => throw .invalidCredentials
  | some user => do
      Program.check (verified && user.passwordHash.isSome) .invalidCredentials
      let refresh ← available service
        (issueOpaqueToken service.library refreshPrefix context.refreshRandom)
      let csrf ← available service
        (issueOpaqueToken service.library csrfPrefix context.csrfRandom)
      let expiresAt :=
        context.now + intervalSeconds (refreshTtlDays * (24 * 60 * 60))
      query service (.insertSession
        { id := context.sessionId
          organizationId := user.organizationId
          userId := user.userId
          refreshTokenHash := refresh.hash
          refreshTokenPrefix := refresh.visiblePrefix
          expiresAt
          lastUsedAt := some context.now
          authTime := context.now
          revokedAt := none
          accessRevokedBefore := none
          createdAt := context.dbNow })
      query service (.insertRefreshToken
        { id := context.tokenId
          sessionId := context.sessionId
          familyId := context.familyId
          generation := 0
          tokenPrefix := refresh.visiblePrefix
          tokenHash := refresh.hash
          expiresAt
          consumedAt := none
          revokedAt := none
          replacedById := none
          createdAt := context.dbNow })
      query service (.updateLastLogin user.userId context.now)
      commit service
      let permissions ←
        query service (.selectPermissions user.organizationId user.userId)
      let identity : SessionIdentity :=
        { sessionId := context.sessionId
          userId := user.userId
          organizationId := user.organizationId
          permissions }
      let accessToken ←
        available service (issueAccessToken service context identity)
      return ⟨identity, accessToken, refresh, csrf⟩

def revokeFamily (familyId sessionId : Uuid) (now : Timestamp) :
    Store service Unit := do
  query service (.revokeTokens familyId now)
  query service (.revokeSession sessionId now)

def refresh (context : CallContext) (presented : Bytes) :
    Store service IssuedSession := do
  let presentedHash := hashOpaqueToken service.library presented
  let nextRefresh ← available service
    (issueOpaqueToken service.library refreshPrefix context.refreshRandom)
  let csrf ← available service
    (issueOpaqueToken service.library csrfPrefix context.csrfRandom)
  let row ← query service (.selectRefreshToken presentedHash)
  match row with
  | none => throw .invalidSession
  | some (token, session) =>
      if token.consumedAt.isSome || token.revokedAt.isSome ||
          session.revokedAt.isSome then do
        revokeFamily service token.familyId token.sessionId context.now
        commit service
        throw .refreshReuseDetected
      else if token.expiresAt ≤ context.now ∨
          session.expiresAt ≤ context.now then do
        revokeFamily service token.familyId token.sessionId context.now
        commit service
        throw .invalidSession
      else do
        query service (.insertRefreshToken
          { id := context.tokenId
            sessionId := token.sessionId
            familyId := token.familyId
            generation := wrappingAdd token.generation 1
            tokenPrefix := nextRefresh.visiblePrefix
            tokenHash := nextRefresh.hash
            expiresAt := session.expiresAt
            consumedAt := none
            revokedAt := none
            replacedById := none
            createdAt := context.dbNow })
        query service
          (.consumeRefreshToken token.id context.now context.tokenId)
        query service (.updateSessionToken token.sessionId nextRefresh.hash
          nextRefresh.visiblePrefix context.now)
        commit service
        let permissions ←
          query service
            (.selectPermissions session.organizationId session.userId)
        let identity : SessionIdentity :=
          { sessionId := token.sessionId
            userId := session.userId
            organizationId := session.organizationId
            permissions }
        let accessToken ←
          available service (issueAccessToken service context identity)
        return ⟨identity, accessToken, nextRefresh, csrf⟩

def logout (context : CallContext) (presented : Bytes) :
    Store service Unit := do
  let tokenHash := hashOpaqueToken service.library presented
  let row ← query service (.selectFamily tokenHash)
  match row with
  | none => commit service
  | some (familyId, sessionId) => do
      revokeFamily service familyId sessionId context.now
      commit service

def authenticateAccess (now : Timestamp) (token : String) :
    Store service SessionIdentity := do
  let claims ← Program.ofExcept
    ((decodeAccessToken service.library token service.accessKey
      (unixSeconds now) service.issuer service.audience).mapError fun _ =>
        .invalidSession)
  let row ← query service (.selectSession claims.sid)
  match row with
  | none => throw .invalidSession
  | some session =>
      if session.userId ≠ claims.sub ∨ session.organizationId ≠ claims.org ∨
          session.revokedAt.isSome ∨ session.expiresAt ≤ now ∨
          session.accessRevokedBefore.any (fun cutoff =>
            decide (claims.iat ≤ unixSeconds cutoff)) then
        throw .invalidSession
      else do
        let permissions ←
          query service
            (.selectPermissions session.organizationId session.userId)
        return ⟨claims.sid, session.userId, session.organizationId,
          permissions⟩

end Operations

end NetworkManager.Backend
