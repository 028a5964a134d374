import NetworkManager.Backend.Auth
import NetworkManager.IdentityStore.Rbac

/-!
# The authorization service

A request is made by the user of a live session, and is allowed at a site if a
role of that user there holds the permission that the request needs.
-/

namespace NetworkManager.Backend

open NetworkManager.Foundation
open NetworkManager.IdentityStore
open NetworkManager.Security.Token
open NetworkManager.Transaction

/-- What the service reads. -/
structure AuthorizationDb where
  users : Table Uuid UserRow UserRow.id
  sessions : Table Uuid SessionRow SessionRow.id
  rbac : Rbac

inductive AuthorizationQuery where
  /-- A session joined with its user. -/
  | selectPrincipal (sessionId : Uuid)
  | selectAllowed (organizationId userId : Uuid) (permission : String)
      (siteId : Uuid)

abbrev AuthorizationReply : AuthorizationQuery → Type
  | .selectPrincipal _ => Option (SessionRow × UserStatus)
  | .selectAllowed .. => Bool

def execSelectPrincipal (sessionId : Uuid) (db : AuthorizationDb) :
    Option (SessionRow × UserStatus) :=
  (db.sessions.lookup sessionId).bind fun session =>
    ((db.users.lookup session.userId).filter fun user =>
      decide (user.organizationId = session.organizationId)).map fun user =>
        (session, user.status)

def execSelectAllowed (organizationId userId : Uuid) (permission : String)
    (siteId : Uuid) (db : AuthorizationDb) : Bool :=
  (db.rbac.sites.lookup siteId).any fun site =>
    decide (site.organizationId = organizationId) &&
      db.rbac.roleBindings.rows.any fun binding =>
        decide (binding.organizationId = site.organizationId) &&
          decide (binding.userId = some userId) &&
          binding.covers site.id &&
          (db.rbac.roles.lookup binding.roleId).any (fun role =>
            role.organizationId.all fun owner =>
              decide (owner = organizationId)) &&
          db.rbac.holds binding.roleId permission

/-- The database of the service, which only reads it. -/
abbrev authorizationSql : Database where
  Statement := AuthorizationQuery
  Reply := AuthorizationReply
  Fault := SqlError
  State := AuthorizationDb
  Write := Empty
  apply := nofun
  exec
    | .selectPrincipal sessionId, db =>
        .ok (execSelectPrincipal sessionId db, [])
    | .selectAllowed organizationId userId permission siteId, db =>
        .ok (execSelectAllowed organizationId userId permission siteId db, [])

inductive AuthorizationError where
  | invalidSession
  | permissionDenied
  | unavailable
deriving DecidableEq, Repr

structure AuthorizationService where
  library : TokenLibrary
  accessKey : AccessTokenKey
  issuer : String
  audience : String

structure Principal where
  sessionId : Uuid
  userId : Uuid
  organizationId : Uuid
deriving DecidableEq, Repr

/-- `bearer_token`, of the text of the `Authorization` header. -/
def bearerToken (authorization : Option String) : Option String :=
  (authorization.bind fun value =>
    if "Bearer ".toList.isPrefixOf value.toList then
      some (String.ofList (value.toList.drop 7))
    else
      none).filter fun token => !token.isEmpty

/-- A program of the service. -/
abbrev AuthorizationStore (α : Type) : Type :=
  Program authorizationSql AuthorizationError α

def authorizationQuery (statement : AuthorizationQuery) :
    AuthorizationStore (AuthorizationReply statement) :=
  Program.statement (D := authorizationSql) statement fun _ => .unavailable

def authenticate (service : AuthorizationService) (now : Timestamp)
    (authorization : Option String) : AuthorizationStore Principal := do
  let token ← Program.ofExcept
    ((bearerToken authorization).elim (.error .invalidSession) .ok)
  let claims ← Program.ofExcept
    ((decodeAccessToken service.library token service.accessKey
      (unixSeconds now) service.issuer service.audience).mapError fun _ =>
        .invalidSession)
  let row ← authorizationQuery (.selectPrincipal claims.sid)
  match row with
  | none => throw .invalidSession
  | some (session, userStatus) =>
      if session.userId ≠ claims.sub ∨ session.organizationId ≠ claims.org ∨
          userStatus ≠ .active ∨ session.revokedAt.isSome ∨
          session.expiresAt ≤ now ∨
          session.accessRevokedBefore.any (fun cutoff =>
            decide (claims.iat ≤ unixSeconds cutoff)) then
        throw .invalidSession
      else
        return ⟨claims.sid, session.userId, session.organizationId⟩

def requireSitePermission (principal : Principal) (siteId : Uuid)
    (permission : String) : AuthorizationStore Unit := do
  Program.check (!(isBlank permission ||
    decide (120 < permission.utf8ByteSize))) .permissionDenied
  let allowed ← authorizationQuery (.selectAllowed principal.organizationId
    principal.userId permission siteId)
  if allowed then
    return ()
  else
    throw .permissionDenied

end NetworkManager.Backend
