import Mathlib.Data.List.Dedup
import Mathlib.Data.List.Sort
import Mathlib.Data.String.Basic
import NetworkManager.Foundation.IpAddr
import NetworkManager.Foundation.Text
import NetworkManager.IdentityStore.Rbac
import NetworkManager.Security.Token
import NetworkManager.Transaction.Calls

/-!
# The service account store

A service account authenticates with an opaque token.  The credential that a
token belongs to limits the permissions of the account to some scopes, and the
use of the token to some networks and until some time.

Every statement outside `disableAccount` is a transaction of its own.
-/

namespace NetworkManager.IdentityStore

open NetworkManager.Foundation
open NetworkManager.Security.Token
open NetworkManager.Transaction

inductive AccountStatus where
  | active
  | disabled
deriving DecidableEq, Repr

def AccountStatus.text : AccountStatus → String
  | .active => "active"
  | .disabled => "disabled"

structure AccountRow where
  id : Uuid
  organizationId : Uuid
  name : String
  status : AccountStatus
deriving DecidableEq, Repr

structure CredentialRow where
  id : Uuid
  serviceAccountId : Uuid
  tokenPrefix : String
  tokenHash : Bytes
  scopes : List String
  allowedCidrs : List Cidr
  expiresAt : Option Timestamp
  revokedAt : Option Timestamp
  lastUsedAt : Option Timestamp
deriving DecidableEq

/-- The tables of the store, and the identifiers of the organizations. -/
structure ServiceAccountDb where
  organizations : List Uuid
  accounts : Table Uuid AccountRow AccountRow.id
  credentials : Table Uuid CredentialRow CredentialRow.id
  rbac : Rbac

def CredentialRow.revoke (now : Timestamp) (row : CredentialRow) :
    CredentialRow :=
  { row with revokedAt := some (row.revokedAt.getD now) }

def CredentialRow.use (now : Timestamp) (row : CredentialRow) :
    CredentialRow :=
  { row with lastUsedAt := some now }

theorem CredentialRow.id_revoke (now : Timestamp) (row : CredentialRow) :
    (row.revoke now).id = row.id := rfl

theorem CredentialRow.id_use (now : Timestamp) (row : CredentialRow) :
    (row.use now).id = row.id := rfl

def AccountRow.disable (row : AccountRow) : AccountRow :=
  { row with status := .disabled }

theorem AccountRow.id_disable (row : AccountRow) : row.disable.id = row.id := rfl

/-- The codes of the permissions that the roles of an account hold, each of
them once. -/
def Rbac.accountPermissions (rbac : Rbac)
    (organizationId serviceAccountId : Uuid) : List String :=
  let bindings := rbac.roleBindings.rows.filter fun binding =>
    decide (binding.organizationId = organizationId) &&
      decide (binding.serviceAccountId = some serviceAccountId)
  let granted := bindings.flatMap fun binding =>
    rbac.rolePermissions.filter fun row => decide (row.roleId = binding.roleId)
  let codes := granted.flatMap fun row =>
    (rbac.permissions.rows.filter fun permission =>
      decide (permission.id = row.permissionId)).map PermissionRow.code
  codes.dedup.insertionSort (· ≤ ·)

/-- The values that an `INSERT` of a credential gives to the columns. -/
structure CredentialColumns where
  id : Uuid
  serviceAccountId : Uuid
  tokenPrefix : String
  tokenHash : Bytes
  scopes : List String
  allowedCidrs : List String
  expiresAt : Option Int
deriving DecidableEq

/-- A row of the query of `authenticate`. -/
structure CandidateRow where
  credential : CredentialRow
  organizationId : Uuid
  rbacPermissions : List String
deriving DecidableEq

inductive Statement where
  | insertAccount (row : AccountRow)
  | disableAccount (accountId organizationId : Uuid)
  | revokeCredentials (accountId : Uuid) (now : Timestamp)
  | insertCredential (organizationId : Uuid) (columns : CredentialColumns)
  | revokeCredential (credentialId accountId organizationId : Uuid)
      (now : Timestamp)
  | selectCandidates (tokenPrefix : String) (sourceIp : IpAddr)
      (now : Timestamp)
  | updateLastUsed (credentialId : Uuid) (now : Timestamp)
  | insertBinding (row : BindingRow)

abbrev Reply : Statement → Type
  | .insertAccount _ => AccountRow
  | .disableAccount .. => Nat
  | .revokeCredentials .. => Unit
  | .insertCredential .. => Nat
  | .revokeCredential .. => Nat
  | .selectCandidates .. => List CandidateRow
  | .updateLastUsed .. => Unit
  | .insertBinding _ => Unit

inductive Write where
  | account (row : AccountRow)
  | accountDisabled (accountId : Uuid)
  | credential (row : CredentialRow)
  | credentialsRevoked (accountId : Uuid) (now : Timestamp)
  | credentialRevoked (credentialId : Uuid) (now : Timestamp)
  | credentialUsed (credentialId : Uuid) (now : Timestamp)
  | binding (row : BindingRow)

def applyWrite : Write → ServiceAccountDb → ServiceAccountDb
  | .account row, db => { db with accounts := db.accounts.put row }
  | .accountDisabled accountId, db =>
      { db with
        accounts := db.accounts.update (fun row => row.id = accountId)
          AccountRow.disable AccountRow.id_disable }
  | .credential row, db => { db with credentials := db.credentials.put row }
  | .credentialsRevoked accountId now, db =>
      { db with
        credentials := db.credentials.update
          (fun row => row.serviceAccountId = accountId)
          (CredentialRow.revoke now) (CredentialRow.id_revoke now) }
  | .credentialRevoked credentialId now, db =>
      { db with
        credentials := db.credentials.update (fun row => row.id = credentialId)
          (CredentialRow.revoke now) (CredentialRow.id_revoke now) }
  | .credentialUsed credentialId now, db =>
      { db with
        credentials := db.credentials.update (fun row => row.id = credentialId)
          (CredentialRow.use now) (CredentialRow.id_use now) }
  | .binding row, db =>
      { db with
        rbac :=
          { db.rbac with roleBindings := db.rbac.roleBindings.put row } }

/-- `to_timestamp`, which is defined from 4714 BC to 294276 AD. -/
def toTimestamp (seconds : Int) : Except SqlError Timestamp :=
  if -210866803200 ≤ seconds ∧ seconds < 9224318016000 then
    .ok (1000000 * seconds)
  else
    .error (.other "timestamp out of range")

/-- The account with an identifier, within an organization. -/
def ServiceAccountDb.account (db : ServiceAccountDb)
    (accountId organizationId : Uuid) : Option AccountRow :=
  (db.accounts.lookup accountId).filter fun row =>
    row.organizationId = organizationId

/-- An organization has a service account. -/
def ServiceAccountDb.isServiceAccount (db : ServiceAccountDb)
    (accountId organizationId : Uuid) : Bool :=
  (db.account accountId organizationId).isSome

def execInsertAccount (row : AccountRow) (db : ServiceAccountDb) :
    Except SqlError (AccountRow × List Write) :=
  if (db.accounts.lookup row.id).isSome then
    .error (.uniqueViolation "service_accounts_pkey")
  else if db.accounts.rows.any fun other =>
      decide (other.organizationId = row.organizationId) &&
        decide (other.name = row.name) then
    .error (.uniqueViolation "service_accounts_organization_id_name_key")
  else if row.organizationId ∉ db.organizations then
    .error (.foreignKeyViolation "service_accounts_organization_id_fkey")
  else
    .ok (row, [.account row])

def execDisableAccount (accountId organizationId : Uuid)
    (db : ServiceAccountDb) : Nat × List Write :=
  match (db.account accountId organizationId).filter fun row =>
      row.status ≠ .disabled with
  | some _ => (1, [.accountDisabled accountId])
  | none => (0, [])

section Cast

variable (castCidr : String → Option Cidr)

/-- The row that is inserted, where `castCidr` is the cast `text::cidr`. -/
def CredentialColumns.row (columns : CredentialColumns) :
    Except SqlError CredentialRow := do
  let allowedCidrs ← (columns.allowedCidrs.mapM castCidr).elim
    (.error (.other "invalid cidr value")) .ok
  let expiresAt ← columns.expiresAt.mapM toTimestamp
  return {
    id := columns.id
    serviceAccountId := columns.serviceAccountId
    tokenPrefix := columns.tokenPrefix
    tokenHash := columns.tokenHash
    scopes := columns.scopes
    allowedCidrs
    expiresAt
    revokedAt := none
    lastUsedAt := none }

def execInsertCredential (organizationId : Uuid)
    (columns : CredentialColumns) (db : ServiceAccountDb) :
    Except SqlError (Nat × List Write) :=
  match (db.account columns.serviceAccountId organizationId).filter fun row =>
      row.status = .active with
  | none => .ok (0, [])
  | some _ => do
      let row ← columns.row castCidr
      if (db.credentials.lookup row.id).isSome then
        throw (.uniqueViolation "service_account_credentials_pkey")
      else if db.credentials.rows.any fun other =>
          decide (other.serviceAccountId = row.serviceAccountId) &&
            decide (other.tokenPrefix = row.tokenPrefix) then
        throw (.uniqueViolation
          "service_account_credentials_service_account_id_token_prefix_key")
      else if row.tokenHash.length ≠ 32 then
        throw (.checkViolation "service_account_token_hash_size")
      else
        return (1, [.credential row])

end Cast

def execRevokeCredential (credentialId accountId organizationId : Uuid)
    (now : Timestamp) (db : ServiceAccountDb) : Nat × List Write :=
  match (db.credentials.lookup credentialId).filter fun row =>
      decide (row.serviceAccountId = accountId) &&
        db.isServiceAccount row.serviceAccountId organizationId &&
        row.revokedAt.isNone with
  | some _ => (1, [.credentialRevoked credentialId now])
  | none => (0, [])

/-- The conditions on a credential in the query of `authenticate`. -/
def CredentialRow.usable (row : CredentialRow) (sourceIp : IpAddr)
    (now : Timestamp) : Bool :=
  row.revokedAt.isNone &&
    (row.expiresAt.all fun expiresAt => decide (now < expiresAt)) &&
    (row.allowedCidrs.isEmpty ||
      row.allowedCidrs.any fun cidr => cidr.contains sourceIp)

def execSelectCandidates (tokenPrefix : String) (sourceIp : IpAddr)
    (now : Timestamp) (db : ServiceAccountDb) : List CandidateRow :=
  db.credentials.rows.filterMap fun credential =>
    if credential.tokenPrefix = tokenPrefix ∧ credential.usable sourceIp now then
      ((db.accounts.lookup credential.serviceAccountId).filter fun account =>
        account.status = .active).map fun account =>
          { credential
            organizationId := account.organizationId
            rbacPermissions :=
              db.rbac.accountPermissions account.organizationId account.id }
    else
      none

/-- A binding that this store writes is of no user. -/
def execInsertBinding (row : BindingRow) (db : ServiceAccountDb) :
    Except SqlError (Unit × List Write) := do
  validateRoleBindingScope db.rbac (fun _ _ => false) db.isServiceAccount row
  if (db.rbac.roleBindings.lookup row.id).isSome then
    throw (.uniqueViolation "role_bindings_pkey")
  else if row.userId.isSome = row.serviceAccountId.isSome then
    throw (.checkViolation "role_bindings_check")
  else if row.organizationId ∉ db.organizations then
    throw (.foreignKeyViolation "role_bindings_organization_id_fkey")
  else if (db.rbac.roles.lookup row.roleId).isNone then
    throw (.foreignKeyViolation "role_bindings_role_id_fkey")
  else
    return ((), [.binding row])

/-- The database of the store. -/
abbrev serviceAccountSql (castCidr : String → Option Cidr) : Database where
  Statement := Statement
  Reply := Reply
  Fault := SqlError
  State := ServiceAccountDb
  Write := Write
  apply := applyWrite
  exec
    | .insertAccount row, db => execInsertAccount row db
    | .disableAccount accountId organizationId, db =>
        .ok (execDisableAccount accountId organizationId db)
    | .revokeCredentials accountId now, _ =>
        .ok ((), [.credentialsRevoked accountId now])
    | .insertCredential organizationId columns, db =>
        execInsertCredential castCidr organizationId columns db
    | .revokeCredential credentialId accountId organizationId now, db =>
        .ok (execRevokeCredential credentialId accountId organizationId now db)
    | .selectCandidates tokenPrefix sourceIp now, db =>
        .ok (execSelectCandidates tokenPrefix sourceIp now db, [])
    | .updateLastUsed credentialId now, _ =>
        .ok ((), [.credentialUsed credentialId now])
    | .insertBinding row, db => execInsertBinding row db

/-! ## The operations -/

inductive IdentityStoreError where
  | invalidInput
  | notFoundOrDisabled
  | invalidToken
  | invalidStoredCredential
  | tokenGeneration
  | database (failure : SqlError)
deriving DecidableEq, Repr

structure ServiceAccountSummary where
  id : Uuid
  organizationId : Uuid
  name : String
  status : String
deriving DecidableEq, Repr

structure NewServiceAccountCredential where
  scopes : List String
  allowedCidrs : List String
  expiresAtUnixSeconds : Option Int
deriving DecidableEq, Repr

structure IssuedServiceAccountCredential where
  credentialId : Uuid
  token : IssuedOpaqueToken
deriving DecidableEq

structure ServicePrincipal where
  serviceAccountId : Uuid
  credentialId : Uuid
  organizationId : Uuid
  effectivePermissions : List String
deriving DecidableEq, Repr

def serviceTokenPrefix : String := "snm_sa"

def visiblePrefixLength : Nat := serviceTokenPrefix.utf8ByteSize + 9

def scopeAllowed (scope : String) : Bool :=
  !(scope.isEmpty || decide (128 < scope.utf8ByteSize) ||
    !scope.toList.contains '.' ||
    !scope.toList.all fun character =>
      character.isLower || character.isDigit ||
        ['.', '_', '-'].contains character)

def validateScopes (scopes : List String) : Except IdentityStoreError Unit :=
  if scopes.isEmpty || decide (128 < scopes.length) then
    .error .invalidInput
  else if scopes.all scopeAllowed then
    .ok ()
  else
    .error .invalidInput

/-- The part before the first `/` is an address, and the one after it a length
that the address has room for. -/
def cidrAllowed (cidr : String) : Bool :=
  match cidr.toList.span (· ≠ '/') with
  | (_, []) => false
  | (address, _ :: length) =>
      match ipAddrWidth (String.ofList address),
          parseU8 (String.ofList length) with
      | some width, some length => decide (length ≤ width)
      | _, _ => false

def validateCidrs (cidrs : List String) : Except IdentityStoreError Unit :=
  if 128 < cidrs.length then
    .error .invalidInput
  else if cidrs.all cidrAllowed then
    .ok ()
  else
    .error .invalidInput

/-- The scopes that are also in the permissions, in order and without
repetition. -/
def intersectPermissions (tokenScopes rbacPermissions : List String) :
    List String :=
  (tokenScopes.filter fun scope =>
    rbacPermissions.contains scope).dedup.insertionSort (· ≤ ·)

def rowToAccount (row : AccountRow) : ServiceAccountSummary where
  id := row.id
  organizationId := row.organizationId
  name := row.name
  status := row.status.text

section Operations

variable (castCidr : String → Option Cidr)

/-- A program of the store. -/
abbrev Store (α : Type) : Type :=
  Program (serviceAccountSql castCidr) IdentityStoreError α

def query (statement : Statement) : Store castCidr (Reply statement) :=
  Program.statement (D := serviceAccountSql castCidr) statement .database

def commit : Store castCidr Unit := Program.commitNow .database

def createAccount (accountId organizationId : Uuid) (name : String) :
    Store castCidr ServiceAccountSummary := do
  let name := trim name
  Program.check (!(name.isEmpty || decide (160 < name.utf8ByteSize)))
    .invalidInput
  let row ← query castCidr (.insertAccount
    { id := accountId, organizationId, name, status := .active })
  commit castCidr
  return rowToAccount row

def disableAccount (now : Timestamp) (organizationId accountId : Uuid) :
    Store castCidr Bool := do
  let updated ← query castCidr (.disableAccount accountId organizationId)
  if updated = 1 then
    query castCidr (.revokeCredentials accountId now)
  commit castCidr
  return updated == 1

def bindRole (bindingId organizationId accountId roleId : Uuid)
    (siteId : Option Uuid) : Store castCidr Unit := do
  query castCidr (.insertBinding
    { id := bindingId
      organizationId
      roleId
      userId := none
      serviceAccountId := some accountId
      siteId })
  commit castCidr

def revokeCredential (now : Timestamp)
    (organizationId accountId credentialId : Uuid) : Store castCidr Bool := do
  let updated ← query castCidr
    (.revokeCredential credentialId accountId organizationId now)
  commit castCidr
  return updated == 1

variable (library : TokenLibrary)

def issueCredential (credentialId : Uuid) (random : FixedBytes 32)
    (organizationId accountId : Uuid) (input : NewServiceAccountCredential) :
    Store castCidr IssuedServiceAccountCredential := do
  Program.ofExcept (validateScopes input.scopes)
  Program.ofExcept (validateCidrs input.allowedCidrs)
  let token ← Program.ofExcept
    ((issueOpaqueToken library serviceTokenPrefix random).mapError fun _ =>
      .tokenGeneration)
  let inserted ← query castCidr (.insertCredential organizationId
    { id := credentialId
      serviceAccountId := accountId
      tokenPrefix := token.visiblePrefix
      tokenHash := token.hash.bytes
      scopes := input.scopes
      allowedCidrs := input.allowedCidrs
      expiresAt := input.expiresAtUnixSeconds })
  Program.check (inserted == 1) .notFoundOrDisabled
  commit castCidr
  return { credentialId, token }

/-- The loop over the rows of the query. -/
def acceptFirst (now : Timestamp) (token : Bytes) :
    List CandidateRow → Store castCidr ServicePrincipal
  | [] => throw .invalidToken
  | row :: rest => do
      let expectedHash ← Program.ofExcept
        ((FixedBytes.tryFrom 32 row.credential.tokenHash).elim
          (.error .invalidStoredCredential) .ok)
      if opaqueTokenMatches library token expectedHash then
        query castCidr (.updateLastUsed row.credential.id now)
        commit castCidr
        return {
          serviceAccountId := row.credential.serviceAccountId
          credentialId := row.credential.id
          organizationId := row.organizationId
          effectivePermissions :=
            intersectPermissions row.credential.scopes row.rbacPermissions }
      else
        acceptFirst now token rest

/-- The prefix by which a token is looked up, if it has the form of one. -/
def lookupPrefix (token : Bytes) : Option String :=
  (fromUtf8 token).bind fun tokenText =>
    let visiblePrefix :=
      String.ofList (tokenText.toList.take visiblePrefixLength)
    if "snm_sa_".toList.isPrefixOf tokenText.toList ∧
        tokenText.utf8ByteSize ≤ 256 ∧
        visiblePrefix.utf8ByteSize = visiblePrefixLength then
      some visiblePrefix
    else
      none

def authenticate (now : Timestamp) (token : Bytes) (sourceIp : IpAddr) :
    Store castCidr ServicePrincipal := do
  let visiblePrefix ← Program.ofExcept
    ((lookupPrefix token).elim (.error .invalidToken) .ok)
  let rows ← query castCidr (.selectCandidates visiblePrefix sourceIp now)
  acceptFirst castCidr library now token rows

end Operations

end NetworkManager.IdentityStore
