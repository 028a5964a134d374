import NetworkManager.Foundation.Json
import NetworkManager.Foundation.Text
import NetworkManager.Foundation.Uuid
import NetworkManager.Security.Vault
import NetworkManager.Transaction.Calls

/-!
# The credential vault store

Profiles and their ciphertexts, in two tables.  A call gets what the operating
system would give it (identifiers, entropy) as arguments.
-/

namespace NetworkManager.SecurityStore

open NetworkManager.Foundation
open NetworkManager.Security.Vault
open NetworkManager.Transaction

structure ProfileRow where
  id : Uuid
  organizationId : Uuid
  name : String
  kind : String
  username : Option String
  metadata : Value
  active : Bool
deriving DecidableEq

structure CiphertextRow where
  credentialProfileId : Uuid
  keyVersion : Int
  wrappedDekNonce : Bytes
  wrappedDek : Bytes
  dataNonce : Bytes
  ciphertext : Bytes
  aadHash : Bytes
deriving DecidableEq

structure CredentialDb where
  profiles : Table Uuid ProfileRow ProfileRow.id
  ciphertexts : Table Uuid CiphertextRow CiphertextRow.credentialProfileId

def CredentialDb.empty : CredentialDb := ⟨.empty _, .empty _⟩

inductive Statement where
  | insertProfile (row : ProfileRow)
  | insertCiphertext (row : CiphertextRow)
  /-- The profile joined with its ciphertext. -/
  | selectCiphertext (profileId organizationId : Uuid)
  /-- The same, and both rows are locked. -/
  | selectCiphertextForUpdate (profileId organizationId : Uuid)
  | selectActiveKind (profileId organizationId : Uuid)
  | updateCiphertext (row : CiphertextRow)
  | deactivate (profileId organizationId : Uuid)

abbrev Reply : Statement → Type
  | .insertProfile _ => Unit
  | .insertCiphertext _ => Unit
  | .selectCiphertext _ _ => Option (ProfileRow × CiphertextRow)
  | .selectCiphertextForUpdate _ _ => Option (ProfileRow × CiphertextRow)
  | .selectActiveKind _ _ => Option String
  | .updateCiphertext _ => Nat
  | .deactivate _ _ => Nat

inductive Write where
  | profile (row : ProfileRow)
  | ciphertext (row : CiphertextRow)

def applyWrite : Write → CredentialDb → CredentialDb
  | .profile row, db => { db with profiles := db.profiles.put row }
  | .ciphertext row, db => { db with ciphertexts := db.ciphertexts.put row }

/-- `btrim`, which strips spaces only. -/
def btrim (text : String) : String :=
  String.ofList (stripEnds (· == ' ') text.toList)

def usernameAllowed : Option String → Bool
  | none => true
  | some username =>
      decide (0 < (btrim username).length) &&
        decide (username.length ≤ 320)

/-- The CHECK constraints of `credential_ciphertexts`. -/
def ciphertextAllowed (row : CiphertextRow) : Bool :=
  decide (0 < row.keyVersion) && decide (row.dataNonce.length = 12) &&
    decide (16 < row.ciphertext.length) && decide (row.aadHash.length = 32) &&
    decide (row.wrappedDekNonce.length = 12) &&
    decide (32 < row.wrappedDek.length)

/-- The profile with an identifier, within an organization. -/
def CredentialDb.profile (db : CredentialDb) (profileId organizationId : Uuid) :
    Option ProfileRow :=
  (db.profiles.lookup profileId).filter fun row =>
    row.organizationId = organizationId

def execInsertProfile (row : ProfileRow) (db : CredentialDb) :
    Except SqlError (Unit × List Write) :=
  if (db.profiles.lookup row.id).isSome then
    .error (.uniqueViolation "credential_profiles_pkey")
  else if db.profiles.rows.any fun other =>
      decide (other.organizationId = row.organizationId) &&
        decide (other.name = row.name) then
    .error (.uniqueViolation "credential_profiles_organization_id_name_key")
  else if usernameAllowed row.username = false then
    .error (.checkViolation "credential_profile_username_nonempty")
  else
    .ok ((), [.profile row])

def execInsertCiphertext (row : CiphertextRow) (db : CredentialDb) :
    Except SqlError (Unit × List Write) :=
  if (db.ciphertexts.lookup row.credentialProfileId).isSome then
    .error (.uniqueViolation "credential_ciphertexts_pkey")
  else if (db.profiles.lookup row.credentialProfileId).isNone then
    .error (.foreignKeyViolation
      "credential_ciphertexts_credential_profile_id_fkey")
  else if ciphertextAllowed row = false then
    .error (.checkViolation "credential_ciphertexts")
  else
    .ok ((), [.ciphertext row])

def execSelectCiphertext (profileId organizationId : Uuid)
    (db : CredentialDb) : Option (ProfileRow × CiphertextRow) :=
  match db.profile profileId organizationId,
      db.ciphertexts.lookup profileId with
  | some profile, some ciphertext => some (profile, ciphertext)
  | _, _ => none

def execUpdateCiphertext (row : CiphertextRow) (db : CredentialDb) :
    Except SqlError (Nat × List Write) :=
  if (db.ciphertexts.lookup row.credentialProfileId).isNone then
    .ok (0, [])
  else if ciphertextAllowed row = false then
    .error (.checkViolation "credential_ciphertexts")
  else
    .ok (1, [.ciphertext row])

def execDeactivate (profileId organizationId : Uuid) (db : CredentialDb) :
    Nat × List Write :=
  match db.profile profileId organizationId with
  | some profile =>
      if profile.active then
        (1, [.profile { profile with active := false }])
      else
        (0, [])
  | none => (0, [])

/-- The database of the store. -/
abbrev credentialSql : Database where
  Statement := Statement
  Reply := Reply
  Fault := SqlError
  State := CredentialDb
  Write := Write
  apply := applyWrite
  exec
    | .insertProfile row, db => execInsertProfile row db
    | .insertCiphertext row, db => execInsertCiphertext row db
    | .selectCiphertext profileId organizationId, db =>
        .ok (execSelectCiphertext profileId organizationId db, [])
    | .selectCiphertextForUpdate profileId organizationId, db =>
        .ok (execSelectCiphertext profileId organizationId db, [])
    | .selectActiveKind profileId organizationId, db =>
        .ok
          (((db.profile profileId organizationId).filter
            ProfileRow.active).map ProfileRow.kind, [])
    | .updateCiphertext row, db => execUpdateCiphertext row db
    | .deactivate profileId organizationId, db =>
        .ok (execDeactivate profileId organizationId db)

/-! ## The operations -/

inductive CredentialStoreError where
  | invalidMetadata
  | invalidSecret
  | notFound
  | inactive
  | invalidStoredCiphertext
  | vault (failure : VaultError)
  | database (failure : SqlError)
deriving DecidableEq, Repr

structure CredentialProfileSummary where
  id : Uuid
  organizationId : Uuid
  name : String
  kind : String
  username : Option String
  metadata : Value
  active : Bool
  keyVersion : Option Int
deriving DecidableEq

structure NewCredentialProfile where
  organizationId : Uuid
  name : String
  kind : String
  username : Option String
  metadata : Value
  secret : Bytes
deriving DecidableEq

def validateProfileInput (input : NewCredentialProfile) :
    Except CredentialStoreError Unit :=
  if isBlank input.name || decide (200 < input.name.utf8ByteSize) ||
      isBlank input.kind || decide (100 < input.kind.utf8ByteSize) then
    .error .invalidMetadata
  else if input.secret.isEmpty || decide (64 * 1024 < input.secret.length) then
    .error .invalidSecret
  else if input.username.any fun value =>
      isBlank value || decide (320 < value.utf8ByteSize) then
    .error .invalidMetadata
  else
    .ok ()

def profileAad (organizationId profileId : Uuid) (kind : String) : Bytes :=
  utf8Bytes
    ("snm:credential:v1:" ++ organizationId.text ++ ":" ++ profileId.text ++
      ":" ++ kind)

/-- `i32::try_from` of a `u32`. -/
def i32TryFrom (value : UInt32) : Option Int :=
  if value.toNat < 2 ^ 31 then some value.toNat else none

/-- `u32::try_from` of an `i32`. -/
def u32TryFrom (value : Int) : Option UInt32 :=
  if 0 ≤ value ∧ value < 2 ^ 32 then some (UInt32.ofNat value.toNat) else none

/-- The row that stores an encrypted secret, where its version fits. -/
def ciphertextRow (profileId : Uuid) (encrypted : EncryptedSecret) :
    Except CredentialStoreError CiphertextRow :=
  match i32TryFrom encrypted.keyVersion with
  | none => .error .invalidStoredCiphertext
  | some keyVersion =>
      .ok
        { credentialProfileId := profileId
          keyVersion
          wrappedDekNonce := encrypted.wrappedDekNonce.bytes
          wrappedDek := encrypted.wrappedDek
          dataNonce := encrypted.dataNonce.bytes
          ciphertext := encrypted.ciphertext
          aadHash := encrypted.aadHash.bytes }

def rowToCiphertext (row : CiphertextRow) :
    Except CredentialStoreError EncryptedSecret :=
  match u32TryFrom row.keyVersion, FixedBytes.tryFrom 12 row.wrappedDekNonce,
      FixedBytes.tryFrom 12 row.dataNonce,
      FixedBytes.tryFrom 32 row.aadHash with
  | some keyVersion, some wrappedDekNonce, some dataNonce, some aadHash =>
      .ok
        { keyVersion
          wrappedDekNonce
          wrappedDek := row.wrappedDek
          dataNonce
          ciphertext := row.ciphertext
          aadHash }
  | _, _, _, _ => .error .invalidStoredCiphertext

/-- A program of the store. -/
abbrev Store (α : Type) : Type := Program credentialSql CredentialStoreError α

def query (statement : Statement) : Store (Reply statement) :=
  Program.statement (D := credentialSql) statement .database

def commit : Store Unit := Program.commitNow .database

/-- The `?` operator on an error of the vault. -/
def vault {α : Type} (outcome : Except VaultError α) : Store α :=
  .ofExcept (outcome.mapError .vault)

/-- `Option::ok_or` and `?`. -/
def require {α : Type} (failure : CredentialStoreError) :
    Option α → Store α
  | none => .ofExcept (.error failure)
  | some value => .ofExcept (.ok value)

def insertCiphertext (profileId : Uuid) (encrypted : EncryptedSecret) :
    Store Unit := do
  let row ← Program.ofExcept (ciphertextRow profileId encrypted)
  query (.insertCiphertext row)

def updateCiphertextTx (profileId : Uuid) (encrypted : EncryptedSecret) :
    Store Unit := do
  let row ← Program.ofExcept (ciphertextRow profileId encrypted)
  let rowsAffected ← query (.updateCiphertext row)
  Program.check (rowsAffected == 1) .notFound

section Operations

variable (library : VaultLibrary) (keys : KeyRing)

def create (profileId : Uuid) (entropy : Entropy)
    (input : NewCredentialProfile) : Store CredentialProfileSummary := do
  Program.ofExcept (validateProfileInput input)
  let aad := profileAad input.organizationId profileId input.kind
  let current ← vault keys.current
  let encrypted ←
    vault (EncryptedSecret.encrypt library input.secret aad current entropy)
  query (.insertProfile
    { id := profileId
      organizationId := input.organizationId
      name := trim input.name
      kind := trim input.kind
      username := input.username.map trim
      metadata := input.metadata
      active := true })
  insertCiphertext profileId encrypted
  commit
  let keyVersion ←
    require .invalidStoredCiphertext (i32TryFrom encrypted.keyVersion)
  pure
    { id := profileId
      organizationId := input.organizationId
      name := trim input.name
      kind := trim input.kind
      username := input.username.map trim
      metadata := input.metadata
      active := true
      keyVersion := some keyVersion }

def resolveSecret (organizationId profileId : Uuid) : Store Bytes := do
  let found ← query (.selectCiphertext profileId organizationId)
  let (profile, row) ← require .notFound found
  Program.check profile.active .inactive
  let encrypted ← Program.ofExcept (rowToCiphertext row)
  let aad := profileAad organizationId profileId profile.kind
  vault (encrypted.decrypt library aad keys)

def replaceSecret (entropy : Entropy) (organizationId profileId : Uuid)
    (newSecret : Bytes) : Store Unit := do
  Program.check
    (!(newSecret.isEmpty || decide (64 * 1024 < newSecret.length)))
    .invalidSecret
  let found ← query (.selectActiveKind profileId organizationId)
  let kind ← require .notFound found
  let aad := profileAad organizationId profileId kind
  let current ← vault keys.current
  let encrypted ←
    vault (EncryptedSecret.encrypt library newSecret aad current entropy)
  updateCiphertextTx profileId encrypted
  commit

def deactivate (organizationId profileId : Uuid) : Store Bool := do
  let rowsAffected ← query (.deactivate profileId organizationId)
  commit
  return rowsAffected == 1

def rotateProfileKey (entropy : Entropy) (organizationId profileId : Uuid) :
    Store Bool := do
  let current ← vault keys.current
  let found ← query (.selectCiphertextForUpdate profileId organizationId)
  let (profile, row) ← require .notFound found
  let currentVersion ←
    require .invalidStoredCiphertext (i32TryFrom current.version)
  if row.keyVersion = currentVersion then
    return false
  else
    let encrypted ← Program.ofExcept (rowToCiphertext row)
    let aad := profileAad organizationId profileId profile.kind
    let rotated ← vault (encrypted.rotate library aad keys entropy)
    updateCiphertextTx profileId rotated
    commit
    return true

end Operations

end NetworkManager.SecurityStore
