import NetworkManager.Foundation.Bytes
import NetworkManager.Foundation.Table
import NetworkManager.Foundation.Text
import NetworkManager.Foundation.Uuid
import NetworkManager.Transaction.Outcomes

/-!
# Bootstrapping an administrator

Every start of a back-end ensures that one user of an organization is its
administrator.  The transaction upserts the user and the role, and binds them
unless a binding exists.  Nothing in the table of bindings prevents a second
one; the lock on the row of the user does.

No bootstrap writes to the organizations and the permissions, so these are
parameters of the database.
-/

namespace NetworkManager.Backend.Bootstrap

open NetworkManager.Foundation
open NetworkManager.Transaction

inductive UserStatus where
  | active
  | disabled
  | pending
deriving DecidableEq, Repr

structure UserRow where
  id : Uuid
  organizationId : Uuid
  email : String
  displayName : String
  status : UserStatus
  passwordHash : Option String
  passwordChangedAt : Option Timestamp
deriving DecidableEq, Repr

structure RoleRow where
  id : Uuid
  organizationId : Option Uuid
  name : String
  isSystem : Bool
deriving DecidableEq, Repr

structure RoleBindingRow where
  id : Uuid
  organizationId : Uuid
  roleId : Uuid
  userId : Option Uuid
  serviceAccountId : Option Uuid
  siteId : Option Uuid
deriving DecidableEq, Repr

structure AuditEventRow where
  organizationId : Uuid
  actorType : String
  action : String
  resourceType : String
  resourceId : Uuid
  correlationId : Uuid
  result : String
  status : String
  reasonCode : String
deriving DecidableEq, Repr

structure Db where
  users : List UserRow
  roles : List RoleRow
  /-- Role and permission. -/
  rolePermissions : List (Uuid × Uuid)
  roleBindings : List RoleBindingRow
  auditEvents : List AuditEventRow

/-- What the transactions read only: organizations with their slugs, and
permissions. -/
structure Catalog where
  organizations : List (Uuid × String)
  permissions : List Uuid

/-- `UNIQUE (organization_id, email)`. -/
def UserRow.hasEmail (organizationId : Uuid) (email : String)
    (user : UserRow) : Bool :=
  user.organizationId = organizationId ∧ user.email = email

def adminRoleName : String := "organization-admin"

/-- `UNIQUE (organization_id, name)`. -/
def RoleRow.isAdmin (organizationId : Uuid) (role : RoleRow) : Bool :=
  role.organizationId = some organizationId ∧ role.name = adminRoleName

/-- A binding of a user to a role in the whole organization. -/
def RoleBindingRow.binds (organizationId roleId userId : Uuid)
    (binding : RoleBindingRow) : Bool :=
  binding.organizationId = organizationId ∧ binding.roleId = roleId ∧
    binding.userId = some userId ∧ binding.siteId = none

inductive Statement where
  | selectOrganization (slug : String)
  /-- Insert, or set the password hash of the user that is there if it has
  none. -/
  | upsertUser (row : UserRow)
  /-- Insert the role, or make the role that is there a system role. -/
  | upsertRole (organizationId newId : Uuid)
  | grantAll (roleId : Uuid)
  /-- Insert the binding where no such binding exists. -/
  | bindAdmin (organizationId roleId userId newId : Uuid)
  | insertAuditEvent (row : AuditEventRow)

abbrev Reply : Statement → Type
  | .selectOrganization _ => Option Uuid
  | .upsertUser _ => Uuid
  | .upsertRole _ _ => Uuid
  | .grantAll _ => Unit
  | .bindAdmin .. => Unit
  | .insertAuditEvent _ => Unit

inductive Write where
  | user (row : UserRow)
  | password (organizationId : Uuid) (email : String) (hash : Option String)
  | role (row : RoleRow)
  | roleSystem (organizationId : Uuid)
  | grants (roleId : Uuid) (permissionIds : List Uuid)
  | binding (row : RoleBindingRow)
  | auditEvent (row : AuditEventRow)

/-- `password_hash = COALESCE(users.password_hash, hash)`. -/
def UserRow.fillPassword (hash : Option String) (user : UserRow) : UserRow :=
  { user with passwordHash := user.passwordHash.or hash }

/-- Filling in a password for one e-mail address. -/
def fillFor (organizationId : Uuid) (email : String) (hash : Option String)
    (user : UserRow) : UserRow :=
  if user.hasEmail organizationId email then user.fillPassword hash else user

/-- Marking the administrator's role as a system role. -/
def markSystem (organizationId : Uuid) (role : RoleRow) : RoleRow :=
  if role.isAdmin organizationId then { role with isSystem := true } else role

def applyWrite : Write → Db → Db
  | .user row, db => { db with users := db.users ++ [row] }
  | .password organizationId email hash, db =>
      { db with users := db.users.map (fillFor organizationId email hash) }
  | .role row, db => { db with roles := db.roles ++ [row] }
  | .roleSystem organizationId, db =>
      { db with roles := db.roles.map (markSystem organizationId) }
  | .grants roleId permissionIds, db =>
      { db with
        rolePermissions := db.rolePermissions ++
          (permissionIds.map fun permissionId =>
            (roleId, permissionId)).filter fun granted =>
              !db.rolePermissions.contains granted }
  | .binding row, db => { db with roleBindings := db.roleBindings ++ [row] }
  | .auditEvent row, db => { db with auditEvents := db.auditEvents ++ [row] }

def execUpsertUser (row : UserRow) (db : Db) :
    Except SqlError (Uuid × List Write) :=
  match db.users.find? (UserRow.hasEmail row.organizationId row.email) with
  | some user =>
      .ok (user.id,
        [.password row.organizationId row.email row.passwordHash])
  | none =>
      if db.users.any fun user => user.id = row.id then
        .error (.uniqueViolation "users_pkey")
      else
        .ok (row.id, [.user row])

def execUpsertRole (organizationId newId : Uuid) (db : Db) :
    Except SqlError (Uuid × List Write) :=
  match db.roles.find? (RoleRow.isAdmin organizationId) with
  | some role => .ok (role.id, [.roleSystem organizationId])
  | none =>
      if db.roles.any fun role => role.id = newId then
        .error (.uniqueViolation "roles_pkey")
      else
        .ok (newId, [.role
          { id := newId
            organizationId := some organizationId
            name := adminRoleName
            isSystem := true }])

/-- The trigger `validate_role_binding_scope`, for a binding of a user in the
whole organization. -/
def bindingAllowed (organizationId roleId userId : Uuid) (db : Db) : Bool :=
  ((db.roles.find? fun role => role.id = roleId).bind
      RoleRow.organizationId).all (fun owner => owner = organizationId) &&
    db.users.any fun user =>
      user.id = userId ∧ user.organizationId = organizationId

def execBindAdmin (organizationId roleId userId newId : Uuid) (db : Db) :
    Except SqlError (Unit × List Write) :=
  if db.roleBindings.any (RoleBindingRow.binds organizationId roleId userId)
  then
    .ok ((), [])
  else if !bindingAllowed organizationId roleId userId db then
    .error (.other "raise_exception")
  else if db.roleBindings.any fun binding => binding.id = newId then
    .error (.uniqueViolation "role_bindings_pkey")
  else
    .ok ((), [.binding
      { id := newId
        organizationId
        roleId
        userId := some userId
        serviceAccountId := none
        siteId := none }])

/-- The database of the bootstrap. -/
abbrev bootstrapSql (catalog : Catalog) : Database where
  Statement := Statement
  Reply := Reply
  Fault := SqlError
  State := Db
  Write := Write
  apply := applyWrite
  exec
    | .selectOrganization slug, _ =>
        .ok ((catalog.organizations.find? fun organization =>
          organization.2 = slug).map Prod.fst, [])
    | .upsertUser row, db => execUpsertUser row db
    | .upsertRole organizationId newId, db =>
        execUpsertRole organizationId newId db
    | .grantAll roleId, _ => .ok ((), [.grants roleId catalog.permissions])
    | .bindAdmin organizationId roleId userId newId, db =>
        execBindAdmin organizationId roleId userId newId db
    | .insertAuditEvent row, _ => .ok ((), [.auditEvent row])

inductive BootstrapError where
  | invalidRequest
  | unavailable
deriving DecidableEq, Repr

/-- A back-end, with the organization and the e-mail address that it is
configured for. -/
structure Service where
  catalog : Catalog
  /-- `lower` of the database. -/
  lower : String → String
  /-- Argon2id of a password and a salt under the default policy, as text. -/
  argon2 : Bytes → Bytes → Option String
  organizationSlug : String
  email : String

/-- The arguments of a call, the time, and what it draws at random. -/
structure Call where
  displayName : String
  password : Bytes
  salt : Bytes
  now : Timestamp
  userId : Uuid
  roleId : Uuid
  bindingId : Uuid
  correlationId : Uuid

section Operations

variable (service : Service)

/-- `hash_password`; the salt is random. -/
def hashPassword (password salt : Bytes) : Option String :=
  if password.length < 12 ∨ 1024 < password.length then none
  else service.argon2 password salt

abbrev Store (α : Type) : Type :=
  Program (bootstrapSql service.catalog) BootstrapError α

def query (statement : Statement) : Store service (Reply statement) :=
  Program.statement (D := bootstrapSql service.catalog) statement fun _ =>
    .unavailable

def commit : Store service Unit := Program.commitNow fun _ => .unavailable

def requestRefused (call : Call) : Bool :=
  decide (320 < service.email.utf8ByteSize) || isBlank call.displayName ||
    isBlank service.organizationSlug

def ensureAdmin (call : Call) (encoded : String) (organizationId : Uuid) :
    Store service Unit := do
  let userId ← query service (.upsertUser
    { id := call.userId
      organizationId
      email := service.lower service.email
      displayName := call.displayName
      status := .active
      passwordHash := some encoded
      passwordChangedAt := some call.now })
  let roleId ← query service (.upsertRole organizationId call.roleId)
  query service (.grantAll roleId)
  query service (.bindAdmin organizationId roleId userId call.bindingId)
  query service (.insertAuditEvent
    { organizationId
      actorType := "system"
      action := "auth.bootstrap_admin.ensure"
      resourceType := "user"
      resourceId := userId
      correlationId := call.correlationId
      result := "\x7b\"outcome\":\"ensured\"\x7d"
      status := "succeeded"
      reasonCode := "bootstrap" })
  commit service

def bootstrapAdmin (call : Call) : Store service Unit := do
  Program.check (!requestRefused service call) .invalidRequest
  let encoded ← Program.ofExcept
    ((hashPassword service call.password call.salt).elim
      (.error .invalidRequest) .ok)
  let organization ←
    query service (.selectOrganization service.organizationSlug)
  match organization with
  | none => throw .invalidRequest
  | some organizationId => ensureAdmin service call encoded organizationId

end Operations

/-! ## Locks -/

/-- The entries of the unique indexes, with the rows they stand for. -/
inductive LockKey where
  | email (organizationId : Uuid) (email : String)
  | user (id : Uuid)
  | adminRole (organizationId : Uuid)
  | role (id : Uuid)
deriving DecidableEq

abbrev Slice : LockKey → Type
  | .email _ _ => List UserRow
  | .user _ => Bool × List RoleBindingRow
  | .adminRole _ => List RoleRow
  | .role _ => Bool

/-- The lock on a user guards its bindings: they are written by transactions
that have upserted the user. -/
def slice : (key : LockKey) → Db → Slice key
  | .email organizationId email, db =>
      db.users.filter (UserRow.hasEmail organizationId email)
  | .user id, db =>
      (db.users.any fun user => user.id = id,
        db.roleBindings.filter fun binding => binding.userId = some id)
  | .adminRole organizationId, db =>
      db.roles.filter (RoleRow.isAdmin organizationId)
  | .role id, db => db.roles.any fun role => role.id = id

/-- An upsert locks the row that it finds or the row that it inserts. -/
def acquires : Statement → Db → List LockKey
  | .upsertUser row, db =>
      [.email row.organizationId row.email,
        .user (((db.users.find?
          (UserRow.hasEmail row.organizationId row.email)).map
            UserRow.id).getD row.id)]
  | .upsertRole organizationId newId, db =>
      [.adminRole organizationId,
        .role (((db.roles.find? (RoleRow.isAdmin organizationId)).map
          RoleRow.id).getD newId)]
  | _, _ => []

def touches : Write → LockKey → Prop
  | .user row, key =>
      key = .email row.organizationId row.email ∨ key = .user row.id
  | .password organizationId email _, key => key = .email organizationId email
  | .role row, key =>
      (∃ organizationId, row.organizationId = some organizationId ∧
        key = .adminRole organizationId) ∨ key = .role row.id
  | .roleSystem organizationId, key => key = .adminRole organizationId
  | .binding row, key => ∃ id, row.userId = some id ∧ key = .user id
  | _, _ => False

private theorem filter_map_keeping
    {α : Type} {change : α → α} {selected : α → Bool}
    (kept : ∀ row, selected (change row) = selected row) (rows : List α) :
    (rows.map change).filter selected = (rows.filter selected).map change := by
  rw [List.filter_map]
  congr 1
  congr 1
  funext row
  exact kept row

private theorem any_map_keeping {α : Type} {change : α → α} (key : α → Uuid)
    (kept : ∀ row, key (change row) = key row) (wanted : Uuid)
    (rows : List α) :
    ((rows.map change).any fun row => decide (key row = wanted)) =
      rows.any fun row => decide (key row = wanted) := by
  rw [List.any_map]
  congr 1
  funext row
  rw [Function.comp_apply, kept]

private theorem hasEmail_fillFor
    (organizationId other : Uuid) (email otherEmail : String)
    (hash : Option String) (user : UserRow) :
    (fillFor organizationId email hash user).hasEmail other otherEmail =
      user.hasEmail other otherEmail := by
  rw [fillFor]
  split
  · rfl
  · rfl

private theorem id_fillFor (organizationId : Uuid) (email : String)
    (hash : Option String) (user : UserRow) :
    (fillFor organizationId email hash user).id = user.id := by
  rw [fillFor]
  split
  · rfl
  · rfl

private theorem isAdmin_markSystem
    (organizationId other : Uuid) (role : RoleRow) :
    (markSystem organizationId role).isAdmin other = role.isAdmin other := by
  rw [markSystem]
  split
  · rfl
  · rfl

private theorem id_markSystem (organizationId : Uuid) (role : RoleRow) :
    (markSystem organizationId role).id = role.id := by
  rw [markSystem]
  split
  · rfl
  · rfl

/-- What a write does to the slice of a lock. -/
def applySlice (write : Write) : (key : LockKey) → Slice key → Slice key
  | .email organizationId email, users =>
      match write with
      | .user row =>
          users ++ [row].filter (UserRow.hasEmail organizationId email)
      | .password owner address hash =>
          if owner = organizationId ∧ address = email then
            users.map (UserRow.fillPassword hash)
          else
            users
      | _ => users
  | .user id, (present, bindings) =>
      match write with
      | .user row => (present || row.id = id, bindings)
      | .binding row =>
          (present,
            bindings ++ [row].filter fun binding => binding.userId = some id)
      | _ => (present, bindings)
  | .adminRole organizationId, roles =>
      match write with
      | .role row => roles ++ [row].filter (RoleRow.isAdmin organizationId)
      | .roleSystem owner =>
          if owner = organizationId then
            roles.map fun role => { role with isSystem := true }
          else
            roles
      | _ => roles
  | .role id, present =>
      match write with
      | .role row => present || row.id = id
      | _ => present

private theorem filter_fillFor
    (organizationId owner : Uuid) (email address : String)
    (hash : Option String) (users : List UserRow) :
    (users.map (fillFor owner address hash)).filter
        (UserRow.hasEmail organizationId email) =
      if owner = organizationId ∧ address = email then
        (users.filter (UserRow.hasEmail organizationId email)).map
          (UserRow.fillPassword hash)
      else
        users.filter (UserRow.hasEmail organizationId email) := by
  rw [filter_map_keeping
    (hasEmail_fillFor owner organizationId address email hash)]
  have changes : ∀ user ∈ users.filter (UserRow.hasEmail organizationId email),
      fillFor owner address hash user =
        if owner = organizationId ∧ address = email then
          user.fillPassword hash
        else
          user := by
    intro user member
    have isUser := (List.mem_filter.mp member).2
    rw [UserRow.hasEmail, decide_eq_true_eq] at isUser
    obtain ⟨rfl, rfl⟩ := isUser
    have same : user.hasEmail owner address =
        decide (owner = user.organizationId ∧ address = user.email) := by
      rw [UserRow.hasEmail, decide_eq_decide]
      exact and_congr eq_comm eq_comm
    rw [fillFor, same]
    simp only [decide_eq_true_eq]
  rw [List.map_congr_left changes]
  split
  · rfl
  · exact List.map_id' _

private theorem filter_markSystem (organizationId owner : Uuid)
    (roles : List RoleRow) :
    (roles.map (markSystem owner)).filter (RoleRow.isAdmin organizationId) =
      if owner = organizationId then
        (roles.filter (RoleRow.isAdmin organizationId)).map fun role =>
          { role with isSystem := true }
      else
        roles.filter (RoleRow.isAdmin organizationId) := by
  rw [filter_map_keeping (isAdmin_markSystem owner organizationId)]
  have changes : ∀ role ∈ roles.filter (RoleRow.isAdmin organizationId),
      markSystem owner role =
        if owner = organizationId then { role with isSystem := true }
        else role := by
    intro role member
    have isRole := (List.mem_filter.mp member).2
    rw [RoleRow.isAdmin, decide_eq_true_eq] at isRole
    have same : role.isAdmin owner = decide (owner = organizationId) := by
      rw [RoleRow.isAdmin, decide_eq_decide, isRole.1, isRole.2,
        Option.some.injEq, and_iff_left rfl, eq_comm]
    rw [markSystem, same]
    simp only [decide_eq_true_eq]
  rw [List.map_congr_left changes]
  split
  · rfl
  · exact List.map_id' _

private theorem slice_applyWrite (key : LockKey) (write : Write) (db : Db) :
    slice key (applyWrite write db) = applySlice write key (slice key db) := by
  cases key with
  | email organizationId email =>
      cases write with
      | user row => exact List.filter_append ..
      | password owner address hash =>
          exact filter_fillFor organizationId owner email address hash db.users
      | role row => rfl
      | roleSystem owner => rfl
      | grants roleId permissionIds => rfl
      | binding row => rfl
      | auditEvent row => rfl
  | user id =>
      cases write with
      | user row => simp [slice, applyWrite, applySlice]
      | password owner address hash =>
          have same := any_map_keeping (fun user => user.id)
            (id_fillFor owner address hash) id db.users
          exact congrArg (Prod.mk · _) same
      | role row => rfl
      | roleSystem owner => rfl
      | grants roleId permissionIds => rfl
      | binding row => simp [slice, applyWrite, applySlice]
      | auditEvent row => rfl
  | adminRole organizationId =>
      cases write with
      | user row => rfl
      | password owner address hash => rfl
      | role row => exact List.filter_append ..
      | roleSystem owner =>
          exact filter_markSystem organizationId owner db.roles
      | grants roleId permissionIds => rfl
      | binding row => rfl
      | auditEvent row => rfl
  | role id =>
      cases write with
      | user row => rfl
      | password owner address hash => rfl
      | role row => simp [slice, applyWrite, applySlice]
      | roleSystem owner =>
          exact any_map_keeping (fun role => role.id) (id_markSystem owner) id
            db.roles
      | grants roleId permissionIds => rfl
      | binding row => rfl
      | auditEvent row => rfl

private theorem applySlice_untouched {key : LockKey} {write : Write}
    (untouched : ¬touches write key) (rows : Slice key) :
    applySlice write key rows = rows := by
  cases key with
  | email organizationId email =>
      cases write with
      | user row =>
          have other : UserRow.hasEmail organizationId email row = false := by
            rw [UserRow.hasEmail, decide_eq_false_iff_not]
            rintro ⟨rfl, rfl⟩
            exact untouched (Or.inl rfl)
          simp [applySlice, other]
      | password owner address hash =>
          apply if_neg
          rintro ⟨rfl, rfl⟩
          exact untouched rfl
      | role row => rfl
      | roleSystem owner => rfl
      | grants roleId permissionIds => rfl
      | binding row => rfl
      | auditEvent row => rfl
  | user id =>
      obtain ⟨present, bindings⟩ := rows
      cases write with
      | user row =>
          have other : row.id ≠ id := by
            rintro rfl
            exact untouched (Or.inr rfl)
          simp [applySlice, other]
      | password owner address hash => rfl
      | role row => rfl
      | roleSystem owner => rfl
      | grants roleId permissionIds => rfl
      | binding row =>
          have other : row.userId ≠ some id := by
            intro isUser
            exact untouched ⟨id, isUser, rfl⟩
          simp [applySlice, other]
      | auditEvent row => rfl
  | adminRole organizationId =>
      cases write with
      | user row => rfl
      | password owner address hash => rfl
      | role row =>
          have other : RoleRow.isAdmin organizationId row = false := by
            rw [RoleRow.isAdmin, decide_eq_false_iff_not]
            rintro ⟨owned, _⟩
            exact untouched (Or.inl ⟨organizationId, owned, rfl⟩)
          simp [applySlice, other]
      | roleSystem owner =>
          apply if_neg
          rintro rfl
          exact untouched rfl
      | grants roleId permissionIds => rfl
      | binding row => rfl
      | auditEvent row => rfl
  | role id =>
      cases write with
      | user row => rfl
      | password owner address hash => rfl
      | role row =>
          have other : row.id ≠ id := by
            rintro rfl
            exact untouched (Or.inr rfl)
          simp [applySlice, other]
      | roleSystem owner => rfl
      | grants roleId permissionIds => rfl
      | binding row => rfl
      | auditEvent row => rfl

def bootstrapLocking (catalog : Catalog) : Locking (bootstrapSql catalog) where
  Key := LockKey
  acquires := acquires
  Slice := Slice
  slice := slice
  touches := touches
  slice_apply := by
    intro key write db untouched
    rw [slice_applyWrite, applySlice_untouched untouched]
  slice_apply_congr := by
    intro key write left right same
    rw [slice_applyWrite, slice_applyWrite, same]

section Ensuring

variable (organizationId : Uuid) (email : String)

/-- The constraints on the tables, and at most one binding of the
administrator. -/
structure Consistent (db : Db) : Prop where
  oneUser : (db.users.filter (UserRow.hasEmail organizationId email)).length ≤ 1
  oneRole : (db.roles.filter (RoleRow.isAdmin organizationId)).length ≤ 1
  boundUser : ∀ binding ∈ db.roleBindings, ∀ id, binding.userId = some id →
    (db.users.any fun user => user.id = id) = true
  boundRole : ∀ binding ∈ db.roleBindings,
    (db.roles.any fun role => role.id = binding.roleId) = true
  oneBinding : ∀ user ∈ db.users.filter (UserRow.hasEmail organizationId email),
    ∀ role ∈ db.roles.filter (RoleRow.isAdmin organizationId),
      (db.roleBindings.filter
        (RoleBindingRow.binds organizationId role.id user.id)).length ≤ 1

/-- There is exactly one user with the e-mail address, with a password, exactly
one administrator's role, and exactly one binding of the one to the other. -/
def Ensured (db : Db) : Prop :=
  ∃ user role,
    db.users.filter (UserRow.hasEmail organizationId email) = [user] ∧
    user.passwordHash.isSome ∧
    db.roles.filter (RoleRow.isAdmin organizationId) = [role] ∧
    role.isSystem = true ∧
    (db.roleBindings.filter
      (RoleBindingRow.binds organizationId role.id user.id)).length = 1

/-- Users stay as they are, apart from a password that was missing. -/
def UsersKept (before after : List UserRow) : Prop :=
  ∀ user ∈ before, ∃ kept ∈ after,
    kept = { user with passwordHash := kept.passwordHash } ∧
      (user.passwordHash.isSome → kept.passwordHash = user.passwordHash)

/-- The state after the upsert of the user. -/
structure UserReady (start working : Db) (userId : Uuid) : Prop where
  user : ∃ user,
    working.users.filter (UserRow.hasEmail organizationId email) = [user] ∧
      user.id = userId ∧ user.passwordHash.isSome
  kept : UsersKept start.users working.users
  settled : Ensured organizationId email start → working.users = start.users
  roles : working.roles = start.roles
  bindings : working.roleBindings = start.roleBindings
  known : (∃ user ∈ start.users.filter (UserRow.hasEmail organizationId email),
      user.id = userId) ∨ (start.users.any fun user => user.id = userId) = false
  ids : ∀ id, (start.users.any fun user => user.id = id) = true →
    (working.users.any fun user => user.id = id) = true

variable {organizationId email}

private theorem eq_singleton_of_mem {α : Type} {rows : List α} {row : α}
    (atMostOne : rows.length ≤ 1) (member : row ∈ rows) : rows = [row] := by
  cases rows with
  | nil => cases member
  | cons first rest =>
      have none : rest = [] := by
        rw [← List.length_eq_zero_iff]
        rw [List.length_cons] at atMostOne
        omega
      subst none
      rw [List.mem_singleton.mp member]

private theorem userReady_existing {start : Db} {user : UserRow} {hash : String}
    (isUser : start.users.filter (UserRow.hasEmail organizationId email) =
      [user]) :
    UserReady organizationId email start
      (applyWrite (.password organizationId email (some hash)) start)
      user.id where
  user := by
    refine ⟨user.fillPassword (some hash), ?_, rfl, ?_⟩
    · rw [applyWrite, filter_fillFor, if_pos ⟨rfl, rfl⟩, isUser]
      rfl
    · rw [UserRow.fillPassword]
      cases user.passwordHash with
      | none => rfl
      | some old => rfl
  kept := by
    intro old member
    refine ⟨fillFor organizationId email (some hash) old,
      List.mem_map_of_mem member, ?_, ?_⟩
    · rw [fillFor]
      split
      · rfl
      · rfl
    · intro hasPassword
      obtain ⟨password, isPassword⟩ := Option.isSome_iff_exists.mp hasPassword
      rw [fillFor]
      split
      · rw [UserRow.fillPassword, isPassword, Option.some_or]
      · rfl
  settled := by
    rintro ⟨admin, _, isAdmin, hasPassword, _⟩
    have unchanged : ∀ old ∈ start.users,
        fillFor organizationId email (some hash) old = old := by
      intro old member
      rw [fillFor]
      split
      · rename_i selected
        have isAdminRow : old ∈ start.users.filter
            (UserRow.hasEmail organizationId email) :=
          List.mem_filter.mpr ⟨member, selected⟩
        rw [isAdmin, List.mem_singleton] at isAdminRow
        obtain ⟨password, isPassword⟩ :=
          Option.isSome_iff_exists.mp hasPassword
        rw [isAdminRow, UserRow.fillPassword, isPassword, Option.some_or,
          ← isPassword]
      · rfl
    rw [applyWrite]
    exact (List.map_congr_left unchanged).trans (List.map_id' _)
  roles := rfl
  bindings := rfl
  known := by
    refine Or.inl ⟨user, ?_, rfl⟩
    rw [isUser]
    exact List.mem_singleton_self user
  ids := by
    intro id present
    have same := any_map_keeping (fun user : UserRow => user.id)
      (id_fillFor organizationId email (some hash)) id start.users
    exact same.trans present

private theorem userReady_new {start : Db} {row : UserRow}
    (organization : row.organizationId = organizationId)
    (address : row.email = email) (hasPassword : row.passwordHash.isSome)
    (noUser : start.users.filter (UserRow.hasEmail organizationId email) = [])
    (newId : (start.users.any fun user => user.id = row.id) = false) :
    UserReady organizationId email start (applyWrite (.user row) start)
      row.id where
  user := by
    have selected : row.hasEmail organizationId email = true := by
      rw [UserRow.hasEmail, decide_eq_true_eq]
      exact ⟨organization, address⟩
    refine ⟨row, ?_, rfl, hasPassword⟩
    rw [applyWrite, List.filter_append, noUser, List.filter_cons_of_pos selected]
    rfl
  kept := by
    intro old member
    exact ⟨old, List.mem_append_left _ member, rfl, fun _ => rfl⟩
  settled := by
    rintro ⟨admin, _, isAdmin, _⟩
    rw [noUser] at isAdmin
    cases isAdmin
  roles := rfl
  bindings := rfl
  known := Or.inr newId
  ids := by
    intro id present
    rw [applyWrite, List.any_append, present, Bool.true_or]

/-- The roles after the upsert of the administrator's role. -/
structure RoleReady (organizationId : Uuid) (start working : List RoleRow)
    (roleId : Uuid) : Prop where
  role : ∃ role, working.filter (RoleRow.isAdmin organizationId) = [role] ∧
    role.id = roleId ∧ role.isSystem = true
  settled : (∃ role, start.filter (RoleRow.isAdmin organizationId) = [role] ∧
    role.isSystem = true) → working = start
  known : (∃ role ∈ start.filter (RoleRow.isAdmin organizationId),
      role.id = roleId) ∨ (start.any fun role => role.id = roleId) = false
  ids : ∀ id, (start.any fun role => role.id = id) = true →
    (working.any fun role => role.id = id) = true

private theorem roleReady_existing {start : List RoleRow} {role : RoleRow}
    (isRole : start.filter (RoleRow.isAdmin organizationId) = [role]) :
    RoleReady organizationId start (start.map (markSystem organizationId))
      role.id where
  role := by
    refine ⟨{ role with isSystem := true }, ?_, rfl, rfl⟩
    rw [filter_markSystem, if_pos rfl, isRole]
    rfl
  settled := by
    rintro ⟨admin, isAdmin, isSystem⟩
    have unchanged : ∀ old ∈ start, markSystem organizationId old = old := by
      intro old member
      rw [markSystem]
      split
      · rename_i selected
        have isAdminRow : old ∈ start.filter
            (RoleRow.isAdmin organizationId) :=
          List.mem_filter.mpr ⟨member, selected⟩
        rw [isAdmin, List.mem_singleton] at isAdminRow
        rw [isAdminRow, ← isSystem]
      · rfl
    exact (List.map_congr_left unchanged).trans (List.map_id' _)
  known := by
    refine Or.inl ⟨role, ?_, rfl⟩
    rw [isRole]
    exact List.mem_singleton_self role
  ids := by
    intro id present
    have same := any_map_keeping (fun role : RoleRow => role.id)
      (id_markSystem organizationId) id start
    exact same.trans present

private theorem roleReady_new {start : List RoleRow} {newId : Uuid}
    (noRole : start.filter (RoleRow.isAdmin organizationId) = [])
    (isNew : (start.any fun role => role.id = newId) = false) :
    RoleReady organizationId start
      (start ++ [⟨newId, some organizationId, adminRoleName, true⟩])
      newId where
  role := by
    refine ⟨⟨newId, some organizationId, adminRoleName, true⟩, ?_, rfl, rfl⟩
    rw [List.filter_append, noRole, List.filter_cons_of_pos]
    · rfl
    · rw [RoleRow.isAdmin, decide_eq_true_eq]
      exact ⟨rfl, rfl⟩
  settled := by
    rintro ⟨admin, isAdmin, _⟩
    rw [noRole] at isAdmin
    cases isAdmin
  known := Or.inr isNew
  ids := by
    intro id present
    rw [List.any_append, present, Bool.true_or]

/-- A user and a role that are there, or are new, have at most one binding. -/
theorem Consistent.bindings_le_one {db : Db}
    (consistent : Consistent organizationId email db) {userId roleId : Uuid}
    (knownUser : (∃ user ∈ db.users.filter
        (UserRow.hasEmail organizationId email), user.id = userId) ∨
      (db.users.any fun user => user.id = userId) = false)
    (knownRole : (∃ role ∈ db.roles.filter (RoleRow.isAdmin organizationId),
        role.id = roleId) ∨
      (db.roles.any fun role => role.id = roleId) = false) :
    (db.roleBindings.filter
      (RoleBindingRow.binds organizationId roleId userId)).length ≤ 1 := by
  have none_of : (∀ binding ∈ db.roleBindings,
      ¬binding.binds organizationId roleId userId = true) →
      (db.roleBindings.filter
        (RoleBindingRow.binds organizationId roleId userId)).length ≤ 1 := by
    intro never
    rw [List.filter_eq_nil_iff.mpr never]
    exact Nat.zero_le 1
  rcases knownUser with ⟨user, isUser, rfl⟩ | newUser
  · rcases knownRole with ⟨role, isRole, rfl⟩ | newRole
    · exact consistent.oneBinding user isUser role isRole
    · apply none_of
      intro binding member isBinding
      have present := consistent.boundRole binding member
      rw [RoleBindingRow.binds, decide_eq_true_eq] at isBinding
      rw [isBinding.2.1, newRole] at present
      cases present
  · apply none_of
    intro binding member isBinding
    rw [RoleBindingRow.binds, decide_eq_true_eq] at isBinding
    have present := consistent.boundUser binding member userId isBinding.2.2.1
    rw [newUser] at present
    cases present

/-- The bindings after the last check: one is there, or one is added. -/
structure BindingReady (organizationId roleId userId : Uuid)
    (start working : List RoleBindingRow) : Prop where
  one : (working.filter
    (RoleBindingRow.binds organizationId roleId userId)).length = 1
  settled : (start.filter
    (RoleBindingRow.binds organizationId roleId userId)).length = 1 →
      working = start
  added : ∀ binding ∈ working, binding ∈ start ∨
    binding.userId = some userId ∧ binding.roleId = roleId

private theorem bindingReady_existing {roleId userId : Uuid}
    {start : List RoleBindingRow}
    (atMostOne : (start.filter
      (RoleBindingRow.binds organizationId roleId userId)).length ≤ 1)
    (found : start.any (RoleBindingRow.binds organizationId roleId userId) =
      true) : BindingReady organizationId roleId userId start start where
  one := by
    obtain ⟨binding, member, isBinding⟩ := List.any_eq_true.mp found
    have selected := List.mem_filter.mpr ⟨member, isBinding⟩
    rw [eq_singleton_of_mem atMostOne selected]
    rfl
  settled _ := rfl
  added binding member := Or.inl member

private theorem bindingReady_new
    {roleId userId : Uuid} {start : List RoleBindingRow}
    {binding : RoleBindingRow}
    (isBinding : binding.binds organizationId roleId userId = true)
    (missing : start.any (RoleBindingRow.binds organizationId roleId userId) =
      false) :
    BindingReady organizationId roleId userId start (start ++ [binding]) where
  one := by
    have none : start.filter
        (RoleBindingRow.binds organizationId roleId userId) = [] := by
      rw [List.filter_eq_nil_iff]
      intro other member selected
      rw [List.any_eq_false] at missing
      exact missing other member selected
    rw [List.filter_append, none, List.filter_cons_of_pos isBinding]
    rfl
  settled := by
    intro one
    have none : start.filter
        (RoleBindingRow.binds organizationId roleId userId) = [] := by
      rw [List.filter_eq_nil_iff]
      intro other member selected
      rw [List.any_eq_false] at missing
      exact missing other member selected
    rw [none] at one
    cases one
  added := by
    intro other member
    rcases List.mem_append.mp member with old | isNew
    · exact Or.inl old
    · rw [List.mem_singleton] at isNew
      rw [RoleBindingRow.binds, decide_eq_true_eq] at isBinding
      rw [isNew]
      exact Or.inr ⟨isBinding.2.2.1, isBinding.2.1⟩

/-- What a commit of a bootstrap means. -/
structure Bootstraps (organizationId : Uuid) (email : String)
    (before after : Db) : Prop where
  ensured : Ensured organizationId email after
  kept : UsersKept before.users after.users
  users : Ensured organizationId email before → after.users = before.users
  roles : Ensured organizationId email before → after.roles = before.roles
  bindings : Ensured organizationId email before →
    after.roleBindings = before.roleBindings

/-- The three steps together. -/
theorem bootstraps_of_ready {start withUser withRole after : Db}
    {userId roleId : Uuid}
    (consistent : Consistent organizationId email start)
    (userReady : UserReady organizationId email start withUser userId)
    (sameUsers : after.users = withUser.users)
    (roleReady : RoleReady organizationId start.roles withRole.roles roleId)
    (sameRoles : after.roles = withRole.roles)
    (sameBindings : withRole.roleBindings = start.roleBindings)
    (bindingReady : BindingReady organizationId roleId userId
      withRole.roleBindings after.roleBindings) :
    Consistent organizationId email after ∧
      Bootstraps organizationId email start after := by
  rw [← sameRoles] at roleReady
  rw [sameBindings] at bindingReady
  obtain ⟨user, isUser, rfl, hasPassword⟩ := userReady.user
  obtain ⟨role, isRole, rfl, isSystem⟩ := roleReady.role
  have inUsers : user ∈ withUser.users := by
    have member := List.mem_singleton_self user
    rw [← isUser] at member
    exact (List.mem_filter.mp member).1
  have inRoles : role ∈ after.roles := by
    have member := List.mem_singleton_self role
    rw [← isRole] at member
    exact (List.mem_filter.mp member).1
  have isUserAfter : after.users.filter
      (UserRow.hasEmail organizationId email) = [user] := by
    rw [sameUsers, isUser]
  constructor
  · exact
      { oneUser := by
          rw [isUserAfter]
          exact Nat.le_refl 1
        oneRole := by
          rw [isRole]
          exact Nat.le_refl 1
        boundUser := by
          intro binding member id bound
          rw [sameUsers]
          rcases bindingReady.added binding member with old | ⟨isNew, _⟩
          · exact userReady.ids id (consistent.boundUser binding old id bound)
          · rw [isNew, Option.some.injEq] at bound
            exact List.any_eq_true.mpr
              ⟨user, inUsers, decide_eq_true bound⟩
        boundRole := by
          intro binding member
          rcases bindingReady.added binding member with old | ⟨_, isNew⟩
          · exact roleReady.ids _ (consistent.boundRole binding old)
          · exact List.any_eq_true.mpr
              ⟨role, inRoles, decide_eq_true isNew.symm⟩
        oneBinding := by
          intro other isOther otherRole isOtherRole
          rw [isUserAfter, List.mem_singleton] at isOther
          rw [isRole, List.mem_singleton] at isOtherRole
          rw [isOther, isOtherRole, bindingReady.one] }
  · have rolesStay : Ensured organizationId email start →
        after.roles = start.roles := by
      rintro ⟨_, admin, _, _, isAdmin, adminSystem, _⟩
      exact roleReady.settled ⟨admin, isAdmin, adminSystem⟩
    exact
      { ensured := ⟨user, role, isUserAfter, hasPassword, isRole, isSystem,
          bindingReady.one⟩
        kept := by
          rw [sameUsers]
          exact userReady.kept
        users := by
          intro ensured
          rw [sameUsers]
          exact userReady.settled ensured
        roles := rolesStay
        bindings := by
          intro ensured
          have usersStay := userReady.settled ensured
          have rolesStay := rolesStay ensured
          obtain ⟨oldUser, oldRole, isOldUser, _, isOldRole, _, one⟩ := ensured
          rw [usersStay, isOldUser, List.singleton_inj] at isUser
          rw [rolesStay, isOldRole, List.singleton_inj] at isRole
          rw [isUser, isRole] at one
          exact bindingReady.settled one }

end Ensuring

/-! ## A bootstrap under its locks -/

/-- The organization that the back-end is configured for. -/
def Service.organization (service : Service) : Option Uuid :=
  (service.catalog.organizations.find? fun organization =>
    organization.2 = service.organizationSlug).map Prod.fst

/-- The tables are consistent where the bootstrap reads them. -/
def Service.Consistent (service : Service) (db : Db) : Prop :=
  ∀ organizationId, service.organization = some organizationId →
    Bootstrap.Consistent organizationId (service.lower service.email) db

section Locked

variable {service : Service} {organizationId : Uuid}
  {catalog : Catalog} {start working : Db} {held : List LockKey}

/-- A statement that another session cannot disturb in the slice of a lock. -/
theorem slice_eq_of_agree {view : Db} {keys : List LockKey} {key : LockKey}
    (agree : (bootstrapLocking catalog).Agree keys view working)
    (member : key ∈ keys) : slice key view = slice key working :=
  agree key member

private theorem email_mem_acquires (row : UserRow) (view : Db) :
    LockKey.email row.organizationId row.email ∈
      acquires (.upsertUser row) view := List.mem_cons_self

private theorem user_mem_acquires_existing {row user : UserRow} {view : Db}
    (found : view.users.find?
      (UserRow.hasEmail row.organizationId row.email) = some user) :
    LockKey.user user.id ∈ acquires (.upsertUser row) view := by
  rw [acquires, found]
  exact List.mem_cons_of_mem _ (List.mem_singleton_self _)

private theorem user_mem_acquires_new {row : UserRow} {view : Db}
    (missing : view.users.find?
      (UserRow.hasEmail row.organizationId row.email) = none) :
    LockKey.user row.id ∈ acquires (.upsertUser row) view := by
  rw [acquires, missing]
  exact List.mem_cons_of_mem _ (List.mem_singleton_self _)

/-- The upsert of the user under its locks. -/
theorem upsertUser_ready {row : UserRow} {view : Db} {userId : Uuid}
    {writes : List Write}
    (agree : (bootstrapLocking catalog).Agree
      ([] ++ acquires (.upsertUser row) view) view start)
    (answered : execUpsertUser row view = .ok (userId, writes))
    (hasPassword : row.passwordHash.isSome)
    (consistent : Consistent row.organizationId row.email start) :
    UserReady row.organizationId row.email start
        ((bootstrapSql catalog).applyAll writes start) userId ∧
      (bootstrapLocking catalog).Covers
        ([] ++ acquires (.upsertUser row) view) writes ∧
      LockKey.user userId ∈ [] ++ acquires (.upsertUser row) view := by
  have sameEmail : slice (.email row.organizationId row.email) view =
      slice (.email row.organizationId row.email) start :=
    slice_eq_of_agree agree (email_mem_acquires row view)
  rw [slice, slice] at sameEmail
  rw [execUpsertUser] at answered
  cases found : view.users.find?
      (UserRow.hasEmail row.organizationId row.email) with
  | some user =>
      simp only [found, Except.ok.injEq, Prod.mk.injEq] at answered
      obtain ⟨rfl, rfl⟩ := answered
      have inView : user ∈ view.users.filter
          (UserRow.hasEmail row.organizationId row.email) :=
        List.mem_filter.mpr
          ⟨List.mem_of_find?_eq_some found, List.find?_some found⟩
      rw [sameEmail] at inView
      have isUser := eq_singleton_of_mem consistent.oneUser inView
      obtain ⟨hash, isHash⟩ := Option.isSome_iff_exists.mp hasPassword
      refine ⟨?_, ?_, user_mem_acquires_existing found⟩
      · rw [isHash]
        exact userReady_existing isUser
      · intro write member key touched
        rw [List.mem_singleton] at member
        subst member
        cases touched
        exact email_mem_acquires row view
  | none =>
      simp only [found] at answered
      split at answered
      · cases answered
      · rename_i isNew
        cases answered
        have noUser : start.users.filter
            (UserRow.hasEmail row.organizationId row.email) = [] := by
          rw [← sameEmail, List.filter_eq_nil_iff]
          exact List.find?_eq_none.mp found
        have acquired := user_mem_acquires_new found
        have sameId : slice (.user row.id) view = slice (.user row.id) start :=
          slice_eq_of_agree agree acquired
        have newId : (start.users.any fun user => user.id = row.id) = false := by
          have present : (view.users.any fun user => user.id = row.id) =
              start.users.any fun user => user.id = row.id :=
            congrArg Prod.fst sameId
          rw [← present]
          simpa using isNew
        refine ⟨userReady_new rfl rfl hasPassword noUser newId, ?_, acquired⟩
        intro write member key touched
        rw [List.mem_singleton] at member
        subst member
        rcases touched with rfl | rfl
        · exact email_mem_acquires row view
        · exact acquired

/-- The upsert of the administrator's role under its locks. -/
theorem upsertRole_ready {newId : Uuid} {view : Db} {roleId : Uuid}
    {writes : List Write}
    (agree : (bootstrapLocking catalog).Agree
      (held ++ acquires (.upsertRole organizationId newId) view) view working)
    (answered : execUpsertRole organizationId newId view =
      .ok (roleId, writes))
    (oneRole : (working.roles.filter
      (RoleRow.isAdmin organizationId)).length ≤ 1) :
    RoleReady organizationId working.roles
        ((bootstrapSql catalog).applyAll writes working).roles roleId ∧
      ((bootstrapSql catalog).applyAll writes working).users = working.users ∧
      ((bootstrapSql catalog).applyAll writes working).roleBindings =
        working.roleBindings ∧
      (bootstrapLocking catalog).Covers
        (held ++ acquires (.upsertRole organizationId newId) view) writes := by
  have adminAcquired : LockKey.adminRole organizationId ∈
      held ++ acquires (.upsertRole organizationId newId) view :=
    List.mem_append_right _ List.mem_cons_self
  have sameAdmin : slice (.adminRole organizationId) view =
      slice (.adminRole organizationId) working :=
    slice_eq_of_agree agree adminAcquired
  rw [slice, slice] at sameAdmin
  rw [execUpsertRole] at answered
  cases found : view.roles.find? (RoleRow.isAdmin organizationId) with
  | some role =>
      simp only [found, Except.ok.injEq, Prod.mk.injEq] at answered
      obtain ⟨rfl, rfl⟩ := answered
      have inView : role ∈ view.roles.filter
          (RoleRow.isAdmin organizationId) :=
        List.mem_filter.mpr
          ⟨List.mem_of_find?_eq_some found, List.find?_some found⟩
      rw [sameAdmin] at inView
      refine ⟨roleReady_existing (eq_singleton_of_mem oneRole inView), rfl, rfl,
        ?_⟩
      intro write member key touched
      rw [List.mem_singleton] at member
      subst member
      cases touched
      exact adminAcquired
  | none =>
      simp only [found] at answered
      split at answered
      · cases answered
      · rename_i isNew
        cases answered
        have noRole : working.roles.filter
            (RoleRow.isAdmin organizationId) = [] := by
          rw [← sameAdmin, List.filter_eq_nil_iff]
          exact List.find?_eq_none.mp found
        have acquired : LockKey.role newId ∈
            held ++ acquires (.upsertRole organizationId newId) view := by
          apply List.mem_append_right
          rw [acquires, found]
          exact List.mem_cons_of_mem _ (List.mem_singleton_self _)
        have sameId : slice (.role newId) view = slice (.role newId) working :=
          slice_eq_of_agree agree acquired
        rw [slice, slice] at sameId
        have missing : (working.roles.any fun role => role.id = newId) =
            false := by
          rw [← sameId]
          simpa using isNew
        refine ⟨roleReady_new noRole missing, rfl, rfl, ?_⟩
        intro write member key touched
        rw [List.mem_singleton] at member
        subst member
        rcases touched with ⟨owner, owned, rfl⟩ | rfl
        · cases owned
          exact adminAcquired
        · exact acquired

private theorem any_eq_any_filter {α : Type} {selected wide : α → Bool}
    (wider : ∀ row, selected row = true → wide row = true) (rows : List α) :
    rows.any selected = (rows.filter wide).any selected := by
  rw [List.any_filter]
  congr 1
  funext row
  cases isSelected : selected row with
  | false => rw [Bool.and_false]
  | true => rw [wider row isSelected]; rfl

/-- The check and the insertion of the binding, under the lock on the user. -/
theorem bindAdmin_ready {roleId userId newId : Uuid} {view : Db}
    {writes : List Write} {reply : Unit}
    (agree : (bootstrapLocking catalog).Agree held view working)
    (locked : LockKey.user userId ∈ held)
    (answered : execBindAdmin organizationId roleId userId newId view =
      .ok (reply, writes))
    (atMostOne : (working.roleBindings.filter
      (RoleBindingRow.binds organizationId roleId userId)).length ≤ 1) :
    BindingReady organizationId roleId userId working.roleBindings
        ((bootstrapSql catalog).applyAll writes working).roleBindings ∧
      ((bootstrapSql catalog).applyAll writes working).users = working.users ∧
      ((bootstrapSql catalog).applyAll writes working).roles = working.roles ∧
      (bootstrapLocking catalog).Covers held writes := by
  have sameSlice : slice (.user userId) view = slice (.user userId) working :=
    slice_eq_of_agree agree locked
  have sameBindings : (view.roleBindings.filter fun binding =>
      binding.userId = some userId) =
        working.roleBindings.filter fun binding =>
          binding.userId = some userId :=
    congrArg Prod.snd sameSlice
  have ofUser : ∀ binding : RoleBindingRow,
      binding.binds organizationId roleId userId = true →
        decide (binding.userId = some userId) = true := by
    intro binding isBinding
    rw [RoleBindingRow.binds, decide_eq_true_eq] at isBinding
    exact decide_eq_true isBinding.2.2.1
  have sameCheck : view.roleBindings.any
      (RoleBindingRow.binds organizationId roleId userId) =
        working.roleBindings.any
          (RoleBindingRow.binds organizationId roleId userId) := by
    rw [any_eq_any_filter ofUser, sameBindings, ← any_eq_any_filter ofUser]
  rw [execBindAdmin, sameCheck] at answered
  split at answered
  · rename_i found
    cases answered
    exact ⟨bindingReady_existing atMostOne found, rfl, rfl,
      Locking.covers_nil _⟩
  · rename_i missing
    split at answered
    · cases answered
    · split at answered
      · cases answered
      · cases answered
        refine ⟨bindingReady_new ?_ (Bool.not_eq_true _ ▸ missing), rfl, rfl,
          ?_⟩
        · rw [RoleBindingRow.binds, decide_eq_true_eq]
          exact ⟨rfl, rfl, rfl, rfl⟩
        · intro write member key touched
          rw [List.mem_singleton] at member
          subst member
          obtain ⟨id, isUser, rfl⟩ := touched
          cases isUser
          exact locked

/-- The transaction under its locks. -/
theorem ensureAdmin_locked {call : Call} {encoded : String}
    (consistent :
      Consistent organizationId (service.lower service.email) start) :
    (ensureAdmin service call encoded organizationId).Locked
      (bootstrapLocking service.catalog) (fun _ _ _ => True)
      (fun _ after =>
        Consistent organizationId (service.lower service.email) after ∧
          Bootstraps organizationId (service.lower service.email) start after)
      [] start := by
  rw [ensureAdmin]
  refine Program.Locked.statement_bind ?_ ?_
  · intro view userId writes agree answered
    exact (upsertUser_ready agree answered rfl consistent).2.1
  intro view userId writes agree answered
  obtain ⟨userReady, _, userHeld⟩ :=
    upsertUser_ready agree answered rfl consistent
  have oneRole : (((bootstrapSql service.catalog).applyAll writes
      start).roles.filter (RoleRow.isAdmin organizationId)).length ≤ 1 := by
    rw [userReady.roles]
    exact consistent.oneRole
  refine Program.Locked.statement_bind ?_ ?_
  · intro view roleId writes agree answered
    exact (upsertRole_ready agree answered oneRole).2.2.2
  intro view roleId roleWrites agree answered
  obtain ⟨roleReady, usersStay, bindingsStay, _⟩ :=
    upsertRole_ready agree answered oneRole
  refine Program.Locked.statement_bind ?_ ?_
  · intro view reply writes agree answered
    cases answered
    intro write member key touched
    rw [List.mem_singleton] at member
    subst member
    cases touched
  intro view reply grantWrites agree answered
  cases answered
  have atMostOne := consistent.bindings_le_one userReady.known
    (userReady.roles ▸ roleReady.known)
  rw [← userReady.bindings, ← bindingsStay] at atMostOne
  refine Program.Locked.statement_bind ?_ ?_
  · intro view reply writes agree answered
    have ready := bindAdmin_ready agree
      (List.mem_append_left _ (List.mem_append_left _
        (List.mem_append_left _ userHeld))) answered atMostOne
    exact ready.2.2.2
  intro view reply bindWrites agree answered
  obtain ⟨bindingReady, usersKept, rolesKept, _⟩ :=
    bindAdmin_ready agree
      (List.mem_append_left _ (List.mem_append_left _
        (List.mem_append_left _ userHeld))) answered atMostOne
  refine Program.Locked.statement_bind ?_ ?_
  · intro view reply writes agree answered
    cases answered
    intro write member key touched
    rw [List.mem_singleton] at member
    subst member
    cases touched
  intro view reply auditWrites agree answered
  cases answered
  refine .commit (.done _) ?_
  rw [userReady.roles] at roleReady
  have sameBindings := bindingsStay.trans userReady.bindings
  exact bootstraps_of_ready consistent userReady (usersKept.trans usersStay)
    roleReady rolesKept sameBindings bindingReady

/-- A commit of a bootstrap, for the organization of the back-end. -/
def Service.Bootstraps (service : Service) (before after : Db) : Prop :=
  ∃ organizationId, service.organization = some organizationId ∧
    Bootstrap.Bootstraps organizationId (service.lower service.email) before
      after

private theorem bootstrapAdmin_locked {call : Call}
    (consistent : service.Consistent start) :
    (bootstrapAdmin service call).Locked
      (bootstrapLocking service.catalog) (fun _ _ _ => True)
      (fun _ after => service.Consistent after ∧
        service.Bootstraps start after) [] start := by
  rw [bootstrapAdmin]
  refine Program.Locked.check_bind (fun _ => trivial) ?_
  intro _
  refine Program.Locked.ofExcept_bind (fun _ _ => trivial) ?_
  intro encoded _
  refine Program.Locked.statement_bind ?_ ?_
  · intro view reply writes agree answered
    cases answered
    exact Locking.covers_nil _
  intro view organization writes agree answered
  cases answered
  cases isOrganization : service.organization with
  | none =>
      rw [Service.organization] at isOrganization
      rw [isOrganization]
      exact .done trivial
  | some organizationId =>
      have found := isOrganization
      rw [Service.organization] at found
      rw [found]
      refine (ensureAdmin_locked (consistent _ isOrganization)).weaken_holds ?_
      rintro rest after ⟨consistentAfter, bootstraps⟩
      refine ⟨?_, organizationId, isOrganization, bootstraps⟩
      intro other isOther
      rw [isOrganization, Option.some.injEq] at isOther
      rw [← isOther]
      exact consistentAfter

end Locked

section Interleaved

variable {service : Service}

/-- Any number of starts with the same organization and e-mail address. -/
def bootstrapClient (service : Service) :
    Client (bootstrapSql service.catalog) BootstrapError where
  Call := Call
  Result _ := Unit
  program := bootstrapAdmin service

/-- Users, roles and bindings are as they were. -/
structure Unchanged (before after : Db) : Prop where
  users : after.users = before.users
  roles : after.roles = before.roles
  roleBindings : after.roleBindings = before.roleBindings

private theorem Unchanged.ensured {before after : Db} {organizationId : Uuid}
    {email : String} (unchanged : Unchanged before after)
    (ensured : Ensured organizationId email before) :
    Ensured organizationId email after := by
  rw [Ensured, unchanged.users, unchanged.roles, unchanged.roleBindings]
  exact ensured

private theorem keeps_bootstraps (service : Service) :
    System.Keeps (bootstrapClient service) (bootstrapLocking service.catalog)
      service.Consistent
      (fun commit => service.Bootstraps commit.before commit.after) := by
  intro call start consistent
  exact bootstrapAdmin_locked consistent

/-- Once the administrator is ensured, commits change nothing. -/
theorem unchanged_of_history {first last : Db} {organizationId : Uuid}
    {commits : List (Commit (bootstrapClient service))}
    (isOrganization : service.organization = some organizationId)
    (history : History (fun commit =>
      service.Bootstraps commit.before commit.after) first commits last)
    (ensured : Ensured organizationId (service.lower service.email) first) :
    Unchanged first last := by
  induction history with
  | nil => exact ⟨rfl, rfl, rfl⟩
  | cons _ made inductionHypothesis =>
      have ensuredBefore := inductionHypothesis.ensured ensured
      obtain ⟨other, isOther, bootstraps⟩ := made
      rw [isOrganization, Option.some.injEq] at isOther
      subst isOther
      exact
        { users := (bootstraps.users ensuredBefore).trans
            inductionHypothesis.users
          roles := (bootstraps.roles ensuredBefore).trans
            inductionHypothesis.roles
          roleBindings := (bootstraps.bindings ensuredBefore).trans
            inductionHypothesis.roleBindings }

/-- In every interleaving of bootstraps, from the first commit on there is
exactly one user with the address, with one binding as administrator, and no
later commit changes users, roles or bindings; users that were there before
keep their status and their passwords. -/
theorem bootstrapAdmin_idempotent
    {system : System (bootstrapClient service)
      (bootstrapLocking service.catalog)}
    {newer : List (Commit (bootstrapClient service))}
    {first : Commit (bootstrapClient service)}
    (reachable : System.Reachable service.Consistent system)
    (committed : system.commits = newer ++ [first]) :
    ∃ organizationId, service.organization = some organizationId ∧
      Ensured organizationId (service.lower service.email) system.committed ∧
      Unchanged first.after system.committed ∧
      UsersKept first.before.users system.committed.users := by
  obtain ⟨_, start, _, history⟩ :=
    reachable.history (fun _ isConsistent => isConsistent)
      (keeps_bootstraps service)
  rw [committed] at history
  obtain ⟨organizationId, isOrganization, bootstraps⟩ :=
    history.made_of_mem (List.mem_append_right newer List.mem_cons_self)
  have unchanged := unchanged_of_history isOrganization history.after_commit
    bootstraps.ensured
  refine ⟨organizationId, isOrganization,
    unchanged.ensured bootstraps.ensured, unchanged, ?_⟩
  rw [unchanged.users]
  exact bootstraps.kept

end Interleaved

namespace Sample

/-- `correct-horse-1`. -/
def firstPassword : Bytes :=
    [99, 111, 114, 114, 101, 99, 116, 45, 104, 111, 114, 115, 101, 45, 49]

/-- `correct-horse-2`. -/
def secondPassword : Bytes :=
    [99, 111, 114, 114, 101, 99, 116, 45, 104, 111, 114, 115, 101, 45, 50]

/-- Argon2id of the two passwords, with their salts. -/
def hashes : List ((Bytes × Bytes) × String) :=
  [((firstPassword, List.replicate 16 1),
      "$argon2id$v=19$m=65536,t=3,p=1$AQEBAQEBAQEBAQEBAQEBAQ" ++
        "$uN+SLgOWhPubLeeaarZMRHlA5PUWgFTCakOFN0zHxtc"),
    ((secondPassword, List.replicate 16 2),
      "$argon2id$v=19$m=65536,t=3,p=1$AgICAgICAgICAgICAgICAg" ++
        "$5mXqDr8muRGJaO9ST9UkqgSG7z5EIPA76z3o7MLDVSU")]

def service : Service where
  catalog := ⟨[(⟨1⟩, "acme")], [⟨20⟩, ⟨21⟩]⟩
  lower := toAsciiLowercase
  argon2 password salt :=
    (hashes.find? fun entry => entry.1 = (password, salt)).map Prod.snd
  organizationSlug := "acme"
  email := "Ops@acme.test"

/-- The start of a back-end. -/
def call (password : Bytes) (byte : UInt8) (serial : Nat) : Call where
  displayName := "SNM Administrator"
  password
  salt := List.replicate 16 byte
  now := 1000000
  userId := ⟨Fin.ofNat _ (100 + serial)⟩
  roleId := ⟨Fin.ofNat _ (200 + serial)⟩
  bindingId := ⟨Fin.ofNat _ (300 + serial)⟩
  correlationId := ⟨Fin.ofNat _ (400 + serial)⟩

def empty : Db := ⟨[], [], [], [], []⟩

private theorem consistent_empty
    (service : Service) : service.Consistent empty := by
  intro organizationId _
  exact
    { oneUser := Nat.zero_le 1
      oneRole := Nat.zero_le 1
      boundUser := fun _ member => absurd member List.not_mem_nil
      boundRole := fun _ member => absurd member List.not_mem_nil
      oneBinding := fun _ member => absurd member List.not_mem_nil }

/-- Two starts with different passwords. -/
def calls : List Call :=
  [call firstPassword 1 0, call secondPassword 2 1]

/-- Their commits and the state they leave. -/
def history : List (Commit (bootstrapClient service)) × Db :=
  System.commitEach (bootstrapClient service)
    calls [] empty

/-- The first of the two commits. -/
theorem history_begins : ∃ newer first, history.1 = newer ++ [first] := by
  have committed : history.1 ≠ [] := by
    have two : history.1.length = 2 := by decide
    intro isEmpty
    rw [isEmpty] at two
    contradiction
  exact ⟨history.1.dropLast, history.1.getLast committed,
    (List.dropLast_concat_getLast committed).symm⟩

end Sample

/-- The second password is not stored. -/
theorem bootstrapAdmin_idempotent_twice :
    Ensured ⟨1⟩ "ops@acme.test" Sample.history.2 ∧
      Sample.history.2.users.map UserRow.passwordHash =
        [Sample.service.argon2 Sample.firstPassword (List.replicate 16 1)] := by
  have begun : System.Reachable Sample.service.Consistent
      (System.idle Sample.empty [] : System (bootstrapClient Sample.service)
        (bootstrapLocking Sample.service.catalog)) :=
    .initial (Sample.consistent_empty _)
  obtain ⟨newer, first, committed⟩ := Sample.history_begins
  have ended := begun.commitEach Sample.calls
  obtain ⟨organizationId, isOrganization, ensured, _⟩ :=
    bootstrapAdmin_idempotent ended committed
  refine ⟨?_, by decide⟩
  have isFirst : Sample.service.organization = some ⟨1⟩ := by decide
  rw [isFirst, Option.some.injEq] at isOrganization
  subst isOrganization
  exact ensured

end NetworkManager.Backend.Bootstrap
