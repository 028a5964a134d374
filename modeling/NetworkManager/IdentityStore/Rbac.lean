import NetworkManager.Foundation.Table
import NetworkManager.Foundation.Uuid

/-!
# Roles and their bindings

A role holds permissions.  A binding gives a role to a user or to a service
account of an organization, at one site of it or at all.
-/

namespace NetworkManager.IdentityStore

open NetworkManager.Foundation

structure SiteRow where
  id : Uuid
  organizationId : Uuid
deriving DecidableEq, Repr

/-- A role without an organization is one of the system. -/
structure RoleRow where
  id : Uuid
  organizationId : Option Uuid
deriving DecidableEq, Repr

structure PermissionRow where
  id : Uuid
  code : String
deriving DecidableEq, Repr

structure RolePermissionRow where
  roleId : Uuid
  permissionId : Uuid
deriving DecidableEq, Repr

structure BindingRow where
  id : Uuid
  organizationId : Uuid
  roleId : Uuid
  userId : Option Uuid
  serviceAccountId : Option Uuid
  siteId : Option Uuid
deriving DecidableEq, Repr

/-- The tables of roles and bindings. -/
structure Rbac where
  sites : Table Uuid SiteRow SiteRow.id
  roles : Table Uuid RoleRow RoleRow.id
  permissions : Table Uuid PermissionRow PermissionRow.id
  rolePermissions : List RolePermissionRow
  roleBindings : Table Uuid BindingRow BindingRow.id

/-- `rb.site_id IS NULL OR rb.site_id = s.id`. -/
def BindingRow.covers (binding : BindingRow) (siteId : Uuid) : Bool :=
  binding.siteId.all fun bound => decide (bound = siteId)

/-- `role_permissions` joined with `permissions`: the role holds a permission
with this code. -/
def Rbac.holds (rbac : Rbac) (roleId : Uuid) (code : String) : Bool :=
  rbac.rolePermissions.any fun granted =>
    decide (granted.roleId = roleId) &&
      rbac.permissions.rows.any fun permission =>
        decide (permission.id = granted.permissionId ∧ permission.code = code)

/-- The trigger `validate_role_binding_scope`, for any test that an
organization has a user or a service account. -/
def validateRoleBindingScope (rbac : Rbac)
    (isUser isServiceAccount : Uuid → Uuid → Bool) (binding : BindingRow) :
    Except SqlError Unit :=
  let bound := binding.organizationId
  let roleOrganization :=
    (rbac.roles.lookup binding.roleId).bind RoleRow.organizationId
  let siteOrganization (siteId : Uuid) : Option Uuid :=
    (rbac.sites.lookup siteId).map SiteRow.organizationId
  if roleOrganization.any fun organization => decide (organization ≠ bound) then
    .error (.other "role binding organization mismatch")
  else if binding.siteId.any fun siteId =>
      decide (siteOrganization siteId ≠ some bound) then
    .error (.other "role binding site organization mismatch")
  else if binding.userId.any fun userId => !isUser userId bound then
    .error (.other "role binding user organization mismatch")
  else if binding.serviceAccountId.any fun account =>
      !isServiceAccount account bound then
    .error (.other "role binding service account organization mismatch")
  else
    .ok ()

end NetworkManager.IdentityStore
