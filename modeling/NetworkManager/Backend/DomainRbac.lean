import NetworkManager.Backend.Mediation
import NetworkManager.IdentityStore.SiteBindings

/-!
# The query of the service and the policy of the domain

The service asks the tables whether a permission is allowed, the domain asks a
list of grants.  Both say the same of what the tables hold, as far as the service
takes the permission for one.
-/

namespace NetworkManager.Backend

open NetworkManager.Foundation
open NetworkManager.Backend.InventoryApi (HoldsAt
  execSelectAllowed_eq_true_iff optionAll_eq_true_iff)
open NetworkManager.IdentityStore
open NetworkManager.Security.Rbac
open NetworkManager.Transaction

/-- The codes of the permissions of a role. -/
def codesOf (rbac : Rbac) (roleId : Uuid) : List String :=
  (rbac.rolePermissions.filter fun granted =>
    decide (granted.roleId = roleId)).flatMap fun granted =>
      (rbac.permissions.rows.filter fun permission =>
        decide (permission.id = granted.permissionId)).map PermissionRow.code

/-- What the bindings of a user grant, each expanded by the permissions of its
role. -/
def grantsOf (rbac : Rbac) (userId : Uuid) : List PermissionGrant :=
  (rbac.roleBindings.rows.filter fun binding =>
    decide (binding.userId = some userId)).flatMap fun binding =>
      ((codesOf rbac binding.roleId).filter fun code =>
        decide (Permission.parse code = .ok code)).map fun permission =>
          ⟨permission, binding.scope⟩

/-- The schema and its trigger accept the bindings. -/
structure AcceptedBindings (rbac : Rbac)
    (isUser isServiceAccount : Uuid → Uuid → Bool) : Prop where
  role : ∀ binding ∈ rbac.roleBindings.rows,
    (rbac.roles.lookup binding.roleId).isSome
  scope : ∀ binding ∈ rbac.roleBindings.rows,
    validateRoleBindingScope rbac isUser isServiceAccount binding = .ok ()

section Grants

variable {rbac : Rbac} {userId roleId : Uuid} {code : String}

private theorem mem_codesOf : code ∈ codesOf rbac roleId ↔
    rbac.holds roleId code = true := by
  simp only [codesOf, Rbac.holds, List.mem_flatMap, List.mem_map,
    List.mem_filter, List.any_eq_true, Bool.and_eq_true, decide_eq_true_eq]
  constructor
  · rintro ⟨granted, ⟨member, ofRole⟩, permission, ⟨isRow, isGranted⟩, isCode⟩
    exact ⟨granted, member, ofRole, permission, isRow, isGranted, isCode⟩
  · rintro ⟨granted, member, ofRole, permission, isRow, isGranted, isCode⟩
    exact ⟨granted, ⟨member, ofRole⟩, permission, ⟨isRow, isGranted⟩, isCode⟩

private theorem mem_grantsOf {grant : PermissionGrant} :
    grant ∈ grantsOf rbac userId ↔
      ∃ binding ∈ rbac.roleBindings.rows, binding.userId = some userId ∧
        grant.scope = binding.scope ∧
        rbac.holds binding.roleId grant.permission = true ∧
        Permission.parse grant.permission = .ok grant.permission := by
  simp only [grantsOf, List.mem_flatMap, List.mem_filter, List.mem_map,
    decide_eq_true_eq, mem_codesOf]
  constructor
  · rintro ⟨binding, ⟨member, isUser⟩, code, ⟨holds, parsed⟩, rfl⟩
    exact ⟨binding, member, isUser, rfl, holds, parsed⟩
  · rintro ⟨binding, member, isUser, isScope, holds, parsed⟩
    refine ⟨binding, ⟨member, isUser⟩, grant.permission, ⟨holds, parsed⟩, ?_⟩
    rw [← isScope]

/-- A role that an accepted binding gives is one of the system or of the
organization of the binding. -/
theorem AcceptedBindings.role_of_binding
    {isUser isServiceAccount : Uuid → Uuid → Bool} {binding : BindingRow}
    (accepted : AcceptedBindings rbac isUser isServiceAccount)
    (member : binding ∈ rbac.roleBindings.rows) :
    ∃ role, rbac.roles.lookup binding.roleId = some role ∧
      (role.organizationId = none ∨
        role.organizationId = some binding.organizationId) := by
  rcases Option.isSome_iff_exists.mp (accepted.role binding member) with
    ⟨role, isRole⟩
  have passed := accepted.scope binding member
  rw [validateRoleBindingScope] at passed
  split_ifs at passed with wrongRole
  refine ⟨role, isRole, ?_⟩
  cases owner : role.organizationId with
  | none => exact Or.inl rfl
  | some organization =>
      right
      by_contra different
      apply wrongRole
      rw [isRole, Option.bind_some, owner, Option.any_some,
        decide_eq_true_eq]
      exact fun same => different (congrArg some same)

end Grants

section Policies

variable {db : AuthorizationDb} {principal : Principal} {siteId : Uuid}
  {permission : String} {isUser isServiceAccount : Uuid → Uuid → Bool}

/-- The domain authorizes a request at a site of the organization exactly if a
binding grants it there. -/
theorem authorize_grantsOf_iff
    (accepted : AcceptedBindings db.rbac isUser isServiceAccount)
    (isSite : ∃ site, db.rbac.sites.lookup siteId = some site ∧
      site.organizationId = principal.organizationId)
    (parsed : Permission.parse permission = .ok permission) :
    authorize (grantsOf db.rbac principal.userId)
        ⟨permission, ⟨principal.organizationId, some siteId⟩⟩ = .ok () ↔
      HoldsAt db.rbac principal siteId permission := by
  rw [authorize_eq_ok_iff]
  constructor
  · rintro ⟨grant, member, samePermission, contains⟩
    rcases mem_grantsOf.mp member with
      ⟨binding, isRow, ofUser, isScope, holds, _⟩
    rw [isScope] at contains
    rw [samePermission] at holds
    rcases ResourceScope.contains_site_iff.mp contains with
      ⟨sameOrganization, covers⟩
    have bound : binding.organizationId = principal.organizationId :=
      sameOrganization
    rcases accepted.role_of_binding isRow with ⟨role, isRole, owner⟩
    rw [bound] at owner
    exact ⟨isSite, binding, isRow,
      ⟨bound, ofUser, covers, ⟨role, isRole, owner⟩, holds⟩⟩
  · rintro ⟨_, binding, isRow, grants⟩
    refine ⟨⟨permission, binding.scope⟩, mem_grantsOf.mpr ⟨binding, isRow,
      grants.user, rfl, grants.permission, parsed⟩, rfl, ?_⟩
    exact ResourceScope.contains_site_iff.mpr
      ⟨grants.organization, grants.site⟩

private theorem call_requireSitePermission_iff
    (notBlank : isBlank permission = false) :
    ((requireSitePermission principal siteId permission).call db).1 =
        .ok () ↔
      permission.utf8ByteSize ≤ 120 ∧
        HoldsAt db.rbac principal siteId permission := by
  rw [← execSelectAllowed_eq_true_iff]
  rw [Program.call_eq, requireSitePermission]
  by_cases short : permission.utf8ByteSize ≤ 120
  · have passes : (!(isBlank permission ||
        decide (120 < permission.utf8ByteSize))) = true := by
      simp [notBlank, short]
    have answered : authorizationSql.exec (.selectAllowed
        principal.organizationId principal.userId permission siteId) db =
          .ok (execSelectAllowed principal.organizationId principal.userId
            permission siteId db, []) := rfl
    rw [passes, Program.check_true_bind, authorizationQuery, Connection.fresh,
      Program.eval_statement_bind_ok answered, and_iff_right short]
    by_cases allowed : execSelectAllowed principal.organizationId
        principal.userId permission siteId db = true
    · rw [if_pos allowed]
      exact iff_of_true rfl allowed
    · rw [if_neg allowed]
      exact iff_of_false (by rintro ⟨⟩) allowed
  · have refused : (!(isBlank permission ||
        decide (120 < permission.utf8ByteSize))) = false := by
      simp [Nat.lt_of_not_le short]
    rw [refused, Program.check_false_bind]
    exact iff_of_false (by rintro ⟨⟩) fun both => short both.1

/-- The service allows what the domain authorizes, except by a permission whose
text it finds too long. -/
theorem requireSitePermission_agrees_iff
    (accepted : AcceptedBindings db.rbac isUser isServiceAccount)
    (isSite : ∃ site, db.rbac.sites.lookup siteId = some site ∧
      site.organizationId = principal.organizationId)
    (parsed : Permission.parse permission = .ok permission) :
    (((requireSitePermission principal siteId permission).call db).1 =
        .ok () ↔
      authorize (grantsOf db.rbac principal.userId)
        ⟨permission, ⟨principal.organizationId, some siteId⟩⟩ = .ok ()) ↔
      (permission.utf8ByteSize ≤ 120 ∨
        ¬∃ binding ∈ db.rbac.roleBindings.rows,
          binding.organizationId = principal.organizationId ∧
          binding.userId = some principal.userId ∧
          binding.covers siteId = true ∧
          db.rbac.holds binding.roleId permission = true) := by
  have granted_iff : (∃ binding ∈ db.rbac.roleBindings.rows,
      binding.organizationId = principal.organizationId ∧
      binding.userId = some principal.userId ∧
      binding.covers siteId = true ∧
      db.rbac.holds binding.roleId permission = true) ↔
      HoldsAt db.rbac principal siteId permission := by
    constructor
    · rintro ⟨binding, isRow, bound, ofUser, covers, holds⟩
      rcases accepted.role_of_binding isRow with ⟨role, isRole, owner⟩
      rw [bound] at owner
      exact ⟨isSite, binding, isRow, ⟨bound, ofUser,
        optionAll_eq_true_iff.mp covers, ⟨role, isRole, owner⟩, holds⟩⟩
    · rintro ⟨_, binding, isRow, grants⟩
      exact ⟨binding, isRow, grants.organization, grants.user,
        optionAll_eq_true_iff.mpr grants.site, grants.permission⟩
  rw [granted_iff, authorize_grantsOf_iff accepted isSite parsed,
    call_requireSitePermission_iff (Permission.notBlank_of_parse parsed)]
  tauto

end Policies

namespace Sample

/-- A permission of 121 bytes. -/
def longPermission : String :=
  String.ofList ('.' :: List.replicate 120 'a')

/-- A role with two permissions, given to a user at one site. -/
def roleAtSite : AuthorizationDb where
  users := .empty _
  sessions := .empty _
  rbac :=
    { sites := Table.put ⟨⟨10⟩, ⟨1⟩⟩ (.empty _)
      roles := Table.put ⟨⟨2⟩, none⟩ (.empty _)
      permissions := Table.put ⟨⟨3⟩, "devices.view"⟩
        (Table.put ⟨⟨4⟩, longPermission⟩ (.empty _))
      rolePermissions := [⟨⟨2⟩, ⟨3⟩⟩, ⟨⟨2⟩, ⟨4⟩⟩]
      roleBindings := Table.put
        ⟨⟨5⟩, ⟨1⟩, ⟨2⟩, some ⟨6⟩, none, some ⟨10⟩⟩ (.empty _) }

def siteUser : Principal := ⟨⟨7⟩, ⟨6⟩, ⟨1⟩⟩

private theorem acceptedBindings_roleAtSite :
    AcceptedBindings roleAtSite.rbac (fun _ _ => true) (fun _ _ => true) :=
  ⟨by decide, by decide⟩

private theorem isSite_roleAtSite :
    ∃ site, roleAtSite.rbac.sites.lookup ⟨10⟩ = some site ∧
      site.organizationId = siteUser.organizationId :=
  ⟨⟨⟨10⟩, ⟨1⟩⟩, rfl, rfl⟩

end Sample

/-- The domain authorizes by a permission of 121 bytes, the service does not. -/
theorem not_requireSitePermission_agrees :
    ¬∀ (db : AuthorizationDb) (principal : Principal) (siteId : Uuid)
      (permission : String) (isUser isServiceAccount : Uuid → Uuid → Bool),
      AcceptedBindings db.rbac isUser isServiceAccount →
      (∃ site, db.rbac.sites.lookup siteId = some site ∧
        site.organizationId = principal.organizationId) →
      Permission.parse permission = .ok permission →
      (((requireSitePermission principal siteId permission).call db).1 =
          .ok () ↔
        authorize (grantsOf db.rbac principal.userId)
          ⟨permission, ⟨principal.organizationId, some siteId⟩⟩ =
            .ok ()) := by
  intro agrees
  have same := agrees Sample.roleAtSite Sample.siteUser ⟨10⟩
    Sample.longPermission _ _ Sample.acceptedBindings_roleAtSite
    Sample.isSite_roleAtSite (by decide +kernel)
  have authorized : authorize
      (grantsOf Sample.roleAtSite.rbac Sample.siteUser.userId)
      ⟨Sample.longPermission,
        ⟨Sample.siteUser.organizationId, some ⟨10⟩⟩⟩ = .ok () := by
    decide +kernel
  have denied : ((requireSitePermission Sample.siteUser ⟨10⟩
      Sample.longPermission).call Sample.roleAtSite).1 =
        .error .permissionDenied := by
    decide +kernel
  rw [denied] at same
  exact nomatch same.mpr authorized

theorem requireSitePermission_agrees_siteUser :
    ((requireSitePermission Sample.siteUser ⟨10⟩ "devices.view").call
        Sample.roleAtSite).1 = .ok () ↔
      authorize (grantsOf Sample.roleAtSite.rbac Sample.siteUser.userId)
        ⟨"devices.view", ⟨Sample.siteUser.organizationId, some ⟨10⟩⟩⟩ =
          .ok () :=
  (requireSitePermission_agrees_iff Sample.acceptedBindings_roleAtSite
    Sample.isSite_roleAtSite (by decide)).mpr
      (Or.inl (by decide))

end NetworkManager.Backend
