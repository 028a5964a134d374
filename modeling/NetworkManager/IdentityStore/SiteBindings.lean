import NetworkManager.IdentityStore.Authentication
import NetworkManager.Security.Rbac

/-!
# Bindings at a site

A role is bound at one site of an organization or at all of them.  The query of
`authenticate` does not look at the site of a binding, and the principal that it
returns has none, so what a role holds at one site is reported for all.
-/

namespace NetworkManager.IdentityStore

open NetworkManager.Foundation
open NetworkManager.Security.Rbac
open NetworkManager.Security.Token
open NetworkManager.Transaction

variable {castCidr : String → Option Cidr} {library : TokenLibrary}
  {db : ServiceAccountDb} {token : Bytes} {sourceIp : IpAddr}
  {now : Timestamp}

def BindingRow.scope (binding : BindingRow) : ResourceScope where
  organizationId := binding.organizationId
  siteId := binding.siteId

/-- The bindings of an account to roles that hold a permission. -/
def Rbac.bindingsFor (rbac : Rbac) (organizationId accountId : Uuid)
    (code : String) : List BindingRow :=
  rbac.roleBindings.rows.filter fun binding =>
    decide (binding.organizationId = organizationId) &&
      decide (binding.serviceAccountId = some accountId) &&
      rbac.holds binding.roleId code

private theorem Rbac.mem_bindingsFor
    {rbac : Rbac} {organizationId accountId : Uuid}
    {code : String} {binding : BindingRow} :
    binding ∈ rbac.bindingsFor organizationId accountId code ↔
      binding ∈ rbac.roleBindings.rows ∧
        binding.organizationId = organizationId ∧
        binding.serviceAccountId = some accountId ∧
        rbac.holds binding.roleId code = true := by
  simp [Rbac.bindingsFor, and_assoc]

/-- The grants of a permission to an account, as the domain has them. -/
def Rbac.grantsFor (rbac : Rbac) (organizationId accountId : Uuid)
    (code : String) : List PermissionGrant :=
  (rbac.bindingsFor organizationId accountId code).map fun binding =>
    ⟨code, binding.scope⟩

/-- Every permission of the principal is granted to it at every site of its
organization. -/
def GrantedAtEverySite (db : ServiceAccountDb) (principal : ServicePrincipal) :
    Prop :=
  ∀ code ∈ principal.effectivePermissions, ∀ site ∈ db.rbac.sites.rows,
    site.organizationId = principal.organizationId →
    ∃ binding ∈ db.rbac.roleBindings.rows,
      binding.organizationId = principal.organizationId ∧
        binding.serviceAccountId = some principal.serviceAccountId ∧
        (binding.siteId = none ∨ binding.siteId = some site.id) ∧
        db.rbac.holds binding.roleId code = true

/-- To be granted at a site is to be authorized there by the domain. -/
theorem grantedAtEverySite_iff_authorize {principal : ServicePrincipal} :
    GrantedAtEverySite db principal ↔
      ∀ code ∈ principal.effectivePermissions, ∀ site ∈ db.rbac.sites.rows,
        site.organizationId = principal.organizationId →
        authorize
          (db.rbac.grantsFor principal.organizationId
            principal.serviceAccountId code)
          ⟨code, ⟨principal.organizationId, some site.id⟩⟩ = .ok () := by
  have same : ∀ code (site : SiteRow),
      (∃ binding ∈ db.rbac.roleBindings.rows,
        binding.organizationId = principal.organizationId ∧
          binding.serviceAccountId = some principal.serviceAccountId ∧
          (binding.siteId = none ∨ binding.siteId = some site.id) ∧
          db.rbac.holds binding.roleId code = true) ↔
        authorize
          (db.rbac.grantsFor principal.organizationId
            principal.serviceAccountId code)
          ⟨code, ⟨principal.organizationId, some site.id⟩⟩ = .ok () := by
    intro code site
    rw [authorize_eq_ok_iff]
    constructor
    · rintro ⟨binding, member, sameOrganization, sameAccount, covers, holds⟩
      refine ⟨⟨code, binding.scope⟩, List.mem_map.mpr ⟨binding, ?_, rfl⟩, rfl,
        ResourceScope.contains_site_iff.mpr ⟨sameOrganization, covers⟩⟩
      exact Rbac.mem_bindingsFor.mpr
        ⟨member, sameOrganization, sameAccount, holds⟩
    · rintro ⟨grant, member, _, contains⟩
      obtain ⟨binding, isBinding, rfl⟩ := List.mem_map.mp member
      obtain ⟨isRow, sameOrganization, sameAccount, holds⟩ :=
        Rbac.mem_bindingsFor.mp isBinding
      exact ⟨binding, isRow, sameOrganization, sameAccount,
        (ResourceScope.contains_site_iff.mp contains).2, holds⟩
  simp only [GrantedAtEverySite, same]

/-- The row by which a token is accepted, with its account. -/
def Presented (library : TokenLibrary) (db : ServiceAccountDb)
    (now : Timestamp) (token : Bytes) (sourceIp : IpAddr)
    (credential : CredentialRow) (account : AccountRow) : Prop :=
  db.accounts.lookup credential.serviceAccountId = some account ∧
    ∃ visiblePrefix row, lookupPrefix token = some visiblePrefix ∧
      (execSelectCandidates visiblePrefix sourceIp now db).find?
        (CandidateRow.accepts library token) = some row ∧
      row.credential = credential

/-- The account holds the permission by bindings at sites only, and they leave
out a site of the organization. -/
def Rbac.LeavesOutSite (rbac : Rbac) (organizationId accountId : Uuid)
    (code : String) : Prop :=
  rbac.bindingsFor organizationId accountId code ≠ [] ∧
    (∀ binding ∈ rbac.bindingsFor organizationId accountId code,
      binding.siteId ≠ none) ∧
    ∃ site ∈ rbac.sites.rows, site.organizationId = organizationId ∧
      ∀ binding ∈ rbac.bindingsFor organizationId accountId code,
        binding.siteId ≠ some site.id

private theorem Rbac.bound_of_mem_bindingsFor {rbac : Rbac}
    {organizationId accountId : Uuid} {code : String} {binding : BindingRow}
    (member : binding ∈ rbac.bindingsFor organizationId accountId code) :
    rbac.Bound organizationId accountId code :=
  ⟨binding, Rbac.mem_bindingsFor.mp member⟩

/-- The permissions of a principal are granted at every site unless a scope of
its credential leaves out a site. -/
theorem grantedAtEverySite_iff {principal : ServicePrincipal}
    {scopes : List String}
    (permissions : ∀ code, code ∈ principal.effectivePermissions ↔
      code ∈ scopes ∧ db.rbac.Bound principal.organizationId
        principal.serviceAccountId code) :
    GrantedAtEverySite db principal ↔
      ∀ scope ∈ scopes, ¬ db.rbac.LeavesOutSite principal.organizationId
        principal.serviceAccountId scope := by
  constructor
  · rintro granted scope isScope ⟨bound, everySite, site, isSite, owned, leftOut⟩
    obtain ⟨first, isFirst⟩ := List.exists_mem_of_ne_nil _ bound
    have effective := (permissions scope).mpr
      ⟨isScope, Rbac.bound_of_mem_bindingsFor isFirst⟩
    obtain ⟨binding, isRow, sameOrganization, sameAccount, covers, holds⟩ :=
      granted scope effective site isSite owned
    have member := Rbac.mem_bindingsFor.mpr
      ⟨isRow, sameOrganization, sameAccount, holds⟩
    rcases covers with everywhere | here
    · exact everySite binding member everywhere
    · exact leftOut binding member here
  · intro noneLeftOut code effective site isSite owned
    obtain ⟨isScope, bound⟩ := (permissions code).mp effective
    obtain ⟨first, isFirst⟩ := bound
    have nonempty := List.ne_nil_of_mem (Rbac.mem_bindingsFor.mpr isFirst)
    by_contra missing
    apply noneLeftOut code isScope
    refine ⟨nonempty, ?_, site, isSite, owned, ?_⟩
    · intro binding member everywhere
      obtain ⟨isRow, sameOrganization, sameAccount, holds⟩ :=
        Rbac.mem_bindingsFor.mp member
      exact missing ⟨binding, isRow, sameOrganization, sameAccount,
        Or.inl everywhere, holds⟩
    · intro binding member here
      obtain ⟨isRow, sameOrganization, sameAccount, holds⟩ :=
        Rbac.mem_bindingsFor.mp member
      exact missing ⟨binding, isRow, sameOrganization, sameAccount,
        Or.inr here, holds⟩

/-- The principal of a token that is accepted has its permissions at every site
exactly if no scope of the credential leaves out a site. -/
theorem authenticate_grantedAtEverySite_iff {credential : CredentialRow}
    {account : AccountRow} (sized : HashesSized db)
    (presented : Presented library db now token sourceIp credential account) :
    ∃ principal,
      ((authenticate castCidr library now token sourceIp).call db).1 =
        .ok principal ∧
      (GrantedAtEverySite db principal ↔
        ∀ scope ∈ credential.scopes, ¬ db.rbac.LeavesOutSite
          account.organizationId credential.serviceAccountId scope) := by
  obtain ⟨isAccount, visiblePrefix, row, isPrefix, found, rfl⟩ := presented
  refine ⟨row.principal, (call_authenticate sized).mpr
    ⟨visiblePrefix, row, isPrefix, found, rfl⟩, ?_⟩
  obtain ⟨_, _, _, owner, isOwner, _, sameOrganization, rbacPermissions⟩ :=
    mem_execSelectCandidates.mp (List.mem_of_find?_eq_some found)
  rw [isAccount, Option.some.injEq] at isOwner
  subst isOwner
  have isId : account.id = row.credential.serviceAccountId :=
    Table.key_of_lookup isAccount
  rw [← sameOrganization]
  apply grantedAtEverySite_iff
  intro code
  rw [CandidateRow.principal, mem_intersectPermissions, rbacPermissions,
    Rbac.mem_accountPermissions, isId, sameOrganization]

namespace Sample

def twoSites : ServiceAccountDb :=
  { start with
    rbac :=
      { start.rbac with
        sites := Table.put ⟨⟨11⟩, ⟨1⟩⟩ (Table.put ⟨⟨10⟩, ⟨1⟩⟩ (.empty _)) } }

/-- The role of the account is bound at the first site. -/
def siteBound : ServiceAccountDb :=
  ((ServiceRun.initial twoSites 0).after readCidr tokenLibrary
    [.call (.createAccount ⟨4⟩ ⟨1⟩ "collector") [],
      .call (.bindRole ⟨5⟩ ⟨1⟩ ⟨4⟩ ⟨2⟩ (some ⟨10⟩)) [],
      .call (.issueCredential ⟨6⟩ (.replicate 32 1) ⟨1⟩ ⟨4⟩ input) []]).db

def collector : AccountRow := ⟨⟨4⟩, ⟨1⟩, "collector", .active⟩

def credential : CredentialRow where
  id := ⟨6⟩
  serviceAccountId := ⟨4⟩
  tokenPrefix := "snm_sa_AQEBAQEB"
  tokenHash := firstHash.bytes
  scopes := ["devices.view", "audit.view"]
  allowedCidrs := [.v4 0x0A000000 8]
  expiresAt := some 3600000000
  revokedAt := none
  lastUsedAt := none

private theorem presented
    : Presented tokenLibrary siteBound 0 (utf8Bytes firstToken)
    (.v4 0x0A000001) credential collector := by
  refine ⟨by decide, "snm_sa_AQEBAQEB",
    ⟨credential, ⟨1⟩, ["devices.view"]⟩, ?_, ?_, rfl⟩
  · decide
  · decide

private theorem hashesSized : HashesSized siteBound := by
  unfold HashesSized
  decide

theorem authenticate_grantedAtEverySite_iff_collector :
    ∃ principal,
      ((authenticate readCidr tokenLibrary 0 (utf8Bytes firstToken)
        (.v4 0x0A000001)).call siteBound).1 = .ok principal ∧
      (GrantedAtEverySite siteBound principal ↔
        ∀ scope ∈ credential.scopes,
          ¬ siteBound.rbac.LeavesOutSite ⟨1⟩ ⟨4⟩ scope) :=
  authenticate_grantedAtEverySite_iff hashesSized presented

/-- The schema accepts the binding, and the principal has the permission of the
role, which is not granted at the second site. -/
theorem siteBound_reported :
    (∀ binding ∈ siteBound.rbac.roleBindings.rows,
      validateRoleBindingScope siteBound.rbac (fun _ _ => false)
        siteBound.isServiceAccount binding = .ok ()) ∧
    ((authenticate readCidr tokenLibrary 0 (utf8Bytes firstToken)
        (.v4 0x0A000001)).call siteBound).1 =
      .ok ⟨⟨4⟩, ⟨6⟩, ⟨1⟩, ["devices.view"]⟩ ∧
    ¬ GrantedAtEverySite siteBound ⟨⟨4⟩, ⟨6⟩, ⟨1⟩, ["devices.view"]⟩ := by
  refine ⟨by decide, by decide, ?_⟩
  unfold GrantedAtEverySite
  decide

end Sample

end NetworkManager.IdentityStore
