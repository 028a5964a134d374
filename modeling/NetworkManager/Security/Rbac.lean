import NetworkManager.Foundation.Text
import NetworkManager.Foundation.Uuid

/-!
# Grants and their scopes

A grant gives a permission in an organization, at one site of it or at all of
them.
-/

namespace NetworkManager.Security.Rbac

open NetworkManager.Foundation

structure ResourceScope where
  organizationId : Uuid
  siteId : Option Uuid
deriving DecidableEq, Repr

def ResourceScope.contains (scope requested : ResourceScope) : Bool :=
  decide (scope.organizationId = requested.organizationId) &&
    (scope.siteId.isNone || decide (scope.siteId = requested.siteId))

theorem ResourceScope.contains_site_iff {scope : ResourceScope}
    {organizationId siteId : Uuid} :
    scope.contains ⟨organizationId, some siteId⟩ = true ↔
      scope.organizationId = organizationId ∧
        (scope.siteId = none ∨ scope.siteId = some siteId) := by
  simp [ResourceScope.contains]

structure PermissionGrant where
  permission : String
  scope : ResourceScope
deriving DecidableEq, Repr

structure AuthorizationRequest where
  permission : String
  scope : ResourceScope
deriving DecidableEq, Repr

inductive AuthorizationError where
  | invalidPermission
  | denied
deriving DecidableEq, Repr

/-- A byte that `Permission::parse` accepts. -/
def isPermissionByte (character : Char) : Bool :=
  ('a' ≤ character && character ≤ 'z') ||
    ('0' ≤ character && character ≤ '9') ||
    character == '.' || character == '_' || character == '-'

/-- `Permission::parse`, of the text of a permission. -/
def Permission.parse (value : String) : Except AuthorizationError String :=
  if value.isEmpty || decide (128 < value.utf8ByteSize) ||
      !containsText value "." || !value.toList.all isPermissionByte then
    .error .invalidPermission
  else
    .ok value

private theorem Permission.parse_eq_ok {value permission : String}
    (parsed : Permission.parse value = .ok permission) :
    permission = value ∧ value.isEmpty = false ∧
      value.toList.all isPermissionByte = true := by
  rw [Permission.parse] at parsed
  split_ifs at parsed with refused
  simp only [Bool.or_eq_true, not_or, Bool.not_eq_true,
    Bool.not_eq_false'] at refused
  exact ⟨(Except.ok.inj parsed).symm, refused.1.1.1, refused.2⟩

private theorem not_whiteSpace_of_isPermissionByte {character : Char}
    (accepted : isPermissionByte character = true) :
    isWhiteSpace character = false := by
  rw [Bool.eq_false_iff]
  intro whiteSpace
  simp only [isPermissionByte, isWhiteSpace, Bool.or_eq_true,
    Bool.and_eq_true, decide_eq_true_eq, beq_iff_eq, le_iff_toNat,
    ← Char.toNat_inj, Char.reduceToNat] at accepted whiteSpace
  omega

/-- What is parsed as a permission is not blank. -/
theorem Permission.notBlank_of_parse {value permission : String}
    (parsed : Permission.parse value = .ok permission) :
    isBlank value = false := by
  rcases Permission.parse_eq_ok parsed with ⟨_, notEmpty, accepted⟩
  rw [Bool.eq_false_iff]
  intro blank
  have spaces := isBlank_iff.mp blank
  rcases List.exists_mem_of_ne_nil value.toList (by
    simpa [String.isEmpty_iff, String.toList_eq_nil_iff] using notEmpty) with
    ⟨first, isFirst⟩
  have noSpace := not_whiteSpace_of_isPermissionByte
    (List.all_eq_true.mp accepted first isFirst)
  rw [spaces first isFirst] at noSpace
  cases noSpace

/-- `AuthorizationContext::authorize`, of the grants of a context. -/
def authorize (grants : List PermissionGrant) (request : AuthorizationRequest) :
    Except AuthorizationError Unit :=
  let allowed := grants.any fun grant =>
    decide (grant.permission = request.permission) &&
      grant.scope.contains request.scope
  if allowed then
    .ok ()
  else
    .error .denied

theorem authorize_eq_ok_iff {grants : List PermissionGrant}
    {request : AuthorizationRequest} :
    authorize grants request = .ok () ↔
      ∃ grant ∈ grants, grant.permission = request.permission ∧
        grant.scope.contains request.scope = true := by
  simp [authorize]

end NetworkManager.Security.Rbac
